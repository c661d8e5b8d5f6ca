import EspMid.P256.Points
import Mathlib.Algebra.Module.ZMod
import Mathlib.GroupTheory.Perm.Cycle.Type

/-! # The group of the curve

The points of the curve are a group of the prime order `n` (`card_point`). The generator's order
divides the number of points; a point is told by its abscissa and the parity of its ordinate, so
that there are fewer than `3 n` of them (`compress_injective`); and there are not `2 n`, as no point has
order two. So a scalar acts on the points by its residue. -/

namespace EspMid.P256.Group

open EspMid.Lib.Weierstrass EspMid.Model.Curve EspMid.P256.Curve EspMid.P256.Field
open EspMid.P256.Primes

/-! ### The number of points -/

/-- An odd number of the two least of `y` and `-y`. -/
theorem val_neg_odd {y : ZMod p} (hy : y ≠ 0) : ((-y).val % 2 = 1) ↔ ¬ y.val % 2 = 1 := by
  have hpos : 0 < y.val := Nat.pos_of_ne_zero fun h => hy ((ZMod.val_eq_zero y).mp h)
  have hlt := ZMod.val_lt y
  have hodd : p % 2 = 1 := by decide
  have : NeZero y := ⟨hy⟩
  rw [ZMod.val_neg_of_ne_zero]
  omega

/-- A point's abscissa and the parity of its ordinate. -/
def compress : Point → Option (ZMod p × Bool)
  | .zero => none
  | .some x y _ => some (x, decide (y.val % 2 = 1))

theorem compress_injective : Function.Injective compress := by
  intro Q Q' h
  cases Q with
  | zero =>
    cases Q' with
    | zero => rfl
    | some x y hxy => cases h
  | some x y hxy =>
    cases Q' with
    | zero => cases h
    | some x' y' hxy' =>
      simp only [compress, Option.some.injEq, Prod.mk.injEq, decide_eq_decide] at h
      obtain ⟨rfl, hparity⟩ := h
      obtain rfl | hneg := WeierstrassCurve.Affine.Y_eq_of_X_eq hxy.1 hxy'.1 rfl
      · rfl
      · rw [negY_eq] at hneg
        rw [hneg, val_neg_odd (noTwoTorsion.y_ne_zero hxy'.1)] at hparity
        exact absurd hparity (by tauto)

instance : Finite Point := Finite.of_injective compress compress_injective

theorem card_point_le : Nat.card Point ≤ 2 * p + 1 := by
  have h := Nat.card_le_card_of_injective compress compress_injective
  have hbool : Nat.card Bool = 2 := by rw [Nat.card_eq_fintype_card, Fintype.card_bool]
  rwa [Finite.card_option, Nat.card_prod, Nat.card_zmod, hbool, mul_comm p 2] at h

/-- No point has order two. -/
theorem addOrderOf_ne_two (Q : Point) : addOrderOf Q ≠ 2 := by
  intro h
  have htwo : 2 • Q = 0 := h ▸ addOrderOf_nsmul_eq_zero Q
  cases Q with
  | zero =>
    rw [← WeierstrassCurve.Affine.Point.zero_def, addOrderOf_zero] at h
    exact absurd h (by decide)
  | some x y hxy =>
    rw [two_nsmul, add_eq_zero_iff_eq_neg, WeierstrassCurve.Affine.Point.neg_some,
      WeierstrassCurve.Affine.Point.some.injEq] at htwo
    exact noTwoTorsion.ne_negY hxy.1 htwo.2

/-- **The number of points.** -/
theorem card_point : Nat.card Point = n := by
  obtain ⟨m, hm⟩ : n ∣ Nat.card Point := order_generator ▸ addOrderOf_dvd_natCard generator
  have hpos : 0 < Nat.card Point := Nat.card_pos
  have hle := card_point_le
  have hbound : 2 * p + 1 < n * 3 := by decide
  have hlt : m < 3 := Nat.lt_of_mul_lt_mul_left (hm ▸ hle.trans_lt hbound)
  have h0 : m ≠ 0 := by
    rintro rfl
    omega
  have h2 : m ≠ 2 := by
    rintro rfl
    obtain ⟨Q, hQ⟩ := exists_prime_addOrderOf_dvd_card' 2 (G := Point) (hm ▸ Dvd.intro_left n rfl)
    exact addOrderOf_ne_two Q hQ
  obtain rfl : m = 1 := by omega
  rw [hm, mul_one]

theorem nsmul_n (Q : Point) : n • Q = 0 := card_point ▸ card_nsmul_eq_zero'

/-- The scalars act by their residues. -/
noncomputable instance : Module (ZMod n) Point := AddCommGroup.zmodModule nsmul_n

theorem cast_smul (k : ℕ) (Q : Point) : (k : ZMod n) • Q = k • Q := Nat.cast_smul_eq_nsmul _ k Q

end EspMid.P256.Group
