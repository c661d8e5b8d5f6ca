import EspMid.P256.BaseField

/-! # Inverses and roots

The inverse by divsteps is the one of the field (`toZMod_invertUnchecked`), and so the one of Fermat's
chain. Each step of a chain holds a power of the element, and the exponents add up and double along it
(`Power`). Fermat's chain ends at `p - 2`, which is the inverse; the root's at `(p + 1) / 4`, which
is a root of every square since `p` is three modulo four. -/

namespace EspMid.P256.FieldPowers

open EspMid.Lib.Words EspMid.Model EspMid.Model.Field32 EspMid.Model.BaseField
open EspMid.Model.BaseField.FieldElement EspMid.P256.BaseField EspMid.P256.Field EspMid.P256.Primes

variable {x y z : FieldElement} {e f : ℕ}

/-! ### Chains -/

/-- `y` stands for a power of `x`. -/
def Power (x y : FieldElement) (e : ℕ) : Prop := toZMod y = toZMod x ^ e

theorem Power.self (x : FieldElement) : Power x x 1 := (pow_one _).symm

theorem Power.multiply (hy : Power x y e) (hz : Power x z f) : Power x (y.multiply z) (e + f) := by
  rw [Power, pow_add, ← hy, ← hz]
  exact toZMod_mul y z

theorem Power.square (hy : Power x y e) : Power x y.square (e * 2) := by
  rw [Power, pow_mul, ← hy, toZMod_square]

theorem Power.sqn (hy : Power x y e) (k : ℕ) : Power x (y.sqn k) (e * 2 ^ k) := by
  induction k with
  | zero =>
    rw [pow_zero, mul_one]
    exact hy
  | succ k ih =>
    rw [pow_succ, ← mul_assoc]
    exact ih.square

/-! ### The inverse -/

theorem invertFermat_power (x : FieldElement) : Power x x.invertFermat (p - 2) := by
  have h1 := Power.self x
  have t111 := h1.multiply (h1.multiply h1.square).square
  have t111111 := t111.multiply (t111.sqn 3)
  have x15 := (((t111111.sqn 6).multiply t111111).sqn 3).multiply t111
  have x16 := x15.square.multiply h1
  have i53 := ((x16.sqn 16).multiply x16).sqn 15
  have x47 := x15.multiply i53
  have h := ((x47.multiply (((((i53.sqn 17).multiply h1).sqn 143).multiply x47).sqn 47)).sqn
    2).multiply h1
  exact h

/-- **Fermat's chain inverts**, and takes zero to zero. -/
theorem toZMod_invertFermat (x : FieldElement) : toZMod x.invertFermat = (toZMod x)⁻¹ := by
  rw [invertFermat_power x]
  by_cases h0 : toZMod x = 0
  · rw [h0, inv_zero, zero_pow (by decide)]
  · refine eq_inv_of_mul_eq_one_left ?_
    rw [← pow_succ, show p - 2 + 1 = p - 1 by decide]
    exact ZMod.pow_card_sub_one_eq_one h0

/-! ### The inverse by divsteps -/

theorem toNat_R_3 : toNat R_3 = R * R * R % p := by decide

/-- **The inversion by divsteps inverts**, and takes zero to zero. -/
theorem toZMod_invertUnchecked (x : FieldElement) : toZMod x.invertUnchecked = (toZMod x)⁻¹ := by
  have hred := reduced_invert x.reduced
  obtain ⟨-, -, hinv, hzero⟩ := Inversion.invert_spec (w := P) length_P x.reduced.length (by decide)
    (by decide) (toNat_P ▸ x.reduced.lt)
  rw [toNat_P] at hinv
  change toNat (SafeGcd.invert x.limbs MODINFO) * toNat x.limbs ≡ _ [MOD p] at hinv
  change toNat x.limbs = 0 → toNat (SafeGcd.invert x.limbs MODINFO) = 0 at hzero
  have hmul := residue_of_modEq (feMulRust_spec hred (show R_3.length = 8 from rfl)).2
  have hR : (toNat R_3 : ZMod p) = (R : ZMod p) * (R : ZMod p) * (R : ZMod p) := by
    rw [toNat_R_3, ZMod.natCast_mod, Nat.cast_mul, Nat.cast_mul]
  have hlimbs : x.invertUnchecked.limbs = feMulRust (SafeGcd.invert x.limbs MODINFO) R_3 := by
    rw [invertUnchecked]
  -- `R ^ 3` over `R ^ 2` leaves `R`
  have hval : toZMod x.invertUnchecked =
      (toNat (SafeGcd.invert x.limbs MODINFO) : ZMod p) * (R : ZMod p) := by
    rw [toZMod, hlimbs, hmul, Nat.cast_mul, hR, ← mul_assoc, ← mul_assoc,
      mul_inv_cancel_right₀ R_ne_zero, mul_inv_cancel_right₀ R_ne_zero]
  have hx : (toNat x.limbs : ZMod p) = toZMod x * (R : ZMod p) := residue_eq_iff.mp rfl
  rw [hval]
  by_cases h0 : toZMod x = 0
  · have hlimbs0 : toNat x.limbs = 0 := by
      rw [h0, zero_mul, ZMod.natCast_eq_zero_iff] at hx
      exact Nat.eq_zero_of_dvd_of_lt hx x.reduced.lt
    rw [hzero hlimbs0, h0, inv_zero, Nat.cast_zero, zero_mul]
  · have hcop : Nat.gcd p (toNat x.limbs) = 1 := by
      refine (Nat.Prime.coprime_iff_not_dvd prime_p).mpr fun hdvd => h0 ?_
      have hcast := (ZMod.natCast_eq_zero_iff _ p).mpr hdvd
      rw [hx] at hcast
      exact (mul_eq_zero.mp hcast).resolve_right R_ne_zero
    rw [hcop] at hinv
    have hone := (ZMod.natCast_eq_natCast_iff _ _ _).mpr hinv
    rw [Nat.cast_mul, Nat.cast_one, hx] at hone
    refine eq_inv_of_mul_eq_one_left ?_
    rw [← hone]
    ring

/-- **The inversion by divsteps agrees with Fermat's chain**, limb for limb. -/
theorem invertUnchecked_eq_invertFermat (x : FieldElement) : x.invertUnchecked = x.invertFermat := by
  apply toZMod_injective
  rw [toZMod_invertUnchecked, toZMod_invertFermat]

/-! ### The root -/

theorem sqrtCandidate_power (x : FieldElement) : Power x x.sqrtCandidate ((p + 1) / 4) := by
  have h1 := Power.self x
  have t11 := h1.multiply h1.square
  have t1111 := t11.multiply (t11.sqn 2)
  have t11111111 := t1111.multiply (t1111.sqn 4)
  have x16 := (t11111111.sqn 8).multiply t11111111
  have h := ((((((x16.sqn 16).multiply x16).sqn 32).multiply h1).sqn 96).multiply h1).sqn 94
  exact h

/-- **The root is exact.** An answer is a root, and there is an answer for every square. -/
theorem sqrt_spec (x : FieldElement) :
    (∀ y, x.sqrt = some y → y * y = x) ∧ (x.sqrt.isSome ↔ IsSquare (toZMod x)) := by
  constructor
  · intro y hy
    unfold FieldElement.sqrt at hy
    simp only at hy
    split_ifs at hy with h
    obtain rfl := Option.some.inj hy
    exact h
  · have hroot : x.sqrt.isSome ↔ x.sqrtCandidate * x.sqrtCandidate = x := by
      unfold FieldElement.sqrt
      simp only
      split_ifs with h <;> simp [h]
    rw [hroot, ← toZMod_injective.eq_iff, toZMod_mul, sqrtCandidate_power x]
    constructor
    · exact fun h => ⟨_, h.symm⟩
    · -- the candidate of a square `r * r` is `r` or its negative
      rintro ⟨r, hr⟩
      rw [hr, ← pow_add]
      by_cases h0 : r = 0
      · rw [h0, mul_zero, zero_pow (by decide)]
      · have hp := ZMod.pow_card_sub_one_eq_one h0
        rw [← pow_two, ← pow_mul, show 2 * ((p + 1) / 4 + (p + 1) / 4) = p - 1 + 2 by decide,
          pow_add, hp, one_mul]

/-- **A square has its root** and nothing else has one. -/
theorem sqrt_isSome_iff (x : FieldElement) :
    (x.sqrt.isSome ↔ ∃ y : FieldElement, y * y = x) ∧ ∀ y, x.sqrt = some y → y * y = x := by
  obtain ⟨hroot, hsome⟩ := sqrt_spec x
  refine ⟨⟨fun h => ?_, fun ⟨y, hy⟩ => hsome.mpr ⟨toZMod y, ?_⟩⟩, hroot⟩
  · obtain ⟨y, hy⟩ := Option.isSome_iff_exists.mp h
    exact ⟨y, hroot y hy⟩
  · rw [← hy, toZMod_mul]

/-- **The inversions agree**: by divsteps, by Fermat's power, and with the answer for zero. -/
theorem field_inversions_agree (x : FieldElement) : x.invertUnchecked = x.invertFermat ∧
    (x = 0 → x.invert = none ∧ x.invertUnchecked = 0) ∧
    (x ≠ 0 → x.invert = some x.invertFermat ∧ x * x.invertFermat = 1) := by
  have hagree := invertUnchecked_eq_invertFermat x
  have hzero : x.isZero = true ↔ x = 0 := by
    rw [FieldElement.isZero, beq_iff_eq]
    rfl
  refine ⟨hagree, fun h => ⟨?_, ?_⟩, fun h => ⟨?_, ?_⟩⟩
  · rw [FieldElement.invert, if_pos (hzero.mpr h)]
  · apply toZMod_injective
    rw [toZMod_invertUnchecked, h, toZMod_zero, inv_zero]
  · rw [FieldElement.invert, if_neg (mt hzero.mp h), hagree]
  · apply toZMod_injective
    have hne : toZMod x ≠ 0 := fun h0 => h (toZMod_injective (h0.trans toZMod_zero.symm))
    rw [toZMod_mul, toZMod_invertFermat, mul_inv_cancel₀ hne, toZMod_one]

end EspMid.P256.FieldPowers
