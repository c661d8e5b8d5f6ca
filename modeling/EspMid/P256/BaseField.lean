import EspMid.Model.BaseField
import EspMid.P256.Primes

/-! # The elements are the field

An element stands for `a R^-1` (`toZMod`), and with the operations the code has the elements are the
field of `p` elements (`ringEquiv`). -/

namespace EspMid.P256.BaseField

open EspMid.Lib EspMid.Lib.Words EspMid.Model.Field32 EspMid.Model.BaseField
open EspMid.Model.BaseField.FieldElement EspMid.P256.Field EspMid.P256.Square
open EspMid.P256.Primes

/-! ### What an element stands for -/

/-- What Montgomery form multiplies by. -/
def R : ℕ := 2 ^ 256

theorem R_ne_zero : (R : ZMod p) ≠ 0 := by
  rw [ne_eq, ZMod.natCast_eq_zero_iff]
  exact fun h => absurd (prime_p.dvd_of_dvd_pow h) (by decide)

/-- The residue that limbs in Montgomery form stand for. -/
def residue (w : Fe) : ZMod p := (toNat w : ZMod p) * (R : ZMod p)⁻¹

/-- The residue that an element stands for. -/
def toZMod (x : FieldElement) : ZMod p := residue x.limbs

theorem residue_eq_iff {w : Fe} {r : ZMod p} :
    residue w = r ↔ (toNat w : ZMod p) = r * (R : ZMod p) := by
  unfold residue
  rw [← div_eq_mul_inv, div_eq_iff R_ne_zero]

/-- A product divided by `R` stands for the product. -/
theorem residue_of_modEq {w : Fe} {v : ℕ} (h : R * toNat w ≡ v [MOD p]) :
    residue w = (v : ZMod p) * (R : ZMod p)⁻¹ * (R : ZMod p)⁻¹ := by
  have hcast := (ZMod.natCast_eq_natCast_iff _ _ _).mpr h
  rw [Nat.cast_mul] at hcast
  rw [residue, ← hcast, mul_comm (R : ZMod p), mul_inv_cancel_right₀ R_ne_zero]

theorem residue_injective {v w : Fe} (hv : Reduced v) (hw : Reduced w)
    (h : residue v = residue w) : v = w := by
  have hcast := mul_right_cancel₀ (inv_ne_zero R_ne_zero) h
  have hmod := (ZMod.natCast_eq_natCast_iff' _ _ _).mp hcast
  rw [Nat.mod_eq_of_lt hv.lt, Nat.mod_eq_of_lt hw.lt] at hmod
  exact toNat_inj (hv.length.trans hw.length.symm) hmod

theorem toZMod_injective : Function.Injective toZMod := fun x y h =>
  FieldElement.ext (residue_injective x.reduced y.reduced h)

/-! ### The operations -/

variable (x y : FieldElement)

theorem toZMod_add : toZMod (x + y) = toZMod x + toZMod y := by
  change residue (feAdd x.limbs y.limbs) = residue x.limbs + residue y.limbs
  unfold residue
  rw [toNat_feAdd x.reduced y.reduced, ZMod.natCast_mod, Nat.cast_add, add_mul]

theorem toZMod_sub : toZMod (x - y) = toZMod x - toZMod y := by
  change residue (feSub x.limbs y.limbs) = residue x.limbs - residue y.limbs
  have hle : toNat y.limbs ≤ toNat x.limbs + p := y.reduced.lt.le.trans (Nat.le_add_left _ _)
  unfold residue
  rw [toNat_feSub x.reduced y.reduced, ZMod.natCast_mod, Nat.cast_sub hle, Nat.cast_add,
    ZMod.natCast_self, add_zero, sub_mul]

theorem toZMod_neg : toZMod (-x) = -toZMod x := by
  change residue (feNeg x.limbs) = -residue x.limbs
  unfold residue
  rw [toNat_feNeg x.reduced, ZMod.natCast_mod, Nat.cast_sub x.reduced.lt.le, ZMod.natCast_self,
    zero_sub, neg_mul]

theorem toZMod_mul : toZMod (x * y) = toZMod x * toZMod y := by
  have h := residue_of_modEq (feMulRust_spec x.reduced y.reduced.length).2
  change toZMod (x.multiply y) = _
  rw [toZMod, toZMod, toZMod, FieldElement.multiply, h, Nat.cast_mul]
  unfold residue
  ring

/-- **The square is the product of the element with itself**, limb for limb. -/
theorem square_eq_mul : x.square = x * x := by
  apply toZMod_injective
  have h := residue_of_modEq (feSquareRust_spec x.reduced).2
  rw [toZMod_mul]
  rw [toZMod, toZMod, FieldElement.square, h, Nat.cast_mul]
  unfold residue
  ring

theorem toZMod_square : toZMod x.square = toZMod x ^ 2 := by
  rw [square_eq_mul, toZMod_mul, pow_two]

theorem toZMod_double : toZMod x.double = 2 * toZMod x := by
  rw [two_mul]
  exact toZMod_add x x

theorem toZMod_zero : toZMod 0 = 0 := by
  change residue (List.replicate 8 0) = 0
  rw [residue, toNat_replicate_zero, Nat.cast_zero, zero_mul]

/-! ### Into and out of Montgomery form -/

theorem toNat_R_2 : toNat R_2 = R * R % p := by decide

/-- **An element made of words** stands for the number of the words. -/
theorem toZMod_fromUintUnchecked {w : Fe} (h : Reduced w) :
    toZMod (fromUintUnchecked w h) = (toNat w : ZMod p) := by
  have hmod := residue_of_modEq (feMulRust_spec h (show R_2.length = 8 from rfl)).2
  have hR : (toNat R_2 : ZMod p) = (R : ZMod p) * (R : ZMod p) := by
    rw [toNat_R_2, ZMod.natCast_mod, Nat.cast_mul]
  have hlimbs : (fromUintUnchecked w h).limbs = feMulRust w R_2 := by
    rw [fromUintUnchecked]
    dsimp only
    rw [feToMontgomery]
  rw [toZMod, hlimbs, hmod, Nat.cast_mul, hR, ← mul_assoc, mul_inv_cancel_right₀ R_ne_zero,
    mul_inv_cancel_right₀ R_ne_zero]

theorem toZMod_one : toZMod 1 = 1 := by
  change toZMod (fromUintUnchecked _ reduced_one) = 1
  rw [toZMod_fromUintUnchecked, show toNat [1, 0, 0, 0, 0, 0, 0, 0] = 1 from rfl, Nat.cast_one]

/-- **The canonical words** of an element are the least number of its residue. -/
theorem toNat_toCanonical : toNat x.toCanonical = (toZMod x).val := by
  obtain ⟨hred, hmod⟩ := feMulRust_spec (b := [1, 0, 0, 0, 0, 0, 0, 0]) x.reduced rfl
  have hcast : (toNat x.toCanonical : ZMod p) = toZMod x := by
    have h := (ZMod.natCast_eq_natCast_iff _ _ _).mpr hmod
    rw [show toNat [1, 0, 0, 0, 0, 0, 0, 0] = 1 from rfl, mul_one, Nat.cast_mul] at h
    change (toNat (feFromMontgomery x.limbs) : ZMod p) = residue x.limbs
    rw [residue, ← div_eq_mul_inv, eq_div_iff R_ne_zero, ← h, mul_comm]
    rfl
  rw [← hcast, ZMod.val_natCast]
  exact (Nat.mod_eq_of_lt hred.lt).symm

theorem toZMod_surjective : Function.Surjective toZMod := by
  intro r
  have hlt : r.val < p := ZMod.val_lt r
  have hval : toNat (ofNat 8 r.val) = r.val := toNat_ofNat_of_lt (hlt.trans p_lt)
  refine ⟨fromUintUnchecked (ofNat 8 r.val) ⟨length_ofNat 8 _, hval.symm ▸ hlt⟩, ?_⟩
  rw [toZMod_fromUintUnchecked, hval, ZMod.natCast_zmod_val]

/-- **The elements are the field of `p` elements.** -/
noncomputable def ringEquiv : FieldElement ≃+* ZMod p where
  toEquiv := Equiv.ofBijective toZMod ⟨toZMod_injective, toZMod_surjective⟩
  map_mul' := toZMod_mul
  map_add' := toZMod_add

/-! ### The two multiplies -/

/-- **The multiply by words** is the one reduced product divided by `R`. -/
theorem feMulRust_eq_iff {a b c : Fe} (ha : Reduced a) (hb : b.length = 8) :
    feMulRust a b = c ↔ Reduced c ∧ R * toNat c ≡ toNat a * toNat b [MOD p] := by
  obtain ⟨hred, hmod⟩ := feMulRust_spec ha hb
  refine ⟨fun h => h ▸ ⟨hred, hmod⟩, fun ⟨hc, h⟩ => ?_⟩
  refine residue_injective hred hc ?_
  rw [residue_of_modEq hmod, residue_of_modEq h]

theorem feMulRust_ones : Reduced (feMulRust [1, 0, 0, 0, 0, 0, 0, 0] [1, 0, 0, 0, 0, 0, 0, 0]) ∧
    R * toNat (feMulRust [1, 0, 0, 0, 0, 0, 0, 0] [1, 0, 0, 0, 0, 0, 0, 0]) ≡
      toNat [1, 0, 0, 0, 0, 0, 0, 0] * toNat [1, 0, 0, 0, 0, 0, 0, 0] [MOD p] :=
  (feMulRust_eq_iff ⟨rfl, by decide⟩ rfl).mp rfl

/-- **The square by words**, of half the products and the sparse words of the modulus, is the
multiply's. -/
theorem feSquareRust_eq_feMulRust {a : Fe} (ha : Reduced a) : feSquareRust a = feMulRust a a := by
  obtain ⟨hsq, hsqmod⟩ := feSquareRust_spec ha
  obtain ⟨hmul, hmulmod⟩ := feMulRust_spec ha ha.length
  refine residue_injective hsq hmul ?_
  rw [residue_of_modEq hsqmod, residue_of_modEq hmulmod]

theorem feSquareRust_eq_feMulRust_two : feSquareRust [2, 0, 0, 0, 0, 0, 0, 0] =
    feMulRust [2, 0, 0, 0, 0, 0, 0, 0] [2, 0, 0, 0, 0, 0, 0, 0] :=
  feSquareRust_eq_feMulRust ⟨rfl, by decide⟩

/-- **The operations of the elements** are those of the field of `p` elements. -/
theorem elements_are_field : Function.Bijective toZMod ∧ toZMod 0 = 0 ∧ toZMod 1 = 1 ∧
    ∀ x y : FieldElement, toZMod (x + y) = toZMod x + toZMod y ∧
      toZMod (x - y) = toZMod x - toZMod y ∧ toZMod (-x) = -toZMod x ∧
      toZMod (x * y) = toZMod x * toZMod y ∧ toZMod x.square = toZMod x * toZMod x ∧
      toZMod x.double = 2 * toZMod x ∧ toNat x.toCanonical = (toZMod x).val := by
  refine ⟨⟨toZMod_injective, toZMod_surjective⟩, toZMod_zero, toZMod_one, fun x y => ?_⟩
  refine ⟨toZMod_add x y, toZMod_sub x y, toZMod_neg x, toZMod_mul x y, ?_, ?_, ?_⟩
  · rw [square_eq_mul, toZMod_mul]
  · exact toZMod_double x
  · exact toNat_toCanonical x

end EspMid.P256.BaseField
