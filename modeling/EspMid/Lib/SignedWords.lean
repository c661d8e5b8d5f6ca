import EspMid.Lib.Words
import Mathlib.Algebra.Order.Ring.Abs
import Mathlib.Data.Int.ModEq

/-! # Signed words

Words of 32 and 64 bits read as signed integers. Where a result fits, the operations on words are
those on integers (`Int64.toInt_add`, `Int64.toInt_mul`); a word is split into its low `30` bits and
an arithmetic shift without loss (`low_add_shift`); and a mask of a sign bit chooses
(`toInt_and_sign`). -/

namespace EspMid.Lib.SignedWords

open EspMid.Lib.Limbs EspMid.Lib.Words

/-- The number of signed limbs of 30 bits, the low limb first. -/
def toInt (xs : List Int32) : ℤ := value (2 ^ 30) Int32.toInt xs

theorem toInt_cons (x : Int32) (xs : List Int32) : toInt (x :: xs) = x.toInt + 2 ^ 30 * toInt xs :=
  rfl

theorem toInt_append (xs ys : List Int32) :
    toInt (xs ++ ys) = toInt xs + (2 ^ 30) ^ xs.length * toInt ys :=
  value_append _ _ xs ys

/-! ### Results that fit -/

theorem bmod_of_fits {x : ℤ} {k : ℕ} (hlo : -2 ^ k ≤ x) (hhi : x < 2 ^ k) :
    x.bmod (2 ^ (k + 1)) = x := by
  have hpow : (2 : ℤ) ^ (k + 1) = 2 * 2 ^ k := by rw [pow_succ, mul_comm]
  refine Int.bmod_eq_of_le ?_ ?_
  · push_cast
    omega
  · push_cast
    omega

theorem bound32 (x : Int32) : -2 ^ 31 ≤ x.toInt ∧ x.toInt < 2 ^ 31 :=
  ⟨x.le_toInt, x.toInt_lt⟩

theorem add32 {x y : Int32} (hlo : -2 ^ 31 ≤ x.toInt + y.toInt) (hhi : x.toInt + y.toInt < 2 ^ 31) :
    (x + y).toInt = x.toInt + y.toInt := by
  rw [Int32.toInt_add, bmod_of_fits hlo hhi]

theorem sub32 {x y : Int32} (hlo : -2 ^ 31 ≤ x.toInt - y.toInt) (hhi : x.toInt - y.toInt < 2 ^ 31) :
    (x - y).toInt = x.toInt - y.toInt := by
  rw [Int32.toInt_sub, bmod_of_fits hlo hhi]

theorem add64 {x y : Int64} (hlo : -2 ^ 63 ≤ x.toInt + y.toInt) (hhi : x.toInt + y.toInt < 2 ^ 63) :
    (x + y).toInt = x.toInt + y.toInt := by
  rw [Int64.toInt_add, bmod_of_fits hlo hhi]

theorem mul64 (x y : Int32) : (x.toInt64 * y.toInt64).toInt = x.toInt * y.toInt := by
  have hx := bound32 x
  have hy := bound32 y
  have habs : |x.toInt * y.toInt| ≤ 2 ^ 31 * 2 ^ 31 := by
    rw [abs_mul]
    exact mul_le_mul (abs_le.mpr ⟨hx.1, hx.2.le⟩) (abs_le.mpr ⟨hy.1, hy.2.le⟩) (abs_nonneg _)
      (by norm_num)
  rw [abs_le] at habs
  rw [Int64.toInt_mul, Int32.toInt_toInt64, Int32.toInt_toInt64, bmod_of_fits] <;> omega

theorem narrow {x : Int64} (hlo : -2 ^ 31 ≤ x.toInt) (hhi : x.toInt < 2 ^ 31) :
    x.toInt32.toInt = x.toInt := by
  rw [Int64.toInt_toInt32, bmod_of_fits hlo hhi]

/-! ### The low 30 bits and the rest -/

/-- Thirty ones. -/
def mask30 : Int32 := 0x3FFFFFFF

theorem and_mask30 (x : UInt32) : (x &&& mask30.toUInt32).toNat = x.toNat % 2 ^ 30 := by
  rw [UInt32.toNat_and, show mask30.toUInt32.toNat = 2 ^ 30 - 1 from rfl,
    Nat.and_two_pow_sub_one_eq_mod]

theorem toInt_toInt32 {x : UInt32} (h : x.toNat < 2 ^ 31) : x.toInt32.toInt = x.toNat := by
  change x.toBitVec.toInt = _
  rw [BitVec.toInt_eq_toNat_of_lt (by simpa using by omega)]
  rfl

theorem toUInt32_modEq (x : Int32) : (x.toUInt32.toNat : ℤ) ≡ x.toInt [ZMOD 2 ^ 32] := by
  have h : x.toInt = (x.toUInt32.toNat : ℤ).bmod (2 ^ 32) := BitVec.toInt_eq_toNat_bmod _
  rw [h]
  exact (Int.bmod_emod).symm

theorem toInt_and_mask30 (x : Int32) : (x &&& mask30).toInt = x.toInt % 2 ^ 30 := by
  have hword : x &&& mask30 = (x.toUInt32 &&& mask30.toUInt32).toInt32 := rfl
  have hlt : (x.toUInt32 &&& mask30.toUInt32).toNat < 2 ^ 31 := by
    rw [and_mask30]
    omega
  have hmod : (x.toUInt32.toNat : ℤ) % 2 ^ 30 = x.toInt % 2 ^ 30 :=
    (toUInt32_modEq x).of_dvd (by norm_num)
  rw [hword, toInt_toInt32 hlt, and_mask30]
  push_cast
  exact hmod

theorem toInt_low30 (x : Int64) : (x.toInt32 &&& mask30).toInt = x.toInt % 2 ^ 30 := by
  have hmod : x.toInt.bmod (2 ^ 32) ≡ x.toInt [ZMOD 2 ^ 32] := Int.bmod_emod
  rw [toInt_and_mask30, Int64.toInt_toInt32]
  exact hmod.of_dvd (by norm_num)

theorem shift64 (x : Int64) : (x >>> 30).toInt = x.toInt / 2 ^ 30 := by
  change (x.toBitVec.sshiftRight' ((30 : Int64).toBitVec.smod 64)).toInt = _
  rw [show (30 : Int64).toBitVec.smod 64 = 30#64 from rfl, BitVec.toInt_sshiftRight',
    Int.shiftRight_eq_div_pow]
  rfl

theorem shift32 (x : Int32) : (x >>> 30).toInt = x.toInt / 2 ^ 30 := by
  change (x.toBitVec.sshiftRight' ((30 : Int32).toBitVec.smod 32)).toInt = _
  rw [show (30 : Int32).toBitVec.smod 32 = 30#32 from rfl, BitVec.toInt_sshiftRight',
    Int.shiftRight_eq_div_pow]
  rfl

/-! ### The sign as a mask -/

theorem sign_mask (x : Int32) : x >>> 31 = if x.toInt < 0 then -1 else 0 := by
  have hx := bound32 x
  have h : (x >>> 31).toInt = x.toInt / 2 ^ 31 := by
    change (x.toBitVec.sshiftRight' ((31 : Int32).toBitVec.smod 32)).toInt = _
    rw [show (31 : Int32).toBitVec.smod 32 = 31#32 from rfl, BitVec.toInt_sshiftRight',
      Int.shiftRight_eq_div_pow]
    rfl
  rw [← Int32.toInt_inj, h]
  split
  · rw [show (-1 : Int32).toInt = -1 from rfl]
    omega
  · rw [show (0 : Int32).toInt = 0 from rfl]
    omega

theorem toInt_and_sign (x y : Int32) :
    (y &&& (x >>> 31)).toInt = if x.toInt < 0 then y.toInt else 0 := by
  rw [sign_mask]
  split
  · rw [Int32.and_neg_one]
  · rw [Int32.and_zero]
    rfl

theorem xor_sub_sign (x y : Int32) :
    (y ^^^ (x >>> 31)) - (x >>> 31) = if x.toInt < 0 then -y else y := by
  rw [sign_mask]
  split
  · rw [Int32.xor_neg_one, Int32.sub_neg, Int32.not_eq_neg_sub]
    exact Int32.sub_add_cancel _ _
  · rw [Int32.xor_zero, Int32.sub_zero]

end EspMid.Lib.SignedWords
