import EspMid.Lib.BigEndian
import EspMid.Lib.While
import EspMid.P256.Barrett
import EspMid.P256.Inversion

/-! # Scalars

`vendor/p256/src/arithmetic/scalar.rs`. A `U256` is its number: the operations of the big integers
themselves (`add_mod`, `sub_mod`, `mul_wide`, shifts, comparisons) are those of numbers, and the
reduction and the inversion, which go through the words, are given the words. A constant-time choice
is `if`, and a `CtOption` is an `Option`. -/

namespace EspMid.Model.ScalarField

open EspMid.Lib EspMid.Lib.Words EspMid.P256 EspMid.P256.Primes

theorem n_pos : 0 < n := by decide

theorem n_lt : n < 2 ^ 256 := by decide

/-- An element of the field modulo the order. -/
structure Scalar where
  val : ℕ
  lt : val < n
  deriving DecidableEq

/-- The words of a `U256`. -/
def words (v : ℕ) : List UInt32 := ofNat 8 v

theorem length_words (v : ℕ) : (words v).length = 8 := length_ofNat 8 v

theorem toNat_words {v : ℕ} (h : v < 2 ^ 256) : toNat (words v) = v :=
  toNat_ofNat_of_lt (h.trans_eq (by norm_num))

/-- The order for the inversion. -/
def MODINFO : SafeGcd.ModInfo := SafeGcd.ModInfo.new Scalar32.MODULUS

namespace Scalar

theorem ext {x y : Scalar} (h : x.val = y.val) : x = y := by
  obtain ⟨_, _⟩ := x
  obtain ⟨_, _⟩ := y
  obtain rfl := h
  rfl

def ZERO : Scalar := ⟨0, by decide⟩

def ONE : Scalar := ⟨1, by decide⟩

/-- `MODULUS / 2`. -/
def FRAC_MODULUS_2 : Scalar := ⟨n >>> 1, by decide⟩

def isZero (x : Scalar) : Bool := x == ZERO

def isOdd (x : Scalar) : Bool := x.val % 2 == 1

/-- Whether the least number is even. -/
def isEven (x : Scalar) : Bool := !x.isOdd

/-- Above half the order. -/
def isHigh (x : Scalar) : Bool := decide (FRAC_MODULUS_2.val < x.val)

/-- Addition, reduced once. -/
def add (x y : Scalar) : Scalar := ⟨(x.val + y.val) % n, Nat.mod_lt _ n_pos⟩

/-- Subtraction. -/
def sub (x y : Scalar) : Scalar := ⟨(x.val + n - y.val) % n, Nat.mod_lt _ n_pos⟩

/-- Negation. -/
def neg (x : Scalar) : Scalar := ZERO.sub x

theorem barrettReduce_lt (lo hi : ℕ) :
    toNat (Scalar32.barrettReduce (words lo) (words hi)) < n := by
  rw [(Barrett.toNat_barrettReduce (length_words lo) (length_words hi)).2]
  exact Nat.mod_lt _ n_pos

/-- The wide product, reduced. -/
def multiply (x y : Scalar) : Scalar :=
  let wide := x.val * y.val
  ⟨toNat (Scalar32.barrettReduce (words (wide % 2 ^ 256)) (words (wide / 2 ^ 256))),
    barrettReduce_lt _ _⟩

/-- Squaring. -/
def square (x : Scalar) : Scalar := x.multiply x

/-- `shr_vartime`. -/
def shrVartime (x : Scalar) (shift : ℕ) : Scalar :=
  ⟨x.val >>> shift, (Nat.shiftRight_le x.val shift).trans_lt x.lt⟩

instance : Zero Scalar := ⟨ZERO⟩

instance : One Scalar := ⟨ONE⟩

instance : Add Scalar := ⟨add⟩

instance : Sub Scalar := ⟨sub⟩

instance : Mul Scalar := ⟨multiply⟩

instance : Neg Scalar := ⟨neg⟩

/-! ### Reductions of any `U256` -/

theorem reduce_lt {w : ℕ} (hw : w < 2 ^ 256) : (if w < n then w else w - n) < n := by
  have : 2 ^ 256 < 2 * n := by decide
  split <;> omega

theorem reduceNonzero_lt {w : ℕ} (hw : w < 2 ^ 256) :
    (if w < n - 1 then w else w - (n - 1)) + 1 < n := by
  have : 2 ^ 256 < 2 * (n - 1) := by decide
  split <;> omega

/-- `w` less the order when that does not go below zero. -/
def reduce (w : ℕ) (hw : w < 2 ^ 256) : Scalar := ⟨if w < n then w else w - n, reduce_lt hw⟩

theorem toNat_bytes_lt (bytes : List.Vector UInt8 32) : BigEndian.toNat bytes.toList < 2 ^ 256 := by
  have h := BigEndian.toNat_lt bytes.toList
  rw [bytes.toList_length] at h
  exact h.trans_eq (by norm_num)

/-- `reduce_bytes`: of a big-endian number. -/
def reduceBytes (bytes : List.Vector UInt8 32) : Scalar :=
  reduce (BigEndian.toNat bytes.toList) (toNat_bytes_lt bytes)

/-- `w` less the order's predecessor when that does not go below zero, and one. -/
def reduceNonzero (w : ℕ) (hw : w < 2 ^ 256) : Scalar :=
  ⟨(if w < n - 1 then w else w - (n - 1)) + 1, reduceNonzero_lt hw⟩

/-! ### Powers -/

/-- A bit of the exponent, from the top: square, and multiply for a one. -/
def powBit (x : Scalar) (w : UInt64) (res : Scalar) (j : ℕ) : Scalar :=
  let res := res.square
  if (w >>> UInt64.ofNat j) &&& 1 == 1 then res.multiply x else res

/-- A word of the exponent. -/
def powWord (x : Scalar) (res : Scalar) (w : UInt64) : Scalar :=
  (List.range 64).reverse.foldl (powBit x w) res

/-- `pow_vartime`, of a little-endian exponent. -/
def powVartime (x : Scalar) (exp : List UInt64) : Scalar := exp.reverse.foldl (powWord x) ONE

/-- Fermat's inverse, `self^(n - 2)`. -/
def invertFermat (x : Scalar) : Scalar :=
  x.powVartime [0xF3B9CAC2FC63254F, 0xBCE6FAADA7179E84, 0xFFFFFFFFFFFFFFFF, 0xFFFFFFFF00000000]

/-! ### The inverse by divsteps -/

theorem invert_lt (x : Scalar) : toNat (SafeGcd.invert (words x.val) MODINFO) < n := by
  have hval := toNat_words (x.lt.trans n_lt)
  have h := Inversion.invert_spec (w := Scalar32.MODULUS) rfl (length_words x.val) (by decide)
    (by decide) (by rw [Barrett.toNat_MODULUS]; exact hval.trans_lt x.lt)
  rw [Barrett.toNat_MODULUS] at h
  exact h.2.1

/-- The inverse by divsteps, zero for zero. -/
def invertUnchecked (x : Scalar) : Scalar :=
  ⟨toNat (SafeGcd.invert (words x.val) MODINFO), x.invert_lt⟩

/-- The inverse of a scalar that is not zero. -/
def invert (x : Scalar) : Option Scalar := if x.isZero then none else some x.invertUnchecked

/-! ### Stein's algorithm -/

/-- `A >>= 1`, and the half of the order added for an odd one. -/
def half (a : Scalar) : Scalar :=
  let b := a.shrVartime 1
  if a.isOdd then (b.add FRAC_MODULUS_2).add ONE else b

/-- The loop that halves an even `u`, and `A` with it. -/
def halving (fuel : ℕ) (u : ℕ × Scalar) : Option (ℕ × Scalar) :=
  While.loop (fun u => u.1 % 2 == 0) (fun u => some (u.1 / 2, half u.2)) fuel u

/-- The variables of `invert_vartime`: `u` with `A`, and `v` with `C`. -/
structure Stein where
  u : ℕ × Scalar
  v : ℕ × Scalar

/-- A turn of the outer loop. -/
def steinBody (fuel : ℕ) (s : Stein) : Option Stein :=
  (halving fuel s.u).bind fun u =>
    (halving fuel s.v).bind fun v =>
      if v.1 ≤ u.1 then some ⟨((u.1 + n - v.1) % n, u.2.sub v.2), v⟩
      else some ⟨u, ((v.1 + n - u.1) % n, v.2.sub u.2)⟩

/-- `invert_vartime`, its loops bounded by `fuel` turns each. -/
def invertVartime (fuel : ℕ) (x : Scalar) : Option (Option Scalar) :=
  (While.loop (fun s => s.u.1 != 0) (steinBody fuel) fuel ⟨(x.val, ONE), (n, ZERO)⟩).map fun s =>
    if x.isZero then none else some s.v.2

end Scalar

end EspMid.Model.ScalarField
