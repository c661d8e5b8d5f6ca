import EspMid.Lib.BigEndian
import EspMid.P256.Inversion
import EspMid.P256.Square

/-! # Field elements

`vendor/p256/src/arithmetic/field.rs` over `vendor/primeorder/src/field.rs`. An element holds
reduced limbs, in Montgomery form; a constant-time choice is `if`, and a `CtOption` is an `Option`.
The multiply and the square are the ones in Rust. -/

namespace EspMid.Model.BaseField

open EspMid.Lib EspMid.Lib.Words EspMid.Model.Field32 EspMid.P256 EspMid.P256.Field
open EspMid.P256.Square

instance (a : Fe) : Decidable (Reduced a) :=
  decidable_of_iff (a.length = 8 ∧ toNat a < p) ⟨fun h => ⟨h.1, h.2⟩, fun h => ⟨h.1, h.2⟩⟩

/-- An element of the field: `aR mod p`. -/
structure FieldElement where
  limbs : Fe
  reduced : Reduced limbs
  deriving DecidableEq

namespace FieldElement

theorem ext {x y : FieldElement} (h : x.limbs = y.limbs) : x = y := by
  obtain ⟨_, _⟩ := x
  obtain ⟨_, _⟩ := y
  obtain rfl := h
  rfl

theorem reduced_toMontgomery {w : Fe} (h : Reduced w) : Reduced (feToMontgomery w) :=
  (feMulRust_spec h rfl).1

theorem reduced_fromMontgomery {w : Fe} (h : Reduced w) : Reduced (feFromMontgomery w) :=
  (feMulRust_spec h rfl).1

/-- `from_uint_unchecked`, of words below the modulus. -/
def fromUintUnchecked (w : Fe) (h : Reduced w) : FieldElement :=
  ⟨feToMontgomery w, reduced_toMontgomery h⟩

theorem reduced_one : Reduced [1, 0, 0, 0, 0, 0, 0, 0] := ⟨rfl, by decide⟩

def ZERO : FieldElement := ⟨List.replicate 8 0, Reduced.zero⟩

def ONE : FieldElement := fromUintUnchecked [1, 0, 0, 0, 0, 0, 0, 0] reduced_one

/-- `from_hex`: the number of the digits, below the modulus. -/
def fromHex (h : ℕ) (hlt : h < p) : FieldElement := fromUintUnchecked (ofNat 8 h) (Reduced.ofNat hlt)

/-- The words of a `u64`. -/
def words64 (w : UInt64) : Fe := [w.toUInt32, (w >>> 32).toUInt32, 0, 0, 0, 0, 0, 0]

theorem toNat_words64 (w : UInt64) : toNat (words64 w) = w.toNat := by
  have h := low_add_high w
  have hzero : toNat [0, 0, 0, 0, 0, 0] = 0 := rfl
  rw [words64, toNat_cons, toNat_cons, hzero, Nat.mul_zero, Nat.add_zero]
  exact h

theorem reduced_words64 (w : UInt64) : Reduced (words64 w) :=
  ⟨rfl, by
    rw [toNat_words64]
    exact w.toNat_lt.trans (by decide)⟩

def fromU64 (w : UInt64) : FieldElement := fromUintUnchecked (words64 w) (reduced_words64 w)

/-- `from_uint`: words below the modulus only. -/
def fromUint (w : Fe) : Option FieldElement :=
  if h : Reduced w then some (fromUintUnchecked w h) else none

/-- `from_bytes`: a canonical big-endian representation. -/
def fromBytes (repr : List UInt8) : Option FieldElement :=
  fromUint (ofNat 8 (BigEndian.toNat repr))

/-- `to_canonical`: out of Montgomery form. -/
def toCanonical (x : FieldElement) : Fe := feFromMontgomery x.limbs

/-- `to_bytes`: the big-endian encoding. -/
def toBytes (x : FieldElement) : List UInt8 := BigEndian.ofNat 32 (toNat x.toCanonical)

/-- The parity of the canonical form. -/
def isOdd (x : FieldElement) : Bool := x.toCanonical.getD 0 0 &&& 1 == 1

/-- Whether an element is `ZERO`. -/
def isZero (x : FieldElement) : Bool := x == ZERO

/-- Addition. -/
def add (x y : FieldElement) : FieldElement := ⟨feAdd x.limbs y.limbs, x.reduced.add y.reduced⟩

def double (x : FieldElement) : FieldElement := x.add x

/-- Subtraction. -/
def sub (x y : FieldElement) : FieldElement := ⟨feSub x.limbs y.limbs, x.reduced.sub y.reduced⟩

/-- Multiplication, on Montgomery forms. -/
def multiply (x y : FieldElement) : FieldElement :=
  ⟨feMulRust x.limbs y.limbs, (feMulRust_spec x.reduced y.reduced.length).1⟩

/-- Negation. -/
def neg (x : FieldElement) : FieldElement := ⟨feNeg x.limbs, x.reduced.neg⟩

/-- Squaring. -/
def square (x : FieldElement) : FieldElement :=
  ⟨feSquareRust x.limbs, (feSquareRust_spec x.reduced).1⟩

instance : Zero FieldElement := ⟨ZERO⟩

instance : One FieldElement := ⟨ONE⟩

instance : Add FieldElement := ⟨add⟩

instance : Sub FieldElement := ⟨sub⟩

instance : Mul FieldElement := ⟨multiply⟩

instance : Neg FieldElement := ⟨neg⟩

/-! ### The inverse by divsteps -/

/-- The modulus for the inversion. -/
def MODINFO : SafeGcd.ModInfo := SafeGcd.ModInfo.new P

/-- `R^3 mod p`: a multiply by it turns the plain inverse of `aR` into `a^-1 R`. -/
def R_3 : Fe :=
  [0x0000000A, 0xFFFFFFFD, 0xFFFFFFF7, 0xFFFFFFED, 0xFFFFFFFC, 0x00000005, 0x00000001, 0x00000018]

theorem reduced_invert {w : Fe} (h : Reduced w) : Reduced (SafeGcd.invert w MODINFO) := by
  obtain ⟨hlen, hlt, -⟩ := Inversion.invert_spec (w := P) length_P h.length (by decide) (by decide)
    (toNat_P ▸ h.lt)
  exact ⟨hlen, toNat_P ▸ hlt⟩

/-- The inverse, zero for zero. -/
def invertUnchecked (x : FieldElement) : FieldElement :=
  ⟨feMulRust (SafeGcd.invert x.limbs MODINFO) R_3,
    (feMulRust_spec (reduced_invert x.reduced) rfl).1⟩

/-- The inverse of an element that is not zero. -/
def invert (x : FieldElement) : Option FieldElement :=
  if x.isZero then none else some x.invertUnchecked

/-! ### Powers by addition chains -/

/-- `self^(2^n)`. -/
def sqn (x : FieldElement) : ℕ → FieldElement
  | 0 => x
  | k + 1 => (sqn x k).square

/-- Fermat's inverse, `self^(p - 2)`. -/
def invertFermat (x : FieldElement) : FieldElement :=
  let t111 := x.multiply (x.multiply x.square).square
  let t111111 := t111.multiply (t111.sqn 3)
  let x15 := (((t111111.sqn 6).multiply t111111).sqn 3).multiply t111
  let x16 := x15.square.multiply x
  let i53 := ((x16.sqn 16).multiply x16).sqn 15
  let x47 := x15.multiply i53
  ((x47.multiply (((((i53.sqn 17).multiply x).sqn 143).multiply x47).sqn 47)).sqn 2).multiply x

/-- The power `self^((p + 1) / 4)` that is the root if there is one. -/
def sqrtCandidate (x : FieldElement) : FieldElement :=
  let t11 := x * x.square
  let t1111 := t11 * t11.sqn 2
  let t11111111 := t1111 * t1111.sqn 4
  let x16 := t11111111.sqn 8 * t11111111
  (((x16.sqn 16 * x16).sqn 32 * x).sqn 96 * x).sqn 94

/-- The square root, if there is one. -/
def sqrt (x : FieldElement) : Option FieldElement :=
  let sqrt := x.sqrtCandidate
  if sqrt * sqrt = x then some sqrt else none

end FieldElement

end EspMid.Model.BaseField
