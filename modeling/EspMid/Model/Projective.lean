import EspMid.Model.PointArithmetic
import Mathlib.Algebra.Group.Nat.Defs

/-! # Projective points

`vendor/primeorder/src/projective.rs`, for a curve whose scalars have 256 bits. A scalar is the
number of its `U256`, and `usize` has 32 bits. -/

namespace EspMid.Model.Projective

open EspMid.Model.PointArithmetic

/-- Bits of a table's window. -/
def TABLE_WINDOW : ℕ := 5

variable {K : Type} [PrimeField K]

namespace ProjectivePoint

/-- The point at infinity. -/
def IDENTITY : ProjectivePoint K := ⟨0, 1, 0⟩

/-- The base point. -/
def GENERATOR (C : PrimeCurveParams K) : ProjectivePoint K := ⟨C.generator.1, C.generator.2, 1⟩

end ProjectivePoint

open ProjectivePoint

variable (C : PrimeCurveParams K)

/-- `From<AffinePoint>`. -/
def ofAffine (A : AffinePoint K) : ProjectivePoint K := if A.infinity then IDENTITY else ⟨A.x, A.y, 1⟩

/-- The affine point at infinity. -/
def identityAffine : AffinePoint K := ⟨0, 0, true⟩

/-- `to_affine`, by the field's `invert`. -/
def toAffine (invert : K → Option K) (P : ProjectivePoint K) : AffinePoint K :=
  match invert P.z with
  | some zinv => ⟨P.x * zinv, P.y * zinv, false⟩
  | none => identityAffine

/-- `to_le_byte_array` of a `U256`. -/
def leBytes (k : ℕ) : List UInt8 := (List.range 32).map fun i => UInt8.ofNat (k / 256 ^ i)

/-- `Choice` of two small numbers being the same: `((a ^ b) - 1) >> 8` has its low bit set. -/
def sameChoice (a b : UInt32) : Bool := ((((a ^^^ b) - 1) >>> 8).toUInt8 &&& 1) == 1

/-! ### The generator's table -/

/-- Window `i`: bits `5 i .. 5 i + 4` of the little-endian scalar. -/
def window (k : List UInt8) (i : ℕ) : UInt8 :=
  let bit := TABLE_WINDOW * i
  let byte := bit >>> 3
  let shift := bit &&& 7
  let lo := (k.getD byte 0).toUInt16
  let hi := if byte + 1 < k.length then (k.getD (byte + 1) 0).toUInt16 else 0
  (((hi <<< 8) ||| lo) >>> UInt16.ofNat shift).toUInt8 &&& 31

/-- One when the digit is negative: `w` above 16. -/
def negBit (w : UInt8) : UInt8 := ((16 - w) >>> 7) &&& 1

/-- The digit's magnitude. -/
def magnitude (w : UInt8) : UInt8 := w ^^^ ((w ^^^ (32 - w)) &&& -(negBit w))

/-- The entry of the row for the magnitude, every entry read. -/
def lookup (row : List (K × K)) (abs : UInt8) : K × K :=
  (row.zipIdx.drop 1).foldl
    (fun xy entry =>
      if sameChoice abs.toUInt32 (UInt32.ofNat (entry.2 + 1)) then entry.1 else xy)
    (row.headD (0, 0))

/-- A window of the table's multiply: the sum so far and the carry into the window. -/
def tableStep (k : List UInt8) (s : ProjectivePoint K × UInt8) (row : List (K × K) × ℕ) :
    ProjectivePoint K × UInt8 :=
  let w := window k row.2 + s.2
  let abs := magnitude w
  let xy := lookup row.1 abs
  let y := if negBit w == 1 then -xy.2 else xy.2
  (addMixed C s.1 ⟨xy.1, y, sameChoice abs.toUInt32 0⟩, negBit w)

/-- `[k] G` from the curve's table. -/
def mulByTable (table : GeneratorTable K) (k : ℕ) : ProjectivePoint K :=
  (table.zipIdx.foldl (tableStep C (leBytes k)) (IDENTITY, 0)).1

/-! ### Any point -/

/-- The generator constant itself: a comparison of the representation. -/
def isGeneratorConstant [DecidableEq K] (P : ProjectivePoint K) : Bool :=
  P.x = C.generator.1 ∧ P.y = C.generator.2 ∧ P.z = 1

/-- The next of the multiples of `P`, each from the one before or the one half as high. -/
def multiplesStep (P : ProjectivePoint K) (pc : List (ProjectivePoint K)) (i : ℕ) :
    List (ProjectivePoint K) :=
  pc ++ [if i % 2 = 0 then doublePoint C (pc.getD (i / 2) IDENTITY)
    else add C (pc.getD (i - 1) IDENTITY) P]

/-- `pc`: the multiples of `P` up to 15. -/
def multiples (P : ProjectivePoint K) : List (ProjectivePoint K) :=
  (List.range' 2 14).foldl (multiplesStep C P) [IDENTITY, P]

/-- The four bits of the scalar from `pos` on. -/
def slot (k : List UInt8) (pos : ℕ) : UInt8 :=
  (k.getD (pos >>> 3) 0 >>> UInt8.ofNat (pos &&& 7)) &&& 0xF

/-- The multiple for a slot, every multiple read. -/
def select (pc : List (ProjectivePoint K)) (slot : UInt8) : ProjectivePoint K :=
  (List.range' 1 15).foldl
    (fun t i => if sameChoice slot.toUInt32 (UInt32.ofNat i) then pc.getD i IDENTITY else t)
    IDENTITY

/-- A window of the multiply: four doublings, but before the first, and an addition. -/
def mulStep (pc : List (ProjectivePoint K)) (k : List UInt8) (q : ProjectivePoint K) (j : ℕ) :
    ProjectivePoint K :=
  add C (doublePoint C (doublePoint C (doublePoint C (doublePoint C q)))) (select pc (slot k (4 * j)))

/-- The windowed multiply: `pos` from `BITS - 4` down to zero. -/
def mulWindowed (P : ProjectivePoint K) (k : ℕ) : ProjectivePoint K :=
  let pc := multiples C P
  let bytes := leBytes k
  (List.range 63).reverse.foldl (mulStep C pc bytes) (add C IDENTITY (select pc (slot bytes 252)))

/-- `[k] self`. -/
def mul [DecidableEq K] (P : ProjectivePoint K) (k : ℕ) : ProjectivePoint K :=
  match C.generatorTable with
  | some table => if isGeneratorConstant C P then mulByTable C table k else mulWindowed C P k
  | none => mulWindowed C P k

/-- `mul_by_generator`. -/
def mulByGenerator [DecidableEq K] (k : ℕ) : ProjectivePoint K :=
  match C.generatorTable with
  | some table => mulByTable C table k
  | none => mul C (GENERATOR C) k

end EspMid.Model.Projective
