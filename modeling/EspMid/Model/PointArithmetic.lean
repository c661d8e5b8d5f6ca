import Mathlib.Data.List.Basic

/-! # Point arithmetic

`vendor/primeorder/src/point_arithmetic.rs`, over any field elements with the operations the crate
asks of them. The comments with the steps' numbers are the source's. -/

namespace EspMid.Model.PointArithmetic

/-- What the curve crate asks of a field element. -/
class PrimeField (K : Type) extends Zero K, One K, Add K, Sub K, Mul K, Neg K where
  double : K → K
  square : K → K
  ofU64 : UInt64 → K

export PrimeField (double square ofU64)

/-- Which formulas a curve uses. -/
inductive Equation
  | aIsGeneric
  | aIsMinusThree

/-- A generator's table: row `i` holds the multiples of `32^i G`. -/
abbrev GeneratorTable (K : Type) := List (List (K × K))

/-- The parameters of a curve. -/
structure PrimeCurveParams (K : Type) where
  equationA : K
  equationB : K
  generator : K × K
  pointArithmetic : Equation
  generatorTable : Option (GeneratorTable K)

/-- A point in projective coordinates. -/
structure ProjectivePoint (K : Type) where
  x : K
  y : K
  z : K

/-- A point in affine coordinates. -/
structure AffinePoint (K : Type) where
  x : K
  y : K
  infinity : Bool
  deriving DecidableEq

variable {K : Type} [PrimeField K] (C : PrimeCurveParams K)

/-! ### Any `a` -/

/-- Complete addition, algorithm 1. -/
def addGeneric (lhs rhs : ProjectivePoint K) : ProjectivePoint K :=
  let b3 := ofU64 3 * C.equationB
  let t0 := lhs.x * rhs.x -- 1
  let t1 := lhs.y * rhs.y -- 2
  let t2 := lhs.z * rhs.z -- 3
  let t3 := lhs.x + lhs.y -- 4
  let t4 := rhs.x + rhs.y -- 5
  let t3 := t3 * t4 -- 6
  let t4 := t0 + t1 -- 7
  let t3 := t3 - t4 -- 8
  let t4 := lhs.x + lhs.z -- 9
  let t5 := rhs.x + rhs.z -- 10
  let t4 := t4 * t5 -- 11
  let t5 := t0 + t2 -- 12
  let t4 := t4 - t5 -- 13
  let t5 := lhs.y + lhs.z -- 14
  let x3 := rhs.y + rhs.z -- 15
  let t5 := t5 * x3 -- 16
  let x3 := t1 + t2 -- 17
  let t5 := t5 - x3 -- 18
  let z3 := C.equationA * t4 -- 19
  let x3 := b3 * t2 -- 20
  let z3 := x3 + z3 -- 21
  let x3 := t1 - z3 -- 22
  let z3 := t1 + z3 -- 23
  let y3 := x3 * z3 -- 24
  let t1 := t0 + t0 -- 25
  let t1 := t1 + t0 -- 26
  let t2 := C.equationA * t2 -- 27
  let t4 := b3 * t4 -- 28
  let t1 := t1 + t2 -- 29
  let t2 := t0 - t2 -- 30
  let t2 := C.equationA * t2 -- 31
  let t4 := t4 + t2 -- 32
  let t0 := t1 * t4 -- 33
  let y3 := y3 + t0 -- 34
  let t0 := t5 * t4 -- 35
  let x3 := t3 * x3 -- 36
  let x3 := x3 - t0 -- 37
  let t0 := t3 * t1 -- 38
  let z3 := t5 * z3 -- 39
  let z3 := z3 + t0 -- 40
  ⟨x3, y3, z3⟩

/-- Complete mixed addition, algorithm 2. -/
def addMixedGeneric (lhs : ProjectivePoint K) (rhs : AffinePoint K) : ProjectivePoint K :=
  let b3 := C.equationB * ofU64 3
  let t0 := lhs.x * rhs.x -- 1
  let t1 := lhs.y * rhs.y -- 2
  let t3 := rhs.x + rhs.y -- 3
  let t4 := lhs.x + lhs.y -- 4
  let t3 := t3 * t4 -- 5
  let t4 := t0 + t1 -- 6
  let t3 := t3 - t4 -- 7
  let t4 := rhs.x * lhs.z -- 8
  let t4 := t4 + lhs.x -- 9
  let t5 := rhs.y * lhs.z -- 10
  let t5 := t5 + lhs.y -- 11
  let z3 := C.equationA * t4 -- 12
  let x3 := b3 * lhs.z -- 13
  let z3 := x3 + z3 -- 14
  let x3 := t1 - z3 -- 15
  let z3 := t1 + z3 -- 16
  let y3 := x3 * z3 -- 17
  let t1 := t0 + t0 -- 18
  let t1 := t1 + t0 -- 19
  let t2 := C.equationA * lhs.z -- 20
  let t4 := b3 * t4 -- 21
  let t1 := t1 + t2 -- 22
  let t2 := t0 - t2 -- 23
  let t2 := C.equationA * t2 -- 24
  let t4 := t4 + t2 -- 25
  let t0 := t1 * t4 -- 26
  let y3 := y3 + t0 -- 27
  let t0 := t5 * t4 -- 28
  let x3 := t3 * x3 -- 29
  let x3 := x3 - t0 -- 30
  let t0 := t3 * t1 -- 31
  let z3 := t5 * z3 -- 32
  let z3 := z3 + t0 -- 33
  if rhs.infinity then lhs else ⟨x3, y3, z3⟩

/-- Point doubling, algorithm 3. -/
def doubleGeneric (point : ProjectivePoint K) : ProjectivePoint K :=
  let b3 := C.equationB * ofU64 3
  let t0 := point.x * point.x -- 1
  let t1 := point.y * point.y -- 2
  let t2 := point.z * point.z -- 3
  let t3 := point.x * point.y -- 4
  let t3 := t3 + t3 -- 5
  let z3 := point.x * point.z -- 6
  let z3 := z3 + z3 -- 7
  let x3 := C.equationA * z3 -- 8
  let y3 := b3 * t2 -- 9
  let y3 := x3 + y3 -- 10
  let x3 := t1 - y3 -- 11
  let y3 := t1 + y3 -- 12
  let y3 := x3 * y3 -- 13
  let x3 := t3 * x3 -- 14
  let z3 := b3 * z3 -- 15
  let t2 := C.equationA * t2 -- 16
  let t3 := t0 - t2 -- 17
  let t3 := C.equationA * t3 -- 18
  let t3 := t3 + z3 -- 19
  let z3 := t0 + t0 -- 20
  let t0 := z3 + t0 -- 21
  let t0 := t0 + t2 -- 22
  let t0 := t0 * t3 -- 23
  let y3 := y3 + t0 -- 24
  let t2 := point.y * point.z -- 25
  let t2 := t2 + t2 -- 26
  let t0 := t2 * t3 -- 27
  let x3 := x3 - t0 -- 28
  let z3 := t2 * t1 -- 29
  let z3 := z3 + z3 -- 30
  let z3 := z3 + z3 -- 31
  ⟨x3, y3, z3⟩

/-! ### `a = -3` -/

/-- Complete addition, algorithm 4. -/
def addMinusThree (lhs rhs : ProjectivePoint K) : ProjectivePoint K :=
  let xx := lhs.x * rhs.x -- 1
  let yy := lhs.y * rhs.y -- 2
  let zz := lhs.z * rhs.z -- 3
  let xyPairs := ((lhs.x + lhs.y) * (rhs.x + rhs.y)) - (xx + yy) -- 4, 5, 6, 7, 8
  let yzPairs := ((lhs.y + lhs.z) * (rhs.y + rhs.z)) - (yy + zz) -- 9, 10, 11, 12, 13
  let xzPairs := ((lhs.x + lhs.z) * (rhs.x + rhs.z)) - (xx + zz) -- 14, 15, 16, 17, 18
  let bzzPart := xzPairs - (C.equationB * zz) -- 19, 20
  let bzz3Part := double bzzPart + bzzPart -- 21, 22
  let yyMBzz3 := yy - bzz3Part -- 23
  let yyPBzz3 := yy + bzz3Part -- 24
  let zz3 := double zz + zz -- 26, 27
  let bxzPart := (C.equationB * xzPairs) - (zz3 + xx) -- 25, 28, 29
  let bxz3Part := double bxzPart + bxzPart -- 30, 31
  let xx3MZz3 := double xx + xx - zz3 -- 32, 33, 34
  { x := (yyPBzz3 * xyPairs) - (yzPairs * bxz3Part) -- 35, 39, 40
    y := (yyPBzz3 * yyMBzz3) + (xx3MZz3 * bxz3Part) -- 36, 37, 38
    z := (yyMBzz3 * yzPairs) + (xyPairs * xx3MZz3) } -- 41, 42, 43

/-- Complete mixed addition, algorithm 5. -/
def addMixedMinusThree (lhs : ProjectivePoint K) (rhs : AffinePoint K) : ProjectivePoint K :=
  let xx := lhs.x * rhs.x -- 1
  let yy := lhs.y * rhs.y -- 2
  let xyPairs := ((lhs.x + lhs.y) * (rhs.x + rhs.y)) - (xx + yy) -- 3, 4, 5, 6, 7
  let yzPairs := (rhs.y * lhs.z) + lhs.y -- 8, 9 (t4)
  let xzPairs := (rhs.x * lhs.z) + lhs.x -- 10, 11 (y3)
  let bzPart := xzPairs - (C.equationB * lhs.z) -- 12, 13
  let bz3Part := double bzPart + bzPart -- 14, 15
  let yyMBzz3 := yy - bz3Part -- 16
  let yyPBzz3 := yy + bz3Part -- 17
  let z3 := double lhs.z + lhs.z -- 19, 20
  let bxzPart := (C.equationB * xzPairs) - (z3 + xx) -- 18, 21, 22
  let bxz3Part := double bxzPart + bxzPart -- 23, 24
  let xx3MZz3 := double xx + xx - z3 -- 25, 26, 27
  if rhs.infinity then lhs
  else
    { x := (yyPBzz3 * xyPairs) - (yzPairs * bxz3Part) -- 28, 32, 33
      y := (yyPBzz3 * yyMBzz3) + (xx3MZz3 * bxz3Part) -- 29, 30, 31
      z := (yyMBzz3 * yzPairs) + (xyPairs * xx3MZz3) } -- 34, 35, 36

/-- Point doubling, algorithm 6. -/
def doubleMinusThree (point : ProjectivePoint K) : ProjectivePoint K :=
  let xx := square point.x -- 1
  let yy := square point.y -- 2
  let zz := square point.z -- 3
  let xy2 := double (point.x * point.y) -- 4, 5
  let xz2 := double (point.x * point.z) -- 6, 7
  let bzzPart := (C.equationB * zz) - xz2 -- 8, 9
  let bzz3Part := double bzzPart + bzzPart -- 10, 11
  let yyMBzz3 := yy - bzz3Part -- 12
  let yyPBzz3 := yy + bzz3Part -- 13
  let yFrag := yyPBzz3 * yyMBzz3 -- 14
  let xFrag := yyMBzz3 * xy2 -- 15
  let zz3 := double zz + zz -- 16, 17
  let bxz2Part := (C.equationB * xz2) - (zz3 + xx) -- 18, 19, 20
  let bxz6Part := double bxz2Part + bxz2Part -- 21, 22
  let xx3MZz3 := double xx + xx - zz3 -- 23, 24, 25
  let y := yFrag + (xx3MZz3 * bxz6Part) -- 26, 27
  let yz2 := double (point.y * point.z) -- 28, 29
  let x := xFrag - (bxz6Part * yz2) -- 30, 31
  let z := double (double (yz2 * yy)) -- 32, 33, 34
  ⟨x, y, z⟩

/-! ### The curve's formulas -/

/-- Complete addition, for `a = -3`. -/
def add (lhs rhs : ProjectivePoint K) : ProjectivePoint K :=
  match C.pointArithmetic with
  | .aIsGeneric => addGeneric C lhs rhs
  | .aIsMinusThree => addMinusThree C lhs rhs

/-- Complete mixed addition. -/
def addMixed (lhs : ProjectivePoint K) (rhs : AffinePoint K) : ProjectivePoint K :=
  match C.pointArithmetic with
  | .aIsGeneric => addMixedGeneric C lhs rhs
  | .aIsMinusThree => addMixedMinusThree C lhs rhs

/-- Exception-free doubling. -/
def doublePoint (point : ProjectivePoint K) : ProjectivePoint K :=
  match C.pointArithmetic with
  | .aIsGeneric => doubleGeneric C point
  | .aIsMinusThree => doubleMinusThree C point

end EspMid.Model.PointArithmetic
