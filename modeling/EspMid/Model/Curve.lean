import EspMid.Model.GeneratorTable
import EspMid.Model.Projective

/-! # The curve's parameters

`vendor/p256/src/arithmetic.rs`. -/

namespace EspMid.Model.Curve

open EspMid.Model.BaseField EspMid.Model.PointArithmetic EspMid.P256.Field

instance : PrimeField FieldElement where
  double := FieldElement.double
  square := FieldElement.square
  ofU64 := FieldElement.fromU64

/-- `a = -3`. -/
def EQUATION_A : FieldElement := (FieldElement.fromU64 3).neg

/-- The number of `b`. -/
def B : ℕ := 0x5ac635d8aa3a93e7b3ebbd55769886bc651d06b0cc53b0f63bce3c3e27d2604b

theorem B_lt : B < p := by decide

/-- The constant of the curve. -/
def EQUATION_B : FieldElement := FieldElement.fromHex B B_lt

/-- The numbers of the base point. -/
def G : ℕ × ℕ :=
  (0x6b17d1f2e12c4247f8bce6e563a440f277037d812deb33a0f4a13945d898c296,
    0x4fe342e2fe1a7f9b8ee7eb4a7c0f9e162bce33576b315ececbb6406837bf51f5)

theorem G_lt : G.1 < p ∧ G.2 < p := by decide

/-- Base point of P-256. -/
def GENERATOR : FieldElement × FieldElement :=
  (FieldElement.fromHex G.1 G_lt.1, FieldElement.fromHex G.2 G_lt.2)

/-- The parameters of P-256. -/
def NistP256 : PrimeCurveParams FieldElement where
  equationA := EQUATION_A
  equationB := EQUATION_B
  generator := GENERATOR
  pointArithmetic := .aIsMinusThree
  generatorTable := some GeneratorTable.GENERATOR_TABLE

end EspMid.Model.Curve
