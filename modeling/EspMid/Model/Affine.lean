import EspMid.Lib.BigEndian
import EspMid.Model.Core
import EspMid.Model.Curve

/-! # Affine points

`vendor/primeorder/src/affine.rs`. The SEC1 encoding itself is of another crate: what is used of it
are the constructor from coordinates and the view of an encoded point as one of four kinds. -/

namespace EspMid.Model.Affine

open EspMid.Lib EspMid.Model.BaseField EspMid.Model.Core EspMid.Model.Curve
open EspMid.Model.PointArithmetic EspMid.Model.Projective

/-- The bytes of a field element. -/
abbrev FieldBytes := Array8 32

/-- A field element's bytes, parity and root, as `PrimeField` of the field crate has them. -/
class ReprField (K : Type) extends PrimeField K where
  fromRepr : FieldBytes → Option K
  toRepr : K → FieldBytes
  isOdd : K → Bool
  sqrt : K → Option K

export ReprField (fromRepr toRepr isOdd sqrt)

theorem length_toBytes (x : FieldElement) : x.toBytes.length = 32 := BigEndian.length_ofNat 32 _

instance : ReprField FieldElement where
  fromRepr bytes := FieldElement.fromBytes bytes.toList
  toRepr x := ⟨x.toBytes, length_toBytes x⟩
  isOdd := FieldElement.isOdd
  sqrt := FieldElement.sqrt

/-- The kinds of encoded points. -/
inductive Coordinates
  | identity
  | compact (x : FieldBytes)
  | compressed (x : FieldBytes) (yIsOdd : Bool)
  | uncompressed (x y : FieldBytes)

/-- What is used of the SEC1 crate: the constructor tells the parity by the last byte of `y`. -/
structure Sec1 where
  EncodedPoint : Type
  coordinates : EncodedPoint → Coordinates
  identity : EncodedPoint
  fromAffineCoordinates : FieldBytes → FieldBytes → Bool → EncodedPoint
  coordinates_identity : coordinates identity = .identity
  coordinates_compressed : ∀ x y,
    coordinates (fromAffineCoordinates x y true) = .compressed x (y.toList.getLastD 0 &&& 1 == 1)
  coordinates_uncompressed : ∀ x y,
    coordinates (fromAffineCoordinates x y false) = .uncompressed x y

variable {K : Type} [ReprField K] [DecidableEq K] (C : PrimeCurveParams K)

/-- The opposite point. -/
def neg (A : AffinePoint K) : AffinePoint K := ⟨A.x, -A.y, A.infinity⟩

/-- The one of the two ordinates with the lesser bytes. -/
def toCompact (A : AffinePoint K) : AffinePoint K :=
  let negSelf := neg A
  let choice :=
    decide (BigEndian.toNat (toRepr negSelf.y).toList < BigEndian.toNat (toRepr A.y).toList)
  ⟨A.x, if choice then negSelf.y else A.y, A.infinity⟩

/-- `x^3 + a x + b`. -/
def cubic (x : K) : K := x * x * x + C.equationA * x + C.equationB

/-- The point with an abscissa and the parity of its ordinate. -/
def decompress (xBytes : FieldBytes) (yIsOdd : Bool) : Option (AffinePoint K) :=
  (fromRepr xBytes).bind fun x =>
    (sqrt (cubic C x)).map fun beta =>
      ⟨x, if isOdd beta == yIsOdd then beta else -beta, false⟩

/-- The point of a compact form. -/
def decompact (xBytes : FieldBytes) : Option (AffinePoint K) :=
  (decompress C xBytes false).map toCompact

/-- `from_encoded_point`. -/
def fromCoordinates : Coordinates → Option (AffinePoint K)
  | .identity => some identityAffine
  | .compact x => decompact C x
  | .compressed x yIsOdd => decompress C x yIsOdd
  | .uncompressed x y =>
    (fromRepr y).bind fun y =>
      (fromRepr x).bind fun x =>
        if y * y = cubic C x then some ⟨x, y, false⟩ else none

/-- The point of an encoded point. -/
def fromEncodedPoint (S : Sec1) (encodedPoint : S.EncodedPoint) : Option (AffinePoint K) :=
  fromCoordinates C (S.coordinates encodedPoint)

/-- The encoded form of a point. -/
def toEncodedPoint (S : Sec1) (A : AffinePoint K) (compress : Bool) : S.EncodedPoint :=
  if A.infinity then S.identity
  else S.fromAffineCoordinates (toRepr A.x) (toRepr A.y) compress

end EspMid.Model.Affine
