import EspMid.P256.Keys
import EspMid.Signing.Canonical

/-! # Crates over the vendored curve

What it is for the crates that make a key, sign and verify to take their arithmetic from the vendored
curve (`OverP256`), and crates that do (`curveCrates`): their keys are the points of the curve in the
SEC1 forms, which read back because the curve's encodings do. -/

namespace EspMid.Signing.CurveCrates

open EspMid.Lib EspMid.Model.Affine EspMid.Model.BaseField EspMid.Model.Core
open EspMid.Model.Curve (NistP256)
open EspMid.Model.Identity EspMid.Model.PointArithmetic EspMid.Model.Projective
open EspMid.Model.ScalarField.Scalar (reduceBytes)
open EspMid.P256.BaseField (toZMod)
open EspMid.P256.Curve (Point generator curveFor stand_generator)
open EspMid.P256.CompleteAddition EspMid.P256.Encoding EspMid.P256.Group EspMid.P256.Keys
open EspMid.P256.Points EspMid.P256.Primes
open EspMid.Signing.Canonical

/-- A scalar of the crates as one of the vendored field. -/
def scalar (d : Scalar) : Model.ScalarField.Scalar := ⟨d.1, d.2.2⟩

/-- The crates over the vendored arithmetic: a key is an affine point that SEC1 bytes were accepted
for, a public key a multiple of the base point, and signing and verifying are the two equations, the
nonce from RFC 6979. -/
structure OverP256 (X : Crates) where
  asAffine : X.VerifyingKey → AffinePoint FieldElement
  parse : Bytes → Option Coordinates
  fromSec1Bytes : ∀ b key, X.fromSec1Bytes b = some key → ∃ c, parse b = some c ∧
    fromCoordinates NistP256 c = some (asAffine key)
  fromSecretScalar : ∀ d, asAffine (X.fromSecretScalar d) =
    toAffine FieldElement.invert (mul NistP256 (ProjectivePoint.GENERATOR NistP256) d.1)
  nonce : Scalar → Array8 32 → Model.ScalarField.Scalar
  signs : ∀ d h, ∃ kInv, (nonce d h).invert = some kInv ∧
    scalar (X.signRfc6979 d h).r = xScalar (mulByGenerator NistP256 (nonce d h).val) ∧
    scalar (X.signRfc6979 d h).s = kInv * (reduceBytes h +
      xScalar (mulByGenerator NistP256 (nonce d h).val) * scalar d)
  verifies : ∀ key h sig sInv, (scalar sig.s).invertVartime 514 = some (some sInv) →
    (X.verifyEcdsa key h sig = true ↔
      xScalar (add NistP256
        (mul NistP256 (ProjectivePoint.GENERATOR NistP256)
          (reduceBytes h * sInv).val)
        (mul NistP256 (ofAffine (asAffine key)) (scalar sig.r * sInv).val)) = scalar sig.r)

instance : Fact ORDER.Prime := ⟨prime_n⟩

noncomputable instance : Module (ZMod ORDER) Point := inferInstanceAs (Module (ZMod n) Point)

/-! ### SEC1 bytes -/

/-- The tag, then one or two coordinates. -/
def parseSec1 : Bytes → Option Coordinates
  | [] => none
  | tag :: rest =>
    if tag = 0 then if rest = [] then some .identity else none
    else if tag = 2 ∨ tag = 3 then (toArray8 32 rest).map (.compressed · (tag == 3))
    else if tag = 4 then
      (toArray8 32 (rest.take 32)).bind fun x =>
        (toArray8 32 (rest.drop 32)).map fun y => .uncompressed x y
    else if tag = 5 then (toArray8 32 rest).map .compact
    else none

/-- The tag of the parity, and the abscissa. -/
def compressedForm (A : AffinePoint FieldElement) : Array8 33 :=
  (if isOdd A.y then 3 else 2) ::ᵥ toRepr A.x

/-- Both coordinates. -/
def uncompressedForm (A : AffinePoint FieldElement) : Array8 65 :=
  ⟨4 :: ((toRepr A.x).toList ++ (toRepr A.y).toList), by
    rw [List.length_cons, List.length_append, List.Vector.toList_length, List.Vector.toList_length]⟩

theorem parseSec1_parity (x : FieldBytes) (odd : Bool) :
    parseSec1 ((if odd then 3 else 2) :: x.toList) = some (.compressed x odd) := by
  rw [parseSec1]
  cases odd <;> simp [toArray8_toList]

theorem parseSec1_pair (x y : FieldBytes) :
    parseSec1 (4 :: (x.toList ++ y.toList)) = some (.uncompressed x y) := by
  rw [parseSec1]
  simp [toArray8_toList]

theorem parseSec1_compressed (A : AffinePoint FieldElement) :
    parseSec1 (compressedForm A).toList = some (.compressed (toRepr A.x) (isOdd A.y)) := by
  rw [compressedForm, List.Vector.toList_cons, parseSec1_parity]

theorem parseSec1_uncompressed (A : AffinePoint FieldElement) :
    parseSec1 (uncompressedForm A).toList = some (.uncompressed (toRepr A.x) (toRepr A.y)) := by
  rw [uncompressedForm, List.Vector.toList_mk, parseSec1_pair]

/-- An encoded point is SEC1 bytes; the parity of `y` is that of its last byte. -/
def sec1Bytes : Sec1 where
  EncodedPoint := { b : Bytes // (parseSec1 b).isSome }
  coordinates e := (parseSec1 e.1).get e.2
  identity := ⟨[0], rfl⟩
  fromAffineCoordinates x y compress :=
    if compress then
      ⟨_, Option.isSome_of_eq_some (parseSec1_parity x (y.toList.getLastD 0 &&& 1 == 1))⟩
    else ⟨_, Option.isSome_of_eq_some (parseSec1_pair x y)⟩
  coordinates_identity := rfl
  coordinates_compressed x _ := Option.get_of_eq_some _ (parseSec1_parity x _)
  coordinates_uncompressed x y := Option.get_of_eq_some _ (parseSec1_pair x y)

/-- The points are those that SEC1 bytes are accepted for, and the base point reads back from its
33 bytes. -/
theorem accepted_sec1Bytes :
    {A | ∃ e, fromEncodedPoint NistP256 sec1Bytes e = some A} = Set.range affine ∧
      fromEncodedPoint NistP256 sec1Bytes (toEncodedPoint sec1Bytes (affine generator) true) =
        some (affine generator) :=
  ⟨(accepted_points sec1Bytes).1, (accepted_points sec1Bytes).2 generator true⟩

/-! ### Keys -/

/-- A point that is not at infinity. -/
abbrev CurveKey := { Q : Point // Q ≠ 0 }

open Classical in
/-- The key of an affine form. -/
noncomputable def keyOf (A : AffinePoint FieldElement) : Option CurveKey :=
  if h : ∃ key : CurveKey, affine key.1 = A then some h.choose else none

theorem keyOf_eq_some {A : AffinePoint FieldElement} {key : CurveKey} :
    keyOf A = some key ↔ affine key.1 = A := by
  unfold keyOf
  constructor
  · intro h
    split_ifs at h with hex
    rw [← Option.some.inj h]
    exact hex.choose_spec
  · rintro rfl
    have hex : ∃ key' : CurveKey, affine key'.1 = affine key.1 := ⟨key, rfl⟩
    rw [dif_pos hex, Option.some.injEq]
    exact Subtype.ext (affine_injective hex.choose_spec)

/-- A key from SEC1 bytes. -/
noncomputable def keyOfSec1 (b : Bytes) : Option CurveKey :=
  ((parseSec1 b).bind (fromCoordinates NistP256)).bind keyOf

theorem keyOfSec1_of_coordinates {b : Bytes} {c : Coordinates} {key : CurveKey}
    (hb : parseSec1 b = some c) (hc : fromCoordinates NistP256 c = some (affine key.1)) :
    keyOfSec1 b = some key := by
  unfold keyOfSec1
  rw [hb, Option.bind_some, hc, Option.bind_some, keyOf_eq_some]

/-- **A key reads back** from its compressed form. -/
theorem keyOfSec1_compressed (key : CurveKey) :
    keyOfSec1 (compressedForm (affine key.1)).toList = some key :=
  keyOfSec1_of_coordinates (parseSec1_compressed _)
    (decompress_eq_some.mpr ⟨key.1, key.2, rfl, rfl, rfl⟩)

/-- **A key reads back** from its uncompressed form. -/
theorem keyOfSec1_uncompressed (key : CurveKey) :
    keyOfSec1 (uncompressedForm (affine key.1)).toList = some key :=
  keyOfSec1_of_coordinates (parseSec1_uncompressed _)
    (fromCoordinates_uncompressed.mpr ⟨key.1, key.2, rfl, rfl, rfl⟩)

/-- The multiple of the generator by a secret. -/
noncomputable def keyOfSecret (d : Scalar) : CurveKey :=
  ⟨element d • generator, mt smul_generator_eq_zero.mp (element_ne_zero d)⟩

/-! ### Signatures -/

theorem coordinate_of_stand {E : MultiplesTable.Entry} (hlt : E.1 < P256.Field.p) {Q : Point}
    (h : MultiplesTable.Stand (MultiplesTable.Entry.numbers E) Q) : coordinate Q = (E.1 : ZMod n) := by
  cases Q with
  | zero => exact absurd h.2.2 (by simp [MultiplesTable.Numbers.coords, MultiplesTable.Entry.numbers])
  | some x y hxy =>
    have hx := h.2.1
    simp only [MultiplesTable.Numbers.coords, MultiplesTable.Entry.numbers, Nat.cast_one,
      mul_one] at hx
    rw [coordinate, affine, toZMod_symm, ← hx, ZMod.val_natCast_of_lt hlt]

/-- Twice the generator. -/
def twice : MultiplesTable.Entry :=
  (0x7cf27b188d034f7e8a52380304b51ac3c08969e277f21b35a60b48fc47669978,
    0x07775510db8ed040293d9ac69f7430dbba7dade63ce982299e04b79d227873d1)

theorem stand_twice :
    MultiplesTable.Stand (MultiplesTable.Entry.numbers twice) (generator + generator) :=
  MultiplesTable.Stand.of_check P256.Curve.noTwoTorsion stand_generator stand_generator
    (by decide)

def ONE : Model.ScalarField.Scalar := ⟨1, prime_n.one_lt⟩

def TWO : Model.ScalarField.Scalar := ⟨2, by decide⟩

/-- What a signature with a nonce keeps. -/
def keeps (k : Model.ScalarField.Scalar) : Model.ScalarField.Scalar :=
  xScalar (mulByGenerator NistP256 k.val)

theorem toZMod_keeps_one :
    P256.ScalarField.toZMod (keeps ONE) = (Model.Curve.G.1 : ZMod n) := by
  rw [keeps, toZMod_xScalar (stands_generator ONE), ← coordinate_of_stand Model.Curve.G_lt.1
    stand_generator, show P256.ScalarField.toZMod ONE = 1 from Nat.cast_one, one_smul]

theorem toZMod_keeps_two : P256.ScalarField.toZMod (keeps TWO) = (twice.1 : ZMod n) := by
  rw [keeps, toZMod_xScalar (stands_generator TWO), ← coordinate_of_stand (by decide) stand_twice,
    show P256.ScalarField.toZMod TWO = 2 from Nat.cast_two, two_smul]

theorem cast_ne_zero {m : ℕ} (h : ¬ n ∣ m) : (m : ZMod n) ≠ 0 := mt (ZMod.natCast_eq_zero_iff m n).mp h

theorem toZMod_ne_zero_iff (x : Model.ScalarField.Scalar) :
    P256.ScalarField.toZMod x ≠ 0 ↔ x ≠ 0 := by
  rw [ne_eq, ← P256.ScalarField.toZMod_zero, P256.ScalarField.toZMod_injective.eq_iff]

/-- The nonce one, or two where one would make a signature of zero. -/
def nonce (d : Scalar) (h : Array8 32) : Model.ScalarField.Scalar :=
  if reduceBytes h + keeps ONE * scalar d = 0 then TWO else ONE

/-- The second half of the signature. -/
def solves (d : Scalar) (h : Array8 32) : Model.ScalarField.Scalar :=
  (nonce d h).invertUnchecked * (reduceBytes h + keeps (nonce d h) * scalar d)

theorem nonce_cases (d : Scalar) (h : Array8 32) : nonce d h = ONE ∨ nonce d h = TWO := by
  unfold nonce
  split_ifs
  · exact Or.inr rfl
  · exact Or.inl rfl

theorem nonce_ne_zero (d : Scalar) (h : Array8 32) : nonce d h ≠ 0 := by
  obtain h1 | h2 := nonce_cases d h
  · rw [h1]
    decide
  · rw [h2]
    decide

theorem keeps_nonce_ne_zero (d : Scalar) (h : Array8 32) : keeps (nonce d h) ≠ 0 := by
  rw [← toZMod_ne_zero_iff]
  obtain h1 | h2 := nonce_cases d h
  · rw [h1, toZMod_keeps_one]
    exact cast_ne_zero (by decide)
  · rw [h2, toZMod_keeps_two]
    exact cast_ne_zero (by decide)

theorem solves_ne_zero (d : Scalar) (h : Array8 32) : solves d h ≠ 0 := by
  have hd : P256.ScalarField.toZMod (scalar d) ≠ 0 := element_ne_zero d
  have hnonce := (toZMod_ne_zero_iff _).mpr (nonce_ne_zero d h)
  rw [← toZMod_ne_zero_iff, solves, P256.ScalarField.toZMod_mul,
    P256.ScalarField.toZMod_invertUnchecked]
  refine mul_ne_zero (inv_ne_zero hnonce) ((toZMod_ne_zero_iff _).mpr ?_)
  unfold nonce
  split_ifs with hone
  · intro htwo
    have h1 := congrArg P256.ScalarField.toZMod hone
    have h2 := congrArg P256.ScalarField.toZMod htwo
    rw [P256.ScalarField.toZMod_add, P256.ScalarField.toZMod_mul, toZMod_keeps_one] at h1
    rw [P256.ScalarField.toZMod_add, P256.ScalarField.toZMod_mul, toZMod_keeps_two, ← h1] at h2
    have heq : (twice.1 : ZMod n) = (Model.Curve.G.1 : ZMod n) :=
      mul_right_cancel₀ hd (add_left_cancel h2)
    exact absurd ((ZMod.natCast_eq_natCast_iff' _ _ _).mp heq) (by decide)
  · exact hone

/-- A residue that is not zero as a scalar of the crates. -/
def nonzero (x : Model.ScalarField.Scalar) (h : x ≠ 0) : Scalar :=
  ⟨x.val, Nat.pos_of_ne_zero fun h0 => h (Model.ScalarField.Scalar.ext h0), x.lt⟩

theorem scalar_nonzero (x : Model.ScalarField.Scalar) (h : x ≠ 0) : scalar (nonzero x h) = x := rfl

/-! ### The crates -/

/-- The verifier's equation. -/
def Accepts (key : CurveKey) (h : Array8 32) (sig : Signature) (sInv : Model.ScalarField.Scalar) :
    Prop :=
  xScalar (add NistP256
    (mul NistP256 (ProjectivePoint.GENERATOR NistP256) (reduceBytes h * sInv).val)
    (mul NistP256 (ofAffine (affine key.1)) (scalar sig.r * sInv).val)) = scalar sig.r

open Classical in
/-- The verifier. -/
noncomputable def verify (key : CurveKey) (h : Array8 32) (sig : Signature) : Bool :=
  decide (Accepts key h sig (scalar sig.s).invertUnchecked)

open Classical in
theorem verify_iff (key : CurveKey) (h : Array8 32) (sig : Signature) :
    verify key h sig = true ↔ Accepts key h sig (scalar sig.s).invertUnchecked := by
  unfold verify
  exact decide_eq_true_iff

/-- Keys that are points, with one of two nonces for every signature. -/
noncomputable def curveCrates : Crates where
  sha256 _ := List.Vector.replicate 32 0
  VerifyingKey := CurveKey
  fromSec1Bytes := keyOfSec1
  compressed key := compressedForm (affine key.1)
  uncompressed key := uncompressedForm (affine key.1)
  compressed_tag key := by
    rw [compressedForm, List.Vector.head_cons]
    cases isOdd (affine key.1).y
    · exact Or.inl rfl
    · exact Or.inr rfl
  fromSec1Bytes_compressed := keyOfSec1_compressed
  fromSec1Bytes_uncompressed := keyOfSec1_uncompressed
  fromSecretScalar := keyOfSecret
  signRfc6979 d h :=
    { r := nonzero (keeps (nonce d h)) (keeps_nonce_ne_zero d h)
      s := nonzero (solves d h) (solves_ne_zero d h) }
  verifyEcdsa := verify
  jsonFromSlice _ := none
  jsonFromStr _ := none
  Manifest := Unit
  manifestEncode _ out := (.ok 0, out)

theorem invert_eq_some {x : Model.ScalarField.Scalar} (h : x ≠ 0) :
    x.invert = some x.invertUnchecked := by
  rw [Model.ScalarField.Scalar.invert,
    if_neg (mt (P256.ScalarField.isZero_iff _).mp ((toZMod_ne_zero_iff x).mpr h))]

/-- **The crates are over the curve.** -/
noncomputable def overCurve : OverP256 curveCrates where
  asAffine key := affine key.1
  parse := parseSec1
  fromSec1Bytes b key h := by
    obtain ⟨A, hA, hkey⟩ := Option.bind_eq_some_iff.mp h
    obtain ⟨c, hc, hcoord⟩ := Option.bind_eq_some_iff.mp hA
    exact ⟨c, hc, by rw [hcoord, keyOf_eq_some.mp hkey]⟩
  fromSecretScalar d := (toAffine_eq (stands_smul stands_GENERATOR (scalar d))).symm
  nonce := nonce
  signs d h := ⟨_, invert_eq_some (nonce_ne_zero d h),
    scalar_nonzero _ (keeps_nonce_ne_zero d h), scalar_nonzero _ (solves_ne_zero d h)⟩
  verifies key h sig sInv hinv := by
    rw [P256.ScalarField.invertVartime_eq_invert _ le_rfl,
      invert_eq_some ((toZMod_ne_zero_iff (scalar sig.s)).mp (element_ne_zero sig.s)), Option.some.injEq,
      Option.some.injEq] at hinv
    rw [← hinv]
    exact verify_iff key h sig

end EspMid.Signing.CurveCrates
