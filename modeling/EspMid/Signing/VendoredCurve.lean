import EspMid.Signing.CurveCrates

/-! # Device keys over the vendored curve

The crates that make a key, sign and verify take their arithmetic from the vendored curve
(`OverP256`). What they compute with it is ECDSA over the group of the curve, so that every signature
of a device key is accepted under its identity (`device_signature_accepted`), and two devices agree on
their shared secret (`sharedSecret_agree`). -/

namespace EspMid.Signing.VendoredCurve

open EspMid.Lib EspMid.Model.Affine EspMid.Model.BaseField EspMid.Model.Core
open EspMid.Model.Curve (NistP256)
open EspMid.Model.Identity EspMid.Model.Key EspMid.Model.PointArithmetic EspMid.Model.Projective
open EspMid.P256.BaseField (toZMod)
open EspMid.P256.Curve (Point generator curveFor)
open EspMid.P256.CompleteAddition EspMid.P256.Encoding EspMid.P256.Group EspMid.P256.Keys
open EspMid.P256.Points EspMid.P256.Primes
open EspMid.Keeping.CachedLoad (derived fromSecret_eq)
open EspMid.Keeping.Entries (deviceName)
open EspMid.Keeping.SignatureCache (threes)
open EspMid.Signing.Canonical EspMid.Signing.CurveCrates

variable {X : Crates} (O : OverP256 X)

/-! ### The group of the signatures -/

/-- The group with the generator, and the abscissas as scalars. -/
noncomputable def group : Ecdsa.Group ORDER Point where
  generator := generator
  coordinate := coordinate
  coordinate_neg := coordinate_neg

theorem exists_point (key : X.VerifyingKey) : ∃ Q : Point, O.asAffine key = affine Q := by
  obtain ⟨c, -, hc⟩ := O.fromSec1Bytes _ key (X.fromSec1Bytes_compressed key)
  exact fromCoordinates_sound hc

/-- The point of a key. -/
noncomputable def point (key : X.VerifyingKey) : Point := (exists_point O key).choose

theorem asAffine_eq (key : X.VerifyingKey) : O.asAffine key = affine (point O key) :=
  (exists_point O key).choose_spec

theorem stands_key (key : X.VerifyingKey) :
    Stands toZMod (ofAffine (O.asAffine key)) (point O key) := by
  rw [asAffine_eq]
  exact stands_affine _

theorem element_eq (d : Scalar) : element d = P256.ScalarField.toZMod (scalar d) := rfl

/-- **The point of a public key** is the multiple of the generator. -/
theorem point_fromSecretScalar (d : Scalar) :
    point O (X.fromSecretScalar d) = Ecdsa.publicKey group (element d) := by
  have h := O.fromSecretScalar d
  rw [asAffine_eq] at h
  have hmul := toAffine_eq (stands_smul stands_GENERATOR (scalar d))
  exact affine_injective (h.trans hmul)

/-! ### The equations -/

theorem toZMod_ne_zero (d : Scalar) : P256.ScalarField.toZMod (scalar d) ≠ 0 := element_ne_zero d

theorem signs_eq (d : Scalar) (h : Array8 32) :
    (element (X.signRfc6979 d h).r, element (X.signRfc6979 d h).s) =
      Ecdsa.sign group (element d) (P256.ScalarField.toZMod (O.nonce d h))
        (P256.ScalarField.toZMod (Model.ScalarField.Scalar.reduceBytes h)) := by
  obtain ⟨kInv, hinv, hr, hs⟩ := O.signs d h
  have hx := toZMod_xScalar (stands_generator (O.nonce d h))
  have hk : P256.ScalarField.toZMod kInv = (P256.ScalarField.toZMod (O.nonce d h))⁻¹ := by
    unfold Model.ScalarField.Scalar.invert at hinv
    split_ifs at hinv
    rw [← Option.some.inj hinv, P256.ScalarField.toZMod_invertUnchecked]
  unfold Ecdsa.sign
  rw [element_eq, element_eq, element_eq, hr, hs, P256.ScalarField.toZMod_mul,
    P256.ScalarField.toZMod_add, P256.ScalarField.toZMod_mul, hx, hk]
  rfl

theorem verifies_iff (key : X.VerifyingKey) (h : Array8 32) (sig : Signature) :
    X.verifyEcdsa key h sig = true ↔
      Ecdsa.Verifies group (point O key)
        (P256.ScalarField.toZMod (Model.ScalarField.Scalar.reduceBytes h)) (element sig.r)
        (element sig.s) := by
  have hinvert : (scalar sig.s).invertVartime 514 = some (some (scalar sig.s).invertUnchecked) := by
    rw [P256.ScalarField.invertVartime_eq_invert _ le_rfl, Model.ScalarField.Scalar.invert,
      if_neg (mt (P256.ScalarField.isZero_iff _).mp (toZMod_ne_zero sig.s))]
  rw [O.verifies key h sig _ hinvert]
  rw [← P256.ScalarField.toZMod_injective.eq_iff, toZMod_xScalar_lincomb (stands_key O key),
    P256.ScalarField.toZMod_mul, P256.ScalarField.toZMod_mul,
    P256.ScalarField.toZMod_invertUnchecked]
  exact ⟨fun heq => ⟨element_ne_zero _, element_ne_zero _, heq⟩, fun hv => hv.2.2⟩

/-- **The crates are ECDSA** over the group of the curve. -/
noncomputable def onCurve : OnCurve X Point where
  group := group
  point := point O
  field h := P256.ScalarField.toZMod (Model.ScalarField.Scalar.reduceBytes h)
  nonce d h := P256.ScalarField.toZMod (O.nonce d h)
  publicKey := point_fromSecretScalar O
  signs := signs_eq O
  verifies := verifies_iff O

/-- **Every signature of a device key is accepted**, under either form of its public key. -/
theorem device_signature_accepted (O : OverP256 X) {key : DeviceKey X} (hmade : Made key)
    (h : Array8 32) :
    verifyPrehash X key.did.pubkey.toList h (key.signPrehash h) = .ok () ∧
      verifyPrehash X key.pubkeySec1Uncompressed.toList h (key.signPrehash h) =
        .ok () := by
  have L := ecdsaLaws_of_onCurve (onCurve O)
  exact ⟨verifyPrehash_signPrehash L hmade h (X.fromSec1Bytes_compressed _),
    verifyPrehash_signPrehash L hmade h (X.fromSec1Bytes_uncompressed _)⟩

theorem made_derived (d : Scalar) : Made (derived curveCrates d deviceName) :=
  .rebuilt (scalarToRepr d) "cam-1" _ (by
    have hid : DeviceId.new "cam-1" = .ok deviceName := dif_pos _
    rw [fromSecret_eq, hid, scalarFromRepr_toRepr])

theorem device_signature_accepted_two :
    verifyPrehash curveCrates (derived curveCrates secretTwo deviceName).did.pubkey.toList threes
      ((derived curveCrates secretTwo deviceName).signPrehash threes) = .ok () :=
  (device_signature_accepted overCurve (made_derived secretTwo) threes).1

/-! ### The shared secret -/

/-- The abscissa of the multiple of the other key's point. -/
def IsDiffieHellman (O : OverP256 X) (diffieHellman : Scalar → X.VerifyingKey → Array8 32) : Prop :=
  ∀ d key, diffieHellman d key =
    toRepr (toAffine FieldElement.invert (mul NistP256 (ofAffine (O.asAffine key)) d.1)).x

theorem toAffine_mul_publicKey (d e : Scalar) :
    toAffine FieldElement.invert
        (mul NistP256 (ofAffine (O.asAffine (X.fromSecretScalar e))) d.1) =
      affine (element d • element e • generator) := by
  have h := toAffine_eq (stands_smul (stands_key O (X.fromSecretScalar e)) (scalar d))
  rw [point_fromSecretScalar] at h
  exact h

/-- **Two devices agree** on their shared secret, each from its secret and the other's identity. -/
theorem sharedSecret_agree (O : OverP256 X) {diffieHellman : Scalar → X.VerifyingKey → Array8 32}
    (hdh : IsDiffieHellman O diffieHellman) {k k' : DeviceKey X} (hk : Made k) (hk' : Made k') :
    ∃ shared, k.sharedSecret diffieHellman k'.did = .ok shared ∧
      k'.sharedSecret diffieHellman k.did = .ok shared := by
  have hside : ∀ {l l' : DeviceKey X}, Made l' → l.sharedSecret diffieHellman l'.did =
      .ok (toRepr (affine (element l.secret • element l'.secret • generator)).x) := by
    intro l l' hl'
    have hread : X.fromSec1Bytes l'.did.pubkey.toList = some l'.publicKey :=
      X.fromSec1Bytes_compressed _
    unfold DeviceKey.sharedSecret
    rw [hread]
    simp only
    rw [hdh, hl'.publicKey, toAffine_mul_publicKey]
  exact ⟨_, hside hk', by rw [hside hk, smul_comm]⟩

/-- The abscissa by the vendored arithmetic. -/
noncomputable def curveSecret (d : Scalar) (key : CurveKey) : Array8 32 :=
  toRepr (toAffine FieldElement.invert (mul NistP256 (ofAffine (affine key.1)) d.1)).x

theorem sharedSecret_agree_one_two :
    ∃ shared, (derived curveCrates secretOne deviceName).sharedSecret curveSecret
        (derived curveCrates secretTwo deviceName).did = .ok shared ∧
      (derived curveCrates secretTwo deviceName).sharedSecret curveSecret
        (derived curveCrates secretOne deviceName).did = .ok shared :=
  sharedSecret_agree overCurve (fun _ _ => rfl) (made_derived secretOne) (made_derived secretTwo)

end EspMid.Signing.VendoredCurve
