import EspMid.Lib.Ecdsa
import EspMid.Keeping.DeviceIdentity
import EspMid.Keeping.SignatureCache

/-! # One canonical signature

Of a signature and its twin with the negated `s`, the curve accepts both or neither. The signer
returns the one with the lower `s` and the verifier takes no other, so an honest signature is
accepted and the twin of an accepted one is refused, by every verifier that goes through
`verifyPrehash` (`one_canonical_signature`). What the curve is needed for is stated as `EcdsaLaws`;
ECDSA over any group of the right order has them (`ecdsaLaws_of_onCurve`). -/

namespace EspMid.Signing.Canonical

open EspMid.Lib EspMid.Lib.Framing EspMid.Lib.StoreProg
open EspMid.Model.Core EspMid.Model.Identity EspMid.Model.Envelope EspMid.Model.SettingsAdoption
open EspMid.Model.Key EspMid.Model.Messages
open EspMid.Keeping.Entries (deviceName)
open EspMid.Keeping.CachedLoad (derived fromSecret_eq)
open EspMid.Keeping.SignatureCache (signatureOne signatureTwo threes)
open EspMid.Keeping.DeviceIdentity (Sound Call run_call wp_generate)

variable {X : Crates}

/-! ### Twins -/

theorem order_odd : ORDER % 2 = 1 := by decide

theorem negated_scalar (n : Scalar) : 0 < ORDER - n.1 ∧ ORDER - n.1 < ORDER := by
  have hn := n.2
  omega

/-- The signature with the negated `s`. -/
def twin (sig : Signature) : Signature :=
  { sig with s := ⟨ORDER - sig.s.1, negated_scalar sig.s⟩ }

@[simp] theorem twin_twin (sig : Signature) : twin (twin sig) = sig := by
  obtain ⟨r, s, hs⟩ := sig
  unfold twin
  refine congrArg (Signature.mk r) (Subtype.ext ?_)
  simp only
  omega

/-- The lower of the two. -/
def Low (sig : Signature) : Prop := sig.s.1 ≤ ORDER / 2

instance (sig : Signature) : Decidable (Low sig) := inferInstanceAs (Decidable (_ ≤ _))

theorem low_twin (sig : Signature) : Low (twin sig) ↔ ¬ Low sig := by
  have hodd := order_odd
  have hs := sig.s.2
  unfold Low twin
  simp only
  omega

theorem normalizeS_of_low {sig : Signature} (h : Low sig) : sig.normalizeS = none := by
  unfold Low at h
  unfold Signature.normalizeS
  rw [dif_neg (by omega)]

theorem normalizeS_of_high {sig : Signature} (h : ¬ Low sig) :
    sig.normalizeS = some (twin sig) := by
  unfold Low at h
  unfold Signature.normalizeS
  rw [dif_pos (by omega)]
  rfl

theorem normalizeS_isSome {sig : Signature} : sig.normalizeS.isSome = true ↔ ¬ Low sig := by
  by_cases h : Low sig
  · simp [normalizeS_of_low h, h]
  · simp [normalizeS_of_high h, h]

/-! ### Signatures as bytes -/

theorem fromSlice_toBytes (sig : Signature) :
    Signature.fromSlice sig.toBytes.toList = some sig := by
  have hbytes : sig.toBytes.toList =
      (scalarToRepr sig.r).toList ++ (scalarToRepr sig.s).toList := rfl
  unfold Signature.fromSlice
  rw [hbytes, List.take_left' (scalarToRepr sig.r).toList_length,
    List.drop_left' (scalarToRepr sig.r).toList_length]
  simp only [toArray8_toList, Option.bind_eq_bind, Option.bind_some, scalarFromRepr_toRepr]
  rfl

theorem fromSlice_eq_some {b : Bytes} {sig : Signature} :
    Signature.fromSlice b = some sig ↔ b = sig.toBytes.toList := by
  constructor
  · intro h
    unfold Signature.fromSlice at h
    simp only [Option.bind_eq_bind, Option.bind_eq_some_iff, Option.pure_def,
      Option.some.injEq] at h
    obtain ⟨rb, hrb, h⟩ := h
    obtain ⟨sb, hsb, h⟩ := h
    obtain ⟨r, hr, h⟩ := h
    obtain ⟨s, hs, h⟩ := h
    subst h
    have hbytes : b = rb.toList ++ sb.toList := by
      rw [← toArray8_eq_some.mp hrb, ← toArray8_eq_some.mp hsb, List.take_append_drop]
    rw [hbytes, ← scalarToRepr_of_fromRepr hr, ← scalarToRepr_of_fromRepr hs]
    rfl
  · intro h
    rw [h]
    exact fromSlice_toBytes sig

/-! ### The verifier -/

theorem verifyPrehash_eq_ok {pubkey : Bytes} {h : Array8 32} {b : Array8 64} :
    verifyPrehash X pubkey h b = .ok () ↔
      ∃ key sig, X.fromSec1Bytes pubkey = some key ∧ b = sig.toBytes ∧ Low sig ∧
        X.verifyEcdsa key h sig = true := by
  unfold verifyPrehash
  constructor
  · intro hv
    cases hkey : X.fromSec1Bytes pubkey with
    | none => simp [hkey] at hv
    | some key =>
      cases hsig : Signature.fromSlice b.toList with
      | none => simp [hkey, hsig] at hv
      | some sig =>
        simp only [hkey, hsig, normalizeS_isSome] at hv
        split_ifs at hv with hlow hequation
        have hbytes := List.Vector.toList_injective (fromSlice_eq_some.mp hsig)
        exact ⟨key, sig, rfl, hbytes, hlow, hequation⟩
  · rintro ⟨key, sig, hkey, rfl, hlow, hequation⟩
    simp only [hkey, fromSlice_toBytes, normalizeS_isSome, hlow, hequation, not_true_eq_false,
      if_false, if_true]

theorem verifyPrehash_of_high {sig : Signature} (hhigh : ¬ Low sig) (pubkey : Bytes)
    (h : Array8 32) : verifyPrehash X pubkey h sig.toBytes = .error .crypto := by
  unfold verifyPrehash
  cases X.fromSec1Bytes pubkey with
  | none => rfl
  | some key =>
    simp only [fromSlice_toBytes, normalizeS_isSome, hhigh, not_false_eq_true, if_true]

/-! ### The verifiers that go through it -/

/-- A check of a signature, with all that it is checked against. -/
inductive Verifier (X : Crates) where
  | prehash (pubkeySec1 : Bytes) (h : Array8 32)
  | adoption (a : Adoption)
  | acceptance (a : Adoption) (myDid : String) (pin : Option OwnerPin) (now : Option UInt64)
  | status (p : StatusProof)
  | reply (devicePubkey : Array8 33) (h : Array8 32)
  | manifest (manifestBytes devicePubkey : Bytes)
  | maker (model firmware : String) (makerPubkey : Bytes)

/-- The verifier accepts the signature. -/
def Verifier.Accepts : Verifier X → Array8 64 → Prop
  | .prehash pubkey h, b => verifyPrehash X pubkey h b = .ok ()
  | .adoption a, b => ({ a with signature := b } : Adoption).verifySignature X = .ok ()
  | .acceptance a myDid pin now, b =>
    ∃ pin', ({ a with signature := b } : Adoption).accept X myDid pin now = .ok pin'
  | .status p, b => p.verify X b = .ok ()
  | .reply pubkey h, b => verifyReply X pubkey h b = .ok ()
  | .manifest bytes pubkey, b => verifyManifest X bytes b pubkey = .ok ()
  | .maker model firmware pubkey, b => verifyMaker X model firmware b pubkey = .ok ()

theorem verifyPrehash_of_accepts {v : Verifier X} {b : Array8 64} (hv : v.Accepts b) :
    ∃ pubkey h, verifyPrehash X pubkey h b = .ok () := by
  cases v with
  | prehash pubkey h => exact ⟨_, _, hv⟩
  | adoption a => exact ⟨_, _, hv⟩
  | acceptance a myDid pin now =>
    obtain ⟨pin', hv⟩ := hv
    unfold Adoption.accept at hv
    split_ifs at hv
    obtain ⟨_, hverify, -⟩ := bind_eq_ok.mp hv
    exact ⟨_, _, hverify⟩
  | status p =>
    obtain ⟨d, -, hv⟩ := bind_eq_ok.mp hv
    obtain ⟨h, -, hv⟩ := bind_eq_ok.mp hv
    exact ⟨_, _, hv⟩
  | reply pubkey h => exact ⟨_, _, hv⟩
  | manifest bytes pubkey => exact ⟨_, _, hv⟩
  | maker model firmware pubkey => exact ⟨_, _, hv⟩

theorem not_accepts_twin {v : Verifier X} {sig : Signature} (hv : v.Accepts sig.toBytes) :
    ¬ v.Accepts (twin sig).toBytes := by
  have hlow : ∀ {sig' : Signature}, v.Accepts sig'.toBytes → Low sig' := by
    intro sig' h'
    obtain ⟨pubkey, h, hprehash⟩ := verifyPrehash_of_accepts h'
    by_contra hhigh
    rw [verifyPrehash_of_high hhigh] at hprehash
    cases hprehash
  exact fun htwin => (low_twin sig).mp (hlow htwin) (hlow hv)

/-! ### What the curve is needed for -/

/-- A signature made with a secret verifies under its key, and of two twins both verify or neither
does. -/
structure EcdsaLaws (X : Crates) : Prop where
  verifies : ∀ d h, X.verifyEcdsa (X.fromSecretScalar d) h (X.signRfc6979 d h) = true
  twins : ∀ key h sig, X.verifyEcdsa key h (twin sig) = X.verifyEcdsa key h sig

/-- A scalar as an element of the field. -/
def element (n : Scalar) : ZMod ORDER := (n.1 : ZMod ORDER)

/-- The crates are ECDSA over a group of the right order: the keys are points, the public key of a
secret is its multiple of the generator, and a signature is made with some nonce. -/
structure OnCurve (X : Crates) [Fact ORDER.Prime] (G : Type) [AddCommGroup G]
    [Module (ZMod ORDER) G] where
  group : Ecdsa.Group ORDER G
  point : X.VerifyingKey → G
  field : Array8 32 → ZMod ORDER
  nonce : Scalar → Array8 32 → ZMod ORDER
  publicKey : ∀ d, point (X.fromSecretScalar d) = Ecdsa.publicKey group (element d)
  signs : ∀ d h, (element (X.signRfc6979 d h).r, element (X.signRfc6979 d h).s) =
    Ecdsa.sign group (element d) (nonce d h) (field h)
  verifies : ∀ key h sig, X.verifyEcdsa key h sig = true ↔
    Ecdsa.Verifies group (point key) (field h) (element sig.r) (element sig.s)

theorem element_ne_zero (n : Scalar) : element n ≠ 0 := by
  intro h
  have hdvd := (ZMod.natCast_eq_zero_iff n.1 ORDER).mp h
  exact absurd (Nat.le_of_dvd n.2.1 hdvd) (not_le.mpr n.2.2)

theorem element_twin (sig : Signature) : element (twin sig).s = -element sig.s := by
  have hle : sig.s.1 ≤ ORDER := le_of_lt sig.s.2.2
  unfold element twin
  simp only
  rw [Nat.cast_sub hle, ZMod.natCast_self, zero_sub]

/-- **ECDSA over any such group has the laws.** -/
theorem ecdsaLaws_of_onCurve [Fact ORDER.Prime] {G : Type} [AddCommGroup G] [Module (ZMod ORDER) G]
    (C : OnCurve X G) : EcdsaLaws X where
  verifies d h := by
    obtain ⟨hr, hs⟩ := Prod.ext_iff.mp (C.signs d h)
    simp only at hr hs
    have hv := Ecdsa.verifies_sign C.group (hr ▸ element_ne_zero _) (hs ▸ element_ne_zero _)
    rw [← hr, ← hs, ← C.publicKey] at hv
    exact (C.verifies _ _ _).mpr hv
  twins key h sig := by
    rw [Bool.eq_iff_iff, C.verifies, C.verifies, element_twin]
    exact Ecdsa.verifies_neg C.group _ _ _ _

/-! ### The signer -/

/-- A key that the crate makes: rebuilt from a secret, generated, or handed out by an operation on a
sound identity store. -/
inductive Made : DeviceKey X → Prop where
  | rebuilt (secret : Array8 32) (deviceId : String) (key : DeviceKey X)
      (h : DeviceKey.fromSecret secret deviceId = .ok key) : Made key
  | generated (deviceId : String) (F : KvFaults) (σ : KvStores Partition) (key : DeviceKey X)
      (h : (Prog.exec (DeviceKey.generate deviceId : Kv Partition (DeviceKey X)) F σ).1 =
        some (.ok key)) : Made key
  | handedOut (σ : KvStores Partition) (c : Call X) (key : DeviceKey X) (sound : Sound X σ)
      (h : c.Returns σ key) : Made key

theorem Made.publicKey {key : DeviceKey X} (h : Made key) :
    key.publicKey = X.fromSecretScalar key.secret := by
  cases h with
  | rebuilt secret deviceId _ h =>
    rw [fromSecret_eq] at h
    split at h
    · cases h
    · cases h
    · cases h
      rfl
  | generated deviceId F σ _ h =>
    exact ((exec_of_wp (wp_generate deviceId fun _ => True) F).1 _ h).2 key rfl
  | handedOut σ c _ sound h => exact ((run_call sound c).2 key h).2

theorem signPrehash_eq (key : DeviceKey X) (h : Array8 32) :
    ∃ sig, key.signPrehash h = sig.toBytes ∧ Low sig ∧
      (sig = X.signRfc6979 key.secret h ∨ sig = twin (X.signRfc6979 key.secret h)) := by
  unfold DeviceKey.signPrehash
  by_cases hlow : Low (X.signRfc6979 key.secret h)
  · refine ⟨_, ?_, hlow, Or.inl rfl⟩
    simp only [normalizeS_of_low hlow, Option.getD_none]
  · refine ⟨_, ?_, (low_twin _).mpr hlow, Or.inr rfl⟩
    simp only [normalizeS_of_high hlow, Option.getD_some]

theorem verifyPrehash_signPrehash (L : EcdsaLaws X) {key : DeviceKey X} (hmade : Made key)
    (h : Array8 32) {pubkey : Bytes} (hpubkey : X.fromSec1Bytes pubkey = some key.publicKey) :
    verifyPrehash X pubkey h (key.signPrehash h) = .ok () := by
  obtain ⟨sig, hbytes, hlow, hraw⟩ := signPrehash_eq key h
  have hequation : X.verifyEcdsa key.publicKey h sig = true := by
    rw [hmade.publicKey]
    rcases hraw with rfl | rfl
    · exact L.verifies _ _
    · rw [L.twins]
      exact L.verifies _ _
  exact verifyPrehash_eq_ok.mpr ⟨_, sig, hpubkey, hbytes, hlow, hequation⟩

/-- **One canonical signature.** What a device key signs is accepted under the compressed key of its
identity and under the uncompressed key; of a signature that satisfies the equation and its twin
exactly one is accepted; and the twin of what any verifier accepts, that verifier refuses. -/
theorem one_canonical_signature (L : EcdsaLaws X) :
    (∀ key : DeviceKey X, Made key → ∀ h,
        verifyPrehash X key.did.pubkey.toList h (key.signPrehash h) = .ok () ∧
          verifyPrehash X key.pubkeySec1Uncompressed.toList h (key.signPrehash h) = .ok ()) ∧
      (∀ pubkey h key sig, X.fromSec1Bytes pubkey = some key → X.verifyEcdsa key h sig = true →
        (verifyPrehash X pubkey h sig.toBytes = .ok () ↔
          verifyPrehash X pubkey h (twin sig).toBytes = .error .crypto)) ∧
      (∀ pubkey h b, verifyPrehash X pubkey h b = .ok () →
        ∃ sig, Signature.fromSlice b.toList = some sig ∧
          verifyPrehash X pubkey h (twin sig).toBytes = .error .crypto) ∧
      ∀ (v : Verifier X) (b : Array8 64), v.Accepts b →
        ∃ sig, Signature.fromSlice b.toList = some sig ∧ ¬ v.Accepts (twin sig).toBytes := by
  refine ⟨fun key hmade h => ⟨?_, ?_⟩, fun pubkey h key sig hkey hequation => ?_,
    fun pubkey h b hv => ?_, fun v b hv => ?_⟩
  · exact verifyPrehash_signPrehash L hmade h (X.fromSec1Bytes_compressed _)
  · exact verifyPrehash_signPrehash L hmade h (X.fromSec1Bytes_uncompressed _)
  · by_cases hlow : Low sig
    · have haccept : verifyPrehash X pubkey h sig.toBytes = .ok () :=
        verifyPrehash_eq_ok.mpr ⟨key, sig, hkey, rfl, hlow, hequation⟩
      have hrefuse := verifyPrehash_of_high (X := X) (fun htwin => (low_twin sig).mp htwin hlow)
        pubkey h
      exact iff_of_true haccept hrefuse
    · have haccept : verifyPrehash X pubkey h (twin sig).toBytes = .ok () :=
        verifyPrehash_eq_ok.mpr
          ⟨key, twin sig, hkey, rfl, (low_twin sig).mpr hlow, (L.twins _ _ _).trans hequation⟩
      rw [haccept, verifyPrehash_of_high hlow]
      exact iff_of_false (by simp) (by simp)
  · obtain ⟨key, sig, -, rfl, hlow, -⟩ := verifyPrehash_eq_ok.mp hv
    exact ⟨sig, fromSlice_toBytes sig,
      verifyPrehash_of_high (fun htwin => (low_twin sig).mp htwin hlow) pubkey h⟩
  · obtain ⟨pubkey, h, hprehash⟩ := verifyPrehash_of_accepts hv
    obtain ⟨key, sig, -, rfl, -, -⟩ := verifyPrehash_eq_ok.mp hprehash
    exact ⟨sig, fromSlice_toBytes sig, not_accepts_twin hv⟩

/-! ### A raw signature with a high `s`

The second key's raw signature of a prehash is the higher of the two. -/

/-- The other crates on three keys, with given raw signatures; both twins satisfy the equation. -/
def mirror (hashes : List (Bytes × Array8 32)) (raw : Fin 3 → Array8 32 → Signature) : Crates :=
  { threeKeys hashes [] [] with
    signRfc6979 := fun d h => raw ((threeKeys [] [] []).fromSecretScalar d) h
    verifyEcdsa := fun k h sig => sig == raw k h || twin sig == raw k h }

theorem ecdsaLaws_mirror (hashes : List (Bytes × Array8 32))
    (raw : Fin 3 → Array8 32 → Signature) : EcdsaLaws (mirror hashes raw) where
  verifies d h := by
    simp only [mirror, Bool.or_eq_true, beq_iff_eq]
    exact Or.inl rfl
  twins key h sig := by
    unfold mirror
    simp only [twin_twin, Bool.or_comm]

/-- The raw signatures that occur. -/
def rawSignature (k : Fin 3) (h : Array8 32) : Signature :=
  if k = secondKey ∧ h = threes then signatureTwo else signatureOne

def mirrored : Crates := mirror [] rawSignature

theorem ecdsaLaws_mirrored : EcdsaLaws mirrored := ecdsaLaws_mirror [] rawSignature

/-- The lower one is returned and accepted, the raw one is refused. -/
theorem high_signature_refused :
    let key := derived mirrored secretTwo deviceName
    verifyPrehash mirrored key.did.pubkey.toList threes (key.signPrehash threes) = .ok () ∧
      verifyPrehash mirrored key.did.pubkey.toList threes signatureTwo.toBytes =
        .error .crypto := by
  intro key
  obtain ⟨haccept, -, htwin, -⟩ := one_canonical_signature ecdsaLaws_mirrored
  have hmade : Made key :=
    .rebuilt (scalarToRepr secretTwo) "cam-1" key (by
      have hid : DeviceId.new "cam-1" = .ok deviceName := dif_pos _
      rw [fromSecret_eq, hid, scalarFromRepr_toRepr])
  obtain ⟨hcompressed, -⟩ := haccept key hmade threes
  have hraw : mirrored.signRfc6979 key.secret threes = signatureTwo := by decide +kernel
  have hhigh : ¬ Low signatureTwo := by decide +kernel
  have hsigned : key.signPrehash threes = (twin signatureTwo).toBytes := by
    unfold DeviceKey.signPrehash
    simp only [hraw, normalizeS_of_high hhigh, Option.getD_some]
  refine ⟨hcompressed, ?_⟩
  obtain ⟨sig, hsig, hrefused⟩ := htwin _ _ _ hcompressed
  rw [hsigned, fromSlice_toBytes, Option.some.injEq] at hsig
  rw [← hsig, twin_twin] at hrefused
  exact hrefused

end EspMid.Signing.Canonical
