import EspMid.Adopting.Holding
import EspMid.Codec.Envelope

/-! # The owner a v1 envelope names

An envelope carries the owner twice, as an identity and as a key. The signature is verified under
the key, and the key is pinned; the identity is what the status presents. Nothing compares the two,
so an owner may sign an adoption in another owner's name (`envelope_names_another_owner`). What is
accepted names the pinned owner exactly where the identity happens to hold the key
(`accepted_owner_iff`). -/

namespace EspMid.Adopting.OwnerBinding

open EspMid.Lib EspMid.Lib.StoreProg
open EspMid.Model.Core EspMid.Model.Identity EspMid.Model.Envelope EspMid.Model.SettingsAdoption
open EspMid.Codec.Envelope
open EspMid.Adopting.Plan EspMid.Adopting.Presented EspMid.Adopting.Holding

variable {X : Crates} {myDid : String} {a : Adoption} {pinned : Option OwnerPin}
  {now : Option UInt64}

/-- The adoption names another device, is not signed by its owner's key, does not follow the pin, or
is expired. -/
def Refused (X : Crates) (a : Adoption) (myDid : String) (pinned : Option OwnerPin)
    (now : Option UInt64) : Prop :=
  a.fields.deviceDid ≠ myDid ∨
    verifyPrehash X a.fields.ownerGenesisPubkey.toList (X.sha256 a.canonical) a.signature ≠ .ok () ∨
    (∃ p ∈ pinned, p.genesisPubkey ≠ a.fields.ownerGenesisPubkey ∨
      a.fields.rosterVersion < p.rosterVersion) ∨
    ∃ t ∈ now, a.fields.expiresAt ≠ 0 ∧ a.fields.expiresAt ≤ t

/-- The owner's identity holds the owner's key. -/
def NamesItsKey (X : Crates) (a : Adoption) : Prop :=
  ∃ d : Did X, Did.parse a.fields.ownerDid = .ok d ∧ d.pubkey = a.fields.ownerGenesisPubkey

theorem refused_of_not_accepted
    (h : ∀ pin, a.accept X myDid pinned now ≠ .ok pin) : Refused X a myDid pinned now := by
  by_contra hr
  unfold Refused at hr
  push Not at hr
  obtain ⟨hnamed, hsigned, hpin, hnow⟩ := hr
  refine h { genesisPubkey := a.fields.ownerGenesisPubkey,
             rosterVersion := a.fields.rosterVersion } (accept_eq_ok.mpr ?_)
  refine ⟨hnamed, hsigned, ?_, fun t ht => ?_, rfl⟩
  · intro p hp
    obtain ⟨hkey, hroster⟩ := hpin p hp
    exact ⟨hkey, UInt32.not_lt.mp hroster⟩
  · by_cases h0 : a.fields.expiresAt = 0
    · exact Or.inl h0
    · exact Or.inr (UInt64.not_le.mp (hnow t ht h0))

theorem Accepts.not_refused {pin : OwnerPin} (h : Accepts X a myDid pinned now pin) :
    ¬ Refused X a myDid pinned now := by
  obtain ⟨hnamed, hsigned, hfollows, hnow, rfl⟩ := h
  rintro (hother | hforged | ⟨p, hp, hpin⟩ | ⟨t, ht, hset, hlate⟩)
  · exact hother hnamed
  · exact hforged hsigned
  · obtain ⟨hkey, hroster⟩ := hfollows p hp
    rcases hpin with hpin | hpin
    · exact hpin hkey
    · exact absurd hpin (UInt32.not_lt.mpr hroster)
  · rcases hnow t ht with h0 | hlt
    · exact hset h0
    · exact absurd hlt (UInt64.not_lt.mpr hlate)

/-- **When the accepted owner is the pinned owner.** Exactly when the adoption is refused, or its
owner's identity holds the key that signed it; and `stored` presents the identity. -/
theorem accepted_owner_iff (X : Crates) (a : Adoption) (myDid : String) (pinned : Option OwnerPin)
    (now : Option UInt64) :
    ((∀ pin, a.accept X myDid pinned now = .ok pin →
        ∃ d : Did X, Did.parse a.fields.ownerDid = .ok d ∧ d.pubkey = pin.genesisPubkey) ↔
      Refused X a myDid pinned now ∨ NamesItsKey X a) ∧
    ∀ (σ : Device) (st : Stored), Presents X myDid σ st → st.kind = KIND_ADOPTION_V1 →
      Adoption.decode st.bytes = .ok a → ∀ pin, a.accept X myDid pinned now = .ok pin →
        ((∃ d : Did X, Did.parse st.ownerDid = .ok d ∧ d.pubkey = pin.genesisPubkey) ↔
          NamesItsKey X a) := by
  have hkey : ∀ pin, a.accept X myDid pinned now = .ok pin →
      pin.genesisPubkey = a.fields.ownerGenesisPubkey := by
    intro pin hpin
    rw [(accept_eq_ok.mp hpin).owner]
  refine ⟨⟨fun h => ?_, fun h pin hpin => ?_⟩, ?_⟩
  · by_cases hacc : ∃ pin, a.accept X myDid pinned now = .ok pin
    · obtain ⟨pin, hpin⟩ := hacc
      obtain ⟨d, hd, hdkey⟩ := h pin hpin
      exact Or.inr ⟨d, hd, hdkey.trans (hkey pin hpin)⟩
    · exact Or.inl (refused_of_not_accepted fun pin hpin => hacc ⟨pin, hpin⟩)
  · rcases h with hrefused | ⟨d, hd, hdkey⟩
    · exact absurd hrefused (Accepts.not_refused (accept_eq_ok.mp hpin))
    · exact ⟨d, hd, hdkey.trans (hkey pin hpin).symm⟩
  · intro σ st hst hkind hdecode pin hpin
    obtain ⟨-, -, hstmt | henv⟩ := presents_iff.mp hst
    · exact absurd (hstmt.kind.symm.trans hkind) (by decide)
    · obtain ⟨a', ha', -, howner⟩ := henv.decodes
      rw [hdecode] at ha'
      cases ha'
      rw [howner, hkey pin hpin]
      rfl

/-! ### An owner in another's name -/

/-- What the owner with the secret 2 signs, in the name of the owner with the secret 3. -/
def forgedFields : AdoptionFields where
  deviceDid := deviceDid
  ownerDid := "did:mata:hqgPbXjUNxf79VX9sae1ZCFkEhVnorZruoL7Xb96QDwR"
  ownerGenesisPubkey := compressedPoint secondKey
  hubEndpointId := List.Vector.replicate 32 0
  hubRelay := ""
  hubHost := ""
  caps := .slice []
  rosterVersion := 1
  issuedAt := 1700000000
  expiresAt := 0

/-- The hash of its canonical bytes. -/
def forgedHash : Array8 32 :=
  ⟨BigEndian.ofNat 32 0xf14a5ec37e72c8b52113645b45083af6e37d8aee78f6cb5d403fbd18bcdd1ed5, by simp⟩

/-- The signature under the secret 2. -/
def forgedSignature : Signature where
  r := ⟨0x4782b4745f1dda3e25ea076a9f2e680c54bb76c2a7b664eabda34f37dfbac47e, by decide⟩
  s := ⟨0x39df1d92c37b84cc9478dda36317db877fab59de4a660138fee7ca82747b2a3e, by decide⟩

/-- The other crates, on what occurs. -/
def forgery : Crates :=
  threeKeys [(layout forgedFields, forgedHash)] [((secondKey, forgedHash), forgedSignature)] []

theorem valid_forgedFields : Valid forgedFields where
  strs := by decide +kernel
  named := by decide +kernel
  few := by decide
  caps := by
    intro c hc
    cases hc
  dates := Or.inl rfl

/-- The envelope. -/
def forgedEnvelope : Bytes := layout forgedFields ++ forgedSignature.toBytes.toList

/-- An envelope of the key of secret 2 that names the owner of secret 3. -/
def forgedAdoption : Adoption where
  fields := { forgedFields with caps := wireCaps [] }
  signature := forgedSignature.toBytes
  canonical := layout forgedFields

theorem decode_forgedEnvelope : Adoption.decode forgedEnvelope = .ok forgedAdoption :=
  decode_layout rfl valid_forgedFields _

theorem verify_forgery :
    verifyPrehash forgery (compressedPoint secondKey).toList forgedHash
      forgedSignature.toBytes = .ok () := by
  decide +kernel

theorem length_forgedEnvelope : forgedEnvelope.length = 284 := by decide +kernel

theorem parse_forgedDid :
    ∃ d : Did forgery, Did.parse forgedFields.ownerDid = .ok d ∧
      d.pubkey = compressedPoint thirdKey := by
  have h : (Did.parse forgedFields.ownerDid : Result (Did forgery)).map Did.pubkey =
      .ok (compressedPoint thirdKey) := by
    decide +kernel
  cases hp : (Did.parse forgedFields.ownerDid : Result (Did forgery)) with
  | error e => rw [hp] at h; cases h
  | ok d => rw [hp] at h; exact ⟨d, rfl, Except.ok.inj h⟩

theorem accept_forgery :
    forgedAdoption.accept forgery deviceDid none none =
      .ok { genesisPubkey := compressedPoint secondKey, rosterVersion := 1 } := by
  have hhash : forgery.sha256 forgedAdoption.canonical = forgedHash := by
    simp [forgery, threeKeys, forgedAdoption]
  refine accept_eq_ok.mpr ⟨rfl, ?_, by simp, by simp, rfl⟩
  rw [hhash]
  exact verify_forgery

/-- **The defect.** A device without a pin accepts the envelope and pins the key 2; the identity the
envelope names, which `stored` presents, holds the key 3. -/
theorem envelope_names_another_owner :
    Adoption.decode forgedEnvelope = .ok forgedAdoption ∧
      forgedAdoption.accept forgery deviceDid none none =
        .ok { genesisPubkey := compressedPoint secondKey, rosterVersion := 1 } ∧
      (∃ st, Presents forgery deviceDid
          (fun _ k => if k = KV_ADOPTION then some forgedEnvelope else none) st ∧
        st.ownerDid = forgedFields.ownerDid) ∧
      ∃ d : Did forgery, Did.parse forgedFields.ownerDid = .ok d ∧
        d.pubkey ≠ compressedPoint secondKey := by
  refine ⟨decode_forgedEnvelope, accept_forgery, ?_, ?_⟩
  · refine ⟨{ ownerDid := forgedFields.ownerDid, kind := KIND_ADOPTION_V1,
              bytes := forgedEnvelope, provisional := false }, ?_, rfl⟩
    refine presents_iff.mpr ⟨⟨rfl, by rw [length_forgedEnvelope]; decide⟩, rfl, Or.inr ?_⟩
    exact { unmarked := by simp [KV_ADOPTION, KV_ADOPTION_KIND]
            short := by simp [KV_ADOPTION, KV_ADOPTION_KIND]
            decodes := ⟨forgedAdoption, decode_forgedEnvelope, rfl, rfl⟩
            kind := rfl }
  · obtain ⟨d, hd, hkey⟩ := parse_forgedDid
    exact ⟨d, hd, by rw [hkey]; decide +kernel⟩

end EspMid.Adopting.OwnerBinding
