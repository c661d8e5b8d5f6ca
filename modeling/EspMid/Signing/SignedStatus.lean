import EspMid.Adopting.Presented
import EspMid.Codec.Did
import EspMid.Model.Document
import EspMid.Signing.Canonical

/-! # The signed status carries what was signed

The signature is over the claims of the document, and the body is put together from its other
fields, the discovery fields and the adoption, in this order and each over the one before. Read off
the body again, the claims are the signed ones, so the signature verifies; what else a caller puts
into the document changes no field of the contract (`signed_status_verifies`). -/

namespace EspMid.Signing.SignedStatus

open EspMid.Lib EspMid.Lib.Framing EspMid.Lib.SortedMap
open EspMid.Model.Core EspMid.Model.Identity EspMid.Model.SettingsAdoption EspMid.Model.Key
open EspMid.Model.Messages EspMid.Model.Document
open EspMid.Adopting.Presented (b64_encode deviceDid ownerDid)
open EspMid.Keeping.Entries (deviceName)
open EspMid.Keeping.CachedLoad (derived fromSecret_eq)
open EspMid.Keeping.SignatureCache (signatureOne)
open EspMid.Signing.Canonical

variable {X : Crates}

/-! ### The body -/

/-- The discovery fields. -/
def discovery (d : StatusDocument) : List (String × Value) :=
  [("pair", d.pair), ("maker_did", ofOption d.makerDid), ("model", .string d.model),
    ("device_did", .string d.deviceDid), ("node_id", ofOption d.nodeId)]

/-- The fields of the adoption, the last first. -/
def adoptionFields (d : StatusDocument) : List (String × Value) :=
  match d.adoption with
  | none => []
  | some a =>
    [("adoption", .string (b64Encode a.bytes)), ("adoption_kind", .string a.kind),
      ("owner_did", .string a.ownerDid)]

/-- The fields of the contract, the last first. -/
def contract (d : StatusDocument) (sig : Array8 64) : List (String × Value) :=
  ("device_sig", .string (b64Encode sig.toList)) :: (adoptionFields d ++ discovery d)

/-- The caller's fields that the contract does not name. -/
def others (d : StatusDocument) : Map String Value :=
  d.extra.entries.foldl (fun out e => if e.1 ∈ FIELDS then out else out.insert e.1 e.2) Map.empty

theorem get_others (d : StatusDocument) (k : String) :
    (others d).get k = if k ∈ FIELDS then none else d.extra.get k := by
  unfold others
  rw [Map.get_foldl_insert d.extra.nodup_keys, Map.get_empty, Option.or_none]
  rfl

theorem get_extend_plain (d : StatusDocument) (out : Map String Value) (k : String) :
    (out.extend (Map.empty.extend (discovery d)).entries).get k =
      ((discovery d).lookup k).or (out.get k) := by
  have hnodup : ((discovery d).map Prod.fst).Nodup := by
    exact (by decide : ["pair", "maker_did", "model", "device_did", "node_id"].Nodup)
  have hplain : (Map.empty.extend (discovery d)).entries.lookup k = (discovery d).lookup k := by
    refine (Map.get_extend hnodup Map.empty k).trans ?_
    rw [Map.get_empty, Option.or_none]
  rw [Map.get_extend (Map.nodup_keys _), hplain]

/-- The fields of the adoption over others. -/
def withAdoption (d : StatusDocument) (out : Map String Value) : Map String Value :=
  match d.adoption with
  | none => out
  | some a =>
    ((out.insert "owner_did" (.string a.ownerDid)).insert "adoption_kind" (.string a.kind)).insert
      "adoption" (.string (b64Encode a.bytes))

theorem get_withAdoption (d : StatusDocument) (out : Map String Value) (k : String) :
    (withAdoption d out).get k = ((adoptionFields d).lookup k).or (out.get k) := by
  unfold withAdoption adoptionFields
  cases d.adoption with
  | none => rfl
  | some a =>
    simp only [Map.get_insert, lookup_cons_eq]
    split_ifs
    · rfl
    · rfl
    · rfl
    · rfl

/-- The body as a map. -/
def bodyMap (d : StatusDocument) (sig : Array8 64) : Map String Value :=
  (withAdoption d ((others d).extend (Map.empty.extend (discovery d)).entries)).insert "device_sig"
    (.string (b64Encode sig.toList))

theorem get_bodyMap (d : StatusDocument) (sig : Array8 64) (k : String) :
    (bodyMap d sig).get k =
      ((contract d sig).lookup k).or (if k ∈ FIELDS then none else d.extra.get k) := by
  unfold bodyMap contract
  rw [Map.get_insert, get_withAdoption, get_extend_plain, get_others, lookup_cons_eq,
    List.lookup_append]
  split_ifs
  · rfl
  · rfl
  · rw [Option.or_assoc]
  · rw [Option.or_assoc]

theorem signed_eq_ok {d : StatusDocument} {nonce : Array8 32} {sign : Array8 32 → Array8 64}
    {body : Value} :
    d.signed X nonce sign = .ok body ↔ ∃ hash, (d.proof X nonce).prehash X = .ok hash ∧
      body = .object (bodyMap d (sign hash)).entries := by
  refine bind_eq_ok.trans (exists_congr fun hash => and_congr_right fun _ => ?_)
  exact ⟨fun h => (Except.ok.inj h).symm, fun h => congrArg Except.ok h.symm⟩

theorem field_of_mem (d : StatusDocument) (sig : Array8 64) {k : String} (hk : k ∈ FIELDS) :
    (Value.object (bodyMap d sig).entries).field k = (contract d sig).lookup k := by
  refine (get_bodyMap d sig k).trans ?_
  rw [if_pos hk, Option.or_none]

/-! ### Read off the body -/

/-- The claims, as a verifier reads them off a body. -/
def rebuilt (X : Crates) (nonce : Array8 32) (body : Value) : Option StatusProof := do
  let deviceDid ← body.text "device_did"
  match body.field "adoption" with
  | none => return .unadopted nonce deviceDid
  | some adoption =>
    let ownerDid ← body.text "owner_did"
    let kind ← body.text "adoption_kind"
    let bytes ← adoption.asStr.bind b64
    return .adopted X nonce deviceDid ownerDid kind bytes

/-- The signature, as a verifier reads it off a body. -/
def signatureIn (body : Value) : Option (Array8 64) :=
  ((body.text "device_sig").bind b64).bind (toArray8 64)

/-- The owner that `pair` names. -/
def pairOwner (body : Value) : Option String :=
  ((body.field "pair").bind fun pair => pair.field "paired").bind fun paired =>
    paired.text "owner_did"

theorem rebuilt_bodyMap (d : StatusDocument) (nonce : Array8 32) (sig : Array8 64) :
    rebuilt X nonce (.object (bodyMap d sig).entries) = some (d.proof X nonce) := by
  have hdevice := field_of_mem d sig (show "device_did" ∈ FIELDS by decide)
  have howner := field_of_mem d sig (show "owner_did" ∈ FIELDS by decide)
  have hkind := field_of_mem d sig (show "adoption_kind" ∈ FIELDS by decide)
  have hadoption := field_of_mem d sig (show "adoption" ∈ FIELDS by decide)
  unfold rebuilt Value.text StatusDocument.proof
  rw [hdevice, howner, hkind, hadoption]
  unfold contract adoptionFields discovery
  cases d.adoption with
  | none => simp [List.lookup_cons, Value.asStr]
  | some a => simp [List.lookup_cons, Value.asStr, b64_encode]

theorem signatureIn_bodyMap (d : StatusDocument) (sig : Array8 64) :
    signatureIn (.object (bodyMap d sig).entries) = some sig := by
  have hsig := field_of_mem d sig (show "device_sig" ∈ FIELDS by decide)
  unfold signatureIn Value.text
  rw [hsig]
  unfold contract
  simp [Value.asStr, b64_encode, toArray8_toList]

theorem pairOwner_bodyMap (d : StatusDocument) (sig : Array8 64) :
    pairOwner (.object (bodyMap d sig).entries) = d.adoption.map Adoption.ownerDid := by
  have hpair := field_of_mem d sig (show "pair" ∈ FIELDS by decide)
  unfold pairOwner
  rw [hpair]
  unfold contract adoptionFields discovery StatusDocument.pair
  cases d.adoption with
  | none => simp [List.lookup_cons, Value.field]
  | some a =>
    simp [List.lookup_cons, Value.field, Value.text, Value.asStr, ofEntries, Map.extend, Map.insert,
      Map.empty, place]

theorem adoption_bodyMap (d : StatusDocument) (sig : Array8 64) :
    ((Value.object (bodyMap d sig).entries).field "adoption").isSome = d.adoption.isSome := by
  rw [field_of_mem d sig (by decide)]
  unfold contract adoptionFields discovery
  cases d.adoption with
  | none => simp [List.lookup_cons]
  | some a => simp [List.lookup_cons]

theorem contract_extra (d : StatusDocument) (extra : Map String Value) (sig : Array8 64) :
    contract { d with extra := extra } sig = contract d sig := rfl

theorem contract_lookup_of_not_mem {d : StatusDocument} {sig : Array8 64} {k : String}
    (hk : k ∉ FIELDS) : (contract d sig).lookup k = none := by
  simp only [FIELDS, List.mem_cons, List.not_mem_nil, or_false, not_or] at hk
  obtain ⟨h1, h2, h3, h4, h5, h6, h7, h8, h9⟩ := hk
  unfold contract adoptionFields discovery
  cases d.adoption with
  | none => simp [lookup_cons_eq, h1, h2, h3, h4, h5, h9]
  | some a => simp [lookup_cons_eq, h1, h2, h3, h4, h5, h6, h7, h8, h9]

/-! ### The signer -/

/-- The signatures verify under the key that the identity names. -/
def SignsFor (X : Crates) (deviceDid : String) (sign : Array8 32 → Array8 64) : Prop :=
  ∃ d : Did X, Did.parse deviceDid = .ok d ∧
    ∀ h, verifyPrehash X d.pubkey.toList h (sign h) = .ok ()

theorem signsFor_made (L : EcdsaLaws X) {key : DeviceKey X} (hmade : Made key) {deviceDid : String}
    (hdid : key.did.toDidString = some deviceDid) : SignsFor X deviceDid key.signPrehash := by
  refine ⟨key.did, ?_, fun h => ?_⟩
  · unfold Did.toDidString at hdid
    rw [Codec.Did.write_max] at hdid
    exact Codec.Did.parse_eq_ok.mpr (Option.some.inj hdid).symm
  · exact verifyPrehash_signPrehash L hmade h (X.fromSec1Bytes_compressed _)

/-- **The signed status carries what was signed.** From the body alone a verifier reads the claims
and the signature, and the signature verifies; `pair` names an owner exactly where an adoption is
carried, and the owner of the claims. With other fields of the caller's the contract's fields are
the same, and the caller's that the contract does not name are served as they are. -/
theorem signed_status_verifies {d : StatusDocument} {nonce : Array8 32}
    {sign : Array8 32 → Array8 64} {body : Value} (hsigner : SignsFor X d.deviceDid sign)
    (h : d.signed X nonce sign = .ok body) :
    (∃ proof sig, rebuilt X nonce body = some proof ∧ signatureIn body = some sig ∧
        proof.verify X sig = .ok () ∧
        ((pairOwner body).isSome ↔ (body.field "adoption").isSome) ∧
        ∀ owner, pairOwner body = some owner → proof.ownerDid = owner) ∧
      (∀ extra, ∃ body', ({ d with extra := extra } : StatusDocument).signed X nonce sign =
          .ok body' ∧ ∀ k ∈ FIELDS, body'.field k = body.field k) ∧
      ∀ k, k ∉ FIELDS → body.field k = d.extra.get k := by
  obtain ⟨hash, hhash, rfl⟩ := signed_eq_ok.mp h
  refine ⟨⟨d.proof X nonce, sign hash, rebuilt_bodyMap d nonce _, signatureIn_bodyMap d _, ?_, ?_,
    fun owner howner => ?_⟩, fun extra => ?_, fun k hk => ?_⟩
  · obtain ⟨did, hdid, hverifies⟩ := hsigner
    have hdevice : (d.proof X nonce).deviceDid = d.deviceDid := by
      unfold StatusDocument.proof
      cases d.adoption <;> rfl
    unfold StatusProof.verify
    rw [hdevice, hdid, hhash]
    exact hverifies hash
  · rw [adoption_bodyMap, pairOwner_bodyMap, Option.isSome_map]
  · rw [pairOwner_bodyMap] at howner
    obtain ⟨a, ha, rfl⟩ := Option.map_eq_some_iff.mp howner
    unfold StatusDocument.proof
    rw [ha]
    rfl
  · have hproof : ({ d with extra := extra } : StatusDocument).proof X nonce =
        d.proof X nonce := rfl
    refine ⟨_, signed_eq_ok.mpr ⟨hash, hproof.symm ▸ hhash, rfl⟩, fun k hk => ?_⟩
    rw [field_of_mem _ _ hk, field_of_mem _ _ hk, contract_extra]
  · refine (get_bodyMap d _ k).trans ?_
    rw [contract_lookup_of_not_mem hk, if_neg hk, Option.none_or]

/-! ### An adopted device

Among the other fields is one that the contract names. -/

/-- The hash of the adoption, and of the message that is signed. -/
def adoptionHash : Array8 32 :=
  ⟨BigEndian.ofNat 32 0x039058c6f2c0cb492c533b0a4d14ef77cc0f78abccced5287d84a1a2011cfb81, by simp⟩

def statusHash : Array8 32 :=
  ⟨BigEndian.ofNat 32 0xad1d93cb7e643b35ee9ae0624c60605f4d2bab70256cdde1a4f25697c4ed32fa, by simp⟩

/-- The message. -/
def statusMessage : Bytes :=
  STATUS_DOMAIN ++ [STATUS_VERSION] ++ List.replicate 32 0 ++ be16 (byteLen deviceDid) ++
    asBytes deviceDid ++ be16 (byteLen ownerDid) ++ asBytes ownerDid ++
    be16 (byteLen KIND_MATA_STATEMENT) ++ asBytes KIND_MATA_STATEMENT ++ adoptionHash.toList

/-- The signature of its hash under the secret 1. -/
def statusSignature : Signature where
  r := ⟨0xc74419bc79ccf8e2cc2964cb20baf5ad85d7164b5378578f37fcef1876e77ca8, by decide⟩
  s := ⟨0x1cdd8016f7f0c8ee686c74ffd6195c1d02ac6ff66280a015832c360128741b77, by decide⟩

/-- The other crates, on what occurs. -/
def adopter : Crates :=
  mirror [([1, 2, 3], adoptionHash), (statusMessage, statusHash)] fun k h =>
    if k = firstKey ∧ h = statusHash then statusSignature else signatureOne

/-- The document. -/
def camera : StatusDocument where
  deviceDid := deviceDid
  makerDid := none
  model := "camera"
  nodeId := none
  adoption := some { ownerDid := ownerDid, kind := KIND_MATA_STATEMENT, bytes := [1, 2, 3] }
  extra := (Map.empty.insert "boots" (.number (.posInt 7))).insert "device_did"
    (.string "did:mata:x")

theorem signsFor_camera :
    SignsFor adopter camera.deviceDid (derived adopter secretOne deviceName).signPrehash := by
  have hmade : Made (derived adopter secretOne deviceName) :=
    .rebuilt (scalarToRepr secretOne) "cam-1" _ (by
      have hid : DeviceId.new "cam-1" = .ok deviceName := dif_pos _
      rw [fromSecret_eq, hid, scalarFromRepr_toRepr])
  have hpubkey : (derived adopter secretOne deviceName).did.pubkey = compressedPoint firstKey := rfl
  have hparse : (Did.parse deviceDid : Result (Did adopter)).map Did.pubkey =
      .ok (compressedPoint firstKey) := by
    decide +kernel
  refine ⟨(derived adopter secretOne deviceName).did, ?_, fun h =>
    verifyPrehash_signPrehash (ecdsaLaws_mirror _ _) hmade h (adopter.fromSec1Bytes_compressed _)⟩
  cases hp : (Did.parse deviceDid : Result (Did adopter)) with
  | error e => rw [hp] at hparse; cases hparse
  | ok d =>
    rw [hp] at hparse
    have hd := Did.ext ((Except.ok.inj hparse).trans hpubkey.symm)
    rw [← hd]
    exact hp

/-- Its status is signed, verifies, and serves the other field as it is. -/
theorem camera_status_verifies :
    ∃ body proof sig, camera.signed adopter (List.Vector.replicate 32 0)
        (derived adopter secretOne deviceName).signPrehash = .ok body ∧
      rebuilt adopter (List.Vector.replicate 32 0) body = some proof ∧
      signatureIn body = some sig ∧ proof.verify adopter sig = .ok () ∧
      body.field "boots" = some (.number (.posInt 7)) := by
  have hprehash : ∃ hash, (camera.proof adopter (List.Vector.replicate 32 0)).prehash adopter =
      .ok hash := by
    have hdevice : len16 (byteLen deviceDid) = .ok (be16 (byteLen deviceDid)) := by decide +kernel
    have howner : len16 (byteLen ownerDid) = .ok (be16 (byteLen ownerDid)) := by decide +kernel
    have hkind : len16 (byteLen KIND_MATA_STATEMENT) =
        .ok (be16 (byteLen KIND_MATA_STATEMENT)) := by
      decide +kernel
    unfold StatusProof.prehash StatusProof.fields StatusDocument.proof camera StatusProof.adopted
    simp only [hdevice, howner, hkind]
    exact ⟨_, rfl⟩
  obtain ⟨hash, hhash⟩ := hprehash
  have hsigned := signed_eq_ok.mpr
    ⟨hash, hhash, rfl (a := Value.object (bodyMap camera
      ((derived adopter secretOne deviceName).signPrehash hash)).entries)⟩
  obtain ⟨⟨proof, sig, hproof, hsig, hverify, -⟩, -, hothers⟩ :=
    signed_status_verifies signsFor_camera hsigned
  refine ⟨_, proof, sig, hsigned, hproof, hsig, hverify, ?_⟩
  rw [hothers "boots" (by decide)]
  unfold camera
  rw [Map.get_insert, if_neg (by decide), Map.get_insert, if_pos rfl]

end EspMid.Signing.SignedStatus
