import EspMid.Codec.Envelope
import EspMid.Model.Messages

/-! # A prehash determines what was signed

The six kinds of message the device hashes to be signed. Each kind's byte stream starts with a tag
of its own (`Kind.tag_injective`), and within a kind every field is fixed, or stands behind its
length, so the stream determines the message (`stream_injective`). -/

namespace EspMid.Codec.Messages

open EspMid.Lib EspMid.Lib.Framing
open EspMid.Model.Core EspMid.Model.Envelope EspMid.Model.Messages
open EspMid.Codec.Envelope

variable {X : Crates}

/-- A message that is hashed to be signed. -/
inductive Message where
  | adoption (f : AdoptionFields)
  | status (p : StatusProof)
  | nonce (e : NonceEnvelopeRef)
  | reply (m : Reply)
  | manifest (bytes : Bytes)
  | jws (payloadJson : Bytes)

/-- The bytes handed to SHA-256 for a message. Invalid messages have none. -/
def Streams (X : Crates) : Message → Bytes → Prop
  | .adoption f, b => (∃ caps, f.caps = .slice caps) ∧ Encodes f b
  | .status p, b => ∃ pieces, p.fields = .ok pieces ∧ b = pieces.flatten
  | .nonce e, b => e.validate X = .ok () ∧ b = e.pieces.flatten
  | .reply m, b => ∃ pieces, m.pieces = .ok pieces ∧ b = pieces.flatten
  | .manifest bytes, b => b = MANIFEST_DOMAIN ++ bytes
  | .jws payload, b => b = asBytes (signingInput payload)

/-- The prehash that is signed for a message. -/
def Prehash (X : Crates) : Message → Array8 32 → Prop
  | .adoption f, h => (∃ caps, f.caps = .slice caps) ∧ ∃ c, Encodes f c ∧ X.sha256 c = h
  | .status p, h => p.prehash X = .ok h
  | .nonce e, h => e.validate X = .ok () ∧ e.canonicalBytes X = h
  | .reply m, h => m.prehash X = .ok h
  | .manifest bytes, h => prehash X MANIFEST_DOMAIN bytes = h
  | .jws payload, h => X.sha256 (asBytes (signingInput payload)) = h

/-- What is signed is the SHA-256 of the stream. -/
theorem prehash_iff {m : Message} {h : Array8 32} :
    Prehash X m h ↔ ∃ b, Streams X m b ∧ X.sha256 b = h := by
  rcases m with f | p | e | m | bytes | payload
  · exact ⟨fun ⟨hs, c, hc, hh⟩ => ⟨c, ⟨hs, hc⟩, hh⟩, fun ⟨c, ⟨hs, hc⟩, hh⟩ => ⟨hs, c, hc, hh⟩⟩
  · simp only [Prehash, Streams, StatusProof.prehash, bind_eq_ok]
    constructor
    · rintro ⟨pieces, hp, hh⟩
      cases hh
      exact ⟨_, ⟨pieces, hp, rfl⟩, rfl⟩
    · rintro ⟨_, ⟨pieces, hp, rfl⟩, rfl⟩
      exact ⟨pieces, hp, rfl⟩
  · constructor
    · rintro ⟨hv, hh⟩
      exact ⟨_, ⟨hv, rfl⟩, hh⟩
    · rintro ⟨_, ⟨hv, rfl⟩, hh⟩
      exact ⟨hv, hh⟩
  · simp only [Prehash, Streams, Reply.prehash, bind_eq_ok]
    constructor
    · rintro ⟨pieces, hp, hh⟩
      cases hh
      exact ⟨_, ⟨pieces, hp, rfl⟩, rfl⟩
    · rintro ⟨_, ⟨pieces, hp, rfl⟩, rfl⟩
      exact ⟨pieces, hp, rfl⟩
  · simp only [Prehash, Streams, prehash, exists_eq_left]
  · simp only [Prehash, Streams, exists_eq_left]

/-! ### The kinds -/

/-- The kind of a message. -/
inductive Kind where
  | adoption
  | status
  | nonce
  | reply
  | manifest
  | jws

/-- The kind of a message, by its layout. -/
def Message.kind : Message → Kind
  | .adoption _ => .adoption
  | .status _ => .status
  | .nonce _ => .nonce
  | .reply _ => .reply
  | .manifest _ => .manifest
  | .jws _ => .jws

/-- The first eight bytes of every message of a kind. -/
def Kind.tag : Kind → Bytes
  | .adoption => asBytes "janus-ad"
  | .status => asBytes "janus-st"
  | .nonce => asBytes "kms-nonc"
  | .reply => asBytes "janus-se"
  | .manifest => asBytes "janus-ma"
  | .jws => asBytes "eyJhbGci"

theorem Kind.tag_injective : Function.Injective Kind.tag := by
  intro k k' h
  cases k <;> cases k' <;> first | rfl | exact absurd h (by decide)

theorem take_domain {d : Bytes} (r : Bytes) (hd : 8 ≤ d.length) : (d ++ r).take 8 = d.take 8 :=
  List.take_append_of_le_length hd

theorem b64_header : String.ofList (Base64Url.encode (asBytes JWS_HEADER_JSON)) =
    "eyJhbGciOiJFUzI1NiIsInR5cCI6IkpXVCJ9" := by
  decide

/-- **The kind can be read off the stream.** -/
theorem stream_tag {m : Message} {b : Bytes} (h : Streams X m b) : b.take 8 = m.kind.tag := by
  rcases m with f | p | e | m | bytes | payload
  · obtain ⟨-, hc⟩ := h
    rw [(encodes_iff.mp hc).2, layout, take_domain _ (by decide)]
    exact (by decide : ADOPTION_DOMAIN.take 8 = Kind.tag .adoption)
  · obtain ⟨pieces, hp, rfl⟩ := h
    unfold StatusProof.fields at hp
    simp only [bind_eq_ok] at hp
    obtain ⟨dev, -, own, -, kind, -, hp⟩ := hp
    cases hp
    rw [List.flatten_cons, take_domain _ (by decide)]
    exact (by decide : STATUS_DOMAIN.take 8 = Kind.tag .status)
  · obtain ⟨-, rfl⟩ := h
    rw [NonceEnvelopeRef.pieces, List.flatten_cons, take_domain _ (by decide)]
    exact (by decide : NONCE_DOMAIN.take 8 = Kind.tag .nonce)
  · obtain ⟨pieces, hp, rfl⟩ := h
    unfold Reply.pieces at hp
    obtain ⟨len, -, hp⟩ := bind_eq_ok.mp hp
    cases hp
    rw [List.flatten_cons, take_domain _ (by decide)]
    exact (by decide : REPLY_DOMAIN.take 8 = Kind.tag .reply)
  · rw [show b = MANIFEST_DOMAIN ++ bytes from h, take_domain _ (by decide)]
    exact (by decide : MANIFEST_DOMAIN.take 8 = Kind.tag .manifest)
  · rw [show b = asBytes (signingInput payload) from h, signingInput, b64_header, asBytes_append,
      asBytes_append, List.append_assoc, take_domain _ (by decide)]
    exact (by decide : (asBytes "eyJhbGciOiJFUzI1NiIsInR5cCI6IkpXVCJ9").take 8 = Kind.tag .jws)

/-! ### The fields of each kind -/

theorem delimits_str16 : Delimits (fun s => byteLen s < 2 ^ 16) str16 := inverts_readStr.delimits

theorem delimits_array (n : ℕ) : Delimits (fun _ : Array8 n => True) List.Vector.toList :=
  (inverts_readArray n).delimits

theorem delimits_be64 : Delimits (fun _ => True) be64 :=
  delimits_of_length (fun _ _ => length_be64 _) fun _ _ _ _ h => be64_injective h

theorem len16_eq_ok {n : ℕ} {b : Bytes} : len16 n = .ok b ↔ n < 2 ^ 16 ∧ b = be16 n := by
  unfold len16
  constructor
  · intro h
    split_ifs at h with hn
    cases h
    exact ⟨hn, rfl⟩
  · rintro ⟨hn, rfl⟩
    rw [if_pos hn]

theorem lp_eq {b : Bytes} (h : b.length < 2 ^ 16) : Model.Messages.lp b = framed 2 b := by
  unfold Model.Messages.lp
  rw [if_pos h]
  rfl

/-- The strings of a status are not too long for their lengths. -/
def Fits (p : StatusProof) : Prop :=
  byteLen p.deviceDid < 2 ^ 16 ∧ byteLen p.ownerDid < 2 ^ 16 ∧ byteLen p.adoptionKind < 2 ^ 16

instance (p : StatusProof) : Decidable (Fits p) := inferInstanceAs (Decidable (_ ∧ _))

/-- The message of a status, field by field. -/
def statusLayout (p : StatusProof) : Bytes :=
  STATUS_DOMAIN ++ ([STATUS_VERSION] ++ (p.nonce.toList ++ (str16 p.deviceDid ++
    (str16 p.ownerDid ++ (str16 p.adoptionKind ++ p.adoptionHash.toList)))))

theorem exists_fields_iff {p : StatusProof} : (∃ pieces, p.fields = .ok pieces) ↔ Fits p := by
  unfold StatusProof.fields Fits
  simp only [bind_eq_ok, len16_eq_ok]
  constructor
  · rintro ⟨_, _, ⟨h1, -⟩, _, ⟨h2, -⟩, _, ⟨h3, -⟩, -⟩
    exact ⟨h1, h2, h3⟩
  · rintro ⟨h1, h2, h3⟩
    exact ⟨_, _, ⟨h1, rfl⟩, _, ⟨h2, rfl⟩, _, ⟨h3, rfl⟩, rfl⟩

theorem flatten_fields {p : StatusProof} {pieces : List Bytes} (h : p.fields = .ok pieces) :
    pieces.flatten = statusLayout p := by
  unfold StatusProof.fields at h
  simp only [bind_eq_ok, len16_eq_ok] at h
  obtain ⟨_, ⟨-, rfl⟩, _, ⟨-, rfl⟩, _, ⟨-, rfl⟩, h⟩ := h
  cases h
  simp [statusLayout, str16_eq]

theorem status_inj {p p' : StatusProof} {b : Bytes} (h : Streams X (.status p) b)
    (h' : Streams X (.status p') b) : p = p' := by
  obtain ⟨pieces, hp, rfl⟩ := h
  obtain ⟨pieces', hp', hb⟩ := h'
  obtain ⟨h1, h2, h3⟩ := exists_fields_iff.mp ⟨pieces, hp⟩
  obtain ⟨h1', h2', h3'⟩ := exists_fields_iff.mp ⟨pieces', hp'⟩
  rw [flatten_fields hp, flatten_fields hp'] at hb
  have heq := List.append_cancel_left (List.append_cancel_left hb)
  obtain ⟨hnonce, heq⟩ := delimits_array 32 trivial trivial heq
  obtain ⟨hdev, heq⟩ := delimits_str16 h1 h1' heq
  obtain ⟨hown, heq⟩ := delimits_str16 h2 h2' heq
  obtain ⟨hkind, heq⟩ := delimits_str16 h3 h3' heq
  exact StatusProof.ext hnonce hdev hown hkind (List.Vector.toList_injective heq)

theorem nonce_inj {e e' : NonceEnvelopeRef} {b : Bytes} (h : Streams X (.nonce e) b)
    (h' : Streams X (.nonce e') b) : e = e' := by
  -- what validation promises of the lengths, and the pieces in order
  have layout_of : ∀ {q : NonceEnvelopeRef}, Streams X (.nonce q) b →
      (q.nonce.length < 2 ^ 16 ∧ byteLen q.did < 2 ^ 16 ∧ byteLen q.audience < 2 ^ 16 ∧
        byteLen q.purpose < 2 ^ 16 ∧ byteLen q.issuer < 2 ^ 16) ∧
      b = NONCE_DOMAIN ++ ([q.envelopeVersion] ++ (framed 2 q.nonce ++ (str16 q.did ++
        (str16 q.audience ++ (str16 q.purpose ++ (be64 q.issuedAt ++ (be64 q.expiresAt ++
          str16 q.issuer))))))) := by
    rintro q ⟨hv, rfl⟩
    unfold NonceEnvelopeRef.validate at hv
    split_ifs at hv with hver hlen hdates hstrs
    · split at hv <;> cases hv
    · split at hv <;> cases hv
    · have hall : ∀ s ∈ [q.did, q.audience, q.purpose, q.issuer], byteLen s < 2 ^ 16 := by
        intro s hs
        by_contra hlt
        exact hstrs (List.any_eq_true.mpr ⟨s, hs, decide_eq_true (by omega)⟩)
      have h1 := hall q.did (by simp)
      have h2 := hall q.audience (by simp)
      have h3 := hall q.purpose (by simp)
      have h4 := hall q.issuer (by simp)
      have h5 : q.nonce.length < 2 ^ 16 := by omega
      refine ⟨⟨h5, h1, h2, h3, h4⟩, ?_⟩
      unfold NonceEnvelopeRef.pieces
      rw [lp_eq h5, lp_eq h1, lp_eq h2, lp_eq h3, lp_eq h4]
      simp [str16]
  obtain ⟨⟨h1, h2, h3, h4, h5⟩, hb⟩ := layout_of h
  obtain ⟨⟨h1', h2', h3', h4', h5'⟩, hb'⟩ := layout_of h'
  have heq := List.append_cancel_left (hb.symm.trans hb')
  obtain ⟨hver, heq⟩ := inverts_readU8.delimits trivial trivial heq
  obtain ⟨hnonce, heq⟩ := delimits_framed 2 h1 h1' heq
  obtain ⟨hdid, heq⟩ := delimits_str16 h2 h2' heq
  obtain ⟨haud, heq⟩ := delimits_str16 h3 h3' heq
  obtain ⟨hpur, heq⟩ := delimits_str16 h4 h4' heq
  obtain ⟨hiss, heq⟩ := delimits_be64 trivial trivial heq
  obtain ⟨hexp, heq⟩ := delimits_be64 trivial trivial heq
  have hissuer := delimits_str16.injOn h5 h5' heq
  exact NonceEnvelopeRef.ext hver hnonce hdid haud hpur hiss hexp hissuer

theorem reply_inj {m m' : Reply} {b : Bytes} (h : Streams X (.reply m) b)
    (h' : Streams X (.reply m') b) : m = m' := by
  have layout_of : ∀ {q : Reply}, Streams X (.reply q) b → q.context.length < 2 ^ 16 ∧
      b = REPLY_DOMAIN ++ (framed 2 q.context ++ (q.shareP.toList ++ (q.shareV.toList ++
        q.confirmV.toList))) := by
    rintro q ⟨pieces, hq, rfl⟩
    unfold Reply.pieces at hq
    simp only [bind_eq_ok, len16_eq_ok] at hq
    obtain ⟨_, ⟨h1, rfl⟩, hq⟩ := hq
    cases hq
    exact ⟨h1, by simp [framed, be16]⟩
  obtain ⟨h1, hb⟩ := layout_of h
  obtain ⟨h1', hb'⟩ := layout_of h'
  have heq := List.append_cancel_left (hb.symm.trans hb')
  obtain ⟨hctx, heq⟩ := delimits_framed 2 h1 h1' heq
  obtain ⟨hp, heq⟩ := delimits_array 65 trivial trivial heq
  obtain ⟨hv, heq⟩ := delimits_array 65 trivial trivial heq
  exact Reply.ext hctx hp hv (List.Vector.toList_injective heq)

theorem jws_inj {p p' : Bytes} (h : signingInput p = signingInput p') : p = p' := by
  unfold signingInput at h
  have hb := congrArg String.toList h
  simp only [String.toList_append, String.toList_ofList, List.append_assoc,
    List.append_cancel_left_eq] at hb
  exact Base64Url.encode_injective hb

/-- **The stream determines the message**, its kind and every field. -/
theorem stream_injective {m m' : Message} {b : Bytes} (h : Streams X m b) (h' : Streams X m' b) :
    m = m' := by
  have hkind : m.kind = m'.kind :=
    Kind.tag_injective ((stream_tag h).symm.trans (stream_tag h'))
  cases m <;> cases m' <;> cases hkind
  case adoption f f' =>
    obtain ⟨⟨caps, hcaps⟩, hc⟩ := h
    obtain ⟨⟨caps', hcaps'⟩, hc'⟩ := h'
    obtain ⟨hv, rfl⟩ := encodes_iff.mp hc
    obtain ⟨hv', hb⟩ := encodes_iff.mp hc'
    have hs := congrArg (· ++ (List.Vector.replicate 64 (0 : UInt8)).toList) hb
    exact congrArg _ (layout_append_inj hcaps hcaps' (validate_eq_ok.mp hv)
      (validate_eq_ok.mp hv') hs).1
  case status p p' => exact congrArg _ (status_inj h h')
  case nonce e e' => exact congrArg _ (nonce_inj h h')
  case reply r r' => exact congrArg _ (reply_inj h h')
  case manifest c c' =>
    exact congrArg _ (List.append_cancel_left (Eq.trans (Eq.symm h) h'))
  case jws p p' =>
    exact congrArg _ (jws_inj (asBytes_injective (Eq.trans (Eq.symm h) h')))

/-- **What is signed is determined.** Equal streams are of equal messages; messages with equal
prehashes are equal, or their streams collide. -/
theorem signed_prehash_determines_message (X : Crates) :
    (∀ m m' b, Streams X m b → Streams X m' b → m.kind = m'.kind ∧ m = m') ∧
      ∀ m m' h, Prehash X m h → Prehash X m' h →
        m = m' ∨ ∃ b b', Streams X m b ∧ Streams X m' b' ∧ b ≠ b' ∧ X.sha256 b = X.sha256 b' := by
  refine ⟨fun m m' b h h' => ?_, fun m m' h hm hm' => ?_⟩
  · have heq := stream_injective h h'
    exact ⟨congrArg Message.kind heq, heq⟩
  · obtain ⟨b, hb, hh⟩ := prehash_iff.mp hm
    obtain ⟨b', hb', hh'⟩ := prehash_iff.mp hm'
    by_cases hbb : b = b'
    · subst hbb
      exact Or.inl (stream_injective hb hb')
    · exact Or.inr ⟨b, b', hb, hb', hbb, hh.trans hh'.symm⟩

/-! ### A status and a reply -/

/-- The status of a device without an owner. -/
def unadopted : StatusProof where
  nonce := List.Vector.replicate 32 0
  deviceDid := "did:mata:device"
  ownerDid := ""
  adoptionKind := "none"
  adoptionHash := List.Vector.replicate 32 0

/-- A reply in an empty context. -/
def bareReply : Reply where
  context := []
  shareP := List.Vector.replicate 65 4
  shareV := List.Vector.replicate 65 4
  confirmV := List.Vector.replicate 32 0

/-- A status is signed, and so is a reply, and not as the same bytes. -/
theorem status_and_reply_differ :
    ∃ b b', Streams (Model.Identity.threeKeys [] [] []) (.status unadopted) b ∧
      Streams (Model.Identity.threeKeys [] [] []) (.reply bareReply) b' ∧ b ≠ b' := by
  obtain ⟨pieces, hpieces⟩ := exists_fields_iff.mpr (by decide : Fits unadopted)
  have hstatus : Streams (Model.Identity.threeKeys [] [] []) (.status unadopted) pieces.flatten :=
    ⟨pieces, hpieces, rfl⟩
  refine ⟨_, _, hstatus, ⟨_, rfl, rfl⟩, fun heq => ?_⟩
  have hreply : Streams (Model.Identity.threeKeys [] [] []) (.reply bareReply) pieces.flatten :=
    ⟨_, rfl, heq⟩
  have hkind := ((signed_prehash_determines_message _).1 _ _ _ hstatus hreply).1
  cases hkind

end EspMid.Codec.Messages
