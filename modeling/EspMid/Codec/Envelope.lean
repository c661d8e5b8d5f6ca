import EspMid.Model.Envelope

/-! # The envelope's encoder and decoder are inverse

The layout of an adoption is the concatenation of its fields (`layout`). The encoder writes exactly
that (`encode_of_valid`), since its writes compose (`Writer.bytes_bind`); each reader of the decoder
inverts the writer of its field (`inverts_readStr`, `inverts_readArray`), so what decodes is a
layout and a signature (`decode_eq_ok`). -/

namespace EspMid.Codec.Envelope

open EspMid.Lib EspMid.Lib.Framing
open EspMid.Model.Core EspMid.Model.Capability EspMid.Model.Envelope

/-! ### The readers -/

/-- A string as it is laid out: behind its length in two bytes. -/
def str16 (s : String) : Bytes := framed 2 (asBytes s)

@[simp] theorem length_str16 (s : String) : (str16 s).length = 2 + byteLen s := by
  simp [str16, byteLen]

theorem str16_eq (s : String) : str16 s = be16 (byteLen s) ++ asBytes s := rfl

theorem tryInto_eq_ok {n : ℕ} {b : Bytes} {a : Array8 n} : tryInto n b = .ok a ↔ b = a.toList := by
  unfold tryInto toArray8
  constructor
  · intro h
    split at h
    · cases h
    · next a' ha =>
      split_ifs at ha
      cases ha
      cases h
      rfl
  · rintro rfl
    rw [dif_pos a.toList_length]
    rfl

theorem inverts_readU8 : Inverts readU8 (fun b => [b]) fun _ => True := by
  constructor
  · intro b r _
    rfl
  · intro b a r h
    rcases b with _ | ⟨x, b⟩
    · cases h
    · cases h
      exact ⟨trivial, rfl⟩

/-- **Fixed arrays.** -/
theorem inverts_readArray (n : ℕ) : Inverts (readArray n) List.Vector.toList fun _ => True := by
  constructor
  · intro a r _
    have hlen : ¬ (a.toList ++ r).length < n := by simp
    unfold readArray
    rw [if_neg hlen, List.take_left' a.toList_length, List.drop_left' a.toList_length,
      tryInto_eq_ok.mpr rfl]
    rfl
  · intro b a r h
    unfold readArray at h
    split_ifs at h
    obtain ⟨head, hhead, h⟩ := bind_eq_ok.mp h
    cases h
    rw [← tryInto_eq_ok.mp hhead, List.take_append_drop]
    exact ⟨trivial, rfl⟩

/-- **Strings.** -/
theorem inverts_readStr : Inverts readStr str16 fun s => byteLen s < 2 ^ 16 := by
  constructor
  · intro s r hs
    have hlen : (be16 (byteLen s)).length = 2 := length_be16 _
    have hread := (inverts_readArray 2).reads ⟨be16 (byteLen s), hlen⟩ (asBytes s ++ r) trivial
    have hn : BigEndian.toNat (be16 (byteLen s)) = (asBytes s).length :=
      BigEndian.toNat_ofNat_of_lt hs
    unfold readStr
    rw [str16_eq, List.append_assoc, show be16 (byteLen s) ++ (asBytes s ++ r) =
      List.Vector.toList ⟨be16 (byteLen s), hlen⟩ ++ (asBytes s ++ r) from rfl, hread, ok_bind]
    simp only [List.Vector.toList_mk, hn]
    rw [if_neg (by simp), List.take_left, List.drop_left, fromUtf8_asBytes]
  · intro b s r h
    unfold readStr at h
    obtain ⟨⟨len, rest⟩, hlen, hrest⟩ := bind_eq_ok.mp h
    obtain ⟨-, rfl⟩ := (inverts_readArray 2).wrote _ _ _ hlen
    simp only at hrest
    split_ifs at hrest with hlt
    split at hrest
    · cases hrest
    · next s' hs =>
      cases hrest
      have hbytes := fromUtf8_eq_some.mp hs
      have hbl : byteLen s = BigEndian.toNat len.toList := by
        unfold byteLen
        rw [hbytes, List.length_take]
        omega
      have hlt16 := BigEndian.toNat_lt len.toList
      have hl2 := len.toList_length
      rw [hl2] at hlt16
      have hbe : be16 (byteLen s) = len.toList := by
        have hround := BigEndian.ofNat_toNat len.toList
        rw [hl2] at hround
        unfold be16
        rw [hbl, hround]
      refine ⟨by omega, ?_⟩
      rw [str16_eq, hbe, hbytes, List.append_assoc, List.take_append_drop]

theorem expect_eq_ok {r lit r' : Bytes} : expect r lit = .ok r' ↔ r = lit ++ r' := by
  unfold expect
  constructor
  · intro h
    split_ifs at h with hc
    push Not at hc
    cases h
    calc r = r.take lit.length ++ r.drop lit.length := (List.take_append_drop _ _).symm
      _ = lit ++ r.drop lit.length := by rw [hc.2]
  · rintro rfl
    rw [if_neg (by simp), List.drop_left]

/-! ### The layout -/

/-- The canonical bytes of an adoption, field by field. -/
def layout (f : AdoptionFields) : Bytes :=
  ADOPTION_DOMAIN ++ ([ADOPTION_VERSION] ++ (str16 f.deviceDid ++ (str16 f.ownerDid ++
    (f.ownerGenesisPubkey.toList ++ (f.hubEndpointId.toList ++ (str16 f.hubRelay ++
      (str16 f.hubHost ++ ([UInt8.ofNat f.caps.len] ++ (f.caps.iter.toList.flatMap str16 ++
        (be32 f.rosterVersion ++ (be64 f.issuedAt ++ be64 f.expiresAt)))))))))))

theorem canonicalLen_eq (f : AdoptionFields) : f.canonicalLen = (layout f).length := by
  have hfold : ∀ (l : List String) (n : ℕ),
      l.foldl (fun n cap => n + (2 + byteLen cap)) n = n + (l.flatMap str16).length := by
    intro l
    induction l with
    | nil => intro n; rfl
    | cons s l ih =>
      intro n
      rw [List.foldl_cons, ih, List.flatMap_cons, List.length_append, length_str16]
      omega
  unfold AdoptionFields.canonicalLen layout
  simp only [hfold, List.length_append, List.length_singleton, length_str16, length_be32,
    length_be64, List.Vector.toList_length]
  omega

/-! ### The encoder -/

theorem Writer.bytes_bind (w : Writer) (a b : Bytes) :
    ((w.bytes a).bind fun w => w.bytes b) = w.bytes (a ++ b) := by
  unfold Writer.bytes
  by_cases ha : w.pos + a.length ≤ w.out.length
  · have hlen : (w.out.take w.pos ++ a).length = w.pos + a.length := by
      rw [List.length_append, List.length_take]
      omega
    rw [if_pos ha]
    simp only [Option.bind_some, List.length_append, List.length_drop, List.length_take]
    by_cases hab : w.pos + (a.length + b.length) ≤ w.out.length
    · have hdrop : (w.out.take w.pos ++ a ++ w.out.drop (w.pos + a.length)).drop
          (w.pos + a.length + b.length) = w.out.drop (w.pos + (a.length + b.length)) := by
        rw [← List.drop_drop, List.drop_left' hlen, List.drop_drop, Nat.add_assoc]
      rw [if_pos (by omega), if_pos hab, List.take_left' hlen, hdrop, Nat.add_assoc,
        List.append_assoc (w.out.take w.pos)]
    · rw [if_neg (by omega), if_neg hab]
  · rw [if_neg ha, if_neg (by rw [List.length_append]; omega)]
    rfl

theorem Writer.str16_eq (w : Writer) (s : String) : w.str16 s = w.bytes (str16 s) :=
  Writer.bytes_bind w _ _

theorem Writer.strs_bind (l : List String) (b : Bytes) :
    ∀ w : Writer, ((l.foldlM Writer.str16 w).bind fun w => w.bytes b) =
      w.bytes (l.flatMap Codec.Envelope.str16 ++ b) := by
  induction l with
  | nil => intro w; rfl
  | cons s l ih =>
    intro w
    rw [List.foldlM_cons, Option.bind_eq_bind, Option.bind_assoc]
    simp only [ih, Writer.str16_eq, Writer.bytes_bind, List.flatMap_cons, List.append_assoc]

theorem Writer.pos_le {w w' : Writer} {b : Bytes} (h : w.bytes b = some w') :
    w'.pos ≤ w'.out.length := by
  unfold Writer.bytes at h
  split_ifs at h
  cases h
  simp only [List.length_append, List.length_take, List.length_drop]
  omega

/-- **Pieces** written one after the other are one write. -/
theorem Writer.pieces_eq (pieces : List Bytes) : ∀ w : Writer, w.pos ≤ w.out.length →
    pieces.foldlM Writer.bytes w = w.bytes pieces.flatten := by
  induction pieces with
  | nil =>
    intro w hw
    unfold Writer.bytes
    simp [hw]
  | cons b pieces ih =>
    intro w _
    rw [List.foldlM_cons, Option.bind_eq_bind, List.flatten_cons, ← Writer.bytes_bind]
    exact Option.bind_congr fun w' hw' => ih w' (Writer.pos_le hw')

theorem write_eq (f : AdoptionFields) (w : Writer) : f.write w = w.bytes (layout f) := by
  unfold AdoptionFields.write layout
  simp only [Option.bind_eq_bind, Writer.str16_eq, Writer.bytes_bind, Writer.strs_bind]

/-- **The encoder** of valid fields writes their layout, if the buffer holds it. -/
theorem encode_of_valid {f : AdoptionFields} (hf : f.validate = .ok ()) (out : Bytes) :
    f.encode out =
      if out.length < (layout f).length then
        some (.error (.bufferTooSmall (layout f).length), out)
      else some (.ok (layout f).length, layout f ++ out.drop (layout f).length) := by
  unfold AdoptionFields.encode
  rw [hf]
  simp only [canonicalLen_eq, write_eq]
  split_ifs with h
  · rfl
  · unfold Writer.bytes
    rw [if_pos (by simp only; omega)]
    simp

theorem encode_of_invalid {f : AdoptionFields} {e : Error} (hf : f.validate = .error e)
    (out : Bytes) : f.encode out = some (.error e, out) := by
  unfold AdoptionFields.encode
  rw [hf]

/-- The encoder writes exactly `c`, into every buffer that holds it. -/
def Encodes (f : AdoptionFields) (c : Bytes) : Prop :=
  ∀ out, c.length ≤ out.length → f.encode out = some (.ok c.length, c ++ out.drop c.length)

theorem encodes_iff {f : AdoptionFields} {c : Bytes} :
    Encodes f c ↔ f.validate = .ok () ∧ c = layout f := by
  constructor
  · intro h
    have hc := h (List.replicate c.length 0) (by simp)
    cases hv : f.validate with
    | error e => rw [encode_of_invalid hv] at hc; simp at hc
    | ok u =>
      rw [encode_of_valid hv] at hc
      split_ifs at hc with hlt
      · simp at hc
      · simp only [Option.some.injEq, Prod.mk.injEq, Except.ok.injEq] at hc
        exact ⟨rfl, (List.append_inj hc.2 hc.1).1.symm⟩
  · rintro ⟨hv, rfl⟩ out hout
    rw [encode_of_valid hv, if_neg (by omega)]

/-! ### Validation -/

/-- What valid fields are. -/
structure Valid (f : AdoptionFields) : Prop where
  strs : ∀ s ∈ [f.deviceDid, f.ownerDid, f.hubRelay, f.hubHost], byteLen s ≤ MAX_FIELD_LEN
  named : byteLen f.deviceDid ≠ 0 ∧ byteLen f.ownerDid ≠ 0
  few : f.caps.len ≤ MAX_CAPS
  caps : ∀ c ∈ f.caps.iter.toList, byteLen c ≤ MAX_FIELD_LEN ∧ (Cap.parse c).isSome
  dates : f.expiresAt = 0 ∨ f.issuedAt < f.expiresAt

theorem validate_eq_ok {f : AdoptionFields} : f.validate = .ok () ↔ Valid f := by
  unfold AdoptionFields.validate
  constructor
  · intro h
    split_ifs at h with h1 h2 h3 h4 h5
    refine ⟨?_, not_or.mp h2, not_lt.mp h3, ?_, ?_⟩
    · intro s hs
      by_contra hlt
      exact h1 (List.any_eq_true.mpr ⟨s, hs, decide_eq_true (not_le.mp hlt)⟩)
    · intro c hc
      by_contra hbad
      refine h4 (List.any_eq_true.mpr ⟨c, hc, ?_⟩)
      rw [not_and_or, not_le] at hbad
      rcases hbad with hbad | hbad
      · simp [hbad]
      · simp [Option.not_isSome_iff_eq_none.mp hbad]
    · by_contra hbad
      rw [not_or, UInt64.not_lt] at hbad
      exact h5 hbad
  · intro h
    rw [if_neg, if_neg (not_or.mpr h.named), if_neg (not_lt.mpr h.few), if_neg, if_neg]
    · rintro ⟨h0, hle⟩
      rcases h.dates with hz | hlt
      · exact h0 hz
      · exact absurd hle (UInt64.not_le.mpr hlt)
    · intro hany
      obtain ⟨c, hc, hbad⟩ := List.any_eq_true.mp hany
      obtain ⟨hlen, hparse⟩ := h.caps c hc
      rw [Option.isSome_iff_ne_none] at hparse
      rcases (Bool.or_eq_true _ _).mp hbad with hb | hb
      · exact absurd hlen (not_le.mpr (of_decide_eq_true hb))
      · exact hparse (Option.isNone_iff_eq_none.mp hb)
    · intro hany
      obtain ⟨s, hs, hbad⟩ := List.any_eq_true.mp hany
      exact absurd (h.strs s hs) (not_le.mpr (of_decide_eq_true hbad))

theorem Valid.lt {f : AdoptionFields} (h : Valid f) :
    byteLen f.deviceDid < 2 ^ 16 ∧ byteLen f.ownerDid < 2 ^ 16 ∧ byteLen f.hubRelay < 2 ^ 16 ∧
      byteLen f.hubHost < 2 ^ 16 ∧ f.caps.len < 256 ∧
      ∀ c ∈ f.caps.iter.toList, byteLen c < 2 ^ 16 := by
  have h1 := h.strs f.deviceDid (by simp)
  have h2 := h.strs f.ownerDid (by simp)
  have h3 := h.strs f.hubRelay (by simp)
  have h4 := h.strs f.hubHost (by simp)
  have h5 := h.few
  unfold MAX_FIELD_LEN at h1 h2 h3 h4
  unfold MAX_CAPS at h5
  refine ⟨by omega, by omega, by omega, by omega, by omega, fun c hc => ?_⟩
  have h6 := (h.caps c hc).1
  unfold MAX_FIELD_LEN at h6
  omega

/-! ### The decoder -/

theorem wireStrs_flatMap (caps : List String) (hcaps : ∀ c ∈ caps, byteLen c < 2 ^ 16) (r : Bytes) :
    CapIter.wireStrs caps.length (caps.flatMap str16 ++ r) = caps := by
  induction caps with
  | nil => rfl
  | cons c caps ih =>
    have hread := inverts_readStr.reads c (caps.flatMap str16 ++ r) (hcaps c (by simp))
    rw [List.length_cons, List.flatMap_cons, List.append_assoc]
    unfold CapIter.wireStrs
    simp only [hread, ih fun x hx => hcaps x (by simp [hx])]

/-- The wire form of a list of capabilities. -/
def wireCaps (caps : List String) : CapList := .wire (UInt8.ofNat caps.length) (caps.flatMap str16)

theorem toNat_count {n : ℕ} (h : n < 256) : (UInt8.ofNat n).toNat = n := by
  rw [UInt8.toNat_ofNat', Nat.mod_eq_of_lt h]

theorem wireCaps_iter {caps : List String} (hlen : caps.length < 256)
    (hcaps : ∀ c ∈ caps, byteLen c < 2 ^ 16) :
    (wireCaps caps).len = caps.length ∧ (wireCaps caps).iter.toList = caps := by
  have hstrs := wireStrs_flatMap caps hcaps []
  rw [List.append_nil] at hstrs
  refine ⟨toNat_count hlen, ?_⟩
  unfold wireCaps CapList.iter CapIter.toList
  simp only [toNat_count hlen, hstrs]

/-- Fields are laid out and valid alike in either form of the capability list. -/
theorem wire_same {f : AdoptionFields} {caps : List String} (hcaps : f.caps = .slice caps)
    (hf : Valid f) :
    layout { f with caps := wireCaps caps } = layout f ∧
      Valid { f with caps := wireCaps caps } := by
  have hlt := hf.lt
  have hc : f.caps.len = caps.length ∧ f.caps.iter.toList = caps := by
    rw [hcaps]
    exact ⟨rfl, rfl⟩
  rw [hc.1, hc.2] at hlt
  obtain ⟨h1, h2⟩ := wireCaps_iter hlt.2.2.2.2.1 hlt.2.2.2.2.2
  refine ⟨?_, hf.strs, hf.named, ?_, ?_, hf.dates⟩
  · unfold layout
    simp only [h1, h2, hc.1, hc.2]
  · simpa only [h1, ← hc.1] using hf.few
  · simp only [h2]
    exact hc.2 ▸ hf.caps

/-- **The decoder** returns valid fields, laid out before the signature, their capabilities in wire
form; and it returns all of these. -/
theorem decode_eq_ok {b : Bytes} {a : Adoption} :
    Adoption.decode b = .ok a ↔
      Valid a.fields ∧ a.canonical = layout a.fields ∧ b = a.canonical ++ a.signature.toList ∧
        ∃ caps : List String, a.fields.caps = wireCaps caps ∧ caps.length < 256 ∧
          ∀ c ∈ caps, byteLen c < 2 ^ 16 := by
  constructor
  · intro h
    unfold Adoption.decode at h
    split_ifs at h with hlen
    simp only [bind_eq_ok, tryInto_eq_ok, expect_eq_ok, Prod.exists, inverts_readU8.read_iff] at h
    obtain ⟨signature, hsig, r0, hr0, version, r1, ⟨-, hr1⟩, h⟩ := h
    split_ifs at h with hv
    simp only [bind_eq_ok, Prod.exists, inverts_readU8.read_iff, inverts_readStr.read_iff,
      (inverts_readArray _).read_iff, (inverts_readStr.many _).read_iff] at h
    obtain ⟨deviceDid, r2, ⟨-, hr2⟩, ownerDid, r3, ⟨-, hr3⟩, pubkey, r4, ⟨-, hr4⟩, hub, r5, ⟨-, hr5⟩,
      relay, r6, ⟨-, hr6⟩, host, r7, ⟨-, hr7⟩, count, r8, ⟨-, hr8⟩, caps, r9,
      ⟨⟨hcount, hcaps⟩, hr9⟩, rv, r10, ⟨-, hr10⟩, ia, r11, ⟨-, hr11⟩, ea, r12, ⟨-, hr12⟩, h⟩ := h
    split_ifs at h with hempty
    obtain ⟨u, hvalid, h⟩ := bind_eq_ok.mp h
    cases h
    -- the bytes read as capabilities are the strings' own
    have hbytes : r8.take (r8.length - r9.length) = caps.flatMap str16 := by
      rw [hr9, List.length_append, Nat.add_sub_cancel, List.take_left]
    have hcount' : UInt8.ofNat caps.length = count := by
      rw [hcount, UInt8.ofNat_toNat]
    have hlt : caps.length < 256 := hcount ▸ count.toNat_lt
    have hwire : CapList.wire count (r8.take (r8.length - r9.length)) = wireCaps caps := by
      rw [hbytes, ← hcount', wireCaps]
    have hr12' : r12 = [] := List.isEmpty_iff.mp hempty
    obtain ⟨hn, hstrs⟩ := wireCaps_iter hlt hcaps
    simp only [hwire] at hvalid ⊢
    refine ⟨validate_eq_ok.mp hvalid, ?_, ?_, caps, rfl, hlt, hcaps⟩
    · unfold layout
      simp only [hn, hstrs, be32_ofBe32 rv.toList_length, be64_ofBe64 ia.toList_length,
        be64_ofBe64 ea.toList_length, hcount', ← not_not.mp hv]
      rw [hr0, hr1, hr2, hr3, hr4, hr5, hr6, hr7, hr8, hr9, hr10, hr11, hr12, hr12',
        List.append_nil]
    · rw [← hsig, List.take_append_drop]
  · rintro ⟨hvalid, hcanon, rfl, caps, hwire, hlt, hcaps⟩
    obtain ⟨⟨deviceDid, ownerDid, pubkey, hub, relay, host, capList, rv, ia, ea⟩, signature,
      canonical⟩ := a
    simp only at hvalid hcanon hwire ⊢
    subst hwire hcanon
    obtain ⟨hl1, hl2, hl3, hl4, -, -⟩ := hvalid.lt
    have hsigLen : signature.toList.length = SIG_LEN := signature.toList_length
    obtain ⟨hn, hstrs⟩ := wireCaps_iter hlt hcaps
    generalize hL : layout _ = L
    have hlen : ¬ (L ++ signature.toList).length < ADOPTION_DOMAIN.length + 1 + SIG_LEN := by
      rw [← hL, layout, List.length_append, List.length_append, List.length_append, hsigLen,
        List.length_singleton]
      omega
    have hcut : (L ++ signature.toList).length - SIG_LEN = L.length := by
      rw [List.length_append, hsigLen, Nat.add_sub_cancel]
    unfold layout at hL
    simp only [hn, hstrs] at hL
    unfold Adoption.decode
    rw [if_neg hlen, hcut, List.take_left, List.drop_left]
    simp only [bind_eq_ok, tryInto_eq_ok, expect_eq_ok, Prod.exists, inverts_readU8.read_iff]
    refine ⟨signature, rfl, _, hL.symm, ADOPTION_VERSION, _, ⟨trivial, rfl⟩, ?_⟩
    rw [if_neg (not_not.mpr rfl)]
    simp only [bind_eq_ok, Prod.exists, inverts_readU8.read_iff, inverts_readStr.read_iff,
      (inverts_readArray _).read_iff, (inverts_readStr.many _).read_iff]
    refine ⟨deviceDid, _, ⟨hl1, rfl⟩, ownerDid, _, ⟨hl2, rfl⟩, pubkey, _, ⟨trivial, rfl⟩, hub, _,
      ⟨trivial, rfl⟩, relay, _, ⟨hl3, rfl⟩, host, _, ⟨hl4, rfl⟩, UInt8.ofNat caps.length, _,
      ⟨trivial, rfl⟩, caps, _, ⟨⟨(toNat_count hlt).symm, hcaps⟩, rfl⟩,
      ⟨be32 rv, length_be32 rv⟩, _, ⟨trivial, rfl⟩, ⟨be64 ia, length_be64 ia⟩, _, ⟨trivial, rfl⟩,
      ⟨be64 ea, length_be64 ea⟩, [], ⟨trivial, (List.append_nil _).symm⟩, ?_⟩
    rw [if_neg (by simp)]
    rw [List.length_append, Nat.add_sub_cancel, List.take_left]
    simp only [List.Vector.toList_mk, ofBe32_be32, ofBe64_be64]
    exact bind_eq_ok.mpr ⟨(), validate_eq_ok.mpr hvalid, rfl⟩

/-- Written fields and a signature decode to themselves, the capabilities in wire form. -/
theorem decode_layout {f : AdoptionFields} {caps : List String} (hcaps : f.caps = .slice caps)
    (hf : Valid f) (s : Array8 64) :
    Adoption.decode (layout f ++ s.toList) =
      .ok { fields := { f with caps := wireCaps caps }, signature := s, canonical := layout f } := by
  have hlt := hf.lt
  have hc : f.caps.len = caps.length ∧ f.caps.iter.toList = caps := by
    rw [hcaps]
    exact ⟨rfl, rfl⟩
  rw [hc.1, hc.2] at hlt
  obtain ⟨hlay, hval⟩ := wire_same hcaps hf
  exact decode_eq_ok.mpr
    ⟨hval, hlay.symm, rfl, caps, rfl, hlt.2.2.2.2.1, hlt.2.2.2.2.2⟩

/-- **The layout is uniquely readable**, the signature behind it included. -/
theorem layout_append_inj {f f' : AdoptionFields} {caps caps' : List String}
    (hcaps : f.caps = .slice caps) (hcaps' : f'.caps = .slice caps') (hf : Valid f) (hf' : Valid f')
    {s s' : Array8 64} (h : layout f ++ s.toList = layout f' ++ s'.toList) : f = f' ∧ s = s' := by
  have hd := decode_layout hcaps hf s
  rw [h, decode_layout hcaps' hf' s'] at hd
  simp only [Except.ok.injEq, Adoption.mk.injEq] at hd
  obtain ⟨hfields, hs, -⟩ := hd
  have hlt := hf.lt.2.2.2.2
  have hlt' := hf'.lt.2.2.2.2
  rw [hcaps] at hlt
  rw [hcaps'] at hlt'
  -- the lists are equal because their wire forms read back as them
  have hwire : wireCaps caps' = wireCaps caps := congrArg AdoptionFields.caps hfields
  have hstrs := (wireCaps_iter hlt'.1 hlt'.2).2
  rw [hwire, (wireCaps_iter hlt.1 hlt.2).2] at hstrs
  obtain ⟨d, o, p, e, r, h, c, v, i, x⟩ := f
  obtain ⟨d', o', p', e', r', h', c', v', i', x'⟩ := f'
  simp only at hcaps hcaps'
  subst hcaps hcaps' hstrs
  simp only [AdoptionFields.mk.injEq] at hfields ⊢
  exact ⟨by tauto, hs.symm⟩

/-! ### What decodes is what is encoded -/

/-- The bytes are what `f` encodes to, from a slice of capabilities, and a signature. -/
structure IsEncoding (b : Bytes) (f : AdoptionFields) (s : Array8 64) : Prop where
  slice : ∃ caps, f.caps = .slice caps
  valid : f.validate = .ok ()
  split : ∃ c, Encodes f c ∧ b = c ++ s.toList

theorem isEncoding_iff {b : Bytes} {f : AdoptionFields} {s : Array8 64} :
    IsEncoding b f s ↔ (∃ caps, f.caps = .slice caps) ∧ Valid f ∧ b = layout f ++ s.toList := by
  constructor
  · rintro ⟨hslice, hvalid, c, hc, hb⟩
    rw [(encodes_iff.mp hc).2] at hb
    exact ⟨hslice, validate_eq_ok.mp hvalid, hb⟩
  · rintro ⟨hslice, hvalid, hb⟩
    have hok := validate_eq_ok.mpr hvalid
    exact ⟨hslice, hok, layout f, encodes_iff.mpr ⟨hok, rfl⟩, hb⟩

theorem IsEncoding.unique {b : Bytes} {f f' : AdoptionFields} {s s' : Array8 64}
    (h : IsEncoding b f s) (h' : IsEncoding b f' s') : f = f' ∧ s = s' := by
  obtain ⟨⟨caps, hcaps⟩, hf, hb⟩ := isEncoding_iff.mp h
  obtain ⟨⟨caps', hcaps'⟩, hf', hb'⟩ := isEncoding_iff.mp h'
  exact layout_append_inj hcaps hcaps' hf hf' (hb.symm.trans hb')

/-- What decodes is an encoding of the same fields, with the capabilities as a slice. -/
theorem isEncoding_of_decode {b : Bytes} {a : Adoption} (h : Adoption.decode b = .ok a) :
    IsEncoding b { a.fields with caps := .slice a.fields.caps.iter.toList } a.signature := by
  obtain ⟨hvalid, hcanon, hb, caps, hwire, hlt, hcaps⟩ := decode_eq_ok.mp h
  obtain ⟨hn, hstrs⟩ := wireCaps_iter hlt hcaps
  rw [← hwire] at hn hstrs
  have hslice : Valid { a.fields with caps := .slice a.fields.caps.iter.toList } := by
    refine ⟨hvalid.strs, hvalid.named, ?_, hvalid.caps, hvalid.dates⟩
    have hfew := hvalid.few
    rw [hn] at hfew
    rw [hstrs]
    exact hfew
  refine isEncoding_iff.mpr ⟨⟨_, rfl⟩, hslice, ?_⟩
  have hlist : AdoptionFields.caps { a.fields with caps := .slice a.fields.caps.iter.toList } =
      .slice caps := by
    rw [hstrs]
  obtain ⟨hlay, -⟩ := wire_same hlist hslice
  rw [← hlay, hb, hcanon]
  simp only [← hwire]

/-- **The decoder accepts exactly what the encoder writes.** The fields and the signature are
unique, the decoded fields equal them, the capability iterator drops none of the strings, and the
decoded fields encode to the bytes that were signed. -/
theorem decode_accepts_exactly_encodings (b : Bytes) :
    ((∃ a, Adoption.decode b = .ok a) ↔ ∃ f s, IsEncoding b f s) ∧
      (∀ f s f' s', IsEncoding b f s → IsEncoding b f' s' → f = f' ∧ s = s') ∧
      ∀ a f s, Adoption.decode b = .ok a → IsEncoding b f s →
        a.signature = s ∧ Encodes f a.canonical ∧ a.fields = { f with caps := a.fields.caps } ∧
          f.caps = .slice a.fields.caps.iter.toList ∧
          a.fields.caps.iter.toList.length = a.fields.caps.len ∧
          (∀ cap ∈ a.fields.caps.iter.toList, (Cap.parse cap).isSome) ∧
          Encodes a.fields a.canonical := by
  refine ⟨⟨fun ⟨a, ha⟩ => ⟨_, _, isEncoding_of_decode ha⟩, ?_⟩,
    fun f s f' s' h h' => h.unique h', ?_⟩
  · rintro ⟨f, s, h⟩
    obtain ⟨⟨caps, hcaps⟩, hf, rfl⟩ := isEncoding_iff.mp h
    exact ⟨_, decode_layout hcaps hf s⟩
  · intro a f s ha h
    obtain ⟨rfl, rfl⟩ := h.unique (isEncoding_of_decode ha)
    obtain ⟨hvalid, hcanon, hb, caps, hwire, hlt, hcaps⟩ := decode_eq_ok.mp ha
    obtain ⟨hn, hstrs⟩ := wireCaps_iter hlt hcaps
    rw [← hwire] at hn hstrs
    obtain ⟨-, hslice, hsplit⟩ := isEncoding_iff.mp h
    have hlay := List.append_inj_left' (hb.symm.trans hsplit) (by simp)
    refine ⟨rfl, ?_, rfl, rfl, by rw [hstrs, hn], fun cap hc => (hvalid.caps cap hc).2, ?_⟩
    · exact encodes_iff.mpr ⟨validate_eq_ok.mpr hslice, hlay⟩
    · exact encodes_iff.mpr ⟨validate_eq_ok.mpr hvalid, hcanon⟩

end EspMid.Codec.Envelope
