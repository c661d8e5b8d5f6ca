import EspMid.Codec.Messages
import EspMid.Lib.Filling

/-! # The declared length is the written length

Each of the two writers over a caller's buffer reckons its length once and writes field by field.
The three walks over a list of capabilities, to check it, to add it up and to write it, see the same
strings, a list that does not read to its end included; so the length that is checked is the length
that is written (`fills_encode`). A status whose strings do not fit is refused before the first
byte, so there the length does not matter (`fills_writeNeeding`), even one that wraps. -/

namespace EspMid.Codec.DeclaredLengths

open EspMid.Lib EspMid.Lib.Filling
open EspMid.Model.Core EspMid.Model.Identity EspMid.Model.Envelope EspMid.Model.Messages
open EspMid.Codec.Envelope EspMid.Codec.Messages

variable {X : Crates}

/-! ### The adoption -/

/-- **The encoder fills** with the layout of the fields, or fails without a trace. -/
theorem fills_encode (f : AdoptionFields) : Fills f.encode (layout f) := by
  refine fills_of_answers fun out => ?_
  cases hf : f.validate with
  | error e => exact Or.inl ⟨e, encode_of_invalid hf out⟩
  | ok _ =>
    rw [encode_of_valid hf]
    by_cases hshort : out.length < (layout f).length
    · exact Or.inl ⟨_, if_pos hshort⟩
    · exact Or.inr ⟨not_lt.mp hshort, if_neg hshort⟩

theorem length_wireStrs_le (n : ℕ) : ∀ b : Bytes, (CapIter.wireStrs n b).length ≤ n := by
  induction n with
  | zero => exact fun b => le_rfl
  | succ n ih =>
    intro b
    unfold CapIter.wireStrs
    split
    · exact Nat.succ_le_succ (ih _)
    · exact Nat.zero_le _

theorem length_toList_le (caps : CapList) : caps.iter.toList.length ≤ caps.len := by
  cases caps with
  | slice s => exact le_rfl
  | wire count bytes => exact length_wireStrs_le _ _

theorem length_flatMap_str16_le {caps : List String} {m : ℕ} (h : ∀ c ∈ caps, byteLen c ≤ m) :
    (caps.flatMap str16).length ≤ caps.length * (2 + m) := by
  induction caps with
  | nil => exact Nat.zero_le _
  | cons c caps ih =>
    obtain ⟨hc, hrest⟩ := List.forall_mem_cons.mp h
    have hih := ih hrest
    rw [List.flatMap_cons, List.length_append, length_str16, List.length_cons, Nat.succ_mul]
    omega

theorem canonicalLen_lt {f : AdoptionFields} (hf : f.validate = .ok ()) :
    f.canonicalLen < 2 ^ 14 := by
  have hvalid := validate_eq_ok.mp hf
  have h1 := hvalid.strs f.deviceDid (by simp)
  have h2 := hvalid.strs f.ownerDid (by simp)
  have h3 := hvalid.strs f.hubRelay (by simp)
  have h4 := hvalid.strs f.hubHost (by simp)
  have hfew := (length_toList_le f.caps).trans hvalid.few
  have hcaps := length_flatMap_str16_le fun c hc => (hvalid.caps c hc).1
  have hdomain : ADOPTION_DOMAIN.length = 18 := by decide
  rw [canonicalLen_eq]
  unfold layout
  unfold MAX_FIELD_LEN at h1 h2 h3 h4 hcaps
  unfold MAX_CAPS at hfew
  simp only [List.length_append, List.length_singleton, length_str16, length_be32, length_be64,
    List.Vector.toList_length, hdomain]
  omega

/-! ### The status -/

theorem len_eq (p : StatusProof) : p.len = (statusLayout p).length := by
  unfold StatusProof.len statusLayout
  simp only [List.length_append, List.length_singleton, length_str16, List.Vector.toList_length]
  omega

theorem len_lt {p : StatusProof} (h : Fits p) : p.len < 2 ^ 18 := by
  obtain ⟨h1, h2, h3⟩ := h
  have hdomain : STATUS_DOMAIN.length = 16 := by decide
  unfold StatusProof.len
  omega

/-- `write`, for what `len` comes to. -/
def writeNeeding (p : StatusProof) (needed : ℕ) (out : Bytes) : Option (Result ℕ × Bytes) :=
  if out.length < needed then some (.error (.bufferTooSmall needed), out)
  else
    match p.fields with
    | .error e => some (.error e, out)
    | .ok pieces => do
      let w ← pieces.foldlM Writer.bytes { out, pos := 0 }
      some (.ok w.pos, w.out)

theorem write_eq_writeNeeding (p : StatusProof) : p.write = writeNeeding p p.len := rfl

theorem writeNeeding_eq {p : StatusProof} {needed : ℕ} (h : Fits p → needed = p.len) (out : Bytes) :
    writeNeeding p needed out =
      if out.length < needed then some (.error (.bufferTooSmall needed), out)
      else
        match p.fields with
        | .error e => some (.error e, out)
        | .ok _ => some (.ok p.len, statusLayout p ++ out.drop p.len) := by
  unfold writeNeeding
  by_cases hshort : out.length < needed
  · rw [if_pos hshort, if_pos hshort]
  · rw [if_neg hshort, if_neg hshort]
    cases hfields : p.fields with
    | error e => rfl
    | ok pieces =>
      have hneeded : needed = p.len := h (exists_fields_iff.mp ⟨pieces, hfields⟩)
      have hlen := len_eq p
      simp only [Writer.pieces_eq pieces ⟨out, 0⟩ (Nat.zero_le _), flatten_fields hfields]
      unfold Writer.bytes
      rw [if_pos (by simp only; omega)]
      simp [hlen]

/-- **The status fills**, where the length it reckons with is its own, or its strings do not fit. -/
theorem fills_writeNeeding {p : StatusProof} {needed : ℕ} (h : Fits p → needed = p.len) :
    Fills (writeNeeding p needed) (statusLayout p) := by
  refine fills_of_answers fun out => ?_
  rw [writeNeeding_eq h]
  by_cases hshort : out.length < needed
  · exact Or.inl ⟨_, if_pos hshort⟩
  · rw [if_neg hshort]
    cases hfields : p.fields with
    | error e => exact Or.inl ⟨e, rfl⟩
    | ok pieces =>
      have hneeded : needed = p.len := h (exists_fields_iff.mp ⟨pieces, hfields⟩)
      rw [← len_eq]
      exact Or.inr ⟨by omega, rfl⟩

theorem fills_write (p : StatusProof) : Fills p.write (statusLayout p) :=
  fills_writeNeeding fun _ => rfl

theorem write_of_fits {p : StatusProof} (h : Fits p) {out : Bytes} (hle : p.len ≤ out.length) :
    p.write out = some (.ok p.len, statusLayout p ++ out.drop p.len) := by
  obtain ⟨pieces, hfields⟩ := exists_fields_iff.mpr h
  rw [write_eq_writeNeeding, writeNeeding_eq fun _ => rfl, if_neg (not_lt.mpr hle), hfields]

theorem prehash_eq_ok {p : StatusProof} {h : Array8 32} :
    p.prehash X = .ok h ↔ Fits p ∧ X.sha256 (statusLayout p) = h := by
  unfold StatusProof.prehash
  rw [Framing.bind_eq_ok]
  constructor
  · rintro ⟨pieces, hfields, hhash⟩
    rw [flatten_fields hfields] at hhash
    exact ⟨exists_fields_iff.mp ⟨pieces, hfields⟩, Except.ok.inj hhash⟩
  · rintro ⟨hfits, rfl⟩
    obtain ⟨pieces, hfields⟩ := exists_fields_iff.mpr hfits
    refine ⟨pieces, hfields, ?_⟩
    rw [flatten_fields hfields]
    rfl

/-! ### Both -/

/-- **The declared length is the written length.** Of any fields and into any buffer, the adoption's
encoder writes as many bytes as it declares or fails without a trace; so does the status, whatever
its strings, also in a `usize` whose sums wrap. The prehash of a status is there exactly if its
strings fit their lengths, and is the hash of what is written. -/
theorem declared_length_is_written (X : Crates) :
    (∀ f : AdoptionFields,
      f.canonicalLen = (layout f).length ∧ Fills f.encode (layout f) ∧
        (f.validate = .ok () → f.canonicalLen < 2 ^ 14 ∧
          ∀ out, f.canonicalLen ≤ out.length →
            ∃ out', f.encode out = some (.ok f.canonicalLen, out'))) ∧
      ∀ p : StatusProof,
        p.len = (statusLayout p).length ∧ Fills p.write (statusLayout p) ∧
          (∀ bits, 18 ≤ bits → Fills (writeNeeding p (p.len % 2 ^ bits)) (statusLayout p)) ∧
          ((∃ h, p.prehash X = .ok h) ↔ byteLen p.deviceDid ≤ 65535 ∧
            byteLen p.ownerDid ≤ 65535 ∧ byteLen p.adoptionKind ≤ 65535) ∧
          ∀ h, p.prehash X = .ok h → ∀ out, p.len ≤ out.length →
            ∃ out', p.write out = some (.ok p.len, out') ∧ h = X.sha256 (out'.take p.len) := by
  refine ⟨fun f => ⟨canonicalLen_eq f, fills_encode f, fun hf => ⟨canonicalLen_lt hf, ?_⟩⟩,
    fun p => ⟨len_eq p, fills_write p, ?_, ?_, ?_⟩⟩
  · intro out hle
    rw [canonicalLen_eq] at hle ⊢
    rw [encode_of_valid hf, if_neg (not_lt.mpr hle)]
    exact ⟨_, rfl⟩
  · intro bits hbits
    refine fills_writeNeeding fun hfits => Nat.mod_eq_of_lt ?_
    exact (len_lt hfits).trans_le (Nat.pow_le_pow_right (by decide) hbits)
  · have hiff : (∃ h, p.prehash X = .ok h) ↔ Fits p :=
      ⟨fun ⟨h, hh⟩ => (prehash_eq_ok.mp hh).1, fun hfits => ⟨_, prehash_eq_ok.mpr ⟨hfits, rfl⟩⟩⟩
    rw [hiff]
    unfold Fits
    omega
  · intro h hh out hle
    obtain ⟨hfits, rfl⟩ := prehash_eq_ok.mp hh
    have hwrite := write_of_fits hfits hle
    exact ⟨_, hwrite, congrArg X.sha256 ((fills_write p).take hwrite).symm⟩

/-! ### A list that breaks off -/

/-- Two capabilities are counted, and the second breaks off. -/
def torn : AdoptionFields where
  deviceDid := "d"
  ownerDid := "o"
  ownerGenesisPubkey := compressedPoint secondKey
  hubEndpointId := List.Vector.replicate 32 0
  hubRelay := ""
  hubHost := ""
  caps := .wire 2 (str16 "camera:snapshot" ++ [0, 9])
  rosterVersion := 1
  issuedAt := 1700000000
  expiresAt := 0

/-- A device of no owner. -/
def unowned : StatusProof := .unadopted (List.Vector.replicate 32 0) "d"

def unownedHash : Array8 32 :=
  ⟨BigEndian.ofNat 32 0x04490aa73ca5585109407b00fa2cc182e7c228358a49c6ccd2fdae53c014ac6f, by simp⟩

/-- The hash, of what occurs. -/
def hashing : Crates := threeKeys [(statusLayout unowned, unownedHash)] [] []

/-- The list that breaks off is written as far as it goes, the status in full; both fit their
buffers. -/
theorem torn_and_unowned_written :
    (torn.canonicalLen < 2 ^ 14 ∧
        ∃ out', torn.encode (List.replicate 132 0) = some (.ok torn.canonicalLen, out')) ∧
      Fills (writeNeeding unowned (unowned.len % 2 ^ 32)) (statusLayout unowned) ∧
      ∃ out', unowned.write (List.replicate 88 0) = some (.ok unowned.len, out') ∧
        unownedHash = hashing.sha256 (out'.take unowned.len) := by
  obtain ⟨hadoption, hstatus⟩ := declared_length_is_written hashing
  obtain ⟨-, -, hencode⟩ := hadoption torn
  obtain ⟨hlt, hwritten⟩ := hencode (by decide +kernel)
  have hlen : torn.canonicalLen = 132 := by decide +kernel
  obtain ⟨-, -, hwrap, -, hwrite⟩ := hstatus unowned
  have hprehash : unowned.prehash hashing = .ok unownedHash := by
    refine prehash_eq_ok.mpr ⟨by decide +kernel, ?_⟩
    simp [hashing, threeKeys]
  have hunowned : unowned.len = 88 := by decide +kernel
  refine ⟨⟨hlt, hwritten _ ?_⟩, hwrap 32 (by decide), hwrite _ hprehash _ ?_⟩
  · rw [hlen, List.length_replicate]
  · rw [hunowned, List.length_replicate]

end EspMid.Codec.DeclaredLengths
