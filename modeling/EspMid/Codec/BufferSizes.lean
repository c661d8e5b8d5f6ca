import EspMid.Codec.DeclaredLengths
import EspMid.Codec.Did

/-! # The size a writer asks for

A writer asks for one size below a first length, for another from there up to the length it needs,
and answers from then on (`Staged`). Where the two lengths differ, the first size it asks for is not
enough: the signed adoption and the two forms of an identity are written in two stages, the other
layouts in one (`reported_size_is_enough_iff`). -/

namespace EspMid.Codec.BufferSizes

open EspMid.Lib
open EspMid.Model.Core EspMid.Model.Identity EspMid.Model.Envelope EspMid.Model.Messages
open EspMid.Codec.DeclaredLengths EspMid.Codec.Did EspMid.Codec.Envelope

variable {X : Crates} {α : Type} {answer : Bytes → Option (Result α)} {out : Bytes}

/-! ### Writers by the sizes they ask for -/

/-- Given the buffer `out`, the writer fails for its size and asks for `m` bytes; no answer is a
panic. -/
def Asks (answer : Bytes → Option (Result α)) (out : Bytes) (m : ℕ) : Prop :=
  answer out = some (.error (.bufferTooSmall m))

/-- **Enough.** Where the writer asks for a size, it does not fail for the size of any buffer that
has it. -/
def Enough (answer : Bytes → Option (Result α)) (out : Bytes) : Prop :=
  ∀ m, Asks answer out m → ∀ out', m ≤ out'.length → ∀ m', ¬ Asks answer out' m'

/-- The writer fails for nothing but the size of its buffer. -/
def OnlyAsks (answer : Bytes → Option (Result α)) : Prop :=
  ∀ out, (∃ m, Asks answer out m) ∨ ∃ a, answer out = some (.ok a)

/-- Below `first` bytes the writer asks for those, from there below `fits` for `second`. -/
structure Staged (answer : Bytes → Option (Result α)) (first fits second : ℕ) : Prop where
  asks : ∀ out m, Asks answer out m ↔
    (out.length < first ∧ m = first) ∨ (first ≤ out.length ∧ out.length < fits ∧ m = second)
  fits_le : fits ≤ second

/-- **A writer in two stages** asks for enough once the first is passed. -/
theorem Staged.enough_iff {first fits second : ℕ} (h : Staged answer first fits second)
    (hlt : first < fits) : Enough answer out ↔ first ≤ out.length := by
  constructor
  · intro henough
    by_contra hshort
    have hfirst : Asks answer out first := (h.asks _ _).mpr (Or.inl ⟨by omega, rfl⟩)
    have hlen : (List.replicate first (0 : UInt8)).length = first := List.length_replicate
    have hagain : Asks answer (List.replicate first 0) second :=
      (h.asks _ _).mpr (Or.inr ⟨hlen.ge, by omega, rfl⟩)
    exact henough first hfirst _ hlen.ge _ hagain
  · intro hle m hm out' hout' m' hm'
    have hfits := h.fits_le
    rcases (h.asks _ _).mp hm with ⟨hlt', -⟩ | ⟨-, -, rfl⟩
    · omega
    · rcases (h.asks _ _).mp hm' with ⟨hlt', -⟩ | ⟨-, hlt', -⟩ <;> omega

theorem Staged.enough {needed : ℕ} (h : Staged answer needed needed needed) :
    Enough answer out := by
  intro m hm out' hout' m' hm'
  rcases (h.asks _ _).mp hm with ⟨-, rfl⟩ | ⟨hle, hlt, -⟩
  · rcases (h.asks _ _).mp hm' with ⟨hlt, -⟩ | ⟨-, hlt, -⟩ <;> omega
  · omega

theorem Staged.of_eq {first fits second : ℕ} {value : Bytes → Option (Result α)}
    (heq : ∀ out, answer out =
      if out.length < first then some (.error (.bufferTooSmall first))
      else if out.length < fits then some (.error (.bufferTooSmall second)) else value out)
    (hvalue : ∀ out m, value out ≠ some (.error (.bufferTooSmall m))) (hfits : fits ≤ second) :
    Staged answer first fits second := by
  refine ⟨fun out m => ?_, hfits⟩
  unfold Asks
  rw [heq]
  split_ifs with h1 h2
  · simp only [Option.some.injEq, Except.error.injEq, Error.bufferTooSmall.injEq]
    omega
  · simp only [Option.some.injEq, Except.error.injEq, Error.bufferTooSmall.injEq]
    omega
  · simp only [hvalue, false_iff]
    omega

theorem Staged.of_eq_one {needed : ℕ} {value : Bytes → Option (Result α)}
    (heq : ∀ out, answer out =
      if out.length < needed then some (.error (.bufferTooSmall needed)) else value out)
    (hvalue : ∀ out m, value out ≠ some (.error (.bufferTooSmall m))) :
    Staged answer needed needed needed := by
  refine .of_eq (fun out => ?_) hvalue le_rfl
  rw [heq]
  split_ifs <;> rfl

theorem onlyAsks_of_eq {first fits second : ℕ} {a : α}
    (heq : ∀ out, answer out =
      if out.length < first then some (.error (.bufferTooSmall first))
      else if out.length < fits then some (.error (.bufferTooSmall second))
      else some (.ok a)) : OnlyAsks answer := by
  intro out
  unfold Asks
  rw [heq]
  split_ifs
  · exact Or.inl ⟨_, rfl⟩
  · exact Or.inl ⟨_, rfl⟩
  · exact Or.inr ⟨a, rfl⟩

theorem onlyAsks_of_eq_one {needed : ℕ} {a : α}
    (heq : ∀ out, answer out =
      if out.length < needed then some (.error (.bufferTooSmall needed)) else some (.ok a)) :
    OnlyAsks answer := by
  intro out
  unfold Asks
  rw [heq]
  split_ifs
  · exact Or.inl ⟨_, rfl⟩
  · exact Or.inr ⟨a, rfl⟩

/-! ### The writers -/

/-- `sign_into`. -/
def signing (X : Crates) (f : AdoptionFields) (sign : Array8 32 → Array8 64) (out : Bytes) :
    Option (Result ℕ) := (f.signInto X sign out).map Prod.fst

/-- `AdoptionFields::encode`. -/
def encoding (f : AdoptionFields) (out : Bytes) : Option (Result ℕ) := (f.encode out).map Prod.fst

/-- `Did::write`. -/
def writing (d : Did X) (out : Bytes) : Option (Result String) := some (d.write out.length)

/-- `Did::write_multibase`. -/
def writingMultibase (d : Did X) (out : Bytes) : Option (Result String) :=
  some (d.writeMultibase out.length)

/-- `StatusProof::write`. -/
def writingStatus (p : StatusProof) (out : Bytes) : Option (Result ℕ) := (p.write out).map Prod.fst

/-- `OwnerPin::encode`. -/
def encodingPin (pin : OwnerPin) (out : Bytes) : Option (Result ℕ) := some (pin.encode out).1

theorem encoding_eq {f : AdoptionFields} (hf : f.validate = .ok ()) (out : Bytes) :
    encoding f out =
      if out.length < f.canonicalLen then some (.error (.bufferTooSmall f.canonicalLen))
      else some (.ok f.canonicalLen) := by
  unfold encoding
  rw [encode_of_valid hf, canonicalLen_eq]
  split_ifs <;> rfl

theorem signing_eq {f : AdoptionFields} (hf : f.validate = .ok ()) (sign : Array8 32 → Array8 64)
    (out : Bytes) :
    signing X f sign out =
      if out.length < f.canonicalLen then some (.error (.bufferTooSmall f.canonicalLen))
      else if out.length < f.canonicalLen + SIG_LEN then
        some (.error (.bufferTooSmall (f.canonicalLen + SIG_LEN)))
      else some (.ok (f.canonicalLen + SIG_LEN)) := by
  unfold signing AdoptionFields.signInto
  rw [encode_of_valid hf, canonicalLen_eq]
  by_cases hshort : out.length < (layout f).length
  · rw [if_pos hshort, if_pos hshort]
    rfl
  · have hlen : (layout f ++ out.drop (layout f).length).length = out.length := by
      rw [List.length_append, List.length_drop]
      omega
    rw [if_neg hshort, if_neg hshort]
    simp only [Option.bind_eq_bind, Option.bind_some, hlen]
    split_ifs <;> rfl

theorem writing_eq (d : Did X) (out : Bytes) :
    writing d out =
      if out.length < byteLen DID_PREFIX + 1 then
        some (.error (.bufferTooSmall (byteLen DID_PREFIX + 1)))
      else if out.length < byteLen (DID_PREFIX ++ base58 d) then
        some (.error (.bufferTooSmall (byteLen DID_PREFIX + MAX_BASE58_LEN)))
      else some (.ok (DID_PREFIX ++ base58 d)) := by
  unfold writing Did.write
  rw [writeWithPrefix_eq]
  split_ifs <;> rfl

theorem writingMultibase_eq (d : Did X) (out : Bytes) :
    writingMultibase d out =
      if out.length < byteLen "z" + 1 then some (.error (.bufferTooSmall (byteLen "z" + 1)))
      else if out.length < byteLen ("z" ++ base58 d) then
        some (.error (.bufferTooSmall (byteLen "z" + MAX_BASE58_LEN)))
      else some (.ok ("z" ++ base58 d)) := by
  unfold writingMultibase Did.writeMultibase
  rw [writeWithPrefix_eq]
  split_ifs <;> rfl

theorem encodingPin_eq (pin : OwnerPin) (out : Bytes) :
    encodingPin pin out =
      if out.length < OwnerPin.LEN then some (.error (.bufferTooSmall OwnerPin.LEN))
      else some (.ok OwnerPin.LEN) := by
  unfold encodingPin OwnerPin.encode
  split_ifs <;> rfl

theorem writingStatus_eq (p : StatusProof) (out : Bytes) :
    writingStatus p out =
      if out.length < p.len then some (.error (.bufferTooSmall p.len))
      else some (p.fields.map fun _ => p.len) := by
  unfold writingStatus
  rw [write_eq_writeNeeding, writeNeeding_eq fun _ => rfl]
  by_cases hshort : out.length < p.len
  · rw [if_pos hshort, if_pos hshort]
    rfl
  · rw [if_neg hshort, if_neg hshort]
    cases p.fields with
    | error e => rfl
    | ok pieces => rfl

/-! ### Their stages -/

theorem staged_encoding {f : AdoptionFields} (hf : f.validate = .ok ()) :
    Staged (encoding f) f.canonicalLen f.canonicalLen f.canonicalLen :=
  .of_eq_one (encoding_eq hf) fun out m => by simp

theorem staged_signing {f : AdoptionFields} (hf : f.validate = .ok ())
    (sign : Array8 32 → Array8 64) :
    Staged (signing X f sign) f.canonicalLen (f.canonicalLen + SIG_LEN)
      (f.canonicalLen + SIG_LEN) :=
  .of_eq (signing_eq hf sign) (fun out m => by simp) le_rfl

theorem staged_writing (d : Did X) :
    Staged (writing d) (byteLen DID_PREFIX + 1) (byteLen (DID_PREFIX ++ base58 d))
      (byteLen DID_PREFIX + MAX_BASE58_LEN) :=
  .of_eq (writing_eq d) (fun out m => by simp) (byteLen_append_le _ d)

theorem staged_writingMultibase (d : Did X) :
    Staged (writingMultibase d) (byteLen "z" + 1) (byteLen ("z" ++ base58 d))
      (byteLen "z" + MAX_BASE58_LEN) :=
  .of_eq (writingMultibase_eq d) (fun out m => by simp) (byteLen_append_le _ d)

theorem fields_ne_bufferTooSmall (p : StatusProof) (m : ℕ) :
    p.fields ≠ .error (.bufferTooSmall m) := by
  have hlen : ∀ n, len16 n = .ok (be16 n) ∨ len16 n = .error .invalidFormat := by
    intro n
    unfold len16
    split_ifs <;> simp
  unfold StatusProof.fields
  rcases hlen (byteLen p.deviceDid) with h1 | h1 <;> rw [h1] <;>
    rcases hlen (byteLen p.ownerDid) with h2 | h2 <;> rw [h2] <;>
      rcases hlen (byteLen p.adoptionKind) with h3 | h3 <;> rw [h3] <;> simp [Except.pure, pure]

theorem staged_writingStatus (p : StatusProof) :
    Staged (writingStatus p) p.len p.len p.len := by
  refine .of_eq_one (writingStatus_eq p) fun out m h => ?_
  cases hfields : p.fields with
  | error e =>
    rw [hfields] at h
    cases h
    exact fields_ne_bufferTooSmall p m hfields
  | ok pieces =>
    rw [hfields] at h
    cases h

theorem staged_encodingPin (pin : OwnerPin) :
    Staged (encodingPin pin) OwnerPin.LEN OwnerPin.LEN OwnerPin.LEN :=
  .of_eq_one (encodingPin_eq pin) fun out m => by simp

theorem one_lt_byteLen_base58 (d : Did X) : 1 < byteLen (base58 d) := by
  have hhead : 0 < d.pubkey.head.toNat := by
    rcases d.tagged with h | h <;> rw [h] <;> decide
  have hlt := Base58.lt_pow_length_encode d.pubkey.toList
  rw [← byteLen_base58, ← List.Vector.cons_head_tail d.pubkey, List.Vector.toList_cons,
    BigEndian.toNat_cons, List.Vector.toList_length] at hlt
  have hvalue : d.pubkey.head.toNat * 256 ^ 32 + BigEndian.toNat d.pubkey.tail.toList <
      58 ^ byteLen (base58 d) := hlt
  have hkey : 256 ^ 32 ≤ d.pubkey.head.toNat * 256 ^ 32 := Nat.le_mul_of_pos_left _ hhead
  have hbig : 58 ^ 1 < 256 ^ 32 := by decide
  by_contra hshort
  have hpow : 58 ^ byteLen (base58 d) ≤ 58 ^ 1 :=
    Nat.pow_le_pow_right (by decide) (Nat.le_of_not_lt hshort)
  omega

/-- The status fails for nothing but the size exactly where its strings fit their lengths. -/
theorem onlyAsks_writingStatus (p : StatusProof) :
    OnlyAsks (writingStatus p) ↔ ∃ pieces, p.fields = .ok pieces := by
  constructor
  · intro honly
    -- a buffer of the message's length is not too small
    have hlen : (List.replicate p.len (0 : UInt8)).length = p.len := List.length_replicate
    have hanswer := writingStatus_eq p (List.replicate p.len 0)
    rw [hlen, if_neg (lt_irrefl _)] at hanswer
    rcases honly (List.replicate p.len 0) with ⟨m, hm⟩ | ⟨n, hn⟩
    · rcases ((staged_writingStatus p).asks _ _).mp hm with ⟨hlt, -⟩ | ⟨-, hlt, -⟩ <;> omega
    · rw [hn] at hanswer
      cases hfields : p.fields with
      | error e =>
        rw [hfields] at hanswer
        cases hanswer
      | ok pieces => exact ⟨pieces, rfl⟩
  · rintro ⟨pieces, hfields⟩
    have heq : ∀ out, writingStatus p out =
        if out.length < p.len then some (.error (.bufferTooSmall p.len))
        else some (.ok p.len) := by
      intro out
      rw [writingStatus_eq, hfields]
      rfl
    exact onlyAsks_of_eq_one heq

/-! ### The sizes -/

/-- **The size a writer asks for is enough** for `encode`, the status message and the pin. It is for
the signed adoption exactly where the buffer holds the canonical bytes, and for an identity exactly
where it holds the prefix and one byte more. The adoptions that are valid, the identities and the pin
fail for nothing but the size, and the status exactly where its strings fit their lengths. -/
theorem reported_size_is_enough_iff (X : Crates) :
    (∀ f : AdoptionFields, f.validate = .ok () → ∀ sign,
      (∀ out, Enough (signing X f sign) out ↔ f.canonicalLen ≤ out.length) ∧
        (∀ out, Enough (encoding f) out) ∧ OnlyAsks (signing X f sign) ∧ OnlyAsks (encoding f)) ∧
      (∀ d : Did X,
        (∀ out, Enough (writing d) out ↔ byteLen DID_PREFIX + 1 ≤ out.length) ∧
          (∀ out, Enough (writingMultibase d) out ↔ 2 ≤ out.length) ∧
          OnlyAsks (writing d) ∧ OnlyAsks (writingMultibase d)) ∧
      (∀ p : StatusProof, (∀ out, Enough (writingStatus p) out) ∧
        (OnlyAsks (writingStatus p) ↔ ∃ pieces, p.fields = .ok pieces)) ∧
      ∀ pin : OwnerPin, (∀ out, Enough (encodingPin pin) out) ∧ OnlyAsks (encodingPin pin) := by
  refine ⟨fun f hf sign => ⟨fun out => ?_, fun out => (staged_encoding hf).enough,
      onlyAsks_of_eq (signing_eq hf sign), onlyAsks_of_eq_one (encoding_eq hf)⟩,
    fun d => ⟨fun out => ?_, fun out => ?_, onlyAsks_of_eq (writing_eq d),
      onlyAsks_of_eq (writingMultibase_eq d)⟩,
    fun p => ⟨fun out => (staged_writingStatus p).enough, onlyAsks_writingStatus p⟩,
    fun pin => ⟨fun out => (staged_encodingPin pin).enough, onlyAsks_of_eq_one (encodingPin_eq pin)⟩⟩
  · exact (staged_signing hf sign).enough_iff (Nat.lt_add_of_pos_right (by decide))
  · refine (staged_writing d).enough_iff ?_
    rw [byteLen_append]
    exact Nat.add_lt_add_left (one_lt_byteLen_base58 d) _
  · refine (staged_writingMultibase d).enough_iff ?_
    rw [byteLen_append]
    exact Nat.add_lt_add_left (one_lt_byteLen_base58 d) _

/-! ### An adoption of 115 bytes -/

/-- An adoption with the shortest names. -/
def brief : AdoptionFields where
  deviceDid := "d"
  ownerDid := "o"
  ownerGenesisPubkey := compressedPoint secondKey
  hubEndpointId := List.Vector.replicate 32 0
  hubRelay := ""
  hubHost := ""
  caps := .slice []
  rosterVersion := 1
  issuedAt := 1700000000
  expiresAt := 0

/-- Its signature, on three keys. -/
def signingBrief : Bytes → Option (Result ℕ) :=
  signing (threeKeys [] [] []) brief fun _ => List.Vector.replicate 64 0

theorem validate_brief : brief.validate = .ok () := by decide +kernel

theorem canonicalLen_brief : brief.canonicalLen = 115 := by decide +kernel

/-- **The defect.** Without a buffer the adoption asks for 115 bytes, and with those for 179. -/
theorem adoption_asks_twice :
    Asks signingBrief [] 115 ∧ Asks signingBrief (List.replicate 115 0) 179 ∧
      ¬ Enough signingBrief [] := by
  have hfirst : Asks signingBrief [] 115 := by
    unfold Asks signingBrief
    rw [signing_eq validate_brief, canonicalLen_brief]
    rfl
  have hsecond : Asks signingBrief (List.replicate 115 0) 179 := by
    unfold Asks signingBrief
    rw [signing_eq validate_brief, canonicalLen_brief]
    rfl
  have hlen : 115 ≤ (List.replicate 115 (0 : UInt8)).length := List.length_replicate.ge
  exact ⟨hfirst, hsecond, fun henough => henough 115 hfirst _ hlen 179 hsecond⟩

/-- With a buffer for the canonical bytes the size it asks for is enough. -/
theorem brief_asks_for_enough :
    Enough signingBrief (List.replicate 115 0) ∧ OnlyAsks signingBrief := by
  obtain ⟨henough, -, honly, -⟩ := (reported_size_is_enough_iff (threeKeys [] [] [])).1 brief
    validate_brief fun _ => List.Vector.replicate 64 0
  refine ⟨(henough _).mpr ?_, honly⟩
  rw [canonicalLen_brief, List.length_replicate]

end EspMid.Codec.BufferSizes
