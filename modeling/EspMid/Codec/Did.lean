import EspMid.Model.Identity

/-! # A `did:mata` has one spelling

The base58 form of a key is the one string that is read as the key, so a `did:mata` string is
accepted exactly if it is the one written for the identity it names (`one_spelling`). Writing into a
buffer of the crate's sizes always succeeds. -/

namespace EspMid.Codec.Did

open EspMid.Lib
open EspMid.Model.Core EspMid.Model.Identity

variable {X : Crates}

/-! ### Strings -/

theorem stripPrefix_eq_some {p s t : String} : stripPrefix p s = some t ↔ s = p ++ t := by
  unfold stripPrefix
  constructor
  · intro h
    split_ifs at h with hp
    cases h
    obtain ⟨r, hr⟩ := hp
    apply String.toList_inj.mp
    rw [← hr, String.toList_append, List.drop_left, String.toList_ofList]
  · rintro rfl
    rw [if_pos (by simp), String.toList_append, List.drop_left, String.ofList_toList]

theorem byteLen_ofList {l : List Char} (h : ∀ c ∈ l, c.utf8Size = 1) :
    byteLen (String.ofList l) = l.length := by
  unfold byteLen asBytes
  rw [String.toByteArray_ofList]
  induction l with
  | nil => rfl
  | cons c l ih =>
    obtain ⟨hc, hl⟩ := List.forall_mem_cons.mp h
    rw [List.utf8Encode_cons, List.utf8Encode_singleton]
    simp [hc, ih hl, Nat.add_comm]

/-! ### The base58 form of a key -/

/-- The base58 form of the key. -/
def base58 (d : Did X) : String := String.ofList (Base58.encode d.pubkey.toList)

theorem byteLen_base58 (d : Did X) : byteLen (base58 d) = (Base58.encode d.pubkey.toList).length :=
  byteLen_ofList (Base58.utf8Size_of_mem_encode _)

theorem zeroBytes_pubkey (d : Did X) : d.pubkey.toList.takeWhile (· == 0) = [] := by
  have hhead : d.pubkey.head ≠ 0 := by
    rcases d.tagged with h | h <;> rw [h] <;> decide
  rw [← List.Vector.cons_head_tail d.pubkey, List.Vector.toList_cons]
  exact List.takeWhile_cons_of_neg (by simpa using hhead)

theorem byteLen_base58_le (d : Did X) : byteLen (base58 d) ≤ MAX_BASE58_LEN := by
  have hlt := BigEndian.toNat_lt d.pubkey.toList
  rw [d.pubkey.toList_length] at hlt
  have hpow : (256 : ℕ) ^ 33 < 58 ^ MAX_BASE58_LEN := by decide
  have hlen := Base58.length_encode_le (hlt.trans hpow)
  rw [zeroBytes_pubkey, List.length_nil, Nat.zero_add] at hlen
  rw [byteLen_base58]
  exact hlen

theorem byteLen_base58_pos (d : Did X) : 0 < byteLen (base58 d) := by
  have hne : d.pubkey.toList ≠ [] := by
    rw [← List.length_pos_iff, d.pubkey.toList_length]
    decide
  rw [byteLen_base58]
  exact List.length_pos_iff.mpr (Base58.encode_ne_nil hne)

theorem fromPubkey_eq_ok {b : Bytes} {d : Did X} :
    Did.fromPubkey b = .ok d ↔ b = d.pubkey.toList := by
  unfold Did.fromPubkey
  constructor
  · intro h
    cases hb : toArray8 33 b with
    | none =>
      rw [hb] at h
      cases h
    | some pubkey =>
      simp only [hb] at h
      split_ifs at h
      cases h
      exact toArray8_eq_some.mp hb
  · rintro rfl
    rw [toArray8_toList]
    simp only [dif_pos d.tagged, dif_pos d.onCurve]

/-- The base58 form is the one string that is read as the key. -/
theorem fromBase58_eq_ok {suffix : String} {d : Did X} :
    Did.fromBase58 suffix = .ok d ↔ suffix = base58 d := by
  constructor
  · intro h
    unfold Did.fromBase58 at h
    split_ifs at h
    split at h
    · cases h
    · next b hb =>
      split_ifs at h
      rw [fromPubkey_eq_ok] at h
      subst h
      unfold base58
      rw [Base58.decode_eq_some.mp hb, String.ofList_toList]
  · rintro rfl
    have hpos := byteLen_base58_pos d
    have hle := byteLen_base58_le d
    have hdecode : Base58.decode (base58 d).toList = some d.pubkey.toList := by
      unfold base58
      rw [String.toList_ofList, Base58.decode_encode]
    have hlen : d.pubkey.toList.length = PUBKEY_LEN := d.pubkey.toList_length
    unfold Did.fromBase58
    rw [if_neg (by omega), hdecode]
    simp only [hlen]
    rw [if_neg (by omega), if_neg (by simp)]
    exact fromPubkey_eq_ok.mpr rfl

/-! ### Reading and writing -/

theorem parse_eq_ok {s : String} {d : Did X} :
    Did.parse s = .ok d ↔ s = DID_PREFIX ++ base58 d := by
  unfold Did.parse
  constructor
  · intro h
    split at h
    · cases h
    · next suffix hsuffix =>
      rw [stripPrefix_eq_some.mp hsuffix, fromBase58_eq_ok.mp h]
  · rintro rfl
    rw [stripPrefix_eq_some.mpr rfl]
    exact fromBase58_eq_ok.mpr rfl

theorem parseMultibase_eq_ok {s : String} {d : Did X} :
    Did.parseMultibase s = .ok d ↔ s = "z" ++ base58 d := by
  unfold Did.parseMultibase
  constructor
  · intro h
    split at h
    · cases h
    · next suffix hsuffix =>
      rw [stripPrefix_eq_some.mp hsuffix, fromBase58_eq_ok.mp h]
  · rintro rfl
    rw [stripPrefix_eq_some.mpr rfl]
    exact fromBase58_eq_ok.mpr rfl

theorem byteLen_append (pfx : String) (d : Did X) :
    byteLen (pfx ++ base58 d) = byteLen pfx + byteLen (base58 d) := by
  unfold byteLen
  rw [asBytes_append, List.length_append]

/-- The writer, in its two stages: the prefix and one byte, then the base58 form. -/
theorem writeWithPrefix_eq (pfx : String) (d : Did X) (outLen : ℕ) :
    writeWithPrefix (asBytes pfx) d.pubkey.toList outLen =
      if outLen < byteLen pfx + 1 then .error (.bufferTooSmall (byteLen pfx + 1))
      else if outLen < byteLen (pfx ++ base58 d) then
        .error (.bufferTooSmall (byteLen pfx + MAX_BASE58_LEN))
      else .ok (pfx ++ base58 d) := by
  have hutf : fromUtf8 (asBytes pfx ++ asBytes (base58 d)) = some (pfx ++ base58 d) := by
    rw [← asBytes_append, fromUtf8_asBytes]
  have hbase : String.ofList (Base58.encode d.pubkey.toList) = base58 d := rfl
  rw [byteLen_append]
  unfold writeWithPrefix byteLen
  simp only [hbase, hutf]
  split_ifs with hmin hlong hfits hfits
  · rfl
  · rfl
  · omega
  · omega
  · rfl

theorem writeWithPrefix_eq_ok {pfx s : String} {d : Did X} {outLen : ℕ} :
    writeWithPrefix (asBytes pfx) d.pubkey.toList outLen = .ok s ↔
      s = pfx ++ base58 d ∧ byteLen (pfx ++ base58 d) ≤ outLen := by
  have hlen := byteLen_append pfx d
  have hpos := byteLen_base58_pos d
  rw [writeWithPrefix_eq]
  split_ifs with hmin hfits
  · simp only [false_iff, not_and]
    intro _ hle
    omega
  · simp only [false_iff, not_and]
    intro _ hle
    omega
  · simp only [Except.ok.injEq]
    exact ⟨fun h => ⟨h.symm, by omega⟩, fun h => h.1.symm⟩

theorem byteLen_append_le (pfx : String) (d : Did X) :
    byteLen (pfx ++ base58 d) ≤ byteLen pfx + MAX_BASE58_LEN := by
  have hle := byteLen_base58_le d
  rw [byteLen_append]
  omega

theorem write_max (d : Did X) : d.write MAX_DID_LEN = .ok (DID_PREFIX ++ base58 d) :=
  writeWithPrefix_eq_ok.mpr ⟨rfl, byteLen_append_le DID_PREFIX d⟩

theorem writeMultibase_max (d : Did X) :
    d.writeMultibase MAX_MULTIBASE_LEN = .ok ("z" ++ base58 d) := by
  have hz : byteLen "z" = 1 := by decide
  have hle := byteLen_append_le "z" d
  rw [hz] at hle
  exact writeWithPrefix_eq_ok.mpr ⟨rfl, hle⟩

/-- **An identity has one spelling.** A string is read as the identity exactly if it is what the
identity writes: into a buffer of the crate's size, which always suffices, or into any that is long
enough. So two accepted strings are equal exactly if they name one key. -/
theorem one_spelling (X : Crates) (d : Did X) :
    (∀ s, Did.parse s = .ok d ↔ d.write MAX_DID_LEN = .ok s) ∧
      (∀ s, Did.parseMultibase s = .ok d ↔ d.writeMultibase MAX_MULTIBASE_LEN = .ok s) ∧
      (∀ s n, d.write n = .ok s ↔ Did.parse s = .ok d ∧ byteLen s ≤ n) ∧
      (∀ s n, d.writeMultibase n = .ok s ↔ Did.parseMultibase s = .ok d ∧ byteLen s ≤ n) ∧
      d.toDidString.isSome ∧ d.toMultibaseString.isSome ∧
      ∀ (s s' : String) (d' : Did X), Did.parse s = .ok d → Did.parse s' = .ok d' →
        (s = s' ↔ d.pubkey = d'.pubkey) := by
  refine ⟨fun s => ?_, fun s => ?_, fun s n => ?_, fun s n => ?_, ?_, ?_, fun s s' d' h h' => ?_⟩
  · rw [parse_eq_ok, write_max, Except.ok.injEq, eq_comm]
  · rw [parseMultibase_eq_ok, writeMultibase_max, Except.ok.injEq, eq_comm]
  · rw [parse_eq_ok]
    refine writeWithPrefix_eq_ok.trans (and_congr_right ?_)
    rintro rfl
    exact Iff.rfl
  · rw [parseMultibase_eq_ok]
    refine writeWithPrefix_eq_ok.trans (and_congr_right ?_)
    rintro rfl
    exact Iff.rfl
  · unfold Did.toDidString
    rw [write_max]
    rfl
  · unfold Did.toMultibaseString
    rw [writeMultibase_max]
    rfl
  · constructor
    · rintro rfl
      rw [h] at h'
      rw [Except.ok.inj h']
    · intro hkey
      have hd : d = d' := Did.ext hkey
      rw [parse_eq_ok.mp h, parse_eq_ok.mp h', hd]

end EspMid.Codec.Did
