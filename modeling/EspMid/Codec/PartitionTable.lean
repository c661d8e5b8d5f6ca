import EspMid.Model.Partitions

/-! # The partition lookup reads the table as it was written

A record is passed, or it ends the search: with a match, at an end mark, or as damage
(`scan_cases`). On a table written from entries the search finds the first that carries the label;
on any other it is the first record it does not pass that decides
(`lookup_reads_the_table`). -/

namespace EspMid.Codec.PartitionTable

open EspMid.Lib EspMid.Lib.Records
open EspMid.Model.Core EspMid.Model.Flash EspMid.Model.Partitions

variable {label : String} {r : Array8 32} {rs : List (Array8 32)}

/-! ### The four kinds of a record -/

/-- The record of an entry. -/
def HasMagic (r : Array8 32) : Prop := r.toList.take 2 = MAGIC

/-- An MD5 record or blank flash. -/
def IsEnd (r : Array8 32) : Prop := r.toList.take 2 = MD5_MAGIC ∨ r.toList.take 2 = [0xFF, 0xFF]

/-- Neither an entry nor an end. -/
def Damaged (r : Array8 32) : Prop := ¬ HasMagic r ∧ ¬ IsEnd r

/-- The entry that is looked for. -/
def Matches (label : String) (r : Array8 32) : Prop :=
  HasMagic r ∧ (partitionOf r).label = label

/-- Another entry. -/
def Passed (label : String) (r : Array8 32) : Prop :=
  HasMagic r ∧ (partitionOf r).label ≠ label

theorem HasMagic.not_isEnd (h : HasMagic r) : ¬ IsEnd r := by
  unfold IsEnd
  rw [show r.toList.take 2 = MAGIC from h]
  decide

theorem kinds (label : String) (r : Array8 32) :
    IsEnd r ∨ Damaged r ∨ Matches label r ∨ Passed label r := by
  by_cases hmagic : HasMagic r
  · by_cases hlabel : (partitionOf r).label = label
    · exact Or.inr (Or.inr (Or.inl ⟨hmagic, hlabel⟩))
    · exact Or.inr (Or.inr (Or.inr ⟨hmagic, hlabel⟩))
  · by_cases hend : IsEnd r
    · exact Or.inl hend
    · exact Or.inr (Or.inl ⟨hmagic, hend⟩)

/-! ### The search -/

theorem scan_of_isEnd (h : IsEnd r) : scan label (r :: rs) = .ok none := if_pos h

theorem scan_of_damaged (h : Damaged r) : scan label (r :: rs) = .error .corrupt :=
  (if_neg h.2).trans (if_pos h.1)

theorem scan_of_magic (h : HasMagic r) :
    scan label (r :: rs) =
      if (partitionOf r).label = label then .ok (some (partitionOf r)) else scan label rs :=
  (if_neg h.not_isEnd).trans (if_neg (not_not_intro h))

theorem scan_of_matches (h : Matches label r) :
    scan label (r :: rs) = .ok (some (partitionOf r)) := by
  rw [scan_of_magic h.1, if_pos h.2]

theorem scan_of_passed (h : Passed label r) : scan label (r :: rs) = scan label rs := by
  rw [scan_of_magic h.1, if_neg h.2]

/-- **The search**: it passes every record, or the first that it does not pass decides. -/
theorem scan_cases (label : String) (rs : List (Array8 32)) :
    ((∀ x ∈ rs, Passed label x) ∧ scan label rs = .ok none) ∨
      ∃ before r after, rs = before ++ r :: after ∧ (∀ x ∈ before, Passed label x) ∧
        ((IsEnd r ∧ scan label rs = .ok none) ∨ (Damaged r ∧ scan label rs = .error .corrupt) ∨
          (Matches label r ∧ scan label rs = .ok (some (partitionOf r)))) := by
  induction rs with
  | nil => exact Or.inl ⟨by simp, rfl⟩
  | cons x rs ih =>
    rcases kinds label x with hend | hdamaged | hmatch | hpassed
    · exact Or.inr ⟨[], x, rs, rfl, by simp, Or.inl ⟨hend, scan_of_isEnd hend⟩⟩
    · exact Or.inr ⟨[], x, rs, rfl, by simp, Or.inr (Or.inl ⟨hdamaged, scan_of_damaged hdamaged⟩)⟩
    · exact Or.inr ⟨[], x, rs, rfl, by simp, Or.inr (Or.inr ⟨hmatch, scan_of_matches hmatch⟩)⟩
    · rw [scan_of_passed hpassed]
      rcases ih with ⟨hall, hscan⟩ | ⟨before, r, after, hrs, hbefore, hr⟩
      · exact Or.inl ⟨List.forall_mem_cons.mpr ⟨hpassed, hall⟩, hscan⟩
      · exact Or.inr ⟨x :: before, r, after, congrArg (x :: ·) hrs,
          List.forall_mem_cons.mpr ⟨hpassed, hbefore⟩, hr⟩

/-- An entry is returned only behind records that carry the magic. -/
theorem scan_eq_some {p : Partition} (h : scan label rs = .ok (some p)) :
    ∃ before r after, rs = before ++ r :: after ∧ (∀ x ∈ before, HasMagic x) ∧
      Matches label r ∧ p = partitionOf r := by
  rcases scan_cases label rs with ⟨-, hscan⟩ | ⟨before, r, after, hrs, hbefore, hr⟩
  · rw [h] at hscan
    cases hscan
  · rcases hr with ⟨-, hscan⟩ | ⟨-, hscan⟩ | ⟨hmatch, hscan⟩
    · rw [h] at hscan
      cases hscan
    · rw [h] at hscan
      cases hscan
    · rw [h] at hscan
      cases hscan
      exact ⟨before, r, after, hrs, fun x hx => (hbefore x hx).1, hmatch, rfl⟩

/-- **Damage** is reported exactly where it comes before a match and before an end. -/
theorem scan_eq_corrupt_iff :
    scan label rs = .error .corrupt ↔
      ∃ before r after, rs = before ++ r :: after ∧ Damaged r ∧
        ∀ x ∈ before, ¬ Matches label x ∧ ¬ IsEnd x := by
  constructor
  · intro h
    rcases scan_cases label rs with ⟨-, hscan⟩ | ⟨before, r, after, hrs, hbefore, hr⟩
    · rw [h] at hscan
      cases hscan
    · have hearlier : ∀ x ∈ before, ¬ Matches label x ∧ ¬ IsEnd x := fun x hx =>
        ⟨fun hmatch => (hbefore x hx).2 hmatch.2, (hbefore x hx).1.not_isEnd⟩
      rcases hr with ⟨-, hscan⟩ | ⟨hdamaged, -⟩ | ⟨-, hscan⟩
      · rw [h] at hscan
        cases hscan
      · exact ⟨before, r, after, hrs, hdamaged, hearlier⟩
      · rw [h] at hscan
        cases hscan
  · rintro ⟨before, r, after, rfl, hdamaged, hearlier⟩
    induction before with
    | nil => exact scan_of_damaged hdamaged
    | cons x before ih =>
      obtain ⟨⟨hmatch, hend⟩, hrest⟩ := List.forall_mem_cons.mp hearlier
      rw [List.cons_append]
      -- what is neither a match nor an end is itself damaged, or passed
      rcases kinds label x with hx | hx | hx | hx
      · exact absurd hx hend
      · exact scan_of_damaged hx
      · exact absurd hx hmatch
      · rw [scan_of_passed hx]
        exact ih hrest

/-! ### Labels -/

theorem asBytes_eq_flatMap (s : String) : asBytes s = s.toList.flatMap String.utf8EncodeChar := by
  unfold asBytes
  rw [← String.utf8Encode_toList, List.utf8Encode, List.data_toByteArray]

theorem ff_notMem_utf8EncodeChar (c : Char) : 0xFF ∉ String.utf8EncodeChar c := by
  have hbyte : ∀ n, n < 0xFF → (0xFF : UInt8) ≠ UInt8.ofNat n := by
    intro n hn heq
    have hnat : 0xFF = (UInt8.ofNat n).toNat := congrArg UInt8.toNat heq
    rw [UInt8.toNat_ofNat', Nat.mod_eq_of_lt (by omega)] at hnat
    omega
  unfold String.utf8EncodeChar
  dsimp only
  split_ifs with h1 h2 h3 <;> simp only [List.mem_cons, List.not_mem_nil, or_false, not_or]
  · exact hbyte _ (by omega)
  · exact ⟨hbyte _ (by omega), hbyte _ (by omega)⟩
  · exact ⟨hbyte _ (by omega), hbyte _ (by omega), hbyte _ (by omega)⟩
  · exact ⟨hbyte _ (by omega), hbyte _ (by omega), hbyte _ (by omega), hbyte _ (by omega)⟩

theorem ff_notMem_asBytes (s : String) : 0xFF ∉ asBytes s := by
  rw [asBytes_eq_flatMap, List.mem_flatMap]
  rintro ⟨c, -, hc⟩
  exact ff_notMem_utf8EncodeChar c hc

/-- A label of at most 16 bytes, padded with NULs. -/
def padded (label : String) : Bytes :=
  asBytes label ++ List.replicate (16 - byteLen label) 0

theorem length_padded (h : byteLen label ≤ 16) : (padded label).length = 16 := by
  unfold padded
  unfold byteLen at h ⊢
  rw [List.length_append, List.length_replicate]
  omega

theorem label_padded {p : Partition} (hp : p.labelBytes.toList = padded label)
    (hnul : 0 ∉ asBytes label) : p.label = label := by
  have hnone : (asBytes label).findIdx (fun b => b == 0 || b == 0xFF) = (asBytes label).length := by
    refine List.findIdx_eq_length.mpr fun b hb => ?_
    have hb0 : b ≠ 0 := fun h => hnul (h ▸ hb)
    have hbff : b ≠ 0xFF := fun h => ff_notMem_asBytes label (h ▸ hb)
    simp [hb0, hbff]
  have hrest : (List.replicate (16 - byteLen label) (0 : UInt8)).findIdx
      (fun b => b == 0 || b == 0xFF) = 0 := by
    cases 16 - byteLen label with
    | zero => rfl
    | succ n => rfl
  unfold Partition.label
  rw [hp]
  unfold padded
  rw [List.findIdx_append, hnone, if_neg (lt_irrefl _), hrest, Nat.zero_add]
  simp only [List.take_left, fromUtf8_asBytes, Option.getD_some]

/-! ### Written tables -/

/-- `u32::to_le_bytes`. -/
def le32 (x : UInt32) : Bytes := (be32 x).reverse

theorem length_le32 (x : UInt32) : (le32 x).length = 4 := by simp [le32]

theorem ofLe32_le32 (x : UInt32) : ofLe32 (le32 x) = x := by
  unfold ofLe32 le32
  rw [List.reverse_reverse, ofBe32_be32]

/-- An entry as it is written, with the flags behind its label. -/
structure Entry where
  kind : UInt8
  subtype : UInt8
  offset : UInt32
  len : UInt32
  label : String
  flags : Array8 4
  short : byteLen label ≤ 16
  noNul : 0 ∉ asBytes label

namespace Entry

theorem length_record (e : Entry) :
    (0xAA :: 0x50 :: e.kind :: e.subtype ::
      (le32 e.offset ++ le32 e.len ++ padded e.label ++ e.flags.toList)).length = 32 := by
  simp [length_le32, length_padded e.short]

/-- The record of an entry. -/
def record (e : Entry) : Array8 32 :=
  ⟨0xAA :: 0x50 :: e.kind :: e.subtype ::
    (le32 e.offset ++ le32 e.len ++ padded e.label ++ e.flags.toList), e.length_record⟩

/-- The partition of an entry. -/
def partition (e : Entry) : Partition where
  kind := e.kind
  subtype := e.subtype
  offset := e.offset
  len := e.len
  labelBytes := ⟨padded e.label, length_padded e.short⟩

theorem hasMagic_record (e : Entry) : HasMagic e.record := rfl

/-- **A record says what was written.** -/
theorem partitionOf_record (e : Entry) : partitionOf e.record = e.partition := by
  have hbody : e.record.toList.drop 4 =
      le32 e.offset ++ (le32 e.len ++ (padded e.label ++ e.flags.toList)) := by
    unfold record
    simp only [List.append_assoc]
    rfl
  have hlen : e.record.toList.drop 8 = le32 e.len ++ (padded e.label ++ e.flags.toList) := by
    rw [show 8 = 4 + 4 from rfl, ← List.drop_drop, hbody, List.drop_left' (length_le32 _)]
  have hlabel : e.record.toList.drop 12 = padded e.label ++ e.flags.toList := by
    rw [show 12 = 8 + 4 from rfl, ← List.drop_drop, hlen, List.drop_left' (length_le32 _)]
  have hname : nameOf e.record = e.partition.labelBytes := by
    apply Subtype.ext
    change (e.record.toList.drop 12).take 16 = padded e.label
    rw [hlabel, List.take_left' (length_padded e.short)]
  unfold partitionOf
  rw [hbody, hlen, hname, List.take_left' (length_le32 _), List.take_left' (length_le32 _),
    ofLe32_le32, ofLe32_le32]
  rfl

theorem label_partition (e : Entry) : e.partition.label = e.label := label_padded rfl e.noNul

end Entry

/-- **A written table**: the records of its entries, and where there is room an MD5 record or blank
flash behind them; what follows is arbitrary. -/
def Written (entries : List Entry) (table : Bytes) : Prop :=
  entries.length ≤ MAX_ENTRIES ∧
    ∃ tail, table = (entries.map Entry.record).flatMap List.Vector.toList ++ tail ∧
      (entries.length < MAX_ENTRIES → tail.take 2 = MD5_MAGIC ∨ tail.take 2 = [0xFF, 0xFF])

/-- The search finds the first of the written entries that carries the label. -/
theorem scan_records (entries : List Entry) (hrest : scan label rs = .ok none) :
    scan label (entries.map Entry.record ++ rs) =
      .ok ((entries.find? fun e => e.label = label).map Entry.partition) := by
  induction entries with
  | nil => exact hrest
  | cons e entries ih =>
    have hlabel : (partitionOf e.record).label = e.label := by
      rw [e.partitionOf_record, e.label_partition]
    rw [List.map_cons, List.cons_append]
    by_cases he : e.label = label
    · rw [scan_of_matches ⟨e.hasMagic_record, hlabel.trans he⟩, e.partitionOf_record,
        List.find?_cons_of_pos (by simpa using he)]
      rfl
    · have hother : (partitionOf e.record).label ≠ label := hlabel.symm ▸ he
      rw [scan_of_passed ⟨e.hasMagic_record, hother⟩, ih,
        List.find?_cons_of_neg (by simpa using he)]

theorem scan_tail {tail : Bytes} (hend : tail = [] ∨ 32 ≤ tail.length ∧
      (tail.take 2 = MD5_MAGIC ∨ tail.take 2 = [0xFF, 0xFF])) :
    scan label (chunksExact 32 tail) = .ok none := by
  rcases hend with rfl | ⟨hlen, hmark⟩
  · rfl
  · obtain ⟨r, hr, hchunks⟩ := chunksExact_of_le_length (by decide) hlen
    have hisEnd : IsEnd r := by
      unfold IsEnd
      rw [hr, List.take_take]
      exact hmark
    rw [hchunks, scan_of_isEnd hisEnd]

theorem scan_written {entries : List Entry} {table : Array8 TABLE_LEN}
    (h : Written entries table.toList) (label : String) :
    scan label (chunksExact 32 table.toList) =
      .ok ((entries.find? fun e => e.label = label).map Entry.partition) := by
  obtain ⟨hfew, tail, htable, hmark⟩ := h
  have hlen : MAX_ENTRIES * 32 = entries.length * 32 + tail.length := by
    have htotal := congrArg List.length htable
    rw [table.toList_length, List.length_append, length_flatMap_toList, List.length_map] at htotal
    exact htotal
  rw [htable, chunksExact_flatMap_append (by decide)]
  refine scan_records entries (scan_tail ?_)
  rcases hfew.lt_or_eq with hlt | heq
  · exact Or.inr ⟨by omega, hmark hlt⟩
  · exact Or.inl (List.length_eq_zero_iff.mp (by omega))

/-! ### The lookup -/

variable {D E : Type}

/-- **The lookup reads the table as it was written**: the first entry that carries the label, with
its fields, or nothing. Of any other table it returns an entry only behind records that carry the
magic, and reports damage exactly where a damaged record comes before a match and before an end. -/
theorem lookup_reads_the_table (S : FlashStorage D E) (TABLE_OFFSET : UInt32) (label : String)
    (d d' : D) (table : Array8 TABLE_LEN)
    (hread : readTable S TABLE_OFFSET d = (.ok (), (table, d'))) :
    (∀ entries, Written entries table.toList →
      findPartition S TABLE_OFFSET label d =
        (.ok ((entries.find? fun e => e.label = label).map Entry.partition), d')) ∧
      (∀ p, (findPartition S TABLE_OFFSET label d).1 = .ok (some p) →
        ∃ before r after, chunksExact 32 table.toList = before ++ r :: after ∧
          (∀ x ∈ before, HasMagic x) ∧ Matches label r ∧ p = partitionOf r) ∧
      ((findPartition S TABLE_OFFSET label d).1 = .error .corrupt ↔
        ∃ before r after, chunksExact 32 table.toList = before ++ r :: after ∧ Damaged r ∧
          ∀ x ∈ before, ¬ Matches label x ∧ ¬ IsEnd x) ∧
      (chunksExact 32 table.toList).flatMap List.Vector.toList = table.toList := by
  have hfind : findPartition S TABLE_OFFSET label d =
      (scan label (chunksExact 32 table.toList), d') := by
    unfold findPartition
    rw [hread]
  rw [hfind]
  refine ⟨fun entries hwritten => ?_, fun p => scan_eq_some, scan_eq_corrupt_iff, ?_⟩
  · rw [scan_written hwritten]
  · refine flatMap_chunksExact ?_
    rw [table.toList_length]
    exact Dvd.intro_left MAX_ENTRIES rfl

/-! ### A table of two entries -/

/-- The settings. -/
def nvsEntry : Entry where
  kind := 1
  subtype := 2
  offset := 0x9000
  len := 0x6000
  label := "nvs"
  flags := List.Vector.replicate 4 0
  short := by decide +kernel
  noNul := by decide +kernel

/-- The identity, behind them. -/
def identityEntry : Entry :=
  { nvsEntry with
    offset := 0x7fd000
    len := 0x3000
    label := "identity"
    short := by decide +kernel
    noNul := by decide +kernel }

/-- The two entries, with blank flash behind them. -/
def twoEntries : Bytes :=
  ([nvsEntry, identityEntry].map Entry.record).flatMap List.Vector.toList ++
    List.replicate 2976 0xFF

theorem length_twoEntries : twoEntries.length = TABLE_LEN := by
  unfold twoEntries
  rw [List.length_append, length_flatMap_toList, List.length_replicate]
  rfl

def tableOfTwo : Array8 TABLE_LEN := ⟨twoEntries, length_twoEntries⟩

/-- The flash with the table at `0x8000`. -/
def image : Bytes := List.replicate 0x8000 0xFF ++ tableOfTwo.toList

/-- A read of a flash that is its bytes. -/
def readImage (n : ℕ) (a : UInt32) (buf : Array8 n × Bytes) :
    Except Unit Unit × (Array8 n × Bytes) :=
  match toArray8 n ((buf.2.drop a.toNat).take n) with
  | some b => (.ok (), (b, buf.2))
  | none => (.error (), buf)

/-- A flash that can only be read. -/
def storage : FlashStorage Bytes Unit where
  readNor := readImage
  readEncrypted _ _ buf := (.error (), buf)
  writeNor _ _ d := (.error (), d)
  erase _ _ d := (.error (), d)
  flashEncryption := false

theorem readImage_eq {n : ℕ} {a : UInt32} {buf b : Array8 n} {d : Bytes}
    (h : (d.drop a.toNat).take n = b.toList) : readImage n a (buf, d) = (.ok (), (b, d)) := by
  unfold readImage
  simp only [toArray8_eq_some.mpr h]

theorem readTable_storage (a : UInt32) (d : Bytes) :
    readTable storage a d = readImage TABLE_LEN a (List.Vector.replicate TABLE_LEN 0, d) := rfl

theorem readTable_image : readTable storage 0x8000 image = (.ok (), (tableOfTwo, image)) := by
  have hoffset : (0x8000 : UInt32).toNat = 0x8000 := by decide
  have htable : (image.drop (0x8000 : UInt32).toNat).take TABLE_LEN = tableOfTwo.toList := by
    unfold image
    rw [hoffset, List.drop_left' List.length_replicate,
      List.take_of_length_le (by rw [tableOfTwo.toList_length])]
  rw [readTable_storage, readImage_eq htable]

theorem written_tableOfTwo : Written [nvsEntry, identityEntry] tableOfTwo.toList := by
  refine ⟨by decide, List.replicate 2976 0xFF, rfl, fun _ => Or.inr ?_⟩
  rw [List.take_replicate]
  rfl

/-- The identity is found, and no factory app. -/
theorem identity_found :
    findPartition storage 0x8000 "identity" image = (.ok (some identityEntry.partition), image) ∧
      findPartition storage 0x8000 "factory" image = (.ok none, image) := by
  have hidentity := (lookup_reads_the_table storage 0x8000 "identity" _ _ _ readTable_image).1 _
    written_tableOfTwo
  have hfactory := (lookup_reads_the_table storage 0x8000 "factory" _ _ _ readTable_image).1 _
    written_tableOfTwo
  exact ⟨hidentity, hfactory⟩

end EspMid.Codec.PartitionTable
