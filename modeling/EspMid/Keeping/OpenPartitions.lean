import EspMid.Lib.Footprint
import EspMid.Model.Flash

/-! # Open partitions stay inside themselves

The geometry that `new` checks makes every address sum of a partition's operations fit 32 bits
(`at_eq_ok`, `add_pageSize`), so the addresses handed to the driver lie in the partition. With a
driver that touches only what it is addressed to, any run of operations through any partitions stays
within their union (`open_partitions_stay_inside`). -/

namespace EspMid.Keeping.OpenPartitions

open EspMid.Lib.Footprint
open EspMid.Model.Core EspMid.Model.Flash

variable {D E : Type} {S : FlashStorage D E} {flash : D → ℕ → UInt8}

/-! ### Sums of 32 bits -/

theorem toNat_add_of_lt {x y : UInt32} (h : x.toNat + y.toNat < UInt32.size) :
    (x + y).toNat = x.toNat + y.toNat := by
  rw [UInt32.toNat_add]
  exact Nat.mod_eq_of_lt h

theorem checkedAdd_eq_some {x y z : UInt32} :
    checkedAdd x y = some z ↔ z.toNat = x.toNat + y.toNat := by
  unfold checkedAdd
  constructor
  · intro h
    split_ifs at h with hlt
    rw [← Option.some.inj h]
    exact toNat_add_of_lt hlt
  · intro h
    have hlt : x.toNat + y.toNat < UInt32.size := h ▸ z.toNat_lt
    rw [if_pos hlt]
    exact congrArg some (UInt32.toNat_inj.mp ((toNat_add_of_lt hlt).trans h.symm))

theorem checkedAdd_eq_none {x y : UInt32} :
    checkedAdd x y = none ↔ UInt32.size ≤ x.toNat + y.toNat := by
  unfold checkedAdd
  split_ifs with h
  · simp [h]
  · simp [Nat.not_lt.mp h]

theorem u32TryFrom_eq_some {n : ℕ} {x : UInt32} : u32TryFrom n = some x ↔ x.toNat = n := by
  unfold u32TryFrom
  constructor
  · intro h
    split_ifs at h with hlt
    rw [← Option.some.inj h]
    exact UInt32.toNat_ofNat_of_lt' hlt
  · rintro rfl
    rw [if_pos x.toNat_lt, UInt32.ofNat_toNat]

theorem u32TryFrom_eq_none {n : ℕ} : u32TryFrom n = none ↔ UInt32.size ≤ n := by
  unfold u32TryFrom
  split_ifs with h
  · simp [h]
  · simp [Nat.not_lt.mp h]

/-! ### The addresses of a partition -/

theorem base_add_len_lt (p : PartitionFlash) : p.base.toNat + p.len.toNat < UInt32.size := by
  have h := p.geometry
  simp only [BadGeometry, not_or] at h
  exact Nat.lt_of_not_le (mt checkedAdd_eq_none.mpr h.2.2.2)

theorem new_eq_ok {base len : UInt32} {p : PartitionFlash} :
    PartitionFlash.new base len = .ok p ↔ p.base = base ∧ p.len = len := by
  unfold PartitionFlash.new
  constructor
  · intro h
    split_ifs at h
    rw [← Except.ok.inj h]
    exact ⟨rfl, rfl⟩
  · rintro ⟨rfl, rfl⟩
    rw [dif_neg p.geometry]

theorem at_eq (p : PartitionFlash) (offset : UInt32) (count : ℕ) :
    p.at offset count =
      if offset.toNat + count ≤ p.len.toNat then .ok (p.base + offset)
      else .error .invalidGeometry := by
  have hlen : p.len.toNat < UInt32.size := p.len.toNat_lt
  unfold PartitionFlash.at
  cases hcount : u32TryFrom count with
  | none =>
    have hlong := u32TryFrom_eq_none.mp hcount
    rw [if_neg (by omega)]
  | some count32 =>
    have hn := u32TryFrom_eq_some.mp hcount
    dsimp only
    cases hlast : checkedAdd offset count32 with
    | none =>
      have hlong := checkedAdd_eq_none.mp hlast
      rw [if_neg (by omega)]
    | some last =>
      have hsum := checkedAdd_eq_some.mp hlast
      have hiff : last ≤ p.len ↔ offset.toNat + count ≤ p.len.toNat := by
        rw [UInt32.le_iff_toNat_le, hsum, hn]
      simp only [hiff]

theorem at_isOk {p : PartitionFlash} {offset : UInt32} {count : ℕ} :
    (∃ a, p.at offset count = .ok a) ↔ offset.toNat + count ≤ p.len.toNat := by
  rw [at_eq]
  split_ifs with h <;> simp [h]

/-- **The addresses.** What fits the partition has its address, and the sum does not wrap. -/
theorem at_eq_ok {p : PartitionFlash} {offset a : UInt32} {count : ℕ} :
    p.at offset count = .ok a ↔
      offset.toNat + count ≤ p.len.toNat ∧ a.toNat = p.base.toNat + offset.toNat := by
  have hend := base_add_len_lt p
  rw [at_eq]
  split_ifs with hfits
  · have hbase : (p.base + offset).toNat = p.base.toNat + offset.toNat :=
      toNat_add_of_lt (by omega)
    rw [Except.ok.injEq, ← hbase, UInt32.toNat_inj]
    exact ⟨fun h => ⟨hfits, h.symm⟩, fun h => h.2.symm⟩
  · simp [hfits]

theorem add_pageSize {p : PartitionFlash} {offset a : UInt32}
    (h : p.at offset PAGE_SIZE.toNat = .ok a) :
    (a + PAGE_SIZE).toNat = a.toNat + PAGE_SIZE.toNat := by
  obtain ⟨hfits, ha⟩ := at_eq_ok.mp h
  have hend := base_add_len_lt p
  exact toNat_add_of_lt (by omega)

/-! ### The driver -/

/-- **The driver** touches only what it is addressed to: a read nothing, a program the bytes it is
given, an erase what lies between its two addresses; also where it fails. -/
structure Confined (S : FlashStorage D E) (flash : D → ℕ → UInt8) : Prop where
  read : ∀ n a buf, Within flash ∅ buf.2 (S.readNor n a buf).2.2
  readEncrypted : ∀ n a buf, Within flash ∅ buf.2 (S.readEncrypted n a buf).2.2
  write : ∀ a data d,
    Within flash (Set.Ico a.toNat (a.toNat + data.length)) d (S.writeNor a data d).2
  erase : ∀ a b d, Within flash (Set.Ico a.toNat b.toNat) d (S.erase a b d).2

/-- The addresses of a partition. -/
def addresses (p : PartitionFlash) : Set ℕ :=
  Set.Ico p.base.toNat (p.base.toNat + p.len.toNat)

theorem Ico_subset_addresses {p : PartitionFlash} {offset a : UInt32} {count : ℕ}
    (h : p.at offset count = .ok a) :
    Set.Ico a.toNat (a.toNat + count) ⊆ addresses p := by
  obtain ⟨hfits, ha⟩ := at_eq_ok.mp h
  exact Set.Ico_subset_Ico (by omega) (by omega)

/-! ### Operations on handles -/

/-- An operation of the `Flash` seam; a read brings its buffer. -/
inductive Op where
  | read (offset : UInt32) (n : ℕ) (buf : Array8 n)
  | write (offset : UInt32) (data : Bytes)
  | erasePage (offset : UInt32)

/-- A partition, held or shared. -/
inductive Handle where
  | held (p : PartitionFlash)
  | shared (s : SharedPartition)

/-- The state an operation on a partition leaves. -/
def performOn (S : FlashStorage D E) (p : PartitionFlash) (op : Op) (d : D) : D :=
  match op with
  | .read offset _ buf => (p.read S offset (buf, d)).2.2
  | .write offset data => (p.write S offset data d).2
  | .erasePage offset => (p.erasePage S offset d).2

/-- The state an operation through a handle leaves. -/
def Handle.perform (S : FlashStorage D E) (h : Handle) (op : Op) (d : D) : D :=
  match h, op with
  | .held p, op => performOn S p op d
  | .shared s, .read offset _ buf => (s.read S offset (buf, d)).2.2
  | .shared s, .write offset data => (s.write S offset data d).2
  | .shared s, .erasePage offset => (s.erasePage S offset d).2

/-- The addresses a handle opens; a shared partition without the geometry of one opens none. -/
def Handle.range : Handle → Set ℕ
  | .held p => addresses p
  | .shared s =>
    match PartitionFlash.new s.base s.len with
    | .ok p => addresses p
    | .error _ => ∅

/-- The state after a sequence of operations, each through a handle of its own. -/
def run (S : FlashStorage D E) (ops : List (Handle × Op)) (d : D) : D :=
  ops.foldl (fun d op => op.1.perform S op.2 d) d

/-- An operation on a partition stays within it. -/
theorem performOn_within (hS : Confined S flash) (p : PartitionFlash) (op : Op) (d : D) :
    Within flash (addresses p) d (performOn S p op d) := by
  cases op with
  | read offset n buf =>
    unfold performOn PartitionFlash.read
    cases hat : p.at offset n with
    | error e => simp only [hat]; exact Within.refl _ _ _
    | ok a =>
      simp only [hat]
      exact (hS.read n a (buf, d)).mono (Set.empty_subset _)
  | write offset data =>
    unfold performOn PartitionFlash.write
    cases hat : p.at offset data.length with
    | error e => simp only [hat]; exact Within.refl _ _ _
    | ok a =>
      simp only [hat]
      exact (hS.write a data d).mono (Ico_subset_addresses hat)
  | erasePage offset =>
    unfold performOn PartitionFlash.erasePage
    cases hat : p.at offset PAGE_SIZE.toNat with
    | error e => simp only [hat]; exact Within.refl _ _ _
    | ok a =>
      simp only [hat]
      have herase := hS.erase a (a + PAGE_SIZE) d
      rw [add_pageSize hat] at herase
      exact herase.mono (Ico_subset_addresses hat)

/-- **A step.** An operation through a handle stays within what the handle opens. -/
theorem perform_within (hS : Confined S flash) (h : Handle) (op : Op) (d : D) :
    Within flash h.range d (h.perform S op d) := by
  cases h with
  | held p => exact performOn_within hS p op d
  | shared s =>
    cases hnew : PartitionFlash.new s.base s.len with
    | error e =>
      -- no partition is opened, and nothing is done
      have hsame : (Handle.shared s).perform S op d = d := by
        cases op <;> simp only [Handle.perform, SharedPartition.read, SharedPartition.write,
          SharedPartition.erasePage, SharedPartition.with, hnew]
      rw [hsame]
      exact Within.refl _ _ _
    | ok p =>
      have hrange : (Handle.shared s).range = addresses p := by simp only [Handle.range, hnew]
      have hperform : (Handle.shared s).perform S op d = performOn S p op d := by
        cases op <;> simp only [Handle.perform, performOn, SharedPartition.read,
          SharedPartition.write, SharedPartition.erasePage, SharedPartition.with, hnew]
      rw [hrange, hperform]
      exact performOn_within hS p op d

/-- **A run.** A sequence of operations stays within what its handles open. -/
theorem run_within (hS : Confined S flash) (ops : List (Handle × Op)) (d : D) :
    Within flash (⋃ op ∈ ops, op.1.range) d (run S ops d) :=
  foldl_within (fun d op => perform_within hS op.1 op.2 d) ops d

/-- **Open partitions stay inside themselves**: what fits a partition has its address, and nothing
else has; no sum of addresses wraps; and with a driver that touches only what it is addressed to, a
sequence of operations changes no byte outside what was opened, and an operation none of a partition
disjoint from its own. -/
theorem open_partitions_stay_inside :
    (∀ base len p, PartitionFlash.new base len = .ok p → ∀ offset count,
      ((∃ a, p.at offset count = .ok a) ↔ offset.toNat + count ≤ len.toNat) ∧
        ∀ a, p.at offset count = .ok a →
          base.toNat ≤ a.toNat ∧ a.toNat + count ≤ base.toNat + len.toNat ∧
            base.toNat + len.toNat < 2 ^ 32 ∧ a.toNat = base.toNat + offset.toNat ∧
            (count = PAGE_SIZE.toNat → (a + PAGE_SIZE).toNat = a.toNat + PAGE_SIZE.toNat)) ∧
      ∀ (D E : Type) (S : FlashStorage D E) (flash : D → ℕ → UInt8), Confined S flash →
        (∀ ops d, Set.EqOn (flash (run S ops d)) (flash d) (⋃ op ∈ ops, op.1.range)ᶜ) ∧
          ∀ (h h' : Handle) op d, h'.range ⊆ h.rangeᶜ →
            Set.EqOn (flash (h.perform S op d)) (flash d) h'.range := by
  refine ⟨?_, fun D E S flash hS => ⟨fun ops d => run_within hS ops d, ?_⟩⟩
  · intro base len p hnew offset count
    obtain ⟨rfl, rfl⟩ := new_eq_ok.mp hnew
    refine ⟨at_isOk, fun a ha => ?_⟩
    obtain ⟨hfits, hsum⟩ := at_eq_ok.mp ha
    refine ⟨by omega, by omega, base_add_len_lt p, hsum, ?_⟩
    rintro rfl
    exact add_pageSize ha
  · intro h h' op d houtside
    exact (perform_within hS h op d).frame houtside

/-! ### A flash of four megabytes -/

/-- Four mebibytes. -/
def CAPACITY : ℕ := 0x400000

/-- Whole words of the flash. -/
def isWords (a n : ℕ) : Bool := a % 4 == 0 && n % 4 == 0 && a + n ≤ CAPACITY

/-- Whole pages of the flash. -/
def isPages (a b : ℕ) : Bool := a % 4096 == 0 && b % 4096 == 0 && a ≤ b && b ≤ CAPACITY

/-- The flash is its bytes, and a read copies them. -/
def norRead (n : ℕ) (a : UInt32) (buf : Array8 n × (ℕ → UInt8)) :
    Except Unit Unit × (Array8 n × (ℕ → UInt8)) :=
  if isWords a.toNat n then (.ok (), List.Vector.ofFn fun i => buf.2 (a.toNat + i), buf.2)
  else (.error (), buf)

/-- A program clears bits. -/
def norWrite (a : UInt32) (data : Bytes) (d : ℕ → UInt8) : Except Unit Unit × (ℕ → UInt8) :=
  if isWords a.toNat data.length then
    (.ok (), fun i =>
      if i ∈ Set.Ico a.toNat (a.toNat + data.length) then d i &&& data.getD (i - a.toNat) 0xFF
      else d i)
  else (.error (), d)

/-- An erase sets every bit. -/
def norErase (a b : UInt32) (d : ℕ → UInt8) : Except Unit Unit × (ℕ → UInt8) :=
  if isPages a.toNat b.toNat then
    (.ok (), fun i => if i ∈ Set.Ico a.toNat b.toNat then 0xFF else d i)
  else (.error (), d)

/-- A flash chip whose operations do not fail. -/
def norFlash : FlashStorage (ℕ → UInt8) Unit where
  readNor := norRead
  readEncrypted := norRead
  writeNor := norWrite
  erase := norErase
  flashEncryption := false

theorem norRead_within (n : ℕ) (a : UInt32) (buf : Array8 n × (ℕ → UInt8)) :
    Within id ∅ buf.2 (norRead n a buf).2.2 := by
  unfold norRead
  split_ifs <;> exact Within.refl _ _ _

theorem confined_norFlash : Confined norFlash id where
  read := norRead_within
  readEncrypted := norRead_within
  write a data d := by
    change Within id _ d (norWrite a data d).2
    unfold norWrite
    split_ifs
    · exact fun i hi => if_neg hi
    · exact Within.refl _ _ _
  erase a b d := by
    change Within id _ d (norErase a b d).2
    unfold norErase
    split_ifs
    · exact fun i hi => if_neg hi
    · exact Within.refl _ _ _

/-- The settings partition. -/
def settings : PartitionFlash := ⟨0x9000, 0x6000, by decide⟩

/-- The identity partition, next to it. -/
def identity : SharedPartition := ⟨0xF000, 0x2000⟩

/-- The last page that a partition can have. -/
def lastPage : PartitionFlash := ⟨0xFFFFE000, 0x1000, by decide⟩

theorem identity_outside_settings :
    (Handle.shared identity).range ⊆ (Handle.held settings).rangeᶜ := by
  intro i hidentity hsettings
  have hlow : 0xF000 ≤ i := hidentity.1
  have hhigh : i < 0x9000 + 0x6000 := hsettings.2
  omega

/-- The last page erases to its end; erasing the settings' last page and writing to the identity
leaves the rest of the flash, and the erase leaves the identity. -/
theorem settings_beside_identity :
    (lastPage.at 0 4096 = .ok 0xFFFFE000 ∧
        ((0xFFFFE000 : UInt32) + PAGE_SIZE).toNat = 0xFFFFF000) ∧
      Set.EqOn (run norFlash [(.held settings, .erasePage 0x5000),
          (.shared identity, .write 0 [1, 2, 3, 4])] fun _ => 0x5A) (fun _ => 0x5A)
        (⋃ op ∈ [(Handle.held settings, Op.erasePage 0x5000),
          (.shared identity, .write 0 [1, 2, 3, 4])], op.1.range)ᶜ ∧
      Set.EqOn ((Handle.held settings).perform norFlash (.erasePage 0x5000) fun _ => 0x5A)
        (fun _ => 0x5A) (Handle.shared identity).range := by
  obtain ⟨haddresses, hdriver⟩ := open_partitions_stay_inside
  obtain ⟨hrun, hframe⟩ := hdriver _ _ norFlash id confined_norFlash
  have hlast : lastPage.at 0 4096 = .ok 0xFFFFE000 := by decide
  obtain ⟨-, -, -, -, hend⟩ := (haddresses _ _ lastPage (new_eq_ok.mpr ⟨rfl, rfl⟩) 0 4096).2 _ hlast
  exact ⟨⟨hlast, hend rfl⟩, hrun _ _, hframe _ _ _ _ identity_outside_settings⟩

end EspMid.Keeping.OpenPartitions
