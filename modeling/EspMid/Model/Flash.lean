import EspMid.Model.Core

/-! # Track B: partitions of the flash

A partition knows its base and length and hands the driver an address only for what fits; a shared
one is opened anew for each operation. The driver `esp_storage::FlashStorage` is a record of its
operations over a state of its own. What an operation changes is its state: the flash, and for a
read the buffer beside it. -/

namespace EspMid.Model.Flash

open EspMid.Model.Core

/-- Bytes of a page of `rusty_esp_core::nvs`. -/
def PAGE_SIZE : UInt32 := 4096

/-- `u32::checked_add`. -/
def checkedAdd (x y : UInt32) : Option UInt32 :=
  if x.toNat + y.toNat < UInt32.size then some (x + y) else none

/-- `u32::try_from` of a `usize`. -/
def u32TryFrom (n : ℕ) : Option UInt32 := if n < UInt32.size then some (UInt32.ofNat n) else none

/-! ### The driver -/

/-- `esp_storage::FlashStorage` with states `D` and errors `E`. -/
structure FlashStorage (D E : Type) where
  /-- Read into a buffer of `n` bytes from an address. -/
  readNor : (n : ℕ) → UInt32 → Array8 n × D → Except E Unit × (Array8 n × D)
  /-- The same, through the cache that decrypts. -/
  readEncrypted : (n : ℕ) → UInt32 → Array8 n × D → Except E Unit × (Array8 n × D)
  /-- Program bytes at an address. -/
  writeNor : UInt32 → Bytes → D → Except E Unit × D
  /-- Erase from an address up to another. -/
  erase : UInt32 → UInt32 → D → Except E Unit × D
  /-- `esp_storage::flash_encryption()`. -/
  flashEncryption : Bool

/-- `map_err(|_| Error::Hardware)`. -/
def orHardware {E α : Type} : Except E α → Result α
  | .ok a => .ok a
  | .error _ => .error .hardware

/-! ### A partition -/

/-- What `new` refuses. -/
def BadGeometry (base len : UInt32) : Prop :=
  len = 0 ∨ base % PAGE_SIZE ≠ 0 ∨ len % PAGE_SIZE ≠ 0 ∨ checkedAdd base len = none

instance (base len : UInt32) : Decidable (BadGeometry base len) :=
  inferInstanceAs (Decidable (_ ∨ _))

/-- A partition: whole pages of the flash. -/
structure PartitionFlash where
  base : UInt32
  len : UInt32
  geometry : ¬ BadGeometry base len

/-- The partition at `base` of `len` bytes. -/
def PartitionFlash.new (base len : UInt32) : Result PartitionFlash :=
  if h : BadGeometry base len then .error .invalidGeometry else .ok ⟨base, len, h⟩

/-- The absolute address of `offset`, when `count` bytes from it fit. -/
def PartitionFlash.at (p : PartitionFlash) (offset : UInt32) (count : ℕ) : Result UInt32 :=
  match u32TryFrom count with
  | none => .error .invalidGeometry
  | some count32 =>
    match checkedAdd offset count32 with
    | some last => if last ≤ p.len then .ok (p.base + offset) else .error .invalidGeometry
    | none => .error .invalidGeometry

variable {D E : Type} (S : FlashStorage D E)

namespace PartitionFlash

def read {n : ℕ} (p : PartitionFlash) (offset : UInt32) (buf : Array8 n × D) :
    Result Unit × (Array8 n × D) :=
  match p.at offset n with
  | .error e => (.error e, buf)
  | .ok a => Prod.map orHardware id (S.readNor n a buf)

def write (p : PartitionFlash) (offset : UInt32) (data : Bytes) (d : D) : Result Unit × D :=
  match p.at offset data.length with
  | .error e => (.error e, d)
  | .ok a => Prod.map orHardware id (S.writeNor a data d)

def erasePage (p : PartitionFlash) (offset : UInt32) (d : D) : Result Unit × D :=
  match p.at offset PAGE_SIZE.toNat with
  | .error e => (.error e, d)
  | .ok a => Prod.map orHardware id (S.erase a (a + PAGE_SIZE) d)

end PartitionFlash

/-! ### A shared partition -/

/-- One partition of the shared flash, by what the partition table says of it. -/
structure SharedPartition where
  base : UInt32
  len : UInt32

/-- Run an operation on the partition, if its geometry is one. -/
def SharedPartition.with {X R : Type} (s : SharedPartition)
    (f : PartitionFlash → X → Result R × X) (x : X) : Result R × X :=
  match PartitionFlash.new s.base s.len with
  | .error e => (.error e, x)
  | .ok p => f p x

namespace SharedPartition

def read {n : ℕ} (s : SharedPartition) (offset : UInt32) :
    Array8 n × D → Result Unit × (Array8 n × D) :=
  s.with fun p => p.read S offset

def write (s : SharedPartition) (offset : UInt32) (data : Bytes) : D → Result Unit × D :=
  s.with fun p => p.write S offset data

def erasePage (s : SharedPartition) (offset : UInt32) : D → Result Unit × D :=
  s.with fun p => p.erasePage S offset

end SharedPartition

end EspMid.Model.Flash
