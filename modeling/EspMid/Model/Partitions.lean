import EspMid.Lib.Records
import EspMid.Model.Flash

/-! # The partition table

Records of 32 bytes, ended by an MD5 record or blank flash; read in one piece to find a label. The
offset of the table is a setting of the build. -/

namespace EspMid.Model.Partitions

open EspMid.Lib.Records
open EspMid.Model.Core EspMid.Model.Flash

/-- Records the table can hold. -/
def MAX_ENTRIES : ℕ := 95

def MAGIC : Bytes := [0xAA, 0x50]

def MD5_MAGIC : Bytes := [0xEB, 0xEB]

/-- Bytes of the table. -/
def TABLE_LEN : ℕ := MAX_ENTRIES * 32

/-- One partition. -/
structure Partition where
  kind : UInt8
  subtype : UInt8
  offset : UInt32
  len : UInt32
  labelBytes : Array8 16
  deriving DecidableEq

/-- The label, as far as its first NUL; not UTF-8, it is empty. -/
def Partition.label (p : Partition) : String :=
  let last := p.labelBytes.toList.findIdx fun b => b == 0 || b == 0xFF
  (fromUtf8 (p.labelBytes.toList.take last)).getD ""

/-- `u32::from_le_bytes`. -/
def ofLe32 (b : Bytes) : UInt32 := ofBe32 b.reverse

theorem length_name (entry : Array8 32) : ((entry.toList.drop 12).take 16).length = 16 := by simp

/-- The label of a record. -/
def nameOf (entry : Array8 32) : Array8 16 := ⟨(entry.toList.drop 12).take 16, length_name entry⟩

/-- What a record says of its partition. -/
def partitionOf (entry : Array8 32) : Partition where
  kind := entry.get 2
  subtype := entry.get 3
  offset := ofLe32 ((entry.toList.drop 4).take 4)
  len := ofLe32 ((entry.toList.drop 8).take 4)
  labelBytes := nameOf entry

/-- Look for a label in the records of a table. -/
def scan (label : String) : List (Array8 32) → Result (Option Partition)
  | [] => .ok none
  | entry :: rest =>
    let magic := entry.toList.take 2
    if magic = MD5_MAGIC ∨ magic = [0xFF, 0xFF] then .ok none
    else if magic ≠ MAGIC then .error .corrupt
    else
      let p := partitionOf entry
      if p.label = label then .ok (some p) else scan label rest

variable {D E : Type} (S : FlashStorage D E) (TABLE_OFFSET : UInt32)

/-- Read the table, through the cache where the flash is encrypted. -/
def readTable (d : D) : Except E Unit × (Array8 TABLE_LEN × D) :=
  let table := List.Vector.replicate TABLE_LEN 0
  if S.flashEncryption then S.readEncrypted TABLE_LEN TABLE_OFFSET (table, d)
  else S.readNor TABLE_LEN TABLE_OFFSET (table, d)

/-- The partition labelled `label`. -/
def findPartition (label : String) (d : D) : Result (Option Partition) × D :=
  match readTable S TABLE_OFFSET d with
  | (.error _, (_, d')) => (.error .hardware, d')
  | (.ok (), (table, d')) => (scan label (chunksExact 32 table.toList), d')

end EspMid.Model.Partitions
