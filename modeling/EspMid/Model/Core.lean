import EspMid.Lib.Framing
import EspMid.Lib.StoreLogic

/-! # What every module uses

Errors, byte strings and fixed arrays, Rust's `str` as `String` with its UTF-8 bytes, big-endian
integers, and the functions of other crates. Those are the fields of `Crates`, over which every
definition that reaches one of them is parameterized: SHA-256, the P-256 keys and their SEC1 forms,
the raw ECDSA operations, the JSON parser and the capability manifest's encoder. The laws among the
fields are the ones the SEC1 encoding documents: a compressed key is tagged `02` or `03`, and a key
reads back from either form. -/

namespace EspMid.Model.Core

open EspMid.Lib EspMid.Lib.Framing

/-! ### Errors and bytes -/

/-- The errors of `rusty_esp_core` that the crate returns. -/
inductive Error where
  | invalidFormat
  | unsupported
  | denied
  | crypto
  | corrupt
  | hardware
  | invalidGeometry
  | bufferTooSmall (needed : ℕ)
  deriving DecidableEq

/-- The result type of the core's functions. -/
abbrev Result (α : Type) := Except Error α

/-- A slice of bytes. -/
abbrev Bytes := List UInt8

/-- An array `[u8; n]`. -/
abbrev Array8 (n : ℕ) := List.Vector UInt8 n

/-- A slice as an array, if it has the length. -/
def toArray8 (n : ℕ) (b : Bytes) : Option (Array8 n) := if h : b.length = n then some ⟨b, h⟩ else none

theorem toArray8_toList {n : ℕ} (a : Array8 n) : toArray8 n a.toList = some a := by
  unfold toArray8
  rw [dif_pos a.toList_length]
  rfl

theorem toArray8_eq_some {n : ℕ} {b : Bytes} {a : Array8 n} :
    toArray8 n b = some a ↔ b = a.toList := by
  constructor
  · intro h
    unfold toArray8 at h
    split_ifs at h
    cases h
    rfl
  · rintro rfl
    exact toArray8_toList a

/-- The `Kv` seam of `rusty_esp_core`: a short buffer names the length it needed. -/
instance : StoreProg.StoreError Error := ⟨.bufferTooSmall⟩

/-- A fallible procedure over `Kv` stores named in `S`. -/
abbrev Kv (S α : Type) := StoreProg.Proc S String UInt8 Error α

/-- A procedure over `Kv` stores that returns no error. -/
abbrev KvTotal (S α : Type) := StoreProg.Prog S String UInt8 Error α

/-- The contents of the stores named in `S`. -/
abbrev KvStores (S : Type) := StoreProg.Stores S String UInt8

/-- What goes wrong in a run over `Kv` stores. -/
abbrev KvFaults := StoreProg.Faults UInt8 Error

/-! ### Strings -/

/-- The UTF-8 bytes of a string. -/
def asBytes (s : String) : Bytes := s.toByteArray.data.toList

/-- Its length in bytes. -/
def byteLen (s : String) : ℕ := (asBytes s).length

/-- `core::str::from_utf8`. -/
def fromUtf8 (b : Bytes) : Option String := String.fromUTF8? ⟨b.toArray⟩

theorem fromUtf8_eq_some {b : Bytes} {s : String} : fromUtf8 b = some s ↔ asBytes s = b := by
  unfold fromUtf8 String.fromUTF8? asBytes
  constructor
  · intro h
    split_ifs at h with hv
    cases h
    rfl
  · rintro rfl
    rw [dif_pos (show ByteArray.IsValidUTF8 ⟨s.toByteArray.data.toList.toArray⟩ from
      by simpa using s.isValidUTF8)]
    rfl

@[simp] theorem fromUtf8_asBytes (s : String) : fromUtf8 (asBytes s) = some s :=
  fromUtf8_eq_some.mpr rfl

theorem asBytes_injective : Function.Injective asBytes := by
  intro s t h
  have hs := fromUtf8_asBytes s
  rw [h, fromUtf8_asBytes] at hs
  exact (Option.some.inj hs).symm

@[simp] theorem asBytes_append (s t : String) : asBytes (s ++ t) = asBytes s ++ asBytes t := by
  simp [asBytes, String.toByteArray_append, ByteArray.data_append]

/-- `str::strip_prefix`. -/
def stripPrefix (p s : String) : Option String :=
  if p.toList <+: s.toList then some (String.ofList (s.toList.drop p.toList.length)) else none

/-- `str::split` at a character. -/
def split (s : String) (c : Char) : List String := (s.toList.splitOn c).map String.ofList

/-! ### Integers -/

/-- `(n as u16).to_be_bytes()`. -/
def be16 (n : ℕ) : Bytes := BigEndian.ofNat 2 n

/-- `u32::to_be_bytes`. -/
def be32 (x : UInt32) : Bytes := BigEndian.ofNat 4 x.toNat

/-- `u64::to_be_bytes`. -/
def be64 (x : UInt64) : Bytes := BigEndian.ofNat 8 x.toNat

/-- `u32::from_be_bytes`. -/
def ofBe32 (b : Bytes) : UInt32 := UInt32.ofNat (BigEndian.toNat b)

/-- `u64::from_be_bytes`. -/
def ofBe64 (b : Bytes) : UInt64 := UInt64.ofNat (BigEndian.toNat b)

@[simp] theorem length_be16 (n : ℕ) : (be16 n).length = 2 := by simp [be16]
@[simp] theorem length_be32 (x : UInt32) : (be32 x).length = 4 := by simp [be32]
@[simp] theorem length_be64 (x : UInt64) : (be64 x).length = 8 := by simp [be64]

@[simp] theorem ofBe32_be32 (x : UInt32) : ofBe32 (be32 x) = x := by
  have hx := x.toNat_lt
  unfold ofBe32 be32
  rw [BigEndian.toNat_ofNat_of_lt (by omega), UInt32.ofNat_toNat]

@[simp] theorem ofBe64_be64 (x : UInt64) : ofBe64 (be64 x) = x := by
  have hx := x.toNat_lt
  unfold ofBe64 be64
  rw [BigEndian.toNat_ofNat_of_lt (by omega), UInt64.ofNat_toNat]

theorem be32_ofBe32 {b : Bytes} (h : b.length = 4) : be32 (ofBe32 b) = b := by
  have hb := BigEndian.toNat_lt b
  rw [h] at hb
  unfold be32 ofBe32
  rw [UInt32.toNat_ofNat_of_lt' (by simpa using hb), ← h, BigEndian.ofNat_toNat]

theorem be64_ofBe64 {b : Bytes} (h : b.length = 8) : be64 (ofBe64 b) = b := by
  have hb := BigEndian.toNat_lt b
  rw [h] at hb
  unfold be64 ofBe64
  rw [UInt64.toNat_ofNat_of_lt' (by simpa using hb), ← h, BigEndian.ofNat_toNat]

theorem be64_injective : Function.Injective be64 :=
  Function.LeftInverse.injective ofBe64_be64

/-! ### JSON values -/

/-- A JSON number as `serde_json` holds it; a float is its bits. -/
inductive Number where
  | posInt (n : UInt64)
  | negInt (n : Int64)
  | float (bits : UInt64)

/-- `serde_json::Value`; an object is its entries. -/
inductive Value where
  | null
  | bool (b : Bool)
  | number (n : Number)
  | string (s : String)
  | array (vs : List Value)
  | object (entries : List (String × Value))

namespace Value

def asStr : Value → Option String
  | .string s => some s
  | _ => none

def asU64 : Value → Option UInt64
  | .number (.posInt n) => some n
  | _ => none

/-- `as_object()?.get(key)`. -/
def field (v : Value) (key : String) : Option Value :=
  match v with
  | .object entries => entries.lookup key
  | _ => none

/-- `field(v, key)?.as_str()`. -/
def text (v : Value) (key : String) : Option String := (v.field key).bind asStr

end Value

/-! ### P-256 and the other crates -/

/-- The order of the P-256 group. -/
def ORDER : ℕ := 0xffffffff00000000ffffffffffffffffbce6faada7179e84f3b9cac2fc632551

/-- A scalar that is not zero, below the group order. -/
abbrev Scalar := { n : ℕ // 0 < n ∧ n < ORDER }

/-- An ECDSA signature: two such scalars. -/
structure Signature where
  r : Scalar
  s : Scalar
  deriving DecidableEq

/-- What the crate takes from other crates. -/
structure Crates where
  /-- SHA-256 of a byte string. -/
  sha256 : Bytes → Array8 32
  /-- A P-256 public key. -/
  VerifyingKey : Type
  /-- `VerifyingKey::from_sec1_bytes`. -/
  fromSec1Bytes : Bytes → Option VerifyingKey
  /-- The compressed SEC1 form. -/
  compressed : VerifyingKey → Array8 33
  /-- The uncompressed SEC1 form. -/
  uncompressed : VerifyingKey → Array8 65
  compressed_tag : ∀ k, (compressed k).head = 2 ∨ (compressed k).head = 3
  fromSec1Bytes_compressed : ∀ k, fromSec1Bytes (compressed k).toList = some k
  fromSec1Bytes_uncompressed : ∀ k, fromSec1Bytes (uncompressed k).toList = some k
  /-- `PublicKey::from_secret_scalar`. -/
  fromSecretScalar : Scalar → VerifyingKey
  /-- The RFC 6979 signature of a prehash, before its `s` is normalized. -/
  signRfc6979 : Scalar → Array8 32 → Signature
  /-- The ECDSA equation. -/
  verifyEcdsa : VerifyingKey → Array8 32 → Signature → Bool
  /-- `serde_json::from_slice`. -/
  jsonFromSlice : Bytes → Option Value
  /-- `serde_json::from_str`. -/
  jsonFromStr : String → Option Value
  /-- `rusty_esp_core`'s capability manifest. -/
  Manifest : Type
  /-- `Manifest::encode`: the length written or the error, and the buffer left. -/
  manifestEncode : Manifest → Bytes → Result ℕ × Bytes

/-! ### Scalars as bytes -/

/-- `NonZeroScalar::from_repr`. -/
def scalarFromRepr (b : Array8 32) : Option Scalar :=
  if h : 0 < BigEndian.toNat b.toList ∧ BigEndian.toNat b.toList < ORDER then
    some ⟨BigEndian.toNat b.toList, h⟩
  else none

/-- `Scalar::to_repr`. -/
def scalarToRepr (n : Scalar) : Array8 32 := ⟨BigEndian.ofNat 32 n.1, by simp⟩

theorem ORDER_lt : ORDER < 256 ^ 32 := by decide

theorem Scalar.lt (n : Scalar) : n.1 < 256 ^ 32 := lt_trans n.2.2 ORDER_lt

theorem toList_scalarToRepr (n : Scalar) : (scalarToRepr n).toList = BigEndian.ofNat 32 n.1 := rfl

@[simp] theorem scalarFromRepr_toRepr (n : Scalar) : scalarFromRepr (scalarToRepr n) = some n := by
  have hn : BigEndian.toNat (scalarToRepr n).toList = n.1 := by
    rw [toList_scalarToRepr, BigEndian.toNat_ofNat_of_lt (Scalar.lt n)]
  have hr : 0 < BigEndian.toNat (scalarToRepr n).toList ∧
      BigEndian.toNat (scalarToRepr n).toList < ORDER := hn.symm ▸ n.2
  unfold scalarFromRepr
  rw [dif_pos hr]
  generalize BigEndian.toNat (scalarToRepr n).toList = m at hn hr
  exact congrArg some (Subtype.ext hn)

theorem scalarToRepr_of_fromRepr {b : Array8 32} {n : Scalar} (h : scalarFromRepr b = some n) :
    scalarToRepr n = b := by
  unfold scalarFromRepr at h
  split_ifs at h
  cases h
  apply Subtype.ext
  have := BigEndian.ofNat_toNat b.toList
  rwa [b.toList_length] at this

theorem scalarToRepr_injective : Function.Injective scalarToRepr := by
  intro n m h
  have hn := scalarFromRepr_toRepr n
  rw [h, scalarFromRepr_toRepr] at hn
  exact (Option.some.inj hn).symm

/-! ### Signatures as bytes -/

namespace Signature

/-- `Signature::from_slice`: `r`, then `s`. -/
def fromSlice (b : Bytes) : Option Signature := do
  let r ← toArray8 32 (b.take 32)
  let s ← toArray8 32 (b.drop 32)
  return { r := ← scalarFromRepr r, s := ← scalarFromRepr s }

/-- `Signature::to_bytes`. -/
def toBytes (sig : Signature) : Array8 64 :=
  ⟨(scalarToRepr sig.r).toList ++ (scalarToRepr sig.s).toList, by simp⟩

/-- `Signature::normalize_s`: the twin with the low `s`, if `s` is high. -/
def normalizeS (sig : Signature) : Option Signature :=
  if h : sig.s.1 > ORDER / 2 then
    some { sig with s := ⟨ORDER - sig.s.1, by have := sig.s.2; omega⟩ }
  else none

end Signature

end EspMid.Model.Core
