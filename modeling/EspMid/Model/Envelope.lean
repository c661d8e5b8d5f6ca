import EspMid.Model.Capability
import EspMid.Model.Identity

/-! # The adoption envelope

The owner-signed grant: its fields, its hand-written encoder over a caller's buffer, its decoder by
suffixes, and the check a device runs before it pins the owner. A write past the buffer's end, or a
failed debug assertion, is a panic: the encoder then returns `none`. -/

namespace EspMid.Model.Envelope

open EspMid.Lib.Framing EspMid.Model.Core EspMid.Model.Capability EspMid.Model.Identity

/-- Domain separator. -/
def ADOPTION_DOMAIN : Bytes := asBytes "janus-adoption-v1\n"

/-- Current wire version. -/
def ADOPTION_VERSION : UInt8 := 1

/-- Most capability strings one adoption may carry. -/
def MAX_CAPS : ℕ := 32

/-- Longest single string field. -/
def MAX_FIELD_LEN : ℕ := 255

def SIG_LEN : ℕ := 64

/-- The key of the encoded adoption. -/
def KV_ADOPTION : String := "mid.adopt"

/-- The key of the owner pin. -/
def KV_OWNER_PIN : String := "mid.owner"

/-! ### Readers -/

/-- The bytes behind a literal. -/
def expect (r lit : Bytes) : Result Bytes :=
  if r.length < lit.length ∨ r.take lit.length ≠ lit then .error .invalidFormat
  else .ok (r.drop lit.length)

/-- A byte off the front. -/
def readU8 : Bytes → Result (UInt8 × Bytes)
  | [] => .error .invalidFormat
  | b :: rest => .ok (b, rest)

/-- A slice as an array, or a format error. -/
def tryInto (n : ℕ) (b : Bytes) : Result (Array8 n) :=
  match toArray8 n b with
  | none => .error .invalidFormat
  | some a => .ok a

/-- `n` bytes off the front. -/
def readArray (n : ℕ) (r : Bytes) : Result (Array8 n × Bytes) := do
  if r.length < n then .error .invalidFormat
  else
    let head ← tryInto n (r.take n)
    return (head, r.drop n)

/-- A string behind its length. -/
def readStr (r : Bytes) : Result (String × Bytes) := do
  let (len, rest) ← readArray 2 r
  let len := EspMid.Lib.BigEndian.toNat len.toList
  if rest.length < len then .error .invalidFormat
  else
    match fromUtf8 (rest.take len) with
    | none => .error .invalidFormat
    | some s => .ok (s, rest.drop len)

/-! ### The capability list -/

/-- The capabilities of an adoption: the strings, or their wire bytes. -/
inductive CapList where
  | slice (s : List String)
  | wire (count : UInt8) (bytes : Bytes)
  deriving DecidableEq

/-- The iterator over them. -/
inductive CapIter where
  | slice (it : List String)
  | wire (remaining : UInt8) (bytes : Bytes)

namespace CapIter

/-- The next capability, and what is left. -/
def next : CapIter → Option String × CapIter
  | .slice [] => (none, .slice [])
  | .slice (s :: it) => (some s, .slice it)
  | .wire remaining bytes =>
    if remaining = 0 then (none, .wire remaining bytes)
    else
      match readStr bytes with
      | .ok (s, rest) => (some s, .wire (remaining - 1) rest)
      | .error _ => (none, .wire (remaining - 1) bytes)

/-- The strings of `n` wire entries, up to the first that does not read. -/
def wireStrs : ℕ → Bytes → List String
  | 0, _ => []
  | n + 1, bytes =>
    match readStr bytes with
    | .ok (s, rest) => s :: wireStrs n rest
    | .error _ => []

/-- What a loop over the iterator sees. -/
def toList : CapIter → List String
  | .slice it => it
  | .wire remaining bytes => wireStrs remaining.toNat bytes

/-- The loop sees what `next` yields, until it yields nothing. -/
theorem toList_eq (it : CapIter) :
    it.toList =
      match it.next with
      | (none, _) => []
      | (some s, it') => s :: it'.toList := by
  rcases it with it | ⟨remaining, bytes⟩
  · rcases it with _ | ⟨s, it⟩
    · rfl
    · rfl
  · by_cases h0 : remaining = 0
    · subst h0
      rfl
    · have hpos : remaining.toNat ≠ 0 := fun h => h0 (UInt8.toNat_inj.mp h)
      have hsub : (remaining - 1).toNat = remaining.toNat - 1 := by
        rw [UInt8.toNat_sub_of_le]
        · rfl
        · rw [UInt8.le_iff_toNat_le]
          exact Nat.one_le_iff_ne_zero.mpr hpos
      obtain ⟨n, hn⟩ := Nat.exists_eq_succ_of_ne_zero hpos
      simp only [toList, next, if_neg h0, hn, wireStrs]
      cases readStr bytes with
      | error e => rfl
      | ok p => simp only [hsub, hn, Nat.succ_sub_one]

end CapIter

namespace CapList

/-- How many there are. -/
def len : CapList → ℕ
  | .slice s => s.length
  | .wire count _ => count.toNat

/-- Over the capabilities from the first on. -/
def iter : CapList → CapIter
  | .slice s => .slice s
  | .wire count bytes => .wire count bytes

end CapList

/-! ### The encoder -/

/-- The fields of an adoption. -/
structure AdoptionFields where
  deviceDid : String
  ownerDid : String
  ownerGenesisPubkey : Array8 33
  hubEndpointId : Array8 32
  hubRelay : String
  hubHost : String
  caps : CapList
  rosterVersion : UInt32
  issuedAt : UInt64
  expiresAt : UInt64
  deriving DecidableEq

/-- A buffer and the position after the last write. -/
structure Writer where
  out : Bytes
  pos : ℕ

namespace Writer

/-- Write bytes, if there is room. -/
def bytes (w : Writer) (b : Bytes) : Option Writer :=
  if w.pos + b.length ≤ w.out.length then
    some { out := w.out.take w.pos ++ b ++ w.out.drop (w.pos + b.length), pos := w.pos + b.length }
  else none

/-- Write a string behind its length. -/
def str16 (w : Writer) (s : String) : Option Writer := do
  let w ← w.bytes (be16 (byteLen s))
  w.bytes (asBytes s)

end Writer

namespace AdoptionFields

/-- Check the field lengths, the capability strings and the dates. -/
def validate (f : AdoptionFields) : Result Unit :=
  if [f.deviceDid, f.ownerDid, f.hubRelay, f.hubHost].any (byteLen · > MAX_FIELD_LEN) then
    .error .invalidFormat
  else if byteLen f.deviceDid = 0 ∨ byteLen f.ownerDid = 0 then .error .invalidFormat
  else if f.caps.len > MAX_CAPS then .error .invalidFormat
  else if f.caps.iter.toList.any fun cap => byteLen cap > MAX_FIELD_LEN || (Cap.parse cap).isNone then
    .error .invalidFormat
  else if f.expiresAt ≠ 0 ∧ f.expiresAt ≤ f.issuedAt then .error .invalidFormat
  else .ok ()

/-- The bytes the encoder needs. -/
def canonicalLen (f : AdoptionFields) : ℕ :=
  let n := ADOPTION_DOMAIN.length + 1
  let n := n + (2 + byteLen f.deviceDid + 2 + byteLen f.ownerDid)
  let n := n + (33 + 32)
  let n := n + (2 + byteLen f.hubRelay + 2 + byteLen f.hubHost)
  let n := n + 1
  let n := f.caps.iter.toList.foldl (fun n cap => n + (2 + byteLen cap)) n
  n + 4 + 8 + 8

/-- The writes of the encoder, in order. -/
def write (f : AdoptionFields) (w : Writer) : Option Writer := do
  let w ← w.bytes ADOPTION_DOMAIN
  let w ← w.bytes [ADOPTION_VERSION]
  let w ← w.str16 f.deviceDid
  let w ← w.str16 f.ownerDid
  let w ← w.bytes f.ownerGenesisPubkey.toList
  let w ← w.bytes f.hubEndpointId.toList
  let w ← w.str16 f.hubRelay
  let w ← w.str16 f.hubHost
  let w ← w.bytes [UInt8.ofNat f.caps.len]
  let w ← f.caps.iter.toList.foldlM Writer.str16 w
  let w ← w.bytes (be32 f.rosterVersion)
  let w ← w.bytes (be64 f.issuedAt)
  w.bytes (be64 f.expiresAt)

/-- Write the canonical bytes into `out`: the length or the error, and the buffer left. -/
def encode (f : AdoptionFields) (out : Bytes) : Option (Result ℕ × Bytes) :=
  match f.validate with
  | .error e => some (.error e, out)
  | .ok () =>
    let needed := f.canonicalLen
    if out.length < needed then some (.error (.bufferTooSmall needed), out)
    else do
      let w ← f.write { out, pos := 0 }
      -- the debug assertion on the write position
      if w.pos = needed then some (.ok w.pos, w.out) else none

/-- Encode and sign into `out`: the total length or the error, and the buffer left. -/
def signInto (X : Crates) (f : AdoptionFields) (sign : Array8 32 → Array8 64) (out : Bytes) :
    Option (Result ℕ × Bytes) := do
  match ← f.encode out with
  | (.error e, out) => some (.error e, out)
  | (.ok n, out) =>
    let total := n + SIG_LEN
    if out.length < total then some (.error (.bufferTooSmall total), out)
    else
      let prehash := X.sha256 (out.take n)
      some (.ok total, out.take n ++ (sign prehash).toList ++ out.drop total)

end AdoptionFields

/-! ### The decoder -/

/-- A decoded adoption with its signature and the bytes that were signed. -/
structure Adoption where
  fields : AdoptionFields
  signature : Array8 64
  canonical : Bytes
  deriving DecidableEq

namespace Adoption

/-- Decode a signed adoption, without verifying it. -/
def decode (bytes : Bytes) : Result Adoption := do
  if bytes.length < ADOPTION_DOMAIN.length + 1 + SIG_LEN then .error .invalidFormat
  else
    let canonical := bytes.take (bytes.length - SIG_LEN)
    let signature ← tryInto 64 (bytes.drop (bytes.length - SIG_LEN))
    let r ← expect canonical ADOPTION_DOMAIN
    let (version, r) ← readU8 r
    if version ≠ ADOPTION_VERSION then .error .unsupported
    else
      let (deviceDid, r) ← readStr r
      let (ownerDid, r) ← readStr r
      let (ownerGenesisPubkey, r) ← readArray 33 r
      let (hubEndpointId, r) ← readArray 32 r
      let (hubRelay, r) ← readStr r
      let (hubHost, r) ← readStr r
      let (count, capsStart) ← readU8 r
      let (_, r) ← readMany readStr count.toNat capsStart
      let capsBytes := capsStart.take (capsStart.length - r.length)
      let (rv, r) ← readArray 4 r
      let (ia, r) ← readArray 8 r
      let (ea, r) ← readArray 8 r
      if ¬ r.isEmpty then .error .invalidFormat
      else
        let fields : AdoptionFields :=
          { deviceDid, ownerDid, ownerGenesisPubkey, hubEndpointId, hubRelay, hubHost,
            caps := .wire count capsBytes
            rosterVersion := ofBe32 rv.toList
            issuedAt := ofBe64 ia.toList
            expiresAt := ofBe64 ea.toList }
        fields.validate
        return { fields, signature, canonical }

end Adoption

/-! ### The owner pin and the acceptance check -/

/-- What a device stores of its owner. -/
structure OwnerPin where
  genesisPubkey : Array8 33
  rosterVersion : UInt32
  deriving DecidableEq

namespace OwnerPin

def LEN : ℕ := 33 + 4

/-- Write the pin into `out`: the length or the error, and the buffer left. -/
def encode (pin : OwnerPin) (out : Bytes) : Result ℕ × Bytes :=
  if out.length < LEN then (.error (.bufferTooSmall LEN), out)
  else (.ok LEN, pin.genesisPubkey.toList ++ be32 pin.rosterVersion ++ out.drop LEN)

/-- The pin of stored bytes. -/
def decode (bytes : Bytes) : Result OwnerPin :=
  if bytes.length ≠ LEN then .error .corrupt
  else
    match toArray8 33 (bytes.take 33) with
    | none => .error .corrupt
    | some genesisPubkey => .ok { genesisPubkey, rosterVersion := ofBe32 (bytes.drop 33) }

end OwnerPin

namespace Adoption

/-- Verify the signature under the embedded owner key. -/
def verifySignature (X : Crates) (a : Adoption) : Result Unit :=
  verifyPrehash X a.fields.ownerGenesisPubkey.toList (X.sha256 a.canonical) a.signature

/-- The full check a device runs; the pin to store. -/
def accept (X : Crates) (a : Adoption) (myDid : String) (pin : Option OwnerPin)
    (now : Option UInt64) : Result OwnerPin :=
  if a.fields.deviceDid ≠ myDid then .error .denied
  else do
    a.verifySignature X
    let refusedByPin := match pin with
      | none => false
      | some pin => pin.genesisPubkey ≠ a.fields.ownerGenesisPubkey ||
          a.fields.rosterVersion < pin.rosterVersion
    let expired := match now with
      | none => false
      | some now => a.fields.expiresAt ≠ 0 && now ≥ a.fields.expiresAt
    if refusedByPin then .error .denied
    else if expired then .error .denied
    else .ok { genesisPubkey := a.fields.ownerGenesisPubkey, rosterVersion := a.fields.rosterVersion }

/-- The adoption grants `needed` to the hub. -/
def grants (a : Adoption) (needed : String) : Bool :=
  anySatisfies a.fields.caps.iter.toList needed

end Adoption

end EspMid.Model.Envelope
