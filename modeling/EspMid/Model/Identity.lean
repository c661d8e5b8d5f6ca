import EspMid.Lib.Base58
import EspMid.Model.Core

/-! # Identities and the verifier

A `did:mata` is the prefix followed by the base58 form of a compressed P-256 key. A `Did` carries
the key with the proof that it is tagged as compressed and is a point. `verifyPrehash` is the check
behind every signature: of the two signatures that differ in the sign of `s` it takes only the one
with the lower `s`. -/

namespace EspMid.Model.Identity

open EspMid.Lib EspMid.Model.Core

variable {X : Crates}

/-! ### Identifiers -/

def DID_PREFIX : String := "did:mata:"

def PUBKEY_LEN : ℕ := 33

/-- The most characters of the base58 form of 33 bytes. -/
def MAX_BASE58_LEN : ℕ := 46

/-- The longest `did:mata` string. -/
def MAX_DID_LEN : ℕ := byteLen DID_PREFIX + MAX_BASE58_LEN

/-- The longest multibase string. -/
def MAX_MULTIBASE_LEN : ℕ := 1 + MAX_BASE58_LEN

/-- The prefix, then the base58 form of the bytes, in a buffer of `outLen` bytes. -/
def writeWithPrefix (pfx bytes : Bytes) (outLen : ℕ) : Result String :=
  let neededMin := pfx.length + 1
  if outLen < neededMin then .error (.bufferTooSmall neededMin)
  else
    let encoded := asBytes (String.ofList (Base58.encode bytes))
    if encoded.length > outLen - pfx.length then
      .error (.bufferTooSmall (pfx.length + MAX_BASE58_LEN))
    else
      match fromUtf8 (pfx ++ encoded) with
      | some s => .ok s
      | none => .error .corrupt

/-- An identity: a compressed key, on the curve. -/
@[ext] structure Did (X : Crates) where
  pubkey : Array8 33
  tagged : pubkey.head = 2 ∨ pubkey.head = 3
  onCurve : (X.fromSec1Bytes pubkey.toList).isSome

instance : DecidableEq (Did X) := fun d d' => decidable_of_iff (d.pubkey = d'.pubkey) Did.ext_iff.symm

namespace Did

/-- From a compressed public key. -/
def fromPubkey (sec1Compressed : Bytes) : Result (Did X) :=
  match toArray8 33 sec1Compressed with
  | none => .error .invalidFormat
  | some pubkey =>
    if htag : pubkey.head = 2 ∨ pubkey.head = 3 then
      if hcurve : (X.fromSec1Bytes pubkey.toList).isSome then .ok ⟨pubkey, htag, hcurve⟩
      else .error .crypto
    else .error .invalidFormat

/-- From a verifying key. -/
def fromVerifyingKey (key : X.VerifyingKey) : Did X where
  pubkey := X.compressed key
  tagged := X.compressed_tag key
  onCurve := by simp [X.fromSec1Bytes_compressed]

/-- The identity of a base58 form. -/
def fromBase58 (suffix : String) : Result (Did X) :=
  if byteLen suffix = 0 ∨ byteLen suffix > MAX_BASE58_LEN then .error .invalidFormat
  else
    match Base58.decode suffix.toList with
    | none => .error .invalidFormat
    | some b =>
      -- the buffer has one byte more than a key
      if b.length > PUBKEY_LEN + 1 then .error .invalidFormat
      else if b.length ≠ PUBKEY_LEN then .error .invalidFormat
      else fromPubkey b

/-- Parse `did:mata:<base58>`. -/
def parse (did : String) : Result (Did X) :=
  match stripPrefix DID_PREFIX did with
  | none => .error .invalidFormat
  | some suffix => fromBase58 suffix

/-- Parse the multibase form `z<base58>`. -/
def parseMultibase (mb : String) : Result (Did X) :=
  match stripPrefix "z" mb with
  | none => .error .invalidFormat
  | some suffix => fromBase58 suffix

/-- Write `did:mata:<base58>` into a buffer of `outLen` bytes. -/
def write (d : Did X) (outLen : ℕ) : Result String :=
  writeWithPrefix (asBytes DID_PREFIX) d.pubkey.toList outLen

/-- Write the multibase form into a buffer of `outLen` bytes. -/
def writeMultibase (d : Did X) (outLen : ℕ) : Result String :=
  writeWithPrefix (asBytes "z") d.pubkey.toList outLen

/-- `to_did_string`; `none` is the panic of its `expect`. -/
def toDidString (d : Did X) : Option String := (d.write MAX_DID_LEN).toOption

/-- `to_multibase_string`; `none` is the panic of its `expect`. -/
def toMultibaseString (d : Did X) : Option String := (d.writeMultibase MAX_MULTIBASE_LEN).toOption

end Did

/-! ### The verifier -/

/-- Verify a signature over a prehash, rejecting a high `s`. -/
def verifyPrehash (X : Crates) (pubkeySec1 : Bytes) (prehash : Array8 32) (signature : Array8 64) :
    Result Unit :=
  match X.fromSec1Bytes pubkeySec1 with
  | none => .error .crypto
  | some key =>
    match Signature.fromSlice signature.toList with
    | none => .error .crypto
    | some sig =>
      if sig.normalizeS.isSome then .error .crypto
      else if X.verifyEcdsa key prehash sig then .ok ()
      else .error .crypto

/-! ### Three keys

The other crates on the keys of the secrets 1, 2 and 3, with tables for the hashes, the signatures
and the JSON texts that occur. -/

/-- The secrets 1 and 2. -/
def secretOne : Scalar := ⟨1, by decide⟩

def secretTwo : Scalar := ⟨2, by decide⟩

/-- The keys. -/
def firstKey : Fin 3 := ⟨0, by decide⟩

def secondKey : Fin 3 := ⟨1, by decide⟩

def thirdKey : Fin 3 := ⟨2, by decide⟩

/-- The coordinates of the three keys. -/
def point (k : Fin 3) : ℕ × ℕ :=
  [(0x6b17d1f2e12c4247f8bce6e563a440f277037d812deb33a0f4a13945d898c296,
      0x4fe342e2fe1a7f9b8ee7eb4a7c0f9e162bce33576b315ececbb6406837bf51f5),
    (0x7cf27b188d034f7e8a52380304b51ac3c08969e277f21b35a60b48fc47669978,
      0x07775510db8ed040293d9ac69f7430dbba7dade63ce982299e04b79d227873d1),
    (0x5ecbe4d1a6330a44c8f7ef951d4bf165e6c6b721efada985fb41661bc6e7fd6c,
      0x8734640c4998ff7e374b06ce1a64a2ecd82ab036384fb83d9a79b127a27d5032)].getD k.val (0, 0)

/-- The compressed forms of three keys. -/
def compressedPoint (k : Fin 3) : Array8 33 :=
  ⟨UInt8.ofNat (2 + (point k).2 % 2) :: BigEndian.ofNat 32 (point k).1, by simp⟩

/-- Their uncompressed forms. -/
def uncompressedPoint (k : Fin 3) : Array8 65 :=
  ⟨4 :: (BigEndian.ofNat 32 (point k).1 ++ BigEndian.ofNat 32 (point k).2), by simp⟩

/-- The key of SEC1 bytes, among three. -/
def pointOfBytes (b : Bytes) : Option (Fin 3) :=
  [0, 1, 2].find? fun k => b == (compressedPoint k).toList || b == (uncompressedPoint k).toList

/-- Crates that know three keys, and of hashes, signatures and JSON what they are given. -/
def threeKeys (hashes : List (Bytes × Array8 32))
    (signatures : List ((Fin 3 × Array8 32) × Signature)) (json : List (Bytes × Value)) : Crates where
  sha256 b := (hashes.lookup b).getD (List.Vector.replicate 32 0)
  VerifyingKey := Fin 3
  fromSec1Bytes := pointOfBytes
  compressed := compressedPoint
  uncompressed := uncompressedPoint
  compressed_tag := by decide +kernel
  fromSec1Bytes_compressed := by decide +kernel
  fromSec1Bytes_uncompressed := by decide +kernel
  fromSecretScalar n := if n.1 = 1 then 0 else if n.1 = 2 then 1 else 2
  signRfc6979 n h := (signatures.lookup (if n.1 = 1 then 0 else if n.1 = 2 then 1 else 2, h)).getD
    { r := ⟨1, by decide⟩, s := ⟨1, by decide⟩ }
  verifyEcdsa k h sig := signatures.lookup (k, h) == some sig
  jsonFromSlice b := json.lookup b
  jsonFromStr s := json.lookup (asBytes s)
  Manifest := Bytes
  manifestEncode m out :=
    if out.length < m.length then (.error (.bufferTooSmall m.length), out)
    else (.ok m.length, m ++ out.drop m.length)

end EspMid.Model.Identity
