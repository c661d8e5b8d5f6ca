import EspMid.Lib.Base64Url
import EspMid.Model.Envelope
import EspMid.Model.Key

/-! # What else is signed

Beside the adoption: the status, the gateway's nonce envelope, the setup session's reply, the
capability manifest and the compact JWS. Each is laid out by hand and hashed; what the code hashes
piece by piece is here the list of the pieces. -/

namespace EspMid.Model.Messages

open EspMid.Lib EspMid.Lib.StoreProg
open EspMid.Model.Core EspMid.Model.Identity EspMid.Model.Envelope EspMid.Model.Key

variable {X : Crates} {S : Type}

/-- `u16::try_from(len)` in big-endian bytes, if the length fits. -/
def len16 (n : ℕ) : Result Bytes := if n < 2 ^ 16 then .ok (be16 n) else .error .invalidFormat

/-! ### The status -/

def STATUS_DOMAIN : Bytes := asBytes "janus-status-v1\n"

def STATUS_VERSION : UInt8 := 1

/-- The adoption hash of a device that holds none. -/
def NO_ADOPTION : Array8 32 := List.Vector.replicate 32 0

/-- The claims a device signs in answer to a nonce. -/
@[ext] structure StatusProof where
  nonce : Array8 32
  deviceDid : String
  ownerDid : String
  adoptionKind : String
  adoptionHash : Array8 32
  deriving DecidableEq

namespace StatusProof

/-- A device that holds no adoption. -/
def unadopted (nonce : Array8 32) (deviceDid : String) : StatusProof :=
  { nonce, deviceDid, ownerDid := "", adoptionKind := "", adoptionHash := NO_ADOPTION }

/-- A device adopted by `ownerDid` through the bytes `adoption`. -/
def adopted (X : Crates) (nonce : Array8 32) (deviceDid ownerDid adoptionKind : String)
    (adoption : Bytes) : StatusProof :=
  { nonce, deviceDid, ownerDid, adoptionKind, adoptionHash := X.sha256 adoption }

/-- The message's length. -/
def len (p : StatusProof) : ℕ :=
  STATUS_DOMAIN.length + 1 + 32 + 2 + byteLen p.deviceDid + 2 + byteLen p.ownerDid + 2 +
    byteLen p.adoptionKind + 32

/-- The message field by field, in order. -/
def fields (p : StatusProof) : Result (List Bytes) := do
  let dev ← len16 (byteLen p.deviceDid)
  let own ← len16 (byteLen p.ownerDid)
  let kind ← len16 (byteLen p.adoptionKind)
  return [STATUS_DOMAIN, [STATUS_VERSION], p.nonce.toList, dev, asBytes p.deviceDid, own,
    asBytes p.ownerDid, kind, asBytes p.adoptionKind, p.adoptionHash.toList]

/-- Write the message into `out`: the length or the error, and the buffer left. -/
def write (p : StatusProof) (out : Bytes) : Option (Result ℕ × Bytes) :=
  let needed := p.len
  if out.length < needed then some (.error (.bufferTooSmall needed), out)
  else
    match p.fields with
    | .error e => some (.error e, out)
    | .ok pieces => do
      let w ← pieces.foldlM Writer.bytes { out, pos := 0 }
      some (.ok w.pos, w.out)

/-- The prehash the device signs. -/
def prehash (X : Crates) (p : StatusProof) : Result (Array8 32) := do
  let pieces ← p.fields
  return X.sha256 pieces.flatten

/-- Verify a signature under the key the device's identity names. -/
def verify (X : Crates) (p : StatusProof) (signature : Array8 64) : Result Unit := do
  let did : Did X ← Did.parse p.deviceDid
  verifyPrehash X did.pubkey.toList (← p.prehash X) signature

end StatusProof

/-! ### The nonce envelope -/

def NONCE_DOMAIN : Bytes := asBytes "kms-nonce-v1\n"

def ENVELOPE_VERSION : UInt8 := 1

/-- Upper bound on the time to live, in seconds. -/
def MAX_TTL_SECS : ℕ := 300

/-- A server's nonce envelope. -/
@[ext] structure NonceEnvelopeRef where
  envelopeVersion : UInt8
  nonce : Bytes
  did : String
  audience : String
  purpose : String
  issuedAt : UInt64
  expiresAt : UInt64
  issuer : String
  deriving DecidableEq

/-- A piece behind its 16-bit length, saturated. -/
def lp (b : Bytes) : Bytes := (if b.length < 2 ^ 16 then be16 b.length else be16 (2 ^ 16 - 1)) ++ b

namespace NonceEnvelopeRef

/-- What an envelope must be to be signed. -/
def validate (X : Crates) (e : NonceEnvelopeRef) : Result Unit :=
  if e.envelopeVersion ≠ ENVELOPE_VERSION then .error .unsupported
  else if e.nonce.length ≠ 32 then .error .invalidFormat
  else
    match (Did.parse e.did : Result (Did X)) with
    | .error err => .error err
    | .ok _ =>
      if e.expiresAt ≤ e.issuedAt ∨ (e.expiresAt - e.issuedAt).toNat > MAX_TTL_SECS then
        .error .invalidFormat
      else if [e.did, e.audience, e.purpose, e.issuer].any (byteLen · > 2 ^ 16 - 1) then
        .error .invalidFormat
      else .ok ()

/-- The pieces that are hashed. -/
def pieces (e : NonceEnvelopeRef) : List Bytes :=
  [NONCE_DOMAIN, [e.envelopeVersion], lp e.nonce, lp (asBytes e.did), lp (asBytes e.audience),
    lp (asBytes e.purpose), be64 e.issuedAt, be64 e.expiresAt, lp (asBytes e.issuer)]

/-- The prehash the signature covers. -/
def canonicalBytes (X : Crates) (e : NonceEnvelopeRef) : Array8 32 := X.sha256 e.pieces.flatten

end NonceEnvelopeRef

/-! ### The setup reply -/

def REPLY_DOMAIN : Bytes := asBytes "janus-setup-v1/reply\n"

/-- What the device signs of a setup session. -/
@[ext] structure Reply where
  context : Bytes
  shareP : Array8 65
  shareV : Array8 65
  confirmV : Array8 32
  deriving DecidableEq

namespace Reply

/-- The pieces that are hashed, if the context is short enough. -/
def pieces (m : Reply) : Result (List Bytes) := do
  let len ← len16 m.context.length
  return [REPLY_DOMAIN, len, m.context, m.shareP.toList, m.shareV.toList, m.confirmV.toList]

/-- `reply_prehash`. -/
def prehash (X : Crates) (m : Reply) : Result (Array8 32) := do
  let pieces ← m.pieces
  return X.sha256 pieces.flatten

end Reply

/-- The browser's check of a reply against the device's compressed key. -/
def verifyReply (X : Crates) (devicePubkey : Array8 33) (prehash : Array8 32)
    (signature : Array8 64) : Result Unit :=
  verifyPrehash X devicePubkey.toList prehash signature

/-! ### The capability manifest -/

def MANIFEST_DOMAIN : Bytes := asBytes "janus-manifest-v1\n"

/-- The prehash of some bytes under a domain. -/
def prehash (X : Crates) (domain bytes : Bytes) : Array8 32 := X.sha256 (domain ++ bytes)

/-- Sign encoded manifest bytes. -/
def signManifestBytes (X : Crates) (manifestBytes : Bytes) (sign : Array8 32 → Array8 64) :
    Array8 64 :=
  sign (prehash X MANIFEST_DOMAIN manifestBytes)

/-- Encode a manifest into `out` and sign it: its length and signature or the error, and the buffer
left. -/
def signManifest (manifest : X.Manifest) (sign : Array8 32 → Array8 64) (out : Bytes) :
    Result (ℕ × Array8 64) × Bytes :=
  match X.manifestEncode manifest out with
  | (.error e, out) => (.error e, out)
  | (.ok n, out) => (.ok (n, signManifestBytes X (out.take n) sign), out)

/-- The same, the signature remembered under `name`. -/
def signManifestCached (manifest : X.Manifest) (key : DeviceKey X) (kv : S) (name : String)
    (out : Bytes) : KvTotal S (Result (ℕ × Array8 64) × Bytes) :=
  match X.manifestEncode manifest out with
  | (.error e, out) => return (.error e, out)
  | (.ok n, out) => do
    let sig ← key.signPrehashCached kv name (prehash X MANIFEST_DOMAIN (out.take n))
    return (.ok (n, sig), out)

/-- Verify a manifest signature under the device's key. -/
def verifyManifest (X : Crates) (manifestBytes : Bytes) (signature : Array8 64)
    (devicePubkey : Bytes) : Result Unit :=
  verifyPrehash X devicePubkey (prehash X MANIFEST_DOMAIN manifestBytes) signature

def MAKER_DOMAIN : Bytes := asBytes "janus-maker-v1\n"

/-- What a maker attests of a model and a firmware; each behind its length, cut to 16 bits. -/
def makerPrehash (X : Crates) (model firmware : String) : Array8 32 :=
  X.sha256 (MAKER_DOMAIN ++ be16 (byteLen model) ++ asBytes model ++ be16 (byteLen firmware) ++
    asBytes firmware)

/-- Verify a maker's attestation. -/
def verifyMaker (X : Crates) (model firmware : String) (signature : Array8 64)
    (makerPubkey : Bytes) : Result Unit :=
  verifyPrehash X makerPubkey (makerPrehash X model firmware) signature

/-! ### The compact JWS -/

/-- The header of every JWS the device builds. -/
def JWS_HEADER_JSON : String := "\x7b\"alg\":\"ES256\",\"typ\":\"JWT\"\x7d"

/-- The signing input: header and payload in base64url, around a dot. -/
def signingInput (payloadJson : Bytes) : String :=
  String.ofList (Base64Url.encode (asBytes JWS_HEADER_JSON)) ++ "." ++
    String.ofList (Base64Url.encode payloadJson)

end EspMid.Model.Messages
