import EspMid.Model.Identity

/-! # The device key

The secret scalar is generated once and kept under one key of the identity store. Two caches lie
beside it, each entry closed by a MAC under the secret: the public key, so that a boot need not
derive it, and remembered signatures. Neither cache may change what the caller sees. -/

namespace EspMid.Model.Key

open EspMid.Lib EspMid.Lib.StoreProg EspMid.Model.Core EspMid.Model.Identity

variable {X : Crates} {S : Type}

/-! ### Device ids -/

/-- Longest device id, in bytes. -/
def MAX_DEVICE_ID_LEN : ℕ := 32

/-- `u8::is_ascii_alphanumeric`, or one of `_`, `.` and `-`. -/
def idByte (b : UInt8) : Bool :=
  (48 ≤ b.toNat && b.toNat ≤ 57) || (65 ≤ b.toNat && b.toNat ≤ 90) ||
    (97 ≤ b.toNat && b.toNat ≤ 122) || b == 95 || b == 46 || b == 45

/-- What a device id must be. -/
def idOk (id : String) : Bool :=
  byteLen id ≠ 0 && byteLen id ≤ MAX_DEVICE_ID_LEN && (asBytes id).all idByte

/-- A validated device id. -/
structure DeviceId where
  asStr : String
  ok : idOk asStr
  deriving DecidableEq

def DeviceId.new (id : String) : Result DeviceId :=
  if h : idOk id then .ok ⟨id, h⟩ else .error .invalidFormat

/-! ### Keys -/

/-- The secret scalar, its public key and the device's id. -/
@[ext] structure DeviceKey (X : Crates) where
  secret : Scalar
  publicKey : X.VerifyingKey
  deviceId : DeviceId

/-- The scalar and its public key, if `secret` is a valid scalar. -/
def derive (X : Crates) (secret : Array8 32) : Option (Scalar × X.VerifyingKey) :=
  (scalarFromRepr secret).map fun nz => (nz, X.fromSecretScalar nz)

/-- A MAC pad: the key, on 64 bytes, added to a constant. -/
def pad (c : UInt8) (key : Array8 32) : Bytes :=
  key.toList.map (c ^^^ ·) ++ List.replicate 32 c

/-- HMAC-SHA256 under a 32-byte key, over the parts in order. -/
def hmacSha256 (X : Crates) (key : Array8 32) (parts : List Bytes) : Array8 32 :=
  let inner := X.sha256 (pad 0x36 key ++ parts.flatten)
  X.sha256 (pad 0x5c key ++ inner.toList)

/-- The domain of the public-key cache's MAC. -/
def PUB_DOMAIN : Bytes := asBytes "rusty_esp_mid devpub v1"

/-- The domain of a remembered signature's MAC. -/
def SIG_DOMAIN : Bytes := asBytes "rusty_esp_mid sigcache v1"

/-- The bits in which two strings differ, over their common length. -/
def diffBits (d : UInt8) (a b : Bytes) : UInt8 :=
  (a.zip b).foldl (fun diff p => diff ||| (p.1 ^^^ p.2)) d

/-- Equality without an early exit. -/
def ctEq32 (a : Array8 32) (b : Bytes) : Bool :=
  diffBits (if b.length ≠ 32 then 1 else 0) a.toList b == 0

namespace DeviceKey

/-- The key of the secret. -/
def KV_KEY : String := "mid.devkey"

/-- The key of the public-key cache. -/
def KV_PUB : String := "mid.devpub"

/-- How often a scalar is drawn. -/
def GENERATE_ATTEMPTS : ℕ := 8

/-- The draws of `generate`, `n` of them left. -/
def generateLoop (deviceId : DeviceId) : ℕ → Kv S (DeviceKey X)
  | 0 => Proc.fail .crypto
  | n + 1 => do
    let secret ← Proc.draw 32
    match derive X secret with
    | some (secret, publicKey) => return { secret, publicKey, deviceId }
    | none => generateLoop deviceId n

/-- Generate a fresh key from the entropy source. -/
def generate (deviceId : String) : Kv S (DeviceKey X) := do
  let deviceId ← Proc.ofExcept (DeviceId.new deviceId)
  generateLoop deviceId GENERATE_ATTEMPTS

/-- Rebuild from a stored secret. -/
def fromSecret (secret : Array8 32) (deviceId : String) : Result (DeviceKey X) := do
  let deviceId ← DeviceId.new deviceId
  match derive X secret with
  | none => .error .crypto
  | some (secret, publicKey) => .ok { secret, publicKey, deviceId }

/-- The secret, as stored. -/
def secretBytes (k : DeviceKey X) : Array8 32 := scalarToRepr k.secret

/-- The identity this key certifies. -/
def did (k : DeviceKey X) : Did X := Did.fromVerifyingKey k.publicKey

/-- The public key in 65 bytes. -/
def pubkeySec1Uncompressed (k : DeviceKey X) : Array8 65 := X.uncompressed k.publicKey

/-- Sign a prehash: the RFC 6979 signature, with its low `s`. -/
def signPrehash (k : DeviceKey X) (prehash : Array8 32) : Array8 64 :=
  let raw := X.signRfc6979 k.secret prehash
  (raw.normalizeS.getD raw).toBytes

/-- The raw shared secret with another identity, by the curve crate's `diffie_hellman`. -/
def sharedSecret (diffieHellman : Scalar → X.VerifyingKey → Array8 32) (k : DeviceKey X)
    (their : Did X) : Result (Array8 32) :=
  match X.fromSec1Bytes their.pubkey.toList with
  | some theirPk => .ok (diffieHellman k.secret theirPk)
  | none => .error .crypto

/-! ### Loading and storing -/

/-- Load the key from `kv`, if one is stored. -/
def load (kv : S) (deviceId : String) : Kv S (Option (DeviceKey X)) := do
  match ← Proc.get kv KV_KEY 32 with
  | none => return none
  | some v =>
    match toArray8 32 v with
    | some secret => return some (← Proc.ofExcept (fromSecret secret deviceId))
    | none => Proc.fail .corrupt

/-- Store the secret. -/
def store (k : DeviceKey X) (kv : S) : Kv S Unit := Proc.put kv KV_KEY k.secretBytes.toList

/-- A public-key cache entry: the key, then the MAC of it under `secret`. -/
def pubEntry (X : Crates) (secret : Array8 32) (point : Array8 65) : Bytes :=
  point.toList ++ (hmacSha256 X secret [PUB_DOMAIN, point.toList]).toList

/-- Write the public-key cache entry; a failed write is not an error. -/
def storePub (k : DeviceKey X) (kv : S) (secret : Array8 32) : KvTotal S Unit := do
  let _ ← Proc.put kv KV_PUB (pubEntry X secret k.pubkeySec1Uncompressed)
  return ()

/-- The public key a cache entry holds, if its MAC is right and the key is a point. -/
def cachedPub (X : Crates) (secret : Array8 32) (entry : Bytes) : Option X.VerifyingKey :=
  let point := entry.take 65
  let tag := entry.drop 65
  if diffBits 0 (hmacSha256 X secret [PUB_DOMAIN, point]).toList tag = 0 then X.fromSec1Bytes point
  else none

/-- A key from its secret, its public key remembered. -/
def fromSecretCached (kv : S) (secret : Array8 32) (deviceId : String) : Kv S (DeviceKey X) := do
  let id ← Proc.ofExcept (DeviceId.new deviceId)
  match scalarFromRepr secret with
  | none => Proc.fail .crypto
  | some scalar =>
    let derived : Kv S (DeviceKey X) := do
      let key : DeviceKey X :=
        { secret := scalar, publicKey := X.fromSecretScalar scalar, deviceId := id }
      Proc.lift (key.storePub kv secret)
      return key
    match ← Proc.attempt (Proc.get kv KV_PUB 97) with
    | .ok (some entry) =>
      if entry.length = 97 then
        match cachedPub X secret entry with
        | some p => return { secret := scalar, publicKey := p, deviceId := id }
        | none => derived
      else derived
    | _ => derived

/-- Load the key, its public key from the cache if the entry's MAC is right. -/
def loadCached (kv : S) (deviceId : String) : Kv S (Option (DeviceKey X)) := do
  match ← Proc.get kv KV_KEY 32 with
  | none => return none
  | some v =>
    match toArray8 32 v with
    | some secret => return some (← fromSecretCached kv secret deviceId)
    | none => Proc.fail .corrupt

/-- Load the key, or generate and store one. -/
def loadOrGenerate (kv : S) (deviceId : String) : Kv S (DeviceKey X) := do
  match ← load kv deviceId with
  | some key => return key
  | none =>
    let key ← generate deviceId
    key.store kv
    return key

/-- Load the key through the cache, or generate and store one. -/
def loadOrGenerateCached (kv : S) (deviceId : String) : Kv S (DeviceKey X) := do
  match ← loadCached kv deviceId with
  | some key => return key
  | none =>
    let key ← generate deviceId
    key.store kv
    Proc.lift (key.storePub kv key.secretBytes)
    return key

/-! ### Remembered signatures -/

/-- A remembered signature: prehash and signature, then the MAC of both under `secret`. -/
def sigEntry (X : Crates) (secret : Array8 32) (prehash : Array8 32) (sig : Array8 64) : Bytes :=
  let head := prehash.toList ++ sig.toList
  head ++ (hmacSha256 X secret [SIG_DOMAIN, head]).toList

/-- The signature of `prehash` that an entry holds, if its MAC is right. -/
def rememberedSig (X : Crates) (secret prehash : Array8 32) (entry : Bytes) : Option (Array8 64) :=
  let head := entry.take 96
  let tag := entry.drop 96
  if ctEq32 prehash (head.take 32) && ctEq32 (hmacSha256 X secret [SIG_DOMAIN, head]) tag then
    toArray8 64 (head.drop 32)
  else none

/-- Sign a prehash, the signature remembered under `name`. -/
def signPrehashCached (k : DeviceKey X) (kv : S) (name : String) (prehash : Array8 32) :
    KvTotal S (Array8 64) := do
  let secret := k.secretBytes
  let signed : KvTotal S (Array8 64) := do
    let sig := k.signPrehash prehash
    let _ ← Proc.put kv name (sigEntry X secret prehash sig)
    return sig
  match ← Proc.get kv name 128 with
  | .ok (some entry) =>
    if entry.length = 128 then
      match rememberedSig X secret prehash entry with
      | some sig => return sig
      | none => signed
    else signed
  | _ => signed

end DeviceKey

end EspMid.Model.Key
