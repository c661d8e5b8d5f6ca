import EspMid.Lib.StoreLayer
import EspMid.Model.Core

/-! # Secrets at rest

A store whose values are sealed with AES-256-GCM under a device key: `MAGIC`, a fresh nonce, the
ciphertext and its tag, with the value's key name as the additional data. What does not begin with
`MAGIC` was stored in the clear, and still reads. Without a key every value passes through. -/

namespace EspMid.Model.Seal

open EspMid.Lib.StoreProg EspMid.Model.Core

/-- What marks a sealed value. -/
def MAGIC : Bytes := [0, 74, 83, 1]

def NONCE_LEN : ℕ := 12

def TAG_LEN : ℕ := 16

/-- Bytes a sealed value takes beyond its plaintext. -/
def OVERHEAD : ℕ := MAGIC.length + NONCE_LEN + TAG_LEN

/-- The longest value sealed. -/
def MAX_VALUE : ℕ := 256

/-- `raw.starts_with(&MAGIC)`. -/
def startsWithMagic (raw : Bytes) : Bool := MAGIC.isPrefixOf raw

/-- `aes_gcm::Aes256Gcm`. Both operations are in place, so neither changes the length. -/
structure Aes256Gcm where
  /-- `encrypt_in_place_detached`: key, nonce, additional data, plaintext. -/
  encrypt : Array8 32 → Array8 NONCE_LEN → Bytes → Bytes → Option (Bytes × Array8 TAG_LEN)
  /-- `decrypt_in_place_detached`: key, nonce, additional data, ciphertext, tag. -/
  decrypt : Array8 32 → Array8 NONCE_LEN → Bytes → Bytes → Array8 TAG_LEN → Option Bytes
  length_encrypt : ∀ {k nonce aad plain body tag},
    encrypt k nonce aad plain = some (body, tag) → body.length = plain.length
  length_decrypt : ∀ {k nonce aad body tag plain},
    decrypt k nonce aad body tag = some plain → plain.length = body.length

/-- What is encrypted decrypts under the same nonce and additional data. -/
def Aes256Gcm.Opens (A : Aes256Gcm) : Prop :=
  ∀ k nonce aad plain body tag, A.encrypt k nonce aad plain = some (body, tag) →
    A.decrypt k nonce aad body tag = some plain

/-- **Ideal.** What decrypts is what was encrypted under the same key, nonce and additional data. -/
def Aes256Gcm.Ideal (A : Aes256Gcm) : Prop :=
  ∀ k nonce aad plain body tag,
    A.decrypt k nonce aad body tag = some plain ↔ A.encrypt k nonce aad plain = some (body, tag)

/-- The longest plaintext and the longest additional data that are encrypted, in bytes. -/
def Aes256Gcm.LIMIT : ℕ := 2 ^ 36

/-- What is no longer than that is encrypted. -/
def Aes256Gcm.Encrypts (A : Aes256Gcm) : Prop :=
  ∀ k nonce aad plain, aad.length ≤ LIMIT → plain.length ≤ LIMIT →
    (A.encrypt k nonce aad plain).isSome

/-- It encrypts what is no longer than that, and nothing else. -/
def Aes256Gcm.Limited (A : Aes256Gcm) : Prop :=
  ∀ k nonce aad plain,
    (A.encrypt k nonce aad plain).isSome ↔ aad.length ≤ LIMIT ∧ plain.length ≤ LIMIT

/-- A store that seals what it stores, over the store `inner`; without a key it seals nothing. -/
structure SealedKv (S : Type) where
  inner : S
  key : Option (Array8 32)

/-- A sealed value. -/
def sealedValue (nonce : Array8 NONCE_LEN) (body : Bytes) (tag : Array8 TAG_LEN) : Bytes :=
  MAGIC ++ nonce.toList ++ body ++ tag.toList

/-- A value copied to a buffer of `cap` bytes. -/
def copyOut (v : Bytes) (cap : ℕ) : Result (Option Bytes) :=
  if v.length ≤ cap then .ok (some v) else .error (.bufferTooSmall v.length)

/-- A value copied to the front of a buffer, if it fits: the length, and the buffer left. -/
def copyInto (v out : Bytes) : Result (Option ℕ) × Bytes :=
  if v.length ≤ out.length then (.ok (some v.length), v ++ out.drop v.length)
  else (.error (.bufferTooSmall v.length), out)

/-- A read's answer and the buffer it leaves, with the value at its front. -/
def fill (out : Bytes) : Result (Option Bytes) → Result (Option ℕ) × Bytes
  | .ok none => (.ok none, out)
  | .ok (some v) => (.ok (some v.length), v ++ out.drop v.length)
  | .error e => (.error e, out)

/-- The value read, of a read's answer and the buffer it leaves. -/
def taken : Result (Option ℕ) × Bytes → Result (Option Bytes)
  | (.ok none, _) => .ok none
  | (.ok (some n), out) => .ok (some (out.take n))
  | (.error e, _) => .error e

/-- `inner.get(key, out)`. -/
def readInto {S : Type} (s : S) (key : String) (out : Bytes) :
    KvTotal S (Result (Option ℕ) × Bytes) :=
  Prog.get s key out.length fun r => .ret (fill out r)

namespace SealedKv

variable {S : Type} (A : Aes256Gcm) (kv : SealedKv S)

/-- Whether the value stored under `key` is sealed. -/
def isSealed (key : String) : Kv S (Option Bool) := do
  match ← Proc.attempt (Proc.get kv.inner key (MAX_VALUE + OVERHEAD)) with
  | .ok (some raw) => return some (startsWithMagic raw)
  | .ok none => return none
  | .error (.bufferTooSmall _) => return some false
  | .error e => Proc.fail e

/-- The plaintext of a value that begins with `MAGIC`. -/
def plaintext (key : String) (raw : Bytes) : Result Bytes :=
  match kv.key with
  | none => .error .crypto
  | some k =>
    if raw.length < OVERHEAD then .error .corrupt
    else
      let head := raw.take (MAGIC.length + NONCE_LEN)
      let rest := raw.drop (MAGIC.length + NONCE_LEN)
      match toArray8 NONCE_LEN (head.drop MAGIC.length) with
      | none => .error .corrupt
      | some nonce =>
        let body := rest.take (rest.length - TAG_LEN)
        match toArray8 TAG_LEN (rest.drop (rest.length - TAG_LEN)) with
        | none => .error .corrupt
        | some tag =>
          match A.decrypt k nonce (asBytes key) body tag with
          | none => .error .crypto
          | some plain => .ok plain

/-- The value of `key`, into the buffer `out`: the answer, and the buffer left. -/
def getInto (key : String) (out : Bytes) : KvTotal S (Result (Option ℕ) × Bytes) :=
  Prog.get kv.inner key (MAX_VALUE + OVERHEAD) fun
    | .ok none => .ret (.ok none, out)
    | .error (.bufferTooSmall _) => readInto kv.inner key out
    | .error e => .ret (.error e, out)
    | .ok (some raw) =>
      if startsWithMagic raw then
        match plaintext A kv key raw with
        | .error e => .ret (.error e, out)
        | .ok plain => .ret (copyInto plain out)
      else .ret (copyInto raw out)

/-- `getInto` a buffer of `cap` bytes, as the value read. -/
def get (key : String) (cap : ℕ) : Kv S (Option Bytes) :=
  Prog.bind (getInto A kv key (List.replicate cap 0)) fun w => .ret (taken w)

/-- Seal a value and store it. -/
def put (key : String) (value : Bytes) : Kv S Unit := do
  match kv.key with
  | none => Proc.put kv.inner key value
  | some k =>
    if value.length > MAX_VALUE then Proc.fail .unsupported
    else
      let nonce ← Proc.draw NONCE_LEN
      match A.encrypt k nonce (asBytes key) value with
      | none => Proc.fail .crypto
      | some (body, tag) => Proc.put kv.inner key (sealedValue nonce body tag)

/-- Remove a value. -/
def remove (key : String) : Kv S Bool := Proc.remove kv.inner key

/-- Seal what is stored in the clear under `keys`, after `sealed` others. -/
def sealEach (sealed : ℕ) : List String → Kv S ℕ
  | [] => return sealed
  | key :: keys => do
    if (← isSealed kv key) = some false then
      match ← Proc.get kv.inner key MAX_VALUE with
      | none => sealEach sealed keys
      | some plain =>
        put A kv key plain
        sealEach (sealed + 1) keys
    else sealEach sealed keys

/-- Seal, where it lies, each of `keys` still stored in the clear; how many were. -/
def sealInPlace (keys : List String) : Kv S ℕ :=
  match kv.key with
  | none => return 0
  | some _ => sealEach A kv 0 keys

/-- The store `inner`, sealed, beside the others as they are. -/
def layer [DecidableEq S] : Layer S String UInt8 Error where
  get s key cap := if s = kv.inner then get A kv key cap else Proc.get s key cap
  put s key v := if s = kv.inner then put A kv key v else Proc.put s key v
  remove s key := if s = kv.inner then remove kv key else Proc.remove s key

end SealedKv

end EspMid.Model.Seal
