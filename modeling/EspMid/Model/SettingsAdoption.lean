import EspMid.Lib.Base64Url
import EspMid.Model.Envelope

/-! # An adoption delivered with the settings

A statement container lies in the settings under one key. `apply` takes it into the identity store
(the container, its kind, the owner pin, and the mark that the pin was taken on a structural check
only) and clears the settings; `forget` gives the device away; `stored` reads the adoption back.
The two stores are the two partitions. -/

namespace EspMid.Model.SettingsAdoption

open EspMid.Lib EspMid.Lib.StoreProg EspMid.Model.Core EspMid.Model.Identity EspMid.Model.Envelope

variable {X : Crates}

/-- The two stores of a device. -/
inductive Partition where
  | settings
  | identity
  deriving DecidableEq

/-- The settings key the adoption is delivered in. -/
def SETTINGS_ADOPT : String := "adopt"

/-- The largest adoption accepted from the settings, in bytes. -/
def ADOPT_MAX : ℕ := 8 * 1024

/-- The key of the stored adoption's kind. -/
def KV_ADOPTION_KIND : String := "mid.adopt.kind"

/-- The key of the mark that the owner pin is provisional. -/
def KV_PIN_PROVISIONAL : String := "mid.owner.prov"

/-- The statement context an adoption is signed under. -/
def STATEMENT_CONTEXT : String := "janus-adoption-v1"

/-- The kind of a raw v1 envelope. -/
def KIND_ADOPTION_V1 : String := "janus-adoption-v1"

/-- The kind of a signed statement container. -/
def KIND_MATA_STATEMENT : String := "mata-statement-v1"

/-- What a boot did with the settings' adoption. -/
inductive Outcome where
  | nothing
  | adopted (ownerDid : String) (rosterVersion : UInt32) (provisional : Bool)
  | rehomed (ownerDid : String) (rosterVersion : UInt32) (provisional : Bool)
  | refused (why : String)
  deriving DecidableEq

/-! ### The structural check -/

/-- A statement container that passed the structural check. -/
structure Checked where
  ownerDid : String
  pin : OwnerPin
  deriving DecidableEq

/-- A base64url part of a JWS. -/
def b64 (part : String) : Option Bytes := Base64Url.decode part.toList

/-- `URL_SAFE_NO_PAD.encode`. -/
def b64Encode (b : Bytes) : String := String.ofList (Base64Url.encode b)

/-- An option, or why it is missing. -/
def okOr {α : Type} (o : Option α) (why : String) : Except String α :=
  match o with
  | none => .error why
  | some a => .ok a

/-- Stop with `why` unless `c` holds. -/
def require (c : Bool) (why : String) : Except String Unit := if c then .ok () else .error why

/-- The structural check of a statement container for `myDid`. -/
def checkStatement (X : Crates) (container : Bytes) (myDid : String) : Except String Checked := do
  let outer ← okOr (X.jsonFromSlice container) "the container is not JSON"
  let content ← okOr (outer.text "content") "the container has no content text"
  let jws ← okOr (outer.text "jws") "the container has no jws text"
  match split jws '.' with
  | [h, p, s] =>
    let h ← okOr (b64 h) "the jws header is not base64url"
    let header ← okOr (X.jsonFromSlice h) "the jws header is not JSON"
    require (header.text "alg" == some "ES256" && header.text "typ" == some "JWT")
      "the jws header is not ES256/JWT"
    require ((b64 s).map List.length == some 64) "the jws signature is not 64 bytes"
    let p ← okOr (b64 p) "the jws payload is not base64url"
    let payload ← okOr (X.jsonFromSlice p) "the jws payload is not JSON"
    require (payload.text "context" == some STATEMENT_CONTEXT)
      "the statement's context is not janus-adoption-v1"
    let iss ← okOr (payload.text "iss") "the statement has no iss"
    let declared ← okOr (payload.text "content_hash") "the statement has no content_hash"
    require (declared == b64Encode (X.sha256 (asBytes content)).toList)
      "the content_hash does not match the content"
    let body ← okOr (X.jsonFromStr content) "the content is not JSON"
    require ((body.field "v").bind Value.asU64 == some 1) "the content is not version 1"
    require (body.text "device_did" == some myDid) "the adoption is for another device"
    let ownerDid ← okOr (body.text "owner_did") "the content has no owner_did"
    require (ownerDid == iss) "the content's owner is not the statement's issuer"
    let rosterVersion ← okOr
      (((body.field "roster_version").bind Value.asU64).bind fun v =>
        if v.toNat < 2 ^ 32 then some (UInt32.ofNat v.toNat) else none)
      "the content has no roster_version"
    match (Did.parse ownerDid : Result (Did X)) with
    | .error _ => .error "the owner is not a key did:mata"
    | .ok owner => return { ownerDid, pin := { genesisPubkey := owner.pubkey, rosterVersion } }
  | _ => .error "the jws is not three parts"

/-! ### The stored adoption -/

/-- The pin that is stored; an error if it is not one. -/
def storedPin : Kv Partition (Option OwnerPin) := do
  match ← Proc.get .identity KV_OWNER_PIN OwnerPin.LEN with
  | some v =>
    if v.length = OwnerPin.LEN then return some (← Proc.ofExcept (OwnerPin.decode v))
    else Proc.fail .corrupt
  | none => return none

/-- The adoption the identity store holds, as the status presents it. -/
structure Stored where
  ownerDid : String
  kind : String
  bytes : Bytes
  provisional : Bool
  deriving DecidableEq

/-- The flag was read, and is one byte `1`. -/
def isMarked (flag : Result (Option Bytes)) : Bool :=
  match flag with
  | .ok (some v) => v == [1]
  | _ => false

/-- The stored bytes as an adoption for `myDid`, with the mark of the pin. -/
def storedAs (X : Crates) (myDid : String) (bytes : Bytes) (isStatement : Bool) :
    Kv Partition (Option Stored) := do
  let flag ← Proc.attempt (Proc.get .identity KV_PIN_PROVISIONAL 1)
  let provisional := isMarked flag
  if isStatement then
    match checkStatement X bytes myDid with
    | .ok c =>
      return some { ownerDid := c.ownerDid, kind := KIND_MATA_STATEMENT, bytes, provisional }
    | .error _ => return none
  else
    match Adoption.decode bytes with
    | .ok a =>
      if a.fields.deviceDid = myDid then
        return some { ownerDid := a.fields.ownerDid, kind := KIND_ADOPTION_V1, bytes, provisional }
      else return none
    | .error _ => return none

/-- The adoption in the identity store, if it holds one for `myDid`. -/
def stored (X : Crates) (myDid : String) : Kv Partition (Option Stored) := do
  match ← Proc.attempt (Proc.get .identity KV_ADOPTION ADOPT_MAX) with
  | .ok none | .error (.bufferTooSmall _) => return none
  | .error e => Proc.fail e
  | .ok (some bytes) =>
    match ← Proc.attempt (Proc.get .identity KV_ADOPTION_KIND 32) with
    | .ok (some k) => storedAs X myDid bytes (k == asBytes KIND_MATA_STATEMENT)
    | .ok none => storedAs X myDid bytes false
    | .error (.bufferTooSmall _) => return none
    | .error e => Proc.fail e

/-! ### Forgetting and taking -/

/-- Forget the owner; whether one was held. -/
def forget : Kv Partition Bool := do
  let held := (← storedPin).isSome
  let _ ← Proc.remove .identity KV_ADOPTION
  let _ ← Proc.remove .identity KV_ADOPTION_KIND
  let _ ← Proc.remove .identity KV_PIN_PROVISIONAL
  let _ ← Proc.remove .identity KV_OWNER_PIN
  return held

/-- Clear the settings and refuse. -/
def refuse (why : String) : Kv Partition Outcome := do
  let _ ← Proc.remove .settings SETTINGS_ADOPT
  return .refused why

/-- Store an accepted container, and clear the settings. -/
def take (container : Bytes) (checked : Checked) (pinned : Option OwnerPin) :
    Kv Partition Outcome := do
  Proc.put .identity KV_ADOPTION container
  Proc.put .identity KV_ADOPTION_KIND (asBytes KIND_MATA_STATEMENT)
  let (encoded, pin) := checked.pin.encode (List.replicate OwnerPin.LEN 0)
  let _ ← Proc.ofExcept encoded
  Proc.put .identity KV_OWNER_PIN pin
  Proc.put .identity KV_PIN_PROVISIONAL [1]
  let _ ← Proc.remove .settings SETTINGS_ADOPT
  if pinned.isSome then return .rehomed checked.ownerDid checked.pin.rosterVersion true
  else return .adopted checked.ownerDid checked.pin.rosterVersion true

/-- Take the settings' adoption into the identity store. -/
def apply (X : Crates) (myDid : String) : Kv Partition Outcome := do
  match ← Proc.attempt (Proc.get .settings SETTINGS_ADOPT ADOPT_MAX) with
  | .ok none => return .nothing
  | .error (.bufferTooSmall _) => refuse "the adoption is longer than 8 KiB"
  | .error e => Proc.fail e
  | .ok (some container) =>
    match checkStatement X container myDid with
    | .error why => refuse why
    | .ok checked =>
      let pinned ← storedPin
      match pinned with
      | some pin =>
        if pin.genesisPubkey ≠ checked.pin.genesisPubkey then
          refuse "the device is pinned to another owner"
        else if checked.pin.rosterVersion < pin.rosterVersion then
          refuse "the adoption's roster is older than the pinned one"
        else take container checked pinned
      | none => take container checked pinned

end EspMid.Model.SettingsAdoption
