import EspMid.Model.Core

/-! # Track A: a namespace of ESP-IDF's NVS

What `EspNvsKv` makes of a namespace whose keys are typed: a key holds a string or a blob, and each
call of the driver sees one of the two. Every call may fail; one that fails leaves the namespace as
it was. `check_key` is a function of `rusty_esp_core`. -/

namespace EspMid.Model.Nvs

open EspMid.Model.Core

/-- `EspError`, by the codes that are told apart. -/
inductive EspError where
  | nvsNotFound
  | nvsInvalidLength
  | nvsInvalidName
  | nvsNotEnoughSpace
  | other (code : Int32)
  deriving DecidableEq

/-- `map`. -/
def map : EspError → Error
  | .nvsNotFound => .corrupt
  | .nvsInvalidLength => .invalidFormat
  | .nvsInvalidName => .invalidFormat
  | .nvsNotEnoughSpace => .bufferTooSmall 0
  | .other _ => .hardware

/-! ### The driver -/

/-- A stored value; a string is stored with a NUL behind it. -/
inductive NvsValue where
  | str (s : String)
  | blob (b : Bytes)
  deriving DecidableEq

/-- A namespace: what each key holds. -/
abbrev Namespace := String → Option NvsValue

/-- The calls of the driver. -/
inductive Call where
  | blobLen
  | getBlob
  | strLen
  | getStr
  | remove
  | setBlob
  deriving DecidableEq

/-- Which calls of an operation fail, and with what; no operation makes a call twice. -/
abbrev Failures := Call → Option EspError

/-- No call fails. -/
def calm : Failures := fun _ => none

/-- The answer of a call, unless it fails. -/
def Failures.answer {α : Type} (F : Failures) (call : Call) (a : Except EspError α) :
    Except EspError α :=
  match F call with
  | some e => .error e
  | none => a

namespace Namespace

variable (n : Namespace) (F : Failures) (key : String)

/-- The namespace with what one key holds replaced. -/
def set (v : Option NvsValue) : Namespace := fun k => if k = key then v else n k

/-- The length of the blob under `key`. -/
def blobLen : Except EspError (Option ℕ) :=
  F.answer .blobLen (match n key with
    | some (.blob b) => .ok (some b.length)
    | _ => .ok none)

/-- The blob under `key`, if it fits in `cap` bytes. -/
def getBlob (cap : ℕ) : Except EspError (Option Bytes) :=
  F.answer .getBlob (match n key with
    | some (.blob b) => if b.length ≤ cap then .ok (some b) else .error .nvsInvalidLength
    | _ => .ok none)

/-- The length of the string under `key`, with its NUL. -/
def strLen : Except EspError (Option ℕ) :=
  F.answer .strLen (match n key with
    | some (.str s) => .ok (some (byteLen s + 1))
    | _ => .ok none)

/-- The string under `key`, if it fits in `cap` bytes with its NUL. -/
def getStr (cap : ℕ) : Except EspError (Option String) :=
  F.answer .getStr (match n key with
    | some (.str s) => if byteLen s + 1 ≤ cap then .ok (some s) else .error .nvsInvalidLength
    | _ => .ok none)

/-- Erase `key`; whether it was there. -/
def remove : Except EspError Bool × Namespace :=
  match F .remove with
  | some e => (.error e, n)
  | none => (.ok (n key).isSome, n.set key none)

/-- Store a blob. -/
def setBlob (value : Bytes) : Except EspError Unit × Namespace :=
  match F .setBlob with
  | some e => (.error e, n)
  | none => (.ok (), n.set key (some (.blob value)))

end Namespace

/-! ### `EspNvsKv` -/

namespace EspNvsKv

/-- A string copied to the front of `out`, without its NUL. -/
def getStrValue (n : Namespace) (F : Failures) (key : String) (out : Bytes) :
    Result (Option ℕ) × Bytes :=
  match n.strLen F key with
  | .error e => (.error (map e), out)
  | .ok none => (.ok none, out)
  | .ok (some withNul) =>
    let len := withNul - 1
    if out.length < len then (.error (.bufferTooSmall len), out)
    else
      match n.getStr F key (max withNul 1) with
      | .error e => (.error (map e), out)
      | .ok none => (.ok none, out)
      | .ok (some s) => (.ok (some (byteLen s)), asBytes s ++ out.drop (byteLen s))

variable (checkKey : String → Result Unit)

/-- A blob, or else a string. -/
def get (n : Namespace) (F : Failures) (key : String) (out : Bytes) : Result (Option ℕ) × Bytes :=
  match checkKey key with
  | .error e => (.error e, out)
  | .ok () =>
    match n.blobLen F key with
    | .error e => (.error (map e), out)
    | .ok none => getStrValue n F key out
    | .ok (some len) =>
      if out.length < len then (.error (.bufferTooSmall len), out)
      else
        match n.getBlob F key out.length with
        | .error e => (.error (map e), out)
        | .ok none => (.ok none, out)
        | .ok (some v) => (.ok (some v.length), v ++ out.drop v.length)

/-- `set_blob`, its error mapped. -/
def putBlob (n : Namespace) (F : Failures) (key : String) (value : Bytes) :
    Result Unit × Namespace :=
  match n.setBlob F key value with
  | (.error e, n') => (.error (map e), n')
  | (.ok (), n') => (.ok (), n')

/-- Always a blob; a string under the key is removed first. -/
def put (n : Namespace) (F : Failures) (key : String) (value : Bytes) :
    Result Unit × Namespace :=
  match checkKey key with
  | .error e => (.error e, n)
  | .ok () =>
    match n.strLen F key with
    | .error e => (.error (map e), n)
    | .ok none => putBlob n F key value
    | .ok (some _) =>
      match n.remove F key with
      | (.error e, n') => (.error (map e), n')
      | (.ok _, n') => putBlob n' F key value

def remove (n : Namespace) (F : Failures) (key : String) : Result Bool × Namespace :=
  match checkKey key with
  | .error e => (.error e, n)
  | .ok () =>
    match n.remove F key with
    | (.error e, n') => (.error (map e), n')
    | (.ok held, n') => (.ok held, n')

end EspNvsKv

end EspMid.Model.Nvs
