import Mathlib.Data.String.Basic
import EspMid.Lib.SortedMap
import EspMid.Model.Messages
import EspMid.Model.SettingsAdoption

/-! # The status document

The body of `GET /v1/status`: the discovery fields, and in answer to a nonce also the adoption, the
caller's other fields and the signature of the status proof. Objects are `serde_json` maps, ordered
by key. -/

namespace EspMid.Model.Document

open EspMid.Lib.SortedMap
open EspMid.Model.Core EspMid.Model.SettingsAdoption EspMid.Model.Messages

/-- The adoption a device holds, as it stored it. -/
structure Adoption where
  ownerDid : String
  kind : String
  bytes : Bytes

/-- What a device says about itself. -/
structure StatusDocument where
  deviceDid : String
  makerDid : Option String
  model : String
  nodeId : Option String
  adoption : Option Adoption
  extra : Map String Value

/-- The contract's own fields, which `extra` may not replace. -/
def FIELDS : List String :=
  ["pair", "maker_did", "model", "device_did", "node_id", "owner_did", "adoption_kind", "adoption",
    "device_sig"]

/-- `Value::from` an optional string. -/
def ofOption (s : Option String) : Value :=
  match s with
  | none => .null
  | some s => .string s

/-- An object from its entries, in the order of a literal. -/
def ofEntries (entries : List (String × Value)) : Value :=
  .object (Map.empty.extend entries).entries

namespace StatusDocument

/-- `"ready"`, or the owner once adopted. -/
def pair (d : StatusDocument) : Value :=
  match d.adoption with
  | none => .string "ready"
  | some a => ofEntries [("paired", ofEntries [("owner_did", .string a.ownerDid)])]

/-- The body without a nonce. -/
def plain (d : StatusDocument) : Value :=
  ofEntries [("pair", d.pair), ("maker_did", ofOption d.makerDid), ("model", .string d.model),
    ("device_did", .string d.deviceDid), ("node_id", ofOption d.nodeId)]

/-- The claims that are signed. -/
def proof (X : Crates) (d : StatusDocument) (nonce : Array8 32) : StatusProof :=
  match d.adoption with
  | none => .unadopted nonce d.deviceDid
  | some a => .adopted X nonce d.deviceDid a.ownerDid a.kind a.bytes

/-- The body in answer to a nonce. -/
def signed (X : Crates) (d : StatusDocument) (nonce : Array8 32)
    (sign : Array8 32 → Array8 64) : Result Value := do
  let sig := sign (← (d.proof X nonce).prehash X)
  let out := d.extra.entries.foldl
    (fun out e => if e.1 ∈ FIELDS then out else out.insert e.1 e.2) Map.empty
  let out := match d.plain with
    | .object plain => out.extend plain
    | _ => out
  let out := match d.adoption with
    | none => out
    | some a =>
      ((out.insert "owner_did" (.string a.ownerDid)).insert "adoption_kind" (.string a.kind)).insert
        "adoption" (.string (b64Encode a.bytes))
  let out := out.insert "device_sig" (.string (b64Encode sig.toList))
  return .object out.entries

end StatusDocument

end EspMid.Model.Document
