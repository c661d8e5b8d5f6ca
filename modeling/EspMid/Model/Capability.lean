import EspMid.Model.Core

/-! # Capability strings

`component:action`, optionally `@scope`. A held grant satisfies a need with the same component and
action if it has no scope or the needed one. -/

namespace EspMid.Model.Capability

open EspMid.Model.Core

/-- `str::split_once` at a character. -/
def splitOnce (s : String) (c : Char) : Option (String × String) :=
  match s.toList.span (· ≠ c) with
  | (_, []) => none
  | (l, _ :: r) => some (String.ofList l, String.ofList r)

/-- A parsed capability string. -/
structure Cap where
  component : String
  action : String
  scope : Option String
  deriving DecidableEq

namespace Cap

/-- Not empty, and without a separator. -/
def clean (p : String) : Bool := !p.isEmpty && !p.toList.contains ':' && !p.toList.contains '@'

/-- Parse `component:action[@scope]`. -/
def parse (s : String) : Option Cap := do
  let (component, rest) ← splitOnce s ':'
  let (action, scope) :=
    match splitOnce rest '@' with
    | some (a, sc) => (a, some sc)
    | none => (rest, none)
  if !clean component || !clean action || !scope.all clean then none
  else some { component, action, scope }

/-- A held grant satisfies a need. -/
def satisfies (c needed : Cap) : Bool :=
  c.component == needed.component && c.action == needed.action &&
    (c.scope.isNone || c.scope == needed.scope)

end Cap

/-- The grant string satisfies the needed string; strings that do not parse satisfy nothing. -/
def grantSatisfies (grant needed : String) : Bool :=
  match Cap.parse grant, Cap.parse needed with
  | some g, some n => g.satisfies n
  | _, _ => false

/-- Some grant in the list satisfies the need; strings that do not parse satisfy nothing. -/
def anySatisfies (grants : List String) (needed : String) : Bool :=
  match Cap.parse needed with
  | none => false
  | some n => (grants.filterMap Cap.parse).any fun g => g.satisfies n

example : Cap.parse "camera:snapshot@front" = some ⟨"camera", "snapshot", some "front"⟩ := by decide
example : Cap.parse "a:b:c" = none ∧ Cap.parse "a:b@" = none := by decide

end EspMid.Model.Capability
