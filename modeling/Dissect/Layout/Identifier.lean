import Dissect.Text.SnakeCase

/-!
# Identifiers

Every field of a generated script has a variable name and an abbreviation for display filters,
both made from the place where the field is declared. Within a protocol no two places share
either: where the spellings would clash, the later place is numbered.
-/

set_option autoImplicit false

namespace Dissect.Layout

/-- Where a field is declared. -/
inductive Scope where
  /-- Among the fields of a message of a method. -/
  | method (name : String)
  /-- In a class, with the namespace that declares the class. -/
  | inClass (space name : String)
deriving DecidableEq

namespace Scope

/-- The name that identifiers begin with. -/
def name : Scope → String
  | .method name => name
  | .inClass _ name => name

/-- The name by which a scope is shown. -/
def text : Scope → String
  | .method name => name
  | .inClass space name => s!"{space}::{name}"

end Scope

/-- The place of a value: a field, or what a container in a field holds. -/
structure Place where
  scope : Scope
  path : List String
deriving DecidableEq

/-- The names of a value in a script. -/
structure Identifier where
  /-- The variable name. -/
  name : String
  /-- The abbreviation for display filters. -/
  abbr : String
deriving DecidableEq

/-- An identifier with a number behind both names. -/
def Identifier.numbered (i : Identifier) (n : Nat) : Identifier :=
  ⟨s!"{i.name}_{n}", s!"{i.abbr}_{n}"⟩

/-- The identifiers given out so far within a protocol, the latest first. -/
structure IdentifierTable where
  protocol : String
  entries : List (Place × Identifier)

namespace IdentifierTable

/-- The table of a protocol before any identifier is given out. -/
def empty (protocol : String) : IdentifierTable := ⟨protocol, []⟩

/-- The identifier of a place as long as nothing clashes: the parts in snake case, joined by
underscores for the name, and by dots behind the protocol for the abbreviation. -/
def spelling (t : IdentifierTable) (place : Place) : Identifier :=
  let parts := (place.scope.name :: place.path).map Text.snakeCase
  let protocol := Text.snakeCase t.protocol
  let dotted := ".".intercalate parts
  ⟨"_".intercalate parts, if protocol.isEmpty then dotted else s!"{protocol}.{dotted}"⟩

/-- Whether either name of an identifier is in use. -/
def isTaken (t : IdentifierTable) (i : Identifier) : Bool :=
  t.entries.any fun e => e.2.name = i.name || e.2.abbr = i.abbr

/-- The first free identifier among those numbered from `n` on, of at most `tries` that are
looked at before the last resort. -/
def firstFree (t : IdentifierTable) (i : Identifier) : Nat → Nat → Identifier
  | 0, n => i.numbered n
  | tries + 1, n =>
    if t.isTaken (i.numbered n) then t.firstFree i tries (n + 1) else i.numbered n

/-- The identifier that a new place gets: its spelling if that is free, else the spelling with the
least number from two on that is free. Each entry takes at most two numbers away, so the search
ends within twice as many tries as there are entries. -/
def fresh (t : IdentifierTable) (place : Place) : Identifier :=
  let i := t.spelling place
  if t.isTaken i then t.firstFree i (2 * t.entries.length) 2 else i

/-- The identifier of a place, given out at the first request. -/
def intern (t : IdentifierTable) (place : Place) : Identifier × IdentifierTable :=
  match t.entries.find? fun e => e.1 = place with
  | some e => (e.2, t)
  | none =>
    let i := t.fresh place
    (i, { t with entries := (place, i) :: t.entries })

end IdentifierTable

end Dissect.Layout
