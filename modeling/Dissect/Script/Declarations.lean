import Dissect.Script.Branch

/-!
# Field declarations

The fields of a protocol are declared once each, in order of first use. A field without a layout
gets a comment instead, also once.
-/

set_option autoImplicit false

namespace Dissect.Script

open Layout (Declaration Diagnostic)

/-- The variable of a protocol, and what has been declared or commented so far. -/
structure Declarations where
  var : String
  written : List String

namespace Declarations

/-- Nothing declared yet. -/
def empty (var : String) : Declarations := ⟨var, []⟩

/-- Writes a statement unless one has been written under the same key. -/
def once (d : Declarations) (key : String) (s : Statement) : List Statement × Declarations :=
  if d.written.contains key then ([], d) else ([s], { d with written := key :: d.written })

/-- Declares a field. -/
def declare (d : Declarations) (decl : Declaration) : List Statement × Declarations :=
  d.once decl.ident.name (.declareField d.var decl)

/-- Comments on a field without a layout. -/
def comment (d : Declarations) (diagnostic : Diagnostic) : List Statement × Declarations :=
  d.once s!"-- {diagnostic.ident}" (placeholder diagnostic.ident diagnostic.error.message)

/-- Declares fields. -/
def declareAll (d : Declarations) : List Declaration → List Statement × Declarations
  | [] => ([], d)
  | decl :: rest =>
    let (first, d) := d.declare decl
    let (others, d) := d.declareAll rest
    (first ++ others, d)

/-- Comments on fields without a layout. -/
def commentAll (d : Declarations) : List Diagnostic → List Statement × Declarations
  | [] => ([], d)
  | diagnostic :: rest =>
    let (first, d) := d.comment diagnostic
    let (others, d) := d.commentAll rest
    (first ++ others, d)

/-- Declares the fields of a layout, then comments on those without one. -/
def layout (d : Declarations) (l : Layout) : List Statement × Declarations :=
  let (declared, d) := d.declareAll l.declarations
  let (comments, d) := d.commentAll l.diagnostics
  (declared ++ comments, d)

/-- Declares the fields of layouts in order. -/
def layouts (d : Declarations) : List Layout → List Statement × Declarations
  | [] => ([], d)
  | l :: rest =>
    let (first, d) := d.layout l
    let (others, d) := d.layouts rest
    (first ++ others, d)

end Declarations

end Dissect.Script
