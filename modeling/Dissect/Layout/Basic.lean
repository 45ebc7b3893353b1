import Dissect.Layout.Identifier
import Dissect.Schema.Registry
import Dissect.Wire.Instruction

/-!
# Layouts

What is known about the bytes of some fields: a declaration for every value, the instructions
that read them, and a diagnostic for every field whose type has no layout.
-/

set_option autoImplicit false

namespace Dissect

open Schema (SchemaError)
open Wire (Instruction Scalar)

/-- The declaration of a value. -/
structure Layout.Declaration where
  ident : Layout.Identifier
  label : String
  type : Scalar

/-- A field whose type has no layout. -/
structure Layout.Diagnostic where
  /-- The field with its method or class. -/
  path : String
  /-- The name of the placeholder. -/
  ident : String
  error : SchemaError

/-- Declarations in order of first use, instructions in wire order, and diagnostics. -/
structure Layout where
  declarations : List Layout.Declaration
  instructions : List Instruction
  diagnostics : List Layout.Diagnostic

namespace Layout

/-- The layout of no fields. -/
def empty : Layout := ⟨[], [], []⟩

/-- One layout after another. -/
def append (a b : Layout) : Layout :=
  ⟨a.declarations ++ b.declarations, a.instructions ++ b.instructions,
    a.diagnostics ++ b.diagnostics⟩

instance : Append Layout := ⟨append⟩

/-- The layout of a single value. A value that is not on the wire is declared but not read. -/
def scalar (ident : Identifier) (label : String) (type : Scalar) : Layout where
  declarations := [⟨ident, label, type⟩]
  instructions := if type.width = .unwrapped then [] else [.scalar ident.name type]
  diagnostics := []

/-- The layout of a counted sequence of what `body` lays out. -/
def counted (body : Layout) : Layout :=
  { body with instructions := [.counted body.instructions] }

/-- What stands for a field whose type has no layout. -/
def placeholder (path ident : String) (error : SchemaError) : Layout where
  declarations := []
  instructions := [.unresolved ident error.message]
  diagnostics := [⟨path, ident, error⟩]

end Layout

end Dissect
