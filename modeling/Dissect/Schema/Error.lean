/-!
# Schema errors

Why the type of a field has no layout. Such an error concerns one field only.
-/

set_option autoImplicit false

namespace Dissect.Schema

/-- Why the type of a field has no layout. -/
inductive SchemaError where
  /-- No namespace declares the class. -/
  | classNotFound (name : String)
  /-- The class is declared more than once where it is looked up. -/
  | ambiguousClass (name : String) (namespaces : List String)
  /-- The scalar type is not in the table. -/
  | unknownScalar (name : String)
  /-- The template is not one of the known containers. -/
  | unsupportedTemplate (name : String)
  /-- The template has the wrong number of parameters. -/
  | templateArity (name : String) (expected actual : Nat)
  /-- The last class of the path contains itself or is its own base. -/
  | circularReference (path : List String)
deriving DecidableEq

/-- The text of a schema error. -/
def SchemaError.message : SchemaError → String
  | .classNotFound name => s!"class '{name}' not found"
  | .ambiguousClass name namespaces =>
    s!"ambiguous class '{name}': declared in " ++ ", ".intercalate namespaces
  | .unknownScalar name => s!"unknown scalar type '{name}'"
  | .unsupportedTemplate name => s!"unsupported template '{name}'"
  | .templateArity name expected actual =>
    s!"template '{name}' takes {expected} parameter(s), got {actual}"
  | .circularReference path =>
    "circular type reference detected: " ++ " -> ".intercalate path

end Dissect.Schema
