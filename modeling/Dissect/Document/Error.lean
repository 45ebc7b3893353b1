/-!
# Document errors

Why a document is refused.
-/

set_option autoImplicit false

namespace Dissect.Document

/-- Where an element stands that may not stand there. -/
inductive Context where
  | document
  | unitNamed (name : String)
  | classNamed (name : String)
  | protocolNamed (name : String)
  | methodNamed (name : String)
deriving DecidableEq

/-- The text of a context. -/
def Context.text : Context → String
  | .document => "document"
  | .unitNamed name => s!"unit '{name}'"
  | .classNamed name => s!"class '{name}'"
  | .protocolNamed name => s!"protocol '{name}'"
  | .methodNamed name => s!"method '{name}'"

/-- Why a document is refused. -/
inductive DocumentError where
  /-- The text is not JSON, or the JSON is no document. -/
  | json
  /-- An element stands where it may not. -/
  | unexpectedElement (element : String) (context : Context)
  /-- A declaration stands before any unit is named. -/
  | missingUnit (kind name : String)
  /-- A declaration names another namespace than that of its unit. -/
  | namespaceMismatch (kind name declared unit : String)
  /-- A field has a type that no value can have. -/
  | malformedType (field descriptor : String)
  /-- A parameter goes in neither direction. Only its method is refused. -/
  | invalidDirection (parameter direction : String)
deriving DecidableEq

/-- The text of a document error. -/
def DocumentError.message : DocumentError → String
  | .json => "JSON error"
  | .unexpectedElement element context => s!"unexpected element '{element}' in " ++ context.text
  | .missingUnit kind name => s!"{kind} '{name}' declared before any DDLUnitDeclaration"
  | .namespaceMismatch kind name declared unit =>
    s!"{kind} '{name}' belongs to namespace '{declared}' but appears in unit '{unit}'"
  | .malformedType field descriptor =>
    s!"malformed type descriptor '{descriptor}' for '{field}'"
  | .invalidDirection parameter direction =>
    s!"parameter '{parameter}' has unsupported direction '{direction}'"

end Dissect.Document
