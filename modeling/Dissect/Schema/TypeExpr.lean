import Dissect.Schema.Error
import Dissect.Wire.Scalar

/-!
# Field types

What a schema says the type of a field is: a scalar, a class, or a container template with its
parameters, all by name.
-/

set_option autoImplicit false

namespace Dissect.Schema

open Wire (Scalar)

/-- The declared type of a field. -/
inductive TypeExpr where
  | scalar (name : String)
  | classRef (name : String)
  | template (name : String) (parameters : List TypeExpr)

namespace TypeExpr

mutual

/-- The class names that a type mentions, in order. -/
def classNames : TypeExpr → List String
  | .scalar _ => []
  | .classRef name => [name]
  | .template _ parameters => classNamesAll parameters

/-- The class names that types mention, in order. -/
def classNamesAll : List TypeExpr → List String
  | [] => []
  | t :: rest => t.classNames ++ classNamesAll rest

end

mutual

/-- The text of a type. -/
def text : TypeExpr → String
  | .scalar name => name
  | .classRef name => name
  | .template name parameters => name ++ "<" ++ ", ".intercalate (texts parameters) ++ ">"

/-- The texts of types. -/
def texts : List TypeExpr → List String
  | [] => []
  | t :: rest => t.text :: texts rest

end

end TypeExpr

/-- The scalar type of a name. -/
def scalarNamed (name : String) : Except SchemaError Scalar :=
  match Scalar.ofName? name with
  | some s => .ok s
  | none => .error (.unknownScalar name)

/-- The known containers. -/
inductive TemplateKind where
  /-- A discriminant, which is not on the wire, and a payload. -/
  | any
  /-- A count and that many elements. -/
  | sequence
  /-- A count and that many pairs of a key and a value. -/
  | map
deriving DecidableEq

namespace TemplateKind

/-- The container of a name. -/
def ofName? (name : String) : Option TemplateKind :=
  match name with
  | "any" => some .any
  | "qlist" | "std_list" | "qvector" => some .sequence
  | "std_map" => some .map
  | _ => none

/-- How many parameters a container takes. -/
def arity : TemplateKind → Nat
  | .any => 2
  | .sequence => 1
  | .map => 2

/-- The container of a name that is used with the given number of parameters. -/
def checked (name : String) (parameters : Nat) : Except SchemaError TemplateKind :=
  match ofName? name with
  | none => .error (.unsupportedTemplate name)
  | some kind =>
    if parameters = kind.arity then .ok kind
    else .error (.templateArity name kind.arity parameters)

end TemplateKind

end Dissect.Schema
