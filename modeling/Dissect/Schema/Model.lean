import Dissect.Schema.TypeExpr

/-!
# Schemas

Namespaces with their classes and protocols.
-/

set_option autoImplicit false

namespace Dissect.Schema

/-- A field of a class or of a message. -/
structure Field where
  name : String
  type : TypeExpr

/-- A class: the fields of its base, if it has one, come before its own. -/
structure ClassDecl where
  name : String
  base : Option String
  fields : List Field

/-- Which way a message goes. -/
inductive Direction where
  /-- From the client to the server. -/
  | request
  /-- Back to the client. -/
  | response
deriving DecidableEq

/-- The direction of a name. -/
def Direction.ofName? (name : String) : Option Direction :=
  match name with
  | "Request" => some .request
  | "Response" => some .response
  | _ => none

/-- A method with the fields of its request and of its response. The id is its place among the
declared methods, counted from one. -/
structure Method where
  id : Nat
  name : String
  parameters : List Field
  returns : List Field

/-- The fields of the message that goes in a direction. -/
def Method.fields (m : Method) : Direction → List Field
  | .request => m.parameters
  | .response => m.returns

/-- A protocol. One without an id is not registered. -/
structure Protocol where
  id : Option UInt16
  name : String
  methods : List Method

namespace Protocol

/-- The method of an id. -/
def method? (p : Protocol) (id : Nat) : Option Method := p.methods.find? fun m => m.id = id

/-- The class names that the messages of a protocol mention, each at its first place. -/
def referencedClasses (p : Protocol) : List String :=
  let mentioned := p.methods.flatMap fun m =>
    (m.parameters ++ m.returns).flatMap fun f => f.type.classNames
  mentioned.eraseDups

end Protocol

/-- The classes and protocols declared under one name. -/
structure Namespace where
  name : String
  classes : List ClassDecl
  protocols : List Protocol

/-- The first protocol of a name. -/
def Namespace.protocol? (n : Namespace) (name : String) : Option Protocol :=
  n.protocols.find? fun p => p.name = name

end Dissect.Schema
