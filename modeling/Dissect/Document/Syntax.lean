/-!
# Schema documents

A document is a list of units, and a unit a flat list of elements. Elements are kept as they are
written; which of them may stand where is decided later.
-/

set_option autoImplicit false

namespace Dissect.Document

/-- A type as a document writes it. -/
inductive TypeVariant where
  | simple (name : String)
  | classRef (name : String)
  | template (label : Option String) (name : String) (parameters : List TypeVariant)
  | distributedObject (name : String)
  | dataset (name : String)

/-- A type, possibly wrapped together with a number of unknown meaning. -/
inductive TypeDescriptor where
  | wrapped (type : TypeVariant) (unknown : UInt32)
  | bare (type : TypeVariant)

/-- The type without its wrapping. -/
def TypeDescriptor.type : TypeDescriptor → TypeVariant
  | .wrapped type _ => type
  | .bare type => type

/-- Kinds of elements whose contents are not looked at. -/
inductive UnreadKind where
  | action
  | property
  | distributedObject
  | dataset
  | simple
  | template
  | templateInstance
  | duplicationSpace
deriving DecidableEq

namespace UnreadKind

/-- All kinds of elements whose contents are not looked at. -/
def all : List UnreadKind :=
  [.action, .property, .distributedObject, .dataset, .simple, .template, .templateInstance,
    .duplicationSpace]

/-- The name of a kind in documents. -/
def name : UnreadKind → String
  | .action => "Action"
  | .property => "PropertyDeclaration"
  | .distributedObject => "DOClassDeclaration"
  | .dataset => "DatasetDeclaration"
  | .simple => "SimpleDeclaration"
  | .template => "TemplateDeclaration"
  | .templateInstance => "TemplateInstance"
  | .duplicationSpace => "DupSpaceDeclaration"

/-- The kind of a name. -/
def ofName? (name : String) : Option UnreadKind := all.find? fun k => k.name = name

/-- Whether an element of the kind may stand in a unit, where it declares nothing of use. -/
def isDeclaration : UnreadKind → Bool
  | .action => false
  | .property => false
  | _ => true

end UnreadKind

/-- An element of a document. -/
inductive Element where
  /-- Names the namespace of the declarations that follow. -/
  | unitDeclaration (name : String)
  | classDeclaration (name : String) (space base : Option String) (vars : List Element)
  | protocolDeclaration (name : String) (space : Option String) (id : Option UInt16)
      (methods : List Element)
  | method (name : String) (elements : List Element)
  | parameter (name : String) (type : TypeDescriptor) (direction : String)
  | returnValue (type : TypeDescriptor)
  | fieldVariable (name : String) (type : TypeDescriptor)
  | unread (kind : UnreadKind)

/-- The kind of an element as documents spell it. -/
def Element.kind : Element → String
  | .unitDeclaration .. => "DDLUnitDeclaration"
  | .classDeclaration .. => "ClassDeclaration"
  | .protocolDeclaration .. => "ProtocolDeclaration"
  | .method .. => "Method"
  | .parameter .. => "Parameter"
  | .returnValue .. => "ReturnValue"
  | .fieldVariable .. => "Variable"
  | .unread kind => kind.name

/-- A unit of a document. -/
structure DocumentUnit where
  elements : List Element

end Dissect.Document
