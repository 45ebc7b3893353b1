import Dissect.Document.Error
import Dissect.Document.Syntax
import Dissect.Schema.Registry

/-!
# From documents to schemas

Types, classes, methods and protocols are converted one by one, then gathered into namespaces.
A namespace may be spread over several units.
-/

set_option autoImplicit false

namespace Dissect.Document

open Schema

/-! ## Types -/

mutual

/-- The type of a field. -/
def convertVariant (field : String) : TypeVariant → Except DocumentError TypeExpr
  | .simple name => .ok (.scalar name)
  | .classRef name => .ok (.classRef name)
  | .template _ name parameters =>
    match convertVariants field parameters with
    | .ok parameters => .ok (.template name parameters)
    | .error e => .error e
  | .distributedObject name => .error (.malformedType field s!"DOClass({name})")
  | .dataset name => .error (.malformedType field s!"Dataset({name})")

/-- The types of parameters, up to the first that is refused. -/
def convertVariants (field : String) : List TypeVariant → Except DocumentError (List TypeExpr)
  | [] => .ok []
  | v :: rest =>
    match convertVariant field v with
    | .error e => .error e
    | .ok type =>
      match convertVariants field rest with
      | .error e => .error e
      | .ok types => .ok (type :: types)

end

/-- The field of a name and a type. -/
def convertField (name : String) (type : TypeDescriptor) : Except DocumentError Field :=
  (convertVariant name type.type).map fun type => ⟨name, type⟩

/-! ## Classes -/

/-- The fields of a class. -/
def convertVariables (className : String) : List Element → Except DocumentError (List Field)
  | [] => .ok []
  | .fieldVariable name type :: rest =>
    match convertField name type with
    | .error e => .error e
    | .ok field => (convertVariables className rest).map (field :: ·)
  | e :: _ => .error (.unexpectedElement e.kind (.classNamed className))

/-- A class. An empty name of a base means that there is none. -/
def convertClass (name : String) (base : Option String) (vars : List Element) :
    Except DocumentError ClassDecl :=
  (convertVariables name vars).map fun fields =>
    ⟨name, base.filter fun b => !b.isEmpty, fields⟩

/-! ## Protocols -/

/-- The name of the field that a return value becomes. -/
def resultName : String := "result"

/-- A method, with the fields found so far: parameters go by their direction, and a return value
comes before all other fields of the response and ends the method. -/
def convertMethodFrom (m : Method) : List Element → Except DocumentError Method
  | [] => .ok m
  | .parameter name type direction :: rest =>
    match Direction.ofName? direction with
    | none => .error (.invalidDirection name direction)
    | some direction =>
      match convertField name type with
      | .error e => .error e
      | .ok field =>
        match direction with
        | .request => convertMethodFrom { m with parameters := m.parameters ++ [field] } rest
        | .response => convertMethodFrom { m with returns := m.returns ++ [field] } rest
  | .returnValue type :: _ =>
    (convertField resultName type).map fun field => { m with returns := field :: m.returns }
  | e :: _ => .error (.unexpectedElement e.kind (.methodNamed m.name))

/-- A method. -/
def convertMethod (id : Nat) (name : String) (elements : List Element) :
    Except DocumentError Method :=
  convertMethodFrom ⟨id, name, [], []⟩ elements

/-- The greatest method id. -/
def greatestId : Nat := Nat.pow 2 32 - 1

/-- Methods whose ids begin after `index`. One with a parameter that goes in neither direction is
left out, but keeps its id. -/
def convertMethods (protocolName : String) (index : Nat) :
    List Element → Except DocumentError (List Method)
  | [] => .ok []
  | .method name elements :: rest =>
    match convertMethod (min (index + 1) greatestId) name elements with
    | .ok m => (convertMethods protocolName (index + 1) rest).map (m :: ·)
    | .error (.invalidDirection ..) => convertMethods protocolName (index + 1) rest
    | .error e => .error e
  | e :: _ => .error (.unexpectedElement e.kind (.protocolNamed protocolName))

/-- A protocol. -/
def convertProtocol (name : String) (id : Option UInt16) (methods : List Element) :
    Except DocumentError Protocol :=
  (convertMethods name 0 methods).map fun methods => ⟨id, name, methods⟩

/-! ## Namespaces -/

/-- Namespaces completed, and the one that declarations go to. -/
structure Population where
  closed : List Namespace
  current : Option Namespace

/-- Adds a namespace; one of a name that is there already is merged into it. -/
def mergeNamespace (n : Namespace) : List Namespace → List Namespace
  | [] => [n]
  | m :: rest =>
    if m.name = n.name then
      { m with classes := m.classes ++ n.classes, protocols := m.protocols ++ n.protocols } :: rest
    else m :: mergeNamespace n rest

namespace Population

/-- Completes the namespace that declarations go to. -/
def close (p : Population) : Population :=
  match p.current with
  | none => p
  | some n => ⟨mergeNamespace n p.closed, none⟩

/-- The namespace that a declaration goes to: it has to be open, and the declaration names no
other. -/
def target (p : Population) (kind name : String) (space : Option String) :
    Except DocumentError Namespace :=
  match p.current with
  | none => .error (.missingUnit kind name)
  | some n =>
    match space with
    | none => .ok n
    | some declared =>
      if declared.isEmpty || declared = n.name then .ok n
      else .error (.namespaceMismatch kind name declared n.name)

/-- Where an element of a unit stands. -/
def context (p : Population) : Context :=
  match p.current with
  | none => .document
  | some n => .unitNamed n.name

/-- Takes in one element of a unit. -/
def accept (p : Population) : Element → Except DocumentError Population
  | .unitDeclaration name => .ok { p.close with current := some ⟨name, [], []⟩ }
  | .classDeclaration name space base vars => do
    let c ← convertClass name base vars
    let n ← p.target "ClassDeclaration" name space
    .ok { p with current := some { n with classes := n.classes ++ [c] } }
  | .protocolDeclaration name space id methods => do
    let q ← convertProtocol name id methods
    let n ← p.target "ProtocolDeclaration" name space
    .ok { p with current := some { n with protocols := n.protocols ++ [q] } }
  | .unread kind =>
    if kind.isDeclaration then .ok p else .error (.unexpectedElement kind.name p.context)
  | e => .error (.unexpectedElement e.kind p.context)

/-- Takes in elements, up to the first that is refused. -/
def acceptAll (p : Population) : List Element → Except DocumentError Population
  | [] => .ok p
  | e :: rest =>
    match p.accept e with
    | .error e => .error e
    | .ok p => p.acceptAll rest

/-- Takes in units. Each ends the namespace that it has opened. -/
def acceptUnits (p : Population) : List DocumentUnit → Except DocumentError Population
  | [] => .ok p
  | u :: rest =>
    match p.acceptAll u.elements with
    | .error e => .error e
    | .ok p => p.close.acceptUnits rest

end Population

/-- The registry of a document. -/
def buildRegistry (units : List DocumentUnit) : Except DocumentError Registry :=
  ((⟨[], none⟩ : Population).acceptUnits units).map fun p => ⟨p.closed⟩

end Dissect.Document
