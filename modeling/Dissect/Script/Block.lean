import Dissect.Layout.Builder
import Dissect.Script.Declarations

/-!
# Protocol blocks

The part of a script that belongs to one protocol. A protocol with an id gets an object with
fields, is registered under its id, and has a dissector with a branch for every method and
direction. A protocol without an id is only described in comments.
-/

set_option autoImplicit false

namespace Dissect.Script

open Layout (Builder)
open Schema

/-- The variable that holds the object of a protocol. -/
def protoVar (space protocol : String) : String :=
  s!"{Text.snakeCase space}_{Text.snakeCase protocol}"

/-- A field of a protocol that has been replaced by a placeholder. -/
structure Diagnostic where
  space : String
  protocol : String
  path : String
  error : SchemaError

/-- The text of a diagnostic. -/
def Diagnostic.text (d : Diagnostic) : String :=
  s!"{d.space}::{d.protocol}: {d.path}: {d.error.message}"

/-- Reports the diagnostics of a layout, except those of a path reported before. -/
def report (space protocol : String) (reported : List Diagnostic) :
    List Layout.Diagnostic → List Diagnostic
  | [] => reported
  | d :: rest =>
    if reported.any fun r => r.path = d.path then report space protocol reported rest
    else report space protocol (reported ++ [⟨space, protocol, d.path, d.error⟩]) rest

/-- The layouts of the messages of a method. -/
structure MethodLayouts where
  method : Method
  request : Layout
  response : Layout

/-- The layouts of classes, in order. -/
def classLayouts (b : Builder) : List ClassSite → List Layout × Builder
  | [] => ([], b)
  | c :: rest =>
    let (first, b) := b.classLayout c
    let (others, b) := classLayouts b rest
    (first :: others, b)

/-- The layouts of methods, in order. -/
def methodLayouts (b : Builder) : List Method → List MethodLayouts × Builder
  | [] => ([], b)
  | m :: rest =>
    let (request, b) := b.methodLayout m .request
    let (response, b) := b.methodLayout m .response
    let (others, b) := methodLayouts b rest
    (⟨m, request, response⟩ :: others, b)

/-- All that is laid out for a protocol: the classes it needs, then its methods. -/
structure ProtocolLayout where
  classes : List Layout
  methods : List MethodLayouts

namespace ProtocolLayout

/-- The layout of a protocol in the namespace at place `view`. -/
def build (r : Registry) (view : Nat) (p : Protocol) : ProtocolLayout :=
  let (classes, b) := classLayouts (.start r view p.name) (r.requiredClasses view p)
  ⟨classes, (methodLayouts b p.methods).1⟩

/-- All layouts in the order in which their fields are declared. -/
def layouts (l : ProtocolLayout) : List Layout :=
  l.classes ++ l.methods.flatMap fun m => [m.request, m.response]

/-- The fields replaced by placeholders. -/
def diagnostics (l : ProtocolLayout) (space protocol : String) : List Diagnostic :=
  report space protocol [] (l.layouts.flatMap fun l => l.diagnostics)

end ProtocolLayout

/-- What a dissector does for a method: it goes by the direction of the message. -/
def methodBody (var protocol : String) (m : MethodLayouts) : List Statement :=
  let title := s!"{protocol}.{m.method.name}"
  [.onRequest (branch var title m.request.instructions)
    (branch var title m.response.instructions)]

/-- The branches of a method. -/
def methodStatements (var protocol : String) (m : MethodLayouts) : Statement :=
  .onMethod m.method.id (methodBody var protocol m)

/-- The body of a dissector. -/
def dissectorBody (var protocol : String) (ms : List MethodLayouts) : List Statement :=
  [.fetchValue "method_id" "method_id_field", .fetchValue "is_request" "is_request_field"]
    ++ ms.map (methodStatements var protocol)

/-- The dissector of a protocol. -/
def dissector (space : String) (p : Protocol) (l : ProtocolLayout) : Statement :=
  let var := protoVar space p.name
  .defineFunction var "dissector" ["buffer", "pinfo", "tree"] (dissectorBody var p.name l.methods)

/-- What stands between the declarations of a protocol and its dissector. -/
def registration (var table : String) (id : UInt16) : List Statement :=
  [.blank, .defineFunction var "init" [] [.register table id.toNat var], .blank,
    .paramType "buffer" "Tvb", .paramType "pinfo" "Pinfo", .paramType "tree" "TreeItem"]

/-- The block of a protocol with an id. -/
def protocolBlock (space table : String) (p : Protocol) (id : UInt16) (l : ProtocolLayout) :
    List Statement :=
  let var := protoVar space p.name
  [.createProto var p.name] ++ ((Declarations.empty var).layouts l.layouts).1
    ++ registration var table id ++ [dissector space p l]

/-- The comments on the fields of a message. -/
def stubFields (direction : String) (fields : List Field) : List Statement :=
  fields.map fun f => .comment s!"    {direction} {f.name}: {f.type.text}"

/-- The comments on a method. -/
def stubMethod (m : Method) : List Statement :=
  .comment s!"  {m.id} {m.name}" :: stubFields "request" m.parameters
    ++ stubFields "response" m.returns

/-- The comments that describe a protocol without an id. -/
def stub (space : String) (p : Protocol) : List Statement :=
  .comment s!"{space}::{p.name} has no protocol id; not registered"
    :: p.methods.flatMap stubMethod

end Dissect.Script
