import Dissect.Layout.Basic
import Dissect.Script.FieldType
import Dissect.Script.Literal
import Dissect.Script.Writer
import Dissect.Text.Blank

/-!
# Statements

The statements of generated scripts, and their text. A dissector reads from `buffer` at `off`;
`sz` and `cnt` hold the length or count read last.
-/

set_option autoImplicit false

namespace Dissect.Script

open Layout (Declaration)
open Wire (Scalar)

/-- A number of bytes: known when the script is written, or the length read last. -/
inductive Extent where
  | bytes (n : Nat)
  | size
deriving DecidableEq

/-- The expression of a number of bytes. -/
def Extent.text : Extent → String
  | .bytes n => toString n
  | .size => "sz"

/-- A statement of a script, or a comment. -/
inductive Statement where
  | blank
  /-- A comment. -/
  | comment (text : String)
  /-- The type of a parameter of the function that follows. -/
  | paramType (name type : String)
  /-- Creates the object of a protocol. -/
  | createProto (var name : String)
  /-- Declares a field of a protocol. -/
  | declareField (var : String) (decl : Declaration)
  /-- Defines a function of a protocol. -/
  | defineFunction (var name : String) (parameters : List String) (body : List Statement)
  /-- Registers a protocol in a dissector table. -/
  | register (table : String) (id : Nat) (var : String)
  /-- Gives a name to the value of a field of the enclosing packet. -/
  | fetchValue (name field : String)
  /-- What is done for one method. -/
  | onMethod (id : Nat) (body : List Statement)
  /-- What is done for requests, and for responses. -/
  | onRequest (request response : List Statement)
  /-- Begins a subtree for the whole buffer. -/
  | beginSubtree (var title : String)
  /-- Begins at the first byte. -/
  | beginOffset
  /-- Makes `sz` and `cnt` local. -/
  | beginScratch
  /-- Reads a length. -/
  | readSize
  /-- Reads a count. -/
  | readCount
  /-- Moves on. -/
  | advance (extent : Extent)
  /-- Adds a field to the subtree. -/
  | addField (var field : String) (extent : Extent) (encoding : String)
  /-- Does the body as often as the count read last says. -/
  | forCount (body : List Statement)

mutual

/-- Writes a statement. -/
def Statement.write : Statement → Writer → Writer
  | .blank, w => w.blank
  | .comment text, w => w.line s!"-- {text}"
  | .paramType name type, w => w.line s!"--- @param {name} {type}"
  | .createProto var name, w => w.line s!"{var} = Proto({literal name}, {literal name})"
  | .declareField var d, w =>
    w.line (s!"{var}.fields.{d.ident.name} = ProtoField.new({literal d.label}, "
      ++ s!"{literal d.ident.abbr}, {fieldType d.type}{extraArguments d.type})")
  | .defineFunction var name parameters body, w =>
    w.block (s!"function {var}.{name}(" ++ ", ".intercalate parameters ++ ")") "end"
      (writeAll body)
  | .register table id var, w =>
    w.line s!"DissectorTable.get({literal table}):add({id}, {var})"
  | .fetchValue name field, w => w.line s!"local {name} = {field}().value"
  | .onMethod id body, w => w.block s!"if method_id == {id} then" "end" (writeAll body)
  | .onRequest request response, w =>
    let w := (writeAll request (w.line "if is_request then").indent).dedent
    (writeAll response (w.line "else").indent).dedent.line "end"
  | .beginSubtree var title, w =>
    w.line s!"local subtree = tree:add({var}, buffer(), {literal title})"
  | .beginOffset, w => w.line "local off = 0"
  | .beginScratch, w => w.line "local sz, cnt"
  | .readSize, w => w.line s!"sz = buffer(off, {Wire.lengthWidth}):le_uint()"
  | .readCount, w => w.line s!"cnt = buffer(off, {Wire.countWidth}):le_uint()"
  | .advance extent, w => w.line s!"off = off + {extent.text}"
  | .addField var field extent encoding, w =>
    w.line (s!"subtree:add_packet_field({var}.fields.{field}, "
      ++ s!"buffer(off, {extent.text}), {encoding})")
  | .forCount body, w => w.block "for i=1,cnt do" "end" (writeAll body)

/-- Writes statements in order. -/
def writeAll : List Statement → Writer → Writer
  | [], w => w
  | s :: rest, w => writeAll rest (s.write w)

end

end Dissect.Script
