import Dissect.Wire.Instruction
import Dissect.Wire.Value

/-!
# The decoder

Runs decode instructions over a payload. A run ends with the fields read and the place reached,
also when it fails: what was completed before the failure stays.
-/

set_option autoImplicit false

namespace Dissect.Wire

/-- A field read from a payload: where its value stands, without any length in front, and what
it is. -/
structure DecodedField where
  field : String
  offset : Nat
  length : Nat
  value : Value
deriving DecidableEq

/-- How far a run has come: the place of the next byte and the fields read so far. -/
structure Progress where
  cursor : Nat
  fields : Array DecodedField

/-- Where every run begins. -/
def Progress.start : Progress := ⟨0, #[]⟩

/-- How a run ends. Either way the progress made is kept. -/
inductive Outcome where
  | finished (progress : Progress)
  | failed (error : DecodeError) (progress : Progress)

namespace Outcome

/-- The progress made. -/
def progress : Outcome → Progress
  | .finished p => p
  | .failed _ p => p

/-- The error of a run that failed. -/
def error? : Outcome → Option DecodeError
  | .finished _ => none
  | .failed e _ => some e

end Outcome

namespace Progress

/-- Reads the value of a scalar whose bytes are at the given place. -/
def take (p : Progress) (b : Buffer) (field : String) (type : Scalar) (offset length : Nat) :
    Outcome :=
  match b.slice offset length with
  | .error e => .failed e p
  | .ok bytes =>
    .finished ⟨offset + length, p.fields.push ⟨field, offset, length, type.value bytes⟩⟩

/-- Reads a scalar at the cursor. -/
def readScalar (p : Progress) (b : Buffer) (field : String) (type : Scalar) : Outcome :=
  match type.width with
  | .unwrapped => .finished p
  | .fixed bytes => p.take b field type p.cursor bytes
  | .lengthPrefixed =>
    match b.lengthPrefix p.cursor with
    | .error e => .failed e p
    | .ok length => p.take b field type (p.cursor + lengthWidth) length

end Progress

/-- Makes a pass a number of times. A pass that reads nothing is the last one: each further one
would do the same. -/
def passes (pass : Progress → Outcome) : Nat → Progress → Outcome
  | 0, p => .finished p
  | n + 1, p =>
    let start := p.cursor
    match pass p with
    | .failed e q => .failed e q
    | .finished q => if q.cursor = start then .finished q else passes pass n q

mutual

/-- Runs one instruction. -/
def Instruction.run (b : Buffer) : Instruction → Progress → Outcome
  | .scalar field type, p => p.readScalar b field type
  | .counted body, p =>
    match b.countPrefix p.cursor with
    | .error e => .failed e p
    | .ok count => passes (runAll b body) count { p with cursor := p.cursor + countWidth }
  | .unresolved field reason, p => .failed (.unresolved field reason) p

/-- Runs instructions in order, up to the first that fails. -/
def runAll (b : Buffer) : List Instruction → Progress → Outcome
  | [], p => .finished p
  | i :: rest, p =>
    match i.run b p with
    | .failed e q => .failed e q
    | .finished q => runAll b rest q

end

/-- Decodes a payload from its first byte: the fields and the number of bytes read. -/
def decodePayload (layout : List Instruction) (b : Buffer) :
    Except DecodeError (Array DecodedField × Nat) :=
  match runAll b layout Progress.start with
  | .finished p => .ok (p.fields, p.cursor)
  | .failed e _ => .error e

end Dissect.Wire
