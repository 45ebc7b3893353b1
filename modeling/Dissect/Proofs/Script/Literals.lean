import Dissect.Script.Statement
import Mathlib.Logic.Function.Basic

/-!
# Reading literals

How Lua reads a text between double quotes: a backslash takes the character behind it along, a quote
without one ends the literal, and a line may not end inside it. Such a reader gets a text back from
its literal, whatever stands behind, and reads it from nothing else (`readLiteral?_eq_some_iff`). So
two texts never have the same literal, and no text that a script quotes ends its literal early
(`literal_read_back`).
-/

set_option autoImplicit false

namespace Dissect.Script.Lua

/-- The character that a backslash and the given one stand for. -/
def unescaped? (c : Char) : Option Char :=
  if c = '\x22' || c = '\\' then some c
  else if c = 'n' then some '\n'
  else if c = 'r' then some '\r'
  else none

/-- Reads on inside a literal: the text up to the quote that ends it, and what stands behind. -/
def readQuoted? : List Char → Option (List Char × List Char)
  | [] => none
  | '\x22' :: rest => some ([], rest)
  | '\\' :: e :: rest =>
    match unescaped? e, readQuoted? rest with
    | some c, some (text, behind) => some (c :: text, behind)
    | _, _ => none
  | c :: rest =>
    -- a backslash with nothing behind it, or a line that ends here, leaves the literal open
    if c = '\\' || c = '\n' || c = '\r' then none
    else
      match readQuoted? rest with
      | some (text, behind) => some (c :: text, behind)
      | none => none

/-- Reads a literal at the beginning of a text: what it stands for, and the text behind it. -/
def readLiteral? (code : String) : Option (String × String) :=
  match code.toList with
  | '\x22' :: rest =>
    (readQuoted? rest).map fun read => (String.ofList read.1, String.ofList read.2)
  | _ => none

/-- A character is written as an escape that stands for it, or by itself if it does no harm. -/
theorem literalChar_cases (c : Char) :
    (∃ e, literalChar c = ['\\', e] ∧ unescaped? e = some c) ∨
    (literalChar c = [c] ∧ c ≠ '\x22' ∧ c ≠ '\\' ∧ c ≠ '\n' ∧ c ≠ '\r') := by
  unfold literalChar
  by_cases marked : c = '\x22' ∨ c = '\\'
  · refine .inl ⟨c, by simp [marked], ?_⟩
    simp [unescaped?, marked]
  · rw [not_or] at marked
    by_cases newline : c = '\n'
    · refine .inl ⟨'n', by simp [newline], ?_⟩
      rw [newline]
      rfl
    · by_cases carriage : c = '\r'
      · refine .inl ⟨'r', by simp [carriage], ?_⟩
        rw [carriage]
        rfl
      · exact .inr ⟨by simp [marked, newline, carriage], marked.1, marked.2, newline, carriage⟩

/-- An escape that stands for a character is how the character is written. -/
theorem literalChar_of_unescaped? {e c : Char} (stands : unescaped? e = some c) :
    literalChar c = ['\\', e] := by
  unfold unescaped? at stands
  split at stands
  · next marked =>
    cases stands
    rw [literalChar, if_pos marked]
  · split at stands
    · next same =>
      cases stands
      rw [same]
      rfl
    · split at stands
      · next same =>
        cases stands
        rw [same]
        rfl
      · cases stands

/-- A character that does no harm is written by itself. -/
theorem literalChar_of_plain {c : Char} (quote : c ≠ '\x22')
    (plain : ¬ (c = '\\' || c = '\n' || c = '\r') = true) : literalChar c = [c] := by
  simp only [Bool.or_eq_true, decide_eq_true_eq, not_or] at plain
  simp [literalChar, quote, plain]

/-- What is written for a text is read as the text, whatever stands behind the quote. -/
theorem readQuoted?_flatMap (text behind : List Char) :
    readQuoted? (text.flatMap literalChar ++ '\x22' :: behind) = some (text, behind) := by
  induction text with
  | nil => simp [readQuoted?]
  | cons c rest ih =>
    rw [List.flatMap_cons]
    rcases literalChar_cases c with ⟨e, written, stands⟩ | ⟨written, quote, backslash, lf, cr⟩
    · rw [written]
      simp [readQuoted?, stands, ih]
    · rw [written]
      simp [readQuoted?, backslash, lf, cr, ih]

/-- What is read as a text has been written for it. -/
theorem eq_flatMap_of_readQuoted? {code text behind : List Char}
    (read : readQuoted? code = some (text, behind)) :
    code = text.flatMap literalChar ++ '\x22' :: behind := by
  fun_induction readQuoted? code generalizing text with
  | case1 => cases read
  | case2 rest =>
    cases read
    rfl
  | case3 e rest c text' behind' recursion stands ih =>
    cases read
    rw [ih recursion, List.flatMap_cons, literalChar_of_unescaped? stands]
    rfl
  | case4 => cases read
  | case5 => cases read
  | case6 c rest quote _ plain text' behind' recursion ih =>
    cases read
    rw [ih recursion, List.flatMap_cons, literalChar_of_plain quote plain]
    rfl
  | case7 => cases read

theorem toList_literal (text : String) :
    (literal text).toList = '\x22' :: (text.toList.flatMap literalChar ++ ['\x22']) := by
  simp [literal, literalChars]

/-- A literal is read as its text with the rest left over, and nothing else is. -/
theorem readLiteral?_eq_some_iff (code text behind : String) :
    readLiteral? code = some (text, behind) ↔ code = literal text ++ behind := by
  have written : (literal text ++ behind).toList =
      '\x22' :: (text.toList.flatMap literalChar ++ '\x22' :: behind.toList) := by
    simp [toList_literal]
  constructor
  · intro read
    unfold readLiteral? at read
    split at read
    · next rest chars =>
      obtain ⟨⟨inside, left⟩, quoted, result⟩ := Option.map_eq_some_iff.1 read
      obtain ⟨rfl, rfl⟩ := Prod.mk.inj result
      -- texts are told apart by their characters
      rw [← String.toList_inj, written, chars, eq_flatMap_of_readQuoted? quoted]
      simp
    · cases read
  · intro spelled
    have inside := readQuoted?_flatMap text.toList behind.toList
    rw [spelled, readLiteral?, written]
    simp [inside]

end Dissect.Script.Lua

namespace Dissect.Script

open Layout (Declaration)
open Lua

/-- Where a statement quotes a text: the code in front of the literal on its line, the text, and the
code behind. -/
inductive Quotes : Statement → String → String → String → Prop
  | protocolName (var name : String) :
      Quotes (.createProto var name) s!"{var} = Proto(" name s!", {literal name})"
  | protocolTitle (var name : String) :
      Quotes (.createProto var name) s!"{var} = Proto({literal name}, " name ")"
  | label (var : String) (d : Declaration) :
      Quotes (.declareField var d) s!"{var}.fields.{d.ident.name} = ProtoField.new(" d.label
        (s!", {literal d.ident.abbr}, {fieldType d.type}{extraArguments d.type})")
  | abbreviation (var : String) (d : Declaration) :
      Quotes (.declareField var d)
        (s!"{var}.fields.{d.ident.name} = ProtoField.new({literal d.label}, ") d.ident.abbr
        (s!", {fieldType d.type}{extraArguments d.type})")
  | table (name : String) (id : Nat) (var : String) :
      Quotes (.register name id var) "DissectorTable.get(" name s!"):add({id}, {var})"
  | title (var text : String) :
      Quotes (.beginSubtree var text) s!"local subtree = tree:add({var}, buffer(), " text ")"

/-- Every quoted text stands on the one line of its statement, between the code around it. -/
theorem Quotes.write_eq {s : Statement} {front text behind : String}
    (quotes : Quotes s front text behind) (w : Writer) :
    s.write w = w.line (front ++ literal text ++ behind) := by
  cases quotes with
  | protocolName var name =>
    simp [Statement.write, String.append_assoc, toString]
  | protocolTitle var name => simp [Statement.write, String.append_assoc, toString]
  | label var d => simp [Statement.write, String.append_assoc, toString]
  | abbreviation var d => simp [Statement.write, String.append_assoc, toString]
  | table name id var => simp [Statement.write, String.append_assoc, toString]
  | title var text => simp [Statement.write, String.append_assoc, toString]

/-- Reading is the inverse of quoting. At a literal a reader finds its text and leaves just what
stands behind, and where it finds a text there is the literal of it. Different texts therefore have
different literals, and wherever a statement quotes a text on its line, be it a protocol name, a
label, an abbreviation, a table or a title, the literal ends where the code behind it begins,
whatever follows on later lines. -/
theorem literal_read_back :
    (∀ text behind : String, readLiteral? (literal text ++ behind) = some (text, behind)) ∧
    (∀ code text behind : String,
      readLiteral? code = some (text, behind) → code = literal text ++ behind) ∧
    Function.Injective literal ∧
    ∀ (s : Statement) (front text behind : String), Quotes s front text behind →
      ∀ w : Writer, s.write w = w.line (front ++ literal text ++ behind) ∧
        ∀ later, readLiteral? (literal text ++ behind ++ later) = some (text, behind ++ later) := by
  have back (text behind : String) : readLiteral? (literal text ++ behind) = some (text, behind) :=
    (readLiteral?_eq_some_iff _ _ _).2 rfl
  refine ⟨back, ?_, ?_, ?_⟩
  · intro code text behind read
    exact (readLiteral?_eq_some_iff _ _ _).1 read
  · intro a b same
    have first := back a ""
    rw [same, back b ""] at first
    exact (Prod.mk.inj (Option.some.inj first)).1.symm
  · intro s front text behind quotes w
    refine ⟨quotes.write_eq w, fun later => ?_⟩
    rw [String.append_assoc]
    exact back text (behind ++ later)

/-- A label with a quote in it and a backslash at its end. -/
def crooked : Declaration := ⟨⟨"ask_x", "game.ask.x"⟩, "x\") end \\", .string⟩

/-- The quote of a label does not end its literal, and neither does the backslash keep the quote
behind it from ending it. -/
theorem literal_read_back_crooked :
    Quotes (.declareField "game_ask" crooked) "game_ask.fields.ask_x = ProtoField.new("
      "x\") end \\" ", \"game.ask.x\", ftypes.STRINGZ)" ∧
    ∀ later, readLiteral? (literal "x\") end \\" ++ ", \"game.ask.x\", ftypes.STRINGZ)" ++ later) =
      some ("x\") end \\", ", \"game.ask.x\", ftypes.STRINGZ)" ++ later) := by
  have quotes := Quotes.label "game_ask" crooked
  exact ⟨quotes, (literal_read_back.2.2.2 _ _ _ _ quotes .empty).2⟩

end Dissect.Script
