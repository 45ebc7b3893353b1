import Dissect.Proofs.Script.Comments
import Dissect.Proofs.Script.Execution
import Dissect.Proofs.Script.Literals

/-!
# Well-formed scripts

What is asked of the text of a script: each of its lines is empty, a comment, or has one of a few
forms (`LineForm`), and the blocks that lines open are closed in order, with every line indented by
four spaces for each block around it (`Lua.WellNested`). A reader tells what a line does from its
first word alone (`Lua.passLine`), and the forms are written so that it can: protocol variables are
no reserved words (`LineForm.begins`).

The block of a protocol is well formed if the names of the schema are identifiers
(`protocolBlock_wellFormed`), whatever the types, the table and the reasons of placeholders say.
-/

set_option autoImplicit false

namespace Dissect.Script.Lua

/-! ## Nesting -/

/-- A block that has been opened and not closed. -/
inductive Block where
  | function
  /-- What is done under a condition, up to the alternative if there is one. -/
  | condition
  | alternative
  | loop
deriving DecidableEq

/-- What a line does to the blocks around it. -/
inductive Effect where
  | stays
  | opens (b : Block)
  /-- Goes over to the alternative. -/
  | turns
  | closes
deriving DecidableEq

/-- What a line does that begins with a word. -/
def effectOf (word : List Char) : Effect :=
  if word = "function".toList then .opens .function
  else if word = "if".toList then .opens .condition
  else if word = "for".toList then .opens .loop
  else if word = "else".toList then .turns
  else if word = "end".toList then .closes
  else .stays

/-- The blocks around what comes next, the innermost first, if a line with this effect and so many
spaces in front may stand inside the given ones. Lines that go over to an alternative or close a
block are indented like the one that opens it. -/
def Effect.apply (indent : Nat) : Effect → List Block → Option (List Block)
  | .stays, blocks => if indent = 4 * blocks.length then some blocks else none
  | .opens b, blocks => if indent = 4 * blocks.length then some (b :: blocks) else none
  | .turns, .condition :: outer =>
    if indent = 4 * outer.length then some (.alternative :: outer) else none
  | .closes, _ :: outer => if indent = 4 * outer.length then some outer else none
  | _, _ => none

/-- The line without its indentation. -/
def dedented (line : List Char) : List Char := line.dropWhile fun c => c = ' '

/-- Goes past a line. An empty one may stand anywhere. -/
def passLine (blocks : List Block) (line : List Char) : Option (List Block) :=
  if line.isEmpty then some blocks
  else (effectOf ((dedented line).takeWhile isNameChar)).apply
    (line.length - (dedented line).length) blocks

/-- Every line is indented by four spaces for each block around it, and all blocks are closed. -/
def WellNested (ls : List (List Char)) : Prop := ls.foldlM passLine [] = some []

instance (ls : List (List Char)) : Decidable (WellNested ls) :=
  inferInstanceAs (Decidable (_ = _))

/-- The content of a line begins with no space, and with a word for this effect. -/
structure Begins (content : String) (e : Effect) : Prop where
  filled : content.toList.head?.any (fun c => c ≠ ' ') = true
  word : effectOf (content.toList.takeWhile isNameChar) = e

theorem takeWhile_append_of_mem {p : Char → Bool} {a b : List Char} {c : Char} (mem : c ∈ a)
    (stops : p c = false) : (a ++ b).takeWhile p = a.takeWhile p := by
  induction a with
  | nil => cases mem
  | cons d rest ih =>
    rw [List.cons_append, List.takeWhile_cons, List.takeWhile_cons]
    by_cases goes : p d = true
    · rw [if_pos goes, if_pos goes]
      rcases List.mem_cons.1 mem with rfl | mem
      · rw [stops] at goes
        cases goes
      · rw [ih mem]
    · rw [if_neg goes, if_neg goes]

namespace Begins

/-- What stands behind the first word does not matter. -/
theorem append {front : String} {e : Effect} (begins : Begins front e)
    (ends : front.toList.any (fun c => !isNameChar c) = true) (rest : String) :
    Begins (front ++ rest) e := by
  obtain ⟨c, mem, other⟩ := List.any_eq_true.1 ends
  constructor
  · have filled := begins.filled
    rw [String.toList_append]
    cases chars : front.toList with
    | nil =>
      rw [chars] at mem
      cases mem
    | cons first others => simpa [chars] using filled
  · rw [String.toList_append, takeWhile_append_of_mem mem (by simpa using other)]
    exact begins.word

/-- A name is no word with an effect. -/
theorem name {word rest : String} (named : isName word = true)
    (ends : rest.toList.head?.any isNameChar = false) : Begins (word ++ rest) .stays := by
  obtain ⟨identifier, free⟩ := (isName_iff word).1 named
  obtain ⟨⟨first, others, chars, -⟩, all⟩ := (isIdentifier_iff word).1 identifier
  have whole : (word ++ rest).toList.takeWhile isNameChar = word.toList := by
    rw [String.toList_append, List.takeWhile_append_of_pos all]
    cases behind : rest.toList with
    | nil => simp
    | cons c _ =>
      rw [behind] at ends
      rw [List.takeWhile_cons_of_neg (by simpa using ends), List.append_nil]
  constructor
  · have letter : isNameChar first = true := all first (by rw [chars]; exact List.mem_cons_self)
    have space : first ≠ ' ' := by
      rintro rfl
      exact absurd letter (by decide)
    simpa [String.toList_append, chars] using space
  · -- the words with an effect are reserved
    have other {w : String} (reserved : w ∈ reserved) : word.toList ≠ w.toList := by
      intro same
      rw [String.toList_inj.1 same] at free
      exact free reserved
    rw [whole, effectOf, if_neg (other (by decide)), if_neg (other (by decide)),
      if_neg (other (by decide)), if_neg (other (by decide)), if_neg (other (by decide))]

end Begins

/-- A line of a writer is indented by four spaces a level, and nothing else is in front of it. -/
theorem chars_of_begins {content : String} {e : Effect} (begins : Begins content e) (level : Nat) :
    Line.chars ⟨level, content⟩ = List.replicate (4 * level) ' ' ++ content.toList ∧
      dedented (Line.chars ⟨level, content⟩) = content.toList ∧
      (Line.chars ⟨level, content⟩).isEmpty = false := by
  have filled := begins.filled
  cases chars : content.toList with
  | nil =>
    rw [chars] at filled
    cases filled
  | cons c rest =>
    have space : c ≠ ' ' := by simpa [chars] using filled
    have nonempty : content.isEmpty = false := by
      rw [← Bool.not_eq_true, String.isEmpty_iff]
      rintro rfl
      cases chars
    have indented : Line.chars ⟨level, content⟩ = List.replicate (4 * level) ' ' ++ c :: rest := by
      simp [Line.chars, nonempty, chars]
    refine ⟨indented, ?_, ?_⟩
    · rw [indented, dedented, List.dropWhile_append_of_pos (by simp),
        List.dropWhile_cons_of_neg (by simpa using space)]
    · rw [indented]
      simp

/-- What a line of a writer does is told by its content, and its level by its indentation. -/
theorem passLine_chars {content : String} {e : Effect} (begins : Begins content e) (level : Nat)
    (blocks : List Block) :
    passLine blocks (Line.chars ⟨level, content⟩) = e.apply (4 * level) blocks := by
  obtain ⟨indented, margin, filled⟩ := chars_of_begins begins level
  rw [passLine, filled, margin, begins.word, indented]
  simp

end Dissect.Script.Lua

namespace Dissect.Script

open Layout (Declaration)
open Lua
open Schema
open Wire (Instruction Scalar allScalars allPlaceholders)

/-! ## Forms of lines -/

/-- The code is one literal. -/
def IsLiteral (code : String) : Prop := ∃ text, readLiteral? code = some (text, "")

/-- A number of bytes, or the variable for the length read last. -/
def IsAmount (code : String) : Prop := code = "sz" ∨ ∃ n : Nat, code = toString n

/-- A member of the table of field types. -/
def IsFieldType (code : String) : Prop := ∃ name, isName name = true ∧ code = "ftypes." ++ name

/-- The forms that lines of the block of a protocol may have, besides empty ones, and what they do
to the blocks around them. The variable of the protocol is `var`. -/
inductive LineForm (var : String) : Effect → String → Prop
  /-- Nothing behind the hyphens makes the comment go on behind the line. -/
  | comment {content : String} (hyphens : ['-', '-'] <+: content.toList)
      (short : content.toList[2]? ≠ some '[') (line : OneLine content)
      (carriage : '\r' ∉ content.toList) : LineForm var .stays content
  | proto {name title : String} (hname : IsLiteral name) (htitle : IsLiteral title) :
      LineForm var .stays s!"{var} = Proto({name}, {title})"
  | field {field label abbr type more : String} (hfield : isName field = true)
      (hlabel : IsLiteral label) (habbr : IsLiteral abbr) (htype : IsFieldType type)
      (hmore : more = "" ∨ more = ", \x7b[0x10001] = \"Ok\"\x7d, base.HEX") :
      LineForm var .stays (s!"{var}.fields.{field} = ProtoField.new({label}, "
        ++ s!"{abbr}, {type}{more})")
  | function {name : String} {parameters : List String} (hname : isName name = true)
      (hparameters : ∀ parameter ∈ parameters, isName parameter = true) :
      LineForm var (.opens .function)
        (s!"function {var}.{name}(" ++ ", ".intercalate parameters ++ ")")
  | table {name : String} (hname : IsLiteral name) (id : Nat) :
      LineForm var .stays s!"DissectorTable.get({name}):add({id}, {var})"
  | fetch {name field : String} (hname : isName name = true) (hfield : isName field = true) :
      LineForm var .stays s!"local {name} = {field}().value"
  | method (id : Nat) : LineForm var (.opens .condition) s!"if method_id == {id} then"
  | request : LineForm var (.opens .condition) "if is_request then"
  | response : LineForm var .turns "else"
  | subtree {title : String} (htitle : IsLiteral title) :
      LineForm var .stays s!"local subtree = tree:add({var}, buffer(), {title})"
  | offset : LineForm var .stays "local off = 0"
  | scratch : LineForm var .stays "local sz, cnt"
  | size (width : Nat) : LineForm var .stays s!"sz = buffer(off, {width}):le_uint()"
  | count (width : Nat) : LineForm var .stays s!"cnt = buffer(off, {width}):le_uint()"
  | advance {amount : String} (hamount : IsAmount amount) :
      LineForm var .stays s!"off = off + {amount}"
  | add {field amount encoding : String} (hfield : isName field = true) (hamount : IsAmount amount)
      (hencoding : encoding = numberEncoding ∨ encoding = textEncoding) :
      LineForm var .stays (s!"subtree:add_packet_field({var}.fields.{field}, "
        ++ s!"buffer(off, {amount}), {encoding})")
  | loop : LineForm var (.opens .loop) "for i=1,cnt do"
  | close : LineForm var .closes "end"

theorem isLiteral_literal (text : String) : IsLiteral (literal text) :=
  ⟨text, (readLiteral?_eq_some_iff _ _ _).2 (String.append_empty).symm⟩

/-- No line ends within a literal. -/
theorem oneLine_of_isLiteral {code : String} (h : IsLiteral code) : OneLine code := by
  obtain ⟨text, read⟩ := h
  rw [readLiteral?_eq_some_iff, String.append_empty] at read
  rw [read, OneLine, toList_literal]
  simp only [List.mem_cons, List.mem_append, List.mem_flatMap, not_or]
  refine ⟨by decide, ?_, by decide, List.not_mem_nil⟩
  rintro ⟨c, -, mem⟩
  rcases literalChar_cases c with ⟨e, written, stands⟩ | ⟨written, -, -, newline, -⟩
  · -- a line end is no escape
    rw [written] at mem
    rcases List.mem_cons.1 mem with first | mem
    · cases first
    · rw [← List.mem_singleton.1 mem] at stands
      cases stands
  · rw [written] at mem
    exact newline (List.mem_singleton.1 mem).symm

theorem oneLine_repr (n : Nat) : OneLine (Nat.repr n) := oneLine_number n

theorem oneLine_of_isAmount {code : String} (h : IsAmount code) : OneLine code := by
  rcases h with rfl | ⟨n, rfl⟩
  · decide
  · exact oneLine_number n

theorem isFieldType_fieldType (type : Scalar) : IsFieldType (fieldType type) := by
  have member : ∃ name ∈ ["BOOLEAN", "UINT8", "INT8", "UINT16", "INT16", "UINT32", "INT32",
      "UINT64", "INT64", "DOUBLE", "ABSOLUTE_TIME", "NONE", "STRINGZ"],
      isName name = true ∧ fieldType type = "ftypes." ++ name := by
    cases type <;> decide
  obtain ⟨name, -, named⟩ := member
  exact ⟨name, named⟩

theorem extraArguments_cases (type : Scalar) :
    extraArguments type = "" ∨
      extraArguments type = ", \x7b[0x10001] = \"Ok\"\x7d, base.HEX" := by
  cases type <;> decide

theorem isAmount_extent (extent : Extent) : IsAmount extent.text := by
  cases extent with
  | bytes n => exact .inr ⟨n, rfl⟩
  | size => exact .inl rfl

/-- A placeholder under an identifier is a comment: neither identifiers nor flattened reasons have
line ends of any kind. -/
theorem lineForm_placeholder (var : String) {ident : String} (hident : isIdentifier ident = true)
    (reason : String) :
    LineForm var .stays ("-- " ++ (ident ++ ": " ++ Text.oneLine reason)) := by
  have free (c : Char) (blank : Text.isBlank c = true) (letter : isNameChar c = false)
      (fixed : c ∉ "-- ".toList ++ ": ".toList) :
      c ∉ ("-- " ++ (ident ++ ": " ++ Text.oneLine reason)).toList := by
    intro mem
    simp only [String.toList_append, List.mem_append, not_or] at mem fixed
    rcases mem with mem | (mem | mem) | mem
    · exact fixed.1 mem
    · rw [nameChars_of_isIdentifier hident c mem] at letter
      cases letter
    · exact fixed.2 mem
    · rcases Text.not_isBlank_of_mem_oneLine mem with rfl | other
      · exact fixed.1 (by decide)
      · rw [other] at blank
        cases blank
  refine .comment ⟨' ' :: (ident ++ ": " ++ Text.oneLine reason).toList, by simp⟩ (by simp) ?_ ?_
  · exact free '\n' (by decide) (by decide) (by decide)
  · exact free '\r' (by decide) (by decide) (by decide)

/-- No line of a form ends within it. -/
theorem LineForm.oneLine {var : String} (hvar : isName var = true) {e : Effect} {content : String}
    (form : LineForm var e content) : OneLine content := by
  have var' := oneLine_name hvar
  -- what the schema has a part in is one line, and `decide` settles the code around it
  cases form with
  | comment _ _ line _ => exact line
  | proto hname htitle =>
    have name := oneLine_of_isLiteral hname
    have title := oneLine_of_isLiteral htitle
    simp only [toString, oneLine_append_iff, var', name, title, true_and, and_true]
    decide
  | @field _ _ _ _ more hfield hlabel habbr htype hmore =>
    obtain ⟨type, htype, rfl⟩ := htype
    have more : OneLine more := by
      rcases hmore with rfl | rfl
      · decide
      · decide
    simp only [toString, oneLine_append_iff, var', oneLine_name hfield, oneLine_name htype,
      oneLine_of_isLiteral hlabel, oneLine_of_isLiteral habbr, more, true_and, and_true]
    decide
  | function hname hparameters =>
    have inside := (oneLine_intercalate_iff (show OneLine ", " by decide)).2
      fun parameter mem => oneLine_name (hparameters parameter mem)
    simp only [toString, oneLine_append_iff, var', oneLine_name hname, inside, and_true]
    decide
  | table hname id =>
    simp only [toString, oneLine_append_iff, var', oneLine_of_isLiteral hname, oneLine_repr, and_true]
    decide
  | fetch hname hfield =>
    simp only [toString, oneLine_append_iff, oneLine_name hname, oneLine_name hfield, and_true]
    decide
  | method id =>
    simp only [toString, oneLine_append_iff, oneLine_repr, and_true]
    decide
  | request => decide
  | response => decide
  | subtree htitle =>
    simp only [toString, oneLine_append_iff, var', oneLine_of_isLiteral htitle, and_true]
    decide
  | offset => decide
  | scratch => decide
  | size width =>
    simp only [toString, oneLine_append_iff, oneLine_repr, and_true]
    decide
  | count width =>
    simp only [toString, oneLine_append_iff, oneLine_repr, and_true]
    decide
  | advance hamount =>
    simp only [toString, oneLine_append_iff, oneLine_of_isAmount hamount, and_true]
    decide
  | @add _ _ encoding hfield hamount hencoding =>
    have encoding : OneLine encoding := by
      rcases hencoding with rfl | rfl
      · decide
      · decide
    simp only [toString, oneLine_append_iff, var', oneLine_name hfield, oneLine_of_isAmount hamount,
      encoding, and_true]
    decide
  | loop => decide
  | close => decide

/-- What a line of a form does is told by its first word. -/
theorem LineForm.begins {var : String} (hvar : isName var = true) {e : Effect} {content : String}
    (form : LineForm var e content) : Begins content e := by
  cases form with
  | comment hyphens _ _ _ =>
    obtain ⟨rest, chars⟩ := hyphens
    have split : content = "--" ++ String.ofList rest := by
      rw [← String.toList_inj, ← chars]
      simp
    rw [split]
    exact Begins.append ⟨by decide, by decide⟩ (by decide) _
  | proto _ _ | field _ _ _ _ _ =>
    simp only [toString, String.append_assoc]
    exact Begins.name hvar (by simp [isNameChar])
  | request | response | offset | scratch | loop | close => exact ⟨by decide, by decide⟩
  | advance _ => exact Begins.append ⟨by decide, by decide⟩ (by decide) _
  | function _ _ | table _ _ | fetch _ _ | method _ | subtree _ | size _ | count _ | add _ _ _ =>
    -- the code in front of what the schema says goes on behind the first word
    simp only [toString, String.append_assoc]
    exact Begins.append ⟨by decide, by decide⟩ (by decide) _

/-! ## Lines in order -/

/-- A line that opens a block is indented like the lines around the block. -/
theorem LineForm.passLine_opens {var : String} (hvar : isName var = true) {b : Block}
    {first : String} (form : LineForm var (.opens b) first) (blocks : List Block) :
    passLine blocks (Line.chars ⟨blocks.length, first⟩) = some (b :: blocks) := by
  rw [passLine_chars (form.begins hvar)]
  simp [Effect.apply]

/-- So is the line that closes it. -/
theorem passLine_end (b : Block) (blocks : List Block) :
    passLine (b :: blocks) (Line.chars ⟨blocks.length, "end"⟩) = some blocks := by
  have closes : Begins "end" .closes := ⟨by decide, by decide⟩
  rw [passLine_chars closes]
  simp [Effect.apply]

/-- Every line is empty or has a form, and where so many blocks are open, the lines are indented
accordingly and leave just these open. -/
structure TidyLines (var : String) (depth : Nat) (ls : List Line) : Prop where
  forms : ∀ l ∈ ls, l.content = "" ∨ ∃ e, LineForm var e l.content
  nested : ∀ blocks : List Block, blocks.length = depth →
    (ls.map Line.chars).foldlM passLine blocks = some blocks

namespace TidyLines

variable {var : String} {depth : Nat}

theorem nil : TidyLines var depth [] := ⟨List.forall_mem_nil _, fun _ _ => rfl⟩

theorem append {a b : List Line} (first : TidyLines var depth a) (second : TidyLines var depth b) :
    TidyLines var depth (a ++ b) where
  forms := List.forall_mem_append.2 ⟨first.forms, second.forms⟩
  nested := by
    intro blocks deep
    rw [List.map_append, List.foldlM_append, first.nested blocks deep]
    exact second.nested blocks deep

theorem empty : TidyLines var depth [⟨depth, ""⟩] :=
  ⟨List.forall_mem_singleton.2 (.inl rfl), fun _ _ => rfl⟩

theorem line (hvar : isName var = true) {content : String} (form : LineForm var .stays content) :
    TidyLines var depth [⟨depth, content⟩] where
  forms := List.forall_mem_singleton.2 (.inr ⟨_, form⟩)
  nested := by
    rintro blocks rfl
    rw [List.map_singleton, List.foldlM_cons, passLine_chars (form.begins hvar)]
    simp [Effect.apply]

/-- A block around lines one level further in. -/
theorem block (hvar : isName var = true) {b : Block} {first : String}
    (form : LineForm var (.opens b) first) {ls : List Line}
    (inside : TidyLines var (depth + 1) ls) :
    TidyLines var depth (⟨depth, first⟩ :: ls ++ [⟨depth, "end"⟩]) where
  forms := by
    refine List.forall_mem_append.2 ⟨List.forall_mem_cons.2 ⟨.inr ⟨_, form⟩, inside.forms⟩, ?_⟩
    exact List.forall_mem_singleton.2 (.inr ⟨_, .close⟩)
  nested := by
    rintro blocks rfl
    have opened := form.passLine_opens hvar blocks
    have passed := inside.nested (b :: blocks) rfl
    simp [opened, passed, passLine_end]

/-- A condition with an alternative. -/
theorem choice (hvar : isName var = true) {a b : List Line} (request : TidyLines var (depth + 1) a)
    (response : TidyLines var (depth + 1) b) :
    TidyLines var depth (⟨depth, "if is_request then"⟩ :: a
      ++ (⟨depth, "else"⟩ :: b ++ [⟨depth, "end"⟩])) where
  forms := by
    refine List.forall_mem_append.2 ⟨?_, List.forall_mem_append.2 ⟨?_, ?_⟩⟩
    · exact List.forall_mem_cons.2 ⟨.inr ⟨_, .request⟩, request.forms⟩
    · exact List.forall_mem_cons.2 ⟨.inr ⟨_, .response⟩, response.forms⟩
    · exact List.forall_mem_singleton.2 (.inr ⟨_, .close⟩)
  nested := by
    rintro blocks rfl
    have opened := LineForm.request.passLine_opens hvar blocks
    have turned : passLine (.condition :: blocks) (Line.chars ⟨blocks.length, "else"⟩) =
        some (.alternative :: blocks) := by
      rw [passLine_chars (LineForm.response.begins hvar)]
      simp [Effect.apply]
    have passed := request.nested (.condition :: blocks) rfl
    have passed' := response.nested (.alternative :: blocks) rfl
    simp [opened, passed, turned, passed', passLine_end]

/-- The text of tidy lines at the left margin has just these lines. -/
theorem lines_eq (hvar : isName var = true) {ls : List Line} (tidy : TidyLines var depth ls) :
    Lua.lines (textOf ls).toList = ls.map Line.chars ++ [[]] := by
  apply lines_textOf
  intro l mem
  rcases tidy.forms l mem with empty | ⟨e, form⟩
  · rw [empty]
    decide
  · exact form.oneLine hvar

theorem forms_chars (hvar : isName var = true) {ls : List Line} (tidy : TidyLines var depth ls) :
    ∀ line ∈ ls.map Line.chars,
      line = [] ∨ ∃ e content, LineForm var e content ∧ dedented line = content.toList := by
  intro line mem
  obtain ⟨l, inside, rfl⟩ := List.mem_map.1 mem
  rcases tidy.forms l inside with empty | ⟨e, form⟩
  · exact .inl (by simp [Line.chars, empty])
  · exact .inr ⟨e, l.content, form, (chars_of_begins (form.begins hvar) l.level).2.1⟩

end TidyLines

/-! ## Statements -/

/-- The lines of the statements are tidy at every level. -/
def Tidy (var : String) (ss : List Statement) : Prop :=
  ∀ depth, TidyLines var depth (linesOf ss depth)

namespace Tidy

variable {var : String}

theorem nil : Tidy var [] := fun _ => .nil

theorem append {a b : List Statement} (first : Tidy var a) (second : Tidy var b) :
    Tidy var (a ++ b) := by
  intro depth
  rw [linesOf_append]
  exact (first depth).append (second depth)

theorem cons {s : Statement} {rest : List Statement} (first : Tidy var [s])
    (second : Tidy var rest) : Tidy var (s :: rest) :=
  first.append second

theorem all {ss : List Statement} (each : ∀ s ∈ ss, Tidy var [s]) : Tidy var ss := by
  induction ss with
  | nil => exact nil
  | cons s rest ih =>
    obtain ⟨first, others⟩ := List.forall_mem_cons.1 each
    exact first.cons (ih others)

/-- A statement that is written as one line. -/
theorem line (hvar : isName var = true) {s : Statement} {content : String}
    (written : ∀ depth, s.lines depth = [⟨depth, content⟩]) (form : LineForm var .stays content) :
    Tidy var [s] := by
  intro depth
  rw [linesOf_singleton, written]
  exact .line hvar form

theorem blank : Tidy var [.blank] := fun _ => .empty

variable (hvar : isName var = true)
include hvar

theorem function {name : String} {parameters : List String} (hname : isName name = true)
    (hparameters : ∀ parameter ∈ parameters, isName parameter = true) {body : List Statement}
    (inside : Tidy var body) : Tidy var [.defineFunction var name parameters body] := by
  intro depth
  rw [linesOf_singleton, lines_defineFunction]
  exact .block hvar (.function hname hparameters) (inside (depth + 1))

theorem onMethod (id : Nat) {body : List Statement} (inside : Tidy var body) :
    Tidy var [.onMethod id body] := by
  intro depth
  rw [linesOf_singleton, lines_onMethod]
  exact .block hvar (.method id) (inside (depth + 1))

theorem forCount {body : List Statement} (inside : Tidy var body) :
    Tidy var [.forCount body] := by
  intro depth
  rw [linesOf_singleton, lines_forCount]
  exact .block hvar .loop (inside (depth + 1))

theorem onRequest {request response : List Statement} (first : Tidy var request)
    (second : Tidy var response) : Tidy var [.onRequest request response] := by
  intro depth
  rw [linesOf_singleton, lines_onRequest]
  exact .choice hvar (first (depth + 1)) (second (depth + 1))

theorem advance (extent : Extent) : Tidy var [.advance extent] :=
  line hvar (fun _ => rfl) (.advance (isAmount_extent extent))

theorem addField {field encoding : String} (extent : Extent) (hfield : isName field = true)
    (hencoding : encoding = numberEncoding ∨ encoding = textEncoding) :
    Tidy var [.addField var field extent encoding] :=
  line hvar (fun _ => rfl) (.add hfield (isAmount_extent extent) hencoding)

theorem placeholder {ident : String} (hident : isIdentifier ident = true) (reason : String) :
    Tidy var [placeholder ident reason] :=
  line hvar (fun _ => rfl) (lineForm_placeholder var hident reason)

theorem declareField {d : Declaration} (hfield : isName d.ident.name = true) :
    Tidy var [.declareField var d] :=
  line hvar (fun _ => rfl) (.field hfield (isLiteral_literal _) (isLiteral_literal _)
    (isFieldType_fieldType d.type) (extraArguments_cases d.type))

end Tidy

/-! ## Decoding -/

section Decoding

variable {var : String} (hvar : isName var = true)
include hvar

theorem tidy_scalar {field : String} (hfield : isName field = true) (type : Scalar) :
    Tidy var (scalarStatements var field type) := by
  unfold scalarStatements
  split
  · exact .nil
  · next encoding found =>
    have known := encoding?_cases found
    split
    · exact .nil
    · exact (Tidy.addField hvar _ hfield known).cons (.advance hvar _)
    · have size : Tidy var [.readSize] := .line hvar (fun _ => rfl) (.size _)
      exact size.cons ((Tidy.advance hvar _).cons ((Tidy.addField hvar _ hfield known).cons
        (.advance hvar _)))

omit hvar

mutual

/-- The statements of an instruction are tidy if its fields have names. -/
theorem tidy_instruction (hvar : isName var = true) : ∀ i : Instruction,
    (∀ s ∈ i.scalars, isName s.1 = true) → (∀ u ∈ i.placeholders, isIdentifier u.1 = true) →
      Tidy var (instructionStatements var i)
  | .scalar field type, scalars, _ =>
    tidy_scalar hvar (scalars (field, type) (by simp [Instruction.scalars])) type
  | .counted body, scalars, placeholders => by
    have count : Tidy var [.readCount] := .line hvar (fun _ => rfl) (.count _)
    exact count.cons ((Tidy.advance hvar _).cons
      (.forCount hvar (tidy_decode hvar body scalars placeholders)))
  | .unresolved field reason, _, placeholders =>
    Tidy.placeholder hvar (placeholders (field, reason) (by simp [Instruction.placeholders])) reason

theorem tidy_decode (hvar : isName var = true) : ∀ is : List Instruction,
    (∀ s ∈ allScalars is, isName s.1 = true) → (∀ u ∈ allPlaceholders is, isIdentifier u.1 = true) →
      Tidy var (decodeStatements var is)
  | [], _, _ => .nil
  | i :: rest, scalars, placeholders => by
    rw [allScalars] at scalars
    rw [allPlaceholders] at placeholders
    obtain ⟨first, others⟩ := List.forall_mem_append.1 scalars
    obtain ⟨first', others'⟩ := List.forall_mem_append.1 placeholders
    exact (tidy_instruction hvar i first first').append (tidy_decode hvar rest others others')

end

theorem tidy_branch (hvar : isName var = true) (title : String) {is : List Instruction}
    (scalars : ∀ s ∈ allScalars is, isName s.1 = true)
    (placeholders : ∀ u ∈ allPlaceholders is, isIdentifier u.1 = true) :
    Tidy var (branch var title is) := by
  have subtree : Tidy var [.beginSubtree var title] :=
    .line hvar (fun _ => rfl) (.subtree (isLiteral_literal title))
  have offset : Tidy var [.beginOffset] := .line hvar (fun _ => rfl) .offset
  have scratch : Tidy var [.beginScratch] := .line hvar (fun _ => rfl) .scratch
  refine ((subtree.cons offset).append ?_).append (tidy_decode hvar is scalars placeholders)
  split
  · exact scratch
  · exact .nil

end Decoding

/-! ## Blocks of protocols -/

section Blocks

variable {r : Registry} {n : Namespace} {p : Protocol} (named : WellNamed r)
  (space : n ∈ r.namespaces) (mem : p ∈ n.protocols)
include named space mem

theorem isName_blockVar : isName (protoVar n.name p.name) = true :=
  isName_protoVar (named.spaces n space) (named.protocols n space p mem)

theorem tidy_method {view : Nat} {m : MethodLayouts}
    (known : m ∈ (ProtocolLayout.build r view p).methods) :
    Tidy (protoVar n.name p.name) [methodStatements (protoVar n.name p.name) p.name m] := by
  have hvar := isName_blockVar named space mem
  -- what a message reads is declared in its layout, and what it lacks is diagnosed there
  have message (dir : Direction) : Tidy (protoVar n.name p.name)
      (branch (protoVar n.name p.name) s!"{p.name}.{m.method.name}"
        (m.message dir).instructions) := by
    have laid := message_mem_layouts known dir
    have inStep := build_inStep known dir
    refine tidy_branch hvar _ ?_ ?_
    · rw [inStep.scalars]
      intro s read
      obtain ⟨d, declared, rfl⟩ := List.mem_map.1 read
      exact named.isName_declaration space mem laid (List.mem_of_mem_filter declared)
    · rw [inStep.placeholders]
      intro u lacking
      obtain ⟨d, found, rfl⟩ := List.mem_map.1 lacking
      exact named.isIdentifier_diagnostic space mem laid found
  exact .onMethod hvar _ (.onRequest hvar (message .request) (message .response))

theorem tidy_dissector (view : Nat) :
    Tidy (protoVar n.name p.name) [dissector n.name p (ProtocolLayout.build r view p)] := by
  have hvar := isName_blockVar named space mem
  have fetch {name field : String} (hname : isName name = true) (hfield : isName field = true) :
      Tidy (protoVar n.name p.name) [.fetchValue name field] :=
    .line hvar (fun _ => rfl) (.fetch hname hfield)
  have methods : Tidy (protoVar n.name p.name) ((ProtocolLayout.build r view p).methods.map
      (methodStatements (protoVar n.name p.name) p.name)) := by
    apply Tidy.all
    intro s inside
    obtain ⟨m, known, rfl⟩ := List.mem_map.1 inside
    exact tidy_method named space mem known
  refine .function hvar (by decide) ?_ (((fetch ?_ ?_).cons (fetch ?_ ?_)).append methods)
  · simp only [List.forall_mem_cons]
    exact ⟨by decide, by decide, by decide, List.forall_mem_nil _⟩
  all_goals decide

theorem tidy_entry {view : Nat} {e : Entry}
    (written : e ∈ (ProtocolLayout.build r view p).written) :
    Tidy (protoVar n.name p.name) [e.statement (protoVar n.name p.name)] := by
  have hvar := isName_blockVar named space mem
  obtain ⟨l, laid, entry⟩ := ProtocolLayout.exists_layout_of_mem_written written
  cases e with
  | declare d =>
    exact .declareField hvar
      (named.isName_declaration space mem laid (declare_mem_entries_iff.1 entry))
  | comment d =>
    exact .placeholder hvar
      (named.isIdentifier_diagnostic space mem laid (comment_mem_entries_iff.1 entry)) _

theorem tidy_blockHead (view : Nat) (table : String) (id : UInt16) :
    Tidy (protoVar n.name p.name)
      (blockHead n.name table p id (ProtocolLayout.build r view p)) := by
  have hvar := isName_blockVar named space mem
  have proto : Tidy (protoVar n.name p.name) [.createProto (protoVar n.name p.name) p.name] :=
    .line hvar (fun _ => rfl) (.proto (isLiteral_literal _) (isLiteral_literal _))
  have entries : Tidy (protoVar n.name p.name) ((ProtocolLayout.build r view p).written.map
      (Entry.statement (protoVar n.name p.name))) := by
    apply Tidy.all
    intro s inside
    obtain ⟨e, written, rfl⟩ := List.mem_map.1 inside
    exact tidy_entry named space mem written
  have register : Tidy (protoVar n.name p.name)
      [.register table id.toNat (protoVar n.name p.name)] :=
    .line hvar (fun _ => rfl) (.table (isLiteral_literal table) _)
  have init : Tidy (protoVar n.name p.name) [.defineFunction (protoVar n.name p.name) "init" []
      [.register table id.toNat (protoVar n.name p.name)]] :=
    .function hvar (by decide) (List.forall_mem_nil _) register
  have param {name type : String} (comment : LineForm (protoVar n.name p.name) .stays
      s!"--- @param {name} {type}") : Tidy (protoVar n.name p.name) [.paramType name type] :=
    .line hvar (fun _ => rfl) comment
  refine (proto.append entries).append (Tidy.blank.cons (init.cons (Tidy.blank.cons ?_)))
  refine (param ?_).cons ((param ?_).cons (param ?_))
  all_goals exact .comment (by decide) (by decide) (by decide) (by decide)

end Blocks

/-- The block of a protocol is well-formed Lua wherever namespaces, protocols, classes, methods and
fields have identifiers as names, whatever their types, their bases and the table are called. What a
writer at the left margin gets is complete lines, each of them empty or of one of the forms, a
comment included; all blocks are properly nested, with four spaces in front of a line for each block
around it; and the variable of the protocol is a name, as are the fields in the forms. -/
theorem protocolBlock_wellFormed {r : Registry} (named : WellNamed r) {n : Namespace}
    (space : n ∈ r.namespaces) {p : Protocol} (mem : p ∈ n.protocols) (view : Nat) (table : String)
    (id : UInt16) {w : Writer} (margin : w.level = 0) :
    ∃ added ls,
      (writeAll (protocolBlock n.name table p id (ProtocolLayout.build r view p)) w).text =
        w.text ++ added ∧
      Lua.lines added.toList = ls ++ [[]] ∧
      (∀ line ∈ ls, line = [] ∨ ∃ e content,
        LineForm (protoVar n.name p.name) e content ∧ dedented line = content.toList) ∧
      WellNested ls ∧ isName (protoVar n.name p.name) = true := by
  have hvar := isName_blockVar named space mem
  have tidy := (tidy_blockHead named space mem view table id).append
    (tidy_dissector named space mem view)
  rw [← protocolBlock_eq_append] at tidy
  have lines := tidy w.level
  refine ⟨_, _, text_writeAll _ w, lines.lines_eq hvar, lines.forms_chars hvar, ?_, hvar⟩
  exact lines.nested [] margin.symm

namespace Reserved

/-- A class with reserved words as names, and with a field of a type that is not there. -/
def loop : ClassDecl where
  name := "for"
  base := some "No Base"
  fields := [⟨"end", .template "qlist" [.template "std_map" [.scalar "string", .scalar "qresult"]]⟩,
    ⟨"nil", .template "sequence\nend" [.scalar "uint8"]⟩]

/-- A protocol whose messages use the class. -/
def control : Protocol where
  id := some 7
  name := "function"
  methods := [⟨1, "if", [⟨"then", .classRef "for"⟩], [⟨"else", .scalar "un known"⟩]⟩]

def language : Namespace := ⟨"and", [loop], [control]⟩

/-- Schemas may have reserved words as names, types that nothing is known of, and any table. -/
theorem control_wellFormed :
    WellNamed ⟨[language]⟩ ∧
    ∃ added ls,
      (writeAll (protocolBlock "and" "a \"table\"\nend" control 7
        (ProtocolLayout.build ⟨[language]⟩ 0 control)) .empty).text = Writer.empty.text ++ added ∧
      Lua.lines added.toList = ls ++ [[]] ∧
      (∀ line ∈ ls, line = [] ∨ ∃ e content,
        LineForm "and_function" e content ∧ dedented line = content.toList) ∧
      WellNested ls ∧ isName "and_function" = true := by
  have named : WellNamed ⟨[language]⟩ := by decide
  refine ⟨named, ?_⟩
  exact protocolBlock_wellFormed named (n := language) List.mem_cons_self (p := control)
    List.mem_cons_self 0 "a \"table\"\nend" 7 rfl

end Reserved

end Dissect.Script
