import Dissect.Document.Conversion
import Dissect.Proofs.Script.Lines
import Dissect.Proofs.Script.Names
import Dissect.Proofs.Script.Placeholders

/-!
# Names of the schema in comments

A comment ends with its line, so that a name with a line end in it puts what stands behind the line
end into the script. Reasons are flattened before they are written (`oneLine_flattened`). Names are
not: snake case keeps line ends (`oneLine_snakeCase_iff`), and the comments on a protocol without an
id have names as they are. A comment stays one line exactly if no name in it has a line end
(`commented_iff_oneLine_names`), and there are documents with names that have one
(`Leak.not_commented`).
-/

set_option autoImplicit false

namespace Dissect.Schema.TypeExpr

mutual

/-- All names in a type: of scalars, classes and templates. -/
def names : TypeExpr → List String
  | .scalar name => [name]
  | .classRef name => [name]
  | .template name parameters => name :: namesAll parameters

/-- All names in types. -/
def namesAll : List TypeExpr → List String
  | [] => []
  | t :: rest => t.names ++ namesAll rest

end

end Dissect.Schema.TypeExpr

namespace Dissect.Script

open Layout (Place)
open Schema
open Text (snakeCase)

/-! ## Texts on one line -/

theorem oneLine_append_iff {a b : String} : OneLine (a ++ b) ↔ OneLine a ∧ OneLine b := by
  simp [OneLine, not_or]

theorem oneLine_intercalate_iff {mark : String} (plain : OneLine mark) {parts : List String} :
    OneLine (mark.intercalate parts) ↔ ∀ part ∈ parts, OneLine part := by
  constructor
  · intro joined part inside mem
    exact joined (Text.mem_intercalate_of_mem inside mem)
  · intro all mem
    rcases Text.mem_intercalate_cases mem with mem | ⟨part, inside, mem⟩
    · exact plain mem
    · exact all part inside mem

/-- Flattened texts have no line ends. -/
theorem oneLine_flattened (reason : String) : OneLine (Text.oneLine reason) := by
  intro mem
  rcases Text.not_isBlank_of_mem_oneLine mem with space | blank
  · exact absurd space (by decide)
  · exact absurd blank (by decide)

/-- Snake case keeps line ends and brings none in. -/
theorem oneLine_snakeCase_iff (name : String) : OneLine (snakeCase name) ↔ OneLine name := by
  apply not_congr
  exact Text.mem_snakeCase_iff (by decide) (by decide) (by decide) (by decide) (by decide) name

theorem oneLine_suffix (k : Nat) : OneLine (Layout.suffix k) := by
  cases k with
  | zero => decide
  | succ k => exact OneLine.append (by decide) (oneLine_number _)

mutual

/-- The text of a type is one line if its names are. -/
theorem oneLine_typeText_iff : ∀ t : TypeExpr, OneLine t.text ↔ ∀ name ∈ t.names, OneLine name
  | .scalar name => by simp [TypeExpr.text, TypeExpr.names]
  | .classRef name => by simp [TypeExpr.text, TypeExpr.names]
  | .template name parameters => by
    have opening : OneLine "<" := by decide
    have closing : OneLine ">" := by decide
    have inside := oneLine_typeTexts_iff parameters
    rw [← oneLine_intercalate_iff (show OneLine ", " by decide)] at inside
    simp [TypeExpr.text, TypeExpr.names, oneLine_append_iff, opening, closing, inside]

theorem oneLine_typeTexts_iff : ∀ ts : List TypeExpr,
    (∀ text ∈ TypeExpr.texts ts, OneLine text) ↔ ∀ name ∈ TypeExpr.namesAll ts, OneLine name
  | [] => by simp [TypeExpr.texts, TypeExpr.namesAll]
  | t :: rest => by
    rw [TypeExpr.texts, TypeExpr.namesAll, List.forall_mem_cons, List.forall_mem_append,
      oneLine_typeText_iff t, oneLine_typeTexts_iff rest]

end

/-! ## Lines of comments -/

/-- A text has one line more than it has line ends. -/
theorem length_lines (cs : List Char) : (Lua.lines cs).length = cs.count '\n' + 1 := by
  induction cs with
  | nil => rfl
  | cons c rest ih =>
    rw [Lua.lines, List.count_cons]
    by_cases newline : c = '\n'
    · simp [newline, ih]
    · rw [if_neg newline]
      cases others : Lua.lines rest with
      | nil => simp [others] at ih
      | cons line others' => simpa [others, newline] using ih

theorem count_lineText (l : Line) :
    l.text.toList.count '\n' = l.content.toList.count '\n' + 1 := by
  unfold Line.text
  split
  · next empty =>
    rw [String.isEmpty_iff.1 empty]
    rfl
  · simp [List.count_replicate]

/-- Every line brings its own line end, besides those in its content. -/
theorem count_textOf (ls : List Line) :
    (textOf ls).toList.count '\n' =
      (ls.flatMap fun l => l.content.toList).count '\n' + ls.length := by
  induction ls with
  | nil => rfl
  | cons l rest ih =>
    rw [textOf_cons, String.toList_append, List.count_append, ih, count_lineText, List.flatMap_cons,
      List.count_append, List.length_cons]
    omega

/-- The text is made of as many complete lines, each a comment at the level. -/
def Commented (level count : Nat) (text : String) : Prop :=
  ∃ ls, Lua.lines text.toList = ls ++ [[]] ∧ ls.length = count ∧
    ∀ line ∈ ls, List.replicate (4 * level) ' ' ++ ['-', '-'] <+: line

/-- The line of a comment. -/
def commentLine (level : Nat) (text : String) : Line := ⟨level, s!"-- {text}"⟩

theorem linesOf_comments (texts : List String) (level : Nat) :
    linesOf (texts.map .comment) level = texts.map (commentLine level) := by
  induction texts with
  | nil => rfl
  | cons text rest ih =>
    rw [List.map_cons, linesOf_cons, ih]
    rfl

theorem commentLine_prefix (level : Nat) (text : String) :
    List.replicate (4 * level) ' ' ++ ['-', '-'] <+: (commentLine level text).chars := by
  have content : (commentLine level text).content.toList = '-' :: '-' :: ' ' :: text.toList := by
    show ("-- " ++ text).toList = _
    simp
  have filled : (commentLine level text).content.isEmpty = false := by
    rw [← Bool.not_eq_true, String.isEmpty_iff]
    intro empty
    rw [empty] at content
    cases content
  rw [Line.chars, filled, content]
  exact ⟨' ' :: text.toList, by simp [commentLine]⟩

/-- Comments are written as one line each exactly if none of them has a line end. -/
theorem commented_comments_iff (texts : List String) (level : Nat) :
    Commented level texts.length (textOf (linesOf (texts.map .comment) level)) ↔
      ∀ text ∈ texts, OneLine text := by
  rw [linesOf_comments]
  constructor
  · rintro ⟨ls, cut, count, -⟩
    -- a line end in a comment would make one line too many
    have ends := length_lines (textOf (texts.map (commentLine level))).toList
    rw [cut, count_textOf, List.length_append, count, List.length_map,
      List.length_singleton] at ends
    have unbroken : ((texts.map (commentLine level)).flatMap fun l => l.content.toList).count '\n' =
        0 := by
      omega
    intro text mem newline
    refine List.count_eq_zero.1 unbroken ?_
    refine List.mem_flatMap.2 ⟨commentLine level text, List.mem_map_of_mem mem, ?_⟩
    show '\n' ∈ ("-- " ++ text).toList
    rw [String.toList_append]
    exact List.mem_append_right _ newline
  · intro plain
    have oneLine : ∀ l ∈ texts.map (commentLine level), OneLine l.content := by
      intro l mem
      obtain ⟨text, inside, rfl⟩ := List.mem_map.1 mem
      exact OneLine.append (by decide) (plain text inside)
    refine ⟨_, lines_textOf oneLine, by simp, ?_⟩
    intro line mem
    obtain ⟨l, inside, rfl⟩ := List.mem_map.1 mem
    obtain ⟨text, -, rfl⟩ := List.mem_map.1 inside
    exact commentLine_prefix level text

/-! ## Protocols without an id -/

/-- What the comments on the fields of a message say. -/
def fieldTexts (direction : String) (fields : List Field) : List String :=
  fields.map fun f => s!"    {direction} {f.name}: {f.type.text}"

/-- What the comments on a method say. -/
def methodTexts (m : Method) : List String :=
  s!"  {m.id} {m.name}" :: fieldTexts "request" m.parameters ++ fieldTexts "response" m.returns

/-- What the comments on a protocol without an id say. -/
def stubTexts (space : String) (p : Protocol) : List String :=
  s!"{space}::{p.name} has no protocol id; not registered" :: p.methods.flatMap methodTexts

/-- One comment for the protocol, one for each method and one for each field. -/
def stubLength (p : Protocol) : Nat :=
  1 + p.methods.length + (p.methods.flatMap fun m => m.parameters ++ m.returns).length

theorem stubMethod_eq_map (m : Method) : stubMethod m = (methodTexts m).map .comment := by
  simp [stubMethod, stubFields, methodTexts, fieldTexts, Function.comp_def]

theorem stub_eq_map (space : String) (p : Protocol) :
    stub space p = (stubTexts space p).map .comment := by
  rw [stub, stubTexts, List.map_cons, List.map_flatMap]
  congr 2
  funext m
  exact stubMethod_eq_map m

theorem length_stubTexts (space : String) (p : Protocol) :
    (stubTexts space p).length = stubLength p := by
  have methods (ms : List Method) : (ms.flatMap methodTexts).length =
      ms.length + (ms.flatMap fun m => m.parameters ++ m.returns).length := by
    induction ms with
    | nil => rfl
    | cons m rest ih =>
      simp only [List.flatMap_cons, List.length_append, List.length_cons, ih, methodTexts,
        fieldTexts, List.length_map, List.cons_append]
      omega
  rw [stubTexts, stubLength, List.length_cons, methods]
  omega

theorem oneLine_fieldTexts_iff {direction : String} (plain : OneLine direction)
    (fields : List Field) :
    (∀ text ∈ fieldTexts direction fields, OneLine text) ↔
      ∀ f ∈ fields, OneLine f.name ∧ ∀ name ∈ f.type.names, OneLine name := by
  have margin : OneLine "    " := by decide
  have gap : OneLine " " := by decide
  have colon : OneLine ": " := by decide
  simp [fieldTexts, toString, oneLine_append_iff, oneLine_typeText_iff, plain, margin, gap, colon]

theorem oneLine_methodTexts_iff (m : Method) :
    (∀ text ∈ methodTexts m, OneLine text) ↔ OneLine m.name ∧
      ∀ f ∈ m.parameters ++ m.returns, OneLine f.name ∧ ∀ name ∈ f.type.names, OneLine name := by
  have title : OneLine s!"  {m.id} {m.name}" ↔ OneLine m.name := by
    show OneLine ("  " ++ toString m.id ++ " " ++ m.name) ↔ OneLine m.name
    rw [oneLine_append_iff, and_iff_right]
    exact (OneLine.append (by decide) (oneLine_number m.id)).append (by decide)
  rw [methodTexts, List.forall_mem_append, List.forall_mem_cons, title,
    oneLine_fieldTexts_iff (by decide), oneLine_fieldTexts_iff (by decide), List.forall_mem_append,
    and_assoc]

theorem oneLine_stubTexts_iff (space : String) (p : Protocol) :
    (∀ text ∈ stubTexts space p, OneLine text) ↔
      OneLine space ∧ OneLine p.name ∧ ∀ m ∈ p.methods, OneLine m.name ∧
        ∀ f ∈ m.parameters ++ m.returns, OneLine f.name ∧ ∀ name ∈ f.type.names, OneLine name := by
  have title : OneLine s!"{space}::{p.name} has no protocol id; not registered" ↔
      OneLine space ∧ OneLine p.name := by
    have colons : OneLine "::" := by decide
    have note : OneLine " has no protocol id; not registered" := by decide
    simp [toString, oneLine_append_iff, colons, note]
  rw [stubTexts, List.forall_mem_cons, title, List.forall_mem_flatMap, and_assoc]
  simp only [oneLine_methodTexts_iff]

/-- The comments on a protocol without an id are one line each exactly if its names have no line
ends. -/
theorem commented_stub_iff (space : String) (p : Protocol) (level : Nat) :
    Commented level (stubLength p) (textOf (linesOf (stub space p) level)) ↔
      OneLine space ∧ OneLine p.name ∧ ∀ m ∈ p.methods, OneLine m.name ∧
        ∀ f ∈ m.parameters ++ m.returns, OneLine f.name ∧ ∀ name ∈ f.type.names, OneLine name := by
  rw [stub_eq_map, ← length_stubTexts space p, commented_comments_iff]
  exact oneLine_stubTexts_iff space p

/-! ## Placeholders -/

/-- A heading is one line exactly if the names in it are. -/
theorem Heading.oneLine_iff {r : Registry} {p : Protocol} {ident : String} {names : List String}
    (heading : Heading r p ident names) : OneLine ident ↔ ∀ name ∈ names, OneLine name := by
  cases heading with
  | @field place name inner path declared parts k =>
    -- what tells keys from values and the suffix are the same in every schema
    have inside : ∀ part ∈ inner, OneLine part := by
      intro part mem
      rcases parts part mem with rfl | rfl
      · decide
      · decide
    show OneLine ("_".intercalate ((place.scope.name :: place.path).map snakeCase)
      ++ Layout.suffix k) ↔ _
    rw [path, oneLine_append_iff, and_iff_left (oneLine_suffix k),
      oneLine_intercalate_iff (by decide), List.forall_mem_map]
    simp only [oneLine_snakeCase_iff, List.forall_mem_cons]
    rw [and_iff_left inside, and_iff_left (List.forall_mem_nil _)]
  | ofClass declared => simp

theorem commented_placeholder_iff (ident reason : String) (level : Nat) :
    Commented level 1 (textOf ((placeholder ident reason).lines level)) ↔ OneLine ident := by
  have single := commented_comments_iff [s!"{ident}: {Text.oneLine reason}"] level
  rw [List.map_singleton, linesOf_singleton] at single
  refine single.trans ?_
  rw [List.forall_mem_singleton]
  show OneLine (ident ++ ": " ++ Text.oneLine reason) ↔ OneLine ident
  rw [oneLine_append_iff, and_iff_left (oneLine_flattened reason), oneLine_append_iff, and_iff_left]
  decide

/-- The comments in the block of a protocol are the placeholders of its diagnostics. -/
theorem exists_diagnostic_of_comment {r : Registry} {view : Nat} {p : Protocol}
    {space table : String} {id : UInt16} {s : Statement}
    (mem : s ∈ commentsIn (protocolBlock space table p id (ProtocolLayout.build r view p))) :
    ∃ l ∈ (ProtocolLayout.build r view p).layouts, ∃ d ∈ l.diagnostics,
      s = placeholder d.ident d.error.message := by
  rw [commentsIn_protocolBlock] at mem
  -- a placeholder stands among the declarations, or where a message is decoded
  rcases List.mem_append.1 mem with mem | mem
  · obtain ⟨d, written, rfl⟩ := mem_commentsIn_entries_iff.1 mem
    obtain ⟨l, laid, entry⟩ := ProtocolLayout.exists_layout_of_mem_written written
    exact ⟨l, laid, d, comment_mem_entries_iff.1 entry, rfl⟩
  · obtain ⟨m, known, mem⟩ := List.mem_flatMap.1 mem
    have message (dir : Direction)
        (inside : s ∈ placeholderComments (Wire.allPlaceholders (m.message dir).instructions)) :
        ∃ l ∈ (ProtocolLayout.build r view p).layouts, ∃ d ∈ l.diagnostics,
          s = placeholder d.ident d.error.message := by
      rw [(build_inStep known dir).placeholders, placeholderComments, List.map_map] at inside
      obtain ⟨d, found, rfl⟩ := List.mem_map.1 inside
      exact ⟨_, message_mem_layouts known dir, d, found, rfl⟩
    rw [MethodLayouts.comments, placeholderComments, List.map_append] at mem
    rcases List.mem_append.1 mem with mem | mem
    · exact message .request mem
    · exact message .response mem

/-- What a writer gets for a protocol without an id is one comment line for the protocol, one for
each method and one for each field exactly if no namespace, protocol, method, field or type name in
it has a line end. Every comment in the block of a protocol is a placeholder, and it is one comment
line exactly if the names that it stands under have no line end: those of a field and of its method
or class, or that of a class. -/
theorem commented_iff_oneLine_names (r : Registry) (view : Nat) (p : Protocol)
    (space table : String) (id : UInt16) (w : Writer) :
    (∃ added, (writeAll (stub space p) w).text = w.text ++ added ∧
      (Commented w.level (stubLength p) added ↔
        OneLine space ∧ OneLine p.name ∧ ∀ m ∈ p.methods, OneLine m.name ∧
          ∀ f ∈ m.parameters ++ m.returns,
            OneLine f.name ∧ ∀ name ∈ f.type.names, OneLine name)) ∧
    ∀ s ∈ commentsIn (protocolBlock space table p id (ProtocolLayout.build r view p)),
      ∃ ident reason names, s = placeholder ident reason ∧ Heading r p ident names ∧
        ∃ added, (s.write w).text = w.text ++ added ∧
          (Commented w.level 1 added ↔ ∀ name ∈ names, OneLine name) := by
  refine ⟨⟨_, text_writeAll (stub space p) w, commented_stub_iff space p w.level⟩, ?_⟩
  intro s mem
  obtain ⟨l, laid, d, found, rfl⟩ := exists_diagnostic_of_comment mem
  obtain ⟨names, heading⟩ := exists_heading laid found
  refine ⟨d.ident, d.error.message, names, rfl, heading, _, text_write _ w, ?_⟩
  rw [commented_placeholder_iff]
  exact heading.oneLine_iff

namespace Leak

/-- A schema with one protocol. -/
def game (p : Protocol) : Registry := ⟨[⟨"Game", [], [p]⟩]⟩

/-- A method with a field of an unknown type, the name of which has a line end. -/
def pay : Method := ⟨1, "Pay", [⟨"sum", .scalar "money\nprint(2)"⟩], []⟩

def bank : Protocol := ⟨some 1, "Bank", [pay]⟩

/-- The line end in the name of a type is flattened with the reason. -/
theorem commented_pay :
    placeholder "pay_sum" (SchemaError.unknownScalar "money\nprint(2)").message ∈
      commentsIn (protocolBlock "Game" "rmc.protocol_id" bank 1
        (ProtocolLayout.build (game bank) 0 bank)) ∧
    Commented 0 1 ((placeholder "pay_sum"
      (SchemaError.unknownScalar "money\nprint(2)").message).write .empty).text := by
  have mem : placeholder "pay_sum" (SchemaError.unknownScalar "money\nprint(2)").message ∈
      commentsIn (protocolBlock "Game" "rmc.protocol_id" bank 1
        (ProtocolLayout.build (game bank) 0 bank)) := by
    rw [ProtocolLayout.build, Registry.requiredClasses_eq_nil rfl]
    exact List.mem_cons_self
  refine ⟨mem, ?_⟩
  obtain ⟨ident, reason, names, -, heading, added, is, commented⟩ :=
    (commented_iff_oneLine_names (game bank) 0 bank "Game" "rmc.protocol_id" 1 .empty).2 _ mem
  have plain : ∀ name ∈ names, OneLine name := by
    cases heading with
    | @field place name _ _ declared _ _ =>
      generalize place.scope = scope at declared ⊢
      cases declared with
      | message method field =>
        cases List.mem_singleton.1 method
        cases List.mem_singleton.1 field
        simp only [List.forall_mem_cons]
        exact ⟨by decide, by decide, List.forall_mem_nil _⟩
      | ofClass declared _ => cases declared
    | ofClass declared => cases declared
  rw [is]
  exact commented.2 plain

/-- A protocol without an id whose name goes on behind a line end. -/
def chat : Protocol := ⟨none, "Chat\nprint(1)", []⟩

/-- The document with that protocol. -/
def document : Document.DocumentUnit where
  elements := [.unitDeclaration "Game", .protocolDeclaration "Chat\nprint(1)" none none []]

/-- The line end in the name of a protocol is written as it is, and what stands behind it is no
comment. -/
theorem not_commented :
    Document.buildRegistry [document] = .ok (game chat) ∧
    ¬ Commented 0 (stubLength chat) (writeAll (stub "Game" chat) .empty).text := by
  refine ⟨rfl, fun commented => ?_⟩
  have names := (commented_stub_iff "Game" chat 0).1 commented
  exact absurd names.2.1 (by decide)

end Leak

end Dissect.Script
