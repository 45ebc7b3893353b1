import Dissect.Proofs.Layout.Spelling
import Dissect.Proofs.Script.Parts
import Dissect.Proofs.Script.ProtocolLayout

/-!
# The declarations of a block

The block of a protocol begins with declarations and comments, of which only the first under each
key is written (`layouts_eq_writeFirsts`), and ends with the dissector, which adds one field for
every value that the messages read (`branch_tells`). Every field added is declared exactly once,
before the dissector, and no two declarations share a name or an abbreviation
(`protocolBlock_declares_once`). Comments are kept apart from declarations by their keys only: they
have hyphens, which no variable name has.
-/

set_option autoImplicit false

namespace Dissect.Script

open Layout (Declaration IdentifierTable InStep)
open Schema
open Wire (Instruction Scalar allScalars allPlaceholders)

/-! ## What statements hold -/

/-- The declaration that a statement is, with the variable of its protocol. -/
def Statement.declared? : Statement → Option (String × Declaration)
  | .declareField var decl => some (var, decl)
  | _ => none

/-- The field that a statement adds to the tree, with the variable of its protocol. -/
def Statement.added? : Statement → Option (String × String)
  | .addField var field _ _ => some (var, field)
  | _ => none

/-- A statement that is a comment. -/
def Statement.comment? : Statement → Option Statement
  | .comment text => some (.comment text)
  | _ => none

/-- The declarations among statements. -/
def declaredIn : List Statement → List (String × Declaration) := pickedIn Statement.declared?

/-- The fields that statements add to the tree. -/
def addedIn : List Statement → List (String × String) := pickedIn Statement.added?

/-- The comments among statements. -/
def commentsIn : List Statement → List Statement := pickedIn Statement.comment?

/-- Nothing is declared where messages are decoded. -/
theorem declared?_eq_none_of_isOfDissector (s : Statement) (inside : s.isOfDissector = true) :
    s.declared? = none := by
  cases s with
  | declareField => cases inside
  | _ => rfl

/-! ## The dissector -/

/-- The statements hold the fields and the comments listed. -/
structure Tells (ss : List Statement) (fields : List (String × String))
    (comments : List Statement) : Prop where
  added : addedIn ss = fields
  commented : commentsIn ss = comments

namespace Tells

variable {a b : List Statement} {fields fields' : List (String × String)}
  {comments comments' : List Statement}

theorem append (first : Tells a fields comments) (second : Tells b fields' comments') :
    Tells (a ++ b) (fields ++ fields') (comments ++ comments') where
  added := by rw [addedIn, pickedIn_append, ← addedIn, first.added, second.added]
  commented := by rw [commentsIn, pickedIn_append, ← commentsIn, first.commented, second.commented]

/-- A statement around others tells nothing of its own, unless it adds a field or is a comment. -/
theorem around {s : Statement} (parts : s.parts = s :: allParts a) (added : s.added? = none)
    (comment : s.comment? = none) (inside : Tells a fields comments) :
    Tells [s] fields comments where
  added := by
    rw [addedIn, pickedIn_around a parts, added]
    exact inside.added
  commented := by
    rw [commentsIn, pickedIn_around a parts, comment]
    exact inside.commented

theorem forCount (inside : Tells a fields comments) : Tells [.forCount a] fields comments :=
  inside.around (by simp [Statement.parts]) rfl rfl

theorem defineFunction (var name : String) (parameters : List String)
    (inside : Tells a fields comments) :
    Tells [.defineFunction var name parameters a] fields comments :=
  inside.around (by simp [Statement.parts]) rfl rfl

/-- What is told for a method is told for its requests, then for its responses. -/
theorem onMethod (id : Nat) (request : Tells a fields comments)
    (response : Tells b fields' comments') :
    Tells [.onMethod id [.onRequest a b]] (fields ++ fields') (comments ++ comments') := by
  have both : Tells [.onRequest a b] (fields ++ fields') (comments ++ comments') :=
    (request.append response).around (by simp [Statement.parts]) rfl rfl
  exact both.around (by simp [Statement.parts]) rfl rfl

end Tells

/-- The fields that scalars add to the tree, those not on the wire left out. -/
def wiredFields (var : String) (scalars : List (String × Scalar)) : List (String × String) :=
  (scalars.filter fun s => s.2.width ≠ .unwrapped).map fun s => (var, s.1)

/-- The comments in the place of fields without a layout. -/
def placeholderComments (placeholders : List (String × String)) : List Statement :=
  placeholders.map fun p => placeholder p.1 p.2

mutual

theorem instructionStatements_tells (var : String) : ∀ i : Instruction,
    Tells (instructionStatements var i) (wiredFields var i.scalars)
      (placeholderComments i.placeholders)
  | .scalar field type => by cases type <;> exact ⟨rfl, rfl⟩
  | .counted body => by
    have prefixed : Tells [.readCount, .advance (.bytes Wire.countWidth)] [] [] := ⟨rfl, rfl⟩
    exact prefixed.append (decodeStatements_tells var body).forCount
  | .unresolved field reason => ⟨rfl, rfl⟩

theorem decodeStatements_tells (var : String) : ∀ is : List Instruction,
    Tells (decodeStatements var is) (wiredFields var (allScalars is))
      (placeholderComments (allPlaceholders is))
  | [] => ⟨rfl, rfl⟩
  | i :: rest => by
    have both := (instructionStatements_tells var i).append (decodeStatements_tells var rest)
    simp only [wiredFields, placeholderComments, allScalars, allPlaceholders, List.filter_append,
      List.map_append]
    exact both

end

/-- A layout in step has no instruction for a value that is not on the wire, so that a branch adds
a field for each of its scalars. -/
theorem branch_tells (var title : String) {l : Layout} (inStep : InStep l) :
    Tells (branch var title l.instructions) ((allScalars l.instructions).map fun s => (var, s.1))
      (placeholderComments (allPlaceholders l.instructions)) := by
  have begun : Tells ([.beginSubtree var title, .beginOffset]
      ++ if l.instructions.any needsScratch then [.beginScratch] else []) [] [] := by
    split <;> exact ⟨rfl, rfl⟩
  have wired : (allScalars l.instructions).filter (fun s => s.2.width ≠ .unwrapped) =
      allScalars l.instructions := by
    rw [inStep.scalars, List.filter_map, List.filter_filter]
    simp
  have told := decodeStatements_tells var l.instructions
  rw [wiredFields, wired] at told
  exact begun.append told

/-- The fields that the branches of a method add. -/
def MethodLayouts.fields (var : String) (m : MethodLayouts) : List (String × String) :=
  (allScalars m.request.instructions ++ allScalars m.response.instructions).map fun s => (var, s.1)

/-- The comments in the branches of a method. -/
def MethodLayouts.comments (m : MethodLayouts) : List Statement :=
  placeholderComments
    (allPlaceholders m.request.instructions ++ allPlaceholders m.response.instructions)

theorem methodStatements_tells (var protocol : String) {m : MethodLayouts}
    (inStep : ∀ d, InStep (m.message d)) :
    Tells [methodStatements var protocol m] (m.fields var) m.comments := by
  have request := branch_tells var s!"{protocol}.{m.method.name}" (inStep .request)
  have response := branch_tells var s!"{protocol}.{m.method.name}" (inStep .response)
  rw [MethodLayouts.fields, MethodLayouts.comments, List.map_append, placeholderComments,
    List.map_append]
  exact Tells.onMethod m.method.id request response

theorem declaredIn_dissectorBody (var protocol : String) (ms : List MethodLayouts) :
    declaredIn (dissectorBody var protocol ms) = [] := by
  rw [declaredIn, pickedIn_dissectorBody declared?_eq_none_of_isOfDissector]
  exact List.filterMap_eq_nil_iff.2 fun _ _ => rfl

theorem dissectorBody_tells (var protocol : String) {ms : List MethodLayouts}
    (inStep : ∀ m ∈ ms, ∀ d, InStep (m.message d)) :
    Tells (dissectorBody var protocol ms) (ms.flatMap fun m => m.fields var)
      (ms.flatMap fun m => m.comments) := by
  have fetched : Tells [.fetchValue "method_id" "method_id_field",
      .fetchValue "is_request" "is_request_field"] [] [] := ⟨rfl, rfl⟩
  refine fetched.append ?_
  clear fetched
  induction ms with
  | nil => exact ⟨rfl, rfl⟩
  | cons m rest ih =>
    obtain ⟨first, others⟩ := List.forall_mem_cons.1 inStep
    exact (methodStatements_tells var protocol first).append (ih others)

/-! ## The first entry under each key -/

/-- What a layout asks to be written in front of the dissector. -/
inductive Entry where
  | declare (d : Declaration)
  | comment (d : Layout.Diagnostic)

namespace Entry

/-- Of the entries with the same key only one is written. -/
def key : Entry → String
  | .declare d => d.ident.name
  | .comment d => s!"-- {d.ident}"

/-- How an entry is written. -/
def statement (var : String) : Entry → Statement
  | .declare d => .declareField var d
  | .comment d => placeholder d.ident d.error.message

/-- The declaration that an entry is. -/
def declaration? : Entry → Option Declaration
  | .declare d => some d
  | .comment _ => none

theorem key_of_declaration? {e : Entry} {d : Declaration} (is : e.declaration? = some d) :
    e.key = d.ident.name := by
  cases e with
  | declare _ =>
    cases is
    rfl
  | comment _ => cases is

end Entry

/-- The entries of a layout. -/
def entries (l : Layout) : List Entry := l.declarations.map .declare ++ l.diagnostics.map .comment

theorem declare_mem_entries_iff {l : Layout} {d : Declaration} :
    Entry.declare d ∈ entries l ↔ d ∈ l.declarations := by
  simp [entries]

theorem comment_mem_entries_iff {l : Layout} {d : Layout.Diagnostic} :
    Entry.comment d ∈ entries l ↔ d ∈ l.diagnostics := by
  simp [entries]

/-- The first entry under each key, keys that have been seen left out. -/
def firsts (seen : List String) : List Entry → List Entry
  | [] => []
  | e :: rest =>
    if seen.contains e.key then firsts seen rest else e :: firsts (e.key :: seen) rest

theorem firsts_append (seen : List String) (a b : List Entry) :
    firsts seen (a ++ b) =
      firsts seen a ++ firsts (((firsts seen a).map Entry.key).reverse ++ seen) b := by
  induction a generalizing seen with
  | nil => rfl
  | cons e rest ih =>
    simp only [List.cons_append, firsts]
    split
    · exact ih seen
    · simp [ih]

theorem firsts_sublist (seen : List String) (es : List Entry) : (firsts seen es).Sublist es := by
  induction es generalizing seen with
  | nil => exact .slnil
  | cons e rest ih =>
    rw [firsts]
    split
    · exact (ih seen).cons e
    · exact (ih (e.key :: seen)).cons_cons e

theorem key_not_mem_seen {seen : List String} {es : List Entry} {e : Entry}
    (mem : e ∈ firsts seen es) : e.key ∉ seen := by
  induction es generalizing seen with
  | nil => cases mem
  | cons head rest ih =>
    rw [firsts] at mem
    split at mem
    · exact ih mem
    · next new =>
      rcases List.mem_cons.1 mem with rfl | mem
      · simpa using new
      · exact fun here => ih mem (List.mem_cons_of_mem _ here)

theorem firsts_pairwise (seen : List String) (es : List Entry) :
    (firsts seen es).Pairwise fun a b => a.key ≠ b.key := by
  induction es generalizing seen with
  | nil => exact .nil
  | cons e rest ih =>
    rw [firsts]
    split
    · exact ih seen
    · refine .cons (fun later mem same => ?_) (ih (e.key :: seen))
      exact key_not_mem_seen mem (same ▸ List.mem_cons_self)

theorem exists_mem_firsts {seen : List String} {es : List Entry} {e : Entry} (mem : e ∈ es)
    (new : e.key ∉ seen) : ∃ first ∈ firsts seen es, first.key = e.key := by
  induction es generalizing seen with
  | nil => cases mem
  | cons head rest ih =>
    rw [firsts]
    split
    · next old =>
      rcases List.mem_cons.1 mem with rfl | mem
      · exact absurd (by simpa using old) new
      · exact ih mem new
    · by_cases same : head.key = e.key
      · exact ⟨head, List.mem_cons_self, same⟩
      · rcases List.mem_cons.1 mem with rfl | mem
        · exact absurd rfl same
        · have later : e.key ∉ head.key :: seen := by simpa [Ne.symm same] using new
          obtain ⟨first, found, is⟩ := ih mem later
          exact ⟨first, List.mem_cons_of_mem _ found, is⟩

/-- No entry in front of the first one has its key. -/
theorem exists_split_of_mem_firsts {seen : List String} {es : List Entry} {e : Entry}
    (mem : e ∈ firsts seen es) :
    ∃ before after, es = before ++ e :: after ∧ ∀ earlier ∈ before, earlier.key ≠ e.key := by
  induction es generalizing seen with
  | nil => cases mem
  | cons head rest ih =>
    have new := key_not_mem_seen mem
    rw [firsts] at mem
    split at mem
    · next old =>
      obtain ⟨before, after, rfl, apart⟩ := ih mem
      refine ⟨head :: before, after, rfl, List.forall_mem_cons.2 ⟨fun same => new ?_, apart⟩⟩
      rw [← same]
      simpa using old
    · rcases List.mem_cons.1 mem with rfl | mem
      · exact ⟨[], rest, rfl, List.forall_mem_nil _⟩
      · have later := key_not_mem_seen mem
        obtain ⟨before, after, rfl, apart⟩ := ih mem
        refine ⟨head :: before, after, rfl, List.forall_mem_cons.2 ⟨fun same => later ?_, apart⟩⟩
        rw [same]
        exact List.mem_cons_self

namespace Declarations

/-- Writes the first entries under keys under which nothing has been written. -/
def writeFirsts (d : Declarations) (es : List Entry) : List Statement × Declarations :=
  ((firsts d.written es).map (Entry.statement d.var),
    ⟨d.var, ((firsts d.written es).map Entry.key).reverse ++ d.written⟩)

theorem writeFirsts_append (d : Declarations) (a b : List Entry) :
    d.writeFirsts (a ++ b) = ((d.writeFirsts a).1 ++ ((d.writeFirsts a).2.writeFirsts b).1,
      ((d.writeFirsts a).2.writeFirsts b).2) := by
  simp [writeFirsts, firsts_append]

theorem once_eq_writeFirsts (d : Declarations) (e : Entry) :
    d.once e.key (e.statement d.var) = d.writeFirsts [e] := by
  unfold once writeFirsts firsts
  split <;> rfl

theorem declareAll_eq_writeFirsts (d : Declarations) (ds : List Declaration) :
    d.declareAll ds = d.writeFirsts (ds.map .declare) := by
  induction ds generalizing d with
  | nil => rfl
  | cons decl rest ih =>
    have first : d.declare decl = d.writeFirsts [.declare decl] :=
      d.once_eq_writeFirsts (.declare decl)
    simp only [declareAll, first, ih]
    exact (d.writeFirsts_append [.declare decl] (rest.map .declare)).symm

theorem commentAll_eq_writeFirsts (d : Declarations) (ds : List Layout.Diagnostic) :
    d.commentAll ds = d.writeFirsts (ds.map .comment) := by
  induction ds generalizing d with
  | nil => rfl
  | cons diagnostic rest ih =>
    have first : d.comment diagnostic = d.writeFirsts [.comment diagnostic] :=
      d.once_eq_writeFirsts (.comment diagnostic)
    simp only [commentAll, first, ih]
    exact (d.writeFirsts_append [.comment diagnostic] (rest.map .comment)).symm

/-- Layouts in order write the first of all their entries under each key. -/
theorem layouts_eq_writeFirsts (d : Declarations) (ls : List Layout) :
    d.layouts ls = d.writeFirsts (ls.flatMap entries) := by
  induction ls generalizing d with
  | nil => rfl
  | cons l rest ih =>
    simp only [layouts, layout, declareAll_eq_writeFirsts, commentAll_eq_writeFirsts, ih,
      List.flatMap_cons, entries, writeFirsts_append]

end Declarations

/-- The entries that are written for a protocol. -/
def ProtocolLayout.written (l : ProtocolLayout) : List Entry :=
  firsts [] (l.layouts.flatMap entries)

theorem ProtocolLayout.exists_layout_of_mem_written {l : ProtocolLayout} {e : Entry}
    (mem : e ∈ l.written) : ∃ layout ∈ l.layouts, e ∈ entries layout :=
  List.mem_flatMap.1 ((firsts_sublist [] _).subset mem)

theorem pickedIn_entries {α : Type} (pick : Statement → Option α) (var : String)
    (es : List Entry) : pickedIn pick (es.map (Entry.statement var)) =
      es.filterMap fun e => pick (e.statement var) := by
  refine pickedIn_map (fun e => ?_) es
  cases e <;> exact pickedIn_single rfl

/-! ## The parts of a block -/

/-- The block of a protocol in front of its dissector. -/
def blockHead (space table : String) (p : Protocol) (id : UInt16) (l : ProtocolLayout) :
    List Statement :=
  [.createProto (protoVar space p.name) p.name]
    ++ l.written.map (Entry.statement (protoVar space p.name))
    ++ registration (protoVar space p.name) table id

section Parts

variable (space table : String) (p : Protocol) (id : UInt16) (l : ProtocolLayout)

theorem protocolBlock_eq_append :
    protocolBlock space table p id l = blockHead space table p id l ++ [dissector space p l] := by
  simp only [protocolBlock, Declarations.layouts_eq_writeFirsts, blockHead]
  rfl

/-- What is picked in front of the dissector. -/
theorem pickedIn_blockHead {α : Type} (pick : Statement → Option α) :
    pickedIn pick (blockHead space table p id l) =
      (pick (.createProto (protoVar space p.name) p.name)).toList
        ++ l.written.filterMap (fun e => pick (e.statement (protoVar space p.name)))
        ++ pickedIn pick (registration (protoVar space p.name) table id) := by
  have created : pickedIn pick [.createProto (protoVar space p.name) p.name] =
      (pick (.createProto (protoVar space p.name) p.name)).toList := pickedIn_single rfl
  rw [blockHead, pickedIn_append, pickedIn_append, pickedIn_entries, created]

/-- Where decoding does not matter, a block is asked for its declarations, its functions and the
branches of its methods. -/
theorem pickedIn_protocolBlock {α : Type} {pick : Statement → Option α}
    (silent : ∀ s : Statement, s.isOfDissector = true → pick s = none) :
    pickedIn pick (protocolBlock space table p id l) =
      pickedIn pick (blockHead space table p id l) ++ (pick (dissector space p l)).toList
        ++ l.methods.filterMap
          fun m => pick (methodStatements (protoVar space p.name) p.name m) := by
  rw [protocolBlock_eq_append, pickedIn_append, List.append_assoc, dissector,
    pickedIn_defineFunction, pickedIn_dissectorBody silent]

theorem declaredIn_blockHead :
    declaredIn (blockHead space table p id l) =
      (l.written.filterMap Entry.declaration?).map fun d => (protoVar space p.name, d) := by
  have each (e : Entry) : (e.statement (protoVar space p.name)).declared? =
      e.declaration?.map fun d => (protoVar space p.name, d) := by
    cases e <;> rfl
  rw [declaredIn, pickedIn_blockHead, List.map_filterMap]
  simp only [each]
  exact List.append_nil _

theorem addedIn_blockHead : addedIn (blockHead space table p id l) = [] := by
  have each (e : Entry) : (e.statement (protoVar space p.name)).added? = none := by
    cases e <;> rfl
  rw [addedIn, pickedIn_blockHead]
  simp only [each, List.filterMap_none]
  rfl

end Parts

/-! ## Declared once, before use -/

section DeclaredOnce

variable {r : Registry} {view : Nat} {p : Protocol}

/-- The declarations that are written for a protocol. -/
def ProtocolLayout.declarations (l : ProtocolLayout) : List Declaration :=
  l.written.filterMap Entry.declaration?

theorem filterMap_declaration?_entries (ls : List Layout) :
    (ls.flatMap entries).filterMap Entry.declaration? = ls.flatMap fun l => l.declarations := by
  have declares : Entry.declaration? ∘ Entry.declare = some := rfl
  have comments : Entry.declaration? ∘ Entry.comment = fun _ => none := rfl
  rw [List.filterMap_flatMap]
  refine List.flatMap_congr fun l _ => ?_
  rw [entries, List.filterMap_append, List.filterMap_map, List.filterMap_map, declares, comments]
  simp

theorem exists_layout_of_mem_declarations {l : ProtocolLayout} {d : Declaration}
    (mem : d ∈ l.declarations) : ∃ layout ∈ l.layouts, d ∈ layout.declarations := by
  have written := (firsts_sublist [] (l.layouts.flatMap entries)).filterMap Entry.declaration?
  rw [filterMap_declaration?_entries] at written
  exact List.mem_flatMap.1 (written.subset mem)

/-- No two declarations of a protocol share a name or an abbreviation. Names are keys; and where
abbreviations agree, the places do, and so do the names. -/
theorem declarations_pairwise (r : Registry) (view : Nat) (p : Protocol) :
    (ProtocolLayout.build r view p).declarations.Pairwise fun a b =>
      a.ident.name ≠ b.ident.name ∧ a.ident.abbr ≠ b.ident.abbr := by
  have names : (ProtocolLayout.build r view p).declarations.Pairwise fun a b =>
      a.ident.name ≠ b.ident.name := by
    refine (firsts_pairwise [] _).filterMap Entry.declaration? ?_
    intro e e' differ d is d' is'
    rwa [Entry.key_of_declaration? is, Entry.key_of_declaration? is'] at differ
  -- only the table knows that equal abbreviations have equal names
  refine names.imp_of_mem fun {a b} ha hb differ => ⟨differ, fun same => differ ?_⟩
  obtain ⟨l, hl, inL⟩ := exists_layout_of_mem_declarations ha
  obtain ⟨l', hl', inL'⟩ := exists_layout_of_mem_declarations hb
  obtain ⟨v, value, is, -⟩ := ProtocolLayout.exists_value_of_declared hl inL
  obtain ⟨v', value', is', -⟩ := ProtocolLayout.exists_value_of_declared hl' inL'
  rw [is, is'] at same
  have places := IdentifierTable.eq_of_identifier (protocolTable_distinct r view p)
    (knows_of_mem_protocolValues value) (knows_of_mem_protocolValues value') (.inr same)
  rw [is, is', places]

theorem protocolTable_spelled (r : Registry) (view : Nat) (p : Protocol) :
    (protocolTable r view p).Spelled :=
  (IdentifierTable.spelled_empty p.name).after _

/-- Declarations and comments never have the same key: that of a comment begins with a hyphen, and
no variable name has one. -/
theorem declaration_key_ne {l : Layout} (mem : l ∈ (ProtocolLayout.build r view p).layouts)
    {d : Declaration} (declared : d ∈ l.declarations) (diagnostic : Layout.Diagnostic) :
    (Entry.declare d).key ≠ (Entry.comment diagnostic).key := by
  intro same
  obtain ⟨v, value, ident, -⟩ := ProtocolLayout.exists_value_of_declared mem declared
  have plain := (protocolTable_spelled r view p).unseparated v.1
  have hyphen : '-' ∈ d.ident.name.toList := by
    rw [show d.ident.name = "-- " ++ diagnostic.ident from same, String.toList_append]
    exact List.mem_append_left _ (by decide)
  rw [ident] at hyphen
  exact absurd (plain '-' hyphen) (by decide)

/-- A name that is declared in a layout is declared in the block: only a declaration under the same
name can come before it. -/
theorem exists_declaration {l : Layout} (mem : l ∈ (ProtocolLayout.build r view p).layouts)
    {d : Declaration} (declared : d ∈ l.declarations) :
    ∃ first ∈ (ProtocolLayout.build r view p).declarations, first.ident.name = d.ident.name := by
  have entry : Entry.declare d ∈ (ProtocolLayout.build r view p).layouts.flatMap entries :=
    List.mem_flatMap.2 ⟨l, mem, List.mem_append_left _ (List.mem_map_of_mem declared)⟩
  obtain ⟨e, written, same⟩ := exists_mem_firsts entry List.not_mem_nil
  -- the first entry under the name might be a comment as far as keys go
  cases e with
  | declare first => exact ⟨first, List.mem_filterMap.2 ⟨_, written, rfl⟩, same⟩
  | comment diagnostic => exact absurd same.symm (declaration_key_ne mem declared diagnostic)

/-- The messages of a protocol have layouts in step. -/
theorem build_inStep {m : MethodLayouts} (mem : m ∈ (ProtocolLayout.build r view p).methods)
    (d : Direction) : InStep (m.message d) := by
  rw [ProtocolLayout.build_eq_named] at mem
  obtain ⟨method, -, rfl⟩ := List.mem_map.1 mem
  rw [methodNamed_message]
  exact Layout.Outline.named_inStep _ _

/-- The dissector of a protocol adds what its messages read, and has a comment for each of their
placeholders. -/
theorem build_tells (r : Registry) (view : Nat) (p : Protocol) (var : String) :
    Tells (dissectorBody var p.name (ProtocolLayout.build r view p).methods)
      ((ProtocolLayout.build r view p).methods.flatMap fun m => m.fields var)
      ((ProtocolLayout.build r view p).methods.flatMap fun m => m.comments) :=
  dissectorBody_tells var p.name fun _ mem => build_inStep mem

theorem dissector_tells (r : Registry) (view : Nat) (p : Protocol) (space : String) :
    Tells [dissector space p (ProtocolLayout.build r view p)]
      ((ProtocolLayout.build r view p).methods.flatMap fun m => m.fields (protoVar space p.name))
      ((ProtocolLayout.build r view p).methods.flatMap fun m => m.comments) :=
  (build_tells r view p (protoVar space p.name)).defineFunction _ _ _

/-- The declarations of a block. -/
theorem declaredIn_protocolBlock (r : Registry) (view : Nat) (p : Protocol) (space table : String)
    (id : UInt16) :
    declaredIn (protocolBlock space table p id (ProtocolLayout.build r view p)) =
      (ProtocolLayout.build r view p).declarations.map fun d => (protoVar space p.name, d) := by
  rw [protocolBlock_eq_append, declaredIn, pickedIn_append, dissector, pickedIn_defineFunction,
    ← declaredIn, declaredIn_blockHead, declaredIn_dissectorBody]
  exact List.append_nil _

/-- The comments of a block stand among its declarations and in its dissector. -/
theorem commentsIn_protocolBlock (r : Registry) (view : Nat) (p : Protocol) (space table : String)
    (id : UInt16) :
    commentsIn (protocolBlock space table p id (ProtocolLayout.build r view p)) =
      commentsIn ((ProtocolLayout.build r view p).written.map
        (Entry.statement (protoVar space p.name))) ++
        (ProtocolLayout.build r view p).methods.flatMap fun m => m.comments := by
  rw [protocolBlock_eq_append, commentsIn, pickedIn_append, pickedIn_blockHead, pickedIn_entries,
    ← commentsIn, (dissector_tells r view p space).commented]
  exact congrArg (· ++ _) (List.append_nil _)

theorem message_mem_layouts {l : ProtocolLayout} {m : MethodLayouts} (mem : m ∈ l.methods)
    (d : Direction) : m.message d ∈ l.layouts := by
  refine List.mem_append_right _ (List.mem_flatMap.2 ⟨m, mem, ?_⟩)
  cases d with
  | request => exact List.mem_cons_self
  | response => exact List.mem_cons_of_mem _ List.mem_cons_self

theorem mem_fields_iff {var : String} {m : MethodLayouts} {use : String × String} :
    use ∈ m.fields var ↔ ∃ d, ∃ s ∈ allScalars (m.message d).instructions, use = (var, s.1) := by
  simp only [MethodLayouts.fields, List.map_append, List.mem_append, List.mem_map]
  constructor
  · rintro (⟨s, mem, rfl⟩ | ⟨s, mem, rfl⟩)
    · exact ⟨.request, s, mem, rfl⟩
    · exact ⟨.response, s, mem, rfl⟩
  · rintro ⟨d, s, mem, rfl⟩
    cases d with
    | request => exact .inl ⟨s, mem, rfl⟩
    | response => exact .inr ⟨s, mem, rfl⟩

/-- In the block of a protocol no two declarations have the same name or the same abbreviation, and
all of them stand before the dissector. The dissector adds a field for every value that a message
reads, and each field that it adds is declared exactly once. -/
theorem protocolBlock_declares_once (r : Registry) (view : Nat) (p : Protocol)
    (space table : String) (id : UInt16) :
    let l := ProtocolLayout.build r view p
    let var := protoVar space p.name
    ∃ before body,
      protocolBlock space table p id l =
        before ++ [.defineFunction var "dissector" ["buffer", "pinfo", "tree"] body] ∧
      ((declaredIn before).map fun d => d.2.ident.name).Nodup ∧
      ((declaredIn before).map fun d => d.2.ident.abbr).Nodup ∧
      addedIn before = [] ∧ declaredIn body = [] ∧
      (∀ m ∈ l.methods, ∀ d, ∀ s ∈ allScalars (m.message d).instructions,
        (var, s.1) ∈ addedIn body) ∧
      ∀ use ∈ addedIn body,
        ((declaredIn before).map fun d => (d.1, d.2.ident.name)).count use = 1 := by
  intro l var
  have told := build_tells r view p var
  have apart := declarations_pairwise r view p
  refine ⟨blockHead space table p id l, dissectorBody var p.name l.methods,
    protocolBlock_eq_append space table p id l, ?_, ?_, addedIn_blockHead space table p id l,
    declaredIn_dissectorBody var p.name l.methods, ?_, ?_⟩
  · rw [declaredIn_blockHead, List.map_map]
    exact List.pairwise_map.2 (apart.imp And.left)
  · rw [declaredIn_blockHead, List.map_map]
    exact List.pairwise_map.2 (apart.imp And.right)
  · intro m mem d s read
    rw [told.added]
    exact List.mem_flatMap.2 ⟨m, mem, mem_fields_iff.2 ⟨d, s, read, rfl⟩⟩
  · intro use added
    rw [told.added] at added
    obtain ⟨m, mem, field⟩ := List.mem_flatMap.1 added
    obtain ⟨d, s, read, rfl⟩ := mem_fields_iff.1 field
    -- what is read is declared in the layout of its message, and so under its name in the block
    rw [(build_inStep mem d).scalars] at read
    obtain ⟨decl, declared, rfl⟩ := List.mem_map.1 read
    obtain ⟨first, written, same⟩ :=
      exists_declaration (message_mem_layouts mem d) (List.mem_of_mem_filter declared)
    rw [declaredIn_blockHead, List.map_map]
    refine List.count_eq_one_of_mem ?_ (List.mem_map.2 ⟨first, written, by rw [← same]; rfl⟩)
    exact List.pairwise_map.2 (apart.imp fun differ same => differ.1 (Prod.mk.inj same).2)

end DeclaredOnce

end Dissect.Script
