import Dissect.Proofs.Schema.Required
import Dissect.Proofs.Script.Declarations

/-!
# Diagnostics and placeholders

A protocol without diagnostics has a block without placeholders, and the other way round
(`diagnostics_eq_nil_iff_no_placeholder`). Diagnostics are reported once per path and comments are
written once per name, but the first of each always is, so that none is lost altogether. The decoder
stops at a placeholder only if its instructions have one (`runAll_error_mem`), and the instructions
of an inspection have as many as those of the block. With no diagnostics, no payload ends an
inspection that way.
-/

set_option autoImplicit false

namespace Dissect.Wire

/-! ## Stopping at a placeholder -/

variable {b : Buffer} {field reason : String}

theorem Buffer.slice_ne_unresolved (offset length : Nat) :
    b.slice offset length ≠ .error (.unresolved field reason) := by
  unfold slice
  split
  · simp
  · split <;> simp

theorem Buffer.unsigned_ne_unresolved (offset bytes : Nat) :
    b.unsigned offset bytes ≠ .error (.unresolved field reason) := by
  unfold unsigned
  cases read : b.slice offset bytes with
  | ok found => simp [Except.map]
  | error e =>
    intro stops
    cases stops
    exact Buffer.slice_ne_unresolved offset bytes read

theorem Progress.take_error_ne (p : Progress) (name : String) (type : Scalar)
    (offset length : Nat) :
    (p.take b name type offset length).error? ≠ some (.unresolved field reason) := by
  unfold take
  cases read : b.slice offset length with
  | ok found => simp [Outcome.error?]
  | error e =>
    intro stops
    cases stops
    exact Buffer.slice_ne_unresolved offset length read

/-- Reading a scalar fails for want of bytes only. -/
theorem Progress.readScalar_error_ne (p : Progress) (name : String) (type : Scalar) :
    (p.readScalar b name type).error? ≠ some (.unresolved field reason) := by
  unfold readScalar
  cases type.width with
  | unwrapped => simp [Outcome.error?]
  | fixed bytes => exact p.take_error_ne name type _ _
  | lengthPrefixed =>
    cases read : b.lengthPrefix p.cursor with
    | ok length => exact p.take_error_ne name type _ _
    | error e =>
      intro stops
      cases stops
      exact Buffer.unsigned_ne_unresolved _ _ read

/-- Passes fail with the error of one of them. -/
theorem exists_error_of_passes {pass : Progress → Outcome} {e : DecodeError} {n : Nat}
    {p : Progress} (stops : (passes pass n p).error? = some e) :
    ∃ q, (pass q).error? = some e := by
  induction n generalizing p with
  | zero => cases stops
  | succ n ih =>
    rw [passes] at stops
    cases made : pass p with
    | failed e' q =>
      rw [made] at stops
      exact ⟨p, by rw [made]; exact stops⟩
    | finished q =>
      simp only [made] at stops
      split at stops
      · cases stops
      · exact ih stops

mutual

theorem run_error_mem : ∀ (i : Instruction) (p : Progress),
    (i.run b p).error? = some (.unresolved field reason) → (field, reason) ∈ i.placeholders
  | .scalar name type, p, stops => by
    rw [Instruction.run] at stops
    exact absurd stops (p.readScalar_error_ne name type)
  | .counted body, p, stops => by
    rw [Instruction.run] at stops
    cases read : b.countPrefix p.cursor with
    | error e =>
      rw [read] at stops
      cases stops
      exact absurd read (Buffer.unsigned_ne_unresolved _ _)
    | ok count =>
      rw [read] at stops
      obtain ⟨q, stops⟩ := exists_error_of_passes stops
      rw [Instruction.placeholders]
      exact runAll_error_mem body q stops
  | .unresolved name why, p, stops => by
    rw [Instruction.run] at stops
    cases stops
    exact List.mem_singleton_self _

/-- A run stops at a placeholder only if its instructions have it, at some depth. -/
theorem runAll_error_mem : ∀ (is : List Instruction) (p : Progress),
    (runAll b is p).error? = some (.unresolved field reason) → (field, reason) ∈ allPlaceholders is
  | [], p, stops => by
    rw [runAll] at stops
    cases stops
  | i :: rest, p, stops => by
    rw [runAll] at stops
    rw [allPlaceholders, List.mem_append]
    cases ran : i.run b p with
    | failed e q =>
      rw [ran] at stops
      exact .inl (run_error_mem i p (by rw [ran]; exact stops))
    | finished q =>
      rw [ran] at stops
      exact .inr (runAll_error_mem rest q stops)

end

theorem decodePayload_ne_unresolved {is : List Instruction} (clean : allPlaceholders is = [])
    (b : Buffer) (field reason : String) :
    decodePayload is b ≠ .error (.unresolved field reason) := by
  intro stops
  unfold decodePayload at stops
  cases ran : runAll b is Progress.start with
  | finished p =>
    rw [ran] at stops
    cases stops
  | failed e p =>
    rw [ran] at stops
    cases stops
    have mem := runAll_error_mem is Progress.start (by rw [ran]; rfl)
    rw [clean] at mem
    cases mem

end Dissect.Wire

namespace Dissect.Script

open Layout (Builder InStep)
open Schema
open Wire (allPlaceholders)

/-! ## Nothing is lost in reporting -/

/-- A report is empty only if there is nothing to report. -/
theorem report_eq_nil_iff (space protocol : String) (reported : List Diagnostic)
    (ds : List Layout.Diagnostic) :
    report space protocol reported ds = [] ↔ reported = [] ∧ ds = [] := by
  induction ds generalizing reported with
  | nil => simp [report]
  | cons d rest ih =>
    rw [report]
    split
    · next met =>
      -- a path can only be met again in a report that is not empty
      rw [ih]
      have nonempty : reported ≠ [] := by
        rintro rfl
        simp at met
      simp [nonempty]
    · rw [ih]
      simp

theorem diagnostics_eq_nil_iff (l : ProtocolLayout) (space protocol : String) :
    l.diagnostics space protocol = [] ↔ ∀ layout ∈ l.layouts, layout.diagnostics = [] := by
  rw [ProtocolLayout.diagnostics, report_eq_nil_iff, List.flatMap_eq_nil_iff]
  simp

section Comments

variable {r : Registry} {view : Nat} {p : Protocol}

/-- The first entry under the key of a comment is a comment. -/
theorem exists_comment {l : Layout} (mem : l ∈ (ProtocolLayout.build r view p).layouts)
    {diagnostic : Layout.Diagnostic} (found : diagnostic ∈ l.diagnostics) :
    ∃ first, Entry.comment first ∈ (ProtocolLayout.build r view p).written := by
  have entry : Entry.comment diagnostic ∈ (ProtocolLayout.build r view p).layouts.flatMap entries :=
    List.mem_flatMap.2 ⟨l, mem, List.mem_append_right _ (List.mem_map_of_mem found)⟩
  obtain ⟨e, written, same⟩ := exists_mem_firsts entry List.not_mem_nil
  cases e with
  | comment first => exact ⟨first, written⟩
  | declare d =>
    have declared : d ∈ (ProtocolLayout.build r view p).declarations :=
      List.mem_filterMap.2 ⟨_, written, rfl⟩
    obtain ⟨l', mem', inside⟩ := exists_layout_of_mem_declarations declared
    exact absurd same (declaration_key_ne mem' inside diagnostic)

theorem mem_commentsIn_entries_iff {var : String} {es : List Entry} {s : Statement} :
    s ∈ commentsIn (es.map (Entry.statement var)) ↔
      ∃ diagnostic, Entry.comment diagnostic ∈ es ∧
        s = placeholder diagnostic.ident diagnostic.error.message := by
  rw [commentsIn, pickedIn_entries, List.mem_filterMap]
  constructor
  · rintro ⟨e, mem, comment⟩
    cases e with
    | declare d => cases comment
    | comment diagnostic =>
      cases comment
      exact ⟨diagnostic, mem, rfl⟩
  · rintro ⟨diagnostic, mem, rfl⟩
    exact ⟨_, mem, rfl⟩

/-- The declarations of a protocol have no comment among them only if no layout has a diagnostic,
be it of a class or of a message. -/
theorem commentsIn_written_eq_nil_iff (var : String) :
    commentsIn ((ProtocolLayout.build r view p).written.map (Entry.statement var)) = [] ↔
      ∀ l ∈ (ProtocolLayout.build r view p).layouts, l.diagnostics = [] := by
  simp only [List.eq_nil_iff_forall_not_mem]
  constructor
  · intro silent l mem diagnostic found
    obtain ⟨first, written⟩ := exists_comment mem found
    exact silent _ (mem_commentsIn_entries_iff.2 ⟨first, written, rfl⟩)
  · intro clean s mem
    obtain ⟨diagnostic, written, -⟩ := mem_commentsIn_entries_iff.1 mem
    obtain ⟨l, inside, entry⟩ := ProtocolLayout.exists_layout_of_mem_written written
    exact clean l inside _ (comment_mem_entries_iff.1 entry)

/-- A message has as many placeholders as diagnostics. -/
theorem allPlaceholders_eq_nil_iff {m : MethodLayouts}
    (mem : m ∈ (ProtocolLayout.build r view p).methods) (d : Direction) :
    allPlaceholders (m.message d).instructions = [] ↔ (m.message d).diagnostics = [] := by
  rw [(build_inStep mem d).placeholders, List.map_eq_nil_iff]

theorem comments_eq_nil_iff (m : MethodLayouts) :
    m.comments = [] ↔ ∀ d, allPlaceholders (m.message d).instructions = [] := by
  rw [MethodLayouts.comments, placeholderComments, List.map_eq_nil_iff, List.append_eq_nil_iff]
  constructor
  · rintro ⟨request, response⟩ d
    cases d with
    | request => exact request
    | response => exact response
  · intro resolved
    exact ⟨resolved .request, resolved .response⟩

/-- An inspection reads with as many placeholders as the branch of the block has. -/
theorem fresh_allPlaceholders_eq_nil {m : Method} (mem : m ∈ p.methods) (d : Direction)
    (clean : ∀ l ∈ (ProtocolLayout.build r view p).layouts, l.diagnostics = []) :
    allPlaceholders ((Builder.start r view p.name).methodLayout m d).1.instructions = [] := by
  have known : ∀ place ∈ (Layout.methodOutline r view m d).requests,
      (protocolTable r view p).Knows place := fun place asked =>
    protocolTable_knows_iff.2 (mem_protocolRequests mem asked)
  have silent := clean _ (ProtocolLayout.mem_layouts_build_iff.2 (.inr ⟨m, mem, d, rfl⟩))
  obtain ⟨names, abbrs, renamed⟩ :=
    fresh_renames_named p.name m d (protocolTable_distinct r view p) known
  rw [renamed] at silent
  have inStep : InStep ((Builder.start r view p.name).methodLayout m d).1 :=
    Layout.methodLayout_inStep r view (.empty p.name) m d
  rw [inStep.placeholders, List.map_eq_nil_iff]
  exact List.map_eq_nil_iff.1 silent

/-- The diagnostics of a protocol are empty exactly if its block has no placeholder: no instruction
of a message is one, at any depth, and no comment stands among the declarations, which amounts to
the block having no comment at all. In that case no payload makes an inspection of the protocol fail
for want of a layout. -/
theorem diagnostics_eq_nil_iff_no_placeholder (r : Registry) (view : Nat) (p : Protocol)
    (space table : String) (id : UInt16) :
    let l := ProtocolLayout.build r view p
    (l.diagnostics space p.name = [] ↔
      (∀ m ∈ l.methods, ∀ d, allPlaceholders (m.message d).instructions = []) ∧
      commentsIn ((Declarations.empty (protoVar space p.name)).layouts l.layouts).1 = []) ∧
    (l.diagnostics space p.name = [] ↔ commentsIn (protocolBlock space table p id l) = []) ∧
    (l.diagnostics space p.name = [] → ∀ (d : Direction) (payload : Wire.Buffer)
      (field reason : String),
      (∀ m ∈ p.methods,
        Wire.decodePayload ((Builder.start r view p.name).methodLayout m d).1.instructions payload ≠
          .error (.unresolved field reason)) ∧
      ∀ given n, Report.findProtocol r given = .ok (view, n, p) → ∀ number,
        Report.inspect r given number d payload ≠ .error (.decode (.unresolved field reason))) := by
  intro l
  have messages (clean : ∀ layout ∈ l.layouts, layout.diagnostics = []) :
      ∀ m ∈ l.methods, ∀ d, allPlaceholders (m.message d).instructions = [] := by
    intro m mem d
    exact (allPlaceholders_eq_nil_iff mem d).2 (clean _ (message_mem_layouts mem d))
  rw [diagnostics_eq_nil_iff]
  refine ⟨?_, ?_, ?_⟩
  · rw [Declarations.layouts_eq_writeFirsts]
    show _ ↔ _ ∧ commentsIn (l.written.map (Entry.statement (protoVar space p.name))) = []
    -- the declarations by themselves have a comment for every diagnostic, those of messages too
    rw [commentsIn_written_eq_nil_iff]
    exact ⟨fun clean => ⟨messages clean, clean⟩, And.right⟩
  · rw [commentsIn_protocolBlock, List.append_eq_nil_iff, commentsIn_written_eq_nil_iff,
      List.flatMap_eq_nil_iff]
    refine ⟨fun clean => ⟨clean, fun m mem => ?_⟩, And.left⟩
    exact (comments_eq_nil_iff m).2 (messages clean m mem)
  · intro clean d payload field reason
    have never : ∀ m ∈ p.methods, Wire.decodePayload
        ((Builder.start r view p.name).methodLayout m d).1.instructions payload ≠
          .error (.unresolved field reason) := by
      intro m mem
      have resolved := fresh_allPlaceholders_eq_nil mem d clean
      exact Wire.decodePayload_ne_unresolved resolved payload field reason
    refine ⟨never, fun given n found number stops => ?_⟩
    -- an inspection that finds the protocol decodes with the layout of a new builder
    rw [Report.inspect_eq found] at stops
    cases chosen : p.method? number with
    | none =>
      rw [chosen] at stops
      cases stops
    | some m =>
      simp only [chosen, Report.reading] at stops
      split at stops
      · next e failed =>
        cases stops
        exact never m (List.mem_of_find?_eq_some chosen) failed
      · cases stops

end Comments

namespace Lobby

open Layout (Outline classDraft classNamed draftClass draftType methodOutline outlineField
  outlineFields)

def data : ClassSite := ⟨0, 0, "Game", "Data", none, [⟨"version", .scalar "uint16"⟩]⟩

/-- A class with a base. -/
def score : ClassSite := ⟨0, 1, "Game", "Score", some "Data", [⟨"rank", .scalar "uint32"⟩]⟩

/-- Takes scores, and returns names by number. -/
def join : Method where
  id := 1
  name := "Join"
  parameters := [⟨"scores", .template "qlist" [.classRef "Score"]⟩]
  returns := [⟨"names", .template "std_map" [.scalar "uint32", .scalar "string"]⟩]

def lobby : Protocol := ⟨some 7, "Lobby", [join]⟩

def game : Namespace := ⟨"Game", [data.decl, score.decl], [lobby]⟩

def registry : Registry := ⟨[game]⟩

theorem requiredClasses_eq : registry.requiredClasses 0 lobby = [score, data] := by
  rw [Registry.requiredClasses, show lobby.referencedClasses = ["Score"] from rfl,
    Registry.visit_cons_of_new rfl rfl]
  show registry.visit 0 [score] ["Data"] = _
  rw [Registry.visit_cons_of_new rfl rfl]
  show registry.visit 0 [score, data] [] = _
  rw [Registry.visit]

/-- The outline of the field of the base, which is in its own scope. -/
def version : Outline := .value ⟨.inClass "Game" "Data", ["version"]⟩ "version" .uint16

def rank : Outline := .value ⟨.inClass "Game" "Score", ["rank"]⟩ "rank" .uint32

theorem classDraft_data : classDraft registry 0 data = .ok (.both version .nothing) := by
  have flat : registry.flatten 0 data = .ok [⟨data, "version", .scalar "uint16"⟩] := by
    rw [Registry.flatten, Registry.baseChain_of_base_none rfl]
    rfl
  rw [classDraft, show registry.classes.length = 2 from rfl, draftClass,
    show data.isIn [] = false from rfl]
  simp only [flat]
  rfl

theorem classDraft_score :
    classDraft registry 0 score = .ok (.both version (.both rank .nothing)) := by
  have flat : registry.flatten 0 score =
      .ok [⟨data, "version", .scalar "uint16"⟩, ⟨score, "rank", .scalar "uint32"⟩] := by
    rw [Registry.flatten, Registry.baseChain_of_base_some rfl rfl rfl,
      Registry.baseChain_of_base_none rfl]
    rfl
  rw [classDraft, show registry.classes.length = 2 from rfl, draftClass,
    show score.isIn [] = false from rfl]
  simp only [flat]
  rfl

theorem diagnostics_lobby :
    (ProtocolLayout.build registry 0 lobby).diagnostics "Game" "Lobby" = [] := by
  rw [diagnostics_eq_nil_iff]
  intro l mem
  rcases ProtocolLayout.mem_layouts_build_iff.1 mem with ⟨c, required, rfl⟩ | ⟨m, known, d, rfl⟩
  · rw [requiredClasses_eq] at required
    unfold classNamed
    rcases List.mem_cons.1 required with rfl | required
    · rw [classDraft_score]
      rfl
    · rw [List.mem_singleton.1 required, classDraft_data]
      rfl
  · rw [List.mem_singleton.1 known]
    cases d with
    | response => rfl
    | request =>
      have found : registry.resolve 0 "Score" = .ok score := rfl
      have kind : TemplateKind.ofName? "qlist" = some .sequence := rfl
      have inside : draftClass registry.classes.length ⟨registry, 0, []⟩ score = _ :=
        classDraft_score
      simp only [methodOutline, join, Method.fields, List.map_cons, List.map_nil, outlineFields,
        outlineField, draftType, kind, found, inside]
      rfl

/-- A protocol whose classes have bases and whose messages have containers has no diagnostics, and
no payload of its first method is refused for want of a layout. -/
theorem inspect_ne_unresolved :
    (ProtocolLayout.build registry 0 lobby).diagnostics "Game" "Lobby" = [] ∧
    Report.findProtocol registry "Lobby" = .ok (0, game, lobby) ∧
    ∀ payload field reason,
      Wire.decodePayload
          ((Builder.start registry 0 "Lobby").methodLayout join .request).1.instructions payload ≠
        .error (.unresolved field reason) ∧
      Report.inspect registry "Lobby" 1 .request payload ≠
        .error (.decode (.unresolved field reason)) := by
  have found : Report.findProtocol registry "Lobby" = .ok (0, game, lobby) := rfl
  refine ⟨diagnostics_lobby, found, fun payload field reason => ?_⟩
  obtain ⟨decodes, inspects⟩ :=
    (diagnostics_eq_nil_iff_no_placeholder registry 0 lobby "Game" "rmc.protocol_id" 7).2.2
      diagnostics_lobby .request payload field reason
  exact ⟨decodes join (List.mem_singleton_self join), inspects "Lobby" game found 1⟩

end Lobby

end Dissect.Script
