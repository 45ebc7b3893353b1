import Dissect.Document.Conversion
import Dissect.Proofs.Layout.Contributions
import Dissect.Proofs.Script.Placeholders

/-!
# Reports on fields without a layout

A field whose type has no layout is reported under its path, and a comment stands under its
identifier among the declarations. Of the failures under one path only the first is reported, and of
those under one identifier only the first is written (`failing_field_reports`). A method may have a
field of one name in its request and in its response, and methods may have one name, so that a field
may be without a report and a comment of its own (`Mirrors.not_reported`).
-/

set_option autoImplicit false

namespace Dissect.Layout

open Schema

/-! ## The failures that fields contribute -/

/-- The fields that a task is about, those of classes apart. -/
def Task.ownFields : Task → List (Scope × Field)
  | .type _ _ _ _ => []
  | .field scope f => [(scope, f)]
  | .fields fs => fs
  | .ofClass _ => []

/-- The failure of a field that is declared in a class. -/
def InsideClass (path : String) (place : Place) : Prop :=
  ∃ space name field, path = s!"{(Scope.inClass space name).text}.{field}" ∧
    place = ⟨.inClass space name, [field]⟩

section Failures

variable {s : Setting} {path : String} {place : Place} {e : SchemaError}

/-- A failure is that of a field of the task, with the flaw of its type, or that of a field of a
class. -/
theorem Contributes.failure_cases {task : Task} {pieces : List Piece}
    (contributes : Contributes s task pieces) (mem : Piece.failure path place e ∈ pieces) :
    (∃ a ∈ task.ownFields, flaw s a.2.type = some e ∧ path = s!"{a.1.text}.{a.2.name}" ∧
      place = ⟨a.1, [a.2.name]⟩) ∨ InsideClass path place := by
  induction contributes with
  | scalar known => cases List.mem_singleton.1 mem
  | classRef found inside ih =>
    rcases ih mem with ⟨a, own, -⟩ | inside
    · cases own
    · exact .inr inside
  | any kind inside ih => exact ih mem
  | sequence kind inside ih => exact ih mem
  | map kind first second ihKey ihValue =>
    rcases List.mem_append.1 mem with mem | mem
    · exact ihKey mem
    · exact ihValue mem
  | field sound inside ih =>
    rcases ih mem with ⟨a, own, -⟩ | inside
    · cases own
    · exact .inr inside
  | failure flawed =>
    cases List.mem_singleton.1 mem
    exact .inl ⟨_, List.mem_singleton_self _, flawed, rfl, rfl⟩
  | noFields => cases mem
  | moreFields first second ihFirst ihRest =>
    rcases List.mem_append.1 mem with mem | mem
    · rcases ihFirst mem with ⟨a, own, found⟩ | inside
      · exact .inl ⟨a, List.mem_cons.2 (.inl (List.mem_singleton.1 own)), found⟩
      · exact .inr inside
    · rcases ihRest mem with ⟨a, own, found⟩ | inside
      · exact .inl ⟨a, List.mem_cons_of_mem _ own, found⟩
      · exact .inr inside
  | ofClass flat inside ih =>
    -- the fields that a class is laid out with are declared in it or in its bases
    rcases ih mem with ⟨a, own, -, isPath, isPlace⟩ | inside
    · obtain ⟨f, -, rfl⟩ := List.mem_map.1 own
      exact .inr ⟨_, _, _, isPath, isPlace⟩
    · exact .inr inside

/-- A field with a flaw contributes its failure, whatever stands around it. -/
theorem Contributes.failure_mem {fields : List (Scope × Field)} {pieces : List Piece}
    (contributes : Contributes s (.fields fields) pieces) {scope : Scope} {field : Field}
    (mem : (scope, field) ∈ fields) (flawed : flaw s field.type = some e) :
    .failure s!"{scope.text}.{field.name}" ⟨scope, [field.name]⟩ e ∈ pieces := by
  induction fields generalizing pieces with
  | nil => cases mem
  | cons head rest ih =>
    cases contributes with
    | moreFields first second =>
      rcases List.mem_cons.1 mem with first | mem
      · cases first
        rw [first.unique (.failure flawed)]
        exact List.mem_append_left _ (List.mem_singleton_self _)
      · exact List.mem_append_right _ (ih second mem)

/-- The place of a failure has been asked for. -/
theorem Outline.mem_requests_of_failure {o : Outline} (mem : .failure path place e ∈ o.pieces) :
    place ∈ o.requests := by
  induction o with
  | nothing => cases mem
  | value _ _ _ => cases List.mem_singleton.1 mem
  | counted body ih => exact ih mem
  | both first second ihFirst ihSecond =>
    rcases List.mem_append.1 mem with mem | mem
    · exact List.mem_append_left _ (ihFirst mem)
    · exact List.mem_append_right _ (ihSecond mem)
  | placeholder asked _ _ _ =>
    cases List.mem_singleton.1 mem
    exact List.mem_append_right asked (List.mem_singleton_self place)

end Failures

end Dissect.Layout

namespace Dissect.Script

open Layout (Outline Place flaw InsideClass classDraft classFailure classNamed methodOutline)
open Schema

/-! ## The first under each path and under each key -/

section Firsts

variable {space protocol path : String} {reported : List Diagnostic}

theorem filter_report_of_met (met : ∃ d ∈ reported, d.path = path) (ds : List Layout.Diagnostic) :
    (report space protocol reported ds).filter (fun d => d.path = path) =
      reported.filter fun d => d.path = path := by
  induction ds generalizing reported with
  | nil => rfl
  | cons d rest ih =>
    rw [report]
    split
    · exact ih met
    · next new =>
      obtain ⟨first, mem, here⟩ := met
      have other : d.path ≠ path := by
        rintro rfl
        exact new (List.any_eq_true.2 ⟨first, mem, decide_eq_true here⟩)
      rw [ih ⟨first, List.mem_append_left _ mem, here⟩, List.filter_append]
      simp [other]

/-- Under a path that has not been met, the first failure is reported. -/
theorem filter_report_of_new (new : ∀ d ∈ reported, d.path ≠ path) (ds : List Layout.Diagnostic) :
    (report space protocol reported ds).filter (fun d => d.path = path) =
      ((ds.find? fun d => d.path = path).map fun d => ⟨space, protocol, path, d.error⟩).toList := by
  have unreported : reported.filter (fun d => d.path = path) = [] := by
    simpa [List.filter_eq_nil_iff] using new
  induction ds generalizing reported with
  | nil => exact unreported
  | cons d rest ih =>
    rw [report]
    by_cases here : d.path = path
    · have unmet : ¬ (reported.any fun r => r.path = d.path) = true := by
        simpa [here] using new
      have met : ∃ r ∈ reported ++ [⟨space, protocol, d.path, d.error⟩], r.path = path :=
        ⟨_, List.mem_append_right _ (List.mem_singleton_self _), here⟩
      rw [if_neg unmet, filter_report_of_met met, List.filter_append, unreported,
        List.find?_cons_of_pos (by simpa using here)]
      simp [here]
    · rw [List.find?_cons_of_neg (by simpa using here)]
      split
      · exact ih new unreported
      · refine ih ?_ ?_
        · exact List.forall_mem_append.2 ⟨new, List.forall_mem_singleton.2 here⟩
        · rw [List.filter_append, unreported]
          simp [here]

/-- The first entry under a key is written, and no other. -/
theorem filter_firsts {seen : List String} {k : String} (es : List Entry) :
    (firsts seen es).filter (fun e => e.key = k) =
      if k ∈ seen then [] else (es.find? fun e => e.key = k).toList := by
  induction es generalizing seen with
  | nil => simp [firsts]
  | cons e rest ih =>
    rw [firsts]
    split
    · next met =>
      have seen' : e.key ∈ seen := by simpa using met
      rw [ih]
      by_cases here : e.key = k
      · rw [if_pos (here ▸ seen'), if_pos (here ▸ seen')]
      · rw [List.find?_cons_of_neg (by simpa using here)]
    · next new =>
      have unseen : e.key ∉ seen := by simpa using new
      by_cases here : e.key = k
      · rw [List.filter_cons_of_pos (by simpa using here), ih, if_pos (by simp [here]),
          if_neg (here ▸ unseen), List.find?_cons_of_pos (by simpa using here)]
        rfl
      · rw [List.filter_cons_of_neg (by simpa using here), ih,
          List.find?_cons_of_neg (by simpa using here)]
        simp [Ne.symm here]

end Firsts

/-! ## The failures of a protocol -/

/-- The fields and the classes without a layout, in the order in which they are found. -/
def ProtocolLayout.failures (l : ProtocolLayout) : List Layout.Diagnostic :=
  l.layouts.flatMap fun layout => layout.diagnostics

/-- Among entries whose declarations have other keys, the first under the key of a comment is that
of the first failure. -/
theorem find?_comment {ident : String} (ls : List Layout)
    (apart : ∀ l ∈ ls, ∀ d ∈ l.declarations, (Entry.declare d).key ≠ s!"-- {ident}") :
    (ls.flatMap entries).find? (fun e => e.key = s!"-- {ident}") =
      ((ls.flatMap fun l => l.diagnostics).find? fun d => d.ident = ident).map .comment := by
  induction ls with
  | nil => rfl
  | cons l rest ih =>
    obtain ⟨here, later⟩ := List.forall_mem_cons.1 apart
    have declared : (l.declarations.map Entry.declare).find? (fun e => e.key = s!"-- {ident}") =
        none := by
      rw [List.find?_eq_none, List.forall_mem_map]
      exact fun d mem => by simpa using here d mem
    have commented : (l.diagnostics.map Entry.comment).find? (fun e => e.key = s!"-- {ident}") =
        (l.diagnostics.find? fun d => d.ident = ident).map .comment := by
      rw [List.find?_map]
      simp [Function.comp_def, Entry.key, toString]
    rw [List.flatMap_cons, List.flatMap_cons, List.find?_append, List.find?_append, entries,
      List.find?_append, declared, commented, ih later, Option.none_or, Option.map_or]

/-- A field of a message whose type has no layout, with the reason. -/
structure Fails (r : Registry) (view : Nat) (p : Protocol) (m : Method) (f : Field)
    (e : SchemaError) : Prop where
  method : m ∈ p.methods
  field : ∃ d, f ∈ m.fields d
  flawed : flaw ⟨r, view, []⟩ f.type = some e

/-- The path under which a field of a message is reported. -/
def fieldPath (m : Method) (f : Field) : String := s!"{m.name}.{f.name}"

/-- The identifier under which a field of a message is commented on. -/
def fieldIdent (r : Registry) (view : Nat) (p : Protocol) (m : Method) (f : Field) : String :=
  ((protocolTable r view p).identifier ⟨.method m.name, [f.name]⟩).name

section OfProtocol

variable {r : Registry} {view : Nat} {p : Protocol} {m : Method} {f : Field} {e : SchemaError}

/-- The place of a failing field of a message has been asked for, and its failure is found. -/
theorem Fails.found (fails : Fails r view p m f e) :
    (protocolTable r view p).Knows ⟨.method m.name, [f.name]⟩ ∧
    ⟨fieldPath m f, fieldIdent r view p m f, e⟩ ∈ (ProtocolLayout.build r view p).failures := by
  obtain ⟨d, mem⟩ := fails.field
  have contributed := (Layout.methodOutline_contributes r view m d).failure_mem
    (List.mem_map_of_mem mem) fails.flawed
  constructor
  · rw [protocolTable_knows_iff]
    exact mem_protocolRequests fails.method (Outline.mem_requests_of_failure contributed)
  · have layout : (methodOutline r view m d).named (protocolTable r view p).identifier ∈
        (ProtocolLayout.build r view p).layouts :=
      ProtocolLayout.mem_layouts_build_iff.2 (.inr ⟨m, fails.method, d, rfl⟩)
    refine List.mem_flatMap.2 ⟨_, layout, ?_⟩
    rw [Outline.diagnostics_eq_filterMap]
    exact List.mem_filterMap.2 ⟨_, contributed, rfl⟩

/-- A failure of a protocol is that of a field of a message, that of a field of a class, or that of
a class whose bases fail. -/
theorem failure_cases {d : Layout.Diagnostic} (mem : d ∈ (ProtocolLayout.build r view p).failures) :
    (∃ m f e, Fails r view p m f e ∧ d = ⟨fieldPath m f, fieldIdent r view p m f, e⟩) ∨
    (∃ place, InsideClass d.path place ∧ (protocolTable r view p).Knows place ∧
      d.ident = ((protocolTable r view p).identifier place).name) ∨
    ∃ c ∈ r.requiredClasses view p, ∃ e, r.flatten view c = .error e ∧
      d = ⟨c.qualifiedName, c.decl.name, e⟩ := by
  obtain ⟨layout, laid, shown⟩ := List.mem_flatMap.1 mem
  rcases ProtocolLayout.mem_layouts_build_iff.1 laid with ⟨c, required, rfl⟩ | ⟨m, method, dir, rfl⟩
  · have tells := Layout.classDraft_tells r view
      (Registry.requiredClasses_subset_classes c required)
    unfold classNamed at shown
    cases drafted : classDraft r view c with
    | error f =>
      rw [drafted] at shown
      rw [drafted] at tells
      cases List.mem_singleton.1 shown
      refine .inr (.inr ⟨c, required, f.error, ?_, rfl⟩)
      -- no class is active, so that only the bases can have failed
      have flawed : Layout.classFlaw ⟨r, view, []⟩ c = some f.error := tells
      rw [Layout.classFlaw, if_neg (by simp [ClassSite.isIn])] at flawed
      cases flat : r.flatten view c with
      | error e =>
        simp only [flat] at flawed
        cases flawed
        rfl
      | ok fields =>
        simp only [flat] at flawed
        cases flawed
    | ok o =>
      rw [drafted] at shown
      rw [drafted] at tells
      obtain ⟨path, place, e, contributed, rfl⟩ := Outline.exists_failure_of_diagnostic shown
      rcases tells.2.failure_cases contributed with ⟨a, own, -⟩ | inside
      · cases own
      · refine .inr (.inl ⟨place, inside, ?_, rfl⟩)
        have asked := Outline.mem_requests_of_failure contributed
        refine protocolTable_knows_iff.2 (List.mem_append_left _ ?_)
        refine List.mem_flatMap.2 ⟨c, required, ?_⟩
        rwa [drafted]
  · obtain ⟨path, place, e, contributed, rfl⟩ := Outline.exists_failure_of_diagnostic shown
    rcases (Layout.methodOutline_contributes r view m dir).failure_cases contributed with
      ⟨a, own, flawed, rfl, rfl⟩ | inside
    · obtain ⟨f, field, rfl⟩ := List.mem_map.1 own
      exact .inl ⟨m, f, e, ⟨method, ⟨dir, field⟩, flawed⟩, rfl⟩
    · refine .inr (.inl ⟨place, inside, ?_, rfl⟩)
      exact protocolTable_knows_iff.2
        (mem_protocolRequests method (Outline.mem_requests_of_failure contributed))

/-- No other failure stands in the way of a failing field: fields of messages that are reported
under the same path have the same error, no class is reported under the path, and no class whose
bases fail has the identifier as its name. -/
structure Unrivalled (r : Registry) (view : Nat) (p : Protocol) (m : Method) (f : Field)
    (e : SchemaError) : Prop where
  messages : ∀ m' f' e', Fails r view p m' f' e' → fieldPath m' f' = fieldPath m f → e' = e
  plain : ':' ∉ (fieldPath m f).toList
  classes : ∀ c ∈ r.requiredClasses view p, ∀ e', r.flatten view c = .error e' →
    c.decl.name ≠ fieldIdent r view p m f

/-- The paths of classes and of their fields have colons. -/
theorem colon_mem_of_insideClass {path : String} {place : Place} (inside : InsideClass path place) :
    ':' ∈ path.toList := by
  obtain ⟨space, name, field, rfl, -⟩ := inside
  simp [Layout.Scope.text, toString]

/-- No other error is found under the path. -/
theorem Unrivalled.error_of_path (unrivalled : Unrivalled r view p m f e) {d : Layout.Diagnostic}
    (mem : d ∈ (ProtocolLayout.build r view p).failures) (same : d.path = fieldPath m f) :
    d.error = e := by
  rcases failure_cases mem with ⟨m', f', e', fails, rfl⟩ | ⟨place, inside, -⟩ | ⟨c, -, e', -, rfl⟩
  · exact unrivalled.messages m' f' e' fails same
  · refine absurd ?_ unrivalled.plain
    rw [← same]
    exact colon_mem_of_insideClass inside
  · refine absurd ?_ unrivalled.plain
    rw [← same]
    simp [ClassSite.qualifiedName, toString]

/-- No other error is found under the identifier: places are told apart by their identifiers, so
that only fields of the same name in methods of the same name share one. -/
theorem Unrivalled.error_of_ident (unrivalled : Unrivalled r view p m f e)
    (known : (protocolTable r view p).Knows ⟨.method m.name, [f.name]⟩) {d : Layout.Diagnostic}
    (mem : d ∈ (ProtocolLayout.build r view p).failures)
    (same : d.ident = fieldIdent r view p m f) : d.error = e := by
  have distinct := protocolTable_distinct r view p
  rcases failure_cases mem with ⟨m', f', e', fails, rfl⟩ | ⟨place, inside, asked, ident⟩ |
    ⟨c, required, e', failed, rfl⟩
  · have places := Layout.IdentifierTable.eq_of_identifier distinct fails.found.1 known (.inl same)
    apply unrivalled.messages m' f' e' fails
    simp only [Place.mk.injEq, Layout.Scope.method.injEq, List.cons.injEq, and_true] at places
    rw [fieldPath, fieldPath, places.1, places.2]
  · -- no place in a class is one in a message
    have places := Layout.IdentifierTable.eq_of_identifier distinct asked known
      (.inl (ident.symm.trans same))
    obtain ⟨space, name, field, -, rfl⟩ := inside
    cases places
  · exact absurd same (unrivalled.classes c required e' failed)

end OfProtocol

/-! ## Reports and comments -/

/-- Under a path the first failure is reported, and nothing else. -/
theorem ProtocolLayout.filter_diagnostics (l : ProtocolLayout) (space protocol path : String) :
    (l.diagnostics space protocol).filter (fun d => d.path = path) =
      ((l.failures.find? fun d => d.path = path).map fun d =>
        ⟨space, protocol, path, d.error⟩).toList :=
  filter_report_of_new (List.forall_mem_nil _) l.failures

/-- Under an identifier there is a comment on the first failure, and no other. -/
theorem filter_written (r : Registry) (view : Nat) (p : Protocol) (ident : String) :
    (ProtocolLayout.build r view p).written.filter (fun e => e.key = s!"-- {ident}") =
      (((ProtocolLayout.build r view p).failures.find? fun d => d.ident = ident).map
        .comment).toList := by
  rw [ProtocolLayout.written, filter_firsts, if_neg List.not_mem_nil, find?_comment]
  · rfl
  · intro l laid d declared
    exact declaration_key_ne laid declared ⟨"", ident, .classNotFound ""⟩

/-- The error is among those reported under the path. -/
def ReportedAs (reports : List Diagnostic) (path : String) (e : SchemaError) : Prop :=
  ∃ d ∈ reports, d.path = path ∧ d.error = e

/-- The error is among those that are quoted under the identifier. -/
def CommentedAs (written : List Entry) (ident : String) (e : SchemaError) : Prop :=
  ∃ d, Entry.comment d ∈ written ∧ d.ident = ident ∧ d.error = e

theorem reportedAs_iff (l : ProtocolLayout) (space protocol path : String) (e : SchemaError) :
    ReportedAs (l.diagnostics space protocol) path e ↔
      (l.failures.find? fun d => d.path = path).map (fun d => d.error) = some e := by
  have filtered := l.filter_diagnostics space protocol path
  constructor
  · rintro ⟨d, mem, here, rfl⟩
    have kept : d ∈ (l.diagnostics space protocol).filter fun d => d.path = path :=
      List.mem_filter.2 ⟨mem, decide_eq_true here⟩
    rw [filtered, Option.mem_toList, Option.map_eq_some_iff] at kept
    obtain ⟨first, found, rfl⟩ := kept
    rw [found]
    rfl
  · intro of
    obtain ⟨first, found, rfl⟩ := Option.map_eq_some_iff.1 of
    rw [found] at filtered
    have kept : (⟨space, protocol, path, first.error⟩ : Diagnostic) ∈
        (l.diagnostics space protocol).filter fun d => d.path = path := by
      rw [filtered]
      exact List.mem_singleton_self _
    exact ⟨_, (List.mem_filter.1 kept).1, rfl, rfl⟩

theorem commentedAs_iff (r : Registry) (view : Nat) (p : Protocol) (ident : String)
    (e : SchemaError) :
    CommentedAs (ProtocolLayout.build r view p).written ident e ↔
      ((ProtocolLayout.build r view p).failures.find? fun d => d.ident = ident).map
        (fun d => d.error) = some e := by
  have filtered := filter_written r view p ident
  constructor
  · rintro ⟨d, mem, rfl, rfl⟩
    have kept : Entry.comment d ∈ (ProtocolLayout.build r view p).written.filter
        fun e => e.key = s!"-- {d.ident}" :=
      List.mem_filter.2 ⟨mem, decide_eq_true rfl⟩
    rw [filtered, Option.mem_toList, Option.map_eq_some_iff] at kept
    obtain ⟨first, found, made⟩ := kept
    cases made
    rw [found]
    rfl
  · intro of
    obtain ⟨first, found, rfl⟩ := Option.map_eq_some_iff.1 of
    rw [found] at filtered
    have kept : Entry.comment first ∈ (ProtocolLayout.build r view p).written.filter
        fun e => e.key = s!"-- {ident}" := by
      rw [filtered]
      exact List.mem_singleton_self _
    exact ⟨first, (List.mem_filter.1 kept).1, by simpa using List.find?_some found, rfl⟩

/-- Under the path of a field without a layout exactly one error is reported, and exactly one
comment stands under its identifier among the declarations. The one has the error of the first
failure under the path, the other that of the first failure under the identifier, and both have the
error of the field itself if it has no rivals. -/
theorem failing_field_reports {r : Registry} {view : Nat} {p : Protocol} {m : Method} {f : Field}
    {e : SchemaError} (fails : Fails r view p m f e) (space : String) :
    let l := ProtocolLayout.build r view p
    let reports := l.diagnostics space p.name
    let declared := ((Declarations.empty (protoVar space p.name)).layouts l.layouts).1
    let path := fieldPath m f
    let ident := fieldIdent r view p m f
    declared = l.written.map (Entry.statement (protoVar space p.name)) ∧
    (reports.filter fun d => d.path = path).length = 1 ∧
    (l.written.filter fun entry => entry.key = s!"-- {ident}").length = 1 ∧
    (ReportedAs reports path e ↔
      (l.failures.find? fun d => d.path = path).map (fun d => d.error) = some e) ∧
    (CommentedAs l.written ident e ↔
      (l.failures.find? fun d => d.ident = ident).map (fun d => d.error) = some e) ∧
    (Unrivalled r view p m f e → ReportedAs reports path e ∧ CommentedAs l.written ident e ∧
      placeholder ident e.message ∈ declared) := by
  intro l reports declared path ident
  obtain ⟨known, found⟩ := fails.found
  have onPath : ∃ first, l.failures.find? (fun d => d.path = path) = some first := by
    rw [← Option.isSome_iff_exists, List.find?_isSome]
    exact ⟨_, found, by simp [path]⟩
  have onIdent : ∃ first, l.failures.find? (fun d => d.ident = ident) = some first := by
    rw [← Option.isSome_iff_exists, List.find?_isSome]
    exact ⟨_, found, by simp [ident]⟩
  obtain ⟨first, isFirst⟩ := onPath
  obtain ⟨comment, isComment⟩ := onIdent
  have entries : declared = l.written.map (Entry.statement (protoVar space p.name)) := by
    show ((Declarations.empty (protoVar space p.name)).layouts l.layouts).1 = _
    rw [Declarations.layouts_eq_writeFirsts]
    rfl
  refine ⟨entries, ?_, ?_, reportedAs_iff .., commentedAs_iff .., ?_⟩
  · rw [l.filter_diagnostics, isFirst]
    rfl
  · rw [filter_written, isComment]
    rfl
  · intro unrivalled
    have reported : first.error = e := unrivalled.error_of_path (List.mem_of_find?_eq_some isFirst)
      (by simpa using List.find?_some isFirst)
    have commented : comment.error = e :=
      unrivalled.error_of_ident known (List.mem_of_find?_eq_some isComment)
        (by simpa using List.find?_some isComment)
    have quoted : CommentedAs l.written ident e := by
      rw [commentedAs_iff, isComment, Option.map_some, commented]
    refine ⟨?_, quoted, ?_⟩
    · rw [reportedAs_iff, isFirst, Option.map_some, reported]
    · obtain ⟨d, mem, isIdent, isError⟩ := quoted
      rw [entries, ← isIdent, ← isError]
      exact List.mem_map_of_mem mem

namespace Mirrors

/-- A method whose request and response have a field of one name, which both fail for one reason. -/
def look : Method where
  id := 1
  name := "Look"
  parameters := [⟨"target", .scalar "vec"⟩, ⟨"speed", .scalar "uint32"⟩]
  returns := [⟨"target", .template "qlist" [.scalar "vec"]⟩]

def camera : Protocol := ⟨some 2, "Camera", [look]⟩

def cameras : Registry := ⟨[⟨"Game", [], [camera]⟩]⟩

/-- The list of the response is reported with the error that it shares with the request. -/
theorem look_reported :
    Fails cameras 0 camera look ⟨"target", .template "qlist" [.scalar "vec"]⟩
      (.unknownScalar "vec") ∧
    ReportedAs ((ProtocolLayout.build cameras 0 camera).diagnostics "Game" "Camera") "Look.target"
      (.unknownScalar "vec") ∧
    placeholder "look_target" "unknown scalar type 'vec'" ∈
      ((Declarations.empty "game_camera").layouts
        (ProtocolLayout.build cameras 0 camera).layouts).1 := by
  have fails : Fails cameras 0 camera look ⟨"target", .template "qlist" [.scalar "vec"]⟩
      (.unknownScalar "vec") :=
    ⟨List.mem_singleton_self _, ⟨.response, List.mem_singleton_self _⟩, rfl⟩
  have ident : fieldIdent cameras 0 camera look ⟨"target", .template "qlist" [.scalar "vec"]⟩ =
      "look_target" := by
    rw [fieldIdent, protocolTable, protocolRequests, Registry.requiredClasses_eq_nil rfl]
    rfl
  have unrivalled : Unrivalled cameras 0 camera look ⟨"target", .template "qlist" [.scalar "vec"]⟩
      (.unknownScalar "vec") := by
    refine ⟨?_, by decide, ?_⟩
    · rintro m f e ⟨method, ⟨d, field⟩, flawed⟩ same
      cases List.mem_singleton.1 method
      -- the fields that fail have one error, and the other one has no flaw
      have all : ∀ f ∈ look.fields d, flaw ⟨cameras, 0, []⟩ f.type = none ∨
          flaw ⟨cameras, 0, []⟩ f.type = some (.unknownScalar "vec") := by
        cases d <;> decide
      rcases all f field with sound | unknown
      · cases sound.symm.trans flawed
      · cases unknown.symm.trans flawed
        rfl
    · rw [Registry.requiredClasses_eq_nil rfl]
      exact List.forall_mem_nil _
  obtain ⟨-, -, -, -, -, own⟩ := failing_field_reports fails "Game"
  obtain ⟨reported, -, commented⟩ := own unrivalled
  rw [ident] at commented
  exact ⟨fails, reported, commented⟩

/-- A method whose request and response have a field of one name, which fail for two reasons. -/
def echo : Method where
  id := 1
  name := "Echo"
  parameters := [⟨"target", .scalar "vec"⟩]
  returns := [⟨"target", .scalar "mat"⟩]

def chat : Protocol := ⟨some 1, "Chat", [echo]⟩

def registry : Registry := ⟨[⟨"Game", [], [chat]⟩]⟩

/-- The document with that method. -/
def document : Document.DocumentUnit where
  elements := [.unitDeclaration "Game", .protocolDeclaration "Chat" none (some 1)
    [.method "Echo" [.parameter "target" (.bare (.simple "vec")) "Request",
      .parameter "target" (.bare (.simple "mat")) "Response"]]]

/-- The error of the response is neither reported nor commented on. -/
theorem not_reported :
    Document.buildRegistry [document] = .ok registry ∧
    Fails registry 0 chat echo ⟨"target", .scalar "mat"⟩ (.unknownScalar "mat") ∧
    ¬ ReportedAs ((ProtocolLayout.build registry 0 chat).diagnostics "Game" "Chat") "Echo.target"
      (.unknownScalar "mat") ∧
    placeholder "echo_target" "unknown scalar type 'mat'" ∉
      ((Declarations.empty "game_chat").layouts
        (ProtocolLayout.build registry 0 chat).layouts).1 := by
  have layouts : (ProtocolLayout.build registry 0 chat).layouts =
      [⟨[], [.unresolved "echo_target" "unknown scalar type 'vec'"],
        [⟨"Echo.target", "echo_target", .unknownScalar "vec"⟩]⟩,
      ⟨[], [.unresolved "echo_target" "unknown scalar type 'mat'"],
        [⟨"Echo.target", "echo_target", .unknownScalar "mat"⟩]⟩] := by
    rw [ProtocolLayout.build, Registry.requiredClasses_eq_nil rfl]
    rfl
  refine ⟨rfl, ?_, ?_, ?_⟩
  · exact ⟨List.mem_singleton_self _, ⟨.response, List.mem_singleton_self _⟩, rfl⟩
  · rw [reportedAs_iff, ProtocolLayout.failures, layouts]
    decide
  · rw [layouts]
    intro mem
    have same := List.mem_singleton.1 mem
    exact absurd (Statement.comment.inj same) (by decide)

end Mirrors

end Dissect.Script
