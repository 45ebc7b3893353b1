import Dissect.Proofs.Layout.Renaming
import Dissect.Report
import Dissect.Script.Block

/-!
# The layouts of a protocol

All layouts of a protocol are made by one builder, one after another. Under the identifiers of the
table that is reached in the end, each of them is the layout of its own outline
(`ProtocolLayout.build_eq_named`): the identifiers that a class or a method gets are not changed by
what comes after it. A method has therefore the layout that a new builder gives it, up to a renaming
(`fresh_renames_methodLayout`), and an inspection reads a payload with the layout of the branch
that the script has for it.
-/

set_option autoImplicit false

namespace Dissect.Script

open Layout
open Schema

/-! ## One table for all layouts -/

/-- The places that the layouts of classes ask for, in order. -/
def classRequests (r : Registry) (view : Nat) (cs : List ClassSite) : List Place :=
  cs.flatMap fun c => (classDraft r view c).requests

/-- The places that the layouts of a method ask for, in order. -/
def messageRequests (r : Registry) (view : Nat) (m : Method) : List Place :=
  (methodOutline r view m .request).requests ++ (methodOutline r view m .response).requests

/-- The places that the layouts of methods ask for, in order. -/
def methodRequests (r : Registry) (view : Nat) (ms : List Method) : List Place :=
  ms.flatMap (messageRequests r view)

/-- The layouts of a method under given identifiers. -/
def methodNamed (names : Place → Identifier) (r : Registry) (view : Nat) (m : Method) :
    MethodLayouts :=
  ⟨m, (methodOutline r view m .request).named names, (methodOutline r view m .response).named names⟩

/-- The layout of the message that goes in a direction. -/
def MethodLayouts.message (l : MethodLayouts) : Direction → Layout
  | .request => l.request
  | .response => l.response

variable {r : Registry} {view : Nat}

theorem methodNamed_message (names : Place → Identifier) (m : Method) (d : Direction) :
    (methodNamed names r view m).message d = (methodOutline r view m d).named names := by
  cases d <;> rfl

theorem methodNamed_after {m : Method} {t : IdentifierTable}
    (known : ∀ place ∈ messageRequests r view m, t.Knows place) (more : List Place) :
    methodNamed (t.after more).identifier r view m = methodNamed t.identifier r view m := by
  obtain ⟨knownRequest, knownResponse⟩ := List.forall_mem_append.1 known
  rw [methodNamed, methodNamed, Outline.named_after _ knownRequest,
    Outline.named_after _ knownResponse]

theorem classLayouts_eq_named (t : IdentifierTable) (cs : List ClassSite) :
    classLayouts (.between r view t) cs =
      (cs.map (classNamed (t.after (classRequests r view cs)).identifier r view),
        .between r view (t.after (classRequests r view cs))) := by
  induction cs generalizing t with
  | nil => rfl
  | cons c rest ih =>
    have known : ∀ place ∈ (classDraft r view c).requests,
        (t.after (classDraft r view c).requests).Knows place := fun place mem =>
      (t.knows_after_iff _ place).2 (.inl mem)
    have first := classNamed_after known (classRequests r view rest)
    simp only [classLayouts, classLayout_eq_named, ih, classRequests, List.flatMap_cons,
      IdentifierTable.after_append, List.map_cons]
    rw [← classRequests, first]

/-- The response is laid out by the builder that the request has left. -/
theorem methodLayouts_cons (t : IdentifierTable) (m : Method) (rest : List Method) :
    methodLayouts (.between r view t) (m :: rest) =
      (methodNamed (t.after (messageRequests r view m)).identifier r view m ::
          (methodLayouts (.between r view (t.after (messageRequests r view m))) rest).1,
        (methodLayouts (.between r view (t.after (messageRequests r view m))) rest).2) := by
  have known : ∀ place ∈ (methodOutline r view m .request).requests,
      (t.after (methodOutline r view m .request).requests).Knows place := fun place mem =>
    (t.knows_after_iff _ place).2 (.inl mem)
  simp only [methodLayouts, methodLayout_eq_named, methodNamed, messageRequests,
    IdentifierTable.after_append, Outline.named_after _ known]

theorem methodLayouts_eq_named (t : IdentifierTable) (ms : List Method) :
    methodLayouts (.between r view t) ms =
      (ms.map (methodNamed (t.after (methodRequests r view ms)).identifier r view),
        .between r view (t.after (methodRequests r view ms))) := by
  induction ms generalizing t with
  | nil => rfl
  | cons m rest ih =>
    have known : ∀ place ∈ messageRequests r view m,
        (t.after (messageRequests r view m)).Knows place := fun place mem =>
      (t.knows_after_iff _ place).2 (.inl mem)
    have first := methodNamed_after known (methodRequests r view rest)
    rw [methodLayouts_cons, ih]
    simp only [methodRequests, List.flatMap_cons, IdentifierTable.after_append, List.map_cons]
    rw [← methodRequests, first]

/-- The places that the layouts of a protocol ask for, in order. -/
def protocolRequests (r : Registry) (view : Nat) (p : Protocol) : List Place :=
  classRequests r view (r.requiredClasses view p) ++ methodRequests r view p.methods

/-- The table behind all layouts of a protocol. -/
def protocolTable (r : Registry) (view : Nat) (p : Protocol) : IdentifierTable :=
  (IdentifierTable.empty p.name).after (protocolRequests r view p)

theorem protocolTable_distinct (r : Registry) (view : Nat) (p : Protocol) :
    (protocolTable r view p).entries.Pairwise Distinct :=
  IdentifierTable.after_distinct .nil _

theorem protocolTable_knows_iff {p : Protocol} {place : Place} :
    (protocolTable r view p).Knows place ↔ place ∈ protocolRequests r view p := by
  rw [protocolTable, IdentifierTable.knows_after_iff]
  constructor
  · rintro (mem | ⟨_, entry⟩)
    · exact mem
    · cases entry
  · exact .inl

/-- All layouts of a protocol are outlines under the identifiers of one table. -/
theorem ProtocolLayout.build_eq_named (r : Registry) (view : Nat) (p : Protocol) :
    ProtocolLayout.build r view p =
      ⟨(r.requiredClasses view p).map (classNamed (protocolTable r view p).identifier r view),
        p.methods.map (methodNamed (protocolTable r view p).identifier r view)⟩ := by
  have start : Builder.start r view p.name = .between r view (.empty p.name) := rfl
  simp only [ProtocolLayout.build, start, classLayouts_eq_named, methodLayouts_eq_named]
  have table : protocolTable r view p =
      ((IdentifierTable.empty p.name).after (classRequests r view (r.requiredClasses view p))).after
        (methodRequests r view p.methods) := IdentifierTable.after_append ..
  rw [← table]
  congr 1
  refine List.map_congr_left fun c mem => ?_
  rw [table]
  refine (classNamed_after (fun place asked => ?_) _).symm
  exact (IdentifierTable.knows_after_iff _ _ place).2 (.inl (List.mem_flatMap.2 ⟨c, mem, asked⟩))

theorem mem_protocolRequests {p : Protocol} {m : Method} (mem : m ∈ p.methods) {d : Direction}
    {place : Place} (asked : place ∈ (methodOutline r view m d).requests) :
    place ∈ protocolRequests r view p := by
  refine List.mem_append_right _ (List.mem_flatMap.2 ⟨m, mem, ?_⟩)
  cases d with
  | request => exact List.mem_append_left _ asked
  | response => exact List.mem_append_right _ asked

/-- The layouts of a protocol are those of the classes that it needs and those of its messages. -/
theorem ProtocolLayout.mem_layouts_build_iff {p : Protocol} {l : Layout} :
    l ∈ (ProtocolLayout.build r view p).layouts ↔
      (∃ c ∈ r.requiredClasses view p,
        l = classNamed (protocolTable r view p).identifier r view c) ∨
      ∃ m ∈ p.methods, ∃ d,
        l = (methodOutline r view m d).named (protocolTable r view p).identifier := by
  rw [build_eq_named, layouts, List.mem_append, List.mem_map, List.flatMap_map, List.mem_flatMap]
  refine or_congr ?_ ?_
  · exact exists_congr fun c => and_congr_right fun _ => eq_comm
  · refine exists_congr fun m => and_congr_right fun _ => ?_
    simp only [List.mem_cons, List.not_mem_nil, or_false]
    constructor
    · rintro (laid | laid)
      · exact ⟨.request, laid⟩
      · exact ⟨.response, laid⟩
    · rintro ⟨d, laid⟩
      cases d with
      | request => exact .inl laid
      | response => exact .inr laid

/-- The values of a class with their places; none if it has no layout. -/
def classValues (r : Registry) (view : Nat) (c : ClassSite) : List (Place × Wire.Scalar) :=
  match classDraft r view c with
  | .ok o => o.values
  | .error _ => []

/-- All values that are laid out for a protocol with their places, in the order in which they are
declared. -/
def protocolValues (r : Registry) (view : Nat) (p : Protocol) : List (Place × Wire.Scalar) :=
  (r.requiredClasses view p).flatMap (classValues r view)
    ++ p.methods.flatMap fun m =>
      (methodOutline r view m .request).values ++ (methodOutline r view m .response).values

theorem declarations_classNamed (names : Place → Identifier) (c : ClassSite) :
    ((classNamed names r view c).declarations.map fun d => (d.ident, d.type)) =
      (classValues r view c).map fun v => (names v.1, v.2) := by
  unfold classNamed classValues
  cases classDraft r view c with
  | ok o => exact o.declarations_named names
  | error f => rfl

/-- The declarations for a protocol are those of its values, in order. -/
theorem ProtocolLayout.declarations_build (r : Registry) (view : Nat) (p : Protocol) :
    (((ProtocolLayout.build r view p).layouts.flatMap fun l => l.declarations).map
        fun d => (d.ident, d.type)) =
      (protocolValues r view p).map fun v => ((protocolTable r view p).identifier v.1, v.2) := by
  have message (m : Method) (d : Direction) :=
    (methodOutline r view m d).declarations_named (protocolTable r view p).identifier
  rw [build_eq_named, layouts, protocolValues, List.flatMap_append, List.map_append,
    List.map_append]
  congr 1
  · rw [List.flatMap_map, List.map_flatMap, List.map_flatMap]
    exact List.flatMap_congr fun c _ => declarations_classNamed _ c
  · rw [List.flatMap_assoc, List.flatMap_map, List.map_flatMap, List.map_flatMap]
    refine List.flatMap_congr fun m _ => ?_
    rw [List.map_append, ← message, ← message]
    simp [methodNamed]

theorem knows_of_mem_protocolValues {p : Protocol} {v : Place × Wire.Scalar}
    (mem : v ∈ protocolValues r view p) : (protocolTable r view p).Knows v.1 := by
  rw [protocolTable_knows_iff]
  rcases List.mem_append.1 mem with mem | mem
  · obtain ⟨c, required, value⟩ := List.mem_flatMap.1 mem
    refine List.mem_append_left _ (List.mem_flatMap.2 ⟨c, required, ?_⟩)
    unfold classValues at value
    cases drafted : classDraft r view c with
    | error f =>
      rw [drafted] at value
      cases value
    | ok o =>
      rw [drafted] at value
      exact Outline.mem_requests_of_mem_values value
  · obtain ⟨m, known, value⟩ := List.mem_flatMap.1 mem
    rcases List.mem_append.1 value with value | value
    · exact mem_protocolRequests known (Outline.mem_requests_of_mem_values value)
    · exact mem_protocolRequests known (Outline.mem_requests_of_mem_values value)

/-- Every declaration for a protocol is that of a value, under the identifier of its place. -/
theorem ProtocolLayout.exists_value_of_declared {p : Protocol} {l : Layout}
    (mem : l ∈ (ProtocolLayout.build r view p).layouts) {d : Declaration}
    (declared : d ∈ l.declarations) :
    ∃ v ∈ protocolValues r view p,
      d.ident = (protocolTable r view p).identifier v.1 ∧ d.type = v.2 := by
  have pair := List.mem_map_of_mem (f := fun d : Declaration => (d.ident, d.type))
    (List.mem_flatMap.2 ⟨l, mem, declared⟩)
  rw [declarations_build] at pair
  obtain ⟨v, value, paired⟩ := List.mem_map.1 pair
  exact ⟨v, value, (Prod.mk.inj paired).1.symm, (Prod.mk.inj paired).2.symm⟩

/-! ## The same layouts from a new builder -/

/-- A layout asked of a builder, with the namespace that names are seen from. -/
inductive Call where
  | method (view : Nat) (m : Method) (d : Direction)
  | ofClass (view : Nat) (c : ClassSite)

/-- What a call makes of a builder. -/
def Call.perform (b : Builder) : Call → Builder
  | .method view m d => ({ b with view }.methodLayout m d).2
  | .ofClass view c => ({ b with view }.classLayout c).2

/-- A call asks for places, and leaves the rest between layouts as it was. -/
theorem Call.perform_between (call : Call) (r : Registry) (view : Nat) (t : IdentifierTable) :
    ∃ view' places, call.perform (.between r view t) = .between r view' (t.after places) := by
  cases call with
  | method view' m d =>
    refine ⟨view', (methodOutline r view' m d).requests, ?_⟩
    show ((Builder.between r view' t).methodLayout m d).2 = _
    rw [methodLayout_eq_named]
  | ofClass view' c =>
    refine ⟨view', (classDraft r view' c).requests, ?_⟩
    show ((Builder.between r view' t).classLayout c).2 = _
    rw [classLayout_eq_named]

/-- Calls ask for places, and leave the rest between layouts as it was. -/
theorem performAll_between (calls : List Call) (r : Registry) (view : Nat) (t : IdentifierTable) :
    ∃ view' places,
      calls.foldl Call.perform (.between r view t) = .between r view' (t.after places) := by
  induction calls generalizing view t with
  | nil => exact ⟨view, [], rfl⟩
  | cons call rest ih =>
    obtain ⟨view₁, places₁, first⟩ := call.perform_between r view t
    obtain ⟨view₂, places₂, others⟩ := ih view₁ (t.after places₁)
    refine ⟨view₂, places₁ ++ places₂, ?_⟩
    rw [List.foldl_cons, first, others, IdentifierTable.after_append]

/-- The layout of a method under a table that knows its places is the layout that a new builder
gives, up to a renaming. -/
theorem fresh_renames_named (protocol : String) (m : Method) (d : Direction) {t : IdentifierTable}
    (distinct : t.entries.Pairwise Distinct)
    (known : ∀ place ∈ (methodOutline r view m d).requests, t.Knows place) :
    ((Builder.start r view protocol).methodLayout m d).1.Renames
      ((methodOutline r view m d).named t.identifier) := by
  rw [show Builder.start r view protocol = .between r view (.empty protocol) from rfl,
    methodLayout_eq_named]
  refine Outline.renames _ (IdentifierTable.after_distinct .nil _) distinct ?_ known
  exact fun place mem => (IdentifierTable.knows_after_iff _ _ place).2 (.inl mem)

/-- Whatever a builder has laid out before, it gives a method the layout that a new builder gives,
up to a renaming. So do the layouts of the messages that the block of a protocol has branches for,
which are made behind those of all classes needed and of all methods before. Inspections, which
start from a new builder, thus read with the layouts of the branches. -/
theorem fresh_renames_methodLayout (r : Registry) (view : Nat) (p : Protocol) :
    (∀ (calls : List Call) (m : Method) (d : Direction),
      ((Builder.start r view p.name).methodLayout m d).1.Renames
        ({ calls.foldl Call.perform (Builder.start r view p.name) with view }.methodLayout m d).1) ∧
    List.Forall₂ (fun m l => l.method = m ∧
        ∀ d, ((Builder.start r view p.name).methodLayout m d).1.Renames (l.message d))
      p.methods (ProtocolLayout.build r view p).methods := by
  constructor
  · intro calls m d
    obtain ⟨view', places, reached⟩ := performAll_between calls r view (.empty p.name)
    have here : { calls.foldl Call.perform (Builder.start r view p.name) with view } =
        Builder.between r view ((IdentifierTable.empty p.name).after places) := by
      rw [show Builder.start r view p.name = .between r view (.empty p.name) from rfl, reached]
      rfl
    rw [here, methodLayout_eq_named, ← IdentifierTable.after_append]
    have distinct := IdentifierTable.after_distinct (t := .empty p.name) .nil
      (places ++ (methodOutline r view m d).requests)
    refine fresh_renames_named p.name m d distinct fun place mem => ?_
    exact (IdentifierTable.knows_after_iff _ _ place).2 (.inl (List.mem_append_right _ mem))
  · rw [ProtocolLayout.build_eq_named, List.forall₂_map_right_iff, List.forall₂_same]
    intro m mem
    refine ⟨rfl, fun d => ?_⟩
    rw [methodNamed_message]
    refine fresh_renames_named p.name m d (protocolTable_distinct r view p) fun place asked => ?_
    exact protocolTable_knows_iff.2 (mem_protocolRequests mem asked)

end Dissect.Script
