import Dissect.Proofs.Layout.Outline
import Dissect.Proofs.Schema.Registry

/-!
# Laying out ends

The builder limits how many classes can be opened inside one another. `Ends` says what laying out
does without any limit: its rules follow the calls that types, fields and classes make of each other,
and a task that would call itself for ever has no derivation. Every task has exactly one
(`exists_ends`, `Ends.unique`): inside a class one class of the registry more is active, and a class
that is active is not entered again. The layouts of the builder are the ones that the rules give, so
the limit is never felt.

A derivation also tells which classes are active whenever one is entered. They are pairwise distinct
(`Ends.distinct`), and every task leaves the active classes as they were (`Ends.keeps`).
-/

set_option autoImplicit false

namespace Dissect.Layout

open Schema

/-! ## What laying out does -/

/-- What can be laid out: a type at a place, a field, fields one after another, or a class. -/
inductive Task where
  | type (scope : Scope) (path : List String) (label : String) (type : TypeExpr)
  | field (scope : Scope) (field : Field)
  | fields (fields : List (Scope × Field))
  | ofClass (c : ClassSite)

/-- How a task ends: with a layout or an error, with the builder that it leaves, and with the active
classes at every moment when a class was entered, in order. -/
structure Ending where
  result : Except SchemaError Layout
  builder : Builder
  entered : List (List ClassSite)

/-- How a task ends that a builder is given. The rules know no limit on classes inside classes. -/
inductive Ends : Task → Builder → Ending → Prop
  | scalar {scope : Scope} {path : List String} {label name : String} {type : Wire.Scalar}
      {b : Builder} (known : scalarNamed name = .ok type) :
      Ends (.type scope path label (.scalar name)) b
        ⟨.ok (.scalar (b.intern ⟨scope, path⟩).1 label type), (b.intern ⟨scope, path⟩).2, []⟩
  | unknownScalar {scope : Scope} {path : List String} {label name : String} {b : Builder}
      {e : SchemaError} (unknown : scalarNamed name = .error e) :
      Ends (.type scope path label (.scalar name)) b ⟨.error e, b, []⟩
  | classRef {scope : Scope} {path : List String} {label name : String} {b : Builder}
      {c : ClassSite} {x : Ending} (found : b.registry.resolve b.view name = .ok c)
      (laid : Ends (.ofClass c) b x) : Ends (.type scope path label (.classRef name)) b x
  | unknownClass {scope : Scope} {path : List String} {label name : String} {b : Builder}
      {e : SchemaError} (unknown : b.registry.resolve b.view name = .error e) :
      Ends (.type scope path label (.classRef name)) b ⟨.error e, b, []⟩
  | misused {scope : Scope} {path : List String} {label name : String} {b : Builder}
      {parameters : List TypeExpr} {e : SchemaError}
      (wrong : TemplateKind.checked name parameters.length = .error e) :
      Ends (.type scope path label (.template name parameters)) b ⟨.error e, b, []⟩
  /-- The discriminant is not laid out. -/
  | any {scope : Scope} {path : List String} {label name : String} {b : Builder}
      {discriminant payload : TypeExpr} {x : Ending}
      (right : TemplateKind.checked name 2 = .ok .any)
      (laid : Ends (.type scope path label payload) b x) :
      Ends (.type scope path label (.template name [discriminant, payload])) b x
  | sequence {scope : Scope} {path : List String} {label name : String} {b b' : Builder}
      {element : TypeExpr} {body : Except SchemaError Layout} {entered : List (List ClassSite)}
      (right : TemplateKind.checked name 1 = .ok .sequence)
      (laid : Ends (.type scope path label element) b ⟨body, b', entered⟩) :
      Ends (.type scope path label (.template name [element])) b
        ⟨body.map Layout.counted, b', entered⟩
  | map {scope : Scope} {path : List String} {label name : String} {b b₁ b₂ : Builder}
      {key value : TypeExpr} {keys : Layout} {values : Except SchemaError Layout}
      {entered₁ entered₂ : List (List ClassSite)}
      (right : TemplateKind.checked name 2 = .ok .map)
      (laid : Ends (.type scope (path ++ ["key"]) (label ++ " Key") key) b
        ⟨.ok keys, b₁, entered₁⟩)
      (laid' : Ends (.type scope (path ++ ["value"]) (label ++ " Value") value) b₁
        ⟨values, b₂, entered₂⟩) :
      Ends (.type scope path label (.template name [key, value])) b
        ⟨values.map fun v => (keys ++ v).counted, b₂, entered₁ ++ entered₂⟩
  /-- The value of a map is not laid out if the key has no layout. -/
  | keyless {scope : Scope} {path : List String} {label name : String} {b b' : Builder}
      {key value : TypeExpr} {e : SchemaError} {entered : List (List ClassSite)}
      (right : TemplateKind.checked name 2 = .ok .map)
      (failed : Ends (.type scope (path ++ ["key"]) (label ++ " Key") key) b
        ⟨.error e, b', entered⟩) :
      Ends (.type scope path label (.template name [key, value])) b ⟨.error e, b', entered⟩
  | field {scope : Scope} {field : Field} {b b' : Builder} {layout : Layout}
      {entered : List (List ClassSite)}
      (laid : Ends (.type scope [field.name] field.name field.type) b ⟨.ok layout, b', entered⟩) :
      Ends (.field scope field) b ⟨.ok layout, b', entered⟩
  | placeholder {scope : Scope} {field : Field} {b b' : Builder} {e : SchemaError}
      {entered : List (List ClassSite)}
      (failed : Ends (.type scope [field.name] field.name field.type) b ⟨.error e, b', entered⟩) :
      Ends (.field scope field) b
        ⟨.ok (.placeholder s!"{scope.text}.{field.name}"
            (b'.intern ⟨scope, [field.name]⟩).1.name e),
          (b'.intern ⟨scope, [field.name]⟩).2, entered⟩
  | noFields {b : Builder} : Ends (.fields []) b ⟨.ok .empty, b, []⟩
  | moreFields {scope : Scope} {field : Field} {rest : List (Scope × Field)} {b b₁ b₂ : Builder}
      {first others : Layout} {entered₁ entered₂ : List (List ClassSite)}
      (laid : Ends (.field scope field) b ⟨.ok first, b₁, entered₁⟩)
      (laid' : Ends (.fields rest) b₁ ⟨.ok others, b₂, entered₂⟩) :
      Ends (.fields ((scope, field) :: rest)) b ⟨.ok (first ++ others), b₂, entered₁ ++ entered₂⟩
  | circle {c : ClassSite} {b : Builder} (met : c.isIn b.active = true) :
      Ends (.ofClass c) b ⟨.error (Registry.circle b.active c), b, []⟩
  | baseless {c : ClassSite} {b : Builder} {e : SchemaError} (new : c.isIn b.active = false)
      (failed : b.registry.flatten b.view c = .error e) : Ends (.ofClass c) b ⟨.error e, b, []⟩
  | inside {c : ClassSite} {b b' : Builder} {fields : List FlatField} {layout : Layout}
      {entered : List (List ClassSite)} (new : c.isIn b.active = false)
      (flat : b.registry.flatten b.view c = .ok fields)
      (laid : Ends (.fields (inOwnScopes fields)) (b.enter c) ⟨.ok layout, b', entered⟩) :
      Ends (.ofClass c) b ⟨.ok layout, b'.leave, (b.enter c).active :: entered⟩

/-- A task ends in at most one way. -/
theorem Ends.unique {task : Task} {b : Builder} {x y : Ending} (ends : Ends task b x)
    (other : Ends task b y) : x = y := by
  -- the rules for one form of task exclude each other by what they ask of the registry
  induction ends generalizing y with
  | scalar known =>
    cases other with
    | scalar known' => cases known.symm.trans known'; rfl
    | unknownScalar unknown => cases known.symm.trans unknown
  | unknownScalar unknown =>
    cases other with
    | scalar known => cases unknown.symm.trans known
    | unknownScalar unknown' => cases unknown.symm.trans unknown'; rfl
  | classRef found _ ih =>
    cases other with
    | classRef found' laid' => cases found.symm.trans found'; exact ih laid'
    | unknownClass unknown => cases found.symm.trans unknown
  | unknownClass unknown =>
    cases other with
    | classRef found _ => cases unknown.symm.trans found
    | unknownClass unknown' => cases unknown.symm.trans unknown'; rfl
  | misused wrong =>
    cases other with
    | misused wrong' => cases wrong.symm.trans wrong'; rfl
    | any right _ | sequence right _ | map right _ _ | keyless right _ =>
      cases wrong.symm.trans right
  | any right _ ih =>
    cases other with
    | misused wrong => cases right.symm.trans wrong
    | any _ laid' => exact ih laid'
    | map right' _ _ | keyless right' _ => cases right.symm.trans right'
  | sequence right _ ih =>
    cases other with
    | misused wrong => cases right.symm.trans wrong
    | sequence _ laid' => cases ih laid'; rfl
  | map right _ _ ih ih' =>
    cases other with
    | misused wrong => cases right.symm.trans wrong
    | any right' _ => cases right.symm.trans right'
    | map _ laid laid' => cases ih laid; cases ih' laid'; rfl
    | keyless _ failed => cases ih failed
  | keyless right _ ih =>
    cases other with
    | misused wrong => cases right.symm.trans wrong
    | any right' _ => cases right.symm.trans right'
    | map _ laid _ => cases ih laid
    | keyless _ failed => exact ih failed
  | field _ ih =>
    cases other with
    | field laid' => exact ih laid'
    | placeholder failed => cases ih failed
  | placeholder _ ih =>
    cases other with
    | field laid => cases ih laid
    | placeholder failed' => cases ih failed'; rfl
  | noFields =>
    cases other with
    | noFields => rfl
  | moreFields _ _ ih ih' =>
    cases other with
    | moreFields laid laid' => cases ih laid; cases ih' laid'; rfl
  | circle met =>
    cases other with
    | circle _ => rfl
    | baseless new _ | inside new _ _ => cases met.symm.trans new
  | baseless new failed =>
    cases other with
    | circle met => cases new.symm.trans met
    | baseless _ failed' => cases failed.symm.trans failed'; rfl
    | inside _ flat _ => cases failed.symm.trans flat
  | inside new flat _ ih =>
    cases other with
    | circle met => cases new.symm.trans met
    | baseless _ failed => cases flat.symm.trans failed
    | inside _ flat' laid' => cases flat.symm.trans flat'; cases ih laid'; rfl

/-! ## What a task leaves -/

/-- A task leaves the registry, the namespace it is seen from and the active classes as they were,
whether it ends with a layout or with an error. -/
theorem Ends.keeps {task : Task} {b : Builder} {x : Ending} (ends : Ends task b x) :
    Builder.SameSetting b x.builder := by
  induction ends with
  | scalar | unknownScalar | unknownClass | misused | noFields | circle | baseless =>
    exact ⟨rfl, rfl, rfl⟩
  | classRef _ _ ih | any _ _ ih | sequence _ _ ih | keyless _ _ ih | field _ ih => exact ih
  | map _ _ _ ih ih' | moreFields _ _ ih ih' => exact ih.trans ih'
  | placeholder _ ih => exact ih.trans (.intern _ _)
  | inside _ _ _ ih => exact ih.leave

/-- Two classes are at different places. -/
def Apart (c d : ClassSite) : Prop := c.same d = false

/-- A class that is not among some classes is apart from each of them. -/
theorem pairwise_apart_append {active : List ClassSite} {c : ClassSite}
    (apart : active.Pairwise Apart) (new : c.isIn active = false) :
    (active ++ [c]).Pairwise Apart := by
  apply List.pairwise_append.2
  refine ⟨apart, List.pairwise_singleton _ _, ?_⟩
  intro d mem e last
  cases List.mem_singleton.1 last
  rw [ClassSite.isIn, List.any_eq_false] at new
  exact Bool.eq_false_iff.2 (new d mem)

/-- Whenever a class is entered, the active classes are pairwise distinct. -/
theorem Ends.distinct {task : Task} {b : Builder} {x : Ending} (ends : Ends task b x)
    (apart : b.active.Pairwise Apart) : ∀ active ∈ x.entered, active.Pairwise Apart := by
  induction ends with
  | scalar | unknownScalar | unknownClass | misused | noFields | circle | baseless =>
    exact List.forall_mem_nil _
  | classRef _ _ ih | any _ _ ih | sequence _ _ ih | keyless _ _ ih | field _ ih
  | placeholder _ ih => exact ih apart
  | map _ laid _ ih ih' | moreFields laid _ ih ih' =>
    -- the second part begins with the active classes that the first has found
    have apart' := laid.keeps.active ▸ apart
    exact List.forall_mem_append.2 ⟨ih apart, ih' apart'⟩
  | inside new _ _ ih =>
    have apart' := pairwise_apart_append apart new
    exact List.forall_mem_cons.2 ⟨apart', ih apart'⟩

/-! ## Every task ends -/

/-- The task ends with the given result and builder. -/
def EndsWith (task : Task) (b : Builder) (attempt : Attempt) : Prop :=
  ∃ entered, Ends task b ⟨attempt.1, attempt.2, entered⟩

/-- In the setting of the given builder, `lay` ends as the rules say for all classes of the
registry. -/
def Carries (lay : ClassSite → Builder → Attempt) (b : Builder) : Prop :=
  ∀ b', Builder.SameSetting b b' → ∀ c ∈ b.registry.classes, EndsWith (.ofClass c) b' (lay c b')

variable {lay : ClassSite → Builder → Attempt}

theorem Carries.of_sameSetting {b b' : Builder} (carries : Carries lay b)
    (same : Builder.SameSetting b b') : Carries lay b' := by
  intro b'' same' c mem
  rw [same.registry] at mem
  exact carries b'' (same.trans same') c mem

theorem checked_eq_ok {name : String} {kind : TemplateKind}
    (known : TemplateKind.ofName? name = some kind) :
    TemplateKind.checked name kind.arity = .ok kind := by
  rw [TemplateKind.checked, known]
  exact if_pos rfl

theorem layType_endsWith (scope : Scope) (path : List String) (label : String)
    (type : TypeExpr) {b : Builder} (carries : Carries lay b) :
    EndsWith (.type scope path label type) b (layType lay scope path label type b) := by
  fun_induction layType lay scope path label type b with
  | case1 path label name b e unknown => exact ⟨_, .unknownScalar unknown⟩
  | case2 path label name b type known i b' interned =>
    have ends : Ends (.type scope path label (.scalar name)) b _ := .scalar known
    -- the identifier and the builder after the request come as one pair
    rw [interned] at ends
    exact ⟨_, ends⟩
  | case3 path label name b e unknown => exact ⟨_, .unknownClass unknown⟩
  | case4 path label name b c found =>
    -- names mean classes of the registry, and for these `lay` is known to end
    obtain ⟨entered, ends⟩ := carries b (.refl b) c (Registry.mem_classes_of_resolve found)
    exact ⟨entered, .classRef found ends⟩
  | case5 path label name parameters b unknown =>
    refine ⟨_, .misused ?_⟩
    rw [TemplateKind.checked, unknown]
  | case6 path label name b discriminant payload kind ih =>
    obtain ⟨entered, ends⟩ := ih carries
    exact ⟨entered, .any (checked_eq_ok kind) ends⟩
  | case7 path label name b element kind e b' failed ih =>
    obtain ⟨entered, ends⟩ := ih carries
    rw [failed] at ends
    exact ⟨entered, .sequence (checked_eq_ok kind) ends⟩
  | case8 path label name b element kind body b' laid ih =>
    obtain ⟨entered, ends⟩ := ih carries
    rw [laid] at ends
    exact ⟨entered, .sequence (checked_eq_ok kind) ends⟩
  | case9 path label name b key value kind e b' failed ih =>
    obtain ⟨entered, ends⟩ := ih carries
    rw [failed] at ends
    exact ⟨entered, .keyless (checked_eq_ok kind) ends⟩
  | case10 path label name b key value kind keys b₁ laid e b₂ failed ihKey ihValue =>
    obtain ⟨entered, ends⟩ := ihKey carries
    rw [laid] at ends
    -- the value is laid out by the builder that the key has left, in the same setting
    obtain ⟨entered', ends'⟩ := ihValue (carries.of_sameSetting ends.keeps)
    rw [failed] at ends'
    exact ⟨entered ++ entered', .map (checked_eq_ok kind) ends ends'⟩
  | case11 path label name b key value kind keys b₁ laid values b₂ laid' ihKey ihValue =>
    obtain ⟨entered, ends⟩ := ihKey carries
    rw [laid] at ends
    obtain ⟨entered', ends'⟩ := ihValue (carries.of_sameSetting ends.keeps)
    rw [laid'] at ends'
    exact ⟨entered ++ entered', .map (checked_eq_ok kind) ends ends'⟩
  | case12 path label name b kind parameters notAny notSequence notMap known =>
    -- with the right number of parameters it would be one of the containers above
    have wrong : parameters.length ≠ kind.arity := by
      intro same
      cases kind with
      | any =>
        obtain ⟨x, y, rfl⟩ := List.length_eq_two.1 same
        exact notAny x y rfl rfl
      | sequence =>
        obtain ⟨x, rfl⟩ := List.length_eq_one_iff.1 same
        exact notSequence x rfl rfl
      | map =>
        obtain ⟨x, y, rfl⟩ := List.length_eq_two.1 same
        exact notMap x y rfl rfl
    refine ⟨_, .misused ?_⟩
    rw [TemplateKind.checked, known]
    exact if_neg wrong

theorem layField_endsWith (scope : Scope) (field : Field) {b : Builder} (carries : Carries lay b) :
    EndsWith (.field scope field) b
      (.ok (layField lay scope field b).1, (layField lay scope field b).2) := by
  obtain ⟨entered, ends⟩ := layType_endsWith scope [field.name] field.name field.type carries
  fun_cases layField lay scope field b with
  | case1 layout b' laid =>
    rw [laid] at ends
    exact ⟨entered, .field ends⟩
  | case2 e b' failed i b'' interned =>
    rw [failed] at ends
    have placeholder := Ends.placeholder ends
    rw [interned] at placeholder
    exact ⟨entered, placeholder⟩

theorem layFields_endsWith (fields : List (Scope × Field)) {b : Builder}
    (carries : Carries lay b) :
    EndsWith (.fields fields) b (.ok (layFields lay fields b).1, (layFields lay fields b).2) := by
  induction fields generalizing b with
  | nil => exact ⟨[], .noFields⟩
  | cons head rest ih =>
    obtain ⟨entered, ends⟩ := layField_endsWith head.1 head.2 carries
    obtain ⟨entered', ends'⟩ := ih (carries.of_sameSetting ends.keeps)
    exact ⟨entered ++ entered', .moreFields ends ends'⟩

/-- A class ends as the rules say if the classes inside it do. -/
theorem layClass_endsWith {depth : Nat} {c : ClassSite} {b : Builder}
    (inside : c.isIn b.active = false → Carries (layClass depth) (b.enter c)) :
    EndsWith (.ofClass c) b (layClass (depth + 1) c b) := by
  unfold EndsWith
  rw [layClass]
  cases met : c.isIn b.active with
  | true => exact ⟨_, .circle met⟩
  | false =>
    cases flat : b.registry.flatten b.view c with
    | error e => exact ⟨_, .baseless met flat⟩
    | ok fields =>
      obtain ⟨entered, ends⟩ := layFields_endsWith (inOwnScopes fields) (inside met)
      exact ⟨_, .inside met flat ends⟩

/-- With as much depth left as there are classes that are not active, laying out a class ends as the
rules say. -/
theorem layClass_carries (depth : Nat) (b : Builder) (room : b.registry.unseen b.active ≤ depth) :
    Carries (layClass depth) b := by
  induction depth generalizing b with
  | zero =>
    -- all classes are active, so that every class closes a circle
    intro b' same c mem
    refine ⟨_, .circle ?_⟩
    rw [same.active]
    exact Registry.isIn_of_unseen_eq_zero mem (Nat.le_zero.1 room)
  | succ depth ih =>
    intro b' same c mem
    apply layClass_endsWith
    intro new
    -- inside a new class there is one class less to come
    apply ih
    rw [← same.registry] at mem
    rw [← same.registry, ← same.active] at room
    have fewer := Registry.unseen_append_lt mem new
    exact Nat.le_of_lt_succ (Nat.lt_of_lt_of_le fewer room)

/-- Between layouts and inside classes alike, the depth of the builder is no restriction. -/
theorem carries_depth (b : Builder) : Carries (layClass b.depth) b :=
  layClass_carries b.depth b List.countP_le_length

/-- Every task ends, whatever builder it is given. -/
theorem exists_ends (task : Task) (b : Builder) : ∃ x, Ends task b x := by
  cases task with
  | type scope path label type =>
    obtain ⟨entered, ends⟩ := layType_endsWith scope path label type (carries_depth b)
    exact ⟨_, ends⟩
  | field scope field =>
    obtain ⟨entered, ends⟩ := layField_endsWith scope field (carries_depth b)
    exact ⟨_, ends⟩
  | fields fields =>
    obtain ⟨entered, ends⟩ := layFields_endsWith fields (carries_depth b)
    exact ⟨_, ends⟩
  | ofClass c =>
    -- the class itself need not be one of the registry, the classes inside it are
    obtain ⟨entered, ends⟩ := layClass_endsWith fun _ => carries_depth (b.enter c)
    exact ⟨_, ends⟩

/-! ## Layouts of methods and classes -/

/-- What is reported of a class that has ended in a layout or an error. -/
def classReport (c : ClassSite) : Except SchemaError Layout → Layout
  | .ok layout => layout
  | .error e => classFailure c e

theorem classLayout_eq_report (b : Builder) (c : ClassSite) :
    b.classLayout c = (classReport c (layClass b.depth c b).1, (layClass b.depth c b).2) := by
  fun_cases Builder.classLayout b c with
  | case1 layout b' laid =>
    rw [laid]
    rfl
  | case2 e b' failed =>
    rw [failed]
    rfl

/-- Laying out ends and restores the active classes, whatever has been laid out before. Every type,
field and class that a builder is given, in whatever state, ends in exactly one way without any limit
on the depth, and leaves the active classes as it has found them, also when it fails. From a builder
between layouts the active classes are pairwise distinct whenever a class is entered, and the layouts
of methods and of classes are what the rules give. -/
theorem layouts_end_and_restore {b : Builder} (reached : b.Reached) :
    (∀ (task : Task) (b' : Builder), ∃! x, Ends task b' x) ∧
    (∀ (task : Task) (b' : Builder) (x : Ending), Ends task b' x →
      x.builder.active = b'.active) ∧
    (∀ (task : Task) (x : Ending), Ends task b x →
      ∀ active ∈ x.entered, active.Pairwise Apart) ∧
    (∀ (m : Method) (d : Direction),
      EndsWith (.fields ((m.fields d).map fun f => (.method m.name, f))) b
        (.ok (b.methodLayout m d).1, (b.methodLayout m d).2)) ∧
    (∀ c ∈ b.registry.classes, ∃ attempt, EndsWith (.ofClass c) b attempt ∧
      b.classLayout c = (classReport c attempt.1, attempt.2)) := by
  refine ⟨?_, ?_, ?_, ?_, ?_⟩
  · intro task b'
    obtain ⟨x, ends⟩ := exists_ends task b'
    exact ⟨x, ends, fun y other => other.unique ends⟩
  · intro task b' x ends
    exact ends.keeps.active
  · intro task x ends
    apply ends.distinct
    rw [reached.idle]
    exact .nil
  · intro m d
    exact layFields_endsWith _ (carries_depth b)
  · intro c mem
    exact ⟨_, carries_depth b b (.refl b) c mem, classLayout_eq_report b c⟩

namespace Ring

/-- A node holds links. -/
def node : ClassSite :=
  ⟨0, 0, "Graph", "Node", none, [⟨"links", .template "qlist" [.classRef "Link"]⟩]⟩

/-- A link is a node, and leads to one. -/
def link : ClassSite := ⟨1, 0, "Wires", "Link", some "Node", [⟨"target", .classRef "Node"⟩]⟩

def registry : Registry := ⟨[⟨"Graph", [node.decl], []⟩, ⟨"Wires", [link.decl], []⟩]⟩

def walk : Method where
  id := 1
  name := "Walk"
  parameters := [⟨"root", .classRef "Node"⟩]
  returns := []

/-- Two classes of two namespaces that contain each other, one of them through its base, are laid out
all the same, behind a layout of the inner one. -/
theorem walk_ends :
    ((Builder.start registry 0 "Ring").classLayout link).2.Reached ∧
    ∃ x, Ends (.fields [(.method "Walk", ⟨"root", .classRef "Node"⟩)])
        ((Builder.start registry 0 "Ring").classLayout link).2 x ∧
      x.builder.active = ((Builder.start registry 0 "Ring").classLayout link).2.active ∧
      ∀ active ∈ x.entered, active.Pairwise Apart := by
  have reached := (Builder.Reached.start registry 0 "Ring").classLayout link
  obtain ⟨-, restores, distinct, methods, -⟩ := layouts_end_and_restore reached
  obtain ⟨entered, ends⟩ := methods walk .request
  exact ⟨reached, _, ends, restores _ _ _ ends, distinct _ _ ends⟩

end Ring

end Dissect.Layout
