import Dissect.Proofs.Schema.Insertion
import Dissect.Proofs.Script.ProtocolLayout
import Dissect.Script.Module

/-!
# Modules and unrelated namespaces

A registry may get further namespaces without any change to the module of a namespace, as long as
they declare no class that the registry mentions, unless the namespace declares it too
(`ofNamespace_of_unrelated`). Class names are looked up in the whole registry, and the room for
nested classes grows with it, but neither can be seen in an outline: an outline knows classes by the
names of their namespaces, not by their places, and its room is never used up
(`draftClass_moved`).
-/

set_option autoImplicit false

namespace Dissect.Layout

open Schema

/-! ## Drafts of moved classes -/

/-- The draft of the class that a name means. -/
def lookUp (draft : ClassSite → Draft) (s : Setting) (name : String) : Draft :=
  match s.registry.resolve s.view name with
  | .error e => .error ⟨e, []⟩
  | .ok c => draft c

variable {draft draft' : ClassSite → Draft} {s s' : Setting}

/-- A setting matters to the draft of a type only by the drafts of the classes that it mentions. -/
theorem draftType_congr (scope : Scope) (path : List String) (label : String) (type : TypeExpr)
    (same : ∀ name ∈ type.classNames, lookUp draft' s' name = lookUp draft s name) :
    draftType draft' s' scope path label type = draftType draft s scope path label type := by
  fun_induction draftType draft s scope path label type with
  | case1 path label name e unknown => rw [draftType, unknown]
  | case2 path label name type known => rw [draftType, known]
  | case3 path label name e failed =>
    have here := same name (by simp [TypeExpr.classNames])
    rw [lookUp, lookUp, failed] at here
    rw [draftType]
    exact here
  | case4 path label name c found =>
    have here := same name (by simp [TypeExpr.classNames])
    rw [lookUp, lookUp, found] at here
    rw [draftType]
    exact here
  | case5 path label name parameters kind => simp only [draftType, kind]
  | case6 path label name discriminant payload kind ih =>
    simp only [draftType, kind]
    apply ih
    intro inner mentioned
    exact same inner (TypeExpr.mem_classNames_template (by simp) mentioned)
  | case7 path label name element kind f failed ih =>
    have inside := ih fun inner mentioned =>
      same inner (TypeExpr.mem_classNames_template (by simp) mentioned)
    simp only [draftType, kind, inside, failed]
  | case8 path label name element kind body drafted ih =>
    have inside := ih fun inner mentioned =>
      same inner (TypeExpr.mem_classNames_template (by simp) mentioned)
    simp only [draftType, kind, inside, drafted]
  | case9 path label name key value kind f failed ih =>
    have keys := ih fun inner mentioned =>
      same inner (TypeExpr.mem_classNames_template (by simp) mentioned)
    simp only [draftType, kind, keys, failed]
  | case10 path label name key value kind keys drafted f failed ihKey ihValue =>
    have first := ihKey fun inner mentioned =>
      same inner (TypeExpr.mem_classNames_template (by simp) mentioned)
    have second := ihValue fun inner mentioned =>
      same inner (TypeExpr.mem_classNames_template (by simp) mentioned)
    simp only [draftType, kind, first, drafted, second, failed]
  | case11 path label name key value kind keys drafted values drafted' ihKey ihValue =>
    have first := ihKey fun inner mentioned =>
      same inner (TypeExpr.mem_classNames_template (by simp) mentioned)
    have second := ihValue fun inner mentioned =>
      same inner (TypeExpr.mem_classNames_template (by simp) mentioned)
    simp only [draftType, kind, first, drafted, second, drafted']
  | case12 path label name kind parameters notAny notSequence notMap ofName =>
    rw [draftType.eq_7 _ _ _ _ _ _ _ kind ofName notAny notSequence notMap]

theorem outlineFields_congr {fields : List (Scope × Field)}
    (same : ∀ f ∈ fields, ∀ name ∈ f.2.type.classNames,
      lookUp draft' s' name = lookUp draft s name) :
    outlineFields draft' s' fields = outlineFields draft s fields := by
  induction fields with
  | nil => rfl
  | cons head rest ih =>
    obtain ⟨first, others⟩ := List.forall_mem_cons.1 same
    rw [outlineFields, outlineFields, ih others, outlineField, outlineField,
      draftType_congr _ _ _ _ first]

/-- The scopes of fields do not tell where their classes stand. -/
theorem inOwnScopes_moved (place : Nat → Nat) (fields : List FlatField) :
    inOwnScopes (fields.map (FlatField.moved place)) = inOwnScopes fields := by
  simp [inOwnScopes, FlatField.moved, Function.comp_def]

section Moved

variable {r r' : Registry} {view view' : Nat} {place : Nat → Nat} {names : List String}

/-- The names that the fields of a class mention are among those that classes mention. -/
theorem mentions_flat (keeps : Schema.Keeps r r' view view' place names) {c : ClassSite}
    (known : c ∈ r.classes) {fields : List FlatField} (flat : r.flatten view c = .ok fields)
    {f : FlatField} (mem : f ∈ fields) {name : String} (mentioned : name ∈ f.field.type.classNames) :
    name ∈ names := by
  obtain ⟨declared, own⟩ :=
    Registry.flatten_forall (fun _ _ found => Registry.mem_classes_of_resolve found) known flat mem
  apply keeps.mentions f.owner declared
  exact List.mem_append_right _ (List.mem_flatMap.2 ⟨f.field, own, mentioned⟩)

/-- A name looked up from the moved namespace has the draft that it had, if the drafts of classes
are the same. -/
theorem lookUp_moved (keeps : Schema.Keeps r r' view view' place names)
    {active active' : List ClassSite}
    (same : ∀ c ∈ r.classes, draft' (c.moved place) = draft c) {name : String}
    (mentioned : name ∈ names) :
    lookUp draft' ⟨r', view', active'⟩ name = lookUp draft ⟨r, view, active⟩ name := by
  cases found : r.resolve view name with
  | error e => simp only [lookUp, found, keeps.resolve_error mentioned found]
  | ok c =>
    simp only [lookUp, found, keeps.resolve_ok mentioned found]
    exact same c (Registry.mem_classes_of_resolve found)

/-- A class that is active is a circle, whatever the room. -/
theorem draftClass_of_isIn {active : List ClassSite} {c : ClassSite} (met : c.isIn active = true)
    (depth : Nat) :
    draftClass depth ⟨r, view, active⟩ c = .error ⟨Registry.circle active c, []⟩ := by
  cases depth with
  | zero => rfl
  | succ depth => rw [draftClass, if_pos met]

theorem draftClass_moved_of_isIn (keeps : Schema.Keeps r r' view view' place names)
    {active : List ClassSite} {c : ClassSite} (met : c.isIn active = true) (depth depth' : Nat) :
    draftClass depth' ⟨r', view', active.map (ClassSite.moved place)⟩ (c.moved place) =
      draftClass depth ⟨r, view, active⟩ c := by
  have met' := (c.isIn_moved keeps.injective active).trans met
  calc draftClass depth' ⟨r', view', active.map (ClassSite.moved place)⟩ (c.moved place)
      = .error ⟨Registry.circle (active.map (ClassSite.moved place)) (c.moved place), []⟩ :=
        draftClass_of_isIn met' depth'
    _ = .error ⟨Registry.circle active c, []⟩ := by rw [Schema.Keeps.circle_moved]
    _ = draftClass depth ⟨r, view, active⟩ c := (draftClass_of_isIn met depth).symm

/-- The draft of a class at its new place is the draft that it had. The room need not be the same
as long as it suffices for the classes that are not active. -/
theorem draftClass_moved (keeps : Schema.Keeps r r' view view' place names) {depth depth' : Nat}
    {active : List ClassSite} {c : ClassSite} (known : c ∈ r.classes)
    (room : r.unseen active ≤ depth) (room' : r.unseen active ≤ depth') :
    draftClass depth' ⟨r', view', active.map (ClassSite.moved place)⟩ (c.moved place) =
      draftClass depth ⟨r, view, active⟩ c := by
  induction depth generalizing depth' active c with
  | zero =>
    -- no room is left, so all classes are active
    have met := Registry.isIn_of_unseen_eq_zero known (Nat.le_zero.1 room)
    exact draftClass_moved_of_isIn keeps met _ _
  | succ depth ih =>
    by_cases met : c.isIn active = true
    · exact draftClass_moved_of_isIn keeps met _ _
    · have fewer := Registry.unseen_append_lt known (Bool.eq_false_iff.2 met)
      cases depth' with
      | zero => exact absurd fewer (by omega)
      | succ depth' =>
        have new : ¬ (c.moved place).isIn (active.map (ClassSite.moved place)) = true := by
          rwa [c.isIn_moved keeps.injective active]
        rw [draftClass, draftClass, if_neg met, if_neg new]
        dsimp only
        rw [keeps.flatten_moved known]
        cases flat : r.flatten view c with
        | error e => rfl
        | ok fields =>
          -- inside the class one class more is active, and less room is needed
          have inside : ∀ d ∈ r.classes,
              draftClass depth' ⟨r', view', active.map (ClassSite.moved place) ++ [c.moved place]⟩
                (d.moved place) = draftClass depth ⟨r, view, active ++ [c]⟩ d := by
            intro d declared
            have entered := ih declared (Nat.le_of_lt_succ (Nat.lt_of_lt_of_le fewer room))
              (Nat.le_of_lt_succ (Nat.lt_of_lt_of_le fewer room'))
            rwa [List.map_append] at entered
          apply congrArg Except.ok
          rw [inOwnScopes_moved]
          apply outlineFields_congr
          intro f mem name mentioned
          obtain ⟨field, own, rfl⟩ := List.mem_map.1 mem
          exact lookUp_moved keeps inside (mentions_flat keeps known flat own mentioned)

/-! ## Layouts of moved classes and of methods -/

/-- With no class active, the room for all classes suffices. -/
theorem classDraft_moved (keeps : Schema.Keeps r r' view view' place names)
    (more : r.classes.length ≤ r'.classes.length) {c : ClassSite} (known : c ∈ r.classes) :
    classDraft r' view' (c.moved place) = classDraft r view c := by
  have room : r.unseen [] ≤ r.classes.length := List.countP_le_length
  exact draftClass_moved keeps known room (Nat.le_trans room more)

theorem classNamed_moved (keeps : Schema.Keeps r r' view view' place names)
    (more : r.classes.length ≤ r'.classes.length) {c : ClassSite} (known : c ∈ r.classes)
    (identifiers : Place → Identifier) :
    classNamed identifiers r' view' (c.moved place) = classNamed identifiers r view c := by
  rw [classNamed, classNamed, classDraft_moved keeps more known]
  rfl

theorem methodOutline_moved (keeps : Schema.Keeps r r' view view' place names)
    (more : r.classes.length ≤ r'.classes.length) {m : Method} {d : Direction}
    (mentioned : ∀ f ∈ m.fields d, ∀ name ∈ f.type.classNames, name ∈ names) :
    methodOutline r' view' m d = methodOutline r view m d := by
  apply outlineFields_congr
  intro f mem name inType
  obtain ⟨field, own, rfl⟩ := List.mem_map.1 mem
  refine lookUp_moved keeps ?_ (mentioned field own name inType)
  intro c known
  exact classDraft_moved keeps more known

end Moved

end Dissect.Layout

/-! ## Modules -/

namespace Dissect.Schema

/-- The class names that a registry mentions: references in fields and messages, and bases. -/
def Registry.mentioned (r : Registry) : List String :=
  r.namespaces.flatMap fun n =>
    n.classes.flatMap Registry.mentions ++ n.protocols.flatMap Protocol.referencedClasses

variable {r r' : Registry} {view : Nat} {n : Namespace}

theorem Registry.mem_mentioned_of_mem_classes {c : ClassSite} (known : c ∈ r.classes)
    {name : String} (mentions : name ∈ Registry.mentions c.decl) : name ∈ r.mentioned := by
  obtain ⟨n, at_space, _, at_slot⟩ := Registry.mem_classes_iff.1 known
  apply List.mem_flatMap.2 ⟨n, List.mem_of_getElem? at_space, _⟩
  apply List.mem_append_left
  exact List.mem_flatMap.2 ⟨c.decl, List.mem_of_getElem? at_slot, mentions⟩

theorem Registry.mem_mentioned_of_mem_protocols (here : r.namespaces[view]? = some n) {p : Protocol}
    (mem : p ∈ n.protocols) {name : String} (references : name ∈ p.referencedClasses) :
    name ∈ r.mentioned := by
  apply List.mem_flatMap.2 ⟨n, List.mem_of_getElem? here, _⟩
  apply List.mem_append_right
  exact List.mem_flatMap.2 ⟨p, mem, references⟩

/-- Further namespaces that declare nothing mentioned, apart from what the namespace declares itself,
keep what its names mean. -/
theorem Insertion.keeps (ins : Insertion r.namespaces r'.namespaces)
    (here : r.namespaces[view]? = some n)
    (unrelated : ∀ m ∈ ins.added, ∀ c ∈ m.classes, c.name ∈ r.mentioned →
      ∃ d ∈ n.classes, d.name = c.name) :
    Keeps r r' view (ins.place view) ins.place r.mentioned where
  injective := fun _ _ same => ins.place_injective same
  resolve := by
    intro name mentioned
    apply ins.resolve_moved here
    rintro m mem c declared rfl
    exact unrelated m mem c declared mentioned
  mentions := fun _ known _ mentions => Registry.mem_mentioned_of_mem_classes known mentions

end Dissect.Schema

namespace Dissect.Script

open Layout
open Schema

section Moved

variable {r r' : Registry} {view view' : Nat} {place : Nat → Nat} {names : List String}

/-- The layouts of a protocol are the same as before. -/
theorem build_moved (keeps : Keeps r r' view view' place names)
    (more : r.classes.length ≤ r'.classes.length) {p : Protocol}
    (mentioned : ∀ name ∈ p.referencedClasses, name ∈ names) :
    ProtocolLayout.build r' view' p = ProtocolLayout.build r view p := by
  have required := keeps.requiredClasses_moved mentioned
  have drafts : ∀ c ∈ r.requiredClasses view p,
      classDraft r' view' (c.moved place) = classDraft r view c := fun c mem =>
    classDraft_moved keeps more (Registry.requiredClasses_subset_classes c mem)
  have outlines : ∀ m ∈ p.methods, ∀ d,
      methodOutline r' view' m d = methodOutline r view m d := by
    intro m mem d
    apply methodOutline_moved keeps more
    intro f own name inType
    exact mentioned name (Registry.mem_referencedClasses_of_field mem own inType)
  -- the same places are asked for in the same order, so the identifiers are the same
  have requests : protocolRequests r' view' p = protocolRequests r view p := by
    rw [protocolRequests, protocolRequests, required, classRequests, classRequests,
      List.flatMap_map, methodRequests, methodRequests]
    congr 1
    · exact List.flatMap_congr fun c mem => by rw [drafts c mem]
    · refine List.flatMap_congr fun m mem => ?_
      rw [messageRequests, messageRequests, outlines m mem, outlines m mem]
  have table : protocolTable r' view' p = protocolTable r view p := by
    rw [protocolTable, protocolTable, requests]
  rw [ProtocolLayout.build_eq_named, ProtocolLayout.build_eq_named, table, required, List.map_map]
  congr 1
  · refine List.map_congr_left fun c mem => ?_
    exact classNamed_moved keeps more (Registry.requiredClasses_subset_classes c mem) _
  · refine List.map_congr_left fun m mem => ?_
    rw [methodNamed, methodNamed, outlines m mem, outlines m mem]

end Moved

/-- Namespaces put into a registry, anywhere, change nothing in the module of a namespace that was
there before, which is found at its new place, if they declare no class whose name the registry
mentions, apart from names that the namespace declares itself. -/
theorem ofNamespace_of_unrelated {r r' : Registry} (ins : Insertion r.namespaces r'.namespaces)
    {view : Nat} {n : Namespace} (here : r.namespaces[view]? = some n)
    (unrelated : ∀ m ∈ ins.added, ∀ c ∈ m.classes, c.name ∈ r.mentioned →
      ∃ d ∈ n.classes, d.name = c.name) (settings : Settings) :
    r'.namespaces[ins.place view]? = some n ∧
      Module.ofNamespace r' settings (ins.place view) n =
        Module.ofNamespace r settings view n := by
  have keeps := ins.keeps here unrelated
  refine ⟨(ins.getElem?_place view).trans here, ?_⟩
  have blocks : ∀ p ∈ n.protocols, Module.ofProtocol r' settings (ins.place view) n.name p =
      Module.ofProtocol r settings view n.name p := by
    intro p mem
    have layouts := build_moved keeps ins.length_classes_le fun name references =>
      Registry.mem_mentioned_of_mem_protocols here mem references
    rw [Module.ofProtocol, Module.ofProtocol, layouts]
  rw [Module.ofNamespace, Module.ofNamespace, List.map_congr_left blocks]

namespace GiftShop

/-- Gifts are things, which another namespace declares. -/
def shop : Namespace :=
  ⟨"Shop", [⟨"Gift", some "Thing", [⟨"receiver", .classRef "Person"⟩]⟩],
    [⟨some 7, "Gifts", [⟨1, "send", [⟨"gifts", .template "qlist" [.classRef "Gift"]⟩], []⟩]⟩]⟩

def people : Namespace :=
  ⟨"People", [⟨"Thing", none, [⟨"weight", .scalar "uint32"⟩]⟩, ⟨"Person", none, []⟩], []⟩

/-- A namespace with gifts of its own. -/
def otherGifts : Namespace := ⟨"Other", [⟨"Gift", none, [⟨"giver", .classRef "Person"⟩]⟩], []⟩

/-- A namespace with the name of the shop. -/
def secondShop : Namespace := ⟨"Shop", [⟨"Price", some "Gift", []⟩], []⟩

def registry : Registry := ⟨[people, shop]⟩

def larger : Registry := ⟨[otherGifts, people, secondShop, shop, otherGifts]⟩

def insertion : Insertion registry.namespaces larger.namespaces :=
  .add otherGifts (.keep people (.add secondShop (.keep shop (.add otherGifts .nil))))

/-- Around a shop there may be gifts of other kinds, and a second shop. -/
theorem shop_of_unrelated :
    registry.namespaces[1]? = some shop ∧
    (∀ m ∈ insertion.added, ∀ c ∈ m.classes, c.name ∈ registry.mentioned →
      ∃ d ∈ shop.classes, d.name = c.name) ∧
    Module.ofNamespace larger .default 3 shop = Module.ofNamespace registry .default 1 shop := by
  have here : registry.namespaces[1]? = some shop := rfl
  have unrelated : ∀ m ∈ insertion.added, ∀ c ∈ m.classes, c.name ∈ registry.mentioned →
      ∃ d ∈ shop.classes, d.name = c.name := by
    decide
  exact ⟨here, unrelated, (ofNamespace_of_unrelated insertion here unrelated .default).2⟩

end GiftShop

end Dissect.Script
