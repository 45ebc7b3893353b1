import Dissect.Proofs.Schema.Required

/-!
# The order in which needed classes are found

A protocol needs the classes that can be reached from the names that its messages mention, from a
class over the name of its base and over the names in the types of its own fields (`Reachable`).
They are found by a search in depth (`Search`): names are taken in order, and with a class all that
it leads to is visited before the next name is taken. The rules of the search are those of a
recursion that remembers the classes it has seen. `Registry.visit` keeps a list of names to come,
and puts those that a class mentions in front, which is the same (`exists_search_visit`).

The needed classes are exactly the reachable ones, in the order of the search, and no two have the
same name (`requiredClasses_searched`).
-/

set_option autoImplicit false

namespace Dissect.Schema

/-! ## Mentioned names -/

/-- A type mentions a class name, at whatever depth. -/
inductive TypeExpr.Mentions : TypeExpr → String → Prop
  | here {name : String} : Mentions (.classRef name) name
  | inside {container name : String} {parameters : List TypeExpr} {t : TypeExpr}
      (mem : t ∈ parameters) (mentions : Mentions t name) :
      Mentions (.template container parameters) name

mutual

theorem TypeExpr.mentions_of_mem_classNames {name : String} :
    ∀ {t : TypeExpr}, name ∈ t.classNames → t.Mentions name
  | .scalar _, mem => by
    rw [classNames] at mem
    cases mem
  | .classRef _, mem => by
    rw [classNames, List.mem_singleton] at mem
    subst mem
    exact .here
  | .template _ parameters, mem => by
    rw [classNames] at mem
    obtain ⟨t, parameter, mentions⟩ := TypeExpr.exists_of_mem_classNamesAll mem
    exact .inside parameter mentions

theorem TypeExpr.exists_of_mem_classNamesAll {name : String} :
    ∀ {types : List TypeExpr}, name ∈ classNamesAll types → ∃ t ∈ types, t.Mentions name
  | [], mem => by
    rw [classNamesAll] at mem
    cases mem
  | t :: rest, mem => by
    rw [classNamesAll, List.mem_append] at mem
    rcases mem with mem | mem
    · exact ⟨t, List.mem_cons_self, TypeExpr.mentions_of_mem_classNames mem⟩
    · obtain ⟨t', later, mentions⟩ := TypeExpr.exists_of_mem_classNamesAll mem
      exact ⟨t', List.mem_cons_of_mem _ later, mentions⟩

end

theorem TypeExpr.mem_classNames_iff {t : TypeExpr} {name : String} :
    name ∈ t.classNames ↔ t.Mentions name := by
  constructor
  · exact mentions_of_mem_classNames
  · intro mentions
    induction mentions with
    | here =>
      rw [classNames]
      exact List.mem_singleton_self _
    | inside mem _ ih => exact mem_classNames_template mem ih

/-- The class names that the messages of a protocol mention, in order and as often as they do. -/
def Protocol.mentioned (p : Protocol) : List String :=
  p.methods.flatMap fun m => (m.parameters ++ m.returns).flatMap fun f => f.type.classNames

namespace Registry

variable {r : Registry} {view : Nat}

/-- The classes that a protocol leads to. Names without a meaning lead nowhere. -/
inductive Reachable (r : Registry) (view : Nat) (p : Protocol) : ClassSite → Prop
  | message {m : Method} {f : Field} {name : String} {c : ClassSite} (method : m ∈ p.methods)
      (field : f ∈ m.parameters ++ m.returns) (mentions : f.type.Mentions name)
      (found : r.resolve view name = .ok c) : Reachable r view p c
  | base {c d : ClassSite} {name : String} (reached : Reachable r view p c)
      (base : c.decl.base = some name) (found : r.resolve view name = .ok d) : Reachable r view p d
  | field {c d : ClassSite} {f : Field} {name : String} (reached : Reachable r view p c)
      (field : f ∈ c.decl.fields) (mentions : f.type.Mentions name)
      (found : r.resolve view name = .ok d) : Reachable r view p d

/-! ## Searching in depth -/

/-- The classes visited when names are taken one after another and the classes in `seen` have been
visited before: a class that is new comes first, then what its base leads to, then what its fields
lead to, one after another, then what the names behind lead to. -/
inductive Search (r : Registry) (view : Nat) :
    List ClassSite → List String → List ClassSite → Prop
  | done {seen : List ClassSite} : Search r view seen [] []
  | unknown {seen : List ClassSite} {name : String} {rest : List String} {e : SchemaError}
      {trail : List ClassSite} (failed : r.resolve view name = .error e)
      (others : Search r view seen rest trail) : Search r view seen (name :: rest) trail
  | again {seen : List ClassSite} {name : String} {rest : List String} {c : ClassSite}
      {trail : List ClassSite} (found : r.resolve view name = .ok c) (old : c ∈ seen)
      (others : Search r view seen rest trail) : Search r view seen (name :: rest) trail
  | enter {seen : List ClassSite} {name : String} {rest : List String} {c : ClassSite}
      {inside after : List ClassSite} (found : r.resolve view name = .ok c) (new : c ∉ seen)
      (below : Search r view (seen ++ [c])
        (c.decl.base.toList ++ c.decl.fields.flatMap fun f => f.type.classNames) inside)
      (others : Search r view (seen ++ [c] ++ inside) rest after) :
      Search r view seen (name :: rest) (c :: (inside ++ after))

namespace Search

variable {seen : List ClassSite} {names : List String} {trail : List ClassSite}

theorem unique {other : List ClassSite} (search : Search r view seen names trail)
    (search' : Search r view seen names other) : trail = other := by
  induction search generalizing other with
  | done =>
    cases search' with
    | done => rfl
  | unknown failed _ ih =>
    cases search' with
    | unknown _ others' => exact ih others'
    | again found _ _ | enter found _ _ _ => cases failed.symm.trans found
  | again found old _ ih =>
    cases search' with
    | unknown failed _ => cases found.symm.trans failed
    | again _ _ others' => exact ih others'
    | enter found' new _ _ =>
      cases found.symm.trans found'
      exact absurd old new
  | enter found new _ _ ihBelow ihOthers =>
    cases search' with
    | unknown failed _ => cases found.symm.trans failed
    | again found' old _ =>
      cases found.symm.trans found'
      exact absurd old new
    | enter found' _ below' others' =>
      cases found.symm.trans found'
      cases ihBelow below'
      cases ihOthers others'
      rfl

/-- Names in front are searched first, and what they lead to has been seen by the ones behind. -/
theorem split {front back : List String} (search : Search r view seen (front ++ back) trail) :
    ∃ first second, trail = first ++ second ∧ Search r view seen front first ∧
      Search r view (seen ++ first) back second := by
  induction front generalizing seen trail with
  | nil =>
    refine ⟨[], trail, rfl, .done, ?_⟩
    rwa [List.append_nil]
  | cons name rest ih =>
    cases search with
    | unknown failed others =>
      obtain ⟨first, second, rfl, head, tail⟩ := ih others
      exact ⟨first, second, rfl, .unknown failed head, tail⟩
    | again found old others =>
      obtain ⟨first, second, rfl, head, tail⟩ := ih others
      exact ⟨first, second, rfl, .again found old head, tail⟩
    | @enter _ _ _ c inside _ found new below others =>
      obtain ⟨first, second, rfl, head, tail⟩ := ih others
      refine ⟨c :: (inside ++ first), second, by simp, .enter found new below head, ?_⟩
      simpa using tail

/-- No class is visited twice. -/
theorem nodup (search : Search r view seen names trail) (distinct : seen.Nodup) :
    (seen ++ trail).Nodup := by
  induction search with
  | done => rwa [List.append_nil]
  | unknown _ _ ih | again _ _ _ ih => exact ih distinct
  | @enter seen _ _ c _ _ _ new _ _ ihBelow ihOthers =>
    have entered : (seen ++ [c]).Nodup := by
      refine List.nodup_append.2 ⟨distinct, List.pairwise_singleton _ _, ?_⟩
      intro d mem d' last same
      cases List.mem_singleton.1 last
      exact new (same ▸ mem)
    simpa using ihOthers (ihBelow entered)

/-- Whatever holds of the classes that the names mean, and goes over from a class to those that it
mentions, holds of all classes visited. -/
theorem forall_mem {P : ClassSite → Prop}
    (step : ∀ {c d : ClassSite} {name : String}, P c → name ∈ mentions c.decl →
      r.resolve view name = .ok d → P d)
    (search : Search r view seen names trail)
    (start : ∀ name ∈ names, ∀ c, r.resolve view name = .ok c → P c) : ∀ c ∈ trail, P c := by
  induction search with
  | done => exact List.forall_mem_nil _
  | unknown _ _ ih | again _ _ _ ih =>
    exact ih fun name mem => start name (List.mem_cons_of_mem _ mem)
  | enter found _ _ _ ihBelow ihOthers =>
    have here := start _ List.mem_cons_self _ found
    refine List.forall_mem_cons.2 ⟨here, List.forall_mem_append.2 ⟨?_, ?_⟩⟩
    · exact ihBelow fun name mentioned d found' => step here mentioned found'
    · exact ihOthers fun name mem => start name (List.mem_cons_of_mem _ mem)

end Search

/-- Visiting is the search in depth, behind what has been seen. -/
theorem exists_search_visit (seen : List ClassSite) (work : List String)
    (known : ∀ c ∈ seen, c ∈ r.classes) :
    ∃ trail, Search r view seen work trail ∧ r.visit view seen work = seen ++ trail := by
  fun_induction visit r view seen work with
  | case1 seen => exact ⟨[], .done, (List.append_nil seen).symm⟩
  | case2 seen name rest e failed ih =>
    obtain ⟨trail, search, visited⟩ := ih known
    exact ⟨trail, .unknown failed search, visited⟩
  | case3 seen name rest c found old ih =>
    obtain ⟨trail, search, visited⟩ := ih known
    have mem := (isIn_iff_mem (mem_classes_of_resolve found) known).1 old
    exact ⟨trail, .again found mem search, visited⟩
  | case4 seen name rest c found new ih =>
    have declared := mem_classes_of_resolve found
    have known' : ∀ d ∈ seen ++ [c], d ∈ r.classes :=
      List.forall_mem_append.2 ⟨known, List.forall_mem_singleton.2 declared⟩
    obtain ⟨trail, search, visited⟩ := ih known'
    -- what the class mentions stands in front of the other names, and is searched before them
    obtain ⟨inside, after, rfl, below, others⟩ := search.split
    rw [isIn_iff_mem declared known] at new
    refine ⟨c :: (inside ++ after), .enter found new below others, ?_⟩
    rw [visited, List.append_assoc, List.singleton_append]

/-! ## Needed classes -/

variable {p : Protocol}

theorem search_requiredClasses (r : Registry) (view : Nat) (p : Protocol) :
    Search r view [] p.mentioned.eraseDups (r.requiredClasses view p) := by
  obtain ⟨trail, search, visited⟩ :=
    exists_search_visit [] p.referencedClasses (List.forall_mem_nil _)
  rw [requiredClasses, visited]
  exact search

theorem mem_mentioned_iff {name : String} : name ∈ p.mentioned.eraseDups ↔
    ∃ m ∈ p.methods, ∃ f ∈ m.parameters ++ m.returns, f.type.Mentions name := by
  rw [List.mem_eraseDups, Protocol.mentioned]
  simp only [List.mem_flatMap, TypeExpr.mem_classNames_iff]

theorem mem_mentions_iff {c : ClassDecl} {name : String} : name ∈ mentions c ↔
    c.base = some name ∨ ∃ f ∈ c.fields, f.type.Mentions name := by
  rw [mentions, List.mem_append, Option.mem_toList]
  simp only [List.mem_flatMap, TypeExpr.mem_classNames_iff]

/-- What a protocol leads to is needed. -/
theorem Reachable.mem_requiredClasses {c : ClassSite} (reached : Reachable r view p c) :
    c ∈ r.requiredClasses view p := by
  induction reached with
  | message method field mentions found =>
    have mem := mem_mentioned_iff.2 ⟨_, method, _, field, mentions⟩
    exact mem_requiredClasses_of_referenced mem found
  | base _ base found ih => exact requiredClasses_closed ih (mem_mentions_iff.2 (.inl base)) found
  | field _ field mentions found ih =>
    exact requiredClasses_closed ih (mem_mentions_iff.2 (.inr ⟨_, field, mentions⟩)) found

/-- What a protocol needs can be reached from it. -/
theorem reachable_of_mem_requiredClasses :
    ∀ c ∈ r.requiredClasses view p, Reachable r view p c := by
  refine (search_requiredClasses r view p).forall_mem ?_ ?_
  · intro c d name reached mentioned found
    rcases mem_mentions_iff.1 mentioned with base | ⟨f, field, mentions⟩
    · exact .base reached base found
    · exact .field reached field mentions found
  · intro name mem c found
    obtain ⟨m, method, f, field, mentions⟩ := mem_mentioned_iff.1 mem
    exact .message method field mentions found

/-- A class is reached by its own name. -/
theorem Reachable.resolve_name {c : ClassSite} (reached : Reachable r view p c) :
    r.resolve view c.decl.name = .ok c := by
  cases reached with
  | message _ _ _ found | base _ _ found | field _ _ _ found =>
    rw [name_of_resolve found]
    exact found

/-- The needed classes are exactly those that can be reached, without repetition and in the order of
a search in depth that takes the names in order of their first mention and ends in exactly one way.
No two of them have the same name. -/
theorem requiredClasses_searched (r : Registry) (view : Nat) (p : Protocol) :
    (∀ trail, Search r view [] p.mentioned.eraseDups trail ↔ trail = r.requiredClasses view p) ∧
    (r.requiredClasses view p).Nodup ∧
    (∀ c, c ∈ r.requiredClasses view p ↔ Reachable r view p c) ∧
    (r.requiredClasses view p).Pairwise fun c d => c.decl.name ≠ d.decl.name := by
  have search := search_requiredClasses r view p
  have distinct : (r.requiredClasses view p).Nodup := search.nodup .nil
  refine ⟨?_, distinct, ?_, ?_⟩
  · intro trail
    constructor
    · intro other
      exact other.unique search
    · rintro rfl
      exact search
  · intro c
    constructor
    · exact reachable_of_mem_requiredClasses c
    · exact Reachable.mem_requiredClasses
  · refine distinct.imp_of_mem ?_
    intro c d memC memD apart same
    -- one name has one meaning from one namespace
    have found := (reachable_of_mem_requiredClasses c memC).resolve_name
    have found' := (reachable_of_mem_requiredClasses d memD).resolve_name
    rw [same] at found
    cases found.symm.trans found'
    exact apart rfl

end Registry

end Dissect.Schema
