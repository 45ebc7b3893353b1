import Dissect.Proofs.Schema.Registry
import Mathlib.Data.List.Chain
import Mathlib.Logic.Relation

/-!
# Inheritance

A class extends the class that the name of its base means from the namespace at hand. Following
bases from a class ends at a class without a base, or at a name without a meaning, or never.
`Lineage` says how it ends, and a class has a lineage unless its bases are `Endless`.

The chain of bases is checked for repetitions against its own start, so the chain of a class and the
chain of its base are checked against different classes. Both find the lineage if there is one
(`baseChain_of_lineage`), for no class with a lineage comes back to itself, and a circle if there is
none (`baseChain_of_endless`). So the fields of a class are those of its base with its own behind
(`flatten_composes_bases`).
-/

set_option autoImplicit false

namespace Dissect.Schema

/-- The fields that a class declares itself. -/
def ClassSite.ownFields (c : ClassSite) : List FlatField := c.decl.fields.map fun f => ⟨c, f⟩

/-- A path that comes back to a class where it has been. -/
structure Circular (link : ClassSite → ClassSite → Prop) (path : List ClassSite) : Prop where
  linked : path.IsChain link
  closed : ∃ front last, path = front ++ [last] ∧ last ∈ front

/-- Where a path comes back to a class, its links lead from that class to itself. -/
theorem transGen_of_isChain {link : ClassSite → ClassSite → Prop} {front : List ClassSite}
    {last : ClassSite} (linked : (front ++ [last]).IsChain link) (mem : last ∈ front) :
    Relation.TransGen link last last := by
  obtain ⟨before, after, rfl⟩ := List.append_of_mem mem
  rw [List.append_assoc] at linked
  have loop := linked.right_of_append.imp fun _ _ => Relation.TransGen.single
  apply (List.pairwise_cons.1 loop.pairwise).1
  exact List.mem_append_right _ (List.mem_singleton_self last)

namespace Registry

variable {r : Registry} {view : Nat}

/-! ## Bases -/

/-- The name of the base of `c` means `d`. -/
def Extends (r : Registry) (view : Nat) (c d : ClassSite) : Prop :=
  ∃ name, c.decl.base = some name ∧ r.resolve view name = .ok d

namespace Extends

variable {c d : ClassSite}

theorem unique {d' : ClassSite} (ext : Extends r view c d) (other : Extends r view c d') :
    d = d' := by
  obtain ⟨name, base, found⟩ := ext
  obtain ⟨name', base', found'⟩ := other
  cases base.symm.trans base'
  cases found.symm.trans found'
  rfl

theorem mem_classes (ext : Extends r view c d) : d ∈ r.classes := by
  obtain ⟨name, base, found⟩ := ext
  exact mem_classes_of_resolve found

theorem base_ne_none (ext : Extends r view c d) : c.decl.base ≠ none := by
  obtain ⟨name, base, found⟩ := ext
  intro baseless
  cases base.symm.trans baseless

theorem resolve_ne_error (ext : Extends r view c d) {name : String}
    (base : c.decl.base = some name) (e : SchemaError) : r.resolve view name ≠ .error e := by
  obtain ⟨name', base', found⟩ := ext
  intro failed
  cases base.symm.trans base'
  cases found.symm.trans failed

end Extends

/-- The class that a number of bases lead to, if there are so many. -/
def ancestor? (r : Registry) (view : Nat) : Nat → ClassSite → Option ClassSite
  | 0, c => some c
  | n + 1, c =>
    match c.decl.base with
    | none => none
    | some name =>
      match r.resolve view name with
      | .error _ => none
      | .ok d => ancestor? r view n d

theorem ancestor?_succ {c d : ClassSite} (ext : Extends r view c d) (n : Nat) :
    r.ancestor? view (n + 1) c = r.ancestor? view n d := by
  obtain ⟨name, base, found⟩ := ext
  rw [ancestor?, base]
  simp only [found]

/-- Following bases never ends. -/
def Endless (r : Registry) (view : Nat) (c : ClassSite) : Prop :=
  ∀ n, (r.ancestor? view n c).isSome

theorem endless_iff_of_extends {c d : ClassSite} (ext : Extends r view c d) :
    Endless r view c ↔ Endless r view d := by
  constructor
  · intro endless n
    rw [← ancestor?_succ ext]
    exact endless (n + 1)
  · intro endless n
    cases n with
    | zero => rfl
    | succ n =>
      rw [ancestor?_succ ext]
      exact endless n

/-- Endless bases begin with a base. -/
theorem Endless.exists_extends {c : ClassSite} (endless : Endless r view c) :
    ∃ d, Extends r view c d := by
  have first := endless 1
  rw [ancestor?] at first
  cases base : c.decl.base with
  | none =>
    rw [base] at first
    cases first
  | some name =>
    cases found : r.resolve view name with
    | error e =>
      simp only [base, found] at first
      cases first
    | ok d => exact ⟨d, name, base, found⟩

/-! ## Lineages -/

/-- How following bases ends, if it does: with the classes from the most derived one up, or with the
error of a name without a meaning. -/
inductive Lineage (r : Registry) (view : Nat) :
    ClassSite → Except SchemaError (List ClassSite) → Prop
  | root {c : ClassSite} (baseless : c.decl.base = none) : Lineage r view c (.ok [c])
  | broken {c : ClassSite} {name : String} {e : SchemaError} (base : c.decl.base = some name)
      (failed : r.resolve view name = .error e) : Lineage r view c (.error e)
  | derived {c d : ClassSite} {above : Except SchemaError (List ClassSite)}
      (ext : Extends r view c d) (lineage : Lineage r view d above) :
      Lineage r view c (above.map (c :: ·))

/-- A class has a lineage unless its bases are endless. -/
theorem exists_lineage_of_not_endless {c : ClassSite} (ends : ¬ Endless r view c) :
    ∃ line, Lineage r view c line := by
  obtain ⟨n, stops⟩ := not_forall.1 ends
  induction n generalizing c with
  | zero => exact absurd rfl stops
  | succ n ih =>
    cases base : c.decl.base with
    | none => exact ⟨_, .root base⟩
    | some name =>
      cases found : r.resolve view name with
      | error e => exact ⟨_, .broken base found⟩
      | ok d =>
        have ext : Extends r view c d := ⟨name, base, found⟩
        rw [ancestor?_succ ext] at stops
        obtain ⟨above, lineage⟩ := ih (fun endless => stops (endless n)) stops
        exact ⟨_, .derived ext lineage⟩

namespace Lineage

variable {c : ClassSite} {line : Except SchemaError (List ClassSite)}

/-- A class with a lineage does not come back to itself. -/
theorem not_transGen (lineage : Lineage r view c line) :
    ¬ Relation.TransGen (Extends r view) c c := by
  induction lineage with
  | root baseless =>
    intro loop
    obtain ⟨d, ext, -⟩ := Relation.TransGen.head'_iff.1 loop
    exact ext.base_ne_none baseless
  | broken base failed =>
    intro loop
    obtain ⟨d, ext, -⟩ := Relation.TransGen.head'_iff.1 loop
    exact ext.resolve_ne_error base _ failed
  | derived ext _ ih =>
    intro loop
    obtain ⟨d, ext', back⟩ := Relation.TransGen.head'_iff.1 loop
    cases ext.unique ext'
    -- the way back to the class ends with the step to its base, which then comes back to itself
    exact ih (Relation.TransGen.tail' back ext)

/-- What breaks a lineage is a name without a meaning, never a circle. -/
theorem error_ne_circular {e : SchemaError} (lineage : Lineage r view c (.error e))
    (path : List String) : e ≠ .circularReference path := by
  generalize broken : Except.error e = line at lineage
  induction lineage with
  | root baseless => cases broken
  | broken base failed =>
    cases broken
    exact resolve_error_ne_circular failed path
  | @derived c d above ext _ ih =>
    cases above with
    | ok line => cases broken
    | error e' => exact ih broken

end Lineage

/-! ## Chains of bases -/

/-- How following bases from `c` ends, each checked against the chain so far. The rules do not bound
the length of the chain, and bases that went on for ever would have no derivation. -/
inductive Follows (r : Registry) (view : Nat) :
    List ClassSite → ClassSite → Except SchemaError (List ClassSite) → Prop
  | last {chain : List ClassSite} {c : ClassSite} (baseless : c.decl.base = none) :
      Follows r view chain c (.ok chain)
  | unknown {chain : List ClassSite} {c : ClassSite} {name : String} {e : SchemaError}
      (base : c.decl.base = some name) (failed : r.resolve view name = .error e) :
      Follows r view chain c (.error e)
  | met {chain : List ClassSite} {c d : ClassSite} (ext : Extends r view c d)
      (old : d.isIn chain = true) : Follows r view chain c (.error (circle chain d))
  | further {chain : List ClassSite} {c d : ClassSite}
      {result : Except SchemaError (List ClassSite)} (ext : Extends r view c d)
      (new : d.isIn chain = false) (rest : Follows r view (chain ++ [d]) d result) :
      Follows r view chain c result

theorem follows_baseChain (r : Registry) (view : Nat) (chain : List ClassSite) (c : ClassSite) :
    Follows r view chain c (r.baseChain view chain c) := by
  fun_induction baseChain r view chain c with
  | case1 chain c baseless => exact .last baseless
  | case2 chain c name base e failed => exact .unknown base failed
  | case3 chain c name base d found old => exact .met ⟨name, base, found⟩ old
  | case4 chain c name base d found new ih =>
    exact .further ⟨name, base, found⟩ (Bool.eq_false_iff.2 new) ih

theorem Follows.unique {chain : List ClassSite} {c : ClassSite}
    {result other : Except SchemaError (List ClassSite)} (follows : Follows r view chain c result)
    (follows' : Follows r view chain c other) : result = other := by
  induction follows with
  | last baseless =>
    cases follows' with
    | last _ => rfl
    | unknown base _ => cases baseless.symm.trans base
    | met ext _ | further ext _ _ => exact absurd baseless ext.base_ne_none
  | unknown base failed =>
    cases follows' with
    | last baseless => cases base.symm.trans baseless
    | unknown base' failed' =>
      cases base.symm.trans base'
      cases failed.symm.trans failed'
      rfl
    | met ext _ | further ext _ _ => exact absurd failed (ext.resolve_ne_error base _)
  | met ext old =>
    cases follows' with
    | last baseless => exact absurd baseless ext.base_ne_none
    | unknown base failed => exact absurd failed (ext.resolve_ne_error base _)
    | met ext' _ =>
      cases ext.unique ext'
      rfl
    | further ext' new _ =>
      cases ext.unique ext'
      cases old.symm.trans new
  | further ext new _ ih =>
    cases follows' with
    | last baseless => exact absurd baseless ext.base_ne_none
    | unknown base failed => exact absurd failed (ext.resolve_ne_error base _)
    | met ext' old =>
      cases ext.unique ext'
      cases old.symm.trans new
    | further ext' _ rest =>
      cases ext.unique ext'
      exact ih rest

/-- A chain of classes of the registry, each of which extends the next. -/
structure Ascending (r : Registry) (view : Nat) (chain : List ClassSite) : Prop where
  known : ∀ c ∈ chain, c ∈ r.classes
  linked : chain.IsChain (Extends r view)

namespace Ascending

variable {before : List ClassSite} {c d : ClassSite}

theorem singleton (declared : c ∈ r.classes) : Ascending r view [c] where
  known := List.forall_mem_singleton.2 declared
  linked := .singleton c

theorem append (ascending : Ascending r view (before ++ [c])) (ext : Extends r view c d) :
    Ascending r view (before ++ [c] ++ [d]) where
  known := List.forall_mem_append.2
    ⟨ascending.known, List.forall_mem_singleton.2 ext.mem_classes⟩
  linked := by
    rw [List.append_assoc]
    exact List.isChain_append_cons_cons.2 ⟨ascending.linked, ext, .singleton d⟩

/-- A base that is part of the chain closes a circle. -/
theorem circular (ascending : Ascending r view (before ++ [c])) (ext : Extends r view c d)
    (old : d.isIn (before ++ [c]) = true) :
    Circular (Extends r view) (before ++ [c] ++ [d]) where
  linked := (ascending.append ext).linked
  closed := ⟨_, d, rfl, (isIn_iff_mem ext.mem_classes ascending.known).1 old⟩

end Ascending

/-- Where there is a lineage, the chain takes all of it. -/
theorem baseChain_of_lineage {c : ClassSite} {line : Except SchemaError (List ClassSite)}
    (lineage : Lineage r view c line) (before : List ClassSite)
    (ascending : Ascending r view (before ++ [c])) :
    r.baseChain view (before ++ [c]) c = line.map (before ++ ·) := by
  induction lineage generalizing before with
  | root baseless => exact baseChain_of_base_none baseless
  | broken base failed => exact baseChain_of_base_error base failed
  | @derived c d above ext lineage ih =>
    have longer := ascending.append ext
    have new : d.isIn (before ++ [c]) = false := by
      rw [Bool.eq_false_iff, Ne, isIn_iff_mem ext.mem_classes ascending.known]
      -- else the base would come back to itself along the chain
      intro old
      exact lineage.not_transGen (transGen_of_isChain longer.linked old)
    obtain ⟨name, base, found⟩ := ext
    rw [baseChain_of_base_some base found new, ih _ longer]
    cases above with
    | error e => rfl
    | ok line => simp [Except.map]

/-- Where there is no lineage, the chain closes a circle. -/
theorem baseChain_of_endless {c : ClassSite} (endless : Endless r view c)
    (before : List ClassSite) (ascending : Ascending r view (before ++ [c])) :
    ∃ path, Circular (Extends r view) path ∧ (∀ d ∈ path, d ∈ r.classes) ∧
      r.baseChain view (before ++ [c]) c =
        .error (.circularReference (path.map ClassSite.qualifiedName)) := by
  generalize same : before ++ [c] = chain
  have follows := follows_baseChain r view chain c
  generalize r.baseChain view chain c = result at follows ⊢
  induction follows generalizing before with
  | last baseless =>
    obtain ⟨d, ext⟩ := endless.exists_extends
    exact absurd baseless ext.base_ne_none
  | unknown base failed =>
    obtain ⟨d, ext⟩ := endless.exists_extends
    exact absurd failed (ext.resolve_ne_error base _)
  | met ext old =>
    subst same
    exact ⟨_, ascending.circular ext old, (ascending.append ext).known, rfl⟩
  | further ext new _ ih =>
    subst same
    exact ih ((endless_iff_of_extends ext).1 endless) _ (ascending.append ext) rfl

/-! ## Fields -/

/-- The fields of the classes of a line, those of the last one first. -/
def inherited (line : List ClassSite) : List FlatField := line.reverse.flatMap ClassSite.ownFields

theorem inherited_cons (c : ClassSite) (line : List ClassSite) :
    inherited (c :: line) = inherited line ++ c.ownFields := by
  simp [inherited]

theorem flatten_eq_inherited (r : Registry) (view : Nat) (c : ClassSite) :
    r.flatten view c = (r.baseChain view [c] c).map inherited := rfl

variable {c : ClassSite}

theorem flatten_of_lineage (declared : c ∈ r.classes)
    {line : Except SchemaError (List ClassSite)} (lineage : Lineage r view c line) :
    r.flatten view c = line.map inherited := by
  have chain := baseChain_of_lineage lineage [] (.singleton declared)
  rw [List.nil_append] at chain
  rw [flatten_eq_inherited, chain]
  cases line with
  | error e => rfl
  | ok line => rfl

/-- Where bases are endless, the circle that is reported is one of bases. -/
theorem flatten_of_endless (declared : c ∈ r.classes) (endless : Endless r view c) :
    ∃ path, Circular (Extends r view) path ∧ (∀ d ∈ path, d ∈ r.classes) ∧
      r.flatten view c = .error (.circularReference (path.map ClassSite.qualifiedName)) := by
  obtain ⟨path, circular, known, chain⟩ := baseChain_of_endless endless [] (.singleton declared)
  refine ⟨path, circular, known, ?_⟩
  rw [List.nil_append] at chain
  rw [flatten_eq_inherited, chain]
  rfl

theorem flatten_eq_circular_iff (declared : c ∈ r.classes) :
    (∃ path, r.flatten view c = .error (.circularReference path)) ↔ Endless r view c := by
  constructor
  · rintro ⟨path, failed⟩
    by_contra ends
    obtain ⟨line, lineage⟩ := exists_lineage_of_not_endless ends
    rw [flatten_of_lineage declared lineage] at failed
    cases line with
    | ok line => cases failed
    | error e =>
      cases failed
      exact lineage.error_ne_circular path rfl
  · intro endless
    obtain ⟨path, -, -, failed⟩ := flatten_of_endless declared endless
    exact ⟨_, failed⟩

/-- The fields of a class are found exactly if its line of bases has an end. -/
theorem flatten_eq_ok_iff (declared : c ∈ r.classes) {fields : List FlatField} :
    r.flatten view c = .ok fields ↔
      ∃ line, Lineage r view c (.ok line) ∧ fields = inherited line := by
  constructor
  · intro flat
    have ends : ¬ Endless r view c := by
      intro endless
      obtain ⟨path, -, -, failed⟩ := flatten_of_endless declared endless
      cases flat.symm.trans failed
    obtain ⟨line, lineage⟩ := exists_lineage_of_not_endless ends
    rw [flatten_of_lineage declared lineage] at flat
    cases line with
    | error e => cases flat
    | ok line =>
      cases flat
      exact ⟨line, lineage, rfl⟩
  · rintro ⟨line, lineage, rfl⟩
    exact flatten_of_lineage declared lineage

/-- With the fields of the base those of the class are found, its own behind. -/
theorem flatten_of_base {base : ClassSite} (declared : c ∈ r.classes)
    (ext : Extends r view c base) {fields : List FlatField}
    (flat : r.flatten view base = .ok fields) :
    r.flatten view c = .ok (fields ++ c.ownFields) := by
  obtain ⟨line, lineage, rfl⟩ := (flatten_eq_ok_iff ext.mem_classes).1 flat
  rw [← inherited_cons]
  exact flatten_of_lineage declared (.derived ext lineage)

theorem exists_flatten_base {base : ClassSite} (declared : c ∈ r.classes)
    (ext : Extends r view c base) {fields : List FlatField} (flat : r.flatten view c = .ok fields) :
    ∃ fields, r.flatten view base = .ok fields := by
  obtain ⟨line, lineage, rfl⟩ := (flatten_eq_ok_iff declared).1 flat
  generalize found : Except.ok line = result at lineage
  cases lineage with
  | root baseless => exact absurd baseless ext.base_ne_none
  | broken _ _ => cases found
  | @derived _ d above ext' lineage =>
    cases ext.unique ext'
    cases above with
    | error e => cases found
    | ok line => exact ⟨_, flatten_of_lineage ext.mem_classes lineage⟩

/-- The fields of a class are those of its base followed by its own, whatever circles bases form.
Following bases ends in exactly one way, which gives the fields. A class without a base has its own
fields. One with a base has fields exactly if the base has, and then its own stand behind those of
the base. A base whose name has no meaning fails with that error. A circle is reported exactly if
following bases never ends. Every field found is declared by the class that it is tagged with. -/
theorem flatten_composes_bases {r : Registry} {c : ClassSite} (declared : c ∈ r.classes)
    (view : Nat) :
    (∃! result, Follows r view [c] c result) ∧
    (∀ result, Follows r view [c] c result → r.flatten view c = result.map inherited) ∧
    (c.decl.base = none → r.flatten view c = .ok c.ownFields) ∧
    (∀ name base, c.decl.base = some name → r.resolve view name = .ok base →
      ((∃ fields, r.flatten view c = .ok fields) ↔ ∃ fields, r.flatten view base = .ok fields) ∧
      ∀ fields, r.flatten view base = .ok fields →
        r.flatten view c = .ok (fields ++ c.ownFields)) ∧
    (∀ name e, c.decl.base = some name → r.resolve view name = .error e →
      r.flatten view c = .error e) ∧
    ((∃ path, r.flatten view c = .error (.circularReference path)) ↔ Endless r view c) ∧
    (∀ fields, r.flatten view c = .ok fields →
      ∀ f ∈ fields, f.owner ∈ r.classes ∧ f.field ∈ f.owner.decl.fields) := by
  have follows := follows_baseChain r view [c] c
  refine ⟨⟨_, follows, fun other follows' => follows'.unique follows⟩, ?_, ?_, ?_, ?_,
    flatten_eq_circular_iff declared, ?_⟩
  · intro result follows'
    rw [follows'.unique follows]
    exact flatten_eq_inherited r view c
  · intro baseless
    rw [flatten_of_lineage declared (.root baseless)]
    simp [Except.map, inherited]
  · intro name base derived found
    have ext : Extends r view c base := ⟨name, derived, found⟩
    refine ⟨⟨?_, ?_⟩, ?_⟩
    · rintro ⟨fields, flat⟩
      exact exists_flatten_base declared ext flat
    · rintro ⟨fields, flat⟩
      exact ⟨_, flatten_of_base declared ext flat⟩
    · intro fields flat
      exact flatten_of_base declared ext flat
  · intro name e derived failed
    exact flatten_of_lineage declared (.broken derived failed)
  · intro fields flat f mem
    refine flatten_forall ?_ declared flat mem
    intro d next name _ _ found
    exact mem_classes_of_resolve found

namespace Mirror

/-- A figure, whose base is called `Shape`. -/
def figure : ClassSite := ⟨0, 0, "Draw", "Figure", some "Shape", [⟨"color", .scalar "uint8"⟩]⟩

/-- The shape next to it, whose base is the figure. -/
def shape : ClassSite := ⟨0, 1, "Draw", "Shape", some "Figure", []⟩

/-- Another shape, without a base. -/
def plain : ClassSite := ⟨1, 0, "Plain", "Shape", none, [⟨"sides", .scalar "uint16"⟩]⟩

def registry : Registry :=
  ⟨[⟨"Draw", [figure.decl, shape.decl], []⟩, ⟨"Plain", [plain.decl], []⟩]⟩

theorem endless_figure (n : Nat) : (registry.ancestor? 0 n figure).isSome ∧
    (registry.ancestor? 0 n shape).isSome := by
  have up : Extends registry 0 figure shape := ⟨"Shape", rfl, rfl⟩
  have back : Extends registry 0 shape figure := ⟨"Figure", rfl, rfl⟩
  induction n with
  | zero => exact ⟨rfl, rfl⟩
  | succ n ih =>
    rw [ancestor?_succ up, ancestor?_succ back]
    exact ⟨ih.2, ih.1⟩

/-- The figure and the shape next to it are bases of each other; seen from the other namespace, the
figure has the base there, and its fields. -/
theorem figure_composes :
    figure ∈ registry.classes ∧
    (∃ path, registry.flatten 0 figure = .error (.circularReference path)) ∧
    registry.flatten 1 figure =
      .ok [⟨plain, "sides", .scalar "uint16"⟩, ⟨figure, "color", .scalar "uint8"⟩] := by
  have figureFound : registry.resolve 1 "Figure" = .ok figure := rfl
  have plainFound : registry.resolve 1 "Shape" = .ok plain := rfl
  have declared := mem_classes_of_resolve figureFound
  obtain ⟨-, -, -, -, -, circular, -⟩ := flatten_composes_bases declared 0
  obtain ⟨-, -, -, composes, -, -, -⟩ := flatten_composes_bases declared 1
  obtain ⟨-, -, root, -, -, -, -⟩ := flatten_composes_bases (mem_classes_of_resolve plainFound) 1
  refine ⟨declared, circular.2 fun n => (endless_figure n).1, ?_⟩
  exact (composes "Shape" plain rfl plainFound).2 _ (root rfl)

end Mirror

end Registry

end Dissect.Schema
