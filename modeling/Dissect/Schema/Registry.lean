import Dissect.Schema.Model

/-!
# Registries

All namespaces of a document, and what a class name means in them. Names are looked up from a
viewpoint, the namespace of the protocol at hand, also those that occur inside classes of other
namespaces. A class is known by its place: two classes of one name are different classes.
-/

set_option autoImplicit false

namespace Dissect.Schema

/-- All namespaces of a document. -/
structure Registry where
  namespaces : List Namespace

/-- A class of a registry and where it is declared: the place of its namespace, its own place
there, and the name of the namespace. -/
structure ClassSite where
  space : Nat
  slot : Nat
  spaceName : String
  decl : ClassDecl

namespace ClassSite

/-- The name of a class with the namespace that declares it. -/
def qualifiedName (c : ClassSite) : String := s!"{c.spaceName}::{c.decl.name}"

/-- Whether two sites are the same place. -/
def same (c d : ClassSite) : Bool := c.space = d.space && c.slot = d.slot

theorem same_self (c : ClassSite) : c.same c = true := by simp [same]

/-- Whether a class is one of those listed. -/
def isIn (c : ClassSite) (seen : List ClassSite) : Bool := seen.any fun d => d.same c

theorem isIn_append_self (c : ClassSite) (seen : List ClassSite) :
    c.isIn (seen ++ [c]) = true := by
  simp [isIn, same_self]

theorem isIn_append {c : ClassSite} {seen : List ClassSite} (d : ClassSite)
    (h : c.isIn seen = true) : c.isIn (seen ++ [d]) = true := by
  simp only [isIn, List.any_append, Bool.or_eq_true]
  exact Or.inl h

end ClassSite

/-- A field that a class has, and the class that declares it: the class itself or a base. -/
structure FlatField where
  owner : ClassSite
  field : Field

namespace Registry

/-- The place and the namespace of the first one with the given name. -/
def find? (r : Registry) (name : String) : Option (Nat × Namespace) :=
  (r.namespaces.zipIdx.find? fun n => n.1.name = name).map fun n => (n.2, n.1)

/-- All classes with their places, in document order. -/
def classes (r : Registry) : List ClassSite :=
  r.namespaces.zipIdx.flatMap fun n =>
    n.1.classes.zipIdx.map fun c => ⟨n.2, c.2, n.1.name, c.1⟩

/-- The class that a name means from the namespace at place `view`. The only class of that name
there wins; if there is none, the only one of all namespaces. -/
def resolve (r : Registry) (view : Nat) (name : String) : Except SchemaError ClassSite :=
  match r.classes.filter fun c => c.space = view && c.decl.name = name with
  | [c] => .ok c
  | c :: _ => .error (.ambiguousClass name [c.spaceName])
  | [] =>
    match r.classes.filter fun c => c.decl.name = name with
    | [c] => .ok c
    | [] => .error (.classNotFound name)
    | many => .error (.ambiguousClass name (many.map fun c => c.spaceName))

/-- A name resolves to a class of the registry. -/
theorem mem_classes_of_resolve {r : Registry} {view : Nat} {name : String} {c : ClassSite}
    (h : r.resolve view name = .ok c) : c ∈ r.classes := by
  unfold resolve at h
  split at h
  · rename_i d hd
    cases h
    exact (List.mem_filter.1 (hd ▸ List.mem_singleton_self c)).1
  · cases h
  · split at h
    · rename_i d hd
      cases h
      exact (List.mem_filter.1 (hd ▸ List.mem_singleton_self c)).1
    · cases h
    · cases h

/-- How many classes of the registry are not among those listed. -/
def unseen (r : Registry) (seen : List ClassSite) : Nat :=
  r.classes.countP fun c => !c.isIn seen

private theorem countP_lt_of_mem {α : Type} {p q : α → Bool} (imp : ∀ a, q a = true → p a = true)
    {a : α} (hp : p a = true) (hq : q a = false) :
    ∀ {l : List α}, a ∈ l → l.countP q < l.countP p
  | b :: l, h => by
    have le : l.countP q ≤ l.countP p := List.countP_mono_left fun x _ hx => imp x hx
    rcases List.mem_cons.1 h with rfl | h
    · simp only [List.countP_cons, hp, hq]
      simp
      omega
    · have lt := countP_lt_of_mem imp hp hq h
      rw [List.countP_cons, List.countP_cons]
      cases hb : q b with
      | true =>
        rw [if_pos rfl, if_pos (imp b hb)]
        omega
      | false =>
        rw [if_neg Bool.false_ne_true]
        omega

/-- Listing a class of the registry that was not listed leaves fewer unseen. -/
theorem unseen_append_lt {r : Registry} {seen : List ClassSite} {c : ClassSite}
    (mem : c ∈ r.classes) (new : c.isIn seen = false) :
    r.unseen (seen ++ [c]) < r.unseen seen := by
  refine countP_lt_of_mem ?_ ?_ ?_ mem
  · intro d h
    simp only [Bool.not_eq_true'] at h ⊢
    cases hd : d.isIn seen with
    | false => rfl
    | true => rw [ClassSite.isIn_append c hd] at h; cases h
  · simp [new]
  · simp [ClassSite.isIn_append_self]

/-- The circle that closes when `c` is met again after the classes listed. -/
def circle (seen : List ClassSite) (c : ClassSite) : SchemaError :=
  .circularReference ((seen ++ [c]).map ClassSite.qualifiedName)

/-- Follows bases from `c`, the last class of `chain`, until there is none. The result starts
with the most derived class. -/
def baseChain (r : Registry) (view : Nat) (chain : List ClassSite) (c : ClassSite) :
    Except SchemaError (List ClassSite) :=
  match c.decl.base with
  | none => .ok chain
  | some base =>
    match _found : r.resolve view base with
    | .error e => .error e
    | .ok next =>
      if _new : next.isIn chain = true then .error (circle chain next)
      else baseChain r view (chain ++ [next]) next
termination_by r.unseen chain
decreasing_by
  exact unseen_append_lt (mem_classes_of_resolve _found) (by simpa using _new)

/-- All fields of a class, those of the outermost base first. -/
def flatten (r : Registry) (view : Nat) (c : ClassSite) : Except SchemaError (List FlatField) :=
  (r.baseChain view [c] c).map fun chain =>
    chain.reverse.flatMap fun owner => owner.decl.fields.map fun f => ⟨owner, f⟩

/-- The class names that a class leads to: its base, then those of its own fields. -/
def mentions (c : ClassDecl) : List String :=
  c.base.toList ++ c.fields.flatMap fun f => f.type.classNames

/-- Visits the classes of the names in `work`, each followed at once by the classes that it leads
to. Names that do not resolve are passed over, classes already seen are not visited again. -/
def visit (r : Registry) (view : Nat) (seen : List ClassSite) (work : List String) :
    List ClassSite :=
  match work with
  | [] => seen
  | name :: rest =>
    match _found : r.resolve view name with
    | .error _ => visit r view seen rest
    | .ok c =>
      if _new : c.isIn seen = true then visit r view seen rest
      else visit r view (seen ++ [c]) (mentions c.decl ++ rest)
termination_by (r.unseen seen, work.length)
decreasing_by
  · exact Prod.Lex.right _ (by simp)
  · exact Prod.Lex.right _ (by simp)
  · exact Prod.Lex.left _ _ (unseen_append_lt (mem_classes_of_resolve _found) (by simpa using _new))

/-- Every class that a protocol needs, in order of discovery. -/
def requiredClasses (r : Registry) (view : Nat) (p : Protocol) : List ClassSite :=
  r.visit view [] p.referencedClasses

end Registry

end Dissect.Schema
