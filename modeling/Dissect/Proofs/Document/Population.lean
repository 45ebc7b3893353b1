import Dissect.Proofs.Document.Classes

/-!
# What becomes of the declarations of a document

A document is read by a population, which keeps one namespace open and merges it into the others
when the next one is opened or the unit ends. This module relates that to places in the document.
`placements` lists all elements of the units in document order, each with the name of the nearest
unit declaration in front of it in its unit. A document is accepted exactly if every element may
stand where it stands (`Admissible`), and each namespace then holds the conversions of just the
declarations that are placed in it, in document order (`buildRegistry_gathers_placements`). What a
class declaration is converted to is said without the conversion (`Element.DeclaresClass`).
-/

set_option autoImplicit false

namespace Dissect.Document

open Schema

/-! ## Places of elements -/

/-- The name that a unit declaration gives. -/
def Element.unitName? : Element → Option String
  | .unitDeclaration name => some name
  | _ => none

/-- The names that the unit declarations among some elements give, in order. -/
def unitNames (elements : List Element) : List String := elements.filterMap Element.unitName?

/-- The elements of a unit, each with the name of the nearest unit declaration in front of it. -/
def placed (elements : List Element) : List (Option String × Element) :=
  elements.zipIdx.map fun e => ((unitNames (elements.take e.2)).getLast?, e.1)

/-- The elements of all units, each with the name of the nearest unit declaration in front of it in
its unit. -/
def placements (units : List DocumentUnit) : List (Option String × Element) :=
  units.flatMap fun u => placed u.elements

/-- A declaration that names the given namespace belongs to the namespace `unit`: it names none, an
empty one, or just that. -/
def BelongsTo (unit : Option String) (space : Option String) : Prop :=
  ∃ name, unit = some name ∧ (space = none ∨ space = some "" ∨ space = some name)

/-- The element may stand behind the nearest unit declaration `unit`, or without one in front. -/
def Admissible (unit : Option String) : Element → Prop
  | .unitDeclaration _ => True
  | .classDeclaration _ space _ vars => BelongsTo unit space ∧ ∀ v ∈ vars, v.Storable
  | .protocolDeclaration name space id methods =>
    BelongsTo unit space ∧ ∃ p, convertProtocol name id methods = .ok p
  | .unread kind => kind ≠ .action ∧ kind ≠ .property
  | .method .. | .parameter .. | .returnValue .. | .fieldVariable .. => False

/-- The conversion of a class declaration. -/
def Element.class? : Element → Option (Except DocumentError ClassDecl)
  | .classDeclaration name _ base vars => some (convertClass name base vars)
  | _ => none

/-- The conversion of a protocol declaration. -/
def Element.protocol? : Element → Option (Except DocumentError Protocol)
  | .protocolDeclaration name _ id methods => some (convertProtocol name id methods)
  | _ => none

/-- The conversions of the declarations of one kind that are placed in a namespace, in order. -/
def conversions {α : Type} (convert? : Element → Option (Except DocumentError α))
    (elements : List (Option String × Element)) (name : String) : List (Except DocumentError α) :=
  elements.filterMap fun e => if e.1 = some name then convert? e.2 else none

theorem conversions_append {α : Type} (convert? : Element → Option (Except DocumentError α))
    (first second : List (Option String × Element)) (name : String) :
    conversions convert? (first ++ second) name =
      conversions convert? first name ++ conversions convert? second name :=
  List.filterMap_append

/-- Whether an element is a class declaration. -/
def Element.isClass : Element → Bool
  | .classDeclaration .. => true
  | _ => false

/-- The class declarations that are placed in a namespace, in order. -/
def classesPlaced (elements : List (Option String × Element)) (name : String) : List Element :=
  (elements.filter fun e => e.1 = some name && e.2.isClass).map Prod.snd

/-- Conversions of class declarations are the classes declared. -/
theorem forall₂_declaresClass {elements : List (Option String × Element)} {name : String}
    {classes : List ClassDecl}
    (converted : classes.map .ok = conversions Element.class? elements name) :
    List.Forall₂ Element.DeclaresClass (classesPlaced elements name) classes := by
  induction elements generalizing classes with
  | nil =>
    cases List.map_eq_nil_iff.1 converted
    exact .nil
  | cons e rest ih =>
    obtain ⟨unit, element⟩ := e
    -- the head counts for both lists, or for neither
    by_cases here : unit = some name ∧ element.isClass = true
    · obtain ⟨rfl, isClass⟩ := here
      cases element with
      | classDeclaration className space base vars =>
        rw [conversions, List.filterMap_cons_some (by rw [if_pos rfl]; rfl)] at converted
        obtain ⟨c, others, rfl, made, behind⟩ := List.map_eq_cons_iff.1 converted
        rw [classesPlaced, List.filter_cons_of_pos (by simp [Element.isClass]), List.map_cons]
        exact .cons ((convertClass_reads_variables className base vars).2.1 c space made.symm)
          (ih behind)
      | _ => cases isClass
    · rw [classesPlaced, List.filter_cons_of_neg (by simpa using here), ← classesPlaced]
      apply ih
      rw [converted, conversions, List.filterMap_cons_none, conversions]
      split
      · next placed =>
        cases element with
        | classDeclaration => exact absurd ⟨placed, rfl⟩ here
        | _ => rfl
      · rfl

/-- The elements behind the nearest unit declaration `unit`, each with the nearest one in front. -/
def placedBehind (unit : Option String) : List Element → List (Option String × Element)
  | [] => []
  | e :: rest => (unit, e) :: placedBehind (e.unitName?.or unit) rest

/-- Going through a unit, the last declaration passed is the nearest one in front. -/
theorem placedBehind_eq (unit : Option String) (before elements : List Element)
    (nearest : (unitNames before).getLast? = unit) :
    placedBehind unit elements = (elements.zipIdx before.length).map fun e =>
      ((unitNames ((before ++ elements).take e.2)).getLast?, e.1) := by
  induction elements generalizing unit before with
  | nil => rfl
  | cons e rest ih =>
    have next : (unitNames (before ++ [e])).getLast? = e.unitName?.or unit := by
      rw [unitNames, List.filterMap_append, List.getLast?_append]
      rw [show (before.filterMap Element.unitName?).getLast? = unit from nearest]
      cases e <;> rfl
    have others := ih _ (before ++ [e]) next
    rw [List.append_assoc, List.singleton_append, List.length_append] at others
    rw [placedBehind, others, List.zipIdx_cons, List.map_cons, List.take_left' rfl, nearest]
    rfl

theorem placed_eq (elements : List Element) : placed elements = placedBehind none elements :=
  (placedBehind_eq none [] elements rfl).symm

theorem map_snd_placements (units : List DocumentUnit) :
    (placements units).map Prod.snd = units.flatMap DocumentUnit.elements := by
  have each (u : DocumentUnit) : (placed u.elements).map Prod.snd = u.elements := by
    rw [placed, List.map_map]
    exact List.zipIdx_map_fst 0 u.elements
  simp only [placements, List.map_flatMap, each]

/-! ## Merging namespaces -/

/-- What the first namespace of a name holds of one kind. -/
def contentNamed {α : Type} (content : Namespace → List α) (spaces : List Namespace)
    (name : String) : List α :=
  ((spaces.find? fun n => n.name = name).map content).getD []

/-- A kind of content that is kept, all of it and in order, when namespaces are merged. -/
def Merges {α : Type} (content : Namespace → List α) : Prop :=
  ∀ m n : Namespace, content ⟨m.name, m.classes ++ n.classes, m.protocols ++ n.protocols⟩ =
    content m ++ content n

theorem merges_classes : Merges Namespace.classes := fun _ _ => rfl

theorem merges_protocols : Merges Namespace.protocols := fun _ _ => rfl

/-- A merged namespace brings its content with it, and all others stay as they are. -/
theorem contentNamed_mergeNamespace {α : Type} {content : Namespace → List α}
    (merges : Merges content) (n : Namespace) (spaces : List Namespace) (name : String) :
    contentNamed content (mergeNamespace n spaces) name =
      contentNamed content spaces name ++ if n.name = name then content n else [] := by
  induction spaces with
  | nil =>
    by_cases here : n.name = name
    · simp [contentNamed, mergeNamespace, here]
    · simp [contentNamed, mergeNamespace, here]
  | cons m rest ih =>
    rw [mergeNamespace]
    by_cases same : m.name = n.name
    · rw [if_pos same]
      by_cases here : m.name = name
      · have target : n.name = name := same.symm.trans here
        have merged := merges m n
        rw [here] at merged
        simp [contentNamed, here, target, merged]
      · have other : n.name ≠ name := fun target => here (same.trans target)
        simp [contentNamed, here, other]
    · rw [if_neg same]
      by_cases here : m.name = name
      · have other : n.name ≠ name := fun target => same (here.trans target.symm)
        simp [contentNamed, here, other]
      · simp only [contentNamed, List.find?_cons, here, decide_false] at ih ⊢
        exact ih

/-- Merging adds a name at the end unless it is there. -/
theorem map_name_mergeNamespace (n : Namespace) (spaces : List Namespace) :
    (mergeNamespace n spaces).map Namespace.name =
      spaces.map Namespace.name ++ if n.name ∈ spaces.map Namespace.name then [] else [n.name] := by
  induction spaces with
  | nil => simp [mergeNamespace]
  | cons m rest ih =>
    rw [mergeNamespace]
    by_cases same : m.name = n.name
    · simp [same]
    · have other : n.name ≠ m.name := fun equal => same equal.symm
      rw [if_neg same, List.map_cons, ih]
      simp [other]

/-- Among namespaces of distinct names, each holds the content of its name. -/
theorem contentNamed_of_mem {α : Type} (content : Namespace → List α) {spaces : List Namespace}
    (distinct : (spaces.map Namespace.name).Nodup) {n : Namespace} (mem : n ∈ spaces) :
    contentNamed content spaces n.name = content n := by
  induction spaces with
  | nil => cases mem
  | cons m rest ih =>
    obtain ⟨new, distinct'⟩ := List.nodup_cons.1 distinct
    rcases List.mem_cons.1 mem with rfl | mem
    · simp [contentNamed]
    · have other : m.name ≠ n.name := by
        intro same
        exact new (same ▸ List.mem_map_of_mem mem)
      rw [contentNamed, List.find?_cons_of_neg (by simpa using other)]
      exact ih distinct' mem

/-! ## Populations -/

namespace Population

/-- The name of the namespace that declarations go to. -/
def unit (p : Population) : Option String := p.current.map Namespace.name

/-- The names of all namespaces, the open one included. -/
def names (p : Population) : List String := p.close.closed.map Namespace.name

/-- What has been taken in of one kind for the namespace of a name. -/
def gathered {α : Type} (content : Namespace → List α) (p : Population) (name : String) : List α :=
  contentNamed content p.close.closed name

variable {p q : Population}

theorem gathered_of_idle {α : Type} (content : Namespace → List α) (idle : p.current = none)
    (name : String) : p.gathered content name = contentNamed content p.closed name := by
  rw [gathered, close, idle]

/-- The open namespace counts as merged. -/
theorem gathered_of_open {α : Type} {content : Namespace → List α} (merges : Merges content)
    {n : Namespace} (current : p.current = some n) (name : String) :
    p.gathered content name =
      contentNamed content p.closed name ++ if n.name = name then content n else [] := by
  rw [gathered, close, current]
  exact contentNamed_mergeNamespace merges n p.closed name

theorem current_close (p : Population) : p.close.current = none := by
  rw [close]
  split
  · assumption
  · rfl

theorem close_close (p : Population) : p.close.close = p.close := by
  rw [close, current_close]

/-- A declaration has a namespace to go to exactly if it belongs to the open one. -/
theorem target_eq_ok_iff {kind name : String} {space : Option String} {n : Namespace} :
    p.target kind name space = .ok n ↔
      p.current = some n ∧ (space = none ∨ space = some "" ∨ space = some n.name) := by
  unfold target
  cases p.current with
  | none => simp
  | some m =>
    cases space with
    | none => simp
    | some declared =>
      by_cases fits : declared.isEmpty || declared = m.name
      · simp only [fits, if_true, Except.ok.injEq, Option.some.injEq]
        constructor
        · rintro rfl
          refine ⟨rfl, .inr ?_⟩
          simpa using fits
        · exact fun h => h.1
      · simp only [fits]
        simp only [Bool.or_eq_true, String.isEmpty_iff, decide_eq_true_eq, not_or] at fits
        constructor
        · intro h
          cases h
        · rintro ⟨same, unnamed | empty | named⟩
          · cases unnamed
          · exact absurd (Option.some.inj empty) fits.1
          · cases same
            exact absurd (Option.some.inj named) fits.2

theorem exists_target_iff {kind name : String} {space : Option String} :
    (∃ n, p.target kind name space = .ok n) ↔ BelongsTo p.unit space := by
  simp only [target_eq_ok_iff, BelongsTo, unit]
  constructor
  · rintro ⟨n, current, belongs⟩
    exact ⟨n.name, by rw [current]; rfl, belongs⟩
  · rintro ⟨name, current, belongs⟩
    obtain ⟨n, found, rfl⟩ := Option.map_eq_some_iff.1 current
    exact ⟨n, found, belongs⟩

/-- A computation in two steps succeeds if both do. -/
theorem bind_eq_ok_iff {ε α β : Type} {x : Except ε α} {f : α → Except ε β} {result : β} :
    (x >>= f) = .ok result ↔ ∃ a, x = .ok a ∧ f a = .ok result := by
  cases x with
  | error e => simp [bind, Except.bind]
  | ok a => simp [bind, Except.bind]

/-- Which populations a class declaration leads to. -/
theorem accept_class_eq_ok_iff {name : String} {space base : Option String} {vars : List Element} :
    p.accept (.classDeclaration name space base vars) = .ok q ↔
      ∃ c n, convertClass name base vars = .ok c ∧
        p.target "ClassDeclaration" name space = .ok n ∧
        q = { p with current := some { n with classes := n.classes ++ [c] } } := by
  simp only [accept, bind_eq_ok_iff, Except.ok.injEq, eq_comm (a := q)]
  simp only [exists_and_left]

/-- Which populations a protocol declaration leads to. -/
theorem accept_protocol_eq_ok_iff {name : String} {space : Option String} {id : Option UInt16}
    {methods : List Element} :
    p.accept (.protocolDeclaration name space id methods) = .ok q ↔
      ∃ c n, convertProtocol name id methods = .ok c ∧
        p.target "ProtocolDeclaration" name space = .ok n ∧
        q = { p with current := some { n with protocols := n.protocols ++ [c] } } := by
  simp only [accept, bind_eq_ok_iff, Except.ok.injEq, eq_comm (a := q)]
  simp only [exists_and_left]

/-- An element is accepted exactly if it may stand behind the open unit. -/
theorem exists_accept_iff (p : Population) (e : Element) :
    (∃ q, p.accept e = .ok q) ↔ Admissible p.unit e := by
  cases e with
  | unitDeclaration name => simp [accept, Admissible]
  | classDeclaration name space base vars =>
    rw [Admissible, ← exists_target_iff, ← (convertClass_reads_variables name base vars).1]
    simp only [accept_class_eq_ok_iff]
    constructor
    · rintro ⟨q, c, n, converted, found, -⟩
      exact ⟨⟨n, found⟩, c, converted⟩
    · rintro ⟨⟨n, found⟩, c, converted⟩
      exact ⟨_, c, n, converted, found, rfl⟩
  | protocolDeclaration name space id methods =>
    rw [Admissible, ← exists_target_iff]
    simp only [accept_protocol_eq_ok_iff]
    constructor
    · rintro ⟨q, c, n, converted, found, -⟩
      exact ⟨⟨n, found⟩, c, converted⟩
    · rintro ⟨⟨n, found⟩, c, converted⟩
      exact ⟨_, c, n, converted, found, rfl⟩
  | unread kind => cases kind <;> simp [accept, Admissible, UnreadKind.isDeclaration]
  | method | parameter | returnValue | fieldVariable => simp [accept, Admissible]

/-- What taking in elements makes of a population: the names of the units that they open are added
at the end unless they are there, and each namespace gets the declarations placed in it. -/
structure Grows (p : Population) (elements : List (Option String × Element)) (q : Population) :
    Prop where
  names : ∀ opened : List String, p.names = opened.eraseDups →
    q.names = (opened ++ unitNames (elements.map Prod.snd)).eraseDups
  classes : ∀ name, (q.gathered Namespace.classes name).map .ok =
    (p.gathered Namespace.classes name).map .ok ++ conversions Element.class? elements name
  protocols : ∀ name, (q.gathered Namespace.protocols name).map .ok =
    (p.gathered Namespace.protocols name).map .ok ++ conversions Element.protocol? elements name

namespace Grows

theorem refl (p : Population) : Grows p [] p where
  names := by
    intro opened same
    rw [same, List.map_nil, unitNames, List.filterMap_nil, List.append_nil]
  classes := by simp [conversions]
  protocols := by simp [conversions]

theorem trans {r : Population} {first second : List (Option String × Element)}
    (before : Grows p first q) (after : Grows q second r) : Grows p (first ++ second) r where
  names := by
    intro opened same
    have middle := after.names _ (before.names opened same)
    rw [List.append_assoc] at middle
    rw [middle, List.map_append, unitNames, unitNames, unitNames, List.filterMap_append]
  classes := by
    intro name
    rw [after.classes, before.classes, conversions_append, List.append_assoc]
  protocols := by
    intro name
    rw [after.protocols, before.protocols, conversions_append, List.append_assoc]

/-- Ending a unit changes nothing about what has been taken in. -/
theorem close {elements : List (Option String × Element)} (grows : Grows p elements q) :
    Grows p elements q.close := by
  have same : q.close.close = q.close := q.close_close
  refine ⟨?_, ?_, ?_⟩
  · intro opened before
    rw [Population.names, same]
    exact grows.names opened before
  · intro name
    rw [gathered, same]
    exact grows.classes name
  · intro name
    rw [gathered, same]
    exact grows.protocols name

end Grows

/-- A unit declaration opens a namespace, which is new or has been there before. -/
theorem names_of_opened (p : Population) (name : String) {opened : List String}
    (same : p.names = opened.eraseDups) :
    names ⟨p.close.closed, some ⟨name, [], []⟩⟩ = (opened ++ [name]).eraseDups := by
  rw [names, close]
  simp only [map_name_mergeNamespace]
  rw [show p.close.closed.map Namespace.name = opened.eraseDups from same, List.eraseDups_append]
  by_cases known : name ∈ opened
  · simp [List.removeAll, known]
  · simp [List.removeAll, known, List.eraseDups_cons]

/-- What a declaration adds to the open namespace is what is gathered more under its name. -/
theorem gathered_declared {α : Type} {content : Namespace → List α} (merges : Merges content)
    {convert? : Element → Option (Except DocumentError α)} {e : Element} {n n' : Namespace}
    (current : p.current = some n) (renamed : n'.name = n.name)
    (added : (content n').map .ok = (content n).map .ok ++ (convert? e).toList) (name : String) :
    (gathered content { p with current := some n' } name).map .ok =
      (p.gathered content name).map .ok ++ conversions convert? [(some n.name, e)] name := by
  rw [gathered_of_open merges rfl, gathered_of_open merges current, renamed]
  by_cases target : n.name = name
  · cases found : convert? e <;> simp [conversions, target, added, found]
  · simp [conversions, target]

/-- What a declaration adds to a population with an open namespace. -/
theorem declared_grows {e : Element} {n n' : Namespace} (current : p.current = some n)
    (renamed : n'.name = n.name) (noUnit : e.unitName? = none)
    (classes : n'.classes.map .ok = n.classes.map .ok ++ e.class?.toList)
    (protocols : n'.protocols.map .ok = n.protocols.map .ok ++ e.protocol?.toList) :
    Grows p [(p.unit, e)] { p with current := some n' } ∧
      unit { p with current := some n' } = e.unitName?.or p.unit := by
  have here : p.unit = some n.name := by
    rw [unit, current]
    rfl
  rw [here]
  refine ⟨⟨?_, ?_, ?_⟩, ?_⟩
  · intro opened same
    rw [names, close, current] at same
    simp only [map_name_mergeNamespace] at same
    rw [List.map_singleton, unitNames, List.filterMap_cons_none noUnit, List.filterMap_nil,
      List.append_nil, ← same, names, close]
    simp only [map_name_mergeNamespace, renamed]
  · exact gathered_declared merges_classes current renamed classes
  · exact gathered_declared merges_protocols current renamed protocols
  · rw [noUnit, unit]
    simp [renamed]

/-- What one element adds, and which unit is open behind it. -/
theorem accept_grows {e : Element} (accepted : p.accept e = .ok q) :
    Grows p [(p.unit, e)] q ∧ q.unit = e.unitName?.or p.unit := by
  cases e with
  | unitDeclaration name =>
    cases accepted
    have opened {α : Type} {content : Namespace → List α} (merges : Merges content)
        (empty : content ⟨name, [], []⟩ = []) (space : String) :
        gathered content ⟨p.close.closed, some ⟨name, [], []⟩⟩ space =
          p.gathered content space := by
      rw [gathered_of_open merges rfl, empty, ite_self, List.append_nil, gathered]
    refine ⟨⟨?_, ?_, ?_⟩, rfl⟩
    · intro before same
      exact names_of_opened p name same
    · intro space
      rw [opened merges_classes rfl]
      simp [conversions, Element.class?]
    · intro space
      rw [opened merges_protocols rfl]
      simp [conversions, Element.protocol?]
  | classDeclaration name space base vars =>
    obtain ⟨c, n, converted, found, rfl⟩ := accept_class_eq_ok_iff.1 accepted
    refine declared_grows (target_eq_ok_iff.1 found).1 ?_ ?_ ?_ ?_
    · rfl
    · rfl
    · simp [Element.class?, converted]
    · simp [Element.protocol?]
  | protocolDeclaration name space id methods =>
    obtain ⟨c, n, converted, found, rfl⟩ := accept_protocol_eq_ok_iff.1 accepted
    refine declared_grows (target_eq_ok_iff.1 found).1 ?_ ?_ ?_ ?_
    · rfl
    · rfl
    · simp [Element.class?]
    · simp [Element.protocol?, converted]
  | unread kind =>
    have same : q = p := by
      cases kind <;> cases accepted <;> rfl
    subst same
    refine ⟨⟨?_, ?_, ?_⟩, rfl⟩
    · intro opened before
      rw [before]
      exact congrArg List.eraseDups (List.append_nil opened).symm
    · simp [conversions, Element.class?]
    · simp [conversions, Element.protocol?]
  | method | parameter | returnValue | fieldVariable => cases accepted

/-- What the elements of a unit add. -/
theorem acceptAll_grows {elements : List Element} (accepted : p.acceptAll elements = .ok q) :
    Grows p (placedBehind p.unit elements) q := by
  induction elements generalizing p with
  | nil =>
    cases accepted
    exact .refl _
  | cons e rest ih =>
    rw [acceptAll] at accepted
    cases first : p.accept e with
    | error error =>
      rw [first] at accepted
      cases accepted
    | ok p' =>
      rw [first] at accepted
      obtain ⟨grows, next⟩ := accept_grows first
      have others := ih accepted
      rw [next] at others
      exact grows.trans others

/-- The elements of a unit are accepted exactly if each may stand where it stands. -/
theorem exists_acceptAll_iff (p : Population) (elements : List Element) :
    (∃ q, p.acceptAll elements = .ok q) ↔
      ∀ e ∈ placedBehind p.unit elements, Admissible e.1 e.2 := by
  induction elements generalizing p with
  | nil => simp [acceptAll, placedBehind]
  | cons e rest ih =>
    rw [placedBehind, List.forall_mem_cons, ← exists_accept_iff p e, acceptAll]
    cases first : p.accept e with
    | error error => simp
    | ok p' =>
      have next := (accept_grows first).2
      rw [← next, ← ih p']
      simp

/-- What units add. No namespace is open between units. -/
theorem acceptUnits_grows {units : List DocumentUnit} (idle : p.current = none)
    (accepted : p.acceptUnits units = .ok q) :
    Grows p (placements units) q ∧ q.current = none := by
  induction units generalizing p with
  | nil =>
    cases accepted
    exact ⟨.refl _, idle⟩
  | cons u rest ih =>
    rw [acceptUnits] at accepted
    cases first : p.acceptAll u.elements with
    | error error =>
      rw [first] at accepted
      cases accepted
    | ok p' =>
      rw [first] at accepted
      have grows := acceptAll_grows first
      rw [unit, idle, Option.map_none, ← placed_eq] at grows
      obtain ⟨others, idle'⟩ := ih p'.current_close accepted
      exact ⟨grows.close.trans others, idle'⟩

theorem exists_acceptUnits_iff (units : List DocumentUnit) (idle : p.current = none) :
    (∃ q, p.acceptUnits units = .ok q) ↔ ∀ e ∈ placements units, Admissible e.1 e.2 := by
  induction units generalizing p with
  | nil => simp [acceptUnits, placements]
  | cons u rest ih =>
    have unit := exists_acceptAll_iff p u.elements
    rw [Population.unit, idle, Option.map_none, ← placed_eq] at unit
    rw [placements, List.flatMap_cons, List.forall_mem_append, ← unit, acceptUnits]
    cases first : p.acceptAll u.elements with
    | error error => simp
    | ok p' =>
      rw [← placements, ← ih p'.current_close]
      simp

end Population

/-! ## Registries -/

theorem nodup_eraseDups (names : List String) : names.eraseDups.Nodup := by
  induction h : names.length using Nat.strongRecOn generalizing names with
  | _ n ih =>
    cases names with
    | nil => simp
    | cons name rest =>
      rw [List.eraseDups_cons, List.nodup_cons]
      constructor
      · simp
      · apply ih _ _ _ rfl
        rw [← h]
        exact Nat.lt_succ_of_le (List.length_filter_le _ _)

/-- The namespaces of a document have distinct names. -/
theorem nodup_names_of_buildRegistry {units : List DocumentUnit} {r : Registry}
    (built : buildRegistry units = .ok r) : (r.namespaces.map Namespace.name).Nodup := by
  rw [buildRegistry] at built
  cases accepted : (⟨[], none⟩ : Population).acceptUnits units with
  | error e =>
    rw [accepted] at built
    cases built
  | ok q =>
    rw [accepted] at built
    cases built
    obtain ⟨grows, idle⟩ := Population.acceptUnits_grows rfl accepted
    have names := grows.names [] rfl
    rw [Population.names, Population.close, idle] at names
    rw [names]
    exact nodup_eraseDups _

/-- A document has a registry exactly if every element may stand where it stands. The namespaces
are then those that unit declarations name, each in the place of its first declaration, and each
holds the conversions of the classes and protocols placed in it, in document order. Its classes have
the names, bases and fields declared. -/
theorem buildRegistry_gathers_placements (units : List DocumentUnit) :
    ((∃ r, buildRegistry units = .ok r) ↔ ∀ e ∈ placements units, Admissible e.1 e.2) ∧
    ∀ r, buildRegistry units = .ok r →
      r.namespaces.map Namespace.name =
        (unitNames (units.flatMap DocumentUnit.elements)).eraseDups ∧
      (r.namespaces.map Namespace.name).Nodup ∧
      ∀ n ∈ r.namespaces,
        n.classes.map .ok = conversions Element.class? (placements units) n.name ∧
        n.protocols.map .ok = conversions Element.protocol? (placements units) n.name ∧
        List.Forall₂ Element.DeclaresClass (classesPlaced (placements units) n.name) n.classes := by
  constructor
  · rw [← Population.exists_acceptUnits_iff (p := ⟨[], none⟩) units rfl, buildRegistry]
    cases (⟨[], none⟩ : Population).acceptUnits units with
    | error e => simp [Except.map]
    | ok q => simp [Except.map]
  · intro r built
    rw [buildRegistry] at built
    cases accepted : (⟨[], none⟩ : Population).acceptUnits units with
    | error e =>
      rw [accepted] at built
      cases built
    | ok q =>
      rw [accepted] at built
      cases built
      obtain ⟨grows, idle⟩ := Population.acceptUnits_grows rfl accepted
      -- with no namespace open, what has been taken in is what the registry holds
      have named : q.closed.map Namespace.name =
          (unitNames (units.flatMap DocumentUnit.elements)).eraseDups := by
        have names := grows.names [] rfl
        rwa [Population.names, Population.close, idle, List.nil_append, map_snd_placements] at names
      have distinct : (q.closed.map Namespace.name).Nodup := by
        rw [named]
        exact nodup_eraseDups _
      refine ⟨named, distinct, ?_⟩
      intro n mem
      have classes := grows.classes n.name
      have protocols := grows.protocols n.name
      rw [Population.gathered_of_idle _ idle, contentNamed_of_mem _ distinct mem] at classes
      rw [Population.gathered_of_idle _ idle, contentNamed_of_mem _ distinct mem] at protocols
      exact ⟨classes, protocols, forall₂_declaresClass classes⟩

namespace Reopened

def version : Element := .fieldVariable "version" (.bare (.simple "uint8"))

def ranks : Element :=
  .fieldVariable "ranks" (.wrapped (.template (some "Ranks") "qlist" [.classRef "Key"]) 0)

def data : Element := .classDeclaration "Data" none none [version]

def score : Element := .classDeclaration "Score" (some "") (some "Data") [ranks, version]

def key : Element := .classDeclaration "Key" (some "Core") (some "") []

/-- A namespace that is opened, left for another one, and opened again in a second unit. -/
def units : List DocumentUnit :=
  [⟨[.unread .simple, .unitDeclaration "Core", data, .unitDeclaration "Game", score]⟩,
    ⟨[.unitDeclaration "Core", key, .protocolDeclaration "Login" none (some 10) []]⟩]

/-- The classes of both units are in the namespace, and so are the base and the fields of the one in
between in its own. -/
theorem units_gather_placements :
    ∃ r, buildRegistry units = .ok r ∧ r.namespaces.map Namespace.name = ["Core", "Game"] ∧
      ∀ n ∈ r.namespaces,
        (n.name = "Core" → List.Forall₂ Element.DeclaresClass [data, key] n.classes ∧
          n.classes = [⟨"Data", none, [⟨"version", .scalar "uint8"⟩]⟩, ⟨"Key", none, []⟩] ∧
          n.protocols = [⟨some 10, "Login", []⟩]) ∧
        (n.name = "Game" → List.Forall₂ Element.DeclaresClass [score] n.classes ∧
          n.classes = [⟨"Score", some "Data", [⟨"ranks", .template "qlist" [.classRef "Key"]⟩,
            ⟨"version", .scalar "uint8"⟩]⟩]) := by
  obtain ⟨accepted, gathers⟩ := buildRegistry_gathers_placements units
  have usable : version.Storable ∧ ranks.Storable :=
    ⟨(TypeVariant.firstUnusable?_eq_none_iff _).1 rfl,
      (TypeVariant.firstUnusable?_eq_none_iff _).1 rfl⟩
  have admissible : ∀ e ∈ placements units, Admissible e.1 e.2 := by
    rw [show placements units = units.flatMap fun u => placedBehind none u.elements by
      simp only [placements, placed_eq]]
    simp only [units, data, score, key, List.flatMap_cons, List.flatMap_nil, placedBehind,
      Element.unitName?, Option.or, List.cons_append, List.nil_append, List.append_nil,
      List.forall_mem_cons]
    refine ⟨⟨nofun, nofun⟩, trivial, ⟨⟨_, rfl, .inl rfl⟩, ?_⟩, trivial,
      ⟨⟨_, rfl, .inr (.inl rfl)⟩, ?_⟩, trivial, ⟨⟨_, rfl, .inr (.inr rfl)⟩, ?_⟩,
      ⟨⟨_, rfl, .inl rfl⟩, _, rfl⟩, List.forall_mem_nil _⟩
    · exact List.forall_mem_singleton.2 usable.1
    · exact List.forall_mem_cons.2 ⟨usable.2, List.forall_mem_singleton.2 usable.1⟩
    · exact List.forall_mem_nil _
  obtain ⟨r, built⟩ := accepted.2 admissible
  obtain ⟨names, -, holds⟩ := gathers r built
  refine ⟨r, built, names, ?_⟩
  intro n mem
  obtain ⟨classes, protocols, declared⟩ := holds n mem
  have made {α : Type} {l l' : List α} :
      l.map (Except.ok (ε := DocumentError)) = l'.map .ok → l = l' :=
    (List.map_inj_right fun _ _ => Except.ok.inj).1
  refine ⟨fun named => ?_, fun named => ?_⟩
  · rw [named] at classes protocols declared
    exact ⟨declared, made classes, made protocols⟩
  · rw [named] at classes declared
    exact ⟨declared, made classes⟩

end Reopened

end Dissect.Document
