import Dissect.Document.Conversion
import Mathlib.Data.List.Forall2

/-!
# What becomes of the elements of a method

Only the elements up to the first return value matter (`upToReturn`). The method is refused because
of the first of them that is not acceptable (`objection?`): a parameter that goes in neither
direction, whatever its type, a type that no value can have, or an element of another kind. A method
that is not refused has the fields that these elements declare (`Declares`): those of its request in
order, and for its response the result in front of the others in order.
-/

set_option autoImplicit false

namespace Dissect.Document

open Schema

/-! ## Types -/

namespace TypeVariant

mutual

/-- A type and all types inside it, each in front of its own parameters. -/
def parts : TypeVariant → List TypeVariant
  | .simple name => [.simple name]
  | .classRef name => [.classRef name]
  | .template label name parameters => .template label name parameters :: partsAll parameters
  | .distributedObject name => [.distributedObject name]
  | .dataset name => [.dataset name]

/-- Types and all types inside them, from left to right. -/
def partsAll : List TypeVariant → List TypeVariant
  | [] => []
  | v :: rest => v.parts ++ partsAll rest

end

/-- How a type is shown that no value can have by itself. -/
def unusable? : TypeVariant → Option String
  | .distributedObject name => some s!"DOClass({name})"
  | .dataset name => some s!"Dataset({name})"
  | _ => none

/-- The first type that no value can have, in front of its own parameters and from left to right. -/
def firstUnusable? (v : TypeVariant) : Option String := v.parts.findSome? unusable?

/-- There is no distributed object and no dataset in a type, at whatever depth. -/
def Usable (v : TypeVariant) : Prop :=
  ∀ part ∈ v.parts, (∀ name, part ≠ .distributedObject name) ∧ ∀ name, part ≠ .dataset name

theorem unusable?_eq_none_iff (v : TypeVariant) :
    v.unusable? = none ↔ (∀ name, v ≠ .distributedObject name) ∧ ∀ name, v ≠ .dataset name := by
  cases v <;> simp [unusable?]

theorem firstUnusable?_eq_none_iff (v : TypeVariant) : v.firstUnusable? = none ↔ v.Usable := by
  rw [firstUnusable?, List.findSome?_eq_none_iff]
  simp only [unusable?_eq_none_iff]
  rfl

end TypeVariant

mutual

/-- A type of a document means a type of a schema. Labels of templates are dropped. -/
inductive Means : TypeVariant → TypeExpr → Prop
  | simple {name : String} : Means (.simple name) (.scalar name)
  | classRef {name : String} : Means (.classRef name) (.classRef name)
  | template {label : Option String} {name : String} {parameters : List TypeVariant}
      {types : List TypeExpr} (inside : MeansAll parameters types) :
      Means (.template label name parameters) (.template name types)

/-- Types of a document mean types of a schema, one by one. -/
inductive MeansAll : List TypeVariant → List TypeExpr → Prop
  | nil : MeansAll [] []
  | cons {v : TypeVariant} {rest : List TypeVariant} {type : TypeExpr} {types : List TypeExpr}
      (first : Means v type) (others : MeansAll rest types) :
      MeansAll (v :: rest) (type :: types)

end

/-- A conversion for a field succeeds with something of the wanted kind, or is refused because of a
type that no value can have. -/
def Settles {α : Type} (field : String) (wanted : α → Prop) (result : Except DocumentError α) :
    Option String → Prop
  | none => ∃ value, result = .ok value ∧ wanted value
  | some text => result = .error (.malformedType field text)

namespace Settles

variable {α : Type} {field : String} {wanted : α → Prop} {result : Except DocumentError α}
  {first : Option String}

theorem exists_ok (settles : Settles field wanted result first) (usable : first = none) :
    ∃ value, result = .ok value ∧ wanted value := by
  subst usable
  exact settles

theorem eq_error (settles : Settles field wanted result first) {text : String}
    (unusable : first = some text) : result = .error (.malformedType field text) := by
  subst unusable
  exact settles

end Settles

mutual

theorem convertVariant_settles (field : String) : ∀ v : TypeVariant,
    Settles field (Means v) (convertVariant field v) v.firstUnusable?
  | .simple _ => ⟨_, rfl, .simple⟩
  | .classRef _ => ⟨_, rfl, .classRef⟩
  | .template label name parameters => by
    have inside := convertVariants_settles field parameters
    -- the template itself is no obstacle, so the first one is among its parameters
    have here : (TypeVariant.template label name parameters).firstUnusable? =
      (TypeVariant.partsAll parameters).findSome? TypeVariant.unusable? := rfl
    rw [convertVariant, here]
    cases first : (TypeVariant.partsAll parameters).findSome? TypeVariant.unusable? with
    | none =>
      obtain ⟨types, converted, means⟩ := inside.exists_ok first
      rw [converted]
      exact ⟨_, rfl, .template means⟩
    | some text =>
      rw [inside.eq_error first]
      rfl
  | .distributedObject _ => rfl
  | .dataset _ => rfl

theorem convertVariants_settles (field : String) : ∀ vs : List TypeVariant,
    Settles field (MeansAll vs) (convertVariants field vs)
      ((TypeVariant.partsAll vs).findSome? TypeVariant.unusable?)
  | [] => ⟨_, rfl, .nil⟩
  | v :: rest => by
    have here := convertVariant_settles field v
    have behind := convertVariants_settles field rest
    rw [convertVariants, TypeVariant.partsAll, List.findSome?_append]
    cases first : v.parts.findSome? TypeVariant.unusable? with
    | some text =>
      rw [here.eq_error first]
      rfl
    | none =>
      obtain ⟨type, converted, means⟩ := here.exists_ok first
      rw [converted, Option.none_or]
      cases second : (TypeVariant.partsAll rest).findSome? TypeVariant.unusable? with
      | some text =>
        rw [behind.eq_error second]
        rfl
      | none =>
        obtain ⟨types, convertedAll, meansAll⟩ := behind.exists_ok second
        rw [convertedAll]
        exact ⟨_, rfl, .cons means meansAll⟩

end

/-- A field has the name it is given and the type of its descriptor, unless a type inside cannot be
used. -/
theorem convertField_settles (name : String) (type : TypeDescriptor) :
    Settles name (fun f : Field => f.name = name ∧ Means type.type f.type)
      (convertField name type) type.type.firstUnusable? := by
  have settles := convertVariant_settles name type.type
  rw [convertField]
  cases first : type.type.firstUnusable? with
  | none =>
    obtain ⟨t, converted, means⟩ := settles.exists_ok first
    rw [converted]
    exact ⟨_, rfl, rfl, means⟩
  | some text =>
    rw [settles.eq_error first]
    rfl

/-! ## Elements -/

namespace Element

/-- Whether an element is a return value. -/
def isReturn : Element → Bool
  | .returnValue _ => true
  | _ => false

/-- Whether an element is a parameter of a direction. -/
def goes (direction : String) : Element → Bool
  | .parameter _ _ given => given = direction
  | _ => false

/-- An element that a method may have: a parameter in one of the two directions, or a return value,
with a type that can be used. -/
def Acceptable : Element → Prop
  | .parameter _ type direction =>
    (direction = "Request" ∨ direction = "Response") ∧ type.type.Usable
  | .returnValue type => type.type.Usable
  | _ => False

/-- Why an element of a method is refused. The direction of a parameter is looked at before its
type. -/
def objection? (method : String) : Element → Option DocumentError
  | .parameter name type direction =>
    if direction = "Request" ∨ direction = "Response" then
      type.type.firstUnusable?.map (.malformedType name)
    else some (.invalidDirection name direction)
  | .returnValue type => type.type.firstUnusable?.map (.malformedType "result")
  | e => some (.unexpectedElement e.kind (.methodNamed method))

theorem objection?_eq_none_iff (method : String) (e : Element) :
    e.objection? method = none ↔ e.Acceptable := by
  cases e with
  | parameter name type direction =>
    rw [objection?, Acceptable, ← TypeVariant.firstUnusable?_eq_none_iff]
    by_cases known : direction = "Request" ∨ direction = "Response"
    · rw [if_pos known, Option.map_eq_none_iff]
      exact (and_iff_right known).symm
    · rw [if_neg known]
      exact iff_of_false (Option.some_ne_none _) fun both => known both.1
  | returnValue type =>
    rw [objection?, Acceptable, ← TypeVariant.firstUnusable?_eq_none_iff, Option.map_eq_none_iff]
  | unitDeclaration | classDeclaration | protocolDeclaration | method | fieldVariable | unread =>
    exact iff_of_false (Option.some_ne_none _) id

/-- The field that an element declares: a parameter or a variable under its own name, a return value
as the result. -/
def Declares : Element → Field → Prop
  | .parameter name type _, f => f.name = name ∧ Means type.type f.type
  | .returnValue type, f => f.name = "result" ∧ Means type.type f.type
  | .fieldVariable name type, f => f.name = name ∧ Means type.type f.type
  | _, _ => False

theorem isReturn_eq_false_of_goes {direction : String} {e : Element}
    (goes : e.goes direction = true) : e.isReturn = false := by
  cases e with
  | parameter => rfl
  | _ => nomatch goes

theorem goes_eq_false_of_isReturn {e : Element} (isReturn : e.isReturn = true)
    (direction : String) : e.goes direction = false := by
  cases e with
  | returnValue => rfl
  | _ => nomatch isReturn

theorem goes_eq_false_of_goes {direction other : String} {e : Element}
    (goes : e.goes direction = true) (ne : direction ≠ other) : e.goes other = false := by
  cases e with
  | parameter name type given =>
    obtain rfl : given = direction := of_decide_eq_true goes
    exact decide_eq_false ne
  | _ => nomatch goes

end Element

/-- The elements up to the first return value, that included; all if there is none. -/
def upToReturn (elements : List Element) : List Element :=
  elements.takeWhile (fun e => !e.isReturn) ++ (elements.find? Element.isReturn).toList

theorem upToReturn_cons (e : Element) (rest : List Element) :
    upToReturn (e :: rest) = e :: if e.isReturn then [] else upToReturn rest := by
  cases isReturn : e.isReturn with
  | true => simp [upToReturn, isReturn]
  | false => simp [upToReturn, isReturn]

theorem upToReturn_cons_of_return {e : Element} (isReturn : e.isReturn = true)
    (rest : List Element) : upToReturn (e :: rest) = [e] := by
  rw [upToReturn_cons, if_pos isReturn]

theorem upToReturn_cons_of_other {e : Element} (other : e.isReturn = false)
    (rest : List Element) : upToReturn (e :: rest) = e :: upToReturn rest := by
  rw [upToReturn_cons, if_neg (ne_true_of_eq_false other)]

/-! ## Steps -/

theorem ofName?_eq_none {direction : String}
    (unknown : ¬ (direction = "Request" ∨ direction = "Response")) :
    Direction.ofName? direction = none := by
  unfold Direction.ofName?
  split
  · exact absurd (Or.inl rfl) unknown
  · exact absurd (Or.inr rfl) unknown
  · rfl

/-- An element that is objected to ends the method. -/
theorem convertMethodFrom_of_objection {m : Method} {e : Element} {error : DocumentError}
    (objection : e.objection? m.name = some error) (rest : List Element) :
    convertMethodFrom m (e :: rest) = .error error := by
  cases e with
  | parameter name type direction =>
    rw [Element.objection?] at objection
    rw [convertMethodFrom]
    by_cases known : direction = "Request" ∨ direction = "Response"
    · rw [if_pos known] at objection
      obtain ⟨text, first, rfl⟩ := Option.map_eq_some_iff.1 objection
      have refused := (convertField_settles name type).eq_error first
      -- the type is looked at before the field goes to either side
      rcases known with rfl | rfl
      · rw [refused]
        rfl
      · rw [refused]
        rfl
    · rw [if_neg known] at objection
      rw [ofName?_eq_none known]
      exact congrArg Except.error (Option.some.inj objection)
  | returnValue type =>
    obtain ⟨text, first, rfl⟩ := Option.map_eq_some_iff.1 objection
    rw [convertMethodFrom, (convertField_settles resultName type).eq_error first]
    rfl
  | unitDeclaration | classDeclaration | protocolDeclaration | method | fieldVariable | unread =>
    exact congrArg Except.error (Option.some.inj objection)

/-- An acceptable element adds the field that it declares: a return value in front of the response,
where the method ends, and a parameter at the end of its side. -/
theorem convertMethodFrom_of_acceptable (m : Method) {e : Element} (acceptable : e.Acceptable)
    (rest : List Element) : ∃ f, e.Declares f ∧
      (e.isReturn = true ∧
          convertMethodFrom m (e :: rest) = .ok { m with returns := f :: m.returns } ∨
        e.goes "Request" = true ∧ convertMethodFrom m (e :: rest) =
          convertMethodFrom { m with parameters := m.parameters ++ [f] } rest ∨
        e.goes "Response" = true ∧ convertMethodFrom m (e :: rest) =
          convertMethodFrom { m with returns := m.returns ++ [f] } rest) := by
  cases e with
  | parameter name type direction =>
    obtain ⟨known, usable⟩ := acceptable
    have settles := convertField_settles name type
    obtain ⟨f, converted, declares⟩ :=
      settles.exists_ok ((TypeVariant.firstUnusable?_eq_none_iff _).2 usable)
    refine ⟨f, declares, .inr ?_⟩
    rw [convertMethodFrom, converted]
    rcases known with rfl | rfl
    · exact .inl ⟨rfl, rfl⟩
    · exact .inr ⟨rfl, rfl⟩
  | returnValue type =>
    have settles := convertField_settles resultName type
    obtain ⟨f, converted, declares⟩ :=
      settles.exists_ok ((TypeVariant.firstUnusable?_eq_none_iff _).2 acceptable)
    refine ⟨f, declares, .inl ⟨rfl, ?_⟩⟩
    rw [convertMethodFrom, converted]
    rfl
  | unitDeclaration | classDeclaration | protocolDeclaration | method | fieldVariable | unread =>
    exact acceptable.elim

/-! ## Methods -/

/-- What stands behind the first return value is not read. -/
theorem convertMethodFrom_upToReturn (m : Method) (elements : List Element) :
    convertMethodFrom m (upToReturn elements) = convertMethodFrom m elements := by
  induction elements generalizing m with
  | nil => rfl
  | cons e rest ih =>
    cases e with
    | parameter name type direction =>
      rw [upToReturn_cons_of_other rfl]
      simp only [convertMethodFrom, ih]
    | returnValue type =>
      rw [upToReturn_cons_of_return rfl]
      rfl
    | unitDeclaration | classDeclaration | protocolDeclaration | method | fieldVariable | unread =>
      rw [upToReturn_cons_of_other rfl]
      rfl

theorem findSome?_objection?_eq_none_iff (method : String) (elements : List Element) :
    elements.findSome? (Element.objection? method) = none ↔ ∀ e ∈ elements, e.Acceptable := by
  rw [List.findSome?_eq_none_iff]
  simp only [Element.objection?_eq_none_iff]

/-- The first objection is the error. -/
theorem convertMethodFrom_of_findSome? {m : Method} {elements : List Element}
    {error : DocumentError}
    (first : (upToReturn elements).findSome? (Element.objection? m.name) = some error) :
    convertMethodFrom m elements = .error error := by
  induction elements generalizing m with
  | nil => exact absurd first (Option.some_ne_none error).symm
  | cons e rest ih =>
    cases objection : e.objection? m.name with
    | some refused =>
      rw [upToReturn_cons, List.findSome?_cons, objection] at first
      exact convertMethodFrom_of_objection (objection.trans first) rest
    | none =>
      have acceptable := (Element.objection?_eq_none_iff m.name e).1 objection
      obtain ⟨f, -, ⟨isReturn, -⟩ | ⟨goes, step⟩ | ⟨goes, step⟩⟩ :=
        convertMethodFrom_of_acceptable m acceptable rest
      · -- an acceptable return value is the last element read, so nothing behind it objects
        rw [upToReturn_cons_of_return isReturn, List.findSome?_cons, objection] at first
        exact absurd first (Option.some_ne_none error).symm
      · rw [upToReturn_cons_of_other (Element.isReturn_eq_false_of_goes goes), List.findSome?_cons,
          objection] at first
        rw [step]
        exact ih first
      · rw [upToReturn_cons_of_other (Element.isReturn_eq_false_of_goes goes), List.findSome?_cons,
          objection] at first
        rw [step]
        exact ih first

/-- The fields that the selected elements declare, in order. -/
def Collects (selected : Element → Bool) (elements : List Element) (fields : List Field) : Prop :=
  List.Forall₂ Element.Declares (elements.filter selected) fields

namespace Collects

variable {selected : Element → Bool} {e : Element} {rest : List Element} {fields : List Field}

theorem take {f : Field} (collects : Collects selected rest fields) (here : selected e = true)
    (declares : e.Declares f) : Collects selected (e :: rest) (f :: fields) := by
  rw [Collects, List.filter_cons_of_pos here]
  exact .cons declares collects

theorem skip (collects : Collects selected rest fields) (here : selected e = false) :
    Collects selected (e :: rest) fields := by
  rw [Collects, List.filter_cons_of_neg (ne_true_of_eq_false here)]
  exact collects

end Collects

/-- The fields that elements declare, by the place that they go to. -/
structure Gathers (elements : List Element) (requests results responses : List Field) : Prop where
  requests : Collects (·.goes "Request") elements requests
  results : Collects Element.isReturn elements results
  responses : Collects (·.goes "Response") elements responses

namespace Gathers

variable {e : Element} {rest : List Element} {f : Field} {requests results responses : List Field}

theorem nil : Gathers [] [] [] [] := ⟨.nil, .nil, .nil⟩

theorem request (gathers : Gathers rest requests results responses)
    (goes : e.goes "Request" = true) (declares : e.Declares f) :
    Gathers (e :: rest) (f :: requests) results responses where
  requests := gathers.requests.take goes declares
  results := gathers.results.skip (Element.isReturn_eq_false_of_goes goes)
  responses := gathers.responses.skip (Element.goes_eq_false_of_goes goes (by decide))

theorem response (gathers : Gathers rest requests results responses)
    (goes : e.goes "Response" = true) (declares : e.Declares f) :
    Gathers (e :: rest) requests results (f :: responses) where
  requests := gathers.requests.skip (Element.goes_eq_false_of_goes goes (by decide))
  results := gathers.results.skip (Element.isReturn_eq_false_of_goes goes)
  responses := gathers.responses.take goes declares

theorem result (gathers : Gathers rest requests results responses) (isReturn : e.isReturn = true)
    (declares : e.Declares f) : Gathers (e :: rest) requests (f :: results) responses where
  requests := gathers.requests.skip (Element.goes_eq_false_of_isReturn isReturn _)
  results := gathers.results.take isReturn declares
  responses := gathers.responses.skip (Element.goes_eq_false_of_isReturn isReturn _)

end Gathers

/-- Acceptable elements make a method of the fields that they declare, in addition to those found
so far. -/
theorem convertMethodFrom_gathers (m : Method) {elements : List Element}
    (acceptable : ∀ e ∈ upToReturn elements, e.Acceptable) :
    ∃ requests results responses, Gathers (upToReturn elements) requests results responses ∧
      convertMethodFrom m elements = .ok { m with
        parameters := m.parameters ++ requests
        returns := results ++ (m.returns ++ responses) } := by
  induction elements generalizing m with
  | nil =>
    refine ⟨[], [], [], .nil, ?_⟩
    simp [convertMethodFrom]
  | cons e rest ih =>
    have here : e ∈ upToReturn (e :: rest) := by
      rw [upToReturn_cons]
      exact List.mem_cons_self
    obtain ⟨f, declares, ⟨isReturn, step⟩ | ⟨goes, step⟩ | ⟨goes, step⟩⟩ :=
      convertMethodFrom_of_acceptable m (acceptable e here) rest
    · rw [upToReturn_cons_of_return isReturn]
      refine ⟨[], [f], [], Gathers.nil.result isReturn declares, ?_⟩
      rw [step, List.append_nil, List.append_nil]
      rfl
    · rw [upToReturn_cons_of_other (Element.isReturn_eq_false_of_goes goes)] at acceptable ⊢
      obtain ⟨requests, results, responses, gathers, converted⟩ :=
        ih { m with parameters := m.parameters ++ [f] } fun e he =>
          acceptable e (List.mem_cons_of_mem _ he)
      refine ⟨f :: requests, results, responses, gathers.request goes declares, ?_⟩
      rw [step, converted, List.append_assoc]
      rfl
    · rw [upToReturn_cons_of_other (Element.isReturn_eq_false_of_goes goes)] at acceptable ⊢
      obtain ⟨requests, results, responses, gathers, converted⟩ :=
        ih { m with returns := m.returns ++ [f] } fun e he =>
          acceptable e (List.mem_cons_of_mem _ he)
      refine ⟨requests, results, f :: responses, gathers.response goes declares, ?_⟩
      rw [step, converted, List.append_assoc]
      rfl

/-- A method without an objection is made of the fields that its elements declare. -/
theorem convertMethod_gathers (id : Nat) (name : String) {elements : List Element}
    (acceptable : ∀ e ∈ upToReturn elements, e.Acceptable) :
    ∃ requests results responses, Gathers (upToReturn elements) requests results responses ∧
      convertMethod id name elements = .ok ⟨id, name, requests, results ++ responses⟩ :=
  convertMethodFrom_gathers ⟨id, name, [], []⟩ acceptable

/-- A method is refused with the first objection, and only with that. -/
theorem convertMethod_eq_error_iff (id : Nat) (name : String) (elements : List Element)
    (error : DocumentError) : convertMethod id name elements = .error error ↔
      (upToReturn elements).findSome? (Element.objection? name) = some error := by
  have refuses {e : DocumentError}
      (first : (upToReturn elements).findSome? (Element.objection? name) = some e) :
      convertMethod id name elements = .error e := convertMethodFrom_of_findSome? first
  constructor
  · intro refused
    cases first : (upToReturn elements).findSome? (Element.objection? name) with
    | none =>
      obtain ⟨_, _, _, _, converted⟩ :=
        convertMethod_gathers id name ((findSome?_objection?_eq_none_iff _ _).1 first)
      exact nomatch converted.symm.trans refused
    | some e => exact congrArg some (Except.error.inj ((refuses first).symm.trans refused))
  · exact refuses

theorem acceptable_of_convertMethod {id : Nat} {name : String} {elements : List Element}
    {m : Method} (converted : convertMethod id name elements = .ok m) :
    ∀ e ∈ upToReturn elements, e.Acceptable := by
  rw [← findSome?_objection?_eq_none_iff name]
  cases first : (upToReturn elements).findSome? (Element.objection? name) with
  | none => rfl
  | some error =>
    have refused := (convertMethod_eq_error_iff id name elements error).2 first
    exact nomatch converted.symm.trans refused

/-- A method depends on its elements up to the first return value. It is made exactly if each of
these is acceptable, of the fields that they declare: those of the request in order, and for the
response the result and then the others in order. Otherwise the first element that is not acceptable
says why. -/
theorem convertMethod_reads_upToReturn (id : Nat) (name : String) (elements : List Element) :
    convertMethod id name elements = convertMethod id name (upToReturn elements) ∧
    ((∃ m, convertMethod id name elements = .ok m) ↔ ∀ e ∈ upToReturn elements, e.Acceptable) ∧
    (∀ m, convertMethod id name elements = .ok m → m.id = id ∧ m.name = name ∧
      List.Forall₂ Element.Declares ((upToReturn elements).filter (·.goes "Request"))
        m.parameters ∧
      List.Forall₂ Element.Declares
        ((upToReturn elements).filter Element.isReturn ++
          (upToReturn elements).filter (·.goes "Response")) m.returns) ∧
    (∀ error, convertMethod id name elements = .error error ↔
      (upToReturn elements).findSome? (Element.objection? name) = some error) := by
  refine ⟨(convertMethodFrom_upToReturn _ elements).symm, ⟨?_, ?_⟩, ?_,
    convertMethod_eq_error_iff id name elements⟩
  · rintro ⟨m, converted⟩
    exact acceptable_of_convertMethod converted
  · intro acceptable
    obtain ⟨requests, results, responses, -, converted⟩ := convertMethod_gathers id name acceptable
    exact ⟨_, converted⟩
  · intro m converted
    obtain ⟨requests, results, responses, gathers, made⟩ :=
      convertMethod_gathers id name (acceptable_of_convertMethod converted)
    obtain rfl := Except.ok.inj (made.symm.trans converted)
    exact ⟨rfl, rfl, gathers.requests, List.rel_append gathers.results gathers.responses⟩

namespace Login

def user : Element := .parameter "user" (.bare (.simple "string")) "Request"

def session : Element :=
  .parameter "session" (.bare (.template none "std_list" [.classRef "Ticket"])) "Response"

def outcome : Element := .returnValue (.wrapped (.simple "qresult") 0)

/-- A parameter with two faults. -/
def stray : Element :=
  .parameter "stray" (.bare (.template none "std_list" [.dataset "Players"])) "Unknown"

def signature : Method :=
  ⟨1, "Login", [⟨"user", .scalar "string"⟩],
    [⟨"result", .scalar "qresult"⟩, ⟨"session", .template "std_list" [.classRef "Ticket"]⟩]⟩

/-- Behind the return value a stray parameter does no harm, and in front of it the direction is what
is wrong with it. -/
theorem login_reads :
    convertMethod 1 "Login" [user, session, outcome, stray] = .ok signature ∧
    List.Forall₂ Element.Declares [user] signature.parameters ∧
    List.Forall₂ Element.Declares [outcome, session] signature.returns ∧
    convertMethod 1 "Login" [user, stray, outcome] =
      .error (.invalidDirection "stray" "Unknown") := by
  obtain ⟨-, -, declared, -⟩ :=
    convertMethod_reads_upToReturn 1 "Login" [user, session, outcome, stray]
  obtain ⟨-, -, -, refused⟩ := convertMethod_reads_upToReturn 1 "Login" [user, stray, outcome]
  have converted : convertMethod 1 "Login" [user, session, outcome, stray] = .ok signature := rfl
  obtain ⟨-, -, requests, returns⟩ := declared signature converted
  exact ⟨converted, requests, returns, (refused _).2 rfl⟩

end Login

end Dissect.Document
