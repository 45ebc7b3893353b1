import Dissect.Document.Reader
import Dissect.Proofs.Json.Values

/-!
# How documents are written

The JSON values that write the units of a document. A record is an object: its fields stand in any
order, each under one of its names, and a field that may be missing is left out or written with its
default. An element is an object with one member, whose key is the kind of the element; so is a type,
wrapped or not. The contents of elements that are not looked at may be any value.

What is written under the names of the fields is found again (`recordFields_of_record`).
-/

set_option autoImplicit false

namespace Dissect.Document

open Json

/-! ## Records -/

/-- A text as a value. -/
def textValue (s : String) : Value := .string (some s)

/-- A natural number as a value: its decimal digits. -/
def naturalValue (n : Nat) : Value := .number ⟨false, Nat.toDigits 10 n, none, none⟩

/-- An object whose keys are texts. -/
def record (members : List (String × Value)) : Value := .object (members.map fun m => (some m.1, m.2))

/-- The members that write the fields that have a value, each under one of its names. -/
inductive Fills : List (List String) → List (Option Value) → List (String × Value) → Prop
  | nil : Fills [] [] []
  | missing {names : List String} {fields : List (List String)} {values : List (Option Value)}
      {members : List (String × Value)} (others : Fills fields values members) :
      Fills (names :: fields) (none :: values) members
  | present {names : List String} {fields : List (List String)} {values : List (Option Value)}
      {members : List (String × Value)} {name : String} (v : Value) (known : name ∈ names)
      (others : Fills fields values members) :
      Fills (names :: fields) (some v :: values) ((name, v) :: members)

/-- An object with the given values of fields, in any order. -/
inductive Record (fields : List (List String)) (values : List (Option Value)) : Value → Prop
  | intro {members ordered : List (String × Value)} (filled : Fills fields values members)
      (order : ordered.Perm members) : Record fields values (record ordered)

/-- No name belongs to two fields. -/
def Unambiguous (fields : List (List String)) : Prop :=
  fields.Pairwise fun names others => ∀ name ∈ names, name ∉ others

instance (fields : List (List String)) : Decidable (Unambiguous fields) :=
  inferInstanceAs (Decidable (fields.Pairwise _))

theorem namedMembers_map (members : List (String × Value)) :
    namedMembers (members.map fun m => (some m.1, m.2)) = some members := by
  induction members with
  | nil => rfl
  | cons m rest ih =>
    rw [namedMembers] at ih ⊢
    rw [List.map_cons, List.mapM_cons, ih]
    rfl

/-- The order of members does not matter. -/
theorem memberOf_perm {members ordered : List (String × Value)} (order : ordered.Perm members)
    (names : List String) : memberOf ordered names = memberOf members names := by
  have found := order.filter fun m => names.contains m.1
  unfold memberOf
  cases selected : members.filter fun m => names.contains m.1 with
  | nil =>
    rw [selected] at found
    rw [found.eq_nil]
  | cons m rest =>
    rw [selected] at found
    cases rest with
    | nil => rw [List.perm_singleton.1 found]
    | cons m' rest =>
      -- two members under names of one field are refused in any order
      have long := found.length_eq
      split
      · next empty =>
        rw [empty] at long
        cases long
      · next one =>
        rw [one] at long
        cases long
      · rfl

theorem Fills.mem_fields {fields : List (List String)} {values : List (Option Value)}
    {members : List (String × Value)} (filled : Fills fields values members) :
    ∀ m ∈ members, ∃ names ∈ fields, m.1 ∈ names := by
  induction filled with
  | nil =>
    intro m mem
    cases mem
  | missing others ih =>
    intro m mem
    obtain ⟨names, field, known⟩ := ih m mem
    exact ⟨names, List.mem_cons_of_mem _ field, known⟩
  | present v known others ih =>
    intro m mem
    rcases List.mem_cons.1 mem with rfl | mem
    · exact ⟨_, List.mem_cons_self, known⟩
    · obtain ⟨names, field, known⟩ := ih m mem
      exact ⟨names, List.mem_cons_of_mem _ field, known⟩

theorem Fills.not_mem_of_apart {fields : List (List String)} {values : List (Option Value)}
    {members : List (String × Value)} (filled : Fills fields values members) {names : List String}
    (apart : ∀ others ∈ fields, ∀ name ∈ names, name ∉ others) : ∀ m ∈ members, m.1 ∉ names := by
  intro m mem known
  obtain ⟨others, field, known'⟩ := filled.mem_fields m mem
  exact apart others field m.1 known known'

/-- The members have the values of the fields. -/
theorem Fills.mem_values_iff {fields : List (List String)} {values : List (Option Value)}
    {members : List (String × Value)} (filled : Fills fields values members) {v : Value} :
    some v ∈ values ↔ ∃ name, (name, v) ∈ members := by
  induction filled with
  | nil => simp
  | missing others ih => simpa using ih
  | present w known others ih =>
    rw [List.mem_cons, ih]
    constructor
    · rintro (first | ⟨name, mem⟩)
      · cases first
        exact ⟨_, List.mem_cons_self⟩
      · exact ⟨name, List.mem_cons_of_mem _ mem⟩
    · rintro ⟨name, mem⟩
      rcases List.mem_cons.1 mem with first | mem
      · cases first
        exact .inl rfl
      · exact .inr ⟨name, mem⟩

theorem filter_eq_nil_of_not_mem {members : List (String × Value)} {names : List String}
    (others : ∀ m ∈ members, m.1 ∉ names) :
    (members.filter fun m => names.contains m.1) = [] := by
  rw [List.filter_eq_nil_iff]
  intro m mem
  simpa using others m mem

/-- What is written under the names of the fields is found again, whatever stands before it under
other names. -/
theorem mapM_memberOf {fields : List (List String)} {values : List (Option Value)}
    {members : List (String × Value)} (filled : Fills fields values members)
    (unambiguous : Unambiguous fields) (before : List (String × Value))
    (others : ∀ m ∈ before, ∀ names ∈ fields, m.1 ∉ names) :
    fields.mapM (memberOf (before ++ members)) = some values := by
  induction filled generalizing before with
  | nil => rfl
  | @missing names fields values members filled ih =>
    obtain ⟨apart, rest⟩ := List.pairwise_cons.1 unambiguous
    have later := filled.not_mem_of_apart apart
    -- neither the members before nor those of later fields have a name of this field
    have nothing : memberOf (before ++ members) names = some none := by
      rw [memberOf, List.filter_append, filter_eq_nil_of_not_mem later,
        filter_eq_nil_of_not_mem fun m mem => others m mem names List.mem_cons_self]
      rfl
    have found := ih rest before fun m mem names' field =>
      others m mem names' (List.mem_cons_of_mem _ field)
    rw [List.mapM_cons, nothing, found]
    rfl
  | @present names fields values members name v known filled ih =>
    obtain ⟨apart, rest⟩ := List.pairwise_cons.1 unambiguous
    have later := filled.not_mem_of_apart apart
    have one : memberOf (before ++ (name, v) :: members) names = some (some v) := by
      rw [memberOf, List.filter_append, List.filter_cons_of_pos (by simpa using known),
        filter_eq_nil_of_not_mem later,
        filter_eq_nil_of_not_mem fun m mem => others m mem names List.mem_cons_self]
      rfl
    -- for the fields that follow, this member is one of those before
    have found := ih rest (before ++ [(name, v)]) (by
      intro m mem names' field
      rcases List.mem_append.1 mem with mem | mem
      · exact others m mem names' (List.mem_cons_of_mem _ field)
      · cases List.mem_singleton.1 mem
        exact apart names' field name known)
    rw [List.append_assoc, List.singleton_append] at found
    rw [List.mapM_cons, one, found]
    rfl

theorem recordFields_of_record {fields : List (List String)} {values : List (Option Value)}
    {v : Value} (written : Record fields values v) (unambiguous : Unambiguous fields) :
    recordFields fields v = some values := by
  cases written with
  | @intro members ordered filled order =>
    have found := mapM_memberOf filled unambiguous [] (by simp)
    have same : memberOf ordered = memberOf members := funext fun names => memberOf_perm order names
    rw [record, recordFields, namedMembers_map]
    show fields.mapM (memberOf ordered) = some values
    rw [same]
    exact found

theorem Record.exists_member {fields : List (List String)} {values : List (Option Value)}
    {v : Value} (written : Record fields values v) :
    ∃ ordered, v = record ordered ∧ ∀ w, some w ∈ values ↔ ∃ name, (name, w) ∈ ordered := by
  cases written with
  | @intro members ordered filled order =>
    refine ⟨ordered, rfl, fun w => ?_⟩
    rw [filled.mem_values_iff]
    exact exists_congr fun name => order.mem_iff.symm

/-- The values of the fields nest less deep than the record. -/
theorem Record.depth_lt {fields : List (List String)} {values : List (Option Value)} {v w : Value}
    (written : Record fields values v) (mem : some w ∈ values) : w.depth < v.depth := by
  obtain ⟨ordered, rfl, members⟩ := written.exists_member
  obtain ⟨name, member⟩ := (members w).1 mem
  exact depth_lt_of_mem_object (List.mem_map.2 ⟨(name, w), member, rfl⟩)

/-! ## Fields that may be missing -/

/-- An optional field: one without a value is left out or null. -/
inductive Nullable {α : Type} (write : α → Value) : Option α → Option Value → Prop
  | missing : Nullable write none none
  | null : Nullable write none (some .null)
  | present (a : α) : Nullable write (some a) (some (write a))

/-- A list: an empty one may be left out. -/
inductive Listed : List Value → Option Value → Prop
  | missing : Listed [] none
  | present (items : List Value) : Listed items (some (.array items))

/-- The number that types are wrapped with: zero may be left out. -/
inductive Counted : UInt32 → Option Value → Prop
  | missing : Counted 0 none
  | present (n : UInt32) : Counted n (some (naturalValue n.toNat))

/-! ## Types -/

mutual

/-- How a type is written. -/
inductive WritesVariant : TypeVariant → Value → Prop
  | simple (name : String) :
      WritesVariant (.simple name) (record [("Simple", textValue name)])
  | classRef (name : String) :
      WritesVariant (.classRef name) (record [("Class", textValue name)])
  | distributedObject (name : String) :
      WritesVariant (.distributedObject name) (record [("DOClass", textValue name)])
  | dataset (name : String) :
      WritesVariant (.dataset name) (record [("Dataset", textValue name)])
  | template {label : Option String} {name : String} {parameters : List TypeVariant}
      {items : List Value} {labelValue listValue : Option Value} {payload : Value}
      (inside : WritesVariants parameters items) (labelled : Nullable textValue label labelValue)
      (listed : Listed items listValue)
      (fields : Record [["name"], ["template_name"], ["parameters"]]
        [labelValue, some (textValue name), listValue] payload) :
      WritesVariant (.template label name parameters) (record [("Template", payload)])

inductive WritesVariants : List TypeVariant → List Value → Prop
  | nil : WritesVariants [] []
  | cons {t : TypeVariant} {ts : List TypeVariant} {v : Value} {vs : List Value}
      (first : WritesVariant t v) (others : WritesVariants ts vs) :
      WritesVariants (t :: ts) (v :: vs)

end

/-- How a type is written, wrapped or bare. -/
inductive WritesType : TypeDescriptor → Value → Prop
  | bare {t : TypeVariant} {v : Value} (inside : WritesVariant t v) : WritesType (.bare t) v
  | wrapped {t : TypeVariant} {u : UInt32} {v w : Value} {numberValue : Option Value}
      (inside : WritesVariant t v) (counted : Counted u numberValue)
      (fields : Record [["ty"], ["unknown"]] [some v, numberValue] w) :
      WritesType (.wrapped t u) w

/-! ## Elements -/

mutual

/-- How an element is written. -/
inductive WritesElement : Element → Value → Prop
  | unitDeclaration {name : String} {payload : Value}
      (fields : Record [["name1"]] [some (textValue name)] payload) :
      WritesElement (.unitDeclaration name) (record [("DDLUnitDeclaration", payload)])
  | classDeclaration {name : String} {space base : Option String} {vars : List Element}
      {items : List Value} {spaceValue baseValue listValue : Option Value} {payload : Value}
      (inside : WritesElements vars items) (placed : Nullable textValue space spaceValue)
      (derived : Nullable textValue base baseValue) (listed : Listed items listValue)
      (fields : Record [["name1"], ["namespace"], ["base", "maybe_base"], ["variables"]]
        [some (textValue name), spaceValue, baseValue, listValue] payload) :
      WritesElement (.classDeclaration name space base vars)
        (record [("ClassDeclaration", payload)])
  | protocolDeclaration {name : String} {space : Option String} {id : Option UInt16}
      {methods : List Element} {items : List Value} {spaceValue idValue listValue : Option Value}
      {payload : Value} (inside : WritesElements methods items)
      (placed : Nullable textValue space spaceValue)
      (numbered : Nullable (fun n : UInt16 => naturalValue n.toNat) id idValue)
      (listed : Listed items listValue)
      (fields : Record [["name1"], ["namespace"], ["id"], ["methods"]]
        [some (textValue name), spaceValue, idValue, listValue] payload) :
      WritesElement (.protocolDeclaration name space id methods)
        (record [("ProtocolDeclaration", payload)])
  | method {name : String} {parts : List Element} {items : List Value} {listValue : Option Value}
      {payload : Value} (inside : WritesElements parts items) (listed : Listed items listValue)
      (fields : Record [["name1"], ["elements1"]] [some (textValue name), listValue] payload) :
      WritesElement (.method name parts) (record [("Method", payload)])
  | parameter {name direction : String} {type : TypeDescriptor} {typeValue payload : Value}
      (typed : WritesType type typeValue)
      (fields : Record [["name1"], ["dtype1"], ["ty"]]
        [some (textValue name), some typeValue, some (textValue direction)] payload) :
      WritesElement (.parameter name type direction) (record [("Parameter", payload)])
  | returnValue {type : TypeDescriptor} {typeValue payload : Value}
      (typed : WritesType type typeValue)
      (fields : Record [["dtype1"]] [some typeValue] payload) :
      WritesElement (.returnValue type) (record [("ReturnValue", payload)])
  | fieldVariable {name : String} {type : TypeDescriptor} {typeValue payload : Value}
      (typed : WritesType type typeValue)
      (fields : Record [["name1"], ["ty"]] [some (textValue name), some typeValue] payload) :
      WritesElement (.fieldVariable name type) (record [("Variable", payload)])
  /-- What is not looked at may be anything. -/
  | unread (kind : UnreadKind) (payload : Value) :
      WritesElement (.unread kind) (record [(kind.name, payload)])

inductive WritesElements : List Element → List Value → Prop
  | nil : WritesElements [] []
  | cons {e : Element} {es : List Element} {v : Value} {vs : List Value}
      (first : WritesElement e v) (others : WritesElements es vs) :
      WritesElements (e :: es) (v :: vs)

end

/-! ## Documents -/

/-- How a unit is written. -/
inductive WritesUnit : DocumentUnit → Value → Prop
  | intro {elements : List Element} {items : List Value} {v : Value}
      (inside : WritesElements elements items)
      (fields : Record [["elements"]] [some (.array items)] v) : WritesUnit ⟨elements⟩ v

/-- How a document is written: the list of its units. -/
inductive WritesUnits : List DocumentUnit → Value → Prop
  | intro {units : List DocumentUnit} {items : List Value}
      (inside : List.Forall₂ WritesUnit units items) : WritesUnits units (.array items)

/-! ## Every document can be written -/

theorem spellable_textValue (s : String) : (textValue s).Spellable :=
  List.forall_mem_singleton.2 (exists_spells_string s)

theorem spellable_naturalValue (n : Nat) : (naturalValue n).Spellable :=
  List.forall_mem_singleton.2 (exists_spells_natural n)

theorem spellable_tagged (kind : String) {payload : Value} (inside : payload.Spellable) :
    (record [(kind, payload)]).Spellable :=
  Value.Spellable.object (List.forall_mem_singleton.2 inside)

theorem exists_fills {fields : List (List String)} {values : List (Option Value)}
    (named : ∀ names ∈ fields, names ≠ []) (same : fields.length = values.length) :
    ∃ members, Fills fields values members := by
  induction fields generalizing values with
  | nil =>
    rw [List.eq_nil_of_length_eq_zero same.symm]
    exact ⟨[], .nil⟩
  | cons names fields ih =>
    obtain ⟨here, later⟩ := List.forall_mem_cons.1 named
    cases values with
    | nil => cases same
    | cons value values =>
      obtain ⟨members, filled⟩ := ih later (Nat.succ.inj same)
      cases value with
      | none => exact ⟨members, .missing filled⟩
      | some v =>
        obtain ⟨name, known⟩ := List.exists_mem_of_ne_nil names here
        exact ⟨(name, v) :: members, .present v known filled⟩

/-- Values that can be spelled can be put into a record that can be spelled. -/
theorem exists_record (fields : List (List String)) (values : List (Option Value))
    (named : ∀ names ∈ fields, names ≠ []) (same : fields.length = values.length)
    (each : ∀ o ∈ values, ∀ w ∈ o, w.Spellable) :
    ∃ v, Record fields values v ∧ v.Spellable := by
  obtain ⟨members, filled⟩ := exists_fills named same
  refine ⟨record members, .intro filled (.refl members), Value.Spellable.object ?_⟩
  intro m mem
  exact each (some m.2) (filled.mem_values_iff.2 ⟨m.1, mem⟩) m.2 rfl

theorem exists_nullable {α : Type} {write : α → Value} (each : ∀ a, (write a).Spellable)
    (x : Option α) : ∃ o, Nullable write x o ∧ ∀ w ∈ o, w.Spellable := by
  cases x with
  | none => exact ⟨none, .missing, by simp⟩
  | some a => exact ⟨some (write a), .present a, by simpa using each a⟩

mutual

theorem exists_writesVariant (t : TypeVariant) : ∃ v, WritesVariant t v ∧ v.Spellable := by
  match t with
  | .simple name => exact ⟨_, .simple name, spellable_tagged _ (spellable_textValue name)⟩
  | .classRef name => exact ⟨_, .classRef name, spellable_tagged _ (spellable_textValue name)⟩
  | .distributedObject name =>
    exact ⟨_, .distributedObject name, spellable_tagged _ (spellable_textValue name)⟩
  | .dataset name => exact ⟨_, .dataset name, spellable_tagged _ (spellable_textValue name)⟩
  | .template label name parameters =>
    obtain ⟨items, inside, each⟩ := exists_writesVariants parameters
    obtain ⟨o, labelled, spellable⟩ := exists_nullable spellable_textValue label
    obtain ⟨payload, fields, whole⟩ := exists_record [["name"], ["template_name"], ["parameters"]]
      [o, some (textValue name), some (.array items)] (by decide) rfl
      (by simpa using ⟨spellable, spellable_textValue name, Value.Spellable.array each⟩)
    exact ⟨_, .template inside labelled (.present items) fields, spellable_tagged _ whole⟩

theorem exists_writesVariants (ts : List TypeVariant) :
    ∃ vs, WritesVariants ts vs ∧ ∀ v ∈ vs, v.Spellable := by
  match ts with
  | [] => exact ⟨[], .nil, List.forall_mem_nil _⟩
  | t :: ts =>
    obtain ⟨v, first, spellable⟩ := exists_writesVariant t
    obtain ⟨vs, others, each⟩ := exists_writesVariants ts
    exact ⟨v :: vs, .cons first others, List.forall_mem_cons.2 ⟨spellable, each⟩⟩

end

theorem exists_writesType (t : TypeDescriptor) : ∃ v, WritesType t v ∧ v.Spellable := by
  cases t with
  | bare t =>
    obtain ⟨v, inside, spellable⟩ := exists_writesVariant t
    exact ⟨v, .bare inside, spellable⟩
  | wrapped t u =>
    obtain ⟨v, inside, spellable⟩ := exists_writesVariant t
    obtain ⟨w, fields, whole⟩ := exists_record [["ty"], ["unknown"]]
      [some v, some (naturalValue u.toNat)] (by decide) rfl
      (by simpa using ⟨spellable, spellable_naturalValue u.toNat⟩)
    exact ⟨w, .wrapped inside (.present u) fields, whole⟩

mutual

theorem exists_writesElement (e : Element) : ∃ v, WritesElement e v ∧ v.Spellable := by
  match e with
  | .unitDeclaration name =>
    obtain ⟨payload, fields, whole⟩ := exists_record [["name1"]] [some (textValue name)]
      (by decide) rfl (by simpa using spellable_textValue name)
    exact ⟨_, .unitDeclaration fields, spellable_tagged _ whole⟩
  | .classDeclaration name space base vars =>
    obtain ⟨items, inside, each⟩ := exists_writesElements vars
    obtain ⟨o, placed, spellable⟩ := exists_nullable spellable_textValue space
    obtain ⟨o', derived, spellable'⟩ := exists_nullable spellable_textValue base
    obtain ⟨payload, fields, whole⟩ := exists_record
      [["name1"], ["namespace"], ["base", "maybe_base"], ["variables"]]
      [some (textValue name), o, o', some (.array items)] (by decide) rfl
      (by simpa using
        ⟨spellable_textValue name, spellable, spellable', Value.Spellable.array each⟩)
    exact ⟨_, .classDeclaration inside placed derived (.present items) fields,
      spellable_tagged _ whole⟩
  | .protocolDeclaration name space id methods =>
    obtain ⟨items, inside, each⟩ := exists_writesElements methods
    obtain ⟨o, placed, spellable⟩ := exists_nullable spellable_textValue space
    obtain ⟨o', numbered, spellable'⟩ :=
      exists_nullable (fun n : UInt16 => spellable_naturalValue n.toNat) id
    obtain ⟨payload, fields, whole⟩ := exists_record
      [["name1"], ["namespace"], ["id"], ["methods"]]
      [some (textValue name), o, o', some (.array items)] (by decide) rfl
      (by simpa using
        ⟨spellable_textValue name, spellable, spellable', Value.Spellable.array each⟩)
    exact ⟨_, .protocolDeclaration inside placed numbered (.present items) fields,
      spellable_tagged _ whole⟩
  | .method name parts =>
    obtain ⟨items, inside, each⟩ := exists_writesElements parts
    obtain ⟨payload, fields, whole⟩ := exists_record [["name1"], ["elements1"]]
      [some (textValue name), some (.array items)] (by decide) rfl
      (by simpa using ⟨spellable_textValue name, Value.Spellable.array each⟩)
    exact ⟨_, .method inside (.present items) fields, spellable_tagged _ whole⟩
  | .parameter name type direction =>
    obtain ⟨v, typed, spellable⟩ := exists_writesType type
    obtain ⟨payload, fields, whole⟩ := exists_record [["name1"], ["dtype1"], ["ty"]]
      [some (textValue name), some v, some (textValue direction)] (by decide) rfl
      (by simpa using ⟨spellable_textValue name, spellable, spellable_textValue direction⟩)
    exact ⟨_, .parameter typed fields, spellable_tagged _ whole⟩
  | .returnValue type =>
    obtain ⟨v, typed, spellable⟩ := exists_writesType type
    obtain ⟨payload, fields, whole⟩ := exists_record [["dtype1"]] [some v] (by decide) rfl
      (by simpa using spellable)
    exact ⟨_, .returnValue typed fields, spellable_tagged _ whole⟩
  | .fieldVariable name type =>
    obtain ⟨v, typed, spellable⟩ := exists_writesType type
    obtain ⟨payload, fields, whole⟩ := exists_record [["name1"], ["ty"]]
      [some (textValue name), some v] (by decide) rfl
      (by simpa using ⟨spellable_textValue name, spellable⟩)
    exact ⟨_, .fieldVariable typed fields, spellable_tagged _ whole⟩
  | .unread kind => exact ⟨_, .unread kind (textValue ""), spellable_tagged _ (spellable_textValue "")⟩

theorem exists_writesElements (es : List Element) :
    ∃ vs, WritesElements es vs ∧ ∀ v ∈ vs, v.Spellable := by
  match es with
  | [] => exact ⟨[], .nil, List.forall_mem_nil _⟩
  | e :: es =>
    obtain ⟨v, first, spellable⟩ := exists_writesElement e
    obtain ⟨vs, others, each⟩ := exists_writesElements es
    exact ⟨v :: vs, .cons first others, List.forall_mem_cons.2 ⟨spellable, each⟩⟩

end

theorem exists_writesUnit (unit : DocumentUnit) : ∃ v, WritesUnit unit v ∧ v.Spellable := by
  obtain ⟨items, inside, each⟩ := exists_writesElements unit.elements
  obtain ⟨v, fields, whole⟩ := exists_record [["elements"]] [some (.array items)] (by decide) rfl
    (by simpa using Value.Spellable.array each)
  exact ⟨v, .intro inside fields, whole⟩

/-- Every document can be written, and the value spelled. -/
theorem exists_written (units : List DocumentUnit) :
    ∃ v text, WritesUnits units v ∧ v.SpelledBy text := by
  have general : ∃ items, List.Forall₂ WritesUnit units items ∧ ∀ v ∈ items, v.Spellable := by
    induction units with
    | nil => exact ⟨[], .nil, List.forall_mem_nil _⟩
    | cons unit units ih =>
      obtain ⟨v, first, spellable⟩ := exists_writesUnit unit
      obtain ⟨vs, others, each⟩ := ih
      exact ⟨v :: vs, .cons first others, List.forall_mem_cons.2 ⟨spellable, each⟩⟩
  obtain ⟨items, inside, each⟩ := general
  obtain ⟨text, spelled⟩ := (Value.Spellable.array each).exists_text
  exact ⟨.array items, text, .intro inside, spelled⟩

end Dissect.Document
