import Dissect.Document.Parse
import Dissect.Proofs.Document.Writing

/-!
# Documents are read as they are written

Whatever text spells a value that writes the units of a document, the units are read back, as long as
containers nest no deeper than the limit (`unitsOfText?_of_written`). Every document can be written
(`exists_written`).
-/

set_option autoImplicit false

namespace Dissect.Document

open Json

/-! ## Single values -/

theorem readText_textValue (s : String) : readText (textValue s) = some s := rfl

theorem natural?_digits (n : Nat) :
    Number.natural? ⟨false, Nat.toDigits 10 n, none, none⟩ = some n := by
  have value : digitsValue (Nat.toDigits 10 n) = n := Nat.ofDigitChars_ten_toDigits
  rw [Number.natural?, value]
  rfl

theorem readBelow_naturalValue {limit n : Nat} (small : n < limit) :
    readBelow limit (naturalValue n) = some n := by
  rw [naturalValue, readBelow, natural?_digits]
  exact if_pos small

/-- An optional field is read back if its values are, and none of them is null. -/
theorem readOptional_of_nullable {α β : Type} {write : α → Value} {read : Value → Option β}
    {f : α → β} (reads : ∀ a, read (write a) = some (f a)) (notNull : ∀ a, write a ≠ .null)
    {x : Option α} {o : Option Value} (written : Nullable write x o) :
    readOptional read o = some (x.map f) := by
  cases written with
  | missing => rfl
  | null => rfl
  | present a =>
    have general : ∀ v, v ≠ .null → readNullable read v = (read v).map some := by
      intro v notNull
      cases v with
      | null => exact absurd rfl notNull
      | _ => rfl
    rw [readOptional, general _ (notNull a), reads a]
    rfl

theorem readOptional_text {x : Option String} {o : Option Value}
    (written : Nullable textValue x o) : readOptional readText o = some x := by
  have read := readOptional_of_nullable (f := id) readText_textValue (fun _ => Value.noConfusion)
    written
  rwa [Option.map_id] at read

/-! ## The range of numbers -/

theorem le_foldl_digits (n : Nat) (digits : List Char) :
    n ≤ digits.foldl (fun n c => 10 * n + digitValue c) n := by
  induction digits generalizing n with
  | nil => exact Nat.le_refl n
  | cons d rest ih =>
    have step : n ≤ 10 * n + digitValue d := by omega
    exact Nat.le_trans step (ih _)

/-- Digits of a number that fits are all taken in. -/
theorem takeWhole_of_lt {n : Nat} {digits : List Char}
    (fits : digits.foldl (fun n c => 10 * n + digitValue c) n < Nat.pow 2 64) :
    Number.Scaled.takeWhole ⟨n, 0⟩ digits =
      ⟨digits.foldl (fun n c => 10 * n + digitValue c) n, 0⟩ := by
  induction digits generalizing n with
  | nil => rfl
  | cons d rest ih =>
    have first : n * 10 + digitValue d < Nat.pow 2 64 := by
      have bound := le_foldl_digits (10 * n + digitValue d) rest
      rw [Nat.mul_comm]
      exact Nat.lt_of_le_of_lt bound fits
    rw [Number.Scaled.takeWhole, Number.Scaled.fits, if_pos (by simpa using first)]
    rw [Nat.mul_comm n 10]
    exact ih fits

theorem inRange_digits {n : Nat} (small : n < Nat.pow 2 32) :
    Number.inRange ⟨false, Nat.toDigits 10 n, none, none⟩ = true := by
  have value : (Nat.toDigits 10 n).foldl (fun n c => 10 * n + digitValue c) 0 = n :=
    Nat.ofDigitChars_ten_toDigits
  have scaled : Number.scaled ⟨false, Nat.toDigits 10 n, none, none⟩ = ⟨n, 0⟩ := by
    have fits : (Nat.toDigits 10 n).foldl (fun n c => 10 * n + digitValue c) 0 < Nat.pow 2 64 := by
      rw [value]
      exact Nat.lt_trans small (by decide)
    rw [Number.scaled, takeWhole_of_lt fits, value]
    rfl
  have exact : Number.rounded n = n := if_pos (Nat.lt_trans small (by decide))
  have one : Number.rounded (Nat.pow 10 (0 : Int).toNat) = 1 := if_pos (by decide)
  -- a number of 32 bits is its own double, and far below the limit
  have below : n < Number.doubleLimit := Nat.lt_trans small (by decide +kernel)
  rw [Number.inRange, scaled]
  dsimp only
  split
  · rfl
  · rw [if_neg (by decide), exact, one, Nat.mul_one]
    exact decide_eq_true below

/-! ## Depths -/

/-- Inside a record there is one level less. -/
theorem Record.exists_depth {fields : List (List String)} {values : List (Option Value)} {v : Value}
    (written : Record fields values v) {depth : Nat} (shallow : v.depth ≤ depth) :
    ∃ inner, depth = inner + 1 ∧ ∀ w, some w ∈ values → w.depth ≤ inner := by
  have deeper (w : Value) (mem : some w ∈ values) := written.depth_lt mem
  cases depth with
  | zero =>
    obtain ⟨ordered, rfl, _⟩ := written.exists_member
    rw [record, Value.depth] at shallow
    exact absurd shallow (Nat.not_succ_le_zero _)
  | succ inner =>
    refine ⟨inner, rfl, ?_⟩
    intro w mem
    exact Nat.le_of_lt_succ (Nat.lt_of_lt_of_le (deeper w mem) shallow)

theorem exists_depth_tagged {kind : String} {payload : Value} {depth : Nat}
    (shallow : (record [(kind, payload)]).depth ≤ depth) :
    ∃ inner, depth = inner + 1 ∧ payload.depth ≤ inner := by
  have written : Record [[kind]] [some payload] (record [(kind, payload)]) :=
    .intro (.present payload (List.mem_singleton_self kind) .nil) (.refl _)
  obtain ⟨inner, deep, inside⟩ := written.exists_depth shallow
  exact ⟨inner, deep, inside payload List.mem_cons_self⟩

/-- Inside a record under a key there are two levels less. -/
theorem exists_depth_tagged_record {kind : String} {fields : List (List String)}
    {values : List (Option Value)} {payload : Value} (written : Record fields values payload)
    {depth : Nat} (shallow : (record [(kind, payload)]).depth ≤ depth) :
    ∃ inner, depth = inner + 2 ∧ ∀ w, some w ∈ values → w.depth ≤ inner := by
  obtain ⟨outer, rfl, under⟩ := exists_depth_tagged shallow
  obtain ⟨inner, rfl, below⟩ := written.exists_depth under
  exact ⟨inner, rfl, below⟩

theorem exists_depth_array {items : List Value} {depth : Nat}
    (shallow : (Value.array items).depth ≤ depth) :
    ∃ inner, depth = inner + 1 ∧ ∀ v ∈ items, v.depth ≤ inner := by
  have deeper (v : Value) (mem : v ∈ items) := depth_lt_of_mem_array mem
  cases depth with
  | zero =>
    rw [Value.depth] at shallow
    exact absurd shallow (Nat.not_succ_le_zero _)
  | succ inner =>
    refine ⟨inner, rfl, ?_⟩
    intro v mem
    exact Nat.le_of_lt_succ (Nat.lt_of_lt_of_le (deeper v mem) shallow)

/-! ## Types are readable -/

theorem isReadable_record {fields : List (List String)} {values : List (Option Value)} {v : Value}
    (written : Record fields values v) {depth : Nat}
    (inside : ∀ w, some w ∈ values → isReadable depth w = true) :
    isReadable (depth + 1) v = true := by
  obtain ⟨ordered, rfl, members⟩ := written.exists_member
  rw [record, isReadable, List.all_map, List.all_eq_true]
  intro m mem
  exact inside m.2 ((members m.2).2 ⟨m.1, mem⟩)

theorem isReadable_tagged {depth : Nat} {payload : Value} (inside : isReadable depth payload = true)
    (kind : String) : isReadable (depth + 1) (record [(kind, payload)]) = true := by
  simp [record, isReadable, inside]

theorem isReadable_textValue (depth : Nat) (s : String) : isReadable depth (textValue s) = true := by
  cases depth with
  | zero => rfl
  | succ depth => rfl

theorem isReadable_naturalValue (depth : Nat) {n : Nat} (small : n < Nat.pow 2 32) :
    isReadable depth (naturalValue n) = true := by
  cases depth with
  | zero => exact inRange_digits small
  | succ depth => exact inRange_digits small

theorem Nullable.isReadable {α : Type} {write : α → Value} {x : Option α} {w : Value} {depth : Nat}
    (written : Nullable write x (some w)) (inside : ∀ a, isReadable depth (write a) = true) :
    isReadable depth w = true := by
  cases written with
  | null => cases depth <;> rfl
  | present a => exact inside a

mutual

/-- A type is written with nothing that cannot be read. -/
theorem WritesVariant.isReadable {t : TypeVariant} {v : Value} (written : WritesVariant t v)
    {depth : Nat} (shallow : v.depth ≤ depth) : isReadable depth v = true := by
  match written with
  | .simple name | .classRef name | .distributedObject name | .dataset name =>
    obtain ⟨inner, rfl, _⟩ := exists_depth_tagged shallow
    exact isReadable_tagged (isReadable_textValue inner name) _
  | .template inside labelled listed fields =>
    obtain ⟨inner, rfl, below⟩ := exists_depth_tagged_record fields shallow
    apply isReadable_tagged
    apply isReadable_record fields
    intro w mem
    have lower := below w mem
    rcases List.mem_cons.1 mem with rfl | mem
    · exact labelled.isReadable (isReadable_textValue inner)
    · rcases List.mem_cons.1 mem with first | mem
      · cases first
        exact isReadable_textValue inner _
      · cases List.mem_singleton.1 mem
        cases listed with
        | present items =>
          obtain ⟨innermost, rfl, lowest⟩ := exists_depth_array lower
          rw [Document.isReadable, List.all_eq_true]
          exact inside.isReadable lowest

theorem WritesVariants.isReadable {ts : List TypeVariant} {vs : List Value}
    (written : WritesVariants ts vs) {depth : Nat} (shallow : ∀ v ∈ vs, v.depth ≤ depth) :
    ∀ v ∈ vs, isReadable depth v = true := by
  match written with
  | .nil => exact List.forall_mem_nil _
  | .cons first others =>
    obtain ⟨here, later⟩ := List.forall_mem_cons.1 shallow
    exact List.forall_mem_cons.2 ⟨first.isReadable here, others.isReadable later⟩

end

/-! ## Reading types -/

mutual

theorem readVariant_of_writes {t : TypeVariant} {v : Value} (written : WritesVariant t v)
    {depth : Nat} (shallow : v.depth ≤ depth) : readVariant depth v = some t := by
  match written with
  | .simple name | .classRef name | .distributedObject name | .dataset name =>
    obtain ⟨inner, rfl, _⟩ := exists_depth_tagged shallow
    rfl
  | .template inside labelled listed fields =>
    obtain ⟨inner, rfl, below⟩ := exists_depth_tagged_record fields shallow
    have found := recordFields_of_record fields (by decide)
    have label := readOptional_text labelled
    rw [record, List.map_singleton, readVariant]
    simp only [found, label, readText_textValue]
    cases listed with
    | missing =>
      cases inside with
      | nil => rfl
    | present =>
      -- parameters are three levels further down, but only one is counted here
      have lower := below _ (List.mem_cons_of_mem _ (List.mem_cons_of_mem _ List.mem_cons_self))
      obtain ⟨innermost, rfl, lowest⟩ := exists_depth_array lower
      have parameters := readVariants_of_writes inside fun v mem =>
        Nat.le_trans (lowest v mem) (Nat.le_add_right innermost 2)
      simp only [parameters]
      rfl

theorem readVariants_of_writes {ts : List TypeVariant} {vs : List Value}
    (written : WritesVariants ts vs) {depth : Nat} (shallow : ∀ v ∈ vs, v.depth ≤ depth) :
    vs.mapM (readVariant depth) = some ts := by
  match written with
  | .nil => rfl
  | .cons first others =>
    obtain ⟨here, later⟩ := List.forall_mem_cons.1 shallow
    rw [List.mapM_cons, readVariant_of_writes first here, readVariants_of_writes others later]
    rfl

end

/-- A bare type has no member `ty`, so it is not taken for a wrapped one. -/
theorem readWrapped_of_writes {t : TypeVariant} {v : Value} (written : WritesVariant t v)
    (depth : Nat) : readWrapped depth v = none := by
  cases written <;> rfl

theorem readType_of_writes {t : TypeDescriptor} {v : Value} (written : WritesType t v)
    {depth : Nat} (shallow : v.depth ≤ depth) : readType depth v = some t := by
  cases written with
  | bare inside =>
    rw [readType, if_pos (inside.isReadable shallow), readWrapped_of_writes inside,
      readVariant_of_writes inside shallow]
    rfl
  | @wrapped t u inner _ number inside counted fields =>
    have found := recordFields_of_record fields (by decide)
    obtain ⟨outer, rfl, below⟩ := fields.exists_depth shallow
    have lower := below inner List.mem_cons_self
    have type := readVariant_of_writes inside (Nat.le_trans lower (Nat.le_add_right outer 1))
    have readable : isReadable (outer + 1) v = true := by
      apply isReadable_record fields
      intro w mem
      rcases List.mem_cons.1 mem with first | mem
      · cases first
        exact inside.isReadable lower
      · cases List.mem_singleton.1 mem
        cases counted with
        | present => exact isReadable_naturalValue outer (UInt32.toNat_lt u)
    obtain ⟨ordered, rfl, _⟩ := fields.exists_member
    rw [readType, if_pos readable]
    rw [record] at found ⊢
    rw [readWrapped, found]
    cases counted with
    | missing =>
      simp only [type]
      rfl
    | present =>
      have value : readBelow (Nat.pow 2 32) (naturalValue u.toNat) = some u.toNat :=
        readBelow_naturalValue (UInt32.toNat_lt u)
      have back : UInt32.ofNat u.toNat = u := UInt32.ofNat_toNat
      simp only [type, value, Option.bind_eq_bind, Option.bind_some, back]

/-! ## Reading elements -/

theorem ofName?_name (kind : UnreadKind) : UnreadKind.ofName? kind.name = some kind := by
  cases kind <;> decide

theorem readOptional_id {x : Option UInt16} {o : Option Value}
    (written : Nullable (fun n : UInt16 => naturalValue n.toNat) x o) :
    ∃ id, readOptional (readBelow (Nat.pow 2 16)) o = some id ∧ id.map UInt16.ofNat = x := by
  have reads (n : UInt16) : readBelow (Nat.pow 2 16) (naturalValue n.toNat) = some n.toNat :=
    readBelow_naturalValue (UInt16.toNat_lt n)
  refine ⟨_, readOptional_of_nullable reads (fun _ => Value.noConfusion) written, ?_⟩
  rw [Option.map_map]
  have back : UInt16.ofNat ∘ UInt16.toNat = id := funext fun n => UInt16.ofNat_toNat
  rw [back, Option.map_id]
  rfl

/-- A list of elements is left out if it is empty, or it is there with one level for its items. -/
theorem Listed.cases_of_reads {items : List Value} {o : Option Value} (listed : Listed items o)
    {es : List Element} {depth : Nat} (shallow : ∀ w, o = some w → w.depth ≤ depth)
    (reads : ∀ inner, (∀ v ∈ items, v.depth ≤ inner) →
      items.mapM (readElement inner) = some es) :
    (o = none ∧ es = []) ∨ ∃ inner, depth = inner + 1 ∧ o = some (.array items) ∧
      items.mapM (readElement inner) = some es := by
  cases listed with
  | missing =>
    -- only the empty list may be left out
    have empty := reads 0 (List.forall_mem_nil _)
    cases empty
    exact .inl ⟨rfl, rfl⟩
  | present =>
    obtain ⟨inner, rfl, below⟩ := exists_depth_array (shallow _ rfl)
    exact .inr ⟨inner, rfl, rfl, reads inner below⟩

mutual

/-- An element is read back. -/
theorem readElement_of_writes {e : Element} {v : Value} (written : WritesElement e v)
    {depth : Nat} (shallow : v.depth ≤ depth) : readElement depth v = some e := by
  match written with
  | .unitDeclaration fields =>
    obtain ⟨inner, rfl, _⟩ := exists_depth_tagged_record fields shallow
    have found := recordFields_of_record fields (by decide)
    have other : UnreadKind.ofName? "DDLUnitDeclaration" = none := by decide
    rw [record, List.map_singleton, readElement]
    simp only [other, found]
    rfl
  | .classDeclaration inside placed derived listed fields =>
    obtain ⟨inner, rfl, below⟩ := exists_depth_tagged_record fields shallow
    have found := recordFields_of_record fields (by decide)
    have other : UnreadKind.ofName? "ClassDeclaration" = none := by decide
    have lists := listed.cases_of_reads (fun w given => below w (by simp [given])) fun d lowest =>
      readElements_of_writes inside lowest
    rw [record, List.map_singleton, readElement]
    simp only [other, found, readText_textValue, readOptional_text placed,
      readOptional_text derived]
    rcases lists with ⟨rfl, rfl⟩ | ⟨innermost, rfl, rfl, list⟩
    · rfl
    · simp only [list]
      rfl
  | .protocolDeclaration inside placed numbered listed fields =>
    obtain ⟨inner, rfl, below⟩ := exists_depth_tagged_record fields shallow
    have found := recordFields_of_record fields (by decide)
    have other : UnreadKind.ofName? "ProtocolDeclaration" = none := by decide
    obtain ⟨id, number, rfl⟩ := readOptional_id numbered
    have lists := listed.cases_of_reads (fun w given => below w (by simp [given])) fun d lowest =>
      readElements_of_writes inside lowest
    rw [record, List.map_singleton, readElement]
    simp only [other, found, readText_textValue, readOptional_text placed, number]
    rcases lists with ⟨rfl, rfl⟩ | ⟨innermost, rfl, rfl, list⟩
    · rfl
    · simp only [list]
      rfl
  | .method inside listed fields =>
    obtain ⟨inner, rfl, below⟩ := exists_depth_tagged_record fields shallow
    have found := recordFields_of_record fields (by decide)
    have other : UnreadKind.ofName? "Method" = none := by decide
    have lists := listed.cases_of_reads (fun w given => below w (by simp [given])) fun d lowest =>
      readElements_of_writes inside lowest
    rw [record, List.map_singleton, readElement]
    simp only [other, found, readText_textValue]
    rcases lists with ⟨rfl, rfl⟩ | ⟨innermost, rfl, rfl, list⟩
    · rfl
    · simp only [list]
      rfl
  | .parameter typed fields =>
    obtain ⟨inner, rfl, below⟩ := exists_depth_tagged_record fields shallow
    have found := recordFields_of_record fields (by decide)
    have other : UnreadKind.ofName? "Parameter" = none := by decide
    have type := readType_of_writes typed (below _ (by simp))
    rw [record, List.map_singleton, readElement]
    simp only [other, found, readText_textValue, type]
    rfl
  | .returnValue typed fields =>
    obtain ⟨inner, rfl, below⟩ := exists_depth_tagged_record fields shallow
    have found := recordFields_of_record fields (by decide)
    have other : UnreadKind.ofName? "ReturnValue" = none := by decide
    have type := readType_of_writes typed (below _ (by simp))
    rw [record, List.map_singleton, readElement]
    simp only [other, found, type]
    rfl
  | .fieldVariable typed fields =>
    obtain ⟨inner, rfl, below⟩ := exists_depth_tagged_record fields shallow
    have found := recordFields_of_record fields (by decide)
    have other : UnreadKind.ofName? "Variable" = none := by decide
    have type := readType_of_writes typed (below _ (by simp))
    rw [record, List.map_singleton, readElement]
    simp only [other, found, readText_textValue, type]
    rfl
  | .unread kind payload =>
    obtain ⟨outer, rfl, _⟩ := exists_depth_tagged shallow
    unfold readElement
    simp only [record, List.map_singleton, ofName?_name]

theorem readElements_of_writes {es : List Element} {vs : List Value}
    (written : WritesElements es vs) {depth : Nat} (shallow : ∀ v ∈ vs, v.depth ≤ depth) :
    vs.mapM (readElement depth) = some es := by
  match written with
  | .nil => rfl
  | .cons first others =>
    obtain ⟨here, later⟩ := List.forall_mem_cons.1 shallow
    rw [List.mapM_cons, readElement_of_writes first here, readElements_of_writes others later]
    rfl

end

/-! ## Reading documents -/

theorem readUnit_of_writes {unit : DocumentUnit} {v : Value} (written : WritesUnit unit v)
    {depth : Nat} (shallow : v.depth ≤ depth + 2) : readUnit depth v = some unit := by
  cases written with
  | intro inside fields =>
    have found := recordFields_of_record fields (by decide)
    obtain ⟨outer, deep, below⟩ := fields.exists_depth shallow
    obtain ⟨inner, deep', lowest⟩ := exists_depth_array (below _ List.mem_cons_self)
    have same : inner = depth := by omega
    subst same
    rw [readUnit, found]
    simp only [readElements_of_writes inside lowest]
    rfl

/-- A document is read back if it does not nest too deep. -/
theorem readUnits_of_writes {units : List DocumentUnit} {v : Value} (written : WritesUnits units v)
    (shallow : v.depth ≤ nestingLimit) : readUnits v = some units := by
  cases written with
  | intro inside =>
    -- the list of units is the first of the three outermost levels
    obtain ⟨inner, deep, below⟩ := exists_depth_array shallow
    rw [readUnits]
    have limit : nestingLimit - 3 + 2 = inner := by
      have value : nestingLimit = 127 := rfl
      omega
    clear shallow deep
    induction inside with
    | nil => rfl
    | cons first others ih =>
      obtain ⟨here, later⟩ := List.forall_mem_cons.1 below
      rw [← limit] at here
      rw [List.mapM_cons, readUnit_of_writes first here, ih later]
      rfl

/-- Whatever text spells a value that writes a document, the document is read back. -/
theorem unitsOfText?_of_written {units : List DocumentUnit} {v : Value}
    (written : WritesUnits units v) (shallow : v.depth ≤ nestingLimit) {text : String}
    (spelled : v.SpelledBy text) : unitsOfText? text = some units := by
  rw [unitsOfText?, parse?_of_spelledBy spelled]
  exact readUnits_of_writes written shallow

/-- A document, written in any way and spelled in any way, means what its units mean, as long as its
containers nest at most 127 deep. There is a way to write and spell every document. -/
theorem parse_written (units : List DocumentUnit) :
    (∃ v text, WritesUnits units v ∧ v.SpelledBy text) ∧
    ∀ v text, WritesUnits units v → v.SpelledBy text → v.depth ≤ 127 →
      unitsOfText? text = some units ∧ parse text = buildRegistry units := by
  refine ⟨exists_written units, ?_⟩
  intro v text written spelled shallow
  have read := unitsOfText?_of_written written shallow spelled
  refine ⟨read, ?_⟩
  rw [parse, read]

/-- A class with a base and a field of a wrapped type, in a namespace. -/
def lamp : DocumentUnit :=
  ⟨[.unitDeclaration "Home", .classDeclaration "\x7b😀\n" none (some "Lamp")
    [.fieldVariable "on" (.wrapped (.simple "bool") 0)]]⟩

def lampField : Value :=
  record [("ty", record [("ty", record [("Simple", textValue "bool")])]), ("name1", textValue "on")]

/-- The base comes first, under its second name; the namespace is missing. -/
def lampClass : Value :=
  record [("maybe_base", textValue "Lamp"), ("name1", textValue "\x7b😀\n"),
    ("variables", .array [record [("Variable", lampField)]])]

def lampElements : List Value :=
  [record [("DDLUnitDeclaration", record [("name1", textValue "Home")])],
    record [("ClassDeclaration", lampClass)]]

def lampValue : Value := .array [record [("elements", .array lampElements)]]

theorem lampValue_written : WritesUnits [lamp] lampValue := by
  have type : WritesType (.wrapped (.simple "bool") 0)
      (record [("ty", record [("Simple", textValue "bool")])]) :=
    .wrapped (.simple "bool") .missing
      (.intro (.present _ (by decide) (.missing .nil)) (.refl _))
  have field : WritesElement (.fieldVariable "on" (.wrapped (.simple "bool") 0))
      (record [("Variable", lampField)]) :=
    .fieldVariable type
      (.intro (.present _ (by decide) (.present _ (by decide) .nil)) (.swap _ _ _))
  have fields : Record [["name1"], ["namespace"], ["base", "maybe_base"], ["variables"]]
      [some (textValue "\x7b😀\n"), none, some (textValue "Lamp"),
        some (.array [record [("Variable", lampField)]])] lampClass :=
    .intro
      (.present _ (by decide) (.missing (.present _ (by decide) (.present _ (by decide) .nil))))
      (.swap _ _ _)
  have unit : WritesUnit lamp (record [("elements", .array lampElements)]) := by
    refine .intro (.cons ?_ (.cons ?_ .nil)) (.intro (.present _ (by decide) .nil) (.refl _))
    · exact .unitDeclaration (.intro (.present _ (by decide) .nil) (.refl _))
    · exact .classDeclaration (.cons field .nil) .missing (.present "Lamp") (.present _) fields
  exact .intro (.cons unit .nil)

/-- There are blanks between the tokens and escapes in the name, one of them a surrogate pair. -/
def lampText : String :=
  "[ \x7b\"elements\":[\x7b\"DDLUnitDeclaration\":\x7b\"name1\":\"Home\"\x7d\x7d,\n\t" ++
  "\x7b\"ClassDeclaration\": \x7b\"maybe_base\":\"Lamp\"," ++
  "\"name1\" :\"\\u007b\\ud83d\\uDE00\\n\", \"variables\":[\x7b\"Variable\":\x7b\"ty\":" ++
  "\x7b\"ty\":\x7b\"Simple\":\"bool\"\x7d\x7d,\"name1\":\"on\"\x7d\x7d]\x7d\x7d]\x7d] "

theorem lampName_spelled :
    Spells (.string (some "\x7b😀\n")) "\"\\u007b\\ud83d\\uDE00\\n\"".toList := by
  have brace : PieceText (.unit 0x7b) ['\\', 'u', '0', '0', '7', 'b'] :=
    .unit (i := 0) (j := 0) (k := 7) (l := 0xb) (by decide) (by decide) (by decide) (by decide)
  have high : PieceText (.unit 0xd83d) ['\\', 'u', 'd', '8', '3', 'd'] :=
    .unit (i := 0xd) (j := 8) (k := 3) (l := 0xd) (by decide) (by decide) (by decide) (by decide)
  have low : PieceText (.unit 0xde00) ['\\', 'u', 'D', 'E', '0', '0'] :=
    .unit (i := 0xd) (j := 0xe) (k := 0) (l := 0) (by decide) (by decide) (by decide) (by decide)
  have line : PieceText (.char '\n') ['\\', 'n'] := .short (by decide)
  have denotes : Denotes [.unit 0x7b, .unit 0xd83d, .unit 0xde00, .char '\n'] (some "\x7b😀\n") := by
    rw [Denotes]
    decide
  exact .string (.cons brace (.cons high (.cons low (.cons line .nil)))) denotes

theorem lampValue_spelledBy : lampValue.SpelledBy lampText := by
  have key (s : String) (shown : s.toList.all isPlain = true)
      {ts : List Token} {ds : List Char} (others : SpellsAll ts ds) :=
    SpellsAll.next (Spells.plain s shown) (.next .colon others)
  have space {ts : List Token} {ds : List Char} (spelled : SpellsAll ts ds) :
      SpellsAll ts (' ' :: ds) := .blank (by decide) spelled
  -- from the end of the text to its beginning
  have close : SpellsAll _ _ := .next .closeArray <| .next .closeObject <| .next .closeObject <|
    .next .closeArray <| .next .closeObject <| .next .closeArray <| space <|
    .nil (List.forall_mem_nil _)
  have field : SpellsAll _ _ := .next .openObject <| key "Variable" (by decide) <|
    .next .openObject <| key "ty" (by decide) <| .next .openObject <| key "ty" (by decide) <|
    .next .openObject <| key "Simple" (by decide) <| .next (.plain "bool" (by decide)) <|
    .next .closeObject <| .next .closeObject <| .next .comma <| key "name1" (by decide) <|
    .next (.plain "on" (by decide)) <| .next .closeObject <| .next .closeObject close
  have declaration : SpellsAll _ _ := .next .openObject <| key "maybe_base" (by decide) <|
    .next (.plain "Lamp" (by decide)) <| .next .comma <| .next (.plain "name1" (by decide)) <|
    space <| .next .colon <| .next lampName_spelled <| .next .comma <| space <|
    key "variables" (by decide) <| .next .openArray field
  have second : SpellsAll _ _ := .blank (b := '\n') (by decide) <| .blank (b := '\t') (by decide) <|
    .next .openObject <| .next (.plain "ClassDeclaration" (by decide)) <| .next .colon <|
    space declaration
  have whole : SpellsAll lampValue.tokens _ := .next .openArray <| space <| .next .openObject <|
    key "elements" (by decide) <| .next .openArray <| .next .openObject <|
    key "DDLUnitDeclaration" (by decide) <| .next .openObject <| key "name1" (by decide) <|
    .next (.plain "Home" (by decide)) <| .next .closeObject <| .next .closeObject <|
    .next .comma second
  have cut {a b : String} {cs ds : List Char} (front : a.toList = cs) (back : b.toList = ds) :
      (a ++ b).toList = cs ++ ds := by
    rw [String.toList_append, front, back]
  have parts : lampText.toList = _ ++ _ ++ _ ++ _ := cut (cut (cut String.toList_ofList
    String.toList_ofList) String.toList_ofList) String.toList_ofList
  set_option maxRecDepth 2000 in
  exact Eq.subst (motive := SpellsAll lampValue.tokens) parts.symm whole

/-- The document of a lamp is read as what it means: a namespace with one class. -/
theorem lamp_parse_written :
    WritesUnits [lamp] lampValue ∧ lampValue.SpelledBy lampText ∧ lampValue.depth ≤ 127 ∧
      unitsOfText? lampText = some [lamp] ∧
      parse lampText = .ok ⟨[⟨"Home",
        [⟨"\x7b😀\n", some "Lamp", [⟨"on", .scalar "bool"⟩]⟩], []⟩]⟩ := by
  have shallow : lampValue.depth ≤ 127 := by decide
  obtain ⟨read, parsed⟩ := (parse_written [lamp]).2 lampValue lampText lampValue_written
    lampValue_spelledBy shallow
  refine ⟨lampValue_written, lampValue_spelledBy, shallow, read, ?_⟩
  rw [parsed]
  rfl

end Dissect.Document
