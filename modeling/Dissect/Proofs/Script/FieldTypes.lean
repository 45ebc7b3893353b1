import Dissect.Document.Conversion
import Dissect.Proofs.Layout.Slots
import Dissect.Proofs.Script.Declarations

/-!
# The types that fields are declared with

A place is declared once, for the value that is laid out first, while every value at the place is
read under the name of that declaration. What the messages of a protocol read thus has the types
that are declared exactly if no message reads a value whose place had a value of another type before
(`declaredAsRead_iff`). It suffices that the schema has no two values of different types at one
place. Places do not tell the request of a method from its response, nor two methods or classes of
one name, so that there are documents for which the two differ (`Echo.not_declaredAsRead`).
-/

set_option autoImplicit false

namespace Dissect.Script

open Layout (Declaration IdentifierTable Outline Place methodOutline slots)
open Schema
open Wire (Scalar allScalars)

/-- Both scalars are declared with the same type and the same further arguments. -/
structure DeclaredAlike (a b : Scalar) : Prop where
  type : fieldType a = fieldType b
  arguments : extraArguments a = extraArguments b

instance (a b : Scalar) : Decidable (DeclaredAlike a b) :=
  decidable_of_iff (fieldType a = fieldType b ∧ extraArguments a = extraArguments b)
    ⟨fun ⟨type, arguments⟩ => ⟨type, arguments⟩, fun alike => ⟨alike.type, alike.arguments⟩⟩

/-- For every value that a message reads, the block has exactly one declaration of its name, and
that declares the type of the value. -/
def DeclaredAsRead (space table : String) (p : Protocol) (id : UInt16) (l : ProtocolLayout) :
    Prop :=
  ∀ m ∈ l.methods, ∀ d, ∀ s ∈ allScalars (m.message d).instructions, ∃ decl,
    ((declaredIn (protocolBlock space table p id l)).filter fun x => x.2.ident.name = s.1) =
      [(protoVar space p.name, decl)] ∧
    DeclaredAlike decl.type s.2

/-- The value that is laid out first at a place. -/
def firstAt (r : Registry) (view : Nat) (p : Protocol) (place : Place) : Option (Place × Scalar) :=
  (protocolValues r view p).find? fun v => v.1 = place

/-- Every value on the wire is declared like the first value at its place. -/
def LikeFirst (r : Registry) (view : Nat) (p : Protocol) : Prop :=
  ∀ m ∈ p.methods, ∀ d, ∀ v ∈ (methodOutline r view m d).values, v.2.width ≠ .unwrapped →
    ∀ first, firstAt r view p v.1 = some first → DeclaredAlike first.2 v.2

/-- All slots of a protocol at one place are declared alike. -/
def Unambiguous (r : Registry) (view : Nat) (p : Protocol) : Prop :=
  ∀ a ∈ slots r view p, ∀ b ∈ slots r view p, a.1 = b.1 → DeclaredAlike a.2 b.2

instance (r : Registry) (view : Nat) (p : Protocol) : Decidable (Unambiguous r view p) :=
  inferInstanceAs (Decidable (∀ a ∈ slots r view p, ∀ b ∈ slots r view p,
    a.1 = b.1 → DeclaredAlike a.2 b.2))

variable {r : Registry} {view : Nat} {p : Protocol}

/-! ## Declarations and first values -/

theorem mem_protocolValues_of_message {m : Method} (mem : m ∈ p.methods) {d : Direction}
    {v : Place × Scalar} (value : v ∈ (methodOutline r view m d).values) :
    v ∈ protocolValues r view p := by
  refine List.mem_append_right _ (List.mem_flatMap.2 ⟨m, mem, ?_⟩)
  cases d with
  | request => exact List.mem_append_left _ value
  | response => exact List.mem_append_right _ value

theorem mem_slots_of_mem_protocolValues {v : Place × Scalar} (mem : v ∈ protocolValues r view p) :
    v ∈ slots r view p := by
  rcases List.mem_append.1 mem with mem | mem
  · obtain ⟨c, required, value⟩ := List.mem_flatMap.1 mem
    unfold classValues at value
    cases drafted : Layout.classDraft r view c with
    | error f =>
      rw [drafted] at value
      cases value
    | ok o =>
      rw [drafted] at value
      exact Layout.classDraft_values required drafted v value
  · obtain ⟨m, known, value⟩ := List.mem_flatMap.1 mem
    rcases List.mem_append.1 value with value | value
    · exact Layout.methodOutline_values known .request v value
    · exact Layout.methodOutline_values known .response v value

/-- What is declared is the first value at its place: all entries in front of a declaration have
other names, so that all values in front of its own have other places. -/
theorem exists_firstAt_of_mem_declarations {decl : Declaration}
    (mem : decl ∈ (ProtocolLayout.build r view p).declarations) :
    ∃ v ∈ protocolValues r view p, firstAt r view p v.1 = some v ∧
      decl.ident = (protocolTable r view p).identifier v.1 ∧ decl.type = v.2 := by
  obtain ⟨e, written, declares⟩ := List.mem_filterMap.1 mem
  obtain ⟨before, after, split, apart⟩ := exists_split_of_mem_firsts written
  -- the split of the entries is one of the declarations, and that is one of the values
  have values := ProtocolLayout.declarations_build r view p
  rw [← filterMap_declaration?_entries, split, List.filterMap_append,
    List.filterMap_cons_some declares, List.map_append, List.map_cons] at values
  obtain ⟨vs, vs', all, first, rest⟩ := List.map_eq_append_iff.1 values.symm
  obtain ⟨v, vs'', rfl, here, -⟩ := List.map_eq_cons_iff.1 rest
  obtain ⟨ident, type⟩ := Prod.mk.inj here
  refine ⟨v, ?_, ?_, ident.symm, type.symm⟩
  · rw [all]
    exact List.mem_append_right _ List.mem_cons_self
  · refine List.find?_eq_some_iff_append.2 ⟨by simp, vs, vs'', all, fun w earlier => ?_⟩
    have pair := List.mem_map_of_mem (f := fun v : Place × Scalar =>
      ((protocolTable r view p).identifier v.1, v.2)) earlier
    rw [first] at pair
    obtain ⟨d, declared, paired⟩ := List.mem_map.1 pair
    obtain ⟨e', entry, declares'⟩ := List.mem_filterMap.1 declared
    have differ := apart e' entry
    rw [Entry.key_of_declaration? declares, Entry.key_of_declaration? declares',
      (Prod.mk.inj paired).1, ← ident] at differ
    have elsewhere : w.1 ≠ v.1 := by
      intro same
      rw [same] at differ
      exact differ rfl
    simpa using elsewhere

/-- What a message reads are the values of its outline that are on the wire. -/
theorem mem_allScalars_message_iff {names : Place → Layout.Identifier} {m : Method} {d : Direction}
    {s : String × Scalar} :
    s ∈ allScalars ((methodNamed names r view m).message d).instructions ↔
      ∃ v ∈ (methodOutline r view m d).values, v.2.width ≠ .unwrapped ∧
        s = ((names v.1).name, v.2) := by
  rw [methodNamed_message, Outline.allScalars_named, List.mem_map]
  constructor
  · rintro ⟨v, wired, rfl⟩
    obtain ⟨value, wired⟩ := List.mem_filter.1 wired
    exact ⟨v, value, by simpa using wired, rfl⟩
  · rintro ⟨v, value, wired, rfl⟩
    exact ⟨v, List.mem_filter.2 ⟨value, by simpa using wired⟩, rfl⟩

/-- Where no two names are equal, a name singles out its declaration. -/
theorem filter_name_eq_singleton {ds : List Declaration}
    (apart : ds.Pairwise fun a b => a.ident.name ≠ b.ident.name ∧ a.ident.abbr ≠ b.ident.abbr)
    {d : Declaration} (mem : d ∈ ds) :
    (ds.filter fun b => b.ident.name = d.ident.name) = [d] := by
  induction ds with
  | nil => cases mem
  | cons head rest ih =>
    obtain ⟨others, apart⟩ := List.pairwise_cons.1 apart
    rcases List.mem_cons.1 mem with rfl | mem
    · rw [List.filter_cons_of_pos (by simp), List.filter_eq_nil_iff.2]
      intro b later
      simpa using (others b later).1.symm
    · rw [List.filter_cons_of_neg (by simpa using (others d mem).1), ih apart mem]

/-- The name of a value has one declaration in the block, with the type of the first value at the
place. -/
theorem exists_declaration_of_value {v : Place × Scalar} (value : v ∈ protocolValues r view p)
    (space table : String) (id : UInt16) :
    ∃ decl first, firstAt r view p v.1 = some first ∧ decl.type = first.2 ∧
      ((declaredIn (protocolBlock space table p id (ProtocolLayout.build r view p))).filter
        fun x => x.2.ident.name = ((protocolTable r view p).identifier v.1).name) =
          [(protoVar space p.name, decl)] := by
  have pair := List.mem_map_of_mem (f := fun v : Place × Scalar =>
    ((protocolTable r view p).identifier v.1, v.2)) value
  rw [← ProtocolLayout.declarations_build] at pair
  obtain ⟨d, declared, paired⟩ := List.mem_map.1 pair
  obtain ⟨l, mem, declared⟩ := List.mem_flatMap.1 declared
  obtain ⟨decl, written, same⟩ := exists_declaration mem declared
  have name : decl.ident.name = ((protocolTable r view p).identifier v.1).name := by
    rw [same, (Prod.mk.inj paired).1]
  obtain ⟨first, among, isFirst, ident, type⟩ := exists_firstAt_of_mem_declarations written
  have place : first.1 = v.1 := by
    refine IdentifierTable.eq_of_identifier (protocolTable_distinct r view p)
      (knows_of_mem_protocolValues among) (knows_of_mem_protocolValues value) (.inl ?_)
    rw [← ident, name]
  refine ⟨decl, first, place ▸ isFirst, type, ?_⟩
  have single := filter_name_eq_singleton (declarations_pairwise r view p) written
  rw [name] at single
  rw [declaredIn_protocolBlock, List.filter_map]
  exact congrArg (List.map _) single

/-! ## Declared as read -/

theorem declaredAsRead_of_likeFirst (like : LikeFirst r view p) (space table : String)
    (id : UInt16) : DeclaredAsRead space table p id (ProtocolLayout.build r view p) := by
  intro m mem d s read
  rw [ProtocolLayout.build_eq_named] at mem
  obtain ⟨method, known, rfl⟩ := List.mem_map.1 mem
  obtain ⟨v, value, wired, rfl⟩ := mem_allScalars_message_iff.1 read
  obtain ⟨decl, first, isFirst, type, single⟩ :=
    exists_declaration_of_value (mem_protocolValues_of_message known value) space table id
  refine ⟨decl, single, ?_⟩
  rw [type]
  exact like method known d v value wired first isFirst

theorem likeFirst_of_declaredAsRead {space table : String} {id : UInt16}
    (asRead : DeclaredAsRead space table p id (ProtocolLayout.build r view p)) :
    LikeFirst r view p := by
  intro m known d v value wired first isFirst
  have mem : methodNamed (protocolTable r view p).identifier r view m ∈
      (ProtocolLayout.build r view p).methods := by
    rw [ProtocolLayout.build_eq_named]
    exact List.mem_map_of_mem known
  obtain ⟨decl, single, alike⟩ :=
    asRead _ mem d _ (mem_allScalars_message_iff.2 ⟨v, value, wired, rfl⟩)
  obtain ⟨decl', first', isFirst', type, single'⟩ :=
    exists_declaration_of_value (mem_protocolValues_of_message known value) space table id
  -- there is one first value at the place, and one declaration of the name
  cases isFirst.symm.trans isFirst'
  cases single.symm.trans single'
  rw [← type]
  exact alike

theorem likeFirst_of_unambiguous (unambiguous : Unambiguous r view p) : LikeFirst r view p := by
  intro m known d v value wired first isFirst
  have place : first.1 = v.1 := by simpa using List.find?_some isFirst
  refine unambiguous first ?_ v ?_ place
  · exact mem_slots_of_mem_protocolValues (List.mem_of_find?_eq_some isFirst)
  · exact mem_slots_of_mem_protocolValues (mem_protocolValues_of_message known value)

/-- What the messages of a protocol read has the types that are declared exactly if every value on
the wire is declared like the first value at its place. That is so whenever all slots of the schema
at one place are declared alike. -/
theorem declaredAsRead_iff (r : Registry) (view : Nat) (p : Protocol) (space table : String)
    (id : UInt16) :
    (DeclaredAsRead space table p id (ProtocolLayout.build r view p) ↔ LikeFirst r view p) ∧
    (Unambiguous r view p → DeclaredAsRead space table p id (ProtocolLayout.build r view p)) := by
  refine ⟨⟨likeFirst_of_declaredAsRead, fun like => ?_⟩, fun unambiguous => ?_⟩
  · exact declaredAsRead_of_likeFirst like space table id
  · exact declaredAsRead_of_likeFirst (likeFirst_of_unambiguous unambiguous) space table id

namespace Echo

/-- A method whose request and response have a field of one name. Both types are declared alike. -/
def repeatBack : Method where
  id := 1
  name := "RepeatBack"
  parameters := [⟨"text", .scalar "string"⟩]
  returns := [⟨"text", .template "qlist" [.scalar "buffer"]⟩,
    ⟨"seen", .template "std_map" [.scalar "uint32", .scalar "bool"]⟩]

def booth : Protocol := ⟨some 2, "Booth", [repeatBack]⟩

/-- A method whose request and response have a field of one name, but of types that are not. -/
def echo : Method where
  id := 1
  name := "Echo"
  parameters := [⟨"text", .scalar "uint32"⟩]
  returns := [⟨"text", .scalar "string"⟩]

def chat : Protocol := ⟨some 1, "Chat", [echo]⟩

def registry : Registry := ⟨[⟨"Game", [], [chat]⟩]⟩

/-- The document with that method. -/
def document : Document.DocumentUnit where
  elements := [.unitDeclaration "Game", .protocolDeclaration "Chat" none (some 1)
    [.method "Echo" [.parameter "text" (.bare (.simple "uint32")) "Request",
      .parameter "text" (.bare (.simple "string")) "Response"]]]

/-- The list of buffers in the response shares its place with the string of the request, and its
declaration suits both. -/
theorem declared_repeatBack :
    Unambiguous registry 0 booth ∧
    ∃ decl,
      ((declaredIn (protocolBlock "Game" "rmc.protocol_id" booth 2
        (ProtocolLayout.build registry 0 booth))).filter
          fun x => x.2.ident.name = "repeat_back_text") = [(protoVar "Game" "Booth", decl)] ∧
      DeclaredAlike decl.type .buffer := by
  have unambiguous : Unambiguous registry 0 booth := by
    unfold Unambiguous slots Layout.scopedFields
    rw [Registry.requiredClasses_eq_nil rfl]
    decide
  refine ⟨unambiguous, ?_⟩
  have read : ∃ m ∈ (ProtocolLayout.build registry 0 booth).methods,
      ("repeat_back_text", Scalar.buffer) ∈ allScalars (m.message .response).instructions := by
    rw [ProtocolLayout.build, Registry.requiredClasses_eq_nil rfl]
    exact ⟨_, List.mem_singleton_self _, List.mem_cons_self⟩
  obtain ⟨m, mem, read⟩ := read
  exact (declaredAsRead_iff registry 0 booth "Game" "rmc.protocol_id" 2).2 unambiguous m mem
    .response _ read

/-- The field of the request is declared as a number, and the response reads a string under the same
name. -/
theorem not_declaredAsRead :
    Document.buildRegistry [document] = .ok registry ∧
    ¬ DeclaredAsRead "Game" "rmc.protocol_id" chat 1 (ProtocolLayout.build registry 0 chat) := by
  refine ⟨rfl, fun asRead => ?_⟩
  have read : ∃ m ∈ (ProtocolLayout.build registry 0 chat).methods,
      ("echo_text", Scalar.string) ∈ allScalars (m.message .response).instructions := by
    rw [ProtocolLayout.build, Registry.requiredClasses_eq_nil rfl]
    exact ⟨_, List.mem_singleton_self _, List.mem_singleton_self _⟩
  obtain ⟨m, mem, read⟩ := read
  obtain ⟨decl, single, alike⟩ := asRead m mem .response _ read
  have declared : ((declaredIn (protocolBlock "Game" "rmc.protocol_id" chat 1
      (ProtocolLayout.build registry 0 chat))).filter fun x => x.2.ident.name = "echo_text") =
        [(protoVar "Game" "Chat", ⟨⟨"echo_text", "chat.echo.text"⟩, "text", .uint32⟩)] := by
    rw [ProtocolLayout.build, Registry.requiredClasses_eq_nil rfl]
    rfl
  cases declared.symm.trans single
  exact absurd alike (by decide)

end Echo

end Dissect.Script
