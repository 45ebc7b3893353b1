import Dissect.Proofs.Layout.Places
import Dissect.Proofs.Schema.Required
import Dissect.Proofs.Script.Declarations
import Dissect.Proofs.Script.Reader

/-!
# Names in scripts

A schema whose names are made of ASCII letters, digits and underscores, with no digit in front, has
a script whose names Lua accepts (`WellNamed`). Snake case keeps such names such
(`isIdentifier_snakeCase`). What is left is that a name may be a reserved word, and the names of
scripts are not, since each of them has an underscore, where two names are joined: the variable of a
protocol has the name of its namespace in front (`isName_protoVar`), and every field the name of its
method or class (`WellNamed.isName_candidate`). Placeholders stand under such names too, or under
that of a class (`exists_heading`).
-/

set_option autoImplicit false

namespace Dissect.Script

open Layout (Declaration FieldIn Identifier Place)
open Lua (isName isNameChar reserved)
open Schema
open Text (isUppercase lowered snakeCase snakeFrom)

/-! ## Identifiers -/

/-- Whether a text is made of ASCII letters, digits and underscores, with no digit in front. -/
def isIdentifier (text : String) : Bool :=
  text.toList.head?.any (fun c => !c.isDigit) && text.toList.all isNameChar

theorem isIdentifier_iff (text : String) :
    isIdentifier text = true ↔
      (∃ c rest, text.toList = c :: rest ∧ c.isDigit = false) ∧
        ∀ c ∈ text.toList, isNameChar c = true := by
  rw [isIdentifier, Bool.and_eq_true, List.all_eq_true]
  apply and_congr_left
  intro _
  cases text.toList with
  | nil => simp
  | cons c rest => simp

theorem isName_iff (text : String) :
    isName text = true ↔ isIdentifier text = true ∧ text ∉ reserved := by
  rw [isName, isIdentifier]
  simp

/-- More letters, digits and underscores may stand behind an identifier. -/
theorem isIdentifier_append {a b : String} (first : isIdentifier a = true)
    (more : ∀ c ∈ b.toList, isNameChar c = true) : isIdentifier (a ++ b) = true := by
  rw [isIdentifier_iff] at first ⊢
  obtain ⟨⟨c, rest, split, letter⟩, all⟩ := first
  rw [String.toList_append]
  refine ⟨⟨c, rest ++ b.toList, by rw [split]; rfl, letter⟩, ?_⟩
  exact List.forall_mem_append.2 ⟨all, more⟩

/-- No reserved word has an underscore. -/
theorem not_mem_reserved {text : String} (underscore : '_' ∈ text.toList) : text ∉ reserved := by
  have without : reserved.all (fun word => !word.toList.contains '_') = true := rfl
  intro mem
  have plain := List.all_eq_true.1 without text mem
  simp [underscore] at plain

/-! ## Snake case -/

theorem toNat_lt_of_isNameChar {c : Char} (h : isNameChar c = true) : c.toNat < 128 := by
  have spans : (((decide ('A'.val ≤ c.val ∧ c.val ≤ 'Z'.val) ||
      decide ('a'.val ≤ c.val) && decide (c.val ≤ 'z'.val)) ||
      decide ('0'.val ≤ c.val) && decide (c.val ≤ '9'.val)) || decide (c = '_')) = true := h
  simp only [Bool.or_eq_true, Bool.and_eq_true, decide_eq_true_eq, UInt32.le_iff_toNat_le] at spans
  rcases spans with ((⟨-, le⟩ | ⟨-, le⟩) | ⟨-, le⟩) | underscore
  · exact Nat.lt_of_le_of_lt le (by decide)
  · exact Nat.lt_of_le_of_lt le (by decide)
  · exact Nat.lt_of_le_of_lt le (by decide)
  · rw [underscore]
    decide

/-- A capital is lowered to letters, and a character of a name that is none is no separator. -/
def staysInNames (c : Char) : Bool :=
  !isNameChar c ||
    if isUppercase c then (lowered c).all fun d => isNameChar d && !d.isDigit
    else !Text.isSeparator c

theorem staysInNames_of_lt : ∀ n : Fin 128, staysInNames (Char.ofNat n) = true := by
  decide +kernel

theorem staysInNames_of_isNameChar {c : Char} (h : isNameChar c = true) :
    (if isUppercase c then (lowered c).all fun d => isNameChar d && !d.isDigit
      else !Text.isSeparator c) = true := by
  -- there are few such characters, and they have been looked at one by one
  have stays := staysInNames_of_lt ⟨c.toNat, toNat_lt_of_isNameChar h⟩
  rw [Char.ofNat_toNat] at stays
  simpa [staysInNames, h] using stays

theorem mem_lowered_of_isNameChar {c : Char} (h : isNameChar c = true)
    (upper : isUppercase c = true) :
    ∀ d ∈ lowered c, isNameChar d = true ∧ d.isDigit = false := by
  have stays := staysInNames_of_isNameChar h
  rw [if_pos upper, List.all_eq_true] at stays
  intro d mem
  simpa using stays d mem

theorem lowered_ne_nil (c : Char) : lowered c ≠ [] := by
  unfold lowered
  split
  · simp
  · split <;> simp

/-- Snake case puts nothing but underscores and small letters into a name. -/
theorem isNameChar_of_mem_snakeFrom {before last : Option Char} {cs : List Char}
    (all : ∀ c ∈ cs, isNameChar c = true) :
    ∀ d ∈ snakeFrom before last cs, isNameChar d = true := by
  intro d mem
  rcases Text.mem_snakeFrom_cases mem with rfl | ⟨c, inside, upper, low⟩ | ⟨kept, -⟩
  · decide
  · exact (mem_lowered_of_isNameChar (all c inside) upper d low).1
  · exact all d kept

/-- A name in snake case begins like the name, or with the small letter of its first capital. -/
theorem snakeFrom_cons_of_start {c : Char} (h : isNameChar c = true) (letter : c.isDigit = false)
    (rest : List Char) : ∃ d behind, snakeFrom none none (c :: rest) = d :: behind ∧
      d.isDigit = false := by
  have stays := staysInNames_of_isNameChar h
  rw [snakeFrom]
  by_cases upper : isUppercase c = true
  · -- nothing stands in front of the first word
    rw [if_pos upper]
    cases small : lowered c with
    | nil => exact absurd small (lowered_ne_nil c)
    | cons d behind =>
      have digit := (mem_lowered_of_isNameChar h upper d (by rw [small]; simp)).2
      exact ⟨d, behind ++ _, rfl, digit⟩
  · rw [if_neg upper] at stays ⊢
    have separator : Text.isSeparator c = false := by simpa using stays
    rw [separator]
    exact ⟨c, _, rfl, letter⟩

/-- Snake case keeps identifiers such. -/
theorem isIdentifier_snakeCase {name : String} (h : isIdentifier name = true) :
    isIdentifier (snakeCase name) = true := by
  rw [isIdentifier_iff] at h ⊢
  obtain ⟨⟨c, rest, split, letter⟩, all⟩ := h
  have here : isNameChar c = true := all c (by rw [split]; simp)
  obtain ⟨d, behind, begins, digit⟩ := snakeFrom_cons_of_start here letter rest
  rw [snakeCase, String.toList_ofList]
  refine ⟨⟨d, behind, by rw [split, begins], digit⟩, isNameChar_of_mem_snakeFrom all⟩

/-! ## Joined names -/

/-- Two identifiers joined by an underscore are a name. -/
theorem isName_join {a b : String} (first : isIdentifier a = true)
    (more : ∀ c ∈ b.toList, isNameChar c = true) : isName (a ++ "_" ++ b) = true := by
  rw [isName_iff]
  constructor
  · refine isIdentifier_append (isIdentifier_append first ?_) more
    simp [isNameChar]
  · -- even where both are reserved words
    apply not_mem_reserved
    simp

theorem nameChars_of_isIdentifier {text : String} (h : isIdentifier text = true) :
    ∀ c ∈ text.toList, isNameChar c = true :=
  ((isIdentifier_iff text).1 h).2

theorem isName_protoVar {space protocol : String} (first : isIdentifier space = true)
    (second : isIdentifier protocol = true) : isName (protoVar space protocol) = true :=
  isName_join (isIdentifier_snakeCase first)
    (nameChars_of_isIdentifier (isIdentifier_snakeCase second))

theorem nameChars_intercalate {parts : List String}
    (all : ∀ part ∈ parts, isIdentifier part = true) :
    ∀ c ∈ ("_".intercalate parts).toList, isNameChar c = true := by
  intro c mem
  rcases Text.mem_intercalate_cases mem with mem | ⟨part, inside, mem⟩
  · rw [show c = '_' by simpa using mem]
    decide
  · exact nameChars_of_isIdentifier (all part inside) c mem

theorem nameChars_suffix (k : Nat) : ∀ c ∈ (Layout.suffix k).toList, isNameChar c = true := by
  cases k with
  | zero => simp [Layout.suffix]
  | succ k =>
    rw [Layout.suffix, String.toList_append]
    refine List.forall_mem_append.2 ⟨by simp [isNameChar], ?_⟩
    intro c digit
    simp [isNameChar, Char.isAlphanum, Lua.isDigit_of_mem_toString digit]

/-- Every candidate for a place whose parts are identifiers is a name: the name of its scope and
that of its field are joined. -/
theorem isName_candidate (protocol : String) {place : Place} {name : String} {inner : List String}
    (path : place.path = name :: inner) (scope : isIdentifier place.scope.name = true)
    (parts : ∀ part ∈ name :: inner, isIdentifier part = true) (k : Nat) :
    isName ((place.base protocol).candidate k).name = true := by
  have snaked : ∀ part ∈ (name :: inner).map snakeCase, isIdentifier part = true := by
    intro part mem
    obtain ⟨original, inside, rfl⟩ := List.mem_map.1 mem
    exact isIdentifier_snakeCase (parts original inside)
  have joined : ((place.base protocol).candidate k).name = snakeCase place.scope.name ++ "_" ++
      ("_".intercalate ((name :: inner).map snakeCase) ++ Layout.suffix k) := by
    simp only [Identifier.candidate, Place.base, path, List.map_cons,
      String.intercalate_cons_cons, String.append_assoc]
  rw [joined]
  refine isName_join (isIdentifier_snakeCase scope) ?_
  rw [String.toList_append]
  exact List.forall_mem_append.2 ⟨nameChars_intercalate snaked, nameChars_suffix k⟩

/-! ## Identifiers and headings of a protocol -/

section Places

variable {r : Registry} {view : Nat} {p : Protocol} {l : Layout}

/-- A layout of a protocol is an outline with its places at fields, or stands for a class without a
layout. -/
theorem ProtocolLayout.layout_cases (laid : l ∈ (ProtocolLayout.build r view p).layouts) :
    (∃ o : Layout.Outline, l = o.named (protocolTable r view p).identifier ∧
      ∀ piece ∈ o.pieces, piece.place.OfField r p) ∨
    ∃ c ∈ r.classes, ∃ error, l = Layout.classFailure c error := by
  rcases mem_layouts_build_iff.1 laid with ⟨c, required, same⟩ | ⟨m, known, dir, same⟩
  · have declared := Registry.requiredClasses_subset_classes c required
    unfold Layout.classNamed at same
    cases drafted : Layout.classDraft r view c with
    | error f =>
      rw [drafted] at same
      exact .inr ⟨c, declared, f.error, same⟩
    | ok o =>
      rw [drafted] at same
      exact .inl ⟨o, same, Layout.classDraft_place_ofField declared drafted⟩
  · exact .inl ⟨_, same, Layout.methodOutline_place_ofField known dir⟩

theorem exists_candidate (r : Registry) (view : Nat) (p : Protocol) (place : Place) :
    ∃ k, (protocolTable r view p).identifier place = (place.base p.name).candidate k := by
  have spelled := (protocolTable_spelled r view p).identifier place
  rwa [show (protocolTable r view p).protocol = p.name from
    Layout.IdentifierTable.after_protocol _ _] at spelled

/-- A declaration of a protocol has a candidate for the place of a field as its identifier. -/
theorem exists_candidate_of_declaration (laid : l ∈ (ProtocolLayout.build r view p).layouts)
    {d : Declaration} (declared : d ∈ l.declarations) :
    ∃ place : Place, place.OfField r p ∧ ∃ k, d.ident = (place.base p.name).candidate k := by
  rcases ProtocolLayout.layout_cases laid with ⟨o, rfl, inside⟩ | ⟨c, -, error, rfl⟩
  · obtain ⟨piece, contributed, ident⟩ := Layout.Outline.exists_piece_of_declaration declared
    rw [ident]
    exact ⟨_, inside piece contributed, exists_candidate r view p piece.place⟩
  · cases declared

/-- A placeholder of a protocol may stand under the text `ident`, which has these names of the
schema in it: a candidate for the place of a field or, for a class without a layout, the name of the
class as it is. -/
inductive Heading (r : Registry) (p : Protocol) : String → List String → Prop
  | field {place : Place} {name : String} {inner : List String} (path : place.path = name :: inner)
      (declared : FieldIn r p place.scope name)
      (parts : ∀ part ∈ inner, part = "key" ∨ part = "value") (k : Nat) :
      Heading r p ((place.base p.name).candidate k).name [place.scope.name, name]
  | ofClass {c : ClassSite} (declared : c ∈ r.classes) : Heading r p c.decl.name [c.decl.name]

theorem exists_heading (laid : l ∈ (ProtocolLayout.build r view p).layouts)
    {d : Layout.Diagnostic} (found : d ∈ l.diagnostics) : ∃ names, Heading r p d.ident names := by
  rcases ProtocolLayout.layout_cases laid with ⟨o, rfl, inside⟩ | ⟨c, declared, error, rfl⟩
  · obtain ⟨_, place, _, contributed, rfl⟩ := Layout.Outline.exists_failure_of_diagnostic found
    obtain ⟨name, inner, path, declared, parts⟩ := inside _ contributed
    obtain ⟨k, spelled⟩ := exists_candidate r view p place
    rw [spelled]
    exact ⟨_, .field path declared parts k⟩
  · cases List.mem_singleton.1 found
    exact ⟨_, .ofClass declared⟩

end Places

/-! ## Schemas -/

/-- All namespaces, protocols, classes, methods and fields of a registry have identifiers as names.
Names of types, templates and bases may be any texts. -/
structure WellNamed (r : Registry) : Prop where
  spaces : ∀ n ∈ r.namespaces, isIdentifier n.name = true
  classes : ∀ n ∈ r.namespaces, ∀ c ∈ n.classes,
    isIdentifier c.name = true ∧ ∀ f ∈ c.fields, isIdentifier f.name = true
  protocols : ∀ n ∈ r.namespaces, ∀ p ∈ n.protocols, isIdentifier p.name = true
  methods : ∀ n ∈ r.namespaces, ∀ p ∈ n.protocols, ∀ m ∈ p.methods,
    isIdentifier m.name = true ∧ ∀ f ∈ m.parameters ++ m.returns, isIdentifier f.name = true

instance (r : Registry) : Decidable (WellNamed r) :=
  decidable_of_iff
    ((∀ n ∈ r.namespaces, isIdentifier n.name = true) ∧
      (∀ n ∈ r.namespaces, ∀ c ∈ n.classes,
        isIdentifier c.name = true ∧ ∀ f ∈ c.fields, isIdentifier f.name = true) ∧
      (∀ n ∈ r.namespaces, ∀ p ∈ n.protocols, isIdentifier p.name = true) ∧
      ∀ n ∈ r.namespaces, ∀ p ∈ n.protocols, ∀ m ∈ p.methods,
        isIdentifier m.name = true ∧ ∀ f ∈ m.parameters ++ m.returns, isIdentifier f.name = true)
    ⟨fun ⟨spaces, classes, protocols, methods⟩ => ⟨spaces, classes, protocols, methods⟩,
      fun named => ⟨named.spaces, named.classes, named.protocols, named.methods⟩⟩

namespace WellNamed

variable {r : Registry} {n : Namespace} {p : Protocol}

theorem ofClass (named : WellNamed r) {c : ClassSite} (declared : c ∈ r.classes) :
    isIdentifier c.decl.name = true ∧ ∀ f ∈ c.decl.fields, isIdentifier f.name = true := by
  obtain ⟨m, space, -, slot⟩ := Registry.mem_classes_iff.1 declared
  exact named.classes m (List.mem_of_getElem? space) c.decl (List.mem_of_getElem? slot)

/-- Scopes and fields have identifiers as names. -/
theorem ofField (named : WellNamed r) (space : n ∈ r.namespaces) (mem : p ∈ n.protocols)
    {scope : Layout.Scope} {name : String} (declared : FieldIn r p scope name) :
    isIdentifier scope.name = true ∧ isIdentifier name = true := by
  cases declared with
  | message method field =>
    obtain ⟨own, fields⟩ := named.methods n space p mem _ method
    exact ⟨own, fields _ field⟩
  | ofClass declared field =>
    obtain ⟨own, fields⟩ := named.ofClass declared
    exact ⟨own, fields _ field⟩

/-- Every candidate for the place of a field is a name. -/
theorem isName_candidate (named : WellNamed r) (space : n ∈ r.namespaces)
    (mem : p ∈ n.protocols) {place : Place} (of : place.OfField r p) (k : Nat) :
    isName ((place.base p.name).candidate k).name = true := by
  obtain ⟨name, inner, path, declared, parts⟩ := of
  obtain ⟨scope, field⟩ := named.ofField space mem declared
  apply Script.isName_candidate _ path scope
  refine List.forall_mem_cons.2 ⟨field, fun part inside => ?_⟩
  rcases parts part inside with rfl | rfl
  · decide
  · decide

/-- The fields that a layout of a protocol declares have names. -/
theorem isName_declaration (named : WellNamed r) (space : n ∈ r.namespaces)
    (mem : p ∈ n.protocols) {view : Nat} {l : Layout}
    (laid : l ∈ (ProtocolLayout.build r view p).layouts) {d : Declaration}
    (declared : d ∈ l.declarations) : isName d.ident.name = true := by
  obtain ⟨place, of, k, candidate⟩ := exists_candidate_of_declaration laid declared
  rw [candidate]
  exact named.isName_candidate space mem of k

/-- Placeholders stand under identifiers. -/
theorem isIdentifier_diagnostic (named : WellNamed r) (space : n ∈ r.namespaces)
    (mem : p ∈ n.protocols) {view : Nat} {l : Layout}
    (laid : l ∈ (ProtocolLayout.build r view p).layouts) {d : Layout.Diagnostic}
    (found : d ∈ l.diagnostics) : isIdentifier d.ident = true := by
  obtain ⟨names, heading⟩ := exists_heading laid found
  generalize d.ident = ident at heading ⊢
  cases heading with
  | field path declared parts k =>
    have name := named.isName_candidate space mem ⟨_, _, path, declared, parts⟩ k
    exact ((isName_iff _).1 name).1
  | ofClass declared => exact (named.ofClass declared).1

end WellNamed

end Dissect.Script
