import Dissect.Proofs.Document.Population
import Dissect.Script.Output
import Mathlib.Data.List.Nodup

/-!
# The files of modules

A module is written to a file in the output directory that has the name of its namespace. Names of
namespaces are any texts: one with a slash in it leads into another directory, and one with a slash
in front replaces the output directory. Which modules stay in the directory, and which of them are
written to one file, is settled by their names (`perNamespace_files`). For names without slashes
there is nothing to settle, and for others there are documents of which a module is lost
(`Escape.not_apart`).

Paths are compared as texts. What a file system makes of them is not said here: it may take two
texts for one path, as with `Game` and `./Game` in one directory, or with names that differ only in
capitals.
-/

set_option autoImplicit false

namespace Dissect.Path

/-! ## Joined paths -/

/-- What stands in front of the names of files in a directory. -/
def front (dir : String) : String :=
  if dir.isEmpty || dir.toList.getLast? = some '/' then dir else dir ++ "/"

/-- The path is the directory followed by a single name. -/
def LiesIn (dir path : String) : Prop :=
  ∃ name : String, name ≠ "" ∧ '/' ∉ name.toList ∧ path = front dir ++ name

theorem join_of_absolute {path : String} (absolute : isAbsolute path = true) (dir : String) :
    join dir path = path :=
  if_pos absolute

theorem join_of_relative {path : String} (relative : isAbsolute path = false) (dir : String) :
    join dir path = front dir ++ path := by
  rw [join, relative, front]
  simp only [Bool.false_eq_true, if_false]
  split
  · rfl
  · rfl

theorem isAbsolute_iff (path : String) :
    isAbsolute path = true ↔ ∃ rest, path.toList = '/' :: rest := by
  rw [isAbsolute, decide_eq_true_iff, List.head?_eq_some_iff]

theorem slash_mem_of_isAbsolute {path : String} (absolute : isAbsolute path = true) :
    '/' ∈ path.toList := by
  obtain ⟨rest, begins⟩ := (isAbsolute_iff path).1 absolute
  rw [begins]
  exact List.mem_cons_self

/-- An ending without a slash does not change where a path starts. -/
theorem isAbsolute_append {ending : String} (plain : '/' ∉ ending.toList) (path : String) :
    isAbsolute (path ++ ending) = isAbsolute path := by
  rw [Bool.eq_iff_iff, isAbsolute_iff, isAbsolute_iff, String.toList_append]
  cases path.toList with
  | nil =>
    refine iff_of_false ?_ (by simp)
    rintro ⟨rest, begins⟩
    refine plain ?_
    rw [show ending.toList = _ from begins]
    exact List.mem_cons_self
  | cons c cs => simp

theorem join_append {ending : String} (plain : '/' ∉ ending.toList) (dir path : String) :
    join dir (path ++ ending) = join dir path ++ ending := by
  have same := isAbsolute_append plain path
  cases absolute : isAbsolute path with
  | true =>
    rw [absolute] at same
    rw [join_of_absolute same, join_of_absolute absolute]
  | false =>
    rw [absolute] at same
    rw [join_of_relative same, join_of_relative absolute, String.append_assoc]

/-- What stands in front of names is nothing, or ends in a slash. -/
theorem front_cases (dir : String) : front dir = "" ∨ ∃ cs, (front dir).toList = cs ++ ['/'] := by
  unfold front
  split
  · next here =>
    rw [Bool.or_eq_true, String.isEmpty_iff, decide_eq_true_iff] at here
    rcases here with empty | slash
    · exact .inl empty
    · exact .inr (List.getLast?_eq_some_iff.1 slash)
  · exact .inr ⟨dir.toList, by simp⟩

/-- An absolute path leads to where a relative one leads from the directory. -/
structure Restates (dir path other : String) : Prop where
  absolute : isAbsolute path = true
  relative : isAbsolute other = false
  same : path = front dir ++ other

/-- Different paths become one only if one of them is absolute and restates the other. -/
theorem join_eq_join_iff (dir a b : String) :
    join dir a = join dir b ↔ a = b ∨ Restates dir a b ∨ Restates dir b a := by
  constructor
  · intro same
    cases startA : isAbsolute a with
    | true =>
      rw [join_of_absolute startA] at same
      cases startB : isAbsolute b with
      | true =>
        rw [join_of_absolute startB] at same
        exact .inl same
      | false =>
        rw [join_of_relative startB] at same
        exact .inr (.inl ⟨startA, startB, same⟩)
    | false =>
      rw [join_of_relative startA] at same
      cases startB : isAbsolute b with
      | true =>
        rw [join_of_absolute startB] at same
        exact .inr (.inr ⟨startB, startA, same.symm⟩)
      | false =>
        rw [join_of_relative startB, String.append_right_inj] at same
        exact .inl same
  · rintro (rfl | restates | restates)
    · rfl
    · rw [join_of_absolute restates.absolute, join_of_relative restates.relative, restates.same]
    · rw [join_of_absolute restates.absolute, join_of_relative restates.relative, restates.same]

/-- Names under which a file lies in the directory: a single name, or an absolute path that restates
one. -/
def StaysIn (dir name : String) : Prop :=
  '/' ∉ name.toList ∨ ∃ single : String, '/' ∉ single.toList ∧ Restates dir name single

theorem isAbsolute_of_plain {name : String} (plain : '/' ∉ name.toList) :
    isAbsolute name = false := by
  rw [← Bool.not_eq_true]
  exact fun absolute => plain (slash_mem_of_isAbsolute absolute)

/-- Behind a path, the rest of what stands in front of names has a slash, or is empty. -/
theorem nil_of_front_eq {dir path : String} {more : List Char} (start : isAbsolute path = true)
    (split : (front dir).toList = path.toList ++ more) (plain : '/' ∉ more) : more = [] := by
  obtain ⟨rest, begins⟩ := (isAbsolute_iff path).1 start
  rcases front_cases dir with empty | ⟨cs, slash⟩
  · rw [empty, begins] at split
    cases split
  · rcases List.eq_nil_or_concat' more with empty | ⟨others, last, rfl⟩
    · exact empty
    · rw [slash, ← List.append_assoc] at split
      have same := (List.append_inj' split rfl).2
      cases same
      exact absurd (List.mem_append_right _ List.mem_cons_self) plain

/-- With an ending that is not empty and has no slash, a file lies in the directory exactly if its
name stays there. -/
theorem liesIn_join_iff {ending : String} (filled : ending ≠ "") (plain : '/' ∉ ending.toList)
    (dir name : String) : LiesIn dir (join dir name ++ ending) ↔ StaysIn dir name := by
  have liesIn {single : String} (without : '/' ∉ single.toList) :
      LiesIn dir (front dir ++ single ++ ending) := by
    refine ⟨single ++ ending, ?_, ?_, String.append_assoc ..⟩
    · simp [filled]
    · rw [String.toList_append, List.mem_append]
      exact not_or.2 ⟨without, plain⟩
  constructor
  · rintro ⟨single, -, without, split⟩
    cases start : isAbsolute name with
    | false =>
      rw [join_of_relative start, String.append_assoc, String.append_right_inj] at split
      rw [← split, String.toList_append, List.mem_append, not_or] at without
      exact .inl without.1
    | true =>
      rw [join_of_absolute start, ← String.toList_inj, String.toList_append,
        String.toList_append] at split
      rcases List.append_eq_append_iff.1 split with
        ⟨more, isFront, isEnding⟩ | ⟨rest, isName, isSingle⟩
      · -- the name ends where the names in the directory begin
        have empty : more = [] := nil_of_front_eq start isFront fun mem => plain (by
          rw [isEnding]
          exact List.mem_append_left _ mem)
        rw [empty, List.append_nil, String.toList_inj] at isFront
        refine .inr ⟨"", by simp, start, by rfl, ?_⟩
        rw [isFront, String.append_empty]
      · have without' : '/' ∉ (String.ofList rest).toList := by
          rw [String.toList_ofList]
          rw [isSingle] at without
          exact fun mem => without (List.mem_append_left _ mem)
        refine .inr ⟨String.ofList rest, without', start, isAbsolute_of_plain without', ?_⟩
        rw [← String.toList_inj, String.toList_append, String.toList_ofList, isName]
  · rintro (without | ⟨single, without, restates⟩)
    · rw [join_of_relative (isAbsolute_of_plain without)]
      exact liesIn without
    · rw [join_of_absolute restates.absolute, restates.same]
      exact liesIn without

end Dissect.Path

namespace Dissect.Script

open Schema

/-! ## Files of modules -/

/-- The end of the name of a module file. -/
def ending : String := "." ++ extension

theorem ending_ne_empty : ending ≠ "" := by decide

theorem slash_not_mem_ending : '/' ∉ ending.toList := by decide

theorem fileName_eq (m : Module) : m.fileName = m.space ++ ending := by
  show m.space ++ "." ++ extension = _
  rw [ending, String.append_assoc]

theorem planFiles_perNamespace (dir : String) (modules : List Module) :
    planFiles dir .perNamespace modules =
      modules.map fun m => (Path.join dir m.space ++ ending, m.source) := by
  simp only [planFiles, fileName_eq, Path.join_append slash_not_mem_ending]

/-- The namespaces that are asked for, with their places. -/
def selected (r : Registry) (settings : Settings) : List (Namespace × Nat) :=
  r.namespaces.zipIdx.filter fun n => settings.only.isEmpty || settings.only.contains n.1.name

theorem eq_map_of_generate {r : Registry} {settings : Settings} {modules : List Module}
    (generated : generate r settings = .ok modules) :
    modules = (selected r settings).map fun n => Module.ofNamespace r settings n.2 n.1 := by
  unfold generate at generated
  split at generated
  · cases generated
  · cases generated
    rfl

/-- Modules are made for some of the namespaces, in order. -/
theorem spaces_sublist_of_generate {r : Registry} {settings : Settings} {modules : List Module}
    (generated : generate r settings = .ok modules) :
    (modules.map Module.space).Sublist (r.namespaces.map Namespace.name) := by
  have spaces : modules.map Module.space =
      ((selected r settings).map Prod.fst).map Namespace.name := by
    rw [eq_map_of_generate generated, List.map_map, List.map_map]
    rfl
  have chosen : ((selected r settings).map Prod.fst).Sublist r.namespaces := by
    have filtered : (selected r settings).Sublist r.namespaces.zipIdx := List.filter_sublist
    simpa using filtered.map Prod.fst
  rw [spaces]
  exact chosen.map Namespace.name

/-- There is one file for every module, in order. All of them lie in the directory exactly if every
name stays there, and no two of them have the same path, as a text, exactly if no name restates
another. Both are so if no name has a slash. -/
theorem perNamespace_files {units : List Document.DocumentUnit} {r : Registry}
    (built : Document.buildRegistry units = .ok r) (settings : Settings) {modules : List Module}
    (generated : generate r settings = .ok modules) (dir : String) :
    let files := planFiles dir .perNamespace modules
    files.map Prod.snd = modules.map Module.source ∧
    ((∀ f ∈ files, Path.LiesIn dir f.1) ↔ ∀ m ∈ modules, Path.StaysIn dir m.space) ∧
    ((files.map Prod.fst).Nodup ↔
      ∀ m ∈ modules, ∀ m' ∈ modules, ¬ Path.Restates dir m.space m'.space) ∧
    ((∀ m ∈ modules, '/' ∉ m.space.toList) →
      (∀ f ∈ files, Path.LiesIn dir f.1) ∧ (files.map Prod.fst).Nodup) := by
  intro files
  have distinct : (modules.map Module.space).Nodup :=
    (spaces_sublist_of_generate generated).nodup (Document.nodup_names_of_buildRegistry built)
  have planned : files = modules.map fun m => (Path.join dir m.space ++ ending, m.source) :=
    planFiles_perNamespace dir modules
  have contained : (∀ f ∈ files, Path.LiesIn dir f.1) ↔
      ∀ m ∈ modules, Path.StaysIn dir m.space := by
    rw [planned, List.forall_mem_map]
    simp only [Path.liesIn_join_iff ending_ne_empty slash_not_mem_ending]
  have apart : (files.map Prod.fst).Nodup ↔
      ∀ m ∈ modules, ∀ m' ∈ modules, ¬ Path.Restates dir m.space m'.space := by
    have paths : files.map Prod.fst =
        (modules.map Module.space).map fun name => Path.join dir name ++ ending := by
      rw [planned, List.map_map, List.map_map]
      rfl
    -- names differ already, so that paths do if joining keeps names apart
    rw [paths, List.nodup_map_iff_inj_on distinct, List.forall_mem_map]
    simp only [List.forall_mem_map, String.append_left_inj, Path.join_eq_join_iff]
    constructor
    · intro injective m mem m' mem' restates
      have same := injective m mem m' mem' (.inr (.inl restates))
      have absolute := restates.absolute
      rw [same, restates.relative] at absolute
      cases absolute
    · rintro apart m mem m' mem' (same | restates | restates)
      · exact same
      · exact absurd restates (apart m mem m' mem')
      · exact absurd restates (apart m' mem' m mem)
  refine ⟨?_, contained, apart, ?_⟩
  · rw [planned, List.map_map]
    rfl
  · intro plain
    refine ⟨contained.2 fun m mem => .inl (plain m mem), apart.2 fun m mem m' _ restates => ?_⟩
    exact plain m mem (Path.slash_mem_of_isAbsolute restates.absolute)

namespace Escape

/-- Namespaces without slashes in their names. -/
def calm : Document.DocumentUnit where
  elements := [.unitDeclaration "Game", .unitDeclaration "..", .unitDeclaration ""]

/-- All their modules lie in the directory, in three files. -/
theorem calm_files :
    ∃ r modules, Document.buildRegistry [calm] = .ok r ∧ generate r .default = .ok modules ∧
      modules.map Module.space = ["Game", "..", ""] ∧
      (∀ f ∈ planFiles "/out" .perNamespace modules, Path.LiesIn "/out" f.1) ∧
      ((planFiles "/out" .perNamespace modules).map Prod.fst).Nodup := by
  have built : Document.buildRegistry [calm] =
      .ok ⟨[⟨"Game", [], []⟩, ⟨"..", [], []⟩, ⟨"", [], []⟩]⟩ := rfl
  refine ⟨_, _, built, rfl, rfl, ?_⟩
  refine (perNamespace_files built .default rfl "/out").2.2.2 fun m mem => ?_
  have names : ∀ name ∈ ["Game", "..", ""], '/' ∉ name.toList := by decide
  exact names m.space (List.mem_map_of_mem mem)

/-- A namespace, its path in a directory, and a path elsewhere. -/
def document : Document.DocumentUnit where
  elements := [.unitDeclaration "Game", .unitDeclaration "/out/Game", .unitDeclaration "/etc/Game"]

def registry : Registry := ⟨[⟨"Game", [], []⟩, ⟨"/out/Game", [], []⟩, ⟨"/etc/Game", [], []⟩]⟩

/-- The second module is written over the first, and the third outside the directory. -/
theorem not_apart :
    Document.buildRegistry [document] = .ok registry ∧
    ∃ modules, generate registry .default = .ok modules ∧
      (planFiles "/out" .perNamespace modules).map Prod.fst =
        ["/out/Game.lua.noload", "/out/Game.lua.noload", "/etc/Game.lua.noload"] ∧
      ¬ ((planFiles "/out" .perNamespace modules).map Prod.fst).Nodup ∧
      ¬ ∀ f ∈ planFiles "/out" .perNamespace modules, Path.LiesIn "/out" f.1 := by
  refine ⟨rfl, [⟨"Game", _, []⟩, ⟨"/out/Game", _, []⟩, ⟨"/etc/Game", _, []⟩], rfl, by decide,
    by decide, ?_⟩
  intro contained
  obtain ⟨name, -, -, same⟩ := contained _ (.tail _ (.tail _ (.head _)))
  -- the third path and the directory part at their second character
  have second := congrArg (fun path => path.toList[1]?) same
  simp only [String.toList_append] at second
  cases second

end Escape

end Dissect.Script
