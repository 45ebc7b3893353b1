import Dissect.Proofs.Script.Comments
import Dissect.Proofs.Script.Files

/-!
# The variables of protocols

All modules are loaded into one script environment, where the object of a protocol is a global
variable with the words of two names in it, those of the namespace first. Nothing says where the
first name ends, so that two protocols may have one variable, and then the object, the fields and
the functions of the one replace those of the other. This is so exactly if the words of their names
are the same (`modules_assign_once_iff`), as those of `Match::MakingExt` and `MatchMaking::Ext` are
(`Rivals.not_assigned_once`).
-/

set_option autoImplicit false

namespace Dissect.Script

open Schema
open Text (snakeCase letters)

/-! ## Words -/

/-- The words of a name: what stands between the underscores of its snake case. -/
def nameWords (name : String) : List (List Char) := (snakeCase name).toList.splitOn '_'

section Names

variable (space protocol space' protocol' : String)

theorem toList_protoVar :
    (protoVar space protocol).toList =
      (snakeCase space).toList ++ '_' :: (snakeCase protocol).toList := by
  show (snakeCase space ++ "_" ++ snakeCase protocol).toList = _
  simp

/-- The words of a variable are those of the namespace and those of the protocol. -/
theorem splitOn_protoVar :
    (protoVar space protocol).toList.splitOn '_' = nameWords space ++ nameWords protocol := by
  rw [toList_protoVar]
  exact List.splitOn_append_cons_self ..

theorem protoVar_eq_iff :
    protoVar space protocol = protoVar space' protocol' ↔
      nameWords space ++ nameWords protocol = nameWords space' ++ nameWords protocol' := by
  rw [← splitOn_protoVar, ← splitOn_protoVar]
  constructor
  · intro same
    rw [same]
  · intro same
    -- joining words again gives the variable they come from
    have joined := congrArg (List.intercalate ['_']) same
    rwa [List.intercalate_splitOn, List.intercalate_splitOn, String.toList_inj] at joined

/-- The letters of a variable are those of the namespace and those of the protocol. -/
theorem filter_protoVar :
    (protoVar space protocol).toList.filter (· ≠ '_') = letters space ++ letters protocol := by
  rw [toList_protoVar, List.filter_append, List.filter_cons_of_neg (by simp),
    Text.filter_snakeCase, Text.filter_snakeCase]

end Names

/-! ## Assignments -/

/-- What a statement assigns to: a global variable, and the keys that lead from it. -/
def Statement.assigned? : Statement → Option (List String)
  | .createProto var _ => some [var]
  | .declareField var decl => some [var, "fields", decl.ident.name]
  | .defineFunction var name _ _ => some [var, name]
  | _ => none

/-- What statements assign to. -/
def assignedIn : List Statement → List (List String) := pickedIn Statement.assigned?

/-- Decoding a message assigns to nothing global. -/
theorem assigned?_eq_none_of_isOfDissector (s : Statement) (inside : s.isOfDissector = true) :
    s.assigned? = none := by
  cases s with
  | createProto | declareField | defineFunction => cases inside
  | _ => rfl

/-- The block of a protocol assigns to its variable, to the fields declared and to two functions. -/
theorem assignedIn_protocolBlock (space table : String) (p : Protocol) (id : UInt16)
    (l : ProtocolLayout) :
    assignedIn (protocolBlock space table p id l) =
      [protoVar space p.name] ::
        (l.declarations.map fun d => [protoVar space p.name, "fields", d.ident.name]) ++
        [[protoVar space p.name, "init"], [protoVar space p.name, "dissector"]] := by
  have entries (e : Entry) : (e.statement (protoVar space p.name)).assigned? =
      e.declaration?.map fun d => [protoVar space p.name, "fields", d.ident.name] := by
    cases e <;> rfl
  have methods (m : MethodLayouts) :
      (methodStatements (protoVar space p.name) p.name m).assigned? = none := rfl
  have registered : pickedIn Statement.assigned? (registration (protoVar space p.name) table id) =
      [[protoVar space p.name, "init"]] := rfl
  rw [assignedIn, pickedIn_protocolBlock _ _ _ _ _ assigned?_eq_none_of_isOfDissector,
    pickedIn_blockHead, registered]
  simp only [entries, methods, ← List.map_filterMap, List.filterMap_none, List.append_nil,
    List.append_assoc]
  rfl

theorem assignedIn_stub (space : String) (p : Protocol) : assignedIn (stub space p) = [] := by
  rw [assignedIn, stub_eq_map, pickedIn_map fun _ => rfl]
  exact List.filterMap_eq_nil_iff.2 fun _ _ => rfl

/-! ## Protocols that share a variable -/

/-- A protocol in the namespace at a place. -/
structure Site where
  space : Namespace
  view : Nat
  protocol : Protocol

namespace Site

/-- The variable of the protocol. -/
def var (s : Site) : String := protoVar s.space.name s.protocol.name

/-- The words of the two names. -/
def words (s : Site) : List (List Char) := nameWords s.space.name ++ nameWords s.protocol.name

/-- The letters of the two names. -/
def letters (s : Site) : List Char := Text.letters s.space.name ++ Text.letters s.protocol.name

/-- The block of the protocol. -/
def block (r : Registry) (settings : Settings) (s : Site) : List Statement :=
  (Module.ofProtocol r settings s.view s.space.name s.protocol).1

end Site

/-- The protocols with an id in the namespaces that are asked for. -/
def sites (r : Registry) (settings : Settings) : List Site :=
  (selected r settings).flatMap fun n =>
    (n.1.protocols.filter fun p => p.id.isSome).map fun p => ⟨n.1, n.2, p⟩

namespace Site

variable {r : Registry} {settings : Settings} {s a b : Site}

theorem var_eq_iff : a.var = b.var ↔ a.words = b.words :=
  protoVar_eq_iff ..

theorem letters_eq_of_var_eq (same : a.var = b.var) : a.letters = b.letters := by
  rw [letters, letters, ← filter_protoVar, ← filter_protoVar]
  exact congrArg (fun v => v.toList.filter (· ≠ '_')) same

theorem assignedIn_block {id : UInt16} (given : s.protocol.id = some id) :
    assignedIn (s.block r settings) = [s.var] ::
      ((ProtocolLayout.build r s.view s.protocol).declarations.map fun d =>
        [s.var, "fields", d.ident.name]) ++ [[s.var, "init"], [s.var, "dissector"]] := by
  have blank : assignedIn [.blank] = [] := rfl
  rw [block, Module.ofProtocol, given]
  dsimp only
  rw [assignedIn, pickedIn_append, ← assignedIn, assignedIn_protocolBlock, blank, List.append_nil]
  rfl

/-- All that the block of a protocol assigns to is the variable or is found in it. -/
theorem head?_of_mem_assignedIn {id : UInt16} (given : s.protocol.id = some id)
    {place : List String} (mem : place ∈ assignedIn (s.block r settings)) :
    place.head? = some s.var := by
  rw [assignedIn_block given] at mem
  simp only [List.cons_append, List.mem_cons, List.mem_append, List.mem_map, List.not_mem_nil,
    or_false] at mem
  rcases mem with rfl | ⟨d, -, rfl⟩ | rfl | rfl <;> rfl

theorem subset_assignedIn_block {id : UInt16} (given : s.protocol.id = some id) :
    [[s.var], [s.var, "init"], [s.var, "dissector"]] ⊆ assignedIn (s.block r settings) := by
  rw [assignedIn_block given]
  simp

/-- The block of a protocol assigns to nothing twice: its fields have different names. -/
theorem nodup_assignedIn_block {id : UInt16} (given : s.protocol.id = some id) :
    (assignedIn (s.block r settings)).Nodup := by
  have fields : ((ProtocolLayout.build r s.view s.protocol).declarations.map fun d =>
      [s.var, "fields", d.ident.name]).Nodup := by
    refine List.pairwise_map.2 ((declarations_pairwise r s.view s.protocol).imp ?_)
    intro d d' differ same
    apply differ.1
    simpa using same
  rw [assignedIn_block given]
  simp [List.nodup_append, fields]

theorem disjoint_iff {id id' : UInt16} (given : a.protocol.id = some id)
    (given' : b.protocol.id = some id') :
    List.Disjoint (assignedIn (a.block r settings)) (assignedIn (b.block r settings)) ↔
      a.words ≠ b.words := by
  rw [Ne, ← var_eq_iff]
  constructor
  · intro apart same
    apply apart (subset_assignedIn_block given List.mem_cons_self)
    rw [same]
    exact subset_assignedIn_block given' List.mem_cons_self
  · intro differ place mem mem'
    apply differ
    rw [← Option.some_inj, ← head?_of_mem_assignedIn given mem, head?_of_mem_assignedIn given' mem']

end Site

theorem exists_id_of_mem_sites {r : Registry} {settings : Settings} {s : Site}
    (mem : s ∈ sites r settings) : ∃ id, s.protocol.id = some id := by
  obtain ⟨n, -, found⟩ := List.mem_flatMap.1 mem
  obtain ⟨p, given, rfl⟩ := List.mem_map.1 found
  exact Option.isSome_iff_exists.1 (List.mem_filter.1 given).2

/-- Modules assign what the blocks of their protocols with an id assign. -/
theorem assignedIn_modules {r : Registry} {settings : Settings} {modules : List Module}
    (generated : generate r settings = .ok modules) :
    assignedIn (modules.flatMap Module.statements) =
      (sites r settings).flatMap fun s => assignedIn (s.block r settings) := by
  -- a protocol without an id is only described in comments
  have described (n : Namespace × Nat) (ps : List Protocol) :
      (ps.flatMap fun p => assignedIn (Module.ofProtocol r settings n.2 n.1.name p).1) =
        (ps.filter fun p => p.id.isSome).flatMap fun p =>
          assignedIn (Site.block r settings ⟨n.1, n.2, p⟩) := by
    induction ps with
    | nil => rfl
    | cons p rest ih =>
      cases given : p.id with
      | some id =>
        rw [List.filter_cons_of_pos (by simp [given]), List.flatMap_cons, List.flatMap_cons, ih]
        rfl
      | none =>
        have nothing : assignedIn (Module.ofProtocol r settings n.2 n.1.name p).1 = [] := by
          rw [Module.ofProtocol, given]
          dsimp only
          split
          · rw [assignedIn, pickedIn_append, ← assignedIn, assignedIn_stub]
            rfl
          · rfl
        rw [List.filter_cons_of_neg (by simp [given]), List.flatMap_cons, ih, nothing,
          List.nil_append]
  rw [eq_map_of_generate generated, List.flatMap_map, assignedIn, pickedIn_flatMap, sites,
    List.flatMap_assoc]
  apply List.flatMap_congr
  intro n _
  rw [Module.ofNamespace, List.flatMap_map, pickedIn_flatMap, ← assignedIn, described,
    List.flatMap_map]

/-- Two protocols have one variable exactly if the words of their names are the same, and then the
letters of their names are. Nothing is assigned to twice in the modules exactly if no two of the
protocols have the same words. -/
theorem modules_assign_once_iff {r : Registry} {settings : Settings} {modules : List Module}
    (generated : generate r settings = .ok modules) :
    (∀ a b : Site, a.var = b.var ↔ a.words = b.words) ∧
    (∀ a b : Site, a.letters ≠ b.letters → a.var ≠ b.var) ∧
    (∀ s ∈ sites r settings,
      [[s.var], [s.var, "init"], [s.var, "dissector"]] ⊆ assignedIn (s.block r settings)) ∧
    ((assignedIn (modules.flatMap Module.statements)).Nodup ↔
      (sites r settings).Pairwise fun a b => a.words ≠ b.words) := by
  refine ⟨fun a b => Site.var_eq_iff, ?_, ?_, ?_⟩
  · intro a b differ same
    exact differ (Site.letters_eq_of_var_eq same)
  · intro s mem
    obtain ⟨id, given⟩ := exists_id_of_mem_sites mem
    exact Site.subset_assignedIn_block given
  · have each : ∀ s ∈ sites r settings, (assignedIn (s.block r settings)).Nodup := by
      intro s mem
      obtain ⟨id, given⟩ := exists_id_of_mem_sites mem
      exact Site.nodup_assignedIn_block given
    rw [assignedIn_modules generated, List.nodup_flatMap, and_iff_right each]
    apply List.Pairwise.iff_of_mem
    intro a b memA memB
    obtain ⟨id, given⟩ := exists_id_of_mem_sites memA
    obtain ⟨id', given'⟩ := exists_id_of_mem_sites memB
    exact Site.disjoint_iff given given'

namespace Rivals

/-- Two protocols whose names have the same letters, but not the same words, and a third one. -/
def neighbours : Document.DocumentUnit where
  elements := [.unitDeclaration "MatchMaking", .protocolDeclaration "Ext" none (some 1) [],
    .protocolDeclaration "Lobby" none (some 2) [], .unitDeclaration "Matchmaking",
    .protocolDeclaration "Ext" none (some 3) []]

/-- Their variables are `match_making_ext`, `match_making_lobby` and `matchmaking_ext`. -/
theorem assigned_once :
    ∃ r modules, Document.buildRegistry [neighbours] = .ok r ∧ generate r .default = .ok modules ∧
      (sites r .default).map Site.var =
        ["match_making_ext", "match_making_lobby", "matchmaking_ext"] ∧
      (assignedIn (modules.flatMap Module.statements)).Nodup ∧
      protoVar "MatchMaking" "Ext" ≠ protoVar "MatchMaking" "Lobby" := by
  have generated : generate ⟨[⟨"MatchMaking", [], [⟨some 1, "Ext", []⟩, ⟨some 2, "Lobby", []⟩]⟩,
      ⟨"Matchmaking", [], [⟨some 3, "Ext", []⟩]⟩]⟩ .default = .ok _ := rfl
  obtain ⟨-, lettersApart, -, once⟩ := modules_assign_once_iff generated
  refine ⟨_, _, rfl, generated, by decide, once.2 (by decide), ?_⟩
  let space : Namespace := ⟨"MatchMaking", [], []⟩
  exact lettersApart ⟨space, 0, ⟨some 1, "Ext", []⟩⟩ ⟨space, 0, ⟨some 2, "Lobby", []⟩⟩ (by decide)

/-- Two protocols of different namespaces whose names have the same words. -/
def document : Document.DocumentUnit where
  elements := [.unitDeclaration "Match", .protocolDeclaration "MakingExt" none (some 1) [],
    .unitDeclaration "MatchMaking", .protocolDeclaration "Ext" none (some 2) []]

def makingExt : Protocol := ⟨some 1, "MakingExt", []⟩

def ext : Protocol := ⟨some 2, "Ext", []⟩

def registry : Registry := ⟨[⟨"Match", [], [makingExt]⟩, ⟨"MatchMaking", [], [ext]⟩]⟩

/-- Both are held by `match_making_ext`, and the second replaces the object and the functions of the
first. -/
theorem not_assigned_once :
    Document.buildRegistry [document] = .ok registry ∧
    protoVar "Match" "MakingExt" = "match_making_ext" ∧
    protoVar "MatchMaking" "Ext" = "match_making_ext" ∧
    ∃ modules, generate registry .default = .ok modules ∧
      ¬ (assignedIn (modules.flatMap Module.statements)).Nodup := by
  have generated : generate registry .default = .ok _ := rfl
  refine ⟨rfl, by decide, by decide, _, generated, ?_⟩
  rw [assignedIn_modules generated, List.nodup_flatMap]
  rintro ⟨-, apart⟩
  have both : sites registry .default =
      [⟨⟨"Match", [], [makingExt]⟩, 0, makingExt⟩, ⟨⟨"MatchMaking", [], [ext]⟩, 1, ext⟩] := rfl
  rw [both, List.pairwise_pair] at apart
  exact (Site.disjoint_iff rfl rfl).1 apart (by decide)

end Rivals

end Dissect.Script
