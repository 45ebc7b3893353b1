import Dissect.Proofs.Document.Ordinals
import Dissect.Proofs.Script.Declarations
import Dissect.Report

/-!
# The branches of a dissector

A dissector has a branch for each method of its protocol, under the id of the method
(`branchesFor_protocolBlock`). Ids are places among the declarations of a protocol, and a
declaration that is left out leaves a gap in all of them alike: in the ids of the methods, in the
lookup of a method by its id, in the branches, and in inspections. So the branch that a packet is
decoded by and an inspection of its payload always have the same method, the one declared at that
place (`ordinals_identify_methods`).
-/

set_option autoImplicit false

namespace Dissect.Script

open Document (DeclaredAs Element convertProtocol)
open Layout (Builder)
open Schema

/-! ## Branches -/

/-- What a statement does for the method of an id, if it is the branch for it. -/
def Statement.branchFor? (k : Nat) : Statement → Option (List Statement)
  | .onMethod id body => if id = k then some body else none
  | _ => none

/-- What statements do for the method of an id, branch by branch. -/
def branchesFor (k : Nat) : List Statement → List (List Statement) :=
  pickedIn (Statement.branchFor? k)

/-- Decoding a message never looks at the id of a method. -/
theorem branchFor?_eq_none_of_isOfDissector (k : Nat) (s : Statement)
    (inside : s.isOfDissector = true) : s.branchFor? k = none := by
  cases s with
  | onMethod => cases inside
  | _ => rfl

theorem branchesFor_blockHead (k : Nat) (space table : String) (p : Protocol) (id : UInt16)
    (l : ProtocolLayout) : branchesFor k (blockHead space table p id l) = [] := by
  have each (e : Entry) : (e.statement (protoVar space p.name)).branchFor? k = none := by
    cases e <;> rfl
  rw [branchesFor, pickedIn_blockHead]
  simp only [each, List.filterMap_none]
  rfl

/-- The block of a protocol has the branches of its methods, and no others. -/
theorem branchesFor_protocolBlock (k : Nat) (space table : String) (p : Protocol) (id : UInt16)
    (l : ProtocolLayout) :
    branchesFor k (protocolBlock space table p id l) =
      (l.methods.filter fun m => m.method.id = k).map
        (methodBody (protoVar space p.name) p.name) := by
  have each (m : MethodLayouts) :
      (methodStatements (protoVar space p.name) p.name m).branchFor? k =
        (Option.guard (fun m => m.method.id = k) m).map
          (methodBody (protoVar space p.name) p.name) := by
    by_cases here : m.method.id = k <;>
      simp [methodStatements, Statement.branchFor?, Option.guard, here]
  rw [branchesFor, pickedIn_protocolBlock _ _ _ _ _ (branchFor?_eq_none_of_isOfDissector k),
    ← branchesFor, branchesFor_blockHead]
  simp only [each, ← List.map_filterMap, List.filterMap_eq_filter]
  rfl

/-- Where ids are strictly increasing, that is the branch of the method that has the id. -/
theorem branchesFor_build (r : Registry) (view : Nat) {p : Protocol}
    (increasing : p.methods.Pairwise fun a b => a.id < b.id) (space table : String) (id : UInt16)
    (k : Nat) :
    branchesFor k (protocolBlock space table p id (ProtocolLayout.build r view p)) =
      (p.method? k).toList.map fun m => methodBody (protoVar space p.name) p.name
        (methodNamed (protocolTable r view p).identifier r view m) := by
  rw [branchesFor_protocolBlock, ProtocolLayout.build_eq_named, List.filter_map, List.map_map,
    Protocol.method?, ← Document.filter_id_eq_toList increasing]
  rfl

theorem build_renames (r : Registry) (view : Nat) {p : Protocol} {m : Method} (mem : m ∈ p.methods)
    (d : Direction) : ((Builder.start r view p.name).methodLayout m d).1.Renames
      ((methodNamed (protocolTable r view p).identifier r view m).message d) := by
  rw [methodNamed_message]
  refine fresh_renames_named p.name m d (protocolTable_distinct r view p) fun place asked => ?_
  exact protocolTable_knows_iff.2 (mem_protocolRequests mem asked)

/-- Ids are places and identify methods, in whatever way they are used. The ids of a protocol are
strictly increasing; the method with an id is what the declaration at that place is converted to,
and the lookup finds just that; a place has no method exactly if its declaration has a parameter
that goes in neither direction. In the block of the protocol there is at most one branch for an id,
whatever the registry around the protocol: none where there is no method, and otherwise the branch
of the method there. An inspection finds no method there either, or reads with the layout of that
method as a new builder gives it, which is that of the branch up to a renaming. -/
theorem ordinals_identify_methods {name : String} {id : Option UInt16} {declared : List Element}
    {p : Protocol} (few : declared.length < Nat.pow 2 32)
    (converted : convertProtocol name id declared = .ok p) :
    (p.methods.Pairwise fun a b => a.id < b.id) ∧
    (∀ m ∈ p.methods, DeclaredAs 1 declared m.id (.ok m)) ∧
    (∀ k, 1 ≤ k → k ≤ declared.length → ((∀ m ∈ p.methods, m.id ≠ k) ↔ ∃ parameter direction,
      DeclaredAs 1 declared k (.error (.invalidDirection parameter direction)))) ∧
    (∀ k m, p.method? k = some m ↔ DeclaredAs 1 declared k (.ok m)) ∧
    ∀ (r : Registry) (view : Nat) (space table : String) (uid : UInt16) (k : Nat),
      let branches := branchesFor k
        (protocolBlock space table p uid (ProtocolLayout.build r view p))
      branches.length ≤ 1 ∧
      (p.method? k = none → branches = [] ∧
        ∀ given n, Report.findProtocol r given = .ok (view, n, p) → ∀ d payload,
          Report.inspect r given k d payload = .error (.methodNotFound p.name k)) ∧
      ∀ m, p.method? k = some m → ∃ layouts : MethodLayouts,
        layouts.method = m ∧ branches = [methodBody (protoVar space p.name) p.name layouts] ∧
        ∀ d, ((Builder.start r view p.name).methodLayout m d).1.Renames (layouts.message d) ∧
          ∀ given n, Report.findProtocol r given = .ok (view, n, p) → ∀ payload,
            Report.inspect r given k d payload = Report.reading s!"{p.name}.{m.name}"
              ((Builder.start r view p.name).methodLayout m d).1 payload := by
  have numbers := Document.convertProtocol_numbers few converted
  refine ⟨numbers.pairwise_id, fun m => numbers.mem_iff.1, ?_, ?_, ?_⟩
  · intro k positive small
    exact numbers.forall_id_ne_iff positive (by omega)
  · intro k m
    exact numbers.method?_eq_some_iff
  intro r view space table uid k branches
  have built : branches = _ := branchesFor_build r view numbers.pairwise_id space table uid k
  refine ⟨?_, ?_, ?_⟩
  · rw [built, List.length_map]
    exact Option.length_toList_le
  · intro absent
    rw [absent] at built
    refine ⟨built, fun given n found d payload => ?_⟩
    rw [Report.inspect_eq found, absent]
  · intro m looked
    rw [looked] at built
    have mem : m ∈ p.methods := List.mem_of_find?_eq_some looked
    refine ⟨_, rfl, built, fun d => ⟨build_renames r view mem d, fun given n found payload => ?_⟩⟩
    rw [Report.inspect_eq found, looked]

namespace Relay

/-- Declarations of which the second has a parameter that goes nowhere. -/
def declared : List Element :=
  [.method "Open" [.parameter "name" (.bare (.simple "string")) "Request"],
    .method "Drop" [.parameter "late" (.bare (.simple "uint8")) "Later",
      .parameter "lost" (.bare (.dataset "Lost")) "Request"],
    .method "Close" [.returnValue (.bare (.simple "bool"))]]

def opening : Method := ⟨1, "Open", [⟨"name", .scalar "string"⟩], []⟩

def close : Method := ⟨3, "Close", [], [⟨"result", .scalar "bool"⟩]⟩

def relay : Protocol := ⟨some 9, "Relay", [opening, close]⟩

def game : Namespace := ⟨"Game", [], [relay]⟩

def registry : Registry := ⟨[game]⟩

/-- The second place stays empty, and the third declaration is still the third method, in the block
and in an inspection. -/
theorem relay_ordinals :
    declared.length < Nat.pow 2 32 ∧ convertProtocol "Relay" (some 9) declared = .ok relay ∧
    (∀ m ∈ relay.methods, m.id ≠ 2) ∧ DeclaredAs 1 declared 3 (.ok close) ∧
    Report.findProtocol registry "Game::Relay" = .ok (0, game, relay) ∧
    (branchesFor 2 (protocolBlock "Game" "rmc.protocol_id" relay 9
        (ProtocolLayout.build registry 0 relay)) = [] ∧
      ∀ d payload, Report.inspect registry "Game::Relay" 2 d payload =
        .error (.methodNotFound "Relay" 2)) ∧
    (∃ layouts : MethodLayouts, layouts.method = close ∧
      branchesFor 3 (protocolBlock "Game" "rmc.protocol_id" relay 9
        (ProtocolLayout.build registry 0 relay)) =
          [methodBody (protoVar "Game" "Relay") "Relay" layouts] ∧
      ∀ d, ((Builder.start registry 0 "Relay").methodLayout close d).1.Renames
        (layouts.message d)) ∧
    Report.inspect registry "Game::Relay" 3 .response #[1, 7] =
      .ok ⟨"Relay.Close", [⟨"close_result", 0, 1, .bool true⟩], 1, 1, []⟩ := by
  have few : declared.length < Nat.pow 2 32 := by decide
  have converted : convertProtocol "Relay" (some 9) declared = .ok relay := rfl
  have found : Report.findProtocol registry "Game::Relay" = .ok (0, game, relay) := rfl
  obtain ⟨-, methods, gaps, lookup, branches⟩ := ordinals_identify_methods few converted
  have skipped : DeclaredAs 1 declared 2 (.error (.invalidDirection "late" "Later")) :=
    ⟨1, _, _, rfl, rfl, rfl⟩
  have gap : ∀ m ∈ relay.methods, m.id ≠ 2 := (gaps 2 (by decide) (by decide)).2 ⟨_, _, skipped⟩
  obtain ⟨empty, missing⟩ := (branches registry 0 "Game" "rmc.protocol_id" 9 2).2.1 rfl
  obtain ⟨layouts, method, only, reads⟩ :=
    (branches registry 0 "Game" "rmc.protocol_id" 9 3).2.2 close rfl
  refine ⟨few, converted, gap, (lookup 3 close).1 rfl, found, ⟨empty, missing _ game found⟩,
    ⟨layouts, method, only, fun d => (reads d).1⟩, ?_⟩
  rw [(reads .response).2 _ game found]
  rfl

end Relay

end Dissect.Script
