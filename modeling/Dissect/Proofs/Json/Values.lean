import Dissect.Json.Basic
import Dissect.Proofs.Json.Spelling

/-!
# How JSON values are spelled

A value is spelled by its tokens. Whatever stands around it, the reader goes from the start of a
value to its end by reading its tokens (`run_tokens`), so a text that spells a value is read as this
value (`parse?_of_spells`).
-/

set_option autoImplicit false

namespace Dissect.Json

/-! ## The tokens of a value -/

mutual

/-- The tokens of a value. -/
def Value.tokens : Value → List Token
  | .null => [.null]
  | .bool b => [.bool b]
  | .number n => [.number n]
  | .string s => [.string s]
  | .array [] => [.openArray, .closeArray]
  | .array (v :: rest) => .openArray :: (v.tokens ++ (laterItems rest ++ [.closeArray]))
  | .object [] => [.openObject, .closeObject]
  | .object ((k, v) :: rest) =>
    .openObject :: .string k :: .colon :: (v.tokens ++ (laterMembers rest ++ [.closeObject]))

/-- The tokens of further items, each behind a comma. -/
def laterItems : List Value → List Token
  | [] => []
  | v :: rest => .comma :: (v.tokens ++ laterItems rest)

/-- The tokens of further members, each behind a comma. -/
def laterMembers : List (Option String × Value) → List Token
  | [] => []
  | (k, v) :: rest => .comma :: .string k :: .colon :: (v.tokens ++ laterMembers rest)

end

mutual

/-- How deep the containers of a value nest. -/
def Value.depth : Value → Nat
  | .array items => itemsDepth items + 1
  | .object members => membersDepth members + 1
  | _ => 0

def itemsDepth : List Value → Nat
  | [] => 0
  | v :: rest => max v.depth (itemsDepth rest)

def membersDepth : List (Option String × Value) → Nat
  | [] => 0
  | (_, v) :: rest => max v.depth (membersDepth rest)

end

theorem depth_le_itemsDepth {items : List Value} {v : Value} (mem : v ∈ items) :
    v.depth ≤ itemsDepth items := by
  induction items with
  | nil => cases mem
  | cons w rest ih =>
    rw [itemsDepth]
    rcases List.mem_cons.1 mem with rfl | mem
    · exact Nat.le_max_left _ _
    · exact Nat.le_trans (ih mem) (Nat.le_max_right _ _)

theorem depth_le_membersDepth {members : List (Option String × Value)} {k : Option String}
    {v : Value} (mem : (k, v) ∈ members) : v.depth ≤ membersDepth members := by
  induction members with
  | nil => cases mem
  | cons w rest ih =>
    rw [membersDepth]
    rcases List.mem_cons.1 mem with rfl | mem
    · exact Nat.le_max_left _ _
    · exact Nat.le_trans (ih mem) (Nat.le_max_right _ _)

theorem depth_lt_of_mem_array {items : List Value} {v : Value} (mem : v ∈ items) :
    v.depth < (Value.array items).depth := by
  rw [Value.depth]
  exact Nat.lt_succ_of_le (depth_le_itemsDepth mem)

theorem depth_lt_of_mem_object {members : List (Option String × Value)} {k : Option String}
    {v : Value} (mem : (k, v) ∈ members) : v.depth < (Value.object members).depth := by
  rw [Value.depth]
  exact Nat.lt_succ_of_le (depth_le_membersDepth mem)

/-! ## Reading the tokens of a value -/

theorem State.run_cons {s s' : State} {t : Token} (stepped : s.step t = some s')
    (rest : List Token) : s.run (t :: rest) = s'.run rest := by
  cases s with
  | _ => simp only [State.run, stepped]

/-- The first token of a value begins it, and does not end an array. -/
theorem Value.exists_tokens_eq_cons (v : Value) :
    ∃ t ts, v.tokens = t :: ts ∧
      ∀ around, State.step (.firstItem around) t = State.step (.value (.array [] :: around)) t := by
  unfold Value.tokens
  split <;> exact ⟨_, _, rfl, fun _ => rfl⟩

/-- The first item of an array is read like any value. -/
theorem run_firstItem (v : Value) (around : List Frame) (rest : List Token) :
    State.run (.firstItem around) (v.tokens ++ rest) =
      State.run (.value (.array [] :: around)) (v.tokens ++ rest) := by
  obtain ⟨t, ts, starts, same⟩ := v.exists_tokens_eq_cons
  rw [starts, List.cons_append, State.run, State.run, same around]

mutual

/-- The tokens of a value lead from its start to its end, whatever stands around it. -/
theorem run_tokens (v : Value) (around : List Frame) (rest : List Token) :
    State.run (.value around) (v.tokens ++ rest) = State.run (.after v around) rest := by
  match v with
  | .null => rfl
  | .bool b => rfl
  | .number n => rfl
  | .string s => rfl
  | .array [] => rfl
  | .array (v :: items) =>
    -- the first item is read like a value inside an array that is still empty
    have opened : State.step (.value around) .openArray = some (.firstItem around) := rfl
    rw [Value.tokens, List.cons_append, State.run_cons opened, List.append_assoc, run_firstItem,
      run_tokens v, List.append_assoc]
    exact run_laterItems items v [] around rest
  | .object [] => rfl
  | .object ((k, v) :: members) =>
    rw [Value.tokens, List.cons_append, List.cons_append, List.cons_append, State.run_cons rfl,
      State.run_cons rfl, State.run_cons rfl, List.append_assoc, run_tokens v, List.append_assoc]
    exact run_laterMembers members k v [] around rest

/-- The tokens of the further items lead to the end of an array. -/
theorem run_laterItems (later : List Value) (v : Value) (items : List Value) (around : List Frame)
    (rest : List Token) :
    State.run (.after v (.array items :: around)) (laterItems later ++ .closeArray :: rest) =
      State.run (.after (.array ((v :: items).reverse ++ later)) around) rest := by
  match later with
  | [] =>
    rw [laterItems, List.nil_append, List.append_nil]
    exact State.run_cons rfl rest
  | w :: later =>
    rw [laterItems, List.cons_append, State.run_cons rfl, List.append_assoc, run_tokens w,
      run_laterItems later w (v :: items)]
    simp

/-- The tokens of the further members lead to the end of an object. -/
theorem run_laterMembers (later : List (Option String × Value)) (k : Option String) (v : Value)
    (members : List (Option String × Value)) (around : List Frame) (rest : List Token) :
    State.run (.after v (.object members k :: around)) (laterMembers later ++ .closeObject :: rest) =
      State.run (.after (.object (((k, v) :: members).reverse ++ later)) around) rest := by
  match later with
  | [] =>
    rw [laterMembers, List.nil_append, List.append_nil]
    exact State.run_cons rfl rest
  | (l, w) :: later =>
    -- comma, key and colon lead to the start of the value
    rw [laterMembers, List.cons_append, List.cons_append, List.cons_append, State.run_cons rfl,
      State.run_cons rfl, State.run_cons rfl, List.append_assoc, run_tokens w,
      run_laterMembers later l w ((k, v) :: members)]
    simp

end

/-! ## Numbers do not meet -/

theorem Apart.cons {t : Token} {ts : List Token} (apart : Apart ts) (other : t.isNumber = false) :
    Apart (t :: ts) := by
  apply List.IsChain.cons apart
  intro u _
  rw [other]
  rfl

mutual

/-- Numbers do not meet in the tokens of a value, nor with what follows if that is no number. -/
theorem apart_tokens (v : Value) {t : Token} {ts : List Token} (apart : Apart (t :: ts))
    (other : t.isNumber = false) : Apart (v.tokens ++ t :: ts) := by
  match v with
  | .null => exact apart.cons rfl
  | .bool b => exact apart.cons rfl
  | .number n =>
    -- here it matters that no number follows
    apply List.IsChain.cons apart
    intro u head
    cases head
    rw [other, Bool.and_false]
  | .string s => exact apart.cons rfl
  | .array [] => exact (apart.cons rfl).cons rfl
  | .array (v :: items) =>
    have closed := apart.cons (t := .closeArray) rfl
    rw [Value.tokens, List.cons_append, List.append_assoc, List.append_assoc]
    apply Apart.cons _ rfl
    obtain ⟨u, us, starts, notNumber, after⟩ := apart_laterItems items closed rfl
    rw [List.singleton_append, starts]
    exact apart_tokens v after notNumber
  | .object [] => exact (apart.cons rfl).cons rfl
  | .object ((k, v) :: members) =>
    have closed := apart.cons (t := .closeObject) rfl
    rw [Value.tokens, List.cons_append, List.cons_append, List.cons_append, List.append_assoc,
      List.append_assoc]
    apply Apart.cons _ rfl
    apply Apart.cons _ rfl
    apply Apart.cons _ rfl
    obtain ⟨u, us, starts, notNumber, after⟩ := apart_laterMembers members closed rfl
    rw [List.singleton_append, starts]
    exact apart_tokens v after notNumber

theorem apart_laterItems (later : List Value) {t : Token} {ts : List Token}
    (apart : Apart (t :: ts)) (other : t.isNumber = false) :
    ∃ u us, laterItems later ++ t :: ts = u :: us ∧ u.isNumber = false ∧ Apart (u :: us) := by
  match later with
  | [] => exact ⟨t, ts, rfl, other, apart⟩
  | v :: later =>
    obtain ⟨u, us, starts, notNumber, after⟩ := apart_laterItems later apart other
    refine ⟨.comma, v.tokens ++ u :: us, ?_, rfl, (apart_tokens v after notNumber).cons rfl⟩
    rw [laterItems, List.cons_append, List.append_assoc, starts]

theorem apart_laterMembers (later : List (Option String × Value)) {t : Token} {ts : List Token}
    (apart : Apart (t :: ts)) (other : t.isNumber = false) :
    ∃ u us, laterMembers later ++ t :: ts = u :: us ∧ u.isNumber = false ∧ Apart (u :: us) := by
  match later with
  | [] => exact ⟨t, ts, rfl, other, apart⟩
  | (k, v) :: later =>
    obtain ⟨u, us, starts, notNumber, after⟩ := apart_laterMembers later apart other
    have inside := (apart_tokens v after notNumber).cons (t := .colon) rfl
    refine ⟨.comma, _, ?_, rfl, (inside.cons (t := .string k) rfl).cons rfl⟩
    rw [laterMembers, List.cons_append, List.cons_append, List.cons_append, List.append_assoc,
      starts]

end

/-! ## Values and texts -/

/-- A text spells a value if it spells its tokens. -/
def Value.SpelledBy (v : Value) (text : String) : Prop := SpellsAll v.tokens text.toList

/-- A text that spells a value is read as this value. -/
theorem parse?_of_spelledBy {v : Value} {text : String} (spelled : v.SpelledBy text) :
    parse? text = some v := by
  have apart : Apart v.tokens := by
    -- any token that is no number may stand behind the value
    have ended := apart_tokens v (t := .comma) (List.IsChain.singleton _) rfl
    exact (List.isChain_append.1 ended).1
  have cut := tokens_of_spellsAll spelled apart
  have read := run_tokens v [] []
  rw [List.append_nil] at read
  rw [parse?, cut]
  exact read

/-- All tokens of a value can be spelled. -/
def Value.Spellable (v : Value) : Prop := ∀ t ∈ v.tokens, ∃ cs, Spells t cs

theorem Value.Spellable.exists_text {v : Value} (spellable : v.Spellable) :
    ∃ text, v.SpelledBy text := by
  obtain ⟨cs, spelled⟩ := exists_spellsAll spellable
  refine ⟨String.ofList cs, ?_⟩
  rwa [Value.SpelledBy, String.toList_ofList]

theorem laterItems_spellable {items : List Value} (each : ∀ v ∈ items, v.Spellable) :
    ∀ t ∈ laterItems items, ∃ cs, Spells t cs := by
  induction items with
  | nil =>
    rw [laterItems]
    exact List.forall_mem_nil _
  | cons v rest ih =>
    obtain ⟨first, others⟩ := List.forall_mem_cons.1 each
    rw [laterItems]
    exact List.forall_mem_cons.2 ⟨⟨_, .comma⟩, List.forall_mem_append.2 ⟨first, ih others⟩⟩

theorem Value.Spellable.array {items : List Value} (each : ∀ v ∈ items, v.Spellable) :
    (Value.array items).Spellable := by
  have close : ∀ t ∈ [Token.closeArray], ∃ cs, Spells t cs :=
    List.forall_mem_singleton.2 ⟨_, .closeArray⟩
  cases items with
  | nil =>
    rw [Value.Spellable, Value.tokens]
    exact List.forall_mem_cons.2 ⟨⟨_, .openArray⟩, close⟩
  | cons v rest =>
    obtain ⟨first, others⟩ := List.forall_mem_cons.1 each
    have later := laterItems_spellable others
    rw [Value.Spellable, Value.tokens]
    exact List.forall_mem_cons.2 ⟨⟨_, .openArray⟩, List.forall_mem_append.2
      ⟨first, List.forall_mem_append.2 ⟨later, close⟩⟩⟩

theorem laterMembers_spellable {members : List (String × Value)}
    (each : ∀ m ∈ members, m.2.Spellable) :
    ∀ t ∈ laterMembers (members.map fun m => (some m.1, m.2)), ∃ cs, Spells t cs := by
  induction members with
  | nil =>
    rw [List.map_nil, laterMembers]
    exact List.forall_mem_nil _
  | cons m rest ih =>
    obtain ⟨first, others⟩ := List.forall_mem_cons.1 each
    rw [List.map_cons, laterMembers]
    exact List.forall_mem_cons.2 ⟨⟨_, .comma⟩, List.forall_mem_cons.2 ⟨exists_spells_string m.1,
      List.forall_mem_cons.2 ⟨⟨_, .colon⟩, List.forall_mem_append.2 ⟨first, ih others⟩⟩⟩⟩

theorem Value.Spellable.object {members : List (String × Value)}
    (each : ∀ m ∈ members, m.2.Spellable) :
    (Value.object (members.map fun m => (some m.1, m.2))).Spellable := by
  have close : ∀ t ∈ [Token.closeObject], ∃ cs, Spells t cs :=
    List.forall_mem_singleton.2 ⟨_, .closeObject⟩
  cases members with
  | nil =>
    rw [List.map_nil, Value.Spellable, Value.tokens]
    exact List.forall_mem_cons.2 ⟨⟨_, .openObject⟩, close⟩
  | cons m rest =>
    obtain ⟨first, others⟩ := List.forall_mem_cons.1 each
    have later := laterMembers_spellable others
    rw [List.map_cons, Value.Spellable, Value.tokens]
    exact List.forall_mem_cons.2 ⟨⟨_, .openObject⟩, List.forall_mem_cons.2
      ⟨exists_spells_string m.1, List.forall_mem_cons.2 ⟨⟨_, .colon⟩, List.forall_mem_append.2
        ⟨first, List.forall_mem_append.2 ⟨later, close⟩⟩⟩⟩⟩

end Dissect.Json
