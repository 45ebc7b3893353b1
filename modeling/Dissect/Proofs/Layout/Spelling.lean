import Dissect.Proofs.Layout.Outline
import Dissect.Proofs.Text.SnakeCase
import Dissect.Proofs.Text.Words

/-!
# How identifiers are spelled

A variable name is made of parts in snake case, underscores and digits: it is a candidate for its
place (`IdentifierTable.Spelled.identifier`). No separator occurs in it, whatever the names of the
schema hold (`IdentifierTable.Spelled.unseparated`).
-/

set_option autoImplicit false

namespace Dissect.Layout

open Text (isSeparator)

/-- No hyphen, space or dot occurs in the text. -/
def Unseparated (text : String) : Prop := ∀ c ∈ text.toList, isSeparator c = false

theorem Unseparated.append {a b : String} (first : Unseparated a) (second : Unseparated b) :
    Unseparated (a ++ b) := by
  intro c mem
  rw [String.toList_append] at mem
  exact (List.mem_append.1 mem).elim (first c) (second c)

theorem Unseparated.intercalate {mark : String} (plain : Unseparated mark) {parts : List String}
    (all : ∀ part ∈ parts, Unseparated part) : Unseparated (mark.intercalate parts) := by
  intro c mem
  rcases Text.mem_intercalate_cases mem with mem | ⟨part, inside, mem⟩
  · exact plain c mem
  · exact all part inside c mem

theorem unseparated_snakeCase (name : String) : Unseparated (Text.snakeCase name) := by
  intro c mem
  rw [← Bool.not_eq_true]
  exact fun separator => Text.not_mem_snakeCase_of_isSeparator separator name mem

theorem unseparated_suffix (k : Nat) : Unseparated (suffix k) := by
  cases k with
  | zero => simp [Unseparated, suffix]
  | succ k =>
    refine .append (by simp [Unseparated, isSeparator]) fun c mem => ?_
    rw [Nat.toString_eq_ofList_toDigits, String.toList_ofList] at mem
    have digit := Nat.isDigit_of_mem_toDigits (by decide) (by decide) mem
    rw [← Bool.not_eq_true, Text.isSeparator_iff]
    rintro (rfl | rfl | rfl) <;> revert digit <;> decide

theorem unseparated_base (protocol : String) (place : Place) :
    Unseparated (place.base protocol).name := by
  refine .intercalate (by simp [Unseparated, isSeparator]) fun part mem => ?_
  obtain ⟨name, -, rfl⟩ := List.mem_map.1 mem
  exact unseparated_snakeCase name

namespace IdentifierTable

theorem after_protocol (t : IdentifierTable) (places : List Place) :
    (t.after places).protocol = t.protocol := by
  induction places generalizing t with
  | nil => rfl
  | cons place rest ih =>
    rw [after_cons, ih]
    exact intern_protocol t place

/-- Every identifier given out is a candidate for its place. -/
def Spelled (t : IdentifierTable) : Prop :=
  ∀ e ∈ t.entries, ∃ k, e.2 = (e.1.base t.protocol).candidate k

theorem spelled_empty (protocol : String) : (empty protocol).Spelled := by
  intro e mem
  cases mem

namespace Spelled

variable {t : IdentifierTable}

theorem intern (spelled : t.Spelled) (place : Place) : (t.intern place).2.Spelled := by
  rcases intern_cases t place with ⟨_, -, done⟩ | ⟨-, done⟩
  · rwa [done]
  · rw [done]
    refine List.forall_mem_cons.2 ⟨?_, spelled⟩
    obtain ⟨k, candidate, -⟩ := fresh_firstFree t place
    exact ⟨k, candidate⟩

theorem after (spelled : t.Spelled) (places : List Place) : (t.after places).Spelled := by
  induction places generalizing t with
  | nil => exact spelled
  | cons place rest ih => exact ih (spelled.intern place)

/-- Whether a place has been asked for before or not, it gets one of its candidates. -/
theorem identifier (spelled : t.Spelled) (place : Place) :
    ∃ k, t.identifier place = (place.base t.protocol).candidate k := by
  rcases intern_cases t place with ⟨_, mem, done⟩ | ⟨-, done⟩
  · rw [IdentifierTable.identifier, done]
    exact spelled _ mem
  · rw [IdentifierTable.identifier, done]
    obtain ⟨k, candidate, -⟩ := fresh_firstFree t place
    exact ⟨k, candidate⟩

theorem unseparated (spelled : t.Spelled) (place : Place) :
    Unseparated (t.identifier place).name := by
  obtain ⟨k, candidate⟩ := spelled.identifier place
  rw [candidate]
  exact (unseparated_base _ _).append (unseparated_suffix k)

end Spelled

end IdentifierTable

end Dissect.Layout
