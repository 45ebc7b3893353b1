import Dissect.Proofs.Wire.Buffer
import Dissect.Wire.Decoder

/-!
# How far a run comes

Running instructions moves the cursor forward, keeps it within the payload, and leaves everything
as it was where it does not move the cursor. A counted body is therefore run as often as its count
says, although the decoder ends at the first pass that reads nothing: the decoder agrees with a plain
one that always makes all passes (`runAll_eq_runAllPlain`).
-/

set_option autoImplicit false

namespace Dissect.Wire

/-- Every fixed width is at least a byte, and at most eight. -/
theorem Scalar.width_fixed_bounds {type : Scalar} {bytes : Nat} (h : type.width = .fixed bytes) :
    0 < bytes ∧ bytes ≤ 8 := by
  cases type <;> cases h <;> decide

/-- `q` is reached from `p` by reading: the cursor does not go back, stays within the payload, and
standing still means that nothing happened. -/
structure Progress.Reaches (b : Buffer) (p q : Progress) : Prop where
  forward : p.cursor ≤ q.cursor
  within : p.cursor ≤ b.size → q.cursor ≤ b.size
  still : q.cursor = p.cursor → q = p

namespace Progress.Reaches

variable {b : Buffer} {p q r : Progress}

theorem refl (b : Buffer) (p : Progress) : Reaches b p p := ⟨Nat.le_refl _, id, fun _ => rfl⟩

theorem trans (first : Reaches b p q) (second : Reaches b q r) : Reaches b p r where
  forward := Nat.le_trans first.forward second.forward
  within := fun start => second.within (first.within start)
  still := by
    intro same
    have ahead := first.forward
    have behind := second.forward
    have middle : q = p := first.still (by omega)
    rw [← middle]
    exact second.still (by omega)

/-- Moving on within the payload, by at least a byte, is progress whatever is recorded. -/
theorem of_lt (ahead : p.cursor < q.cursor) (within : q.cursor ≤ b.size) : Reaches b p q :=
  ⟨Nat.le_of_lt ahead, fun _ => within, fun same => absurd same (Nat.ne_of_gt ahead)⟩

end Progress.Reaches

/-- Goes on unless the run has failed. -/
def Outcome.andThen (o : Outcome) (next : Progress → Outcome) : Outcome :=
  match o with
  | .finished p => next p
  | .failed e p => .failed e p

theorem Outcome.andThen_eq_finished_iff {o : Outcome} {next : Progress → Outcome} {q : Progress} :
    o.andThen next = .finished q ↔ ∃ p, o = .finished p ∧ next p = .finished q := by
  cases o with
  | finished p => simp [andThen]
  | failed e p => simp [andThen]

theorem runAll_cons (b : Buffer) (i : Instruction) (rest : List Instruction) (p : Progress) :
    runAll b (i :: rest) p = (i.run b p).andThen (runAll b rest) := by
  rw [runAll]
  cases i.run b p with
  | finished q => rfl
  | failed e q => rfl

/-- Makes a pass exactly as often as asked. -/
def repeated (pass : Progress → Outcome) : Nat → Progress → Outcome
  | 0, p => .finished p
  | n + 1, p => (pass p).andThen (repeated pass n)

/-- A pass that changes nothing may be repeated. -/
theorem repeated_of_still {pass : Progress → Outcome} {p : Progress} (h : pass p = .finished p) :
    ∀ n, repeated pass n p = .finished p
  | 0 => rfl
  | n + 1 => by
    rw [repeated, h]
    exact repeated_of_still h n

/-- Ending at the first pass that reads nothing makes no difference, if such a pass changes
nothing. -/
theorem passes_eq_repeated {pass : Progress → Outcome}
    (still : ∀ p q, pass p = .finished q → q.cursor = p.cursor → q = p) :
    ∀ n p, passes pass n p = repeated pass n p
  | 0, p => rfl
  | n + 1, p => by
    rw [passes, repeated]
    cases h : pass p with
    | failed e q => rfl
    | finished q =>
      by_cases same : q.cursor = p.cursor
      · -- the loop ends here; all further passes would leave `p` as it is
        have unchanged := still p q h same
        subst unchanged
        simp only [if_pos]
        exact (repeated_of_still h n).symm
      · simp only [if_neg same]
        exact passes_eq_repeated still n q

theorem repeated_reaches {b : Buffer} {pass : Progress → Outcome}
    (step : ∀ p q, pass p = .finished q → Progress.Reaches b p q) :
    ∀ n p q, repeated pass n p = .finished q → Progress.Reaches b p q
  | 0, p, q, h => by
    cases h
    exact .refl b p
  | n + 1, p, q, h => by
    obtain ⟨r, first, others⟩ := Outcome.andThen_eq_finished_iff.1 h
    exact (step p r first).trans (repeated_reaches step n r q others)

section Runs

variable {b : Buffer}

theorem take_reaches {p q : Progress} {field : String} {type : Scalar} {offset length : Nat}
    (moves : p.cursor < offset + length)
    (h : p.take b field type offset length = .finished q) : Progress.Reaches b p q := by
  unfold Progress.take at h
  split at h
  · cases h
  · rename_i bytes read
    cases h
    exact .of_lt moves (Buffer.le_size_of_slice read)

theorem readScalar_reaches {p q : Progress} {field : String} {type : Scalar}
    (h : p.readScalar b field type = .finished q) : Progress.Reaches b p q := by
  unfold Progress.readScalar at h
  split at h
  · cases h
    exact .refl b p
  · rename_i bytes width
    have size := Scalar.width_fixed_bounds width
    exact take_reaches (by omega) h
  · split at h
    · cases h
    · exact take_reaches (by unfold lengthWidth; omega) h

/-- The place behind a count is reached from the place before it. -/
theorem countPrefix_reaches {p : Progress} {count : Nat}
    (h : b.countPrefix p.cursor = .ok count) :
    Progress.Reaches b p { p with cursor := p.cursor + countWidth } := by
  unfold Buffer.countPrefix Buffer.unsigned at h
  cases read : b.slice p.cursor countWidth with
  | error e =>
    rw [read] at h
    cases h
  | ok bytes =>
    refine .of_lt ?_ (Buffer.le_size_of_slice read)
    show p.cursor < p.cursor + 4
    omega

mutual

/-- What an instruction reaches. -/
theorem run_reaches : ∀ (i : Instruction) (p q : Progress),
    i.run b p = .finished q → Progress.Reaches b p q
  | .scalar field type, p, q, h => by
    rw [Instruction.run] at h
    exact readScalar_reaches h
  | .counted body, p, q, h => by
    have step := runAll_reaches body
    rw [Instruction.run] at h
    split at h
    · cases h
    · rename_i count read
      rw [passes_eq_repeated fun p q hp => (step p q hp).still] at h
      exact (countPrefix_reaches read).trans (repeated_reaches step count _ q h)
  | .unresolved field reason, p, q, h => by
    rw [Instruction.run] at h
    cases h

/-- What instructions reach. -/
theorem runAll_reaches : ∀ (layout : List Instruction) (p q : Progress),
    runAll b layout p = .finished q → Progress.Reaches b p q
  | [], p, q, h => by
    rw [runAll] at h
    cases h
    exact .refl b p
  | i :: rest, p, q, h => by
    rw [runAll_cons] at h
    obtain ⟨r, first, others⟩ := Outcome.andThen_eq_finished_iff.1 h
    exact (run_reaches i p r first).trans (runAll_reaches rest r q others)

end

/-- Running a counted body is running it as often as the count says. -/
theorem run_counted_eq_repeated (body : List Instruction) (p : Progress)
    {count : Nat} (read : b.countPrefix p.cursor = .ok count) :
    (Instruction.counted body).run b p =
      repeated (runAll b body) count { p with cursor := p.cursor + countWidth } := by
  rw [Instruction.run, read]
  exact passes_eq_repeated (fun p q h => (runAll_reaches body p q h).still) count _

end Runs

/-! ## The plain decoder -/

mutual

/-- Runs one instruction, a counted body exactly as often as its count says. -/
def Instruction.runPlain (b : Buffer) : Instruction → Progress → Outcome
  | .scalar field type, p => p.readScalar b field type
  | .counted body, p =>
    match b.countPrefix p.cursor with
    | .error e => .failed e p
    | .ok count => repeated (runAllPlain b body) count { p with cursor := p.cursor + countWidth }
  | .unresolved field reason, p => .failed (.unresolved field reason) p

/-- Runs instructions in order, up to the first that fails, counted bodies exactly as often as their
counts say. -/
def runAllPlain (b : Buffer) : List Instruction → Progress → Outcome
  | [], p => .finished p
  | i :: rest, p => (i.runPlain b p).andThen (runAllPlain b rest)

end

/-- A counted body that the two decoders run alike is repeated alike. -/
theorem run_counted_eq_runPlain (b : Buffer) {body : List Instruction}
    (inside : ∀ p, runAll b body p = runAllPlain b body p) (p : Progress) :
    (Instruction.counted body).run b p = (Instruction.counted body).runPlain b p := by
  cases read : b.countPrefix p.cursor with
  | error e => rw [Instruction.run, Instruction.runPlain, read]
  | ok count => rw [run_counted_eq_repeated body p read, Instruction.runPlain, read, funext inside]

/-- The end at a pass that reads nothing cannot be observed: from every progress, over every payload,
the decoder finishes or fails as the plain one does, with the same error, cursor and fields. -/
theorem runAll_eq_runAllPlain (b : Buffer) (layout : List Instruction) (p : Progress) :
    runAll b layout p = runAllPlain b layout p := by
  match layout with
  | [] => rw [runAll, runAllPlain]
  | i :: rest =>
    have first : i.run b p = i.runPlain b p := by
      match i with
      | .scalar field type => rw [Instruction.run, Instruction.runPlain]
      | .counted body => exact run_counted_eq_runPlain b (runAll_eq_runAllPlain b body) p
      | .unresolved field reason => rw [Instruction.run, Instruction.runPlain]
    have others := funext (runAll_eq_runAllPlain b rest)
    rw [runAll_cons, runAllPlain, first, others]

end Dissect.Wire
