import Dissect.Proofs.Wire.Calls

/-!
# Bytes behind what is read

The same instructions are run over a payload and over the payload with more bytes behind it. The two
runs go in step until the payload is too short for what is to be read, and from there the longer one
goes on alone (`runAll_lengthened`). A decoder therefore does not look at what stands behind the
bytes that it consumes, and needs every one of these (`decodePayload_consumes_exactly`).
-/

set_option autoImplicit false

namespace Dissect.Wire

variable {b : Buffer} {p : Progress}

/-! ## A run only adds -/

theorem take_continues (b : Buffer) (p : Progress) (field : String) (type : Scalar)
    {offset : Nat} (behind : p.cursor ≤ offset) (length : Nat) :
    p.Continues (p.take b field type offset length).progress := by
  unfold Progress.take
  cases b.slice offset length with
  | error e => exact .refl p
  | ok bytes =>
    refine ⟨?_, ?_⟩
    · show p.cursor ≤ offset + length
      omega
    · simp [Outcome.progress]

theorem cursor_of_take {q : Progress} {field : String} {type : Scalar} {offset length : Nat}
    (taken : p.take b field type offset length = .finished q) : q.cursor = offset + length := by
  unfold Progress.take at taken
  split at taken
  · cases taken
  · cases taken
    rfl

theorem readScalar_continues (b : Buffer) (p : Progress) (field : String) (type : Scalar) :
    p.Continues (p.readScalar b field type).progress := by
  unfold Progress.readScalar
  split
  · exact .refl p
  · exact take_continues b p field type (Nat.le_refl _) _
  · split
    · exact .refl p
    · exact take_continues b p field type (Nat.le_add_right _ _) _

theorem Outcome.continues_andThen {o : Outcome} {next : Progress → Outcome}
    (first : p.Continues o.progress) (second : ∀ q : Progress, q.Continues (next q).progress) :
    p.Continues (o.andThen next).progress := by
  cases o with
  | finished q => exact first.trans (second q)
  | failed e q => exact first

theorem repeated_continues {pass : Progress → Outcome}
    (step : ∀ p : Progress, p.Continues (pass p).progress) (n : Nat) (p : Progress) :
    p.Continues (repeated pass n p).progress := by
  induction n generalizing p with
  | zero => exact .refl p
  | succ n ih => exact Outcome.continues_andThen (step p) ih

/-- A count that is read is passed over, whatever becomes of the passes. -/
theorem counted_continues {body : List Instruction}
    (inside : ∀ p : Progress, p.Continues (runAll b body p).progress) {count : Nat}
    (read : b.countPrefix p.cursor = .ok count) :
    Progress.Continues { p with cursor := p.cursor + countWidth }
      ((Instruction.counted body).run b p).progress := by
  rw [run_counted_eq_repeated body p read]
  exact repeated_continues inside count _

mutual

theorem run_continues (b : Buffer) (i : Instruction) (p : Progress) :
    p.Continues (i.run b p).progress := by
  match i with
  | .scalar field type =>
    rw [Instruction.run]
    exact readScalar_continues b p field type
  | .counted body =>
    cases read : b.countPrefix p.cursor with
    | error e =>
      rw [Instruction.run, read]
      exact .refl p
    | ok count =>
      have behind : p.Continues { p with cursor := p.cursor + countWidth } :=
        ⟨Nat.le_add_right _ _, List.prefix_refl _⟩
      exact behind.trans (counted_continues (runAll_continues b body) read)
  | .unresolved field reason =>
    rw [Instruction.run]
    exact .refl p

/-- Every run goes on from where it begins, also one that fails. -/
theorem runAll_continues (b : Buffer) (layout : List Instruction) (p : Progress) :
    p.Continues (runAll b layout p).progress := by
  match layout with
  | [] =>
    rw [runAll]
    exact .refl p
  | i :: rest =>
    rw [runAll_cons]
    exact Outcome.continues_andThen (run_continues b i p) (runAll_continues b rest)

end

/-! ## Reading with more bytes behind -/

/-- Bytes that are there are read alike, an end that is no address stays none, and nothing is said of
bytes that are missing. -/
theorem Buffer.slice_append_cases (b t : Buffer) (offset length : Nat) :
    (∃ bytes, b.slice offset length = .ok bytes ∧ (b ++ t).slice offset length = .ok bytes) ∨
    (b.size < offset + length ∧
      b.slice offset length = .error (.bufferTooShort (offset + length) b.size)) ∨
    (b.slice offset length = .error (.offsetOutOfBounds offset b.size) ∧
      (b ++ t).slice offset length = .error (.offsetOutOfBounds offset (b ++ t).size)) := by
  unfold slice
  by_cases address : addressLimit ≤ offset + length
  · rw [if_pos address, if_pos address]
    exact .inr (.inr ⟨rfl, rfl⟩)
  · by_cases past : b.size < offset + length
    · rw [if_neg address, if_pos past]
      exact .inr (.inl ⟨past, rfl⟩)
    · have past' : ¬ (b ++ t).size < offset + length := by
        rw [Array.size_append]
        omega
      rw [if_neg address, if_neg past, if_neg address, if_neg past']
      have alike : (b ++ t).extract offset (offset + length) =
          b.extract offset (offset + length) := by
        -- nothing is taken of the bytes behind
        have inside : offset + length - b.size = 0 := by omega
        rw [Array.extract_append, inside, Array.extract_empty_of_stop_le_start (Nat.zero_le _),
          Array.append_empty]
      exact .inl ⟨_, rfl, by rw [alike]⟩

theorem Buffer.unsigned_append_cases (b t : Buffer) (offset width : Nat) :
    (∃ n, b.unsigned offset width = .ok n ∧ (b ++ t).unsigned offset width = .ok n) ∨
    (b.size < offset + width ∧
      b.unsigned offset width = .error (.bufferTooShort (offset + width) b.size)) ∨
    (b.unsigned offset width = .error (.offsetOutOfBounds offset b.size) ∧
      (b ++ t).unsigned offset width = .error (.offsetOutOfBounds offset (b ++ t).size)) := by
  unfold unsigned
  rcases slice_append_cases b t offset width with
    ⟨bytes, read, read'⟩ | ⟨short, read⟩ | ⟨read, read'⟩
  · rw [read, read']
    exact .inl ⟨_, rfl, rfl⟩
  · rw [read]
    exact .inr (.inl ⟨short, rfl⟩)
  · rw [read, read']
    exact .inr (.inr ⟨rfl, rfl⟩)

/-! ## Runs with more bytes behind -/

/-- What becomes of the outcome of a run over the payload `b` when more bytes stand behind `b`. -/
inductive Outcome.Lengthened (b : Buffer) : Outcome → Outcome → Prop
  /-- The bytes behind make no difference. -/
  | same (o : Outcome) : Lengthened b o o
  /-- The payload is too short. The longer run goes on from the progress made, and if it finishes, it
  has read the bytes that were missing. -/
  | starved {required : Nat} {q : Progress} {o : Outcome} (short : b.size < required)
      (continues : q.Continues o.progress) (reads : ∀ r, o = .finished r → required ≤ r.cursor) :
      Lengthened b (.failed (.bufferTooShort required b.size) q) o
  /-- The end of the bytes that are read is no address, whatever stands behind the payload. -/
  | unaddressed (offset size : Nat) (q : Progress) :
      Lengthened b (.failed (.offsetOutOfBounds offset b.size) q)
        (.failed (.offsetOutOfBounds offset size) q)

namespace Outcome.Lengthened

variable {o o' : Outcome}

theorem eq_of_finished {q : Progress} (lengthened : Lengthened b (.finished q) o) :
    o = .finished q := by
  cases lengthened with
  | same => rfl

theorem eq_of_unresolved {field reason : String} {q : Progress}
    (lengthened : Lengthened b (.failed (.unresolved field reason) q) o) :
    o = .failed (.unresolved field reason) q := by
  cases lengthened with
  | same => rfl

/-- The longer run goes on from the progress that the shorter one has made. -/
theorem continues (lengthened : Lengthened b o o') : o.progress.Continues o'.progress := by
  cases lengthened with
  | same => exact .refl _
  | starved _ continues _ => exact continues
  | unaddressed _ _ q => exact .refl q

theorem andThen {next next' : Progress → Outcome} (first : Lengthened b o o')
    (second : ∀ q, Lengthened b (next q) (next' q))
    (onward : ∀ q : Progress, q.Continues (next' q).progress) :
    Lengthened b (o.andThen next) (o'.andThen next') := by
  cases first with
  | same =>
    cases o with
    | finished q => exact second q
    | failed e q => exact .same _
  | starved short continues reads =>
    -- the shorter run has ended here, and only the longer one comes to what is next
    refine .starved short (continues_andThen continues onward) ?_
    intro r finished
    obtain ⟨q, here, there⟩ := andThen_eq_finished_iff.1 finished
    have forward := (onward q).forward
    rw [there] at forward
    exact Nat.le_trans (reads q here) forward
  | unaddressed offset size q => exact .unaddressed offset size q

end Outcome.Lengthened

section Append

variable (b t : Buffer)

theorem take_lengthened (p : Progress) (field : String) (type : Scalar) {offset : Nat}
    (behind : p.cursor ≤ offset) (length : Nat) :
    (p.take b field type offset length).Lengthened b (p.take (b ++ t) field type offset length) := by
  have onward := take_continues (b ++ t) p field type behind length
  rcases Buffer.slice_append_cases b t offset length with
    ⟨bytes, read, read'⟩ | ⟨short, read⟩ | ⟨read, read'⟩
  · simp only [Progress.take, read, read']
    exact .same _
  · rw [Progress.take, read]
    refine .starved short onward ?_
    intro r taken
    exact Nat.le_of_eq (cursor_of_take taken).symm
  · simp only [Progress.take, read, read']
    exact .unaddressed _ _ _

theorem readScalar_lengthened (p : Progress) (field : String) (type : Scalar) :
    (p.readScalar b field type).Lengthened b (p.readScalar (b ++ t) field type) := by
  have onward := readScalar_continues (b ++ t) p field type
  cases width : type.width with
  | unwrapped =>
    simp only [Progress.readScalar, width]
    exact .same _
  | fixed bytes =>
    simp only [Progress.readScalar, width]
    exact take_lengthened b t p field type (Nat.le_refl _) bytes
  | lengthPrefixed =>
    rcases Buffer.unsigned_append_cases b t p.cursor lengthWidth with
      ⟨length, read, read'⟩ | ⟨short, read⟩ | ⟨read, read'⟩
    · simp only [Progress.readScalar, width, Buffer.lengthPrefix, read, read']
      exact take_lengthened b t p field type (Nat.le_add_right _ _) length
    · rw [Progress.readScalar, width]
      simp only [Buffer.lengthPrefix, read]
      refine .starved short onward ?_
      -- a string that is read ends behind its length
      intro r finished
      simp only [Progress.readScalar, width] at finished
      split at finished
      · cases finished
      · rw [cursor_of_take finished]
        exact Nat.le_add_right _ _
    · simp only [Progress.readScalar, width, Buffer.lengthPrefix, read, read']
      exact .unaddressed _ _ _

theorem repeated_lengthened {pass pass' : Progress → Outcome}
    (step : ∀ p, (pass p).Lengthened b (pass' p))
    (onward : ∀ p : Progress, p.Continues (pass' p).progress) (n : Nat) (p : Progress) :
    (repeated pass n p).Lengthened b (repeated pass' n p) := by
  induction n generalizing p with
  | zero => exact .same _
  | succ n ih => exact (step p).andThen ih (repeated_continues onward n)

mutual

/-- An instruction, with more bytes behind the payload. -/
theorem run_lengthened (i : Instruction) (p : Progress) :
    (i.run b p).Lengthened b (i.run (b ++ t) p) := by
  match i with
  | .scalar field type =>
    rw [Instruction.run, Instruction.run]
    exact readScalar_lengthened b t p field type
  | .counted body =>
    have onward := runAll_continues (b ++ t) body
    rcases Buffer.unsigned_append_cases b t p.cursor countWidth with
      ⟨count, read, read'⟩ | ⟨short, read⟩ | ⟨read, read'⟩
    · rw [run_counted_eq_repeated body p read, run_counted_eq_repeated body p read']
      exact repeated_lengthened b (runAll_lengthened body) onward count _
    · rw [Instruction.run, Buffer.countPrefix, read]
      refine .starved short (run_continues (b ++ t) (.counted body) p) ?_
      -- to finish, the longer run has to pass over the count
      intro r finished
      cases read' : (b ++ t).countPrefix p.cursor with
      | error e =>
        rw [Instruction.run, read'] at finished
        cases finished
      | ok count =>
        have forward := (counted_continues onward read').forward
        rw [finished] at forward
        exact forward
    · rw [Instruction.run, Instruction.run, Buffer.countPrefix, Buffer.countPrefix, read, read']
      exact .unaddressed _ _ _
  | .unresolved field reason =>
    rw [Instruction.run, Instruction.run]
    exact .same _

/-- Instructions, with more bytes behind the payload. -/
theorem runAll_lengthened (layout : List Instruction) (p : Progress) :
    (runAll b layout p).Lengthened b (runAll (b ++ t) layout p) := by
  match layout with
  | [] =>
    rw [runAll, runAll]
    exact .same _
  | i :: rest =>
    rw [runAll_cons, runAll_cons]
    exact (run_lengthened i p).andThen (runAll_lengthened rest) (runAll_continues (b ++ t) rest)

end

end Append

/-! ## Whole payloads -/

theorem decodePayload_eq_ok_iff {layout : List Instruction} {fields : Array DecodedField}
    {n : Nat} :
    decodePayload layout b = .ok (fields, n) ↔ runAll b layout .start = .finished ⟨n, fields⟩ := by
  rw [decodePayload]
  cases runAll b layout .start with
  | finished q =>
    cases q
    simp [and_comm]
  | failed e q => simp

theorem decodePayload_eq_error_iff {layout : List Instruction} {e : DecodeError} :
    decodePayload layout b = .error e ↔ ∃ q, runAll b layout .start = .failed e q := by
  rw [decodePayload]
  cases runAll b layout .start with
  | finished q => simp
  | failed e q => simp

/-- Where decoding succeeds after `n` bytes, it fails on fewer because they are too few. -/
theorem decodePayload_take {layout : List Instruction} {fields : Array DecodedField} {n : Nat}
    (decoded : decodePayload layout b = .ok (fields, n)) {k : Nat} (fewer : k < n) :
    ∃ required, k < required ∧ required ≤ n ∧
      decodePayload layout (b.take k) = .error (.bufferTooShort required k) := by
  have whole := decodePayload_eq_ok_iff.1 decoded
  have within : n ≤ b.size := (runAll_reaches layout .start _ whole).within (Nat.zero_le _)
  have size : (b.take k).size = k := by
    simp
    omega
  have parts : b.take k ++ b.drop k = b := by simp
  have lengthened := runAll_lengthened (b.take k) (b.drop k) layout .start
  rw [parts, whole] at lengthened
  generalize cut : runAll (b.take k) layout .start = o at lengthened
  cases lengthened with
  | same =>
    -- the shorter run would have read beyond its payload
    have short := (runAll_reaches layout .start _ cut).within (Nat.zero_le _)
    rw [size] at short
    exact absurd short (Nat.not_le.2 fewer)
  | starved short _ reads =>
    rw [size] at short cut
    exact ⟨_, short, reads _ rfl, decodePayload_eq_error_iff.2 ⟨_, cut⟩⟩

/-- Decoding looks at the bytes that it consumes and at no others. If it succeeds after `n` bytes, it
succeeds alike with more bytes behind the payload, and on the first `k < n` bytes it fails because
they are too few, asking for no more than `n`. If it fails at a placeholder, it fails there with more
bytes, too. If it fails because the payload is too short, the fields recorded are the first of those
that are recorded with more bytes. -/
theorem decodePayload_consumes_exactly (layout : List Instruction) (b t : Buffer) :
    (∀ fields n, decodePayload layout b = .ok (fields, n) →
      decodePayload layout (b ++ t) = .ok (fields, n) ∧
      ∀ k < n, ∃ required, k < required ∧ required ≤ n ∧
        decodePayload layout (b.take k) = .error (.bufferTooShort required k)) ∧
    (∀ field reason, decodePayload layout b = .error (.unresolved field reason) →
      decodePayload layout (b ++ t) = .error (.unresolved field reason)) ∧
    (∀ required available,
      decodePayload layout b = .error (.bufferTooShort required available) →
      (runAll b layout .start).progress.fields.toList <+:
        (runAll (b ++ t) layout .start).progress.fields.toList) := by
  have lengthened := runAll_lengthened b t layout .start
  refine ⟨?_, ?_, ?_⟩
  · intro fields n decoded
    refine ⟨?_, fun k fewer => decodePayload_take decoded fewer⟩
    rw [decodePayload_eq_ok_iff] at decoded ⊢
    rw [decoded] at lengthened
    exact lengthened.eq_of_finished
  · intro field reason failed
    obtain ⟨q, ran⟩ := decodePayload_eq_error_iff.1 failed
    rw [ran] at lengthened
    exact decodePayload_eq_error_iff.2 ⟨q, lengthened.eq_of_unresolved⟩
  · intro required available failed
    obtain ⟨q, ran⟩ := decodePayload_eq_error_iff.1 failed
    rw [ran] at lengthened ⊢
    exact lengthened.continues.appended

namespace Tags

/-- Tagged bytes. -/
def layout : List Instruction := [.counted [.scalar "tag" .uint8, .scalar "data" .buffer]]

/-- Tagged bytes and a field without a layout behind them. -/
def unfinished : List Instruction := layout ++ [.unresolved "extra" "unknown scalar type 'vec'"]

/-- One tag with two bytes. -/
def payload : Buffer := #[1, 0, 0, 0, 9, 2, 0, 65, 66]

def fields : Array DecodedField := #[⟨"tag", 4, 1, .unsigned 9⟩, ⟨"data", 7, 2, .bytes [65, 66]⟩]

/-- All of the payload is needed, and a byte behind it is not looked at. Without its last two bytes
the tag is recorded, and with more bytes it still is. -/
theorem decodePayload_payload_exactly :
    decodePayload layout payload = .ok (fields, 9) ∧
    decodePayload layout (payload ++ #[7]) = .ok (fields, 9) ∧
    (∃ required, 8 < required ∧ required ≤ 9 ∧
      decodePayload layout (payload.take 8) = .error (.bufferTooShort required 8)) ∧
    decodePayload unfinished payload =
      .error (.unresolved "extra" "unknown scalar type 'vec'") ∧
    decodePayload unfinished (payload ++ #[7]) =
      .error (.unresolved "extra" "unknown scalar type 'vec'") ∧
    decodePayload layout (payload.take 7) = .error (.bufferTooShort 9 7) ∧
    [⟨"tag", 4, 1, .unsigned 9⟩] <+:
      (runAll (payload.take 7 ++ #[80, 81, 82]) layout .start).progress.fields.toList := by
  have decoded : decodePayload layout payload = .ok (fields, 9) := rfl
  have unresolved : decodePayload unfinished payload =
      .error (.unresolved "extra" "unknown scalar type 'vec'") := rfl
  have short : decodePayload layout (payload.take 7) = .error (.bufferTooShort 9 7) := rfl
  obtain ⟨longer, shorter⟩ :=
    (decodePayload_consumes_exactly layout payload #[7]).1 fields 9 decoded
  refine ⟨decoded, longer, shorter 8 (by decide), unresolved, ?_, short, ?_⟩
  · exact (decodePayload_consumes_exactly unfinished payload #[7]).2.1 _ _ unresolved
  · exact (decodePayload_consumes_exactly layout (payload.take 7) #[80, 81, 82]).2.2 _ _ short

end Tags

end Dissect.Wire
