import Dissect.Proofs.Wire.Progress
import Dissect.Report

/-!
# Calls of one decoder

A decoder can be called again and again, also after a call that failed: every call goes on from the
progress that the one before has left. This module shows what all such runs keep. The cursor goes
forward within the payload, fields are only added, each of them behind the one before, and the end
of what is read is always an address (`runAll_orderly`).

The second part takes the reads apart from the checks in front of them. `Traced` is how a run ends
whose getters do not look at the size of the payload, so that it can read out of range, and that
notes where every scalar and every count that it completes has ended. No run reads out of range, and
the cursor stands where the last scalar or count has ended (`runAll_accounted`).

Both together are `calls_sound`.
-/

set_option autoImplicit false

namespace Dissect.Wire

/-! ## Sound progress -/

/-- The cursor lies within the payload, and the fields lie in front of it, one behind the other. -/
structure Progress.Sound (b : Buffer) (p : Progress) : Prop where
  within : p.cursor ≤ b.size
  ended : ∀ f ∈ p.fields, f.offset + f.length ≤ p.cursor
  ordered : p.fields.toList.Pairwise fun f g => f.offset + f.length ≤ g.offset

/-- `q` goes on from `p`: the cursor has not gone back, and fields have only been added. -/
structure Progress.Continues (p q : Progress) : Prop where
  forward : p.cursor ≤ q.cursor
  appended : p.fields.toList <+: q.fields.toList

/-- A run from `p` that goes on from it and leaves sound progress, whether it has finished or
failed, and that has not failed for want of an address. -/
structure Outcome.Orderly (b : Buffer) (p : Progress) (o : Outcome) : Prop where
  sound : o.progress.Sound b
  continues : p.Continues o.progress
  addressed : ∀ offset size, o.error? ≠ some (.offsetOutOfBounds offset size)

variable {b : Buffer} {p q : Progress}

theorem Progress.sound_start (b : Buffer) : Progress.start.Sound b where
  within := Nat.zero_le _
  ended := by simp [start]
  ordered := .nil

namespace Progress.Continues

theorem refl (p : Progress) : p.Continues p := ⟨Nat.le_refl _, List.prefix_refl _⟩

theorem trans {r : Progress} (first : p.Continues q) (second : q.Continues r) : p.Continues r :=
  ⟨Nat.le_trans first.forward second.forward, first.appended.trans second.appended⟩

end Progress.Continues

/-- A cursor that moves on within the payload leaves the fields where they are. -/
theorem Progress.Sound.advance (sound : p.Sound b) {cursor : Nat} (ahead : p.cursor ≤ cursor)
    (within : cursor ≤ b.size) : Progress.Sound b { p with cursor } where
  within := within
  ended := fun f mem => Nat.le_trans (sound.ended f mem) ahead
  ordered := sound.ordered

/-- A field that begins at the cursor or behind it can be added. -/
theorem Progress.Sound.push (sound : p.Sound b) (f : DecodedField)
    (behind : p.cursor ≤ f.offset) (within : f.offset + f.length ≤ b.size) :
    Progress.Sound b ⟨f.offset + f.length, p.fields.push f⟩ where
  within := within
  ended := by
    intro g mem
    rcases Array.mem_push.1 mem with mem | rfl
    · have before := sound.ended g mem
      show g.offset + g.length ≤ f.offset + f.length
      omega
    · exact Nat.le_refl _
  ordered := by
    rw [Array.toList_push]
    apply List.pairwise_append.2
    refine ⟨sound.ordered, List.pairwise_singleton _ _, ?_⟩
    intro g mem h last
    cases List.mem_singleton.1 last
    exact Nat.le_trans (sound.ended g (Array.mem_toList_iff.1 mem)) behind

namespace Outcome.Orderly

theorem finished (sound : p.Sound b) : Orderly b p (.finished p) := by
  refine ⟨sound, .refl p, ?_⟩
  intro offset size failed
  cases failed

/-- A failure that moves nothing. -/
theorem failed (sound : p.Sound b) {e : DecodeError}
    (addressed : ∀ offset size, e ≠ .offsetOutOfBounds offset size) :
    Orderly b p (.failed e p) := by
  refine ⟨sound, .refl p, ?_⟩
  intro offset size same
  exact addressed offset size (Option.some.inj same)

theorem of_continues {o : Outcome} (step : p.Continues q) (orderly : Orderly b q o) :
    Orderly b p o :=
  ⟨orderly.sound, step.trans orderly.continues, orderly.addressed⟩

/-- One run after another. -/
theorem andThen {o : Outcome} {next : Progress → Outcome} (first : Orderly b p o)
    (second : ∀ q, q.Sound b → Orderly b q (next q)) : Orderly b p (o.andThen next) := by
  cases o with
  | finished q => exact of_continues first.continues (second q first.sound)
  | failed e q => exact first

end Outcome.Orderly

/-- Bytes at an address are there, or the payload is too short for them. -/
theorem Buffer.slice_cases (fits : b.Addressable) {offset length : Nat} (start : offset ≤ b.size)
    (short : length < Nat.pow 2 63) :
    (offset + length ≤ b.size ∧
      b.slice offset length = .ok ((b.toList.drop offset).take length)) ∨
    (b.size < offset + length ∧
      b.slice offset length = .error (.bufferTooShort (offset + length) b.size)) := by
  by_cases within : offset + length ≤ b.size
  · exact .inl ⟨within, slice_of_le fits within⟩
  · exact .inr ⟨Nat.lt_of_not_le within, slice_of_lt fits start short (Nat.lt_of_not_le within)⟩

theorem take_orderly (fits : b.Addressable) (sound : p.Sound b) {offset length : Nat}
    (behind : p.cursor ≤ offset) (start : offset ≤ b.size) (short : length < Nat.pow 2 63)
    (field : String) (type : Scalar) : (p.take b field type offset length).Orderly b p := by
  unfold Progress.take
  rcases Buffer.slice_cases fits start short with ⟨within, read⟩ | ⟨past, read⟩
  · rw [read]
    have added := sound.push
      ⟨field, offset, length, type.value ((b.toList.drop offset).take length)⟩ behind within
    refine ⟨added, ⟨?_, ?_⟩, ?_⟩
    · show p.cursor ≤ offset + length
      omega
    · simp [Outcome.progress]
    · intro offset size failed
      cases failed
  · rw [read]
    exact .failed sound fun _ _ => DecodeError.noConfusion

/-- A prefix is read within the payload, or fails because the payload is too short. -/
theorem Buffer.unsigned_cases (fits : b.Addressable) {offset : Nat} (start : offset ≤ b.size)
    (width : Nat) (short : width < Nat.pow 2 63) :
    (∃ n, offset + width ≤ b.size ∧ n < 256 ^ width ∧ b.unsigned offset width = .ok n) ∨
    (b.size < offset + width ∧
      b.unsigned offset width = .error (.bufferTooShort (offset + width) b.size)) := by
  rcases slice_cases fits start short with ⟨within, -⟩ | ⟨past, -⟩
  · refine .inl ⟨_, within, ?_, unsigned_of_le fits within⟩
    have bound := littleEndian_lt ((b.toList.drop offset).take width)
    have lengths : ((b.toList.drop offset).take width).length = width := by
      simp
      omega
    rwa [lengths] at bound
  · exact .inr ⟨past, unsigned_of_lt fits start short past⟩

theorem readScalar_orderly (fits : b.Addressable) (sound : p.Sound b) (field : String)
    (type : Scalar) : (p.readScalar b field type).Orderly b p := by
  unfold Progress.readScalar
  split
  · exact .finished sound
  · next bytes width =>
    have small := (Scalar.width_fixed_bounds width).2
    apply take_orderly fits sound (Nat.le_refl _) sound.within
    exact Nat.lt_of_le_of_lt small (by decide)
  · rcases Buffer.unsigned_cases fits sound.within lengthWidth (by decide) with
      ⟨length, within, small, read⟩ | ⟨past, read⟩
    · rw [Buffer.lengthPrefix, read]
      apply take_orderly fits sound (Nat.le_add_right _ _) within
      exact Nat.lt_trans small (by decide)
    · rw [Buffer.lengthPrefix, read]
      exact .failed sound fun _ _ => DecodeError.noConfusion

theorem passes_orderly {pass : Progress → Outcome}
    (step : ∀ p, p.Sound b → (pass p).Orderly b p) (n : Nat) (sound : p.Sound b) :
    (passes pass n p).Orderly b p := by
  induction n generalizing p with
  | zero => exact .finished sound
  | succ n ih =>
    have first := step p sound
    rw [passes]
    cases made : pass p with
    | failed e q =>
      rw [made] at first
      exact first
    | finished q =>
      rw [made] at first
      by_cases still : q.cursor = p.cursor
      · simp only [if_pos still]
        exact first
      · simp only [if_neg still]
        exact .of_continues first.continues (ih first.sound)

mutual

/-- What an instruction keeps. -/
theorem run_orderly (fits : b.Addressable) (i : Instruction) {p : Progress} (sound : p.Sound b) :
    (i.run b p).Orderly b p := by
  match i with
  | .scalar field type =>
    rw [Instruction.run]
    exact readScalar_orderly fits sound field type
  | .counted body =>
    rw [Instruction.run]
    rcases Buffer.unsigned_cases fits sound.within countWidth (by decide) with
      ⟨count, within, -, read⟩ | ⟨past, read⟩
    · rw [Buffer.countPrefix, read]
      -- the passes begin behind the count
      have ahead : p.cursor ≤ p.cursor + countWidth := Nat.le_add_right _ _
      refine .of_continues (q := { p with cursor := p.cursor + countWidth })
        ⟨ahead, List.prefix_refl _⟩ ?_
      apply passes_orderly _ count (sound.advance ahead within)
      intro p' sound'
      exact runAll_orderly fits body sound'
    · rw [Buffer.countPrefix, read]
      exact .failed sound fun _ _ => DecodeError.noConfusion
  | .unresolved field reason =>
    rw [Instruction.run]
    exact .failed sound fun _ _ => DecodeError.noConfusion

/-- What instructions keep. -/
theorem runAll_orderly (fits : b.Addressable) (layout : List Instruction) {p : Progress}
    (sound : p.Sound b) : (runAll b layout p).Orderly b p := by
  match layout with
  | [] =>
    rw [runAll]
    exact .finished sound
  | i :: rest =>
    rw [runAll_cons]
    apply (run_orderly fits i sound).andThen
    intro q sound'
    exact runAll_orderly fits rest sound'

end

/-! ## Checks and reads apart -/

/-- The bytes at an offset as a getter takes them. A getter makes no check of its own: where some of
the bytes are missing, it reads out of range, and there is no result. -/
def Buffer.get? (b : Buffer) (offset length : Nat) : Option (List UInt8) :=
  if offset + length ≤ b.size then some (b.extract offset (offset + length)).toList else none

/-- How many bytes the getter of a scalar takes. Only the getters of texts and of bytes are told how
many. -/
def Scalar.taken (s : Scalar) (length : Nat) : Nat :=
  match s with
  | .bool | .byte | .uint8 | .int8 => 1
  | .uint16 | .int16 => 2
  | .uint32 | .int32 | .dateTime | .qresult => 4
  | .uint64 | .int64 | .double => 8
  | .string | .stationUrl | .buffer | .variant => length

/-- How a run ends that has its checks and its reads apart. With the progress come the places where
the scalars and counts that it has completed end, in order. -/
inductive Traced where
  | finished (progress : Progress) (stops : List Nat)
  | failed (error : DecodeError) (progress : Progress) (stops : List Nat)
  /-- A getter has read out of range. -/
  | outOfRange

namespace Traced

/-- The ending of a run before which something has been completed. -/
def behind (stops : List Nat) : Traced → Traced
  | .finished p more => .finished p (stops ++ more)
  | .failed e p more => .failed e p (stops ++ more)
  | .outOfRange => .outOfRange

/-- Goes on unless the run has failed. -/
def andThen (e : Traced) (next : Progress → Traced) : Traced :=
  match e with
  | .finished p stops => (next p).behind stops
  | .failed e p stops => .failed e p stops
  | .outOfRange => .outOfRange

end Traced

namespace Progress

/-- Goes on if the bytes at an offset are there. -/
def checking (p : Progress) (b : Buffer) (offset length : Nat) (next : Traced) : Traced :=
  match b.checkRange offset length with
  | .error e => .failed e p []
  | .ok _ => next

/-- Goes on with the bytes that a getter takes. -/
def getting (b : Buffer) (offset length : Nat) (next : List UInt8 → Traced) : Traced :=
  match b.get? offset length with
  | none => .outOfRange
  | some bytes => next bytes

/-- Reads the value of a scalar: the check is for the length of the value, and the getter takes as
many bytes as it always does. -/
def takeApart (p : Progress) (b : Buffer) (field : String) (type : Scalar) (offset length : Nat) :
    Traced :=
  p.checking b offset length <| getting b offset (type.taken length) fun bytes =>
    .finished ⟨offset + length, p.fields.push ⟨field, offset, length, type.value bytes⟩⟩
      [offset + length]

/-- Reads a scalar at the cursor. -/
def readScalarApart (p : Progress) (b : Buffer) (field : String) (type : Scalar) : Traced :=
  match type.width with
  | .unwrapped => .finished p [p.cursor]
  | .fixed bytes => p.takeApart b field type p.cursor bytes
  | .lengthPrefixed =>
    p.checking b p.cursor lengthWidth <| getting b p.cursor lengthWidth fun bytes =>
      p.takeApart b field type (p.cursor + lengthWidth) (littleEndian bytes)

end Progress

/-- Makes a pass a number of times, up to the first that reads nothing. -/
def passesApart (pass : Progress → Traced) : Nat → Progress → Traced
  | 0, p => .finished p []
  | n + 1, p => (pass p).andThen fun q =>
      if q.cursor = p.cursor then .finished q [] else passesApart pass n q

mutual

/-- Runs one instruction. -/
def Instruction.runApart (b : Buffer) : Instruction → Progress → Traced
  | .scalar field type, p => p.readScalarApart b field type
  | .counted body, p =>
    p.checking b p.cursor countWidth <| Progress.getting b p.cursor countWidth fun bytes =>
      (passesApart (runAllApart b body) (littleEndian bytes)
        { p with cursor := p.cursor + countWidth }).behind [p.cursor + countWidth]
  | .unresolved field reason, p => .failed (.unresolved field reason) p []

/-- Runs instructions in order, up to the first that fails. -/
def runAllApart (b : Buffer) : List Instruction → Progress → Traced
  | [], p => .finished p []
  | i :: rest, p => (i.runApart b p).andThen (runAllApart b rest)

end

/-- An outcome together with the places where scalars and counts end. -/
def Outcome.noting : Outcome → List Nat → Traced
  | .finished p, stops => .finished p stops
  | .failed e p, stops => .failed e p stops

/-- A run from `p` with its checks and its reads apart has the given outcome, reads nothing out of
range, and leaves the cursor where the last scalar or count has ended that it has completed. -/
def Accounted (p : Progress) (e : Traced) (o : Outcome) : Prop :=
  ∃ stops : List Nat, e = o.noting stops ∧ o.progress.cursor = stops.getLast?.getD p.cursor

namespace Accounted

theorem noting_behind (o : Outcome) (first second : List Nat) :
    (o.noting second).behind first = o.noting (first ++ second) := by
  cases o <;> rfl

/-- The last place of two lists, one behind the other. -/
theorem last_append (start : Nat) (first second : List Nat) :
    second.getLast?.getD (first.getLast?.getD start) = (first ++ second).getLast?.getD start := by
  rw [List.getLast?_append]
  cases second.getLast? <;> rfl

theorem finished (p : Progress) : Accounted p (.finished p []) (.finished p) := ⟨[], rfl, rfl⟩

theorem failed (p : Progress) (e : DecodeError) : Accounted p (.failed e p []) (.failed e p) :=
  ⟨[], rfl, rfl⟩

theorem behind {e : Traced} {o : Outcome} (rest : Accounted q e o) {stops : List Nat}
    (reached : q.cursor = stops.getLast?.getD p.cursor) : Accounted p (e.behind stops) o := by
  obtain ⟨more, rfl, last⟩ := rest
  refine ⟨stops ++ more, noting_behind o stops more, ?_⟩
  rw [last, reached, last_append]

/-- One run after another. -/
theorem andThen {e : Traced} {o : Outcome} (first : Accounted p e o) {next : Progress → Traced}
    {next' : Progress → Outcome} (second : ∀ q, Accounted q (next q) (next' q)) :
    Accounted p (e.andThen next) (o.andThen next') := by
  obtain ⟨stops, rfl, last⟩ := first
  cases o with
  | finished q => exact (second q).behind last
  | failed e q => exact ⟨stops, rfl, last⟩

end Accounted

/-- Behind a check for the bytes that it takes, a getter does not read out of range. -/
theorem checking_getting (p : Progress) (b : Buffer) (offset length : Nat)
    (next : List UInt8 → Traced) :
    p.checking b offset length (Progress.getting b offset length next) =
      match b.slice offset length with
      | .error e => .failed e p []
      | .ok bytes => next bytes := by
  unfold Progress.checking Progress.getting Buffer.checkRange Buffer.get? Buffer.slice
  by_cases address : addressLimit ≤ offset + length
  · simp only [if_pos address]
    rfl
  · by_cases past : b.size < offset + length
    · simp only [if_neg address, if_pos past]
      rfl
    · simp only [if_neg address, if_neg past, if_pos (Nat.le_of_not_lt past)]
      rfl

/-- The getter of a scalar of fixed width takes as many bytes as the scalar has. -/
theorem Scalar.taken_of_fixed {type : Scalar} {bytes : Nat} (width : type.width = .fixed bytes) :
    type.taken bytes = bytes := by
  cases type <;> cases width <;> rfl

theorem Scalar.taken_of_lengthPrefixed {type : Scalar} (width : type.width = .lengthPrefixed)
    (length : Nat) : type.taken length = length := by
  cases type <;> first | rfl | cases width

theorem take_accounted (p : Progress) (b : Buffer) (field : String) {type : Scalar}
    (offset : Nat) {length : Nat} (taken : type.taken length = length) :
    Accounted p (p.takeApart b field type offset length) (p.take b field type offset length) := by
  rw [Progress.takeApart, taken, checking_getting, Progress.take]
  cases b.slice offset length with
  | error e => exact .failed p e
  | ok bytes => exact ⟨[offset + length], rfl, rfl⟩

theorem readScalar_accounted (p : Progress) (b : Buffer) (field : String) (type : Scalar) :
    Accounted p (p.readScalarApart b field type) (p.readScalar b field type) := by
  rw [Progress.readScalarApart, Progress.readScalar]
  cases width : type.width with
  | unwrapped => exact ⟨[p.cursor], rfl, rfl⟩
  | fixed bytes => exact take_accounted p b field p.cursor (Scalar.taken_of_fixed width)
  | lengthPrefixed =>
    simp only [checking_getting, Buffer.lengthPrefix, Buffer.unsigned]
    cases b.slice p.cursor lengthWidth with
    | error e => exact .failed p e
    | ok bytes =>
      -- the length has been read, but nothing is noted before the value is
      exact take_accounted p b field _ (Scalar.taken_of_lengthPrefixed width _)

theorem passes_accounted {pass : Progress → Traced} {pass' : Progress → Outcome}
    (step : ∀ p, Accounted p (pass p) (pass' p)) (n : Nat) (p : Progress) :
    Accounted p (passesApart pass n p) (passes pass' n p) := by
  induction n generalizing p with
  | zero => exact .finished p
  | succ n ih =>
    have unfolded : passes pass' (n + 1) p = (pass' p).andThen fun q =>
        if q.cursor = p.cursor then .finished q else passes pass' n q := by
      rw [passes]
      cases pass' p <;> rfl
    rw [unfolded, passesApart]
    apply (step p).andThen
    intro q
    by_cases still : q.cursor = p.cursor
    · rw [if_pos still, if_pos still]
      exact .finished q
    · rw [if_neg still, if_neg still]
      exact ih q

mutual

/-- What an instruction reads and completes. -/
theorem run_accounted (b : Buffer) (i : Instruction) (p : Progress) :
    Accounted p (i.runApart b p) (i.run b p) := by
  match i with
  | .scalar field type =>
    rw [Instruction.runApart, Instruction.run]
    exact readScalar_accounted p b field type
  | .counted body =>
    rw [Instruction.runApart, Instruction.run, checking_getting, Buffer.countPrefix,
      Buffer.unsigned]
    cases b.slice p.cursor countWidth with
    | error e => exact .failed p e
    | ok bytes =>
      -- the count is complete, whatever becomes of the passes
      apply Accounted.behind (q := { p with cursor := p.cursor + countWidth })
      · exact passes_accounted (runAll_accounted b body) _ _
      · rfl
  | .unresolved field reason =>
    rw [Instruction.runApart, Instruction.run]
    exact .failed p _

/-- What instructions read and complete. -/
theorem runAll_accounted (b : Buffer) (layout : List Instruction) (p : Progress) :
    Accounted p (runAllApart b layout p) (runAll b layout p) := by
  match layout with
  | [] =>
    rw [runAllApart, runAll]
    exact .finished p
  | i :: rest =>
    rw [runAllApart, runAll_cons]
    exact (run_accounted b i p).andThen (runAll_accounted b rest)

end

/-! ## Calls -/

/-- The progress behind calls that begin at the given one. A call that fails leaves the progress that
it has made. -/
def callAll (b : Buffer) (calls : List (List Instruction)) (p : Progress) : Progress :=
  calls.foldl (fun p layout => (runAll b layout p).progress) p

/-- The same with checks and reads apart, and with the places where all scalars and counts end that
have been completed. There is no result if one of the calls reads out of range. -/
def callAllApart (b : Buffer) : List (List Instruction) → Progress → Option (Progress × List Nat)
  | [], p => some (p, [])
  | layout :: rest, p =>
    match runAllApart b layout p with
    | .finished q stops | .failed _ q stops =>
      (callAllApart b rest q).map fun r => (r.1, stops ++ r.2)
    | .outOfRange => none

theorem callAll_sound (fits : b.Addressable) (calls : List (List Instruction))
    (sound : p.Sound b) : (callAll b calls p).Sound b := by
  induction calls generalizing p with
  | nil => exact sound
  | cons layout rest ih => exact ih (runAll_orderly fits layout sound).sound

theorem callAllApart_eq_some (b : Buffer) (calls : List (List Instruction)) (p : Progress) :
    ∃ stops, callAllApart b calls p = some (callAll b calls p, stops) ∧
      (callAll b calls p).cursor = stops.getLast?.getD p.cursor := by
  induction calls generalizing p with
  | nil => exact ⟨[], rfl, rfl⟩
  | cons layout rest ih =>
    obtain ⟨stops, first, last⟩ := runAll_accounted b layout p
    obtain ⟨more, others, last'⟩ := ih (runAll b layout p).progress
    refine ⟨stops ++ more, ?_, ?_⟩
    · rw [callAllApart, first]
      show _ = some (callAll b rest (runAll b layout p).progress, stops ++ more)
      cases ended : runAll b layout p with
      | finished q =>
        rw [ended] at others
        simp only [Outcome.noting, Outcome.progress] at others ⊢
        rw [others]
        rfl
      | failed e q =>
        rw [ended] at others
        simp only [Outcome.noting, Outcome.progress] at others ⊢
        rw [others]
        rfl
    · show (callAll b rest (runAll b layout p).progress).cursor = _
      rw [last', last, Accounted.last_append]

theorem runAll_append (b : Buffer) (first second : List Instruction) (p : Progress) :
    runAll b (first ++ second) p = (runAll b first p).andThen (runAll b second) := by
  induction first generalizing p with
  | nil =>
    rw [List.nil_append, runAll]
    rfl
  | cons i rest ih =>
    rw [List.cons_append, runAll_cons, runAll_cons]
    cases i.run b p with
    | finished q => exact ih q
    | failed e q => rfl

/-- Where a string has its length but not all of its bytes, a run fails in front of the length. -/
theorem runAll_of_cut_string (fits : b.Addressable) (sound : p.Sound b)
    {before rest : List Instruction} {field : String} {type : Scalar} {length : Nat}
    (reached : runAll b before p = .finished q) (width : type.width = .lengthPrefixed)
    (read : b.lengthPrefix q.cursor = .ok length)
    (cut : b.size < q.cursor + lengthWidth + length) :
    runAll b (before ++ .scalar field type :: rest) p =
      .failed (.bufferTooShort (q.cursor + lengthWidth + length) b.size) q := by
  have there : q.Sound b := by
    have orderly := runAll_orderly fits before sound
    rw [reached] at orderly
    exact orderly.sound
  have missing : b.slice (q.cursor + lengthWidth) length =
      .error (.bufferTooShort (q.cursor + lengthWidth + length) b.size) := by
    rcases Buffer.unsigned_cases fits there.within lengthWidth (by decide) with
      ⟨n, within, small, read'⟩ | ⟨-, read'⟩
    · cases read.symm.trans read'
      exact Buffer.slice_of_lt fits within (Nat.lt_trans small (by decide)) cut
    · cases read.symm.trans read'
  rw [runAll_append, reached]
  show runAll b (.scalar field type :: rest) q = _
  rw [runAll_cons, Instruction.run, Progress.readScalar, width]
  simp only [read, Progress.take, missing]
  rfl

/-- A payload has as many bytes as are read of it. -/
theorem consumed_le_of_decodePayload (fits : b.Addressable) {layout : List Instruction}
    {fields : Array DecodedField} {consumed : Nat}
    (decoded : decodePayload layout b = .ok (fields, consumed)) : consumed ≤ b.size := by
  have orderly := runAll_orderly fits layout (Progress.sound_start b)
  rw [decodePayload] at decoded
  cases ended : runAll b layout .start with
  | finished q =>
    rw [ended] at decoded orderly
    cases decoded
    exact orderly.sound.within
  | failed e q =>
    rw [ended] at decoded
    cases decoded

/-- What is read of a payload and what trails behind are the whole payload. -/
theorem inspect_consumed_add_trailing (fits : b.Addressable) {r : Schema.Registry}
    {protocol : String} {method : Nat} {direction : Schema.Direction} {report : Report}
    (inspected : Report.inspect r protocol method direction b = .ok report) :
    report.consumed + report.trailing = b.size := by
  unfold Report.inspect at inspected
  split at inspected
  · cases inspected
  · split at inspected
    · cases inspected
    · simp only [Report.reading] at inspected
      split at inspected
      · cases inspected
      · next fields consumed decoded =>
        cases inspected
        exact Nat.add_sub_of_le (consumed_le_of_decodePayload fits decoded)

/-- What is true of every call of a decoder, whatever has been called before and whether the calls
have finished or failed. No read is out of range, and the cursor stands where the last scalar or
count has ended that was completed. The call goes on from the progress before it, leaves the cursor
within the payload and the fields in front of it, in order, and does not fail for want of an address.
A string with a length but without all of its bytes leaves the cursor in front of the length. In a
report on the payload, the bytes read and those that trail behind are all there are. -/
theorem calls_sound (fits : b.Addressable) (calls : List (List Instruction))
    (layout : List Instruction) :
    (∃ stops, callAllApart b (calls ++ [layout]) .start =
        some (callAll b (calls ++ [layout]) .start, stops) ∧
      (callAll b (calls ++ [layout]) .start).cursor = stops.getLast?.getD 0) ∧
    (runAll b layout (callAll b calls .start)).Orderly b (callAll b calls .start) ∧
    (∀ (before rest : List Instruction) (field : String) (type : Scalar) (q : Progress)
      (length : Nat), layout = before ++ .scalar field type :: rest →
      runAll b before (callAll b calls .start) = .finished q → type.width = .lengthPrefixed →
      b.lengthPrefix q.cursor = .ok length → b.size < q.cursor + lengthWidth + length →
      runAll b layout (callAll b calls .start) =
        .failed (.bufferTooShort (q.cursor + lengthWidth + length) b.size) q) ∧
    (∀ (r : Schema.Registry) (protocol : String) (method : Nat) (direction : Schema.Direction)
      (report : Report), Report.inspect r protocol method direction b = .ok report →
      report.consumed + report.trailing = b.size) := by
  have sound : (callAll b calls .start).Sound b :=
    callAll_sound fits calls (Progress.sound_start b)
  refine ⟨?_, ?_, ?_, ?_⟩
  · exact callAllApart_eq_some b (calls ++ [layout]) .start
  · exact runAll_orderly fits layout sound
  · rintro before rest field type q length rfl reached width read cut
    exact runAll_of_cut_string fits sound reached width read cut
  · intro r protocol method direction report inspected
    exact inspect_consumed_add_trailing fits inspected

/-- A call that fails in a cut string, and a call that reads the length of that string as a number. -/
theorem calls_sound_cut_string :
    Buffer.Addressable #[7, 3, 0, 97] ∧
    runAll #[7, 3, 0, 97] [.scalar "tag" .uint8, .scalar "name" .string] .start =
      .failed (.bufferTooShort 6 4) ⟨1, #[⟨"tag", 0, 1, .unsigned 7⟩]⟩ ∧
    (∃ stops, callAllApart #[7, 3, 0, 97]
        [[.scalar "tag" .uint8, .scalar "name" .string], [.scalar "length" .uint16]] .start =
      some (⟨3, #[⟨"tag", 0, 1, .unsigned 7⟩, ⟨"length", 1, 2, .unsigned 3⟩]⟩, stops) ∧
      stops.getLast?.getD 0 = 3) := by
  have fits : Buffer.Addressable #[7, 3, 0, 97] := by decide
  obtain ⟨-, -, cut, -⟩ :=
    calls_sound fits [] [.scalar "tag" .uint8, .scalar "name" .string]
  obtain ⟨⟨stops, apart, last⟩, -⟩ :=
    calls_sound fits [[.scalar "tag" .uint8, .scalar "name" .string]] [.scalar "length" .uint16]
  refine ⟨fits, ?_, stops, apart, last.symm⟩
  exact cut [.scalar "tag" .uint8] [] "name" .string _ 3 rfl rfl rfl rfl (by decide)

end Dissect.Wire
