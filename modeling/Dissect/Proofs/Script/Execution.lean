import Dissect.Proofs.Script.Rereading
import Dissect.Proofs.Wire.Instruction
import Dissect.Proofs.Wire.Progress
import Dissect.Script.Block

/-!
# Running dissectors

What the commands of a dissector do in the packet analyser: the payload, called with an offset and
a length, gives a range and fails if that runs past the end, `le_uint` reads a range as a
little-endian number, and `add_packet_field` adds a field for a range to a subtree. All of these are
values of variables, the object of a protocol with its fields as well. The bounds of a loop are
evaluated once, before it.

A dissector does what the decoder does (`dissector_agrees_with_decoder`): it is read from its text
and run, and it adds the fields that the decoder reads, in order and at the same places. For this
the variable of the protocol must not be one that the dissector gives values to, and no variable
that scripts are written with is (`protoVar_not_mem_ownVariables`).
-/

set_option autoImplicit false

namespace Dissect.Script.Lua

open Wire (Buffer)

/-- Why a script stops. -/
inductive Fault where
  /-- A range runs past the end of the payload. -/
  | outOfRange
  /-- The script does something that is not described here. -/
  | meaningless
deriving DecidableEq

/-- What a variable holds or an expression stands for. -/
inductive Datum where
  | number (n : Nat)
  /-- The payload. -/
  | payload
  /-- A range of the payload. -/
  | range (offset length : Nat)
  /-- The subtree that fields are added to. -/
  | subtree
  /-- The object of a protocol, by the variable that it was created in. -/
  | protocol (var : String)
  /-- All fields of a protocol. -/
  | fields (var : String)
  /-- A field of a protocol. -/
  | field (var name : String)
deriving DecidableEq

/-- The values of variables. -/
abbrev Store := String → Option Datum

namespace Datum

/-- A number, if it is one. -/
def toNumber : Datum → Except Fault Nat
  | .number n => .ok n
  | _ => .error .meaningless

/-- What a member of a value is: the fields of a protocol, or one of them. -/
def member : Datum → String → Except Fault Datum
  | .protocol var, "fields" => .ok (.fields var)
  | .fields var, name => .ok (.field var name)
  | _, _ => .error .meaningless

/-- The range that a value gives when it is called. -/
def call (b : Buffer) : Datum → Nat → Nat → Except Fault Datum
  | .payload, offset, length =>
    if offset + length ≤ b.size then .ok (.range offset length) else .error .outOfRange
  | _, _, _ => .error .meaningless

/-- A value as a little-endian number. -/
def littleEndian (b : Buffer) : Datum → Except Fault Datum
  | .range offset length =>
    let bytes := (b.toList.drop offset).take length
    .ok (.number (Nat.ofDigits 256 (bytes.map UInt8.toNat)))
  | _ => .error .meaningless

end Datum

/-- What an expression stands for. -/
def Expr.eval (b : Buffer) (s : Store) : Expr → Except Fault Datum
  | .number n => .ok (.number n)
  | .name x =>
    match s x with
    | some d => .ok d
    | none => .error .meaningless
  | .sum left right => do
    let m ← (← left.eval b s).toNumber
    let n ← (← right.eval b s).toNumber
    return .number (m + n)
  | .member e key => do (← e.eval b s).member key
  | .call f [offset, length] => do
    let f ← f.eval b s
    let offset ← (← offset.eval b s).toNumber
    let length ← (← length.eval b s).toNumber
    f.call b offset length
  | .call (.method e "le_uint") [] => do (← e.eval b s).littleEndian b
  | _ => .error .meaningless

/-- A field that has been added to the subtree. -/
structure Addition where
  var : String
  field : String
  offset : Nat
  length : Nat
deriving DecidableEq

/-- What a script changes: its variables, and the fields of the subtree. -/
structure World where
  store : Store
  added : List Addition

/-- How a script ends. Either way what it has added stays. -/
inductive Ending where
  | finished (w : World)
  | stopped (fault : Fault) (w : World)

namespace Ending

/-- What a script leaves. -/
def world : Ending → World
  | .finished w => w
  | .stopped _ w => w

/-- Why a script stopped. -/
def fault? : Ending → Option Fault
  | .finished _ => none
  | .stopped f _ => some f

/-- Goes on unless the script has stopped. -/
def andThen (e : Ending) (next : World → Ending) : Ending :=
  match e with
  | .finished w => next w
  | .stopped f w => .stopped f w

end Ending

/-- The world with a variable changed. -/
def World.set (w : World) (x : String) (value : Option Datum) : World :=
  { w with store := fun y => if y = x then value else w.store y }

/-- Does `body` for `count` values of the loop variable from `first` on. The variable is local to
the loop. -/
def forEach (x : String) (body : World → Ending) : Nat → Nat → World → Ending
  | _, 0, w => .finished w
  | first, count + 1, w =>
    (body (w.set x (some (.number first)))).andThen fun v =>
      forEach x body (first + 1) count (v.set x (w.store x))

mutual

/-- Does a command. -/
def Command.exec (b : Buffer) : Command → World → Ending
  | .assign x e, w =>
    match e.eval b w.store with
    | .ok d => .finished (w.set x (some d))
    | .error f => .stopped f w
  | .perform (.call (.method tree "add_packet_field") [field, range, encoding]), w =>
    match tree.eval b w.store, field.eval b w.store, range.eval b w.store,
        encoding.eval b w.store with
    | .ok .subtree, .ok (.field var name), .ok (.range offset length), .ok (.number _) =>
      .finished { w with added := w.added ++ [⟨var, name, offset, length⟩] }
    | .error f, _, _, _ => .stopped f w
    | _, .error f, _, _ => .stopped f w
    | _, _, .error f, _ => .stopped f w
    | _, _, _, .error f => .stopped f w
    | _, _, _, _ => .stopped .meaningless w
  | .perform _, w => .stopped .meaningless w
  | .loop x first last body, w =>
    match (first.eval b w.store).bind Datum.toNumber, (last.eval b w.store).bind Datum.toNumber with
    | .ok m, .ok n => forEach x (execAll b body) m (n + 1 - m) w
    | .error f, _ => .stopped f w
    | _, .error f => .stopped f w

/-- Does commands in order. -/
def execAll (b : Buffer) : List Command → World → Ending
  | [], w => .finished w
  | c :: rest, w => (c.exec b w).andThen (execAll b rest)

end

theorem execAll_append (b : Buffer) (first second : List Command) (w : World) :
    execAll b (first ++ second) w = (execAll b first w).andThen (execAll b second) := by
  induction first generalizing w with
  | nil => rfl
  | cons c rest ih =>
    rw [List.cons_append, execAll, execAll]
    cases c.exec b w with
    | finished v => exact ih v
    | stopped f v => rfl

/-- Reads a script and runs it. -/
def runText (b : Buffer) (text : String) (w : World) : Option Ending :=
  (script? text).map fun commands => execAll b commands w

end Dissect.Script.Lua

namespace Dissect.Script

open Lua Wire

/-! ## The commands of decode statements -/

section Commands

variable {b : Buffer} {w : World} {offset length : Nat}

theorem eval_range {e : Expr} (payload : w.store "buffer" = some .payload)
    (at_off : w.store "off" = some (.number offset))
    (he : e.eval b w.store = .ok (.number length)) :
    (rangeAtOffset e).eval b w.store =
      if offset + length ≤ b.size then .ok (.range offset length) else .error .outOfRange := by
  simp only [rangeAtOffset, Expr.eval, payload, at_off, he]
  rfl

/-- Moving on. -/
theorem exec_advance (extent : Extent) (at_off : w.store "off" = some (.number offset))
    (he : extent.expr.eval b w.store = .ok (.number length)) :
    execAll b (Statement.advance extent).code w =
      .finished (w.set "off" (some (.number (offset + length)))) := by
  simp only [Statement.code, execAll, Command.exec, Expr.eval, at_off, he]
  rfl

/-- Reading a number into a variable. -/
theorem exec_read (x : String) (payload : w.store "buffer" = some .payload)
    (at_off : w.store "off" = some (.number offset)) :
    execAll b [.assign x (numberAtOffset length)] w =
      if offset + length ≤ b.size then
        .finished (w.set x (some (.number (littleEndian ((b.toList.drop offset).take length)))))
      else .stopped .outOfRange w := by
  have range := eval_range (b := b) (e := .number length) payload at_off rfl
  simp only [execAll, Command.exec, numberAtOffset, Expr.eval, range]
  by_cases within : offset + length ≤ b.size
  · rw [if_pos within, if_pos within, littleEndian_eq_ofDigits]
    rfl
  · rw [if_neg within, if_neg within]
    rfl

/-- Looping as often as the count says. -/
theorem exec_forCount {count : Nat} (hcount : w.store "cnt" = some (.number count))
    (body : List Command) :
    execAll b [.loop "i" (.number 1) (.name "cnt") body] w =
      forEach "i" (execAll b body) 1 count w := by
  have bounds : execAll b [.loop "i" (.number 1) (.name "cnt") body] w =
      (forEach "i" (execAll b body) 1 count w).andThen .finished := by
    simp only [execAll, Command.exec, Expr.eval, hcount]
    rfl
  rw [bounds]
  cases forEach "i" (execAll b body) 1 count w with
  | finished v => rfl
  | stopped f v => rfl

end Commands

/-! ## What is around a dissector -/

/-- The names that encodings are made of. -/
def encodingNames : List String := ["ENC_LITTLE_ENDIAN", "ENC_STRING", "ENC_ASCII"]

/-- The variables that a dissector gives values to while it decodes. -/
def ownVariables : List String := ["off", "sz", "cnt", "i"]

/-- The variables that a dissector finds around it: the object of its protocol, the payload, the
subtree and the encodings. -/
structure Surrounded (var : String) (s : Store) : Prop where
  object : s var = some (.protocol var)
  payload : s "buffer" = some .payload
  subtree : s "subtree" = some .subtree
  encodings : ∀ x ∈ encodingNames, ∃ n, s x = some (.number n)

/-- A protocol has underscores in its variable, and no variable of a dissector has. -/
theorem protoVar_not_mem_ownVariables (space protocol : String) :
    protoVar space protocol ∉ ownVariables := by
  have underscore : '_' ∈ (protoVar space protocol).toList := by
    simp [protoVar, toString]
  have plain : ∀ x ∈ ownVariables, '_' ∉ x.toList := by decide
  exact fun own => plain _ own underscore

namespace Surrounded

variable {var : String} {w : World}

/-- A dissector leaves the variables around it as they are, that of its protocol unless it is one of
its own. -/
theorem set_own (h : Surrounded var w.store) (apart : var ∉ ownVariables) {x : String}
    (own : x ∈ ownVariables) (value : Option Datum) : Surrounded var (w.set x value).store := by
  have fixed : ∀ x ∈ ownVariables, x ∉ "buffer" :: "subtree" :: encodingNames := by decide
  have keeps {y : String} (mem : y ∈ "buffer" :: "subtree" :: encodingNames) :
      (w.set x value).store y = w.store y := if_neg fun same : y = x => fixed x own (same ▸ mem)
  constructor
  · rw [← h.object]
    exact if_neg fun same : var = x => apart (same ▸ own)
  · rw [keeps (by decide), h.payload]
  · rw [keeps (by decide), h.subtree]
  · intro y mem
    rw [keeps (List.mem_cons_of_mem _ (List.mem_cons_of_mem _ mem))]
    exact h.encodings y mem

/-- Every encoding in use is a number. -/
theorem eval_encoding (h : Surrounded var w.store) (b : Buffer) {encoding : String}
    (henc : encoding = numberEncoding ∨ encoding = textEncoding) :
    ∃ n, (encodingExpr encoding).eval b w.store = .ok (.number n) := by
  rcases henc with rfl | rfl
  · obtain ⟨n, hn⟩ := h.encodings "ENC_LITTLE_ENDIAN" (by decide)
    refine ⟨n, ?_⟩
    show Expr.eval b w.store (.name "ENC_LITTLE_ENDIAN") = _
    rw [Expr.eval, hn]
  · obtain ⟨m, hm⟩ := h.encodings "ENC_STRING" (by decide)
    obtain ⟨n, hn⟩ := h.encodings "ENC_ASCII" (by decide)
    refine ⟨m + n, ?_⟩
    show Expr.eval b w.store (.sum (.name "ENC_STRING") (.name "ENC_ASCII")) = _
    simp only [Expr.eval, hm, hn]
    rfl

/-- The variable of a protocol leads to its fields. -/
theorem eval_field (h : Surrounded var w.store) (b : Buffer) (field : String) :
    (fieldOf var field).eval b w.store = .ok (.field var field) := by
  simp only [fieldOf, Expr.eval, h.object]
  rfl

/-- Adding a field. -/
theorem exec_addField (h : Surrounded var w.store) {b : Buffer} (field : String)
    {encoding : String} {extent : Extent} {offset length : Nat}
    (at_off : w.store "off" = some (.number offset))
    (he : extent.expr.eval b w.store = .ok (.number length))
    (henc : encoding = numberEncoding ∨ encoding = textEncoding) :
    execAll b (Statement.addField var field extent encoding).code w =
      if offset + length ≤ b.size then
        .finished { w with added := w.added ++ [⟨var, field, offset, length⟩] }
      else .stopped .outOfRange w := by
  obtain ⟨n, code⟩ := h.eval_encoding b henc
  have range := eval_range h.payload at_off he
  have tree : Expr.eval b w.store (.name "subtree") = .ok .subtree := by
    rw [Expr.eval, h.subtree]
  simp only [Statement.code, execAll, Command.exec, tree, h.eval_field, range, code]
  by_cases within : offset + length ≤ b.size
  · rw [if_pos within, if_pos within]
    rfl
  · rw [if_neg within, if_neg within]
    rfl

end Surrounded

/-! ## Scripts and decoder in step -/

/-- The addition that shows a field read by the decoder. -/
def Addition.ofField (var : String) (f : DecodedField) : Addition :=
  ⟨var, f.field, f.offset, f.length⟩

/-- The script has come as far as the decoder. -/
structure Matches (var : String) (w : World) (p : Progress) : Prop where
  offset : w.store "off" = some (.number p.cursor)
  apart : var ∉ ownVariables
  around : Surrounded var w.store
  added : w.added = p.fields.toList.map (Addition.ofField var)

/-- Script and decoder end alike. -/
def Agrees (var : String) : Ending → Outcome → Prop
  | .finished w, .finished p => Matches var w p
  | .stopped fault w, .failed error p =>
    fault = .outOfRange ∧ (∃ required available, error = .bufferTooShort required available) ∧
      w.added = p.fields.toList.map (Addition.ofField var)
  | _, _ => False

/-- What agrees goes on in agreement. -/
theorem Agrees.andThen {var : String} {e : Ending} {o : Outcome} {f : World → Ending}
    {g : Progress → Outcome} (h : Agrees var e o)
    (next : ∀ w p, o = .finished p → Matches var w p → Agrees var (f w) (g p)) :
    Agrees var (e.andThen f) (o.andThen g) := by
  cases e with
  | finished w =>
    cases o with
    | finished p => exact next w p rfl h
    | failed error p => exact h.elim
  | stopped fault w =>
    cases o with
    | finished p => exact h.elim
    | failed error p => exact h

namespace Matches

variable {var : String} {w : World} {p : Progress}

/-- Variables of the dissector other than the offset do not matter. -/
theorem set_other (h : Matches var w p) {x : String} (value : Option Datum)
    (own : x ∈ ownVariables) (other : x ≠ "off") : Matches var (w.set x value) p where
  offset := by
    rw [← h.offset]
    exact if_neg (Ne.symm other)
  apart := h.apart
  around := h.around.set_own h.apart own value
  added := h.added

/-- Moving the offset and the cursor. -/
theorem move (h : Matches var w p) (n : Nat) :
    Matches var (w.set "off" (some (.number n))) { p with cursor := n } where
  offset := rfl
  apart := h.apart
  around := h.around.set_own h.apart (by decide) _
  added := h.added

end Matches

/-- Reading a number and moving past it. -/
theorem exec_prefix {b : Buffer} {var x : String} {w : World} {p : Progress}
    (h : Matches var w p) (own : x ∈ ownVariables) (other : x ≠ "off") (n : Nat) :
    execAll b [.assign x (numberAtOffset n), .assign "off" (.sum (.name "off") (.number n))] w =
      if p.cursor + n ≤ b.size then
        .finished ((w.set x (some (.number (littleEndian ((b.toList.drop p.cursor).take n))))).set
          "off" (some (.number (p.cursor + n))))
      else .stopped .outOfRange w := by
  rw [← List.singleton_append, execAll_append, exec_read x h.around.payload h.offset]
  by_cases within : p.cursor + n ≤ b.size
  · rw [if_pos within, if_pos within]
    exact exec_advance (.bytes n) (h.set_other _ own other).offset rfl
  · rw [if_neg within, if_neg within]
    rfl

theorem encoding?_cases {type : Scalar} {encoding : String} (h : encoding? type = some encoding) :
    encoding = numberEncoding ∨ encoding = textEncoding := by
  cases type <;> cases h <;> decide

theorem encoding?_eq_none_iff (type : Scalar) :
    encoding? type = none ↔ type.width = .unwrapped := by
  cases type <;> decide

/-- Adding a field for the bytes at the offset and moving past them is what the decoder does when
it takes them. -/
theorem take_agrees {b : Buffer} (fits : b.Addressable) {var : String} (field : String)
    {encoding : String} (type : Scalar) {extent : Extent} {length : Nat} {w : World}
    {p q : Progress} (h : Matches var w q) (fields : q.fields = p.fields)
    (start : q.cursor ≤ b.size) (short : length < Nat.pow 2 63)
    (he : extent.expr.eval b w.store = .ok (.number length))
    (henc : encoding = numberEncoding ∨ encoding = textEncoding) :
    Agrees var (execAll b (codeAll [.addField var field extent encoding, .advance extent]) w)
      (p.take b field type q.cursor length) := by
  rw [codeAll, execAll_append, h.around.exec_addField field h.offset he henc, Progress.take]
  by_cases within : q.cursor + length ≤ b.size
  · -- both record the field and move on
    rw [if_pos within, Buffer.slice_of_le fits within]
    let added : World := { w with added := w.added ++ [⟨var, field, q.cursor, length⟩] }
    have advances : execAll b (codeAll [.advance extent]) added =
        .finished (added.set "off" (some (.number (q.cursor + length)))) := by
      rw [codeAll, codeAll, List.append_nil]
      exact exec_advance extent h.offset he
    show Agrees var (execAll b (codeAll [.advance extent]) added) _
    rw [advances]
    refine ⟨rfl, h.apart, (h.move _).around, ?_⟩
    show w.added ++ _ = _
    rw [h.added, fields, Array.toList_push, List.map_append]
    rfl
  · -- both stop, with what they had
    rw [if_neg within, Buffer.slice_of_lt fits start short (by omega)]
    refine ⟨rfl, ⟨_, _, rfl⟩, ?_⟩
    rw [← fields]
    exact h.added

/-- The commands of a scalar do what the decoder does. -/
theorem readScalar_agrees {b : Buffer} (fits : b.Addressable) {var : String} (field : String)
    (type : Scalar) {w : World} {p : Progress} (h : Matches var w p) (start : p.cursor ≤ b.size) :
    Agrees var (execAll b (codeAll (scalarStatements var field type)) w)
      (p.readScalar b field type) := by
  rw [scalarStatements, Progress.readScalar]
  cases henc : encoding? type with
  | none =>
    rw [(encoding?_eq_none_iff type).1 henc]
    exact h
  | some encoding =>
    have known := encoding?_cases henc
    cases hw : type.width with
    | unwrapped =>
      rw [(encoding?_eq_none_iff type).2 hw] at henc
      cases henc
    | fixed n =>
      have size := Scalar.width_fixed_bounds hw
      have short : n < Nat.pow 2 63 := Nat.lt_of_le_of_lt size.2 (by decide)
      exact take_agrees fits field type h rfl start short rfl known
    | lengthPrefixed =>
      -- the length is read first, and what follows is a value of that many bytes
      have split : codeAll [.readSize, .advance (.bytes lengthWidth),
          .addField var field .size encoding, .advance .size] =
          [.assign "sz" (numberAtOffset lengthWidth),
            .assign "off" (.sum (.name "off") (.number lengthWidth))] ++
            codeAll [.addField var field .size encoding, .advance .size] := rfl
      rw [split, execAll_append, exec_prefix h (by decide) (by decide)]
      by_cases within : p.cursor + lengthWidth ≤ b.size
      · rw [if_pos within, Buffer.lengthPrefix, Buffer.unsigned_of_le fits within]
        have bound := littleEndian_lt ((b.toList.drop p.cursor).take lengthWidth)
        have short : littleEndian ((b.toList.drop p.cursor).take lengthWidth) < Nat.pow 2 63 := by
          refine Nat.lt_of_lt_of_le bound (Nat.le_trans ?_ (by decide : 256 ^ 2 ≤ Nat.pow 2 63))
          refine Nat.pow_le_pow_right (by decide) ?_
          rw [List.length_take]
          exact Nat.min_le_left ..
        exact take_agrees fits field type ((h.set_other _ (by decide) (by decide)).move _) rfl
          within short rfl known
      · rw [if_neg within, Buffer.lengthPrefix,
          Buffer.unsigned_of_lt fits start (by decide) (Nat.lt_of_not_le within)]
        exact ⟨rfl, ⟨_, _, rfl⟩, h.added⟩

/-- A loop does what repeated passes of the decoder do, if its body does what a pass does. -/
theorem forEach_agrees {b : Buffer} {var x : String} {body : World → Ending}
    {pass : Progress → Outcome} (own : x ∈ ownVariables) (other : x ≠ "off")
    (within : ∀ p q, pass p = .finished q → p.cursor ≤ b.size → q.cursor ≤ b.size)
    (sim : ∀ w p, p.cursor ≤ b.size → Matches var w p → Agrees var (body w) (pass p)) :
    ∀ (count first : Nat) (w : World) (p : Progress), p.cursor ≤ b.size → Matches var w p →
      Agrees var (forEach x body first count w) (repeated pass count p)
  | 0, _, w, p, _, h => h
  | count + 1, first, w, p, start, h => by
    rw [forEach, repeated]
    -- the loop variable is set before the body and restored behind it; neither matters
    refine (sim _ p start (h.set_other (some (.number first)) own other)).andThen ?_
    intro v q hq hv
    exact forEach_agrees own other within sim count (first + 1) _ q (within p q hq start)
      (hv.set_other _ own other)

mutual

/-- The commands of an instruction do what the decoder does. -/
theorem run_agrees {b : Buffer} (fits : b.Addressable) (var : String) : ∀ (i : Instruction),
    i.placeholders = [] → ∀ (w : World) (p : Progress), p.cursor ≤ b.size → Matches var w p →
      Agrees var (execAll b (codeAll (instructionStatements var i)) w) (i.run b p)
  | .scalar field type, _, w, p, start, h => by
    rw [instructionStatements, Instruction.run]
    exact readScalar_agrees fits field type h start
  | .counted body, resolved, w, p, start, h => by
    rw [Instruction.placeholders] at resolved
    have split : codeAll [.readCount, .advance (.bytes countWidth),
        .forCount (decodeStatements var body)] =
        [.assign "cnt" (numberAtOffset countWidth),
          .assign "off" (.sum (.name "off") (.number countWidth))] ++
          [.loop "i" (.number 1) (.name "cnt") (codeAll (decodeStatements var body))] := rfl
    rw [instructionStatements, split, execAll_append, exec_prefix h (by decide) (by decide)]
    by_cases within : p.cursor + countWidth ≤ b.size
    · have read := Buffer.unsigned_of_le fits within
      rw [if_pos within, run_counted_eq_repeated body p read]
      generalize littleEndian ((b.toList.drop p.cursor).take countWidth) = count
      -- the script loops as often as the count just read says, the decoder makes as many passes
      let v := (w.set "cnt" (some (.number count))).set "off"
        (some (.number (p.cursor + countWidth)))
      have counted : Matches var v { p with cursor := p.cursor + countWidth } :=
        (h.set_other (some (.number count)) (by decide) (by decide)).move _
      have inside : ∀ q r, runAll b body q = .finished r → q.cursor ≤ b.size →
          r.cursor ≤ b.size := fun q r hr => (runAll_reaches body q r hr).within
      have loops := exec_forCount (b := b) (w := v) rfl
        (codeAll (decodeStatements var body))
      show Agrees var (execAll b [.loop "i" (.number 1) (.name "cnt")
        (codeAll (decodeStatements var body))] v) _
      rw [loops]
      exact forEach_agrees (by decide) (by decide) inside (runAll_agrees fits var body resolved)
        count 1 v _ within counted
    · rw [if_neg within, Instruction.run, Buffer.countPrefix,
        Buffer.unsigned_of_lt fits start (by decide) (Nat.lt_of_not_le within)]
      exact ⟨rfl, ⟨_, _, rfl⟩, h.added⟩
  | .unresolved field reason, resolved, _, _, _, _ => by
    rw [Instruction.placeholders] at resolved
    cases resolved

/-- The commands of instructions do what the decoder does. -/
theorem runAll_agrees {b : Buffer} (fits : b.Addressable) (var : String) :
    ∀ (layout : List Instruction), allPlaceholders layout = [] →
      ∀ (w : World) (p : Progress), p.cursor ≤ b.size → Matches var w p →
        Agrees var (execAll b (codeAll (decodeStatements var layout)) w) (runAll b layout p)
  | [], _, w, p, _, h => by
    rw [decodeStatements, runAll]
    exact h
  | i :: rest, resolved, w, p, start, h => by
    rw [allPlaceholders, List.append_eq_nil_iff] at resolved
    rw [decodeStatements, codeAll_append, execAll_append, runAll_cons]
    refine (run_agrees fits var i resolved.1 w p start h).andThen ?_
    intro v q hq hv
    exact runAll_agrees fits var rest resolved.2 v q ((run_reaches i p q hq).within start) hv

end

theorem scalarStatements_readable {var field : String} (hvar : isName var = true)
    (hfield : isName field = true) (type : Scalar) :
    ∀ s ∈ scalarStatements var field type, s.Readable := by
  rw [scalarStatements]
  cases henc : encoding? type with
  | none => simp
  | some encoding =>
    have known := encoding?_cases henc
    cases type.width with
    | unwrapped => simp
    | fixed n =>
      rintro s (_ | ⟨_, _ | ⟨_, ⟨⟩⟩⟩)
      · exact .addField (.bytes n) hvar hfield known
      · exact .advance (.bytes n)
    | lengthPrefixed =>
      rintro s (_ | ⟨_, _ | ⟨_, _ | ⟨_, _ | ⟨_, ⟨⟩⟩⟩⟩⟩)
      · exact .readSize
      · exact .advance (.bytes lengthWidth)
      · exact .addField .size hvar hfield known
      · exact .advance .size

mutual

theorem instructionStatements_readable {var : String} (hvar : isName var = true) :
    ∀ (i : Instruction), i.placeholders = [] → (∀ f ∈ i.scalars, isName f.1 = true) →
      ∀ s ∈ instructionStatements var i, s.Readable
  | .scalar field type, _, names => by
    rw [instructionStatements]
    exact scalarStatements_readable hvar (names (field, type) (by simp [Instruction.scalars])) type
  | .counted body, resolved, names => by
    rw [Instruction.placeholders] at resolved
    rw [Instruction.scalars] at names
    rw [instructionStatements]
    rintro s (_ | ⟨_, _ | ⟨_, _ | ⟨_, ⟨⟩⟩⟩⟩)
    · exact .readCount
    · exact .advance (.bytes countWidth)
    · exact .forCount (decodeStatements_readable hvar body resolved names)
  | .unresolved field reason, resolved, _ => by
    rw [Instruction.placeholders] at resolved
    cases resolved

theorem decodeStatements_readable {var : String} (hvar : isName var = true) :
    ∀ (layout : List Instruction), allPlaceholders layout = [] →
      (∀ f ∈ allScalars layout, isName f.1 = true) →
        ∀ s ∈ decodeStatements var layout, s.Readable
  | [], _, _ => by simp [decodeStatements]
  | i :: rest, resolved, names => by
    rw [allPlaceholders, List.append_eq_nil_iff] at resolved
    rw [allScalars] at names
    rw [decodeStatements]
    intro s mem
    rcases List.mem_append.1 mem with mem | mem
    · refine instructionStatements_readable hvar i resolved.1 ?_ s mem
      exact fun f hf => names f (List.mem_append_left _ hf)
    · refine decodeStatements_readable hvar rest resolved.2 ?_ s mem
      exact fun f hf => names f (List.mem_append_right _ hf)

end

/-- **A dissector does what the decoder does.** The text written for a layout without placeholders
is a script. Run from offset 0, with the object of the protocol in a variable that is none of its
own, it adds the fields that the decoder reads, in the same order and for the same bytes. It stops
only at a range past the end of the payload, and that exactly when the decoder finds the payload too
short; otherwise it ends at the place the decoder reaches. -/
theorem dissector_agrees_with_decoder (var : String) (layout : List Instruction) (b : Buffer)
    (level : Nat) (store : Store) (fits : b.Addressable) (resolved : allPlaceholders layout = [])
    (hvar : isName var = true) (hfields : ∀ f ∈ allScalars layout, isName f.1 = true)
    (apart : var ∉ ownVariables) (around : Surrounded var store)
    (start : store "off" = some (.number 0)) :
    ∃ ending, runText b (writeAll (decodeStatements var layout) ⟨level, #[]⟩).text ⟨store, []⟩ =
        some ending ∧
      ending.world.added =
        (runAll b layout .start).progress.fields.toList.map (Addition.ofField var) ∧
      ((runAll b layout .start).error? = none ↔ ending.fault? = none) ∧
      ((runAll b layout .start).error? = none →
        ending.world.store "off" = some (.number (runAll b layout .start).progress.cursor)) ∧
      (ending.fault? = some .outOfRange ↔ ∃ required available,
        (runAll b layout .start).error? = some (.bufferTooShort required available)) ∧
      ending.fault? ≠ some .meaningless := by
  have readable := decodeStatements_readable hvar layout resolved hfields
  have begins : Matches var ⟨store, []⟩ Progress.start := ⟨start, apart, around, rfl⟩
  have agrees := runAll_agrees fits var layout resolved ⟨store, []⟩ .start (Nat.zero_le _) begins
  refine ⟨execAll b (codeAll (decodeStatements var layout)) ⟨store, []⟩, ?_, ?_⟩
  · rw [runText, script?_writeAll readable level]
    rfl
  · revert agrees
    cases execAll b (codeAll (decodeStatements var layout)) ⟨store, []⟩ with
    | finished w =>
      cases runAll b layout .start with
      | finished p =>
        intro agrees
        refine ⟨agrees.added, ?_, fun _ => agrees.offset, ?_, nofun⟩
        · simp [Ending.fault?, Outcome.error?]
        · simp [Ending.fault?, Outcome.error?]
      | failed error p => exact fun agrees => agrees.elim
    | stopped fault w =>
      cases runAll b layout .start with
      | finished p => exact fun agrees => agrees.elim
      | failed error p =>
        rintro ⟨rfl, ⟨required, available, rfl⟩, added⟩
        refine ⟨added, ?_, nofun, ?_, nofun⟩
        · simp [Ending.fault?, Outcome.error?]
        · simp [Ending.fault?, Outcome.error?]

namespace Truncated

/-- The variables around the dissector of a protocol, and the offset at the first byte. -/
def store : Store := fun x =>
  if x = "game_chat" then some (.protocol "game_chat")
  else if x = "buffer" then some .payload
  else if x = "subtree" then some .subtree
  else some (.number 0)

/-- A string, then pairs. -/
def layout : List Instruction :=
  [.scalar "m_s" .string, .counted [.scalar "m_k" .uint8, .scalar "m_v" .variant]]

/-- Of two pairs the second is cut off. -/
theorem dissector_agrees_with_decoder_truncated :
    isName "game_chat" = true ∧ "game_chat" ∉ ownVariables ∧ Surrounded "game_chat" store ∧
    ∃ ending, runText #[1, 0, 65, 2, 0, 0, 0, 7]
        (writeAll (decodeStatements "game_chat" layout) ⟨2, #[]⟩).text ⟨store, []⟩ = some ending ∧
      ending.world.added = [⟨"game_chat", "m_s", 2, 1⟩, ⟨"game_chat", "m_k", 7, 1⟩] ∧
      ending.fault? = some .outOfRange := by
  have name : isName "game_chat" = true := by decide
  have apart : "game_chat" ∉ ownVariables := protoVar_not_mem_ownVariables "Game" "Chat"
  have around : Surrounded "game_chat" store := by
    refine ⟨rfl, rfl, rfl, fun x mem => ⟨0, ?_⟩⟩
    revert x
    decide
  refine ⟨name, apart, around, ?_⟩
  obtain ⟨ending, run, added, -, -, stops, -⟩ := dissector_agrees_with_decoder "game_chat" layout
    #[1, 0, 65, 2, 0, 0, 0, 7] 2 store (by decide) rfl name (by decide) apart around rfl
  refine ⟨ending, run, added, stops.2 ⟨9, 8, ?_⟩⟩
  rfl

end Truncated

end Dissect.Script
