import Dissect.Proofs.Wire.Progress

/-!
# The wire grammar

What instructions have on the wire, as data: `Instance layout` holds the bytes of every scalar and
the elements of every sequence, of the lengths and in the numbers that the wire can express. An
instance has an encoding and lists the fields that it holds. No encoding of an instance begins
another (`Instance.encode_append_inj`), and the decoder accepts exactly the payloads that begin
with the encoding of an instance and returns its fields
(`decodePayload_eq_ok_iff_encodes`).
-/

set_option autoImplicit false

namespace Dissect.Wire

/-- The value that the bytes of a scalar stand for: a number in base 256 with or without a sign in
two's complement, the bits of a double, a truth value that is false if all bytes are zero, text up
to the first zero byte, or the bytes themselves. -/
def Scalar.meaning (s : Scalar) (bytes : List UInt8) : Value :=
  let number := Nat.ofDigits 256 (bytes.map UInt8.toNat)
  match s with
  | .bool => .bool (bytes.any fun byte => byte ≠ 0)
  | .byte | .uint8 | .uint16 | .uint32 | .uint64 => .unsigned number
  | .int8 | .int16 | .int32 | .int64 => .signed (BitVec.ofNat (8 * bytes.length) number).toInt
  | .double => .double (UInt64.ofNat number)
  | .dateTime => .dateTime number
  | .qresult => .result number
  | .string | .stationUrl => .text (Text.Utf8.read (bytes.takeWhile (· ≠ 0)))
  | .buffer | .variant => .bytes bytes

mutual

/-- What an instruction has on the wire. A placeholder has nothing that it could have. -/
inductive Item : Instruction → Type
  | fixed {field : String} {type : Scalar} (bytes : List UInt8)
      (width : type.width = .fixed bytes.length) : Item (.scalar field type)
  | lengthPrefixed {field : String} {type : Scalar} (bytes : List UInt8)
      (width : type.width = .lengthPrefixed) (short : bytes.length ≤ 0xffff) :
      Item (.scalar field type)
  | unwrapped {field : String} {type : Scalar} (width : type.width = .unwrapped) :
      Item (.scalar field type)
  | counted {body : List Instruction} (count : Nat) (elements : Elements body count)
      (few : count ≤ 0xffffffff) : Item (.counted body)

/-- What instructions have on the wire. -/
inductive Instance : List Instruction → Type
  | nil : Instance []
  | cons {i : Instruction} {rest : List Instruction} (item : Item i) (others : Instance rest) :
      Instance (i :: rest)

/-- The elements of a sequence. -/
inductive Elements : List Instruction → Nat → Type
  | nil {body : List Instruction} : Elements body 0
  | cons {body : List Instruction} {count : Nat} (element : Instance body)
      (others : Elements body count) : Elements body (count + 1)

end

mutual

/-- The bytes of an item: a string follows its length, a sequence its count. -/
def Item.encode : {i : Instruction} → Item i → List UInt8
  | _, .fixed bytes _ => bytes
  | _, .lengthPrefixed bytes _ _ => spell 2 bytes.length ++ bytes
  | _, .unwrapped _ => []
  | _, .counted count elements _ => spell 4 count ++ elements.encode

def Instance.encode : {layout : List Instruction} → Instance layout → List UInt8
  | _, .nil => []
  | _, .cons item others => item.encode ++ others.encode

def Elements.encode : {body : List Instruction} → {n : Nat} → Elements body n → List UInt8
  | _, _, .nil => []
  | _, _, .cons element others => element.encode ++ others.encode

end

mutual

/-- The fields of an item that stands at an offset, each with the place of its own bytes. -/
def Item.fields : {i : Instruction} → Item i → Nat → List DecodedField
  | .scalar field type, .fixed bytes _, offset =>
    [⟨field, offset, bytes.length, type.meaning bytes⟩]
  | .scalar field type, .lengthPrefixed bytes _ _, offset =>
    [⟨field, offset + 2, bytes.length, type.meaning bytes⟩]
  | _, .unwrapped _, _ => []
  | _, .counted _ elements _, offset => elements.fields (offset + 4)

def Instance.fields : {layout : List Instruction} → Instance layout → Nat → List DecodedField
  | _, .nil, _ => []
  | _, .cons item others, offset =>
    item.fields offset ++ others.fields (offset + item.encode.length)

def Elements.fields : {body : List Instruction} → {n : Nat} → Elements body n → Nat →
    List DecodedField
  | _, _, .nil, _ => []
  | _, _, .cons element others, offset =>
    element.fields offset ++ others.fields (offset + element.encode.length)

end

/-! ## Encodings are told apart -/

mutual

/-- An item and the place where it ends are determined by the bytes. -/
theorem Item.encode_append_inj {i : Instruction} (x y : Item i) {r s : List UInt8}
    (same : x.encode ++ r = y.encode ++ s) : x = y ∧ r = s :=
  match x, y with
  | .fixed bytes width, .fixed bytes' width' => by
    have lengths := Width.fixed.inj (width.symm.trans width')
    obtain ⟨rfl, rfl⟩ := List.append_inj same lengths
    exact ⟨rfl, rfl⟩
  | .lengthPrefixed bytes _ short, .lengthPrefixed bytes' _ short' => by
    simp only [Item.encode, List.append_assoc] at same
    obtain ⟨lengths, same'⟩ := spell_append_inj (Nat.lt_succ_of_le short)
      (Nat.lt_succ_of_le short') same
    obtain ⟨rfl, rfl⟩ := List.append_inj same' lengths
    exact ⟨rfl, rfl⟩
  | .unwrapped _, .unwrapped _ => ⟨rfl, same⟩
  | .counted count elements few, .counted count' elements' few' => by
    simp only [Item.encode, List.append_assoc] at same
    obtain ⟨rfl, same'⟩ := spell_append_inj (Nat.lt_succ_of_le few) (Nat.lt_succ_of_le few') same
    obtain ⟨rfl, rfl⟩ := elements.encode_append_inj elements' same'
    exact ⟨rfl, rfl⟩
  | .fixed _ width, .lengthPrefixed _ width' _ => by cases width.symm.trans width'
  | .fixed _ width, .unwrapped width' => by cases width.symm.trans width'
  | .lengthPrefixed _ width _, .fixed _ width' => by cases width.symm.trans width'
  | .lengthPrefixed _ width _, .unwrapped width' => by cases width.symm.trans width'
  | .unwrapped width, .fixed _ width' => by cases width.symm.trans width'
  | .unwrapped width, .lengthPrefixed _ width' _ => by cases width.symm.trans width'

theorem Instance.encode_append_inj {layout : List Instruction} (x y : Instance layout)
    {r s : List UInt8} (same : x.encode ++ r = y.encode ++ s) : x = y ∧ r = s :=
  match x, y with
  | .nil, .nil => ⟨rfl, same⟩
  | .cons item others, .cons item' others' => by
    simp only [Instance.encode, List.append_assoc] at same
    obtain ⟨rfl, same'⟩ := item.encode_append_inj item' same
    obtain ⟨rfl, rfl⟩ := others.encode_append_inj others' same'
    exact ⟨rfl, rfl⟩

theorem Elements.encode_append_inj {body : List Instruction} {count : Nat}
    (x y : Elements body count) {r s : List UInt8}
    (same : x.encode ++ r = y.encode ++ s) : x = y ∧ r = s :=
  match x, y with
  | .nil, .nil => ⟨rfl, same⟩
  | .cons element others, .cons element' others' => by
    simp only [Elements.encode, List.append_assoc] at same
    obtain ⟨rfl, same'⟩ := element.encode_append_inj element' same
    obtain ⟨rfl, rfl⟩ := others.encode_append_inj others' same'
    exact ⟨rfl, rfl⟩

end

/-! ## Values -/

/-- Bytes spell zero if all of them are zero. -/
theorem littleEndian_eq_zero_iff (bytes : List UInt8) :
    littleEndian bytes = 0 ↔ ∀ byte ∈ bytes, byte = 0 := by
  induction bytes with
  | nil => simp [littleEndian]
  | cons byte rest ih =>
    have zero : byte.toNat = 0 ↔ byte = 0 := by simp [← UInt8.toNat_inj]
    rw [littleEndian, List.forall_mem_cons, ← ih, ← zero]
    omega

/-- Two's complement is the signed reading of as many bits. -/
theorem twosComplement_eq_toInt {bytes n : Nat} (small : n < 256 ^ bytes) :
    twosComplement bytes n = (BitVec.ofNat (8 * bytes) n).toInt := by
  have base : 2 ^ (8 * bytes) = 256 ^ bytes := by rw [Nat.pow_mul]
  have number : (BitVec.ofNat (8 * bytes) n).toNat = n := by
    rw [BitVec.toNat_ofNat, base, Nat.mod_eq_of_lt small]
  rw [BitVec.toInt_eq_toNat_cond, number, base]
  rfl

/-- The decoder reads the value that the bytes stand for. -/
theorem Scalar.value_eq_meaning (type : Scalar) (bytes : List UInt8) :
    type.value bytes = type.meaning bytes := by
  have number := littleEndian_eq_ofDigits bytes
  cases type with
  | bool =>
    have zero := littleEndian_eq_zero_iff bytes
    simp only [Scalar.value, Scalar.meaning, Value.bool.injEq]
    rw [Bool.eq_iff_iff, decide_eq_true_iff, ne_eq, zero]
    simp
  | int8 | int16 | int32 | int64 =>
    have complement := twosComplement_eq_toInt (littleEndian_lt bytes)
    rw [number] at complement
    simp only [Scalar.value, Scalar.meaning, number, complement]
  | _ => simp only [Scalar.value, Scalar.meaning, number, textOf]

/-! ## Running over an encoding -/

/-- The progress behind bytes that hold the given fields. -/
def Progress.past (p : Progress) (bytes : List UInt8) (fields : List DecodedField) : Progress :=
  ⟨p.cursor + bytes.length, p.fields ++ fields.toArray⟩

@[simp] theorem Progress.past_nil (p : Progress) : p.past [] [] = p := by simp [past]

@[simp] theorem Progress.past_past (p : Progress) (x y : List UInt8) (f g : List DecodedField) :
    (p.past x f).past y g = p.past (x ++ y) (f ++ g) := by
  simp [past, Nat.add_assoc]

section Runs

variable {b : Buffer}

/-- The value of a scalar is taken where its bytes stand. -/
theorem take_eq_finished (fits : b.Addressable) (p : Progress) (field : String) (type : Scalar)
    {offset : Nat} {bytes : List UInt8} (here : b.HasAt offset bytes) :
    p.take b field type offset bytes.length =
      .finished ⟨offset + bytes.length,
        p.fields.push ⟨field, offset, bytes.length, type.meaning bytes⟩⟩ := by
  rw [Progress.take, (Buffer.slice_eq_ok_iff_hasAt fits).2 ⟨here, rfl⟩, ← type.value_eq_meaning]

mutual

/-- An instruction reads the item that stands at the cursor. -/
theorem Item.run_eq_finished (fits : b.Addressable) {i : Instruction} (x : Item i) (p : Progress)
    (here : b.HasAt p.cursor x.encode) :
    i.run b p = .finished (p.past x.encode (x.fields p.cursor)) :=
  match i, x with
  | .scalar field type, .fixed bytes width => by
    rw [Instruction.run, Progress.readScalar, width]
    exact take_eq_finished fits p field type here
  | .scalar field type, .lengthPrefixed bytes width short => by
    obtain ⟨length, string⟩ := Buffer.hasAt_append_iff.1 here
    have read : b.lengthPrefix p.cursor = .ok bytes.length :=
      (Buffer.unsigned_eq_ok_iff_hasAt fits).2 ⟨Nat.lt_succ_of_le short, length⟩
    rw [length_spell] at string
    rw [Instruction.run, Progress.readScalar, width]
    simp only [read]
    rw [lengthWidth, take_eq_finished fits p field type string]
    simp [Progress.past, Item.encode, Item.fields, Nat.add_assoc]
  | .scalar field type, .unwrapped width => by
    rw [Instruction.run, Progress.readScalar, width]
    simp [Item.encode, Item.fields]
  | .counted body, .counted count elements few => by
    obtain ⟨number, others⟩ := Buffer.hasAt_append_iff.1 here
    have read : b.countPrefix p.cursor = .ok count :=
      (Buffer.unsigned_eq_ok_iff_hasAt fits).2 ⟨Nat.lt_succ_of_le few, number⟩
    rw [length_spell] at others
    rw [run_counted_eq_repeated body p read,
      elements.run_eq_finished fits { p with cursor := p.cursor + countWidth } others]
    simp [Progress.past, Item.encode, Item.fields, countWidth, Nat.add_assoc]

theorem Instance.run_eq_finished (fits : b.Addressable) {layout : List Instruction}
    (x : Instance layout) (p : Progress) (here : b.HasAt p.cursor x.encode) :
    runAll b layout p = .finished (p.past x.encode (x.fields p.cursor)) :=
  match layout, x with
  | [], .nil => by simp [runAll, Instance.encode, Instance.fields]
  | _ :: _, .cons item others => by
    obtain ⟨first, second⟩ := Buffer.hasAt_append_iff.1 here
    rw [runAll_cons, item.run_eq_finished fits p first]
    simp only [Outcome.andThen]
    rw [others.run_eq_finished fits _ second, Progress.past_past]
    rfl

/-- The body of a sequence, run as often as the count says, reads the elements. -/
theorem Elements.run_eq_finished (fits : b.Addressable) {body : List Instruction} {count : Nat}
    (x : Elements body count) (p : Progress) (here : b.HasAt p.cursor x.encode) :
    repeated (runAll b body) count p = .finished (p.past x.encode (x.fields p.cursor)) :=
  match count, x with
  | 0, .nil => by simp [repeated, Elements.encode, Elements.fields]
  | count + 1, .cons element others => by
    obtain ⟨first, second⟩ := Buffer.hasAt_append_iff.1 here
    rw [repeated, element.run_eq_finished fits p first]
    simp only [Outcome.andThen]
    rw [others.run_eq_finished fits _ second, Progress.past_past]
    rfl

end

/-- What a taken value leaves behind stood in the payload. -/
theorem hasAt_of_take (fits : b.Addressable) {p q : Progress} {field : String} {type : Scalar}
    {offset length : Nat} (ran : p.take b field type offset length = .finished q) :
    ∃ bytes, b.HasAt offset bytes ∧ bytes.length = length := by
  unfold Progress.take at ran
  split at ran
  · cases ran
  · next bytes found => exact ⟨bytes, (Buffer.slice_eq_ok_iff_hasAt fits).1 found⟩

/-- Passes that all read an instance read elements. -/
theorem exists_elements (fits : b.Addressable) {body : List Instruction}
    (step : ∀ p q, p.cursor ≤ b.size → runAll b body p = .finished q →
      ∃ x : Instance body, b.HasAt p.cursor x.encode) :
    ∀ (count : Nat) (p q : Progress), p.cursor ≤ b.size →
      repeated (runAll b body) count p = .finished q →
      ∃ x : Elements body count, b.HasAt p.cursor x.encode
  | 0, _, _, within, _ => ⟨.nil, Buffer.hasAt_nil_iff.2 within⟩
  | count + 1, p, q, within, ran => by
    obtain ⟨r, first, others⟩ := Outcome.andThen_eq_finished_iff.1 ran
    obtain ⟨x, here⟩ := step p r within first
    -- the first pass has read `x`, so that the others begin behind it
    rw [x.run_eq_finished fits p here] at first
    cases first
    obtain ⟨xs, next⟩ := exists_elements fits step count _ q here.1 others
    exact ⟨.cons x xs, Buffer.hasAt_append_iff.2 ⟨here, next⟩⟩

mutual

/-- Where an instruction runs to its end, an item stands at the cursor. -/
theorem exists_item (fits : b.Addressable) : ∀ (i : Instruction) (p q : Progress),
    p.cursor ≤ b.size → i.run b p = .finished q → ∃ x : Item i, b.HasAt p.cursor x.encode
  | .scalar field type, p, q, within, ran => by
    rw [Instruction.run] at ran
    unfold Progress.readScalar at ran
    split at ran
    · next width => exact ⟨.unwrapped width, Buffer.hasAt_nil_iff.2 within⟩
    · next width =>
      obtain ⟨bytes, here, rfl⟩ := hasAt_of_take fits ran
      exact ⟨.fixed bytes width, here⟩
    · next width =>
      split at ran
      · cases ran
      · next length read =>
        obtain ⟨bytes, here, rfl⟩ := hasAt_of_take fits ran
        obtain ⟨short, number⟩ := (Buffer.unsigned_eq_ok_iff_hasAt fits).1 read
        refine ⟨.lengthPrefixed bytes width (Nat.le_of_lt_succ short), ?_⟩
        exact Buffer.hasAt_append_iff.2 ⟨number, by rw [length_spell]; exact here⟩
  | .counted body, p, q, within, ran => by
    cases read : b.countPrefix p.cursor with
    | error e =>
      rw [Instruction.run, read] at ran
      cases ran
    | ok count =>
      obtain ⟨few, number⟩ := (Buffer.unsigned_eq_ok_iff_hasAt fits).1 read
      have behind := number.1
      rw [length_spell] at behind
      rw [run_counted_eq_repeated body p read] at ran
      obtain ⟨xs, here⟩ := exists_elements fits (exists_instance fits body) count _ q behind ran
      refine ⟨.counted count xs (Nat.le_of_lt_succ few), ?_⟩
      exact Buffer.hasAt_append_iff.2 ⟨number, by rw [length_spell]; exact here⟩
  | .unresolved field reason, p, q, _, ran => by
    rw [Instruction.run] at ran
    cases ran

/-- Where instructions run to their end, an instance stands at the cursor. -/
theorem exists_instance (fits : b.Addressable) : ∀ (layout : List Instruction) (p q : Progress),
    p.cursor ≤ b.size → runAll b layout p = .finished q →
    ∃ x : Instance layout, b.HasAt p.cursor x.encode
  | [], _, _, within, _ => ⟨.nil, Buffer.hasAt_nil_iff.2 within⟩
  | i :: rest, p, q, within, ran => by
    rw [runAll_cons] at ran
    obtain ⟨r, first, others⟩ := Outcome.andThen_eq_finished_iff.1 ran
    obtain ⟨x, here⟩ := exists_item fits i p r within first
    rw [x.run_eq_finished fits p here] at first
    cases first
    obtain ⟨xs, next⟩ := exists_instance fits rest _ q here.1 others
    exact ⟨.cons x xs, Buffer.hasAt_append_iff.2 ⟨here, next⟩⟩

end

/-- The payload begins with the encoding of at most one instance. -/
theorem Instance.unique_of_hasAt {layout : List Instruction} (x : Instance layout)
    (here : b.HasAt 0 x.encode) (other : Instance layout) (begins : other.encode <+: b.toList) :
    other = x := by
  obtain ⟨rest, whole⟩ := begins
  have split : x.encode ++ b.toList.drop x.encode.length = b.toList := by
    have taken := here.2
    rw [List.drop_zero] at taken
    nth_rewrite 1 [← taken]
    exact List.take_append_drop _ _
  exact (other.encode_append_inj x (whole.trans split.symm)).1

/-- Decoding succeeds with some fields after `n` bytes exactly if these are the encoding of an
instance of the layout, the only one whose encoding the payload begins with, and the fields are
those of the instance. -/
theorem decodePayload_eq_ok_iff_encodes (fits : b.Addressable) (layout : List Instruction)
    (fields : Array DecodedField) (n : Nat) :
    decodePayload layout b = .ok (fields, n) ↔
      ∃ x : Instance layout, n ≤ b.size ∧ b.toList.take n = x.encode ∧
        (∀ other : Instance layout, other.encode <+: b.toList → other = x) ∧
        fields.toList = x.fields 0 := by
  constructor
  · intro decoded
    unfold decodePayload at decoded
    split at decoded
    · next q ran =>
      obtain ⟨x, here⟩ := exists_instance fits layout .start q (Nat.zero_le _) ran
      rw [x.run_eq_finished fits .start here] at ran
      cases ran
      cases decoded
      refine ⟨x, here.1, ?_, x.unique_of_hasAt here, ?_⟩
      · simpa [Progress.past, Progress.start] using here.2
      · simp [Progress.past, Progress.start]
    · cases decoded
  · -- uniqueness is not needed here: the run follows the instance that is given
    rintro ⟨x, within, encodes, -, listed⟩
    have length : x.encode.length = n := by
      rw [← encodes, List.length_take, Array.length_toList, Nat.min_eq_left within]
    have here : b.HasAt 0 x.encode := by
      rw [← length] at within encodes
      exact ⟨by rwa [Nat.zero_add], encodes⟩
    rw [decodePayload, x.run_eq_finished fits .start here]
    simp only [Progress.past, Progress.start, length, Nat.zero_add, Except.ok.injEq, Prod.mk.injEq,
      and_true]
    rw [← listed]
    simp

end Runs

namespace Scores

/-- A sequence of names with ranks, and a value that is not on the wire. -/
def layout : List Instruction :=
  [.counted [.scalar "name" .string, .scalar "rank" .int16], .scalar "extra" .variant]

/-- One element, and a byte that is left over. -/
def payload : Buffer := #[1, 0, 0, 0, 2, 0, 104, 105, 255, 255, 7]

def entry : Instance layout :=
  .cons
    (.counted 1
      (.cons
        (.cons (.lengthPrefixed [104, 105] rfl (by decide)) (.cons (.fixed [255, 255] rfl) .nil))
        .nil)
      (by decide))
    (.cons (.unwrapped rfl) .nil)

/-- The payload holds one name with a negative rank. -/
theorem decodePayload_payload :
    payload.Addressable ∧ decodePayload layout payload =
      .ok (#[⟨"name", 6, 2, .text "hi"⟩, ⟨"rank", 8, 2, .signed (-1)⟩], 10) := by
  have fits : payload.Addressable := by decide
  have here : payload.HasAt 0 entry.encode := ⟨by decide, by decide⟩
  refine ⟨fits, (decodePayload_eq_ok_iff_encodes fits layout _ 10).2 ⟨entry, ?_, ?_, ?_, ?_⟩⟩
  · decide
  · decide
  · exact entry.unique_of_hasAt here
  · rfl

end Scores

end Dissect.Wire
