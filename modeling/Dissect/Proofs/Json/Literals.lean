import Dissect.Json.Token
import Mathlib.Data.List.Basic

/-!
# How JSON strings and numbers are spelled

The spellings that the grammar of JSON gives to string literals and numbers. A string literal denotes
the text that has the same 16-bit units, whether these are written as characters or as escapes; half
of a surrogate pair alone denotes nothing (`denoted_of_denotes`).

What is spelled so is read back (`scanString_of_piecesText`, `ofChars?_of_numberText`), and every
text and every natural number can be spelled.
-/

set_option autoImplicit false

namespace Dissect.Json

/-! ## Texts in 16-bit units -/

/-- The 16-bit units of a character: one, or the two halves of a surrogate pair. -/
def utf16 (c : Char) : List Nat :=
  if c.toNat < 0x10000 then [c.toNat]
  else [0xD800 + (c.toNat - 0x10000) / 0x400, 0xDC00 + (c.toNat - 0x10000) % 0x400]

/-- The 16-bit units of an item of a string literal. -/
def Piece.units : Piece → List Nat
  | .char c => utf16 c
  | .unit n => [n]

/-- Characters leave out the numbers of the halves of surrogate pairs. -/
theorem toNat_valid (c : Char) :
    c.toNat < 0xD800 ∨ 0xDFFF < c.toNat ∧ c.toNat < 0x110000 := c.valid

theorem toNat_ofNat_of_valid {n : Nat} (valid : n < 0xD800 ∨ 0xDFFF < n ∧ n < 0x110000) :
    (Char.ofNat n).toNat = n := by
  have here : n.isValidChar := valid
  rw [Char.ofNat, dif_pos here]
  rfl

/-- A character is one unit that is no half, or a pair of halves. -/
theorem utf16_cases (c : Char) :
    (∃ n, utf16 c = [n] ∧ isLowHalf n = false ∧ isHighHalf n = false ∧ Char.ofNat n = c) ∨
    ∃ high low, utf16 c = [high, low] ∧ isHighHalf high = true ∧ isLowHalf high = false ∧
      isLowHalf low = true ∧ ofHalves high low = c := by
  have valid := toNat_valid c
  by_cases small : c.toNat < 0x10000
  · left
    refine ⟨c.toNat, if_pos small, ?_, ?_, Char.ofNat_toNat c⟩
    · simp [isLowHalf]
      omega
    · simp [isHighHalf]
      omega
  · right
    refine ⟨_, _, if_neg small, ?_, ?_, ?_, ?_⟩
    · simp [isHighHalf]
      omega
    · simp [isLowHalf]
      omega
    · simp [isLowHalf]
      omega
    · have whole : 0x10000 + (0xD800 + (c.toNat - 0x10000) / 0x400 - 0xD800) * 0x400 +
          (0xDC00 + (c.toNat - 0x10000) % 0x400 - 0xDC00) = c.toNat := by
        omega
      rw [ofHalves, whole, Char.ofNat_toNat]

theorem utf16_ofNat {n : Nat} (small : n < 0x10000) (notLow : isLowHalf n = false)
    (notHigh : isHighHalf n = false) : utf16 (Char.ofNat n) = [n] := by
  have valid : n < 0xD800 ∨ 0xDFFF < n ∧ n < 0x110000 := by
    simp [isLowHalf, isHighHalf] at notLow notHigh
    omega
  rw [utf16, toNat_ofNat_of_valid valid, if_pos small]

theorem utf16_ofHalves {high low : Nat} (first : isHighHalf high = true)
    (second : isLowHalf low = true) : utf16 (ofHalves high low) = [high, low] := by
  simp [isLowHalf, isHighHalf] at first second
  have whole : (ofHalves high low).toNat =
      0x10000 + (high - 0xD800) * 0x400 + (low - 0xDC00) := toNat_ofNat_of_valid (by omega)
  have firstHalf : 0xD800 + (0x10000 + (high - 0xD800) * 0x400 + (low - 0xDC00) - 0x10000) / 0x400 =
      high := by omega
  have secondHalf : 0xDC00 + (0x10000 + (high - 0xD800) * 0x400 + (low - 0xDC00) - 0x10000) % 0x400 =
      low := by omega
  rw [utf16, whole, if_neg (by omega), firstHalf, secondHalf]

/-- No character begins with a second half. -/
theorem not_isLowHalf_of_char {c : Char} {n : Nat} {rest tail : List Nat}
    (same : utf16 c ++ rest = n :: tail) : isLowHalf n = false := by
  rcases utf16_cases c with ⟨m, units, notLow, _⟩ | ⟨high, low, units, _, notLow, _⟩
  · rw [units] at same
    cases same
    exact notLow
  · rw [units] at same
    cases same
    exact notLow

/-- A unit that is no half is a character of a text. -/
theorem units_of_not_half {n : Nat} {rest : List Nat} {cs : List Char}
    (same : n :: rest = cs.flatMap utf16) (notHigh : isHighHalf n = false) :
    ∃ ds, cs = Char.ofNat n :: ds ∧ rest = ds.flatMap utf16 := by
  cases cs with
  | nil => cases same
  | cons d ds =>
    rw [List.flatMap_cons] at same
    rcases utf16_cases d with ⟨m, units, _, _, rfl⟩ | ⟨high, low, units, isHigh, _⟩
    · rw [units] at same
      cases same
      exact ⟨ds, rfl, rfl⟩
    · rw [units] at same
      cases same
      rw [isHigh] at notHigh
      cases notHigh

/-- A first half is followed by a second half, and both are a character of a text. -/
theorem units_of_high_half {n : Nat} {rest : List Nat} {cs : List Char}
    (same : n :: rest = cs.flatMap utf16) (isHigh : isHighHalf n = true) :
    ∃ low tail ds, rest = low :: tail ∧ isLowHalf low = true ∧ cs = ofHalves n low :: ds ∧
      tail = ds.flatMap utf16 := by
  cases cs with
  | nil => cases same
  | cons d ds =>
    rw [List.flatMap_cons] at same
    rcases utf16_cases d with ⟨m, units, _, notHigh, _⟩ | ⟨high, low, units, _, _, isLow, rfl⟩
    · rw [units] at same
      cases same
      rw [isHigh] at notHigh
      cases notHigh
    · rw [units] at same
      cases same
      exact ⟨low, _, ds, rfl, isLow, rfl, rfl⟩

/-- The text of a character and more begins with the character. -/
theorem units_of_char {c : Char} {rest : List Nat} {cs : List Char}
    (same : utf16 c ++ rest = cs.flatMap utf16) : ∃ ds, cs = c :: ds ∧ rest = ds.flatMap utf16 := by
  rcases utf16_cases c with ⟨n, units, _, notHigh, rfl⟩ | ⟨high, low, units, isHigh, _, _, rfl⟩
  · rw [units] at same
    exact units_of_not_half same notHigh
  · rw [units] at same
    obtain ⟨low', tail, ds, parts, _, rfl, others⟩ := units_of_high_half same isHigh
    cases parts
    exact ⟨ds, rfl, others⟩

/-- The text that items denote has the units of the items. -/
theorem units_of_denoted {pieces : List Piece} (small : ∀ n, .unit n ∈ pieces → n < 0x10000)
    {cs : List Char} (known : denoted pieces = some cs) :
    pieces.flatMap Piece.units = cs.flatMap utf16 := by
  fun_induction denoted pieces generalizing cs with
  | case1 =>
    cases known
    rfl
  | case2 c rest ih =>
    obtain ⟨ds, inside, rfl⟩ := Option.map_eq_some_iff.1 known
    have others := ih (fun n mem => small n (List.mem_cons_of_mem _ mem)) inside
    rw [List.flatMap_cons, List.flatMap_cons, others, Piece.units]
  | case3 n rest low => cases known
  | case4 n notLow high m rest low ih =>
    obtain ⟨ds, inside, rfl⟩ := Option.map_eq_some_iff.1 known
    have others := ih
      (fun n mem => small n (List.mem_cons_of_mem _ (List.mem_cons_of_mem _ mem))) inside
    rw [List.flatMap_cons, List.flatMap_cons, List.flatMap_cons, others, utf16_ofHalves high low]
    rfl
  | case5 n notLow high m rest notLow' => cases known
  | case6 n rest notLow high alone => cases known
  | case7 n rest notLow notHigh ih =>
    obtain ⟨ds, inside, rfl⟩ := Option.map_eq_some_iff.1 known
    have others := ih (fun n mem => small n (List.mem_cons_of_mem _ mem)) inside
    have single := utf16_ofNat (small n List.mem_cons_self) (Bool.eq_false_iff.2 notLow)
      (Bool.eq_false_iff.2 notHigh)
    rw [List.flatMap_cons, List.flatMap_cons, others, single, Piece.units]

/-- Items with the units of a text denote it. -/
theorem denoted_of_units {pieces : List Piece} {cs : List Char}
    (same : pieces.flatMap Piece.units = cs.flatMap utf16) : denoted pieces = some cs := by
  fun_induction denoted pieces generalizing cs with
  | case1 =>
    cases cs with
    | nil => rfl
    | cons d ds =>
      rcases utf16_cases d with ⟨n, units, _⟩ | ⟨high, low, units, _⟩
      · simp [units] at same
      · simp [units] at same
  | case2 c rest ih =>
    obtain ⟨ds, rfl, others⟩ := units_of_char same
    rw [ih others]
    rfl
  | case3 n rest low =>
    -- a second half where a character has to begin
    cases cs with
    | nil => cases same
    | cons d ds =>
      rw [not_isLowHalf_of_char same.symm] at low
      cases low
  | case4 n notLow high m rest low ih =>
    obtain ⟨low', tail, ds, parts, _, rfl, others⟩ := units_of_high_half same high
    cases parts
    rw [ih others]
    rfl
  | case5 n notLow high m rest notLow' =>
    -- a first half whose second half does not follow
    obtain ⟨low', tail, ds, parts, isLow, _⟩ := units_of_high_half same high
    cases parts
    exact absurd isLow notLow'
  | case6 n rest notLow high alone =>
    obtain ⟨low', tail, ds, parts, isLow, _⟩ := units_of_high_half same high
    -- what follows begins with a second half, which only a unit can be
    cases rest with
    | nil => cases parts
    | cons piece rest =>
      cases piece with
      | unit m => exact absurd rfl (alone m rest)
      | char c =>
        rw [not_isLowHalf_of_char parts] at isLow
        cases isLow
  | case7 n rest notLow notHigh ih =>
    obtain ⟨ds, rfl, others⟩ := units_of_not_half same (Bool.eq_false_iff.2 notHigh)
    rw [ih others]
    rfl

/-! ## String literals -/

/-- Letters after a backslash, with the characters that they stand for. -/
def shortEscapes : List (Char × Char) :=
  [('\x22', '\x22'), ('\\', '\\'), ('/', '/'), ('b', '\x08'), ('f', '\x0c'), ('n', '\n'),
    ('r', '\r'), ('t', '\t')]

/-- The hexadecimal digits with their values. -/
def hexDigits : List (Char × Nat) :=
  [('0', 0), ('1', 1), ('2', 2), ('3', 3), ('4', 4), ('5', 5), ('6', 6), ('7', 7), ('8', 8),
    ('9', 9), ('a', 10), ('b', 11), ('c', 12), ('d', 13), ('e', 14), ('f', 15), ('A', 10),
    ('B', 11), ('C', 12), ('D', 13), ('E', 14), ('F', 15)]

/-- How an item of a string literal is spelled. -/
inductive PieceText : Piece → List Char → Prop
  /-- A character stands for itself unless it is a control character, a quote or a backslash. -/
  | plain {c : Char} (shown : 0x20 ≤ c.toNat) (notQuote : c ≠ '\x22') (notBackslash : c ≠ '\\') :
      PieceText (.char c) [c]
  | short {letter c : Char} (known : (letter, c) ∈ shortEscapes) :
      PieceText (.char c) ['\\', letter]
  | unit {a b c d : Char} {i j k l : Nat} (first : (a, i) ∈ hexDigits)
      (second : (b, j) ∈ hexDigits) (third : (c, k) ∈ hexDigits) (fourth : (d, l) ∈ hexDigits) :
      PieceText (.unit (0x1000 * i + 0x100 * j + 0x10 * k + l)) ['\\', 'u', a, b, c, d]

/-- How the items of a string literal are spelled, one after another. -/
inductive PiecesText : List Piece → List Char → Prop
  | nil : PiecesText [] []
  | cons {p : Piece} {ps : List Piece} {cs ds : List Char} (first : PieceText p cs)
      (others : PiecesText ps ds) : PiecesText (p :: ps) (cs ++ ds)

/-- A literal denotes the text that has the units of its items, and none if there is no such text. -/
def Denotes (pieces : List Piece) : Option String → Prop
  | some s => pieces.flatMap Piece.units = s.toList.flatMap utf16
  | none => ∀ s : String, pieces.flatMap Piece.units ≠ s.toList.flatMap utf16

theorem escapedChar?_of_mem {letter c : Char} (known : (letter, c) ∈ shortEscapes) :
    letter ≠ 'u' ∧ escapedChar? letter = some c := by
  have all : ∀ e ∈ shortEscapes, e.1 ≠ 'u' ∧ escapedChar? e.1 = some e.2 := by decide
  exact all (letter, c) known

theorem hexValue?_of_mem {c : Char} {n : Nat} (known : (c, n) ∈ hexDigits) :
    n < 16 ∧ hexValue? c = some n := by
  have all : ∀ d ∈ hexDigits, d.2 < 16 ∧ hexValue? d.1 = some d.2 := by decide
  exact all (c, n) known

theorem unitValue?_of_mem {a b c d : Char} {i j k l : Nat} (first : (a, i) ∈ hexDigits)
    (second : (b, j) ∈ hexDigits) (third : (c, k) ∈ hexDigits) (fourth : (d, l) ∈ hexDigits) :
    unitValue? a b c d = some (0x1000 * i + 0x100 * j + 0x10 * k + l) := by
  have value : ((i * 16 + j) * 16 + k) * 16 + l = 0x1000 * i + 0x100 * j + 0x10 * k + l := by
    omega
  simp [unitValue?, hexValue?_of_mem first, hexValue?_of_mem second, hexValue?_of_mem third,
    hexValue?_of_mem fourth, value]

/-- Units have 16 bits. -/
theorem PiecesText.unit_lt {pieces : List Piece} {cs : List Char} (spelled : PiecesText pieces cs) :
    ∀ n, .unit n ∈ pieces → n < 0x10000 := by
  induction spelled with
  | nil =>
    intro n mem
    cases mem
  | cons first others ih =>
    intro n mem
    rcases List.mem_cons.1 mem with rfl | mem
    · cases first with
      | unit first second third fourth =>
        have := (hexValue?_of_mem first).1
        have := (hexValue?_of_mem second).1
        have := (hexValue?_of_mem third).1
        have := (hexValue?_of_mem fourth).1
        omega
    · exact ih n mem

/-- A spelled item is read, and the rest of the literal after it. -/
theorem scanString_piece {p : Piece} {cs : List Char} (spelled : PieceText p cs)
    (rest : List Char) :
    scanString (cs ++ rest) = (scanString rest).map fun r => (p :: r.1, r.2) := by
  cases spelled with
  | @plain c shown notQuote notBackslash =>
    have visible : ¬ (c = '\\' || decide (c.toNat < 0x20)) = true := by
      simp [notBackslash, shown]
    rw [List.singleton_append,
      scanString.eq_4 c rest (fun _ _ _ _ _ same => absurd same notBackslash)
        fun _ _ same => absurd same notBackslash, if_neg notQuote, if_neg visible]
    cases scanString rest with
    | none => rfl
    | some r => rfl
  | @short letter c known =>
    obtain ⟨notUnit, value⟩ := escapedChar?_of_mem known
    rw [List.cons_append, List.singleton_append,
      scanString.eq_3 letter rest fun _ _ _ _ _ same => absurd same notUnit, value]
    cases scanString rest with
    | none => rfl
    | some r => rfl
  | unit first second third fourth =>
    simp only [List.cons_append, List.nil_append]
    rw [scanString, unitValue?_of_mem first second third fourth]
    cases scanString rest with
    | none => rfl
    | some r => rfl

/-- The items of a literal are read up to its closing quote. -/
theorem scanString_of_piecesText {pieces : List Piece} {cs : List Char}
    (spelled : PiecesText pieces cs) (rest : List Char) :
    scanString (cs ++ '\x22' :: rest) = some (pieces, rest) := by
  induction spelled with
  | nil => simp [scanString]
  | cons first others ih =>
    rw [List.append_assoc, scanString_piece first, ih]
    rfl

/-- A literal is read as the text that it denotes. -/
theorem denoted_of_denotes {pieces : List Piece} (small : ∀ n, .unit n ∈ pieces → n < 0x10000)
    {text : Option String} (denotes : Denotes pieces text) :
    (denoted pieces).map String.ofList = text := by
  cases text with
  | some s =>
    rw [denoted_of_units denotes, Option.map_some, String.ofList_toList]
  | none =>
    cases known : denoted pieces with
    | none => rfl
    | some cs =>
      -- the text that is read would have the units of the items
      have same := units_of_denoted small known
      refine absurd ?_ (denotes (String.ofList cs))
      rwa [String.toList_ofList]

theorem exists_hexDigit {n : Nat} (small : n < 16) : ∃ c, (c, n) ∈ hexDigits := by
  have all : ∀ n < 16, ∃ d ∈ hexDigits, d.2 = n := by decide
  obtain ⟨⟨c, _⟩, mem, rfl⟩ := all n small
  exact ⟨c, mem⟩

/-- Control characters are written as units, quotes and backslashes behind a backslash. -/
theorem exists_pieceText (c : Char) : ∃ p cs, PieceText p cs ∧ p.units = utf16 c := by
  by_cases control : c.toNat < 0x20
  · obtain ⟨high, first⟩ := exists_hexDigit (n := c.toNat / 16) (by omega)
    obtain ⟨low, second⟩ := exists_hexDigit (n := c.toNat % 16) (by omega)
    have zero : ('0', 0) ∈ hexDigits := by decide
    refine ⟨_, _, .unit zero zero first second, ?_⟩
    have value : 0x1000 * 0 + 0x100 * 0 + 0x10 * (c.toNat / 16) + c.toNat % 16 = c.toNat := by omega
    rw [Piece.units, value, utf16, if_pos (by omega)]
  · by_cases quote : c = '\x22'
    · have known : ('\x22', c) ∈ shortEscapes := by
        rw [quote]
        decide
      exact ⟨_, _, .short known, rfl⟩
    · by_cases backslash : c = '\\'
      · have known : ('\\', c) ∈ shortEscapes := by
          rw [backslash]
          decide
        exact ⟨_, _, .short known, rfl⟩
      · exact ⟨_, _, .plain (Nat.le_of_not_lt control) quote backslash, rfl⟩

/-- Every text can be written with items. -/
theorem exists_piecesText (l : List Char) : ∃ pieces cs, PiecesText pieces cs ∧
    pieces.flatMap Piece.units = l.flatMap utf16 := by
  induction l with
  | nil => exact ⟨[], [], .nil, rfl⟩
  | cons c l ih =>
    obtain ⟨p, cs, first, units⟩ := exists_pieceText c
    obtain ⟨pieces, ds, others, same⟩ := ih
    refine ⟨p :: pieces, cs ++ ds, .cons first others, ?_⟩
    rw [List.flatMap_cons, List.flatMap_cons, units, same]

/-- Whether a character may stand for itself in a literal. -/
def isPlain (c : Char) : Bool := Nat.ble 0x20 c.toNat && c != '\x22' && c != '\\'

/-- A text of such characters may be written as it is. -/
theorem PiecesText.plain {l : List Char} (shown : l.all isPlain = true) :
    PiecesText (l.map .char) l := by
  induction l with
  | nil => exact .nil
  | cons c l ih =>
    obtain ⟨here, others⟩ := Bool.and_eq_true_iff.1 shown
    simp only [isPlain, Bool.and_eq_true, bne_iff_ne, Nat.ble_eq] at here
    exact .cons (.plain here.1.1 here.1.2 here.2) (ih others)

/-! ## Numbers -/

/-- Digits, at least one. -/
def Digits (ds : List Char) : Prop := ds ≠ [] ∧ ∀ d ∈ ds, d.isDigit = true

/-- How the digits behind the point are spelled. -/
inductive FractionText : Option (List Char) → List Char → Prop
  | none : FractionText none []
  | some {ds : List Char} (digits : Digits ds) : FractionText (some ds) ('.' :: ds)

/-- How an exponent is spelled. -/
inductive ExponentText : Option (Bool × List Char) → List Char → Prop
  | none : ExponentText none []
  | some {mark : Char} {negative : Bool} {sign ds : List Char} (marked : mark = 'e' ∨ mark = 'E')
      (signed : (negative, sign) ∈ [(false, []), (false, ['+']), (true, ['-'])])
      (digits : Digits ds) : ExponentText (some (negative, ds)) (mark :: (sign ++ ds))

/-- How a number is spelled. A zero in front is the only digit before the point. -/
inductive NumberText : Number → List Char → Prop
  | intro {negative : Bool} {whole : List Char} {fraction : Option (List Char)}
      {exponent : Option (Bool × List Char)} {f e : List Char} (digits : Digits whole)
      (zero : whole.head? = some '0' → whole.length = 1) (behind : FractionText fraction f)
      (power : ExponentText exponent e) :
      NumberText ⟨negative, whole, fraction, exponent⟩
        ((if negative then ['-'] else []) ++ (whole ++ (f ++ e)))

/-- The characters of a kind are told apart from what follows if that does not begin with one. -/
theorem span_append {p : Char → Bool} {cs rest : List Char} (all : ∀ c ∈ cs, p c = true)
    (stop : ∀ c ∈ rest.head?, p c = false) :
    (cs ++ rest).takeWhile p = cs ∧ (cs ++ rest).dropWhile p = rest := by
  rw [List.takeWhile_append_of_pos all, List.dropWhile_append_of_pos all]
  cases rest with
  | nil => simp
  | cons c rest => simp [stop c rfl]

theorem someDigits_append {ds rest : List Char} (digits : Digits ds)
    (stop : ∀ c ∈ rest.head?, c.isDigit = false) :
    Number.someDigits (ds ++ rest) = some (ds, rest) := by
  obtain ⟨taken, left⟩ := span_append digits.2 stop
  rw [Number.someDigits, taken, left]
  cases ds with
  | nil => exact absurd rfl digits.1
  | cons d ds => rfl

theorem someDigits_all {ds : List Char} (digits : Digits ds) :
    Number.someDigits ds = some (ds, []) := by
  have all : Number.someDigits (ds ++ []) = some (ds, []) := someDigits_append digits (by simp)
  rwa [List.append_nil] at all

theorem Digits.ne_of_mem {ds : List Char} (digits : Digits ds) {c d : Char} (mem : c ∈ ds)
    (other : d.isDigit = false) : c ≠ d := by
  rintro rfl
  rw [digits.2 c mem] at other
  cases other

theorem ExponentText.head {exponent : Option (Bool × List Char)} {e : List Char}
    (power : ExponentText exponent e) : ∀ c ∈ e.head?, c = 'e' ∨ c = 'E' := by
  cases power with
  | none => simp
  | some marked signed digits =>
    rintro c head
    cases head
    exact marked

theorem fractionOf_append {fraction : Option (List Char)} {f e : List Char}
    {exponent : Option (Bool × List Char)} (behind : FractionText fraction f)
    (power : ExponentText exponent e) : Number.fractionOf (f ++ e) = some (fraction, e) := by
  cases behind with
  | none =>
    cases power with
    | none => rfl
    | some marked signed digits =>
      rcases marked with rfl | rfl
      · rfl
      · rfl
  | some digits =>
    have stop : ∀ c ∈ e.head?, c.isDigit = false := by
      intro c first
      rcases power.head c first with rfl | rfl
      · rfl
      · rfl
    rw [List.cons_append, Number.fractionOf, someDigits_append digits stop]
    rfl

theorem exponentOf_of_exponentText {exponent : Option (Bool × List Char)} {e : List Char}
    (power : ExponentText exponent e) : Number.exponentOf e = some (exponent, []) := by
  cases power with
  | none => rfl
  | @some mark negative sign ds marked signed digits =>
    have isMark : (decide (mark = 'e') || decide (mark = 'E')) = true := by simpa using marked
    -- without a sign the digits must not be taken for one
    have unsigned (c : Char) (other : c.isDigit = false) (rest : List Char) : ds ≠ c :: rest := by
      rintro rfl
      exact digits.ne_of_mem List.mem_cons_self other rfl
    simp only [List.mem_cons, Prod.mk.injEq, List.not_mem_nil, or_false] at signed
    rcases signed with ⟨rfl, rfl⟩ | ⟨rfl, rfl⟩ | ⟨rfl, rfl⟩
    · rw [List.nil_append, Number.exponentOf, if_pos isMark, someDigits_all digits]
      · rfl
      · exact unsigned '-' rfl
      · exact unsigned '+' rfl
    · unfold Number.exponentOf
      simp [isMark, someDigits_all digits]
    · unfold Number.exponentOf
      simp [isMark, someDigits_all digits]

theorem FractionText.stop {fraction : Option (List Char)} {f e : List Char}
    {exponent : Option (Bool × List Char)} (behind : FractionText fraction f)
    (power : ExponentText exponent e) : ∀ c ∈ (f ++ e).head?, c.isDigit = false := by
  cases behind with
  | none =>
    intro c first
    rcases power.head c first with rfl | rfl
    · rfl
    · rfl
  | some digits =>
    rintro c head
    cases head
    rfl

/-- A spelled number is read. -/
theorem ofChars?_of_numberText {n : Number} {cs : List Char} (spelled : NumberText n cs) :
    Number.ofChars? cs = some n := by
  cases spelled with
  | @intro negative whole fraction exponent f e digits zero behind power =>
    have taken := someDigits_append digits (behind.stop power)
    have rest := fractionOf_append behind power
    have last := exponentOf_of_exponentText power
    cases negative with
    | true =>
      unfold Number.ofChars?
      simp only [if_true, List.singleton_append]
      simpa [taken, rest, last] using zero
    | false =>
      unfold Number.ofChars?
      simp only [Bool.false_eq_true, if_false, List.nil_append]
      split
      · next sign tail spelled =>
        -- the first digit would be a sign
        cases whole with
        | nil => exact absurd rfl digits.1
        | cons d ds =>
          cases spelled
          exact absurd rfl (digits.ne_of_mem List.mem_cons_self (d := '-') rfl)
      · simpa [taken, rest, last] using zero

theorem isNumberChar_of_isDigit {c : Char} (digit : c.isDigit = true) : isNumberChar c = true := by
  simp [isNumberChar, digit]

theorem FractionText.chars {fraction : Option (List Char)} {f : List Char}
    (behind : FractionText fraction f) : ∀ c ∈ f, isNumberChar c = true := by
  cases behind with
  | none => simp
  | some digits =>
    refine List.forall_mem_cons.2 ⟨rfl, ?_⟩
    intro c mem
    exact isNumberChar_of_isDigit (digits.2 c mem)

theorem ExponentText.chars {exponent : Option (Bool × List Char)} {e : List Char}
    (power : ExponentText exponent e) : ∀ c ∈ e, isNumberChar c = true := by
  cases power with
  | none => simp
  | @some mark negative sign ds marked signed digits =>
    have signs : ([(false, []), (false, ['+']), (true, ['-'])].all fun s =>
        s.2.all isNumberChar) = true := rfl
    have sign := List.all_eq_true.1 (List.all_eq_true.1 signs _ signed)
    refine List.forall_mem_cons.2 ⟨?_, List.forall_mem_append.2 ⟨sign, ?_⟩⟩
    · rcases marked with rfl | rfl
      · rfl
      · rfl
    · intro c mem
      exact isNumberChar_of_isDigit (digits.2 c mem)

/-- All characters of a number occur in numbers. -/
theorem NumberText.chars {n : Number} {cs : List Char} (spelled : NumberText n cs) :
    ∀ c ∈ cs, isNumberChar c = true := by
  cases spelled with
  | @intro negative whole fraction exponent f e digits zero behind power =>
    refine List.forall_mem_append.2 ⟨?_, List.forall_mem_append.2 ⟨?_, List.forall_mem_append.2
      ⟨behind.chars, power.chars⟩⟩⟩
    · cases negative with
      | true => exact List.forall_mem_singleton.2 rfl
      | false => exact List.forall_mem_nil _
    · intro c mem
      exact isNumberChar_of_isDigit (digits.2 c mem)

/-- A number begins with a digit or a sign. -/
theorem NumberText.head {n : Number} {cs : List Char} (spelled : NumberText n cs) :
    ∃ c rest, cs = c :: rest ∧ (c.isDigit = true ∨ c = '-') := by
  cases spelled with
  | @intro negative whole fraction exponent f e digits zero behind power =>
    cases negative with
    | true => exact ⟨'-', _, rfl, .inr rfl⟩
    | false =>
      cases whole with
      | nil => exact absurd rfl digits.1
      | cons d ds => exact ⟨d, _, rfl, .inl (digits.2 d List.mem_cons_self)⟩

theorem toDigits_head_ne_zero {n : Nat} (positive : 0 < n) :
    (Nat.toDigits 10 n).head? ≠ some '0' := by
  induction n using Nat.strongRecOn with
  | ind n ih =>
    by_cases small : n < 10
    · have digits : ∀ n < 10, 0 < n → n.digitChar ≠ '0' := by decide
      rw [Nat.toDigits_of_lt_base small]
      simpa using digits n small positive
    · -- the digits of a tenth come first
      have first := ih (n / 10) (by omega) (by omega)
      rw [Nat.toDigits_of_base_le (by decide) (by omega),
        List.head?_append_of_ne_nil _ Nat.toDigits_ne_nil]
      exact first

/-- The decimal digits of a number begin with a zero only if that is all. -/
theorem toDigits_head (n : Nat) :
    (Nat.toDigits 10 n).head? = some '0' → (Nat.toDigits 10 n).length = 1 := by
  intro zero
  by_cases positive : 0 < n
  · exact absurd zero (toDigits_head_ne_zero positive)
  · rw [Nat.eq_zero_of_not_pos positive]
    rfl

/-- The decimal digits of a natural number spell it. -/
theorem numberText_natural (n : Nat) :
    NumberText ⟨false, Nat.toDigits 10 n, none, none⟩
      ([] ++ (Nat.toDigits 10 n ++ ([] ++ []))) := by
  have digits : Digits (Nat.toDigits 10 n) := by
    refine ⟨Nat.toDigits_ne_nil, ?_⟩
    intro d mem
    exact Nat.isDigit_of_mem_toDigits (by decide) (by decide) mem
  exact .intro digits (toDigits_head n) .none .none

end Dissect.Json
