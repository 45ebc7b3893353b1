import Dissect.Script.Statement
import Mathlib.Data.List.Basic

/-!
# Reading scripts

The statements that dissectors are made of, read from the text of a script: Lua with numbers,
names, sums and calls, with assignments, calls as statements, and counting loops. Every line of
such a script is a statement, opens a loop, or closes one.

A line is cut into tokens, and its expressions are built up token by token (`Reading.step`). The
lines of a script are then put together (`Nesting.step`).
-/

set_option autoImplicit false

namespace Dissect.Script.Lua

/-- An expression. -/
inductive Expr where
  | number (n : Nat)
  | name (x : String)
  /-- `e.field` -/
  | member (e : Expr) (field : String)
  /-- `e:method`, which is there to be called. -/
  | method (e : Expr) (name : String)
  /-- `f(arguments)` -/
  | call (f : Expr) (arguments : List Expr)
  /-- `left + right` -/
  | sum (left right : Expr)

/-- A statement. -/
inductive Command where
  /-- `x = e` -/
  | assign (x : String) (e : Expr)
  /-- A call for its effect. -/
  | perform (e : Expr)
  /-- `for x=first,last do body end` -/
  | loop (x : String) (first last : Expr) (body : List Command)

/-! ## Tokens -/

/-- Whether a character may stand in a name or a number. -/
def isNameChar (c : Char) : Bool := c.isAlphanum || c = '_'

/-- The words that are no names. -/
def reserved : List String :=
  ["and", "break", "do", "else", "elseif", "end", "false", "for", "function", "goto", "if", "in",
    "local", "nil", "not", "or", "repeat", "return", "then", "true", "until", "while"]

/-- Whether a text is a name: letters, digits and underscores, no digit in front, not reserved. -/
def isName (text : String) : Bool :=
  text.toList.head?.any (fun c => !c.isDigit) && text.toList.all isNameChar
    && !reserved.contains text

/-- A token: a name, number or reserved word, or any other character but a space. -/
inductive Token where
  | word (text : String)
  | symbol (c : Char)
deriving DecidableEq

/-- Tokens with a word in front, if there is one. -/
def withWord (word : List Char) (others : List Token) : List Token :=
  if word.isEmpty then others else .word (String.ofList word) :: others

/-- The token of a character that is in no word; a space is none. -/
def mark (c : Char) : List Token := if c = ' ' then [] else [.symbol c]

/-- The word that a line begins with, and the tokens behind it. -/
def scan : List Char → List Char × List Token
  | [] => ([], [])
  | c :: rest =>
    if isNameChar c then (c :: (scan rest).1, (scan rest).2)
    else ([], mark c ++ withWord (scan rest).1 (scan rest).2)

/-- The tokens of a line. -/
def tokens (line : List Char) : List Token := withWord (scan line).1 (scan line).2

theorem withWord_append (word : List Char) (a b : List Token) :
    withWord word (a ++ b) = withWord word a ++ b := by
  cases word with
  | nil => rfl
  | cons c rest => rfl

/-- A character that is in no word ends the word in front of it. -/
theorem scan_cons_of_not {c : Char} (h : isNameChar c = false) (rest : List Char) :
    scan (c :: rest) = ([], mark c ++ tokens rest) := by
  rw [scan, h]
  rfl

theorem tokens_cons_of_not {c : Char} (h : isNameChar c = false) (rest : List Char) :
    tokens (c :: rest) = mark c ++ tokens rest := by
  rw [tokens, scan_cons_of_not h]
  rfl

/-- A word ends where the next character cannot continue it. -/
theorem scan_append {a b : List Char} (ends : b.head?.any isNameChar = false) :
    scan (a ++ b) = ((scan a).1, (scan a).2 ++ tokens b) := by
  induction a with
  | nil =>
    cases b with
    | nil => rfl
    | cons c rest =>
      have hc : isNameChar c = false := by simpa using ends
      rw [List.nil_append, tokens_cons_of_not hc, scan_cons_of_not hc]
      rfl
  | cons c rest ih =>
    rw [List.cons_append]
    -- a character of a word joins the word that `rest` begins with; any other one ends it
    cases hc : isNameChar c with
    | true => simp [scan, hc, ih]
    | false =>
      rw [scan_cons_of_not hc, scan_cons_of_not hc, tokens, ih, withWord_append]
      simp [tokens]

/-- A line may be cut in front of a character that is in no word. -/
theorem tokens_append {a b : List Char} (ends : b.head?.any isNameChar = false) :
    tokens (a ++ b) = tokens a ++ tokens b := by
  rw [tokens, scan_append ends]
  exact withWord_append _ _ _

/-- A line may be cut behind a character that is in no word. -/
theorem tokens_append_of_getLast {a b : List Char} (ends : a.getLast?.any isNameChar = false) :
    tokens (a ++ b) = tokens a ++ tokens b := by
  rcases List.eq_nil_or_concat a with rfl | ⟨front, c, rfl⟩
  · rfl
  · have hc : isNameChar c = false := by simpa using ends
    have cut : ∀ rest, tokens (front ++ c :: rest) = tokens front ++ (mark c ++ tokens rest) := by
      intro rest
      rw [tokens_append (by simpa using hc), tokens_cons_of_not hc]
    have here : tokens (front ++ [c]) = tokens front ++ mark c := by
      rw [cut []]
      simp [tokens, scan, withWord]
    rw [List.concat_eq_append, List.append_assoc, List.singleton_append, cut, here,
      List.append_assoc]

/-- The tokens of a single word. -/
theorem tokens_word {word : List Char} (ne : word ≠ []) (all : word.all isNameChar = true) :
    tokens word = [.word (String.ofList word)] := by
  have whole : scan word = (word, []) := by
    clear ne
    induction word with
    | nil => rfl
    | cons c rest ih =>
      rw [List.all_cons, Bool.and_eq_true] at all
      rw [scan, ih all.2, if_pos all.1]
  rw [tokens, whole]
  cases word with
  | nil => exact absurd rfl ne
  | cons c rest => rfl

/-- A name is one token. -/
theorem tokens_name {text : String} (h : isName text = true) :
    tokens text.toList = [.word text] := by
  unfold isName at h
  rw [Bool.and_eq_true, Bool.and_eq_true] at h
  have ne : text.toList ≠ [] := by
    intro empty
    rw [empty] at h
    exact absurd h.1.1 (by decide)
  rw [tokens_word ne h.1.2, String.ofList_toList]

/-- Indentation is no part of the tokens. -/
theorem tokens_indented (n : Nat) (line : List Char) :
    tokens (List.replicate n ' ' ++ line) = tokens line := by
  induction n with
  | zero => rfl
  | succ n ih =>
    rw [List.replicate_succ, List.cons_append, tokens_cons_of_not (by decide)]
    exact ih

/-! ## Expressions -/

/-- The operand that a word is: a number in decimal digits, or a name. -/
def operand? (word : String) : Option Expr :=
  if word.toList.all Char.isDigit then some (.number (Nat.ofDigitChars 10 word.toList 0))
  else if isName word then some (.name word)
  else none

/-- Where the reading of an expression stands: an operand is missing, there is one, or there is
one whose member or method is to be named next. -/
inductive Slot where
  | missing
  | present (e : Expr)
  | member (e : Expr)
  | method (e : Expr)

/-- A list of expressions that is being read: those complete, and the sum that the next operand
goes to, if there is one. -/
structure Partial where
  complete : List Expr
  left : Option Expr

namespace Partial

/-- Nothing read yet. -/
def empty : Partial := ⟨[], none⟩

/-- The expression that ends with the operand `e`. -/
def joined (p : Partial) (e : Expr) : Expr :=
  match p.left with
  | none => e
  | some left => .sum left e

/-- The expressions when `e` is the last operand. -/
def close (p : Partial) (e : Expr) : List Expr := p.complete ++ [p.joined e]

end Partial

/-- How far a list of expressions is read: what is read of the innermost list, the calls whose
arguments surround it, the innermost first, and the operand at hand. -/
structure Reading where
  inner : Partial
  outer : List (Expr × Partial)
  slot : Slot

namespace Reading

/-- Nothing read yet. -/
def start : Reading := ⟨.empty, [], .missing⟩

/-- Reads a word. -/
def readWord (r : Reading) (word : String) : Option Reading :=
  match r.slot with
  | .missing => (operand? word).map fun e => { r with slot := .present e }
  | .present _ => none
  | .member e => if isName word then some { r with slot := .present (.member e word) } else none
  | .method e => if isName word then some { r with slot := .present (.method e word) } else none

/-- Reads any other token. -/
def readSymbol (r : Reading) (c : Char) : Option Reading :=
  match c, r.slot, r.outer with
  | '.', .present e, _ => some { r with slot := .member e }
  | ':', .present e, _ => some { r with slot := .method e }
  | '(', .present e, outer => some ⟨.empty, (e, r.inner) :: outer, .missing⟩
  | '+', .present e, _ =>
    some { r with inner := { r.inner with left := some (r.inner.joined e) }, slot := .missing }
  | ',', .present e, _ => some { r with inner := ⟨r.inner.close e, none⟩, slot := .missing }
  | ')', .present e, (f, before) :: outer =>
    some ⟨before, outer, .present (.call f (r.inner.close e))⟩
  | ')', .missing, (f, before) :: outer =>
    match r.inner with
    | ⟨[], none⟩ => some ⟨before, outer, .present (.call f [])⟩
    | _ => none
  | _, _, _ => none

/-- Reads a token. -/
def step (r : Reading) : Token → Option Reading
  | .word text => r.readWord text
  | .symbol c => r.readSymbol c

/-- The expressions read, if nothing is open. -/
def result? (r : Reading) : Option (List Expr) :=
  match r.slot, r.outer with
  | .present e, [] => some (r.inner.close e)
  | _, _ => none

end Reading

theorem operand?_name {word : String} (h : isName word = true) :
    operand? word = some (.name word) := by
  have letter : word.toList.all Char.isDigit = false := by
    unfold isName at h
    rw [Bool.and_eq_true, Bool.and_eq_true] at h
    cases chars : word.toList with
    | nil =>
      rw [chars] at h
      exact absurd h.1.1 (by decide)
    | cons c rest =>
      have hc : c.isDigit = false := by simpa [chars] using h.1.1
      rw [List.all_cons, hc, Bool.false_and]
  rw [operand?, letter, h]
  rfl

/-- The text of a number is made of digits. -/
theorem isDigit_of_mem_toString {n : Nat} {c : Char} (h : c ∈ (toString n).toList) :
    c.isDigit = true := by
  rw [Nat.toString_eq_ofList_toDigits, String.toList_ofList] at h
  exact Nat.isDigit_of_mem_toDigits (by decide) (by decide) h

theorem operand?_number (n : Nat) : operand? (toString n) = some (.number n) := by
  have all : (toString n).toList.all Char.isDigit = true := by
    rw [List.all_eq_true]
    exact fun c => isDigit_of_mem_toString
  rw [operand?, if_pos all, Nat.toString_eq_ofList_toDigits, String.toList_ofList,
    Nat.ofDigitChars_ten_toDigits]

/-- The expressions that tokens spell, separated by commas. -/
def expressions? (ts : List Token) : Option (List Expr) :=
  (ts.foldlM Reading.step .start).bind Reading.result?

/-- The tokens are read as the operand `e` wherever one is missing. -/
def ReadsOperand (ts : List Token) (e : Expr) : Prop :=
  ∀ inner outer, ts.foldlM Reading.step ⟨inner, outer, .missing⟩ =
    some ⟨inner, outer, .present e⟩

/-- The tokens are read as the expressions `es` wherever a list of expressions goes on. -/
def ReadsList (ts : List Token) (es : List Expr) : Prop :=
  ∀ complete outer, ∃ inner e, ts.foldlM Reading.step ⟨⟨complete, none⟩, outer, .missing⟩ =
    some ⟨inner, outer, .present e⟩ ∧ inner.close e = complete ++ es

namespace ReadsOperand

variable {ts us : List Token} {e f : Expr} {es : List Expr} {x : String}

theorem word (h : operand? x = some e) : ReadsOperand [.word x] e := by
  intro inner outer
  simp [Reading.step, Reading.readWord, h]

theorem name (h : isName x = true) : ReadsOperand [.word x] (.name x) := word (operand?_name h)

/-- `e.x` -/
theorem member (he : ReadsOperand ts e) (hx : isName x = true) :
    ReadsOperand (ts ++ [.symbol '.', .word x]) (.member e x) := by
  intro inner outer
  rw [List.foldlM_append, he inner outer]
  simp [Reading.step, Reading.readWord, Reading.readSymbol, hx]

/-- `e:x` -/
theorem method (he : ReadsOperand ts e) (hx : isName x = true) :
    ReadsOperand (ts ++ [.symbol ':', .word x]) (.method e x) := by
  intro inner outer
  rw [List.foldlM_append, he inner outer]
  simp [Reading.step, Reading.readWord, Reading.readSymbol, hx]

/-- `f(es)` -/
theorem call (hf : ReadsOperand ts f) (hes : ReadsList us es) :
    ReadsOperand (ts ++ [.symbol '('] ++ us ++ [.symbol ')']) (.call f es) := by
  intro inner outer
  obtain ⟨last, e, read, close⟩ := hes [] ((f, inner) :: outer)
  rw [List.foldlM_append, List.foldlM_append, List.foldlM_append, hf inner outer]
  show (us.foldlM Reading.step ⟨⟨[], none⟩, (f, inner) :: outer, .missing⟩ >>= fun r =>
    List.foldlM Reading.step r [.symbol ')']) = _
  rw [read]
  show some (Reading.mk inner outer (.present (.call f (last.close e)))) = _
  rw [close]
  rfl

end ReadsOperand

namespace ReadsList

variable {ts us : List Token} {a b : Expr} {as bs : List Expr}

theorem single (ha : ReadsOperand ts a) : ReadsList ts [a] := by
  intro complete outer
  exact ⟨_, _, ha _ outer, rfl⟩

/-- `a + b` -/
theorem sum (ha : ReadsOperand ts a) (hb : ReadsOperand us b) :
    ReadsList (ts ++ [.symbol '+'] ++ us) [.sum a b] := by
  intro complete outer
  refine ⟨⟨complete, some a⟩, b, ?_, rfl⟩
  rw [List.foldlM_append, List.foldlM_append, ha _ outer]
  exact hb _ outer

/-- `as, bs` -/
theorem comma (ha : ReadsList ts as) (hb : ReadsList us bs) :
    ReadsList (ts ++ [.symbol ','] ++ us) (as ++ bs) := by
  intro complete outer
  obtain ⟨inner, e, read, close⟩ := ha complete outer
  obtain ⟨last, e', read', close'⟩ := hb (inner.close e) outer
  refine ⟨last, e', ?_, ?_⟩
  · rw [List.foldlM_append, List.foldlM_append, read]
    exact read'
  · rw [close', close, List.append_assoc]

theorem expressions?_eq (h : ReadsList ts as) : expressions? ts = some as := by
  obtain ⟨inner, e, read, close⟩ := h [] []
  have whole : ts.foldlM Reading.step .start = some ⟨inner, [], .present e⟩ := read
  rw [expressions?, whole]
  show some (inner.close e) = some as
  rw [close]
  rfl

end ReadsList

/-! ## Lines and scripts -/

/-- What a line says. -/
inductive Form where
  | nothing
  | command (c : Command)
  /-- The first line of a loop. -/
  | opening (x : String) (first last : Expr)
  /-- The last line of a loop. -/
  | closing

/-- What the tokens of a line say. -/
def form? : List Token → Option Form
  | [] => some .nothing
  | .word x :: .symbol '=' :: ts =>
    match expressions? ts with
    | some [e] => if isName x then some (.command (.assign x e)) else none
    | _ => none
  | .word "for" :: .word x :: .symbol '=' :: ts =>
    match ts.getLast?, expressions? ts.dropLast with
    | some (.word "do"), some [first, last] =>
      if isName x then some (.opening x first last) else none
    | _, _ => none
  | [.word "end"] => some .closing
  | ts =>
    match expressions? ts with
    | some [.call f arguments] => some (.command (.perform (.call f arguments)))
    | _ => none

theorem form?_assign {x : String} {ts : List Token} {e : Expr} (hx : isName x = true)
    (he : expressions? ts = some [e]) :
    form? (.word x :: .symbol '=' :: ts) = some (.command (.assign x e)) := by
  simp [form?, he, hx]

theorem form?_send {x : String} {ts : List Token} {f : Expr} {arguments : List Expr}
    (he : expressions? (.word x :: .symbol ':' :: ts) = some [.call f arguments]) :
    form? (.word x :: .symbol ':' :: ts) = some (.command (.perform (.call f arguments))) := by
  simp [form?, he]

/-- The lines of a text. -/
def lines : List Char → List (List Char)
  | [] => [[]]
  | c :: rest =>
    if c = '\n' then [] :: lines rest
    else
      match lines rest with
      | [] => [[c]]
      | line :: others => (c :: line) :: others

/-- The first line of a loop. -/
structure Head where
  x : String
  first : Expr
  last : Expr

/-- How far a script is read: the statements of the innermost block, and the loops around it, the
innermost first, each with the statements in front of it. -/
structure Nesting where
  inner : List Command
  outer : List (Head × List Command)

/-- Reads what a line says. -/
def Nesting.step (n : Nesting) : Form → Option Nesting
  | .nothing => some n
  | .command c => some { n with inner := n.inner ++ [c] }
  | .opening x first last => some ⟨[], (⟨x, first, last⟩, n.inner) :: n.outer⟩
  | .closing =>
    match n.outer with
    | [] => none
    | (head, before) :: outer =>
      some ⟨before ++ [.loop head.x head.first head.last n.inner], outer⟩

/-- Reads a line. -/
def Nesting.readLine (n : Nesting) (line : List Char) : Option Nesting :=
  (form? (tokens line)).bind n.step

theorem lines_append {line : List Char} (h : '\n' ∉ line) (rest : List Char) :
    lines (line ++ '\n' :: rest) = line :: lines rest := by
  induction line with
  | nil => rfl
  | cons c others ih =>
    rw [List.mem_cons, not_or] at h
    rw [List.cons_append, lines, if_neg (Ne.symm h.1), ih h.2]

/-- The script that a text spells. -/
def script? (text : String) : Option (List Command) :=
  match (lines text.toList).foldlM Nesting.readLine ⟨[], []⟩ with
  | some ⟨commands, []⟩ => some commands
  | _ => none

end Dissect.Script.Lua
