import Dissect.Proofs.Script.WellFormed

/-!
# What lines do to variables

A variable that a script gives a value to is global unless `local` has made it known in a block
around. What a line does to variables can be told from its code, that is, from its tokens outside
literals and comments (`lineUsage`), and which variables are local at a line from the lines in front
of it (`Usage.pass`). Lines that give values to local variables only are `Confined`. So are lines
that make nothing local themselves, if all variables that they give values to are local where they
begin and every block is closed that they open (`Enclosed.confined`).
-/

set_option autoImplicit false

namespace Dissect.Script.Lua

/-! ## The code of a line -/

/-- Where in a line a character stands. -/
inductive Within where
  | code
  | literal
  /-- Behind a backslash in a literal. -/
  | escape

/-- The code in the rest of a line: of a literal only the quotes, and of a comment nothing. -/
def codeFrom : Within → List Char → List Char
  | _, [] => []
  | .code, c :: rest =>
    -- two hyphens begin a comment that goes on to the end of the line
    if c = '-' ∧ rest.head? = some '-' then []
    else c :: codeFrom (if c = '\x22' then .literal else .code) rest
  | .literal, c :: rest =>
    if c = '\x22' then c :: codeFrom .code rest
    else codeFrom (if c = '\\' then .escape else .literal) rest
  | .escape, _ :: rest => codeFrom .literal rest

/-- The tokens of a line outside literals and comments. -/
def codeTokens (line : List Char) : List Token := tokens (codeFrom .code line)

/-- Nothing in a text begins a literal or a comment. -/
def Bare (text : List Char) : Prop := '\x22' ∉ text ∧ '-' ∉ text

instance (text : List Char) : Decidable (Bare text) := inferInstanceAs (Decidable (_ ∧ _))

theorem codeFrom_append {a : List Char} (bare : Bare a) (b : List Char) :
    codeFrom .code (a ++ b) = a ++ codeFrom .code b := by
  obtain ⟨quote, hyphen⟩ := bare
  induction a with
  | nil => rfl
  | cons c rest ih =>
    rw [List.mem_cons, not_or] at quote hyphen
    have other : ¬ (c = '-' ∧ (rest ++ b).head? = some '-') := fun h => hyphen.1 h.1.symm
    rw [List.cons_append, codeFrom, if_neg other, if_neg (Ne.symm quote.1), ih quote.2 hyphen.2,
      List.cons_append]

theorem codeTokens_eq_tokens {a : List Char} (bare : Bare a) : codeTokens a = tokens a := by
  rw [codeTokens, ← List.append_nil a, codeFrom_append bare]
  rfl

/-- Nothing is left of a text in quotes, whatever its characters are. -/
theorem codeFrom_quoted (text behind : List Char) :
    codeFrom .literal (text.flatMap literalChar ++ '\x22' :: behind) =
      '\x22' :: codeFrom .code behind := by
  induction text with
  | nil => simp [codeFrom]
  | cons c rest ih =>
    rw [List.flatMap_cons, List.append_assoc]
    rcases literalChar_cases c with ⟨e, written, -⟩ | ⟨written, quote, backslash, -, -⟩
    · rw [written]
      simpa [codeFrom] using ih
    · rw [written]
      simpa [codeFrom, quote, backslash] using ih

theorem codeFrom_literal (text : String) (behind : List Char) :
    codeFrom .code ((literal text).toList ++ behind) =
      '\x22' :: '\x22' :: codeFrom .code behind := by
  have quoted := codeFrom_quoted text.toList behind
  rw [toList_literal]
  simpa [codeFrom] using quoted

/-- Nothing of a comment is code. -/
theorem codeTokens_comment (text : String) : codeTokens ("-- " ++ text).toList = [] := by
  rw [codeTokens, String.toList_append]
  rfl

/-- Code may be cut behind a character that is in no word. -/
theorem codeTokens_append {a : List Char} (bare : Bare a)
    (ends : a.getLast?.any isNameChar = false) (b : List Char) :
    codeTokens (a ++ b) = tokens a ++ codeTokens b := by
  rw [codeTokens, codeFrom_append bare, tokens_append_of_getLast ends, codeTokens]

/-- Indentation is no part of the code. -/
theorem codeTokens_dedented (line : List Char) : codeTokens (dedented line) = codeTokens line := by
  induction line with
  | nil => rfl
  | cons c rest ih =>
    by_cases space : c = ' '
    · have skip := codeTokens_append (a := [' ']) (by decide) (by decide) rest
      rw [space, dedented, List.dropWhile_cons_of_pos (by simp)]
      exact ih.trans skip.symm
    · rw [dedented, List.dropWhile_cons_of_neg (by simpa using space)]

/-- The code of a line of a writer is that of its content. -/
theorem codeTokens_chars (l : Line) : codeTokens l.chars = codeTokens l.content.toList := by
  unfold Line.chars
  split
  · next empty =>
    rw [String.isEmpty_iff.1 empty]
    rfl
  · rw [← codeTokens_dedented, dedented, List.dropWhile_append_of_pos (by simp)]
    exact codeTokens_dedented _

/-- A symbol is a character of the line. -/
theorem mem_of_symbol_mem_tokens {c : Char} {line : List Char} (mem : .symbol c ∈ tokens line) :
    c ∈ line := by
  -- words are put in front of tokens, and no word is a symbol
  have behind {word : List Char} {ts : List Token} (mem : .symbol c ∈ withWord word ts) :
      .symbol c ∈ ts := by
    unfold withWord at mem
    split at mem
    · exact mem
    · simpa using mem
  replace mem := behind mem
  induction line with
  | nil => cases mem
  | cons d rest ih =>
    rw [scan] at mem
    split at mem
    · exact List.mem_cons_of_mem d (ih mem)
    · rcases List.mem_append.1 mem with mem | mem
      · unfold mark at mem
        split at mem
        · cases mem
        · cases List.mem_singleton.1 mem
          exact List.mem_cons_self
      · exact List.mem_cons_of_mem d (ih (behind mem))

/-- What stands in front of an equals sign stands in front of the last one. -/
theorem word_mem_of_sublist {x : String} {front behind : List Token} (last : .symbol '=' ∉ behind)
    (stands : [.word x, .symbol '='].Sublist (front ++ .symbol '=' :: behind)) :
    .word x ∈ front := by
  induction front with
  | nil =>
    cases stands with
    | cons _ later => exact absurd (later.subset (by simp)) last
  | cons t rest ih =>
    cases stands with
    | cons _ later => exact List.mem_cons_of_mem t (ih later)
    | cons_cons _ _ => exact List.mem_cons_self

/-! ## Variables -/

/-- The names in front of an equals sign, if there is one, with commas between them. -/
def targets (ts : List Token) : List String :=
  ((ts.takeWhile (· ≠ .symbol '=')).splitOn (.symbol ',')).filterMap fun
    | [.word x] => some x
    | _ => none

/-- What a line does to variables. -/
inductive Usage where
  /-- Gives values to variables. A call gives values to none. -/
  | assigns (names : List String)
  /-- Makes variables local to the block around. -/
  | declares (names : List String)
  /-- Opens a block with local variables of its own. -/
  | opens (names : List String)
  /-- Closes a block and opens another one. -/
  | turns
  /-- Closes a block. -/
  | closes

namespace Usage

/-- The variables that are given values. -/
def assigned : Usage → List String
  | .assigns names => names
  | _ => []

/-- The local variables behind a line, given those in front of it. There is a list for each block
around, the innermost first. -/
def pass : Usage → List (List String) → List (List String)
  | .declares names, inner :: outer => (inner ++ names) :: outer
  | .opens names, scopes => names :: scopes
  | .turns, _ :: outer => [] :: outer
  | .closes, _ :: outer => outer
  | _, scopes => scopes

end Usage

/-- What the code of a line does to variables. -/
def usageOf : List Token → Usage
  | .word first :: rest =>
    if first = "local" then .declares (targets rest)
    else
      match effectOf first.toList with
      | .opens .loop => .opens (targets rest)
      -- parameters of functions are left out, so that fewer variables count as local
      | .opens _ => .opens []
      | .turns => .turns
      | .closes => .closes
      | .stays => .assigns (if .symbol '=' ∈ rest then targets (.word first :: rest) else [])
  | _ => .assigns []

/-- What a line does to variables. -/
def lineUsage (line : List Char) : Usage := usageOf (codeTokens line)

/-- A line gives a value to a variable. -/
def Assigns (x : String) (line : List Char) : Prop := x ∈ (lineUsage line).assigned

/-- Every variable that is given a value is local where it is given one. -/
def Confined : List (List String) → List Usage → Prop
  | _, [] => True
  | scopes, u :: rest =>
    (∀ x ∈ u.assigned, ∃ names ∈ scopes, x ∈ names) ∧ Confined (u.pass scopes) rest

/-- What is made local line by line is local behind these lines. -/
theorem confined_declares {inner : List String} {outer : List (List String)}
    {lists : List (List String)} {us : List Usage}
    (behind : Confined ((inner ++ lists.flatten) :: outer) us) :
    Confined (inner :: outer) (lists.map .declares ++ us) := by
  induction lists generalizing inner with
  | nil => simpa using behind
  | cons names rest ih =>
    refine ⟨List.forall_mem_nil _, ih ?_⟩
    rwa [List.append_assoc]

/-- Lines that declare nothing, close every block they open, and give values to the variables `own`
only. -/
inductive Enclosed (own : List String) : List Usage → Prop
  | nil : Enclosed own []
  | assigns {names : List String} {rest : List Usage} (known : names ⊆ own)
      (behind : Enclosed own rest) : Enclosed own (.assigns names :: rest)
  | block {names : List String} {inside rest : List Usage} (inner : Enclosed own inside)
      (behind : Enclosed own rest) : Enclosed own (.opens names :: inside ++ .closes :: rest)

namespace Enclosed

variable {own : List String} {us vs : List Usage}

theorem append (first : Enclosed own us) (second : Enclosed own vs) : Enclosed own (us ++ vs) := by
  induction first with
  | nil => exact second
  | assigns known _ ih => exact .assigns known ih
  | block inner _ _ ih =>
    rw [List.append_assoc]
    exact .block inner ih

/-- What holds of every kind of line there can be holds of all lines. -/
theorem forall_mem {p : Usage → Prop} (enclosed : Enclosed own us)
    (assigns : ∀ names ⊆ own, p (.assigns names)) (opens : ∀ names, p (.opens names))
    (closes : p .closes) : ∀ u ∈ us, p u := by
  induction enclosed with
  | nil => exact List.forall_mem_nil p
  | assigns known _ ih => exact List.forall_mem_cons.2 ⟨assigns _ known, ih⟩
  | block _ _ inside behind =>
    refine List.forall_mem_append.2 ⟨?_, List.forall_mem_cons.2 ⟨closes, behind⟩⟩
    exact List.forall_mem_cons.2 ⟨opens _, inside⟩

theorem assigned_subset (enclosed : Enclosed own us) : ∀ u ∈ us, u.assigned ⊆ own :=
  enclosed.forall_mem (fun _ known => known) (fun _ => List.nil_subset own) (List.nil_subset own)

theorem not_declares (enclosed : Enclosed own us) : ∀ u ∈ us, ∀ names, u ≠ .declares names :=
  enclosed.forall_mem (by simp) (by simp) (by simp)

/-- Where the variables are local that get values, they are so to the end, and what is local then is
what was at the beginning. -/
theorem confined (enclosed : Enclosed own us) {scopes : List (List String)}
    (visible : ∀ u ∈ us, ∀ x ∈ u.assigned, ∃ names ∈ scopes, x ∈ names) {later : List Usage}
    (behind : Confined scopes later) : Confined scopes (us ++ later) := by
  induction enclosed generalizing scopes later with
  | nil => exact behind
  | assigns _ _ ih =>
    obtain ⟨here, others⟩ := List.forall_mem_cons.1 visible
    exact ⟨here, ih others behind⟩
  | @block names inside rest _ _ inner outer =>
    obtain ⟨within, others⟩ := List.forall_mem_append.1 visible
    -- what is local around a block is local inside it
    have deeper : ∀ u ∈ inside, ∀ x ∈ u.assigned, ∃ known ∈ names :: scopes, x ∈ known := by
      intro u mem x given
      obtain ⟨known, around, found⟩ := within u (List.mem_cons_of_mem _ mem) x given
      exact ⟨known, List.mem_cons_of_mem names around, found⟩
    have closed : Confined (names :: scopes) (.closes :: (rest ++ later)) :=
      ⟨List.forall_mem_nil _, outer (List.forall_mem_cons.1 others).2 behind⟩
    have whole : .opens names :: inside ++ .closes :: rest ++ later =
        .opens names :: (inside ++ .closes :: (rest ++ later)) := by simp
    rw [whole]
    exact ⟨List.forall_mem_nil _, inner deeper closed⟩

end Enclosed

end Dissect.Script.Lua
