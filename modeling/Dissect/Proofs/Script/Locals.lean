import Dissect.Proofs.Script.Usage
import Mathlib.Data.List.Forall2

/-!
# The local variables of branches

A branch gives values to `off`, `sz` and `cnt`. The last two are made local only if they are needed.
Whether they are is told from the outermost instructions, while values are given to them at every
depth: a sequence reads its count in front of all that it has inside (`scratchUsed_decode_iff`). So
they are made local if and only if they are used, and no value of a branch goes to a global variable
(`branch_keeps_scratch_local`).

This is said of the text of a branch. Each of its lines does to variables what is said of the
statement it comes from (`followed_branch`), whatever the title and the reasons of placeholders are.
-/

set_option autoImplicit false

namespace Dissect.Script

open Lua
open Wire (Instruction Scalar allScalars allPlaceholders)

/-! ## The lines of a branch -/

/-- The variables for the length and the count read last. -/
def scratch : List String := ["sz", "cnt"]

/-- The variables that decoding gives values to. -/
def branchVariables : List String := "off" :: scratch

mutual

/-- What the lines of a statement of a branch do to variables. -/
def Statement.usages : Statement → List Usage
  | .beginSubtree _ _ => [.declares ["subtree"]]
  | .beginOffset => [.declares ["off"]]
  | .beginScratch => [.declares scratch]
  | .readSize => [.assigns ["sz"]]
  | .readCount => [.assigns ["cnt"]]
  | .advance _ => [.assigns ["off"]]
  | .addField _ _ _ _ | .comment _ => [.assigns []]
  | .forCount body => .opens ["i"] :: usagesOf body ++ [.closes]
  | _ => []

/-- What the lines of statements of a branch do to variables. -/
def usagesOf : List Statement → List Usage
  | [] => []
  | s :: rest => s.usages ++ usagesOf rest

end

theorem usagesOf_append (a b : List Statement) : usagesOf (a ++ b) = usagesOf a ++ usagesOf b := by
  induction a with
  | nil => rfl
  | cons s rest ih => rw [List.cons_append, usagesOf, usagesOf, ih, List.append_assoc]

theorem usagesOf_forCount (body : List Statement) :
    usagesOf [.forCount body] = .opens ["i"] :: usagesOf body ++ [.closes] := by
  rw [usagesOf, usagesOf, List.append_nil, Statement.usages]

/-- The line does this to variables, and in its code `sz` and `cnt` stand in front of an equals sign
only where they are given values. -/
structure Understood (content : String) (u : Usage) : Prop where
  oneLine : OneLine content
  usage : lineUsage content.toList = u
  only : ∀ x ∈ scratch, [.word x, .symbol '='].Sublist (codeTokens content.toList) →
    x ∈ u.assigned

/-- No identifier has a character that stands in no word. -/
theorem not_mem_of_isIdentifier {text : String} (h : isIdentifier text = true) {c : Char}
    (other : isNameChar c = false) : c ∉ text.toList := by
  intro mem
  rw [nameChars_of_isIdentifier h c mem] at other
  cases other

theorem bare_of_isIdentifier {text : String} (h : isIdentifier text = true) : Bare text.toList :=
  ⟨not_mem_of_isIdentifier h (by decide), not_mem_of_isIdentifier h (by decide)⟩

theorem oneLine_of_isIdentifier {text : String} (h : isIdentifier text = true) : OneLine text :=
  not_mem_of_isIdentifier h (by decide)

theorem not_mem_extent (extent : Extent) {c : Char} (other : isNameChar c = false) :
    c ∉ extent.text.toList := by
  intro mem
  cases extent with
  | bytes n =>
    rw [isNameChar, Char.isAlphanum, isDigit_of_mem_toString mem] at other
    simp at other
  | size =>
    have letters : "sz".toList.all isNameChar = true := rfl
    rw [List.all_eq_true.1 letters c mem] at other
    cases other

theorem not_mem_encoding {encoding : String}
    (known : encoding = numberEncoding ∨ encoding = textEncoding) {c : Char}
    (fixed : c ∉ (numberEncoding ++ textEncoding).toList) : c ∉ encoding.toList := by
  rw [String.toList_append, List.mem_append, not_or] at fixed
  rcases known with rfl | rfl
  · exact fixed.1
  · exact fixed.2

namespace Understood

variable {content : String} {u : Usage}

/-- A line without an equals sign. -/
theorem of_not_mem (oneLine : OneLine content) (usage : lineUsage content.toList = u)
    (without : .symbol '=' ∉ codeTokens content.toList) : Understood content u where
  oneLine := oneLine
  usage := usage
  only := by
    intro x _ stands
    exact absurd (stands.subset (by simp)) without

/-- A line with one equals sign. -/
theorem of_equals (front behind : List Token) (oneLine : OneLine content)
    (code : codeTokens content.toList = front ++ .symbol '=' :: behind)
    (last : .symbol '=' ∉ behind) (usage : usageOf (front ++ .symbol '=' :: behind) = u)
    (only : ∀ x ∈ scratch, .word x ∈ front → x ∈ u.assigned) : Understood content u where
  oneLine := oneLine
  usage := by rw [lineUsage, code, usage]
  only := by
    intro x mem stands
    rw [code] at stands
    exact only x mem (word_mem_of_sublist last stands)

theorem comment {text : String} (oneLine : OneLine text) :
    Understood ("-- " ++ text) (.assigns []) := by
  have nothing := codeTokens_comment text
  refine .of_not_mem (OneLine.append (by decide) oneLine) ?_ ?_
  · rw [lineUsage, nothing]
    rfl
  · rw [nothing]
    exact List.not_mem_nil

theorem subtree {var : String} (hvar : isIdentifier var = true) (title : String) :
    Understood s!"local subtree = tree:add({var}, buffer(), {literal title})"
      (.declares ["subtree"]) := by
  have written : s!"local subtree = tree:add({var}, buffer(), {literal title})" =
      "local subtree = tree:add(" ++ (var ++ (", buffer(), " ++ (literal title ++ ")"))) := by
    simp only [toString, String.append_assoc]
  have code : codeFrom .code (var ++ (", buffer(), " ++ (literal title ++ ")"))).toList =
      var.toList ++ ", buffer(), \"\")".toList := by
    simp only [String.toList_append]
    rw [codeFrom_append (bare_of_isIdentifier hvar), codeFrom_append (by decide), codeFrom_literal]
    rfl
  have unequal : '=' ∉ var.toList ++ ", buffer(), \"\")".toList := by
    rw [List.mem_append, not_or]
    exact ⟨not_mem_of_isIdentifier hvar (by decide), by decide⟩
  rw [written]
  refine .of_equals [.word "local", .word "subtree"]
    (tokens "tree:add(".toList ++ tokens (var.toList ++ ", buffer(), \"\")".toList)) ?_ ?_ ?_ rfl
    (by decide)
  · have quoted : OneLine (literal title) := oneLine_of_isLiteral (isLiteral_literal title)
    simp only [oneLine_append_iff, oneLine_of_isIdentifier hvar, quoted, true_and]
    decide
  · rw [String.toList_append, codeTokens_append (by decide) (by decide), codeTokens, code]
    rfl
  · rw [List.mem_append, not_or]
    exact ⟨by decide, fun mem => unequal (mem_of_symbol_mem_tokens mem)⟩

/-- A call for its effect. -/
theorem call {rest : String} (bare : Bare rest.toList) (equals : '=' ∉ rest.toList)
    (oneLine : OneLine rest) : Understood ("subtree:" ++ rest) (.assigns []) := by
  have code : codeTokens ("subtree:" ++ rest).toList =
      .word "subtree" :: .symbol ':' :: tokens rest.toList := by
    rw [String.toList_append, codeTokens_append (by decide) (by decide), codeTokens_eq_tokens bare]
    rfl
  have without : .symbol '=' ∉ Token.symbol ':' :: tokens rest.toList := by
    simpa using mt mem_of_symbol_mem_tokens equals
  refine .of_not_mem (.append (by decide) oneLine) ?_ ?_
  · rw [lineUsage, code]
    show Usage.assigns (if .symbol '=' ∈ Token.symbol ':' :: tokens rest.toList then _ else []) = _
    rw [if_neg without]
  · rw [code]
    simpa using without

theorem addField {var field encoding : String} (hvar : isIdentifier var = true)
    (hfield : isIdentifier field = true) (extent : Extent)
    (known : encoding = numberEncoding ∨ encoding = textEncoding) :
    Understood (s!"subtree:add_packet_field({var}.fields.{field}, "
      ++ s!"buffer(off, {extent.text}), {encoding})") (.assigns []) := by
  -- names and numbers are words, and the code around them is known
  have free {c : Char} (other : isNameChar c = false)
      (fixed : c ∉
        ("add_packet_field(" ++ ".fields." ++ ", " ++ "buffer(off, " ++ "), " ++ ")").toList)
      (fixed' : c ∉ (numberEncoding ++ textEncoding).toList) :
      c ∉ ("add_packet_field(" ++ var ++ ".fields." ++ field ++ ", "
        ++ ("buffer(off, " ++ extent.text ++ "), " ++ encoding ++ ")")).toList := by
    simp only [String.toList_append, List.mem_append, not_or] at fixed ⊢
    simp only [fixed, not_mem_of_isIdentifier hvar other, not_mem_of_isIdentifier hfield other,
      not_mem_extent extent other, not_mem_encoding known fixed', not_false_eq_true, and_self]
  have bare := And.intro (free (c := '\x22') (by decide) (by decide) (by decide))
    (free (c := '-') (by decide) (by decide) (by decide))
  have equals := free (c := '=') (by decide) (by decide) (by decide)
  exact call bare equals (free (by decide) (by decide) (by decide))

/-- `off = off + e` -/
theorem advance (extent : Extent) :
    Understood s!"off = off + {extent.text}" (.assigns ["off"]) := by
  refine .of_equals [.word "off"] [.word "off", .symbol '+', .word extent.text]
    (.append (by decide) (oneLine_extent extent)) ?_ (by simp) rfl (by decide)
  show codeTokens ("off = off + " ++ extent.text).toList = _
  have bare : Bare extent.text.toList :=
    ⟨not_mem_extent extent (by decide), not_mem_extent extent (by decide)⟩
  rw [String.toList_append, codeTokens_append (by decide) (by decide), codeTokens_eq_tokens bare,
    tokens_extent]
  rfl

/-- `x = buffer(off, n):le_uint()` -/
theorem read {x front : String} (mine : x ∈ scratch) (bare : Bare front.toList)
    (oneLine : OneLine front) (ends : front.toList.getLast?.any isNameChar = false)
    (begins : tokens front.toList = [.word x, .symbol '=', .word "buffer", .symbol '(', .word "off",
      .symbol ',']) (n : Nat) :
    Understood (front ++ toString n ++ "):le_uint()") (.assigns [x]) := by
  have digits {c : Char} (other : isNameChar c = false) (fixed : c ∉ "):le_uint()".toList) :
      c ∉ (toString n).toList ++ "):le_uint()".toList := by
    rw [List.mem_append, not_or]
    exact ⟨not_mem_extent (.bytes n) other, fixed⟩
  have bare' : Bare ((toString n).toList ++ "):le_uint()".toList) :=
    ⟨digits (by decide) (by decide), digits (by decide) (by decide)⟩
  refine .of_equals [.word x] [.word "buffer", .symbol '(', .word "off", .symbol ',',
    .word (toString n), .symbol ')', .symbol ':', .word "le_uint", .symbol '(', .symbol ')']
    ?_ ?_ (by simp) ?_ (by simp [Usage.assigned])
  · exact (oneLine.append (oneLine_number n)).append (by decide)
  · rw [String.toList_append, String.toList_append, List.append_assoc, codeTokens_append bare ends,
      begins, codeTokens_eq_tokens bare', tokens_append (b := "):le_uint()".toList) rfl,
      tokens_number]
    rfl
  · -- neither of the two names is a word with an effect
    rcases List.mem_cons.1 mine with rfl | mine
    · rfl
    · cases List.mem_singleton.1 mine
      rfl

theorem size : Understood s!"sz = buffer(off, {Wire.lengthWidth}):le_uint()" (.assigns ["sz"]) :=
  read (by decide) (by decide) (by decide) (by decide) rfl _

theorem count : Understood s!"cnt = buffer(off, {Wire.countWidth}):le_uint()" (.assigns ["cnt"]) :=
  read (by decide) (by decide) (by decide) (by decide) rfl _

theorem loop : Understood "for i=1,cnt do" (.opens ["i"]) :=
  .of_equals [.word "for", .word "i"] _ (by decide) rfl (by decide) rfl (by decide)

theorem close : Understood "end" .closes := .of_not_mem (by decide) rfl (by decide)

theorem offset : Understood "local off = 0" (.declares ["off"]) :=
  .of_equals [.word "local", .word "off"] _ (by decide) rfl (by decide) rfl (by decide)

theorem declaration : Understood "local sz, cnt" (.declares scratch) :=
  .of_not_mem (by decide) rfl (by decide)

end Understood

/-- The lines of statements do to variables what is said of the statements. -/
def Followed (ss : List Statement) : Prop :=
  ∀ level, List.Forall₂ (fun l u => Understood l.content u) (linesOf ss level) (usagesOf ss)

namespace Followed

variable {a b : List Statement} {s : Statement}

theorem nil : Followed [] := fun _ => .nil

theorem append (first : Followed a) (second : Followed b) : Followed (a ++ b) := by
  intro level
  rw [linesOf_append, usagesOf_append]
  exact List.rel_append (first level) (second level)

theorem cons (first : Followed [s]) (second : Followed b) : Followed (s :: b) :=
  first.append second

/-- A statement that is written as one line. -/
theorem line {content : String} {u : Usage}
    (written : ∀ level, s.lines level = [⟨level, content⟩]) (usages : s.usages = [u])
    (understood : Understood content u) : Followed [s] := by
  intro level
  rw [linesOf_singleton, written, usagesOf, usages]
  exact .cons understood .nil

theorem advance (extent : Extent) : Followed [.advance extent] :=
  line (fun _ => rfl) rfl (.advance extent)

theorem forCount (inside : Followed a) : Followed [.forCount a] := by
  intro level
  rw [linesOf_singleton, lines_forCount, usagesOf_forCount]
  exact .cons .loop (List.rel_append (inside (level + 1)) (.cons .close .nil))

end Followed

section Decoding

variable {var : String}

theorem followed_scalar (hvar : isIdentifier var = true) {field : String}
    (hfield : isIdentifier field = true) (type : Scalar) :
    Followed (scalarStatements var field type) := by
  unfold scalarStatements
  split
  · exact .nil
  · next encoding found =>
    have add (extent : Extent) : Followed [.addField var field extent encoding] :=
      .line (fun _ => rfl) rfl (.addField hvar hfield extent (encoding?_cases found))
    split
    · exact .nil
    · exact (add _).cons (.advance _)
    · have size : Followed [.readSize] := .line (fun _ => rfl) rfl .size
      exact size.cons ((Followed.advance _).cons ((add _).cons (.advance _)))

mutual

theorem followed_instruction (hvar : isIdentifier var = true) : ∀ i : Instruction,
    (∀ s ∈ i.scalars, isIdentifier s.1 = true) → (∀ u ∈ i.placeholders, isIdentifier u.1 = true) →
      Followed (instructionStatements var i)
  | .scalar field type, scalars, _ =>
    followed_scalar hvar (scalars (field, type) (by simp [Instruction.scalars])) type
  | .counted body, scalars, placeholders => by
    have count : Followed [.readCount] := .line (fun _ => rfl) rfl .count
    exact count.cons ((Followed.advance _).cons
      (.forCount (followed_decode hvar body scalars placeholders)))
  | .unresolved field reason, _, placeholders => by
    have ident := placeholders (field, reason) (by simp [Instruction.placeholders])
    have plain : OneLine (field ++ ": " ++ Text.oneLine reason) :=
      ((oneLine_of_isIdentifier ident).append (by decide)).append (oneLine_flattened reason)
    exact Followed.line (fun _ => rfl) rfl (.comment plain)

theorem followed_decode (hvar : isIdentifier var = true) : ∀ is : List Instruction,
    (∀ s ∈ allScalars is, isIdentifier s.1 = true) →
      (∀ u ∈ allPlaceholders is, isIdentifier u.1 = true) → Followed (decodeStatements var is)
  | [], _, _ => .nil
  | i :: rest, scalars, placeholders => by
    rw [allScalars] at scalars
    rw [allPlaceholders] at placeholders
    obtain ⟨first, others⟩ := List.forall_mem_append.1 scalars
    obtain ⟨first', others'⟩ := List.forall_mem_append.1 placeholders
    exact (followed_instruction hvar i first first').append
      (followed_decode hvar rest others others')

end

theorem followed_branch (hvar : isIdentifier var = true) (title : String) {is : List Instruction}
    (scalars : ∀ s ∈ allScalars is, isIdentifier s.1 = true)
    (placeholders : ∀ u ∈ allPlaceholders is, isIdentifier u.1 = true) :
    Followed (branch var title is) := by
  have subtree : Followed [.beginSubtree var title] :=
    .line (fun _ => rfl) rfl (.subtree hvar title)
  have offset : Followed [.beginOffset] := .line (fun _ => rfl) rfl .offset
  have declaration : Followed [.beginScratch] := .line (fun _ => rfl) rfl .declaration
  refine ((subtree.cons offset).append ?_).append (followed_decode hvar is scalars placeholders)
  split
  · exact declaration
  · exact .nil

end Decoding

namespace Followed

variable {ss : List Statement} (followed : Followed ss) (level : Nat)
include followed

theorem map_lineUsage : ((linesOf ss level).map Line.chars).map lineUsage = usagesOf ss := by
  have each : List.Forall₂ (· = ·) (((linesOf ss level).map Line.chars).map lineUsage)
      (usagesOf ss) := by
    rw [List.map_map, List.forall₂_map_left_iff]
    refine (followed level).imp fun l u understood => ?_
    show usageOf (codeTokens l.chars) = u
    rw [codeTokens_chars]
    exact understood.usage
  rwa [List.forall₂_eq_eq_eq] at each

theorem understood {l : Line} (mem : l ∈ linesOf ss level) :
    Understood l.content (lineUsage l.chars) := by
  have each := followed level
  -- lines and usages are taken pair by pair, so it does not matter where they come from
  generalize linesOf ss level = ls, usagesOf ss = us at each mem
  induction each with
  | nil => cases mem
  | cons understood _ ih =>
    rcases List.mem_cons.1 mem with rfl | mem
    · rw [lineUsage, codeTokens_chars, ← lineUsage, understood.usage]
      exact understood
    · exact ih mem

end Followed

/-! ## Where variables are needed -/

section Needs

variable (var : String)

theorem enclosed_scalar (field : String) (type : Scalar) :
    Enclosed branchVariables (usagesOf (scalarStatements var field type)) := by
  unfold scalarStatements
  split
  · exact .nil
  · split
    · exact .nil
    · exact .assigns (by decide) (.assigns (by decide) .nil)
    · exact .assigns (by decide) (.assigns (by decide)
        (.assigns (by decide) (.assigns (by decide) .nil)))

mutual

theorem enclosed_instruction : ∀ i : Instruction,
    Enclosed branchVariables (usagesOf (instructionStatements var i))
  | .scalar field type => enclosed_scalar var field type
  | .counted body => by
    have loop : Enclosed branchVariables (usagesOf [.forCount (decodeStatements var body)]) := by
      rw [usagesOf_forCount]
      exact .block (enclosed_decode body) .nil
    exact .assigns (by decide) (.assigns (by decide) loop)
  | .unresolved _ _ => .assigns (by decide) .nil

/-- The lines that decode declare nothing and close every block they open. -/
theorem enclosed_decode : ∀ is : List Instruction,
    Enclosed branchVariables (usagesOf (decodeStatements var is))
  | [] => .nil
  | i :: rest => by
    rw [decodeStatements, usagesOf_append]
    exact (enclosed_instruction i).append (enclosed_decode rest)

end

/-- Some line gives a value to `sz` or `cnt`. -/
def ScratchUsed (us : List Usage) : Prop := ∃ u ∈ us, ∃ x ∈ scratch, x ∈ u.assigned

theorem scratchUsed_append_iff {a b : List Usage} :
    ScratchUsed (a ++ b) ↔ ScratchUsed a ∨ ScratchUsed b := by
  simp [ScratchUsed, or_and_right, exists_or]

theorem scratchUsed_instruction_iff (i : Instruction) :
    ScratchUsed (usagesOf (instructionStatements var i)) ↔ needsScratch i = true := by
  cases i with
  | scalar field type =>
    show ScratchUsed (usagesOf (scalarStatements var field type)) ↔ type.isPrefixed = true
    unfold scalarStatements Scalar.isPrefixed
    split
    · next absent =>
      -- what has no encoding is not on the wire, so that it has no length either
      rw [(encoding?_eq_none_iff type).1 absent]
      simp [ScratchUsed, usagesOf]
    · split
      · next width => simp [ScratchUsed, usagesOf, width]
      · next width =>
        simp [ScratchUsed, usagesOf, Statement.usages, Usage.assigned, scratch, width]
      · next width =>
        simp [ScratchUsed, usagesOf, Statement.usages, Usage.assigned, scratch, width]
  | counted body =>
    -- the count is read in front of the body, whatever the body reads
    refine iff_of_true ⟨.assigns ["cnt"], ?_, "cnt", by decide, List.mem_cons_self⟩ rfl
    exact List.mem_cons_self
  | unresolved field reason =>
    refine iff_of_false ?_ (by simp [needsScratch])
    simp [ScratchUsed, instructionStatements, placeholder, usagesOf, Statement.usages,
      Usage.assigned]

/-- Whether `sz` or `cnt` is used at any depth is told from the outermost instructions. -/
theorem scratchUsed_decode_iff (is : List Instruction) :
    ScratchUsed (usagesOf (decodeStatements var is)) ↔ is.any needsScratch = true := by
  induction is with
  | nil => simp [ScratchUsed, decodeStatements, usagesOf]
  | cons i rest ih =>
    rw [decodeStatements, usagesOf_append, scratchUsed_append_iff, scratchUsed_instruction_iff, ih,
      List.any_cons, Bool.or_eq_true]

/-- The variables that a branch makes local, line by line. -/
def madeLocal (is : List Instruction) : List (List String) :=
  ["subtree"] :: ["off"] :: if is.any needsScratch then [scratch] else []

theorem scratch_mem_madeLocal_iff (is : List Instruction) :
    scratch ∈ madeLocal is ↔ is.any needsScratch = true := by
  unfold madeLocal
  split
  · next needed => simp [needed]
  · next needed => simp [scratch, needed]

variable (title : String) (is : List Instruction)

/-- A branch makes its variables local, and then it decodes. -/
theorem usagesOf_branch :
    usagesOf (branch var title is) =
      (madeLocal is).map .declares ++ usagesOf (decodeStatements var is) := by
  rw [branch, usagesOf_append, usagesOf_append, madeLocal]
  split <;> rfl

/-- `sz` and `cnt` are made local if they are needed, and only then. -/
theorem declares_mem_branch_iff :
    .declares scratch ∈ usagesOf (branch var title is) ↔ is.any needsScratch = true := by
  have settled : .declares scratch ∉ usagesOf (decodeStatements var is) :=
    fun mem => (enclosed_decode var is).not_declares _ mem scratch rfl
  have front : Usage.declares scratch ∈ (madeLocal is).map .declares ↔ scratch ∈ madeLocal is := by
    simp
  rw [usagesOf_branch, List.mem_append, or_iff_left settled, front, scratch_mem_madeLocal_iff]

theorem scratchUsed_branch_iff :
    ScratchUsed (usagesOf (branch var title is)) ↔ is.any needsScratch = true := by
  have silent : ¬ ScratchUsed ((madeLocal is).map .declares) := by
    rintro ⟨u, mem, x, -, given⟩
    obtain ⟨names, -, rfl⟩ := List.mem_map.1 mem
    cases given
  rw [usagesOf_branch, scratchUsed_append_iff, or_iff_right silent, scratchUsed_decode_iff]

/-- Nothing is made local behind a line that gives a value to a variable. -/
theorem pairwise_branch :
    (usagesOf (branch var title is)).Pairwise fun earlier later =>
      earlier.assigned = [] ∨ ∀ names, later ≠ .declares names := by
  have settled := (enclosed_decode var is).not_declares
  rw [usagesOf_branch, List.pairwise_append]
  refine ⟨?_, ?_, fun _ _ u mem => .inr (settled u mem)⟩
  · rw [List.pairwise_map]
    exact List.pairwise_of_forall fun _ _ => .inl rfl
  · exact List.pairwise_of_forall_mem_list fun _ _ u mem => .inr (settled u mem)

/-- All variables of a branch are local where they are given values. -/
theorem confined_branch : Confined [[]] (usagesOf (branch var title is)) := by
  have enclosed := enclosed_decode var is
  have made {names : List String} {x : String} (mem : names ∈ madeLocal is) (name : x ∈ names) :
      ∃ inner ∈ [[] ++ (madeLocal is).flatten], x ∈ inner :=
    ⟨_, List.mem_cons_self, List.mem_flatten.2 ⟨names, mem, name⟩⟩
  rw [usagesOf_branch]
  apply confined_declares
  rw [← List.append_nil (usagesOf _)]
  refine enclosed.confined ?_ trivial
  intro u mem x given
  rcases List.mem_cons.1 (enclosed.assigned_subset u mem given) with rfl | mine
  · exact made (List.mem_cons_of_mem _ List.mem_cons_self) List.mem_cons_self
  · have used : ScratchUsed (usagesOf (decodeStatements var is)) := ⟨u, mem, x, mine, given⟩
    rw [scratchUsed_decode_iff, ← scratch_mem_madeLocal_iff] at used
    exact made used mine

end Needs

/-! ## Branches -/

/-- A line gives a value to `sz` or `cnt`. -/
def AssignsScratch (line : List Char) : Prop := ∃ x ∈ scratch, Assigns x line

/-- A line is `local sz, cnt`, however far it is indented. -/
def DeclaresScratch (line : List Char) : Prop := dedented line = "local sz, cnt".toList

theorem lineUsage_of_declaresScratch {line : List Char} (declares : DeclaresScratch line) :
    lineUsage line = .declares scratch := by
  rw [lineUsage, ← codeTokens_dedented, declares]
  rfl

theorem exists_assignsScratch_iff (ls : List (List Char)) :
    (∃ line ∈ ls, AssignsScratch line) ↔ ScratchUsed (ls.map lineUsage) := by
  simp [ScratchUsed, AssignsScratch, Assigns]

theorem not_declaresScratch_of_assignsScratch {line : List Char} (assigns : AssignsScratch line) :
    ¬ DeclaresScratch line := by
  obtain ⟨x, -, given⟩ := assigns
  intro declares
  rw [Assigns, lineUsage_of_declaresScratch declares] at given
  cases given

/-- The line is there if it is needed, and only then. -/
theorem exists_declaresScratch_iff {var title : String} {is : List Instruction}
    (followed : Followed (branch var title is)) (level : Nat) :
    (∃ line ∈ (linesOf (branch var title is) level).map Line.chars, DeclaresScratch line) ↔
      is.any needsScratch = true := by
  constructor
  · rintro ⟨line, mem, declares⟩
    have told := List.mem_map_of_mem (f := lineUsage) mem
    rwa [lineUsage_of_declaresScratch declares, followed.map_lineUsage, declares_mem_branch_iff]
      at told
  · intro needed
    have begins : Begins "local sz, cnt" .stays := ⟨by decide, by decide⟩
    have written : ⟨level, "local sz, cnt"⟩ ∈ linesOf (branch var title is) level := by
      rw [branch, if_pos needed, linesOf_append, linesOf_append]
      exact List.mem_append_left _ (List.mem_append_right _ List.mem_cons_self)
    exact ⟨_, List.mem_map_of_mem written, (chars_of_begins begins level).2.1⟩

/-- The variables `sz` and `cnt` of a branch are local, whatever its title is and however deep its
instructions are nested, if the protocol and the fields have identifiers as names. Of the lines that
are written, one gives a value to `sz` or `cnt` if and only if one is `local sz, cnt`, which then
stands in front of every line that gives a value to one of them, and not behind. Nowhere else do the
two names stand in front of an equals sign, literals and comments apart. All variables that a branch
gives values to are local where it does so, even if none is local around it. -/
theorem branch_keeps_scratch_local {var : String} (hvar : isIdentifier var = true) (title : String)
    {is : List Instruction} (scalars : ∀ s ∈ allScalars is, isIdentifier s.1 = true)
    (placeholders : ∀ u ∈ allPlaceholders is, isIdentifier u.1 = true) (w : Writer) :
    ∃ added ls,
      (writeAll (branch var title is) w).text = w.text ++ added ∧
      Lua.lines added.toList = ls ++ [[]] ∧
      ((∃ line ∈ ls, AssignsScratch line) ↔ ∃ line ∈ ls, DeclaresScratch line) ∧
      (∀ front line behind, ls = front ++ line :: behind → AssignsScratch line →
        (∃ d ∈ front, DeclaresScratch d) ∧ ∀ d ∈ behind, ¬ DeclaresScratch d) ∧
      (∀ line ∈ ls, ∀ x ∈ scratch,
        [.word x, .symbol '='].Sublist (codeTokens line) → Assigns x line) ∧
      Confined [[]] (ls.map lineUsage) := by
  have followed := followed_branch hvar title scalars placeholders
  have usages := followed.map_lineUsage w.level
  have plain : ∀ l ∈ linesOf (branch var title is) w.level, OneLine l.content :=
    fun l mem => (followed.understood w.level mem).oneLine
  have declared := exists_declaresScratch_iff followed w.level
  -- whether an outermost instruction needs the variables is what both sides come down to
  rw [← scratchUsed_branch_iff var title, ← usages, ← exists_assignsScratch_iff] at declared
  refine ⟨_, _, text_writeAll _ w, lines_textOf plain, declared.symm, ?_, ?_, ?_⟩
  · intro front line behind split assigns
    -- no line behind an assignment makes variables local, so that the one there is stands in front
    have order := pairwise_branch var title is
    rw [← usages, split, List.pairwise_map, List.pairwise_append, List.pairwise_cons] at order
    have settled : ∀ d ∈ behind, ¬ DeclaresScratch d := by
      intro d mem declares
      obtain ⟨x, -, given⟩ := assigns
      rcases order.2.1.1 d mem with silent | settled
      · rw [Assigns, silent] at given
        cases given
      · exact settled scratch (lineUsage_of_declaresScratch declares)
    obtain ⟨d, mem, declares⟩ := declared.2 ⟨line, by rw [split]; simp, assigns⟩
    rw [split, List.mem_append, List.mem_cons] at mem
    rcases mem with mem | rfl | mem
    · exact ⟨⟨d, mem, declares⟩, settled⟩
    · exact absurd declares (not_declaresScratch_of_assignsScratch assigns)
    · exact absurd declares (settled d mem)
  · intro line mem x mine stands
    obtain ⟨l, inside, rfl⟩ := List.mem_map.1 mem
    rw [codeTokens_chars] at stands
    exact (followed.understood w.level inside).only x mine stands
  · rw [usages]
    exact confined_branch var title is

namespace Crowded

/-- Loops inside one another, and fields that are named like the variables of a branch. -/
def layout : List Instruction :=
  [.scalar "off" .variant, .counted [.scalar "sz" .uint8, .counted [.scalar "cnt" .string]],
    .unresolved "end" "sz = 1\nlocal sz, cnt"]

/-- Read as code, the title would end its literal and give `sz` a value. -/
def title : String := "Chat\") sz = 1 --\nlocal sz, cnt"

theorem layout_keeps_scratch_local :
    isIdentifier "sz" = true ∧ (∀ s ∈ allScalars layout, isIdentifier s.1 = true) ∧
    (∀ u ∈ allPlaceholders layout, isIdentifier u.1 = true) ∧ layout.any needsScratch = true ∧
    ∃ added ls,
      (writeAll (branch "sz" title layout) .empty).text = Writer.empty.text ++ added ∧
      Lua.lines added.toList = ls ++ [[]] ∧
      ((∃ line ∈ ls, AssignsScratch line) ↔ ∃ line ∈ ls, DeclaresScratch line) ∧
      (∀ front line behind, ls = front ++ line :: behind → AssignsScratch line →
        (∃ d ∈ front, DeclaresScratch d) ∧ ∀ d ∈ behind, ¬ DeclaresScratch d) ∧
      (∀ line ∈ ls, ∀ x ∈ scratch,
        [.word x, .symbol '='].Sublist (codeTokens line) → Assigns x line) ∧
      Confined [[]] (ls.map lineUsage) := by
  have named : isIdentifier "sz" = true := by decide
  have scalars : ∀ s ∈ allScalars layout, isIdentifier s.1 = true := by decide
  have placeholders : ∀ u ∈ allPlaceholders layout, isIdentifier u.1 = true := by decide
  refine ⟨named, scalars, placeholders, by decide, ?_⟩
  exact branch_keeps_scratch_local named title scalars placeholders .empty

end Crowded

end Dissect.Script
