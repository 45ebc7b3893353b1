import Dissect.Proofs.Script.Reader

/-!
# Written statements are read back

Every decode statement stands for a command (`Statement.code`), and the lines that are written for
statements are read as just these commands (`script?_writeAll`). What is asked of the statements
is that protocol variables and fields have names, and that encodings are those in use.
-/

set_option autoImplicit false

namespace Dissect.Script

open Lua

/-- The expression of a number of bytes. -/
def Extent.expr : Extent → Expr
  | .bytes n => .number n
  | .size => .name "sz"

/-- `buffer(off, e)` -/
def rangeAtOffset (e : Expr) : Expr := .call (.name "buffer") [.name "off", e]

/-- `buffer(off, n):le_uint()` -/
def numberAtOffset (n : Nat) : Expr :=
  .call (.method (rangeAtOffset (.number n)) "le_uint") []

/-- `var.fields.field` -/
def fieldOf (var field : String) : Expr := .member (.member (.name var) "fields") field

/-- The encoding of numbers. -/
def numberEncoding : String := "ENC_LITTLE_ENDIAN"

/-- The encoding of texts. -/
def textEncoding : String := "ENC_STRING + ENC_ASCII"

/-- The expression of an encoding. -/
def encodingExpr (encoding : String) : Expr :=
  if encoding = textEncoding then .sum (.name "ENC_STRING") (.name "ENC_ASCII")
  else .name encoding

mutual

/-- The commands that a decode statement stands for. -/
def Statement.code : Statement → List Command
  | .readSize => [.assign "sz" (numberAtOffset Wire.lengthWidth)]
  | .readCount => [.assign "cnt" (numberAtOffset Wire.countWidth)]
  | .advance extent => [.assign "off" (.sum (.name "off") extent.expr)]
  | .addField var field extent encoding =>
    [.perform (.call (.method (.name "subtree") "add_packet_field")
      [fieldOf var field, rangeAtOffset extent.expr, encodingExpr encoding])]
  | .forCount body => [.loop "i" (.number 1) (.name "cnt") (codeAll body)]
  | _ => []

/-- The commands that decode statements stand for. -/
def codeAll : List Statement → List Command
  | [] => []
  | s :: rest => s.code ++ codeAll rest

end

theorem codeAll_append (first second : List Statement) :
    codeAll (first ++ second) = codeAll first ++ codeAll second := by
  induction first with
  | nil => rfl
  | cons s rest ih => rw [List.cons_append, codeAll, codeAll, ih, List.append_assoc]

/-- The decode statements whose names and encodings can be read. -/
inductive Statement.Readable : Statement → Prop
  | readSize : Readable .readSize
  | readCount : Readable .readCount
  | advance (extent : Extent) : Readable (.advance extent)
  | addField {var field encoding : String} (extent : Extent) (hvar : isName var = true)
      (hfield : isName field = true)
      (hencoding : encoding = numberEncoding ∨ encoding = textEncoding) :
      Readable (.addField var field extent encoding)
  | forCount {body : List Statement} : (∀ s ∈ body, Readable s) → Readable (.forCount body)

/-! ## Single lines -/

/-- The characters of a line that may be read back: no line ends within it. -/
def OneLine (content : String) : Prop := '\n' ∉ content.toList

instance (content : String) : Decidable (OneLine content) := inferInstanceAs (Decidable (¬ _))

theorem OneLine.append {a b : String} (ha : OneLine a) (hb : OneLine b) : OneLine (a ++ b) := by
  intro mem
  rw [String.toList_append, List.mem_append] at mem
  rcases mem with mem | mem
  · exact ha mem
  · exact hb mem

theorem oneLine_name {text : String} (h : isName text = true) : OneLine text := by
  intro mem
  unfold isName at h
  rw [Bool.and_eq_true, Bool.and_eq_true, List.all_eq_true] at h
  exact absurd (h.1.2 _ mem) (by decide)

theorem oneLine_number (n : Nat) : OneLine (toString n) := by
  intro mem
  exact absurd (isDigit_of_mem_toString mem) (by decide)

theorem tokens_number (n : Nat) : tokens (toString n).toList = [.word (toString n)] := by
  have all : (toString n).toList.all isNameChar = true := by
    rw [List.all_eq_true]
    intro c hc
    simp [isNameChar, Char.isAlphanum, isDigit_of_mem_toString hc]
  have ne : (toString n).toList ≠ [] := by
    rw [Nat.toString_eq_ofList_toDigits, String.toList_ofList]
    exact Nat.toDigits_ne_nil
  rw [tokens_word ne all, String.ofList_toList]

theorem tokens_extent (extent : Extent) : tokens extent.text.toList = [.word extent.text] := by
  cases extent with
  | bytes n => exact tokens_number n
  | size => rfl

theorem operand?_extent (extent : Extent) : operand? extent.text = some extent.expr := by
  cases extent with
  | bytes n => exact operand?_number n
  | size => rfl

theorem oneLine_extent (extent : Extent) : OneLine extent.text := by
  cases extent with
  | bytes n => exact oneLine_number n
  | size => decide

theorem readsOperand_extent (extent : Extent) : ReadsOperand [.word extent.text] extent.expr :=
  .word (operand?_extent extent)

/-- The tokens of `buffer(off, e)`. -/
def rangeTokens (extent : Extent) : List Token :=
  [.word "buffer", .symbol '(', .word "off", .symbol ',', .word extent.text, .symbol ')']

theorem readsOperand_range (extent : Extent) :
    ReadsOperand (rangeTokens extent) (rangeAtOffset extent.expr) :=
  .call (.name (by decide)) (.comma (.single (.name (by decide)))
    (.single (readsOperand_extent extent)))

/-- The tokens of `var.fields.field`. -/
def fieldTokens (var field : String) : List Token :=
  [.word var, .symbol '.', .word "fields", .symbol '.', .word field]

theorem readsOperand_field {var field : String} (hvar : isName var = true)
    (hfield : isName field = true) : ReadsOperand (fieldTokens var field) (fieldOf var field) :=
  .member (.member (.name hvar) (by decide)) hfield

/-- The tokens of `subtree:add_packet_field`. -/
def adderTokens : List Token := [.word "subtree", .symbol ':', .word "add_packet_field"]

theorem readsOperand_adder :
    ReadsOperand adderTokens (.method (.name "subtree") "add_packet_field") :=
  .method (.name (by decide)) (by decide)

/-- The tokens of an encoding. -/
theorem readsList_encoding {encoding : String}
    (h : encoding = numberEncoding ∨ encoding = textEncoding) :
    ReadsList (tokens encoding.toList) [encodingExpr encoding] := by
  rcases h with rfl | rfl
  · exact .single (.name (by decide))
  · exact .sum (.name (by decide)) (.name (by decide))

/-- `off = off + e` -/
theorem form?_advance (extent : Extent) :
    form? (tokens (s!"off = off + {extent.text}").toList) =
      some (.command (.assign "off" (.sum (.name "off") extent.expr))) := by
  have split : tokens (s!"off = off + {extent.text}").toList =
      [.word "off", .symbol '=', .word "off", .symbol '+', .word extent.text] := by
    show tokens ("off = off + " ++ extent.text).toList = _
    rw [String.toList_append, tokens_append_of_getLast (by decide), tokens_extent]
    rfl
  rw [split]
  refine form?_assign (by decide) (ReadsList.expressions?_eq ?_)
  exact .sum (.name (by decide)) (readsOperand_extent extent)

/-- `subtree:add_packet_field(var.fields.field, buffer(off, e), encoding)` -/
theorem form?_addField {var field encoding : String} (extent : Extent) (hvar : isName var = true)
    (hfield : isName field = true)
    (hencoding : encoding = numberEncoding ∨ encoding = textEncoding) :
    form? (tokens (s!"subtree:add_packet_field({var}.fields.{field}, "
      ++ s!"buffer(off, {extent.text}), {encoding})").toList) =
      some (.command (.perform (.call (.method (.name "subtree") "add_packet_field")
        [fieldOf var field, rangeAtOffset extent.expr, encodingExpr encoding]))) := by
  -- The words of the schema stand between characters that end a word.
  have split : tokens ("subtree:add_packet_field(" ++ var ++ ".fields." ++ field ++ ", "
      ++ ("buffer(off, " ++ extent.text ++ "), " ++ encoding ++ ")")).toList =
      adderTokens ++ [.symbol '('] ++ (fieldTokens var field ++ [.symbol ','] ++ rangeTokens extent
        ++ [.symbol ','] ++ tokens encoding.toList) ++ [.symbol ')'] := by
    simp only [String.toList_append, List.append_assoc]
    rw [tokens_append_of_getLast (by decide), tokens_append (b := _ ++ _) rfl, tokens_name hvar,
      tokens_append_of_getLast (by decide), tokens_append (b := _ ++ _) rfl, tokens_name hfield,
      tokens_append_of_getLast (by decide), tokens_append_of_getLast (by decide),
      tokens_append (b := _ ++ _) rfl, tokens_extent, tokens_append_of_getLast (by decide),
      tokens_append (b := ")".toList) rfl]
    rfl
  have operands := ((ReadsList.single (readsOperand_field hvar hfield)).comma
    (.single (readsOperand_range extent))).comma (readsList_encoding hencoding)
  have whole := (ReadsList.single (readsOperand_adder.call operands)).expressions?_eq
  exact Eq.trans (congrArg form? split) (form?_send whole)

/-! ## Blocks -/

/-- Reads the lines of a writer. -/
def readLines (written : List Line) (n : Nesting) : Option Nesting :=
  written.foldlM (fun n l => n.readLine l.content.toList) n

theorem readLines_append (a b : List Line) (n : Nesting) :
    readLines (a ++ b) n = (readLines a n).bind (readLines b) :=
  List.foldlM_append ..

theorem readLines_single (level : Nat) {content : String} {form : Form}
    (h : form? (tokens content.toList) = some form) (n : Nesting) :
    readLines [⟨level, content⟩] n = n.step form := by
  rw [readLines, List.foldlM_cons, Nesting.readLine, h]
  cases form with
  | closing => cases outer : n.outer <;> simp [Nesting.step, outer]
  | _ => rfl

/-- What `write` adds to a writer is read as the commands `code`, whatever comes before it. -/
def Rereads (write : Writer → Writer) (code : List Command) : Prop :=
  ∀ w, ∃ written : List Line, write w = ⟨w.level, w.lines ++ written.toArray⟩ ∧
    (∀ l ∈ written, OneLine l.content) ∧
    ∀ n, readLines written n = some { n with inner := n.inner ++ code }

namespace Rereads

theorem nothing : Rereads id [] := by
  intro w
  refine ⟨[], by simp, by simp, ?_⟩
  intro n
  simp [readLines]

/-- One thing written after another. -/
theorem andThen {f g : Writer → Writer} {a b : List Command} (hf : Rereads f a)
    (hg : Rereads g b) : Rereads (fun w => g (f w)) (a ++ b) := by
  intro w
  obtain ⟨first, eq, plain, read⟩ := hf w
  obtain ⟨second, eq', plain', read'⟩ := hg (f w)
  refine ⟨first ++ second, ?_, ?_, ?_⟩
  · show g (f w) = _
    rw [eq', eq]
    simp
  · intro l mem
    rcases List.mem_append.1 mem with mem | mem
    · exact plain l mem
    · exact plain' l mem
  · intro n
    rw [readLines_append, read n, Option.bind_some, read']
    simp

/-- A line that says a command. -/
theorem line {content : String} {c : Command} (plain : OneLine content)
    (meaning : form? (tokens content.toList) = some (.command c)) :
    Rereads (fun w => w.line content) [c] := by
  intro w
  refine ⟨[⟨w.level, content⟩], by simp [Writer.line], by simpa using plain, ?_⟩
  intro n
  exact readLines_single w.level meaning n

/-- A loop around what is read as its body. -/
theorem block {first : String} {x : String} {start stop : Expr} {body : Writer → Writer}
    {code : List Command} (plain : OneLine first)
    (meaning : form? (tokens first.toList) = some (.opening x start stop))
    (hbody : Rereads body code) :
    Rereads (fun w => w.block first "end" body) [.loop x start stop code] := by
  intro w
  obtain ⟨inside, eq, plain', read⟩ := hbody (w.line first).indent
  refine ⟨[⟨w.level, first⟩] ++ inside ++ [⟨w.level, "end"⟩], ?_, ?_, ?_⟩
  · show (body (w.line first).indent).dedent.line "end" = _
    rw [eq]
    simp [Writer.line, Writer.indent, Writer.dedent]
  · intro l mem
    simp only [List.mem_append, List.mem_singleton] at mem
    rcases mem with (rfl | mem) | rfl
    · exact plain
    · exact plain' l mem
    · show OneLine "end"
      decide
  · -- the first line puts what was read so far aside, and `end` takes it back with the loop
    intro n
    have opens : readLines [⟨w.level, first⟩] n =
        some ⟨[], (⟨x, start, stop⟩, n.inner) :: n.outer⟩ := readLines_single w.level meaning n
    have closing : form? (tokens "end".toList) = some .closing := rfl
    rw [readLines_append, readLines_append, opens, Option.bind_some, read, Option.bind_some]
    exact readLines_single w.level closing _

end Rereads

theorem rereads_writeAll : ∀ {statements : List Statement},
    (∀ s ∈ statements, Rereads s.write s.code) → Rereads (writeAll statements) (codeAll statements)
  | [], _ => .nothing
  | s :: _, h =>
    (h s List.mem_cons_self).andThen (rereads_writeAll fun t ht => h t (List.mem_cons_of_mem s ht))

/-- What is written for a statement is read as what it stands for. -/
theorem Statement.Readable.rereads {s : Statement} (h : s.Readable) : Rereads s.write s.code := by
  induction h with
  | readSize => exact .line (by decide) rfl
  | readCount => exact .line (by decide) rfl
  | advance extent =>
    have plain : OneLine s!"off = off + {extent.text}" :=
      .append (by decide) (oneLine_extent extent)
    exact Rereads.line plain (form?_advance extent)
  | @addField var field encoding extent hvar hfield hencoding =>
    have plain : OneLine encoding := by
      rcases hencoding with rfl | rfl
      · decide
      · decide
    have front : OneLine ("subtree:add_packet_field(" ++ var ++ ".fields." ++ field ++ ", ") :=
      .append (.append (.append (.append (by decide) (oneLine_name hvar)) (by decide))
        (oneLine_name hfield)) (by decide)
    have back : OneLine ("buffer(off, " ++ extent.text ++ "), " ++ encoding ++ ")") :=
      .append (.append (.append (.append (by decide) (oneLine_extent extent)) (by decide)) plain)
        (by decide)
    exact Rereads.line (front.append back) (form?_addField extent hvar hfield hencoding)
  | forCount _ ih => exact .block (by decide) rfl (rereads_writeAll ih)

/-! ## Scripts -/

theorem lines_text {written : List Line} (plain : ∀ l ∈ written, OneLine l.content) :
    lines (String.join (written.map Line.text)).toList =
      written.map (fun l => if l.content.isEmpty then []
        else List.replicate (4 * l.level) ' ' ++ l.content.toList) ++ [[]] := by
  induction written with
  | nil => rfl
  | cons l rest ih =>
    have tail := ih fun m hm => plain m (List.mem_cons_of_mem l hm)
    rw [List.map_cons, String.join_cons, String.toList_append, Line.text, List.map_cons]
    by_cases empty : l.content.isEmpty = true
    · rw [if_pos empty, if_pos empty]
      show [] :: lines (String.join (rest.map Line.text)).toList = _
      rw [tail]
      rfl
    · rw [if_neg empty, if_neg empty, String.toList_append, String.toList_append,
        String.toList_ofList, List.append_assoc]
      have here : '\n' ∉ List.replicate (4 * l.level) ' ' ++ l.content.toList := by
        rw [List.mem_append, List.mem_replicate]
        rintro (⟨_, space⟩ | mem)
        · exact absurd space (by decide)
        · exact plain l List.mem_cons_self mem
      have cut := lines_append here (String.join (rest.map Line.text)).toList
      rw [tail] at cut
      simpa using cut

/-- The lines of a writer are read alike with and without their indentation. -/
theorem foldlM_readLine_text (written : List Line) (n : Nesting) :
    (written.map (fun l => if l.content.isEmpty then []
      else List.replicate (4 * l.level) ' ' ++ l.content.toList)).foldlM Nesting.readLine n =
      readLines written n := by
  rw [readLines, List.foldlM_map]
  congr 1
  funext n l
  by_cases empty : l.content.isEmpty = true
  · rw [if_pos empty, String.isEmpty_iff.1 empty]
    rfl
  · rw [if_neg empty, Nesting.readLine, tokens_indented]
    rfl

/-- The text of readable statements is read as what they stand for, at any indentation. -/
theorem script?_writeAll {statements : List Statement} (h : ∀ s ∈ statements, s.Readable)
    (level : Nat) :
    script? (writeAll statements ⟨level, #[]⟩).text = some (codeAll statements) := by
  obtain ⟨written, eq, plain, read⟩ := rereads_writeAll (fun s hs => (h s hs).rereads) ⟨level, #[]⟩
  rw [eq, script?, Writer.text]
  simp only [List.toList_toArray, Array.empty_append]
  rw [lines_text plain, List.foldlM_append, foldlM_readLine_text, read]
  rfl

end Dissect.Script
