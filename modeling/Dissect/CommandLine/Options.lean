/-!
# Options

How the words of a command line divide into options, their values, and other words. A long option
is `--name`, `--name value` or `--name=value`; short ones are single letters that may share a
hyphen, the last of which may take the rest of the word as its value. After `--` no word is an
option, and the word that follows an option as its value does not look like an option.

The words are taken in order and the first one that is wrong, or that asks for help or for the
version, decides. So values are checked where they stand.
-/

set_option autoImplicit false

namespace Dissect.CommandLine

/-- An option of a command. -/
structure OptionSpec where
  long : String
  short : Option Char
  /-- Which values the option takes, if it takes any. -/
  value : Option (String → Bool)
  /-- Whether the option may be given more than once. -/
  repeatable : Bool

/-- Whether an option takes values. -/
def OptionSpec.takesValue (o : OptionSpec) : Bool := o.value.isSome

/-- Whether what was given with an option is what the option takes. -/
def OptionSpec.accepts (o : OptionSpec) : Option String → Bool
  | none => !o.takesValue
  | some text => o.value.any fun good => good text

/-- What a command takes. -/
structure CommandSpec where
  options : List OptionSpec
  /-- What the words that are not options have to be, in order. -/
  operands : List (String → Bool)

/-- An option that was given, and its value if it takes one. -/
structure Given where
  option : OptionSpec
  value : Option String

/-- What a command line has been divided into so far. -/
structure Parsed where
  options : List Given
  words : List String

/-- Why the division ends before the last word. -/
inductive Stop where
  /-- Something was given that the command does not take. -/
  | misuse
  /-- Help was asked for. -/
  | help
  /-- The version was asked for. -/
  | version
deriving DecidableEq

namespace Parsed

/-- Nothing given yet. -/
def empty : Parsed := ⟨[], []⟩

/-- Whether an option was given. -/
def has (p : Parsed) (long : String) : Bool := p.options.any fun g => g.option.long = long

/-- The values given for an option. -/
def values (p : Parsed) (long : String) : List String :=
  p.options.filterMap fun g => if g.option.long = long then g.value else none

/-- The value given for an option. -/
def value? (p : Parsed) (long : String) : Option String := (p.values long).head?

/-- Adds an option. One that was given before has to be repeatable. -/
def give (p : Parsed) (o : OptionSpec) (value : Option String) : Except Stop Parsed :=
  if p.has o.long && !o.repeatable || !o.accepts value then .error .misuse
  else if o.long = "help" then .error .help
  else if o.long = "version" then .error .version
  else .ok { p with options := p.options ++ [⟨o, value⟩] }

/-- Adds a word that is no option. -/
def addWord (c : CommandSpec) (p : Parsed) (word : String) : Except Stop Parsed :=
  match c.operands[p.words.length]? with
  | none => .error .misuse
  | some good => if good word then .ok { p with words := p.words ++ [word] } else .error .misuse

end Parsed

/-- Whether a word looks like an option. A single hyphen does not. -/
def looksLikeOption (word : String) : Bool :=
  match word.toList with
  | '-' :: _ :: _ => true
  | _ => false

/-- Splits a text at the first equals sign. -/
def splitAtEquals (text : List Char) : List Char × Option (List Char) :=
  match text.dropWhile (· ≠ '=') with
  | [] => (text, none)
  | _ :: value => (text.takeWhile (· ≠ '='), some value)

/-- What a word leaves open: nothing, or an option whose value is the next word. -/
inductive Pending where
  | nothing
  | awaits (option : OptionSpec)

/-- Takes in the letters of a word of short options. -/
def takeShort (specs : List OptionSpec) (p : Parsed) : List Char → Except Stop (Parsed × Pending)
  | [] => .ok (p, .nothing)
  | letter :: rest =>
    match specs.find? fun o => o.short = some letter with
    | none => .error .misuse
    | some o =>
      if o.takesValue then
        match rest with
        | [] => .ok (p, .awaits o)
        | '=' :: value => (p.give o (some (String.ofList value))).map fun p => (p, .nothing)
        | value => (p.give o (some (String.ofList value))).map fun p => (p, .nothing)
      else
        match p.give o none with
        | .error e => .error e
        | .ok p => takeShort specs p rest

/-- Takes in a long option without its hyphens. -/
def takeLong (specs : List OptionSpec) (p : Parsed) (text : List Char) :
    Except Stop (Parsed × Pending) :=
  let (name, value) := splitAtEquals text
  match specs.find? fun o => o.long = String.ofList name with
  | none => .error .misuse
  | some o =>
    match o.takesValue, value with
    | true, some value => (p.give o (some (String.ofList value))).map fun p => (p, .nothing)
    | true, none => .ok (p, .awaits o)
    | false, none => (p.give o none).map fun p => (p, .nothing)
    | false, some _ => .error .misuse

/-- Takes in a word that looks like an option. -/
def takeOption (specs : List OptionSpec) (p : Parsed) (word : String) :
    Except Stop (Parsed × Pending) :=
  match word.toList with
  | '-' :: '-' :: text => takeLong specs p text
  | '-' :: letters => takeShort specs p letters
  | _ => .error .misuse

/-- Divides the words of a command. -/
def divide (c : CommandSpec) (p : Parsed) : Pending → List String → Except Stop Parsed
  | .nothing, [] => .ok p
  | .awaits _, [] => .error .misuse
  | .awaits o, word :: rest =>
    if looksLikeOption word then .error .misuse
    else
      match p.give o (some word) with
      | .error e => .error e
      | .ok p => divide c p .nothing rest
  | .nothing, word :: rest =>
    if word = "--" then rest.foldlM (Parsed.addWord c) p
    else if looksLikeOption word then
      match takeOption c.options p word with
      | .error e => .error e
      | .ok (p, pending) => divide c p pending rest
    else
      match p.addWord c word with
      | .error e => .error e
      | .ok p => divide c p .nothing rest

/-- Divides words up to the name of a command: the options before it, none of which takes a value,
and the words from the name on. -/
def leading (options : List OptionSpec) (p : Parsed) :
    List String → Except Stop (Parsed × List String)
  | [] => .ok (p, [])
  | word :: rest =>
    if looksLikeOption word then
      if word = "--" then .error .misuse
      else
        match takeOption options p word with
        | .error e => .error e
        | .ok (p, .nothing) => leading options p rest
        | .ok (_, .awaits _) => .error .misuse
    else .ok (p, word :: rest)

end Dissect.CommandLine
