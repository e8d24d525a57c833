import UiPolicy.Command
import UiPolicy.Text.Blank
import UiPolicy.Text.Search

/-!
# The command line

A command line is a list of words: options of the program, the name of a command, and the command's
own options and operands.

* A `Grammar` says which options, operands and commands a list of words may hold.
* `Progress.read` reads words by a grammar, up to the name of a command.
* `Invocation.ofWords` is what a command line asks for.

An option and its value stand in one word, `--name=value`, or in two. The value of an option is
looked at when the next thing is read, so a fault in that word is met first.
-/

namespace UiPolicy

/-- Why a command line cannot be read, or that it asks for help. -/
inductive UsageError
  | helpWanted
  | nothingGiven
  | commandMissing
  | commandUnknown
  | argumentUnknown
  | argumentMissing
  /-- A flag was given a value. -/
  | valueUnwanted
  /-- An option has no value, or an empty one where that means nothing. -/
  | valueMissing
  | valueInvalid
  /-- An option that counts once was given again. -/
  | repeated
deriving Repr, DecidableEq

namespace CommandLine

/-- What kind of value an option has. -/
inductive OptionKind
  /-- No value. -/
  | flag
  | text
  /-- A path, which is never empty. -/
  | path
  /-- A name and a value around an equals sign. Such an option may be given more than once. -/
  | pair
deriving Repr, DecidableEq

/-- What a list of words may hold. -/
structure Grammar where
  options : List (String × OptionKind)
  /-- How many operands there may be. -/
  operands : Nat
  commands : List String
deriving Repr, DecidableEq

def Grammar.kind? (g : Grammar) (name : String) : Option OptionKind :=
  (g.options.find? (·.1 = name)).map (·.2)

/-! ## Words -/

/-- What a word looks like. -/
inductive Word
  /-- Two dashes: only operands follow. -/
  | separator
  | long (name : String) (value : Option String)
  | short (letters : List Char)
  | plain
deriving Repr, DecidableEq

/-- What a word looks like. A single dash is plain. -/
def Word.ofString (word : String) : Word :=
  match word.toList with
  | ['-', '-'] => .separator
  | '-' :: '-' :: rest =>
    match Text.cutAt? ['='] rest with
    | some (name, value) => .long (String.ofList name) (some (String.ofList value))
    | none => .long (String.ofList rest) none
  | '-' :: c :: rest => .short (c :: rest)
  | _ => .plain

/-- The name and the value around the first equals sign. The name is trimmed and not blank. -/
def pair? (text : String) : Option (String × String) :=
  match Text.cutAt? ['='] text.toList with
  | some (name, value) =>
    let name := Text.trim name
    if name.isEmpty then none else some (String.ofList name, String.ofList value)
  | none => none

/-! ## Reading words -/

/-- What was read so far. -/
structure Progress where
  /-- The options that were given, each with its value; a flag has an empty one. -/
  given : List (String × String)
  operands : List String
  /-- An option whose value is still to come or to be looked at. -/
  pending : Option (String × Option String)
  /-- Whether only operands follow. -/
  separated : Bool
deriving Repr, DecidableEq

namespace Progress

/-- Nothing was read. -/
def start : Progress :=
  ⟨[], [], none, false⟩

def has (p : Progress) (name : String) : Bool :=
  p.given.any (·.1 = name)

def value? (p : Progress) (name : String) : Option String :=
  (p.given.find? (·.1 = name)).map (·.2)

def values (p : Progress) (name : String) : List String :=
  (p.given.filter (·.1 = name)).map (·.2)

/-- An option with its value. -/
def give (g : Grammar) (p : Progress) (name value : String) : Except UsageError Progress :=
  let kind := (g.kind? name).getD .text
  if kind ≠ .pair ∧ p.has name then .error .repeated
  else if kind = .path ∧ value.isEmpty then .error .valueMissing
  else if kind = .pair ∧ (pair? value).isNone then .error .valueInvalid
  else .ok { p with given := p.given ++ [(name, value)] }

/-- Looks at the value of the pending option. -/
def settle (g : Grammar) (p : Progress) : Except UsageError Progress :=
  match p.pending with
  | none => .ok p
  | some (_, none) => .error .valueMissing
  | some (name, some value) => { p with pending := none }.give g name value

/-- The progress after a word of the form `--name` or `--name=value`. -/
def readLong (g : Grammar) (p : Progress) (name : String) (value : Option String) :
    Except UsageError Progress :=
  if name = "help" then
    if value.isSome then .error .valueUnwanted
    else do
      let _ ← p.settle g
      .error .helpWanted
  else
    match g.kind? name, value with
    | none, _ => .error .argumentUnknown
    | some .flag, some _ => .error .valueUnwanted
    | some .flag, none => do (← p.settle g).give g name ""
    | some _, some value => do (← p.settle g).give g name value
    | some _, none => do return { ← p.settle g with pending := some (name, none) }

def readOperand (g : Grammar) (p : Progress) (word : String) : Except UsageError Progress :=
  if p.operands.length < g.operands then do
    let p ← p.settle g
    return { p with operands := p.operands ++ [word] }
  else if g.commands.isEmpty || p.separated && g.commands.contains word then
    .error .argumentUnknown
  else .error .commandUnknown

/-- The progress after a word that is not the name of a command. -/
def readWord (g : Grammar) (p : Progress) (word : String) : Except UsageError Progress :=
  if p.separated then p.readOperand g word
  else
    match Word.ofString word with
    | .separator => .ok { p with separated := true }
    | .long name value => p.readLong g name value
    | .short ('h' :: _) => do
      let _ ← p.settle g
      .error .helpWanted
    | .short _ => .error .argumentUnknown
    | .plain =>
      match p.pending with
      | some (name, none) => .ok { p with pending := some (name, some word) }
      | _ => p.readOperand g word

/-- Whether a word is the name of a command here, and not the value of an option. -/
def atCommand (g : Grammar) (p : Progress) (word : String) : Bool :=
  let awaited := match p.pending with
    | some (_, none) => true
    | _ => false
  !p.separated && !awaited && g.commands.contains word

/-- The progress after the words up to the name of a command, and that name with the words after
it. -/
def read (g : Grammar) (p : Progress) :
    List String → Except UsageError (Progress × Option (String × List String))
  | [] => .ok (p, none)
  | word :: words =>
    if p.atCommand g word then .ok (p, some (word, words))
    else do (← p.readWord g word).read g words

end Progress

/-! ## The commands -/

def commandGrammars : List (String × Grammar) :=
  [("split", ⟨[("format", .text)], 1, []⟩),
    ("resolve", ⟨[("context", .pair)], 1, []⟩),
    ("replay", ⟨[("tree", .path), ("events", .path), ("format", .text), ("live", .flag)], 0, []⟩),
    ("config", ⟨[], 0, []⟩),
    ("health", ⟨[], 0, []⟩)]

/-- The options of the program and the names of its commands. -/
def programGrammar : Grammar where
  options := [("workspace", .path), ("config", .path), ("verbose", .flag), ("quiet", .flag),
    ("log-level", .text), ("log-format", .text), ("log-output", .text), ("log-file", .path)]
  operands := 0
  commands := commandGrammars.map (·.1) ++ ["help"]

/-- The command that was read, if nothing is missing. -/
def commandOf? (name : String) (p : Progress) : Option Command :=
  let format := (p.value? "format").getD "text"
  match name, p.operands with
  | "split", [arguments] => some (.split arguments format)
  | "resolve", [policy] => some (.resolve policy ((p.values "context").filterMap pair?))
  | "replay", _ => do
    let events ← p.value? "events"
    let tree := p.value? "tree"
    let live := p.has "live"
    if tree.isSome || live then some (.replay tree events format live) else none
  | "config", _ => some .config
  | "health", _ => some .health
  | _, _ => none

def readCommand (name : String) (words : List String) : Except UsageError Command := do
  let g := ((commandGrammars.find? (·.1 = name)).map (·.2)).getD ⟨[], 0, []⟩
  let (p, _) ← Progress.start.read g words
  let p ← p.settle g
  match commandOf? name p with
  | some command => return command
  | none => throw .argumentMissing

/-- What asking for help leads to: help for the program or for one command. -/
def readHelp (words : List String) : UsageError :=
  match words with
  | [] => .helpWanted
  | [name] => if programGrammar.commands.contains name then .helpWanted else .commandUnknown
  | _ => .commandUnknown

end CommandLine

/-- What a command line asks for. -/
structure Invocation where
  command : Command
  workspace : String
  configFile : Option String
  verbose : Bool
  quiet : Bool
  logLevel : Option String
  logFormat : Option String
  logOutput : Option String
  logFile : Option String
deriving Repr, DecidableEq

open CommandLine in
/-- What the words of a command line ask for. Faults after the name of the command are met first. -/
def Invocation.ofWords (words : List String) : Except UsageError Invocation := do
  match ← Progress.start.read programGrammar words with
  | (p, none) =>
    let p ← p.settle programGrammar
    throw (if p.given.isEmpty then .nothingGiven else .commandMissing)
  | (_, some ("help", words)) => throw (readHelp words)
  | (p, some (name, words)) =>
    let command ← readCommand name words
    let p ← p.settle programGrammar
    return {
      command
      workspace := (p.value? "workspace").getD "."
      configFile := p.value? "config"
      verbose := p.has "verbose"
      quiet := p.has "quiet"
      logLevel := p.value? "log-level"
      logFormat := p.value? "log-format"
      logOutput := p.value? "log-output"
      logFile := p.value? "log-file" }

end UiPolicy
