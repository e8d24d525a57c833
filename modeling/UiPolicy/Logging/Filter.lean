import UiPolicy.Config
import UiPolicy.Logging.Record
import UiPolicy.Text.Alphanumeric

/-!
# Log filters

A filter is a set of directives. A directive names a part of the program, how verbose it may be, and
perhaps fields that a record must have. The most specific directive that fits a record decides.
Directives for spans are read but decide nothing, since the program opens no spans.

Directives are written `target[span\x7bfield\x7d]=level`, of which most may be left out, and are
separated by commas. The most verbose level is written 5 and silence 0.
-/

namespace UiPolicy.Logging

/-! ## Verbosity -/

/-- How verbose a directive is: up to which rank of level records pass. Zero is silence. -/
abbrev Verbosity := Nat

def Verbosity.most : Verbosity := 5

/-- The verbosity of a name or of a number from 0 to 5. -/
def Verbosity.ofText? (text : String) : Option Verbosity :=
  let digits := match text.toList with
    | '+' :: digits => digits
    | digits => digits
  let number :=
    if !digits.isEmpty && digits.all Char.isDigit then (String.ofList digits).toNat? else none
  match number.filter (· ≤ 5) with
  | some n => some n
  | none =>
    match text.toLower with
    | "" | "error" => some 1
    | "warn" => some 2
    | "info" => some 3
    | "debug" => some 4
    | "trace" => some 5
    | "off" => some 0
    | _ => none

/-! ## Directives -/

/-- A directive. Fields are kept with whether a value is asked for. -/
structure Directive where
  target : Option String
  span : Option String
  fields : List (String × Bool)
  verbosity : Verbosity
deriving Repr, DecidableEq

/-- Why a text is no directive. -/
inductive DirectiveError
  | form
  | level
deriving Repr, DecidableEq

def DirectiveError.message : DirectiveError → String
  | .form => "invalid filter directive"
  | .level =>
    "error parsing level filter: expected one of \"off\", \"error\", \"warn\", \"info\", " ++
      "\"debug\", \"trace\", or a number 0-5"

/-- Where the reading of a directive is; starts are places in bytes. -/
inductive DirectiveState
  | start
  | levelOrTarget (start : Nat)
  | span (start : Nat)
  | field (start : Nat)
  | fields
  | target
  | level (start : Nat)
  | complete
deriving Repr, DecidableEq

/-- The part of a text between two places in bytes. -/
def byteSlice (cs : List Char) (start : Nat) (stop : Option Nat) : String :=
  String.ofList (go 0 cs)
where
  go (place : Nat) : List Char → List Char
    | [] => []
    | c :: cs =>
      let rest := go (place + c.utf8Size) cs
      if start ≤ place && stop.all (place < ·) then c :: rest else rest

/-- The directive with a part that is a level or a target. -/
def Directive.levelOrTarget (d : Directive) (part : String) : Directive :=
  match Verbosity.ofText? part with
  | some verbosity => { d with verbosity, target := none }
  | none => { d with target := some part }

/-- The directive with a level; none means the most verbose one. -/
def Directive.withLevel (d : Directive) (part : String) : Except DirectiveError Directive :=
  if part.isEmpty then .ok { d with verbosity := .most }
  else
    match Verbosity.ofText? part with
    | some verbosity => .ok { d with verbosity }
    | none => .error .level

def Directive.withField (d : Directive) (part : String) : Except DirectiveError Directive :=
  if part.isEmpty then .error .form
  else
    let name := String.ofList (part.toList.takeWhile (· ≠ '='))
    .ok { d with fields := d.fields ++ [(name, part.toList.contains '=')] }

/-- One character of a directive. Parts are cut out of `cs`, the whole text as it was given. -/
def Directive.step (cs : List Char) (place : Nat) (c : Char) (state : DirectiveState)
    (d : Directive) : Except DirectiveError (DirectiveState × Directive) :=
  match state with
  | .start =>
    if c = '[' then .ok (.span (place + 1), d)
    else if c = '-' ∨ c = ':' ∨ c = '_' ∨ Text.isAlphanumeric c then .ok (.levelOrTarget place, d)
    else .error .form
  | .levelOrTarget start =>
    if c = '=' then
      .ok (.level (place + 1), { d with target := some (byteSlice cs start (some place)) })
    else if c = '[' then
      .ok (.span (place + 1), { d with target := some (byteSlice cs start (some place)) })
    else if c = ',' then .ok (.complete, d.levelOrTarget (byteSlice cs start none))
    else .ok (state, d)
  | .span start =>
    if c = ']' then
      .ok (.target, { d with span := some (byteSlice cs start (some place)) })
    else if c = '\x7b' then
      let name := byteSlice cs start (some place)
      .ok (.field (place + 1), { d with span := if name.isEmpty then none else some name })
    else .ok (state, d)
  | .field start =>
    if c = '\x7d' then (d.withField (byteSlice cs start (some place))).map (.fields, ·)
    else if c = ',' then
      (d.withField (byteSlice cs start (some place))).map (.field (place + 1), ·)
    else .ok (state, d)
  | .fields => if c = ']' then .ok (.target, d) else .error .form
  | .target => if c = '=' then .ok (.level (place + 1), d) else .error .form
  | .level start =>
    if c = ',' then (d.withLevel (byteSlice cs start (some place))).map (.complete, ·)
    else .ok (state, d)
  | .complete => .error .form

/-- The characters of a directive from a place on. -/
def Directive.steps (cs : List Char) :
    Nat → List Char → DirectiveState → Directive →
      Except DirectiveError (DirectiveState × Directive)
  | _, [], state, d => .ok (state, d)
  | place, c :: rest, state, d => do
    let (state, d) ← Directive.step cs place c state d
    Directive.steps cs (place + c.utf8Size) rest state d

/-- The directive of a text. Places are counted in the text without the white space at its ends, but
the parts are cut out of the text with it; so white space in front shifts them. -/
def Directive.ofText (text : String) : Except DirectiveError Directive := do
  let cs := text.toList
  let (state, d) ← Directive.steps cs 0 (Text.trim cs) .start ⟨none, none, [], .most⟩
  match state with
  | .levelOrTarget start => return d.levelOrTarget (byteSlice cs start none)
  | .level start => d.withLevel (byteSlice cs start none)
  | .target | .complete => return d
  | _ => throw .form

/-! ## Filters -/

/-- Directives that decide on records, the most specific first. -/
structure Filter where
  directives : List Directive
deriving Repr, DecidableEq

/-- Whether a directive says nothing of spans and asks for no values. -/
def Directive.decides (d : Directive) : Bool :=
  d.span.isNone && d.fields.all (!·.2)

/-- How specific a directive is: a longer target counts first, then more fields. -/
def Directive.specificity (d : Directive) : Nat × Nat :=
  (d.target.elim 0 (·.utf8ByteSize + 1), d.fields.length)

def Directive.before (d e : Directive) : Bool :=
  let (m, n) := d.specificity
  let (m', n') := e.specificity
  m' < m || (m = m' && n' ≤ n)

/-- Directives with one more in its place. It replaces one for the same target and fields. -/
def insertDirective (d : Directive) (ds : List Directive) : List Directive :=
  let others := ds.filter fun e => !(e.target = d.target ∧ e.fields = d.fields)
  others.takeWhile (fun e => e.before d) ++ [d] ++ others.dropWhile fun e => e.before d

/-- The filter with one more directive, if that decides on records. -/
def Filter.add (f : Filter) (d : Directive) : Filter :=
  if d.decides then ⟨insertDirective d f.directives⟩ else f

/-- The filter of some directives. No directives at all let errors pass. -/
def Filter.ofDirectives (ds : List Directive) : Filter :=
  if ds.isEmpty then ⟨[⟨none, none, [], 1⟩]⟩ else ds.foldl Filter.add ⟨[]⟩

def Directive.fits (d : Directive) (r : Record) : Bool :=
  d.target.all (fun target => target.toList.isPrefixOf r.target.toList) &&
    d.fields.all fun (name, _) => name = "message" || r.fields.any (·.1 = name)

def Filter.passes (f : Filter) (r : Record) : Bool :=
  match f.directives.find? (·.fits r) with
  | some d => r.level.rank ≤ d.verbosity
  | none => false

/-- The parts of a list of directives. -/
def directiveTexts (text : String) : List String :=
  ((Text.splitAt ',' text.toList).map String.ofList).filter (!·.isEmpty)

/-- The filter of a list of directives, if each of them is one. -/
def Filter.ofText (text : String) : Except DirectiveError Filter :=
  ((directiveTexts text).mapM Directive.ofText).map .ofDirectives

/-- The filter of those parts of a text that are directives, and what is said of the others. -/
def Filter.ofTextLenient (text : String) : Filter × List String :=
  let parts := (directiveTexts text).map fun part => (part, Directive.ofText part)
  (.ofDirectives (parts.filterMap fun (_, d) => d.toOption),
    parts.filterMap fun (part, d) =>
      match d with
      | .ok _ => none
      | .error e => some ("ignoring `" ++ part ++ "`: " ++ e.message))

end UiPolicy.Logging
