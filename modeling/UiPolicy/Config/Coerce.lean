import UiPolicy.Config
import UiPolicy.Config.Setting

/-!
# Settings as a configuration

Each setting is turned into what the configuration expects. Scalars of another kind are taken where
they make sense: a number from a truth value or a text of digits, a truth value from a number or a
word, a text from any scalar.
-/

namespace UiPolicy

namespace Setting

/-- A setting of the wrong kind. -/
def refuse {α : Type} (expected : String) : Except String α :=
  .error ("invalid type, expected " ++ expected)

/-- The truth value that a word stands for. -/
def wordValue? (word : String) : Option Bool :=
  if word = "true" ∨ word = "on" ∨ word = "yes" then some true
  else if word = "false" ∨ word = "off" ∨ word = "no" then some false
  else none

/-- A natural number below `2 ^ 64` in decimal digits, with or without a plus. -/
def digitsToNat? (text : String) : Option Nat :=
  let digits := match text.toList with
    | '+' :: digits => digits
    | digits => digits
  if !digits.isEmpty && digits.all Char.isDigit then
    (String.ofList digits).toNat?.filter (· < Nat.pow 2 64)
  else none

/-- A natural number. A double is rounded, a half away from zero, and cut to 64 bits. -/
def toNat : Setting → Except String Nat
  | .bool value => .ok (if value then 1 else 0)
  | .integer value => if 0 ≤ value then .ok value.toNat else refuse "an unsigned integer"
  | .float value => .ok value.round.toUInt64.toNat
  | .string text =>
    match wordValue? (Text.lowercase text), digitsToNat? text with
    | some value, _ => .ok (if value then 1 else 0)
    | none, some n => .ok n
    | none, none => refuse "an unsigned integer"
  | _ => refuse "an unsigned integer"

def toBool : Setting → Except String Bool
  | .bool value => .ok value
  | .integer value => .ok (value ≠ 0)
  | .float value => .ok (value != 0)
  | .string text =>
    let word := Text.lowercase text
    match wordValue? word with
    | some value => .ok value
    | none =>
      if word = "1" then .ok true
      else if word = "0" then .ok false
      else refuse "a boolean"
  | _ => refuse "a boolean"

def toText : Setting → Except String String
  | .bool value => .ok (toString value)
  | .integer value => .ok (toString value)
  | .float value => .ok (Decimal.plainLayout.write value)
  | .string text => .ok text
  | _ => refuse "a string"

def toTextOption : Setting → Except String (Option String)
  | .null => .ok none
  | s => some <$> s.toText

def toTextMap : Setting → Except String (List (String × String))
  | .table entries => do
    let pairs ← entries.mapM fun (name, s) => do return (name, ← s.toText)
    return sortByName pairs
  | _ => refuse "a map"

/-- A field of a group of settings. -/
structure Field (ρ : Type) where
  name : String
  fill : Setting → ρ → Except String ρ

/-- A field, given how its setting is turned into a value. -/
def field {ρ α : Type} (name : String) (convert : Setting → Except String α) (set : α → ρ → ρ) :
    Field ρ :=
  ⟨name, fun s record => (set · record) <$> convert s⟩

/-- A group of settings, from a table or from a list of its fields in order. Fields that are missing
keep their first value. -/
def toRecord {ρ : Type} (fields : List (Field ρ)) (first : ρ) : Setting → Except String ρ
  | .table entries =>
    fields.foldlM (fun record field =>
      match (Setting.table entries).get? field.name with
      | some s => field.fill s record
      | none => .ok record) first
  | .array items =>
    (fields.zip items).foldlM (fun record (field, s) => field.fill s record) first
  | _ => refuse "a map"

def toBackend : Setting → Except String BackendConfig :=
  toRecord [
    field "url" toText fun url c => { c with url },
    field "connect_timeout_ms" toNat fun connectTimeout c => { c with connectTimeout },
    field "request_timeout_ms" toNat fun requestTimeout c => { c with requestTimeout }] .default

def toResolver : Setting → Except String ResolverConfig :=
  toRecord [field "max_passes" toNat fun maxPasses _ => ⟨maxPasses⟩] .default

def toLogging : Setting → Except String LoggingConfig :=
  toRecord [
    field "enabled" toBool fun enabled c => { c with enabled },
    field "level" toText fun level c => { c with level },
    field "format" toText fun format c => { c with format },
    field "output" toText fun output c => { c with output },
    field "file" toTextOption fun file c => { c with file },
    field "color" toBool fun color c => { c with color },
    field "modules" toTextMap fun modules c => { c with modules }] .default

def toConfig : Setting → Except String Config :=
  toRecord [
    field "backend" toBackend fun backend c => { c with backend },
    field "resolver" toResolver fun resolver c => { c with resolver },
    field "logging" toLogging fun logging c => { c with logging }] .default

end Setting

end UiPolicy
