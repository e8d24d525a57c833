import UiPolicy.Json.Value
import UiPolicy.Text.Lowercase
import UiPolicy.Toml.Value

/-!
# Settings in layers

A layer of the configuration is a table of settings. Layers are put over each other table by table:
a later value replaces an earlier one, and a table adds to a table. Names count in lower case,
except inside lists.

A setting may be named by a path: names after dots, and places of a list in brackets.
-/

namespace UiPolicy

/-- A value in a layer. -/
inductive Setting
  | null
  | bool (value : Bool)
  | integer (value : Int)
  | float (value : Float)
  | string (value : String)
  | array (items : List Setting)
  | table (entries : List (String × Setting))
deriving Repr

namespace Setting

instance : Inhabited Setting := ⟨.null⟩

/-! ## From documents -/

mutual

/-- A TOML value as a setting. A date or time is a text. -/
def ofToml : Toml.Value → Setting
  | .bool value => .bool value
  | .integer value => .integer value
  | .float value => .float value
  | .string value => .string value
  | .datetime text => .string text
  | .array items => .array (ofTomlItems items)
  | .table entries => .table (ofTomlEntries entries)

def ofTomlItems : List Toml.Value → List Setting
  | [] => []
  | item :: items => ofToml item :: ofTomlItems items

def ofTomlEntries : List (String × Toml.Value) → List (String × Setting)
  | [] => []
  | (key, value) :: entries => (key, ofToml value) :: ofTomlEntries entries

end

mutual

/-- A JSON value as a setting. An integer beyond 63 bits is a double. -/
def ofJson : Json → Setting
  | .null => .null
  | .bool value => .bool value
  | .number (.integer value) =>
    if value < Nat.pow 2 63 then .integer value else .float (Float.ofInt value)
  | .number (.float value) => .float value
  | .string value => .string value
  | .array items => .array (ofJsonItems items)
  | .object members => .table (ofJsonMembers members)

def ofJsonItems : List Json → List Setting
  | [] => []
  | item :: items => ofJson item :: ofJsonItems items

def ofJsonMembers : List (String × Json) → List (String × Setting)
  | [] => []
  | (name, value) :: members => (name, ofJson value) :: ofJsonMembers members

end

/-! ## Layers over each other -/

/-- The entries of a table; anything else gives way to an empty table. -/
def entries : Setting → List (String × Setting)
  | .table entries => entries
  | _ => []

/-- The items of a list; anything else gives way to an empty list. -/
def items : Setting → List Setting
  | .array items => items
  | _ => []

def get? (s : Setting) (name : String) : Option Setting :=
  (s.entries.find? (·.1 = name)).map (·.2)

def put (s : Setting) (name : String) (value : Setting) : Setting :=
  if s.entries.any (·.1 = name) then
    .table (s.entries.map fun (n, old) => if n = name then (n, value) else (n, old))
  else .table (s.entries ++ [(name, value)])

mutual

/-- A setting put over another one. -/
def overlay : Setting → Option Setting → Setting
  | .table entries, below => overlayEntries entries (below.getD (.table []))
  | .null, _ => .null
  | .bool value, _ => .bool value
  | .integer value, _ => .integer value
  | .float value, _ => .float value
  | .string value, _ => .string value
  | .array items, _ => .array items

/-- The entries of a table put over a setting. No entries leave it as it is. -/
def overlayEntries : List (String × Setting) → Setting → Setting
  | [], below => below
  | (name, value) :: entries, below =>
    let name := Text.lowercase name
    overlayEntries entries (below.put name (value.overlay (below.get? name)))

end

/-! ## Paths -/

/-- A step of a path. -/
inductive Step
  | name (name : String)
  | item (index : Int)
deriving Repr, DecidableEq

/-- Whether a character may stand in a name of a path. -/
def isNameChar (c : Char) : Bool :=
  c.isAlphanum || c = ' ' || c = '_' || c = '-'

def readName (cs : List Char) : Option (Step × List Char) :=
  match cs.takeWhile isNameChar with
  | [] => none
  | name => some (.name (Text.lowercase (String.ofList name)), cs.dropWhile isNameChar)

/-- A text without the blanks and tabs at its start. -/
def skipBlanks (cs : List Char) : List Char :=
  cs.dropWhile fun c => c = ' ' ∨ c = '\t'

/-- A place in brackets at the start of a text, its opening bracket read. -/
def readIndex (cs : List Char) : Option (Step × List Char) :=
  let (negative, cs) := match skipBlanks cs with
    | '-' :: cs => (true, cs)
    | cs => (false, cs)
  match (String.ofList (cs.takeWhile Char.isDigit)).toNat?,
    skipBlanks (cs.dropWhile Char.isDigit) with
  | some n, ']' :: rest => some (.item (if negative then -n else n), rest)
  | _, _ => none

def readSteps : Nat → List Char → Option (List Step)
  | _, [] => some []
  | 0, _ => none
  | fuel + 1, c :: cs => do
    let (step, rest) ←
      if c = '.' then readName cs
      else if c = '[' then readIndex cs
      else none
    return step :: (← readSteps fuel rest)

/-- The path that a text writes. A text that writes none is a single name. -/
def pathOf (text : String) : List Step :=
  let cs := text.toList
  let path := do
    let (first, rest) ← readName cs
    return first :: (← readSteps rest.length rest)
  path.getD [.name (Text.lowercase text)]

/-- The list with another item at a place; missing items before it are null. -/
def setItem (items : List Setting) (index : Int) (value : Setting) : List Setting :=
  let place := (if index < 0 then items.length + index else index).toNat
  (items ++ List.replicate (place + 1 - items.length) Setting.null).set place value

def setAt (value : Setting) : List Step → Option Setting → Setting
  | [], below => value.overlay below
  | .name name :: path, below =>
    let table := below.getD (.table [])
    table.put name (setAt value path (table.get? name))
  | [.item index], below => .array (setItem (below.getD .null).items index value)
  | .item index :: path, below =>
    let items := (below.getD .null).items
    let place := (if index < 0 then items.length + index else index).toNat
    .array (setItem items index (setAt value path items[place]?))

/-- A layer put over the settings so far. The names of its outermost table are paths. -/
def addLayer (below : Setting) (layer : List (String × Setting)) : Setting :=
  layer.foldl (fun settings (key, value) => setAt value (pathOf key) (some settings)) below

end Setting

end UiPolicy
