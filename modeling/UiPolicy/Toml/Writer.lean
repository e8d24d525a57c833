import UiPolicy.Json.Value

/-!
# Writing TOML

A string is written in the plainest form that can hold it: between quotes without escapes, between
apostrophes as it is, in one of the two forms for several lines, and only if nothing else will do
with escapes.
-/

namespace UiPolicy.Toml

/-- The length of the longest run of a character. -/
def longestRun (c : Char) (cs : List Char) : Nat :=
  (cs.foldl (fun (longest, current) d =>
    if d = c then (max longest (current + 1), current + 1) else (longest, 0)) (0, 0)).1

/-- Whether a character can only be written with an escape. -/
def needsEscape (c : Char) : Bool :=
  (c.toNat < 0x20 && c ≠ '\t' && c ≠ '\n') || c.toNat == 0x7F

/-- The escape of a character in a quoted string, if it has one. A line break has none in a string
of several lines. -/
def escape? (multiline : Bool) (c : Char) : Option String :=
  match c with
  | '\x08' => some "\\b"
  | '\t' => some "\\t"
  | '\n' => if multiline then none else some "\\n"
  | '\x0c' => some "\\f"
  | '\r' => some "\\r"
  | '\\' => some "\\\\"
  | c =>
    if needsEscape c then some ("\\u" ++ (Json.fourHexDigits c.toNat).map Char.toUpper) else none

/-- The characters of a quoted string. At most `allowed` quotes in a row stand without escape;
`run` counts those just before. -/
def escaped (multiline : Bool) (allowed : Nat) (run : Nat) : List Char → String
  | [] => ""
  | c :: cs =>
    if c = '"' then
      if run < allowed then "\"" ++ escaped multiline allowed (run + 1) cs
      else "\\\"" ++ escaped multiline allowed 0 cs
    else (escape? multiline c).getD c.toString ++ escaped multiline allowed 0 cs

/-- A string between quotes. -/
def basicString (cs : List Char) : String :=
  "\"" ++ escaped false 0 0 cs ++ "\""

/-- The opening of a string of several lines. A first line break is not part of the string. -/
def openMultiline (delimiter : String) (cs : List Char) : String :=
  if cs.contains '\n' then delimiter ++ "\n" else delimiter

/-- A string between three quotes. -/
def multilineBasicString (cs : List Char) : String :=
  openMultiline "\"\"\"" cs ++ escaped true 2 0 cs ++ "\"\"\""

/-- A string in its plainest form. -/
def writeString (s : String) : String :=
  let cs := s.toList
  let controls := cs.any needsEscape
  let backslash := cs.contains '\\'
  let newline := cs.contains '\n'
  let quotes := longestRun '"' cs
  let apostrophes := longestRun '\'' cs
  if !controls && !backslash && quotes = 0 && !newline then basicString cs
  else if !controls && apostrophes = 0 && !newline then "'" ++ s ++ "'"
  else if !controls && !backslash && quotes ≤ 2 then multilineBasicString cs
  else if !controls && apostrophes ≤ 2 then openMultiline "'''" cs ++ s ++ "'''"
  else if newline then multilineBasicString cs
  else basicString cs

def isBareKeyChar (c : Char) : Bool :=
  c.isAlphanum || c = '-' || c = '_'

/-- A key, bare if it can be. -/
def writeKey (key : String) : String :=
  let cs := key.toList
  if !cs.isEmpty && cs.all isBareKeyChar then key
  else if !cs.any (fun c => needsEscape c || c = '"' || c = '\\' || c = '\n') then basicString cs
  else if !cs.any (fun c => needsEscape c || c = '\'' || c = '\n') then "'" ++ key ++ "'"
  else basicString cs

/-- A key and its value on a line. -/
def entry (key value : String) : String :=
  writeKey key ++ " = " ++ value ++ "\n"

/-- A table: its head, and its entries. -/
def table (name : String) (entries : List String) : String :=
  "[" ++ name ++ "]\n" ++ String.join entries

/-- Tables with an empty line between them. -/
def document (tables : List String) : String :=
  String.intercalate "\n" tables

/-- An integer; one beyond 63 bits cannot be written. -/
def writeNat? (n : Nat) : Option String :=
  if n < Nat.pow 2 63 then some (toString n) else none

end UiPolicy.Toml
