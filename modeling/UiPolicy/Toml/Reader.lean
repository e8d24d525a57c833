import UiPolicy.Toml.Scalar

/-!
# Reading TOML documents

A document is read line by line into a table. What a table may still take depends on how it came to
be: by its own head, as part of the name in another head, or as part of a dotted key. No key is
written twice, and a table is opened by a head at most once.
-/

namespace UiPolicy.Toml

/-! ## Tables under construction -/

/-- How a table came to be. -/
inductive Origin
  /-- By a head of its own, or as the document itself. -/
  | head
  /-- As a part of the name in another table's head. -/
  | implied
  /-- As a part of a dotted key. -/
  | dotted
deriving Repr, DecidableEq

/-- What a key of a table under construction stands for. -/
inductive Entry
  | value (value : Value)
  | table (origin : Origin) (entries : List (String × Entry))
  /-- Tables that are opened by heads in double brackets; the last one is still open. -/
  | tables (list : List (List (String × Entry)))

/-- The keys of a table and what they stand for. -/
abbrev Entries := List (String × Entry)

def Entries.get? (entries : Entries) (key : String) : Option Entry :=
  (entries.find? (·.1 = key)).map (·.2)

/-- The entries with another one for a key that has one. -/
def Entries.replace (entries : Entries) (key : String) (entry : Entry) : Entries :=
  entries.map fun (k, e) => if k = key then (k, entry) else (k, e)

/-- Changes the table that a path leads to. Tables that are missing on the way come to be, by a head
or by a dotted key. A dotted key may not lead into a table that has a head of its own. -/
def within (isDotted : Bool) (f : Origin → Entries → Option Entries) :
    List String → Origin → Entries → Option Entries
  | [], origin, entries => f origin entries
  | key :: path, _, entries =>
    match entries.get? key with
    | none => do
      let origin : Origin := if isDotted then .dotted else .implied
      let inner ← within isDotted f path origin []
      return entries ++ [(key, .table origin inner)]
    | some (.table origin inner) =>
      if isDotted && origin = .head then none
      else do
        let inner ← within isDotted f path origin inner
        return entries.replace key (.table origin inner)
    | some (.tables list) => do
      let inner ← within isDotted f path .head (list.getLast?.getD [])
      return entries.replace key (.tables (list.dropLast ++ [inner]))
    | some (.value _) => none

/-- Adds a value under a dotted key, given as the path before its last part and that part. -/
def addValue (path : List String) (key : String) (value : Value) (origin : Origin)
    (entries : Entries) : Option Entries :=
  within true (fun origin entries =>
    if (origin = .dotted) = path.isEmpty then none
    else if (entries.get? key).isSome then none
    else some (entries ++ [(key, .value value)])) path origin entries

/-- Opens the table of a head. -/
def openTable (path : List String) (key : String) (root : Entries) : Option Entries :=
  within false (fun _ entries =>
    match entries.get? key with
    | none => some (entries ++ [(key, .table .head [])])
    | some (.table .implied inner) => some (entries.replace key (.table .head inner))
    | some _ => none) path .head root

/-- Opens one more table of a head in double brackets. -/
def openTables (path : List String) (key : String) (root : Entries) : Option Entries :=
  within false (fun _ entries =>
    match entries.get? key with
    | none => some (entries ++ [(key, .tables [[]])])
    | some (.tables list) => some (entries.replace key (.tables (list ++ [[]])))
    | some _ => none) path .head root

mutual

def Entry.finish : Entry → Value
  | .value value => value
  | .table _ entries => .table (finishEntries entries)
  | .tables list => .array (finishTables list)

def finishEntries : List (String × Entry) → List (String × Value)
  | [] => []
  | (key, entry) :: entries => (key, entry.finish) :: finishEntries entries

def finishTables : List (List (String × Entry)) → List Value
  | [] => []
  | entries :: list => .table (finishEntries entries) :: finishTables list

end

/-! ## Keys and values -/

def isKeyChar (c : Char) : Bool :=
  c.isAlphanum || c = '-' || c = '_'

def readKeyPart (cs : List Char) : Option (String × List Char) :=
  match cs with
  | '"' :: rest =>
    (readBasic (rest.length + 1) rest).map fun (text, rest) => (String.ofList text, rest)
  | '\'' :: rest => (readLiteral rest).map fun (text, rest) => (String.ofList text, rest)
  | cs =>
    match cs.takeWhile isKeyChar with
    | [] => none
    | part => some (String.ofList part, cs.dropWhile isKeyChar)

/-- A key: its parts before the last one, and the last one. -/
def readKey : Nat → List Char → Option ((List String × String) × List Char)
  | 0, _ => none
  | fuel + 1, cs => do
    let (part, rest) ← readKeyPart (skipBlanks cs)
    let rest := skipBlanks rest
    match rest with
    | '.' :: rest =>
      let ((path, last), rest) ← readKey fuel rest
      return ((part :: path, last), rest)
    | rest => return (([], part), rest)

/-- A key has fewer parts than this, and containers nest less deep. -/
def depthLimit : Nat := 80

/-- The rest of a comment, up to the line break. -/
def skipComment (cs : List Char) : List Char :=
  cs.dropWhile isPlainChar

/-- A text without blanks, comments and line breaks at its start. -/
def skipTrivia : Nat → List Char → Option (List Char)
  | 0, cs => some cs
  | fuel + 1, cs =>
    match skipBlanks cs with
    | '#' :: rest =>
      match lineBreak? (skipComment rest) with
      | some rest => skipTrivia fuel rest
      | none => none
    | cs =>
      match lineBreak? cs with
      | some rest => skipTrivia fuel rest
      | none => some cs

mutual

/-- A value; `room` counts the levels of nesting that are left. -/
def readValue : Nat → Nat → List Char → Option (Value × List Char)
  | 0, _, _ => none
  | fuel + 1, room, cs =>
    match cs with
    | '"' :: _ | '\'' :: _ => (readString cs).map fun (text, rest) => (.string text, rest)
    | '[' :: rest =>
      if room = 0 then none
      else (readItems fuel (room - 1) rest).map fun (items, rest) => (.array items, rest)
    | '\x7b' :: rest =>
      if room = 0 then none
      else
        match skipBlanks rest with
        | '\x7d' :: rest => some (.table [], rest)
        | rest =>
          (readPairs fuel (room - 1) [] rest).map fun (entries, rest) =>
            (.table (finishEntries entries), rest)
    | cs => readBareScalar cs

def readItems : Nat → Nat → List Char → Option (List Value × List Char)
  | 0, _, _ => none
  | fuel + 1, room, cs => do
    let cs ← skipTrivia cs.length cs
    match cs with
    | ']' :: rest => some ([], rest)
    | cs =>
      let (item, rest) ← readValue fuel room cs
      let rest ← skipTrivia rest.length rest
      match rest with
      | ',' :: rest =>
        let (items, rest) ← readItems fuel room rest
        return (item :: items, rest)
      | ']' :: rest => return ([item], rest)
      | _ => none

/-- The keys and values of a table on one line, up to its closing brace. -/
def readPairs : Nat → Nat → Entries → List Char → Option (Entries × List Char)
  | 0, _, _, _ => none
  | fuel + 1, room, entries, cs => do
    let ((path, key), rest) ← readKey depthLimit cs
    let rest ← expectChar '=' rest
    let (value, rest) ← readValue fuel room (skipBlanks rest)
    let entries ← addValue path key value .head entries
    match skipBlanks rest with
    | ',' :: rest => readPairs fuel room entries rest
    | '\x7d' :: rest => some (entries, rest)
    | _ => none

end

/-! ## Documents -/

/-- The end of a line after its content. -/
def finishLine (cs : List Char) : Option (List Char) :=
  let rest := match skipBlanks cs with
    | '#' :: rest => skipComment rest
    | rest => rest
  match rest with
  | [] => some []
  | rest => lineBreak? rest

/-- One line with content: the path of the table that is open after it, the document's entries, and
the rest of the text. -/
def readLine (current : List String) (root : Entries) (cs : List Char) :
    Option (List String × Entries × List Char) :=
  match cs with
  | '[' :: '[' :: rest => do
    let ((path, key), rest) ← readKey depthLimit rest
    let rest ← finishLine (← expectChar ']' (← expectChar ']' rest))
    return (path ++ [key], ← openTables path key root, rest)
  | '[' :: rest => do
    let ((path, key), rest) ← readKey depthLimit rest
    let rest ← finishLine (← expectChar ']' rest)
    return (path ++ [key], ← openTable path key root, rest)
  | cs => do
    let ((path, key), rest) ← readKey depthLimit cs
    let rest ← expectChar '=' rest
    let rest := skipBlanks rest
    let (value, rest) ← readValue (2 * rest.length + 2) (depthLimit - 1) rest
    let rest ← finishLine rest
    let root ← within false (addValue path key value) current .head root
    return (current, root, rest)

def readLines : Nat → List String → Entries → List Char → Option Entries
  | 0, _, _, _ => none
  | fuel + 1, current, root, cs =>
    match skipBlanks cs with
    | [] => some root
    | '#' :: rest => do
      let rest ← finishLine ('#' :: rest)
      readLines fuel current root rest
    | cs =>
      match lineBreak? cs with
      | some rest => readLines fuel current root rest
      | none => do
        let (current, root, rest) ← readLine current root cs
        readLines fuel current root rest

/-- The entries of a document, or nothing if the text is no document. A byte order mark at its start
does not count. -/
def read (text : String) : Option (List (String × Value)) :=
  let cs := match text.toList with
    | '\uFEFF' :: cs => cs
    | cs => cs
  (readLines (cs.length + 1) [] [] cs).map finishEntries

end UiPolicy.Toml
