import UiPolicy.Text.Search

/-!
# Paths

A path is a text of names between slashes. One that starts with a slash is absolute; any other is
taken from a directory.
-/

namespace UiPolicy.Path

def isAbsolute (path : String) : Bool :=
  path.toList.head? = some '/'

/-- A path taken from a directory. An absolute path stays as it is. -/
def join (base path : String) : String :=
  if isAbsolute path || base.isEmpty then path
  else if base.toList.getLast? = some '/' then base ++ path
  else base ++ "/" ++ path

/-- The names of a path that a file system walks along. A slash at the end asks for a directory, as
a dot would. -/
def steps (path : String) : List String :=
  let names := ((Text.splitAt '/' path.toList).map String.ofList).filter (!·.isEmpty)
  if path.toList.getLast? = some '/' then names ++ ["."] else names

/-- The names of a path that count: dots count at its start only. -/
def names (path : String) : List String :=
  let all := ((Text.splitAt '/' path.toList).map String.ofList).filter (!·.isEmpty)
  match all with
  | [] => []
  | first :: rest =>
    let rest := rest.filter (· ≠ ".")
    if first = "." ∧ isAbsolute path then rest else first :: rest

def ofNames (absolute : Bool) (names : List String) : String :=
  (if absolute then "/" else "") ++ String.intercalate "/" names

/-- The path without its last name, if it has one. -/
def parent? (path : String) : Option String :=
  match names path with
  | [] => none
  | names => some (ofNames (isAbsolute path) names.dropLast)

/-- The last name of a path, unless it leads upward. -/
def fileName? (path : String) : Option String :=
  (names path).getLast?.filter fun name => name ≠ ".." ∧ name ≠ "."

/-- What follows the last dot of the last name. A dot at its start does not count. -/
def extension? (path : String) : Option String := do
  let name ← fileName? path
  match name.toList with
  | [] => none
  | _ :: rest =>
    match rest.reverse.dropWhile (· ≠ '.') with
    | [] => none
    | _ => some (String.ofList (rest.reverse.takeWhile (· ≠ '.')).reverse)

/-- The path with more after its last name. -/
def extend (path suffix : String) : String :=
  match parent? path, fileName? path with
  | some parent, some name => join parent (name ++ suffix)
  | _, _ => path

end UiPolicy.Path
