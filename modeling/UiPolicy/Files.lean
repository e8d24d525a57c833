import UiPolicy.Files.Path

/-!
# Files

What a run sees of a file system: a tree of directories and text files, and the working directory.
Reading and writing answer as an operating system would, with the same refusals.
-/

namespace UiPolicy

/-- Why a file operation is refused. -/
inductive FileError
  | notFound
  | alreadyExists
  | notDirectory
  | isDirectory
deriving Repr, DecidableEq

def FileError.message : FileError → String
  | .notFound => "No such file or directory (os error 2)"
  | .alreadyExists => "File exists (os error 17)"
  | .notDirectory => "Not a directory (os error 20)"
  | .isDirectory => "Is a directory (os error 21)"

/-- A file or a directory. -/
inductive FileNode
  | file (content : String)
  | directory (entries : List (String × FileNode))
deriving Repr

namespace FileNode

def empty : FileNode :=
  .directory []

instance : Inhabited FileNode := ⟨empty⟩

/-- What a directory holds under a name. -/
def child? : FileNode → String → Option FileNode
  | .file _, _ => none
  | .directory entries, name => (entries.find? (·.1 = name)).map (·.2)

/-- The directory with something else under a name. A file has no names. -/
def setChild (node : FileNode) (name : String) (child : FileNode) : FileNode :=
  match node with
  | .file content => .file content
  | .directory entries =>
    if entries.any (·.1 = name) then
      .directory (entries.map fun (n, old) => if n = name then (n, child) else (n, old))
    else .directory (entries ++ [(name, child)])

def at? : FileNode → List String → Option FileNode
  | node, [] => some node
  | node, name :: names => (node.child? name).bind (·.at? names)

/-- The tree with something put at a place; missing directories come to be. -/
def put (child : FileNode) : List String → FileNode → FileNode
  | [], _ => child
  | name :: names, node =>
    node.setChild name (put child names ((node.child? name).getD empty))

/-- The place that steps lead to. Every place on the way has to be a directory. -/
def walk (root : FileNode) : List String → List String → Except FileError (List String)
  | place, [] => .ok place
  | place, step :: steps =>
    match root.at? place with
    | some (.directory entries) =>
      if step = "." then root.walk place steps
      else if step = ".." then root.walk place.dropLast steps
      else if entries.any (·.1 = step) then root.walk (place ++ [step]) steps
      else .error .notFound
    | some (.file _) => .error .notDirectory
    | none => .error .notFound

/-- The tree with a directory at every place that steps lead to. -/
def makeDirectories : List String → List String → FileNode → Except FileError FileNode
  | _, [], root => .ok root
  | place, step :: steps, root =>
    if step = "." then makeDirectories place steps root
    else if step = ".." then makeDirectories place.dropLast steps root
    else
      match root.at? (place ++ [step]) with
      | some (.directory _) => makeDirectories (place ++ [step]) steps root
      | some (.file _) => .error (if steps.isEmpty then .alreadyExists else .notDirectory)
      | none => makeDirectories (place ++ [step]) steps (put empty (place ++ [step]) root)

end FileNode

/-- A file system with a working directory, given by the names that lead to it. -/
structure Files where
  root : FileNode
  current : List String
deriving Repr, Inhabited

namespace Files

def start (files : Files) (path : String) : List String :=
  if Path.isAbsolute path then [] else files.current

/-- The place that steps lead to, if every place on the way is a directory. -/
def plainPlace : List String → List String → List String
  | place, [] => place
  | place, step :: steps =>
    if step = "." then plainPlace place steps
    else if step = ".." then plainPlace place.dropLast steps
    else plainPlace (place ++ [step]) steps

/-- The root, the place of a path, and the places between them. -/
def placesAlong (files : Files) (path : String) : List (List String) :=
  let place := plainPlace (files.start path) (Path.steps path)
  (List.range (place.length + 1)).map place.take

def lookup (files : Files) (path : String) : Except FileError FileNode :=
  if path.isEmpty then .error .notFound
  else do
    let place ← files.root.walk (files.start path) (Path.steps path)
    match files.root.at? place with
    | some node => .ok node
    | none => .error .notFound

def contains (files : Files) (path : String) : Bool :=
  (files.lookup path).isOk

def isFile (files : Files) (path : String) : Bool :=
  match files.lookup path with
  | .ok (.file _) => true
  | _ => false

def read (files : Files) (path : String) : Except FileError String := do
  match ← files.lookup path with
  | .file content => .ok content
  | .directory _ => .error .isDirectory

def createDirectories (files : Files) (path : String) : Except FileError Files := do
  if path.isEmpty then return files
  else
    let root ← FileNode.makeDirectories (files.start path) (Path.steps path) files.root
    return { files with root }

/-- The file system with a text added to a file, which comes to be if it is missing. -/
def append (files : Files) (path text : String) : Except FileError Files := do
  if path.isEmpty then throw .notFound
  let steps := Path.steps path
  match files.root.walk (files.start path) steps with
  | .ok place =>
    match files.root.at? place with
    | some (.file content) =>
      return { files with root := FileNode.put (.file (content ++ text)) place files.root }
    | _ => throw .isDirectory
  | .error .notFound =>
    let place ← files.root.walk (files.start path) steps.dropLast
    match files.root.at? place, steps.getLast? with
    | some (.directory _), some name =>
      if name = "." then throw .isDirectory
      else return { files with root := FileNode.put (.file text) (place ++ [name]) files.root }
    | some (.file _), _ => throw .notDirectory
    | _, _ => throw .notFound
  | .error e => throw e

/-- The file system with a file at a place given by names; its directories come to be. -/
def withFile (files : Files) (place : List String) (content : String) : Files :=
  { files with root := FileNode.put (.file content) place files.root }

/-- The file system with a directory at a place given by names. -/
def withDirectory (files : Files) (place : List String) : Files :=
  match files.root.at? place with
  | some _ => files
  | none => { files with root := FileNode.put .empty place files.root }

end Files

end UiPolicy
