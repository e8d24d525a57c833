import UiPolicy.Config.Coerce
import UiPolicy.Files
import UiPolicy.Json.Decode
import UiPolicy.Noted
import UiPolicy.Toml.Reader

/-!
# Loading the configuration

Layers, from the lowest: the user's global file, the files of the workspace (a base file, and one
for the active environment), and the variables of the process that start with `WHEN__`. An explicit
file takes the place of all other files.
-/

namespace UiPolicy

structure Variables where
  list : List (String × String)
deriving Repr, DecidableEq

def Variables.get? (vars : Variables) (name : String) : Option String :=
  (vars.list.find? (·.1 = name)).map (·.2)

/-- The variables of a block of texts `name=value`, each ended by a null character. -/
def Variables.ofBlock (block : String) : Variables :=
  ⟨(Text.splitAt '\x00' block.toList).filterMap fun entry =>
    (Text.cutAt? ['='] entry).map fun (name, value) => (String.ofList name, String.ofList value)⟩

/-! ## Variables as a layer -/

/-- The number that a text writes as an integer of 63 bits and a sign. -/
def readInteger? (text : String) : Option Int := do
  let (negative, digits) := match text.toList with
    | '-' :: digits => (true, digits)
    | '+' :: digits => (false, digits)
    | digits => (false, digits)
  if digits.isEmpty || !digits.all Char.isDigit then none
  else
    let n := Toml.digitsValue 10 digits
    let value : Int := if negative then -n else n
    if -Int.pow 2 63 ≤ value ∧ value < Int.pow 2 63 then some value else none

/-- The number that a text writes with digits, a point or an exponent. -/
def readDecimal? (cs : List Char) : Option Float := do
  let whole := cs.takeWhile Char.isDigit
  let rest := cs.dropWhile Char.isDigit
  let (fraction, rest) := match rest with
    | '.' :: rest => (rest.takeWhile Char.isDigit, rest.dropWhile Char.isDigit)
    | rest => ([], rest)
  if whole.isEmpty && fraction.isEmpty then none
  else
    let exponent : Int ← match rest with
      | [] => some 0
      | 'e' :: rest | 'E' :: rest =>
        let (negative, digits) := Toml.readSign rest
        if digits.isEmpty || !digits.all Char.isDigit then none
        else
          let n := Toml.digitsValue 10 digits
          some (if negative then -n else n)
      | _ => none
    return Toml.decimalValue (Toml.digitsValue 10 (whole ++ fraction)) (exponent - fraction.length)

/-- The double that a text writes, words for infinity and for no number included. -/
def readFloat? (text : String) : Option Float := do
  let (negative, cs) := Toml.readSign text.toList
  let word := (String.ofList cs).toLower
  let x ←
    if word = "inf" ∨ word = "infinity" then some (1 / 0)
    else if word = "nan" then some (0 / 0)
    else readDecimal? cs
  return if negative then -x else x

/-- The value of a variable as a setting: a truth value, a number, or a text. -/
def settingOfText (text : String) : Setting :=
  let word := Text.lowercase text
  if word = "true" then .bool true
  else if word = "false" then .bool false
  else
    match readInteger? text, readFloat? text with
    | some value, _ => .integer value
    | none, some value => .float value
    | none, none => .string text

/-- A name with a dot in the place of every two underscores. -/
def dotted : List Char → List Char
  | '_' :: '_' :: cs => '.' :: dotted cs
  | c :: cs => c :: dotted cs
  | [] => []

/-- The settings of the variables whose names start with `WHEN__`, in any case. -/
def Variables.layer (vars : Variables) : List (String × Setting) :=
  vars.list.filterMap fun (name, value) =>
    let name := Text.lowercase name
    if name.startsWith "when__" then
      some (String.ofList (dotted (name.toList.drop 6)), settingOfText value)
    else none

/-! ## Files as layers -/

/-- The kinds of documents that are known. -/
inductive DocumentKind
  | toml
  | json
deriving Repr, DecidableEq

/-- The kind of a document with a given name extension. -/
def DocumentKind.ofExtension? (extension : String) : Option DocumentKind :=
  if extension = "toml" then some .toml
  else if extension = "json" then some .json
  else none

/-- The settings written in a document. A byte order mark at its start does not count. -/
def DocumentKind.layer (kind : DocumentKind) (text : String) :
    Except String (List (String × Setting)) :=
  let text := match text.toList with
    | '\uFEFF' :: cs => String.ofList cs
    | _ => text
  match kind with
  | .toml =>
    match Toml.read text with
    | some entries => .ok (Setting.ofTomlEntries entries)
    | none => .error "invalid TOML document"
  | .json =>
    match Json.decodeText Json.decodeAny text with
    | .ok (.object members) => .ok (Setting.ofJsonMembers members)
    | .ok _ => .error "invalid type, expected a map"
    | .error e => .error e.message

/-- The file that a path means, and its kind: the file itself, or if there is none, one with an
extension added to its name. -/
def findDocument (files : Files) (path : String) : Except String (String × DocumentKind) :=
  if files.isFile path then
    match (Path.extension? path).bind DocumentKind.ofExtension? with
    | some kind => .ok (path, kind)
    | none => .error ("configuration file \"" ++ path ++ "\" is not of a registered file format")
  else if files.isFile (Path.extend path ".toml") then .ok (Path.extend path ".toml", .toml)
  else if files.isFile (Path.extend path ".json") then .ok (Path.extend path ".json", .json)
  else .error ("configuration file \"" ++ path ++ "\" not found")

def readLayer (files : Files) (path : String) (kind : DocumentKind) :
    Except String (List (String × Setting)) :=
  match files.read path with
  | .ok text => kind.layer text
  | .error e => .error e.message

/-- Where the user's global file is looked for. -/
def globalPath? (vars : Variables) : Option String :=
  match (vars.get? "XDG_CONFIG_HOME").filter (!·.isEmpty) with
  | some directory => some (Path.join (Path.join directory "when") "config.toml")
  | none =>
    (vars.get? "HOME").map fun home =>
      Path.join (Path.join (Path.join home ".config") "when") "config.toml"

def environmentVariable : String := "WHEN_ENV"

def activeEnvironment (vars : Variables) : String :=
  match vars.get? environmentVariable with
  | some name => if (Text.trim name.toList).isEmpty then "development" else name
  | none => "development"

/-- The files of a workspace, the lowest layer first. An environment is a bare name. -/
def layerPaths (workspace environment : String) : Except String (List String) :=
  if environment.toList.any (fun c => c = '/' ∨ c = '\\') || environment = ".." then
    .error (environmentVariable ++ " must be a bare name, got " ++ Text.quoted environment)
  else
    let directory := Path.join workspace "config"
    .ok [Path.join directory "config.toml", Path.join directory (environment ++ ".toml")]

/-! ## Loading -/

/-- The configuration of some layers, the lowest first. -/
def configOfLayers (layers : List (Except String (List (String × Setting)))) :
    Except Failure Config :=
  let settings := do
    let layers ← layers.mapM id
    (layers.foldl Setting.addLayer (.table [])).toConfig
  settings.mapError .configuration

/-- The layer of the user's global file, if there is one. -/
def globalLayer (files : Files) (vars : Variables) :
    Noted (List (Except String (List (String × Setting)))) :=
  match globalPath? vars with
  | none => return []
  | some path =>
    if files.contains path then
      match findDocument files path with
      | .ok (path, kind) => return [readLayer files path kind]
      | .error _ => return []
    else do
      note (.globalConfigurationMissing path)
      return []

def Config.load (files : Files) (vars : Variables) (workspace : String) :
    Noted (Except Failure Config) := do
  let globalLayers ← globalLayer files vars
  let environment := activeEnvironment vars
  match layerPaths workspace environment with
  | .error reason => return .error (.configuration reason)
  | .ok paths =>
    let paths := paths.filter files.isFile
    noteAll (paths.map (.workspaceLayerAdded · environment))
    return configOfLayers
      (globalLayers ++ paths.map (readLayer files · .toml) ++ [.ok vars.layer])

/-- The configuration of one explicit file. Variables still apply. -/
def Config.loadFile (files : Files) (vars : Variables) (path : String) : Except Failure Config :=
  if !files.contains path then
    .error (.configuration ("Config file not found: " ++ path))
  else
    configOfLayers [
      (do
        let (path, kind) ← findDocument files path
        readLayer files path kind),
      .ok vars.layer]

end UiPolicy
