import UiPolicy.Error
import UiPolicy.Json.Decode
import UiPolicy.Text.Blank
import UiPolicy.Toml.Writer
import UiPolicy.Url

/-!
# The configuration

Three groups of settings: the backend, the resolution of markers, and the log. Every setting has a
default. `Config.problems` lists what is wrong with a configuration, and `Config.toToml` writes it.
-/

namespace UiPolicy

/-- How the backend is reached; times are in milliseconds. -/
structure BackendConfig where
  url : String
  connectTimeout : Nat
  requestTimeout : Nat
deriving Repr, DecidableEq

structure ResolverConfig where
  maxPasses : Nat
deriving Repr, DecidableEq

/-- What is logged, how, and where to. -/
structure LoggingConfig where
  enabled : Bool
  level : String
  format : String
  output : String
  file : Option String
  color : Bool
  /-- The levels of single modules, in ascending order of the modules' names. -/
  modules : List (String × String)
deriving Repr, DecidableEq

structure Config where
  backend : BackendConfig
  resolver : ResolverConfig
  logging : LoggingConfig
deriving Repr, DecidableEq

/-- A name put into a list sorted by name; an earlier value of that name is replaced. -/
def insertByName {α : Type} (name : String) (value : α) :
    List (String × α) → List (String × α)
  | [] => [(name, value)]
  | (other, old) :: rest =>
    if name < other then (name, value) :: (other, old) :: rest
    else if name = other then (name, value) :: rest
    else (other, old) :: insertByName name value rest

/-- A list sorted by name; of one name the last value counts. -/
def sortByName {α : Type} (pairs : List (String × α)) : List (String × α) :=
  pairs.foldl (fun sorted (name, value) => insertByName name value sorted) []

namespace BackendConfig

def default : BackendConfig :=
  ⟨"http://localhost:8000", 5000, 30000⟩

def record : Json.Record BackendConfig where
  name := "BackendConfig"
  fields := [
    .optional "url" Json.decodeString fun url c => { c with url },
    .optional "connect_timeout_ms" (Json.decodeNat "u64") fun connectTimeout c =>
      { c with connectTimeout },
    .optional "request_timeout_ms" (Json.decodeNat "u64") fun requestTimeout c =>
      { c with requestTimeout }]
  start := default

def toJson (c : BackendConfig) : Json :=
  .object [("url", .string c.url), ("connect_timeout_ms", .ofNat c.connectTimeout),
    ("request_timeout_ms", .ofNat c.requestTimeout)]

def problem? (c : BackendConfig) : Option String :=
  if (Text.trim c.url.toList).isEmpty then some "Backend url cannot be empty"
  else
    match Url.scheme c.url with
    | .error e => some ("Invalid backend url '" ++ c.url ++ "': " ++ e.message)
    | .ok scheme =>
      if scheme ≠ "http" ∧ scheme ≠ "https" then
        some ("Backend url must be http or https, got '" ++ scheme ++ "'")
      else if c.connectTimeout = 0 ∨ c.requestTimeout = 0 then
        some "Backend timeouts must be greater than zero"
      else none

/-- The backend's address without slashes at its end. -/
def baseUrl (c : BackendConfig) : String :=
  String.ofList (c.url.toList.reverse.dropWhile (· = '/')).reverse

end BackendConfig

namespace ResolverConfig

/-- Sixty-four passes. -/
def default : ResolverConfig :=
  ⟨64⟩

def record : Json.Record ResolverConfig where
  name := "ResolverSettings"
  fields := [.optional "max_passes" (Json.decodeNat "usize") fun maxPasses _ => ⟨maxPasses⟩]
  start := default

def toJson (c : ResolverConfig) : Json :=
  .object [("max_passes", .ofNat c.maxPasses)]

def problem? (c : ResolverConfig) : Option String :=
  if c.maxPasses = 0 then some "max_passes must be greater than zero" else none

end ResolverConfig

namespace LoggingConfig

/-- Informative records as text on standard error. -/
def default : LoggingConfig :=
  ⟨true, "info", "text", "stderr", none, true, []⟩

def record : Json.Record LoggingConfig where
  name := "LoggingConfig"
  fields := [
    .optional "enabled" Json.decodeBool fun enabled c => { c with enabled },
    .optional "level" Json.decodeString fun level c => { c with level },
    .optional "format" Json.decodeString fun format c => { c with format },
    .optional "output" Json.decodeString fun output c => { c with output },
    .optional "file" (Json.decodeOption (Json.decodeStringAs "path string")) fun file c =>
      { c with file },
    .optional "color" Json.decodeBool fun color c => { c with color },
    .optional "modules" (Json.decodeMap Json.decodeString) fun modules c =>
      { c with modules := sortByName modules }]
  start := default

def toJson (c : LoggingConfig) : Json :=
  .object [("enabled", .bool c.enabled), ("level", .string c.level), ("format", .string c.format),
    ("output", .string c.output), ("file", .ofOption .string c.file), ("color", .bool c.color),
    ("modules", .object (c.modules.map fun (name, level) => (name, .string level)))]

def formatProblem? (format : String) : Option String :=
  if format = "json" ∨ format = "text" then none
  else some ("Invalid log format: " ++ format ++ " (must be 'json' or 'text')")

def outputProblem? (output : String) : Option String :=
  if output = "stdout" ∨ output = "stderr" ∨ output = "file" then none
  else some ("Invalid log output: " ++ output ++ " (must be 'stdout', 'stderr', or 'file')")

def problem? (c : LoggingConfig) : Option String :=
  (formatProblem? c.format).or (outputProblem? c.output)

end LoggingConfig

namespace Config

def default : Config :=
  ⟨.default, .default, .default⟩

/-- The groups of settings. -/
def record : Json.Record Config where
  name := "WhenConfig"
  fields := [
    .optional "backend" BackendConfig.record.decode fun backend c => { c with backend },
    .optional "resolver" ResolverConfig.record.decode fun resolver c => { c with resolver },
    .optional "logging" LoggingConfig.record.decode fun logging c => { c with logging }]
  start := default

def toJson (c : Config) : Json :=
  .object [("backend", c.backend.toJson), ("resolver", c.resolver.toJson),
    ("logging", c.logging.toJson)]

/-! ## Validation -/

/-- Everything that is wrong, each with the name of its group. -/
def problems (c : Config) : List String :=
  (c.backend.problem?.map ("Backend: " ++ ·)).toList ++
    (c.resolver.problem?.map ("Resolver: " ++ ·)).toList ++
    (c.logging.problem?.map ("Logging: " ++ ·)).toList

/-- The configuration, if nothing is wrong with it. -/
def validated (c : Config) : Except Failure Config :=
  if c.problems.isEmpty then .ok c
  else
    .error (.configuration
      ("Configuration validation failed:\n" ++ String.intercalate "\n" c.problems))

/-! ## TOML -/

/-- The entries of a table; none if a number cannot be written. -/
def natEntry (key : String) (n : Nat) : Option String :=
  (Toml.writeNat? n).map (Toml.entry key)

/-- The configuration as a TOML text. The lines for modules stand in ascending order. -/
def toToml (c : Config) : Except Failure String :=
  let string (key value : String) : String := Toml.entry key (Toml.writeString value)
  let bool (key : String) (value : Bool) : String := Toml.entry key (toString value)
  let modules := c.logging.modules.map fun (name, level) => string name level
  match natEntry "connect_timeout_ms" c.backend.connectTimeout,
    natEntry "request_timeout_ms" c.backend.requestTimeout,
    natEntry "max_passes" c.resolver.maxPasses with
  | some connect, some request, some passes =>
    .ok (Toml.document [
      Toml.table "backend" [string "url" c.backend.url, connect, request],
      Toml.table "resolver" [passes],
      Toml.table "logging" ([bool "enabled" c.logging.enabled, string "level" c.logging.level,
        string "format" c.logging.format, string "output" c.logging.output] ++
        (c.logging.file.map (string "file")).toList ++ [bool "color" c.logging.color]),
      Toml.table "logging.modules" (modules.mergeSort fun a b => a ≤ b)])
  | _, _, _ => .error (.configuration "out-of-range value for u64 type")

end Config

end UiPolicy
