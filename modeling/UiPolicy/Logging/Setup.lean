import UiPolicy.Config.Load
import UiPolicy.Logging.Filter
import UiPolicy.Logging.Line

/-!
# Setting up the log

Where records go, how they are written and which of them pass follows from the configuration and
from the variables `WHEN_LOG`, `WHEN_LOG_FORMAT`, `WHEN_LOG_OUTPUT` and `WHEN_LOG_MODULES`, which
come first. A filter or a format that makes no sense is passed over in a variable; an output is not.
-/

namespace UiPolicy.Logging

/-- Where records go. -/
inductive Sink
  | stdout
  | stderr
  | file (path : String)
deriving Repr, DecidableEq

/-- A log that was set up. -/
structure Log where
  filter : Filter
  format : LineFormat
  sink : Sink
deriving Repr, DecidableEq

def defaultFile : String := ".when/when.log"

/-- The outcome of setting up: the log, if there is one, the file system with its file, and lines
for standard error. -/
structure SetupResult where
  outcome : Except Failure (Option Log)
  files : Files
  complaints : List String

/-- Directives for modules, each `name=level`, added to a filter. A failure begins with the given
words. -/
def addModules (complaint : String) (modules : List (String × String)) (filter : Filter) :
    Except Failure Filter :=
  modules.foldlM (fun filter (name, level) =>
    match Directive.ofText (name ++ "=" ++ level) with
    | .ok d => .ok (filter.add d)
    | .error e => .error (.configuration (complaint ++ e.message))) filter

/-- The modules that a variable names, separated by commas. A part with more or fewer than one
equals sign does not count. -/
def variableModules (text : String) : List (String × String) :=
  (Text.splitAt ',' text.toList).filterMap fun part =>
    match Text.splitAt '=' part with
    | [name, level] => some (String.ofList (Text.trim name), String.ofList (Text.trim level))
    | _ => none

/-- The filter of a configuration, and complaints about parts of its level. -/
def buildFilter (config : LoggingConfig) (vars : Variables) :
    Except Failure Filter × List String :=
  match (vars.get? "WHEN_LOG").map Filter.ofText with
  | some (.ok filter) => (.ok filter, [])
  | _ =>
    if config.level = "off" then (.ok (.ofDirectives [⟨none, none, [], 0⟩]), [])
    else
      let (filter, complaints) := Filter.ofTextLenient config.level
      let modules := ((vars.get? "WHEN_LOG_MODULES").map variableModules).getD []
      let filter := do
        let filter ← addModules "Invalid log directive: " config.modules filter
        addModules "Invalid log directive from env: " modules filter
      (filter, complaints)

/-- A name in which nothing is wrong. -/
def accept (problem? : String → Option String) (name : String) : Except Failure String :=
  match problem? name with
  | none => .ok name
  | some problem => .error (.configuration problem)

/-- The name of the format. A variable with a name that makes no sense is passed over. -/
def chosenFormat (config : LoggingConfig) (vars : Variables) : Except Failure String :=
  let given := (vars.get? "WHEN_LOG_FORMAT").filter fun name =>
    (LoggingConfig.formatProblem? name).isNone
  accept LoggingConfig.formatProblem? (given.getD config.format)

def chosenOutput (config : LoggingConfig) (vars : Variables) : Except Failure String :=
  accept LoggingConfig.outputProblem? ((vars.get? "WHEN_LOG_OUTPUT").getD config.output)

def openFile (files : Files) (path : String) : Except Failure Files := do
  let files ← match Path.parent? path with
    | none => .ok files
    | some parent =>
      (files.createDirectories parent).mapError fun e =>
        .configuration ("Failed to create log directory: " ++ e.message)
  (files.append path "").mapError fun e =>
    .configuration ("Failed to open log file " ++ Text.quoted path ++ ": " ++ e.message)

/-- Sets the log up after its filter. -/
def setUpSink (config : LoggingConfig) (vars : Variables) (files : Files) (filter : Filter) :
    Except Failure (Log × Files) := do
  let format ← chosenFormat config vars
  let output ← chosenOutput config vars
  let lineFormat : LineFormat :=
    if format = "json" then .json else .text (config.color && output ≠ "file")
  if output = "file" then
    let path := config.file.getD defaultFile
    return (⟨filter, lineFormat, .file path⟩, ← openFile files path)
  else
    return (⟨filter, lineFormat, if output = "stdout" then .stdout else .stderr⟩, files)

/-- Sets the log up. A log that is not enabled is none. -/
def setUp (config : LoggingConfig) (vars : Variables) (files : Files) : SetupResult :=
  if !config.enabled then ⟨.ok none, files, []⟩
  else
    let (filter, complaints) := buildFilter config vars
    match filter.bind (setUpSink config vars files) with
    | .ok (log, files) => ⟨.ok (some log), files, complaints⟩
    | .error failure => ⟨.error failure, files, complaints⟩

/-- The lines of notices that pass a log. -/
def Log.lines (log : Log) (time : String) (notices : List Notice) : List String :=
  ((notices.map Notice.record).filter log.filter.passes).map (·.line log.format time)

end UiPolicy.Logging
