import UiPolicy.Command.Execute
import UiPolicy.Command.Line
import UiPolicy.Logging.Setup

/-!
# The program

A run in three steps, so that the middle one can be timed: `Program.start` reads the command line,
sets the log up and loads the configuration; `Run.execute` runs the command; `Run.finish` reports
what came of it. Nothing is written on the way: a run ends in a `RunResult`, which holds every line
in order.
-/

namespace UiPolicy

open Logging (Log Sink)

/-- What a run finds around it. -/
structure Surroundings where
  words : List String
  environment : Variables
  files : Files
  transport : Transport
  /-- The time that log records carry. -/
  time : String

/-- How a run ends. -/
structure RunResult where
  exitCode : Nat
  /-- The lines that were written, each with its place. -/
  lines : List (Sink × String)
  /-- The file system with the log file. -/
  files : Files

/-! ## Writing -/

/-- What was written so far. -/
structure Console where
  log : Option Log
  time : String
  lines : List (Sink × String)
  files : Files

namespace Console

def write (c : Console) (sink : Sink) (line : String) : Console :=
  { c with
    lines := c.lines ++ [(sink, line)]
    files := match sink with
      | .file path => ((c.files.append path (line ++ "\n")).toOption).getD c.files
      | .stdout | .stderr => c.files }

def record (c : Console) (notices : List Notice) : Console :=
  match c.log with
  | none => c
  | some log => (log.lines c.time notices).foldl (·.write log.sink) c

def exit (c : Console) (exitCode : Nat) : RunResult :=
  ⟨exitCode, c.lines, c.files⟩

end Console

/-! ## Settings -/

namespace Invocation

/-- The configuration for a command line, as it is loaded. -/
def loadConfig (i : Invocation) (vars : Variables) (files : Files) :
    Noted (Except Failure Config) :=
  match i.configFile with
  | some path => return Config.loadFile files vars path
  | none => Config.load files vars i.workspace

/-- The workspace of a command line. Its configuration has no faults. -/
def prepare (i : Invocation) (vars : Variables) (files : Files) (transport : Transport) :
    Attempt Workspace := do
  let loaded ← ExceptT.mk (i.loadConfig vars files)
  let config ← MonadExcept.ofExcept loaded.validated
  return ⟨i.workspace, config, files, transport⟩

/-- The log's settings with the options of a command line. A log file asks for output to it, unless
an output is named. -/
def overrideLogging (i : Invocation) (c : LoggingConfig) : LoggingConfig :=
  { c with
    enabled := c.enabled && !i.quiet
    level := i.logLevel.getD (if i.verbose then "debug" else c.level)
    format := i.logFormat.getD c.format
    output := i.logOutput.getD (if i.logFile.isSome then "file" else c.output)
    file := i.logFile.or c.file }

/-- The log's settings. They are the default ones if the configuration cannot be loaded. -/
def logging (i : Invocation) (vars : Variables) (files : Files) : LoggingConfig :=
  i.overrideLogging <|
    match (i.loadConfig vars files).value with
    | .ok config => config.logging
    | .error _ => .default

end Invocation

/-! ## The steps of a run -/

/-- A run whose command is ready. -/
structure Run where
  command : Command
  workspace : Workspace
  console : Console

/-- What came of a command. -/
structure Executed where
  run : Run
  result : Except Failure String

/-- The code with which a faulty command line ends a run. -/
def UsageError.exitCode : UsageError → Nat
  | .helpWanted => 0
  | _ => 2

def usage : List String :=
  ["Inspect, resolve and replay declarative UI interaction policies",
    "",
    "Usage: whenctl [OPTIONS] <COMMAND>",
    "",
    "Commands:",
    "  split    Split a policy argument list into top-level tokens",
    "  resolve  Resolve context markers in a policy expression",
    "  replay   Bind an element tree and replay an event script against it",
    "  config   Print the effective configuration as TOML",
    "  health   Check that the configured backend answers",
    "  help     Print this message or the help of the given subcommand(s)",
    "",
    "Options:",
    "      --workspace <WORKSPACE>    Workspace root directory [default: .]",
    "      --config <CONFIG>          Configuration file path (overrides default config loading)",
    "      --verbose                  Enable verbose logging",
    "      --quiet                    Disable logging entirely",
    "      --log-level <LOG_LEVEL>    Log level (trace, debug, info, warn, error, off)",
    "      --log-format <LOG_FORMAT>  Log format (json, text)",
    "      --log-output <LOG_OUTPUT>  Log output (stdout, stderr, file)",
    "      --log-file <LOG_FILE>      Log file path (if output is \"file\")",
    "  -h, --help                     Print help"]

namespace Program

/-- The paths that loading the configuration for a command line looks at. -/
def settingPaths (words : List String) (vars : Variables) : List String :=
  match Invocation.ofWords words with
  | .error _ => []
  | .ok i =>
    let documents := ((globalPath? vars).toList ++ i.configFile.toList).flatMap fun path =>
      [path, Path.extend path ".toml", Path.extend path ".json"]
    documents ++
      ((layerPaths i.workspace (activeEnvironment vars)).toOption).getD []

/-- The paths that the log and the command of a command line look at. -/
def workPaths (words : List String) (vars : Variables) (files : Files) : List String :=
  match Invocation.ofWords words with
  | .error _ => []
  | .ok i =>
    let log := (i.logging vars files).file.getD Logging.defaultFile
    let read := match i.command with
      | .replay tree events _ _ => (tree.toList ++ [events]).map (Path.join i.workspace)
      | _ => []
    log :: read

/-- Reads the command line, sets the log up and loads the configuration. A run that fails in this is
over. -/
def start (s : Surroundings) : Except RunResult Run :=
  let console : Console := ⟨none, s.time, [], s.files⟩
  match Invocation.ofWords s.words with
  | .error e =>
    let sink : Sink := if e = .helpWanted then .stdout else .stderr
    .error ((usage.foldl (·.write sink) console).exit e.exitCode)
  | .ok i =>
    let log := Logging.setUp (i.logging s.environment s.files) s.environment s.files
    let console := log.complaints.foldl (·.write .stderr) console
    match log.outcome with
    | .error e =>
      let console := console.write .stderr ("Failed to initialize logging: " ++ e.message)
      .error ({ console with files := log.files }.exit 1)
    | .ok outcome =>
      let console :=
        { console with log := outcome, files := log.files }.record [.commandStarting i.command.name]
      let prepared := (i.prepare s.environment console.files s.transport).run
      let console := console.record prepared.notices
      match prepared.value with
      | .error e =>
        .error (((console.record [.configurationFailed e]).write .stderr e.advice).exit 1)
      | .ok workspace => .ok ⟨i.command, workspace, console⟩

end Program

def Run.execute (r : Run) : Executed :=
  let executed := (r.workspace.execute r.command).run
  ⟨{ r with console := r.console.record executed.notices }, executed.value⟩

/-- Reports what came of the command, which took some milliseconds. -/
def Executed.finish (e : Executed) (milliseconds : Nat) : RunResult :=
  let finished := Notice.commandFinished e.run.command.name e.result.isOk milliseconds
  let console := e.run.console.record [finished]
  match e.result with
  | .ok text => (console.write .stdout text).exit 0
  | .error failure =>
    ((console.record [.commandFailed failure]).write .stderr failure.advice).exit 1

/-- A whole run, with a command that takes no time. -/
def Program.run (s : Surroundings) : RunResult :=
  match start s with
  | .error outcome => outcome
  | .ok run => run.execute.finish 0

end UiPolicy
