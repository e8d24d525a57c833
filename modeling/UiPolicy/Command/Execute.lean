import UiPolicy.Backend
import UiPolicy.Command
import UiPolicy.Config
import UiPolicy.Files
import UiPolicy.Report

/-!
# Running a command

A command answers with a text, or fails. It reads files below its workspace, and asks the backend
through the transport that it is given.
-/

namespace UiPolicy

structure Workspace where
  /-- The directory that relative paths start from. -/
  directory : String
  config : Config
  files : Files
  transport : Transport

/-- A result or a failure, with the notices that were given on the way. -/
abbrev Attempt : Type → Type :=
  ExceptT Failure Noted

/-- The form of a report. -/
inductive ReportFormat
  | text
  | json
deriving Repr, DecidableEq

def ReportFormat.ofName (name : String) : Except Failure ReportFormat :=
  if name = "text" then .ok .text
  else if name = "json" then .ok .json
  else
    .error (.configuration
      ("Invalid output format: " ++ name ++ " (must be 'text' or 'json')"))

namespace Workspace

def backend (w : Workspace) : Backend :=
  .ofConfig w.config.backend w.transport

/-- The content of a file. A relative path starts at the workspace. -/
def read (w : Workspace) (path : String) : Except Failure String :=
  (w.files.read (Path.join w.directory path)).mapError fun e => .io e.message

def readScript (w : Workspace) (path : String) : Except Failure (List ScriptedEvent) := do
  (ScriptedEvent.decodeScript (← w.read path)).mapError fun e => .invalidScript e.message

def readTree (w : Workspace) (path : String) : Except Failure ElementNode := do
  (ElementNode.decodeTree (← w.read path)).mapError fun e => .invalidTree e.message

/-! ## Splitting and resolving -/

/-- The tokens that an argument list shows, and the place of a stray bracket. -/
def tokens (arguments : String) : List String × Option Nat :=
  Arguments.splitLenient (Arguments.strip arguments)

def split (arguments format : String) : Except Failure String := do
  let (tokens, stray) := tokens arguments
  match ← ReportFormat.ofName format with
  | .text => return Report.tokensText tokens stray
  | .json => return Report.tokensJson tokens stray

def resolve (w : Workspace) (policy : String) (context : List (String × String)) :
    Attempt String := do
  let store := Context.Store.ofList context
  let maxPasses := w.config.resolver.maxPasses
  noteAll ((Context.Marker.missingKeys store maxPasses policy).map Notice.contextKeyMissing)
  MonadExcept.ofExcept ((Context.Marker.resolve store maxPasses policy).mapError Failure.policy)

/-! ## Replays -/

def setup (w : Workspace) (submitter : Submitter) : Setup :=
  ⟨w.config.resolver.maxPasses, submitter, false⟩

/-- What is left after a script was replayed; its submissions are kept. -/
def replayDry (w : Workspace) (tree : Option String) (script : List ScriptedEvent) :
    Attempt Snapshot := do
  match tree with
  | none => throw (.configuration "--tree is required unless --live is set")
  | some path =>
    let root ← MonadExcept.ofExcept (w.readTree path)
    let session ← Session.start (w.setup (.recorder true)) root
    return (← session.replay script).observe

/-- What is left after a script was replayed; its submissions are sent to the backend, which also
hands out the tree if no file is named. -/
def replayLive (w : Workspace) (tree : Option String) (script : List ScriptedEvent) :
    Attempt Snapshot := do
  let root ← match tree with
    | some path => MonadExcept.ofExcept (w.readTree path)
    | none => do
      note (.treeFetching w.backend.address)
      MonadExcept.ofExcept w.backend.fetchTree
  let session ← Session.start (w.setup .client) root
  return (← w.backend.flush (← session.replay script)).observe

/-- Fires the events of a script at an element tree and shows what is left. -/
def replay (w : Workspace) (tree : Option String) (events format : String) (live : Bool) :
    Attempt String := do
  let format ← MonadExcept.ofExcept (ReportFormat.ofName format)
  let script ← MonadExcept.ofExcept (w.readScript events)
  note (.replaying script.length live)
  let snapshot ← if live then w.replayLive tree script else w.replayDry tree script
  match format with
  | .text => return Report.snapshotText snapshot
  | .json => return Report.snapshotJson snapshot

/-! ## Any command -/

def health (w : Workspace) : Except Failure String := do
  return Report.healthText w.backend.address (← w.backend.health)

def execute (w : Workspace) : Command → Attempt String
  | .split arguments format => MonadExcept.ofExcept (split arguments format)
  | .resolve policy context => w.resolve policy context
  | .replay tree events format live => w.replay tree events format live
  | .config => MonadExcept.ofExcept w.config.toToml
  | .health => MonadExcept.ofExcept w.health

end Workspace

end UiPolicy
