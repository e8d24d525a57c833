import UiPolicy.Error
import UiPolicy.Event
import UiPolicy.Logging.Record

/-!
# Notices

What the program says about its own work, one constructor for each thing that can be said.
`Notice.record` gives the log record of a notice.
-/

namespace UiPolicy

/-- Something worth a log record. -/
inductive Notice
  -- arguments and context
  | strayBracket (input : String) (position : Nat)
  | contextKeyMissing (key : String)
  | liveValueEmpty (key : String)
  | contextSet (key value : String)
  -- policies
  | attributeUpdated (id key : String)
  | submitting (function : String)
  | submissionRecorded (function : String)
  | submissionFailed (function : String) (error : SubmissionError)
  | submissionSucceeded (function : String)
  | menuUnknown (key : String)
  | menuHidden (key : String)
  | menuShown (key : String) (x y : Float)
  | menuWithoutPlace (key : String)
  | interactionUnknown (interaction policy : String)
  | policyFailed (element : String) (policy : Policy) (error : PolicyError)
  -- binding and events
  | listenerAttached (element : String) (kind : EventKind) (policies : Nat)
  | loadPolicyIgnored (element : String) (interaction : Interaction)
  | menusClosed (kind : EventKind)
  | eventFired (element : String) (kind : EventKind)
  -- configuration
  | globalConfigurationMissing (path : String)
  | workspaceLayerAdded (path environment : String)
  -- commands
  | commandStarting (command : String)
  | commandFinished (command : String) (ok : Bool) (milliseconds : Nat)
  | replaying (events : Nat) (live : Bool)
  | treeFetching (backend : String)
  | configurationFailed (failure : Failure)
  | commandFailed (failure : Failure)
deriving Repr

namespace Notice

open Logging

def record : Notice → Record
  | strayBracket input position =>
    ⟨.warn, "when_engine::splitter",
      "Unbalanced closing bracket in policy arguments; tokenization stopped early",
      [("input", .plain input), ("position", .natural position)]⟩
  | contextKeyMissing key =>
    ⟨.debug, "when_engine::context::resolver", "Context key not set; substituting empty value",
      [("key", .plain key)]⟩
  | liveValueEmpty key =>
    ⟨.debug, "when_engine::interpreter::context",
      "Live input value is empty; context left unchanged", [("key", .quoted key)]⟩
  | contextSet key value =>
    ⟨.debug, "when_engine::interpreter::context", "Context set",
      [("key", .quoted key), ("value", .plain value)]⟩
  | attributeUpdated id key =>
    ⟨.debug, "when_engine::interpreter::update", "Attribute updated",
      [("id", .quoted id), ("key", .quoted key)]⟩
  | submitting function =>
    ⟨.debug, "when_engine::interpreter::callback", "Submitting callback policy",
      [("function", .plain function)]⟩
  | submissionRecorded function =>
    ⟨.debug, "when_engine::submit", "Recorded policy submission", [("function", .plain function)]⟩
  | submissionFailed function error =>
    ⟨.warn, "when_engine::submit", "Policy submission failed",
      [("function", .plain function), ("error", .plain error.message)]⟩
  | submissionSucceeded function =>
    ⟨.debug, "when_engine::submit", "Policy submitted", [("function", .plain function)]⟩
  | menuUnknown key =>
    ⟨.debug, "when_engine::interpreter::show_menu", "No context menu registered under this key",
      [("menu", .quoted key)]⟩
  | menuHidden key =>
    ⟨.debug, "when_engine::interpreter::show_menu", "Context menu hidden",
      [("menu", .quoted key)]⟩
  | menuShown key x y =>
    ⟨.debug, "when_engine::interpreter::show_menu", "Context menu shown",
      [("menu", .quoted key), ("x", .float x), ("y", .float y)]⟩
  | menuWithoutPlace key =>
    ⟨.debug, "when_engine::interpreter::show_menu",
      "Event has no pointer coordinates; menu not shown", [("menu", .quoted key)]⟩
  | interactionUnknown interaction policy =>
    ⟨.debug, "when_engine::interpreter", "Skipping unknown interaction type",
      [("interaction", .plain interaction), ("policy", .plain policy)]⟩
  | policyFailed element policy error =>
    ⟨.warn, "when_engine::binder", "Policy evaluation failed",
      [("element", .quoted element), ("action", .plain policy.action.label),
        ("interaction", .plain policy.interaction.label), ("policy", .plain policy.text),
        ("error", .plain error.message)]⟩
  | listenerAttached element kind policies =>
    ⟨.debug, "when_engine::binder", "Listener attached",
      [("element", .plain element), ("event", .plain kind.name), ("policies", .natural policies)]⟩
  | loadPolicyIgnored element interaction =>
    ⟨.debug, "when_engine::binder", "Ignoring non-context load policy",
      [("element", .quoted element), ("interaction", .plain interaction.label)]⟩
  | menusClosed kind =>
    ⟨.debug, "when_engine::menu", "Closed open context menus", [("event", .plain kind.name)]⟩
  | eventFired element kind =>
    ⟨.debug, "when_engine::session", "Firing scripted event",
      [("element", .plain element), ("event", .plain kind.name)]⟩
  | globalConfigurationMissing path =>
    ⟨.debug, "when_engine::config::sources::global_file",
      "No global configuration file; using defaults", [("config_path", .plain path)]⟩
  | workspaceLayerAdded path environment =>
    ⟨.debug, "when_engine::config::sources::workspace_file", "Adding workspace config layer",
      [("config_path", .plain path), ("environment", .plain environment)]⟩
  | commandStarting command =>
    ⟨.info, "whenctl", "whenctl starting", [("command", .quoted command)]⟩
  | commandFinished command ok milliseconds =>
    ⟨.info, "when_engine::cli::route", "Command finished",
      [("command", .quoted command), ("ok", .bool ok), ("duration_ms", .natural milliseconds)]⟩
  | replaying events live =>
    ⟨.debug, "when_engine::cli::route", "Replaying event script",
      [("events", .natural events), ("live", .bool live)]⟩
  | treeFetching backend =>
    ⟨.debug, "when_engine::cli::route", "Fetching element tree", [("backend", .plain backend)]⟩
  | configurationFailed failure =>
    ⟨.error, "whenctl", "Error loading configuration: " ++ failure.message, []⟩
  | commandFailed failure =>
    ⟨.error, "whenctl", "Command failed: " ++ failure.message, []⟩

def isWarning (n : Notice) : Bool :=
  n.record.level = .warn

end Notice

end UiPolicy
