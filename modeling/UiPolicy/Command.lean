/-!
# Commands

What the program can be asked to do.
-/

namespace UiPolicy

/-- A task for the program. -/
inductive Command
  /-- Shows the tokens of an argument list. -/
  | split (arguments format : String)
  /-- Resolves the markers of a policy text against some context entries. -/
  | resolve (policy : String) (context : List (String × String))
  /-- Fires the events of a script at an element tree and shows what is left. A live replay sends
  its submissions to the backend, and asks the backend for the tree if no file is named. -/
  | replay (tree : Option String) (events format : String) (live : Bool)
  /-- Shows the configuration in force. -/
  | config
  /-- Asks the backend how it is. -/
  | health
deriving Repr, DecidableEq

/-- The name under which the log speaks of a command. -/
def Command.name : Command → String
  | .split .. => "split"
  | .resolve .. => "resolve"
  | .replay _ _ _ true => "replay.live"
  | .replay _ _ _ false => "replay"
  | .config => "config"
  | .health => "health"

end UiPolicy
