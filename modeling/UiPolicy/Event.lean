import UiPolicy.Policy

/-!
# Events

An event is what a user does to an element: its kind, the live value of a form control, and the
place of the pointer. While it is handled, its default action may be prevented and its way to the
document stopped.
-/

namespace UiPolicy

inductive EventKind
  | click
  | input
  | contextMenu
  | load
deriving Repr, DecidableEq

namespace EventKind

def name : EventKind → String
  | .click => "click"
  | .input => "input"
  | .contextMenu => "contextmenu"
  | .load => "load"

def choices : List (String × EventKind) :=
  [("click", .click), ("input", .input), ("contextmenu", .contextMenu), ("load", .load)]

/-- The kind of event that fires policies of an action. -/
def ofAction? : Action → Option EventKind
  | .click => some .click
  | .input => some .input
  | .rightClick => some .contextMenu
  | .load => some .load
  | .unknown _ => none

def decode : Json.Decoder EventKind :=
  Json.decodeChoice choices

end EventKind

/-- A fired event. -/
structure Event where
  kind : EventKind
  /-- The live value of a form control. -/
  value : Option String
  x : Option Float
  y : Option Float
  defaultPrevented : Bool
  propagationStopped : Bool
deriving Repr

namespace Event

def ofKind (kind : EventKind) : Event :=
  ⟨kind, none, none, none, false, false⟩

def fresh (kind : EventKind) (value : Option String) (x y : Option Float) : Event :=
  ⟨kind, value, x, y, false, false⟩

def preventDefault (e : Event) : Event :=
  { e with defaultPrevented := true }

/-- The event that no longer reaches the document. -/
def stopPropagation (e : Event) : Event :=
  { e with propagationStopped := true }

/-- The place of the pointer, when both coordinates are known. -/
def coordinates? (e : Event) : Option (Float × Float) :=
  match e.x, e.y with
  | some x, some y => some (x, y)
  | _, _ => none

/-! ## Coding -/

/-- An event as a value. What became of it is left out. -/
def toJson (e : Event) : Json :=
  .object [("kind", .string e.kind.name), ("target_value", .ofOption .string e.value),
    ("page_x", .ofOption .ofFloat e.x), ("page_y", .ofOption .ofFloat e.y)]

def record : Json.Record Event where
  name := "DomEvent"
  fields := [
    .required "kind" EventKind.decode fun kind e => { e with kind },
    .optional "target_value" (Json.decodeOption Json.decodeString) fun value e => { e with value },
    .optional "page_x" (Json.decodeOption Json.decodeFloat) fun x e => { e with x },
    .optional "page_y" (Json.decodeOption Json.decodeFloat) fun y e => { e with y }]
  start := ofKind .click

def decode : Json.Decoder Event :=
  record.decode

end Event

end UiPolicy
