import UiPolicy.Json.Decode

/-!
# Policies

A policy says what happens when: its action names the event that fires it, its interaction the kind
of effect, and its text the effect itself. Both tags are open, so a label that is not known is kept
as it is.
-/

namespace UiPolicy

/-- What fires a policy. -/
inductive Action
  | click
  | input
  | rightClick
  /-- Evaluated once, when the element is bound. -/
  | load
  | unknown (label : String)
deriving Repr, DecidableEq

namespace Action

def label : Action → String
  | .click => "click"
  | .input => "input"
  | .rightClick => "right_click"
  | .load => "load"
  | .unknown label => label

def ofLabel (label : String) : Action :=
  if label = "click" then .click
  else if label = "input" then .input
  else if label = "right_click" then .rightClick
  else if label = "load" then .load
  else .unknown label

/-- The actions that an element is bound for, in the order of binding. -/
def bound : List Action :=
  [.click, .input, .rightClick, .load]

/-- An action as a diagnosis names it. -/
def describe : Action → String
  | .click => "Click"
  | .input => "Input"
  | .rightClick => "RightClick"
  | .load => "Load"
  | .unknown label => "Unknown(" ++ Text.quoted label ++ ")"

theorem label_ofLabel (label : String) : (ofLabel label).label = label := by
  unfold ofLabel
  split
  · next h => exact h.symm
  · split
    · next h => exact h.symm
    · split
      · next h => exact h.symm
      · split
        · next h => exact h.symm
        · rfl

end Action

/-- What a policy does. -/
inductive Interaction
  | update
  | context
  | call
  | callback
  | showContextMenu
  | unknown (label : String)
deriving Repr, DecidableEq

namespace Interaction

def label : Interaction → String
  | .update => "update"
  | .context => "context"
  | .call => "call"
  | .callback => "callback"
  | .showContextMenu => "show_context_menu"
  | .unknown label => label

def ofLabel (label : String) : Interaction :=
  if label = "update" then .update
  else if label = "context" then .context
  else if label = "call" then .call
  else if label = "callback" then .callback
  else if label = "show_context_menu" then .showContextMenu
  else .unknown label

def describe : Interaction → String
  | .update => "Update"
  | .context => "Context"
  | .call => "Call"
  | .callback => "Callback"
  | .showContextMenu => "ShowContextMenu"
  | .unknown label => "Unknown(" ++ Text.quoted label ++ ")"

theorem label_ofLabel (label : String) : (ofLabel label).label = label := by
  unfold ofLabel
  split
  · next h => exact h.symm
  · split
    · next h => exact h.symm
    · split
      · next h => exact h.symm
      · split
        · next h => exact h.symm
        · split
          · next h => exact h.symm
          · rfl

end Interaction

/-- An effect and what fires it. -/
structure Policy where
  action : Action
  interaction : Interaction
  text : String
deriving Repr, DecidableEq

namespace Policy

/-! ## Coding -/

def toJson (p : Policy) : Json :=
  .object [("actionType", .string p.action.label),
    ("interactionType", .string p.interaction.label), ("policy", .string p.text)]

def record : Json.Record Policy where
  name := "Policy"
  fields := [
    .required "actionType" Json.decodeString fun label p =>
      { p with action := .ofLabel label },
    .required "interactionType" Json.decodeString fun label p =>
      { p with interaction := .ofLabel label },
    .required "policy" Json.decodeString fun text p => { p with text }]
  start := ⟨.click, .update, ""⟩

def decode : Json.Decoder Policy :=
  record.decode

end Policy

end UiPolicy
