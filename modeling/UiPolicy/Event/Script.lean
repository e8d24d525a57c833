import UiPolicy.Event

/-!
# Event scripts

A script is a list of events, each fired at an element. An element that is not known stands for the
bare document.
-/

namespace UiPolicy

/-- One step of a script: an event and the element it is fired at. -/
structure ScriptedEvent where
  target : String
  kind : EventKind
  value : Option String
  x : Option Float
  y : Option Float
deriving Repr

namespace ScriptedEvent

def event (s : ScriptedEvent) : Event :=
  .fresh s.kind s.value s.x s.y

def record : Json.Record ScriptedEvent where
  name := "ScriptedEvent"
  fields := [
    .required "target" Json.decodeString fun target s => { s with target },
    .required "kind" EventKind.decode fun kind s => { s with kind },
    .optional "value" (Json.decodeOption Json.decodeString) fun value s => { s with value },
    .optional "x" (Json.decodeOption Json.decodeFloat) fun x s => { s with x },
    .optional "y" (Json.decodeOption Json.decodeFloat) fun y s => { s with y }]
  start := ⟨"", .click, none, none, none⟩

def decode : Json.Decoder ScriptedEvent :=
  record.decode

def decodeScript (text : String) : Except Json.DecodeError (List ScriptedEvent) :=
  Json.decodeText (Json.decodeList decode) text

end ScriptedEvent

end UiPolicy
