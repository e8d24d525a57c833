import UiPolicy.Arguments
import UiPolicy.Context.Marker
import UiPolicy.Engine.State
import UiPolicy.Noted
import UiPolicy.Text.Search

/-!
# Interpreting a policy

One effect for each kind of interaction:

* `update` writes an attribute of an element and tells its object and its tag;
* `context` writes a value into the context, with the live value of the event put in;
* `call` and `callback` resolve the markers of the text and submit it;
* `show_context_menu` shows the menu of the text, or hides it if it was shown.

A policy that fails changes nothing.
-/

namespace UiPolicy

/-- What a policy acts on: the state, and the event that fired it if there is one. -/
structure Situation where
  state : State
  event : Option Event
deriving Repr

/-- What a policy leaves behind: the situation, its own text, and whether it succeeded. -/
structure Outcome where
  after : Situation
  text : String
  result : Except PolicyError Unit

namespace Situation

def withState (s : Situation) (state : State) : Situation :=
  { s with state }

/-- A policy that succeeds and keeps its text. -/
def succeed (s : Situation) (text : String) : Outcome :=
  ⟨s, text, .ok ()⟩

/-- A policy that fails and changes nothing. -/
def fail (s : Situation) (text : String) (error : PolicyError) : Outcome :=
  ⟨s, text, .error error⟩

end Situation

/-- The arguments of a policy text, up to a stray bracket. -/
def policyArguments (text : String) : Noted (List String) :=
  let stripped := Arguments.strip text
  match Arguments.splitLenient stripped with
  | (tokens, none) => ⟨tokens, []⟩
  | (tokens, some position) => ⟨tokens, [.strayBracket stripped position]⟩

/-- Arguments taken together as one value. -/
def joinArguments (tokens : List String) : String :=
  String.intercalate "," tokens

/-! ## The effects -/

/-- The state after an element's attribute was written and its object and tag were told. -/
def State.updateAttribute (setup : Setup) (state : State) (element : Element) (a : Attribute) :
    State :=
  let updated := { element with attributes := a.upsert element.attributes }
  let object := state.liveObject? element
  let state := { state with
    elements := state.elements.setAttributes element.id updated.attributes }
  let state := match object with
    | some object => state.notify (.objectUpdated object updated.attributes)
    | none => state
  match element.tag with
  | some tag =>
    if setup.propagateTags then state.notify (.tagPropagated tag updated object.isSome) else state
  | none => state

/-- Writes an attribute. Arguments after the key belong to the value. -/
def interpretUpdate (setup : Setup) (s : Situation) (text : String) : Noted Outcome := do
  let tokens ← policyArguments text
  match tokens with
  | id :: key :: first :: more =>
    let value := joinArguments (first :: more)
    match s.state.elements.get? id with
    | some element =>
      note (.attributeUpdated id key)
      return (s.withState (s.state.updateAttribute setup element ⟨id, key, value⟩)).succeed text
    | none => return s.fail text (.elementNotFound id key value)
  | tokens => return s.fail text (.arity "update" text 3 tokens.length)

/-- What stands in a context policy for the live value of the event. -/
def liveValueMarker : List Char :=
  "_value".toList

/-- The value with the first live-value marker replaced; nothing if the live value is empty. A value
without a marker, and any value when there is no live value, stays as it is. -/
def withLiveValue (value : String) (live : Option String) : Option String :=
  match Text.cutAt? liveValueMarker value.toList, live with
  | some (before, after), some live =>
    if live.isEmpty then none else some (String.ofList (before ++ live.toList ++ after))
  | _, _ => some value

/-- Writes a value into the context, or nothing if the live value is wanted and empty. Arguments
after the key belong to the value. -/
def interpretContext (s : Situation) (text : String) : Noted Outcome := do
  let tokens ← policyArguments text
  match tokens with
  | key :: first :: more =>
    match withLiveValue (joinArguments (first :: more)) (s.event.bind (·.value)) with
    | some value =>
      note (.contextSet key value)
      return (s.withState { s.state with context := s.state.context.insert key value }).succeed text
    | none =>
      note (.liveValueEmpty key)
      return s.succeed text
  | tokens => return s.fail text (.arity "context" text 2 tokens.length)

/-- Resolves the markers of the text and submits it. The policy's text is the resolved one. -/
def interpretCallback (setup : Setup) (s : Situation) (text : String) : Noted Outcome := do
  noteAll ((Context.Marker.missingKeys s.state.context setup.maxPasses text).map
    Notice.contextKeyMissing)
  match Context.Marker.resolve s.state.context setup.maxPasses text with
  | .ok function =>
    note (.submitting function)
    if setup.submitter ≠ .client then note (.submissionRecorded function)
    return (s.withState (s.state.submit setup.submitter function)).succeed function
  | .error e => return s.fail text e

/-- Shows the menu named by the text where the event happened, or hides it if it was shown. Every
other menu is hidden in any case, and the event goes no further. -/
def interpretShowMenu (s : Situation) (text : String) : Noted Outcome := do
  let key := String.ofList (Text.trim text.toList)
  let menus := s.state.menus
  let closed : Situation :=
    ⟨{ s.state with menus := menus.closeAll },
      s.event.map fun e => e.preventDefault.stopPropagation⟩
  if !menus.contains key then
    note (.menuUnknown key)
    return closed.succeed text
  else if menus.isOpen key then
    note (.menuHidden key)
    return closed.succeed text
  else
    match s.event.bind (·.coordinates?) with
    | some (x, y) =>
      note (.menuShown key x y)
      return (closed.withState
        { closed.state with menus := closed.state.menus.showAt key x y }).succeed text
    | none =>
      note (.menuWithoutPlace key)
      return closed.succeed text

/-- Runs the effect of a policy. An interaction that is not known does nothing. -/
def interpret (setup : Setup) (s : Situation) (p : Policy) : Noted Outcome :=
  match p.interaction with
  | .update => interpretUpdate setup s p.text
  | .context => interpretContext s p.text
  | .call | .callback => interpretCallback setup s p.text
  | .showContextMenu => interpretShowMenu s p.text
  | .unknown label => do
    note (.interactionUnknown label p.text)
    return s.succeed p.text

/-- Runs policies one after the other. One that fails is noted and skipped. -/
def dispatch (setup : Setup) (element : String) : List Policy → Situation → Noted Situation
  | [], s => return s
  | p :: ps, s => do
    let outcome ← interpret setup s p
    match outcome.result with
    | .ok () => dispatch setup element ps outcome.after
    | .error e =>
      note (.policyFailed element p e)
      dispatch setup element ps outcome.after

end UiPolicy
