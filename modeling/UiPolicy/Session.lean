import UiPolicy.Event.Script
import UiPolicy.Page

/-!
# Sessions

A session is an element tree that was registered and bound, with the state that events leave behind.
`Session.observe` is what can be seen of it.
-/

namespace UiPolicy

/-- The registry with every node of a tree; of one id the last node counts. -/
def Registry.ofTree (root : ElementNode) : Registry :=
  root.walk.foldl
    (fun r n => r.register ⟨n.id, some n.type, n.attributes, none, none⟩) .empty

/-- A bound element tree and its state. -/
structure Session where
  setup : Setup
  page : Page
  state : State
deriving Repr

/-- What can be seen of a session. -/
structure Snapshot where
  context : List Context.Entry
  /-- The ids and attributes of the elements, in ascending order of ids. -/
  elements : List (String × List Attribute)
  menus : List Menu
  submissions : List SolverRequest
deriving Repr

namespace Session

def start (setup : Setup) (root : ElementNode) : Noted Session := do
  let initial := { State.empty with elements := .ofTree root }
  let (state, page) ← bindTree setup root initial .empty
  return ⟨setup, page, state⟩

def fire (s : Session) (e : ScriptedEvent) : Noted (Session × Event) := do
  note (.eventFired e.target e.kind)
  let (state, event) ← s.page.fire s.setup e.target s.state e.event
  return ({ s with state }, event)

def replay (s : Session) : List ScriptedEvent → Noted Session
  | [] => return s
  | e :: es => do
    let (s, _) ← s.fire e
    s.replay es

def observe (s : Session) : Snapshot where
  context := s.state.context.entries
  elements := s.state.elements.sorted.map fun e => (e.id, e.attributes)
  menus := s.state.menus.list
  submissions := s.state.recorded

end Session

end UiPolicy
