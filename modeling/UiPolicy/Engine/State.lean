import UiPolicy.Element
import UiPolicy.Event
import UiPolicy.Menu
import UiPolicy.Submission

/-!
# State of the engine

Everything that policies read and change, in one value: the registry of elements, the context, the
menus, and the requests made so far. What native objects, tags and observers were told is kept as a
list of notifications.
-/

namespace UiPolicy

/-- What someone outside the engine was told. -/
inductive Notification
  /-- A native object got the attributes of its element. -/
  | objectUpdated (object : NativeObject) (attributes : List Attribute)
  /-- The changed element was sent to its tag; the flag says whether its object is alive. -/
  | tagPropagated (tag : String) (element : Element) (alive : Bool)
  /-- An observer of the document saw an event. -/
  | observed (listener : String) (kind : EventKind) (defaultPrevented : Bool)
deriving Repr, DecidableEq

/-- Where requests go. -/
inductive Submitter
  /-- Requests are kept in memory, with the context or without. -/
  | recorder (withContext : Bool)
  /-- Requests are handed over for sending, with the context. -/
  | client
deriving Repr, DecidableEq

/-- What does not change while an engine runs. -/
structure Setup where
  /-- The passes of marker resolution that need not lower the number of markers. -/
  maxPasses : Nat
  submitter : Submitter
  /-- Whether tags are told of changes. -/
  propagateTags : Bool
deriving Repr, DecidableEq

/-- Everything that policies read and change. -/
structure State where
  elements : Registry
  context : Context.Store
  menus : Menus
  /-- The native objects that the host keeps alive. -/
  hosted : List NativeObject
  /-- The number of the next native object. -/
  nextObject : Nat
  recorded : List SolverRequest
  posted : List SolverRequest
  notifications : List Notification
deriving Repr

namespace State

def empty : State :=
  ⟨.empty, .empty, .empty, [], 0, [], [], []⟩

instance : Inhabited State := ⟨empty⟩

def isAlive (s : State) (object : NativeObject) : Bool :=
  s.hosted.contains object

/-- The native object of an element, if it is still alive. -/
def liveObject? (s : State) (e : Element) : Option NativeObject :=
  e.object.filter s.isAlive

def notify (s : State) (n : Notification) : State :=
  { s with notifications := s.notifications ++ [n] }

/-- The state with a new native object of the host, attached to an element. -/
def attachObject (s : State) (id name : String) : State :=
  let object : NativeObject := ⟨s.nextObject, name⟩
  { s with
    elements := s.elements.attach id object
    hosted := s.hosted ++ [object]
    nextObject := s.nextObject + 1 }

/-- The state after the host has dropped every native object of a name. -/
def dropObjects (s : State) (name : String) : State :=
  { s with hosted := s.hosted.filter (·.name ≠ name) }

/-- The context of the next request. -/
def snapshot (s : State) : Submitter → List Context.Entry
  | .recorder false => []
  | .recorder true | .client => s.context.entries

def submit (s : State) (submitter : Submitter) (function : String) : State :=
  let request : SolverRequest := ⟨function, s.snapshot submitter⟩
  match submitter with
  | .recorder _ => { s with recorded := s.recorded ++ [request] }
  | .client => { s with posted := s.posted ++ [request] }

end State

end UiPolicy
