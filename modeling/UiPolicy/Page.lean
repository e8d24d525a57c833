import UiPolicy.Engine.Interpret
import UiPolicy.Element.Tree
import UiPolicy.Policy.Order

/-!
# Pages

A page holds a target for each element, with its listeners, and the listeners of the document. A
listener is a kind of event and a reaction, which is plain data: the policies to run, the closing of
menus, or an observer that takes note.

An event is fired at a target and then at the document, unless it was stopped before.
-/

namespace UiPolicy

/-- What an observer does to an event. -/
inductive Effect
  | prevent
  | stop
  | nothing
deriving Repr, DecidableEq

/-- What a listener does. -/
inductive Reaction
  | runPolicies (element : String) (policies : List Policy)
  | closeMenus
  | observe (name : String) (effect : Effect)
deriving Repr, DecidableEq

/-- A reaction to one kind of event. -/
structure Listener where
  kind : EventKind
  reaction : Reaction
deriving Repr, DecidableEq

def countListeners (listeners : List Listener) (kind : EventKind) : Nat :=
  listeners.countP (·.kind = kind)

/-- A bound element. -/
structure Target where
  id : String
  /-- Whether the pointer shows that the element can be clicked. -/
  pointer : Bool
  listeners : List Listener
deriving Repr, DecidableEq

def Target.new (id : String) : Target :=
  ⟨id, false, []⟩

/-- The targets of a page and the listeners of its document. -/
structure Page where
  targets : List Target
  document : List Listener
deriving Repr, DecidableEq, Inhabited

namespace Page

def empty : Page :=
  ⟨[], []⟩

def target? (page : Page) (id : String) : Option Target :=
  page.targets.find? (·.id = id)

/-- A list with a target in the place of the one of its id, or at the end. -/
def putTarget (t : Target) : List Target → List Target
  | [] => [t]
  | x :: xs => if x.id = t.id then t :: xs else x :: putTarget t xs

/-- The page with a target; it replaces the one of its id. -/
def insert (page : Page) (t : Target) : Page :=
  { page with targets := putTarget t page.targets }

def listen (page : Page) (kind : EventKind) (reaction : Reaction) : Page :=
  { page with document := page.document ++ [⟨kind, reaction⟩] }

/-- The page with the listeners of the document that close menus. -/
def installMenus (page : Page) : Page :=
  (page.listen .click .closeMenus).listen .contextMenu .closeMenus

end Page

/-! ## Binding -/

/-- Runs the load policies of an element. Only those that write the context are honoured. -/
def evaluateOnLoad (setup : Setup) (element : String) (policies : List Policy) (state : State) :
    Noted State := do
  let (honoured, ignored) := policies.partition (·.interaction = .context)
  noteAll (ignored.map fun p => .loadPolicyIgnored element p.interaction)
  let after ← dispatch setup element honoured ⟨state, none⟩
  return after.state

/-- Binds the policies of one action: load policies run at once, others get a listener. -/
def bindAction (setup : Setup) (policies : List Policy) (state : State) (target : Target)
    (action : Action) : Noted (State × Target) := do
  let applicable := Policy.applicable policies action
  if applicable.isEmpty then return (state, target)
  else
    match EventKind.ofAction? action with
    | none => return (state, target)
    | some .load => return (← evaluateOnLoad setup target.id applicable state, target)
    | some kind =>
      note (.listenerAttached target.id kind applicable.length)
      return (state, { target with
        pointer := target.pointer || kind = .click
        listeners := target.listeners ++ [⟨kind, .runPolicies target.id applicable⟩] })

def bindActions (setup : Setup) (policies : List Policy) :
    List Action → State → Target → Noted (State × Target)
  | [], state, target => return (state, target)
  | action :: actions, state, target => do
    let (state, target) ← bindAction setup policies state target action
    bindActions setup policies actions state target

def bindTarget (setup : Setup) (policies : List Policy) (state : State) (target : Target) :
    Noted (State × Target) :=
  bindActions setup policies Action.bound state target

/-- Binds nodes one after the other and puts their targets on the page. -/
def bindNodes (setup : Setup) :
    List ElementNode → State → Page → Noted (State × Page)
  | [], state, page => return (state, page)
  | node :: nodes, state, page => do
    let (state, target) ← bindTarget setup node.policies state (.new node.id)
    bindNodes setup nodes state (page.insert target)

def State.registerMenus (state : State) (nodes : List ElementNode) : State :=
  { state with menus := (nodes.filter (·.isMenu)).foldl (·.register ·.id) state.menus }

/-- Registers the menus of a tree, binds every node, and lets the document close menus. -/
def bindTree (setup : Setup) (root : ElementNode) (state : State) (page : Page) :
    Noted (State × Page) := do
  let nodes := root.walk
  let (state, page) ← bindNodes setup nodes (state.registerMenus nodes) page
  return (state, page.installMenus)

/-! ## Firing -/

def Effect.apply : Effect → Event → Event
  | .prevent, e => e.preventDefault
  | .stop, e => e.stopPropagation
  | .nothing, e => e

def react (setup : Setup) (reaction : Reaction) (state : State) (event : Event) :
    Noted (State × Event) := do
  match reaction with
  | .runPolicies element policies =>
    let after ← dispatch setup element policies ⟨state, some event⟩
    return (after.state, after.event.getD event)
  | .closeMenus =>
    if state.menus.anyOpen then
      note (.menusClosed event.kind)
      return ({ state with menus := state.menus.closeAll }, event.preventDefault)
    else return (state, event)
  | .observe name effect =>
    return (state.notify (.observed name event.kind event.defaultPrevented), effect.apply event)

def runListeners (setup : Setup) :
    List Listener → State → Event → Noted (State × Event)
  | [], state, event => return (state, event)
  | listener :: listeners, state, event => do
    let (state, event) ← react setup listener.reaction state event
    runListeners setup listeners state event

/-- Runs the listeners for the kind of an event. -/
def runListenersFor (setup : Setup) (listeners : List Listener) (state : State) (event : Event) :
    Noted (State × Event) :=
  runListeners setup (listeners.filter (·.kind = event.kind)) state event

/-- Fires an event at an element and then, unless it was stopped, at the document. An id without a
target stands for the bare document. -/
def Page.fire (setup : Setup) (page : Page) (id : String) (state : State) (event : Event) :
    Noted (State × Event) := do
  let listeners := (page.target? id).elim [] (·.listeners)
  let (state, event) ← runListenersFor setup listeners state event
  if event.propagationStopped then return (state, event)
  else runListenersFor setup page.document state event

end UiPolicy
