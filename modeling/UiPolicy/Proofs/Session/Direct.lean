import UiPolicy.Proofs.Engine.Effect
import UiPolicy.Proofs.Engine.Failure
import UiPolicy.Proofs.Page.Binding
import UiPolicy.Session

/-!
# Sessions run as their trees say

`Direct` tells what a session does without targets and listeners. An event goes to the last node in
pre-order that carries the id of its target and runs the policies that the node has for it. If none
of them asks for a menu, a click of either button then closes what is open.

* `Direct.start` is the state that a tree begins with, `Direct.step` one event, `Direct.run` a
  script.
* `value_session` and `value_fire`: a session is at any time the session of its page
  (`Session.bound`) with the state that `Direct` gives.
* `Direct.run_induction`: what holds at the start and is kept by each event holds after every
  script.
-/

namespace UiPolicy

/-- Whether the effect of a policy is known. -/
def Policy.isKnown (p : Policy) : Bool :=
  match p.interaction with
  | .unknown _ => false
  | _ => true

namespace Direct

variable (setup : Setup) (root : ElementNode)

/-! ## The semantics -/

/-- Runs a policy, and leaves the situation alone if it fails. -/
def attempt (s : Situation) (p : Policy) : Situation :=
  match (interpret setup s p).value.result with
  | .ok () => (interpret setup s p).value.after
  | .error _ => s

/-- The policies that an event fires: those of the last node in pre-order that carries the id. -/
def fired (e : ScriptedEvent) : List Policy :=
  match root.node? e.target with
  | some node => node.fired e.kind
  | none => []

/-- Hides every menu. The default action is prevented if one was shown. -/
def closeMenus (s : Situation) : Situation :=
  ⟨{ s.state with menus := ⟨s.state.menus.list.map fun m => { m with display := .none }⟩ },
    if ∃ m ∈ s.state.menus.list, m.display = .block then
      s.event.map fun e => { e with defaultPrevented := true }
    else s.event⟩

/-- The state after an event, and the event with its flags. -/
def step (state : State) (e : ScriptedEvent) : Situation :=
  let policies := fired root e
  let s := (policies.filter (·.isKnown)).foldl (attempt setup) ⟨state, some e.event⟩
  if policies.any (·.interaction = .showContextMenu) then s
  else if e.kind = .click ∨ e.kind = .contextMenu then closeMenus s
  else s

/-- The state after the events of a script. -/
def run (state : State) (script : List ScriptedEvent) : State :=
  script.foldl (fun state e => (step setup root state e).state) state

/-- The state that a tree begins with: its elements and menus, and the context that the load
policies of its nodes write, node after node. -/
def start : State :=
  let menus := root.menuIds.foldl Menus.register .empty
  let policies := root.preorder.flatMap ElementNode.onLoad
  (policies.foldl (attempt setup)
    ⟨{ State.empty with elements := .ofTree root, menus }, none⟩).state

/-- What holds at the start and is kept by each event holds after every script. -/
theorem run_induction {P : State → Prop} {state : State} (h : P state)
    (hstep : ∀ state e, P state → P (step setup root state e).state)
    (script : List ScriptedEvent) : P (run setup root state script) := by
  induction script generalizing state with
  | nil => exact h
  | cons e script ih => exact ih (hstep state e h)

/-! ## Policies -/

theorem attempt_eq_run (s : Situation) (p : Policy) : attempt setup s p = s.run setup p := by
  unfold attempt
  split
  · rfl
  · next e he => exact (Situation.run_of_error he).symm

theorem foldl_attempt (s : Situation) (ps : List Policy) :
    ps.foldl (attempt setup) s = s.runAll setup ps := by
  have h : attempt setup = Situation.run setup := funext₂ (attempt_eq_run setup)
  rw [h, Situation.runAll]

theorem run_of_not_isKnown {p : Policy} (h : p.isKnown = false) (s : Situation) :
    s.run setup p = s := by
  unfold Policy.isKnown at h
  split at h
  · next label hp => exact Situation.run_unknown hp
  · cases h

/-- Policies whose effect is not known may be left out. -/
theorem runAll_filter_isKnown (s : Situation) (ps : List Policy) :
    s.runAll setup (ps.filter (·.isKnown)) = s.runAll setup ps := by
  induction ps generalizing s with
  | nil => rfl
  | cons p ps ih =>
    cases hp : p.isKnown with
    | true => rw [List.filter_cons_of_pos hp, Situation.runAll_cons, Situation.runAll_cons, ih]
    | false =>
      rw [List.filter_cons_of_neg (by simp [hp]), Situation.runAll_cons,
        run_of_not_isKnown setup hp, ih]

theorem step_eq (state : State) (e : ScriptedEvent) :
    step setup root state e =
      let s := Situation.runAll setup ⟨state, some e.event⟩ (fired root e)
      if (fired root e).any (·.interaction = .showContextMenu) then s
      else if e.kind = .click ∨ e.kind = .contextMenu then closeMenus s
      else s := by
  simp only [step, foldl_attempt, runAll_filter_isKnown]

theorem interaction_of_mem_onLoad {nodes : List ElementNode} {p : Policy}
    (h : p ∈ nodes.flatMap ElementNode.onLoad) : p.interaction = .context := by
  obtain ⟨node, -, hp⟩ := List.mem_flatMap.1 h
  have hload := (List.mem_filter.1 hp).2
  simp only [decide_eq_true_eq] at hload
  exact hload.2

/-! ## The page -/

/-- The listeners at the target of an event run the policies that it fires. -/
theorem runListenersFor_target (state : State) (e : ScriptedEvent) :
    runListenersFor setup (((Page.ofTree root).target? e.target).elim [] (·.listeners)) state
        e.event =
      (do
        let after ← dispatch setup e.target (fired root e) ⟨state, some e.event⟩
        return (after.state, after.event.getD e.event)) := by
  rw [Page.target?_ofTree, fired]
  cases hnode : root.node? e.target with
  | none => rfl
  | some node =>
    obtain ⟨-, hid⟩ := ElementNode.of_node? hnode
    rw [← hid]
    exact runListenersFor_ofNode setup node state e.event

/-- The closing of menus with the operations on them that the document uses. -/
theorem closeMenus_eq (s : Situation) :
    closeMenus s = ⟨{ s.state with menus := s.state.menus.closeAll },
      if s.state.menus.anyOpen = true then s.event.map Event.preventDefault else s.event⟩ := by
  simp only [closeMenus, Menus.anyOpen_iff]
  rfl

theorem closeMenus_of_not_anyOpen {s : Situation} (h : s.state.menus.anyOpen = false) :
    closeMenus s = s := by
  rw [closeMenus_eq, Menus.closeAll_of_shown_eq_nil (Menus.anyOpen_eq_false.1 h), h]
  rfl

theorem value_react_closeMenus (state : State) (event : Event) :
    let after := (react setup .closeMenus state event).value
    (⟨after.1, some after.2⟩ : Situation) = closeMenus ⟨state, some event⟩ := by
  unfold react
  cases h : state.menus.anyOpen with
  | true => simp [closeMenus_eq, h]
  | false =>
    rw [closeMenus_of_not_anyOpen h]
    simp

/-- The document closes menus on a click of either button. -/
theorem value_document (state : State) (event : Event) :
    let after := (runListenersFor setup (Page.ofTree root).document state event).value
    (⟨after.1, some after.2⟩ : Situation) =
      if event.kind = .click ∨ event.kind = .contextMenu then closeMenus ⟨state, some event⟩
      else ⟨state, some event⟩ := by
  rw [Page.document_ofTree, runListenersFor]
  cases hkind : event.kind with
  | click => exact value_react_closeMenus setup state event
  | contextMenu => exact value_react_closeMenus setup state event
  | input => rfl
  | load => rfl

/-- An event at the page of a tree does what the direct semantics says. -/
theorem value_page (state : State) (e : ScriptedEvent) :
    let after := ((Page.ofTree root).fire setup e.target state e.event).value
    (⟨after.1, some after.2⟩ : Situation) = step setup root state e := by
  rw [step_eq]
  unfold Page.fire
  simp only [Noted.value_bind, Noted.value_pure, runListenersFor_target, value_dispatch]
  have hevent := Situation.event_runAll setup ⟨state, some e.event⟩ (fired root e)
  generalize Situation.runAll setup ⟨state, some e.event⟩ (fired root e) = s at hevent ⊢
  obtain ⟨after, event⟩ := s
  simp only at hevent
  subst hevent
  cases (fired root e).any (·.interaction = .showContextMenu) with
  | true => rfl
  | false => exact value_document setup root after e.event

end Direct

/-! ## Sessions -/

/-- The session of a tree in some state. -/
def Session.bound (setup : Setup) (root : ElementNode) (state : State) : Session :=
  ⟨setup, .ofTree root, state⟩

section Sessions

variable (setup : Setup) (root : ElementNode)

theorem foldl_load (state : State) (nodes : List ElementNode) :
    nodes.foldl (ElementNode.load setup) state =
      (Situation.runAll setup ⟨state, none⟩ (nodes.flatMap ElementNode.onLoad)).state := by
  induction nodes generalizing state with
  | nil => rfl
  | cons node nodes ih =>
    have hevent : (Situation.runAll setup ⟨state, none⟩ node.onLoad).event = none := by
      rw [Situation.event_runAll]
      split <;> rfl
    have hload : Situation.runAll setup ⟨state, none⟩ node.onLoad =
        ⟨node.load setup state, (Situation.runAll setup ⟨state, none⟩ node.onLoad).event⟩ := rfl
    rw [hevent] at hload
    rw [List.foldl_cons, ih, List.flatMap_cons, Situation.runAll_append, hload]

/-- A session starts in the state that its tree begins with. -/
theorem value_start :
    (Session.start setup root).value = .bound setup root (Direct.start setup root) := by
  unfold Session.start Direct.start
  rw [Noted.value_bind, value_bindTree]
  simp only [Noted.value_pure, Session.bound, foldl_load, Direct.foldl_attempt,
    State.registerMenus, ElementNode.menuIds_eq, List.foldl_map]
  rfl

/-- An event leads to the session with the next state. -/
theorem value_fire (state : State) (e : ScriptedEvent) :
    ∃ event, ((Session.bound setup root state).fire e).value =
        (.bound setup root (Direct.step setup root state e).state, event) ∧
      (Direct.step setup root state e).event = some event := by
  have h := Direct.value_page setup root state e
  refine ⟨((Page.ofTree root).fire setup e.target state e.event).value.2, ?_, ?_⟩
  · rw [← h]
    rfl
  · rw [← h]

/-- A script leads to the session with the state after it. -/
theorem value_replay (state : State) (script : List ScriptedEvent) :
    ((Session.bound setup root state).replay script).value =
      .bound setup root (Direct.run setup root state script) := by
  induction script generalizing state with
  | nil => rfl
  | cons e script ih =>
    obtain ⟨event, hfire, -⟩ := value_fire setup root state e
    unfold Session.replay
    rw [Noted.value_bind, hfire]
    exact ih _

/-- After a script a session is the one with the state that the direct semantics gives. -/
theorem value_session (script : List ScriptedEvent) :
    ((Session.start setup root).value.replay script).value =
      .bound setup root (Direct.run setup root (Direct.start setup root) script) := by
  rw [value_start, value_replay]

/-- Nothing but its state changes in a session. -/
theorem bound_session (script : List ScriptedEvent) :
    let session := ((Session.start setup root).value.replay script).value
    session = .bound setup root session.state := by
  intro session
  have hsession : session = .bound setup root _ := value_session setup root script
  rw [hsession]
  rfl

/-- **Sessions follow the direct semantics.** After any script a session is in the state that
running the policies of the nodes directly leads to, and the next event leaves the same state and
carries the same flags. -/
theorem session_follows_direct (script : List ScriptedEvent) (e : ScriptedEvent) :
    let session := ((Session.start setup root).value.replay script).value
    let next := (session.fire e).value
    session.state = Direct.run setup root (Direct.start setup root) script ∧
    (⟨next.1.state, some next.2⟩ : Situation) =
      Direct.step setup root (Direct.run setup root (Direct.start setup root) script) e := by
  intro session next
  have hsession : session = .bound setup root _ := value_session setup root script
  obtain ⟨event, hfire, hevent⟩ :=
    value_fire setup root (Direct.run setup root (Direct.start setup root) script) e
  have hnext : next = (.bound setup root _, event) :=
    (congrArg (fun s => (Session.fire s e).value) hsession).trans hfire
  refine ⟨congrArg Session.state hsession, ?_⟩
  rw [hnext, ← hevent]
  rfl

end Sessions

end UiPolicy
