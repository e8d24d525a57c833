import UiPolicy.Backend
import UiPolicy.Proofs.Session.Submissions

/-!
# A dry session tells what a live one does

A dry session keeps its requests, a live one hands them over for sending. A live session may be
flushed at any time and by any backend (`LiveSession.run`), and what becomes of a request is not
seen in it. So it goes through the states of the dry session but for the requests: `State.Mirrors`
is kept by a policy (`Situation.Mirrors.run`), by an event (`State.Mirrors.step`) and by a flush
(`LiveSession.Follows.next`).
-/

namespace UiPolicy

/-- The setup of a session that keeps its requests. -/
def Setup.dry (maxPasses : Nat) (propagateTags : Bool) : Setup :=
  ⟨maxPasses, .recorder true, propagateTags⟩

/-- The setup of a session that hands its requests over. -/
def Setup.live (maxPasses : Nat) (propagateTags : Bool) : Setup :=
  ⟨maxPasses, .client, propagateTags⟩

/-! ## Live sessions -/

/-- What can happen to a live session. -/
inductive Occurrence
  | fired (e : ScriptedEvent)
  /-- The requests that wait are sent. -/
  | flushed (b : Backend)

/-- The event of an occurrence. -/
def Occurrence.event? : Occurrence → Option ScriptedEvent
  | .fired e => some e
  | .flushed _ => none

/-- A live session with the requests that have left it. -/
structure LiveSession where
  session : Session
  sent : List SolverRequest

namespace LiveSession

def start (setup : Setup) (root : ElementNode) : LiveSession :=
  ⟨(Session.start setup root).value, []⟩

def next (l : LiveSession) : Occurrence → LiveSession
  | .fired e => { l with session := (l.session.fire e).value.1 }
  | .flushed b => ⟨(b.flush l.session).value, l.sent ++ l.session.state.posted⟩

def run (l : LiveSession) (occurrences : List Occurrence) : LiveSession :=
  occurrences.foldl next l

/-- Every request that was handed over: those that have left and those that wait. -/
def handedOver (l : LiveSession) : List SolverRequest :=
  l.sent ++ l.session.state.posted

end LiveSession

/-! ## Policies -/

/-- Whether a live state is a dry one but for the requests: those that were sent and those that wait
are together the ones that the dry state keeps. -/
def State.Mirrors (sent : List SolverRequest) (live dry : State) : Prop :=
  ∃ posted, live = { dry with recorded := [], posted } ∧ sent ++ posted = dry.recorded

/-- Whether two situations mirror each other and have the same event. -/
structure Situation.Mirrors (sent : List SolverRequest) (live dry : Situation) : Prop where
  state : live.state.Mirrors sent dry.state
  event : live.event = dry.event

section Policies

variable {sent : List SolverRequest} (maxPasses : Nat) (propagateTags : Bool)

namespace State.Mirrors

variable {live dry : State}

theorem submit (h : live.Mirrors sent dry) (function : String) :
    (live.submit .client function).Mirrors sent (dry.submit (.recorder true) function) := by
  obtain ⟨posted, rfl, hrequests⟩ := h
  refine ⟨posted ++ [⟨function, dry.context.entries⟩], rfl, ?_⟩
  rw [← List.append_assoc, hrequests]
  rfl

theorem updateAttribute (h : live.Mirrors sent dry) (e : Element) (a : Attribute) :
    (live.updateAttribute (.live maxPasses propagateTags) e a).Mirrors sent
      (dry.updateAttribute (.dry maxPasses propagateTags) e a) := by
  obtain ⟨posted, rfl, hrequests⟩ := h
  rw [State.updateAttribute_eq, State.updateAttribute_eq]
  exact ⟨posted, rfl, hrequests⟩

/-- The requests that wait may be sent at any time. -/
theorem flush (h : live.Mirrors sent dry) :
    { live with posted := [] }.Mirrors (sent ++ live.posted) dry := by
  obtain ⟨posted, rfl, hrequests⟩ := h
  exact ⟨[], rfl, (List.append_nil _).trans hrequests⟩

end State.Mirrors

namespace Situation.Mirrors

variable {live dry : Situation}

/-- A policy does the same in a live situation as in a dry one. -/
theorem run (h : live.Mirrors sent dry) (p : Policy) :
    (live.run (.live maxPasses propagateTags) p).Mirrors sent
      (dry.run (.dry maxPasses propagateTags) p) := by
  obtain ⟨state, event⟩ := live
  obtain ⟨state', event'⟩ := dry
  obtain ⟨hstate, hevent⟩ := h
  obtain ⟨posted, rfl, hrequests⟩ := id hstate
  cases hevent
  cases hp : p.interaction with
  | update =>
    rw [run_update hp, run_update hp]
    dsimp only
    cases state'.elements.assignment? p.text with
    | none => exact ⟨hstate, rfl⟩
    | some found => exact ⟨hstate.updateAttribute maxPasses propagateTags found.1 found.2, rfl⟩
  | context =>
    rw [run_context hp, run_context hp]
    dsimp only
    cases contextEntry? p.text (event.bind (·.value)) with
    | none => exact ⟨hstate, rfl⟩
    | some entry => exact ⟨⟨posted, rfl, hrequests⟩, rfl⟩
  | call | callback =>
    have hsubmits : p.submits := by simp [Policy.submits, hp]
    rw [run_submits hsubmits, run_submits hsubmits]
    dsimp only [Setup.live, Setup.dry]
    cases Context.Marker.resolve state'.context maxPasses p.text with
    | error e => exact ⟨hstate, rfl⟩
    | ok function => exact ⟨hstate.submit function, rfl⟩
  | showContextMenu =>
    rw [run_showContextMenu hp, run_showContextMenu hp]
    exact ⟨⟨posted, rfl, hrequests⟩, rfl⟩
  | unknown label =>
    rw [run_unknown hp, run_unknown hp]
    exact ⟨hstate, rfl⟩

theorem runAll (h : live.Mirrors sent dry) (ps : List Policy) :
    (live.runAll (.live maxPasses propagateTags) ps).Mirrors sent
      (dry.runAll (.dry maxPasses propagateTags) ps) := by
  induction ps generalizing live dry with
  | nil => exact h
  | cons p ps ih => exact ih (h.run maxPasses propagateTags p)

theorem closeMenus (h : live.Mirrors sent dry) :
    (Direct.closeMenus live).Mirrors sent (Direct.closeMenus dry) := by
  obtain ⟨state, event⟩ := live
  obtain ⟨state', event'⟩ := dry
  obtain ⟨⟨posted, rfl, hrequests⟩, hevent⟩ := h
  cases hevent
  exact ⟨⟨posted, rfl, hrequests⟩, rfl⟩

end Situation.Mirrors

end Policies

/-! ## Sessions -/

section Sessions

variable {sent : List SolverRequest} (maxPasses : Nat) (propagateTags : Bool) (root : ElementNode)

/-- An event leaves states that mirror each other, and carries the same flags. -/
theorem State.Mirrors.step {live dry : State} (h : live.Mirrors sent dry) (e : ScriptedEvent) :
    (Direct.step (.live maxPasses propagateTags) root live e).Mirrors sent
      (Direct.step (.dry maxPasses propagateTags) root dry e) := by
  have hfired : Situation.Mirrors sent ⟨live, some e.event⟩ ⟨dry, some e.event⟩ := ⟨h, rfl⟩
  have hpolicies := hfired.runAll maxPasses propagateTags (Direct.fired root e)
  rw [Direct.step_eq, Direct.step_eq]
  dsimp only
  split
  · exact hpolicies
  · split
    · exact hpolicies.closeMenus
    · exact hpolicies

theorem State.mirrors_start :
    (Direct.start (.live maxPasses propagateTags) root).Mirrors []
      (Direct.start (.dry maxPasses propagateTags) root) := by
  unfold Direct.start
  simp only [Direct.foldl_attempt]
  refine (Situation.Mirrors.runAll maxPasses propagateTags ⟨?_, rfl⟩ _).state
  -- no requests have been made before the tree is bound
  exact ⟨[], rfl, rfl⟩

/-- Whether a live session has the page of a tree, and its state mirrors a dry one. -/
structure LiveSession.Follows (l : LiveSession) (dry : State) : Prop where
  bound : l.session = .bound (.live maxPasses propagateTags) root l.session.state
  mirrors : l.session.state.Mirrors l.sent dry

namespace LiveSession

variable {maxPasses propagateTags root}

theorem Follows.fired {l : LiveSession} {dry : State}
    (h : l.Follows maxPasses propagateTags root dry) (e : ScriptedEvent) :
    (l.next (.fired e)).Follows maxPasses propagateTags root
      (Direct.step (.dry maxPasses propagateTags) root dry e).state := by
  obtain ⟨event, hfire, -⟩ :=
    value_fire (.live maxPasses propagateTags) root l.session.state e
  rw [← h.bound] at hfire
  have hnext : l.next (.fired e) = ⟨.bound (.live maxPasses propagateTags) root
      (Direct.step (.live maxPasses propagateTags) root l.session.state e).state, l.sent⟩ := by
    rw [next, hfire]
  rw [hnext]
  exact ⟨rfl, (h.mirrors.step maxPasses propagateTags root e).state⟩

theorem Follows.flushed {l : LiveSession} {dry : State}
    (h : l.Follows maxPasses propagateTags root dry) (b : Backend) :
    (l.next (.flushed b)).Follows maxPasses propagateTags root dry := by
  have hflush : (b.flush l.session).value =
      { l.session with state := { l.session.state with posted := [] } } := by
    rw [Backend.flush, Noted.value_bind]
    rfl
  have hnext : l.next (.flushed b) =
      ⟨{ l.session with state := { l.session.state with posted := [] } },
        l.sent ++ l.session.state.posted⟩ := by
    rw [next, hflush]
  rw [hnext]
  refine ⟨?_, h.mirrors.flush⟩
  rw [h.bound]
  rfl

/-- A live session keeps to the states of the dry one, whatever is sent on the way. -/
theorem Follows.run {l : LiveSession} {dry : State}
    (h : l.Follows maxPasses propagateTags root dry) (occurrences : List Occurrence) :
    (l.run occurrences).Follows maxPasses propagateTags root
      (Direct.run (.dry maxPasses propagateTags) root dry
        (occurrences.filterMap (·.event?))) := by
  induction occurrences generalizing l dry with
  | nil => exact h
  | cons o occurrences ih =>
    cases o with
    | fired e => exact ih (h.fired e)
    | flushed b => exact ih (h.flushed b)

variable (maxPasses propagateTags root) in
theorem follows_start : (start (.live maxPasses propagateTags) root).Follows maxPasses
    propagateTags root (Direct.start (.dry maxPasses propagateTags) root) := by
  rw [start, value_start]
  exact ⟨rfl, State.mirrors_start maxPasses propagateTags root⟩

section Follows

variable {l : LiveSession} {dry : State} (h : l.Follows maxPasses propagateTags root dry)
include h

theorem Follows.state_eq :
    l.session.state = { dry with recorded := [], posted := l.session.state.posted } := by
  obtain ⟨posted, hsame, -⟩ := h.mirrors
  rw [hsame]

theorem Follows.handedOver_eq : l.handedOver = dry.recorded := by
  obtain ⟨posted, hsame, hrequests⟩ := h.mirrors
  rw [handedOver, ← hrequests, hsame]

/-- An event comes back from a live session as it does from the dry one. -/
theorem Follows.event_fire (e : ScriptedEvent) :
    (l.session.fire e).value.2 =
      ((Session.bound (.dry maxPasses propagateTags) root dry).fire e).value.2 := by
  obtain ⟨event, hfire, hevent⟩ :=
    value_fire (.live maxPasses propagateTags) root l.session.state e
  obtain ⟨event', hfire', hevent'⟩ := value_fire (.dry maxPasses propagateTags) root dry e
  have hflags := (h.mirrors.step maxPasses propagateTags root e).event
  rw [hevent, hevent'] at hflags
  rw [h.bound, hfire, hfire']
  exact Option.some.inj hflags

end Follows

end LiveSession

/-- **A dry session predicts a live one.** After the same events the live session has the state of
the dry one but for the requests, and every request that it handed over was kept by the dry one, in
the same order. The next event carries the same flags. This holds whenever and by whatever backend
requests are sent in between. -/
theorem live_follows_dry (occurrences : List Occurrence) (e : ScriptedEvent) :
    let script := occurrences.filterMap (·.event?)
    let dry := ((Session.start (.dry maxPasses propagateTags) root).value.replay script).value
    let live := (LiveSession.start (.live maxPasses propagateTags) root).run occurrences
    live.session.state =
        { dry.state with recorded := [], posted := live.session.state.posted } ∧
      live.handedOver = dry.state.recorded ∧
      (live.session.fire e).value.2 = (dry.fire e).value.2 := by
  intro script dry live
  have hdry : dry = .bound (.dry maxPasses propagateTags) root _ := value_session _ root script
  have hlive : live.Follows maxPasses propagateTags root _ :=
    (LiveSession.follows_start maxPasses propagateTags root).run occurrences
  rw [hdry]
  exact ⟨hlive.state_eq, hlive.handedOver_eq, hlive.event_fire e⟩

end Sessions

/-- The two calls of an event are sent to a backend that refuses them, and those of the next event
wait. -/
theorem live_follows_dry_flushed :
    let root : ElementNode := .mk "a" "button" "" []
      [⟨.click, .call, "f"⟩, ⟨.click, .callback, "g"⟩, ⟨.click, .context, "(k,1)"⟩] []
    let click : ScriptedEvent := ⟨"a", .click, none, none, none⟩
    let refusing : Backend := ⟨"http://b", ⟨fun _ => .error "refused"⟩⟩
    let dry := ((Session.start (.dry 64 false) root).value.replay [click, click]).value
    let live := (LiveSession.start (.live 64 false) root).run
      [.fired click, .flushed refusing, .fired click]
    let calls : List SolverRequest := [⟨"g", [⟨"k", "1"⟩]⟩, ⟨"f", [⟨"k", "1"⟩]⟩]
    dry.state.recorded = calls ++ calls ∧ live.handedOver = calls ++ calls ∧
    live.sent = calls ∧ live.session.state.posted = calls ∧
    live.session.state.context.entries = [⟨"k", "1"⟩] := by
  intro root click refusing dry live calls
  let start := Direct.start (.dry 64 false) root
  let clicked := (Direct.step (.dry 64 false) root start click).state
  have hfired : Direct.fired root click =
      [⟨.click, .context, "(k,1)"⟩, ⟨.click, .callback, "g"⟩, ⟨.click, .call, "f"⟩] := by cbv
  have hentry : contextEntry? "(k,1)" none = some ("k", "1") := by cbv
  have hclick (state : State) (hentries : (state.context.insert "k" "1").entries = [⟨"k", "1"⟩]) :
      let after := (Direct.step (.dry 64 false) root state click).state
      after.recorded = state.recorded ++ calls ∧ after.context = state.context.insert "k" "1" := by
    have hsubmitter : (Setup.dry 64 false).submitter = .recorder true := rfl
    have hplain (callee : String) (h : Context.Marker.isIn callee = false) :
        Context.Marker.resolve (state.context.insert "k" "1") 64 callee = .ok callee :=
      Context.Marker.resolve_of_isIn_eq_false h
    have hstep := Direct.step_write_calls hsubmitter hfired rfl (.inr rfl) (.inl rfl) hentry
      (hplain "g" (by decide)) (hplain "f" (by decide))
    rw [hentries] at hstep
    exact hstep
  have hempty : start.context = .empty :=
    congrArg State.context (Direct.start_eq (.dry 64 false) root)
  have hnone : start.recorded = [] :=
    congrArg State.recorded (Direct.start_eq (.dry 64 false) root)
  obtain ⟨hfirst, hone⟩ := hclick start (by rw [hempty]; decide)
  obtain ⟨hsecond, htwo⟩ := hclick clicked (by rw [hone, hempty]; decide)
  have hcalls : clicked.recorded = calls := by rw [hfirst, hnone, List.nil_append]
  have hdry : dry = .bound (.dry 64 false) root
      (Direct.step (.dry 64 false) root clicked click).state :=
    value_session (.dry 64 false) root [click, click]
  have hrecorded : dry.state.recorded = calls ++ calls := by
    rw [hdry]
    exact hsecond.trans (by rw [hcalls])
  obtain ⟨hstate, hrequests, -⟩ := live_follows_dry 64 false root
    [.fired click, .flushed refusing, .fired click] click
  have hsent : live.sent = calls := by
    -- what has left is what was handed over at the first event
    obtain ⟨-, hbefore, -⟩ := live_follows_dry 64 false root [.fired click] click
    have honce : ((Session.start (.dry 64 false) root).value.replay [click]).value =
        .bound (.dry 64 false) root clicked := value_session (.dry 64 false) root [click]
    exact hbefore.trans ((congrArg (·.state.recorded) honce).trans hcalls)
  have hhanded : live.handedOver = calls ++ calls := hrequests.trans hrecorded
  have hposted : live.session.state.posted = calls := by
    rw [LiveSession.handedOver, hsent] at hhanded
    exact List.append_cancel_left hhanded
  have hcontext : live.session.state.context = clicked.context.insert "k" "1" := by
    refine (congrArg State.context hstate).trans ?_
    exact (congrArg (·.state.context) hdry).trans htwo
  refine ⟨hrecorded, hhanded, hsent, hposted, ?_⟩
  rw [hcontext, hone, hempty]
  decide

end UiPolicy
