import Mathlib
import UiPolicy.Proofs.Context.Passes
import UiPolicy.Proofs.Session.Start

/-!
# Submissions say what the context was

A request carries the whole context, and its function was resolved against just that context. The
order of dispatch makes this hold for a whole event: the labels put every write of the context
before every submission, so the context that a request carries is the one that the event leaves
(`recorded_runAll`). `Consistent` is kept by every event, and events only append requests.
-/

namespace UiPolicy

/-- Whether a policy belongs to the node that its id stands for, and an event fires it. -/
def ElementNode.binds (root : ElementNode) (p : Policy) : Prop :=
  ∃ id node kind, root.node? id = some node ∧ p ∈ node.policies ∧
    EventKind.action? kind = some p.action

/-- Whether the function of a request is what resolving the text of a bound policy gives, in the
context that the request carries. -/
def SolverRequest.Consistent (maxPasses : Nat) (root : ElementNode) (r : SolverRequest) : Prop :=
  ∃ (store : Context.Store) (p : Policy), store.entries = r.context ∧ root.binds p ∧ p.submits ∧
    Context.Marker.resolve store maxPasses p.text = .ok r.function

theorem SolverRequest.Consistent.ascending {maxPasses : Nat} {root : ElementNode}
    {r : SolverRequest} (h : r.Consistent maxPasses root) : Context.Ascending r.context := by
  obtain ⟨store, p, hstore, -, -, -⟩ := h
  exact hstore ▸ store.ascending

theorem SolverRequest.Consistent.isIn_eq_false {maxPasses : Nat} {root : ElementNode}
    {r : SolverRequest} (h : r.Consistent maxPasses root) :
    Context.Marker.isIn r.function = false := by
  obtain ⟨store, p, -, -, -, hresolve⟩ := h
  exact Context.Marker.isIn_of_resolve hresolve

theorem ElementNode.descending_fired (node : ElementNode) (kind : EventKind) :
    Policy.Descending (node.fired kind) := by
  unfold ElementNode.fired
  split
  · exact Policy.descending_sortByLabel _
  · exact List.Pairwise.nil

namespace Direct

theorem binds_of_mem_fired {root : ElementNode} {e : ScriptedEvent} {p : Policy}
    (h : p ∈ fired root e) : root.binds p := by
  unfold fired at h
  split at h
  · next node hnode =>
    obtain ⟨hp, hkind⟩ := ElementNode.mem_fired.1 h
    exact ⟨e.target, node, e.kind, hnode, hp, hkind⟩
  · cases h

theorem descending_fired (root : ElementNode) (e : ScriptedEvent) :
    Policy.Descending (fired root e) := by
  unfold fired
  split
  · next node _ => exact node.descending_fired e.kind
  · exact List.Pairwise.nil

end Direct

/-! ## One event -/

section Event

variable {setup : Setup} {s : Situation} {ps : List Policy}

/-- Policies that do not write the context leave it as it is. -/
theorem Situation.context_runAll (h : ∀ p ∈ ps, p.interaction ≠ .context) :
    (s.runAll setup ps).state.context = s.state.context :=
  runAll_induction (P := fun s' => s'.state.context = s.state.context)
    (fun _ p _ hp hs hchange => (hchange.context_eq (h p hp)).trans hs) rfl

/-- The policies of an event append requests, each resolved in the context that they leave. -/
theorem recorded_runAll (hs : setup.submitter = .recorder true) (hps : Policy.Descending ps) :
    ∃ new, (s.runAll setup ps).state.recorded = s.state.recorded ++ new ∧
      ∀ r ∈ new, r.context = (s.runAll setup ps).state.context.entries ∧
        ∃ p ∈ ps, p.submits ∧ Context.Marker.resolve (s.runAll setup ps).state.context
          setup.maxPasses p.text = .ok r.function := by
  induction ps generalizing s with
  | nil => exact ⟨[], (List.append_nil _).symm, fun r hr => by cases hr⟩
  | cons p ps ih =>
    obtain ⟨new, hnew, hall⟩ := ih (s := s.run setup p) (List.pairwise_cons.1 hps).2
    have hchange := interpret_change setup s p
    rw [Situation.runAll_cons]
    have hlater : ∀ r ∈ new, r.context = ((s.run setup p).runAll setup ps).state.context.entries ∧
        ∃ q ∈ p :: ps, q.submits ∧
          Context.Marker.resolve ((s.run setup p).runAll setup ps).state.context
            setup.maxPasses q.text = .ok r.function := by
      intro r hr
      obtain ⟨hcontext, q, hq, hsubmits, hresolve⟩ := hall r hr
      exact ⟨hcontext, q, List.mem_cons_of_mem p hq, hsubmits, hresolve⟩
    rcases hchange.recorded_of_submits hs with hsame | ⟨hp, function, hf, hone⟩
    · exact ⟨new, by rw [hnew, Situation.run, hsame], hlater⟩
    · -- no later policy writes the context, so it is still the one that was submitted
      have hrun : (s.run setup p).state.context = s.state.context := by
        refine hchange.context_eq ?_
        rcases hp with hp | hp <;> rw [hp] <;> decide
      have hend : ((s.run setup p).runAll setup ps).state.context = s.state.context :=
        (Situation.context_runAll (hps.not_context_of_submits hp)).trans hrun
      refine ⟨⟨function, s.state.context.entries⟩ :: new, ?_, ?_⟩
      · rw [hnew, Situation.run, hone, List.append_assoc, List.singleton_append]
      · intro r hr
        rcases List.mem_cons.1 hr with rfl | hr
        · exact ⟨by rw [hend], p, List.mem_cons_self, hp, by rw [hend]; exact hf⟩
        · exact hlater r hr

end Event

/-! ## Sessions -/

namespace Direct

variable (setup : Setup) (root : ElementNode) (state : State) (e : ScriptedEvent)

/-- What an event leaves of requests and context is what its policies leave; the closing of menus
touches neither. -/
theorem step_recorded_context :
    let s := Situation.runAll setup ⟨state, some e.event⟩ (fired root e)
    (step setup root state e).state.recorded = s.state.recorded ∧
      (step setup root state e).state.context = s.state.context := by
  rw [step_eq]
  simp only
  split
  · exact ⟨rfl, rfl⟩
  · split
    · exact ⟨rfl, rfl⟩
    · exact ⟨rfl, rfl⟩

/-- An event appends requests; all carry the context that it leaves, and are consistent. -/
theorem recorded_step (hs : setup.submitter = .recorder true) :
    ∃ new, (step setup root state e).state.recorded = state.recorded ++ new ∧
      ∀ r ∈ new, r.context = (step setup root state e).state.context.entries ∧
        r.Consistent setup.maxPasses root := by
  obtain ⟨hrecorded, hcontext⟩ := step_recorded_context setup root state e
  obtain ⟨new, hnew, hall⟩ := recorded_runAll (s := ⟨state, some e.event⟩) hs
    (descending_fired root e)
  refine ⟨new, hrecorded.trans hnew, fun r hr => ?_⟩
  obtain ⟨hr, p, hp, hsubmits, hresolve⟩ := hall r hr
  exact ⟨by rw [hcontext, hr], _, p, hr.symm, binds_of_mem_fired hp, hsubmits, hresolve⟩

/-- A write of the context and two calls at one event: both requests carry what was written. -/
theorem step_write_calls {setup : Setup} {root : ElementNode} {state : State} {e : ScriptedEvent}
    (hs : setup.submitter = .recorder true) {write first second : Policy}
    (hfired : fired root e = [write, first, second]) (hwrite : write.interaction = .context)
    (hfirst : first.submits) (hsecond : second.submits) {key value : String}
    (hentry : contextEntry? write.text e.value = some (key, value)) {f g : String}
    (hf : Context.Marker.resolve (state.context.insert key value) setup.maxPasses first.text =
      .ok f)
    (hg : Context.Marker.resolve (state.context.insert key value) setup.maxPasses second.text =
      .ok g) :
    let entries := (state.context.insert key value).entries
    (step setup root state e).state.recorded =
        state.recorded ++ [⟨f, entries⟩, ⟨g, entries⟩] ∧
      (step setup root state e).state.context = state.context.insert key value := by
  intro entries
  obtain ⟨hrecorded, hcontext⟩ := step_recorded_context setup root state e
  have hlive : (some e.event).bind (·.value) = e.value := rfl
  rw [hrecorded, hcontext, hfired]
  simp only [Situation.runAll_cons, Situation.run_context hwrite, hlive, hentry,
    Situation.run_submits hfirst, Situation.run_submits hsecond, Situation.withState, State.submit,
    State.snapshot, hs, hf, hg, Situation.runAll_nil]
  exact ⟨List.append_assoc _ _ _, trivial⟩

theorem consistent_run (hs : setup.submitter = .recorder true) (script : List ScriptedEvent) :
    ∀ r ∈ (run setup root (start setup root) script).recorded,
      r.Consistent setup.maxPasses root := by
  refine run_induction setup root
    (P := fun state => ∀ r ∈ state.recorded, r.Consistent setup.maxPasses root) ?_ ?_ script
  · rw [start_eq]
    intro r hr
    cases hr
  · intro state e h r hr
    obtain ⟨new, hnew, hall⟩ := recorded_step setup root state e hs
    rw [hnew] at hr
    rcases List.mem_append.1 hr with hr | hr
    · exact h r hr
    · exact (hall r hr).2

end Direct

/-- **Submissions are consistent.** Every request of a session carries a context in ascending order
of its keys, and its function is what resolving the text of a bound call or callback policy in that
context gives, without a marker left. An event appends requests, and all of them carry the context
that the session has after the event. -/
theorem submissions_consistent (maxPasses : Nat) (propagateTags : Bool) (root : ElementNode)
    (script : List ScriptedEvent) (e : ScriptedEvent) :
    let setup : Setup := ⟨maxPasses, .recorder true, propagateTags⟩
    let session := ((Session.start setup root).value.replay script).value
    let next := (session.fire e).value.1
    (∀ r ∈ session.state.recorded, Context.Ascending r.context ∧
      r.Consistent maxPasses root ∧ Context.Marker.isIn r.function = false) ∧
    ∃ new, next.state.recorded = session.state.recorded ++ new ∧
      ∀ r ∈ new, r.context = next.state.context.entries := by
  intro setup session next
  have hs : setup.submitter = .recorder true := rfl
  have hsession : session = .bound setup root _ := value_session setup root script
  obtain ⟨event, hfire, -⟩ :=
    value_fire setup root (Direct.run setup root (Direct.start setup root) script) e
  have hnext : next = .bound setup root _ :=
    congrArg Prod.fst ((congrArg (fun s => (Session.fire s e).value) hsession).trans hfire)
  rw [hnext, hsession]
  refine ⟨fun r hr => ?_, ?_⟩
  · have h := Direct.consistent_run setup root hs script r hr
    exact ⟨h.ascending, h, h.isIn_eq_false⟩
  · obtain ⟨new, hnew, hall⟩ := Direct.recorded_step setup root
      (Direct.run setup root (Direct.start setup root) script) e hs
    exact ⟨new, hnew, fun r hr => (hall r hr).1⟩

/-- A write of the context goes before the two calls of its event, wherever it is listed, and both
carry it. -/
theorem submissions_consistent_called :
    let root : ElementNode := .mk "a" "button" "" []
      [⟨.click, .call, "f(_context_value(k))"⟩, ⟨.click, .callback, "g(_context_value(k))"⟩,
        ⟨.click, .context, "(k,_value)"⟩] []
    let click (value : String) : ScriptedEvent := ⟨"a", .click, some value, none, none⟩
    let session := ((Session.start ⟨64, .recorder true, false⟩ root).value.replay [click "1"]).value
    let next := (session.fire (click "2")).value.1
    let new : List SolverRequest := [⟨"g(2)", [⟨"k", "2"⟩]⟩, ⟨"f(2)", [⟨"k", "2"⟩]⟩]
    session.state.recorded = [⟨"g(1)", [⟨"k", "1"⟩]⟩, ⟨"f(1)", [⟨"k", "1"⟩]⟩] ∧
    (∀ r ∈ session.state.recorded, r.Consistent 64 root) ∧
    next.state.recorded = session.state.recorded ++ new ∧
    next.state.context.entries = [⟨"k", "2"⟩] ∧
    ∀ r ∈ new, r.context = next.state.context.entries := by
  intro root click session next new
  let setup : Setup := ⟨64, .recorder true, false⟩
  let start := Direct.start setup root
  let clicked := (Direct.step setup root start (click "1")).state
  let one : Context.Store := Context.Store.empty.insert "k" "1"
  let two : Context.Store := one.insert "k" "2"
  have hfired (value : String) : Direct.fired root (click value) =
      [⟨.click, .context, "(k,_value)"⟩, ⟨.click, .callback, "g(_context_value(k))"⟩,
        ⟨.click, .call, "f(_context_value(k))"⟩] := by cbv
  -- a click writes its value, and both calls are resolved with it
  have hclick (state : State) (value : String) (store : Context.Store) (f g : String)
      (hentry : contextEntry? "(k,_value)" (some value) = some ("k", value))
      (hstore : state.context.insert "k" value = store)
      (hg : Context.Marker.resolve store 64 "g(_context_value(k))" = .ok g)
      (hf : Context.Marker.resolve store 64 "f(_context_value(k))" = .ok f) :
      let after := (Direct.step setup root state (click value)).state
      after.recorded = state.recorded ++ [⟨g, store.entries⟩, ⟨f, store.entries⟩] ∧
        after.context = store := by
    subst hstore
    exact Direct.step_write_calls rfl (hfired value) rfl (.inr rfl) (.inl rfl) hentry hg hf
  have hempty : start.context = .empty := congrArg State.context (Direct.start_eq setup root)
  have hnone : start.recorded = [] := congrArg State.recorded (Direct.start_eq setup root)
  obtain ⟨hfirst, hone⟩ := hclick start "1" one "f(1)" "g(1)" (by cbv) (by rw [hempty])
    (Context.Marker.resolve_of_cut (by decide : _ = some ⟨"g(".toList, "k".toList, ")".toList⟩)
      (by decide) (by decide))
    (Context.Marker.resolve_of_cut (by decide : _ = some ⟨"f(".toList, "k".toList, ")".toList⟩)
      (by decide) (by decide))
  obtain ⟨hsecond, htwo⟩ := hclick clicked "2" two "f(2)" "g(2)" (by cbv) (by rw [hone])
    (Context.Marker.resolve_of_cut (by decide : _ = some ⟨"g(".toList, "k".toList, ")".toList⟩)
      (by decide) (by decide))
    (Context.Marker.resolve_of_cut (by decide : _ = some ⟨"f(".toList, "k".toList, ")".toList⟩)
      (by decide) (by decide))
  have hsession : session = .bound setup root clicked := value_session setup root [click "1"]
  obtain ⟨event, hfire, -⟩ := value_fire setup root clicked (click "2")
  have hnext : next.state = (Direct.step setup root clicked (click "2")).state := by
    rw [← hsession] at hfire
    exact congrArg (·.1.state) hfire
  have hrecorded : session.state.recorded = [⟨"g(1)", [⟨"k", "1"⟩]⟩, ⟨"f(1)", [⟨"k", "1"⟩]⟩] := by
    rw [hsession]
    exact hfirst
  obtain ⟨hall, new', hnew', hcarried⟩ :=
    submissions_consistent 64 false root [click "1"] (click "2")
  have hnew : next.state.recorded = session.state.recorded ++ new := by
    rw [hnext, hsession]
    exact hsecond
  have hentries : next.state.context.entries = [⟨"k", "2"⟩] := by
    rw [hnext, htwo]
    decide
  obtain rfl : new' = new := List.append_cancel_left (hnew'.symm.trans hnew)
  exact ⟨hrecorded, fun r hr => (hall r hr).2.1, hnew, hentries, hcarried⟩

end UiPolicy
