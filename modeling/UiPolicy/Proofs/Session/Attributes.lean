import UiPolicy.Proofs.Session.Start

/-!
# Attributes over a session

Only updates touch the registry, and each notes the element and the key that it has written
(`mem_notices_interpret`). `Develops` says of a stretch of work, seen by its notices, that it lets
the attributes grow and leaves one entry of every key that was updated. Policies, listeners, events
and scripts are such stretches, each put together from those before (`Develops.trans`), whatever the
listeners are. So it holds of all sessions: `attributes_keep_keys`. That the notices of an event are
those of the updates that it makes is `mem_notices_fire`.
-/

namespace UiPolicy

/-- Whether a policy is an update that succeeds, with an id and a key as its first arguments. -/
def Policy.Updates (setup : Setup) (s : Situation) (p : Policy) (id key : String) : Prop :=
  p.interaction = .update ∧ (interpret setup s p).value.result = .ok () ∧
    ∃ rest, (policyArguments p.text).value = id :: key :: rest

/-! ## The notice of an update -/

section Notices

variable {setup : Setup} {s : Situation} {p : Policy} {id key : String}

theorem updated_mem_update {text : String} :
    .attributeUpdated id key ∈ (interpretUpdate setup s text).notices ↔
      ∃ e value, s.state.elements.assignment? text = some (e, ⟨id, key, value⟩) := by
  have hstray : .attributeUpdated id key ∉ (policyArguments text).notices := fun hmem => by
    obtain ⟨input, position, heq⟩ := stray_of_mem_policyArguments hmem
    cases heq
  unfold interpretUpdate Registry.assignment?
  rw [Noted.notices_bind, List.mem_append, or_iff_right hstray]
  generalize (policyArguments text).value = tokens
  obtain _ | ⟨i, _ | ⟨k, _ | ⟨first, more⟩⟩⟩ := tokens
  · simp
  · simp
  · simp
  · cases hget : s.state.elements.get? i with
    | none => simp [hget]
    | some e => simp [hget, eq_comm, and_comm]

theorem updates_iff :
    p.Updates setup s id key ↔ p.interaction = .update ∧
      ∃ e value, s.state.elements.assignment? p.text = some (e, ⟨id, key, value⟩) := by
  unfold Policy.Updates
  refine and_congr_right fun hp => ?_
  rw [interpret_update hp, value_interpretUpdate, Registry.assignment?]
  generalize (policyArguments p.text).value = tokens
  obtain _ | ⟨i, _ | ⟨k, _ | ⟨first, more⟩⟩⟩ := tokens
  · simp
  · simp
  · simp [Situation.fail]
  · cases hget : s.state.elements.get? i with
    | none => simp [hget, Situation.fail]
    | some e => simp [hget, Situation.succeed]

/-- An update is noted exactly where it succeeds. -/
theorem mem_notices_interpret :
    .attributeUpdated id key ∈ (interpret setup s p).notices ↔ p.Updates setup s id key := by
  rw [updates_iff]
  by_cases hp : p.interaction = .update
  · rw [interpret_update hp, updated_mem_update, and_iff_right hp]
  · exact iff_of_false (fun hmem => hp (gives_of_mem_notices hmem).eq_update) fun h => hp h.1

end Notices

/-! ## Stretches of work -/

/-- What a stretch of work does to a registry, by the notices that it gives. -/
structure Registry.Develops (old : Registry) (notices : List Notice) (new : Registry) : Prop where
  grows : old.Grows new
  updated : ∀ id key, .attributeUpdated id key ∈ notices → new.HoldsOnce id key

namespace Registry.Develops

theorem quiet {notices : List Notice} (h : ∀ id key, .attributeUpdated id key ∉ notices)
    (r : Registry) : r.Develops notices r :=
  ⟨.refl r, fun id key hmem => absurd hmem (h id key)⟩

theorem trans {r s t : Registry} {ms ns : List Notice} (h : r.Develops ms s)
    (h' : s.Develops ns t) : r.Develops (ms ++ ns) t where
  grows := h.grows.trans h'.grows
  updated id key hmem := by
    rcases List.mem_append.1 hmem with hms | hns
    -- what was updated first is still held once
    · exact h'.grows.holdsOnce (h.updated id key hms)
    · exact h'.updated id key hns

end Registry.Develops

/-! ## Policies -/

section Policies

variable (setup : Setup)

theorem get?_of_assignment? {r : Registry} {text : String} {e : Element} {a : Attribute}
    (h : r.assignment? text = some (e, a)) : r.get? a.id = some e := by
  unfold Registry.assignment? at h
  split at h
  · obtain ⟨x, hx, heq⟩ := Option.map_eq_some_iff.1 h
    obtain ⟨rfl, rfl⟩ := Prod.mk.inj heq
    exact hx
  · cases h

theorem elements_run_update {s : Situation} {p : Policy} {e : Element} {a : Attribute}
    (hp : p.interaction = .update) (h : s.state.elements.assignment? p.text = some (e, a)) :
    (s.run setup p).state.elements =
      s.state.elements.setAttributes a.id (a.upsert e.attributes) := by
  have hid : e.id = a.id := Registry.id_of_get? (get?_of_assignment? h)
  rw [Situation.run_update hp, h, ← hid]
  exact congrArg State.elements (s.state.updateAttribute_eq setup e a)

theorem grows_run (s : Situation) (p : Policy) :
    s.state.elements.Grows (s.run setup p).state.elements := by
  by_cases hp : p.interaction = .update
  · cases h : s.state.elements.assignment? p.text with
    | none =>
      rw [Situation.run_update hp, h]
      exact .refl _
    | some found =>
      rw [elements_run_update setup hp h]
      exact .setAttributes (get?_of_assignment? h) (.upsert found.2 found.1.attributes)
  · rw [Situation.run, (interpret_change setup s p).elements_eq hp]
    exact .refl _

/-- An update that succeeds leaves one entry of its key. -/
theorem holdsOnce_run {s : Situation} {p : Policy} {id key : String}
    (h : p.Updates setup s id key) : (s.run setup p).state.elements.HoldsOnce id key := by
  obtain ⟨hp, e, value, hassign⟩ := updates_iff.1 h
  have hget : s.state.elements.get? id = some e := get?_of_assignment? hassign
  let a : Attribute := ⟨id, key, value⟩
  refine ⟨{ e with attributes := a.upsert e.attributes }, ?_, ?_⟩
  · rw [elements_run_update setup hp hassign, Registry.get?_setAttributes, hget]
    simp [a]
  · rw [Attribute.count_keys_upsert, if_pos rfl]

theorem develops_interpret (s : Situation) (p : Policy) :
    s.state.elements.Develops (interpret setup s p).notices (s.run setup p).state.elements :=
  ⟨grows_run setup s p, fun _ _ hmem => holdsOnce_run setup (mem_notices_interpret.1 hmem)⟩

/-- What is said of some place of a list is said of its first place, or of a place after it. -/
theorem exists_split_cons {α : Type} {x : α} {xs : List α} {R : List α → α → Prop} :
    (∃ a y b, x :: xs = a ++ y :: b ∧ R a y) ↔
      R [] x ∨ ∃ a y b, xs = a ++ y :: b ∧ R (x :: a) y := by
  constructor
  · rintro ⟨_ | ⟨x', a⟩, y, b, heq, hy⟩
    · obtain ⟨rfl, -⟩ := List.cons.inj heq
      exact .inl hy
    · obtain ⟨rfl, rfl⟩ := List.cons.inj heq
      exact .inr ⟨a, y, b, rfl, hy⟩
  · rintro (hfirst | ⟨a, y, b, rfl, hy⟩)
    · exact ⟨[], x, xs, rfl, hfirst⟩
    · exact ⟨x :: a, y, b, rfl, hy⟩

/-- The updates that a list of policies notes are those of its policies that succeed, each in the
situation that the ones before it leave. -/
theorem mem_notices_dispatch (element : String) {ps : List Policy} {s : Situation}
    {id key : String} :
    .attributeUpdated id key ∈ (dispatch setup element ps s).notices ↔
      ∃ a p b, ps = a ++ p :: b ∧ p.Updates setup (s.runAll setup a) id key := by
  induction ps generalizing s with
  | nil => simp [dispatch]
  | cons p ps ih =>
    have hcons : .attributeUpdated id key ∈ (dispatch setup element (p :: ps) s).notices ↔
        p.Updates setup s id key ∨
          .attributeUpdated id key ∈ (dispatch setup element ps (s.run setup p)).notices := by
      rw [dispatch, Noted.notices_bind, List.mem_append, mem_notices_interpret]
      cases (interpret setup s p).value.result with
      | ok => exact Iff.rfl
      | error e => simp [Situation.run]
    rw [hcons, ih, exists_split_cons]
    rfl

theorem develops_dispatch (element : String) (ps : List Policy) (s : Situation) :
    s.state.elements.Develops (dispatch setup element ps s).notices
      (dispatch setup element ps s).value.state.elements := by
  induction ps generalizing s with
  | nil => exact .quiet (by simp [dispatch]) _
  | cons p ps ih =>
    have hfirst := develops_interpret setup s p
    have hrest := ih (s.run setup p)
    unfold dispatch
    rw [Noted.notices_bind, Noted.value_bind]
    refine hfirst.trans ?_
    cases (interpret setup s p).value.result with
    | ok => exact hrest
    | error e =>
      -- the warning in between notes no update
      have hwarning : (s.run setup p).state.elements.Develops [.policyFailed element p e]
          (s.run setup p).state.elements := .quiet (by simp) _
      exact hwarning.trans hrest

end Policies

/-! ## Events and scripts -/

section Events

variable (setup : Setup)

theorem develops_react (reaction : Reaction) (state : State) (event : Event) :
    state.elements.Develops (react setup reaction state event).notices
      (react setup reaction state event).value.1.elements := by
  cases reaction with
  | runPolicies element policies =>
    have hdispatch := develops_dispatch setup element policies ⟨state, some event⟩
    simpa [react] using hdispatch
  | closeMenus =>
    unfold react
    cases state.menus.anyOpen with
    | true => exact .quiet (by simp) _
    | false => exact .quiet (by simp) _
  | observe name effect => exact .quiet (by simp [react]) _

theorem develops_runListeners (listeners : List Listener) (state : State) (event : Event) :
    state.elements.Develops (runListeners setup listeners state event).notices
      (runListeners setup listeners state event).value.1.elements := by
  induction listeners generalizing state event with
  | nil => exact .quiet (by simp [runListeners]) _
  | cons listener listeners ih =>
    unfold runListeners
    rw [Noted.notices_bind, Noted.value_bind]
    exact (develops_react setup listener.reaction state event).trans (ih _ _)

theorem develops_page (page : Page) (id : String) (state : State) (event : Event) :
    state.elements.Develops (page.fire setup id state event).notices
      (page.fire setup id state event).value.1.elements := by
  unfold Page.fire
  simp only
  rw [Noted.notices_bind, Noted.value_bind]
  refine (develops_runListeners setup _ state event).trans ?_
  split
  · exact .quiet (by simp) _
  · exact develops_runListeners setup _ _ _

theorem develops_fire (session : Session) (e : ScriptedEvent) :
    session.state.elements.Develops (session.fire e).notices
      (session.fire e).value.1.state.elements := by
  have hnote : session.state.elements.Develops [.eventFired e.target e.kind]
      session.state.elements := .quiet (by simp) _
  have hpage := develops_page session.setup session.page e.target session.state e.event
  have hfire := hnote.trans hpage
  simpa [Session.fire] using hfire

/-- A script lets the attributes grow, in a session of any page. -/
theorem develops_replay (session : Session) (script : List ScriptedEvent) :
    session.state.elements.Develops (session.replay script).notices
      (session.replay script).value.state.elements := by
  induction script generalizing session with
  | nil => exact .quiet (by simp [Session.replay]) _
  | cons e script ih =>
    unfold Session.replay
    rw [Noted.notices_bind, Noted.value_bind]
    exact (develops_fire session e).trans (ih _)

end Events

/-- The notices of a script are those of its events, each fired in the session that the events
before it leave. -/
theorem mem_notices_replay {session : Session} {script : List ScriptedEvent} {n : Notice} :
    n ∈ (session.replay script).notices ↔
      ∃ front e back, script = front ++ e :: back ∧
        n ∈ ((session.replay front).value.fire e).notices := by
  induction script generalizing session with
  | nil => simp [Session.replay]
  | cons e script ih =>
    have hcons : n ∈ (session.replay (e :: script)).notices ↔
        n ∈ (session.fire e).notices ∨
          n ∈ ((session.fire e).value.1.replay script).notices := by
      rw [Session.replay, Noted.notices_bind, List.mem_append]
    rw [hcons, ih, exists_split_cons]
    rfl

/-! ## Updates of an event -/

section Updates

variable (setup : Setup) {id key : String}

theorem updated_not_mem_closeMenus {listeners : List Listener}
    (h : ∀ l ∈ listeners, l.reaction = .closeMenus) (state : State) (event : Event) :
    .attributeUpdated id key ∉ (runListeners setup listeners state event).notices := by
  induction listeners generalizing state event with
  | nil => simp [runListeners]
  | cons l listeners ih =>
    obtain ⟨hl, hlisteners⟩ := List.forall_mem_cons.1 h
    unfold runListeners
    rw [Noted.notices_bind, List.mem_append, not_or, hl]
    refine ⟨?_, ih hlisteners _ _⟩
    unfold react
    cases state.menus.anyOpen <;> simp

/-- An event notes the updates that succeed among the policies that it fires. -/
theorem mem_notices_fire {root : ElementNode} {state : State} {e : ScriptedEvent} :
    .attributeUpdated id key ∈ ((Session.bound setup root state).fire e).notices ↔
      ∃ a p b, Direct.fired root e = a ++ p :: b ∧
        p.Updates setup (Situation.runAll setup ⟨state, some e.event⟩ a) id key := by
  have hdocument (state : State) (event : Event) : .attributeUpdated id key ∉
      (runListenersFor setup (Page.ofTree root).document state event).notices := by
    refine updated_not_mem_closeMenus setup (fun l hl => ?_) state event
    have hmem : l ∈ (Page.ofTree root).document := List.mem_of_mem_filter hl
    rw [Page.document_ofTree] at hmem
    rcases List.mem_pair.1 hmem with rfl | rfl <;> rfl
  rw [← mem_notices_dispatch setup e.target]
  unfold Session.fire Session.bound Page.fire
  simp only [Direct.runListenersFor_target, Noted.notices_bind, List.mem_append]
  split <;> simp [hdocument]

end Updates

/-- Where the keys of every node are distinct, so are those of every element that is registered. -/
theorem nodup_keys_ofTree {root : ElementNode}
    (h : ∀ n ∈ root.preorder, (Attribute.keys n.attributes).Nodup) {id : String} {e : Element}
    (hget : (Registry.ofTree root).get? id = some e) : (Attribute.keys e.attributes).Nodup := by
  rw [Registry.get?_ofTree] at hget
  obtain ⟨node, hnode, rfl⟩ := Option.map_eq_some_iff.1 hget
  exact h node (ElementNode.of_node? hnode).1

/-- **Attributes keep their keys.** A session never registers or forgets an element. If the keys of
every node of its tree are distinct, so are those of every element at any time. In any case an
element that was updated holds the key just once from then on, and of the keys that an element has
held none is lost: their order stays, and new keys come after them. Updates are known by their
notices: those of a script are the notices of its events, and an event notes just those of the
policies that it fires which succeed as updates, each in the situation that the policies before it
leave. -/
theorem attributes_keep_keys (setup : Setup) (root : ElementNode)
    (before after : List ScriptedEvent) :
    let begun := (Session.start setup root).value
    let earlier := begun.replay before
    let later := (earlier.value.replay after).value.state.elements
    later.ids = begun.state.elements.ids ∧
    ((∀ n ∈ root.preorder, (Attribute.keys n.attributes).Nodup) →
      ∀ id e, later.get? id = some e → (Attribute.keys e.attributes).Nodup) ∧
    (∀ n, n ∈ earlier.notices ↔ ∃ front e back, before = front ++ e :: back ∧
      n ∈ ((begun.replay front).value.fire e).notices) ∧
    (∀ e id key, .attributeUpdated id key ∈ (earlier.value.fire e).notices ↔
      ∃ a p b, Direct.fired root e = a ++ p :: b ∧
        p.Updates setup (dispatch setup e.target a ⟨earlier.value.state, some e.event⟩).value
          id key) ∧
    (∀ id key, .attributeUpdated id key ∈ earlier.notices →
      ∃ e, later.get? id = some e ∧ (Attribute.keys e.attributes).count key = 1) ∧
    ∀ id e, earlier.value.state.elements.get? id = some e →
      ∃ e', later.get? id = some e' ∧
        Attribute.keys e.attributes ⊆ Attribute.keys e'.attributes ∧
        Attribute.firstKeys e.attributes <+: Attribute.firstKeys e'.attributes := by
  intro begun earlier later
  have hbegun : begun.state.elements = .ofTree root :=
    congrArg (·.state.elements) (value_start_eq setup root)
  have hbefore : begun.state.elements.Develops earlier.notices earlier.value.state.elements :=
    develops_replay begun before
  have hafter : earlier.value.state.elements.Grows later :=
    (develops_replay earlier.value after).grows
  have hall : begun.state.elements.Grows later := hbefore.grows.trans hafter
  have hbound : earlier.value = .bound setup root earlier.value.state :=
    bound_session setup root before
  refine ⟨hall.ids, fun hroot id e hget => ?_, fun n => mem_notices_replay, fun e id key => ?_,
    fun id key hnoted => ?_, fun id e hget => ?_⟩
  · obtain ⟨e₀, hold, hgrows⟩ := hall.exists_old hget
    rw [hbegun] at hold
    exact hgrows.nodup (nodup_keys_ofTree hroot hold)
  · simp only [value_dispatch]
    rw [hbound]
    exact mem_notices_fire setup
  · exact hafter.holdsOnce (hbefore.updated id key hnoted)
  · obtain ⟨e', hlater, hgrows⟩ := hafter.attributes hget
    exact ⟨e', hlater, hgrows.subset, hgrows.isPrefix⟩

/-- An element with two keys: one is updated by a click and the other by what is typed later. -/
theorem attributes_keep_keys_typed :
    let setup : Setup := ⟨64, .recorder true, false⟩
    let root : ElementNode := .mk "a" "field" "" [⟨"a", "k", "1"⟩, ⟨"a", "m", "2"⟩]
      [⟨.click, .update, "(a,m,3)"⟩, ⟨.input, .update, "(a,n,4)"⟩, ⟨.input, .update, "(a,k,5)"⟩] []
    let begun := (Session.start setup root).value
    let earlier := begun.replay [⟨"a", .click, none, none, none⟩]
    let later := (earlier.value.replay [⟨"a", .input, some "x", none, none⟩]).value.state.elements
    let old : Element :=
      ⟨"a", some "field", [⟨"a", "k", "1"⟩, ⟨"a", "m", "3"⟩], none, none⟩
    let new : Element :=
      ⟨"a", some "field", [⟨"a", "k", "5"⟩, ⟨"a", "m", "3"⟩, ⟨"a", "n", "4"⟩], none, none⟩
    (∀ n ∈ root.preorder, (Attribute.keys n.attributes).Nodup) ∧
    .attributeUpdated "a" "m" ∈ earlier.notices ∧
    earlier.value.state.elements.get? "a" = some old ∧ later.get? "a" = some new ∧
    (Attribute.keys new.attributes).Nodup ∧ (Attribute.keys new.attributes).count "m" = 1 ∧
    Attribute.firstKeys old.attributes <+: Attribute.firstKeys new.attributes := by
  intro setup root begun earlier later old new
  have hroot : ∀ n ∈ root.preorder, (Attribute.keys n.attributes).Nodup := by decide
  have hnoted : .attributeUpdated "a" "m" ∈ earlier.notices := by
    have hnotices : earlier.notices.getLast? = some (.attributeUpdated "a" "m") := by cbv
    exact List.mem_of_getLast? hnotices
  have hold : earlier.value.state.elements.get? "a" = some old := by cbv
  have hnew : later.get? "a" = some new := by
    unfold later
    cbv
  have hkept := attributes_keep_keys setup root
    [⟨"a", .click, none, none, none⟩] [⟨"a", .input, some "x", none, none⟩]
  extract_lets at hkept
  obtain ⟨-, hnodup, -, -, honce, hgrows⟩ := hkept
  obtain ⟨e, hget, hcount⟩ := honce "a" "m" hnoted
  obtain ⟨e', hget', -, hprefix⟩ := hgrows "a" old hold
  obtain rfl := Option.some.inj (hget.symm.trans hnew)
  obtain rfl := Option.some.inj (hget'.symm.trans hnew)
  exact ⟨hroot, hnoted, hold, hnew, hnodup hroot "a" new hnew, hcount, hprefix⟩

end UiPolicy
