import UiPolicy.Proofs.Menu
import UiPolicy.Proofs.Policy.Order
import UiPolicy.Engine.Interpret

/-!
# What running a policy can do

`Change setup s p o` lists every way in which a policy `p` can turn a situation `s` into an outcome
`o`, with what has to hold for it. `interpret_change` says that the interpreters do nothing else, so
that each later fact about a single policy is one case analysis:

* attributes are written by `update` policies only (`Change.elements_eq`),
* the context is written by `context` policies only (`Change.context_eq`),
* the menus change by `show_context_menu` policies only (`Change.menus_eq`),
* requests are added by `call` and `callback` policies only (`Change.recorded_eq`), with the context
  as it is (`Change.recorded_of_submits`),
* the event is marked by `show_context_menu` policies only (`Change.event_eq`), and these do nothing
  but this and the asking for their menu (`Change.eq_of_asks`),
* a failure leaves everything as it was (`Change.after_of_error`).

`dispatch` runs the policies one after the other, whatever fails on the way (`value_dispatch`), so
that what each of them keeps the list keeps (`Situation.runAll_induction`).
-/

namespace UiPolicy

/-! ## Frames of the writes -/

/-- What is told when an element has got new attributes: to its object if that is alive, and then
to its tag. -/
def Element.tell (e : Element) (object : Option NativeObject) (propagateTags : Bool) :
    List Notification :=
  object.toList.map (.objectUpdated · e.attributes) ++
    if propagateTags then e.tag.toList.map (.tagPropagated · e object.isSome) else []

namespace State

/-- Writing an attribute sets the attributes of the element and tells its object and its tag;
nothing else. -/
theorem updateAttribute_eq (setup : Setup) (state : State) (element : Element) (a : Attribute) :
    let updated := { element with attributes := a.upsert element.attributes }
    state.updateAttribute setup element a =
      { state with
        elements := state.elements.setAttributes element.id updated.attributes
        notifications := state.notifications ++
          updated.tell (state.liveObject? element) setup.propagateTags } := by
  unfold updateAttribute Element.tell
  cases state.liveObject? element <;> cases element.tag <;> cases setup.propagateTags <;>
    simp [notify]

@[simp] theorem context_updateAttribute (setup : Setup) (state : State) (element : Element)
    (a : Attribute) : (state.updateAttribute setup element a).context = state.context := by
  rw [updateAttribute_eq]

@[simp] theorem menus_updateAttribute (setup : Setup) (state : State) (element : Element)
    (a : Attribute) : (state.updateAttribute setup element a).menus = state.menus := by
  rw [updateAttribute_eq]

@[simp] theorem recorded_updateAttribute (setup : Setup) (state : State) (element : Element)
    (a : Attribute) : (state.updateAttribute setup element a).recorded = state.recorded := by
  rw [updateAttribute_eq]

@[simp] theorem elements_submit (state : State) (submitter : Submitter) (function : String) :
    (state.submit submitter function).elements = state.elements := by
  cases submitter <;> rfl

@[simp] theorem context_submit (state : State) (submitter : Submitter) (function : String) :
    (state.submit submitter function).context = state.context := by
  cases submitter <;> rfl

@[simp] theorem menus_submit (state : State) (submitter : Submitter) (function : String) :
    (state.submit submitter function).menus = state.menus := by
  cases submitter <;> rfl

end State

/-! ## The changes -/

/-- The key of the menu that a policy text asks for. -/
def menuKey (text : String) : String :=
  String.ofList (Text.trim text.toList)

/-- An event that was marked by a policy for a menu. -/
def Event.claim (e : Event) : Event :=
  e.preventDefault.stopPropagation

/-- What running a policy `p` in a situation `s` can lead to. -/
inductive Change (setup : Setup) (s : Situation) (p : Policy) : Outcome → Prop
  /-- An attribute of a registered element is written. -/
  | updated (hp : p.interaction = .update) (element : Element) (a : Attribute)
      (ha : s.state.elements.get? a.id = some element) :
      Change setup s p ((s.withState (s.state.updateAttribute setup element a)).succeed p.text)
  /-- A value is written into the context. -/
  | written (hp : p.interaction = .context) (key value : String) :
      Change setup s p ((s.withState
        { s.state with context := s.state.context.insert key value }).succeed p.text)
  /-- The live value is empty and nothing is written. -/
  | cancelled (hp : p.interaction = .context) : Change setup s p (s.succeed p.text)
  /-- The resolved text is submitted. -/
  | submitted (hp : p.submits) (function : String)
      (hf : Context.Marker.resolve s.state.context setup.maxPasses p.text = .ok function) :
      Change setup s p
        ((s.withState (s.state.submit setup.submitter function)).succeed function)
  /-- A menu is asked for. -/
  | asked (hp : p.interaction = .showContextMenu) :
      Change setup s p (Situation.succeed
        ⟨{ s.state with
            menus := s.state.menus.toggle (menuKey p.text) (s.event.bind (·.coordinates?)) },
          s.event.map Event.claim⟩ p.text)
  /-- The interaction is not known. -/
  | skipped (label : String) (hp : p.interaction = .unknown label) :
      Change setup s p (s.succeed p.text)
  /-- The policy fails. -/
  | failed (hp : p.interaction ≠ .showContextMenu) (e : PolicyError) :
      Change setup s p (s.fail p.text e)

/-! ## The interpreters -/

section Interpreters

variable {setup : Setup} {s : Situation} {p : Policy}

theorem interpret_update (hp : p.interaction = .update) :
    interpret setup s p = interpretUpdate setup s p.text := by
  rw [interpret, hp]

theorem interpret_context (hp : p.interaction = .context) :
    interpret setup s p = interpretContext s p.text := by
  rw [interpret, hp]

theorem interpret_submits (hp : p.submits) :
    interpret setup s p = interpretCallback setup s p.text := by
  unfold interpret
  rcases hp with hp | hp <;> rw [hp]

variable (setup s p)

theorem value_interpretUpdate (text : String) :
    (interpretUpdate setup s text).value =
      match (policyArguments text).value with
      | id :: key :: first :: more =>
        match s.state.elements.get? id with
        | some e =>
          (s.withState (s.state.updateAttribute setup e
            ⟨id, key, joinArguments (first :: more)⟩)).succeed text
        | none => s.fail text (.elementNotFound id key (joinArguments (first :: more)))
      | tokens => s.fail text (.arity "update" text 3 tokens.length) := by
  rw [interpretUpdate, Noted.value_bind]
  generalize (policyArguments text).value = tokens
  obtain _ | ⟨id, _ | ⟨key, _ | ⟨first, more⟩⟩⟩ := tokens
  · rfl
  · rfl
  · rfl
  · cases hget : s.state.elements.get? id <;> simp only [hget] <;> rfl

theorem value_interpretContext (text : String) :
    (interpretContext s text).value =
      match (policyArguments text).value with
      | key :: first :: more =>
        match withLiveValue (joinArguments (first :: more)) (s.event.bind (·.value)) with
        | some value =>
          (s.withState { s.state with context := s.state.context.insert key value }).succeed text
        | none => s.succeed text
      | tokens => s.fail text (.arity "context" text 2 tokens.length) := by
  rw [interpretContext, Noted.value_bind]
  generalize (policyArguments text).value = tokens
  obtain _ | ⟨key, _ | ⟨first, more⟩⟩ := tokens
  · rfl
  · rfl
  · simp only
    cases withLiveValue (joinArguments (first :: more)) (s.event.bind (·.value)) <;> rfl

theorem value_interpretCallback (text : String) :
    (interpretCallback setup s text).value =
      match Context.Marker.resolve s.state.context setup.maxPasses text with
      | .ok function =>
        (s.withState (s.state.submit setup.submitter function)).succeed function
      | .error e => s.fail text e := by
  rw [interpretCallback, Noted.value_bind]
  cases Context.Marker.resolve s.state.context setup.maxPasses text with
  | error e => rfl
  | ok function =>
    rw [Noted.value_bind]
    split <;> rfl

/-- The menus that the interpreter leaves are those of `Menus.toggle`. -/
theorem value_interpretShowMenu (text : String) :
    (interpretShowMenu s text).value = Situation.succeed
      ⟨{ s.state with
          menus := s.state.menus.toggle (menuKey text) (s.event.bind (·.coordinates?)) },
        s.event.map Event.claim⟩ text := by
  have hkey : String.ofList (Text.trim text.toList) = menuKey text := rfl
  unfold interpretShowMenu Menus.toggle
  simp only [hkey]
  cases hcontains : s.state.menus.contains (menuKey text) with
  | false => cases s.event.bind (·.coordinates?) <;> rfl
  | true =>
    cases hopen : s.state.menus.isOpen (menuKey text) with
    | true => cases s.event.bind (·.coordinates?) <;> rfl
    | false => cases s.event.bind (·.coordinates?) <;> rfl

theorem interpretUpdate_change (hp : p.interaction = .update) :
    Change setup s p (interpretUpdate setup s p.text).value := by
  have hne : p.interaction ≠ .showContextMenu := by rw [hp]; decide
  rw [value_interpretUpdate]
  split
  · next id key first more _ =>
    cases hget : s.state.elements.get? id with
    | none => exact .failed hne _
    | some element =>
      exact .updated hp element ⟨id, key, joinArguments (first :: more)⟩ hget
  · exact .failed hne _

theorem interpretContext_change (hp : p.interaction = .context) :
    Change setup s p (interpretContext s p.text).value := by
  have hne : p.interaction ≠ .showContextMenu := by rw [hp]; decide
  rw [value_interpretContext]
  split
  · next key first more _ =>
    cases withLiveValue (joinArguments (first :: more)) (s.event.bind (·.value)) with
    | none => exact .cancelled hp
    | some value => exact .written hp key value
  · exact .failed hne _

theorem interpretCallback_change (hp : p.submits) :
    Change setup s p (interpretCallback setup s p.text).value := by
  have hne : p.interaction ≠ .showContextMenu := by
    rcases hp with hp | hp <;> rw [hp] <;> decide
  rw [value_interpretCallback]
  cases hf : Context.Marker.resolve s.state.context setup.maxPasses p.text with
  | error e => exact .failed hne e
  | ok function => exact .submitted hp function hf

/-- A policy changes a situation in one of the listed ways. -/
theorem interpret_change : Change setup s p (interpret setup s p).value := by
  unfold interpret
  cases hp : p.interaction with
  | update => exact interpretUpdate_change setup s p hp
  | context => exact interpretContext_change setup s p hp
  | call => exact interpretCallback_change setup s p (.inl hp)
  | callback => exact interpretCallback_change setup s p (.inr hp)
  | showContextMenu =>
    simp only [value_interpretShowMenu]
    exact .asked hp
  | unknown label => exact .skipped label hp

end Interpreters

/-! ## What a change leaves alone -/

namespace Change

variable {setup : Setup} {s : Situation} {p : Policy} {o : Outcome}

theorem elements_eq (h : Change setup s p o) (hp : p.interaction ≠ .update) :
    o.after.state.elements = s.state.elements := by
  cases h with
  | updated h => exact absurd h hp
  | submitted _ function _ => exact s.state.elements_submit _ _
  | _ => rfl

theorem context_eq (h : Change setup s p o) (hp : p.interaction ≠ .context) :
    o.after.state.context = s.state.context := by
  cases h with
  | updated _ element a _ => exact s.state.context_updateAttribute setup element a
  | written h => exact absurd h hp
  | submitted _ function _ => exact s.state.context_submit _ _
  | _ => rfl

/-- A policy that asks for a menu does nothing else. -/
theorem eq_of_asks (h : Change setup s p o) (hp : p.interaction = .showContextMenu) :
    o = Situation.succeed
      ⟨{ s.state with
          menus := s.state.menus.toggle (menuKey p.text) (s.event.bind (·.coordinates?)) },
        s.event.map Event.claim⟩ p.text := by
  cases h with
  | asked => rfl
  | failed hne => exact absurd hp hne
  | submitted hs =>
    rw [Policy.submits, hp] at hs
    rcases hs with hs | hs <;> cases hs
  | updated hp' | written hp' | cancelled hp' | skipped _ hp' => cases hp.symm.trans hp'

theorem menus_eq (h : Change setup s p o) (hp : p.interaction ≠ .showContextMenu) :
    o.after.state.menus = s.state.menus := by
  cases h with
  | updated _ element a _ => exact s.state.menus_updateAttribute setup element a
  | submitted _ function _ => exact s.state.menus_submit _ _
  | asked h => exact absurd h hp
  | _ => rfl

theorem event_eq (h : Change setup s p o) (hp : p.interaction ≠ .showContextMenu) :
    o.after.event = s.event := by
  cases h with
  | asked h => exact absurd h hp
  | _ => rfl

theorem recorded_eq (h : Change setup s p o) (hp : ¬p.submits) :
    o.after.state.recorded = s.state.recorded := by
  cases h with
  | updated _ element a _ => exact s.state.recorded_updateAttribute setup element a
  | submitted h => exact absurd h hp
  | _ => rfl

/-- A policy that submits adds one request, with the context as it is. -/
theorem recorded_of_submits (h : Change setup s p o) (hs : setup.submitter = .recorder true) :
    o.after.state.recorded = s.state.recorded ∨
      p.submits ∧ ∃ function,
        Context.Marker.resolve s.state.context setup.maxPasses p.text = .ok function ∧
        o.after.state.recorded = s.state.recorded ++ [⟨function, s.state.context.entries⟩] := by
  by_cases hp : p.submits
  · cases h with
    | submitted _ function hf =>
      refine .inr ⟨hp, function, hf, ?_⟩
      simp only [Situation.succeed, Situation.withState, hs]
      rfl
    | updated _ element a _ => exact .inl (s.state.recorded_updateAttribute setup element a)
    | _ => exact .inl rfl
  · exact .inl (h.recorded_eq hp)

/-- A failure leaves the situation and the text of the policy as they were. -/
theorem after_of_error (h : Change setup s p o) {e : PolicyError} (he : o.result = .error e) :
    o.after = s ∧ o.text = p.text := by
  cases h with
  | failed => exact ⟨rfl, rfl⟩
  | _ => cases he

end Change

/-! ## Lists of policies -/

namespace Situation

/-- The situation that a policy leaves, whether it fails or not. -/
def run (setup : Setup) (s : Situation) (p : Policy) : Situation :=
  (interpret setup s p).value.after

/-- The situation that a list of policies leaves, each run in the one that those before it leave. -/
def runAll (setup : Setup) (s : Situation) (ps : List Policy) : Situation :=
  ps.foldl (run setup) s

@[simp] theorem runAll_nil (setup : Setup) (s : Situation) : s.runAll setup [] = s := rfl

@[simp] theorem runAll_cons (setup : Setup) (s : Situation) (p : Policy) (ps : List Policy) :
    s.runAll setup (p :: ps) = (s.run setup p).runAll setup ps := rfl

theorem runAll_append (setup : Setup) (s : Situation) (ps qs : List Policy) :
    s.runAll setup (ps ++ qs) = (s.runAll setup ps).runAll setup qs :=
  List.foldl_append

/-- What every policy of a list keeps, the list keeps. -/
theorem runAll_induction {setup : Setup} {P : Situation → Prop} {ps : List Policy}
    (hstep : ∀ s p o, p ∈ ps → P s → Change setup s p o → P o.after) {s : Situation} (h : P s) :
    P (s.runAll setup ps) := by
  induction ps generalizing s with
  | nil => exact h
  | cons p ps ih =>
    rw [runAll_cons]
    refine ih (fun s q o hq => hstep s q o (List.mem_cons_of_mem p hq)) ?_
    exact hstep s p _ List.mem_cons_self h (interpret_change setup s p)

theorem event_run (setup : Setup) (s : Situation) (p : Policy) :
    (s.run setup p).event =
      if p.interaction = .showContextMenu then s.event.map Event.claim else s.event := by
  have h := interpret_change setup s p
  split
  · next hp => rw [run, h.eq_of_asks hp]; rfl
  · next hp => exact h.event_eq hp

theorem menus_run (setup : Setup) (s : Situation) (p : Policy) :
    (s.run setup p).state.menus =
      if p.interaction = .showContextMenu then
        s.state.menus.toggle (menuKey p.text) (s.event.bind (·.coordinates?))
      else s.state.menus := by
  have h := interpret_change setup s p
  split
  · next hp => rw [run, h.eq_of_asks hp]; rfl
  · next hp => exact h.menus_eq hp

/-- The event is claimed exactly if a policy of the list asks for a menu. -/
theorem event_runAll (setup : Setup) (s : Situation) (ps : List Policy) :
    (s.runAll setup ps).event =
      if ps.any (·.interaction = .showContextMenu) then s.event.map Event.claim
      else s.event := by
  induction ps generalizing s with
  | nil => rfl
  | cons p ps ih =>
    rw [runAll_cons, ih, event_run, List.any_cons]
    by_cases hp : p.interaction = .showContextMenu
    · -- a second claim changes nothing
      have hclaim : Event.claim ∘ Event.claim = Event.claim := rfl
      simp [hp, hclaim]
    · simp [hp]

end Situation

/-- Failures do not change how a list of policies goes on. -/
theorem value_dispatch (setup : Setup) (element : String) (ps : List Policy) (s : Situation) :
    (dispatch setup element ps s).value = s.runAll setup ps := by
  induction ps generalizing s with
  | nil => rfl
  | cons p ps ih =>
    unfold dispatch
    rw [Noted.value_bind, Situation.runAll_cons, ← ih]
    cases (interpret setup s p).value.result <;> rfl

end UiPolicy
