import UiPolicy.Proofs.Engine.Change

/-!
# Each policy as one effect

`Change` lists what a policy can do. Here it is said what it does, as one equation for each kind of
interaction: `run_update`, `run_context`, `run_submits`, `run_showContextMenu` and `run_unknown`.
The text of a policy is read first, by `Registry.assignment?`, `contextEntry?` or
`Context.Marker.resolve`. Where this gives nothing, the situation stays as it was.
-/

namespace UiPolicy

/-- The element and the attribute that the text of an update policy names. -/
def Registry.assignment? (r : Registry) (text : String) : Option (Element × Attribute) :=
  match (policyArguments text).value with
  | id :: key :: first :: more =>
    (r.get? id).map fun e => (e, ⟨id, key, joinArguments (first :: more)⟩)
  | _ => none

/-- The key and the value that the text of a context policy names. -/
def contextEntry? (text : String) (live : Option String) : Option (String × String) :=
  match (policyArguments text).value with
  | key :: first :: more =>
    (withLiveValue (joinArguments (first :: more)) live).map fun value => (key, value)
  | _ => none

namespace Situation

variable {setup : Setup} {s : Situation} {p : Policy}

theorem run_update (hp : p.interaction = .update) :
    s.run setup p =
      match s.state.elements.assignment? p.text with
      | some (e, a) => s.withState (s.state.updateAttribute setup e a)
      | none => s := by
  rw [run, interpret_update hp, value_interpretUpdate, Registry.assignment?]
  generalize (policyArguments p.text).value = tokens
  obtain _ | ⟨id, _ | ⟨key, _ | ⟨first, more⟩⟩⟩ := tokens
  · rfl
  · rfl
  · rfl
  · cases hget : s.state.elements.get? id <;> simp only [hget] <;> rfl

theorem run_context (hp : p.interaction = .context) :
    s.run setup p =
      match contextEntry? p.text (s.event.bind (·.value)) with
      | some (key, value) =>
        s.withState { s.state with context := s.state.context.insert key value }
      | none => s := by
  rw [run, interpret_context hp, value_interpretContext, contextEntry?]
  generalize (policyArguments p.text).value = tokens
  obtain _ | ⟨key, _ | ⟨first, more⟩⟩ := tokens
  · rfl
  · rfl
  · simp only
    cases withLiveValue (joinArguments (first :: more)) (s.event.bind (·.value)) <;> rfl

theorem run_submits (hp : p.submits) :
    s.run setup p =
      match Context.Marker.resolve s.state.context setup.maxPasses p.text with
      | .ok function => s.withState (s.state.submit setup.submitter function)
      | .error _ => s := by
  rw [run, interpret_submits hp, value_interpretCallback]
  cases Context.Marker.resolve s.state.context setup.maxPasses p.text <;> rfl

theorem run_showContextMenu (hp : p.interaction = .showContextMenu) :
    s.run setup p =
      ⟨{ s.state with
          menus := s.state.menus.toggle (menuKey p.text) (s.event.bind (·.coordinates?)) },
        s.event.map Event.claim⟩ := by
  rw [run, (interpret_change setup s p).eq_of_asks hp]
  rfl

theorem run_unknown {label : String} (hp : p.interaction = .unknown label) :
    s.run setup p = s := by
  unfold run interpret
  rw [hp]
  rfl

end Situation

end UiPolicy
