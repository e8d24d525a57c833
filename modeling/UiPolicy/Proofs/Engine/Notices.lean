import UiPolicy.Proofs.Engine.Change

/-!
# The notices of a policy

`Interaction.Gives` lists the notices that running a policy can give, by its kind of interaction.
The interpreters give no others (`gives_of_mem_notices`), so that what is asked about a notice is
one case analysis: a failure is noted by none of them, and an update by updates only.
-/

namespace UiPolicy

/-- The notices that policies of a kind of interaction can give. -/
inductive Interaction.Gives : Interaction → Notice → Prop
  | stray {kind : Interaction} (hkind : kind = .update ∨ kind = .context) (input : String)
      (position : Nat) : Gives kind (.strayBracket input position)
  | updated (id key : String) : Gives .update (.attributeUpdated id key)
  | written (key value : String) : Gives .context (.contextSet key value)
  | cancelled (key : String) : Gives .context (.liveValueEmpty key)
  | missing {kind : Interaction} (hkind : kind = .call ∨ kind = .callback) (key : String) :
      Gives kind (.contextKeyMissing key)
  | submitting {kind : Interaction} (hkind : kind = .call ∨ kind = .callback) (function : String) :
      Gives kind (.submitting function)
  | recorded {kind : Interaction} (hkind : kind = .call ∨ kind = .callback) (function : String) :
      Gives kind (.submissionRecorded function)
  | menuUnknown (key : String) : Gives .showContextMenu (.menuUnknown key)
  | menuHidden (key : String) : Gives .showContextMenu (.menuHidden key)
  | menuShown (key : String) (x y : Float) : Gives .showContextMenu (.menuShown key x y)
  | menuWithoutPlace (key : String) : Gives .showContextMenu (.menuWithoutPlace key)
  | skipped (label text : String) : Gives (.unknown label) (.interactionUnknown label text)

theorem Interaction.Gives.eq_update {kind : Interaction} {id key : String}
    (h : kind.Gives (.attributeUpdated id key)) : kind = .update := by
  cases h
  rfl

theorem Interaction.not_gives_policyFailed {kind : Interaction} {element : String} {p : Policy}
    {e : PolicyError} : ¬kind.Gives (.policyFailed element p e) := by
  intro h
  cases h

open Interaction (Gives)

section Interpreters

variable {setup : Setup} {s : Situation} {p : Policy} {text : String} {n : Notice}

theorem stray_of_mem_policyArguments (h : n ∈ (policyArguments text).notices) :
    ∃ input position, n = .strayBracket input position := by
  unfold policyArguments at h
  simp only at h
  split at h
  · cases h
  · exact ⟨_, _, List.mem_singleton.1 h⟩

theorem gives_of_mem_interpretUpdate (h : n ∈ (interpretUpdate setup s text).notices) :
    Gives .update n := by
  rw [interpretUpdate, Noted.notices_bind, List.mem_append] at h
  rcases h with h | h
  · obtain ⟨input, position, rfl⟩ := stray_of_mem_policyArguments h
    exact .stray (.inl rfl) input position
  · split at h
    · next id key first more _ =>
      simp only at h
      split at h
      · obtain rfl : n = .attributeUpdated id key := by simpa using h
        exact .updated id key
      · cases h
    · cases h

theorem gives_of_mem_interpretContext (h : n ∈ (interpretContext s text).notices) :
    Gives .context n := by
  rw [interpretContext, Noted.notices_bind, List.mem_append] at h
  rcases h with h | h
  · obtain ⟨input, position, rfl⟩ := stray_of_mem_policyArguments h
    exact .stray (.inr rfl) input position
  · split at h
    · next key first more _ =>
      split at h
      · next value _ =>
        obtain rfl : n = .contextSet key value := by simpa using h
        exact .written key value
      · obtain rfl : n = .liveValueEmpty key := by simpa using h
        exact .cancelled key
    · cases h

theorem gives_of_mem_interpretCallback {kind : Interaction}
    (hkind : kind = .call ∨ kind = .callback)
    (h : n ∈ (interpretCallback setup s text).notices) : Gives kind n := by
  rw [interpretCallback, Noted.notices_bind, List.mem_append] at h
  rcases h with h | h
  · obtain ⟨key, -, rfl⟩ := List.mem_map.1 h
    exact .missing hkind key
  · split at h
    · next function _ =>
      rw [Noted.notices_bind, List.mem_append] at h
      rcases h with h | h
      · obtain rfl := List.mem_singleton.1 h
        exact .submitting hkind function
      · split at h
        · obtain rfl : n = .submissionRecorded function := by simpa using h
          exact .recorded hkind function
        · cases h
    · cases h

theorem gives_of_mem_interpretShowMenu (h : n ∈ (interpretShowMenu s text).notices) :
    Gives .showContextMenu n := by
  unfold interpretShowMenu at h
  simp only at h
  split at h
  · obtain rfl : n = .menuUnknown _ := by simpa using h
    exact .menuUnknown _
  · split at h
    · obtain rfl : n = .menuHidden _ := by simpa using h
      exact .menuHidden _
    · split at h
      · next x y _ =>
        obtain rfl : n = .menuShown _ x y := by simpa using h
        exact .menuShown _ x y
      · obtain rfl : n = .menuWithoutPlace _ := by simpa using h
        exact .menuWithoutPlace _

/-- A policy gives no notices but those of its kind of interaction. -/
theorem gives_of_mem_notices (h : n ∈ (interpret setup s p).notices) : p.interaction.Gives n := by
  unfold interpret at h
  cases hp : p.interaction with
  | update =>
    rw [hp] at h
    exact gives_of_mem_interpretUpdate h
  | context =>
    rw [hp] at h
    exact gives_of_mem_interpretContext h
  | call =>
    rw [hp] at h
    exact gives_of_mem_interpretCallback (.inl rfl) h
  | callback =>
    rw [hp] at h
    exact gives_of_mem_interpretCallback (.inr rfl) h
  | showContextMenu =>
    rw [hp] at h
    exact gives_of_mem_interpretShowMenu h
  | unknown label =>
    rw [hp] at h
    obtain rfl : n = .interactionUnknown label p.text := by simpa using h
    exact .skipped label p.text

end Interpreters

end UiPolicy
