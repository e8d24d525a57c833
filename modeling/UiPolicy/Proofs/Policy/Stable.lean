import UiPolicy.Page
import UiPolicy.Proofs.Policy.Order
import UiPolicy.Proofs.Text.Bytes

/-!
# The order of dispatch is fixed

Three facts single out `applicable` among all lists: it rearranges the policies of the action, no
label in it is smaller than a later one, byte by byte, and the policies of one label stand as they
were declared (`eq_applicable_iff`). So neither the order nor what is bound says how the labels of
a list were mixed (`applicable_unique`).
-/

namespace UiPolicy.Policy

/-- Labels that descend as texts descend byte by byte. -/
theorem descending_iff {ps : List Policy} :
    Descending ps ↔
      ps.Pairwise fun p q => ¬Text.ByteLt p.interaction.label q.interaction.label := by
  refine List.Pairwise.iff fun p q => ?_
  rw [Text.byteLt_iff, String.not_lt]

theorem eq_applicable_iff {policies ordered : List Policy} {action : Action} :
    ordered = applicable policies action ↔
      ordered.Perm (policies.filter (·.action = action)) ∧ Descending ordered ∧
        ∀ label, withLabel label ordered =
          withLabel label (policies.filter (·.action = action)) := by
  constructor
  · rintro rfl
    exact ⟨perm_applicable policies action, descending_applicable policies action,
      fun label => withLabel_applicable label policies action⟩
  · rintro ⟨-, hdescending, hlabels⟩
    refine hdescending.eq_of_withLabel_eq (descending_applicable policies action) fun label => ?_
    rw [hlabels, withLabel_applicable]

theorem applicable_eq_applicable_iff {policies others : List Policy} {action : Action} :
    applicable others action = applicable policies action ↔
      ∀ label, withLabel label (others.filter (·.action = action)) =
        withLabel label (policies.filter (·.action = action)) := by
  constructor
  · intro h label
    rw [← withLabel_applicable, h, withLabel_applicable]
  · intro h
    refine (descending_applicable others action).eq_of_withLabel_eq
      (descending_applicable policies action) fun label => ?_
    rw [withLabel_applicable, withLabel_applicable, h label]

/-- **The order of dispatch is the stable descending sort, and there is no other.** A list is the
one in which the policies of an action run exactly if it is a rearrangement of them, no label is
smaller than a later one byte by byte, and the policies of each label stand as they were declared.
Two lists of policies run in the same order exactly if they hold the same of each label, and then
the same is bound for both. -/
theorem applicable_unique (policies : List Policy) (action : Action) :
    (∀ ordered, ordered = applicable policies action ↔
      ordered.Perm (policies.filter (·.action = action)) ∧
      (ordered.Pairwise fun p q => ¬Text.ByteLt p.interaction.label q.interaction.label) ∧
      ∀ label, withLabel label ordered = withLabel label (policies.filter (·.action = action))) ∧
    (∀ others, applicable others action = applicable policies action ↔
      ∀ label, withLabel label (others.filter (·.action = action)) =
        withLabel label (policies.filter (·.action = action))) ∧
    ∀ others, (∀ label, withLabel label (others.filter (·.action = action)) =
        withLabel label (policies.filter (·.action = action))) →
      ∀ setup state target,
        bindAction setup others state target action =
          bindAction setup policies state target action := by
  refine ⟨fun ordered => ?_, fun others => applicable_eq_applicable_iff, ?_⟩
  · rw [eq_applicable_iff, descending_iff]
  · intro others h setup state target
    unfold bindAction
    rw [applicable_eq_applicable_iff.2 h]

/-- Two calls stay in their order, wherever a context policy, one of an unknown label and one of
another action stand. -/
theorem applicable_unique_mixed :
    let first : Policy := ⟨.click, .call, "first"⟩
    let second : Policy := ⟨.click, .call, "second"⟩
    let write : Policy := ⟨.click, .context, "(k,v)"⟩
    let zoom : Policy := ⟨.click, .unknown "zoom", "2"⟩
    let typed : Policy := ⟨.input, .call, "typed"⟩
    (∀ label, withLabel label ([zoom, first, write, second].filter (·.action = .click)) =
      withLabel label ([first, typed, second, zoom, write].filter (·.action = .click))) ∧
    ∀ setup state target,
      bindAction setup [zoom, first, write, second] state target .click =
        bindAction setup [first, typed, second, zoom, write] state target .click := by
  intro first second write zoom typed
  have hlabels : ∀ label,
      withLabel label ([zoom, first, write, second].filter (·.action = .click)) =
        withLabel label ([first, typed, second, zoom, write].filter (·.action = .click)) := by
    intro label
    by_cases hcall : "call" = label
    · subst hcall
      decide
    · by_cases hcontext : "context" = label
      · subst hcontext
        decide
      · by_cases hzoom : "zoom" = label
        · subst hzoom
          decide
        · simp [withLabel, first, second, write, zoom, typed, Interaction.label, hcall, hcontext,
            hzoom]
  exact ⟨hlabels, (applicable_unique _ .click).2.2 _ hlabels⟩

end UiPolicy.Policy
