import Mathlib.Data.List.Sort
import UiPolicy.Policy.Order

/-!
# The order of dispatch is a stable sort

A list of policies that descends by label is fixed by what it holds of each label
(`Descending.eq_of_withLabel_eq`), and a sort that keeps what is sorted already keeps the policies
of each label in their order (`withLabel_eq_of_sublist`). So `applicable` is *the* stable sort of
the policies of an action, and agrees with the insertion sort `sortByLabel` (`applicable_eq`).

Of the labels that are known, `context` comes before `callback` and `call`: after a policy that
submits no policy writes the context (`Descending.not_context_of_submits`).
-/

namespace UiPolicy.Policy

/-- No policy has a greater label than one before it. -/
def Descending (ps : List Policy) : Prop :=
  ps.Pairwise fun p q => q.interaction.label ≤ p.interaction.label

/-- The policies of one label. -/
def withLabel (label : String) (ps : List Policy) : List Policy :=
  ps.filter (·.interaction.label = label)

/-- Policies by label from the last to the first; those of one label keep their order. -/
def sortByLabel (ps : List Policy) : List Policy :=
  ps.insertionSort fun p q => q.interaction.label ≤ p.interaction.label

theorem mem_withLabel {label : String} {ps : List Policy} {p : Policy} :
    p ∈ withLabel label ps ↔ p ∈ ps ∧ p.interaction.label = label := by
  simp [withLabel]

theorem withLabel_cons_self (p : Policy) (ps : List Policy) :
    withLabel p.interaction.label (p :: ps) = p :: withLabel p.interaction.label ps := by
  simp [withLabel]

/-! ## Uniqueness -/

/-- The first label of a descending list bounds every label of a list that holds the same of
each label. -/
theorem Descending.label_le {p q : Policy} {ps qs : List Policy} (hp : Descending (p :: ps))
    (h : ∀ label, withLabel label (p :: ps) = withLabel label (q :: qs)) :
    q.interaction.label ≤ p.interaction.label := by
  have hq : q ∈ withLabel q.interaction.label (p :: ps) := by
    rw [h, withLabel_cons_self]
    exact List.mem_cons_self
  rcases List.mem_cons.1 (mem_withLabel.1 hq).1 with rfl | hmem
  · exact String.le_refl _
  · exact (List.pairwise_cons.1 hp).1 q hmem

/-- A descending list is fixed by what it holds of each label. -/
theorem Descending.eq_of_withLabel_eq {ps qs : List Policy} (hp : Descending ps)
    (hq : Descending qs) (h : ∀ label, withLabel label ps = withLabel label qs) : ps = qs := by
  induction ps generalizing qs with
  | nil =>
    cases qs with
    | nil => rfl
    | cons q qs =>
      have hnil := h q.interaction.label
      rw [withLabel_cons_self] at hnil
      exact absurd hnil (List.cons_ne_nil _ _).symm
  | cons p ps ih =>
    cases qs with
    | nil =>
      have hnil := h p.interaction.label
      rw [withLabel_cons_self] at hnil
      exact absurd hnil (List.cons_ne_nil _ _)
    | cons q qs =>
      have hlabel : q.interaction.label = p.interaction.label :=
        String.le_antisymm (hp.label_le h) (hq.label_le fun label => (h label).symm)
      have hhead := h p.interaction.label
      rw [withLabel_cons_self, ← hlabel, withLabel_cons_self] at hhead
      obtain ⟨rfl, -⟩ := List.cons.inj hhead
      have htail : ∀ label, withLabel label ps = withLabel label qs := by
        intro label
        have hl := h label
        unfold withLabel at hl ⊢
        rw [List.filter_cons, List.filter_cons] at hl
        split at hl
        · exact (List.cons.inj hl).2
        · exact hl
      rw [ih (List.pairwise_cons.1 hp).2 (List.pairwise_cons.1 hq).2 htail]

/-! ## Both sorts -/

/-- A rearrangement that keeps the policies of each label as a sublist keeps their order. -/
theorem withLabel_eq_of_sublist {ps qs : List Policy} (hperm : qs.Perm ps)
    (h : ∀ label, (withLabel label ps).Sublist qs) (label : String) :
    withLabel label qs = withLabel label ps := by
  have hsub : (withLabel label ps).Sublist (withLabel label qs) := by
    have := (h label).filter (·.interaction.label = label)
    simpa [withLabel, List.filter_filter] using this
  exact (hsub.eq_of_length (hperm.filter _).length_eq.symm).symm

theorem precedes_iff {p q : Policy} :
    precedes p q = true ↔ q.interaction.label ≤ p.interaction.label := by
  simp [precedes]

theorem precedes_trans (p q r : Policy) (h₁ : precedes p q = true) (h₂ : precedes q r = true) :
    precedes p r = true :=
  precedes_iff.2 (String.le_trans (precedes_iff.1 h₂) (precedes_iff.1 h₁))

theorem precedes_total (p q : Policy) : (precedes p q || precedes q p) = true := by
  rw [Bool.or_eq_true, precedes_iff, precedes_iff]
  exact String.le_total _ _

/-- Policies of one label may stand in any order. -/
theorem pairwise_withLabel {R : Policy → Policy → Prop} {label : String} (ps : List Policy)
    (hR : ∀ p q, q.interaction.label ≤ p.interaction.label → R p q) :
    (withLabel label ps).Pairwise R := by
  refine List.pairwise_of_forall_mem_list fun p hp q hq => hR p q ?_
  have hlabel : q.interaction.label = p.interaction.label :=
    (mem_withLabel.1 hq).2.trans (mem_withLabel.1 hp).2.symm
  simp only [hlabel, String.le_refl]

theorem perm_applicable (policies : List Policy) (action : Action) :
    (applicable policies action).Perm (policies.filter (·.action = action)) :=
  List.mergeSort_perm _ _

theorem mem_applicable {policies : List Policy} {action : Action} {p : Policy} :
    p ∈ applicable policies action ↔ p ∈ policies ∧ p.action = action := by
  rw [(perm_applicable policies action).mem_iff]
  simp

theorem descending_applicable (policies : List Policy) (action : Action) :
    Descending (applicable policies action) :=
  (List.pairwise_mergeSort precedes_trans precedes_total _).imp precedes_iff.1

/-- The policies of one label keep their order. -/
theorem withLabel_applicable (label : String) (policies : List Policy) (action : Action) :
    withLabel label (applicable policies action) =
      withLabel label (policies.filter (·.action = action)) := by
  refine withLabel_eq_of_sublist (perm_applicable policies action) (fun label => ?_) label
  exact List.sublist_mergeSort precedes_trans precedes_total
    (pairwise_withLabel _ fun _ _ h => precedes_iff.2 h) List.filter_sublist

theorem descending_sortByLabel (ps : List Policy) : Descending (sortByLabel ps) := by
  have : Std.Total fun p q : Policy => q.interaction.label ≤ p.interaction.label :=
    ⟨fun p q => String.le_total q.interaction.label p.interaction.label⟩
  have : IsTrans Policy fun p q => q.interaction.label ≤ p.interaction.label :=
    ⟨fun _ _ _ h₁ h₂ => String.le_trans h₂ h₁⟩
  exact List.pairwise_insertionSort _ ps

theorem withLabel_sortByLabel (label : String) (ps : List Policy) :
    withLabel label (sortByLabel ps) = withLabel label ps := by
  refine withLabel_eq_of_sublist (List.perm_insertionSort _ ps) (fun label => ?_) label
  exact List.sublist_insertionSort (pairwise_withLabel _ fun _ _ h => h) List.filter_sublist

/-- The policies of an action run in the order of their labels, those of one label as they are
declared. -/
theorem applicable_eq (policies : List Policy) (action : Action) :
    applicable policies action = sortByLabel (policies.filter (·.action = action)) := by
  refine (descending_applicable policies action).eq_of_withLabel_eq (descending_sortByLabel _) ?_
  intro label
  rw [withLabel_applicable, withLabel_sortByLabel]

/-! ## Writing and submitting -/

/-- Whether a policy submits its text. -/
def submits (p : Policy) : Prop :=
  p.interaction = .call ∨ p.interaction = .callback

/-- After a policy that submits no policy writes the context. -/
theorem Descending.not_context_of_submits {p : Policy} {ps : List Policy}
    (h : Descending (p :: ps)) (hp : p.submits) : ∀ q ∈ ps, q.interaction ≠ .context := by
  intro q hq hcontext
  have hle := (List.pairwise_cons.1 h).1 q hq
  rw [hcontext] at hle
  rcases hp with hp | hp <;> rw [hp] at hle <;> exact absurd hle (by decide)

end UiPolicy.Policy
