import UiPolicy.Context.Marker

/-!
# Resolved texts hold no marker

`resolveText` goes on while `cut` finds a marker. `Resolves` says the same as a relation with one
rule for each way in which it goes on or stops, so that a fact about what a text resolves to is an
induction with these cases. The first such fact is that a resolved text has no marker
(`isIn_of_resolve`).
-/

namespace UiPolicy.Context.Marker

theorem count_of_cut_eq_none {cs : List Char} (h : cut cs = none) : count cs = 0 := by
  rw [count]
  split
  · rfl
  · next hm => cases h.symm.trans hm

theorem count_of_cut {cs : List Char} {m : Cut} (h : cut cs = some m) :
    count cs = count m.after + 1 := by
  rw [count]
  split
  · next hm => cases h.symm.trans hm
  · next hm =>
    obtain rfl := Option.some.inj (h.symm.trans hm)
    rfl

/-- The text after a pass, which fills its first marker. -/
def Cut.next (store : Store) (m : Cut) : List Char :=
  m.fill ((store.get? (String.ofList m.key)).getD "").toList

variable {store : Store} {left : Nat} {text : List Char} {outcome : Except (List Char) (List Char)}

theorem outcome_of_cut_eq_none (h : cut text = none) :
    (resolveText store left text).outcome = .ok text := by
  rw [resolveText]
  split
  · rfl
  · next m hm => cases h.symm.trans hm

/-- A pass that lowers the number of markers is free. Any other one is charged. -/
theorem outcome_of_cut {m : Cut} (h : cut text = some m) :
    (resolveText store left text).outcome =
      if count (m.next store) < count text then (resolveText store left (m.next store)).outcome
      else
        match left with
        | 0 => .error (m.next store)
        | left + 1 => (resolveText store left (m.next store)).outcome := by
  rw [resolveText]
  split
  · next hnone => cases h.symm.trans hnone
  · next m' hm =>
    obtain rfl := Option.some.inj (h.symm.trans hm)
    have hnext : m.fill ((store.get? (String.ofList m.key)).getD "").toList = m.next store := rfl
    simp only [hnext]
    split
    · rfl
    · cases left <;> rfl

/-- What a text resolves to, with some passes left that may be charged. -/
inductive Resolves (store : Store) : Nat → List Char → Except (List Char) (List Char) → Prop
  | done {left : Nat} {text : List Char} (hcut : cut text = none) :
      Resolves store left text (.ok text)
  | free {left : Nat} {text : List Char} {outcome : Except (List Char) (List Char)} {m : Cut}
      (hcut : cut text = some m) (hlt : count (m.next store) < count text)
      (hnext : Resolves store left (m.next store) outcome) : Resolves store left text outcome
  | charged {left : Nat} {text : List Char} {outcome : Except (List Char) (List Char)} {m : Cut}
      (hcut : cut text = some m) (hle : count text ≤ count (m.next store))
      (hnext : Resolves store left (m.next store) outcome) : Resolves store (left + 1) text outcome
  | spent {text : List Char} {m : Cut} (hcut : cut text = some m)
      (hle : count text ≤ count (m.next store)) : Resolves store 0 text (.error (m.next store))

/-- The relation holds of what `resolveText` gives, by the recursion of `resolveText`. -/
theorem resolves_outcome (store : Store) (left : Nat) (text : List Char) :
    Resolves store left text (resolveText store left text).outcome := by
  cases hcut : cut text with
  | none =>
    rw [outcome_of_cut_eq_none hcut]
    exact .done hcut
  | some m =>
    rw [outcome_of_cut hcut]
    by_cases hlt : count (m.next store) < count text
    · rw [if_pos hlt]
      exact .free hcut hlt (resolves_outcome store left (m.next store))
    · rw [if_neg hlt]
      cases left with
      | zero => exact .spent hcut (Nat.le_of_not_lt hlt)
      | succ left => exact .charged hcut (Nat.le_of_not_lt hlt) (resolves_outcome store left _)
termination_by (left, count text)

/-- It holds of nothing else. -/
theorem resolves_iff : Resolves store left text outcome ↔
    (resolveText store left text).outcome = outcome := by
  constructor
  · intro h
    induction h with
    | done hcut => exact outcome_of_cut_eq_none hcut
    | free hcut hlt _ ih => rw [outcome_of_cut hcut, if_pos hlt, ih]
    | charged hcut hle _ ih =>
      rw [outcome_of_cut hcut, if_neg (Nat.not_lt.2 hle)]
      exact ih
    | spent hcut hle => rw [outcome_of_cut hcut, if_neg (Nat.not_lt.2 hle)]
  · rintro rfl
    exact resolves_outcome store left text

/-- Resolution ends well at a text without a marker, and is given up at a text with one: the pass
that was one too many did not lower the number of markers. -/
theorem Resolves.cut_outcome : Resolves store left text outcome →
    match outcome with
    | .ok resolved => cut resolved = none
    | .error reached => cut reached ≠ none := by
  intro h
  induction h with
  | done hcut => exact hcut
  | free _ _ _ ih => exact ih
  | charged _ _ _ ih => exact ih
  | spent hcut hle =>
    intro hnone
    rw [count_of_cut hcut, count_of_cut_eq_none hnone] at hle
    exact absurd hle (Nat.not_succ_le_zero _)

/-- A resolved text holds no marker. -/
theorem isIn_of_resolve {store : Store} {maxPasses : Nat} {text resolved : String}
    (h : resolve store maxPasses text = .ok resolved) : isIn resolved = false := by
  unfold resolve at h
  split at h
  · next cs hcs =>
    obtain rfl := Except.ok.inj h
    have hcut : cut cs = none := (resolves_iff.2 hcs).cut_outcome
    rw [isIn, String.toList_ofList, hcut]
    rfl
  · cases h

end UiPolicy.Context.Marker
