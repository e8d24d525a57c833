import Mathlib
import UiPolicy.Text.Lowercase

/-!
# What lower-casing leaves

Below 128 the only characters that lower-casing changes are the letters from `A` to `Z`, and no
character becomes one of these. So a lower-cased text holds none of them, and its plain parts are
their own lower-case forms.
-/

namespace UiPolicy.Text

theorem isUpper_iff {c : Char} : c.isUpper = true ↔ 65 ≤ c.toNat ∧ c.toNat ≤ 90 := by
  simp [Char.isUpper, UInt32.le_iff_toNat_le, ← Char.toNat_val]

theorem isUpper_ofNat {n : Nat} (h : 90 < n) : (Char.ofNat n).isUpper = false := by
  unfold Char.ofNat
  split
  · next hvalid =>
    have hn : (Char.ofNatAux n hvalid).toNat = n := rfl
    rw [Bool.eq_false_iff, ne_eq, isUpper_iff, hn]
    omega
  · rfl

/-- One run of capitals is that from `A` to `Z`, the others lie far behind it, and so do the
lower-case forms of all. -/
theorem of_mem_lowercaseShifts {e : Run × Int} (h : e ∈ lowercaseShifts) :
    (e.1.first = 65 ∧ e.1.last = 90 ∨ 128 ≤ e.1.first) ∧ 90 < e.1.first + e.2 := by
  have hall : lowercaseShifts.all (fun e => decide
      ((e.1.first = 65 ∧ e.1.last = 90 ∨ 128 ≤ e.1.first) ∧ 90 < e.1.first + e.2)) = true := by
    decide +kernel
  exact of_decide_eq_true (List.all_eq_true.1 hall e h)

theorem Run.contains_iff {run : Run} {c : Char} : run.contains c = true ↔
    (run.first ≤ c.toNat ∧ c.toNat ≤ run.last) ∧ (c.toNat - run.first) % run.step = 0 := by
  simp [Run.contains]

/-- A character below 128 that is no capital is its own lower-case form. -/
theorem lowercaseChar_eq_self {c : Char} (hlt : c.toNat < 128) (hupper : c.isUpper = false) :
    lowercaseChar c = [c] := by
  have hnone : lowercaseShifts.find? (·.1.contains c) = none := by
    rw [List.find?_eq_none]
    intro e he hcontains
    obtain ⟨⟨hfirst, hlast⟩, -⟩ := Run.contains_iff.1 hcontains
    rcases (of_mem_lowercaseShifts he).1 with ⟨hA, hZ⟩ | hfar
    · rw [isUpper_iff.2 ⟨hA ▸ hfirst, hZ ▸ hlast⟩] at hupper
      cases hupper
    · omega
  rw [lowercaseChar, if_neg (by omega), hnone]

theorem isUpper_of_mem_lowercaseChar {c d : Char} (h : c ∈ lowercaseChar d) :
    c.isUpper = false := by
  unfold lowercaseChar at h
  split at h
  · rcases List.mem_pair.1 h with rfl | rfl <;> decide
  · split at h
    · next run shift hfind =>
      obtain rfl := List.mem_singleton.1 h
      have hcontains := List.find?_some hfind
      obtain ⟨⟨hfirst, -⟩, -⟩ := Run.contains_iff.1 hcontains
      have hfar := (of_mem_lowercaseShifts (List.mem_of_find?_eq_some hfind)).2
      simp only at hfirst hfar
      exact isUpper_ofNat (by omega)
    · next hfind =>
      obtain rfl := List.mem_singleton.1 h
      have hletters : (⟨65, 90, 1⟩, 32) ∈ lowercaseShifts := List.mem_cons_self
      have hnot := List.find?_eq_none.1 hfind _ hletters
      rw [Run.contains_iff, Nat.mod_one] at hnot
      rw [Bool.eq_false_iff, ne_eq, isUpper_iff]
      exact fun hupper => hnot ⟨hupper, rfl⟩

/-- A lower-cased text holds no letter from `A` to `Z`. -/
theorem isUpper_of_mem_lowercase {s : String} {c : Char} (h : c ∈ (lowercase s).toList) :
    c.isUpper = false := by
  have hafter : ∀ cs before, c ∈ lowercaseAfter before cs → c.isUpper = false := by
    intro cs
    induction cs with
    | nil => exact fun _ h => absurd h List.not_mem_nil
    | cons d cs ih =>
      intro before h
      rw [lowercaseAfter, List.mem_append] at h
      rcases h with h | h
      · split at h
        · split at h <;> obtain rfl := List.mem_singleton.1 h <;> decide
        · exact isUpper_of_mem_lowercaseChar h
      · exact ih _ h
  rw [lowercase, String.toList_ofList] at h
  exact hafter _ _ h

/-- A text of characters that are their own lower-case forms is its own lower-case form. -/
theorem lowercase_eq_self {s : String}
    (h : ∀ c ∈ s.toList, c.toNat < 128 ∧ c.isUpper = false) : lowercase s = s := by
  have hafter : ∀ cs : List Char, (∀ c ∈ cs, c.toNat < 128 ∧ c.isUpper = false) →
      ∀ before, lowercaseAfter before cs = cs := by
    intro cs
    induction cs with
    | nil => exact fun _ _ => rfl
    | cons c cs ih =>
      intro hcs before
      obtain ⟨hlt, hupper⟩ := hcs c List.mem_cons_self
      have hsigma : c ≠ 'Σ' := by
        rintro rfl
        exact absurd hlt (by decide)
      rw [lowercaseAfter, if_neg hsigma, lowercaseChar_eq_self hlt hupper,
        ih fun c hc => hcs c (List.mem_cons_of_mem _ hc)]
      rfl
  rw [lowercase, hafter _ h, String.ofList_toList]

end UiPolicy.Text
