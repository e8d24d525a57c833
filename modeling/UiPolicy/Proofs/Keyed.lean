import Mathlib.Data.List.Nodup

/-!
# Lists that are searched by key

A list stands for what it holds under each key, and the first entry of a key is the one that counts.
-/

namespace UiPolicy.Keyed

variable {α : Type}

/-- Where keys are distinct, a search by key meets the one entry that has it. -/
theorem find?_eq_some_iff {key : α → String} {xs : List α} (h : (xs.map key).Nodup) {id : String}
    {x : α} : xs.find? (key · = id) = some x ↔ x ∈ xs ∧ key x = id := by
  constructor
  · intro hx
    exact ⟨List.mem_of_find?_eq_some hx, by simpa using List.find?_some hx⟩
  · rintro ⟨hx, rfl⟩
    cases hfind : xs.find? (key · = key x) with
    | none => simpa using List.find?_eq_none.1 hfind x hx
    | some y =>
      have hy : key y = key x := by simpa using List.find?_some hfind
      rw [List.inj_on_of_nodup_map h (List.mem_of_find?_eq_some hfind) hx hy]

/-- A write to a list that replaces the first entry of the same key, or adds an entry at the end. -/
theorem find?_put (key : α → String) (put : α → List α → List α) (hnil : ∀ a, put a [] = [a])
    (hcons : ∀ a x xs, put a (x :: xs) = if key x = key a then a :: xs else x :: put a xs)
    (a : α) (xs : List α) (id : String) :
    (put a xs).find? (key · = id) = if key a = id then some a else xs.find? (key · = id) := by
  induction xs with
  | nil =>
    rw [hnil, List.find?_cons]
    by_cases hid : key a = id <;> simp [hid]
  | cons x xs ih =>
    rw [hcons]
    by_cases hx : key x = key a
    · rw [if_pos hx, List.find?_cons, List.find?_cons, hx]
      by_cases hid : key a = id <;> simp [hid]
    · rw [if_neg hx, List.find?_cons, List.find?_cons, ih]
      by_cases hxid : key x = id
      · have hid : ¬key a = id := fun hid => hx (hxid.trans hid.symm)
        simp [hxid, hid]
      · simp [hxid]

end UiPolicy.Keyed
