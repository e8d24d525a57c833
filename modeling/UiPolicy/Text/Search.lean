/-!
# Searching in a text

`cutAt?` takes a text apart at the first occurrence of a pattern, `splitAt` at every separator.
-/

namespace UiPolicy.Text

/-- What stands before and after the first occurrence of a pattern that is not empty. -/
def cutAt? (pattern : List Char) : List Char → Option (List Char × List Char)
  | [] => none
  | c :: cs =>
    if pattern.isPrefixOf (c :: cs) then some ([], (c :: cs).drop pattern.length)
    else (cutAt? pattern cs).map fun (before, after) => (c :: before, after)

theorem eq_of_cutAt? {pattern cs before after : List Char}
    (h : cutAt? pattern cs = some (before, after)) : cs = before ++ pattern ++ after := by
  induction cs generalizing before after with
  | nil => simp [cutAt?] at h
  | cons c cs ih =>
    unfold cutAt? at h
    split at h
    · next hp =>
      obtain ⟨rfl, rfl⟩ := Prod.mk.inj (Option.some.inj h)
      obtain ⟨t, ht⟩ := List.isPrefixOf_iff_prefix.1 hp
      rw [← ht]
      simp
    · obtain ⟨⟨b, a⟩, hb, heq⟩ := Option.map_eq_some_iff.1 h
      obtain ⟨rfl, rfl⟩ := Prod.mk.inj heq
      simp [ih hb]

theorem cutAt?_cons {pattern cs : List Char} {c : Char} (h : ¬pattern <+: c :: cs) :
    cutAt? pattern (c :: cs) =
      (cutAt? pattern cs).map fun (before, after) => (c :: before, after) := by
  rw [cutAt?, if_neg (mt List.isPrefixOf_iff_prefix.1 h)]

theorem cutAt?_at_start {pattern cs : List Char} {c : Char} (h : pattern <+: c :: cs) :
    cutAt? pattern (c :: cs) = some ([], (c :: cs).drop pattern.length) := by
  rw [cutAt?, if_pos (List.isPrefixOf_iff_prefix.2 h)]

/-- The search finds a pattern wherever it occurs. -/
theorem cutAt?_eq_none_iff {pattern cs : List Char} (hne : pattern ≠ []) :
    cutAt? pattern cs = none ↔ ¬pattern <:+: cs := by
  induction cs with
  | nil => simp [cutAt?, hne]
  | cons c cs ih =>
    rw [List.infix_cons_iff, not_or, ← ih]
    by_cases hp : pattern <+: c :: cs
    · simp [cutAt?_at_start hp, hp]
    · simp [cutAt?_cons hp, hp]

/-- What follows the first occurrence of a pattern does not matter. -/
theorem cutAt?_append {pattern cs before after : List Char}
    (h : cutAt? pattern cs = some (before, after)) (rest : List Char) :
    cutAt? pattern (cs ++ rest) = some (before, after ++ rest) := by
  have hlength : pattern.length ≤ cs.length := by
    rw [eq_of_cutAt? h]
    simp only [List.length_append]
    omega
  induction cs generalizing before with
  | nil => cases h
  | cons c cs ih =>
    by_cases hp : pattern <+: c :: cs
    · rw [cutAt?_at_start hp] at h
      obtain ⟨rfl, rfl⟩ := Prod.mk.inj (Option.some.inj h)
      have hp' : pattern <+: c :: (cs ++ rest) := hp.trans (List.prefix_append (c :: cs) rest)
      rw [List.cons_append, cutAt?_at_start hp', ← List.cons_append,
        List.drop_append_of_le_length hlength]
    · have hp' : ¬pattern <+: c :: (cs ++ rest) := fun hp' =>
        hp (List.prefix_of_prefix_length_le hp' (List.prefix_append (c :: cs) rest) hlength)
      rw [cutAt?_cons hp] at h
      obtain ⟨⟨b, a⟩, hb, heq⟩ := Option.map_eq_some_iff.1 h
      obtain ⟨rfl, rfl⟩ := Prod.mk.inj heq
      have hlength' : pattern.length ≤ cs.length := by
        rw [eq_of_cutAt? hb]
        simp only [List.length_append]
        omega
      rw [List.cons_append, cutAt?_cons hp', ih hb hlength']
      rfl

/-- The search goes on behind a text without the pattern, up to a character that stands nowhere in
the pattern but at its start. -/
theorem cutAt?_append_cons {pattern head : List Char} {c : Char} (hc : c ∉ pattern.tail)
    (h : cutAt? pattern head = none) (rest : List Char) :
    cutAt? pattern (head ++ c :: rest) =
      (cutAt? pattern (c :: rest)).map fun (before, after) => (head ++ before, after) := by
  induction head with
  | nil => simp
  | cons d head ih =>
    have hp : ¬pattern <+: d :: head := fun hp => by
      rw [cutAt?_at_start hp] at h
      cases h
    rw [cutAt?_cons hp, Option.map_eq_none_iff] at h
    have hp' : ¬pattern <+: d :: (head ++ c :: rest) := by
      intro hp'
      rcases Nat.lt_or_ge (d :: head).length pattern.length with hlt | hle
      · -- an occurrence that starts here would take the character in
        have htaken : d :: (head ++ [c]) <+: d :: (head ++ c :: rest) := by simp
        obtain ⟨more, rfl⟩ := List.prefix_of_prefix_length_le htaken hp' <| by
          simp only [List.length_cons, List.length_append, List.length_nil] at hlt ⊢
          omega
        simp at hc
      · exact hp (List.prefix_of_prefix_length_le hp' (List.prefix_append (d :: head) _) hle)
    rw [List.cons_append, cutAt?_cons hp', ih h, Option.map_map]
    rfl

/-- The parts of a text between separators. There is always a first part. -/
def splitAt (separator : Char) : List Char → List (List Char)
  | [] => [[]]
  | c :: cs =>
    if c = separator then [] :: splitAt separator cs
    else
      match splitAt separator cs with
      | part :: parts => (c :: part) :: parts
      | [] => [[c]]

end UiPolicy.Text
