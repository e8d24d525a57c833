import UiPolicy.Text.Ranges

/-!
# Blank characters

The white space that is trimmed from the ends of a policy text: the Unicode property White_Space.
-/

namespace UiPolicy.Text

/-- The blank characters, in ascending order. -/
def blankRanges : List (Nat × Nat) :=
  [(9, 13), (32, 32), (133, 133), (160, 160), (5760, 5760), (8192, 8202), (8232, 8233),
    (8239, 8239), (8287, 8287), (12288, 12288)]

def isBlank (c : Char) : Bool :=
  inRanges blankRanges c

def trimStart (cs : List Char) : List Char :=
  cs.dropWhile isBlank

def trimEnd (cs : List Char) : List Char :=
  (cs.reverse.dropWhile isBlank).reverse

/-- A text without the blanks at its ends. -/
def trim (cs : List Char) : List Char :=
  trimEnd (trimStart cs)

/-- A text is the blanks in front of it, what trimming leaves of it, and the blanks behind. -/
theorem exists_blanks_behind (cs : List Char) :
    ∃ after, cs = cs.takeWhile isBlank ++ trim cs ++ after ∧ ∀ c ∈ after, isBlank c := by
  have hstart := List.takeWhile_append_dropWhile (p := isBlank) (l := cs)
  have hend := List.takeWhile_append_dropWhile (p := isBlank) (l := (trimStart cs).reverse)
  refine ⟨((trimStart cs).reverse.takeWhile isBlank).reverse, ?_, fun c hc => ?_⟩
  · have hsplit : trim cs ++ ((trimStart cs).reverse.takeWhile isBlank).reverse = trimStart cs := by
      rw [trim, trimEnd, ← List.reverse_append, hend, List.reverse_reverse]
    rw [List.append_assoc, hsplit]
    exact hstart.symm
  · exact List.all_eq_true.1 List.all_takeWhile c (List.mem_reverse.1 hc)

/-- A text is what trimming leaves of it, between blanks. -/
theorem exists_blanks (cs : List Char) :
    ∃ before after, cs = before ++ trim cs ++ after ∧ (∀ c ∈ before, isBlank c) ∧
      ∀ c ∈ after, isBlank c := by
  obtain ⟨after, heq, hafter⟩ := exists_blanks_behind cs
  exact ⟨cs.takeWhile isBlank, after, heq, List.all_eq_true.1 List.all_takeWhile, hafter⟩

/-- Trimming leaves nothing of a text exactly if all of it is blank. -/
theorem trim_eq_nil_iff {cs : List Char} : trim cs = [] ↔ ∀ c ∈ cs, isBlank c := by
  constructor
  · intro h c hc
    obtain ⟨before, after, heq, hbefore, hafter⟩ := exists_blanks cs
    rw [h, List.append_nil] at heq
    rw [heq] at hc
    exact (List.mem_append.1 hc).elim (hbefore c) (hafter c)
  · intro h
    rw [trim, trimStart, ← List.append_nil cs, List.dropWhile_append_of_pos h]
    rfl

/-- Trimming takes off no character that is not blank. -/
theorem count_trim {c : Char} (hc : ¬isBlank c) (cs : List Char) :
    (trim cs).count c = cs.count c := by
  obtain ⟨before, after, heq, hbefore, hafter⟩ := exists_blanks cs
  have hbefore' : c ∉ before := fun hmem => hc (hbefore c hmem)
  have hafter' : c ∉ after := fun hmem => hc (hafter c hmem)
  have hcount := congrArg (List.count c) heq
  rw [List.count_append, List.count_append, List.count_eq_zero.2 hbefore',
    List.count_eq_zero.2 hafter', Nat.zero_add, Nat.add_zero] at hcount
  exact hcount.symm

/-- Trimming takes off the blanks around a text that has none at its own ends. -/
theorem trim_append {before after : List Char} {first last : Char}
    (hbefore : ∀ c ∈ before, isBlank c) (hafter : ∀ c ∈ after, isBlank c)
    (hfirst : ¬isBlank first) (hlast : ¬isBlank last) (cs : List Char) :
    trim (before ++ (first :: cs ++ [last]) ++ after) = first :: cs ++ [last] := by
  have hstart : trimStart (before ++ (first :: cs ++ [last]) ++ after) =
      first :: cs ++ [last] ++ after := by
    rw [trimStart, List.append_assoc, List.dropWhile_append_of_pos hbefore]
    exact List.dropWhile_cons_of_neg hfirst
  have hend : (first :: cs ++ [last] ++ after).reverse =
      after.reverse ++ last :: (first :: cs).reverse := by simp
  have hafter' : ∀ c ∈ after.reverse, isBlank c := fun c hc => hafter c (List.mem_reverse.1 hc)
  rw [trim, hstart, trimEnd, hend, List.dropWhile_append_of_pos hafter',
    List.dropWhile_cons_of_neg hlast]
  simp

end UiPolicy.Text
