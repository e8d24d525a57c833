import UiPolicy.Engine.Interpret
import UiPolicy.Proofs.Arguments.Stray

/-!
# Brackets around the arguments

Stripping looks at the two ends of a text only. It takes brackets off there whatever stands between
them, also where the last one does not close the first, as in `(a),(b)`.

* `Enclosed` and `Mismatched`: whether brackets at the ends of a text belong together, or not.
* `strip_cases`: what stripping takes off.
* `noStray_append`: the brackets of a text told from those of its parts.
* `strip_matched_iff`: stripping takes off none but a matched pair, and keeps a balanced text
  balanced, exactly if the brackets at its ends are not mismatched. Then a policy gets all of its
  arguments, and otherwise only those before a stray bracket.
-/

namespace UiPolicy.Arguments

/-! ## The brackets of a text and of its parts -/

/-- A text has no stray bracket if neither of its parts has one, the second behind what the first
leaves open. -/
theorem noStray_append {depth : Nat} {xs ys : List Char} :
    NoStray depth (xs ++ ys) ↔
      NoStray depth xs ∧ NoStray (depth + xs.count '(' - xs.count ')') ys := by
  induction xs generalizing depth with
  | nil => simp [noStray_nil]
  | cons c xs ih =>
    cases henter : enter? depth c with
    | none => simp [not_noStray_cons henter]
    | some d =>
      have hopen : depth + (c :: xs).count '(' - (c :: xs).count ')' =
          d + xs.count '(' - xs.count ')' := by
        have := count_cons henter xs
        omega
      rw [List.cons_append, noStray_cons henter, noStray_cons henter, ih, hopen]

theorem noStray_of_not_mem {cs : List Char} (h : ')' ∉ cs) (depth : Nat) : NoStray depth cs := by
  intro p hp
  have hnone : ')' ∉ p := fun hmem => h (((List.mem_inits p cs).1 hp).subset hmem)
  rw [List.count_eq_zero.2 hnone]
  exact Nat.zero_le _

theorem noStray_trim {cs : List Char} : NoStray 0 (Text.trim cs) ↔ NoStray 0 cs := by
  obtain ⟨before, after, heq, hbefore, hafter⟩ := Text.exists_blanks cs
  -- a bracket is no blank, so nothing is opened or closed around the trimmed text
  have hopen : '(' ∉ before := fun hmem => absurd (hbefore _ hmem) (by decide)
  have hclose : ')' ∉ before := fun hmem => absurd (hbefore _ hmem) (by decide)
  have hclose' : ')' ∉ after := fun hmem => absurd (hafter _ hmem) (by decide)
  conv_rhs => rw [heq]
  rw [noStray_append, noStray_append, List.count_eq_zero.2 hopen, List.count_eq_zero.2 hclose]
  simp only [noStray_of_not_mem hclose, noStray_of_not_mem hclose', true_and, and_true]

theorem balanced_trim {cs : List Char} : Balanced (Text.trim cs) ↔ Balanced cs := by
  refine and_congr noStray_trim ?_
  rw [Closes, Closes, Text.count_trim (by decide), Text.count_trim (by decide)]

/-! ## Brackets at the ends -/

/-- Whether the brackets at the ends of a text belong together: the last one closes the first. -/
def Enclosed (cs : List Char) : Prop :=
  ∃ inner, cs = '(' :: inner ++ [')'] ∧ Balanced inner

/-- Whether a text has brackets at its ends that do not belong together. -/
def Mismatched (cs : List Char) : Prop :=
  ∃ inner, cs = '(' :: inner ++ [')'] ∧ ¬Balanced inner

theorem enclosed_wrap {cs : List Char} : Enclosed ('(' :: cs ++ [')']) ↔ Balanced cs := by
  simp [Enclosed]

theorem mismatched_wrap {cs : List Char} : Mismatched ('(' :: cs ++ [')']) ↔ ¬Balanced cs := by
  simp [Mismatched]

/-- Between the brackets at the ends of a balanced text as many are closed as opened. -/
theorem closes_of_balanced_wrap {cs : List Char} (h : Balanced ('(' :: cs ++ [')'])) :
    Closes 0 cs := by
  have hcloses := h.2
  simp only [Closes, List.count_append, List.count_cons] at hcloses ⊢
  simp at hcloses
  omega

/-! ## Stripping -/

theorem unwrap?_eq_some_iff {cs inner : List Char} :
    unwrap? cs = some inner ↔ cs = '(' :: inner ++ [')'] := by
  unfold unwrap?
  split
  · next rest =>
    rcases List.eq_nil_or_concat rest with rfl | ⟨front, last, rfl⟩
    · simp
    · by_cases hlast : last = ')'
      · simp [hlast]
      · simp [hlast]
  · next hne =>
    simp only [reduceCtorEq, false_iff]
    intro h
    exact hne _ h

theorem toList_strip (text : String) :
    (strip text).toList = (unwrap? (Text.trim text.toList)).getD (Text.trim text.toList) := by
  unfold strip
  rw [String.toList_ofList]

/-- Stripping takes a bracket off at each end of the trimmed text, whatever stands between them, or
nothing if they are not both there. -/
theorem strip_cases (text : String) :
    Text.trim text.toList = '(' :: (strip text).toList ++ [')'] ∨
      (∀ inner, Text.trim text.toList ≠ '(' :: inner ++ [')']) ∧
        (strip text).toList = Text.trim text.toList := by
  rw [toList_strip]
  cases h : unwrap? (Text.trim text.toList) with
  | some inner => exact .inl (unwrap?_eq_some_iff.1 h)
  | none =>
    refine .inr ⟨fun inner heq => ?_, rfl⟩
    cases h.symm.trans (unwrap?_eq_some_iff.2 heq)

theorem not_mismatched_iff {text : String}
    (h : Text.trim text.toList = '(' :: (strip text).toList ++ [')']) :
    ¬Mismatched (Text.trim text.toList) ↔ Balanced (strip text).toList := by
  rw [h, mismatched_wrap, not_not]

theorem strip_ne_trim {text : String}
    (h : Text.trim text.toList = '(' :: (strip text).toList ++ [')']) :
    (strip text).toList ≠ Text.trim text.toList := by
  intro heq
  have hlength := congrArg List.length (heq.trans h)
  simp only [List.length_append, List.length_cons] at hlength
  omega

theorem strip_ne_trim_imp_iff (text : String) :
    ((strip text).toList ≠ Text.trim text.toList → Enclosed (Text.trim text.toList)) ↔
      ¬Mismatched (Text.trim text.toList) := by
  obtain hwrap | ⟨hbare, hsame⟩ := strip_cases text
  · rw [not_mismatched_iff hwrap]
    have henclosed : Enclosed (Text.trim text.toList) ↔ Balanced (strip text).toList := by
      rw [hwrap, enclosed_wrap]
    rw [henclosed]
    exact ⟨fun himp => himp (strip_ne_trim hwrap), fun hbalanced _ => hbalanced⟩
  · constructor
    · rintro - ⟨inner, heq, -⟩
      exact hbare inner heq
    · intro _ hne
      exact absurd hsame hne

section Balanced

variable {text : String} (h : Balanced text.toList)
include h

theorem balanced_strip_iff :
    Balanced (strip text).toList ↔ ¬Mismatched (Text.trim text.toList) := by
  obtain hwrap | ⟨hbare, hsame⟩ := strip_cases text
  · exact (not_mismatched_iff hwrap).symm
  · rw [hsame, balanced_trim]
    refine iff_of_true h ?_
    rintro ⟨inner, heq, -⟩
    exact hbare inner heq

/-- What is left of a balanced text is balanced or has a stray bracket. -/
theorem noStray_strip_iff : NoStray 0 (strip text).toList ↔ Balanced (strip text).toList := by
  refine ⟨fun hstray => ⟨hstray, ?_⟩, fun hbalanced => hbalanced.1⟩
  have htrim : Balanced (Text.trim text.toList) := balanced_trim.2 h
  obtain hwrap | ⟨-, hsame⟩ := strip_cases text
  · rw [hwrap] at htrim
    exact closes_of_balanced_wrap htrim
  · rw [hsame]
    exact htrim.2

end Balanced

/-! ## The arguments of a policy -/

theorem joinArguments_of_split {text : String} {tokens : List String}
    (h : split text = .ok tokens) : joinArguments tokens = text := by
  obtain ⟨hstray, htokens⟩ := split_eq_ok_iff_scan.1 h
  cases tokens with
  | nil => cases htokens
  | cons token tokens =>
    refine intercalate_eq_iff.2 ?_
    have hjoin := intercalate_tokens_scan hstray
    rwa [htokens] at hjoin

theorem exists_unbalanced {text : String} (h : ¬NoStray 0 text.toList) :
    ∃ position tokens, split text = .error (.unbalancedBrackets text position tokens) := by
  obtain ⟨before, after, rfl, hstray, hcloses⟩ := exists_stray_text h
  exact ⟨_, _, split_append_stray hstray hcloses after⟩

theorem policyArguments_eq (text : String) :
    policyArguments text =
      match split (strip text) with
      | .ok tokens => ⟨tokens, []⟩
      | .error (.unbalancedBrackets _ position tokens) =>
        ⟨tokens, [.strayBracket (strip text) position]⟩
      | .error _ => ⟨[strip text], []⟩ := by
  unfold policyArguments
  simp only [splitLenient_eq]
  rcases split (strip text) with e | tokens
  · cases e <;> rfl
  · rfl

theorem value_policyArguments (text : String) :
    (policyArguments text).value = (splitLenient (strip text)).1 := by
  unfold policyArguments
  simp only
  split
  · next heq => rw [heq]
  · next heq => rw [heq]

/-- **Stripping keeps a text balanced, or its brackets are mismatched.** A bracket at each end of
the trimmed text is taken off, or nothing. It is never more than a matched pair exactly if the
brackets at the ends are not mismatched. If the text is balanced, then under the same condition it
stays balanced, and a policy gets all that stands in the stripped text as its arguments. Where they
are mismatched, a stray bracket stops the arguments. -/
theorem strip_matched_iff (text : String) :
    let trimmed := Text.trim text.toList
    (trimmed = '(' :: (strip text).toList ++ [')'] ∨ trimmed = (strip text).toList) ∧
    (((strip text).toList ≠ trimmed → Enclosed trimmed) ↔ ¬Mismatched trimmed) ∧
    (Balanced text.toList →
      (Balanced (strip text).toList ↔ ¬Mismatched trimmed) ∧
      (¬Mismatched trimmed → ∃ tokens, split (strip text) = .ok tokens ∧
        joinArguments tokens = strip text ∧ policyArguments text = ⟨tokens, []⟩) ∧
      (Mismatched trimmed → ∃ position tokens,
        split (strip text) = .error (.unbalancedBrackets (strip text) position tokens) ∧
        policyArguments text = ⟨tokens, [.strayBracket (strip text) position]⟩)) := by
  intro trimmed
  refine ⟨?_, strip_ne_trim_imp_iff text, fun h => ⟨balanced_strip_iff h, fun hmatched => ?_,
    fun hmismatched => ?_⟩⟩
  · obtain hwrap | ⟨-, hsame⟩ := strip_cases text
    · exact .inl hwrap
    · exact .inr hsame.symm
  · have hstray := (noStray_strip_iff h).2 ((balanced_strip_iff h).2 hmatched)
    have hsplit := split_of_noStray hstray
    refine ⟨_, hsplit, joinArguments_of_split hsplit, ?_⟩
    rw [policyArguments_eq, hsplit]
  · -- as many brackets are closed as opened, so what is not balanced has a stray one
    have hstray : ¬NoStray 0 (strip text).toList := fun hstray =>
      (balanced_strip_iff h).1 ((noStray_strip_iff h).1 hstray) hmismatched
    obtain ⟨position, tokens, hsplit⟩ := exists_unbalanced hstray
    refine ⟨position, tokens, hsplit, ?_⟩
    rw [policyArguments_eq, hsplit]

/-- A pair that is taken off, and two pairs of which each loses a bracket. -/
theorem strip_matched_iff_pairs :
    (¬Mismatched (Text.trim " (f(a),b) ".toList) ∧ Balanced (strip " (f(a),b) ").toList) ∧
    Mismatched (Text.trim "(a),(b)".toList) ∧
      ∃ position tokens, policyArguments "(a),(b)" =
        ⟨tokens, [.strayBracket (strip "(a),(b)") position]⟩ := by
  have htrim : Text.trim " (f(a),b) ".toList = '(' :: "f(a),b".toList ++ [')'] := by decide
  have htrim' : Text.trim "(a),(b)".toList = '(' :: "a),(b".toList ++ [')'] := by decide
  have hmatched : ¬Mismatched (Text.trim " (f(a),b) ".toList) := by
    rw [htrim, mismatched_wrap, not_not]
    decide
  have hmismatched : Mismatched (Text.trim "(a),(b)".toList) := by
    rw [htrim', mismatched_wrap]
    decide
  obtain ⟨-, -, hpair⟩ := strip_matched_iff " (f(a),b) "
  obtain ⟨-, -, hpairs⟩ := strip_matched_iff "(a),(b)"
  obtain ⟨hiff, -, -⟩ := hpair (by decide)
  obtain ⟨-, -, hstray⟩ := hpairs (by decide)
  obtain ⟨position, tokens, -, hargs⟩ := hstray hmismatched
  exact ⟨⟨hmatched, hiff.2 hmatched⟩, hmismatched, position, tokens, hargs⟩

/-- Brackets that do not belong together are taken off: the text was balanced and no longer is, and
the policy loses its second argument. -/
theorem stripping_breaks_pairs :
    Balanced "(a),(b)".toList ∧ ¬Enclosed "(a),(b)".toList ∧ strip "(a),(b)" = "a),(b" ∧
    split (strip "(a),(b)") = .error (.unbalancedBrackets "a),(b" 1 ["a"]) ∧
    (policyArguments "(a),(b)").value = ["a"] := by
  have henclosed : ¬Enclosed "(a),(b)".toList := by
    have hwrap : "(a),(b)".toList = '(' :: "a),(b".toList ++ [')'] := by decide
    rw [hwrap, enclosed_wrap]
    decide
  have hstrip : strip "(a),(b)" = "a),(b" := by decide +kernel
  have hsplit : split (strip "(a),(b)") = .error (.unbalancedBrackets "a),(b" 1 ["a"]) := by
    rw [hstrip]
    decide +kernel
  have hargs : (policyArguments "(a),(b)").value = ["a"] := by
    rw [policyArguments_eq, hsplit]
  exact ⟨by decide, henclosed, hstrip, hsplit, hargs⟩

end UiPolicy.Arguments
