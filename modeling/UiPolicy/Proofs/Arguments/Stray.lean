import Mathlib.Data.String.Basic
import UiPolicy.Proofs.Arguments

/-!
# Where splitting stops

Splitting fails at the first bracket that closes more than was opened. What it reports is fixed by
the text before this bracket: the place is the number of its bytes, and the tokens are its
arguments. Whatever follows the bracket is not looked at.

* `stray_scan_eq_none_iff`: a scan runs to the end exactly if the text closes no bracket that was
  not opened. If it does, there is a first one (`exists_stray`).
* `scan_append_stray`: the scan of a text up to its first stray bracket.
* `split_stops_at_stray`: what this comes to for `split` and `splitLenient`.
-/

namespace UiPolicy.Arguments

/-! ## The first stray bracket -/

theorem enter?_eq_none_iff {depth : Nat} {c : Char} :
    enter? depth c = none ↔ c = ')' ∧ depth = 0 := by
  unfold enter?
  split
  · next hc => simp [hc]
  · split
    · next hc => cases depth <;> simp [hc]
    · next hc => simp [hc]

theorem noStray_nil (depth : Nat) : NoStray depth [] := by
  simp [NoStray]

/-- After a text that closes all that is open, one more bracket is too many. -/
theorem not_noStray_of_closes {depth : Nat} {before : List Char} (h : Closes depth before)
    (after : List Char) : ¬NoStray depth (before ++ ')' :: after) := by
  intro hstray
  have hle := hstray (before ++ [')']) (by simp)
  unfold Closes at h
  rw [List.count_append, List.count_append, h] at hle
  simp at hle

/-- Where a text closes a bracket that was not opened, there is a first such place. -/
theorem exists_stray {depth : Nat} {cs : List Char} (h : ¬NoStray depth cs) :
    ∃ before after, cs = before ++ ')' :: after ∧ NoStray depth before ∧ Closes depth before := by
  induction cs generalizing depth with
  | nil => exact absurd (noStray_nil depth) h
  | cons c cs ih =>
    cases henter : enter? depth c with
    | none =>
      obtain ⟨rfl, rfl⟩ := enter?_eq_none_iff.1 henter
      exact ⟨[], cs, rfl, noStray_nil 0, rfl⟩
    | some d =>
      rw [noStray_cons henter] at h
      obtain ⟨before, after, rfl, hstray, hcloses⟩ := ih h
      exact ⟨c :: before, after, rfl, (noStray_cons henter).2 hstray,
        (closes_cons henter).2 hcloses⟩

/-- A text closes all that it opens if it has no stray bracket and a bracket after it would be
one. -/
theorem closes_of_not_noStray_append {depth : Nat} {before : List Char} (h : NoStray depth before)
    (hlast : ¬NoStray depth (before ++ [')'])) : Closes depth before := by
  obtain ⟨first, after, heq, hstray, hcloses⟩ := exists_stray hlast
  rcases List.eq_nil_or_concat after with rfl | ⟨more, c, rfl⟩
  · obtain ⟨rfl, -⟩ := List.append_inj' heq rfl
    exact hcloses
  · -- the first stray bracket would stand in the text itself
    have hbefore : before = first ++ ')' :: more := by
      have hsplit : before ++ [')'] = (first ++ ')' :: more) ++ [c] := by
        rw [heq]
        simp
      exact (List.append_inj' hsplit rfl).1
    rw [hbefore] at h
    exact absurd h (not_noStray_of_closes hcloses more)

/-! ## The scan -/

/-- The scan of a text up to its first stray bracket is the scan of what stands before. -/
theorem scan_append_stray {depth : Nat} {before : List Char} (hstray : NoStray depth before)
    (hcloses : Closes depth before) (after : List Char) :
    scan depth (before ++ ')' :: after) =
      { scan depth before with stray := some (String.ofList before).utf8ByteSize } := by
  induction before generalizing depth with
  | nil =>
    have hdepth : depth = 0 := by simpa [Closes] using hcloses.symm
    subst hdepth
    rfl
  | cons c before ih =>
    cases henter : enter? depth c with
    | none => exact absurd hstray (not_noStray_cons henter)
    | some d =>
      have hscan := ih ((noStray_cons henter).1 hstray) ((closes_cons henter).1 hcloses)
      have hsize : (String.ofList (c :: before)).utf8ByteSize =
          (String.ofList before).utf8ByteSize + c.utf8Size := by
        rw [String.utf8ByteSize_ofList, String.utf8ByteSize_ofList, String.utf8Len_cons]
      rw [List.cons_append, scan_cons, scan_cons, hsize]
      by_cases hcut : c = ',' ∧ depth = 0
      · obtain ⟨rfl, rfl⟩ := hcut
        obtain rfl : 0 = d := Option.some.inj henter
        simp only [hscan, and_self, if_true]
        rfl
      · simp only [if_neg hcut, henter, hscan]
        rfl

/-- A scan runs to the end exactly if no bracket is closed that was not opened. -/
theorem stray_scan_eq_none_iff {depth : Nat} {cs : List Char} :
    (scan depth cs).stray = none ↔ NoStray depth cs := by
  constructor
  · intro hnone
    by_contra h
    obtain ⟨before, after, rfl, hstray, hcloses⟩ := exists_stray h
    rw [scan_append_stray hstray hcloses after] at hnone
    cases hnone
  · intro h
    induction cs generalizing depth with
    | nil => rfl
    | cons c cs ih =>
      rw [scan_cons]
      cases henter : enter? depth c with
      | none => exact absurd h (not_noStray_cons henter)
      | some d =>
        have htail := (noStray_cons henter).1 h
        split
        · next hcut =>
          obtain ⟨rfl, rfl⟩ := hcut
          obtain rfl : 0 = d := Option.some.inj henter
          exact Option.map_eq_none_iff.2 (ih htail)
        · exact Option.map_eq_none_iff.2 (ih htail)

/-! ## Splitting -/

theorem split_of_noStray {text : String} (h : NoStray 0 text.toList) :
    split text = .ok (scan 0 text.toList).texts := by
  unfold split
  simp only [stray_scan_eq_none_iff.2 h]

/-- Splitting fails at the first stray bracket, with the size and the arguments of the text before
it. -/
theorem split_append_stray {before : String} (hstray : NoStray 0 before.toList)
    (hcloses : Closes 0 before.toList) (after : String) :
    split (before ++ ")" ++ after) = .error (.unbalancedBrackets (before ++ ")" ++ after)
      before.utf8ByteSize (scan 0 before.toList).texts) := by
  have htext : (before ++ ")" ++ after).toList = before.toList ++ ')' :: after.toList := by simp
  unfold split
  rw [htext, scan_append_stray hstray hcloses after.toList, String.ofList_toList]
  rfl

theorem exists_stray_text {text : String} (h : ¬NoStray 0 text.toList) :
    ∃ before after : String, text = before ++ ")" ++ after ∧ NoStray 0 before.toList ∧
      Closes 0 before.toList := by
  obtain ⟨before, after, heq, hstray, hcloses⟩ := exists_stray h
  refine ⟨String.ofList before, String.ofList after, ?_, ?_, ?_⟩
  · rw [← String.toList_inj, heq]
    simp
  · rwa [String.toList_ofList]
  · rwa [String.toList_ofList]

theorem exists_error_iff {text : String} :
    (∃ e, split text = .error e) ↔ ¬NoStray 0 text.toList := by
  constructor
  · rintro ⟨e, he⟩ h
    rw [split_of_noStray h] at he
    cases he
  · intro h
    obtain ⟨before, after, rfl, hstray, hcloses⟩ := exists_stray_text h
    exact ⟨_, split_append_stray hstray hcloses after⟩

theorem not_noStray_iff {cs : List Char} :
    ¬NoStray 0 cs ↔ ∃ p, p <+: cs ∧ p.count '(' < p.count ')' := by
  simp [NoStray]

theorem split_eq_error_iff {text : String} {e : PolicyError} :
    split text = .error e ↔
      ∃ before after tokens, text = before ++ ")" ++ after ∧ NoStray 0 before.toList ∧
        ¬NoStray 0 (before.toList ++ [')']) ∧ split before = .ok tokens ∧
        e = .unbalancedBrackets text before.utf8ByteSize tokens := by
  constructor
  · intro he
    obtain ⟨before, after, rfl, hstray, hcloses⟩ := exists_stray_text (exists_error_iff.1 ⟨e, he⟩)
    rw [split_append_stray hstray hcloses after] at he
    exact ⟨before, after, _, rfl, hstray, not_noStray_of_closes hcloses [], split_of_noStray hstray,
      (Except.error.inj he).symm⟩
  · rintro ⟨before, after, tokens, rfl, hstray, hlast, hsplit, rfl⟩
    rw [split_of_noStray hstray] at hsplit
    obtain rfl := Except.ok.inj hsplit
    exact split_append_stray hstray (closes_of_not_noStray_append hstray hlast) after

/-- The lenient splitting gives the tokens of the strict one, whether that fails or not. No failure
is left for the last case. -/
theorem splitLenient_eq (text : String) :
    splitLenient text =
      match split text with
      | .ok tokens => (tokens, none)
      | .error (.unbalancedBrackets _ position tokens) => (tokens, some position)
      | .error _ => ([text], none) := by
  unfold split splitLenient
  cases hstray : (scan 0 text.toList).stray <;> simp only [hstray]

/-- **Splitting stops at the first stray bracket.** It fails exactly if some prefix of the text
closes more brackets than it opens. Then it reports the text, the number of bytes before the first
bracket that closes more than was opened, and the arguments of the text before this bracket,
whatever follows. The lenient splitting gives the same tokens, and at least one. -/
theorem split_stops_at_stray (text : String) :
    ((∃ e, split text = .error e) ↔ ∃ p, p <+: text.toList ∧ p.count '(' < p.count ')') ∧
    (∀ e, split text = .error e ↔
      ∃ before after tokens, text = before ++ ")" ++ after ∧ NoStray 0 before.toList ∧
        ¬NoStray 0 (before.toList ++ [')']) ∧ split before = .ok tokens ∧
        e = .unbalancedBrackets text before.utf8ByteSize tokens) ∧
    (splitLenient text =
      match split text with
      | .ok tokens => (tokens, none)
      | .error (.unbalancedBrackets _ position tokens) => (tokens, some position)
      | .error _ => ([text], none)) ∧
    (splitLenient text).1 ≠ [] := by
  refine ⟨exists_error_iff.trans not_noStray_iff, fun e => split_eq_error_iff, splitLenient_eq text,
    ?_⟩
  exact List.cons_ne_nil _ _

/-- The place is counted in bytes, and what follows the bracket is left out. -/
example : split "é,f(b)),c" = .error (.unbalancedBrackets "é,f(b)),c" 7 ["é", "f(b)"]) := by cbv

end UiPolicy.Arguments
