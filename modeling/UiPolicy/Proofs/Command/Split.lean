import UiPolicy.Command.Execute
import UiPolicy.Proofs.Arguments.Enclosed
import UiPolicy.Proofs.Text.Bytes

/-!
# The place that splitting reports

The command that splits an argument list strips it first, and reports the place of a stray bracket
in what is left. What was taken off in front, the `lead`, is not added.

* `exists_back`: the stripped text stands in the argument list right behind its lead.
* `StopsAt` is the place of the stray bracket in the argument list itself.
* `reported_behind_lead`: what is reported is this place less the size of the lead, so it is right
  exactly if there is no lead.
-/

namespace UiPolicy

namespace Arguments

/-- What stripping takes off in front of the text that it leaves. -/
def lead (arguments : String) : String :=
  String.ofList (arguments.toList.takeWhile Text.isBlank ++
    if (unwrap? (Text.trim arguments.toList)).isSome then ['('] else [])

/-- Whether the first stray bracket of a text stands right behind another text. -/
structure StopsBehind (text before : String) : Prop where
  exists_after : ∃ after, text = before ++ ")" ++ after
  noStray : NoStray 0 before.toList
  stray : ¬NoStray 0 (before.toList ++ [')'])

/-- Whether the byte at a place of an argument list is the bracket at which its splitting stops. -/
def StopsAt (arguments : String) (place : Nat) : Prop :=
  ∃ before, StopsBehind (strip arguments) before ∧
    place = (lead arguments ++ before).utf8ByteSize

/-! ## The lead -/

theorem exists_back (arguments : String) :
    ∃ back, arguments = lead arguments ++ strip arguments ++ back := by
  obtain ⟨after, heq, -⟩ := Text.exists_blanks_behind arguments.toList
  cases hunwrap : unwrap? (Text.trim arguments.toList) with
  | none =>
    refine ⟨String.ofList after, String.toList_inj.1 ?_⟩
    rw [lead, hunwrap, String.toList_append, String.toList_append, toList_strip, hunwrap]
    simpa using heq
  | some inner =>
    refine ⟨String.ofList (')' :: after), String.toList_inj.1 ?_⟩
    rw [lead, hunwrap, String.toList_append, String.toList_append, toList_strip, hunwrap]
    rw [unwrap?_eq_some_iff.1 hunwrap] at heq
    simpa using heq

/-- There is no lead exactly if the text starts with no blank and is not enclosed in brackets. -/
theorem lead_eq_empty_iff {arguments : String} :
    lead arguments = "" ↔
      (∀ c ∈ arguments.toList.head?, ¬Text.isBlank c) ∧
        ∀ inner, Text.trim arguments.toList ≠ '(' :: inner ++ [')'] := by
  have hblank : arguments.toList.takeWhile Text.isBlank = [] ↔
      ∀ c ∈ arguments.toList.head?, ¬Text.isBlank c := by
    cases arguments.toList with
    | nil => simp
    | cons c cs => cases hc : Text.isBlank c <;> simp [hc]
  have hwrap : unwrap? (Text.trim arguments.toList) = none ↔
      ∀ inner, Text.trim arguments.toList ≠ '(' :: inner ++ [')'] := by
    rw [Option.eq_none_iff_forall_ne_some]
    exact forall_congr' fun inner => not_congr unwrap?_eq_some_iff
  rw [← hblank, ← hwrap, lead, ← String.toList_inj, String.toList_ofList]
  cases unwrap? (Text.trim arguments.toList) <;> simp

/-! ## The place -/

theorem split_eq_unbalanced_iff {text : String} {place : Nat} {tokens : List String} :
    split text = .error (.unbalancedBrackets text place tokens) ↔
      ∃ before, StopsBehind text before ∧ split before = .ok tokens ∧
        place = before.utf8ByteSize := by
  rw [split_eq_error_iff]
  constructor
  · rintro ⟨before, after, found, heq, hnone, hstray, hsplit, herror⟩
    obtain ⟨-, rfl, rfl⟩ := PolicyError.unbalancedBrackets.inj herror
    exact ⟨before, ⟨⟨after, heq⟩, hnone, hstray⟩, hsplit, rfl⟩
  · rintro ⟨before, ⟨⟨after, heq⟩, hnone, hstray⟩, hsplit, rfl⟩
    exact ⟨before, after, tokens, heq, hnone, hstray, hsplit, rfl⟩

theorem splitLenient_eq_stray_iff {text : String} {place : Nat} {tokens : List String} :
    splitLenient text = (tokens, some place) ↔
      split text = .error (.unbalancedBrackets text place tokens) := by
  rw [splitLenient_eq]
  cases hsplit : split text with
  | ok found => simp
  | error e =>
    obtain ⟨before, after, found, -, -, -, -, rfl⟩ := split_eq_error_iff.1 hsplit
    simp [and_comm]

/-- A text stops at one place only. -/
theorem StopsBehind.size_eq {text before other : String} (h : StopsBehind text before)
    (hother : StopsBehind text other) : other.utf8ByteSize = before.utf8ByteSize := by
  have hsplit := split_eq_unbalanced_iff.2 ⟨before, h, split_of_noStray h.noStray, rfl⟩
  have hsplit' := split_eq_unbalanced_iff.2 ⟨other, hother, split_of_noStray hother.noStray, rfl⟩
  obtain ⟨-, hsize, -⟩ :=
    PolicyError.unbalancedBrackets.inj (Except.error.inj (hsplit'.symm.trans hsplit))
  exact hsize

theorem StopsBehind.stopsAt_iff {arguments before : String} {place : Nat}
    (h : StopsBehind (strip arguments) before) :
    StopsAt arguments place ↔
      place = (lead arguments).utf8ByteSize + before.utf8ByteSize := by
  constructor
  · rintro ⟨other, hother, rfl⟩
    rw [String.utf8ByteSize_append, h.size_eq hother]
  · rintro rfl
    exact ⟨before, h, (String.utf8ByteSize_append).symm⟩

end Arguments

namespace Arguments

/-- At the place where splitting stops there is a closing bracket. -/
theorem StopsAt.getElem?_bytes {arguments : String} {place : Nat} (h : StopsAt arguments place) :
    (Text.bytes arguments)[place]? = some ')'.toNat := by
  obtain ⟨before, ⟨⟨after, hafter⟩, -, -⟩, rfl⟩ := h
  obtain ⟨back, hback⟩ := exists_back arguments
  have heq : arguments = lead arguments ++ before ++ (")" ++ (after ++ back)) := by
    conv_lhs => rw [hback, hafter]
    simp [String.append_assoc]
  have hbytes : Text.bytes arguments =
      Text.bytes (lead arguments ++ before) ++ Text.bytes (")" ++ (after ++ back)) := by
    conv_lhs => rw [heq]
    exact Text.bytes_append _ _
  rw [hbytes, ← Text.length_bytes, List.getElem?_append_right (Nat.le_refl _), Nat.sub_self,
    Text.bytes_append]
  rfl

theorem tokens_eq_stray_iff {arguments : String} {tokens : List String} {place : Nat} :
    Workspace.tokens arguments = (tokens, some place) ↔
      ∃ before, StopsBehind (strip arguments) before ∧ split before = .ok tokens ∧
        place = before.utf8ByteSize :=
  splitLenient_eq_stray_iff.trans split_eq_unbalanced_iff

/-- Both reports show the tokens and the place. -/
theorem split_eq_report (arguments : String) {tokens : List String} {stray : Option Nat}
    (h : Workspace.tokens arguments = (tokens, stray)) :
    Workspace.split arguments "text" = .ok (Report.tokensText tokens stray) ∧
      Workspace.split arguments "json" = .ok (Report.tokensJson tokens stray) := by
  unfold Workspace.split
  rw [h]
  exact ⟨rfl, rfl⟩

/-- **The place that is reported counts from behind the lead.** Splitting reports a stray bracket
exactly if the stripped text has one, with the number of bytes and the arguments of what stands
before it there. In the argument list itself the bracket stands further behind, by the size of what
was taken off in front. So the reported place is the place of the bracket exactly if the list starts
with no blank and is not enclosed in brackets. -/
theorem reported_behind_lead (arguments : String) :
    (∀ tokens stray, Workspace.tokens arguments = (tokens, stray) →
      Workspace.split arguments "text" = .ok (Report.tokensText tokens stray) ∧
        Workspace.split arguments "json" = .ok (Report.tokensJson tokens stray)) ∧
    (∃ back, arguments = lead arguments ++ strip arguments ++ back) ∧
    (lead arguments = "" ↔
      (∀ c ∈ arguments.toList.head?, ¬Text.isBlank c) ∧
        ∀ inner, Text.trim arguments.toList ≠ '(' :: inner ++ [')']) ∧
    (∀ tokens place, Workspace.tokens arguments = (tokens, some place) ↔
      ∃ before, StopsBehind (strip arguments) before ∧ split before = .ok tokens ∧
        place = before.utf8ByteSize) ∧
    ∀ tokens place, Workspace.tokens arguments = (tokens, some place) →
      (∀ actual, StopsAt arguments actual ↔ actual = (lead arguments).utf8ByteSize + place) ∧
      (Text.bytes arguments)[(lead arguments).utf8ByteSize + place]? = some ')'.toNat ∧
      (StopsAt arguments place ↔ lead arguments = "") := by
  refine ⟨fun _ _ => split_eq_report arguments, exists_back arguments, lead_eq_empty_iff,
    fun _ _ => tokens_eq_stray_iff, ?_⟩
  intro tokens place h
  obtain ⟨before, hbefore, -, rfl⟩ := tokens_eq_stray_iff.1 h
  have hstops : ∀ actual, StopsAt arguments actual ↔
      actual = (lead arguments).utf8ByteSize + before.utf8ByteSize :=
    fun actual => hbefore.stopsAt_iff
  refine ⟨hstops, ((hstops _).2 rfl).getElem?_bytes, ?_⟩
  rw [hstops, ← String.utf8ByteSize_eq_zero_iff]
  omega

/-- A list with a blank and brackets around it, and one with nothing in front. -/
theorem reported_behind_lead_wrapped :
    (Workspace.tokens " (x,é)y) " = (["x", "é"], some 4) ∧
      (∀ actual, StopsAt " (x,é)y) " actual ↔ actual = 6)) ∧
    Workspace.tokens "a,b),c" = (["a", "b"], some 3) ∧ StopsAt "a,b),c" 3 := by
  have hwrapped : Workspace.tokens " (x,é)y) " = (["x", "é"], some 4) := by decide +kernel
  have hbare : Workspace.tokens "a,b),c" = (["a", "b"], some 3) := by decide +kernel
  have hlead : (lead " (x,é)y) ").utf8ByteSize = 2 := by decide +kernel
  have hnone : lead "a,b),c" = "" := by decide +kernel
  obtain ⟨-, -, -, -, hreported⟩ := reported_behind_lead " (x,é)y) "
  obtain ⟨-, -, -, -, hreported'⟩ := reported_behind_lead "a,b),c"
  have hactual := (hreported _ _ hwrapped).1
  rw [hlead] at hactual
  exact ⟨⟨hwrapped, hactual⟩, hbare, (hreported' _ _ hbare).2.2.2 hnone⟩

/-- The reported place need not be that of a bracket: here it is the second byte of another
character, right before the bracket. -/
theorem reported_place_is_no_bracket :
    Workspace.tokens " é)y" = (["é"], some 2) ∧
    Workspace.split " é)y" "json" = .ok (Report.tokensJson ["é"] (some 2)) ∧
    (Text.bytes " é)y")[2]? = some 0xa9 ∧ ¬StopsAt " é)y" 2 ∧ StopsAt " é)y" 3 := by
  have htokens : Workspace.tokens " é)y" = (["é"], some 2) := by decide +kernel
  have hlead : (lead " é)y").utf8ByteSize = 1 := by decide +kernel
  have hbyte : (Text.bytes " é)y")[2]? = some 0xa9 := by decide +kernel
  obtain ⟨before, hbefore, -, hsize⟩ := tokens_eq_stray_iff.1 htokens
  have hstops : ∀ actual, StopsAt " é)y" actual ↔ actual = 3 := by
    intro actual
    rw [hbefore.stopsAt_iff, hlead, ← hsize]
  refine ⟨htokens, (split_eq_report _ htokens).2, hbyte, ?_, (hstops 3).2 rfl⟩
  rw [hstops]
  decide

end Arguments

end UiPolicy
