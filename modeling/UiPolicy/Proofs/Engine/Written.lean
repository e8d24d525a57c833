import UiPolicy.Proofs.Engine.Typed
import UiPolicy.Proofs.Engine.Update

/-!
# Arguments that are written as a policy text

Arguments joined with commas and put into brackets are read back as they were, whatever blanks stand
around the brackets. All but the last have to be arguments (`IsArgument`). The last one takes in all
commas that follow, so it only must not close a bracket that it does not open.

* `strip_wrap` and `split_append_comma`: reading undoes what writing does.
* `written_arguments_recovered`: an update and a context policy write what was written into them.
-/

namespace UiPolicy

namespace Arguments

/-- Whether a text may stand before a comma as an argument. -/
def IsArgument (t : String) : Prop :=
  Balanced t.toList ∧ Whole 0 t.toList

instance (t : String) : Decidable (IsArgument t) :=
  inferInstanceAs (Decidable (Balanced t.toList ∧ Whole 0 t.toList))

theorem strip_wrap {before after : String} (hbefore : ∀ c ∈ before.toList, Text.isBlank c)
    (hafter : ∀ c ∈ after.toList, Text.isBlank c) (inner : String) :
    strip (before ++ "(" ++ inner ++ ")" ++ after) = inner := by
  have htext : (before ++ "(" ++ inner ++ ")" ++ after).toList =
      before.toList ++ ('(' :: inner.toList ++ [')']) ++ after.toList := by simp
  have htrim : Text.trim (before.toList ++ ('(' :: inner.toList ++ [')']) ++ after.toList) =
      '(' :: inner.toList ++ [')'] :=
    Text.trim_append hbefore hafter (by decide) (by decide) inner.toList
  rw [← htext] at htrim
  obtain hwrap | ⟨hbare, -⟩ := strip_cases (before ++ "(" ++ inner ++ ")" ++ after)
  · rw [htrim] at hwrap
    exact String.toList_inj.1 (by simpa using hwrap.symm)
  · exact absurd htrim (hbare inner.toList)

theorem split_append_comma {t text : String} {tokens : List String} (ht : IsArgument t)
    (h : split text = .ok tokens) : split (t ++ "," ++ text) = .ok (t :: tokens) := by
  rw [split_eq_ok_iff_scan] at h ⊢
  obtain ⟨hstray, htokens⟩ := h
  have hfits : Fits 0 t.toList (scan 0 text.toList).tokens :=
    ⟨ht.1, ht.2, fits_scan 0 text.toList⟩
  have hjoin : (t ++ "," ++ text).toList =
      [','].intercalate (t.toList :: (scan 0 text.toList).tokens) := by
    rw [Scan.tokens, List.intercalate_cons_cons, ← Scan.tokens, intercalate_tokens_scan hstray]
    simp
  rw [hjoin, scan_intercalate hfits]
  exact ⟨rfl, congrArg (t.toList :: ·) htokens⟩

theorem exists_split {text : String} (h : NoStray 0 text.toList) :
    ∃ first more, split text = .ok (first :: more) ∧ joinArguments (first :: more) = text :=
  ⟨_, _, split_of_noStray h, joinArguments_of_split (split_of_noStray h)⟩

theorem policyArguments_wrap {before inner after : String} {tokens : List String}
    (hbefore : ∀ c ∈ before.toList, Text.isBlank c) (hafter : ∀ c ∈ after.toList, Text.isBlank c)
    (h : split inner = .ok tokens) :
    policyArguments (before ++ "(" ++ inner ++ ")" ++ after) = ⟨tokens, []⟩ := by
  rw [policyArguments_eq, strip_wrap hbefore hafter, h]

end Arguments

open Arguments (IsArgument NoStray)

theorem withLiveValue_none (value : String) : withLiveValue value none = some value := by
  unfold withLiveValue
  cases Text.cutAt? liveValueMarker value.toList <;> rfl

/-- **Written arguments are recovered.** Let an id and a key be arguments, and a value close no
bracket too many. The update that names the three in brackets, with any blanks around, succeeds on a
registered element and writes this key and this value into its attributes, whatever commas the value
has. The context policy that names the key and the value writes this value under this key and
changes nothing else, if there is no live value or the value has no place for it. -/
theorem written_arguments_recovered {id key value before after : String}
    (hid : IsArgument id) (hkey : IsArgument key) (hvalue : NoStray 0 value.toList)
    (hbefore : ∀ c ∈ before.toList, Text.isBlank c) (hafter : ∀ c ∈ after.toList, Text.isBlank c)
    (setup : Setup) (s : Situation) (action : Action) :
    (∀ e, s.state.elements.get? id = some e →
      let text := before ++ "(" ++ id ++ "," ++ key ++ "," ++ value ++ ")" ++ after
      let o := (interpret setup s ⟨action, .update, text⟩).value
      let a : Attribute := ⟨id, key, value⟩
      o.result = .ok () ∧ ∀ other, o.after.state.elements.get? other =
        if other = id then some { e with attributes := a.upsert e.attributes }
        else s.state.elements.get? other) ∧
    (s.event.bind (·.value) = none ∨ ¬liveValueMarker <:+: value.toList →
      let text := before ++ "(" ++ key ++ "," ++ value ++ ")" ++ after
      let o := (interpret setup s ⟨action, .context, text⟩).value
      o.result = .ok () ∧ s.Wrote o.after key value) := by
  obtain ⟨first, more, hsplit, hjoin⟩ := Arguments.exists_split hvalue
  have hpair := Arguments.split_append_comma hkey hsplit
  have htriple := Arguments.split_append_comma hid hpair
  constructor
  · intro e hget text o a
    have htext : text = before ++ "(" ++ (id ++ "," ++ (key ++ "," ++ value)) ++ ")" ++ after := by
      simp only [text, String.append_assoc]
    have hargs : policyArguments text = ⟨id :: key :: first :: more, []⟩ := by
      rw [htext]
      exact Arguments.policyArguments_wrap hbefore hafter htriple
    have ho : o = (s.withState (s.state.updateAttribute setup e a)).succeed text := by
      refine (value_interpretUpdate setup s text).trans ?_
      simp only [hargs, hget, hjoin]
      rfl
    obtain ⟨-, -, hviews⟩ := State.updateAttribute_views setup a hget
    rw [ho]
    exact ⟨rfl, hviews⟩
  · intro hlive text o
    have htext : text = before ++ "(" ++ (key ++ "," ++ value) ++ ")" ++ after := by
      simp only [text, String.append_assoc]
    have hargs : policyArguments text = ⟨key :: first :: more, []⟩ := by
      rw [htext]
      exact Arguments.policyArguments_wrap hbefore hafter hpair
    have hkept : withLiveValue value (s.event.bind (·.value)) = some value := by
      rcases hlive with hnone | hunmarked
      · rw [hnone, withLiveValue_none]
      · exact withLiveValue_of_unmarked hunmarked _
    have ho : o = (s.write key (some value)).succeed text := by
      rw [← hkept, ← hjoin]
      exact value_interpretContext_of_arguments (congrArg Noted.value hargs)
    rw [ho]
    exact ⟨rfl, s.wrote_write key value⟩

/-- A value with commas, blanks and a bracket that stays open, next to the bracket that ends the
text. -/
theorem written_arguments_recovered_open :
    let setup : Setup := ⟨64, .recorder true, true⟩
    let e : Element := ⟨"f(a,b)", none, [⟨"f(a,b)", "k", "1"⟩], none, none⟩
    let s : Situation := ⟨{ State.empty with elements := ⟨[e]⟩ },
      some (.fresh .input (some "typed") none none)⟩
    let update := (interpret setup s ⟨.input, .update, " \t(f(a,b),k,(x,, y)\n"⟩).value
    let context := (interpret setup s ⟨.input, .context, " \t(k,(x,, y)\n"⟩).value
    IsArgument "f(a,b)" ∧ IsArgument "k" ∧ NoStray 0 "(x,, y".toList ∧
      update.result = .ok () ∧ update.after.state.elements.get? "f(a,b)" =
        some { e with attributes := [⟨"f(a,b)", "k", "(x,, y"⟩] } ∧
      context.result = .ok () ∧ s.Wrote context.after "k" "(x,, y" := by
  intro setup e s update context
  have hid : IsArgument "f(a,b)" := by decide
  have hkey : IsArgument "k" := by decide
  have hvalue : NoStray 0 "(x,, y".toList := by decide
  have hbefore : ∀ c ∈ " \t".toList, Text.isBlank c := List.all_eq_true.1 (by decide)
  have hafter : ∀ c ∈ "\n".toList, Text.isBlank c := List.all_eq_true.1 (by decide)
  obtain ⟨hupdate, hcontext⟩ :=
    written_arguments_recovered hid hkey hvalue hbefore hafter setup s .input
  obtain ⟨hok, hget⟩ := hupdate e (by decide)
  obtain ⟨hok', hwrote⟩ := hcontext (.inr (by decide))
  exact ⟨hid, hkey, hvalue, hok, hget "f(a,b)", hok', hwrote⟩

end UiPolicy
