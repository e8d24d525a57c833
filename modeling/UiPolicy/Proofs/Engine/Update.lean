import UiPolicy.Proofs.Arguments.Enclosed
import UiPolicy.Proofs.Element.Registry
import UiPolicy.Proofs.Engine.Change

/-!
# What an update changes and whom it tells

An update policy writes the attributes of one element. What it stores is what it announces: to the
native object of the element if that is alive, and then to its tag.

* `State.updateAttribute_views`: a write as it is seen through `get?` and `ids`.
* `update_is_exact`: when an update succeeds, and all that it changes.
-/

namespace UiPolicy

namespace State

/-- After a write the element has the new attributes, and every other element is as it was. -/
theorem updateAttribute_views (setup : Setup) (a : Attribute) {state : State} {id : String}
    {e : Element} (hget : state.elements.get? id = some e) :
    let updated := { e with attributes := a.upsert e.attributes }
    let after := state.updateAttribute setup e a
    after = { state with
      elements := after.elements
      notifications :=
        state.notifications ++ updated.tell (state.liveObject? e) setup.propagateTags } ∧
    after.elements.ids = state.elements.ids ∧
    ∀ other, after.elements.get? other =
      if other = id then some updated else state.elements.get? other := by
  intro updated after
  have hid : e.id = id := Registry.id_of_get? hget
  have hafter := state.updateAttribute_eq setup e a
  have helements : after.elements = state.elements.setAttributes id updated.attributes := by
    rw [← hid]
    exact congrArg State.elements hafter
  refine ⟨?_, ?_, fun other => ?_⟩
  · rw [helements, ← hid]
    exact hafter
  · rw [helements, Registry.ids_setAttributes]
  · rw [helements, Registry.get?_setAttributes]
    by_cases hother : other = id
    · rw [if_pos hother, hother, hget]
      simp [updated]
    · simp [hother]

end State

/-- **An update is exact.** It succeeds exactly if its text has three arguments or more, counted up
to a stray bracket, and the first is the id of a registered element. Then this element has its old
attributes with the key written, its type, object and tag stay, and so does every other element. The
object is told if it is alive, then the tag, each once and of the attributes that are now stored,
and nothing else has changed. An update that fails changes nothing and tells nobody. -/
theorem update_is_exact (setup : Setup) (s : Situation) (action : Action) (text : String) :
    let arguments := (Arguments.splitLenient (Arguments.strip text)).1
    let o := (interpret setup s ⟨action, .update, text⟩).value
    (o.result = .ok () ↔
      3 ≤ arguments.length ∧ ∃ id ∈ arguments.head?, ∃ e, s.state.elements.get? id = some e) ∧
    (o.result = .ok () → ∃ id key first more e updated,
      arguments = id :: key :: first :: more ∧ s.state.elements.get? id = some e ∧
      updated = { e with attributes :=
        (⟨id, key, String.intercalate "," (first :: more)⟩ : Attribute).upsert e.attributes } ∧
      o.after = s.withState { s.state with
        elements := o.after.state.elements
        notifications :=
          s.state.notifications ++ updated.tell (s.state.liveObject? e) setup.propagateTags } ∧
      o.after.state.elements.ids = s.state.elements.ids ∧
      ∀ other, o.after.state.elements.get? other =
        if other = id then some updated else s.state.elements.get? other) ∧
    (o.result ≠ .ok () → o.after = s) ∧ o.text = text := by
  intro arguments o
  have harguments : (policyArguments text).value = arguments := Arguments.value_policyArguments text
  have ho : o = _ := value_interpretUpdate setup s text
  simp only [harguments] at ho
  clear_value arguments o
  subst ho
  match arguments with
  | [] | [_] | [_, _] => simp [Situation.fail]
  | id :: key :: first :: more =>
    cases hget : s.state.elements.get? id with
    | none => simp [Situation.fail, hget]
    | some e =>
      simp only [hget]
      obtain ⟨hafter, hids, hviews⟩ := State.updateAttribute_views setup _ hget
      exact ⟨iff_of_true rfl ⟨by simp, id, rfl, e, hget⟩, fun _ => ⟨id, key, first, more, e, _, rfl,
        hget, rfl, congrArg s.withState hafter, hids, hviews⟩, fun hne => absurd rfl hne, rfl⟩

/-- A stray bracket ends the value. Of two elements one has an object that is alive, which is told
before the tag, and the other one that was dropped, so that only the tag is told. -/
theorem update_is_exact_told :
    let setup : Setup := ⟨64, .recorder true, true⟩
    let object : NativeObject := ⟨0, "field"⟩
    let e : Element := ⟨"e", none, [⟨"e", "a", "1"⟩, ⟨"e", "b", "2"⟩, ⟨"e", "a", "3"⟩], some object,
      some "tag"⟩
    let d : Element := ⟨"d", none, [⟨"d", "a", "1"⟩], some ⟨1, "field"⟩, some "tag"⟩
    let s : Situation := ⟨{ State.empty with elements := ⟨[e, d]⟩, hosted := [object] }, none⟩
    let o (text : String) := (interpret setup s ⟨.click, .update, text⟩).value
    let e' : Element := { e with attributes := [⟨"e", "a", "4,5"⟩, ⟨"e", "b", "2"⟩] }
    let d' : Element := { d with attributes := [⟨"d", "a", "4,5"⟩] }
    (o "(e,a,4,5)6)").result = .ok () ∧ (o "(d,a,4,5)6)").result = .ok () ∧
    (o "(e,a,4,5)6)").after.state.elements.get? "e" = some e' ∧
    (o "(d,a,4,5)6)").after.state.elements.get? "d" = some d' ∧
    (o "(e,a,4,5)6)").after.state.notifications =
      [.objectUpdated object e'.attributes, .tagPropagated "tag" e' true] ∧
    (o "(d,a,4,5)6)").after.state.notifications = [.tagPropagated "tag" d' false] := by
  -- what the theorem says of a text that writes `4,5`
  have htold (setup : Setup) (s : Situation) (text id : String) (old : Element)
      (harguments : (Arguments.splitLenient (Arguments.strip text)).1 = [id, "a", "4", "5"])
      (hold : s.state.elements.get? id = some old) :
      let value := String.intercalate "," ["4", "5"]
      let new := { old with attributes := (⟨id, "a", value⟩ : Attribute).upsert old.attributes }
      let o := (interpret setup s ⟨.click, .update, text⟩).value
      o.result = .ok () ∧ o.after.state.elements.get? id = some new ∧
        o.after.state.notifications = s.state.notifications ++
          new.tell (s.state.liveObject? old) setup.propagateTags := by
    intro value new
    obtain ⟨hiff, hchange, -⟩ := update_is_exact setup s .click text
    rw [harguments] at hiff hchange
    have hok := hiff.2 ⟨Nat.le_add_left 3 1, id, rfl, old, hold⟩
    obtain ⟨_, _, _, _, old', new', heq, hget, hnew, hafter, -, hviews⟩ := hchange hok
    simp only [List.cons.injEq] at heq
    obtain ⟨rfl, rfl, rfl, rfl⟩ := heq
    obtain rfl := Option.some.inj (hold.symm.trans hget)
    obtain rfl : new' = new := hnew
    exact ⟨hok, (hviews id).trans (if_pos rfl), congrArg (·.state.notifications) hafter⟩
  intro setup object e d s o e' d'
  have he : (Arguments.splitLenient (Arguments.strip "(e,a,4,5)6)")).1 = ["e", "a", "4", "5"] := by
    decide +kernel
  have hd : (Arguments.splitLenient (Arguments.strip "(d,a,4,5)6)")).1 = ["d", "a", "4", "5"] := by
    decide +kernel
  obtain ⟨hok, hget, htells⟩ := htold setup s _ "e" e he (by decide)
  obtain ⟨hok', hget', htells'⟩ := htold setup s _ "d" d hd (by decide)
  dsimp only [o]
  exact ⟨hok, hok', hget.trans (by decide), hget'.trans (by decide), htells.trans (by decide),
    htells'.trans (by decide)⟩

end UiPolicy
