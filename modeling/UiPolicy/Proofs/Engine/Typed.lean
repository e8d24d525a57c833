import UiPolicy.Proofs.Arguments.Enclosed
import UiPolicy.Proofs.Engine.LiveValue

/-!
# What a typed text can do

A context policy is split into its arguments before the live value is put in, and the live value is
put in once and not read again. So what a user types ends up in the value that is written, and
nowhere else: the key, the success of the policy and the text around the live value are those of the
policy (`typed_text_stays_in_place`).
-/

namespace UiPolicy

/-! ## The live value in its place -/

theorem withLiveValue_of_unmarked {value : String} (h : ¬liveValueMarker <:+: value.toList)
    (live : Option String) : withLiveValue value live = some value := by
  have hcut : Text.cutAt? liveValueMarker value.toList = none :=
    (Text.cutAt?_eq_none_iff (by decide)).2 h
  unfold withLiveValue
  rw [hcut]

theorem withLiveValue_of_cutAt? {value : String} {before after : List Char}
    (h : Text.cutAt? liveValueMarker value.toList = some (before, after)) (live : String) :
    withLiveValue value (some live) =
      if live = "" then none else some (String.ofList before ++ live ++ String.ofList after) := by
  rw [withLiveValue_some, h, putLiveValue]
  by_cases hlive : live = ""
  · simp [hlive]
  · simp [hlive, String.ofList_append, String.append_assoc]

/-! ## Context policies -/

/-- Whether a value was written under a key of the context, and nothing else has changed. -/
structure Situation.Wrote (s after : Situation) (key value : String) : Prop where
  after_eq : after = s.withState { s.state with context := after.state.context }
  get?_eq : ∀ other, after.state.context.get? other =
    if other = key then some value else s.state.context.get? other

theorem Situation.wrote_write (s : Situation) (key value : String) :
    s.Wrote (s.write key (some value)) key value :=
  ⟨rfl, s.state.context.get?_insert key value⟩

/-- Whether the value that a context policy names has a place for a live value. -/
def HasLiveMarker (text : String) : Prop :=
  ∃ key first more, (policyArguments text).value = key :: first :: more ∧
    liveValueMarker <:+: (joinArguments (first :: more)).toList

/-- A text of a context policy has one argument only, or a value without a place for a live value,
or one with such a place. -/
theorem interpretContext_cases (text : String) :
    (∀ s : Situation, (interpretContext s text).value = s.fail text (.arity "context" text 2 1)) ∨
    (¬HasLiveMarker text ∧ ∃ key value, ∀ s : Situation,
      (interpretContext s text).value = (s.write key (some value)).succeed text) ∨
    (HasLiveMarker text ∧ ∃ key before after, ∀ (s : Situation) (live : String),
      s.event.bind (·.value) = some live → (interpretContext s text).value =
        (s.write key (if live = "" then none else some (before ++ live ++ after))).succeed text) := by
  obtain ⟨key, rest, hargs⟩ : ∃ key rest, (policyArguments text).value = key :: rest :=
    ⟨_, _, Arguments.value_policyArguments text⟩
  cases rest with
  | nil =>
    refine .inl fun s => ?_
    rw [value_interpretContext, hargs]
    rfl
  | cons first more =>
    have hmarker : HasLiveMarker text ↔
        liveValueMarker <:+: (joinArguments (first :: more)).toList := by
      simp [HasLiveMarker, hargs]
    cases hcut : Text.cutAt? liveValueMarker (joinArguments (first :: more)).toList with
    | none =>
      have hno := (Text.cutAt?_eq_none_iff (by decide)).1 hcut
      refine .inr (.inl ⟨mt hmarker.1 hno, key, joinArguments (first :: more), fun s => ?_⟩)
      rw [value_interpretContext_of_arguments hargs, withLiveValue_of_unmarked hno]
    | some parts =>
      have hsome : liveValueMarker <:+: (joinArguments (first :: more)).toList := by
        by_contra hno
        rw [(Text.cutAt?_eq_none_iff (by decide)).2 hno] at hcut
        cases hcut
      refine .inr (.inr ⟨hmarker.2 hsome, key, String.ofList parts.1, String.ofList parts.2,
        fun s live hlive => ?_⟩)
      rw [value_interpretContext_of_arguments hargs, hlive, withLiveValue_of_cutAt? hcut]

/-- **Typed text stays in its place.** Each text of a context policy has a key and what stands
before and after the live value. Two runs of it, in any two states and with any two live values that
are not empty, both fail for the number of arguments and change nothing, or both write this one key.
They write the same value if the policy's value has no live-value marker, and otherwise the one live
value or the other between the same two texts. If there is such a marker and the live value is
empty, nothing changes. -/
theorem typed_text_stays_in_place (action : Action) (text : String) :
    ∃ key before after : String, ∀ (setup : Setup) (s t : Situation) (u v : String),
      s.event.bind (·.value) = some u → t.event.bind (·.value) = some v →
      let p : Policy := ⟨action, .context, text⟩
      let left := (interpret setup s p).value
      let right := (interpret setup t p).value
      (u ≠ "" → v ≠ "" → left.result = right.result ∧
        ((left.result = .error (.arity "context" text 2 1) ∧ left.after = s ∧ right.after = t) ∨
          left.result = .ok () ∧ ∃ x y, s.Wrote left.after key x ∧ t.Wrote right.after key y ∧
            (¬HasLiveMarker text → x = y) ∧
            (HasLiveMarker text → x = before ++ u ++ after ∧ y = before ++ v ++ after))) ∧
      (u = "" → HasLiveMarker text → left.after = s) := by
  obtain hfail | ⟨hno, key, value, hwrite⟩ | ⟨hmarker, key, before, after, hwrite⟩ :=
    interpretContext_cases text
  · refine ⟨"", "", "", fun setup s t u v hu hv => ?_⟩
    simp only [interpret_context, hfail]
    exact ⟨fun _ _ => ⟨rfl, .inl ⟨rfl, rfl, rfl⟩⟩, fun _ _ => rfl⟩
  · refine ⟨key, "", "", fun setup s t u v hu hv => ?_⟩
    simp only [interpret_context, hwrite]
    exact ⟨fun _ _ => ⟨rfl, .inr ⟨rfl, value, value, s.wrote_write key value,
      t.wrote_write key value, fun _ => rfl, fun hmarker => absurd hmarker hno⟩⟩,
      fun _ hmarker => absurd hmarker hno⟩
  · refine ⟨key, before, after, fun setup s t u v hu hv => ?_⟩
    simp only [interpret_context, hwrite s u hu, hwrite t v hv]
    refine ⟨fun hune hvne => ⟨rfl, .inr ⟨rfl, before ++ u ++ after, before ++ v ++ after, ?_, ?_,
      fun hno => absurd hmarker hno, fun _ => ⟨rfl, rfl⟩⟩⟩, fun hempty _ => ?_⟩
    · rw [if_neg hune]
      exact s.wrote_write key _
    · rw [if_neg hvne]
      exact t.wrote_write key _
    · rw [if_pos hempty]
      rfl

/-- Two live values that look like the end of the arguments and like markers. -/
theorem typed_text_stays_in_place_marked :
    let setup : Setup := ⟨64, .recorder true, true⟩
    let typed (live : String) : Situation := ⟨.empty, some (.fresh .input (some live) none none)⟩
    let s := typed "1),x,(2"
    let t := typed "_value,_context_value(k)"
    let text := "(k,size(_value),b)"
    let left := (interpret setup s ⟨.input, .context, text⟩).value
    let right := (interpret setup t ⟨.input, .context, text⟩).value
    HasLiveMarker text ∧ left.result = .ok () ∧ right.result = .ok () ∧ ∃ key before after,
      s.Wrote left.after key (before ++ "1),x,(2" ++ after) ∧
      t.Wrote right.after key (before ++ "_value,_context_value(k)" ++ after) := by
  intro setup typed s t text left right
  have hargs : (policyArguments "(k,size(_value),b)").value = ["k", "size(_value)", "b"] := by cbv
  have hmarker : HasLiveMarker text := ⟨_, _, _, hargs, by decide⟩
  have hok : left.result = .ok () := by
    rw [show left = _ from value_interpretContext_of_arguments hargs]
    rfl
  obtain ⟨key, before, after, hruns⟩ := typed_text_stays_in_place .input text
  obtain ⟨hboth, -⟩ := hruns setup s t _ _ rfl rfl
  obtain ⟨hresult, hshort | ⟨-, x, y, hx, hy, -, hplaced⟩⟩ := hboth (by decide) (by decide)
  · cases hok.symm.trans hshort.1
  · obtain ⟨rfl, rfl⟩ := hplaced hmarker
    exact ⟨hmarker, hok, hresult.symm.trans hok, key, before, after, hx, hy⟩

end UiPolicy
