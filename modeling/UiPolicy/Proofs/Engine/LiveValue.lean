import UiPolicy.Proofs.Context.Substitution
import UiPolicy.Proofs.Engine.Effect

/-!
# Live values and context markers

A live-value marker is a part of the opening of every context marker. The search for it does not
tell the two apart, so a value whose first live-value marker belongs to a context marker loses that
context marker.

* `withFreeLiveValue` is the replacement that leaves context markers whole: it looks for a
  live-value marker outside of them.
* `run_context_of_live`: this is what a context policy writes, if the value has no context marker or
  a live-value marker before the first one. In any other case the first context marker is broken.
-/

namespace UiPolicy

open Context.Marker (cut marker)

/-! ## Outside the context markers -/

/-- What stands before and after the first live-value marker outside the context markers. -/
def freeLiveValue? (cs : List Char) : Option (List Char × List Char) :=
  match h : cut cs with
  | none => Text.cutAt? liveValueMarker cs
  | some m =>
    have := Context.Marker.length_after_lt h
    match Text.cutAt? liveValueMarker m.before with
    | some (before, after) => some (before, after ++ marker m.key ++ m.after)
    | none =>
      (freeLiveValue? m.after).map fun (before, after) =>
        (m.before ++ marker m.key ++ before, after)
termination_by cs.length

/-- A value with a live value at the place that was found in it; nothing if the live value is
empty. A value without such a place stays as it is. -/
def putLiveValue (value live : String) : Option (List Char × List Char) → Option String
  | some (before, after) =>
    if live.isEmpty then none else some (String.ofList (before ++ live.toList ++ after))
  | none => some value

/-- The value with the first live-value marker outside its context markers replaced. -/
def withFreeLiveValue (value live : String) : Option String :=
  putLiveValue value live (freeLiveValue? value.toList)

theorem withLiveValue_some (value live : String) :
    withLiveValue value (some live) =
      putLiveValue value live (Text.cutAt? liveValueMarker value.toList) := by
  unfold withLiveValue
  cases Text.cutAt? liveValueMarker value.toList <;> rfl

theorem freeLiveValue?_of_cut_eq_none {cs : List Char} (h : cut cs = none) :
    freeLiveValue? cs = Text.cutAt? liveValueMarker cs := by
  rw [freeLiveValue?]
  split
  · rfl
  · next hm => cases h.symm.trans hm

theorem freeLiveValue?_of_cut {cs : List Char} {m : Context.Marker.Cut} (h : cut cs = some m) :
    freeLiveValue? cs =
      match Text.cutAt? liveValueMarker m.before with
      | some (before, after) => some (before, after ++ marker m.key ++ m.after)
      | none =>
        (freeLiveValue? m.after).map fun (before, after) =>
          (m.before ++ marker m.key ++ before, after) := by
  rw [freeLiveValue?]
  split
  · next hnone => cases h.symm.trans hnone
  · next hm =>
    obtain rfl := Option.some.inj (h.symm.trans hm)
    rfl

/-! ## The first live-value marker -/

/-- Where the first live-value marker stands before the first context marker, or where there is no
context marker, it is the first one outside of them. -/
theorem cutAt?_eq_freeLiveValue? {cs : List Char}
    (h : ∀ m, cut cs = some m → liveValueMarker <:+: m.before) :
    Text.cutAt? liveValueMarker cs = freeLiveValue? cs := by
  cases hcut : cut cs with
  | none => rw [freeLiveValue?_of_cut_eq_none hcut]
  | some m =>
    have hne : Text.cutAt? liveValueMarker m.before ≠ none := fun hnone =>
      (Text.cutAt?_eq_none_iff (by decide)).1 hnone (h m hcut)
    obtain ⟨⟨before, after⟩, hbefore⟩ := Option.ne_none_iff_exists'.1 hne
    rw [freeLiveValue?_of_cut hcut, hbefore, (Context.Marker.eq_of_cut hcut).1, List.append_assoc,
      Text.cutAt?_append hbefore, ← List.append_assoc]

/-- Otherwise it is a part of the first context marker. -/
theorem cutAt?_of_not_before {cs : List Char} {m : Context.Marker.Cut} (hcut : cut cs = some m)
    (h : ¬liveValueMarker <:+: m.before) :
    Text.cutAt? liveValueMarker cs =
      some (m.before ++ "_context".toList, '(' :: m.key ++ ')' :: m.after) := by
  have hbefore : Text.cutAt? liveValueMarker m.before = none :=
    (Text.cutAt?_eq_none_iff (by decide)).2 h
  have hcons : ∀ rest, Context.Marker.opening ++ rest = '_' :: "context_value(".toList ++ rest :=
    fun rest => rfl
  have hopening : ∀ rest, Text.cutAt? liveValueMarker ('_' :: "context_value(".toList ++ rest) =
      some ("_context".toList, '(' :: rest) := fun rest => rfl
  -- a live-value marker that begins earlier would take in the start of the opening
  rw [(Context.Marker.eq_of_cut hcut).1, List.append_assoc, Context.Marker.marker_append, hcons,
    List.cons_append, Text.cutAt?_append_cons (by decide) hbefore, ← List.cons_append, hopening]
  simp

/-! ## Context policies -/

/-- The situation after a value was written under a key, if there is one. -/
def Situation.write (s : Situation) (key : String) : Option String → Situation
  | some value => s.withState { s.state with context := s.state.context.insert key value }
  | none => s

theorem value_interpretContext_of_arguments {s : Situation} {text key first : String}
    {more : List String} (hargs : (policyArguments text).value = key :: first :: more) :
    (interpretContext s text).value =
      (s.write key (withLiveValue (joinArguments (first :: more))
        (s.event.bind (·.value)))).succeed text := by
  rw [value_interpretContext, hargs]
  simp only
  cases withLiveValue (joinArguments (first :: more)) (s.event.bind (·.value)) <;> rfl

theorem Situation.run_context_of_arguments {setup : Setup} {s : Situation} {p : Policy}
    {key first : String} {more : List String} (hp : p.interaction = .context)
    (hargs : (policyArguments p.text).value = key :: first :: more) :
    s.run setup p =
      s.write key (withLiveValue (joinArguments (first :: more)) (s.event.bind (·.value))) := by
  rw [run, interpret_context hp, value_interpretContext_of_arguments hargs]
  rfl

/-- **A live value leaves context markers whole, or breaks the first one.** Let a context policy
have a key and a value, and its event a live value. If the value has no context marker, or a
live-value marker before the first one, then the first live-value marker outside the context markers
is replaced; an empty live value cancels the policy, and a value without such a marker is written as
it is. In any other case the live value is put into the first context marker, and an empty one
cancels the policy. -/
theorem run_context_of_live {setup : Setup} {s : Situation} {p : Policy} {key first live : String}
    {more : List String} (hp : p.interaction = .context)
    (hargs : (policyArguments p.text).value = key :: first :: more)
    (hlive : s.event.bind (·.value) = some live) :
    let value := joinArguments (first :: more)
    ((∀ m, cut value.toList = some m → liveValueMarker <:+: m.before) →
      s.run setup p = s.write key (withFreeLiveValue value live)) ∧
    ∀ m, cut value.toList = some m → ¬liveValueMarker <:+: m.before →
      s.run setup p = s.write key (if live.isEmpty then none else some (String.ofList
        (m.before ++ "_context".toList ++ live.toList ++ '(' :: m.key ++ ')' :: m.after))) := by
  intro value
  rw [Situation.run_context_of_arguments hp hargs, hlive, withLiveValue_some]
  constructor
  · intro hfree
    rw [cutAt?_eq_freeLiveValue? hfree]
    rfl
  · intro m hcut hbefore
    rw [cutAt?_of_not_before hcut hbefore, putLiveValue, List.append_assoc _ ('(' :: m.key)]

/-- A live-value marker before a context marker, and one that is a part of it. -/
theorem run_context_of_live_typed :
    let setup : Setup := ⟨64, .recorder true, true⟩
    let typed : Situation := ⟨.empty, some (.fresh .input (some "hello") none none)⟩
    let before : Policy := ⟨.input, .context, "(x,_value,_context_value(q))"⟩
    let inside : Policy := ⟨.input, .context, "(x,_context_value(q),_value)"⟩
    typed.run setup before = typed.write "x" (some "hello,_context_value(q)") ∧
    typed.run setup inside = typed.write "x" (some "_contexthello(q),_value") := by
  intro setup typed before inside
  have hbefore : cut "_value,_context_value(q)".toList =
      some ⟨"_value,".toList, "q".toList, []⟩ := by decide
  have hinside : cut "_context_value(q),_value".toList =
      some ⟨[], "q".toList, ",_value".toList⟩ := by decide
  have hlive : typed.event.bind (·.value) = some "hello" := rfl
  constructor
  · have hargs : (policyArguments before.text).value = ["x", "_value", "_context_value(q)"] := by
      cbv
    obtain ⟨hrun, -⟩ := @run_context_of_live setup typed before _ _ _ _ rfl hargs hlive
    have hfree : withFreeLiveValue "_value,_context_value(q)" "hello" =
        some "hello,_context_value(q)" := by decide +kernel
    rw [← hfree]
    refine hrun fun m hm => ?_
    obtain rfl := Option.some.inj (hbefore.symm.trans hm)
    exact ⟨[], [','], rfl⟩
  · have hargs : (policyArguments inside.text).value = ["x", "_context_value(q)", "_value"] := by
      cbv
    obtain ⟨-, hrun⟩ := @run_context_of_live setup typed inside _ _ _ _ rfl hargs hlive
    have hbroken := hrun _ hinside (by decide)
    have hvalue : String.ofList ([] ++ "_context".toList ++ "hello".toList ++
        '(' :: "q".toList ++ ')' :: ",_value".toList) = "_contexthello(q),_value" := by decide +kernel
    rw [if_neg (by decide), hvalue] at hbroken
    exact hbroken

/-- A context marker is not always left whole: this one takes in the live value, although no
live-value marker stands outside of it. -/
theorem live_value_breaks_context_marker :
    let setup : Setup := ⟨64, .recorder true, true⟩
    let typed : Situation := ⟨.empty, some (.fresh .input (some "hello") none none)⟩
    let policy : Policy := ⟨.input, .context, "(x,_context_value(q))"⟩
    (policyArguments policy.text).value = ["x", "_context_value(q)"] ∧
    withFreeLiveValue "_context_value(q)" "hello" = some "_context_value(q)" ∧
    (typed.run setup policy).state.context.get? "x" = some "_contexthello(q)" ∧
    typed.run setup policy ≠ typed.write "x" (withFreeLiveValue "_context_value(q)" "hello") := by
  intro setup typed policy
  have hargs : (policyArguments policy.text).value = ["x", "_context_value(q)"] := by cbv
  have hfree : withFreeLiveValue "_context_value(q)" "hello" = some "_context_value(q)" := by
    decide +kernel
  have hrun : (typed.run setup policy).state.context.get? "x" = some "_contexthello(q)" := by
    rw [Situation.run_context_of_arguments rfl hargs]
    decide +kernel
  refine ⟨hargs, hfree, hrun, fun heq => ?_⟩
  rw [heq, hfree] at hrun
  exact absurd hrun (by decide)

end UiPolicy
