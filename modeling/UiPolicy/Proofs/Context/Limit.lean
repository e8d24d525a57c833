import Mathlib.Data.List.Infix
import UiPolicy.Proofs.Context.Passes

/-!
# When the limit is exceeded

A pass is charged only if it brings in a marker: one that begins before the end of the value that
it writes (`brings_of_le`). If no value holds a marker, then such a marker is joined from the value
and the text around it (`joins_of_brings`). An empty value can do this, as in
`_context_` and `value(b)` with a marker between them, and so can values that bring each other back
for ever.

* `Leads` counts such passes. Resolution fails only after more of them than the limit
  (`leads_of_error`).
* `Sealed` says of a piece of text that nothing can be joined to its end. Where all pieces are
  sealed no pass is charged (`closed_filled`).
* `resolve_unless_joined` puts this together.
-/

namespace UiPolicy.Context.Marker

/-- Whether a pass brings in a marker: one begins before the end of the value that it writes. -/
def Cut.Brings (store : Store) (m : Cut) : Prop :=
  ¬ClearTo (m.before ++ written store m.key).length (m.next store)

/-- Whether a pass joins a marker: one begins before the end of the value that it writes, and is not
wholly inside the value. -/
def Cut.Joins (store : Store) (m : Cut) : Prop :=
  ∃ before key after, ')' ∉ key ∧ m.next store = before ++ marker key ++ after ∧
    before.length < (m.before ++ written store m.key).length ∧
    (before.length < m.before.length ∨
      (m.before ++ written store m.key).length < (before ++ marker key).length)

/-- Whether passes lead from one text to another, with at least so many of a kind among them. -/
inductive Leads (store : Store) (kind : Cut → Prop) : Nat → List Char → List Char → Prop
  | refl {text : List Char} : Leads store kind 0 text text
  | pass {n : Nat} {text reached : List Char} {m : Cut} (hcut : cut text = some m)
      (h : Leads store kind n (m.next store) reached) : Leads store kind n text reached
  | counted {n : Nat} {text reached : List Char} {m : Cut} (hcut : cut text = some m)
      (hm : kind m) (h : Leads store kind n (m.next store) reached) :
      Leads store kind (n + 1) text reached

variable {store : Store}

/-! ## Charged passes -/

theorem next_eq (m : Cut) : m.next store = m.before ++ written store m.key ++ m.after :=
  rfl

/-- A pass that does not lower the number of markers brings one in. -/
theorem brings_of_le {text : List Char} {m : Cut} (hcut : cut text = some m)
    (hle : count text ≤ count (m.next store)) : m.Brings store := by
  intro hclear
  rw [next_eq] at hclear hle
  rw [count_append hclear, count_of_cut hcut] at hle
  exact absurd hle (Nat.not_succ_le_self _)

theorem Leads.imp {kind other : Cut → Prop} (himp : ∀ m, kind m → other m) {n : Nat}
    {text reached : List Char} (h : Leads store kind n text reached) :
    Leads store other n text reached := by
  induction h with
  | refl => exact .refl
  | pass hcut _ ih => exact .pass hcut ih
  | counted hcut hm _ ih => exact .counted hcut (himp _ hm) ih

/-- Resolution is given up after one more charged pass than may be. -/
theorem Resolves.leads {left : Nat} {text : List Char}
    {outcome : Except (List Char) (List Char)} (h : Resolves store left text outcome) :
    ∀ reached, outcome = .error reached →
      Leads store (Cut.Brings store) (left + 1) text reached := by
  induction h with
  | done hcut =>
    intro reached herror
    cases herror
  | free hcut _ _ ih =>
    intro reached herror
    exact .pass hcut (ih reached herror)
  | charged hcut hle _ ih =>
    intro reached herror
    exact .counted hcut (brings_of_le hcut hle) (ih reached herror)
  | spent hcut hle =>
    intro reached herror
    obtain rfl := Except.error.inj herror
    exact .counted hcut (brings_of_le hcut hle) .refl

theorem leads_of_error {maxPasses : Nat} {text : String} {e : PolicyError}
    (h : resolve store maxPasses text = .error e) :
    ∃ reached, e = .resolveLimitExceeded maxPasses reached ∧
      Leads store (Cut.Brings store) (maxPasses + 1) text.toList reached.toList := by
  unfold resolve at h
  split at h
  · cases h
  · next cs hcs =>
    obtain rfl := Except.error.inj h
    refine ⟨String.ofList cs, rfl, ?_⟩
    rw [String.toList_ofList]
    exact (resolves_iff.2 hcs).leads cs rfl

/-! ## Values without a marker -/

theorem literal_cases (value : List Char) :
    literal value = value ∨ literal value = '"' :: (value ++ ['"']) := by
  unfold literal
  split
  · exact .inl rfl
  · split
    · exact .inr rfl
    · exact .inl rfl

/-- Quotes add no marker to a value. -/
theorem holds_of_literal {value : String} {before key after : List Char} (hkey : ')' ∉ key)
    (h : literal value.toList = before ++ marker key ++ after) : Holds value := by
  rcases literal_cases value.toList with hplain | hquoted
  · exact ⟨before, key, after, hkey, hplain ▸ h⟩
  · rw [hquoted] at h
    cases before with
    | nil => exact absurd (List.cons.inj h).1 (by decide)
    | cons c before =>
      have htail : value.toList ++ ['"'] = before ++ marker key ++ after := (List.cons.inj h).2
      rcases List.eq_nil_or_concat after with rfl | ⟨after, d, rfl⟩
      · -- a marker ends in a bracket, and not in a quote
        have hlast : value.toList ++ ['"'] = before ++ (opening ++ key) ++ [')'] := by
          rw [htail]
          simp [marker]
        exact absurd (List.append_inj' hlast rfl).2 (by decide)
      · have hlast : value.toList ++ ['"'] = before ++ marker key ++ after ++ [d] := by
          rw [htail]
          simp
        exact ⟨before, key, after, hkey, (List.append_inj' hlast rfl).1⟩

theorem not_holds_empty : ¬Holds "" := by
  rw [← isIn_iff]
  decide

/-- A marker that comes in with a value that holds none is joined from the value and the text
around it. -/
theorem joins_of_brings (hfree : ∀ key value, store.get? key = some value → ¬Holds value) {m : Cut}
    (h : m.Brings store) : m.Joins store := by
  simp only [Cut.Brings, ClearTo, not_forall, not_not] at h
  obtain ⟨i, hi, key, after, hkey, hdrop⟩ := h
  have hnext : m.next store = (m.next store).take i ++ marker key ++ after := by
    rw [List.append_assoc, ← hdrop, List.take_append_drop]
  have hlength : ((m.next store).take i).length = i := by
    rw [next_eq, List.length_take, List.length_append]
    omega
  refine ⟨(m.next store).take i, key, after, hkey, hnext, hlength.symm ▸ hi, ?_⟩
  by_contra hinside
  rw [not_or, Nat.not_lt, Nat.not_lt] at hinside
  obtain ⟨hstart, hend⟩ := hinside
  -- the marker would stand inside the value
  obtain ⟨front, hfront⟩ : m.before <+: (m.next store).take i := by
    refine List.prefix_of_prefix_length_le ?_ (List.take_prefix i _) hstart
    rw [next_eq, List.append_assoc]
    exact List.prefix_append _ _
  obtain ⟨back, hback⟩ : (m.next store).take i ++ marker key <+: m.before ++ written store m.key := by
    have hfirst : (m.next store).take i ++ marker key <+: m.next store := ⟨after, hnext.symm⟩
    have hsecond : m.before ++ written store m.key <+: m.next store := ⟨m.after, rfl⟩
    exact List.prefix_of_prefix_length_le hfirst hsecond hend
  have hwritten : written store m.key = front ++ marker key ++ back := by
    rw [← hfront, List.append_assoc, List.append_assoc, List.append_cancel_left_eq] at hback
    rw [← hback, List.append_assoc]
  have hholds := holds_of_literal hkey hwritten
  cases hget : store.get? (String.ofList m.key) with
  | none =>
    rw [hget] at hholds
    exact not_holds_empty hholds
  | some value =>
    rw [hget] at hholds
    exact hfree _ value hget hholds

/-! ## Sealed pieces -/

/-- Whether nothing can be joined to the end of a piece of text: it holds no opening and does not
end in the beginning of one. -/
structure Sealed (piece : List Char) : Prop where
  noOpening : ¬opening <:+: piece
  noStart : ∀ start, start ≠ [] → start <+: opening → ¬start <:+ piece

theorem sealed_iff {piece : List Char} :
    Sealed piece ↔
      ¬opening <:+: piece ∧ ∀ start ∈ opening.inits, start ≠ [] → ¬start <:+ piece := by
  constructor
  · rintro ⟨hopening, hstart⟩
    exact ⟨hopening, fun start hmem hne => hstart start hne ((List.mem_inits _ _).1 hmem)⟩
  · rintro ⟨hopening, hstart⟩
    exact ⟨hopening, fun start hne hprefix => hstart start ((List.mem_inits _ _).2 hprefix) hne⟩

instance (piece : List Char) : Decidable (Sealed piece) :=
  decidable_of_iff _ sealed_iff.symm

theorem Sealed.closed {piece : List Char} (h : Sealed piece) (tail : List Char) :
    Closed piece tail := by
  intro i hi hopen
  rw [List.drop_append_of_le_length (Nat.le_of_lt hi)] at hopen
  rcases Nat.lt_or_ge (piece.drop i).length opening.length with hlt | hle
  · -- the end of the piece would be the beginning of an opening
    refine h.noStart (piece.drop i) ?_ ?_ (List.drop_suffix i piece)
    · rw [← List.length_pos_iff, List.length_drop]
      omega
    · exact List.prefix_of_prefix_length_le (List.prefix_append _ _) hopen (Nat.le_of_lt hlt)
  · refine h.noOpening ?_
    exact (List.prefix_of_prefix_length_le hopen (List.prefix_append _ _) hle).isInfix.trans
      (List.drop_suffix i piece).isInfix

theorem sealed_nil : Sealed [] where
  noOpening := by decide
  noStart start hne _ hsuffix := hne (List.suffix_nil.1 hsuffix)

/-- Sealed pieces bring no opening when they are put together. -/
theorem closed_filled (hvalues : ∀ key value, store.get? key = some value →
    Sealed (literal value.toList)) {slots : List Slot} (hslots : ∀ s ∈ slots, Sealed s.before)
    (rest : List Char) : Closed (filled store slots) rest := by
  induction slots with
  | nil => exact sealed_nil.closed rest
  | cons s slots ih =>
    have hwritten : Sealed (written store s.key) := by
      unfold written
      cases hget : store.get? (String.ofList s.key) with
      | none => exact sealed_nil
      | some value => exact hvalues _ value hget
    obtain ⟨hfirst, hothers⟩ := List.forall_mem_cons.1 hslots
    rw [filled_cons, closed_append, closed_append]
    exact ⟨⟨hfirst.closed _, hwritten.closed _⟩, ih hothers⟩

theorem not_holds_of_resolve {maxPasses : Nat} {text resolved : String}
    (h : resolve store maxPasses text = .ok resolved) : ¬Holds resolved := by
  rw [← isIn_iff, isIn_of_resolve h]
  exact Bool.false_ne_true

theorem resolve_of_sealed {maxPasses : Nat} {text : String} {slots : List Slot} {rest : List Char}
    (hparts : Parts text.toList slots rest) (hslots : ∀ s ∈ slots, Sealed s.before)
    (hvalues : ∀ key value, store.get? key = some value → Sealed (literal value.toList)) :
    resolve store maxPasses text = .ok (String.ofList (filled store slots ++ rest)) := by
  have hclosed : Closed ([] ++ filled store slots) rest := closed_filled hvalues hslots rest
  have houtcome : (resolveText store maxPasses text.toList).outcome =
      .ok (filled store slots ++ rest) := outcome_resolveText hparts hclosed
  rw [resolve, houtcome]

/-- **Resolution succeeds unless markers are joined.** It fails only with its limit, and only after
more passes than that have brought in a marker that begins before the end of the value written.
Where no value holds a marker, it gives a text without one, or more passes than the limit have
joined a marker from a value and the text around it. None can if no value and no text before a
marker holds an opening or ends in the beginning of one: then resolution succeeds with any limit. -/
theorem resolve_unless_joined (store : Store) (maxPasses : Nat) (text : String) :
    (∀ e, resolve store maxPasses text = .error e →
      ∃ reached, e = .resolveLimitExceeded maxPasses reached ∧
        Leads store (Cut.Brings store) (maxPasses + 1) text.toList reached.toList) ∧
    ((∀ key value, store.get? key = some value → ¬Holds value) →
      (∃ resolved, resolve store maxPasses text = .ok resolved ∧ ¬Holds resolved) ∨
      ∃ reached, resolve store maxPasses text = .error (.resolveLimitExceeded maxPasses reached) ∧
        Leads store (Cut.Joins store) (maxPasses + 1) text.toList reached.toList) ∧
    ∀ slots rest, Parts text.toList slots rest → (∀ s ∈ slots, Sealed s.before) →
      (∀ key value, store.get? key = some value → Sealed (literal value.toList)) →
      ∃ resolved, resolve store maxPasses text = .ok resolved ∧ ¬Holds resolved := by
  refine ⟨fun e h => leads_of_error h, fun hfree => ?_, fun slots rest hparts hslots hvalues => ?_⟩
  · cases h : resolve store maxPasses text with
    | ok resolved => exact .inl ⟨resolved, rfl, not_holds_of_resolve h⟩
    | error e =>
      obtain ⟨reached, rfl, hleads⟩ := leads_of_error h
      exact .inr ⟨reached, rfl, hleads.imp fun _ => joins_of_brings hfree⟩
  · have h : resolve store maxPasses text = .ok (String.ofList (filled store slots ++ rest)) :=
      resolve_of_sealed hparts hslots hvalues
    exact ⟨_, h, not_holds_of_resolve h⟩

theorem of_get? {P : String → Prop} (h : ∀ e ∈ store.entries, P e.value) (key value : String)
    (hget : store.get? key = some value) : P value := by
  obtain ⟨e, he, rfl⟩ := Option.map_eq_some_iff.1 hget
  exact h e (List.mem_of_find?_eq_some he)

theorem not_holds_of_entries (h : ∀ e ∈ store.entries, isIn e.value = false) (key value : String)
    (hget : store.get? key = some value) : ¬Holds value := by
  have hvalue : isIn value = false := of_get? (P := fun value => isIn value = false) h key value hget
  rw [← isIn_iff, hvalue]
  exact Bool.false_ne_true

theorem resolve_eq_error {maxPasses : Nat} {text reached : String}
    (h : Resolves store maxPasses text.toList (.error reached.toList)) :
    resolve store maxPasses text = .error (.resolveLimitExceeded maxPasses reached) := by
  unfold resolve
  simp only [resolves_iff.1 h, String.ofList_toList]

section Next

variable {text next : String} {m : Cut} {left : Nat} {outcome : Except (List Char) (List Char)}
  (hcut : cut text.toList = some m) (hnext : m.next store = next.toList)
include hcut hnext

theorem resolves_spent (hle : count text.toList ≤ count next.toList) :
    Resolves store 0 text.toList (.error next.toList) := by
  rw [← hnext] at hle ⊢
  exact .spent hcut hle

theorem resolves_charged (hle : count text.toList ≤ count next.toList)
    (h : Resolves store left next.toList outcome) :
    Resolves store (left + 1) text.toList outcome := by
  rw [← hnext] at hle h
  exact .charged hcut hle h

theorem resolves_free (hlt : count next.toList < count text.toList)
    (h : Resolves store left next.toList outcome) : Resolves store left text.toList outcome := by
  rw [← hnext] at hlt h
  exact .free hcut hlt h

end Next

/-- A value that is a mere opening, with one pass to spare and with none, and sealed pieces. -/
theorem resolve_unless_joined_opening :
    let store := Store.ofList [("a", "_context_value("), ("n", "Ada")]
    let text := "f(_context_value(a)n))"
    (resolve store 0 text = .error (.resolveLimitExceeded 0 "f(_context_value(n))") ∧
      ∃ reached, PolicyError.resolveLimitExceeded 0 "f(_context_value(n))" =
        .resolveLimitExceeded 0 reached ∧
        Leads store (Cut.Brings store) 1 text.toList reached.toList) ∧
    ((∀ key value, store.get? key = some value → ¬Holds value) ∧
      ((∃ resolved, resolve store 1 text = .ok resolved ∧ ¬Holds resolved) ∨
        ∃ reached, resolve store 1 text = .error (.resolveLimitExceeded 1 reached) ∧
          Leads store (Cut.Joins store) 2 text.toList reached.toList)) ∧
    let named := Store.ofList [("n", "Ada")]
    let slots : List Slot := [⟨"f(".toList, "n".toList⟩]
    Parts "f(_context_value(n))".toList slots ")".toList ∧ (∀ s ∈ slots, Sealed s.before) ∧
      (∀ key value, named.get? key = some value → Sealed (literal value.toList)) ∧
      ∃ resolved, resolve named 0 "f(_context_value(n))" = .ok resolved ∧ ¬Holds resolved := by
  intro store text
  have herror : resolve store 0 text =
      .error (.resolveLimitExceeded 0 "f(_context_value(n))") := by
    have hcut : cut text.toList = some ⟨"f(".toList, "a".toList, "n))".toList⟩ := by decide
    have hnext : Cut.next store ⟨"f(".toList, "a".toList, "n))".toList⟩ =
        "f(_context_value(n))".toList := by decide
    exact resolve_eq_error (resolves_spent hcut hnext (by decide +kernel))
  have hfree : ∀ key value, store.get? key = some value → ¬Holds value :=
    not_holds_of_entries (by decide +kernel)
  refine ⟨⟨herror, (resolve_unless_joined store 0 text).1 _ herror⟩,
    ⟨hfree, (resolve_unless_joined store 1 text).2.1 hfree⟩, ?_⟩
  intro named slots
  have hparts : Parts "f(_context_value(n))".toList slots ")".toList := by
    have htext : "f(_context_value(n))".toList =
        "f(".toList ++ marker "n".toList ++ ")".toList := by decide
    rw [htext]
    exact .slot (by decide) (by decide) (.rest (by decide))
  have hslots : ∀ s ∈ slots, Sealed s.before := by decide
  have hvalues : ∀ key value, named.get? key = some value → Sealed (literal value.toList) :=
    of_get? (P := fun value => Sealed (literal value.toList)) (by decide)
  exact ⟨hparts, hslots, hvalues,
    (resolve_unless_joined named 0 _).2.2 slots _ hparts hslots hvalues⟩

/-- Two values bring each other back for ever. -/
theorem exists_error_of_loop (maxPasses : Nat) :
    ∃ reached, resolve (.ofList [("x", "_context_val_context_val"), ("y", "ue(x)ue(y)")]) maxPasses
      "_context_val_context_value(y)" = .error (.resolveLimitExceeded maxPasses reached) := by
  let store := Store.ofList [("x", "_context_val_context_val"), ("y", "ue(x)ue(y)")]
  let first := "_context_val_context_value(y)"
  let second := "_context_value(x)ue(y)"
  have hfirst : cut first.toList = some ⟨"_context_val".toList, "y".toList, []⟩ := by decide
  have hthere : Cut.next store ⟨"_context_val".toList, "y".toList, []⟩ = second.toList := by decide
  have hsecond : cut second.toList = some ⟨[], "x".toList, "ue(y)".toList⟩ := by decide
  have hback : Cut.next store ⟨[], "x".toList, "ue(y)".toList⟩ = first.toList := by decide
  have hcount : count first.toList = count second.toList := by decide +kernel
  -- each of the two texts turns into the other, and every pass is charged
  have hboth : ∀ left,
      (∃ reached : String, Resolves store left first.toList (.error reached.toList)) ∧
      ∃ reached : String, Resolves store left second.toList (.error reached.toList) := by
    intro left
    induction left with
    | zero =>
      exact ⟨⟨second, resolves_spent hfirst hthere (Nat.le_of_eq hcount)⟩,
        ⟨first, resolves_spent hsecond hback (Nat.le_of_eq hcount.symm)⟩⟩
    | succ left ih =>
      obtain ⟨⟨reached, hreached⟩, ⟨reached', hreached'⟩⟩ := ih
      exact ⟨⟨reached', resolves_charged hfirst hthere (Nat.le_of_eq hcount) hreached'⟩,
        ⟨reached, resolves_charged hsecond hback (Nat.le_of_eq hcount.symm) hreached⟩⟩
  obtain ⟨reached, hreached⟩ := (hboth maxPasses).1
  exact ⟨reached, resolve_eq_error hreached⟩

/-- Without any value, two markers are joined from what stands around others. -/
theorem resolve_empty_twice :
    resolve .empty 1 "_context__context_value(a)value(b)_context__context_value(a)value(b)" =
      .error (.resolveLimitExceeded 1 "_context_value(b)") := by
  let once := "_context__context_value(a)value(b)"
  let joined := "_context_value(b)_context__context_value(a)value(b)"
  have hfirst : cut "_context__context_value(a)value(b)_context__context_value(a)value(b)".toList =
      some ⟨"_context_".toList, "a".toList, ("value(b)" ++ once).toList⟩ := by decide +kernel
  have hjoined : Cut.next .empty ⟨"_context_".toList, "a".toList, ("value(b)" ++ once).toList⟩ =
      joined.toList := by decide +kernel
  have hsecond : cut joined.toList = some ⟨[], "b".toList, once.toList⟩ := by decide
  have hfilled : Cut.next .empty ⟨[], "b".toList, once.toList⟩ = once.toList := by decide
  have hthird : cut once.toList = some ⟨"_context_".toList, "a".toList, "value(b)".toList⟩ := by
    decide
  have hagain : Cut.next .empty ⟨"_context_".toList, "a".toList, "value(b)".toList⟩ =
      "_context_value(b)".toList := by decide
  refine resolve_eq_error ?_
  refine resolves_charged hfirst hjoined (by decide +kernel) ?_
  refine resolves_free hsecond hfilled (by decide +kernel) ?_
  exact resolves_spent hthird hagain (by decide +kernel)

/-- The limit is exceeded although no value holds a marker: with values that bring each other back
any limit is, and with an empty context a limit of one. -/
theorem limit_exceeded_without_marker :
    let store := Store.ofList [("x", "_context_val_context_val"), ("y", "ue(x)ue(y)")]
    (∀ key value, store.get? key = some value → ¬Holds value) ∧
    (∀ maxPasses, ∃ reached, resolve store maxPasses "_context_val_context_value(y)" =
      .error (.resolveLimitExceeded maxPasses reached)) ∧
    resolve .empty 1 "_context__context_value(a)value(b)_context__context_value(a)value(b)" =
      .error (.resolveLimitExceeded 1 "_context_value(b)") :=
  ⟨not_holds_of_entries (by decide +kernel), exists_error_of_loop, resolve_empty_twice⟩

end UiPolicy.Context.Marker
