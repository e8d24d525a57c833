import Mathlib.Logic.Relation
import UiPolicy.Proofs.Context.Substitution

/-!
# The passes of resolution

A pass fills the first marker of a text. It may bring new markers, also where no value holds one, so
neither the text nor the number of markers has to shrink. What shrinks is a pair: the passes that
may still be charged, and then the number of markers.

* `pass` is one turn of the loop on a `Progress`, which remembers how many markers the text had when
  they were last counted. `Reaches` is what the loop comes to.
* `resolve_ends`: wherever the loop comes, the number is that of the text at hand, and a pass lowers
  the pair. So the loop ends, and with what `resolve` gives.
* `resolve_of_le`: a higher limit gives the same text or turns a failure into a success. A resolved
  text resolves to itself, and a text at which the passes were used up still holds a marker.
-/

namespace UiPolicy.Context.Marker

/-! ## The loop -/

/-- What the loop holds between two passes: the text, how many markers were counted last, and how
many passes were charged. -/
structure Progress where
  text : List Char
  remembered : Nat
  charged : Nat

/-- What comes of a pass: the outcome of the loop, or another pass. -/
inductive Turn
  | done (outcome : Except (List Char) (List Char))
  | next (p : Progress)

namespace Progress

def start (text : List Char) : Progress :=
  ⟨text, count text, 0⟩

/-- The passes that may still be charged, and the number of markers. -/
def left (maxPasses : Nat) (p : Progress) : Nat × Nat :=
  (maxPasses - p.charged, count p.text)

/-- Whether the remembered number is that of the text, and no more passes were charged than may
be. -/
structure Sound (maxPasses : Nat) (p : Progress) : Prop where
  remembered_eq : p.remembered = count p.text
  charged_le : p.charged ≤ maxPasses

end Progress

/-- One pass. It is charged if it leaves no fewer markers than were remembered. -/
def pass (store : Store) (maxPasses : Nat) (p : Progress) : Turn :=
  match cut p.text with
  | none => .done (.ok p.text)
  | some m =>
    let now := count (m.next store)
    if p.remembered ≤ now then
      if maxPasses < p.charged + 1 then .done (.error (m.next store))
      else .next ⟨m.next store, now, p.charged + 1⟩
    else .next ⟨m.next store, now, p.charged⟩

/-- Whether the loop comes from one progress to another. -/
def Reaches (store : Store) (maxPasses : Nat) : Progress → Progress → Prop :=
  Relation.ReflTransGen fun p q => pass store maxPasses p = .next q

section Loop

variable {store : Store} {maxPasses : Nat} {p q : Progress}

/-- What a pass does to a sound progress. Either the number of markers goes down, or the pass is
charged and one may have been. -/
theorem pass_cases (hp : p.Sound maxPasses) (h : pass store maxPasses p = .next q) :
    ∃ m, cut p.text = some m ∧ q.text = m.next store ∧ q.remembered = count q.text ∧
      (count q.text < count p.text ∧ q.charged = p.charged ∨
        count p.text ≤ count q.text ∧ q.charged = p.charged + 1 ∧ p.charged < maxPasses) := by
  unfold pass at h
  rw [hp.remembered_eq] at h
  cases hcut : cut p.text with
  | none =>
    rw [hcut] at h
    cases h
  | some m =>
    simp only [hcut] at h
    split at h
    · next hle =>
      split at h
      · cases h
      · next hmax =>
        obtain rfl := Turn.next.inj h
        exact ⟨m, rfl, rfl, rfl, .inr ⟨hle, rfl, by omega⟩⟩
    · next hlt =>
      obtain rfl := Turn.next.inj h
      exact ⟨m, rfl, rfl, rfl, .inl ⟨Nat.lt_of_not_le hlt, rfl⟩⟩

theorem Progress.sound_start (maxPasses : Nat) (text : List Char) :
    (Progress.start text).Sound maxPasses :=
  ⟨rfl, Nat.zero_le maxPasses⟩

theorem Progress.Sound.pass (hp : p.Sound maxPasses) (h : pass store maxPasses p = .next q) :
    q.Sound maxPasses := by
  obtain ⟨m, -, -, hcount, ⟨-, hcharged⟩ | ⟨-, hcharged, hlt⟩⟩ := pass_cases hp h
  · exact ⟨hcount, hcharged ▸ hp.charged_le⟩
  · exact ⟨hcount, by omega⟩

theorem Progress.Sound.reaches (hp : p.Sound maxPasses) (h : Reaches store maxPasses p q) :
    q.Sound maxPasses := by
  induction h with
  | refl => exact hp
  | tail _ hpass ih => exact ih.pass hpass

theorem left_lt_of_pass (hp : p.Sound maxPasses) (h : pass store maxPasses p = .next q) :
    Prod.Lex (· < ·) (· < ·) (q.left maxPasses) (p.left maxPasses) := by
  unfold Progress.left
  -- a free pass lowers the number of markers, a charged one the passes that may be charged
  obtain ⟨m, -, -, -, ⟨hlt, hcharged⟩ | ⟨-, hcharged, hlt⟩⟩ := pass_cases hp h
  · rw [hcharged]
    exact .right _ hlt
  · refine .left _ _ ?_
    omega

variable (store) in
/-- A pass does not change what the text resolves to with the passes that are left. -/
theorem outcome_of_pass (hp : p.Sound maxPasses) :
    (resolveText store (maxPasses - p.charged) p.text).outcome =
      match pass store maxPasses p with
      | .done outcome => outcome
      | .next q => (resolveText store (maxPasses - q.charged) q.text).outcome := by
  have hcharged := hp.charged_le
  unfold pass
  rw [hp.remembered_eq]
  cases hcut : cut p.text with
  | none => exact outcome_of_cut_eq_none hcut
  | some m =>
    rw [outcome_of_cut hcut]
    by_cases hle : count p.text ≤ count (m.next store)
    · rw [if_neg (Nat.not_lt.2 hle)]
      simp only [if_pos hle]
      by_cases hmax : maxPasses < p.charged + 1
      · have hleft : maxPasses - p.charged = 0 := by omega
        simp only [hleft, if_pos hmax]
      · have hleft : maxPasses - p.charged = maxPasses - (p.charged + 1) + 1 := by omega
        simp only [hleft, if_neg hmax]
    · rw [if_pos (Nat.lt_of_not_le hle)]
      simp only [if_neg hle]

/-- The loop ends, with what the text resolves to, by recursion on what is left. -/
theorem exists_done {p : Progress} (hp : p.Sound maxPasses) :
    ∃ q, Reaches store maxPasses p q ∧ pass store maxPasses q =
      .done (resolveText store (maxPasses - p.charged) p.text).outcome := by
  have houtcome := outcome_of_pass store hp
  cases hpass : pass store maxPasses p with
  | done outcome =>
    rw [hpass] at houtcome
    exact ⟨p, .refl, houtcome ▸ hpass⟩
  | next q =>
    rw [hpass] at houtcome
    have hlt := left_lt_of_pass hp hpass
    obtain ⟨r, hreaches, hdone⟩ := exists_done (hp.pass hpass)
    exact ⟨r, .head hpass hreaches, houtcome ▸ hdone⟩
termination_by p.left maxPasses
decreasing_by exact hlt

end Loop

/-- **Resolution ends.** Wherever the loop comes, the remembered number of markers is that of the
text, no more passes were charged than may be, and another pass lowers the pair of the passes that
may still be charged and the number of markers. The loop comes to an end, and with what `resolve`
gives. -/
theorem resolve_ends (store : Store) (maxPasses : Nat) (text : String) :
    (∀ p, Reaches store maxPasses (.start text.toList) p →
      p.remembered = count p.text ∧ p.charged ≤ maxPasses ∧
      ∀ q, pass store maxPasses p = .next q →
        Prod.Lex (· < ·) (· < ·) (q.left maxPasses) (p.left maxPasses)) ∧
    ∃ p outcome, Reaches store maxPasses (.start text.toList) p ∧
      pass store maxPasses p = .done outcome ∧
      resolve store maxPasses text =
        match outcome with
        | .ok resolved => .ok (String.ofList resolved)
        | .error reached => .error (.resolveLimitExceeded maxPasses (String.ofList reached)) := by
  have hstart := Progress.sound_start maxPasses text.toList
  constructor
  · intro p hreaches
    have hp := hstart.reaches hreaches
    refine ⟨hp.remembered_eq, hp.charged_le, ?_⟩
    intro q hpass
    exact left_lt_of_pass hp hpass
  · obtain ⟨p, hreaches, hdone⟩ := exists_done hstart
    exact ⟨p, _, hreaches, hdone, rfl⟩

/-! ## The limit -/

section Limit

variable {store : Store}

/-- What is resolved within a limit is resolved within any higher one. -/
theorem Resolves.of_le {m n : Nat} {text : List Char} {outcome : Except (List Char) (List Char)}
    (h : Resolves store m text outcome) (hok : outcome.isOk) (hle : m ≤ n) :
    Resolves store n text outcome := by
  induction h generalizing n with
  | done hcut => exact .done hcut
  | free hcut hlt _ ih => exact .free hcut hlt (ih hok hle)
  | charged hcut hcount _ ih =>
    obtain ⟨n, rfl⟩ := Nat.exists_eq_add_one_of_ne_zero (Nat.ne_zero_of_lt hle)
    exact .charged hcut hcount (ih hok (Nat.le_of_succ_le_succ hle))
  | spent => cases hok

theorem resolve_eq_ok_iff {maxPasses : Nat} {text resolved : String} :
    resolve store maxPasses text = .ok resolved ↔
      Resolves store maxPasses text.toList (.ok resolved.toList) := by
  rw [resolves_iff]
  unfold resolve
  cases (resolveText store maxPasses text.toList).outcome with
  | ok cs =>
    simp only [Except.ok.injEq]
    constructor
    · rintro rfl
      exact String.toList_ofList.symm
    · rintro rfl
      exact String.ofList_toList
  | error cs => simp

/-- Whether a text holds a marker. -/
def Holds (text : String) : Prop :=
  ∃ before key after, ')' ∉ key ∧ text.toList = before ++ marker key ++ after

theorem isIn_iff {text : String} : isIn text = true ↔ Holds text := by
  rw [isIn, Option.isSome_iff_ne_none]
  constructor
  · intro hne
    obtain ⟨m, hm⟩ := Option.ne_none_iff_exists'.1 hne
    obtain ⟨heq, hkey, -⟩ := eq_of_cut hm
    exact ⟨m.before, m.key, m.after, hkey, heq⟩
  · rintro ⟨before, key, after, hkey, heq⟩ hnone
    have hclear := cut_eq_none_iff.1 hnone
    rw [heq, List.append_assoc] at hclear
    have hpos : 0 < (marker key ++ after).length := List.length_pos_iff.2 (by simp [marker])
    refine hclear before.length ?_ ⟨key, after, hkey, List.drop_left⟩
    rw [List.length_append]
    omega

theorem resolve_of_isIn_eq_false {maxPasses : Nat} {text : String} (h : isIn text = false) :
    resolve store maxPasses text = .ok text := by
  rw [isIn, Option.isSome_eq_false_iff, Option.isNone_iff_eq_none] at h
  exact resolve_eq_ok_iff.2 (.done h)

/-- A text with one marker is resolved by filling it in, if that leaves none. -/
theorem resolve_of_cut {maxPasses : Nat} {text filled : String} {m : Cut}
    (hcut : cut text.toList = some m) (hnext : m.next store = filled.toList)
    (hdone : cut filled.toList = none) : resolve store maxPasses text = .ok filled := by
  have hlt : count (m.next store) < count text.toList := by
    rw [hnext, count_of_cut_eq_none hdone, count_of_cut hcut]
    exact Nat.succ_pos _
  refine resolve_eq_ok_iff.2 (.free hcut hlt ?_)
  rw [hnext]
  exact .done hdone

/-- Resolution fails only with its limit, at a text with a marker. -/
theorem eq_of_resolve_error {maxPasses : Nat} {text : String} {e : PolicyError}
    (h : resolve store maxPasses text = .error e) :
    ∃ reached, e = .resolveLimitExceeded maxPasses reached ∧ Holds reached := by
  unfold resolve at h
  split at h
  · cases h
  · next cs hcs =>
    obtain rfl := Except.error.inj h
    have hcut : cut cs ≠ none := (resolves_iff.2 hcs).cut_outcome
    refine ⟨String.ofList cs, rfl, isIn_iff.1 ?_⟩
    rwa [isIn, String.toList_ofList, Option.isSome_iff_ne_none]

end Limit

/-- **The limit decides whether, never what.** What is resolved within a limit is resolved to the
same text within any higher one; the text has no marker, and resolves to itself with any context and
limit. What fails within a limit fails within any lower one, each time at a text with a marker. -/
theorem resolve_of_le (store : Store) (text : String) {m n : Nat} (hle : m ≤ n) :
    (∀ resolved, resolve store m text = .ok resolved →
      resolve store n text = .ok resolved ∧ ¬Holds resolved ∧
      ∀ (other : Store) (limit : Nat), resolve other limit resolved = .ok resolved) ∧
    ∀ e, resolve store n text = .error e →
      (∃ reached, e = .resolveLimitExceeded n reached ∧ Holds reached) ∧
      ∃ reached, resolve store m text = .error (.resolveLimitExceeded m reached) ∧
        Holds reached := by
  have hmono : ∀ resolved, resolve store m text = .ok resolved →
      resolve store n text = .ok resolved := by
    intro resolved h
    have hresolves := resolve_eq_ok_iff.1 h
    exact resolve_eq_ok_iff.2 (hresolves.of_le rfl hle)
  constructor
  · intro resolved h
    have hin := isIn_of_resolve h
    refine ⟨hmono resolved h, ?_, ?_⟩
    · rw [← isIn_iff, hin]
      exact Bool.false_ne_true
    · intro other limit
      exact resolve_of_isIn_eq_false hin
  · intro e h
    refine ⟨eq_of_resolve_error h, ?_⟩
    cases hm : resolve store m text with
    | ok resolved =>
      rw [hmono resolved hm] at h
      cases h
    | error e' =>
      obtain ⟨reached, rfl, hholds⟩ := eq_of_resolve_error hm
      exact ⟨reached, rfl, hholds⟩

/-- A value that is the marker of its own key uses up any number of passes. -/
theorem resolve_of_self {store : Store} (key : List Char) (hkey : ')' ∉ key)
    (h : store.get? (String.ofList key) = some (String.ofList (marker key))) (maxPasses : Nat) :
    resolve store maxPasses (String.ofList (marker key)) =
      .error (.resolveLimitExceeded maxPasses (String.ofList (marker key))) := by
  have hcut : cut (marker key) = some ⟨[], key, []⟩ := by
    rw [← List.append_nil (marker key)]
    exact cut_marker hkey []
  have hnext : Cut.next store ⟨[], key, []⟩ = marker key := by
    have hliteral : literal (marker key) = marker key := rfl
    simp [Cut.next, Cut.fill, h, hliteral]
  have hle : count (marker key) ≤ count (Cut.next store ⟨[], key, []⟩) := by rw [hnext]
  have hresolves : ∀ left, Resolves store left (marker key) (.error (marker key)) := by
    intro left
    induction left with
    | zero =>
      have hspent := Resolves.spent hcut hle
      rwa [hnext] at hspent
    | succ left ih =>
      refine .charged hcut hle ?_
      rwa [hnext]
  unfold resolve
  rw [String.toList_ofList, resolves_iff.1 (hresolves maxPasses)]

/-- A value that brings a marker once, and one that brings it for ever. -/
theorem resolve_of_le_reintroduced :
    let store := Store.ofList [("a", "_context_value(b)"), ("b", "Foo"), ("x", "_context_value(x)")]
    let once := "f(_context_value(a))"
    let ever := "_context_value(x)"
    1 ≤ 2 ∧
    (resolve store 1 once = .ok "f(\"Foo\")" ∧ resolve store 2 once = .ok "f(\"Foo\")") ∧
    resolve store 2 ever = .error (.resolveLimitExceeded 2 ever) ∧
    ∃ reached, resolve store 1 ever = .error (.resolveLimitExceeded 1 reached) ∧
      Holds reached := by
  intro store once ever
  have honce : resolve store 1 once = .ok "f(\"Foo\")" := by
    have hfirst : cut once.toList = some ⟨"f(".toList, "a".toList, ")".toList⟩ := by decide
    have hsecond : cut (Cut.next store ⟨"f(".toList, "a".toList, ")".toList⟩) =
        some ⟨"f(".toList, "b".toList, ")".toList⟩ := by decide
    have hthird : Cut.next store ⟨"f(".toList, "b".toList, ")".toList⟩ =
        "f(\"Foo\")".toList := by decide
    have hdone : Resolves store 0 "f(\"Foo\")".toList (.ok "f(\"Foo\")".toList) :=
      .done (by decide)
    refine resolve_eq_ok_iff.2 (.charged hfirst (by decide +kernel) ?_)
    refine .free hsecond (by decide +kernel) ?_
    rwa [hthird]
  have hever : resolve store 2 ever = .error (.resolveLimitExceeded 2 ever) :=
    resolve_of_self "x".toList (by decide) (by decide) 2
  exact ⟨by decide, ⟨honce, ((resolve_of_le store once (by decide)).1 _ honce).1⟩, hever,
    ((resolve_of_le store ever (by decide)).2 _ hever).2⟩

end UiPolicy.Context.Marker
