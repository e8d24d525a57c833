import Mathlib.Data.List.Infix
import UiPolicy.Arguments

/-!
# Splitting inverts joining

`split` accepts a text in exactly one way, and refuses it only for a stray bracket. Joined with
commas its tokens give the text back. No token has a comma outside brackets, and each but the last
closes the brackets that it opens (`split_eq_ok_iff`).

`scan` walks through a token with brackets open on its left, so the predicates on tokens say how
many are open: `NoStray`, `Whole` and `Closes`. `enter?` is the step of one character, and each
predicate follows it.
-/

namespace UiPolicy.Arguments

/-! ## Brackets and commas -/

/-- Whether a text, with some brackets open before it, closes no bracket that was not opened. -/
def NoStray (depth : Nat) (cs : List Char) : Prop :=
  ∀ p ∈ cs.inits, p.count ')' ≤ depth + p.count '('

/-- Whether a text has no comma where all brackets are closed. -/
def Whole (depth : Nat) (cs : List Char) : Prop :=
  ∀ p ∈ cs.inits, p ++ [','] ∈ cs.inits → p.count ')' ≠ depth + p.count '('

/-- Whether a text closes as many brackets as are open before it and in it. -/
def Closes (depth : Nat) (cs : List Char) : Prop :=
  cs.count ')' = depth + cs.count '('

/-- Whether a text closes the brackets that it opens, and no others. -/
def Balanced (cs : List Char) : Prop :=
  NoStray 0 cs ∧ Closes 0 cs

instance (depth : Nat) (cs : List Char) : Decidable (NoStray depth cs) :=
  inferInstanceAs (Decidable (∀ p ∈ cs.inits, p.count ')' ≤ depth + p.count '('))

instance (depth : Nat) (cs : List Char) : Decidable (Whole depth cs) :=
  inferInstanceAs (Decidable
    (∀ p ∈ cs.inits, p ++ [','] ∈ cs.inits → p.count ')' ≠ depth + p.count '('))

instance (cs : List Char) : Decidable (Balanced cs) :=
  inferInstanceAs (Decidable (NoStray 0 cs ∧ cs.count ')' = 0 + cs.count '('))

/-! ## One character -/

/-- The number of open brackets after a character; nothing for a stray bracket. -/
def enter? (depth : Nat) (c : Char) : Option Nat :=
  if c = '(' then some (depth + 1)
  else if c = ')' then
    match depth with
    | 0 => none
    | depth + 1 => some depth
  else some depth

/-- One step of the scan. -/
theorem scan_cons (depth : Nat) (c : Char) (cs : List Char) :
    scan depth (c :: cs) =
      if c = ',' ∧ depth = 0 then (scan 0 cs).cut
      else
        match enter? depth c with
        | none => ⟨[], [], some 0⟩
        | some d => (scan d cs).extend c := by
  rw [scan.eq_def]
  by_cases hcut : c = ',' ∧ depth = 0
  · obtain ⟨rfl, rfl⟩ := hcut
    rfl
  · simp only [if_neg hcut, enter?]
    split
    · rfl
    · split
      · cases depth <;> rfl
      · rfl

/-- A character changes the brackets that are open as `enter?` says. -/
theorem count_cons {depth d : Nat} {c : Char} (h : enter? depth c = some d) (p : List Char) :
    depth + (c :: p).count '(' + p.count ')' = d + p.count '(' + (c :: p).count ')' := by
  unfold enter? at h
  rw [List.count_cons, List.count_cons]
  split at h
  · next hc =>
    obtain rfl := Option.some.inj h
    simp [hc]
    omega
  · split at h
    · next hc =>
      cases depth with
      | zero => cases h
      | succ depth =>
        obtain rfl := Option.some.inj h
        simp [hc]
        omega
    · next hopen hclose =>
      obtain rfl := Option.some.inj h
      simp [hopen, hclose]

section Cons

variable {depth d : Nat} {c : Char} {cs : List Char}

theorem noStray_cons (h : enter? depth c = some d) :
    NoStray depth (c :: cs) ↔ NoStray d cs := by
  unfold NoStray
  rw [List.inits_cons, List.forall_mem_cons, List.forall_mem_map]
  have hcount := count_cons h
  constructor
  · rintro ⟨-, hall⟩ p hp
    have := hall p hp
    have := hcount p
    omega
  · intro hall
    refine ⟨Nat.zero_le _, fun p hp => ?_⟩
    have := hall p hp
    have := hcount p
    omega

theorem not_noStray_cons (h : enter? depth c = none) : ¬NoStray depth (c :: cs) := by
  unfold enter? at h
  intro hstray
  have hc : [c].count ')' ≤ depth + [c].count '(' := hstray [c] (by simp)
  split at h
  · cases h
  · split at h
    · next hopen hclose =>
      cases depth with
      | zero => simp [hclose] at hc
      | succ depth => cases h
    · cases h

theorem whole_cons (h : enter? depth c = some d) :
    Whole depth (c :: cs) ↔ ¬(c = ',' ∧ depth = 0) ∧ Whole d cs := by
  unfold Whole
  rw [List.inits_cons, List.forall_mem_cons, List.forall_mem_map, ← List.inits_cons]
  have hcount := count_cons h
  refine and_congr ?_ (forall₂_congr fun p hp => ?_)
  · simp [eq_comm]
  · have hmem : c :: p ++ [','] ∈ (c :: cs).inits ↔ p ++ [','] ∈ cs.inits := by simp
    rw [hmem]
    have := hcount p
    refine imp_congr_right fun _ => not_congr ?_
    omega

theorem closes_cons (h : enter? depth c = some d) : Closes depth (c :: cs) ↔ Closes d cs := by
  unfold Closes
  have := count_cons h cs
  omega

end Cons

/-! ## Tokens -/

/-- Whether a text inside brackets goes on with these tokens. All but the last close the brackets
that are open. -/
def Fits (depth : Nat) (first : List Char) : List (List Char) → Prop
  | [] => NoStray depth first ∧ Whole depth first
  | t :: ts => (NoStray depth first ∧ Closes depth first) ∧ Whole depth first ∧ Fits 0 t ts

theorem fits_cons {depth d : Nat} {c : Char} (h : enter? depth c = some d)
    (hcut : ¬(c = ',' ∧ depth = 0)) (first : List Char) (others : List (List Char)) :
    Fits depth (c :: first) others ↔ Fits d first others := by
  cases others <;> simp only [Fits, noStray_cons h, whole_cons h, closes_cons h, hcut,
    not_false_eq_true, true_and]

theorem fits_nil (depth : Nat) : Fits depth [] [] := by
  simp [Fits, NoStray, Whole]

theorem fits_nil_cons {depth : Nat} {t : List Char} {ts : List (List Char)} :
    Fits depth [] (t :: ts) ↔ depth = 0 ∧ Fits 0 t ts := by
  have hcloses : Closes depth [] ↔ depth = 0 := by simp [Closes, eq_comm]
  simp [Fits, NoStray, Whole, hcloses]

theorem intercalate_cons (c : Char) (first : List Char) (others : List (List Char)) :
    [','].intercalate ((c :: first) :: others) = c :: [','].intercalate (first :: others) := by
  cases others <;> simp [List.intercalate]

theorem intercalate_nil_cons (t : List Char) (ts : List (List Char)) :
    [','].intercalate ([] :: t :: ts) = ',' :: [','].intercalate (t :: ts) := by
  simp [List.intercalate]

/-- The tokens of a scan fit, also those before a stray bracket. -/
theorem fits_scan (depth : Nat) (cs : List Char) :
    Fits depth (scan depth cs).first (scan depth cs).others := by
  induction cs generalizing depth with
  | nil => exact fits_nil depth
  | cons c cs ih =>
    rw [scan_cons]
    split
    · next hcut => exact fits_nil_cons.2 ⟨hcut.2, ih 0⟩
    · next hcut =>
      cases henter : enter? depth c with
      | none => exact fits_nil depth
      | some d => exact (fits_cons henter hcut _ _).2 (ih d)

/-- The tokens of a scan that no bracket stops give the text when they are joined. -/
theorem intercalate_tokens_scan {depth : Nat} {cs : List Char} (h : (scan depth cs).stray = none) :
    [','].intercalate (scan depth cs).tokens = cs := by
  induction cs generalizing depth with
  | nil => rfl
  | cons c cs ih =>
    rw [scan_cons] at h ⊢
    split
    · next hcut =>
      rw [if_pos hcut] at h
      rw [hcut.1]
      exact (intercalate_nil_cons _ _).trans
        (congrArg (',' :: ·) (ih (Option.map_eq_none_iff.1 h)))
    · next hcut =>
      rw [if_neg hcut] at h
      cases henter : enter? depth c with
      | none =>
        rw [henter] at h
        cases h
      | some d =>
        rw [henter] at h
        exact (intercalate_cons _ _ _).trans
          (congrArg (c :: ·) (ih (Option.map_eq_none_iff.1 h)))

theorem Fits.noStray {depth : Nat} {first : List Char} {others : List (List Char)}
    (h : Fits depth first others) : NoStray depth first := by
  cases others with
  | nil => exact h.1
  | cons t ts => exact h.1.1

theorem Fits.whole {depth : Nat} {first : List Char} {others : List (List Char)}
    (h : Fits depth first others) : Whole depth first := by
  cases others with
  | nil => exact h.2
  | cons t ts => exact h.2.1

/-- Tokens that fit are those of the text that they give when they are joined. -/
theorem scan_intercalate : ∀ {depth : Nat} {first : List Char} {others : List (List Char)},
    Fits depth first others →
      scan depth ([','].intercalate (first :: others)) = ⟨first, others, none⟩
  | _, [], [], _ => rfl
  | _, [], t :: ts, h => by
    obtain ⟨rfl, hfits⟩ := fits_nil_cons.1 h
    rw [intercalate_nil_cons, scan_cons, if_pos ⟨rfl, rfl⟩, scan_intercalate hfits]
    rfl
  | depth, c :: first, others, h => by
    cases henter : enter? depth c with
    | none => exact absurd h.noStray (not_noStray_cons henter)
    | some d =>
      have hcut := ((whole_cons henter).1 h.whole).1
      have htail := scan_intercalate ((fits_cons henter hcut _ _).1 h)
      rw [intercalate_cons, scan_cons, if_neg hcut, henter]
      exact congrArg (Scan.extend c) htail
termination_by _ first others => (others.length, first.length)

/-- Outside brackets, tokens fit if all but the last are balanced, the last has no stray bracket,
and none has a comma outside brackets. -/
theorem fits_zero_iff {first : List Char} {others : List (List Char)} :
    Fits 0 first others ↔
      (∀ t ∈ (first :: others).dropLast, Balanced t ∧ Whole 0 t) ∧
      ∀ t ∈ (first :: others).getLast?, NoStray 0 t ∧ Whole 0 t := by
  induction others generalizing first with
  | nil => simp [Fits]
  | cons t ts ih =>
    rw [Fits, ih, List.dropLast_cons_cons, List.forall_mem_cons, List.getLast?_cons_cons, Balanced]
    simp only [and_assoc]

theorem split_eq_ok_iff_scan {text : String} {tokens : List String} :
    split text = .ok tokens ↔
      (scan 0 text.toList).stray = none ∧
        (scan 0 text.toList).tokens = tokens.map String.toList := by
  have htexts : (scan 0 text.toList).texts = tokens ↔
      (scan 0 text.toList).tokens = tokens.map String.toList := by
    constructor
    · rintro rfl
      simp [Scan.texts]
    · intro h
      rw [Scan.texts, h]
      simp
  rw [← htexts, split]
  cases (scan 0 text.toList).stray <;> simp

theorem intercalate_eq_iff {token text : String} {tokens : List String} :
    String.intercalate "," (token :: tokens) = text ↔
      [','].intercalate (token.toList :: tokens.map String.toList) = text.toList := by
  rw [← String.toList_inj, String.toList_intercalate]
  rfl

theorem fits_toList_iff {token : String} {tokens : List String} :
    Fits 0 token.toList (tokens.map String.toList) ↔
      (∀ t ∈ (token :: tokens).dropLast, Balanced t.toList ∧ Whole 0 t.toList) ∧
      ∀ t ∈ (token :: tokens).getLast?, NoStray 0 t.toList ∧ Whole 0 t.toList := by
  rw [fits_zero_iff, ← List.map_cons, ← List.map_dropLast, List.getLast?_map, List.forall_mem_map]
  simp

/-- **Splitting inverts joining.** Splitting gives some tokens exactly if there is at least one,
they give the text when they are joined with commas, each but the last is balanced and has no comma
outside brackets, and the last has no stray bracket and no comma outside brackets. -/
theorem split_eq_ok_iff {text : String} {tokens : List String} :
    split text = .ok tokens ↔
      tokens ≠ [] ∧ String.intercalate "," tokens = text ∧
      (∀ t ∈ tokens.dropLast, Balanced t.toList ∧ Whole 0 t.toList) ∧
      ∀ t ∈ tokens.getLast?, NoStray 0 t.toList ∧ Whole 0 t.toList := by
  rw [split_eq_ok_iff_scan]
  cases tokens with
  | nil => simp [Scan.tokens]
  | cons token tokens =>
    rw [intercalate_eq_iff, ← fits_toList_iff]
    constructor
    · rintro ⟨hstray, htokens⟩
      obtain ⟨hfirst, hothers⟩ := List.cons.inj htokens
      refine ⟨List.cons_ne_nil token tokens, ?_, ?_⟩
      · rw [← hfirst, ← hothers]
        exact intercalate_tokens_scan hstray
      · rw [← hfirst, ← hothers]
        exact fits_scan 0 text.toList
    · rintro ⟨-, heq, htokens⟩
      rw [← heq, scan_intercalate htokens]
      exact ⟨rfl, rfl⟩

/-- An open bracket keeps the comma after it in the last token. -/
example : split "a,f(b,c),,g(d,e" = .ok ["a", "f(b,c)", "", "g(d,e"] := by cbv

end UiPolicy.Arguments
