import Mathlib.Data.List.TakeWhile
import UiPolicy.Proofs.Context.Marker

/-!
# Resolution is substitution

`resolveText` fills the first marker of a text and starts over with the whole text. Unless a value
brings a new opening, this comes to filling all markers of the text at once.

* `Begins` says that a text begins with a marker, `ClearTo` that none begins before a place of it.
  `cut` finds the first marker (`eq_of_cut`), or there is none (`cut_eq_none_iff`).
* `Closed head tail` says that no opening begins in `head` when `tail` follows. An opening does not
  overlap itself, so a marker may follow in the place of `tail` (`Closed.opening`), and a search may
  leave `head` out (`Closed.clearTo`, `cut_append`).
* `Parts` is a text cut at its markers, and `filled` the text with all of them replaced, up to the
  last one. `resolve_eq_filled` says when resolution gives just this.
-/

namespace UiPolicy.Context.Marker

/-! ## Markers and openings -/

/-- The marker of a key. -/
def marker (key : List Char) : List Char :=
  opening ++ key ++ [')']

/-- Whether a text begins with a marker. A key has no closing bracket. -/
def Begins (cs : List Char) : Prop :=
  ∃ key after, ')' ∉ key ∧ cs = marker key ++ after

/-- Whether no marker begins before a place of a text. -/
def ClearTo (n : Nat) (cs : List Char) : Prop :=
  ∀ i < n, ¬Begins (cs.drop i)

/-- Whether no opening begins in a text when another one follows it. -/
def Closed (head tail : List Char) : Prop :=
  ∀ i < head.length, ¬opening <+: (head ++ tail).drop i

instance (head tail : List Char) : Decidable (Closed head tail) :=
  inferInstanceAs (Decidable (∀ i < head.length, ¬opening <+: (head ++ tail).drop i))

theorem marker_append (key after : List Char) :
    marker key ++ after = opening ++ (key ++ ')' :: after) := by
  simp [marker]

theorem not_mem_opening : ')' ∉ opening := by decide

/-- A text begins with a marker if a bracket closes somewhere after its opening. -/
theorem begins_iff {cs : List Char} :
    Begins cs ↔ ∃ rest, cs = opening ++ rest ∧ ')' ∈ rest := by
  constructor
  · rintro ⟨key, after, -, rfl⟩
    exact ⟨key ++ ')' :: after, marker_append key after, by simp⟩
  · rintro ⟨rest, rfl, hmem⟩
    obtain ⟨key, after, rfl, hkey⟩ := List.eq_append_cons_of_mem hmem
    exact ⟨key, after, hkey, (marker_append key after).symm⟩

instance (cs : List Char) : Decidable (Begins cs) :=
  decidable_of_iff (opening <+: cs ∧ ')' ∈ cs.drop opening.length) <| by
    rw [begins_iff]
    constructor
    · rintro ⟨⟨rest, rfl⟩, hmem⟩
      rw [List.drop_left] at hmem
      exact ⟨rest, rfl, hmem⟩
    · rintro ⟨rest, rfl, hmem⟩
      rw [List.drop_left]
      exact ⟨List.prefix_append opening rest, hmem⟩

instance (n : Nat) (cs : List Char) : Decidable (ClearTo n cs) :=
  inferInstanceAs (Decidable (∀ i < n, ¬Begins (cs.drop i)))

theorem clearTo_succ_cons {n : Nat} {c : Char} {cs : List Char} :
    ClearTo (n + 1) (c :: cs) ↔ ¬Begins (c :: cs) ∧ ClearTo n cs :=
  Nat.forall_lt_succ_left

theorem closed_cons {c : Char} {head tail : List Char} :
    Closed (c :: head) tail ↔ ¬opening <+: c :: (head ++ tail) ∧ Closed head tail :=
  Nat.forall_lt_succ_left

theorem Closed.clearTo {head tail : List Char} (h : Closed head tail) :
    ClearTo head.length (head ++ tail) := by
  rintro i hi ⟨key, after, -, heq⟩
  exact h i hi ⟨key ++ ')' :: after, (marker_append key after).symm.trans heq.symm⟩

theorem closed_append {a b tail : List Char} :
    Closed (a ++ b) tail ↔ Closed a (b ++ tail) ∧ Closed b tail := by
  induction a with
  | nil => simp [Closed]
  | cons c a ih => rw [List.cons_append, closed_cons, closed_cons, ih, List.append_assoc, and_assoc]

/-- An opening does not overlap itself. -/
theorem opening_prefix_of_prefix_append {head rest : List Char} (hne : head ≠ [])
    (h : opening <+: head ++ (opening ++ rest)) : opening <+: head := by
  have hself : ∀ n < opening.length, 0 < n → ¬opening.drop n <+: opening := by decide
  rcases Nat.lt_or_ge head.length opening.length with hlt | hle
  · obtain ⟨p, hp⟩ : head <+: opening :=
      List.prefix_of_prefix_length_le (List.prefix_append head _) h (Nat.le_of_lt hlt)
    have hdrop : opening.drop head.length = p := by rw [← hp, List.drop_left]
    have hprefix : p <+: opening ++ rest := by
      refine (List.prefix_append_right_inj head).1 ?_
      rw [hp]
      exact h
    refine absurd ?_ (hself head.length hlt (List.length_pos_iff.2 hne))
    rw [hdrop]
    refine List.prefix_of_prefix_length_le hprefix (List.prefix_append opening rest) ?_
    rw [← hdrop, List.length_drop]
    exact Nat.sub_le ..
  · exact List.prefix_of_prefix_length_le h (List.prefix_append head _) hle

/-- Whatever follows a text in which no opening begins, an opening may follow in its place. -/
theorem Closed.opening {head tail : List Char} (h : Closed head tail) (rest : List Char) :
    Closed head (Marker.opening ++ rest) := by
  induction head with
  | nil => simp [Closed]
  | cons c head ih =>
    obtain ⟨hc, hhead⟩ := closed_cons.1 h
    refine closed_cons.2 ⟨fun hopen => hc ?_, ih hhead⟩
    exact (opening_prefix_of_prefix_append (List.cons_ne_nil c head) hopen).trans
      (List.prefix_append (c :: head) tail)

theorem Closed.marker {head tail : List Char} (h : Closed head tail) (key after : List Char) :
    Closed head (marker key ++ after) :=
  marker_append key after ▸ h.opening (key ++ ')' :: after)

/-! ## The first marker -/

theorem afterOpening?_append (rest : List Char) : afterOpening? (opening ++ rest) = some rest := by
  unfold afterOpening?
  rw [if_pos (List.isPrefixOf_iff_prefix.2 (List.prefix_append opening rest)), List.drop_left]

theorem afterOpening?_eq_none_iff {cs : List Char} :
    afterOpening? cs = none ↔ ¬opening <+: cs := by
  unfold afterOpening?
  rw [← List.isPrefixOf_iff_prefix]
  simp

theorem cut_cons {c : Char} {cs : List Char} (h : ¬opening <+: c :: cs) :
    cut (c :: cs) = (cut cs).map fun m => { m with before := c :: m.before } := by
  rw [cut, afterOpening?_eq_none_iff.2 h]

theorem cut_opening_append (rest : List Char) :
    cut (opening ++ rest) =
      match rest.dropWhile (· ≠ ')') with
      | [] => none
      | _ :: after => some ⟨[], rest.takeWhile (· ≠ ')'), after⟩ := by
  cases h : opening ++ rest with
  | nil => cases h
  | cons c cs =>
    have hafter : afterOpening? (c :: cs) = some rest := h ▸ afterOpening?_append rest
    cases hdrop : rest.dropWhile (· ≠ ')') <;> simp only [cut, hafter, hdrop]

/-- A marker at the start of a text is the first one. -/
theorem cut_marker {key : List Char} (hkey : ')' ∉ key) (after : List Char) :
    cut (marker key ++ after) = some ⟨[], key, after⟩ := by
  have hne : ∀ c ∈ key, decide (c ≠ ')') = true := fun c hc =>
    decide_eq_true fun h => hkey (h ▸ hc)
  rw [marker_append, cut_opening_append, List.dropWhile_append_of_pos hne,
    List.takeWhile_append_of_pos hne]
  simp

theorem cut_eq_none_of_not_mem {cs : List Char} (h : ')' ∉ cs) : cut cs = none := by
  induction cs with
  | nil => rfl
  | cons c cs ih =>
    by_cases hopen : opening <+: c :: cs
    · obtain ⟨rest, hrest⟩ := hopen
      have hdrop : rest.dropWhile (· ≠ ')') = [] := by
        rw [← hrest] at h
        refine List.dropWhile_eq_nil_iff.2 fun d hd => decide_eq_true ?_
        rintro rfl
        exact h (List.mem_append_right opening hd)
      rw [← hrest, cut_opening_append, hdrop]
    · rw [cut_cons hopen, ih fun hmem => h (List.mem_cons_of_mem c hmem)]
      rfl

/-- A character that begins no marker stands before the first one. -/
theorem cut_cons_of_not_begins {c : Char} {cs : List Char} (h : ¬Begins (c :: cs)) :
    cut (c :: cs) = (cut cs).map fun m => { m with before := c :: m.before } := by
  by_cases hopen : opening <+: c :: cs
  · -- no bracket closes this opening, so there is no marker anywhere
    obtain ⟨rest, hrest⟩ := hopen
    have hnot : ')' ∉ c :: cs := by
      rw [← hrest, List.mem_append, not_or]
      exact ⟨not_mem_opening, fun hmem => h (begins_iff.2 ⟨rest, hrest.symm, hmem⟩)⟩
    rw [cut_eq_none_of_not_mem hnot,
      cut_eq_none_of_not_mem fun hmem => hnot (List.mem_cons_of_mem c hmem)]
    rfl
  · exact cut_cons hopen

/-- `cut` finds a marker unless there is none. -/
theorem cut_eq_none_iff {cs : List Char} : cut cs = none ↔ ClearTo cs.length cs := by
  induction cs with
  | nil => simp [ClearTo, cut]
  | cons c cs ih =>
    rw [List.length_cons, clearTo_succ_cons]
    by_cases hbegins : Begins (c :: cs)
    · obtain ⟨key, after, hkey, heq⟩ := id hbegins
      rw [heq, cut_marker hkey]
      simp [← heq, hbegins]
    · rw [cut_cons_of_not_begins hbegins, Option.map_eq_none_iff, ih]
      simp [hbegins]

/-- What `cut` finds is a marker, and none begins before it. -/
theorem eq_of_cut {cs : List Char} {m : Cut} (h : cut cs = some m) :
    cs = m.before ++ marker m.key ++ m.after ∧ ')' ∉ m.key ∧ ClearTo m.before.length cs := by
  induction cs generalizing m with
  | nil => cases h
  | cons c cs ih =>
    by_cases hbegins : Begins (c :: cs)
    · obtain ⟨key, after, hkey, heq⟩ := hbegins
      rw [heq, cut_marker hkey] at h
      obtain rfl := Option.some.inj h
      exact ⟨heq, hkey, fun i hi => absurd hi (Nat.not_lt_zero i)⟩
    · rw [cut_cons_of_not_begins hbegins] at h
      obtain ⟨m, hm, rfl⟩ := Option.map_eq_some_iff.1 h
      obtain ⟨heq, hkey, hclear⟩ := ih hm
      exact ⟨congrArg (c :: ·) heq, hkey, clearTo_succ_cons.2 ⟨hbegins, hclear⟩⟩

/-- A search may leave out a text in which no marker begins. -/
theorem cut_append {head tail : List Char} (h : ClearTo head.length (head ++ tail)) :
    cut (head ++ tail) = (cut tail).map fun m => { m with before := head ++ m.before } := by
  induction head with
  | nil => simp
  | cons c head ih =>
    obtain ⟨hc, hhead⟩ := clearTo_succ_cons.1 h
    have hcons : cut (c :: (head ++ tail)) =
        (cut (head ++ tail)).map fun m => { m with before := c :: m.before } :=
      cut_cons_of_not_begins hc
    rw [List.cons_append, hcons, ih hhead, Option.map_map]
    rfl

/-- So may the counting of markers. -/
theorem count_append {head tail : List Char} (h : ClearTo head.length (head ++ tail)) :
    count (head ++ tail) = count tail := by
  have happend := cut_append h
  cases htail : cut tail with
  | none => rw [count_of_cut_eq_none htail, count_of_cut_eq_none (by rw [happend, htail]; rfl)]
  | some m =>
    rw [htail] at happend
    rw [count_of_cut htail, count_of_cut happend]

/-! ## A text in parts -/

/-- A marker of a text: what stands between it and the one before, and its key. -/
structure Slot where
  before : List Char
  key : List Char

/-- A text cut at its markers from left to right, and what stands after the last one. -/
inductive Parts : List Char → List Slot → List Char → Prop
  | rest {rest : List Char} (h : ClearTo rest.length rest) : Parts rest [] rest
  | slot {before key after rest : List Char} {slots : List Slot} (hkey : ')' ∉ key)
      (hfirst : ClearTo before.length (before ++ marker key ++ after))
      (h : Parts after slots rest) :
      Parts (before ++ marker key ++ after) (⟨before, key⟩ :: slots) rest

/-- Every text can be cut at its markers. -/
theorem exists_parts (cs : List Char) : ∃ slots rest, Parts cs slots rest := by
  cases h : cut cs with
  | none => exact ⟨[], cs, .rest (cut_eq_none_iff.1 h)⟩
  | some m =>
    have hlt := length_after_lt h
    obtain ⟨heq, hkey, hclear⟩ := eq_of_cut h
    obtain ⟨slots, rest, hparts⟩ := exists_parts m.after
    rw [heq] at hclear ⊢
    exact ⟨⟨m.before, m.key⟩ :: slots, rest, .slot hkey hclear hparts⟩
termination_by cs.length

/-! ## Filling -/

/-- How the value of a key is written into a text. A key that is not set leaves nothing. -/
def written (store : Store) (key : List Char) : List Char :=
  literal ((store.get? (String.ofList key)).getD "").toList

/-- A text with all its markers replaced at once, up to the last one. -/
def filled (store : Store) (slots : List Slot) : List Char :=
  slots.flatMap fun s => s.before ++ written store s.key

theorem filled_cons (store : Store) (before key : List Char) (slots : List Slot) :
    filled store (⟨before, key⟩ :: slots) = before ++ written store key ++ filled store slots :=
  List.flatMap_cons

section Passes

variable {store : Store} {head cs rest : List Char} {slots : List Slot}

/-- Where the filled parts bring no opening to what stands before them, the parts bring none. -/
theorem Closed.of_filled (hparts : Parts cs slots rest)
    (h : Closed (head ++ filled store slots) rest) : Closed head cs := by
  cases hparts with
  | rest => rwa [filled, List.flatMap_nil, List.append_nil] at h
  | @slot before key after _ slots =>
    rw [filled_cons, List.append_assoc before, ← List.append_assoc head] at h
    have hbefore : Closed (head ++ before) (Marker.marker key ++ after) :=
      (closed_append.1 h).1.marker key after
    rw [List.append_assoc]
    exact (closed_append.1 hbefore).1

/-- A pass fills the first marker. It is not charged if its value brings no opening. -/
theorem outcome_resolveText_marker {left : Nat} {key after : List Char} (hkey : ')' ∉ key)
    (hhead : Closed head (marker key ++ after)) (hnext : Closed (head ++ written store key) after) :
    (resolveText store left (head ++ (marker key ++ after))).outcome =
      (resolveText store left (head ++ written store key ++ after)).outcome := by
  have hcut : cut (head ++ (marker key ++ after)) = some ⟨head, key, after⟩ := by
    rw [cut_append hhead.clearTo, cut_marker hkey]
    simp
  have hlt : count (head ++ written store key ++ after) <
      count (head ++ (marker key ++ after)) := by
    rw [count_append hnext.clearTo, count_of_cut hcut]
    exact Nat.lt_succ_self _
  have hnext : Cut.next store ⟨head, key, after⟩ = head ++ written store key ++ after := rfl
  rw [outcome_of_cut hcut, hnext, if_pos hlt]

/-- Resolution fills one marker after the other, to the right of what is filled already. -/
theorem outcome_resolveText {left : Nat} (hparts : Parts cs slots rest)
    (h : Closed (head ++ filled store slots) rest) :
    (resolveText store left (head ++ cs)).outcome = .ok (head ++ filled store slots ++ rest) := by
  induction hparts generalizing head with
  | @rest rest hclear =>
    have hcut : cut (head ++ rest) = none := by
      rw [cut_append (h.of_filled (.rest hclear)).clearTo, cut_eq_none_iff.2 hclear]
      rfl
    rw [outcome_of_cut_eq_none hcut]
    simp [filled]
  | @slot before key after rest slots hkey hfirst hparts ih =>
    rw [filled_cons] at h ⊢
    simp only [← List.append_assoc] at h ⊢
    have hnext : Closed (head ++ before ++ written store key) after := h.of_filled hparts
    have hhead : Closed (head ++ before) (marker key ++ after) :=
      (closed_append.1 hnext).1.marker key after
    rw [List.append_assoc, outcome_resolveText_marker hkey hhead hnext]
    exact ih h

end Passes

/-- **Resolution is substitution.** A text can be cut at its markers. If no opening begins before
the end of the last value once all of them are filled in, then the filled text is what resolution
gives, with any number of passes, and so with none. -/
theorem resolve_eq_filled (store : Store) (maxPasses : Nat) (text : String) :
    (∃ slots rest, Parts text.toList slots rest) ∧
    ∀ slots rest, Parts text.toList slots rest → Closed (filled store slots) rest →
      resolve store maxPasses text = .ok (String.ofList (filled store slots ++ rest)) := by
  refine ⟨exists_parts text.toList, fun slots rest hparts hclosed => ?_⟩
  have houtcome : (resolveText store maxPasses ([] ++ text.toList)).outcome =
      .ok ([] ++ filled store slots ++ rest) := outcome_resolveText hparts hclosed
  rw [List.nil_append, List.nil_append] at houtcome
  rw [resolve, houtcome]

/-- A key with an opening in it, a key that is not set and an opening that is never closed, with no
pass to spare. -/
theorem resolve_eq_filled_unclosed :
    let store := Store.ofList [("a", "Foo")]
    let text := "f(_context_value(a),_context_value(_context_value(b)) _context_value(c"
    let slots : List Slot := [⟨"f(".toList, "a".toList⟩, ⟨",".toList, "_context_value(b".toList⟩]
    let rest := ") _context_value(c".toList
    Parts text.toList slots rest ∧ Closed (filled store slots) rest ∧
      resolve store 0 text = .ok "f(\"Foo\",) _context_value(c" := by
  intro store text slots rest
  have htext : text.toList = "f(".toList ++ marker "a".toList ++
      (",".toList ++ marker "_context_value(b".toList ++ rest) := by decide
  have hparts : Parts text.toList slots rest := by
    rw [htext]
    exact .slot (by decide) (by decide) (.slot (by decide) (by decide) (.rest (by decide)))
  have hfilled : filled store slots = "f(\"Foo\",".toList := by decide
  have hclosed : Closed (filled store slots) rest := by
    rw [hfilled]
    decide
  refine ⟨hparts, hclosed, ?_⟩
  rw [(resolve_eq_filled store 0 text).2 slots rest hparts hclosed, hfilled]
  rfl

end UiPolicy.Context.Marker
