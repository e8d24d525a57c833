import Mathlib.Data.List.Nodup
import UiPolicy.Attribute

/-!
# Keys of attribute lists

Nothing keeps an attribute list from holding a key twice. `Attribute.upsert` leaves one entry of the
key that it writes, in the place of the first one, and every entry of another key where it is
(`upsert_cases`). A list is seen through two views: how often it holds each key, and `firstKeys`,
its keys in the order in which they first occur. `Grows` says how both may develop: a key is never
multiplied, and new keys come at the end.

`upsert_replaces_first` collects the laws of a write, and of two writes one after the other.
-/

namespace UiPolicy.Attribute

/-- The keys of an attribute list, one for each entry. -/
def keys (attributes : List Attribute) : List String :=
  attributes.map (·.key)

/-- The keys of an attribute list, each where it first occurs. -/
def firstKeys (attributes : List Attribute) : List String :=
  (keys attributes).eraseDups

theorem mem_firstKeys {attributes : List Attribute} {key : String} :
    key ∈ firstKeys attributes ↔ key ∈ keys attributes :=
  List.mem_eraseDups

theorem keys_append (xs ys : List Attribute) : keys (xs ++ ys) = keys xs ++ keys ys :=
  List.map_append

theorem keys_filter (key : String) (attributes : List Attribute) :
    keys (attributes.filter (·.key ≠ key)) = (keys attributes).filter (· ≠ key) := by
  rw [keys, keys, List.filter_map]
  rfl

/-! ## Writing an attribute -/

/-- An attribute of a new key goes to the end. -/
theorem upsert_of_not_mem {a : Attribute} {attributes : List Attribute}
    (h : a.key ∉ keys attributes) : a.upsert attributes = attributes ++ [a] := by
  induction attributes with
  | nil => rfl
  | cons b bs ih =>
    have hb : b.key ≠ a.key := fun heq => h (heq ▸ List.mem_cons_self)
    have hbs : a.key ∉ keys bs := fun hmem => h (List.mem_cons_of_mem _ hmem)
    rw [upsert, if_neg hb, ih hbs, List.cons_append]

/-- An attribute takes the place of the first one of its key, and the later ones go. -/
theorem upsert_append_cons {a b : Attribute} {before : List Attribute}
    (h : a.key ∉ keys before) (hb : b.key = a.key) (after : List Attribute) :
    a.upsert (before ++ b :: after) = before ++ a :: after.filter (·.key ≠ a.key) := by
  induction before with
  | nil => rw [List.nil_append, upsert, if_pos hb, List.nil_append]
  | cons c cs ih =>
    have hc : c.key ≠ a.key := fun heq => h (heq ▸ List.mem_cons_self)
    have hcs : a.key ∉ keys cs := fun hmem => h (List.mem_cons_of_mem _ hmem)
    rw [List.cons_append, upsert, if_neg hc, ih hcs, List.cons_append]

/-- A list that holds a key has a first entry of it. -/
theorem exists_first {key : String} {attributes : List Attribute} (h : key ∈ keys attributes) :
    ∃ before b after, attributes = before ++ b :: after ∧ key ∉ keys before ∧ b.key = key := by
  obtain ⟨front, back, hsplit, hfront⟩ := List.eq_append_cons_of_mem h
  obtain ⟨before, rest, rfl, rfl, hrest⟩ := List.map_eq_append_iff.1 hsplit
  obtain ⟨b, after, rfl, hb, -⟩ := List.map_eq_cons_iff.1 hrest
  exact ⟨before, b, after, rfl, hfront, hb⟩

/-- What writing an attribute does: it goes to the end if its key is new, and otherwise it replaces
the first entry of its key and drops the others. -/
theorem upsert_cases (a : Attribute) (attributes : List Attribute) :
    (a.key ∉ keys attributes ∧ a.upsert attributes = attributes ++ [a]) ∨
    ∃ before b after, attributes = before ++ b :: after ∧ a.key ∉ keys before ∧ b.key = a.key ∧
      a.upsert attributes = before ++ a :: after.filter (·.key ≠ a.key) := by
  by_cases h : a.key ∈ keys attributes
  · obtain ⟨before, b, after, rfl, hbefore, hb⟩ := exists_first h
    exact .inr ⟨before, b, after, rfl, hbefore, hb, upsert_append_cons hbefore hb after⟩
  · exact .inl ⟨h, upsert_of_not_mem h⟩

/-- What writing an attribute does to the keys of a list. -/
theorem keys_upsert_cases (a : Attribute) (attributes : List Attribute) :
    (a.key ∉ keys attributes ∧ keys (a.upsert attributes) = keys attributes ++ [a.key]) ∨
    ∃ before after, a.key ∉ before ∧ keys attributes = before ++ a.key :: after ∧
      keys (a.upsert attributes) = before ++ a.key :: after.filter (· ≠ a.key) := by
  obtain ⟨h, heq⟩ | ⟨before, b, after, rfl, hbefore, hb, heq⟩ := upsert_cases a attributes
  · exact .inl ⟨h, by rw [heq, keys_append]; rfl⟩
  · refine .inr ⟨keys before, keys after, hbefore, ?_, ?_⟩
    · rw [keys_append, ← hb]
      rfl
    · rw [heq, keys_append, ← keys_filter]
      rfl

/-- After a write the list holds its key once, and every other key as often as before. -/
theorem count_keys_upsert (a : Attribute) (attributes : List Attribute) (key : String) :
    (keys (a.upsert attributes)).count key =
      if key = a.key then 1 else (keys attributes).count key := by
  obtain ⟨h, hnew⟩ | ⟨before, after, hbefore, hold, hnew⟩ := keys_upsert_cases a attributes
  · rw [hnew, List.count_append]
    split
    · next hkey =>
      subst hkey
      rw [List.count_eq_zero.2 h, List.count_singleton_self]
    · next hkey =>
      have hother : [a.key].count key = 0 := List.count_eq_zero.2 (by simpa using hkey)
      rw [hother, Nat.add_zero]
  · rw [hnew, hold, List.count_append, List.count_append]
    split
    · next hkey =>
      subst hkey
      have hgone : a.key ∉ after.filter (· ≠ a.key) := by simp
      rw [List.count_eq_zero.2 hbefore, List.count_cons_self, List.count_eq_zero.2 hgone]
    · next hkey =>
      -- only entries of the key that is written go
      have hsame : (after.filter (· ≠ a.key)).count key = after.count key :=
        List.count_filter (by simpa using hkey)
      rw [List.count_cons_of_ne (Ne.symm hkey), List.count_cons_of_ne (Ne.symm hkey), hsame]

/-- An element that a list begins with does not count where it occurs again. -/
theorem eraseDups_append_filter_ne {xs : List String} {key : String} (h : key ∈ xs)
    (ys : List String) : (xs ++ ys.filter (· ≠ key)).eraseDups = (xs ++ ys).eraseDups := by
  have hsame : (ys.filter (· ≠ key)).removeAll xs = ys.removeAll xs := by
    rw [List.removeAll, List.removeAll, List.filter_filter]
    refine List.filter_congr fun y _ => ?_
    by_cases hy : y = key
    · simp [hy, h]
    · simp [hy]
  rw [List.eraseDups_append, List.eraseDups_append, hsame]

/-- A write adds its key at the end if it is new, and leaves the order of the keys alone. -/
theorem firstKeys_upsert (a : Attribute) (attributes : List Attribute) :
    firstKeys (a.upsert attributes) =
      if a.key ∈ keys attributes then firstKeys attributes
      else firstKeys attributes ++ [a.key] := by
  obtain ⟨h, hnew⟩ | ⟨before, after, -, hold, hnew⟩ := keys_upsert_cases a attributes
  · have hkept : [a.key].removeAll (keys attributes) = [a.key] := by simp [List.removeAll, h]
    rw [if_neg h, firstKeys, hnew, List.eraseDups_append, hkept]
    rfl
  · have hmem : a.key ∈ keys attributes := by simp [hold]
    -- an entry that goes is not the first one of its key
    have hfirst : a.key ∈ before ++ [a.key] := by simp
    have hsame := eraseDups_append_filter_ne hfirst after
    rw [← List.append_cons, ← List.append_cons] at hsame
    rw [if_pos hmem, firstKeys, firstKeys, hnew, hold, hsame]

/-! ## Writing twice -/

/-- A write leaves the entries of other keys alone. -/
theorem filter_upsert_ne (a : Attribute) (attributes : List Attribute) :
    (a.upsert attributes).filter (·.key ≠ a.key) = attributes.filter (·.key ≠ a.key) := by
  rcases upsert_cases a attributes with ⟨-, heq⟩ | ⟨before, b, after, rfl, -, hb, heq⟩
  · rw [heq]
    simp
  · rw [heq]
    simp [hb]

/-- After a write the list holds one entry of the key, the one that was written. -/
theorem filter_upsert_eq (a : Attribute) (attributes : List Attribute) :
    (a.upsert attributes).filter (·.key = a.key) = [a] := by
  have hnone {xs : List Attribute} (h : a.key ∉ keys xs) : xs.filter (·.key = a.key) = [] := by
    refine List.filter_eq_nil_iff.2 fun x hx hkey => h ?_
    exact List.mem_map.2 ⟨x, hx, of_decide_eq_true hkey⟩
  rcases upsert_cases a attributes with ⟨h, heq⟩ | ⟨before, b, after, -, hbefore, -, heq⟩
  · rw [heq, List.filter_append, hnone h]
    simp
  · rw [heq, List.filter_append, hnone hbefore]
    simp

/-- Of two writes of one key only the later one counts. -/
theorem upsert_upsert_of_key_eq {a b : Attribute} (h : b.key = a.key)
    (attributes : List Attribute) : b.upsert (a.upsert attributes) = b.upsert attributes := by
  rcases upsert_cases a attributes with ⟨hnew, heq⟩ | ⟨before, c, after, rfl, hbefore, hc, heq⟩
  · rw [← h] at hnew
    rw [heq, upsert_append_cons hnew h.symm, upsert_of_not_mem hnew]
    rfl
  · rw [← h] at hbefore
    rw [heq, upsert_append_cons hbefore h.symm, upsert_append_cons hbefore (hc.trans h.symm), h,
      List.filter_filter]
    simp

/-- Entries of one key can be taken out before or after a write of another key. -/
theorem filter_upsert_of_ne {a : Attribute} {key : String} (h : a.key ≠ key)
    (attributes : List Attribute) :
    (a.upsert attributes).filter (·.key ≠ key) = a.upsert (attributes.filter (·.key ≠ key)) := by
  induction attributes with
  | nil => simp [upsert, h]
  | cons b bs ih =>
    by_cases hb : b.key = a.key
    · have hkept : b.key ≠ key := fun heq => h (hb.symm.trans heq)
      rw [upsert, if_pos hb, List.filter_cons_of_pos (by simpa using h),
        List.filter_cons_of_pos (by simpa using hkept), upsert, if_pos hb, List.filter_filter,
        List.filter_filter]
      simp only [Bool.and_comm]
    · rw [upsert, if_neg hb]
      by_cases hkey : b.key = key
      · rw [List.filter_cons_of_neg (by simpa using hkey), ih,
          List.filter_cons_of_neg (by simpa using hkey)]
      · rw [List.filter_cons_of_pos (by simpa using hkey), ih,
          List.filter_cons_of_pos (by simpa using hkey), upsert, if_neg hb]

/-- Writes of two keys commute unless both are new. -/
theorem upsert_comm {a b : Attribute} (hne : b.key ≠ a.key) {attributes : List Attribute}
    (h : a.key ∈ keys attributes) :
    b.upsert (a.upsert attributes) = a.upsert (b.upsert attributes) := by
  induction attributes with
  | nil => cases h
  | cons c cs ih =>
    by_cases hca : c.key = a.key
    · have hcb : c.key ≠ b.key := fun heq => hne (heq.symm.trans hca)
      rw [upsert, if_pos hca, upsert, if_neg (Ne.symm hne), upsert, if_neg hcb, upsert,
        if_pos hca, filter_upsert_of_ne hne]
    · by_cases hcb : c.key = b.key
      · rw [upsert, if_neg hca, upsert, if_pos hcb, upsert, if_pos hcb, upsert, if_neg hne,
          filter_upsert_of_ne (Ne.symm hne)]
      · have hcs : a.key ∈ keys cs := (List.mem_cons.1 h).resolve_left (Ne.symm hca)
        rw [upsert, if_neg hca, upsert, if_neg hcb, ih hcs, upsert, if_neg hcb, upsert,
          if_neg hca]

/-! ## Writing by places -/

/-- Behind the place that is kept, a pass that counts places drops a key. -/
theorem filter_zipIdx_of_lt {key : String} {place n : Nat} (h : place < n)
    (attributes : List Attribute) :
    ((attributes.zipIdx n).filter fun e => e.1.key ≠ key ∨ e.2 = place).map (·.1) =
      attributes.filter (·.key ≠ key) := by
  induction attributes generalizing n with
  | nil => rfl
  | cons b bs ih =>
    have hn : n ≠ place := Nat.ne_of_gt h
    have hrest := ih (Nat.lt_succ_of_lt h)
    by_cases hb : b.key = key <;> simpa [List.zipIdx_cons, hb, hn] using hrest

/-- A write to a list that holds the key, place by place: the first entry of the key is replaced,
and a pass that counts places drops every other one. -/
theorem upsert_eq_of_findIdx? {a : Attribute} {attributes : List Attribute} {place : Nat}
    (h : attributes.findIdx? (·.key = a.key) = some place) (n : Nat) :
    a.upsert attributes = (((attributes.set place a).zipIdx n).filter
      fun e => e.1.key ≠ a.key ∨ e.2 = place + n).map (·.1) := by
  -- the count may start anywhere, so that it can go on behind an entry of another key
  induction attributes generalizing place n with
  | nil => cases h
  | cons b bs ih =>
    rw [List.findIdx?_cons] at h
    by_cases hb : b.key = a.key
    · have hplace : place = 0 := by simpa [hb, eq_comm] using h
      subst hplace
      have hrest : ((bs.zipIdx (n + 1)).filter fun e => e.1.key ≠ a.key ∨ e.2 = n).map (·.1) =
          bs.filter (·.key ≠ a.key) := filter_zipIdx_of_lt (Nat.lt_succ_self n) bs
      rw [upsert, if_pos hb, ← hrest]
      simp [List.zipIdx_cons]
    · obtain ⟨place, hplace, rfl⟩ : ∃ p, bs.findIdx? (·.key = a.key) = some p ∧ p + 1 = place := by
        simpa [hb] using h
      rw [upsert, if_neg hb, ih hplace (n + 1)]
      have hsum : place + 1 + n = place + (n + 1) := by omega
      simp [List.zipIdx_cons, hb, hsum]

/-- **A write leaves one entry of its key.** It replaces the first entry of the key, drops the later
ones, and keeps every entry of another key where it is; the entry comes at the end if its key is
new. The same list is had by counting places. Of two writes of one key the later one counts alone,
and writes of two keys commute if the list holds one of them. -/
theorem upsert_replaces_first (a : Attribute) (attributes : List Attribute) :
    (a.key ∉ keys attributes → a.upsert attributes = attributes ++ [a]) ∧
    (a.key ∈ keys attributes → ∃ before b after,
      attributes = before ++ b :: after ∧ a.key ∉ keys before ∧ b.key = a.key ∧
      a.upsert attributes = before ++ a :: after.filter (·.key ≠ a.key)) ∧
    (∀ place, attributes.findIdx? (·.key = a.key) = some place →
      a.upsert attributes = ((attributes.set place a).zipIdx.filter
        fun e => e.1.key ≠ a.key ∨ e.2 = place).map (·.1)) ∧
    (a.upsert attributes).filter (·.key ≠ a.key) = attributes.filter (·.key ≠ a.key) ∧
    (a.upsert attributes).filter (·.key = a.key) = [a] ∧
    (∀ b : Attribute, b.key = a.key → b.upsert (a.upsert attributes) = b.upsert attributes) ∧
    a.upsert (a.upsert attributes) = a.upsert attributes ∧
    ∀ b : Attribute, b.key ≠ a.key → a.key ∈ keys attributes ∨ b.key ∈ keys attributes →
      b.upsert (a.upsert attributes) = a.upsert (b.upsert attributes) := by
  refine ⟨upsert_of_not_mem, fun h => ?_, fun place h => upsert_eq_of_findIdx? h 0,
    filter_upsert_ne a attributes, filter_upsert_eq a attributes,
    fun b hb => upsert_upsert_of_key_eq hb attributes, upsert_upsert_of_key_eq rfl attributes,
    fun b hne h => ?_⟩
  · obtain ⟨before, b, after, rfl, hbefore, hb⟩ := exists_first h
    exact ⟨before, b, after, rfl, hbefore, hb, upsert_append_cons hbefore hb after⟩
  · rcases h with ha | hb
    · exact upsert_comm hne ha
    · exact (upsert_comm (Ne.symm hne) hb).symm

/-- The key stands three times, with other entries around it. -/
theorem upsert_replaces_first_repeated :
    let attributes : List Attribute :=
      [⟨"e", "b", "0"⟩, ⟨"e", "a", "1"⟩, ⟨"e", "c", "2"⟩, ⟨"e", "a", "3"⟩, ⟨"e", "b", "4"⟩,
        ⟨"e", "a", "5"⟩]
    let a : Attribute := ⟨"f", "a", "6"⟩
    let b : Attribute := ⟨"e", "b", "7"⟩
    a.upsert attributes =
      [⟨"e", "b", "0"⟩, ⟨"f", "a", "6"⟩, ⟨"e", "c", "2"⟩, ⟨"e", "b", "4"⟩] ∧
    b.upsert (a.upsert attributes) = a.upsert (b.upsert attributes) := by
  intro attributes a b
  obtain ⟨-, -, hplaces, -, -, -, -, hcomm⟩ := upsert_replaces_first a attributes
  exact ⟨(hplaces 1 (by decide)).trans (by decide), hcomm b (by decide) (.inl (by decide))⟩

/-! ## Growing -/

/-- Whether an attribute list has come from another by writes: it holds no key more often, unless
once where there was none, and its new keys come after the old ones. -/
structure Grows (old new : List Attribute) : Prop where
  count_le : ∀ key, (keys new).count key ≤ max 1 ((keys old).count key)
  isPrefix : firstKeys old <+: firstKeys new

namespace Grows

variable {xs ys zs : List Attribute}

theorem refl (xs : List Attribute) : Grows xs xs :=
  ⟨fun _ => Nat.le_max_right _ _, List.prefix_refl _⟩

theorem trans (h : Grows xs ys) (h' : Grows ys zs) : Grows xs zs where
  count_le key := by
    have h₁ := h.count_le key
    have h₂ := h'.count_le key
    omega
  isPrefix := h.isPrefix.trans h'.isPrefix

theorem upsert (a : Attribute) (xs : List Attribute) : Grows xs (a.upsert xs) where
  count_le key := by
    rw [count_keys_upsert]
    split
    · exact Nat.le_max_left _ _
    · exact Nat.le_max_right _ _
  isPrefix := by
    rw [firstKeys_upsert]
    split
    · exact List.prefix_refl _
    · exact List.prefix_append _ _

/-- No key is lost. -/
theorem subset (h : Grows xs ys) : keys xs ⊆ keys ys := by
  intro key hkey
  have hfirst : key ∈ firstKeys xs := mem_firstKeys.2 hkey
  exact mem_firstKeys.1 (h.isPrefix.subset hfirst)

/-- Keys that are distinct stay distinct. -/
theorem nodup (h : Grows xs ys) (hxs : (keys xs).Nodup) : (keys ys).Nodup := by
  refine List.nodup_iff_count_le_one.2 fun key => ?_
  have hold : (keys xs).count key ≤ 1 := List.nodup_iff_count_le_one.1 hxs key
  have hnew := h.count_le key
  omega

/-- A key that is held once is held once ever after. -/
theorem count_eq_one (h : Grows xs ys) {key : String} (hxs : (keys xs).count key = 1) :
    (keys ys).count key = 1 := by
  -- it is not lost, and it is not multiplied
  have hold : key ∈ keys xs := List.one_le_count_iff.1 (Nat.le_of_eq hxs.symm)
  have hsome : 1 ≤ (keys ys).count key := List.one_le_count_iff.2 (h.subset hold)
  have hnew := h.count_le key
  omega

end Grows

end UiPolicy.Attribute
