import UiPolicy.Json.Decode

/-!
# The context

The context is what a session remembers: a text for each of some keys. A later value of a key
replaces the earlier one. The entries are listed in ascending order of their keys, which the type
keeps.
-/

namespace UiPolicy.Context

structure Entry where
  key : String
  value : String
deriving Repr, DecidableEq

namespace Entry

def toJson (e : Entry) : Json :=
  .object [("key", .string e.key), ("value", .string e.value)]

def record : Json.Record Entry where
  name := "ContextEntry"
  fields := [
    .required "key" Json.decodeString fun key e => { e with key },
    .required "value" Json.decodeString fun value e => { e with value }]
  start := ⟨"", ""⟩

def decode : Json.Decoder Entry :=
  record.decode

end Entry

/-- Entries in ascending order of their keys, no key twice. -/
def Ascending (entries : List Entry) : Prop :=
  entries.Pairwise fun a b => a.key < b.key

/-- An entry put into its place; it replaces one of the same key. -/
def insertEntry (e : Entry) : List Entry → List Entry
  | [] => [e]
  | x :: xs =>
    if e.key < x.key then e :: x :: xs
    else if e.key = x.key then e :: xs
    else x :: insertEntry e xs

theorem mem_insertEntry {e y : Entry} {xs : List Entry} (h : y ∈ insertEntry e xs) :
    y = e ∨ y ∈ xs := by
  induction xs with
  | nil => simpa [insertEntry] using h
  | cons x xs ih =>
    unfold insertEntry at h
    split at h
    · simpa using h
    · split at h
      · rcases List.mem_cons.1 h with h | h
        · exact .inl h
        · exact .inr (List.mem_cons_of_mem _ h)
      · rcases List.mem_cons.1 h with h | h
        · exact .inr (h ▸ List.mem_cons_self)
        · exact (ih h).imp_right (List.mem_cons_of_mem _)

theorem lt_of_not_lt_of_ne {a b : String} (h : ¬a < b) (hne : a ≠ b) : b < a :=
  Decidable.byContradiction fun h' =>
    hne (String.le_antisymm (String.not_lt.1 h') (String.not_lt.1 h))

theorem ascending_insertEntry (e : Entry) {xs : List Entry} (h : Ascending xs) :
    Ascending (insertEntry e xs) := by
  induction xs with
  | nil => simp [insertEntry, Ascending]
  | cons x xs ih =>
    obtain ⟨hx, hxs⟩ := List.pairwise_cons.1 h
    unfold insertEntry
    split
    · next hlt =>
      refine List.pairwise_cons.2 ⟨fun y hy => ?_, h⟩
      rcases List.mem_cons.1 hy with rfl | hy
      · exact hlt
      · exact String.lt_trans hlt (hx y hy)
    · next hlt =>
      split
      · next heq => exact List.pairwise_cons.2 ⟨fun y hy => heq ▸ hx y hy, hxs⟩
      · next hne =>
        refine List.pairwise_cons.2 ⟨fun y hy => ?_, ih hxs⟩
        rcases mem_insertEntry hy with rfl | hy
        · exact lt_of_not_lt_of_ne hlt hne
        · exact hx y hy

theorem find?_insertEntry (e : Entry) (xs : List Entry) (key : String) :
    (insertEntry e xs).find? (·.key = key) =
      if key = e.key then some e else xs.find? (·.key = key) := by
  induction xs with
  | nil =>
    rw [insertEntry, List.find?_singleton]
    simp [eq_comm]
  | cons x xs ih =>
    unfold insertEntry
    split
    · rw [List.find?_cons]
      by_cases hkey : key = e.key
      · simp [hkey]
      · simp [hkey, Ne.symm hkey]
    · split
      · next heq =>
        rw [List.find?_cons, List.find?_cons, ← heq]
        by_cases hkey : key = e.key
        · simp [hkey]
        · simp [hkey, Ne.symm hkey]
      · next hne =>
        rw [List.find?_cons, List.find?_cons, ih]
        by_cases hkey : key = e.key
        · simp [hkey, Ne.symm hne]
        · simp [hkey]

/-- The entries of a session's context. -/
structure Store where
  entries : List Entry
  ascending : Ascending entries
deriving Repr, DecidableEq

namespace Store

def empty : Store :=
  ⟨[], List.Pairwise.nil⟩

instance : Inhabited Store := ⟨empty⟩

def get? (s : Store) (key : String) : Option String :=
  (s.entries.find? (·.key = key)).map (·.value)

def insert (s : Store) (key value : String) : Store :=
  ⟨insertEntry ⟨key, value⟩ s.entries, ascending_insertEntry _ s.ascending⟩

/-- A key has the value that was written last, and the other keys are left alone. -/
theorem get?_insert (s : Store) (key value other : String) :
    (s.insert key value).get? other = if other = key then some value else s.get? other := by
  rw [get?, insert, find?_insertEntry]
  split <;> rfl

/-- The context of a list of keys and values; of one key the last value counts. -/
def ofList (pairs : List (String × String)) : Store :=
  pairs.foldl (fun s (key, value) => s.insert key value) empty

/-- The number of keys that have a value. -/
def size (s : Store) : Nat :=
  s.entries.length

end Store

end UiPolicy.Context
