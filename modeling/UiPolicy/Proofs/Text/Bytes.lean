import Mathlib.Data.List.Lex
import Mathlib.Data.String.Basic

/-!
# Texts are ordered by their bytes

The order of texts compares character by character. UTF-8 keeps it: of two characters the smaller
one has the smaller bytes, whatever follows them (`lex_charBytes`). So two texts stand in the same
order when their bytes are compared one by one (`byteLt_iff`).
-/

namespace UiPolicy.Text

def charBytes (c : Char) : List Nat :=
  (String.utf8EncodeChar c).map UInt8.toNat

/-- The bytes of a text in UTF-8. -/
def bytes (text : String) : List Nat :=
  text.toUTF8.data.toList.map UInt8.toNat

/-- Whether a text stands before another one when their bytes are compared one by one. -/
def ByteLt (a b : String) : Prop :=
  List.Lex (· < ·) (bytes a) (bytes b)

theorem bytes_eq (text : String) : bytes text = text.toList.flatMap charBytes := by
  have h : text.toUTF8 = text.toList.utf8Encode := by simp
  rw [bytes, h, List.utf8Encode, List.data_toByteArray, List.map_flatMap]
  rfl

theorem bytes_append (a b : String) : bytes (a ++ b) = bytes a ++ bytes b := by
  rw [bytes_eq, bytes_eq, bytes_eq, String.toList_append, List.flatMap_append]

theorem length_bytes (text : String) : (bytes text).length = text.utf8ByteSize := by
  rw [bytes, List.length_map]
  rfl

/-! ## Characters -/

theorem toNat_lt (c : Char) : c.toNat < 0x110000 := by
  rcases c.valid with h | ⟨-, h⟩
  · exact Nat.lt_trans h (by decide)
  · exact h

/-- The first byte tells how many there are, and the others hold six bits each. -/
theorem charBytes_eq (c : Char) :
    charBytes c =
      if c.toNat ≤ 0x7f then [c.toNat]
      else if c.toNat ≤ 0x7ff then [c.toNat / 64 + 0xc0, c.toNat % 64 + 0x80]
      else if c.toNat ≤ 0xffff then
        [c.toNat / 4096 + 0xe0, c.toNat / 64 % 64 + 0x80, c.toNat % 64 + 0x80]
      else
        [c.toNat / 262144 + 0xf0, c.toNat / 4096 % 64 + 0x80, c.toNat / 64 % 64 + 0x80,
          c.toNat % 64 + 0x80] := by
  have hmax := toNat_lt c
  have hval : c.val.toNat = c.toNat := rfl
  unfold charBytes String.utf8EncodeChar
  simp only [hval]
  split
  · simp; omega
  · split
    · simp; omega
    · split
      · simp; omega
      · simp; omega

theorem charBytes_ne_nil (c : Char) : charBytes c ≠ [] := by
  simp [charBytes]

/-- The bytes of a smaller character are smaller, whatever follows. -/
theorem lex_charBytes {c d : Char} (h : c < d) (xs ys : List Nat) :
    List.Lex (· < ·) (charBytes c ++ xs) (charBytes d ++ ys) := by
  have hlt : c.toNat < d.toNat := h
  rw [charBytes_eq, charBytes_eq]
  -- more bytes start with a greater one, and of as many the first that differ decide
  split_ifs <;> simp only [List.cons_append, List.nil_append, List.cons_lex_cons_iff] <;> omega

/-! ## Texts -/

theorem lex_append_left {xs ys : List Nat} (h : List.Lex (· < ·) xs ys) (common : List Nat) :
    List.Lex (· < ·) (common ++ xs) (common ++ ys) := by
  induction common with
  | nil => exact h
  | cons _ _ ih => exact .cons ih

theorem lex_flatMap_charBytes {cs ds : List Char} (h : List.Lex (· < ·) cs ds) :
    List.Lex (· < ·) (cs.flatMap charBytes) (ds.flatMap charBytes) := by
  induction h with
  | @nil d ds =>
    obtain ⟨x, xs, hx⟩ := List.exists_cons_of_ne_nil (charBytes_ne_nil d)
    rw [List.flatMap_cons, hx]
    exact .nil
  | cons _ ih =>
    rw [List.flatMap_cons, List.flatMap_cons]
    exact lex_append_left ih _
  | rel hlt =>
    rw [List.flatMap_cons, List.flatMap_cons]
    exact lex_charBytes hlt _ _

theorem byteLt_of_lt {a b : String} (h : a < b) : ByteLt a b := by
  rw [ByteLt, bytes_eq, bytes_eq]
  exact lex_flatMap_charBytes h

/-- Texts stand in the order of their bytes. -/
theorem byteLt_iff {a b : String} : ByteLt a b ↔ a < b := by
  refine ⟨fun h => ?_, byteLt_of_lt⟩
  rcases lt_trichotomy a b with hlt | rfl | hgt
  · exact hlt
  · exact absurd h (List.lt_irrefl (bytes a))
  · exact absurd h (List.lt_asymm (byteLt_of_lt hgt))

end UiPolicy.Text
