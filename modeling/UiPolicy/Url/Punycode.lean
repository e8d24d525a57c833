/-!
# International labels

A label of a host name that starts with `xn--` stands for a text beyond ASCII. After the mark come
the ASCII characters of the text, a dash if there are any, and numbers in base 36: one for each
other character, which says how far its code point and its place are from those of the one before.

A number is written from its lowest digit on, and a digit below a threshold is its last one. The
threshold adapts to the numbers read so far.
-/

namespace UiPolicy.Url

/-- The value of a digit in base 36: letters come before digits. -/
def digit36? (c : Char) : Option Nat :=
  if 'a' ≤ c ∧ c ≤ 'z' then some (c.toNat - 'a'.toNat)
  else if 'A' ≤ c ∧ c ≤ 'Z' then some (c.toNat - 'A'.toNat)
  else if c.isDigit then some (c.toNat - '0'.toNat + 26)
  else none

/-- The bias that follows from how far the last character was, reduced until it is small. -/
def biasOf (distance steps : Nat) : Nat :=
  if 455 < distance then biasOf (distance / 35) (steps + 36)
  else steps + 36 * distance / (distance + 38)
termination_by distance
decreasing_by omega

/-- How far the reading of a label has come. -/
structure LabelReading where
  text : List Char
  /-- The code point of the character that was put in last. -/
  code : Nat
  /-- The place after that character. -/
  start : Nat
  bias : Nat
  /-- The place with the digits of the current number added. -/
  place : Nat
  /-- What the next digit counts. -/
  weight : Nat
  /-- Thirty-six for each digit of the current number, the next one included. -/
  steps : Nat

namespace LabelReading

/-- The reading of a label after its ASCII characters. -/
def ofAscii (ascii : List Char) : LabelReading :=
  ⟨ascii, 128, 0, 72, 0, 1, 36⟩

/-- The reading after a digit that is the last one of its number: a character goes to its place. -/
def putCharacter (r : LabelReading) : Option LabelReading :=
  let length := r.text.length + 1
  let distance := (r.place - r.start) / (if r.start = 0 then 700 else 2)
  let code := r.code + r.place / length
  let place := r.place % length
  if code.isValidChar then
    some {
      text := r.text.take place ++ Char.ofNat code :: r.text.drop place
      code
      start := place + 1
      bias := biasOf (distance + distance / length) 0
      place := place + 1
      weight := 1
      steps := 36 }
  else none

def readDigit (r : LabelReading) (c : Char) : Option LabelReading := do
  let digit ← digit36? c
  let threshold := min 26 (max 1 (r.steps - r.bias))
  let r := { r with place := r.place + digit * r.weight }
  if Nat.pow 2 32 ≤ r.place then none
  else if digit < threshold then r.putCharacter
  else some { r with weight := r.weight * (36 - threshold), steps := r.steps + 36 }

end LabelReading

/-- The text that a label stands for, given what follows its mark. -/
def readLabel? (cs : List Char) : Option (List Char) := do
  let (ascii, digits) := match cs.reverse.dropWhile (· ≠ '-') with
    | [] => ([], cs)
    | _ :: ascii => (ascii.reverse, (cs.reverse.takeWhile (· ≠ '-')).reverse)
  let r ← digits.foldlM LabelReading.readDigit (.ofAscii ascii)
  if r.steps = 36 then some r.text else none

/-- What follows the mark of an international label. -/
def afterMark? : List Char → Option (List Char)
  | x :: n :: '-' :: '-' :: rest =>
    if x.toLower = 'x' ∧ n.toLower = 'n' then some rest else none
  | _ => none

end UiPolicy.Url
