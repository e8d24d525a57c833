import UiPolicy.Decimal.Layout
import UiPolicy.Json.Fault

/-!
# Numbers in JSON texts

A numeral is read in two steps: its digits are taken from the text, then they are given a value. A
whole number that fits into 64 bits is an integer; every other numeral, and minus zero, is a double.

The double is not always the one nearest to the numeral. The digits fill a 64-bit word as long as
they fit, later digits only count as places, and the word is then multiplied or divided once by a
power of ten.
-/

namespace UiPolicy.Json

/-- A number: an integer between `-2^63` and `2^64 - 1`, or a double. -/
inductive Number
  | integer (value : Int)
  | float (value : Float)
deriving Repr

/-- The text of a number. A double without a finite value is written as null. -/
def Number.text : Number → String
  | .integer value => toString value
  | .float value =>
    if value.isNaN || value.isInf then "null" else Decimal.jsonLayout.write value

/-- The double nearest to a number. -/
def Number.toFloat : Number → Float
  | .integer value => Float.ofInt value
  | .float value => value

/-! ## The digits of a numeral -/

/-- The exponent part of a numeral. -/
structure ExponentPart where
  negative : Bool
  digits : List Nat
deriving Repr, DecidableEq

/-- A numeral as it stands in the text. The fraction is empty if there is no point. -/
structure Numeral where
  negative : Bool
  whole : List Nat
  fraction : List Nat
  exponent : Option ExponentPart
deriving Repr, DecidableEq

def digitValue (c : Char) : Nat :=
  c.toNat - '0'.toNat

/-- The digits at the start of a text, and the rest. -/
def takeDigits (cs : List Char) : List Nat × List Char :=
  ((cs.takeWhile Char.isDigit).map digitValue, cs.dropWhile Char.isDigit)

/-- The fault when a digit is due: the text ends, or something else stands there. -/
def noDigit : List Char → Fault
  | [] => .endInValue
  | _ :: _ => .invalidNumber

/-- The part from the exponent mark on, if there is one. -/
def readExponentPart (cs : List Char) : Except Fault (Option ExponentPart × List Char) :=
  match cs with
  | 'e' :: rest | 'E' :: rest =>
    let (negative, rest) := match rest with
      | '-' :: rest => (true, rest)
      | '+' :: rest => (false, rest)
      | rest => (false, rest)
    match takeDigits rest with
    | ([], rest) => .error (noDigit rest)
    | (digits, rest) => .ok (some ⟨negative, digits⟩, rest)
  | rest => .ok (none, rest)

/-- The part from the point on, if there is one. -/
def readFraction (cs : List Char) : Except Fault (List Nat × List Char) :=
  match cs with
  | '.' :: rest =>
    match takeDigits rest with
    | ([], rest) => .error (noDigit rest)
    | (digits, rest) => .ok (digits, rest)
  | rest => .ok ([], rest)

/-- The digits before the point: a zero stands alone. -/
def readWhole (cs : List Char) : Except Fault (List Nat × List Char) :=
  match takeDigits cs with
  | ([], rest) => .error (noDigit rest)
  | (0 :: _ :: _, _) => .error .invalidNumber
  | (digits, rest) => .ok (digits, rest)

/-- The numeral at the start of a text, and the rest. -/
def readNumeral (cs : List Char) : Except Fault (Numeral × List Char) := do
  let (negative, rest) := match cs with
    | '-' :: rest => (true, rest)
    | rest => (false, rest)
  let (whole, rest) ← readWhole rest
  let (fraction, rest) ← readFraction rest
  let (exponent, rest) ← readExponentPart rest
  return (⟨negative, whole, fraction, exponent⟩, rest)

/-! ## The value of a numeral -/

/-- Digits taken into a word below `limit` as long as they fit, and the number of those left. -/
def absorb (limit : Nat) : Nat → List Nat → Nat × Nat
  | word, [] => (word, 0)
  | word, d :: ds =>
    if word * 10 + d < limit then absorb limit (word * 10 + d) ds else (word, ds.length + 1)

def powerOfTen (n : Nat) : Float :=
  Float.ofScientific 1 false n

/-- Division by a power of ten in steps of at most `10 ^ 308`. -/
def divideByPower (x : Float) (n : Nat) : Float :=
  if x == 0 then x
  else if n ≤ 308 then x / powerOfTen n
  else divideByPower (x / powerOfTen 308) (n - 308)
termination_by n

/-- A word times a power of ten; too large a product is a fault. -/
def scaleWord (word : Nat) (exponent : Int) : Except Fault Float :=
  let x := word.toUInt64.toFloat
  if 0 ≤ exponent then
    if exponent ≤ 308 then
      let y := x * powerOfTen exponent.toNat
      if y.isInf then .error .numberOutOfRange else .ok y
    else if word = 0 then .ok x
    else .error .numberOutOfRange
  else .ok (divideByPower x (-exponent).toNat)

def Numeral.value (n : Numeral) : Except Fault Number := do
  let signed (x : Float) : Number := .float (if n.negative then -x else x)
  let (whole, wholeLeft) := absorb (Nat.pow 2 64) 0 n.whole
  if n.fraction.isEmpty && n.exponent.isNone && wholeLeft = 0 then
    if !n.negative then return .integer whole
    else if whole = 0 || Nat.pow 2 63 < whole then return .float (-whole.toUInt64.toFloat)
    else return .integer (-whole)
  else
    let (word, fractionLeft) := absorb (Nat.pow 2 64) whole n.fraction
    let places : Int := wholeLeft - ((n.fraction.length : Int) - fractionLeft)
    match n.exponent with
    | none => return signed (← scaleWord word places)
    | some e =>
      match absorb (Nat.pow 2 31) 0 e.digits with
      | (exponent, 0) =>
        return signed (← scaleWord word (if e.negative then places - exponent
          else places + exponent))
      | (_, _ + 1) =>
        if word ≠ 0 && !e.negative then throw .numberOutOfRange
        return signed 0

end UiPolicy.Json
