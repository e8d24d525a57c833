import UiPolicy.Decimal.Shortest

/-!
# Writing a double

The digits of a double are its shortest decimal. Three layouts are in use: a plain one that never
has an exponent, one for JSON texts, and one for log records. They differ in the exponents that are
written positionally, in whether a whole number ends in `.0`, and in the sign of a positive
exponent.
-/

namespace UiPolicy.Decimal

/-- The decisions of a number format. -/
structure Layout where
  /-- Exponents of the leading digit that are written positionally; none means all. -/
  positional : Option (Int × Int)
  /-- Whether a whole number ends in `.0`. -/
  pointZero : Bool
  /-- What stands between `e` and a positive exponent. -/
  plus : String
  /-- Which of two equally near decimals is written. -/
  tie : Tie
deriving Repr, DecidableEq

/-- Coordinates in tables: positional, whole numbers without a point. -/
def plainLayout : Layout := ⟨none, false, "", .upward⟩

/-- Numbers inside JSON texts: always a point or an exponent, and `e+21` for large ones. -/
def jsonLayout : Layout := ⟨some (-5, 15), true, "+", .toEven⟩

/-- Numbers in log records: always a point or an exponent, and `e21` for large ones. -/
def recordLayout : Layout := ⟨some (-4, 15), true, "", .upward⟩

def zeros (n : Nat) : String :=
  String.ofList (List.replicate n '0')

/-- A decimal without exponent. -/
def positional (pointZero : Bool) (d : Decimal) : String :=
  let digits := Nat.repr d.digits
  if 0 ≤ d.exponent then
    digits ++ zeros d.exponent.toNat ++ (if pointZero then ".0" else "")
  else
    let places := (-d.exponent).toNat
    let padded := zeros (places + 1 - digits.length) ++ digits
    let split := padded.length - places
    String.ofList (padded.toList.take split) ++ "." ++ String.ofList (padded.toList.drop split)

/-- A decimal with an exponent, one digit before the point. -/
def scientific (plus : String) (leading : Int) (d : Decimal) : String :=
  let mantissa :=
    match (Nat.repr d.digits).toList with
    | first :: rest@(_ :: _) => String.ofList (first :: '.' :: rest)
    | digits => String.ofList digits
  let sign := if 0 ≤ leading then plus else ""
  mantissa ++ "e" ++ sign ++ toString leading

def Layout.write (layout : Layout) (x : Float) : String :=
  if x.isNaN then "NaN"
  else
    let sign := if isNegative x then "-" else ""
    if x.isInf then sign ++ "inf"
    else
      let d := shortest layout.tie x
      let leading := d.exponent + digitCount d.digits - 1
      let inside := match layout.positional with
        | none => true
        | some (first, last) => decide (first ≤ leading ∧ leading ≤ last)
      sign ++ (if inside then d.positional layout.pointZero else d.scientific layout.plus leading)

end UiPolicy.Decimal
