import UiPolicy.Toml.Value

/-!
# Reading TOML scalars

Strings in their four forms, numbers, truth values, dates and times. Every reader takes its part off
the front of a text and returns the rest, or nothing if the text does not start that way.
-/

namespace UiPolicy.Toml

/-- Whether a character may stand in a comment or a literal string. -/
def isPlainChar (c : Char) : Bool :=
  c = '\t' || (0x20 ≤ c.toNat && c.toNat ≠ 0x7F)

/-- A text without the blanks and tabs at its start. -/
def skipBlanks (cs : List Char) : List Char :=
  cs.dropWhile fun c => c = ' ' ∨ c = '\t'

/-- A text without the line break at its start. -/
def lineBreak? : List Char → Option (List Char)
  | '\n' :: cs | '\r' :: '\n' :: cs => some cs
  | _ => none

/-! ## Strings -/

def hexNumber? (cs : List Char) : Option Nat :=
  cs.foldl (fun sum c => do
    let sum ← sum
    if c.isDigit then some (sum * 16 + (c.toNat - '0'.toNat))
    else if 'a' ≤ c ∧ c ≤ 'f' then some (sum * 16 + (c.toNat - 'a'.toNat + 10))
    else if 'A' ≤ c ∧ c ≤ 'F' then some (sum * 16 + (c.toNat - 'A'.toNat + 10))
    else none) (some 0)

/-- The character of a code point written in `n` hexadecimal digits. -/
def readCodePoint (n : Nat) (cs : List Char) : Option Char := do
  let digits := cs.take n
  if digits.length < n then none
  else
    let code ← hexNumber? digits
    if code.isValidChar then some (Char.ofNat code) else none

/-- The character of an escape, its backslash read, and the number of characters that write it. -/
def readEscape : List Char → Option (Char × Nat)
  | 'b' :: _ => some ('\x08', 1)
  | 't' :: _ => some ('\t', 1)
  | 'n' :: _ => some ('\n', 1)
  | 'f' :: _ => some ('\x0c', 1)
  | 'r' :: _ => some ('\r', 1)
  | '"' :: _ => some ('"', 1)
  | '\\' :: _ => some ('\\', 1)
  | 'u' :: cs => (readCodePoint 4 cs).map (·, 5)
  | 'U' :: cs => (readCodePoint 8 cs).map (·, 9)
  | _ => none

/-- A reading with a character in front of its text. -/
def push (c : Char) : Option (List Char × List Char) → Option (List Char × List Char) :=
  Option.map fun (text, rest) => (c :: text, rest)

/-- The rest of a string between quotes. The number bounds the characters read. -/
def readBasic : Nat → List Char → Option (List Char × List Char)
  | 0, _ | _, [] => none
  | _, '"' :: cs => some ([], cs)
  | fuel + 1, '\\' :: cs => do
    let (c, taken) ← readEscape cs
    push c (readBasic fuel (cs.drop taken))
  | fuel + 1, c :: cs => if isPlainChar c then push c (readBasic fuel cs) else none

/-- The rest of a string between apostrophes. -/
def readLiteral : List Char → Option (List Char × List Char)
  | [] => none
  | c :: cs =>
    if c = '\'' then some ([], cs)
    else if isPlainChar c then push c (readLiteral cs)
    else none

/-- The characters of a closing delimiter: up to two more of its kind belong to the string. -/
def closing? (delimiter : Char) (cs : List Char) : Option (List Char × List Char) :=
  let count := (cs.takeWhile (· = delimiter)).length
  if count < 3 then none
  else some (List.replicate (min count 5 - 3) delimiter, cs.drop (min count 5))

/-- A text without the blanks, tabs and line breaks at its start. -/
def skipLines : Nat → List Char → List Char
  | 0, cs => cs
  | fuel + 1, cs =>
    match lineBreak? (skipBlanks cs) with
    | some rest => skipLines fuel rest
    | none => skipBlanks cs

/-- The rest of a string of several lines between quotes. A backslash at the end of a line takes
the line break and all white space after it away. -/
def readBasicLines : Nat → List Char → Option (List Char × List Char)
  | 0, _ | _, [] => none
  | fuel + 1, c :: cs =>
    match closing? '"' (c :: cs), lineBreak? (c :: cs) with
    | some found, _ => some found
    | none, some rest => push '\n' (readBasicLines fuel rest)
    | none, none =>
      if c = '\\' then
        match lineBreak? (skipBlanks cs) with
        | some rest => readBasicLines fuel (skipLines rest.length rest)
        | none => do
          let (c, taken) ← readEscape cs
          push c (readBasicLines fuel (cs.drop taken))
      else if isPlainChar c then push c (readBasicLines fuel cs)
      else none

/-- The rest of a string of several lines between apostrophes. -/
def readLiteralLines : Nat → List Char → Option (List Char × List Char)
  | 0, _ | _, [] => none
  | fuel + 1, c :: cs =>
    match closing? '\'' (c :: cs), lineBreak? (c :: cs) with
    | some found, _ => some found
    | none, some rest => push '\n' (readLiteralLines fuel rest)
    | none, none => if isPlainChar c then push c (readLiteralLines fuel cs) else none

/-- A text without a line break at its start. -/
def skipFirstBreak (cs : List Char) : List Char :=
  (lineBreak? cs).getD cs

/-- A string in any of its forms. -/
def readString (cs : List Char) : Option (String × List Char) :=
  let text (r : Option (List Char × List Char)) : Option (String × List Char) :=
    r.map fun (text, rest) => (String.ofList text, rest)
  match cs with
  | '"' :: '"' :: '"' :: cs => text (readBasicLines (cs.length + 1) (skipFirstBreak cs))
  | '"' :: cs => text (readBasic (cs.length + 1) cs)
  | '\'' :: '\'' :: '\'' :: cs => text (readLiteralLines (cs.length + 1) (skipFirstBreak cs))
  | '\'' :: cs => text (readLiteral cs)
  | _ => none

/-! ## Numbers -/

/-- Digits with single underscores between them. -/
def readDigits (isDigit : Char → Bool) : List Char → Option (List Char × List Char)
  | [] => none
  | c :: cs =>
    if isDigit c then
      match cs with
      | '_' :: d :: rest =>
        if isDigit d then push c (readDigits isDigit (d :: rest)) else some ([c], cs)
      | d :: rest => if isDigit d then push c (readDigits isDigit (d :: rest)) else some ([c], cs)
      | [] => some ([c], [])
    else none

def digitsValue (base : Nat) (digits : List Char) : Nat :=
  digits.foldl (fun sum c => sum * base + ((hexNumber? [c]).getD 0)) 0

/-- An integer of 63 bits and a sign. -/
def integerValue? (value : Int) : Option Value :=
  if -Int.pow 2 63 ≤ value ∧ value < Int.pow 2 63 then some (.integer value) else none

/-- A sign, and whether it is negative. -/
def readSign : List Char → Bool × List Char
  | '-' :: cs => (true, cs)
  | '+' :: cs => (false, cs)
  | cs => (false, cs)

/-- Decimal digits of which the first is no needless zero. -/
def readWhole (cs : List Char) : Option (List Char × List Char) := do
  let (digits, rest) ← readDigits Char.isDigit cs
  match digits, rest with
  | ['0'], rest => some (digits, rest)
  | '0' :: _, _ => some (['0'], cs.drop 1)
  | _, _ => some (digits, rest)

/-- An integer in base sixteen, eight or two, after its mark. -/
def readMarkedInteger (base : Nat) (isDigit : Char → Bool) (cs : List Char) :
    Option (Value × List Char) := do
  let (digits, rest) ← readDigits isDigit cs
  return (← integerValue? (digitsValue base digits), rest)

/-- The part of a number after its point, if there is one. -/
def readFraction (cs : List Char) : Option (List Char × List Char) :=
  match cs with
  | '.' :: cs => readDigits Char.isDigit cs
  | cs => some ([], cs)

/-- The exponent of a number, if there is one. -/
def readExponent (cs : List Char) : Option (Option Int × List Char) :=
  match cs with
  | 'e' :: cs | 'E' :: cs => do
    let (negative, cs) := readSign cs
    let (digits, rest) ← readDigits Char.isDigit cs
    let exponent : Int := digitsValue 10 digits
    return (some (if negative then -exponent else exponent), rest)
  | cs => some (none, cs)

/-- The double nearest to a decimal. An exponent that is out of every range is cut. -/
def decimalValue (digits : Nat) (exponent : Int) : Float :=
  if digits = 0 then 0
  else if 400 < exponent then Float.ofScientific 1 false 400
  else if exponent < 0 then Float.ofScientific digits true (min (-exponent).toNat 100000)
  else Float.ofScientific digits false exponent.toNat

/-- A decimal number: an integer, or a double if it has a point or an exponent. A positive one that
is out of range is refused. -/
def readDecimal (cs : List Char) : Option (Value × List Char) := do
  let (negative, cs) := readSign cs
  match cs with
  | 'i' :: 'n' :: 'f' :: rest =>
    let infinity : Float := 1 / 0
    return (.float (if negative then -infinity else infinity), rest)
  | 'n' :: 'a' :: 'n' :: rest => return (.float (0 / 0), rest)
  | cs =>
    let (whole, rest) ← readWhole cs
    let (fraction, rest) ← readFraction rest
    let (exponent, rest) ← readExponent rest
    if fraction.isEmpty && exponent.isNone then
      let value : Int := digitsValue 10 whole
      return (← integerValue? (if negative then -value else value), rest)
    else
      let x := decimalValue (digitsValue 10 (whole ++ fraction))
        (exponent.getD 0 - fraction.length)
      if x.isInf && !negative then none
      else return (.float (if negative then -x else x), rest)

/-! ## Dates and times -/

/-- A number of exactly `n` digits. -/
def readFixed (n : Nat) (cs : List Char) : Option (Nat × List Char) :=
  let digits := cs.take n
  if digits.length = n ∧ digits.all Char.isDigit then some (digitsValue 10 digits, cs.drop n)
  else none

/-- A text after a given character. -/
def expectChar (c : Char) : List Char → Option (List Char)
  | d :: cs => if c = d then some cs else none
  | [] => none

def daysOfMonth (year month : Nat) : Nat :=
  if month = 2 then
    if year % 4 = 0 ∧ (year % 100 ≠ 0 ∨ year % 400 = 0) then 29 else 28
  else if [4, 6, 9, 11].contains month then 30
  else 31

/-- A number with zeros in front. -/
def padded (width n : Nat) : String :=
  let digits := toString n
  String.ofList (List.replicate (width - digits.length) '0') ++ digits

/-- A day in its normal text. -/
def readDate (cs : List Char) : Option (String × List Char) := do
  let (year, cs) ← readFixed 4 cs
  let (month, cs) ← readFixed 2 (← expectChar '-' cs)
  let (day, cs) ← readFixed 2 (← expectChar '-' cs)
  if 1 ≤ month ∧ month ≤ 12 ∧ 1 ≤ day ∧ day ≤ daysOfMonth year month then
    some (padded 4 year ++ "-" ++ padded 2 month ++ "-" ++ padded 2 day, cs)
  else none

/-- The parts of a second in their normal text; nine places count. -/
def readSecondParts (cs : List Char) : Option (String × List Char) :=
  match cs with
  | '.' :: rest =>
    match rest.takeWhile Char.isDigit with
    | [] => none
    | digits =>
      let kept := ((digits.take 9).reverse.dropWhile (· = '0')).reverse
      some (if kept.isEmpty then "" else "." ++ String.ofList kept, rest.dropWhile Char.isDigit)
  | cs => some ("", cs)

/-- A time of day in its normal text. -/
def readTime (cs : List Char) : Option (String × List Char) := do
  let (hour, cs) ← readFixed 2 cs
  let (minute, cs) ← readFixed 2 (← expectChar ':' cs)
  let (second, cs) ← readFixed 2 (← expectChar ':' cs)
  let (parts, cs) ← readSecondParts cs
  if hour ≤ 23 ∧ minute ≤ 59 ∧ second ≤ 60 then
    some (padded 2 hour ++ ":" ++ padded 2 minute ++ ":" ++ padded 2 second ++ parts, cs)
  else none

/-- The distance from universal time in its normal text, if there is one. A distance of nothing is
positive. -/
def readOffset (cs : List Char) : Option (String × List Char) :=
  let distance (sign : String) (cs : List Char) : Option (String × List Char) := do
    let (hour, cs) ← readFixed 2 cs
    let (minute, cs) ← readFixed 2 (← expectChar ':' cs)
    let sign := if hour = 0 ∧ minute = 0 then "+" else sign
    if hour ≤ 23 ∧ minute ≤ 59 then some (sign ++ padded 2 hour ++ ":" ++ padded 2 minute, cs)
    else none
  match cs with
  | 'Z' :: cs | 'z' :: cs => some ("Z", cs)
  | '+' :: cs => distance "+" cs
  | '-' :: cs => distance "-" cs
  | cs => some ("", cs)

/-- Whether the text goes on with a time after a day. -/
def startsTime (cs : List Char) : Bool :=
  match cs with
  | 'T' :: _ | 't' :: _ => true
  | ' ' :: d :: _ => d.isDigit
  | _ => false

/-- A day, a time, or both, in their normal text. -/
def readDatetime (cs : List Char) : Option (Value × List Char) :=
  match (cs.drop 2).head?, (cs.drop 4).head? with
  | some ':', _ => (readTime cs).map fun (time, rest) => (.datetime time, rest)
  | _, some '-' => do
    let (date, rest) ← readDate cs
    if startsTime rest then
      let (time, rest) ← readTime (rest.drop 1)
      let (offset, rest) ← readOffset rest
      return (.datetime (date ++ "T" ++ time ++ offset), rest)
    else return (.datetime date, rest)
  | _, _ => none

/-- Whether a text starts like a day or a time. -/
def startsDatetime (cs : List Char) : Bool :=
  ((cs.take 2).all Char.isDigit && (cs.drop 2).head? = some ':') ||
    ((cs.take 4).all Char.isDigit && (cs.take 4).length = 4 && (cs.drop 4).head? = some '-')

def isHexDigit (c : Char) : Bool :=
  (hexNumber? [c]).isSome

/-- A number, a truth value, a date or a time. -/
def readBareScalar (cs : List Char) : Option (Value × List Char) :=
  match cs with
  | 't' :: 'r' :: 'u' :: 'e' :: rest => some (.bool true, rest)
  | 'f' :: 'a' :: 'l' :: 's' :: 'e' :: rest => some (.bool false, rest)
  | '0' :: 'x' :: rest => readMarkedInteger 16 isHexDigit rest
  | '0' :: 'o' :: rest => readMarkedInteger 8 (fun c => '0' ≤ c && c ≤ '7') rest
  | '0' :: 'b' :: rest => readMarkedInteger 2 (fun c => c = '0' || c = '1') rest
  | cs => if startsDatetime cs then readDatetime cs else readDecimal cs

end UiPolicy.Toml
