import UiPolicy.Text.Printable
import UiPolicy.Text.Search
import UiPolicy.Url.Punycode

/-!
# Hosts

The host of a web address is a name, four numbers, or an IPv6 address in square brackets. Only
whether a host may stand is decided here, and what is wrong with it if it may not.

A name that ends in a number has to be an IPv4 address: one to four numbers, decimal, octal or
hexadecimal, of which the last fills the bytes that are left.
-/

namespace UiPolicy.Url

/-- Why a text is no address. -/
inductive UrlError
  | relative
  | emptyHost
  | invalidPort
  | invalidIpv4
  | invalidIpv6
  | invalidName
  | invalidCharacter
deriving Repr, DecidableEq

def UrlError.message : UrlError → String
  | .relative => "relative URL without a base"
  | .emptyHost => "empty host"
  | .invalidPort => "invalid port number"
  | .invalidIpv4 => "invalid IPv4 address"
  | .invalidIpv6 => "invalid IPv6 address"
  | .invalidName => "invalid international domain name"
  | .invalidCharacter => "invalid domain character"

def hexDigit? (c : Char) : Option Nat :=
  if c.isDigit then some (c.toNat - '0'.toNat)
  else if 'a' ≤ c ∧ c ≤ 'f' then some (c.toNat - 'a'.toNat + 10)
  else if 'A' ≤ c ∧ c ≤ 'F' then some (c.toNat - 'A'.toNat + 10)
  else none

/-! ## IPv4 -/

/-- The number that digits write in a base, if all of them are digits of the base. -/
def numberIn (base : Nat) (digits : List Char) : Option Nat :=
  digits.foldl (fun sum c => do
    let sum ← sum
    let digit ← hexDigit? c
    if digit < base then some (sum * base + digit) else none) (some 0)

/-- A number of an IPv4 address: hexadecimal after `0x`, octal after `0`, else decimal. -/
def ipv4Number? : List Char → Option Nat
  | [] => none
  | '0' :: 'x' :: digits | '0' :: 'X' :: digits => numberIn 16 digits
  | '0' :: d :: digits => numberIn 8 (d :: digits)
  | digits => numberIn 10 digits

/-- The parts of a name, without an empty one at its end. -/
def nameParts (name : List Char) : List (List Char) :=
  let parts := Text.splitAt '.' name
  match parts.reverse with
  | [] :: rest@(_ :: _) => rest.reverse
  | _ => parts

/-- Whether a name has to be an IPv4 address. -/
def endsInNumber (name : List Char) : Bool :=
  match (nameParts name).getLast? with
  | none | some [] => false
  | some last => last.all Char.isDigit || (ipv4Number? last).isSome

/-- Whether numbers make an IPv4 address. -/
def isIpv4 (numbers : List Nat) : Bool :=
  match numbers.reverse with
  | [] => false
  | last :: others =>
    numbers.length ≤ 4 && last < Nat.pow 2 (8 * (4 - others.length)) && others.all (· ≤ 255)

/-! ## IPv6 -/

/-- Whether a text is four decimal numbers below 256 without needless zeros. -/
def isDottedQuad (cs : List Char) : Bool :=
  let parts := Text.splitAt '.' cs
  parts.length == 4 && parts.all fun part =>
    match part with
    | [] => false
    | '0' :: _ :: _ => false
    | digits => digits.length ≤ 3 && (numberIn 10 digits).any (· ≤ 255)

/-- Whether a text is one to four hexadecimal digits. -/
def isHexPiece (cs : List Char) : Bool :=
  !cs.isEmpty && cs.length ≤ 4 && (numberIn 16 cs).isSome

/-- The number of 16-bit pieces that a side of an IPv6 address writes; `isLast` allows an IPv4
address at its end. -/
def pieceCount? (isLast : Bool) (cs : List Char) : Option Nat :=
  if cs.isEmpty then some 0
  else
    let parts := Text.splitAt ':' cs
    let (front, tail) := match parts.reverse with
      | last :: rest => if isLast && isDottedQuad last then (rest, 2) else (parts, 0)
      | [] => (parts, 0)
    if front.all isHexPiece then some (front.length + tail) else none

/-- Whether a text is an IPv6 address. Two colons, at most once, stand for one or more zeros. -/
def isIpv6 (cs : List Char) : Bool :=
  match Text.cutAt? [':', ':'] cs with
  | none => pieceCount? true cs == some 8
  | some (before, after) =>
    match pieceCount? false before, pieceCount? true after with
    | some m, some n => m + n ≤ 7
    | _, _ => false

/-- What stands in square brackets has to be an IPv6 address. -/
def checkBracketed (host : List Char) : Except UrlError Unit :=
  if host.getLast? = some ']' ∧ isIpv6 (host.drop 1).dropLast then .ok () else .error .invalidIpv6

/-! ## Names -/

/-- The bytes of a text, each `%` with two hexadecimal digits taken for the byte it writes. -/
def percentDecode : List Char → List UInt8
  | [] => []
  | '%' :: a :: b :: cs =>
    match hexDigit? a, hexDigit? b with
    | some high, some low => (high * 16 + low).toUInt8 :: percentDecode cs
    | _, _ => '%'.toString.toUTF8.toList ++ percentDecode (a :: b :: cs)
  | c :: cs => c.toString.toUTF8.toList ++ percentDecode cs

/-- Characters that a name may hold and that do not count. -/
def ignoredRanges : List (Nat × Nat) :=
  [(0xAD, 0xAD), (0x34F, 0x34F), (0x180B, 0x180D), (0x180F, 0x180F), (0x200B, 0x200B),
    (0x2060, 0x2060), (0x2064, 0x2064), (0xFE00, 0xFE0F), (0xFEFF, 0xFEFF), (0xE0100, 0xE01EF)]

/-- A character of a name in its plain form: full-width characters and stops become ASCII. -/
def plainChar (c : Char) : Char :=
  if 0xFF01 ≤ c.toNat ∧ c.toNat ≤ 0xFF5E ∧ c.toNat ≠ 0xFF0E then
    Char.ofNat (c.toNat - 0xFF01 + 0x21)
  else if c.toNat = 0x3002 ∨ c.toNat = 0xFF0E ∨ c.toNat = 0xFF61 then '.'
  else c

/-- Characters that no name may hold. -/
def isForbidden (c : Char) : Bool :=
  c.toNat ≤ 0x20 || c.toNat == 0x7F || "#/:<>?@[\\]^|%".toList.contains c ||
    (0x80 ≤ c.toNat && !Text.isPrintable c) || c.toNat == 0xFFFD

/-- Whether a label may stand in a name. What an international label stands for has to reach beyond
ASCII, and to be a label itself. -/
def isLabel (label : List Char) : Bool :=
  let text := match afterMark? label with
    | none => some label
    | some rest => (readLabel? rest).filter fun text => text.any fun c => 0x80 ≤ c.toNat
  text.any fun text => !text.any isForbidden && !text.head?.any Text.isAttaching

/-- A name in its plain form, unless it holds a forbidden character. -/
def plainName (host : List Char) : Except UrlError (List Char) :=
  match String.fromUTF8? ⟨(percentDecode host).toArray⟩ with
  | none => .error .invalidName
  | some name =>
    let plain := (name.toList.filter (!Text.inRanges ignoredRanges ·)).map plainChar
    if (Text.splitAt '.' plain).all isLabel then .ok plain else .error .invalidName

/-- Whether a host of a web address may stand. -/
def checkHost (host : List Char) : Except UrlError Unit := do
  if host.head? = some '[' then checkBracketed host
  else
    let name ← plainName host
    if name.isEmpty then throw .emptyHost
    if endsInNumber name then
      match (nameParts name).mapM ipv4Number? with
      | some numbers => if !isIpv4 numbers then throw .invalidIpv4
      | none => throw .invalidIpv4

/-- Whether a host of another address may stand; it is taken as it is. -/
def checkOpaqueHost (host : List Char) : Except UrlError Unit :=
  if host.head? = some '[' then checkBracketed host
  else if host.any fun c => c = '\x00' ∨ "\t\n\r #/:<>?@[\\]^|".toList.contains c then
    .error .invalidCharacter
  else .ok ()

end UiPolicy.Url
