import UiPolicy.Error
import UiPolicy.Text.Blank

/-!
# Argument lists

A policy text is a list of arguments, separated by commas, in an optional pair of brackets. A comma
inside brackets belongs to its argument, and white space is kept.

* `Arguments.scan` walks over a text and stops at a bracket that closes more than was opened.
* `Arguments.split` refuses such a text; `Arguments.splitLenient` returns the tokens before it.
* `Arguments.strip` takes off the enclosing brackets.
-/

namespace UiPolicy.Arguments

/-- The tokens of a text, and where a stray bracket stopped the scan, in bytes. There is always a
first token. -/
structure Scan where
  first : List Char
  others : List (List Char)
  stray : Option Nat
deriving Repr, DecidableEq

namespace Scan

def tokens (s : Scan) : List (List Char) :=
  s.first :: s.others

/-- The scan of a text that starts one character earlier, inside the first token. -/
def extend (c : Char) (s : Scan) : Scan :=
  ⟨c :: s.first, s.others, s.stray.map (· + c.utf8Size)⟩

/-- The scan of a text that starts one comma earlier. -/
def cut (s : Scan) : Scan :=
  ⟨[], s.tokens, s.stray.map (· + ','.utf8Size)⟩

end Scan

/-- The scan of a text inside the given number of open brackets. -/
def scan : Nat → List Char → Scan
  | _, [] => ⟨[], [], none⟩
  | depth, c :: cs =>
    if c = '(' then (scan (depth + 1) cs).extend c
    else if c = ')' then
      match depth with
      | 0 => ⟨[], [], some 0⟩
      | depth + 1 => (scan depth cs).extend c
    else if c = ',' ∧ depth = 0 then (scan depth cs).cut
    else (scan depth cs).extend c

def Scan.texts (s : Scan) : List String :=
  s.tokens.map String.ofList

/-- The arguments of a text, unless a bracket is closed that was not opened. -/
def split (text : String) : Except PolicyError (List String) :=
  let s := scan 0 text.toList
  match s.stray with
  | none => .ok s.texts
  | some position => .error (.unbalancedBrackets text position s.texts)

/-- The arguments of a text up to its end or to a stray bracket, and the place of that bracket. -/
def splitLenient (text : String) : List String × Option Nat :=
  let s := scan 0 text.toList
  (s.texts, s.stray)

/-- What stands between an opening bracket at the start and a closing one at the end. -/
def unwrap? (cs : List Char) : Option (List Char) :=
  match cs with
  | '(' :: rest => if rest.getLast? = some ')' then some rest.dropLast else none
  | _ => none

/-- A text without the white space at its ends, and without one pair of enclosing brackets. -/
def strip (text : String) : String :=
  let trimmed := Text.trim text.toList
  String.ofList ((unwrap? trimmed).getD trimmed)

end UiPolicy.Arguments
