import UiPolicy.Decimal.Layout

/-!
# Log records

A record is a level, the part of the program it comes from, a message, and named values.
-/

namespace UiPolicy.Logging

/-- How much a record matters; the first level matters most. -/
inductive Level
  | error
  | warn
  | info
  | debug
  | trace
deriving Repr, DecidableEq

namespace Level

def name : Level → String
  | .error => "ERROR"
  | .warn => "WARN"
  | .info => "INFO"
  | .debug => "DEBUG"
  | .trace => "TRACE"

def rank : Level → Nat
  | .error => 1
  | .warn => 2
  | .info => 3
  | .debug => 4
  | .trace => 5

end Level

/-- A value of a record. -/
inductive FieldValue
  /-- A text that a line of text shows in quotes. -/
  | quoted (text : String)
  /-- A text that is shown as it is. -/
  | plain (text : String)
  | natural (n : Nat)
  | float (x : Float)
  | bool (value : Bool)
deriving Repr

/-- One entry of the log. -/
structure Record where
  level : Level
  target : String
  message : String
  fields : List (String × FieldValue)
deriving Repr

/-- The text of a value without quotes. -/
def FieldValue.text : FieldValue → String
  | .quoted text | .plain text => text
  | .natural n => toString n
  | .float x => Decimal.recordLayout.write x
  | .bool value => toString value

end UiPolicy.Logging
