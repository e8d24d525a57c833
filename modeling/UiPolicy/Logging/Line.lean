import UiPolicy.Json.Value
import UiPolicy.Logging.Record
import UiPolicy.Text.Quoted

/-!
# Log lines

A record is written as one line: a text for people, on a terminal in colour, or a JSON object.
-/

namespace UiPolicy.Logging

/-- How records are written. -/
inductive LineFormat
  | text (color : Bool)
  | json
deriving Repr, DecidableEq

/-- A text between a terminal's style codes. -/
def styled (color : Bool) (code : String) (text : String) : String :=
  if color then "\x1b[" ++ code ++ "m" ++ text ++ "\x1b[0m" else text

def Level.colorCode : Level → String
  | .error => "31"
  | .warn => "33"
  | .info => "32"
  | .debug => "34"
  | .trace => "35"

/-- A level at the right of five columns. -/
def Level.column (level : Level) : String :=
  String.ofList (List.replicate (5 - level.name.length) ' ') ++ level.name

/-- A character of a message as it is shown; what would steer a terminal is spelled out. -/
def shownChar (c : Char) : String :=
  match c with
  | '\x1b' => "\\x1b"
  | '\x07' => "\\x07"
  | '\x08' => "\\x08"
  | '\x0c' => "\\x0c"
  | '\x7f' => "\\x7f"
  | c =>
    if 0x80 ≤ c.toNat ∧ c.toNat ≤ 0x9F then
      "\\u\x7b" ++ String.ofList (Text.hexDigits c.toNat) ++ "\x7d"
    else c.toString

def FieldValue.shown : FieldValue → String
  | .quoted text => Text.quoted text
  | value => value.text

def Record.textLine (r : Record) (color : Bool) (time : String) : String :=
  let fields := r.fields.map fun (name, value) =>
    " " ++ styled color "3" name ++ styled color "2" "=" ++ value.shown
  styled color "2" time ++ " " ++ styled color r.level.colorCode r.level.column ++ " " ++
    styled color "2" r.target ++ styled color "2" ":" ++ " " ++
    String.join (r.message.toList.map shownChar) ++ String.join fields

def FieldValue.toJson : FieldValue → Json
  | .quoted text | .plain text => .string text
  | .natural n => .ofNat n
  | .float x => .ofFloat x
  | .bool value => .bool value

def Record.toJson (r : Record) (time : String) : Json :=
  .object [("timestamp", .string time), ("level", .string r.level.name),
    ("fields", .object
      (("message", .string r.message) :: r.fields.map fun (name, value) => (name, value.toJson))),
    ("target", .string r.target)]

/-- A record as a line, without a line break at its end. -/
def Record.line (r : Record) (format : LineFormat) (time : String) : String :=
  match format with
  | .text color => r.textLine color time
  | .json => (r.toJson time).compact

end UiPolicy.Logging
