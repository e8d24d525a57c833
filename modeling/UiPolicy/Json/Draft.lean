import UiPolicy.Json.Value

/-!
# Drafts

A draft is a JSON text taken apart with its faults still in place. Which fault of a text is the one
to report hangs on what is expected of it: a part that is not looked at may hold a number out of
range or half of a surrogate pair, and a list where a string is due is refused before its items are
looked at. A draft therefore keeps, for every part, what is said of it when it is kept and when it
is skipped.

* `Draft.ofText` reads the draft of a whole text.
* `Draft.ofJson` is the draft of a value, which has no faults.
* `Draft.skipFault` is the fault of a part that is skipped.
* `Draft.toJson` keeps everything.
-/

namespace UiPolicy.Json

/-- How the items of a list, or the members of an object, end. -/
inductive Close
  /-- The closing bracket stands where it may. -/
  | closed
  /-- The text ends where a comma, a bracket or the first member is due. -/
  | ended
  /-- The closing bracket follows a comma. -/
  | trailingComma
  /-- The text ends after a comma. -/
  | endedAfterComma
  /-- Something else stands where a comma or a bracket is due. -/
  | unseparated
  /-- Something else than a string stands where a name is due. -/
  | unnamed
deriving Repr, DecidableEq

/-- A string with what is said of it when it is kept, and when it is skipped. -/
structure StringDraft where
  kept : Except Fault String
  skipped : Option Fault

/-- A JSON text taken apart. -/
inductive Draft
  | null
  | bool (value : Bool)
  | number (kept : Except Fault Number) (skipped : Option Fault)
  | string (text : StringDraft)
  | array (tooDeep : Bool) (items : List Draft) (close : Close)
  | object (tooDeep : Bool) (members : List (StringDraft × Draft)) (close : Close)
  /-- The text ends where the value is due. -/
  | absent
  | fault (fault : Fault)

namespace Draft

instance : Inhabited Draft := ⟨.null⟩

/-! ## Strings -/

/-- The number written by four hexadecimal digits. -/
def hexValue? (cs : List Char) : Option Nat :=
  cs.foldl (fun sum c => do
    let sum ← sum
    if c.isDigit then some (sum * 16 + digitValue c)
    else if 'a' ≤ c ∧ c ≤ 'f' then some (sum * 16 + (c.toNat - 'a'.toNat + 10))
    else if 'A' ≤ c ∧ c ≤ 'F' then some (sum * 16 + (c.toNat - 'A'.toNat + 10))
    else none) (some 0)

/-- The 16-bit unit after an escape mark, which takes four bytes. -/
def hexUnit (cs : List Char) : Except Fault Nat :=
  let digits := cs.take 4
  if (String.ofList digits).utf8ByteSize < 4 then .error .endInString
  else match hexValue? digits with
    | some unit => .ok unit
    | none => .error .invalidEscape

def shortEscape? : Char → Option Char
  | '"' => some '"'
  | '\\' => some '\\'
  | '/' => some '/'
  | 'b' => some '\x08'
  | 'f' => some '\x0c'
  | 'n' => some '\n'
  | 'r' => some '\r'
  | 't' => some '\t'
  | _ => none

/-- The character of a unit that is written first of its character, with the number of characters
that its second unit takes. The text starts after the digits of the unit. -/
def escapedUnit (unit : Nat) (cs : List Char) : Except Fault (Char × Nat) :=
  if 0xDC00 ≤ unit ∧ unit ≤ 0xDFFF then .error .loneSurrogate
  else if unit < 0xD800 ∨ 0xDBFF < unit then .ok (Char.ofNat unit, 0)
  else
    match cs with
    | [] | ['\\'] => .error .endInString
    | '\\' :: 'u' :: rest => do
      let second ← hexUnit rest
      if second < 0xDC00 ∨ 0xDFFF < second then .error .loneSurrogate
      else .ok (Char.ofNat (0x10000 + (unit - 0xD800) * 0x400 + (second - 0xDC00)), 6)
    | _ => .error .endOfHexEscape

/-- What a string reads as, and the text after it unless its form is broken. -/
structure StringReading where
  kept : Except Fault (List Char)
  rest : Except Fault (List Char)

/-- A reading with a character in front. -/
def StringReading.push (c : Char) (r : StringReading) : StringReading :=
  { r with kept := r.kept.map (c :: ·) }

def StringReading.broken (f : Fault) : StringReading :=
  ⟨.error f, .error f⟩

/-- The string that a text continues with, its opening quote read. After a fault of meaning, half a
surrogate pair, the form of the rest still counts. -/
def readString : List Char → StringReading
  | [] => .broken .endInString
  | '"' :: rest => ⟨.ok [], .ok rest⟩
  | ['\\'] => .broken .endInString
  | '\\' :: 'u' :: rest =>
    match hexUnit rest with
    | .error f => .broken f
    | .ok unit =>
      match escapedUnit unit (rest.drop 4) with
      | .ok (c, taken) => (readString (rest.drop (4 + taken))).push c
      | .error f => { readString (rest.drop 4) with kept := .error f }
  | '\\' :: letter :: rest =>
    match shortEscape? letter with
    | some c => (readString rest).push c
    | none => .broken .invalidEscape
  | c :: rest =>
    if c.toNat < 0x20 then .broken .controlCharacter else (readString rest).push c
termination_by cs => cs.length
decreasing_by all_goals simp; try omega

/-- The draft of a string, its opening quote read, and the text after it if its form is whole. -/
def stringDraft (cs : List Char) : StringDraft × Option (List Char) :=
  let reading := readString cs
  let kept := reading.kept.map String.ofList
  match reading.rest with
  | .ok rest => (⟨kept, none⟩, some rest)
  | .error f => (⟨kept, some f⟩, none)

/-! ## Values -/

def skipSpace (cs : List Char) : List Char :=
  cs.dropWhile fun c => c = ' ' ∨ c = '\n' ∨ c = '\t' ∨ c = '\r'

/-- The rest of a fixed word, its first letter read. -/
def readWord (word : List Char) (draft : Draft) (cs : List Char) : Draft × Option (List Char) :=
  match word, cs with
  | [], rest => (draft, some rest)
  | _ :: _, [] => (.fault .endInValue, none)
  | w :: word, c :: rest =>
    if w = c then readWord word draft rest else (.fault .expectedIdent, none)

/-- The draft of a number and the text after it. A number that is skipped needs only its form, and
its fault is always the same. -/
def numberDraft (cs : List Char) : Draft × Option (List Char) :=
  match readNumeral cs with
  | .ok (numeral, rest) => (.number numeral.value none, some rest)
  | .error f => (.number (.error f) (some .invalidNumber), none)

/-- The rest of a text after a part, or none if the part is broken. -/
abbrev Rest := Option (List Char)

mutual

/-- The draft of the value that a text starts with, after any white space. `room` counts the levels
of nesting that are still allowed, if they are limited. -/
def readValue : Nat → Option Nat → List Char → Draft × Rest
  | 0, _, _ => (.fault .endInValue, none)
  | fuel + 1, room, cs =>
    let inner := room.map (· - 1)
    let tooDeep := room == some 0
    match skipSpace cs with
    | [] => (.absent, none)
    | 'n' :: rest => readWord "ull".toList .null rest
    | 't' :: rest => readWord "rue".toList (.bool true) rest
    | 'f' :: rest => readWord "alse".toList (.bool false) rest
    | '"' :: rest =>
      let (text, rest) := stringDraft rest
      (.string text, rest)
    | '[' :: rest =>
      let (items, close, rest) := readItems fuel inner true rest
      (.array tooDeep items close, rest)
    | '\x7b' :: rest =>
      let (members, close, rest) := readMembers fuel inner true rest
      (.object tooDeep members close, rest)
    | c :: rest =>
      if c = '-' ∨ c.isDigit then numberDraft (c :: rest) else (.fault .expectedValue, none)

/-- The items of a list from where an item, a comma or the closing bracket is due. -/
def readItems : Nat → Option Nat → Bool → List Char → List Draft × Close × Rest
  | 0, _, _, _ => ([], .ended, none)
  | fuel + 1, room, isFirst, cs =>
    let continueWith (cs : List Char) : List Draft × Close × Rest :=
      let (item, rest) := readValue fuel room cs
      match rest with
      | none => ([item], .ended, none)
      | some rest =>
        let (items, close, rest) := readItems fuel room false rest
        (item :: items, close, rest)
    match skipSpace cs with
    | [] => ([], .ended, none)
    | ']' :: rest => ([], .closed, some rest)
    | c :: rest =>
      if isFirst then continueWith (c :: rest)
      else if c = ',' then
        match skipSpace rest with
        | [] => ([], .endedAfterComma, none)
        | ']' :: _ => ([], .trailingComma, none)
        | rest => continueWith rest
      else ([], .unseparated, none)

/-- The members of an object from where a member, a comma or the closing bracket is due. -/
def readMembers :
    Nat → Option Nat → Bool → List Char → List (StringDraft × Draft) × Close × Rest
  | 0, _, _, _ => ([], .ended, none)
  | fuel + 1, room, isFirst, cs =>
    let continueWith (cs : List Char) : List (StringDraft × Draft) × Close × Rest :=
      match stringDraft cs with
      | (name, none) => ([(name, .fault .endInValue)], .ended, none)
      | (name, some rest) =>
        match skipSpace rest with
        | [] => ([(name, .fault .endInObject)], .ended, none)
        | ':' :: rest =>
          let (value, rest) := readValue fuel room rest
          match rest with
          | none => ([(name, value)], .ended, none)
          | some rest =>
            let (members, close, rest) := readMembers fuel room false rest
            ((name, value) :: members, close, rest)
        | _ => ([(name, .fault .expectedColon)], .ended, none)
    match skipSpace cs with
    | [] => ([], .ended, none)
    | '\x7d' :: rest => ([], .closed, some rest)
    | c :: rest =>
      if isFirst then
        if c = '"' then continueWith rest else ([], .unnamed, none)
      else if c = ',' then
        match skipSpace rest with
        | [] => ([], .endedAfterComma, none)
        | '\x7d' :: _ => ([], .trailingComma, none)
        | '"' :: rest => continueWith rest
        | _ => ([], .unnamed, none)
      else ([], .unseparated, none)

end

/-- Nesting is allowed to this many levels in a text. -/
def nestingLimit : Nat := 127

/-- The draft of a whole text, and whether something stands after its value. -/
def ofText (limit : Option Nat) (text : String) : Draft × Bool :=
  let cs := text.toList
  let (draft, rest) := readValue (2 * cs.length + 2) limit cs
  (draft, match rest with
    | none => false
    | some rest => !(skipSpace rest).isEmpty)

/-! ## Parts that are skipped -/

/-- The fault of a list that is skipped, given how it ends. -/
def skippedListClose : Close → Option Fault
  | .closed => none
  | .ended => some .endInList
  | .trailingComma => some .expectedValue
  | .endedAfterComma => some .endInValue
  | .unseparated | .unnamed => some .expectedListCommaOrEnd

def skippedObjectClose : Close → Option Fault
  | .closed => none
  | .ended | .endedAfterComma => some .endInObject
  | .trailingComma | .unnamed => some .keyNotString
  | .unseparated => some .expectedObjectCommaOrEnd

mutual

def skipFault : Draft → Option Fault
  | .null | .bool _ => none
  | .number _ skipped => skipped
  | .string text => text.skipped
  | .array _ items close => (skipItems items).or (skippedListClose close)
  | .object _ members close => (skipMembers members).or (skippedObjectClose close)
  | .absent => some .endInValue
  | .fault f => some f

def skipItems : List Draft → Option Fault
  | [] => none
  | item :: items => (skipFault item).or (skipItems items)

def skipMembers : List (StringDraft × Draft) → Option Fault
  | [] => none
  | (name, value) :: members =>
    name.skipped.or ((skipFault value).or (skipMembers members))

end

/-! ## Parts that are kept -/

/-- The fault of a list that is kept, given how it ends. -/
def keptListClose : Close → Except Fault Unit
  | .closed => .ok ()
  | .ended => .error .endInList
  | .trailingComma => .error .trailingComma
  | .endedAfterComma => .error .endInValue
  | .unseparated | .unnamed => .error .expectedListCommaOrEnd

def keptObjectClose : Close → Except Fault Unit
  | .closed => .ok ()
  | .ended => .error .endInObject
  | .trailingComma => .error .trailingComma
  | .endedAfterComma => .error .endInValue
  | .unnamed => .error .keyNotString
  | .unseparated => .error .expectedObjectCommaOrEnd

mutual

/-- The value of a draft of which everything is kept. -/
def toJson : Draft → Except Fault Json
  | .null => .ok .null
  | .bool value => .ok (.bool value)
  | .number kept _ => do return .number (← kept)
  | .string text => do return .string (← text.kept)
  | .array tooDeep items close =>
    if tooDeep then .error .tooDeep
    else do
      let items ← itemsToJson items
      keptListClose close
      return .array items
  | .object tooDeep members close =>
    if tooDeep then .error .tooDeep
    else do
      let members ← membersToJson members
      keptObjectClose close
      return .object members
  | .absent => .error .endInValue
  | .fault f => .error f

def itemsToJson : List Draft → Except Fault (List Json)
  | [] => .ok []
  | item :: items => do
    let item ← toJson item
    let items ← itemsToJson items
    return item :: items

def membersToJson : List (StringDraft × Draft) → Except Fault (List (String × Json))
  | [] => .ok []
  | (name, value) :: members => do
    let name ← name.kept
    let value ← toJson value
    let members ← membersToJson members
    return (name, value) :: members

end

/-! ## Values as drafts -/

mutual

def ofJson : Json → Draft
  | .null => .null
  | .bool value => .bool value
  | .number value => .number (.ok value) none
  | .string value => .string ⟨.ok value, none⟩
  | .array items => .array false (ofItems items) .closed
  | .object members => .object false (ofMembers members) .closed

def ofItems : List Json → List Draft
  | [] => []
  | item :: items => ofJson item :: ofItems items

def ofMembers : List (String × Json) → List (StringDraft × Draft)
  | [] => []
  | (name, value) :: members => (⟨.ok name, none⟩, ofJson value) :: ofMembers members

end

/-! ## Nesting -/

mutual

/-- The number of levels of a draft. -/
def depth : Draft → Nat
  | .array _ items _ => depthOfItems items + 1
  | .object _ members _ => depthOfMembers members + 1
  | .null | .bool _ | .number _ _ | .string _ | .absent | .fault _ => 0

def depthOfItems : List Draft → Nat
  | [] => 0
  | item :: items => max (depth item) (depthOfItems items)

def depthOfMembers : List (StringDraft × Draft) → Nat
  | [] => 0
  | (_, value) :: members => max (depth value) (depthOfMembers members)

end

end Draft

/-- The value written in a text, of any depth. -/
def read (text : String) : Except Fault Json :=
  match Draft.ofText none text with
  | (draft, trailing) => do
    let value ← draft.toJson
    if trailing then throw .trailingCharacters
    return value

end UiPolicy.Json
