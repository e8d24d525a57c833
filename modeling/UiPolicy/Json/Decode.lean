import UiPolicy.Json.Draft
import UiPolicy.Text.Quoted

/-!
# Decoding

Domain values are decoded from drafts, so that one decoder serves a text and a value already read.
The two origins differ in a few refusals only, which `Origin` tells apart.

A record is written as an object, or as a list of its fields in their order. `Record.decode` knows
both forms: a name may stand once, unknown names are skipped, and a missing field is reported in
the order of the fields.
-/

namespace UiPolicy.Json

/-- Where a draft comes from. -/
inductive Origin
  | text
  | value
deriving Repr, DecidableEq

/-- Why a draft is refused. The texts name what was found or expected. -/
inductive DecodeError
  | form (fault : Fault)
  | invalidType (found : String) (expected : String)
  | invalidValue (found : String) (expected : String)
  | invalidLength (length : Nat) (expected : String)
  | missingField (name : String)
  | duplicateField (name : String)
  | unknownVariant (name : String) (variants : List String)
deriving Repr, DecidableEq

/-- The names that a choice offers. -/
def offered (names : List String) : String :=
  let ticked := names.map fun name => "`" ++ name ++ "`"
  match ticked with
  | [one] => "expected " ++ one
  | [one, two] => "expected " ++ one ++ " or " ++ two
  | _ => "expected one of " ++ String.intercalate ", " ticked

def DecodeError.message : DecodeError → String
  | .form fault => fault.message
  | .invalidType found expected => "invalid type: " ++ found ++ ", expected " ++ expected
  | .invalidValue found expected => "invalid value: " ++ found ++ ", expected " ++ expected
  | .invalidLength length expected =>
    "invalid length " ++ toString length ++ ", expected " ++ expected
  | .missingField name => "missing field `" ++ name ++ "`"
  | .duplicateField name => "duplicate field `" ++ name ++ "`"
  | .unknownVariant name variants =>
    "unknown variant `" ++ name ++ "`, " ++ offered variants

/-- What can be made of a draft. -/
abbrev Decoder (α : Type) := Origin → Draft → Except DecodeError α

def ofFault {α : Type} : Except Fault α → Except DecodeError α
  | .ok a => .ok a
  | .error f => .error (.form f)

/-- A number as a refusal names it. -/
def Number.described : Number → String
  | .integer value => "integer `" ++ toString value ++ "`"
  | .float value => "floating point `" ++ Decimal.jsonLayout.write value ++ "`"

/-- The refusal of a draft of the wrong kind. A broken part is refused for its fault. -/
def mismatch (expected : String) : Draft → DecodeError
  | .null => .invalidType "null" expected
  | .bool value => .invalidType ("boolean `" ++ toString value ++ "`") expected
  | .number (.ok value) _ => .invalidType value.described expected
  | .number (.error f) _ => .form f
  | .string ⟨.ok value, _⟩ => .invalidType ("string " ++ Text.quoted value) expected
  | .string ⟨.error f, _⟩ => .form f
  | .array _ _ _ => .invalidType "sequence" expected
  | .object _ _ _ => .invalidType "map" expected
  | .absent => .form .endInValue
  | .fault f => .form f

/-! ## Scalars -/

/-- A string; another kind is refused in the given words. -/
def decodeStringAs (expected : String) : Decoder String := fun _ draft =>
  match draft with
  | .string ⟨.ok value, _⟩ => .ok value
  | draft => .error (mismatch expected draft)

def decodeString : Decoder String :=
  decodeStringAs "a string"

def decodeBool : Decoder Bool := fun _ draft =>
  match draft with
  | .bool value => .ok value
  | draft => .error (mismatch "a boolean" draft)

/-- A natural number below `2 ^ 64`; the words name the kind of number. -/
def decodeNat (expected : String) : Decoder Nat := fun _ draft =>
  match draft with
  | .number (.ok (.integer value)) _ =>
    if 0 ≤ value then .ok value.toNat
    else .error (.invalidValue (Number.described (.integer value)) expected)
  | draft => .error (mismatch expected draft)

/-- A double; an integer is taken for the nearest one. -/
def decodeFloat : Decoder Float := fun _ draft =>
  match draft with
  | .number (.ok value) _ => .ok value.toFloat
  | draft => .error (mismatch "f64" draft)

def decodeOption {α : Type} (decode : Decoder α) : Decoder (Option α) := fun origin draft =>
  match draft with
  | .null => .ok none
  | draft => some <$> decode origin draft

/-! ## Lists and maps -/

def decodeList {α : Type} (decode : Decoder α) : Decoder (List α) := fun origin draft =>
  match draft with
  | .array true _ _ => .error (.form .tooDeep)
  | .array false items close => do
    let items ← items.mapM (decode origin)
    ofFault (Draft.keptListClose close)
    return items
  | draft => .error (mismatch "a sequence" draft)

/-- The members of a map from names, in the order of the text. -/
def decodeMap {α : Type} (decode : Decoder α) : Decoder (List (String × α)) :=
  fun origin draft =>
    match draft with
    | .object true _ _ => .error (.form .tooDeep)
    | .object false members close => do
      let members ← members.mapM fun (name, value) => do
        return (← ofFault name.kept, ← decode origin value)
      ofFault (Draft.keptObjectClose close)
      return members
    | draft => .error (mismatch "a map" draft)

/-! ## Choices -/

def choose {α : Type} (choices : List (String × α)) (name : String) : Except DecodeError α :=
  match choices.find? (·.1 = name) with
  | some (_, a) => .ok a
  | none => .error (.unknownVariant name (choices.map (·.1)))

/-- The refusal of a part that stands in the place of nothing. -/
def expectNothing : Draft → Except DecodeError Unit
  | .null => .ok ()
  | draft => .error (mismatch "unit" draft)

/-- The choice written as an object with one member, whose value is null. -/
def decodeChoiceObject {α : Type} (choices : List (String × α)) (origin : Origin)
    (members : List (StringDraft × Draft)) (close : Close) : Except DecodeError α :=
  match origin, members with
  | .value, [(name, value)] => do
    let choice ← choose choices (← ofFault name.kept)
    expectNothing value
    return choice
  | .value, _ => .error (.invalidValue "map" "map with a single key")
  | .text, [] =>
    match close with
    | .ended => .error (.form .endInValue)
    | _ => .error (.form .expectedValue)
  | .text, (name, value) :: more => do
    let choice ← choose choices (← ofFault name.kept)
    expectNothing value
    match more, close with
    | [], .closed => return choice
    | [], .ended => throw (.form .endInObject)
    | _, _ => throw (.form .expectedValue)

/-- One of several names, as a string or as the name of an object's only member. -/
def decodeChoice {α : Type} (choices : List (String × α)) : Decoder α := fun origin draft =>
  match origin, draft with
  | _, .string ⟨kept, _⟩ => do choose choices (← ofFault kept)
  | .text, .object true _ _ => .error (.form .tooDeep)
  | origin, .object _ members close => decodeChoiceObject choices origin members close
  | .text, .absent => .error (.form .endInValue)
  | .text, _ => .error (.form .expectedValue)
  | .value, draft => .error (mismatch "string or map" draft)

/-! ## Records -/

/-- A field of a record that is filled in field by field. -/
structure Field (ρ : Type) where
  name : String
  /-- The record with this field taken from a draft. -/
  fill : Origin → Draft → ρ → Except DecodeError ρ
  /-- Whether an object may leave the field out. -/
  optionalInObject : Bool
  /-- Whether a list may end before the field. -/
  optionalInList : Bool

/-- A field that has to be there. -/
def Field.required {ρ α : Type} (name : String) (decode : Decoder α) (set : α → ρ → ρ) : Field ρ :=
  ⟨name, fun origin draft record => (set · record) <$> decode origin draft, false, false⟩

/-- A field that keeps its first value when it is left out. -/
def Field.optional {ρ α : Type} (name : String) (decode : Decoder α) (set : α → ρ → ρ) : Field ρ :=
  ⟨name, fun origin draft record => (set · record) <$> decode origin draft, true, true⟩

/-- A field that an object may leave out, but not a list. -/
def Field.nullable {ρ α : Type} (name : String) (decode : Decoder α) (set : α → ρ → ρ) : Field ρ :=
  ⟨name, fun origin draft record => (set · record) <$> decode origin draft, true, false⟩

/-- A kind of record: its name, its fields in order, and its value before any field is filled. -/
structure Record (ρ : Type) where
  name : String
  fields : List (Field ρ)
  start : ρ

namespace Record

variable {ρ : Type}

/-- The members of an object taken one by one, with the names seen so far. -/
def decodeMembers (fields : List (Field ρ)) (origin : Origin) :
    List (StringDraft × Draft) → List String → ρ → Except DecodeError (List String × ρ)
  | [], seen, record => .ok (seen, record)
  | (name, value) :: members, seen, record => do
    let name ← ofFault name.kept
    match fields.find? (·.name = name) with
    | some field =>
      if seen.contains name then throw (.duplicateField name)
      let record ← field.fill origin value record
      decodeMembers fields origin members (name :: seen) record
    | none =>
      match value.skipFault with
      | some f => throw (.form f)
      | none => decodeMembers fields origin members seen record

/-- The first field that an object had to have and has not. -/
def missing? (fields : List (Field ρ)) (seen : List String) : Option (Field ρ) :=
  fields.find? fun field => !field.optionalInObject && !seen.contains field.name

/-- What a refusal calls the record. -/
def described (kind : Record ρ) : String :=
  "struct " ++ kind.name ++ " with " ++ toString kind.fields.length ++
    (if kind.fields.length = 1 then " element" else " elements")

/-- The end of a list after the last field. -/
def finishItems (total : Nat) (left : List Draft) (close : Close) :
    Origin → Except DecodeError Unit
  | .value =>
    if left.isEmpty then .ok ()
    else .error (.invalidLength total "fewer elements in array")
  | .text =>
    if !left.isEmpty then .error (.form .trailingCharacters)
    else match close with
      | .closed => .ok ()
      | .ended => .error (.form .endInList)
      | .trailingComma => .error (.form .trailingComma)
      | .endedAfterComma | .unseparated | .unnamed => .error (.form .trailingCharacters)

/-- The items of a list taken as the fields in order; `index` fields are done. -/
def decodeItems (kind : Record ρ) (total : Nat) (close : Close) (origin : Origin) :
    Nat → List (Field ρ) → List Draft → ρ → Except DecodeError ρ
  | _, [], left, record => do
    finishItems total left close origin
    return record
  | index, field :: fields, item :: items, record => do
    let record ← field.fill origin item record
    decodeItems kind total close origin (index + 1) fields items record
  | index, field :: fields, [], record => do
    ofFault (Draft.keptListClose close)
    if field.optionalInList then
      decodeItems kind total close origin (index + 1) fields [] record
    else throw (.invalidLength index kind.described)

/-- A record, from either of its forms. -/
def decode (kind : Record ρ) : Decoder ρ := fun origin draft =>
  match draft with
  | .object true _ _ | .array true _ _ => .error (.form .tooDeep)
  | .object false members close => do
    let (seen, record) ← decodeMembers kind.fields origin members [] kind.start
    ofFault (Draft.keptObjectClose close)
    match missing? kind.fields seen with
    | some field => throw (.missingField field.name)
    | none => return record
  | .array false items close =>
    decodeItems kind items.length close origin 0 kind.fields items kind.start
  | draft => .error (mismatch ("struct " ++ kind.name) draft)

end Record

/-! ## Whole texts -/

def decodeText {α : Type} (decode : Decoder α) (text : String) : Except DecodeError α := do
  let (draft, trailing) := Draft.ofText (some Draft.nestingLimit) text
  let a ← decode .text draft
  if trailing then throw (.form .trailingCharacters)
  return a

/-- What a value decodes to. Members count in the order of their names. -/
def decodeValue {α : Type} (decode : Decoder α) (value : Json) : Except DecodeError α :=
  decode .value (.ofJson value.sorted)

def decodeAny : Decoder Json := fun _ draft =>
  ofFault (draft.toJson.map Json.sorted)

end UiPolicy.Json
