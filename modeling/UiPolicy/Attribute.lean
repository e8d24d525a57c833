import UiPolicy.Json.Decode

/-!
# Attributes

An attribute is a key and a value of one element. `Attribute.upsert` writes an attribute into a
list: it takes the place of the first one with its key, and any later ones with that key go.
-/

namespace UiPolicy

/-- A key and a value that belong to one element. -/
structure Attribute where
  id : String
  key : String
  value : String
deriving Repr, DecidableEq

namespace Attribute

/-- The list with an attribute in the place of the first one of its key, or at the end. -/
def upsert (a : Attribute) : List Attribute → List Attribute
  | [] => [a]
  | b :: bs => if b.key = a.key then a :: bs.filter (·.key ≠ a.key) else b :: upsert a bs

def describe (a : Attribute) : String :=
  "Attribute \x7b id: " ++ Text.quoted a.id ++ ", key: " ++ Text.quoted a.key ++ ", value: " ++
    Text.quoted a.value ++ " \x7d"

/-! ## Coding -/

def toJson (a : Attribute) : Json :=
  .object [("id", .string a.id), ("key", .string a.key), ("value", .string a.value)]

def record : Json.Record Attribute where
  name := "Attribute"
  fields := [
    .required "id" Json.decodeString fun id a => { a with id },
    .required "key" Json.decodeString fun key a => { a with key },
    .required "value" Json.decodeString fun value a => { a with value }]
  start := ⟨"", "", ""⟩

def decode : Json.Decoder Attribute :=
  record.decode

end Attribute

end UiPolicy
