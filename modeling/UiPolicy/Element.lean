import UiPolicy.Attribute

/-!
# Elements

The registry knows, for each element id, its type, its attributes, and what is to be told when they
change: a native object of the host, which the registry does not keep alive, and a tag in the
markup.
-/

namespace UiPolicy

/-- A native object of the host. Two objects of one name are told apart by their numbers. -/
structure NativeObject where
  number : Nat
  name : String
deriving Repr, DecidableEq

/-- What is known of an element. -/
structure Element where
  id : String
  type : Option String
  attributes : List Attribute
  object : Option NativeObject
  tag : Option String
deriving Repr, DecidableEq

/-- An element as a diagnosis shows it, given whether its object is alive. -/
def Element.describe (e : Element) (alive : Bool) : String :=
  let option (text : Option String) : String := match text with
    | some text => "Some(" ++ text ++ ")"
    | none => "None"
  "ElementEntry \x7b id: " ++ Text.quoted e.id ++
    ", element_type: " ++ option (e.type.map Text.quoted) ++
    ", attributes: [" ++ String.intercalate ", " (e.attributes.map Attribute.describe) ++ "]" ++
    ", object: " ++ toString alive ++
    ", tag: " ++ option (e.tag.map fun tag => "TagBinding(" ++ Text.quoted tag ++ ")") ++ " \x7d"

/-- The elements of a page, each id once. -/
structure Registry where
  list : List Element
deriving Repr, DecidableEq, Inhabited

namespace Registry

def empty : Registry :=
  ⟨[]⟩

def get? (r : Registry) (id : String) : Option Element :=
  r.list.find? (·.id = id)

def contains (r : Registry) (id : String) : Bool :=
  r.list.any (·.id = id)

/-- A list with an element in the place of the one of its id, or at the end. -/
def putInto (e : Element) : List Element → List Element
  | [] => [e]
  | x :: xs => if x.id = e.id then e :: xs else x :: putInto e xs

/-- The registry with an element; it replaces the one of its id. -/
def register (r : Registry) (e : Element) : Registry :=
  ⟨putInto e r.list⟩

/-- The registry with the element of an id changed. The change keeps the id. -/
def modify (r : Registry) (id : String) (f : Element → Element) : Registry :=
  ⟨r.list.map fun e => if e.id = id then f e else e⟩

def setAttributes (r : Registry) (id : String) (attributes : List Attribute) : Registry :=
  r.modify id fun e => { e with attributes }

def attach (r : Registry) (id : String) (object : NativeObject) : Registry :=
  r.modify id fun e => { e with object := some object }

def bindTag (r : Registry) (id tag : String) : Registry :=
  r.modify id fun e => { e with tag := some tag }

/-- The elements in ascending order of their ids. -/
def sorted (r : Registry) : List Element :=
  r.list.mergeSort fun a b => a.id ≤ b.id

def ids (r : Registry) : List String :=
  r.sorted.map (·.id)

end Registry

end UiPolicy
