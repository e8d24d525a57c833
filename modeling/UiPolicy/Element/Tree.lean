import UiPolicy.Element
import UiPolicy.Policy

/-!
# Element trees

A page is described by a tree of elements with their attributes and policies. `ElementNode.walk`
lists its nodes in pre-order. A tree is decoded level by level; the depth of its draft bounds the
levels.
-/

namespace UiPolicy

/-- An element with its policies and the elements inside it. -/
inductive ElementNode
  | mk (id : String) (type : String) (parent : String) (attributes : List Attribute)
    (policies : List Policy) (children : List ElementNode)
deriving Repr

namespace ElementNode

instance : Inhabited ElementNode := ⟨mk "" "" "" [] [] []⟩

def id : ElementNode → String
  | mk id _ _ _ _ _ => id

def type : ElementNode → String
  | mk _ type _ _ _ _ => type

def parent : ElementNode → String
  | mk _ _ parent _ _ _ => parent

def attributes : ElementNode → List Attribute
  | mk _ _ _ attributes _ _ => attributes

def policies : ElementNode → List Policy
  | mk _ _ _ _ policies _ => policies

def children : ElementNode → List ElementNode
  | mk _ _ _ _ _ children => children

def isMenu (n : ElementNode) : Bool :=
  n.type = "context_menu" || n.type = "contextmenu"

mutual

def size : ElementNode → Nat
  | mk _ _ _ _ _ children => sizeOfAll children + 1

def sizeOfAll : List ElementNode → Nat
  | [] => 0
  | n :: ns => size n + sizeOfAll ns

end

theorem sizeOfAll_append (ms ns : List ElementNode) :
    sizeOfAll (ms ++ ns) = sizeOfAll ms + sizeOfAll ns := by
  induction ms with
  | nil => simp [sizeOfAll]
  | cons m ms ih => simp [sizeOfAll, ih, Nat.add_assoc]

/-- The nodes of the trees on a stack, each before its children, which go on top of the stack. -/
def walkStack : List ElementNode → List ElementNode
  | [] => []
  | mk id type parent attributes policies children :: stack =>
    mk id type parent attributes policies children :: walkStack (children ++ stack)
termination_by stack => sizeOfAll stack
decreasing_by simp [sizeOfAll, size, sizeOfAll_append]

/-- The nodes of a tree in pre-order. -/
def walk (root : ElementNode) : List ElementNode :=
  walkStack [root]

/-! ## Coding -/

mutual

def toJson : ElementNode → Json
  | mk id type parent attributes policies children =>
    .object [("id", .string id), ("type", .string type), ("parent", .string parent),
      ("attributes", .ofList Attribute.toJson attributes), ("do", .ofList Policy.toJson policies),
      ("children", .array (childrenToJson children))]

def childrenToJson : List ElementNode → List Json
  | [] => []
  | n :: ns => toJson n :: childrenToJson ns

end

/-- The fields of a node, given how its children are decoded. -/
def record (decodeChild : Json.Decoder ElementNode) : Json.Record ElementNode where
  name := "ElementNode"
  fields := [
    .required "id" Json.decodeString fun id n =>
      mk id n.type n.parent n.attributes n.policies n.children,
    .required "type" Json.decodeString fun type n =>
      mk n.id type n.parent n.attributes n.policies n.children,
    .optional "parent" Json.decodeString fun parent n =>
      mk n.id n.type parent n.attributes n.policies n.children,
    .optional "attributes" (Json.decodeList Attribute.decode) fun attributes n =>
      mk n.id n.type n.parent attributes n.policies n.children,
    .optional "do" (Json.decodeList Policy.decode) fun policies n =>
      mk n.id n.type n.parent n.attributes policies n.children,
    .optional "children" (Json.decodeList decodeChild) fun children n =>
      mk n.id n.type n.parent n.attributes n.policies children]
  start := mk "" "" "" [] [] []

/-- A tree of at most the given number of levels, decoded. -/
def decodeLevels : Nat → Json.Decoder ElementNode
  | 0 => fun _ draft => .error (Json.mismatch "struct ElementNode" draft)
  | levels + 1 => (record (decodeLevels levels)).decode

/-- A tree, decoded. A tree has no more levels than its draft. -/
def decode : Json.Decoder ElementNode := fun origin draft =>
  decodeLevels (draft.depth + 1) origin draft

def decodeTree (text : String) : Except Json.DecodeError ElementNode :=
  Json.decodeText decode text

end ElementNode

end UiPolicy
