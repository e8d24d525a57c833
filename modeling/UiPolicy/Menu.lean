import UiPolicy.Json.Decode

/-!
# Context menus

A menu is hidden or shown at a place of the page. The menus of a page stand in the order in which
they were registered, and a key is registered once.
-/

namespace UiPolicy

/-- Whether a menu is shown. -/
inductive Display
  | none
  | block
deriving Repr, DecidableEq

namespace Display

def name : Display → String
  | .none => "none"
  | .block => "block"

def choices : List (String × Display) :=
  [("none", .none), ("block", .block)]

end Display

/-- A menu: its key, whether it is shown, and where it was shown last. -/
structure Menu where
  key : String
  display : Display
  left : Option Float
  top : Option Float
deriving Repr

namespace Menu

/-- A menu that was never shown. -/
def hidden (key : String) : Menu :=
  ⟨key, .none, none, none⟩

def isOpen (m : Menu) : Bool :=
  m.display = .block

def showAt (m : Menu) (x y : Float) : Menu :=
  ⟨m.key, .block, some x, some y⟩

/-- The menu taken away. It keeps its place. -/
def hide (m : Menu) : Menu :=
  { m with display := .none }

/-! ## Coding -/

def toJson (m : Menu) : Json :=
  .object [("key", .string m.key), ("display", .string m.display.name),
    ("left", .ofOption .ofFloat m.left), ("top", .ofOption .ofFloat m.top)]

def record : Json.Record Menu where
  name := "MenuState"
  fields := [
    .required "key" Json.decodeString fun key m => { m with key },
    .required "display" (Json.decodeChoice Display.choices) fun display m => { m with display },
    .nullable "left" (Json.decodeOption Json.decodeFloat) fun left m => { m with left },
    .nullable "top" (Json.decodeOption Json.decodeFloat) fun top m => { m with top }]
  start := hidden ""

def decode : Json.Decoder Menu :=
  record.decode

end Menu

/-- The menus of a page, in the order of registration. -/
structure Menus where
  list : List Menu
deriving Repr, Inhabited

namespace Menus

def empty : Menus :=
  ⟨[]⟩

def get? (ms : Menus) (key : String) : Option Menu :=
  ms.list.find? (·.key = key)

def contains (ms : Menus) (key : String) : Bool :=
  ms.list.any (·.key = key)

def isEmpty (ms : Menus) : Bool :=
  ms.list.isEmpty

def isOpen (ms : Menus) (key : String) : Bool :=
  (ms.get? key).any (·.isOpen)

def openKeys (ms : Menus) : List String :=
  (ms.list.filter (·.isOpen)).map (·.key)

/-- The menus with one more, hidden, unless its key is registered already. -/
def register (ms : Menus) (key : String) : Menus :=
  if ms.contains key then ms else ⟨ms.list ++ [.hidden key]⟩

/-- A list with the first menu of a key changed. -/
def modifyFirst (key : String) (f : Menu → Menu) : List Menu → List Menu
  | [] => []
  | m :: ms => if m.key = key then f m :: ms else m :: modifyFirst key f ms

def showAt (ms : Menus) (key : String) (x y : Float) : Menus :=
  ⟨modifyFirst key (·.showAt x y) ms.list⟩

def hide (ms : Menus) (key : String) : Menus :=
  ⟨modifyFirst key (·.hide) ms.list⟩

def anyOpen (ms : Menus) : Bool :=
  ms.list.any (·.isOpen)

def closeAll (ms : Menus) : Menus :=
  ⟨ms.list.map (·.hide)⟩

end Menus

end UiPolicy
