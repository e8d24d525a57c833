/-!
# TOML values

What a TOML document holds. A date or time is kept as its normal text.
-/

namespace UiPolicy.Toml

inductive Value
  | bool (value : Bool)
  | integer (value : Int)
  | float (value : Float)
  | string (value : String)
  | datetime (text : String)
  | array (items : List Value)
  | table (entries : List (String × Value))
deriving Repr

end UiPolicy.Toml
