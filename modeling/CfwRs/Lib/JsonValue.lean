import Mathlib

namespace CfwRs.Lib

/-- A JSON document as a tree. Of the numbers only the integers occur. -/
inductive JsonValue
  | null
  | bool (b : Bool)
  | number (n : Int)
  | string (s : String)
  | array (items : List JsonValue)
  | object (fields : List (String × JsonValue))

end CfwRs.Lib
