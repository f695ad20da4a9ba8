import HtmlModules.Table
import HtmlModules.Text.Basic

/-!
# Values of the JSON format

A number is kept as the text it is printed as. The fields of an object keep the order in which they
were added; setting a field that exists changes it in place.
-/

namespace HtmlModules

/-- A JSON value. -/
inductive Json where
  | null
  | bool (b : Bool)
  | number (text : String)
  | string (s : String)
  | array (items : List Json)
  | object (fields : List (String × Json))
deriving Repr, Inhabited

namespace Json

/-- The fields of an object, in order. -/
abbrev Fields := Table Json

/-- The null value. -/
def isNull : Json → Bool
  | null => true
  | _ => false

/-- The text of a string. -/
def string? : Json → Option String
  | string s => some s
  | _ => none

/-- The items of an array. -/
def array? : Json → Option (List Json)
  | array items => some items
  | _ => none

/-- The fields of an object. -/
def object? : Json → Option Fields
  | object fields => some fields
  | _ => none

/-- A field of an object. -/
def field? (v : Json) (name : String) : Option Json := v.object?.bind (Table.get? · name)

/-- Null, false, zero and the empty text, array and object count as missing. -/
def isPresent : Json → Bool
  | null => false
  | bool b => b
  | number t => !(["0", "0.0", "-0.0"].contains t)
  | string s => s ≠ ""
  | array items => !items.isEmpty
  | object fields => !fields.isEmpty

/-- The value if it counts as present. -/
def present? (v : Option Json) : Option Json := v.filter isPresent

/-- An integer as a JSON number. -/
def ofInt (n : Int) : Json := number (toString n)

end Json

end HtmlModules
