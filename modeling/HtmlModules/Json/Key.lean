import HtmlModules.Json.Basic
import HtmlModules.Json.Decimal

/-!
# Keys and entries

A list of pairs can be read as a table just as an object can, and then any value but an array and an
object can be a key. `Json.key?` tells which values are the same key: numbers and truth values are
if they have the same value. `Json.Entries` is a table with such keys; it keeps the key that was
added first.
-/

namespace HtmlModules.Json

/-- What a value is looked up by. -/
inductive Key where
  | null
  | text (s : String)
  | whole (n : Int)
  /-- A number that is no integer, by the text it is printed as. -/
  | fraction (text : String)
deriving DecidableEq, Repr

/-- The key of a number. -/
def numberKey (text : String) : Key :=
  let negative := text.toList.head? == some '-'
  let body := if negative then text.toList.drop 1 else text.toList
  let signed := fun (n : Nat) => if negative then -(n : Int) else n
  if body.all Text.isAsciiDigit then .whole (signed (Decimal.digitsValue body))
  else if !body.head?.any Text.isAsciiDigit then .fraction text
  else
    match (Decimal.Binary.ofBits (Decimal.Numeral.ofChars body).nearestDouble).whole? with
    | some n => .whole (signed n)
    | none => .fraction text

/-- The key of a value; an array and an object have none. -/
def key? : Json → Option Key
  | null => some .null
  | bool b => some (.whole (if b then 1 else 0))
  | number t => some (numberKey t)
  | string s => some (.text s)
  | array _ | object _ => none

/-- The text that a key is printed as. -/
def keyText : Json → String
  | null => "null"
  | bool b => if b then "true" else "false"
  | number t => t
  | string s => s
  | array _ | object _ => ""

/-- Keys with their values, in order. -/
abbrev Entries := List (Json × Json)

namespace Entries

/-- The entries of an object. -/
def ofFields (fields : Fields) : Entries := fields.map fun (name, v) => (.string name, v)

/-- The entries as the fields of an object; two keys may be printed as the same text. -/
def toFields (t : Entries) : Fields := t.map fun (k, v) => (k.keyText, v)

/-- Sets a key: in its place if it is present, else at the end. -/
def set (key value : Json) : Entries → Entries
  | [] => [(key, value)]
  | (k, v) :: rest => if k.key? = key.key? then (k, value) :: rest else (k, v) :: set key value rest

/-- Sets the keys of `news` one after the other. -/
def setAll (t news : Entries) : Entries := news.foldl (fun t p => set p.1 p.2 t) t

/-- The value of a text as a key. -/
def get? (t : Entries) (name : String) : Option Json :=
  (t.find? fun p => p.1.key? = some (.text name)).map Prod.snd

/-- Removes a text from the keys. -/
def erase (t : Entries) (name : String) : Entries :=
  t.filter fun p => p.1.key? ≠ some (.text name)

end Entries

end HtmlModules.Json
