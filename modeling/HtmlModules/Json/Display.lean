import HtmlModules.Json.Basic
import HtmlModules.Text.Alphabet
import HtmlModules.Text.Quoted

/-!
# Values inside messages

A message shows a value on one line: texts in quotes, words for null, the truth values and the numbers
that are none.
-/

namespace HtmlModules.Json

open Text

/-- A number inside a message. -/
def displayNumber (text : String) : String :=
  match text with
  | "NaN" => "nan"
  | "Infinity" => "inf"
  | "-Infinity" => "-inf"
  | t => t

mutual

/-- A value inside a message. -/
def display : Json → String
  | null => "None"
  | bool true => "True"
  | bool false => "False"
  | number t => displayNumber t
  | string s => quoted s
  | array items => "[" ++ join ", " (displayItems items) ++ "]"
  | object fields => "\x7b" ++ join ", " (displayFields fields) ++ "\x7d"

/-- The items of an array inside a message. -/
def displayItems : List Json → List String
  | [] => []
  | v :: vs => display v :: displayItems vs

/-- The fields of an object inside a message. -/
def displayFields : List (String × Json) → List String
  | [] => []
  | (n, v) :: fs => (quoted n ++ ": " ++ display v) :: displayFields fs

end

/-- A value at the beginning of a message; a text stands there without quotes. -/
def plain : Json → String
  | string s => s
  | v => display v

/-- The word for the kind of a value. -/
def kindWord : Json → String
  | null => "NoneType"
  | bool _ => "bool"
  | number t => if t.toList.all fun c => Text.isAsciiDigit c || c == '-' then "int" else "float"
  | string _ => "str"
  | array _ => "list"
  | object _ => "dict"

end HtmlModules.Json
