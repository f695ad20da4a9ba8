import HtmlModules.Json.Basic
import HtmlModules.Text.Quoted

/-!
# Printing JSON

The text is pure ASCII: any other character is an escape, one beyond the basic plane two, and so is a
surrogate that a string holds. A value is printed on one line, or with each item and field on a line
of its own, indented by two spaces a level.
-/

namespace HtmlModules.Json

/-- One UTF-16 unit as an escape. -/
def unitEscape (n : Nat) : List Char := '\\' :: 'u' :: Text.hexDigits 4 n

/-- One character inside a string. -/
def escapeChar (c : Char) : List Char :=
  match c with
  | '"' => ['\\', '"']
  | '\\' => ['\\', '\\']
  | '\n' => ['\\', 'n']
  | '\r' => ['\\', 'r']
  | '\t' => ['\\', 't']
  | '\x08' => ['\\', 'b']
  | '\x0c' => ['\\', 'f']
  | c =>
    if ' ' ≤ c && c ≤ '~' then [c]
    else if c.toNat < 0x10000 then unitEscape c.toNat
    else
      let n := c.toNat - 0x10000
      unitEscape (0xD800 + n / 0x400) ++ unitEscape (0xDC00 + n % 0x400)

/-- One code point inside a string. -/
def escapePoint (n : Nat) : List Char :=
  if Text.isSurrogate n then unitEscape n else escapeChar (Char.ofNat n)

/-- A string with its quotes. -/
def stringText (s : String) : String :=
  String.ofList ('"' :: ((Text.Surrogate.points s).flatMap escapePoint ++ ['"']))

mutual

/-- The value on one line. -/
def compact : Json → String
  | null => "null"
  | bool true => "true"
  | bool false => "false"
  | number t => t
  | string s => stringText s
  | array items => "[" ++ Text.join ", " (compactItems items) ++ "]"
  | object fields => "\x7b" ++ Text.join ", " (compactFields fields) ++ "\x7d"

/-- The items on one line each. -/
def compactItems : List Json → List String
  | [] => []
  | v :: vs => compact v :: compactItems vs

/-- The fields with their names. -/
def compactFields : List (String × Json) → List String
  | [] => []
  | (n, v) :: fs => (stringText n ++ ": " ++ compact v) :: compactFields fs

end

/-- The line break in front of a member at `depth`. -/
def lineBreak (depth : Nat) : String := "\n" ++ Text.fill (2 * depth) ' '

/-- Members between brackets, each on its own line. -/
def block (opening closing : String) (depth : Nat) (members : List String) : String :=
  if members.isEmpty then opening ++ closing
  else opening ++ lineBreak (depth + 1) ++ Text.join ("," ++ lineBreak (depth + 1)) members ++
    lineBreak depth ++ closing

mutual

/-- The value at an indentation of `depth` levels. -/
def prettyAt (depth : Nat) : Json → String
  | null => "null"
  | bool true => "true"
  | bool false => "false"
  | number t => t
  | string s => stringText s
  | array items => block "[" "]" depth (prettyItems (depth + 1) items)
  | object fields => block "\x7b" "\x7d" depth (prettyFields (depth + 1) fields)

/-- The items at `depth`. -/
def prettyItems (depth : Nat) : List Json → List String
  | [] => []
  | v :: vs => prettyAt depth v :: prettyItems depth vs

/-- The fields at `depth`. -/
def prettyFields (depth : Nat) : List (String × Json) → List String
  | [] => []
  | (n, v) :: fs => (stringText n ++ ": " ++ prettyAt depth v) :: prettyFields depth fs

end

/-- The value on several lines. -/
def pretty (v : Json) : String := prettyAt 0 v

end HtmlModules.Json
