import HtmlModules.Json.Basic
import HtmlModules.Json.Decimal
import HtmlModules.Text.Surrogate

/-!
# Reading JSON

A reader over the characters that remain. It reports the first place at which the text cannot be
continued to a JSON value; of two fields with one name the later value counts, in the earlier place.
An escape that spells half of a surrogate pair stands for that half.
-/

namespace HtmlModules

/-- What the reader missed. -/
inductive Json.Fault where
  | value
  | fieldName
  | colon
  | comma
  | openString
  | control
  | escape
  | unicodeEscape
  | extra
  | byteOrderMark
  /-- An integer with more digits than are read. -/
  | longInteger (digits : Nat)
deriving DecidableEq, Repr

/-- A fault with the offset it was found at. -/
structure Json.ReadError where
  fault : Json.Fault
  offset : Nat
deriving DecidableEq, Repr

namespace Json

/-- The wording of a fault. -/
def Fault.text : Fault → String
  | .value => "Expecting value"
  | .fieldName => "Expecting property name enclosed in double quotes"
  | .colon => "Expecting ':' delimiter"
  | .comma => "Expecting ',' delimiter"
  | .openString => "Unterminated string starting at"
  | .control => "Invalid control character at"
  | .escape => "Invalid \\escape"
  | .unicodeEscape => "Invalid \\uXXXX escape"
  | .extra => "Extra data"
  | .byteOrderMark => "Unexpected UTF-8 BOM (decode using utf-8-sig)"
  | .longInteger digits =>
    s!"Exceeds the limit (4300 digits) for integer string conversion: value has {digits} digits; " ++
      "use sys.set_int_max_str_digits() to increase the limit"

/-- The fault with its line, column and offset in `source`; a long integer is not placed. -/
def ReadError.message (e : ReadError) (source : String) : String :=
  if let .longInteger _ := e.fault then e.fault.text else
  let before := source.toList.take e.offset
  let line := before.count '\n' + 1
  let column := (before.reverse.takeWhile (· ≠ '\n')).length + 1
  s!"{e.fault.text}: line {line} column {column} (char {e.offset})"

/-- The unread characters and the offset of the first of them. -/
structure Cursor where
  rest : List Char
  offset : Nat

namespace Cursor

/-- Moves past `n` characters. -/
def skip (n : Nat) (c : Cursor) : Cursor := ⟨c.rest.drop n, c.offset + n⟩

/-- Moves past white space. -/
def skipBlank (c : Cursor) : Cursor :=
  c.skip (c.rest.takeWhile fun ch => ch == ' ' || ch == '\t' || ch == '\n' || ch == '\r').length

end Cursor

/-- The value of a hexadecimal digit. -/
def hexValue? (c : Char) : Option Nat :=
  if '0' ≤ c && c ≤ '9' then some (c.toNat - '0'.toNat)
  else if 'a' ≤ c && c ≤ 'f' then some (c.toNat - 'a'.toNat + 10)
  else if 'A' ≤ c && c ≤ 'F' then some (c.toNat - 'A'.toNat + 10)
  else none

/-- The number that four hexadecimal digits spell. -/
def hexQuad? : List Char → Option Nat
  | [a, b, c, d] => do
    return ((← hexValue? a) * 16 + (← hexValue? b)) * 256 + (← hexValue? c) * 16 + (← hexValue? d)
  | _ => none

/-- The character that a one-letter escape stands for. -/
def escaped? : Char → Option Char
  | '"' => some '"'
  | '\\' => some '\\'
  | '/' => some '/'
  | 'b' => some '\x08'
  | 'f' => some '\x0c'
  | 'n' => some '\n'
  | 'r' => some '\r'
  | 't' => some '\t'
  | _ => none

/-- One code point of a string behind its opening quote: what stands for it, if it is not the end of
the string, and how many characters it takes. -/
inductive Piece where
  | close
  | point (chars : List Char) (width : Nat)

/-- The next character of a string; `start` is the offset of the opening quote. -/
def readPiece (start : Nat) (c : Cursor) : Except ReadError Piece :=
  match c.rest with
  | [] => .error ⟨.openString, start⟩
  | '"' :: _ => .ok .close
  | '\\' :: [] => .error ⟨.openString, start⟩
  | '\\' :: 'u' :: rest =>
    -- the four digits must be followed by at least one more character
    if rest.length ≤ 4 then .error ⟨.unicodeEscape, c.offset + 1⟩
    else match hexQuad? (rest.take 4) with
      | none => .error ⟨.unicodeEscape, c.offset + 1⟩
      | some high =>
        let alone := Piece.point (Text.pointChars high) 6
        if 0xD800 ≤ high && high < 0xDC00 then
          match rest.drop 4 with
          | '\\' :: 'u' :: rest' => match hexQuad? (rest'.take 4) with
            | some low =>
              if 0xDC00 ≤ low && low < 0xE000 then
                .ok (.point [Char.ofNat (0x10000 + (high - 0xD800) * 0x400 + (low - 0xDC00))] 12)
              else .ok alone
            | none => .ok alone
          | _ => .ok alone
        else .ok alone
  | '\\' :: e :: _ => match escaped? e with
    | some ch => .ok (.point [ch] 2)
    | none => .error ⟨.escape, c.offset⟩
  | ch :: _ => if ch.toNat < 0x20 then .error ⟨.control, c.offset⟩ else .ok (.point [ch] 1)

/-- The rest of a string behind its opening quote. -/
def readString (start : Nat) : Nat → Cursor → List Char → Except ReadError (String × Cursor)
  | 0, _, _ => .error ⟨.openString, start⟩
  | fuel + 1, c, done => do
    match ← readPiece start c with
    | .close => return (String.ofList done.reverse, c.skip 1)
    | .point chars width => readString start fuel (c.skip width) (chars.reverse ++ done)

/-- The length of the text of a number at the beginning of `cs`. -/
def numberLength? (cs : List Char) : Option Nat := do
  let isDigit := fun (c : Char) => '0' ≤ c && c ≤ '9'
  let sign := if cs.head? = some '-' then 1 else 0
  let cs := cs.drop sign
  let whole ← match cs with
    | '0' :: _ => some 1
    | c :: _ => if isDigit c then some (cs.takeWhile isDigit).length else none
    | [] => none
  let cs := cs.drop whole
  let places := match cs with
    | '.' :: rest =>
      let n := (rest.takeWhile isDigit).length
      if n = 0 then 0 else n + 1
    | _ => 0
  let cs := cs.drop places
  let power := match cs with
    | e :: rest =>
      if e == 'e' || e == 'E' then
        let signed := match rest with
          | s :: _ => if s == '+' || s == '-' then 1 else 0
          | [] => 0
        let n := ((rest.drop signed).takeWhile isDigit).length
        if n = 0 then 0 else n + signed + 1
      else 0
    | [] => 0
  return sign + whole + places + power

/-- The text a number is printed as: an integer as it is written, any other number as its nearest
double. -/
def numberText (cs : List Char) : String :=
  let negative := cs.head? = some '-'
  let body := if negative then cs.drop 1 else cs
  if body.all Text.isAsciiDigit then if body = ['0'] then "0" else String.ofList cs
  else Decimal.text negative (Decimal.Numeral.ofChars body).nearestDouble

/-- The number of digits of an integer that is too long to be read. -/
def longInteger? (cs : List Char) : Option Nat :=
  let digits := if cs.head? = some '-' then cs.drop 1 else cs
  if digits.all Text.isAsciiDigit && digits.length > Decimal.mostDigits then some digits.length else none

/-- The fixed words of the format. -/
def wordValues : List (String × Json) :=
  [("null", .null), ("true", .bool true), ("false", .bool false), ("NaN", .number "NaN"),
    ("Infinity", .number "Infinity"), ("-Infinity", .number "-Infinity")]

/-- A number or a fixed word. -/
def readScalar (c : Cursor) : Except ReadError (Json × Cursor) :=
  match wordValues.find? fun w => w.1.toList.isPrefixOf c.rest with
  | some (w, v) => .ok (v, c.skip w.length)
  | none => match numberLength? c.rest with
    | some n => match longInteger? (c.rest.take n) with
      | some digits => .error ⟨.longInteger digits, c.offset⟩
      | none => .ok (.number (numberText (c.rest.take n)), c.skip n)
    | none => .error ⟨.value, c.offset⟩

mutual

/-- A value that starts at the cursor. -/
def readValue : Nat → Cursor → Except ReadError (Json × Cursor)
  | 0, c => .error ⟨.value, c.offset⟩
  | fuel + 1, c =>
    match c.rest with
    | '"' :: _ => do
      let (s, c) ← readString c.offset (c.rest.length + 1) (c.skip 1) []
      return (.string s, c)
    | '[' :: _ =>
      let c := (c.skip 1).skipBlank
      if c.rest.head? = some ']' then .ok (.array [], c.skip 1)
      else do
        let (items, c) ← readItems fuel c []
        return (.array items, c)
    | '\x7b' :: _ =>
      let c := (c.skip 1).skipBlank
      if c.rest.head? = some '\x7d' then .ok (.object [], c.skip 1)
      else do
        let (fields, c) ← readFields fuel c []
        return (.object fields, c)
    | _ => readScalar c

/-- The items of an array, the first of which starts at the cursor. -/
def readItems : Nat → Cursor → List Json → Except ReadError (List Json × Cursor)
  | 0, c, _ => .error ⟨.value, c.offset⟩
  | fuel + 1, c, done => do
    let (v, c) ← readValue fuel c
    let c := c.skipBlank
    match c.rest with
    | ']' :: _ => return ((v :: done).reverse, c.skip 1)
    | ',' :: _ => readItems fuel (c.skip 1).skipBlank (v :: done)
    | _ => throw ⟨.comma, c.offset⟩

/-- The fields of an object, the first of which starts at the cursor. -/
def readFields : Nat → Cursor → Fields → Except ReadError (Fields × Cursor)
  | 0, c, _ => .error ⟨.fieldName, c.offset⟩
  | fuel + 1, c, done => do
    if c.rest.head? ≠ some '"' then throw ⟨.fieldName, c.offset⟩
    let (name, c) ← readString c.offset (c.rest.length + 1) (c.skip 1) []
    let c := c.skipBlank
    if c.rest.head? ≠ some ':' then throw ⟨.colon, c.offset⟩
    let (v, c) ← readValue fuel (c.skip 1).skipBlank
    let c := c.skipBlank
    match c.rest with
    | '\x7d' :: _ => return (Table.set name v done, c.skip 1)
    | ',' :: _ => readFields fuel (c.skip 1).skipBlank (Table.set name v done)
    | _ => throw ⟨.comma, c.offset⟩

end

/-- The JSON value that `source` spells. -/
def parse (source : String) : Except ReadError Json := do
  if Text.startsWith source "\uFEFF" then throw ⟨.byteOrderMark, 0⟩
  let start : Cursor := ⟨source.toList, 0⟩
  let (v, c) ← readValue (2 * source.length + 2) start.skipBlank
  let c := c.skipBlank
  if c.rest.isEmpty then return v else throw ⟨.extra, c.offset⟩

end Json

end HtmlModules
