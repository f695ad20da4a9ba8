import HtmlModules.Markup.EntityNames
import HtmlModules.Json.Reader
import HtmlModules.Table
import HtmlModules.Text.Alphabet

/-!
# Character references

`unescape` replaces the references in a text by the characters they stand for. A name need not end
in a semicolon: the longest beginning that is a name counts. A number that stands for no character
gives the replacement character, one that must not stand in a text gives nothing.
-/

namespace HtmlModules.Markup

open Text

/-- The text as a number in hexadecimal. -/
def hexNumber (cs : List Char) : Nat :=
  cs.foldl (fun n c => n * 16 + (Json.hexValue? c).getD 0) 0

/-- One entry of the list of names. -/
def entityOfText (entry : String) : String × String :=
  let points := (split ',' (dropFirst 1 (String.ofList (entry.toList.dropWhile (· ≠ ':'))))).map
    fun p => Char.ofNat (hexNumber p.toList)
  (before ':' entry, String.ofList points)

/-- The names that every attribute printer uses. -/
def basicEntities : Table String := [("amp;", "&"), ("quot;", "\"")]

/-- The characters that names stand for. -/
def entities : Table String := (entityLines.flatMap (split ' ')).map entityOfText

/-- What a name stands for. -/
def entity? (name : String) : Option String :=
  (basicEntities.lookup name).or (entities.lookup name)

/-- The characters that the numbers of control characters stand for by tradition. -/
def traditionalNumbers : List (Nat × Char) :=
  [(0x00, '\uFFFD'), (0x0D, '\r'), (0x80, '\u20AC'), (0x81, '\x81'), (0x82, '\u201A'),
    (0x83, '\u0192'), (0x84, '\u201E'), (0x85, '\u2026'), (0x86, '\u2020'), (0x87, '\u2021'),
    (0x88, '\u02C6'), (0x89, '\u2030'), (0x8A, '\u0160'), (0x8B, '\u2039'), (0x8C, '\u0152'),
    (0x8D, '\x8D'), (0x8E, '\u017D'), (0x8F, '\x8F'), (0x90, '\x90'), (0x91, '\u2018'),
    (0x92, '\u2019'), (0x93, '\u201C'), (0x94, '\u201D'), (0x95, '\u2022'), (0x96, '\u2013'),
    (0x97, '\u2014'), (0x98, '\u02DC'), (0x99, '\u2122'), (0x9A, '\u0161'), (0x9B, '\u203A'),
    (0x9C, '\u0153'), (0x9D, '\x9D'), (0x9E, '\u017E'), (0x9F, '\u0178')]

/-- The number of a character that must not stand in a text. -/
def isForbiddenNumber (n : Nat) : Bool :=
  (1 ≤ n && n ≤ 8) || n == 0x0B || (0x0E ≤ n && n ≤ 0x1F) || (0x7F ≤ n && n ≤ 0x9F) ||
    (0xFDD0 ≤ n && n ≤ 0xFDEF) || (n % 0x10000 ≥ 0xFFFE && n ≤ 0x10FFFF)

/-- The text that a number stands for. -/
def numbered (n : Nat) : List Char :=
  match traditionalNumbers.lookup n with
  | some c => [c]
  | none =>
    if (0xD800 ≤ n && n ≤ 0xDFFF) || n > 0x10FFFF then ['\uFFFD']
    else if isForbiddenNumber n then [] else [Char.ofNat n]

/-- Can be part of a name. -/
def isEntityChar (c : Char) : Bool :=
  !(['\t', '\n', '\x0C', ' ', '<', '&', '#', ';'].contains c)

/-- What the longest beginning of `name` with at least two characters stands for, followed by what
comes behind it; `n` is the length to try first. -/
def longestEntity (name : List Char) : Nat → Option (List Char)
  | 0 | 1 => none
  | n + 2 =>
    match entity? (String.ofList (name.take (n + 2))) with
    | some text => some (text.toList ++ name.drop (n + 2))
    | none => longestEntity name (n + 1)

/-- The text that a reference by name stands for; `name` includes its semicolon. -/
def named (name : List Char) : List Char :=
  match entity? (String.ofList name) with
  | some text => text.toList
  | none => (longestEntity name (name.length - 1)).getD ('&' :: name)

/-- The reference at the beginning of a text behind an ampersand: the text it stands for, and the
number of characters it takes. -/
def reference? (cs : List Char) : Option (List Char × Nat) :=
  match cs with
  | '#' :: 'x' :: rest | '#' :: 'X' :: rest =>
    let digits := rest.takeWhile fun c => (Json.hexValue? c).isSome
    let closed := (rest.drop digits.length).head? == some ';'
    if digits.isEmpty then none
    else some (numbered (hexNumber digits), 2 + digits.length + if closed then 1 else 0)
  | '#' :: rest =>
    let digits := rest.takeWhile isAsciiDigit
    let closed := (rest.drop digits.length).head? == some ';'
    if digits.isEmpty then none
    else some (numbered (Decimal.digitsValue digits), 1 + digits.length + if closed then 1 else 0)
  | _ =>
    let word := (cs.takeWhile isEntityChar).take 32
    let closed := (cs.drop word.length).head? == some ';'
    if word.isEmpty then none
    else
      let name := if closed then word ++ [';'] else word
      some (named name, name.length)

/-- A reference by a decimal number has more digits than can be read. -/
def holdsLongNumber : List Char → Bool
  | [] => false
  | '&' :: '#' :: cs =>
    decide ((cs.takeWhile isAsciiDigit).length > Decimal.mostDigits) || holdsLongNumber cs
  | _ :: cs => holdsLongNumber cs

/-- Replaces references; the first `skip` characters belong to one already replaced. -/
def unescapeFrom : Nat → List Char → List Char
  | _, [] => []
  | skip + 1, _ :: cs => unescapeFrom skip cs
  | 0, '&' :: cs =>
    match reference? cs with
    | some (text, n) => text ++ unescapeFrom n cs
    | none => '&' :: unescapeFrom 0 cs
  | 0, c :: cs => c :: unescapeFrom 0 cs

/-- The text with its references replaced. -/
def unescape (s : String) : String := String.ofList (unescapeFrom 0 s.toList)

end HtmlModules.Markup
