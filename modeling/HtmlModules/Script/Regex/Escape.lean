import HtmlModules.Script.Regex.Symbol
import HtmlModules.Text.CharacterName

/-!
# Escapes and sets

What a backslash and a letter stand for, and the members of a set in brackets. A member is one
character or a class of characters; a range has a character at both ends, the lower one first.
-/

namespace HtmlModules.Script.Regex

open Text

/-! ## Escapes -/

/-- The letters that stand for a class of characters. -/
def classLetters : List Char := ['d', 'D', 's', 'S', 'w', 'W']

/-- The letters that stand for a place. -/
def placeLetters : List Char := ['A', 'b', 'B', 'Z']

/-- The letters in front of a code point. -/
def pointLetters : List Char := ['x', 'u', 'U', 'N']

/-- An octal digit. -/
def isOctal (c : Char) : Bool := '0' ≤ c && c ≤ '7'

/-- The number that octal digits spell. -/
def octalValue (digits : List Char) : Nat :=
  digits.foldl (fun n d => n * 8 + (d.toNat - '0'.toNat)) 0

/-- The greatest number of a character in octal digits. -/
def lastOctal : Nat := 0xFF

/-- The code of the character that a letter behind a backslash stands for. -/
def controlCode? : Char → Option Nat
  | 'a' => some 7
  | 'f' => some 12
  | 'n' => some 10
  | 'r' => some 13
  | 't' => some 9
  | 'v' => some 11
  | _ => none

/-- A code point in `count` hexadecimal digits. -/
def hexPoint? (count : Nat) (cs : List Symbol) : Option (Nat × List Symbol) :=
  let (digits, rest) := takeChars isHex count cs
  if digits.length = count && hexValue digits ≤ 0x10FFFF then some (hexValue digits, rest) else none

/-- The code point behind one of the letters for it: in digits, or a name in braces. -/
def escapedPoint? (letter : Char) (cs : List Symbol) : Option (Nat × List Symbol) :=
  match letter, cs with
  | 'x', cs => hexPoint? 2 cs
  | 'u', cs => hexPoint? 4 cs
  | 'U', cs => hexPoint? 8 cs
  | 'N', .char '\x7b' :: cs => do
    let (name, rest) ← enclosed? '\x7d' cs
    return (← CharacterName.point? name, rest)
  | _, _ => none

/-! ## Sets -/

/-- A member of a set: the code of a character, or none for a class of characters. -/
def setMember : List Symbol → Option (Option Nat × List Symbol)
  | .escape c :: cs =>
    if classLetters.contains c then some (none, cs)
    else if c == 'b' then some (some 8, cs)
    else if let some n := controlCode? c then some (some n, cs)
    else if pointLetters.contains c then (escapedPoint? c cs).map fun (n, cs) => (some n, cs)
    else if isOctal c then
      let (digits, rest) := takeChars isOctal 2 cs
      let n := octalValue (c :: digits)
      if n > lastOctal then none else some (some n, rest)
    else if isAsciiLetter c || isAsciiDigit c then none
    else some (some c.toNat, cs)
  | .char c :: cs => some (some c.toNat, cs)
  | .surrogate n :: cs => some (some n, cs)
  | [] => none

/-- The rest behind the members of a set and its closing bracket; a bracket in front of all others
is a member. -/
def skipSet : Nat → Bool → List Symbol → Option (List Symbol)
  | 0, _, _ => none
  | fuel + 1, first, cs =>
    if !first && cs.head? == some (.char ']') then some (cs.drop 1)
    else do
      let (low, cs) ← setMember cs
      match cs with
      | .char '-' :: .char ']' :: rest => some rest
      | .char '-' :: rest =>
        let (high, rest) ← setMember rest
        if (← low) ≤ (← high) then skipSet fuel false rest else none
      | _ => skipSet fuel false cs

/-- The rest behind a set, from behind its opening bracket. -/
def set? (cs : List Symbol) : Option (List Symbol) :=
  skipSet (cs.length + 1) true (if cs.head? == some (.char '^') then cs.drop 1 else cs)

end HtmlModules.Script.Regex
