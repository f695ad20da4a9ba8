import HtmlModules.Sorting
import HtmlModules.Text.Blank

/-!
# Operations on text

Offsets count characters, so every operation is defined on the list of the characters of a text.
A search reads from left to right and its matches do not overlap.
-/

namespace HtmlModules.Text

/-! ## Parts -/

/-- The characters of `s` from offset `a` up to, but not including, offset `b`. -/
def slice (s : String) (a b : Nat) : String := String.ofList ((s.toList.take b).drop a)

/-- `s` without its first `n` characters. -/
def dropFirst (n : Nat) (s : String) : String := String.ofList (s.toList.drop n)

/-- `s` without its last `n` characters. -/
def dropLast (n : Nat) (s : String) : String := String.ofList (s.toList.take (s.length - n))

/-- `s` begins with `p`. -/
def startsWith (s p : String) : Bool := p.toList.isPrefixOf s.toList

/-- `s` ends with `p`. -/
def endsWith (s p : String) : Bool := p.toList.isSuffixOf s.toList

/-- What follows `p` at the beginning of `s`. -/
def afterStart? (s p : String) : Option String :=
  if startsWith s p then some (dropFirst p.length s) else none

/-- What precedes `p` at the end of `s`. -/
def beforeEnd? (s p : String) : Option String :=
  if endsWith s p then some (dropLast p.length s) else none

/-! ## Trimming -/

/-- `cs` without the characters at its end that satisfy `p`. -/
def dropEndWhile (p : Char → Bool) (cs : List Char) : List Char :=
  (cs.reverse.dropWhile p).reverse

/-- `s` without the leading characters that satisfy `p`. -/
def trimStart (p : Char → Bool) (s : String) : String := String.ofList (s.toList.dropWhile p)

/-- `s` without the trailing characters that satisfy `p`. -/
def trimEnd (p : Char → Bool) (s : String) : String := String.ofList (dropEndWhile p s.toList)

/-- `s` without the characters at both ends that satisfy `p`. -/
def trimBoth (p : Char → Bool) (s : String) : String :=
  String.ofList (dropEndWhile p (s.toList.dropWhile p))

/-- `s` without white space at its ends. -/
def trim (s : String) : String := trimBoth isBlank s

/-- Only white space. -/
def allBlank (s : String) : Bool := s.toList.all isBlank

/-! ## Splitting -/

/-- The parts of `cs` between the occurrences of `sep`; there is at least one. -/
def splitChars (sep : Char) : List Char → List (List Char)
  | [] => [[]]
  | c :: cs =>
    if c = sep then [] :: splitChars sep cs
    else match splitChars sep cs with
      | [] => [[c]]
      | part :: parts => (c :: part) :: parts

/-- The parts of `s` between the occurrences of `sep`. -/
def split (sep : Char) (s : String) : List String := (splitChars sep s.toList).map String.ofList

/-- The lines of `s`. -/
def lines (s : String) : List String := split '\n' s

/-- The maximal runs of characters that are not blank. -/
def words (s : String) : List String :=
  ((splitChars ' ' (s.toList.map fun c => if isBlank c then ' ' else c)).filter
    (fun w => !w.isEmpty)).map String.ofList

/-- The part of `s` before the first `sep`, all of it if there is none. -/
def before (sep : Char) (s : String) : String := String.ofList (s.toList.takeWhile (· ≠ sep))

/-! ## Searching -/

/-- The offset of the first occurrence of `pat`. -/
def indexOfChars (pat : List Char) : List Char → Option Nat
  | [] => if pat.isEmpty then some 0 else none
  | c :: cs =>
    if pat.isPrefixOf (c :: cs) then some 0 else (indexOfChars pat cs).map (· + 1)

/-- The offset of the first occurrence of `pat` in `s`. -/
def indexOf (s pat : String) : Option Nat := indexOfChars pat.toList s.toList

/-- `pat` occurs in `s`. -/
def contains (s pat : String) : Bool := (indexOf s pat).isSome

/-! ## Replacing -/

/-- Replaces the occurrences of `pat`; the first `skip` characters belong to a match already
replaced and are dropped. -/
def replaceFrom (pat rep : List Char) : Nat → List Char → List Char
  | _, [] => []
  | skip + 1, _ :: cs => replaceFrom pat rep skip cs
  | 0, c :: cs =>
    if pat.isPrefixOf (c :: cs) then rep ++ replaceFrom pat rep (pat.length - 1) cs
    else c :: replaceFrom pat rep 0 cs

/-- `s` with every occurrence of the non-empty `pat` replaced by `rep`. -/
def replaceAll (s pat rep : String) : String :=
  String.ofList (replaceFrom pat.toList rep.toList 0 s.toList)

/-- `cs` with the first occurrence of `pat` replaced by `rep`. -/
def replaceFirstChars (pat rep : List Char) : List Char → List Char
  | [] => if pat.isEmpty then rep else []
  | c :: cs =>
    if pat.isPrefixOf (c :: cs) then rep ++ (c :: cs).drop pat.length
    else c :: replaceFirstChars pat rep cs

/-- `s` with the first occurrence of `pat` replaced by `rep`. -/
def replaceFirst (s pat rep : String) : String :=
  String.ofList (replaceFirstChars pat.toList rep.toList s.toList)

/-! ## Joining -/

/-- The texts one after the other with `sep` between them. -/
def join (sep : String) : List String → String
  | [] => ""
  | [s] => s
  | s :: rest => s ++ sep ++ join sep rest

/-- `n` copies of `c`. -/
def fill (n : Nat) (c : Char) : String := String.ofList (List.replicate n c)

/-- Order by code points. -/
def le (a b : String) : Bool := decide (a ≤ b)

/-- The texts in ascending order of code points. -/
def sort (l : List String) : List String := sortBy le l

end HtmlModules.Text
