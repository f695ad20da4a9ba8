import HtmlModules.Json.Decimal
import HtmlModules.Json.Reader
import HtmlModules.Text.Alphabet
import HtmlModules.Text.Basic
import HtmlModules.Text.Surrogate

/-!
# The symbols of a regular expression

An expression is read as a list of symbols: characters, and characters behind a backslash. The escapes
`\uXXXX` and `\u` with braces are replaced by their code points first, so a bracket that is written
in this way counts as a bracket. A code point beyond the basic plane, and a pair of surrogates, count
as the last character of that plane.
-/

namespace HtmlModules.Script.Regex

open Text

/-- One unit of an expression. -/
inductive Symbol where
  | char (c : Char)
  /-- A backslash with the character behind it. -/
  | escape (c : Char)
  /-- A surrogate without a partner. -/
  | surrogate (point : Nat)
deriving DecidableEq, Repr

/-! ## Code points -/

/-- The number that hexadecimal digits spell. -/
def hexValue (digits : List Char) : Nat :=
  digits.foldl (fun n d => n * 16 + (Json.hexValue? d).getD 0) 0

/-- A hexadecimal digit. -/
def isHex (c : Char) : Bool := (Json.hexValue? c).isSome

/-- The code point at the beginning of a text behind `\u`, and the number of characters it takes. -/
def codePoint? (cs : List Char) : Option (Nat × Nat) :=
  match cs with
  | '\x7b' :: rest =>
    let digits := rest.takeWhile isHex
    if !digits.isEmpty && (rest.drop digits.length).head? == some '\x7d'
    then some (hexValue digits, digits.length + 2) else none
  | _ =>
    let digits := (cs.take 4).takeWhile isHex
    if digits.length = 4 then some (hexValue digits, 4) else none

/-- The last code point of the basic plane. -/
def lastBasic : Nat := 0xFFFF

/-- The code points of a text with its escapes replaced; none if one of them is too large. The first
`skip` characters belong to one already replaced. -/
def pointsFrom : Nat → List Char → Option (List Nat)
  | _, [] => some []
  | skip + 1, _ :: cs => pointsFrom skip cs
  | 0, '\\' :: 'u' :: cs =>
    match codePoint? cs with
    | some (n, width) =>
      if n > 0x10FFFF then none
      else (pointsFrom (width + 1) ('u' :: cs)).map (min n lastBasic :: ·)
    | none => (pointsFrom 0 ('u' :: cs)).map ('\\'.toNat :: ·)
  | 0, c :: cs => (pointsFrom 0 cs).map (c.toNat :: ·)

/-- The code points with pairs of surrogates replaced. -/
def joinPairs : List Nat → List Nat
  | high :: low :: rest =>
    if 0xD800 ≤ high && high ≤ 0xDBFF && 0xDC00 ≤ low && low ≤ 0xDFFF then
      lastBasic :: joinPairs rest
    else high :: joinPairs (low :: rest)
  | points => points

/-- The symbols that code points spell; none if a backslash is the last of them. -/
def symbols? : List Nat → Option (List Symbol)
  | [] => some []
  | n :: rest =>
    if isSurrogate n then (symbols? rest).map (.surrogate n :: ·)
    else if n = '\\'.toNat then
      match rest with
      | [] => none
      | m :: rest =>
        let symbol := if isSurrogate m then Symbol.surrogate m else .escape (Char.ofNat m)
        (symbols? rest).map (symbol :: ·)
    else (symbols? rest).map (.char (Char.ofNat n) :: ·)

/-- The symbols of the body of a regular expression. -/
def Symbol.ofBody? (body : List Char) : Option (List Symbol) := do
  symbols? (joinPairs (← pointsFrom 0 body))

/-! ## Parts -/

/-- The characters that satisfy `p` at the beginning, at most `count`, and the rest. -/
def takeChars (p : Char → Bool) : Nat → List Symbol → List Char × List Symbol
  | count + 1, .char c :: cs =>
    if p c then
      let (taken, rest) := takeChars p count cs
      (c :: taken, rest)
    else ([], .char c :: cs)
  | _, cs => ([], cs)

/-- The characters up to a closing one and the rest behind it; none if there are none, or if other
symbols stand among them. -/
def enclosed? (close : Char) (cs : List Symbol) : Option (List Char × List Symbol) := do
  let inner := cs.takeWhile (· ≠ .char close)
  let rest := cs.drop inner.length
  if inner.isEmpty || rest.isEmpty then none
  let chars ← inner.mapM fun
    | .char c => some c
    | _ => none
  return (chars, rest.drop 1)

/-- The name of a group. -/
def isGroupName (name : List Char) : Bool :=
  name.head?.any isUnicodeNameStart && (name.drop 1).all isUnicodeNamePart

/-- Digits in which single underscores may stand between two of them. -/
def spacedDigits? : List Char → Option (List Nat)
  | [] => none
  | [c] => (decimalValue? c).map ([·])
  | c :: '_' :: cs => do return (← decimalValue? c) :: (← spacedDigits? cs)
  | c :: cs => do return (← decimalValue? c) :: (← spacedDigits? cs)

/-- The number of a group: a positive number that may have a sign and blanks around it, and not too
many digits. -/
def groupNumber? (cs : List Char) : Option Nat := do
  let isOuter := fun c => isBlank c && !('\x1c' ≤ c && c ≤ '\x1f')
  let cs := dropEndWhile isOuter (cs.dropWhile isOuter)
  let digits ← spacedDigits? (if cs.head? == some '+' then cs.drop 1 else cs)
  let n := digits.foldl (fun n d => n * 10 + d) 0
  if 0 < n && digits.length ≤ Decimal.mostDigits then some n else none

end HtmlModules.Script.Regex
