import HtmlModules.Text.Alphabet

/-!
# The shortest decimal of a binary fraction

A finite double is `m · 2 ^ q`. Its shortest decimal is the one with the fewest digits that reads
back as the same double; among those the nearest. The search tries one digit, two digits, and so on
up to seventeen, and looks at the two neighbours of the number on each decimal grid, in exact
arithmetic. `Decimal.render` chooses between positional and scientific form, and `Decimal.wholeText`
writes a double that is an integer with all its digits.
-/

namespace HtmlModules.Decimal

/-- The power of two with the given exponent. -/
def twoTo (n : Nat) : Nat := Nat.pow 2 n

/-- The power of ten with the given exponent. -/
def tenTo (n : Nat) : Nat := Nat.pow 10 n

/-- A positive double `mantissa · 2 ^ exponent`; `atEdge` tells that the double below it is only
half as far away as the one above. -/
structure Binary where
  mantissa : Nat
  exponent : Int
  atEdge : Bool

/-- The parts of the bits of a finite double, without the sign. -/
def Binary.ofBits (bits : UInt64) : Binary :=
  let raw := bits.toNat % twoTo 63
  let fraction := raw % twoTo 52
  let power : Nat := raw / twoTo 52
  if power = 0 then ⟨fraction, -1074, false⟩
  else ⟨twoTo 52 + fraction, (power : Int) - 1075, fraction = 0 && power > 1⟩

/-- The decimal number `digits · 10 ^ exponent`. -/
structure Numeral where
  digits : Nat
  exponent : Int

/-- The natural number that digits spell. -/
def digitsValue (cs : List Char) : Nat := cs.foldl (fun n c => n * 10 + (c.toNat - '0'.toNat)) 0

/-- The number of digits that an integer may have where it is read from a text or written as one. -/
def mostDigits : Nat := 4300

/-- The number that a text spells: digits, digits behind a point and an exponent, of which any may be
missing. -/
def Numeral.ofChars (cs : List Char) : Numeral :=
  let whole := cs.takeWhile Text.isAsciiDigit
  let rest := cs.drop whole.length
  let places := match rest with
    | '.' :: r => r.takeWhile Text.isAsciiDigit
    | _ => []
  let rest := if rest.head? = some '.' then rest.drop (places.length + 1) else rest
  let power : Int := match rest with
    | _ :: '-' :: r => -(digitsValue r : Int)
    | _ :: '+' :: r => digitsValue r
    | _ :: r => digitsValue r
    | [] => 0
  ⟨digitsValue (whole ++ places), power - places.length⟩

/-- `n · 10 ^ e` and `n · 2 ^ f` over a common denominator: the numerator and the denominator of
`n · 10 ^ e · 2 ^ f`. -/
def scaled (n : Nat) (e f : Int) : Nat × Nat :=
  (n * tenTo e.toNat * twoTo f.toNat, tenTo (-e).toNat * twoTo (-f).toNat)

/-- `d · 10 ^ e` reads back as `b`: it lies between the midpoints to the neighbours of `b`, the
midpoints included if the mantissa is even. -/
def readsBack (b : Binary) (d : Nat) (e : Int) : Bool :=
  -- compare four times both sides
  let (dn, dd) := scaled (4 * d) e (-b.exponent)
  let low := (4 * b.mantissa - (if b.atEdge then 1 else 2)) * dd
  let high := (4 * b.mantissa + 2) * dd
  if b.mantissa % 2 = 0 then low ≤ dn && dn ≤ high else low < dn && dn < high

/-- The number of decimal digits of `n`. -/
def digitCount (n : Nat) : Nat := (Nat.toDigits 10 n).length

/-- The exponent of ten of the leading digit of `num / den`, which is positive. -/
def leadingExponent (num den : Nat) : Int :=
  if den ≤ num then (digitCount (num / den) : Int) - 1
  else
    let up := digitCount den - digitCount num
    if den ≤ num * tenTo up then -(up : Int) else -(up : Int) - 1

/-- The decimal with `n` digits next to `b` that reads back as `b`, if there is one. -/
def withDigits? (b : Binary) (n : Nat) : Option Numeral :=
  let (num, den) := scaled b.mantissa 0 b.exponent
  let e := leadingExponent num den - ((n : Int) - 1)
  let (gridNum, gridDen) := scaled 1 (-e) 0
  let lower := num * gridNum / (den * gridDen)
  let rest := num * gridNum % (den * gridDen)
  let below := readsBack b lower e
  let above := readsBack b (lower + 1) e
  if below && (!above || 2 * rest ≤ den * gridDen) then some ⟨lower, e⟩
  else if above then some ⟨lower + 1, e⟩ else none

/-- The shortest decimal that reads back as `b`. -/
def shortest (b : Binary) : Numeral :=
  ((List.range 17).findSome? fun n => withDigits? b (n + 1)).getD ⟨0, 0⟩

/-- Drops trailing zeros of the digits. -/
def trimZeros : Nat → List Char → Nat × List Char
  | dropped, cs => match cs.reverse.span (· == '0') with
    | (zeros, rest) => (dropped + zeros.length, rest.reverse)

/-- The text of `digits · 10 ^ exponent`: positional, with at least one place, when the leading
digit stands between `10 ^ -4` and `10 ^ 15`, else with an exponent of at least two digits. -/
def render (d : Numeral) : String :=
  let (zeros, cs) := trimZeros 0 (Nat.toDigits 10 d.digits)
  let e := d.exponent + zeros
  let lead := e + cs.length - 1
  if -4 ≤ lead && lead < 16 then
    if 0 ≤ e then String.ofList (cs ++ List.replicate e.toNat '0') ++ ".0"
    else if 0 ≤ lead then
      String.ofList (cs.take (lead.toNat + 1)) ++ "." ++ String.ofList (cs.drop (lead.toNat + 1))
    else "0." ++ String.ofList (List.replicate (-lead - 1).toNat '0' ++ cs)
  else
    let power := toString lead.natAbs
    let power := if power.length < 2 then "0" ++ power else power
    let sign := if lead < 0 then "-" else "+"
    String.ofList (cs.take 1) ++ (if cs.length > 1 then "." ++ String.ofList (cs.drop 1) else "") ++
      "e" ++ sign ++ power

/-! ## Doubles -/

/-- The bits of the double nearest to a decimal number. -/
def Numeral.nearestDouble (d : Numeral) : UInt64 :=
  (Float.ofScientific d.digits (d.exponent < 0) d.exponent.natAbs).toBits

/-- The bits are those of an infinite number. -/
def isInfinite (bits : UInt64) : Bool := bits.toNat / twoTo 52 % twoTo 11 = 2047

/-- The bits are those of zero, with any sign. -/
def isZero (bits : UInt64) : Bool := bits.toNat % twoTo 63 = 0

/-- The text of a double, given by its sign and the bits of its absolute value. -/
def text (negative : Bool) (bits : UInt64) : String :=
  let sign := if negative then "-" else ""
  if isInfinite bits then sign ++ "Infinity"
  else if isZero bits then sign ++ "0.0"
  else sign ++ render (shortest (Binary.ofBits bits))

/-- The number if it is an integer. -/
def Binary.whole? (b : Binary) : Option Nat :=
  let divisor := twoTo (-b.exponent).toNat
  if b.mantissa % divisor = 0 then some (b.mantissa * twoTo b.exponent.toNat / divisor) else none

/-- The text of a double that is not negative; an integer has no places and no exponent. -/
def wholeText (bits : UInt64) : String :=
  if isInfinite bits then "inf"
  else match (Binary.ofBits bits).whole? with
    | some n => toString n
    | none => text false bits

end HtmlModules.Decimal
