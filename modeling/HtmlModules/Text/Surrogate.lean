/-!
# Surrogates without a partner

A surrogate is a code point that is no character, yet an escape can spell one. In a text it is held
by three noncharacters: `U+FFFE` or `U+FFFF` for a high or a low one, and two of the thirty-two from
`U+FDD0` on for its ten bits. Noncharacters are reserved for such internal use, so no text that is
meant for exchange holds such a run. `Surrogate.points` tells what a text is made of, so that a
printer can write a surrogate that is held as the escape it came from.
-/

namespace HtmlModules.Text

/-- The code point is a surrogate. -/
def isSurrogate (n : Nat) : Bool := 0xD800 ≤ n && n ≤ 0xDFFF

namespace Surrogate

/-- The noncharacter that holds five bits. -/
def bits (n : Nat) : Char := Char.ofNat (0xFDD0 + n % 32)

/-- The five bits that a noncharacter holds. -/
def bitsOf? (c : Char) : Option Nat :=
  if '\uFDD0' ≤ c && c ≤ '\uFDEF' then some (c.toNat - 0xFDD0) else none

/-- The characters that hold a surrogate. -/
def hold (n : Nat) : List Char :=
  [if n < 0xDC00 then '\uFFFE' else '\uFFFF', bits (n / 32), bits n]

/-- The surrogate that stands at the beginning of a text. -/
def held? : List Char → Option Nat
  | '\uFFFE' :: a :: b :: _ => do return 0xD800 + (← bitsOf? a) * 32 + (← bitsOf? b)
  | '\uFFFF' :: a :: b :: _ => do return 0xDC00 + (← bitsOf? a) * 32 + (← bitsOf? b)
  | _ => none

/-- The code points of a text from behind `skip` characters that are read already. -/
def pointsFrom : Nat → List Char → List Nat
  | _, [] => []
  | skip + 1, _ :: cs => pointsFrom skip cs
  | 0, c :: cs =>
    match held? (c :: cs) with
    | some n => n :: pointsFrom 2 cs
    | none => c.toNat :: pointsFrom 0 cs

/-- The code points of a text, surrogates among them. -/
def points (s : String) : List Nat := pointsFrom 0 s.toList

/-- The text holds a surrogate. -/
def occursIn (s : String) : Bool := (points s).any isSurrogate

end Surrogate

/-- The characters that stand for a code point. -/
def pointChars (n : Nat) : List Char := if isSurrogate n then Surrogate.hold n else [Char.ofNat n]

end HtmlModules.Text
