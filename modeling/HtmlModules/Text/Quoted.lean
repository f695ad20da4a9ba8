import HtmlModules.Text.Printable
import HtmlModules.Text.Surrogate

/-!
# Quoted text

The form in which messages show a text: in single quotes, or in double quotes if it holds a single
quote and no double one. Characters that cannot be shown, and surrogates that the text holds, are
written as escapes.
-/

namespace HtmlModules.Text

/-- A lower-case hexadecimal digit. -/
def hexDigit (n : Nat) : Char := (Nat.digitChar (n % 16))

/-- The last `width` hexadecimal digits of `n`. -/
def hexDigits : Nat → Nat → List Char
  | 0, _ => []
  | width + 1, n => hexDigits width (n / 16) ++ [hexDigit n]

/-- The quote that encloses `s`. -/
def quoteOf (s : String) : Char :=
  if s.toList.contains '\'' && !s.toList.contains '"' then '"' else '\''

/-- One character inside the quotes `q`. -/
def quoteChar (q c : Char) : List Char :=
  if c = q || c = '\\' then ['\\', c]
  else if c = '\n' then ['\\', 'n']
  else if c = '\r' then ['\\', 'r']
  else if c = '\t' then ['\\', 't']
  else if isPrintable c then [c]
  else if c.toNat ≤ 0xFF then '\\' :: 'x' :: hexDigits 2 c.toNat
  else if c.toNat ≤ 0xFFFF then '\\' :: 'u' :: hexDigits 4 c.toNat
  else '\\' :: 'U' :: hexDigits 8 c.toNat

/-- One code point inside the quotes `q`. -/
def quotePoint (q : Char) (n : Nat) : List Char :=
  if isSurrogate n then '\\' :: 'u' :: hexDigits 4 n else quoteChar q (Char.ofNat n)

/-- `s` in quotes. -/
def quoted (s : String) : String :=
  let q := quoteOf s
  String.ofList (q :: ((Surrogate.points s).flatMap (quotePoint q) ++ [q]))

end HtmlModules.Text
