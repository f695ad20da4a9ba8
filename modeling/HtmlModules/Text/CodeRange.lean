/-!
# Ranges of code points

A property of characters is stored as the ascending list of the closed intervals of code points
that have it. `CodeRanges.holds` reads the list.
-/

namespace HtmlModules.Text

/-- Closed intervals of code points. -/
abbrev CodeRanges := List (Nat × Nat)

/-- The code point of `c` lies in one of the intervals. -/
def CodeRanges.holds (table : CodeRanges) (c : Char) : Bool :=
  table.any fun r => r.1 ≤ c.toNat && c.toNat ≤ r.2

end HtmlModules.Text
