import HtmlModules.Pass.Import

/-!
# The finished program

Deferred texts take the places of their placeholders, blank space at both ends goes, and a program
that is not empty ends with one line end.
-/

namespace HtmlModules.Pass

open Text

/-- The text without line ends in front of it and blanks behind it, ended by a line end if any of it
is left. -/
def normalizeEnds (source : String) : String :=
  let text := trimEnd isBlank (trimStart (· == '\n') source)
  if text = "" then "" else text ++ "\n"

/-- Writes the program as it is put out. -/
def finish (source : String) : Step String := do
  return normalizeEnds (replacePlaceholders source (← get).deferred)

end HtmlModules.Pass
