import HtmlModules.Text.Basic

/-!
# Template literals

Markup as the text of a template literal. Blank lines at both ends are dropped and whatever would end
the literal, or the script around it, is escaped.
-/

namespace HtmlModules.Script

open Text

/-- The lines without the blank ones at both ends. -/
def trimBlankLines (ls : List String) : List String :=
  ((ls.dropWhile allBlank).reverse.dropWhile allBlank).reverse

/-- The text that a template literal of some markup stands for. -/
def templateText (markup : String) (addNewlines : Bool) : String :=
  let body := join "\n" (trimBlankLines (lines markup))
  replaceAll (if addNewlines then "\n" ++ body ++ "\n" else body) "</script" "&lt;/script"

/-- A character inside a template literal. -/
def escapeTemplateChar (c : Char) : List Char :=
  if c = '\\' ∨ c = '\x60' ∨ c = '$' then ['\\', c] else [c]

/-- A template literal for a text. -/
def quoteTemplate (text : String) : String :=
  "\x60" ++ String.ofList (text.toList.flatMap escapeTemplateChar) ++ "\x60"

/-- A template literal whose text is the markup. -/
def templateLiteral (markup : String) (addNewlines : Bool := true) : String :=
  quoteTemplate (templateText markup addNewlines)

end HtmlModules.Script
