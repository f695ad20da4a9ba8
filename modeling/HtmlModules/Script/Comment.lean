import HtmlModules.Text.Alphabet
import HtmlModules.Text.Basic

/-!
# Comments

The comment of a document as a comment of a script. One that holds a documentation tag becomes a
documentation comment.
-/

namespace HtmlModules.Script

open Text

/-- Holds an `@` in front of a word. -/
def hasDocTag : List Char → Bool
  | '@' :: c :: cs => isWordChar c || hasDocTag (c :: cs)
  | _ :: cs => hasDocTag cs
  | [] => false

/-- A block comment with the text of a comment of a document. -/
def blockComment (text : String) : String :=
  let body := replaceAll text "*/" "*\\/"
  (if hasDocTag text.toList then "/**" else "/*") ++ body ++ "*/"

end HtmlModules.Script
