import HtmlModules.Text.LetterCase
import HtmlModules.Text.Alphabet
import HtmlModules.Url.Path

/-!
# Names for bindings

Names are chosen against a list of the names in use. `findAvailable` keeps the requested name if it
is free and else appends the least number that makes it so.
-/

namespace HtmlModules.Identifier

open Text

/-- Words that are no name of a binding. -/
def reservedWords : List String :=
  ["await", "break", "case", "catch", "class", "const", "continue",
    "debugger", "default", "delete", "do", "else", "enum", "export",
    "extends", "false", "finally", "for", "function", "if", "implements",
    "import", "in", "instanceof", "interface", "let", "new", "null",
    "package", "private", "protected", "public", "return", "static",
    "super", "switch", "this", "throw", "true", "try", "typeof", "var",
    "void", "while", "with", "yield", "undefined", "arguments", "eval"]

/-- Begins a name. -/
def isNameStart (c : Char) : Bool := isAsciiLetter c || c == '_' || c == '$'

/-- Continues a name. -/
def isNamePart (c : Char) : Bool := isNameStart c || isAsciiDigit c

/-- Has the shape of a name. -/
def isNameShaped : List Char → Bool
  | [] => false
  | c :: cs => isNameStart c && cs.all isNamePart

/-- The characters without a line end behind them. -/
def dropLineEnd (cs : List Char) : List Char :=
  if cs.getLast? = some '\n' then cs.dropLast else cs

/-- A text that can name a binding. One line end behind the name is allowed. -/
def isValid (name : String) : Bool :=
  isNameShaped (dropLineEnd name.toList) && !reservedWords.contains name

/-- The name with a number behind it. -/
def numbered (name : String) (n : Nat) : String := s!"{name}${n}"

/-- The least `k ≥ n` for which the numbered name is not in use; `fuel` bounds the search. -/
def freeSuffix (requested : String) (used : List String) : Nat → Nat → Nat
  | 0, n => n
  | fuel + 1, n =>
    if used.contains (numbered requested n) then freeSuffix requested used fuel (n + 1) else n

/-- A name that is neither in use nor reserved: the requested one if it can be had, else the first
numbered one that is free. -/
def findAvailable (requested : String) (used : List String) : String :=
  if used.contains requested || reservedWords.contains requested then
    numbered requested (freeSuffix requested used used.length 0)
  else requested

/-- Takes a name into use. -/
def use (name : String) (used : List String) : List String :=
  if used.contains name then used else used ++ [name]

/-- Finds an available name and takes it into use. -/
def allocate (requested : String) (used : List String) : String × List String :=
  let name := findAvailable requested used
  (name, use name used)

/-! ## Derived names -/

/-- A small letter behind a dash becomes a capital, and the dash goes. -/
def camelChars : List Char → List Char
  | [] => []
  | '-' :: c :: cs =>
    if 'a' ≤ c && c ≤ 'z' then c.toUpper :: camelChars cs else '-' :: camelChars (c :: cs)
  | c :: cs => c :: camelChars cs
termination_by cs => cs.length

/-- The name with its dashes turned into capitals. -/
def camelCase (name : String) : String := String.ofList (camelChars name.toList)

/-- The words of a name that are marked by capitals, in small letters with underscores between
them. -/
def snakeCase (name : String) : String :=
  match name.toList with
  | [] => ""
  | c :: cs => lower (String.ofList (c :: cs.flatMap fun d =>
      if 'A' ≤ d && d ≤ 'Z' then ['_', d] else [d]))

/-- A file name without its extension. -/
def stem (name : String) : String :=
  let cs := name.toList
  if cs.contains '.' then String.ofList ((dropEndWhile (· ≠ '.') cs).dropLast) else name

/-- The name of a module as a whole: two dollar signs and the name of its file. -/
def moduleName (url : String) : String :=
  "$$" ++ String.ofList ((camelCase (stem (Url.baseName url))).toList.map fun c =>
    if isNamePart c then c else '_')

/-- The text with a capital at its beginning. -/
def capitalize (s : String) : String :=
  match s.toList with
  | [] => ""
  | c :: cs => String.ofList (upperChar c ++ cs)

/-- The path of the function that sets the last member of a path. -/
def setterPath (path : List String) : Option String :=
  path.getLast?.map fun last => join "." (path.dropLast ++ ["set" ++ capitalize last])

end HtmlModules.Identifier
