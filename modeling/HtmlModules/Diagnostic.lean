import HtmlModules.Table
import HtmlModules.Text.Basic
import HtmlModules.Text.LetterCase
import HtmlModules.Text.Location

/-!
# Diagnostics

Warnings and errors are collected in the order in which they are reported; one that has the code,
the message and the file of an earlier one is dropped. `render` shows a diagnostic with the line it
is about.
-/

namespace HtmlModules

open Text

/-- How bad a diagnostic is. -/
inductive Severity where
  | warning
  | error
deriving DecidableEq, Repr

/-- The word for a severity. -/
def Severity.word : Severity → String
  | .warning => "warning"
  | .error => "error"

/-- A warning or error, with its place if it has one. -/
structure Diagnostic where
  severity : Severity := .warning
  code : Option String := none
  message : String
  location : Option Location := none
  help : Option String := none
  note : Option String := none
deriving DecidableEq, Repr

/-- The two diagnostics say the same of the same file. -/
def Diagnostic.sameAs (a b : Diagnostic) : Bool :=
  a.code == b.code && a.message == b.message &&
    a.location.map (·.file) == b.location.map (·.file)

/-- The diagnostics reported so far, in order. -/
abbrev Diagnostics := List Diagnostic

/-- Reports a diagnostic, unless it has been reported. -/
def Diagnostics.report (ds : Diagnostics) (d : Diagnostic) : Diagnostics :=
  if ds.any d.sameAs then ds else ds ++ [d]

/-- Reports several diagnostics. -/
def Diagnostics.reportAll (ds news : Diagnostics) : Diagnostics := news.foldl Diagnostics.report ds

/-- The number of diagnostics of a severity. -/
def Diagnostics.count (ds : Diagnostics) (s : Severity) : Nat :=
  (ds.filter (·.severity == s)).length

/-! ## Rendering -/

/-- The styles of parts of a rendered diagnostic. -/
inductive Style where
  | bold
  | red
  | blue
  | cyan
  | yellow

/-- The sequence that switches a style on. -/
def Style.sequence : Style → String
  | .bold => "\x1b[1m"
  | .red => "\x1b[31m"
  | .blue => "\x1b[34m"
  | .cyan => "\x1b[36m"
  | .yellow => "\x1b[33m"

/-- A text in styles, or plain. -/
def styled (color : Bool) (styles : List Style) (text : String) : String :=
  if color then join "" (styles.map Style.sequence) ++ text ++ "\x1b[0m" else text

/-- A text that says something. -/
def said (s : Option String) : Option String := s.filter (· ≠ "")

/-- The style of a severity. -/
def Severity.style : Severity → Style
  | .warning => .yellow
  | .error => .red

/-- The lines of help and note, behind a margin of the given width. -/
def Diagnostic.annotations (d : Diagnostic) (margin : Nat) (color : Bool) : List String :=
  let line := fun label text =>
    styled color [.bold, .cyan] (fill (margin + 1) ' ' ++ "= ") ++
      styled color [.bold] (label ++ ": ") ++ text
  ((said d.help).map (line "help")).toList ++ ((said d.note).map (line "note")).toList

/-- The first line: severity, code and message. -/
def Diagnostic.header (d : Diagnostic) (color : Bool) : String :=
  let code := ((said d.code).map fun c => s!"[{c}]").getD ""
  styled color [.bold, d.severity.style] (d.severity.word ++ code) ++
    styled color [.bold] (": " ++ d.message)

/-- The width of the mark under the line `code`. -/
def Text.Location.markWidth (l : Location) (code : String) : Nat :=
  let start := (max l.column 1).toNat - 1
  let width := if l.endLine = l.line ∧ l.endColumn > l.column then (l.endColumn - l.column).toNat
    else (trimEnd isBlank code).length - start
  max 1 width

/-- The place with the line it is on and a mark under it. -/
def Diagnostic.snippet (d : Diagnostic) (l : Location) (source : String) (color : Bool) :
    List String :=
  let frame := styled color [.bold, .blue]
  let number := toString l.line
  let gap := fill number.length ' '
  let code := (lines source).getD (l.line.toNat - 1) ""
  let mark := fill ((max l.column 1).toNat - 1) ' ' ++ fill (l.markWidth code) '^'
  [frame (gap ++ "--> ") ++ l.text,
    frame (gap ++ " |"),
    frame (number ++ " | ") ++ code,
    frame (gap ++ " | ") ++ styled color [.bold, d.severity.style] mark] ++
  d.annotations number.length color

/-- A diagnostic as text. -/
def Diagnostic.render (d : Diagnostic) (sources : Table String) (color : Bool) : String :=
  let rest := match d.location with
    | none => d.annotations 1 color
    | some l =>
      match Table.get? sources l.file, decide (0 < l.line) with
      | some source, true => d.snippet l source color
      | _, known =>
        (styled color [.bold, .blue] " --> " ++ if known then l.text else l.file) ::
          d.annotations 1 color
  join "\n" (d.header color :: rest)

/-- A count with its noun. -/
def counted (n : Nat) (noun : String) : String := s!"{n} {noun}" ++ if n = 1 then "" else "s"

/-- All diagnostics as text, with a summary; nothing if there are none. -/
def Diagnostics.render (ds : Diagnostics) (sources : Table String) (color : Bool) : String :=
  if ds.isEmpty then ""
  else
    let summary := counted (ds.count .warning) "warning" ++ ", " ++
      counted (ds.count .error) "error" ++ " emitted"
    join "\n\n" (ds.map (·.render sources color) ++ [styled color [.bold] summary])

/-- The environment asks for color: it does unless one of the two variables forbids it. -/
def wantsColor (noColor colorMode : String) : Bool :=
  noColor = "" && !(["0", "false", "no", "never"].contains (lower colorMode))

/-- What is printed of the diagnostics: a line end follows the text if there is any. -/
def Diagnostics.printed (ds : Diagnostics) (sources : Table String) (color : Bool) : String :=
  if ds.isEmpty then "" else ds.render sources color ++ "\n"

end HtmlModules
