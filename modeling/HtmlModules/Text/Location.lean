/-!
# Locations

A place in a file, as offsets of characters and as lines and columns counted from one. A
`LineIndex` leads from one to the other. `shiftLocation` re-anchors a place found in the tail of a
text, such as a script inside a document, to the whole of it.

Lines and columns are integers: a place reported against the wrong line can have a column below
one.
-/

namespace HtmlModules.Text

/-- A place in a file; an end of zero means that none is known. -/
structure Location where
  file : String
  line : Int
  column : Int
  start : Int := 0
  stop : Int := 0
  endLine : Int := 0
  endColumn : Int := 0
deriving DecidableEq, Repr

/-- The place as `file:line:column`. -/
def Location.text (l : Location) : String := s!"{l.file}:{l.line}:{l.column}"

/-- A location that names a file only. -/
def Location.fileOnly (file : String) : Location := { file, line := 0, column := 0 }

/-- The offsets at which the lines of a text start, in ascending order. -/
abbrev LineIndex := List Nat

namespace LineIndex

/-- The offsets behind the line ends of `cs`, which starts at `offset`. -/
def starts : Nat → List Char → List Nat
  | _, [] => []
  | offset, c :: cs =>
    if c = '\n' then (offset + 1) :: starts (offset + 1) cs else starts (offset + 1) cs

/-- The line starts of a text; the first line starts at zero. -/
def ofText (s : String) : LineIndex := 0 :: starts 0 s.toList

/-- The start of the last line. -/
def lastStart (index : LineIndex) : Nat := index.getLast?.getD 0

/-- Line and column of an offset: the line is the number of line starts up to it. An offset below
zero is on line zero and is measured from the last line. -/
def lineAndColumn (index : LineIndex) (offset : Int) : Int × Int :=
  let line := (index.filter fun (s : Nat) => (s : Int) ≤ offset).length
  let start := if line = 0 then index.lastStart else index.getD (line - 1) 0
  (line, offset - start + 1)

/-- The offset of a column of a line; a line that does not exist counts as the nearest one. -/
def offsetOf (index : LineIndex) (line column : Int) : Int :=
  let line := min (max line 1) index.length
  (index.getD (line.toNat - 1) 0 : Int) + column - 1

/-- The location of the range from `start` to `stop`; an empty range has no end. -/
def location (index : LineIndex) (file : String) (start : Int) (stop : Int := 0) : Location :=
  let (line, column) := index.lineAndColumn start
  if start < stop then
    let (endLine, endColumn) := index.lineAndColumn stop
    { file, line, column, start, stop, endLine, endColumn }
  else { file, line, column, start, stop }

end LineIndex

/-- The location of a range of `text`. -/
def locate (file text : String) (start stop : Nat) : Location :=
  (LineIndex.ofText text).location file start stop

/-- A location in `text` without its first `base` characters, re-anchored to all of `text`. -/
def shiftLocation (l : Location) (text : String) (base : Int) : Location :=
  let index := LineIndex.ofText text
  let (baseLine, baseColumn) := index.lineAndColumn base
  let line := baseLine + l.line - 1
  let column := l.column + (if l.line = 1 then baseColumn - 1 else 0)
  index.location l.file (index.offsetOf line column)

end HtmlModules.Text
