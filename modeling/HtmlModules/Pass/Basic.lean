import HtmlModules.Diagnostic
import HtmlModules.Feature
import HtmlModules.Layout
import HtmlModules.Registry
import HtmlModules.Script.Program

/-!
# Passes

A pass takes the text of a program to a new text. It reads a `Context` and adds to the `Findings`
that later passes and the caller use; a pass that fails leaves the findings it has made.

A reference to another module is replaced by a placeholder until the imports are known. All
placeholders begin with a stem that does not occur in the program.
-/

namespace HtmlModules.Pass

open Text

/-- What the passes over one program read. -/
structure Context where
  file : SourceFile
  /-- The url of the module that the program becomes. -/
  moduleUrl : String
  settings : Settings
  registry : Registry := []
  resolver : Option Resolver := none
  /-- The modules that the markup imports, each with the link to it. -/
  explicitImports : List (String × String) := []
  /-- Where the program stands in the file, if it is one inline script. -/
  span : Option Script.Span := none

/-- What the passes over one program have found. -/
structure Findings where
  /-- The starts of the markup blocks that were moved into the program. -/
  claimed : List Nat := []
  /-- The paths that the module exports, with their local names. -/
  localNames : Table String := []
  exports : List ExportRecord := []
  /-- The functions that were members of a namespace, with the namespace. -/
  namespaceFunctions : Table String := []
  /-- Placeholders with the exports they stand for, in the order of their first use. -/
  references : Table ExportRecord := []
  /-- Placeholders with the text that replaces them in the end. -/
  deferred : Table String := []
  importCount : Nat := 0
  /-- What all placeholders begin with. -/
  stem : String
  diagnostics : Diagnostics := []

/-- A step of a pass. -/
abbrev Step := ReaderT Context (EStateM Failure Findings)

/-! ## Placeholders -/

/-- Appends underscores to `stem` until it does not occur in `source`. -/
def lengthenStem (source : String) : Nat → String → String
  | 0, stem => stem
  | fuel + 1, stem =>
    if contains source stem then lengthenStem source fuel (stem ++ "_") else stem

/-- A stem that does not occur in the source. -/
def freeStem (source : String) : String := lengthenStem source (source.length + 1) "__modulizerref"

namespace Findings

/-- The findings before the first pass over a program. -/
def start (source : String) : Findings := { stem := freeStem source }

/-- The placeholder of a record; records of one path share it. -/
def placeholderFor (f : Findings) (r : ExportRecord) : String × Findings :=
  match f.references.find? (·.2.path == r.path) with
  | some (placeholder, _) => (placeholder, f)
  | none =>
    let placeholder := f.stem ++ toString f.references.length ++ "__"
    (placeholder, { f with references := f.references ++ [(placeholder, r)] })

/-- A new placeholder of a text. -/
def defer (f : Findings) (text : String) : String × Findings :=
  let placeholder := f.stem ++ "d" ++ toString f.deferred.length ++ "__"
  (placeholder, { f with deferred := f.deferred ++ [(placeholder, text)] })

/-- All placeholders. -/
def placeholders (f : Findings) : List String :=
  Table.keys f.references ++ Table.keys f.deferred

end Findings

/-- The placeholder of a record. -/
def placeholderFor (r : ExportRecord) : Step String := modifyGet (·.placeholderFor r)

/-! ## Warnings -/

/-- The offset of `text` in `code` if it occurs once and is not empty. -/
def onlyOccurrence? (code text : String) : Option Nat :=
  if text = "" then none
  else (indexOf code text).filter fun k => !contains (dropFirst (k + 1) code) text

/-- The place of a part of the program in the file; only the file if the part cannot be told from
the rest. -/
def Context.placeOf (c : Context) (text : Option String) : Location :=
  let found := do
    let span ← c.span
    let text ← text
    let offset ← onlyOccurrence? (slice c.file.contents span.start span.stop) text
    let start := span.start + offset
    return locate c.file.url c.file.contents start (start + text.length)
  found.getD (.fileOnly c.file.url)

/-- Reports a warning about the file, or about a part of the program. -/
def warn (code message : String) (help : Option String := none) (about : Option String := none) :
    Step Unit := do
  let location := (← read).placeOf about
  modify fun f => { f with
    diagnostics := f.diagnostics.report { code, message, help, location } }

/-! ## Programs -/

/-- Reads a program. -/
def readProgram (source : String) : Step Script.Node := do
  match Script.parse source with
  | .ok n => return n
  | .error e => throw (.script e (← read).file.url)

/-- The statements of a program. -/
def statements (program : Script.Node) : List Script.Node := program.childrenIn .body

/-- Carries out the edits of a pass. -/
def edit (source : String) (edits : List Edit) : Step String :=
  match applyEdits source edits with
  | .ok text => return text
  | .error conflict => throw (.conflict conflict)

end HtmlModules.Pass
