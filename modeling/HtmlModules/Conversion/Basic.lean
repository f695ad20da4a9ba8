import HtmlModules.Analysis.Basic
import HtmlModules.Layout
import HtmlModules.Pass.Pipeline
import HtmlModules.Script.Comment

/-!
# The program of a document

All scripts that run in a document become one program, in the order in which they stand; the
comments between them stay as comments of the program. Scripts that are linked from the same package
are folded in, others are imported.
-/

namespace HtmlModules

open Text Markup

/-- A computation that reports diagnostics and may fail. -/
abbrev Reporting := EStateM Failure Diagnostics

/-- Reports diagnostics. -/
def report (ds : Diagnostics) : Reporting Unit := modify (·.reportAll ds)

/-- The result, or its failure. -/
def Reporting.ofExcept {α : Type} : Except Failure α → Reporting α
  | .ok a => return a
  | .error e => throw e

/-- Looks up the package of a url that is to be converted. -/
def lookUp (r : Resolver) (url : String) : Reporting Unit := do
  report (r.warnings url)
  Reporting.ofExcept ((r.problem? url).elim (.ok ()) .error)

/-- What the conversion of every document of a run reads. -/
structure Conversion where
  analysis : Analysis
  resolver : Resolver
  settings : Settings

/-- A document with its program and the modules that its markup imports, each with its link. -/
structure Preparation where
  file : SourceFile
  moduleUrl : String
  source : String
  explicitImports : List (String × String)

/-! ## Scripts -/

/-- Code with a line end and blanks taken from its ends, and with a semicolon if it needs one to be
followed by other code. -/
def terminated (code : String) : String :=
  let code := trimEnd isBlank (trimBoth (· == '\n') code)
  if code = "" || endsWith code ";" || endsWith code "\x7d" then code else code ++ ";"

/-- The comments of a document from one offset to another, those in templates apart. -/
def commentsBetween (d : Document) (start stop : Nat) : List String :=
  d.comments.filterMap fun (around, a, b, data) =>
    if start ≤ a && b ≤ stop && !isInside around "template" then some (Script.blockComment data)
    else none

/-- A script of a document: its range there, and its code. -/
structure ScriptUnit where
  start : Nat
  stop : Nat
  code : String

/-- The comments and scripts of a document from an offset on. -/
def programPieces (d : Document) : Nat → List ScriptUnit → List String
  | position, [] => commentsBetween d position d.contents.length
  | position, u :: rest =>
    let code := terminated u.code
    commentsBetween d position u.start ++ (if code = "" then [] else [code]) ++
      programPieces d u.stop rest

namespace Conversion

/-- The link runs a classic script that may be folded into the program. -/
def isFoldable (c : Conversion) (l : Link) : Bool :=
  l.kind == .script && !l.isModule && !c.settings.isExcluded l.url

/-- The script is folded into the program of the module: it belongs to the same package. -/
def isFolded (c : Conversion) (moduleUrl : String) (l : Link) : Bool :=
  c.isFoldable l && c.resolver.isInternal moduleUrl (c.resolver.convertUrl l.url)

/-- The script that a feature brings into the program. -/
def scriptUnit? (c : Conversion) (moduleUrl : String) (f : Feature) : Option ScriptUnit :=
  match f with
  | .script s =>
    if !s.inTemplate && (s.isClassic || s.isModule) then some ⟨f.start, f.stop, s.code⟩ else none
  | .link l =>
    if c.isFolded moduleUrl l then
      (c.analysis.file? l.url).map fun script => ⟨f.start, f.stop, script.contents⟩
    else none
  | _ => none

/-- The program of a file. -/
def programOf (c : Conversion) (moduleUrl : String) (file : SourceFile) : String :=
  match file.markup with
  | none => file.contents
  | some d => join "\n\n" (programPieces d 0 (file.features.filterMap (c.scriptUnit? moduleUrl)))

/-! ## Imports -/

/-- The links that are not left out. -/
def keptLinks (c : Conversion) (file : SourceFile) : List Link :=
  file.links.filter fun l => !c.settings.isExcluded l.url

/-- The module that a link imports, with the link. -/
def importOf? (c : Conversion) (moduleUrl : String) (l : Link) : Option (String × String) :=
  match l.kind with
  | .document => some (c.resolver.moduleUrl l.url, l.href)
  | .script =>
    if c.isFolded moduleUrl l then none else some (c.resolver.convertUrl l.url, l.href)

/-- The modules that the markup of a file imports. -/
def explicitImports (c : Conversion) (moduleUrl : String) (file : SourceFile) :
    List (String × String) :=
  (c.keptLinks file).filterMap (c.importOf? moduleUrl)

/-! ## Preparation -/

/-- The urls that are converted when a file is prepared. -/
def preparedUrls (c : Conversion) (file : SourceFile) : List String :=
  file.url :: ((file.links.filter c.isFoldable) ++ c.keptLinks file).map (·.url)

/-- Prepares a file. -/
def prepare (c : Conversion) (file : SourceFile) : Reporting Preparation := do
  if !Url.isLegacy file.url then throw (.notLegacyUrl file.url)
  (c.preparedUrls file).forM (lookUp c.resolver)
  let moduleUrl := c.resolver.moduleUrl file.url
  return {
    file, moduleUrl, source := c.programOf moduleUrl file
    explicitImports := c.explicitImports moduleUrl file }

/-- The context of the passes over the program of a document. -/
def context (c : Conversion) (p : Preparation) (registry : Registry) : Pass.Context where
  file := p.file
  moduleUrl := p.moduleUrl
  settings := c.settings
  registry := registry
  resolver := c.resolver
  explicitImports := p.explicitImports

end Conversion

/-- Runs a pipeline and reports what it has to say. -/
def Pipeline.convert (p : Pipeline) (context : Pass.Context) (source : String) :
    Reporting (String × Pass.Findings) := do
  let run := p.run context source
  report run.findings.diagnostics
  match run.failure with
  | some e => throw e
  | none => return (run.text source, run.findings)

end HtmlModules
