import HtmlModules.Conversion.Page

/-!
# Projects

A project is converted in two phases. The scan registers what every document exports and then seals
the registry; after that documents are converted against it. A document that fails is reported, and
the others go on. What an earlier run has scanned can be taken over from its manifest before the
scan.
-/

namespace HtmlModules

open Text

/-- A conversion under way. -/
structure Project where
  conversion : Conversion
  builder : RegistryBuilder := {}
  /-- The sealed registry, once the scan has ended. -/
  registry : Option Registry := none
  scanned : Table ScannedFile := []
  converted : Table Converted := []
  diagnostics : Diagnostics := []

namespace Project

/-! ## Documents -/

/-- The document is not a part of a dependency. -/
def isOwn (p : Project) (url : String) : Bool :=
  !startsWith url (p.conversion.settings.legacyDir ++ "/")

/-- The document becomes a module; the documents of dependencies always do. -/
def becomesModule (p : Project) (url : String) : Bool :=
  p.conversion.settings.isModule url || (endsWith url Url.htmlExtension && !p.isOwn url)

/-- The document takes part in the run. -/
def inScope (p : Project) (url : String) : Bool :=
  endsWith url Url.htmlExtension && !p.conversion.settings.isExcluded url &&
    p.conversion.analysis.has url

/-! ## Scan -/

/-- Takes over the scanned files of a manifest. -/
def loadManifest (p : Project) (files : List ScannedFile) : Except Failure Project :=
  if p.registry.isSome then .error .manifestAfterScan
  else do
    let (builder, _) ← p.builder.register (files.flatMap (·.exports))
    return { p with
      builder
      scanned := files.foldl (fun t f => Table.addNew t f.url f) p.scanned }

/-- The diagnostic for a document that failed. -/
def failureOf (phase url : String) (e : Failure) : Diagnostic where
  severity := .error
  code := some "E0001"
  message := s!"{phase} of {url} failed: {e.text}"
  location := some (.fileOnly url)

/-- Runs a step on a document; a failure is reported and gives no result. -/
def attempt {α : Type} (p : Project) (phase url : String) (step : Reporting α) :
    Option α × Project :=
  match step p.diagnostics with
  | .ok a diagnostics => (some a, { p with diagnostics })
  | .error e diagnostics =>
    (none, { p with diagnostics := diagnostics.report (failureOf phase url e) })

/-- Registers what the scan of a document found. -/
def register (p : Project) (result : ScanResult) : Project :=
  match p.builder.register result.exports with
  | .error _ => p
  | .ok (builder, _) =>
    { p with builder, scanned := Table.addNew p.scanned result.legacyUrl (.kept result) }

/-- Scans one document. -/
def scanOne (p : Project) (url : String) : Project :=
  match p.conversion.analysis.file? url with
  | none => p
  | some file =>
    let step := if p.becomesModule url then p.conversion.scanModule file
      else p.conversion.scanDocument file
    match p.attempt "scan" url step with
    | (some result, p) => p.register result
    | (none, p) => p

/-- The documents that the scan of these urls looks at. -/
def pending (p : Project) (urls : List String) : List String :=
  sort (List.eraseDups (urls.filter fun url => p.inScope url && !Table.has p.scanned url))

/-- Scans documents and seals the registry. -/
def scan (p : Project) (urls : List String) : Except Failure Project :=
  if p.registry.isSome then .error .scanEnded
  else
    let p := (p.pending urls).foldl scanOne p
    let (builder, registry) := p.builder.freeze
    .ok { p with builder, registry := some registry }

/-! ## Conversion -/

/-- Converts one document: the result, if there is one, and the project with it. -/
def convert (p : Project) (url : String) : Except Failure (Option Converted × Project) :=
  match p.registry with
  | none => .error .convertBeforeScan
  | some registry =>
    match Table.get? p.converted url, p.conversion.analysis.file? url with
    | some result, _ => .ok (some result, p)
    | none, none => .ok (none, p)
    | none, some file =>
      if !p.inScope url then .ok (none, p)
      else
        let step := if p.conversion.settings.isModule url
          then p.conversion.convertModule registry file
          else p.conversion.convertPage registry file
        match p.attempt "conversion" url step with
        | (some result, p) =>
          .ok (some result, { p with converted := Table.addNew p.converted url result })
        | (none, p) => .ok (none, p)

/-- Converts documents, in the order of their urls. -/
def convertAll (p : Project) (urls : List String) : Except Failure Project :=
  (sort (List.eraseDups urls)).foldlM (fun p url => return (← p.convert url).2) p

/-! ## Results -/

/-- The output is a module that is maintained by hand. -/
def isProtected (r : Converted) : Bool := Url.isProtected r.legacyUrl || Url.isProtected r.url

/-- The conversions that are put out. -/
def emitted (p : Project) : List Converted :=
  (Table.values p.converted).filter fun r => !isProtected r

/-- The paths that change, with their new texts; a path without one is deleted. -/
def results (p : Project) : Table (Option String) :=
  let deleted := (p.emitted.filter (·.replaces)).foldl
    (fun t r => Table.set r.legacyUrl none t) ([] : Table (Option String))
  p.emitted.foldl (fun t r => Table.set r.outputPath (some r.text) t) deleted

end Project

end HtmlModules
