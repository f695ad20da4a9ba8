import HtmlModules.Dependency.Bundled
import HtmlModules.Filing
import HtmlModules.PackageJson
import HtmlModules.Project

/-!
# Conversion of a package

A package is read from one directory, with its dependencies below it, and written to another. A run
works on the files as they are on the disk, and whatever becomes of it, what it has done stays done.
-/

namespace HtmlModules

open Text

/-- What a run has to say: its diagnostics, and the texts that they refer to. -/
structure Journal where
  diagnostics : Diagnostics := []
  texts : Table String := []
  /-- The names of dependencies that have been looked up in vain. -/
  misses : List Json.Key := []

namespace Journal

/-- The journal with the reason why a run could not be set up. -/
def refuse (j : Journal) (e : Failure) : Journal :=
  let d : Diagnostic := {
    severity := .error, code := some "E0002", message := e.message, location := e.location }
  { j with diagnostics := j.diagnostics.report d }

/-- What is printed of a journal. -/
def printed (j : Journal) (color : Bool) : String := j.diagnostics.printed j.texts color

end Journal

/-- The files that a run works on, and what it has to say. -/
structure RunState extends Journal where
  disk : Disk := {}
  /-- How far directories may nest for the package to be copied. No more than a thousand calls may be
  open at a time, and each directory takes two of them. -/
  room : Nat := 490

/-- A computation of a run. -/
abbrev Run := EStateM Failure RunState

namespace Run

/-- The result, or its failure. -/
def ofExcept {α : Type} : Except Failure α → Run α
  | .ok a => return a
  | .error e => throw e

/-- Fails unless the condition holds. -/
def require (condition : Bool) (e : Failure) : Run Unit := if condition then return () else throw e

/-- Reports diagnostics. -/
def report (ds : Diagnostics) : Run Unit :=
  modify fun j => { j with diagnostics := j.diagnostics.reportAll ds }

/-- Looks up a dependency, and reports a name that is missing. -/
def lookUp (table : Dependencies) (old : Json) : Run (Option Dependency) := do
  match ← ofExcept (table.lookUp? old) with
  | some new => return some new
  | none =>
    let (warnings, misses) := Dependencies.miss old (← get).misses
    report warnings
    modify fun j => { j with misses }
    return none

/-- The files as they are. -/
def tree : Run FileTree := return (← get).disk.tree

/-- Reads something of the files. -/
def reading {α : Type} (read : FileTree → Except Failure α) : Run α := do ofExcept (read (← tree))

/-- Does something to the files. -/
def filing {α : Type} (m : Filing α) : Run α := fun s =>
  match m s.disk with
  | .ok a disk => .ok a { s with disk }
  | .error e disk => .error e { s with disk }

end Run

/-- What packages and workspaces have in common. -/
structure RunOptions where
  /-- Patterns of the documents that are left out. -/
  excludes : List String := []
  /-- Patterns of the files that are removed in the end. -/
  deletes : List String := []
  namespaces : Option (List String) := none
  importStyle : ImportStyle
  addImportPath : Bool := false
  templateTag : Option String := none
  /-- Entries that are added to the table of dependencies. -/
  mappings : List String := []
  declarations : Table DeclarationKind := []

/-- What a caller says about the conversion of a package. -/
structure PackageOptions where
  common : RunOptions
  source : String
  target : String
  name : Option String := none
  version : Option String := none
  includes : List String := ["*.html"]
  packageType : PackageType := .element
  manifestIn : Option String := none
  manifestOut : Option String := none

namespace Package

/-- The name of the old description of a package. -/
def oldDescription : String := "bower.json"

/-- The name of the new description of a package. -/
def newDescription : String := "package.json"

/-- The table of dependencies with the entries of the caller. -/
def dependencies (mappings : List String) : Except Failure Dependencies := do
  return Table.setAll Dependencies.bundled (← Dependencies.parseMappings mappings)

/-- The old description of the package in a directory; an empty one if there is none. -/
def readOld (t : FileTree) (dir : String) : Except Failure Json.Fields :=
  let path := FileTree.spelled dir oldDescription
  if !t.isFile path then .ok []
  else match t.readJson path with
    | .ok (.object fields) => .ok fields
    | .ok _ => .error (.notAnObject path)
    | .error e => .error (.notJson path e.message)

/-- The new description that a directory holds already; null if there is none. -/
def readExisting (t : FileTree) (dir : String) : Except Failure Json :=
  let path := FileTree.resolve dir newDescription
  if t.isFile path then t.readJson path else .ok .null

/-- The name of the converted package: the one asked for, or that of the old description. -/
def nameOf (o : PackageOptions) (old : Json.Fields) (table : Dependencies) : Run Json := do
  match o.name.filter (· ≠ ""), Json.present? (Table.get? old "name") with
  | some name, _ => return .string name
  | none, none => throw .noPackageName
  | none, some name =>
    return ((← Run.lookUp table name).map (·.name)).getD name

/-- The version of the converted package: the one asked for, or that of the old description. -/
def versionOf (o : PackageOptions) (old : Json.Fields) (name : Json) : Except Failure Json :=
  match o.version.filter (· ≠ ""), Json.present? (Table.get? old "version") with
  | some version, _ => .ok (.string version)
  | none, some version => .ok version
  | none, none => .error (.noPackageVersion name.plain)

/-- The documents of the package in a directory. -/
def documents (t : FileTree) (dir : String) (patterns : List String) : List String :=
  (t.matching dir patterns).filter fun url => endsWith url Url.htmlExtension && !isForeignPath url

/-- The options of the settings. -/
def settingsOptions (o : RunOptions) : Settings.Options where
  namespaces := o.namespaces
  excludes := o.excludes
  importStyle := o.importStyle
  addImportPath := o.addImportPath
  templateTag := o.templateTag
  declarationOverrides := o.declarations

/-- The texts below a directory, and once more the texts of the urls that are spelled otherwise. -/
def textsFor (t : FileTree) (dir : String) (urls : List String) :
    Table (Except Failure String) :=
  let texts := t.texts dir
  texts ++ urls.filterMap fun url =>
    if Table.has texts url then none else (Table.get? texts (Url.normalize url)).map (url, ·)

/-- Analyses the documents below a directory. -/
def analyze (dir : String) (dependencyDir : Option String) (urls : List String) :
    Run Analysis := do
  let root : SourceRoot := { files := textsFor (← Run.tree) dir urls, dependencyDir }
  let analysis ← Run.ofExcept (root.analyze urls)
  Run.report analysis.diagnostics
  modify fun j => { j with texts := analysis.texts }
  return analysis

/-- The manifest that a run starts from. -/
def readManifest (t : FileTree) (path : String) : Except Failure (List ScannedFile) := do
  Manifest.ofJson (← t.readJson path) "" "./"

/-- Scans all documents and converts those that are asked for, once a manifest has been taken
over. -/
def convertDocuments (c : Conversion) (manifest : Option (List ScannedFile)) (urls : List String) :
    Run Project := do
  let p : Project := { conversion := c, diagnostics := (← get).diagnostics }
  let p ← Run.ofExcept (manifest.elim (.ok p) p.loadManifest)
  let p ← Run.ofExcept (p.scan c.analysis.urls)
  let p ← Run.ofExcept (p.convertAll (urls.filter fun url => !c.settings.isExcluded url))
  modify fun j => { j with diagnostics := p.diagnostics }
  return p

/-- The text of the new description of a package. -/
def describe (dir : String) (old : Json.Fields) (name version : Json) (table : Dependencies) :
    Run String := do
  let existing ← Run.reading (readExisting · dir)
  let d ← Run.ofExcept (PackageJson.generate old name version table existing (← get).misses)
  Run.report d.warnings
  modify fun j => { j with misses := d.misses }
  return PackageJson.text d.fields ++ "\n"

/-- The text of a manifest. -/
def manifestText (files : List ScannedFile) : String := Json.pretty (Manifest.toJson files) ++ "\n"

/-- What a conversion is about to write, and where. -/
structure Plan where
  source : String
  target : String
  results : Table (Option String)
  /-- The path and the text of the manifest, if one is asked for. -/
  manifest : Option (String × String)
deriving DecidableEq

/-- Reads and converts a package; `cwd` is the directory that its paths are read from. -/
def plan (o : PackageOptions) (cwd : String) : Run Plan := do
  let source ← Run.ofExcept (FileTree.checked (FileTree.resolve cwd o.source))
  let target ← Run.ofExcept (FileTree.checked (FileTree.resolve cwd o.target))
  Run.require ((← Run.tree).isDirectory source) (.noInputDirectory source)
  let table ← Run.ofExcept (dependencies o.common.mappings)
  let old ← Run.reading (readOld · source)
  let name ← nameOf o old table
  let version ← Run.ofExcept (versionOf o old name)
  let urls := documents (← Run.tree) source o.includes
  let settings := Settings.forDocuments urls { settingsOptions o.common with
    packageName := name.plain, packageType := o.packageType }
  let layout := Layout.package { packageName := name.plain, packageType := o.packageType }
  let analysis ← analyze source legacyDependencyDir urls
  let manifest ← o.manifestIn.mapM fun path =>
    Run.reading (readManifest · (FileTree.spelled cwd path))
  let p ← convertDocuments { analysis, resolver := ⟨layout, table⟩, settings } manifest urls
  let description ← describe source old name version table
  return {
    source, target
    results := Table.set newDescription (some description) p.results
    manifest := o.manifestOut.map fun path =>
      (FileTree.spelled cwd path, manifestText (Table.values p.scanned)) }

/-- Writes what has been planned, over a copy of the package if that is to be in another place. -/
def carryOut (p : Plan) (room : Nat) (deletes : List String) : Filing Unit := do
  if p.target ≠ p.source then Filing.copyPackage room p.source p.target
  Filing.writeResults p.target p.results deletes
  p.manifest.forM fun (path, text) => Filing.writeText path text

/-- Converts a package. -/
def convert (o : PackageOptions) (cwd : String) : Run Unit := do
  let p ← plan o cwd
  Run.filing (carryOut p (← get).room o.common.deletes)

end Package

end HtmlModules
