import HtmlModules.Import
import HtmlModules.Pass.Basic
import HtmlModules.Script.Binding

/-!
# Imports

Every module that the markup imports or the program refers to gets its import declarations, and the
placeholders become the local names that the declarations bring in. The modules of the markup come
first, the others in the order of the first reference.
-/

namespace HtmlModules.Pass

open Text

/-- A module to import: the references to it, and the link in the markup that asks for it. -/
structure Requirement where
  references : List (String × ExportRecord) := []
  href : Option String := none

/-- Asks for the modules of the markup, the module itself apart. -/
def explicitRequirements (moduleUrl : String) (imports : List (String × String)) :
    Table Requirement :=
  (imports.filter (·.1 != moduleUrl)).foldl
    (fun t (url, href) => Table.addNew t url { href }) []

/-- Asks for the module of a reference. -/
def addReference (t : Table Requirement) (reference : String × ExportRecord) :
    Table Requirement :=
  let url := reference.2.module
  let known := (Table.get? t url).getD {}
  Table.set url { known with references := known.references ++ [reference] } t

/-- All modules to import. -/
def requirements (c : Context) (f : Findings) : Table Requirement :=
  f.references.foldl addReference (explicitRequirements c.moduleUrl c.explicitImports)

/-- The imports of a program. -/
structure Imports where
  declarations : List String := []
  /-- Placeholders with their local names. -/
  assigned : Table String := []
  /-- The names in use. -/
  used : List String

/-- Adds the imports of one module. -/
def Imports.add (c : Context) (r : Resolver) (i : Imports) (needed : String × Requirement) :
    Except Failure Imports := do
  let (url, requirement) := needed
  let specifier ← r.importSpecifier c.moduleUrl url c.settings.importStyle requirement.href
  let m := ModuleImport.ofReferences url requirement.references i.used
  return {
    declarations := i.declarations ++ m.declarations specifier
    assigned := Table.setAll i.assigned m.assigned
    used := m.used }

/-- Replaces placeholders by texts, one after the other. -/
def replacePlaceholders (source : String) (texts : Table String) : String :=
  texts.foldl (fun s (placeholder, text) => replaceAll s placeholder text) source

/-- Declarations in front of a program. -/
def putInFront (declarations : List String) (source : String) : String :=
  if declarations.isEmpty then source
  else
    let body := trimStart (· == '\n') source
    join "\n" declarations ++ "\n" ++ (if allBlank body then "" else "\n" ++ body)

/-- Brings in what the program refers to. -/
def bindImports (source : String) : Step String := do
  let c ← read
  let some resolver := c.resolver | throw (.noResolver c.file.url)
  let f ← get
  let program ← readProgram source
  let used := program.usedNames.filter fun name => !f.placeholders.contains name
  match (requirements c f).foldlM (Imports.add c resolver) { used } with
  | .error e => throw e
  | .ok imports =>
    modify fun f => { f with importCount := imports.declarations.length }
    return putInFront imports.declarations (replacePlaceholders source imports.assigned)

end HtmlModules.Pass
