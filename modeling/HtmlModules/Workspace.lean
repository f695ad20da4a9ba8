import HtmlModules.Package

/-!
# Conversion of a workspace

The packages of a workspace lie side by side and are converted in place. A package whose new name is
not known is skipped. Documents are named by the directory of their package and their path in it;
the rules of which become modules and which are left out apply to the path in the package.
-/

namespace HtmlModules

open Text

/-- What a caller says about the conversion of a workspace. -/
structure WorkspaceOptions where
  common : RunOptions
  dir : String
  repositories : List String
  version : String

namespace Workspace

/-- The path in its package; a path without a directory stays. -/
def inPackage (url : String) : String := (afterStart? url (before '/' url ++ "/")).getD url

/-- The packages of a workspace: the old descriptions of all, and the new names of those that have
one. -/
structure Packages where
  old : Table Json.Fields := []
  names : Table String := []

/-- Reads the description of one package and looks its name up. -/
def addPackage (dir : String) (table : Dependencies) (p : Packages) (repository : String) :
    Run Packages := do
  let old ← Run.reading (Package.readOld · (FileTree.spelled dir repository))
  let p := { p with old := Table.set repository old p.old }
  let name := (Table.get? old "name").getD (.string repository)
  match ← Run.lookUp table name with
  | some d => return { p with names := Table.set repository d.name.plain p.names }
  | none => return p

/-- The documents of packages. -/
def documents (t : FileTree) (dir : String) (repositories : List String) : List String :=
  repositories.flatMap fun repository =>
    (Package.documents t (FileTree.resolve dir repository) ["*.html"]).map
      (repository ++ "/" ++ ·)

/-- The settings for documents that are named by their packages. -/
def settings (o : RunOptions) (urls : List String) : Settings :=
  let excluded := urls.filter fun url =>
    o.excludes.any fun pattern => globMatches pattern (inPackage url)
  { Settings.forDocuments urls { Package.settingsOptions o with excludes := [] } with
    modules := urls.filter fun url =>
      !excluded.contains url && Settings.becomesModule (inPackage url)
    excludedDocuments := excluded }

/-- The results that belong to one package, by their paths in it. -/
def resultsOf (repository : String) (results : Table (Option String)) : Table (Option String) :=
  (results.filter fun (path, _) => startsWith path (repository ++ "/")).foldl
    (fun t (path, text) => Table.set (inPackage path) text t) []

/-- The directories that a workspace lacks. -/
def missing (t : FileTree) (dir : String) (repositories : List String) : List String :=
  repositories.filter fun r => !t.isDirectory (FileTree.spelled dir r)

/-- Converts a workspace; `cwd` is the directory that its path is read from. -/
def convert (o : WorkspaceOptions) (cwd : String) : Run Unit := do
  let dir ← Run.ofExcept (FileTree.checked (FileTree.resolve cwd o.dir))
  Run.require ((← Run.tree).isDirectory dir) (.noWorkspaceDirectory dir)
  let missing := missing (← Run.tree) dir o.repositories
  Run.require missing.isEmpty (.noRepositories dir missing)
  let table ← Run.ofExcept (Package.dependencies o.common.mappings)
  let packages ← o.repositories.foldlM (addPackage dir table) {}
  let urls := documents (← Run.tree) dir (Table.keys packages.names)
  let settings := settings o.common urls
  let analysis ← Package.analyze dir none urls
  let p ← Package.convertDocuments
    { analysis, resolver := ⟨.workspace packages.names, table⟩, settings } none urls
  let results ← packages.names.foldlM (fun results (repository, name) => do
    let text ← Package.describe (FileTree.resolve dir repository)
      ((Table.get? packages.old repository).getD []) (.string name) (.string o.version) table
    return Table.set (repository ++ "/" ++ Package.newDescription) (some text) results) p.results
  Run.filing (packages.names.forM fun (repository, _) =>
    Filing.writeResults (FileTree.resolve dir repository) (resultsOf repository results)
      o.common.deletes)

end Workspace

end HtmlModules
