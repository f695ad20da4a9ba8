import HtmlModules.Dependency.Basic
import HtmlModules.Settings
import HtmlModules.Url.Module

/-!
# Layouts

Where the files of a package and of its dependencies lie before and after the conversion. In the
layout of a package the dependencies are in a directory of their own; in the layout of a workspace
the packages lie side by side and a url starts with the directory of its package.

A `Resolver` is a layout with a table of dependencies. Converting a url may look up a package that
the table does not have; `Resolver.warnings` are the warnings to report then. `Resolver.problem?` tells
why a url cannot be converted.
-/

namespace HtmlModules

open Text

/-- The arrangement of one package with its dependencies below it. -/
structure PackageLayout where
  packageName : String := "my-element"
  packageType : PackageType := .element
  legacyDir : String := legacyDependencyDir
  moduleDir : String := moduleDependencyDir

/-- The arrangement of packages and dependencies. -/
inductive Layout where
  | package (layout : PackageLayout)
  /-- Directories with the new names of the packages in them. -/
  | workspace (names : Table String)

/-- A layout with the new names of dependencies. -/
structure Resolver where
  layout : Layout
  dependencies : Dependencies

namespace PackageLayout

/-- The url is not inside a directory of dependencies. -/
def isInternalUrl (l : PackageLayout) (url : String) : Bool :=
  !(startsWith url (l.legacyDir ++ "/") || startsWith url (l.moduleDir ++ "/") ||
    contains url ("/" ++ l.legacyDir ++ "/") || contains url ("/" ++ l.moduleDir ++ "/"))

/-- The segments of an external url below the new directory of dependencies. -/
def externalSegments (l : PackageLayout) (url : String) : List String :=
  Url.segments (replaceFirst url (l.legacyDir ++ "/") (l.moduleDir ++ "/"))

/-- The relative url of one module as another imports it. Dependencies of an element are installed
beside it, so the way to them leads out of it. -/
def pathSpecifier (l : PackageLayout) (source target : String) : Except Failure String := do
  let url ← Url.relativeUrl source target
  if l.isInternalUrl source && l.packageType = .element then
    let url := match afterStart? url ("./" ++ l.moduleDir ++ "/") with
      | some rest => "../" ++ rest
      | none => replaceFirst url l.moduleDir ".."
    if contains l.packageName "/" && !l.isInternalUrl target then
      return "../" ++ (afterStart? url "./").getD url
    else return url
  else return url

end PackageLayout

namespace Resolver

/-- The package of a url in a workspace: its first segment, or the first two if it has a scope. -/
def packageOf (url : String) : String :=
  match Url.segments (Url.dropAnchor url) with
  | scope :: name :: _ => if startsWith scope "@" then scope ++ "/" ++ name else scope
  | [name] => name
  | [] => ""

/-- The old name of the package that converting the url looks up. -/
def lookedUp? (r : Resolver) (url : String) : Option String :=
  match r.layout with
  | .package l => if l.isInternalUrl url then none else (l.externalSegments url)[1]?
  | .workspace names =>
    let directory := (Url.segments url).headD ""
    if Table.has names directory then none else some directory

/-- The warnings that converting the url gives rise to. -/
def warnings (r : Resolver) (url : String) : Diagnostics :=
  ((r.lookedUp? url).map (Dependencies.warnings r.dependencies)).getD []

/-- Why the url cannot be converted: the new name of its package, which would be the segment at
`index`, is no text. -/
def problem? (r : Resolver) (url : String) : Option Failure :=
  let index := match r.layout with
    | .package _ => 1
    | .workspace _ => 0
  match (r.lookedUp? url).map (Dependencies.newName r.dependencies) with
  | none | some (.string _) => none
  | some name => some (.notASegment index name.kindWord)

/-- The converted url of a file, with its extension. -/
def convertUrl (r : Resolver) (url : String) : String :=
  match r.layout with
  | .package l =>
    if l.isInternalUrl url then "./" ++ url
    else
      let parts := l.externalSegments url
      "./" ++ Url.ofSegments (parts.modify 1 (Dependencies.segmentFor r.dependencies))
  | .workspace names =>
    "./" ++ Url.ofSegments ((Url.segments url).modify 0 fun directory =>
      (Table.get? names directory).getD (Dependencies.segmentFor r.dependencies directory))

/-- The url of the module that a document becomes. -/
def moduleUrl (r : Resolver) (url : String) : String :=
  Url.replaceHtmlExtension (Url.remapEntrypoint (r.convertUrl url))

/-- The path that the module of a document is written to. -/
def outputPath (url : String) : String := Url.replaceHtmlExtension url

/-- Two converted urls belong to the same package. -/
def isInternal (r : Resolver) (source target : String) : Bool :=
  match r.layout with
  | .package l =>
    let outside := fun url => startsWith url ("./" ++ l.moduleDir)
    outside source == outside target
  | .workspace _ => packageOf source == packageOf target

/-- The relative url by which a module imports another. -/
def pathSpecifier (r : Resolver) (source target : String) : Except Failure String :=
  match r.layout with
  | .package l => l.pathSpecifier source target
  | .workspace _ => Url.relativeUrl source target

/-- The name by which a module of another package is imported. -/
def nameSpecifier (r : Resolver) (target : String) : String :=
  match r.layout with
  | .package l => (afterStart? target ("./" ++ l.moduleDir ++ "/")).getD (Url.dropAnchor target)
  | .workspace _ => Url.dropAnchor target

/-- What is written into an import. An absolute link stays absolute; inside a package the import is
relative whatever the style. -/
def importSpecifier (r : Resolver) (source target : String) (style : ImportStyle)
    (href : Option String) : Except Failure String :=
  if (href.map (startsWith · "/")).getD false then .ok ("/" ++ Url.dropAnchor target)
  else if style = .path || r.isInternal source target then r.pathSpecifier source target
  else .ok (r.nameSpecifier target)

end Resolver

end HtmlModules
