import HtmlModules.Table
import HtmlModules.Text.Glob
import HtmlModules.Url.Module

/-!
# Settings of a conversion

Which namespaces are tracked, which references vanish or are replaced, which documents become
modules and which are left out, and how imports are written. `Settings.forDocuments` fills in what a
caller does not say.
-/

namespace HtmlModules

open Text

/-- How imports of other packages are written. -/
inductive ImportStyle where
  | name
  | path
deriving DecidableEq, Repr

/-- The style that a word names. -/
def ImportStyle.ofWord? : String → Option ImportStyle
  | "name" => some .name
  | "path" => some .path
  | _ => none

/-- The word for a style. -/
def ImportStyle.word : ImportStyle → String
  | .name => "name"
  | .path => "path"

/-- An element is installed beside its dependencies, an application owns them. -/
inductive PackageType where
  | element
  | application
deriving DecidableEq, Repr

/-- The type that a word names. -/
def PackageType.ofWord? : String → Option PackageType
  | "element" => some .element
  | "application" => some .application
  | _ => none

/-- The word for a type. -/
def PackageType.word : PackageType → String
  | .element => "element"
  | .application => "application"

/-- How an assignment to a path of a namespace is converted. -/
inductive DeclarationKind where
  /-- Each member becomes an export. -/
  | namespace
  /-- The value becomes one export. -/
  | value
  /-- It stays an assignment. -/
  | ignore
deriving DecidableEq, Repr

/-- The kind that a word names. -/
def DeclarationKind.ofWord? : String → Option DeclarationKind
  | "namespace" => some .namespace
  | "value" => some .value
  | "ignore" => some .ignore
  | _ => none

/-- The word for a kind. -/
def DeclarationKind.word : DeclarationKind → String
  | .namespace => "namespace"
  | .value => "value"
  | .ignore => "ignore"

/-- The directory of the dependencies before the conversion. -/
def legacyDependencyDir : String := "bower_components"

/-- The directory of the dependencies after the conversion. -/
def moduleDependencyDir : String := "node_modules"

/-- The directories that hold no files of the package itself. -/
def foreignDirectories : List String := [legacyDependencyDir, moduleDependencyDir, ".git"]

/-- The file is in a directory that holds no files of the package itself. -/
def isForeignPath (path : String) : Bool :=
  (Url.segments path).dropLast.any foreignDirectories.contains

/-- The namespaces that are tracked if none are given. -/
def defaultNamespaces : List String := ["Polymer"]

/-- Settings of a conversion. -/
structure Settings where
  /-- The tracked namespaces, by identifier or path. -/
  namespaces : List String := defaultNamespaces
  /-- Paths whose references become `undefined`. -/
  referenceExcludes : List String := []
  /-- Paths with the text that replaces them. -/
  referenceReplacements : Table String := []
  /-- The documents that become modules. -/
  modules : List String := []
  /-- The documents that are neither converted nor imported. -/
  excludedDocuments : List String := []
  importStyle : ImportStyle := .path
  addImportPath : Bool := false
  packageName : String := ""
  packageType : PackageType := .element
  templateTag : Option String := none
  declarationOverrides : Table DeclarationKind := []
  legacyDir : String := legacyDependencyDir
  moduleDir : String := moduleDependencyDir

namespace Settings

/-- The document becomes a module. -/
def isModule (s : Settings) (url : String) : Bool := s.modules.contains url

/-- The document is left out. -/
def isExcluded (s : Settings) (url : String) : Bool := s.excludedDocuments.contains url

/-- The identifiers that the tracked namespaces begin with. -/
def roots (s : Settings) : List String := List.eraseDups (s.namespaces.map (before '.'))

/-- The path is replaced or vanishes. -/
def isRedirected (s : Settings) (path : String) : Bool :=
  s.referenceExcludes.contains path || Table.has s.referenceReplacements path

/-- The directories whose documents stay documents. -/
def documentDirectories : List String := ["demo/", "test/", "tests/"]

/-- The documents that stay documents. -/
def plainDocuments : List String := ["index.html"]

/-- The document becomes a module unless the caller says otherwise. -/
def becomesModule (url : String) : Bool :=
  endsWith url Url.htmlExtension && !plainDocuments.contains url &&
    !documentDirectories.any (startsWith url)

/-- Paths that vanish if none are given. -/
def defaultExcludes : List String :=
  ["Polymer.DomModule", "Polymer.Settings", "Polymer.log", "Polymer.rootPath",
    "Polymer.sanitizeDOMValue", "Polymer.StyleGather"]

/-- Paths that are replaced if none are given. -/
def defaultReplacements : Table String := [("document.currentScript.ownerDocument", "window.document")]

/-- What a caller may say about the conversion of a package. -/
structure Options where
  packageName : String := ""
  packageType : PackageType := .element
  namespaces : Option (List String) := none
  /-- Patterns of the documents that are left out. -/
  excludes : List String := []
  referenceExcludes : Option (List String) := none
  referenceReplacements : Option (Table String) := none
  importStyle : ImportStyle := .path
  addImportPath : Bool := false
  templateTag : Option String := none
  declarationOverrides : Table DeclarationKind := []

/-- The settings for the documents of a package. -/
def forDocuments (urls : List String) (o : Options) : Settings :=
  let excluded := urls.filter fun url => o.excludes.any fun pattern => globMatches pattern url
  { namespaces := o.namespaces.getD defaultNamespaces
    referenceExcludes := o.referenceExcludes.getD defaultExcludes
    referenceReplacements := o.referenceReplacements.getD defaultReplacements
    modules := List.eraseDups (urls.filter fun url => !excluded.contains url && becomesModule url)
    excludedDocuments := List.eraseDups excluded
    importStyle := o.importStyle
    addImportPath := o.addImportPath
    packageName := o.packageName
    packageType := o.packageType
    templateTag := o.templateTag
    declarationOverrides := o.declarationOverrides }

end Settings

end HtmlModules
