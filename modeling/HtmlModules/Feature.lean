import HtmlModules.Markup.Document
import HtmlModules.Script.Element

/-!
# Features of documents

What a conversion looks at in a file: its inline scripts, its links to other files, its styles and
the elements that its scripts declare. A `SourceFile` holds them in the order in which they start.
-/

namespace HtmlModules

open Text Markup

/-- The types of scripts that a browser runs as classic scripts. -/
def classicScriptTypes : List String :=
  ["", "application/ecmascript", "application/javascript", "application/x-ecmascript",
    "application/x-javascript", "text/ecmascript", "text/javascript", "text/javascript1.0",
    "text/javascript1.1", "text/javascript1.2", "text/javascript1.3", "text/javascript1.4",
    "text/javascript1.5", "text/jscript", "text/livescript", "text/x-ecmascript",
    "text/x-javascript"]

/-- The type of a script that is not a module and not data. -/
def isClassicType (type : Option String) : Bool :=
  (type.map fun t => classicScriptTypes.contains (lower (trim t))).getD true

/-- The type of a module. -/
def isModuleType (type : Option String) : Bool :=
  (type.map fun t => lower (trim t) == "module").getD false

/-- A script whose code is in the document. -/
structure InlineScript where
  place : PlacedElement
  code : String
  type : Option String

namespace InlineScript

/-- The script is part of a template and does not run by itself. -/
def inTemplate (s : InlineScript) : Bool := isInside s.place.around "template"

/-- Where the code starts in the document. -/
def codeStart (s : InlineScript) : Nat := s.place.element.innerStart

/-- A classic script. -/
def isClassic (s : InlineScript) : Bool := isClassicType s.type

/-- A module. -/
def isModule (s : InlineScript) : Bool := isModuleType s.type

end InlineScript

/-- How a document refers to another file. -/
inductive LinkKind where
  /-- It imports a document. -/
  | document
  /-- It runs a script. -/
  | script
deriving DecidableEq, Repr

/-- A reference to another file. -/
structure Link where
  kind : LinkKind
  element : Element
  href : String
  /-- The file that the reference leads to. -/
  url : String
  type : Option String := none

/-- The link loads a module. -/
def Link.isModule (l : Link) : Bool := isModuleType l.type

/-- A style element. -/
structure StyleBlock where
  element : Element
  /-- The shared styles that it takes in. -/
  includes : List String
  inCustomStyle : Bool

/-- An element that a script declares, with the block of markup that goes with it. -/
structure DeclaredElement where
  tag : String
  style : Script.ElementStyle
  /-- The file that holds the code. -/
  codeUrl : String
  start : Nat
  stop : Nat
  block : Option PlacedElement

/-- What was found in a file. -/
inductive Feature where
  | script (script : InlineScript)
  | link (link : Link)
  | style (style : StyleBlock)
  | element (element : DeclaredElement)

namespace Feature

/-- Where the feature starts. -/
def start : Feature → Nat
  | script s => s.place.element.start
  | link l => l.element.start
  | style s => s.element.start
  | element e => e.start

/-- Where the feature ends. -/
def stop : Feature → Nat
  | script s => s.place.element.stop
  | link l => l.element.stop
  | style s => s.element.stop
  | element e => e.stop

end Feature

/-- A file of the package: a document has markup, a script has none. -/
structure SourceFile where
  url : String
  contents : String
  markup : Option Document := none
  features : List Feature := []

namespace SourceFile

/-- All inline scripts. -/
def allScripts (f : SourceFile) : List InlineScript :=
  f.features.filterMap fun
    | .script s => some s
    | _ => none

/-- The inline scripts that run. -/
def scripts (f : SourceFile) : List InlineScript := f.allScripts.filter (!·.inTemplate)

/-- The inline scripts that are part of a template. -/
def templateScripts (f : SourceFile) : List InlineScript := f.allScripts.filter (·.inTemplate)

/-- The references to other files. -/
def links (f : SourceFile) : List Link :=
  f.features.filterMap fun
    | .link l => some l
    | _ => none

/-- The references of one kind. -/
def linksOf (f : SourceFile) (kind : LinkKind) : List Link := f.links.filter (·.kind == kind)

/-- The styles. -/
def styles (f : SourceFile) : List StyleBlock :=
  f.features.filterMap fun
    | .style s => some s
    | _ => none

/-- The declared elements. -/
def elements (f : SourceFile) : List DeclaredElement :=
  f.features.filterMap fun
    | .element e => some e
    | _ => none

end SourceFile

end HtmlModules
