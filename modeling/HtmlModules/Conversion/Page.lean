import HtmlModules.Conversion.Module
import HtmlModules.Markup.Printer

/-!
# Documents that stay documents

Only the ranges that have to change are replaced: inline scripts that come to import something
become modules, imports of documents become scripts that load modules, and links to scripts are
corrected. If a style takes in shared styles, the styles of the head and the contents of the body
are put into the page by module scripts, which run in the order in which they stand.
-/

namespace HtmlModules

open Text Markup

/-! ## Inline scripts -/

/-- The script is in the template of a demonstration. -/
def InlineScript.isDemo (s : InlineScript) : Bool :=
  (s.place.around.zip (s.place.around.drop 1)).any fun (inner, outer) =>
    inner.tag == "template" && outer.tag == "demo-snippet"

/-- The scripts of a document that may become modules. -/
def candidateScripts (file : SourceFile) : List InlineScript :=
  file.scripts.filter (·.isClassic) ++
    file.templateScripts.filter fun s => s.isClassic && s.isDemo

/-- The warning about an inline script that cannot be read. -/
def unreadableScript (file : SourceFile) (s : InlineScript) (e : Script.SyntaxError) :
    Diagnostic :=
  let failure := Failure.script e file.url
  { code := some "W0203", message := "inline script left unchanged: " ++ failure.message
    location := failure.location.map fun l => shiftLocation l file.contents s.codeStart }

namespace Conversion

/-- The context of the passes over one inline script. -/
def inlineContext (c : Conversion) (p : Preparation) (registry : Registry) (s : InlineScript) :
    Pass.Context :=
  { c.context p registry with
    explicitImports := []
    span := some ⟨s.codeStart, s.codeStart + s.code.length⟩ }

/-- The module that an inline script becomes; none if it stays a classic script, because it sets up
the page for others, imports nothing or cannot be read. -/
def inlineModule? (c : Conversion) (p : Preparation) (registry : Registry) (s : InlineScript) :
    Reporting (Option String) :=
  match Script.parse s.code with
  | .error e => do
    report [unreadableScript p.file s e]
    return none
  | .ok program =>
    if program.writesGlobalSettings then return none
    else do
      let (text, findings) ←
        Pipeline.forInlineScript.convert (c.inlineContext p registry s) s.code
      return if findings.importCount = 0 then none else some text

/-- The edit for an inline script. -/
def inlineEdit? (c : Conversion) (p : Preparation) (registry : Registry) (s : InlineScript) :
    Reporting (Option Edit) := do
  let code ← c.inlineModule? p registry s
  return code.map fun code =>
    .replace s.place.element.start s.place.element.stop (moduleScript code)

/-! ## Links -/

/-- What is written for a link to a file. -/
def linkSpecifier (c : Conversion) (p : Preparation) (l : Link) : Reporting String := do
  lookUp c.resolver l.url
  Reporting.ofExcept (c.resolver.importSpecifier p.moduleUrl (c.resolver.moduleUrl l.url)
    c.settings.importStyle l.href)

/-- The edit for an import of a document. -/
def importEdit (c : Conversion) (p : Preparation) (l : Link) : Reporting Edit := do
  return .replace l.element.start l.element.stop (moduleLink (← c.linkSpecifier p l))

/-- The start tag of a script element with another source. -/
def scriptTag (e : Element) (src : String) : String :=
  startTag e.tag (e.attributes.map fun a => if a.name == "src" then { a with value := src } else a)

/-- The edit for a link to a script. -/
def scriptEdit (c : Conversion) (p : Preparation) (l : Link) : Reporting Edit := do
  return .replace l.element.start l.element.innerStart (scriptTag l.element (← c.linkSpecifier p l))

end Conversion

/-! ## Styles -/

/-- What stands in front of the first script that puts a style into the page. -/
def styleNotice : String :=
  join "\n" ["<!-- FIXME(modulizer):",
    "        These imperative modules that innerHTML your HTML are",
    "        a hacky way to be sure that any mixins in included style",
    "        modules are ready before any elements that reference them are",
    "        instantiated, otherwise the CSS @apply mixin polyfill won't be",
    "        able to expand the underlying CSS custom properties.",
    "        -->",
    "    "]

/-- The element is a style by itself and not a part of one. -/
def isOutermostStyle (p : PlacedElement) : Bool :=
  p.element.tag == "custom-style" ||
    (p.element.tag == "style" && !p.around.head?.any (·.tag == "custom-style"))

/-- The elements that are put into the page by scripts: styles of the head, and children of the body,
which are marked. -/
def styledElements (head body : PlacedElement) : List (Element × Bool) :=
  let below := elementsOf (Node.outlineAll (head.element :: head.around) head.children)
  (below.filter isOutermostStyle).map (fun p => (p.element, false)) ++
    (body.childElements.filter (·.element.tag != "script")).map fun p => (p.element, true)

/-- The script that puts an element into the page. -/
def insertionScript (d : Document) (e : Element × Bool) : String :=
  moduleScript (insertionStatements (d.sourceOf e.1) containerName e.2)

/-- The edits that put elements into the page, the first behind the notice. -/
def styleEdits (d : Document) (elements : List (Element × Bool)) : List Edit :=
  elements.mapIdx fun n e =>
    .replace e.1.start e.1.stop ((if n = 0 then styleNotice else "") ++ insertionScript d e)

/-- The edits for the styles of a document that takes in shared ones. -/
def sharedStyleEdits (file : SourceFile) : Reporting (List Edit) := do
  match file.markup with
  | none => return []
  | some d =>
    if file.styles.all (·.includes.isEmpty) then return []
    else match d.find? "head", d.find? "body" with
      | some head, some body => return styleEdits d (styledElements head body)
      | _, _ =>
        report [{ code := some "W0203", message := "styles including style modules were not " ++
          "converted: the document has no head and body" }]
        return []

/-! ## Documents -/

namespace Conversion

/-- The edits of a document. -/
def pageEdits (c : Conversion) (p : Preparation) (registry : Registry) : Reporting (List Edit) := do
  let scripts ← (candidateScripts p.file).filterMapM (c.inlineEdit? p registry)
  let imports ← ((p.file.linksOf .document).filter fun l => !c.settings.isExcluded l.url).mapM
    (c.importEdit p)
  let sources ← (p.file.linksOf .script).mapM (c.scriptEdit p)
  let styles ← sharedStyleEdits p.file
  return scripts ++ imports ++ sources ++ styles

/-- Converts a document in place. -/
def convertPage (c : Conversion) (registry : Registry) (file : SourceFile) :
    Reporting Converted := do
  let p ← c.prepare file
  let edits ← c.pageEdits p registry
  match applyEdits file.contents edits true with
  | .error conflict => throw (.conflict conflict)
  | .ok text =>
    lookUp c.resolver file.url
    return {
      legacyUrl := file.url, url := c.resolver.convertUrl file.url, outputPath := file.url
      kind := .document, text }

end Conversion

end HtmlModules
