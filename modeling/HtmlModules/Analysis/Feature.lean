import HtmlModules.Diagnostic
import HtmlModules.Feature
import HtmlModules.Script.Program
import HtmlModules.Url.Href

/-!
# Finding features

The features of a document, read off its tree. Links count only if they lead to a file that exists.
The scripts of a document, inline or linked, are read for the elements they declare; one that cannot
be read is reported and declares none.
-/

namespace HtmlModules

open Text Markup

/-- The files under a root: their texts, or why they cannot be read. Links out of the root lead into
the directory of dependencies, if there is one. -/
structure SourceRoot where
  files : Table (Except Failure String)
  dependencyDir : Option String := none

namespace SourceRoot

/-- The root that holds these texts. -/
def ofTexts (texts : Table String) (dependencyDir : Option String) : SourceRoot :=
  { files := texts.map fun (url, text) => (url, .ok text), dependencyDir }

/-- A file with this url exists. -/
def exists? (r : SourceRoot) (url : String) : Bool := Table.has r.files url

/-- The file that a link in a document leads to, if it exists. -/
def target? (r : SourceRoot) (url href : String) : Option String :=
  (Url.resolveHref url href r.dependencyDir).filter r.exists?

/-! ## Single elements -/

/-- A link that imports a document. -/
def importLink? (r : SourceRoot) (url : String) (e : Element) : Option Link := do
  let rel := words (lower ((e.attribute? "rel").getD ""))
  if rel.contains "import" then
    let href ← e.attribute? "href"
    let target ← r.target? url href
    return { kind := .document, element := e, href, url := target }
  else none

/-- A link that runs a script. -/
def scriptLink? (r : SourceRoot) (url href : String) (e : Element) : Option Link :=
  (r.target? url href).map fun target =>
    { kind := .script, element := e, href, url := target, type := e.attribute? "type" }

/-- A style with the shared styles it takes in. -/
def styleBlock (p : PlacedElement) : StyleBlock where
  element := p.element
  includes := words ((p.element.attribute? "include").getD "")
  inCustomStyle := p.element.attribute? "is" == some "custom-style" ||
    p.around.head?.any (·.tag == "custom-style")

/-- The feature that an element is. In a template only inline scripts are. -/
def feature? (r : SourceRoot) (url : String) (d : Document) (p : PlacedElement) :
    Option Feature :=
  let inTemplate := isInside p.around "template"
  match p.element.tag with
  | "link" => if inTemplate then none else (r.importLink? url p.element).map .link
  | "script" =>
    match p.element.attribute? "src" with
    | none => some (.script ⟨p, d.innerSource p.element, p.element.attribute? "type"⟩)
    | some href => if inTemplate then none else (r.scriptLink? url href p.element).map .link
  | "style" => if inTemplate then none else some (.style (styleBlock p))
  | _ => none

/-! ## Declared elements -/

/-- Code that may declare elements. -/
structure Code where
  url : String
  text : String
  start : Nat
  stop : Nat
  /-- Where the code starts in the document, if it is inline. -/
  offset : Option Nat

/-- The script belongs to a dependency. -/
def isForeignScript (r : SourceRoot) (l : Link) : Bool :=
  (r.dependencyDir.filter (· ≠ "")).any (startsWith l.url)

/-- The code that a feature brings in. -/
def codeOf (r : SourceRoot) (url : String) (f : Feature) : Except Failure (Option Code) :=
  match f with
  | .script s =>
    if s.inTemplate || !s.isClassic then .ok none
    else .ok (some ⟨url, s.code, f.start, f.stop, some s.codeStart⟩)
  | .link l =>
    if l.kind != .script || r.isForeignScript l then .ok none
    else match Table.get? r.files l.url with
      | none => .ok none
      | some text => text.map fun text => some ⟨l.url, text, f.start, f.stop, none⟩
  | _ => .ok none

/-- The first markup block of each name. -/
def markupBlocks (d : Document) : Table PlacedElement :=
  (d.elements.filter (·.element.tag == "dom-module")).foldl (fun t p =>
    match (p.element.attribute? "id").filter (· ≠ "") with
    | some id => Table.addNew t id p
    | none => t) []

/-- The warning about code that cannot be read. -/
def unreadableCode (url contents : String) (code : Code) (e : Script.SyntaxError) : Diagnostic :=
  let failure := Failure.script e code.url
  let location := match failure.location, code.offset with
    | some l, some offset => some (shiftLocation l contents offset)
    | l, _ => l
  { code := some "W0201", location
    message := s!"could not parse script in {url}: {failure.message}" }

/-- The elements that code declares, or the warning that it cannot be read. -/
def declaredElements (url : String) (d : Document) (code : Code) :
    Diagnostics × List DeclaredElement :=
  match Script.parse code.text with
  | .error e => ([unreadableCode url d.contents code e], [])
  | .ok program =>
    ([], program.elementDeclarations.map fun e =>
      { tag := e.tag, style := e.style, codeUrl := code.url, start := code.start, stop := code.stop
        block := Table.get? (markupBlocks d) e.tag })

/-! ## Documents -/

/-- The document of a text with its features, and the warnings about its scripts. -/
def readDocument (r : SourceRoot) (url contents : String) :
    Except Failure (SourceFile × Diagnostics) := do
  let d ← Document.parse contents
  let found := d.elements.filterMap (r.feature? url d)
  let codes ← found.filterMapM (r.codeOf url)
  let declared := codes.map (declaredElements url d)
  let features := found ++ (declared.flatMap Prod.snd).map Feature.element
  return ({ url, contents, markup := some d
            features := sortBy (fun a b => a.start ≤ b.start) features },
    declared.flatMap Prod.fst)

end SourceRoot

end HtmlModules
