import HtmlModules.Pass.Basic
import HtmlModules.Script.Template

/-!
# Inlining of templates

The template in the markup block of an element becomes a getter of the class that declares the
element, or a property of the object that the factory is called with. A block that holds more than a
plain template is left to be put into the page when the module runs.
-/

namespace HtmlModules.Pass

open Text Script

/-- The offset behind the brace that opens the body of the class or the object of the factory. -/
def membersStart (d : ElementDeclaration) : Nat :=
  match d.style with
  | .byClass => ((d.node.child? .body).map (·.start + 1)).getD 0
  | .byFactory => ((d.node.child? .argument).map (·.start + 1)).getD 0

/-- A static getter with one `return`. -/
def getterText (name value : String) : String :=
  "\n  static get " ++ name ++ "() \x7b\n    return " ++ value ++ ";\n  \x7d\n"

/-- A property in front of others. -/
def propertyText (name value : String) : String := "\n  " ++ name ++ ": " ++ value ++ ","

/-- The edit that gives an element its template. -/
def templateEdit (tag literal : String) (d : ElementDeclaration) : Edit :=
  .insert (membersStart d) (match d.style with
    | .byClass => getterText "template" (tag ++ literal)
    | .byFactory => propertyText "_template" (tag ++ literal))

/-- The edit that gives an element the url it was loaded from. -/
def importPathEdit (url : String) (d : ElementDeclaration) : Edit :=
  .insert (membersStart d) (match d.style with
    | .byClass => getterText "importPath" url
    | .byFactory => propertyText "importPath" url)

/-- The first declaration of each tag. -/
def firstDeclarations (program : Node) : Table ElementDeclaration :=
  program.elementDeclarations.foldl (fun t d => Table.addNew t d.tag d) []

/-- What becomes of the markup block of an element. -/
inductive Inlining where
  /-- There is no block that can be inlined. -/
  | none
  /-- The block has no template and goes. -/
  | claim (block : Nat)
  /-- The template moves into the declaration. -/
  | move (block : Nat) (edit : Edit)
  /-- The declaration is not in the program. -/
  | undeclared (tag : String)

/-- What becomes of the markup block of an element; `tag` is put in front of the literal. -/
def inlining (markup : Markup.Document) (tag : String) (declarations : Table ElementDeclaration)
    (e : DeclaredElement) : Inlining :=
  match e.block.filter (·.isInlinable) with
  | .none => .none
  | .some block =>
    match block.childElements.find? (·.element.tag == "template") with
    | .none => .claim block.element.start
    | .some template =>
      match Table.get? declarations e.tag with
      | .none => .undeclared e.tag
      | .some d =>
        let literal := templateLiteral (markup.innerSource template.element)
        .move block.element.start (templateEdit tag literal d)

/-- The block that is taken out of the page. -/
def Inlining.claimed? : Inlining → Option Nat
  | .claim block | .move block _ => some block
  | _ => Option.none

/-- The edit of the program. -/
def Inlining.edit? : Inlining → Option Edit
  | .move _ edit => some edit
  | _ => Option.none

/-- The tag whose declaration is missing. -/
def Inlining.undeclared? : Inlining → Option String
  | .undeclared tag => some tag
  | _ => Option.none

/-- Reports an element whose declaration is missing. -/
def warnUndeclared (tag : String) : Step Unit :=
  warn "W0201" (s!"could not find the declaration of element <{tag}>; " ++
    "its template was not inlined")

/-- The edit for the url of an element, which is written when the program is finished. -/
def deferImportPath (d : ElementDeclaration) : Step Edit := do
  let url ← modifyGet (·.defer "import.meta.url")
  return importPathEdit url d

/-- What becomes of the markup blocks of the elements. -/
def inlinings (c : Context) (declarations : Table ElementDeclaration) : List Inlining :=
  match c.file.markup with
  | none => []
  | some markup =>
    c.file.elements.map (inlining markup (c.settings.templateTag.getD "") declarations)

/-- The edits for the urls of the elements, if they are asked for. -/
def importPathEdits (c : Context) (declarations : Table ElementDeclaration) : Step (List Edit) :=
  if c.settings.addImportPath then (Table.values declarations).mapM deferImportPath else pure []

/-- Moves templates into the declarations of their elements. -/
def inlineTemplates (source : String) : Step String := do
  let c ← read
  let declarations := firstDeclarations (← readProgram source)
  let inlinings := inlinings c declarations
  modify fun f => { f with claimed := f.claimed ++ inlinings.filterMap Inlining.claimed? }
  (inlinings.filterMap Inlining.undeclared?).forM warnUndeclared
  let paths ← importPathEdits c declarations
  edit source (paths ++ inlinings.filterMap Inlining.edit?)

end HtmlModules.Pass
