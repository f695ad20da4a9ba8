import HtmlModules.Identifier
import HtmlModules.Markup.Printer
import HtmlModules.Pass.Basic
import HtmlModules.Script.Binding

/-!
# Insertion of markup

Markup of the document that the module carries in no other way is put into the page when the module
runs, by statements behind the imports of the program.
-/

namespace HtmlModules.Pass

open Text Markup

/-- Elements that are never put into the page. -/
def unplacedTags : List String := ["base", "link", "meta", "script"]

/-- The element is not put into the page: it has no place there or was claimed. What is inside a
template stays whole. -/
def isLeftOut (claimed : List Nat) (around : List Element) (e : Element) : Bool :=
  !isInside around "template" && (unplacedTags.contains e.tag || claimed.contains e.start)

/-- The elements that are put into the page. -/
def insertedElements (d : Document) (claimed : List Nat) : List PlacedElement :=
  d.contentElements.filter fun p => !isLeftOut claimed p.around p.element

/-- The markup that is put into the page. -/
def insertedMarkup (d : Document) (claimed : List Nat) : String :=
  join "\n" ((insertedElements d claimed).map fun p =>
    d.sourceWithout (isLeftOut claimed) p.around (.element p.element p.children))

/-- The end of the imports that a program begins with. -/
def importsEnd (statements : List Script.Node) : Nat :=
  ((statements.takeWhile (·.kind == .importDeclaration)).getLast?.map (·.stop)).getD 0

/-- The edit that puts statements behind the imports. -/
def insertionEdit (program : Script.Node) (text : String) : Edit :=
  let offset := importsEnd (statements program)
  if offset = 0 then .insert 0 (text ++ "\n\n") else .insert offset ("\n\n" ++ text)

/-- Puts markup that is left into the page. -/
def insertMarkup (source : String) : Step String := do
  match (← read).file.markup with
  | none => return source
  | some d =>
    let claimed := (← get).claimed
    if (insertedElements d claimed).isEmpty then return source
    let program ← readProgram source
    let container := Identifier.findAvailable containerName program.usedNames
    edit source [insertionEdit program
      (insertionStatements (insertedMarkup d claimed) container)]

end HtmlModules.Pass
