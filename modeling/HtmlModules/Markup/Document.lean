import HtmlModules.Failure
import HtmlModules.Markup.Node

/-!
# Documents

A document is its text with the tree read from it. Parts of it are cut out of the text by the
offsets in the tree, so nothing of them changes.
-/

namespace HtmlModules.Markup

open Text

/-- A text with the tree read from it. -/
structure Document where
  contents : String
  nodes : List Node

/-- A node that is an element, with its children and the elements around it. -/
structure PlacedElement where
  around : List Element
  element : Element
  children : List Node

namespace Document

/-- Reads a document. -/
def parse (contents : String) : Except Failure Document :=
  match scan contents with
  | .ok events =>
    if events.any (·.hasLongNumber) then .error .longReference
    else .ok ⟨contents, nodesOf events⟩
  | .error offset =>
    let (line, column) := (LineIndex.ofText contents).lineAndColumn offset
    .error (.markup line.toNat column.toNat)

/-- All nodes in document order, each with the elements around it. -/
def outline (d : Document) : List (List Element × Node) := Node.outlineAll [] d.nodes

end Document

/-- The elements of an outline. -/
def elementsOf (outline : List (List Element × Node)) : List PlacedElement :=
  outline.filterMap fun
    | (around, .element e cs) => some ⟨around, e, cs⟩
    | _ => none

namespace Document

/-- All elements in document order. -/
def elements (d : Document) : List PlacedElement := elementsOf d.outline

/-- The first element with a tag. -/
def find? (d : Document) (tag : String) : Option PlacedElement :=
  d.elements.find? (·.element.tag == tag)

/-- The source of an element. -/
def sourceOf (d : Document) (e : Element) : String := slice d.contents e.start e.stop

/-- What stands between the tags of an element. -/
def innerSource (d : Document) (e : Element) : String := slice d.contents e.innerStart e.innerStop

/-- The comments with their ranges, each with the elements around it. -/
def comments (d : Document) : List (List Element × Nat × Nat × String) :=
  d.outline.filterMap fun
    | (around, .comment start stop data) => some (around, start, stop, data)
    | _ => none

end Document

/-! ## Contents -/

/-- The elements that only give a document its shape. -/
def wrapperTags : List String := ["html", "head", "body"]

mutual

/-- The elements of a node that carry content: itself, or those inside a wrapper. -/
def Node.contents (around : List Element) : Node → List PlacedElement
  | .element e cs =>
    if wrapperTags.contains e.tag then contentsOf (e :: around) cs else [⟨around, e, cs⟩]
  | _ => []

/-- The elements of nodes that carry content. -/
def contentsOf (around : List Element) : List Node → List PlacedElement
  | [] => []
  | n :: ns => Node.contents around n ++ contentsOf around ns

end

/-- The elements of a document that carry content, its wrappers taken away. -/
def Document.contentElements (d : Document) : List PlacedElement := contentsOf [] d.nodes

/-! ## Cutting out -/

mutual

/-- The ranges of the outermost excluded elements below a node. -/
def Node.cuts (exclude : List Element → Element → Bool) (around : List Element) :
    Node → List (Nat × Nat)
  | .element e cs => cutsOf exclude (e :: around) cs
  | _ => []

/-- The ranges of the outermost excluded elements among nodes and below them. -/
def cutsOf (exclude : List Element → Element → Bool) (around : List Element) :
    List Node → List (Nat × Nat)
  | [] => []
  | n :: ns =>
    (match n.element? with
      | some e => if exclude around e then [(e.start, e.stop)] else Node.cuts exclude around n
      | none => []) ++ cutsOf exclude around ns

end

/-- The text from `position` to `stop` without the ranges, which are in order. -/
def cutOut (contents : String) (stop : Nat) : Nat → List (Nat × Nat) → String
  | position, [] => slice contents position stop
  | position, (a, b) :: rest => slice contents position a ++ cutOut contents stop b rest

/-- The source of a node without the elements below it that `exclude` finds. -/
def Document.sourceWithout (d : Document) (exclude : List Element → Element → Bool)
    (around : List Element) (n : Node) : String :=
  cutOut d.contents n.stop n.start (n.cuts exclude around)

/-! ## Markup blocks of elements -/

/-- The children that are elements. -/
def PlacedElement.childElements (p : PlacedElement) : List PlacedElement :=
  p.children.filterMap fun
    | .element e cs => some ⟨p.element :: p.around, e, cs⟩
    | _ => none

/-- The node may stand beside the template of a markup block. -/
def isInlinableChild : Node → Bool
  | .element e _ => (e.tag == "template" && e.attributes.isEmpty) || e.tag == "script"
  | .text _ _ s => allBlank s
  | _ => false

/-- The markup block of an element holds nothing but one plain template, scripts and blanks. -/
def PlacedElement.isInlinable (p : PlacedElement) : Bool :=
  p.element.attributes.all (·.name == "id") && p.children.all isInlinableChild &&
    (p.childElements.filter (·.element.tag == "template")).length ≤ 1

end HtmlModules.Markup
