import HtmlModules.Markup.Event

/-!
# The tree of a document

An element knows the range it takes, the end of its start tag and the beginning of its end tag, so
every part of it can be cut out of the text. `outline` lists a tree in document order, each node
with the elements around it, nearest first. No two elements of a document start at the same offset,
so the offset tells them apart.
-/

namespace HtmlModules.Markup

open Text

/-- An element without its children. -/
structure Element where
  start : Nat
  stop : Nat
  tag : String
  attributes : List Attribute
  /-- Behind the start tag. -/
  innerStart : Nat
  /-- In front of the end tag. -/
  innerStop : Nat
deriving DecidableEq, Repr

/-- A node of a document. -/
inductive Node where
  | text (start stop : Nat) (text : String)
  | comment (start stop : Nat) (data : String)
  | declaration (start stop : Nat)
  | element (element : Element) (children : List Node)
deriving Repr

/-- The value of an attribute, empty if it has none. -/
def Element.attribute? (e : Element) (name : String) : Option String :=
  (e.attributes.find? (·.name == lower name)).map fun a => a.value.getD ""

namespace Node

/-- Where the node starts. -/
def start : Node → Nat
  | text a _ _ | comment a _ _ | declaration a _ => a
  | element e _ => e.start

/-- Where the node ends. -/
def stop : Node → Nat
  | text _ b _ | comment _ b _ | declaration _ b => b
  | element e _ => e.stop

/-- The element that the node is. -/
def element? : Node → Option Element
  | element e _ => some e
  | _ => none

/-- The children of the node. -/
def children : Node → List Node
  | element _ cs => cs
  | _ => []

/-- Text that is only white space. -/
def isBlankText : Node → Bool
  | text _ _ s => allBlank s
  | _ => false

mutual

/-- The node and its descendants in document order, each with the elements around it. -/
def outline (around : List Element) : Node → List (List Element × Node)
  | element e cs => (around, element e cs) :: outlineAll (e :: around) cs
  | n => [(around, n)]

/-- The outlines of several nodes, one after the other. -/
def outlineAll (around : List Element) : List Node → List (List Element × Node)
  | [] => []
  | n :: ns => outline around n ++ outlineAll around ns

end

end Node

/-- One of the elements has this tag. -/
def isInside (around : List Element) (tag : String) : Bool := around.any (·.tag == tag)

/-! ## Building the tree -/

/-- An element that has not been closed yet, its children in reverse order. -/
structure OpenElement where
  start : Nat
  tag : String
  attributes : List Attribute
  innerStart : Nat
  children : List Node

/-- The nodes read so far, in reverse order, and the open elements, innermost first. -/
structure Builder where
  roots : List Node := []
  opened : List OpenElement := []

/-- The element closed by an end tag from `innerStop` to `stop`. -/
def OpenElement.close (o : OpenElement) (innerStop stop : Nat) : Node :=
  .element ⟨o.start, stop, o.tag, o.attributes, o.innerStart, innerStop⟩ o.children.reverse

/-- The element closed behind its last child, without an end tag. -/
def OpenElement.closeHere (o : OpenElement) : Node :=
  let stop := (o.children.head?.map Node.stop).getD o.innerStart
  o.close stop stop

/-- Puts a node in front of the others; a text continues one that ends where it starts. -/
def push (n : Node) (ns : List Node) : List Node :=
  match n, ns with
  | .text a b s, .text c d t :: rest =>
    if d = a then .text c b (t ++ s) :: rest else .text a b s :: .text c d t :: rest
  | n, ns => n :: ns

namespace Builder

/-- Adds a node to the innermost open element. -/
def add (b : Builder) (n : Node) : Builder :=
  match b.opened with
  | [] => { b with roots := push n b.roots }
  | o :: rest => { b with opened := { o with children := push n o.children } :: rest }

/-- Closes the elements inside the innermost one with this tag, and then that one. -/
def closeTag (tag : String) (start stop : Nat) (roots : List Node) : List OpenElement → Builder
  | [] => { roots }
  | o :: rest =>
    if o.tag == tag then add { roots, opened := rest } (o.close start stop)
    else
      match rest with
      | [] => add { roots } o.closeHere
      | p :: rest => closeTag tag start stop roots
          ({ p with children := push o.closeHere p.children } :: rest)
termination_by opened => opened.length

/-- Elements that have no contents. -/
def voidTags : List String :=
  ["area", "base", "br", "col", "embed", "hr", "img", "input", "link", "meta", "param", "source",
    "track", "wbr"]

/-- Takes in one event. An end tag for which no element is open is skipped. -/
def step (b : Builder) (e : Event) : Builder :=
  match e.kind with
  | .text s => b.add (.text e.start e.stop s)
  | .comment data => b.add (.comment e.start e.stop data)
  | .declaration => b.add (.declaration e.start e.stop)
  | .rawElement tag attributes innerStart innerStop text =>
    let children := if text = "" then [] else [.text innerStart innerStop text]
    b.add (.element
      ⟨e.start, e.stop, tag, attributes.map (·.unescaped), innerStart, innerStop⟩ children)
  | .startTag tag attributes selfClosing =>
    let attributes := attributes.map (·.unescaped)
    if selfClosing || voidTags.contains tag then
      b.add (.element ⟨e.start, e.stop, tag, attributes, e.stop, e.stop⟩ [])
    else { b with opened := ⟨e.start, tag, attributes, e.stop, []⟩ :: b.opened }
  | .endTag tag =>
    if b.opened.any (·.tag == tag) then closeTag tag e.start e.stop b.roots b.opened else b

/-- Closes all open elements. -/
def finish (roots : List Node) : List OpenElement → List Node
  | [] => roots.reverse
  | [o] => (push o.closeHere roots).reverse
  | o :: p :: rest => finish roots ({ p with children := push o.closeHere p.children } :: rest)
termination_by opened => opened.length

end Builder

/-- The nodes that a list of events spells. -/
def nodesOf (events : List Event) : List Node :=
  let b := events.foldl Builder.step {}
  Builder.finish b.roots b.opened

end HtmlModules.Markup
