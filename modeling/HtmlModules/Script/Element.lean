import HtmlModules.Script.Reference

/-!
# Declarations of custom elements

An element is declared by a class with a static getter `is`, by a class that is registered under a
tag name, or by a call of the factory with an object that has a property `is`.
-/

namespace HtmlModules.Script

/-- How an element is declared. -/
inductive ElementStyle where
  | byClass
  | byFactory
deriving DecidableEq, Repr

/-- The name of a style. -/
def ElementStyle.name : ElementStyle → String
  | .byClass => "class"
  | .byFactory => "factory"

/-- A declared element: its tag, and the class or the call that declares it. -/
structure ElementDeclaration where
  tag : String
  style : ElementStyle
  node : Node

namespace Node

/-- The members of a class. -/
def classMembers (n : Node) : List Node := ((n.child? .body).map (·.childrenIn .body)).getD []

/-- The member is the static getter `is`. -/
def isTagGetter (m : Node) : Bool :=
  m.kind == .methodDefinition .get false true && (m.child? .key).bind name? == some "is"

/-- The statements of a method. -/
def methodStatements (m : Node) : List Node :=
  (((m.child? .value).bind (·.child? .body)).map (·.childrenIn .body)).getD []

/-- The tag that the first static getter `is` with a `return` gives. -/
def getterTag? (n : Node) : Option String :=
  (n.classMembers.filter isTagGetter).findSome? (fun m =>
    m.methodStatements.find? (·.kind == .returnStatement)) |>.bind fun r =>
      (r.child? .argument).bind string?

/-- The name of a property that is not computed. -/
def propertyName? (p : Node) : Option String :=
  match p.kind with
  | .property _ false _ _ => (p.child? .key).bind fun k => k.name? <|> k.string?
  | _ => none

/-- The tag in the object that the factory is called with. -/
def factoryTag? (n : Node) : Option String :=
  match n.kind, (n.child? .callee).bind name?, n.child? .argument with
  | .callExpression, some "Polymer", some options =>
    if options.kind == .objectExpression then
      ((options.childrenIn .property).find? (·.propertyName? == some "is")).bind fun p =>
        (p.child? .value).bind string?
    else none
  | _, _, _ => none

/-- A class name and the tag it is registered under. -/
def registration? (n : Node) : Option (String × String) :=
  match n.kind, (n.child? .callee).bind memberPath?, n.childrenIn .argument with
  | .callExpression, some ["customElements", "define"], tag :: target :: _ => do
    let tag ← tag.string?
    let name ← target.name?
    if tag.isEmpty then none else some (name, tag)
  | _, _, _ => none

/-- The elements that a program declares, in source order. Of several registrations of a name the
last counts. -/
def elementDeclarations (program : Node) : List ElementDeclaration :=
  let nodes := program.walk
  let registered := (nodes.filterMap registration?).reverse
  let declared := nodes.filterMap fun n =>
    if n.kind.isClass then
      let tag := n.getterTag? <|> ((n.child? .id).bind name?).bind fun name => registered.lookup name
      (tag.filter (· ≠ "")).map fun tag => ⟨tag, .byClass, n⟩
    else (n.factoryTag?.filter (· ≠ "")).map fun tag => ⟨tag, .byFactory, n⟩
  sortBy (fun a b => a.node.start ≤ b.node.start) declared

end Node

end HtmlModules.Script
