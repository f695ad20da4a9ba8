import HtmlModules.Script.Binding

/-!
# References

A chain of properties written with dots spells a path. `memberPath?` reads it, dropping `window` at
its root and keeping `this`. The other questions here are about the place of a node in its parent:
whether it is assigned to, and whether an identifier refers to a binding.
-/

namespace HtmlModules.Script.Node

/-! ## Paths -/

/-- The path that a chain of properties spells; an identifier alone spells none. -/
def memberPath? : Node → Option (List String)
  | mk _ (.memberExpression false) _ [object, property] =>
    property.name?.bind fun last =>
      match object.kind with
      | .thisExpression => some ["this", last]
      | .identifier "window" => some [last]
      | .identifier name => some [name, last]
      | _ => (memberPath? object).map (· ++ [last])
  | _ => none

/-- The path that an identifier or a chain of properties spells. -/
def path? (n : Node) : Option (List String) :=
  match n.kind with
  | .identifier name => some [name]
  | _ => n.memberPath?

/-- What the last property of a chain is taken from, `n` times over. -/
def chainBase : Nat → Node → Node
  | 0, n => n
  | k + 1, n => ((n.child? .object).map (chainBase k)).getD n

/-! ## Places -/

/-- The node is written to by the assignment or update it stands in. -/
def isAssigned (parent : Option Node) (n : Node) : Bool :=
  match parent.map kind with
  | some (.assignmentExpression _) => n.role == .left
  | some (.updateExpression _) => n.role == .argument
  | _ => false

/-- The identifier reads or writes a binding: it names no property, no label and nothing that is
declared there. -/
def isReference (parent : Option Node) (n : Node) : Bool :=
  match parent with
  | none => true
  | some p =>
    match p.kind with
    | .memberExpression computed => computed || n.role != .property
    | .property _ computed _ shorthand => if n.role == .key then computed else !shorthand
    | .methodDefinition _ computed _ => computed || n.role != .key
    | .variableDeclarator => n.role != .id
    | .functionDeclaration _ | .functionExpression _ | .arrowFunction _ => false
    | .classDeclaration | .classExpression => n.role != .id
    | .labeledStatement | .breakStatement | .continueStatement => false
    | .importSpecifier | .importDefaultSpecifier | .importNamespaceSpecifier | .exportSpecifier
    | .catchClause | .restElement | .assignmentPattern | .arrayPattern | .objectPattern
    | .metaProperty => false
    | _ => true

/-- What is inside the node shares the `this` around it. -/
def sharesThis (n : Node) : Bool := !(n.kind.isPlainFunction || n.kind == .classBody)

/-! ## Targets of writes -/

/-- The target of an assignment. -/
def assignmentTarget? (n : Node) : Option Node :=
  match n.kind with
  | .assignmentExpression _ => n.child? .left
  | _ => none

/-- The target of an assignment or an update. -/
def writeTarget? (n : Node) : Option Node :=
  match n.kind with
  | .assignmentExpression _ => n.child? .left
  | .updateExpression _ => n.child? .argument
  | _ => none

/-- The two sides of a plain assignment. -/
def plainAssignment? (n : Node) : Option (Node × Node) :=
  match n.kind with
  | .assignmentExpression "=" => do return (← n.child? .left, ← n.child? .right)
  | _ => none

/-- The globals that configure the page as a whole. -/
def globalSettings : List String := ["Polymer", "Polymer.Settings", "ShadyDOM"]

/-- One of the global settings objects is assigned to; a write to one of its members does not
count. -/
def writesGlobalSettings (n : Node) : Bool :=
  n.walk.any fun m =>
    match m.assignmentTarget?.bind path? with
    | some path => globalSettings.contains (Text.join "." path)
    | none => false

end HtmlModules.Script.Node
