import HtmlModules.Script.Node

/-!
# Names that a script binds and uses

`patternNames` are the names that a pattern binds, `statementNames` those that a statement declares
where it stands, `scopeNames` those that a list of statements declares in its function, with the
`var`s of nested blocks. `usedNames` are all names that stand for a binding, read, written or
declared.
-/

namespace HtmlModules.Script.Node

/-! ## Declared names -/

mutual

/-- The names that a pattern binds, in order. -/
def patternNames : Node → List String
  | mk _ k _ cs =>
    match k with
    | .identifier name => [name]
    | .objectPattern => patternNamesIn .property cs
    | .property .. => patternNamesIn .value cs
    | .arrayPattern => patternNamesIn .element cs
    | .assignmentPattern => patternNamesIn .left cs
    | .restElement => patternNamesIn .argument cs
    | _ => []

/-- The names that the children in a role bind. -/
def patternNamesIn (r : Role) : List Node → List String
  | [] => []
  | n :: ns => (if n.role == r then patternNames n else []) ++ patternNamesIn r ns

end

/-- The names that the declarators of a declaration bind. -/
def declaratorNames (n : Node) : List String :=
  (n.childrenIn .declaration).flatMap fun d => ((d.child? .id).map patternNames).getD []

/-- The names that a statement declares where it stands, unless it exports. -/
def plainStatementNames (n : Node) : List String :=
  match n.kind with
  | .variableDeclaration _ => n.declaratorNames
  | .functionDeclaration _ | .classDeclaration => ((n.child? .id).bind name?).toList
  | .importDeclaration =>
    (n.childrenIn .specifier).filterMap fun s => (s.child? .localName).bind name?
  | _ => []

/-- The names that a statement declares where it stands. -/
def statementNames (n : Node) : List String :=
  match n.kind with
  | .exportNamedDeclaration => ((n.child? .declaration).map plainStatementNames).getD []
  | _ => n.plainStatementNames

/-- The declaration is a `var`. -/
def isVar (n : Node) : Bool := n.kind == .variableDeclaration .var

/-- The names of the `var`s below `n` that belong to the function around it. -/
def hoistedNames (n : Node) : List String :=
  (outlineAll (fun m => !(m.kind.isFunction || m.kind.isClass)) (some n) n.children).flatMap
    fun (_, m) => if m.isVar then m.declaratorNames else []

/-- The names that statements declare in their function. -/
def scopeNames (statements : List Node) : List String :=
  List.eraseDups (statements.flatMap fun s => s.statementNames ++ s.hoistedNames)

/-! ## Used names -/

/-- The property is written in brackets. -/
def isComputed (n : Node) : Bool :=
  match n.kind with
  | .memberExpression c => c
  | .property _ c _ _ => c
  | .methodDefinition _ c _ => c
  | _ => false

/-- The property stands for its key and its value at once. -/
def isShorthand (n : Node) : Bool :=
  match n.kind with
  | .property _ _ _ s => s
  | _ => false

/-- The identifier stands for a binding: it is not the name of a property and not a label. -/
def isBindingName (parent : Option Node) (n : Node) : Bool :=
  match parent with
  | none => true
  | some p =>
    match p.kind with
    | .memberExpression computed => computed || n.role != .property
    | .property .. | .methodDefinition .. => p.isComputed || n.role != .key || p.isShorthand
    | .labeledStatement | .breakStatement | .continueStatement | .metaProperty => false
    | _ => true

/-- The names of the bindings that are read, written or declared in a tree. -/
def usedNames (n : Node) : List String :=
  List.eraseDups (n.family.filterMap fun (parent, m) => if isBindingName parent m then m.name? else none)

end HtmlModules.Script.Node
