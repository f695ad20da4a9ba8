import HtmlModules.Text.Basic

/-!
# Syntax trees of scripts

A `Node` has a kind, the range of characters it takes and its children in the order in which they
start. A child knows the role it plays in its parent, so a question such as "the target of this
assignment" is a search for a role, and every traversal is a walk over one list of children.

`Node.outline` lists a tree in source order, each node with its parent, and leaves out what is below
the nodes that the caller does not want to enter.
-/

namespace HtmlModules.Script

/-- A range of characters, without the one at `stop`. -/
structure Span where
  start : Nat
  stop : Nat
deriving DecidableEq, Repr, Inhabited

/-- The part that a node plays in its parent. -/
inductive Role where
  | alternate
  | argument
  | block
  | body
  | callee
  | clause
  | consequent
  | declaration
  | discriminant
  | element
  | exported
  | expression
  | finalizer
  | handler
  | id
  | imported
  | initial
  | key
  | label
  | left
  | localName
  | metaName
  | object
  | param
  | property
  | quasi
  | right
  | root
  | source
  | specifier
  | superClass
  | tag
  | test
  | update
  | value
deriving DecidableEq, Repr, Inhabited

/-- What a function is marked as. -/
structure FunctionMarks where
  isAsync : Bool := false
  isGenerator : Bool := false
deriving DecidableEq, Repr, Inhabited

/-- What a literal stands for; only the text of a string is kept. -/
inductive LiteralValue where
  | boolean
  | null
  | number
  | regex
  | string (text : String)
deriving DecidableEq, Repr, Inhabited

/-- How a property or a method is defined. -/
inductive PropertyKind where
  | init
  | get
  | set
  | method
  | constructor
deriving DecidableEq, Repr, Inhabited

/-- The keyword of a declaration of variables. -/
inductive VariableKind where
  | var
  | letBinding
  | const
deriving DecidableEq, Repr, Inhabited

/-- The keyword itself. -/
def VariableKind.keyword : VariableKind → String
  | .var => "var"
  | .letBinding => "let"
  | .const => "const"

/-- The kinds of nodes, with all that is not in their children. -/
inductive Kind where
  | arrayExpression
  | arrayPattern
  | arrowFunction (marks : FunctionMarks)
  /-- A parenthesised list read before the arrow behind it is. It takes no range of its own. -/
  | arrowParameters (marks : FunctionMarks)
  | assignmentExpression (operator : String)
  | assignmentPattern
  | awaitExpression
  | binaryExpression (operator : String)
  | blockStatement
  | breakStatement
  | callExpression
  | catchClause
  | classBody
  | classDeclaration
  | classExpression
  | conditionalExpression
  | continueStatement
  | debuggerStatement
  | doWhileStatement
  | emptyStatement
  | exportAllDeclaration
  | exportDefaultDeclaration
  | exportDefaultSpecifier
  | exportNamedDeclaration
  | exportSpecifier
  | expressionStatement
  | forInStatement
  | forOfStatement
  | forStatement
  | functionDeclaration (marks : FunctionMarks)
  | functionExpression (marks : FunctionMarks)
  | identifier (name : String)
  | ifStatement
  | importDeclaration
  | importDefaultSpecifier
  | importKeyword
  | importNamespaceSpecifier
  | importSpecifier
  | labeledStatement
  | literal (value : LiteralValue)
  | logicalExpression (operator : String)
  | memberExpression (computed : Bool)
  | metaProperty
  | methodDefinition (kind : PropertyKind) (computed isStatic : Bool)
  | newExpression
  | objectExpression
  | objectPattern
  | program
  | property (kind : PropertyKind) (computed method shorthand : Bool)
  | restElement
  | returnStatement
  | sequenceExpression
  | spreadElement
  | superKeyword
  | switchCase
  | switchStatement
  | taggedTemplateExpression
  | templateElement
  | templateLiteral
  | thisExpression
  | throwStatement
  | tryStatement
  | unaryExpression (operator : String)
  | updateExpression (operator : String)
  | variableDeclaration (kind : VariableKind)
  | variableDeclarator
  | whileStatement
  | withStatement
  | yieldExpression
deriving DecidableEq, Repr, Inhabited

/-- The standard name of a kind. -/
def Kind.name : Kind → String
  | .arrayExpression => "ArrayExpression"
  | .arrayPattern => "ArrayPattern"
  | .arrowFunction _ => "ArrowFunctionExpression"
  | .arrowParameters _ => "ArrowParameterPlaceHolder"
  | .assignmentExpression _ => "AssignmentExpression"
  | .assignmentPattern => "AssignmentPattern"
  | .awaitExpression => "AwaitExpression"
  | .binaryExpression _ => "BinaryExpression"
  | .blockStatement => "BlockStatement"
  | .breakStatement => "BreakStatement"
  | .callExpression => "CallExpression"
  | .catchClause => "CatchClause"
  | .classBody => "ClassBody"
  | .classDeclaration => "ClassDeclaration"
  | .classExpression => "ClassExpression"
  | .conditionalExpression => "ConditionalExpression"
  | .continueStatement => "ContinueStatement"
  | .debuggerStatement => "DebuggerStatement"
  | .doWhileStatement => "DoWhileStatement"
  | .emptyStatement => "EmptyStatement"
  | .exportAllDeclaration => "ExportAllDeclaration"
  | .exportDefaultDeclaration => "ExportDefaultDeclaration"
  | .exportDefaultSpecifier => "ExportDefaultSpecifier"
  | .exportNamedDeclaration => "ExportNamedDeclaration"
  | .exportSpecifier => "ExportSpecifier"
  | .expressionStatement => "ExpressionStatement"
  | .forInStatement => "ForInStatement"
  | .forOfStatement => "ForOfStatement"
  | .forStatement => "ForStatement"
  | .functionDeclaration _ => "FunctionDeclaration"
  | .functionExpression _ => "FunctionExpression"
  | .identifier _ => "Identifier"
  | .ifStatement => "IfStatement"
  | .importDeclaration => "ImportDeclaration"
  | .importDefaultSpecifier => "ImportDefaultSpecifier"
  | .importKeyword => "Import"
  | .importNamespaceSpecifier => "ImportNamespaceSpecifier"
  | .importSpecifier => "ImportSpecifier"
  | .labeledStatement => "LabeledStatement"
  | .literal _ => "Literal"
  | .logicalExpression _ => "LogicalExpression"
  | .memberExpression _ => "MemberExpression"
  | .metaProperty => "MetaProperty"
  | .methodDefinition .. => "MethodDefinition"
  | .newExpression => "NewExpression"
  | .objectExpression => "ObjectExpression"
  | .objectPattern => "ObjectPattern"
  | .program => "Program"
  | .property .. => "Property"
  | .restElement => "RestElement"
  | .returnStatement => "ReturnStatement"
  | .sequenceExpression => "SequenceExpression"
  | .spreadElement => "SpreadElement"
  | .superKeyword => "Super"
  | .switchCase => "SwitchCase"
  | .switchStatement => "SwitchStatement"
  | .taggedTemplateExpression => "TaggedTemplateExpression"
  | .templateElement => "TemplateElement"
  | .templateLiteral => "TemplateLiteral"
  | .thisExpression => "ThisExpression"
  | .throwStatement => "ThrowStatement"
  | .tryStatement => "TryStatement"
  | .unaryExpression _ => "UnaryExpression"
  | .updateExpression _ => "UpdateExpression"
  | .variableDeclaration _ => "VariableDeclaration"
  | .variableDeclarator => "VariableDeclarator"
  | .whileStatement => "WhileStatement"
  | .withStatement => "WithStatement"
  | .yieldExpression => "YieldExpression"

/-- Nodes of this kind take a range of characters. -/
def Kind.hasRange : Kind → Bool
  | .arrowParameters _ => false
  | _ => true

/-- A function with its own `this`. -/
def Kind.isPlainFunction : Kind → Bool
  | .functionDeclaration _ | .functionExpression _ => true
  | _ => false

/-- Any function. -/
def Kind.isFunction : Kind → Bool
  | .functionDeclaration _ | .functionExpression _ | .arrowFunction _ => true
  | _ => false

/-- A class. -/
def Kind.isClass : Kind → Bool
  | .classDeclaration | .classExpression => true
  | _ => false

/-- A node of a syntax tree. -/
inductive Node where
  | mk (role : Role) (kind : Kind) (span : Span) (children : List Node)
deriving Repr, Inhabited

namespace Node

/-- The part the node plays in its parent. -/
def role : Node → Role
  | mk r _ _ _ => r

/-- The kind of the node. -/
def kind : Node → Kind
  | mk _ k _ _ => k

/-- The range of the node. -/
def span : Node → Span
  | mk _ _ s _ => s

/-- The children of the node, in source order. -/
def children : Node → List Node
  | mk _ _ _ cs => cs

/-- Where the node starts. -/
def start (n : Node) : Nat := n.span.start

/-- Where the node ends. -/
def stop (n : Node) : Nat := n.span.stop

/-- The node in another role. -/
def withRole (r : Role) : Node → Node
  | mk _ k s cs => mk r k s cs

/-- A node over its children, which are put in the order of their starts. -/
def ofChildren (kind : Kind) (span : Span) (children : List Node) : Node :=
  mk .root kind span (sortBy (fun a b => a.start ≤ b.start) children)

/-- The first child in a role. -/
def child? (n : Node) (r : Role) : Option Node := n.children.find? (·.role == r)

/-- All children in a role. -/
def childrenIn (n : Node) (r : Role) : List Node := n.children.filter (·.role == r)

/-- The name of an identifier. -/
def name? (n : Node) : Option String :=
  match n.kind with
  | .identifier name => some name
  | _ => none

/-- The text of a string literal. -/
def string? (n : Node) : Option String :=
  match n.kind with
  | .literal (.string s) => some s
  | _ => none

/-- The text that the node takes in its source. -/
def text (source : String) (n : Node) : String := Text.slice source n.start n.stop

/-! ## Traversal -/

mutual

/-- The node and its descendants in source order, each with its parent; a node that `enter` refuses
is listed without its descendants. -/
def outline (enter : Node → Bool) (parent : Option Node) : Node → List (Option Node × Node)
  | mk r k s cs =>
    (parent, mk r k s cs) ::
      if enter (mk r k s cs) then outlineAll enter (some (mk r k s cs)) cs else []

/-- The outlines of the children of one node, one after the other. -/
def outlineAll (enter : Node → Bool) (parent : Option Node) :
    List Node → List (Option Node × Node)
  | [] => []
  | n :: ns => outline enter parent n ++ outlineAll enter parent ns

end

/-- The node and all its descendants in source order, each with its parent. -/
def family (n : Node) : List (Option Node × Node) := n.outline (fun _ => true) none

/-- The node and all its descendants in source order. -/
def walk (n : Node) : List Node := n.family.map Prod.snd

end Node

end HtmlModules.Script
