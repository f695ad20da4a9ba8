import HtmlModules.Script.Grammar.Primary

/-!
# Calls, operators and assignments

Chains of binary operators are read as a list of operands and `associate` builds the tree from it by
precedence, equal precedence from the left.
-/

namespace HtmlModules.Script.Grammar

/-! ## Members and calls -/

/-- Arguments in parentheses, each read by `item`. -/
def argumentsWith (self : Rule) (item : Reader Node) : Reader (List Node) := do
  expect "("
  let one := do if ← sees "..." then spreadElement self else isolated item
  let args ← if ← sees ")" then pure []
    else
      let first ← one
      let rest ← collect do
        if ← sees ")" then return none
        else
          expect ","
          if ← sees ")" then return none else return some (← one)
      pure (first :: rest)
  expect ")"
  return args

/-- The arguments of a call. -/
def callArguments (self : Rule) : Reader (List Node) := argumentsWith self (self .assignment)

/-- Arguments that may turn out to be the parameters of an asynchronous arrow function. -/
def asyncArguments (self : Rule) : Reader (List Node) :=
  argumentsWith self do
    let e ← self .assignment
    modifyContext fun c => { c with coverFault := none }
    return e

/-- What was read can be assigned to but not bound. -/
def memberValue : Reader Unit :=
  modifyContext fun c => { c with isAssignmentTarget := true, isBindingElement := false }

/-- Extends an expression by a property or a template, if one follows. -/
def memberStep (self : Rule) (start : Nat) (e : Node) : Reader (Option Node) := do
  if ← sees "." then
    memberValue
    expect "."
    let p ← identifierName
    return some (← finish start (.memberExpression false)
      [e.withRole .object, p.withRole .property])
  else if ← sees "[" then
    memberValue
    expect "["
    let p ← isolated (expression self)
    expect "]"
    return some (← finish start (.memberExpression true) [e.withRole .object, p.withRole .property])
  else if ← seesTemplate then
    let quasi ← templateLiteral self
    return some (← finish start .taggedTemplateExpression
      [e.withRole .tag, quasi.withRole .quasi])
  else return none

/-- `new` with what it makes, or `new.target`. -/
def newExpression (self : Rule) : Reader Node := do
  let start ← here
  let word ← identifierName
  if ← skipIf "." then
    let s ← get
    if s.lookahead.kind == .identifier && s.context.inFunction && s.lookahead.value == "target" then
      let p ← identifierName
      finish start .metaProperty [word.withRole .metaName, p.withRole .property]
    else unexpectedNext
  else if ← seesKeyword "import" then unexpectedNext
  else
    let callee ← isolated (self .callee)
    let args ← if ← sees "(" then callArguments self else pure []
    plainValue
    finish start .newExpression (callee.withRole .callee :: each .argument args)

/-- What a chain of members starts with, `super` apart. -/
def chainHead (self : Rule) : Reader Node := do
  if ← seesKeyword "new" then inherited (newExpression self) else inherited (primary self)

/-- `super`, which one of the given punctuators must follow. -/
def superKeyword (next : List String) : Reader Node := do
  let start ← here
  let _ ← advance
  if !(← seesAny next) then unexpectedNext
  finish start .superKeyword []

/-- What `new` makes. -/
def callee (self : Rule) : Reader Node := do
  let start ← here
  let head ← if (← seesKeyword "super") && (← get).context.inFunction then
      superKeyword ["[", "."]
    else chainHead self
  extend (memberStep self start) head

/-- Extends an expression by a call, if one follows. -/
def callStep (self : Rule) (first : Token) (e : Node) : Reader (Option Node) := do
  if ← sees "(" then
    let s ← get
    let maybeAsync := first.kind == .identifier && first.value == "async" &&
      first.line == s.lookahead.line
    plainValue
    let args ← if maybeAsync then asyncArguments self else callArguments self
    if e.kind == .importKeyword && args.length != 1 then refuseAhead .unexpectedBare
    if maybeAsync && (← sees "=>") then
      return some (arrowParameters (args.map toPattern) true)
    else
      return some (← finish first.start .callExpression
        (e.withRole .callee :: each .argument args))
  else memberStep self first.start e

/-- A chain of members and calls. -/
def call (self : Rule) : Reader Node := do
  let first := (← get).lookahead
  withIn true do
    let head ← if (← seesKeyword "super") && (← get).context.inFunction then
        superKeyword ["(", ".", "["]
      else chainHead self
    extend (callStep self first) head

/-! ## Unary operators -/

/-- Strict code may not write to this expression. -/
def isProtected (strict : Bool) (e : Node) : Bool := strict && (e.name?.map isRestricted).getD false

/-- An expression with `++` or `--` in front of it or behind it, or with none. -/
def update (self : Rule) : Reader Node := do
  let start ← here
  if ← seesAny ["++", "--"] then
    let operator := (← advance).value
    let e ← inherited (self .unary)
    let c := (← get).context
    if isProtected c.strict e then refuseAhead .strictPrefix
    if !c.isAssignmentTarget then refuseAhead .invalidTarget
    let result ← finish start (.updateExpression operator) [e.withRole .argument]
    plainValue
    return result
  else
    let e ← inherited (call self)
    let s ← get
    if !s.lineBreak && (← seesAny ["++", "--"]) then
      if isProtected s.context.strict e then refuseAhead .strictPostfix
      if !s.context.isAssignmentTarget then refuseAhead .invalidTarget
      plainValue
      let operator := (← advance).value
      finish start (.updateExpression operator) [e.withRole .argument]
    else return e

/-- The lookahead is an operator that stands in front of its operand. -/
def seesUnaryOperator : Reader Bool := do
  let t := (← get).lookahead
  match t.kind with
  | .punctuator => return ["+", "-", "~", "!"].contains t.value
  | .keyword => return ["delete", "void", "typeof"].contains t.value
  | _ => return false

/-- An expression with operators in front of it. -/
def unary (self : Rule) : Reader Node := do
  let start ← here
  if ← seesUnaryOperator then
    let operator := (← advance).value
    let e ← inherited (self .unary)
    let result ← finish start (.unaryExpression operator) [e.withRole .argument]
    if (← get).context.strict && operator == "delete" && isName e then refuseAhead .deleteIdentifier
    plainValue
    return result
  else if (← get).context.allowAwait && (← seesWord "await") then
    let _ ← advance
    let e ← self .unary
    finish start .awaitExpression [e.withRole .argument]
  else update self

/-- The expression begins with a unary operator. -/
def isUnary (n : Node) : Bool :=
  match n.kind with
  | .unaryExpression _ => true
  | _ => false

/-! ## Binary operators -/

/-- A node of a binary operator. -/
def binaryKind (operator : String) : Kind :=
  if operator == "||" || operator == "&&" then .logicalExpression operator
  else .binaryExpression operator

/-- A power, which associates to the right. -/
def exponentiation (self : Rule) : Reader Node := do
  let start ← here
  let left ← inherited (self .unary)
  if !isUnary left && (← skipIf "**") then
    plainValue
    let right ← isolated (self .exponentiation)
    finish start (binaryKind "**") [left.withRole .left, right.withRole .right]
  else return left

/-- The precedence of a token as a binary operator, zero if it is none. -/
def precedence (allowIn : Bool) (t : Token) : Nat :=
  match t.kind with
  | .punctuator =>
    match t.value with
    | "||" => 1
    | "&&" => 2
    | "|" => 3
    | "^" => 4
    | "&" => 5
    | "==" | "!=" | "===" | "!==" => 6
    | "<" | ">" | "<=" | ">=" => 7
    | "<<" | ">>" | ">>>" => 8
    | "+" | "-" => 9
    | "*" | "/" | "%" => 11
    | _ => 0
  | .keyword => if t.value == "instanceof" || (allowIn && t.value == "in") then 7 else 0
  | _ => 0

/-- An operand with the range it takes, parentheses included. -/
structure Operand where
  node : Node
  span : Span

/-- Two operands and the operator between them. -/
def Operand.combine (operator : String) (a b : Operand) : Operand :=
  let span : Span := ⟨a.span.start, b.span.stop⟩
  ⟨Node.ofChildren (binaryKind operator) span [a.node.withRole .left, b.node.withRole .right], span⟩

/-- Combines the waiting operands, innermost first, whose operator binds at least as tightly as
`least`. -/
def reduce (least : Nat) : List (Operand × String × Nat) → Operand →
    List (Operand × String × Nat) × Operand
  | [], right => ([], right)
  | (left, operator, p) :: waiting, right =>
    if least ≤ p then reduce least waiting (left.combine operator right)
    else ((left, operator, p) :: waiting, right)

/-- The tree of a chain of operators; `waiting` holds the operands whose operators bind less
tightly than what follows. -/
def associate : List (Operand × String × Nat) → Operand → List (String × Nat × Operand) → Operand
  | waiting, left, [] => (reduce 0 waiting left).2
  | waiting, left, (operator, p, right) :: rest =>
    let (waiting, left) := reduce p waiting left
    associate ((left, operator, p) :: waiting) right rest

/-- Reads an operand. -/
def operand (p : Reader Node) : Reader Operand := do
  let start ← here
  let node ← p
  return ⟨node, ⟨start, (← get).last.offset⟩⟩

/-- The precedence of the lookahead. -/
def seenPrecedence : Reader Nat := do
  let s ← get
  return precedence s.context.allowIn s.lookahead

/-- A chain of binary operators. -/
def binary (self : Rule) : Reader Node := do
  let first ← operand (inherited (exponentiation self))
  let rest ← collect do
    let p ← seenPrecedence
    if p == 0 then return none
    else
      let operator := (← advance).value
      plainValue
      let right ← operand (isolated (self .exponentiation))
      return some (operator, p, right)
  return (associate [] first rest).node

/-- A choice between two expressions, or one expression. -/
def conditional (self : Rule) : Reader Node := do
  let start ← here
  let test ← inherited (binary self)
  if ← skipIf "?" then
    let yes ← withIn true (isolated (self .assignment))
    expect ":"
    let no ← isolated (self .assignment)
    let result ← finish start .conditionalExpression
      [test.withRole .test, yes.withRole .consequent, no.withRole .alternate]
    plainValue
    return result
  else return test

/-! ## Arrow functions -/

/-- `yield` without an operand is a name if it is the default of a parameter. -/
def plainYield : Node → Node
  | .mk .right .yieldExpression s [] => .mk .right (.identifier "yield") s []
  | n => n

/-- The parameter with its default read as one. -/
def plainDefault : Node → Node
  | .mk r .assignmentPattern s cs => .mk r .assignmentPattern s (cs.map plainYield)
  | n => n

/-- The default value of the parameter is a `yield` with an operand. -/
def yieldsDefault (param : Node) : Bool :=
  param.kind == .assignmentPattern &&
    ((param.child? .right).map fun v => v.kind == .yieldExpression && !v.children.isEmpty).getD false

/-- The parameters of an arrow function, if the expression can spell them. -/
def arrowHead (e : Node) : Reader (Option Parameters) := do
  let found := match e.kind with
    | .identifier _ => some ([e], false)
    | .arrowParameters marks => some (e.children, marks.isAsync)
    | _ => none
  match found with
  | none => return none
  | some (params, isAsync) =>
    let strict := (← get).context.strict
    let p ← params.foldlM (fun (p : Parameters) param => do
      if yieldsDefault param then unexpectedNext
      if isAsync && param.name? == some "await" then unexpectedNext
      let param := plainDefault param
      let p := param.patternNames.foldl (fun p name => p.note strict none name) p
      return { p with simple := p.simple && isName param, params := p.params ++ [param] }) {}
    let c := (← get).context
    if (c.strict || !c.allowYield) && p.params.any (·.kind == .yieldExpression) then unexpectedNext
    if p.fault == some .strictDuplicateParameter then refuse .strictDuplicateParameter
    return some p

/-- The rest of an arrow function behind its parameters. -/
def arrowRest (self : Rule) (start : Nat) (isAsync : Bool) (p : Parameters) : Reader Node := do
  if (← get).lineBreak then unexpectedNext
  modifyContext fun c => { c with coverFault := none }
  withStrictness p.simple <| withYield true <| withAwait isAsync do
    expect "=>"
    let body ← if ← sees "\x7b" then withIn true (functionBody self)
      else isolated (self .assignment)
    p.check p.fault
    finish start (.arrowFunction { isAsync }) (functionParts none p.params body)

/-! ## Assignments -/

/-- The operators of assignment. -/
def assignmentOperators : List String :=
  ["=", "*=", "**=", "/=", "%=", "+=", "-=", "<<=", ">>=", ">>>=", "&=", "^=", "|="]

/-- The lookahead can begin an expression. -/
def startsExpression (t : Token) : Bool :=
  match t.kind with
  | .punctuator =>
    ["[", "(", "\x7b", "+", "-", "!", "~", "++", "--", "/", "/="].contains t.value
  | .keyword =>
    ["class", "delete", "function", "let", "new", "super", "this", "typeof", "void",
      "yield"].contains t.value
  | _ => true

/-- `yield` with what it yields. -/
def yieldExpression (self : Rule) : Reader Node := do
  let start ← here
  expectKeyword "yield"
  let s ← get
  let argument ← if s.lineBreak then pure none
    else withYield false do
      if ← skipIf "*" then return some (← self .assignment)
      else if startsExpression s.lookahead then return some (← self .assignment)
      else return none
  finish start .yieldExpression (maybe .argument argument)

/-- Refuses a target that strict code may not assign to. -/
def checkTarget (t : Token) (e : Node) : Reader Unit := do
  if (← get).context.strict then
    if let some name := e.name? then
      if isRestricted name then refuseAt t .strictAssignment
      if isStrictReserved name then refuseAt t .strictReservedWord

/-- An assignment, an arrow function or any expression that binds more tightly. -/
def assignment (self : Rule) : Reader Node := do
  if !(← get).context.allowYield && (← seesKeyword "yield") then yieldExpression self
  else
    let t := (← get).lookahead
    let e ← conditional self
    let next := (← get).lookahead
    let startsAsync := t.kind == .identifier && t.value == "async" && t.line == next.line
    let e ← if startsAsync && (next.kind == .identifier || (← seesKeyword "yield")) then
        let param ← primary self
        pure (arrowParameters [toPattern param] true)
      else pure e
    let (isArrow, isAsync) := match e.kind with
      | .arrowParameters marks => (true, marks.isAsync)
      | _ => (false, false)
    if isArrow || (← sees "=>") then
      plainValue
      match ← arrowHead e with
      | some p => arrowRest self t.start isAsync p
      | none => return e
    else if ← seesAny assignmentOperators then
      if !(← get).context.isAssignmentTarget then refuseAhead .invalidTarget
      checkTarget t e
      let isPlain ← sees "="
      if !isPlain then plainValue
      let operator := (← advance).value
      let right ← isolated (self .assignment)
      let result ← finish t.start (.assignmentExpression operator)
        [(if isPlain then toPattern e else e).withRole .left, right.withRole .right]
      modifyContext fun c => { c with coverFault := none }
      return result
    else return e

end HtmlModules.Script.Grammar
