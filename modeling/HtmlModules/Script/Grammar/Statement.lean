import HtmlModules.Script.Grammar.Operator

/-!
# Statements

Declarations of variables, control flow and labels. A statement that is not told apart by its first
word is an expression, or a label if a colon follows.
-/

namespace HtmlModules.Script.Grammar

/-! ## Variables -/

/-- Refuses names that strict code may not bind. -/
def checkBound (target : Node) (fault : Fault) : Reader Unit := do
  if isProtected (← get).context.strict target then refuseAhead fault

/-- A declarator over its parts. -/
def declarator (start : Nat) (target : Node) (value : Option Node) : Reader Node :=
  finish start .variableDeclarator (target.withRole .id :: maybe .initial value)

/-- A name or pattern declared by `var`, with its value. -/
def varDeclarator (self : Rule) (inFor : Bool) : Reader Node := do
  let start ← here
  let (target, _) ← binding (self (.pattern (some .var)))
  checkBound target .strictVariableName
  if ← skipIf "=" then declarator start target (some (← isolated (self .assignment)))
  else
    if !isName target && !inFor then expect "="
    declarator start target none

/-- A name or pattern declared by `let` or `const`, with its value. -/
def lexicalDeclarator (self : Rule) (kind : VariableKind) (inFor : Bool) : Reader Node := do
  let start ← here
  let (target, _) ← binding (self (.pattern (some kind)))
  checkBound target .strictVariableName
  if kind == .const then
    if (← seesKeyword "in") || (← seesWord "of") then declarator start target none
    else if ← skipIf "=" then declarator start target (some (← isolated (self .assignment)))
    else refuse (.missingInitializer "const")
  else if (!inFor && !isName target) || (← sees "=") then
    expect "="
    declarator start target (some (← isolated (self .assignment)))
  else declarator start target none

/-- One or more of what `item` reads, with commas between them. -/
def commaList (item : Reader Node) : Reader (List Node) := do
  let first ← item
  let rest ← collect do if ← skipIf "," then return some (← item) else return none
  return first :: rest

/-- A declaration over its declarators. -/
def variableDeclaration (start : Nat) (kind : VariableKind) (declarators : List Node) :
    Reader Node :=
  finish start (.variableDeclaration kind) (each .declaration declarators)

/-- A `var` statement. -/
def varStatement (self : Rule) : Reader Node := do
  let start ← here
  expectKeyword "var"
  let declarators ← commaList (varDeclarator self false)
  consumeSemicolon
  variableDeclaration start .var declarators

/-- The kind of declaration that a keyword begins. -/
def lexicalKind (t : Token) : VariableKind := if t.value == "const" then .const else .letBinding

/-- A `let` or `const` statement. -/
def lexicalDeclaration (self : Rule) : Reader Node := do
  let start ← here
  let kind := lexicalKind (← advance)
  let declarators ← commaList (lexicalDeclarator self kind false)
  consumeSemicolon
  variableDeclaration start kind declarators

/-- `let` is followed by what it can declare. -/
def seesLexicalDeclaration : Reader Bool := do
  let next ← peek
  return match next.kind with
    | .identifier => true
    | .punctuator => next.value == "[" || next.value == "\x7b"
    | .keyword => next.value == "let" || next.value == "yield"
    | _ => false

/-! ## Blocks and branches -/

/-- Statements in braces. -/
def block (self : Rule) : Reader Node := do
  let start ← here
  expect "\x7b"
  let statements ← collect do
    if ← sees "\x7d" then return none else return some (← self .item)
  expect "\x7d"
  finish start .blockStatement (each .body statements)

/-- An expression in parentheses. -/
def condition (self : Rule) : Reader Node := do
  expect "("
  let e ← expression self
  expect ")"
  return e

/-- A branch of an `if`. -/
def ifBranch (self : Rule) : Reader Node := do
  if (← get).context.strict && (← seesKeyword "function") then refuseAhead .strictNestedFunction
  self .statement

/-- An `if` statement. -/
def ifStatement (self : Rule) : Reader Node := do
  let start ← here
  expectKeyword "if"
  let test ← condition self
  let yes ← ifBranch self
  let no ← if ← seesKeyword "else" then
      let _ ← advance
      pure (some (← ifBranch self))
    else pure none
  finish start .ifStatement
    (test.withRole .test :: yes.withRole .consequent :: maybe .alternate no)

/-- A clause of a `switch`, and whether it is the default. -/
def switchClause (self : Rule) : Reader (Node × Bool) := do
  let start ← here
  let isDefault ← seesKeyword "default"
  let test ← if isDefault then
      let _ ← advance
      pure none
    else
      expectKeyword "case"
      pure (some (← expression self))
  expect ":"
  let statements ← collect do
    if (← sees "\x7d") || (← seesKeyword "default") || (← seesKeyword "case") then return none
    else return some (← self .item)
  return (← finish start .switchCase (maybe .test test ++ each .consequent statements), isDefault)

/-- A `switch` statement. -/
def switchStatement (self : Rule) : Reader Node := do
  let start ← here
  expectKeyword "switch"
  let discriminant ← condition self
  let clauses ← within (fun c => { c with inSwitch := true })
    (fun old new => { new with inSwitch := old.inSwitch })
    (do
      expect "\x7b"
      let (clauses, _) ← extend (fun (clauses, hasDefault) => do
        if ← sees "\x7d" then return none
        else
          let (clause, isDefault) ← switchClause self
          if isDefault && hasDefault then refuse .multipleDefaults
          return some (clauses ++ [clause], hasDefault || isDefault)) (([] : List Node), false)
      expect "\x7d"
      return clauses)
  finish start .switchStatement (discriminant.withRole .discriminant :: each .clause clauses)

/-! ## Loops -/

/-- A `do` loop. -/
def doStatement (self : Rule) : Reader Node := do
  let start ← here
  expectKeyword "do"
  let body ← withIteration (self .statement)
  expectKeyword "while"
  let test ← condition self
  let _ ← skipIf ";"
  finish start .doWhileStatement [body.withRole .body, test.withRole .test]

/-- A `while` loop. -/
def whileStatement (self : Rule) : Reader Node := do
  let start ← here
  expectKeyword "while"
  let test ← condition self
  let body ← withIteration (self .statement)
  finish start .whileStatement [test.withRole .test, body.withRole .body]

/-- What stands in the parentheses of a `for`: what it runs over, or what it starts with. -/
inductive ForHead where
  | over (kind : Kind) (left right : Node)
  | from (initial : Option Node)

/-- Over the keys of an object. -/
def overKeys (self : Rule) (left : Node) : Reader ForHead := do
  let _ ← advance
  return .over .forInStatement left (← expression self)

/-- Over the values of a sequence. -/
def overValues (self : Rule) (left : Node) : Reader ForHead := do
  let _ ← advance
  return .over .forOfStatement left (← self .assignment)

/-- The declarator has a value. -/
def hasValue (d : Node) : Bool := (d.child? .initial).isSome

/-- A `for` that declares by `var`. -/
def forVar (self : Rule) : Reader ForHead := do
  let start ← here
  let _ ← advance
  let declarators ← withIn false (commaList (varDeclarator self true))
  let declared := variableDeclaration start .var declarators
  match declarators with
  | [d] =>
    if ← seesKeyword "in" then
      let plain := ((d.child? .id).map isName).getD false
      if hasValue d && (!plain || (← get).context.strict) then refuseAhead (.loopInitializer "for-in")
      overKeys self (← declared)
    else if !hasValue d && (← seesWord "of") then overValues self (← declared)
    else
      let n ← declared
      expect ";"
      return .from (some n)
  | _ =>
    let n ← declared
    expect ";"
    return .from (some n)

/-- A `for` that declares by `let` or `const`. -/
def forLexical (self : Rule) : Reader ForHead := do
  let start ← here
  let word ← advance
  let kind := lexicalKind word
  let s ← get
  if !s.context.strict && s.lookahead.value == "in" then
    overKeys self (← finish start (.identifier word.value) [])
  else
    let declarators ← withIn false (commaList (lexicalDeclarator self kind true))
    let single := match declarators with
      | [d] => !hasValue d
      | _ => false
    if single && (← seesKeyword "in") then
      overKeys self (← variableDeclaration start kind declarators)
    else if single && (← seesWord "of") then
      overValues self (← variableDeclaration start kind declarators)
    else
      consumeSemicolon
      return .from (some (← variableDeclaration start kind declarators))

/-- The node is an assignment. -/
def isAssignment (n : Node) : Bool :=
  match n.kind with
  | .assignmentExpression _ => true
  | _ => false

/-- A `for` that starts with an expression. -/
def forExpression (self : Rule) : Reader ForHead := do
  let start ← here
  let e ← withIn false (inherited (self .assignment))
  let bad := !(← get).context.isAssignmentTarget || isAssignment e
  if ← seesKeyword "in" then
    if bad then refuseAhead .invalidTargetForIn
    overKeys self (toPattern e)
  else if ← seesWord "of" then
    if bad then refuseAhead .invalidTargetForLoop
    overValues self (toPattern e)
  else
    let e ← if ← sees "," then
        let rest ← collect do
          if ← skipIf "," then return some (← isolated (self .assignment)) else return none
        finish start .sequenceExpression (each .expression (e :: rest))
      else pure e
    expect ";"
    return .from (some e)

/-- A `for` loop. -/
def forStatement (self : Rule) : Reader Node := do
  let start ← here
  expectKeyword "for"
  expect "("
  let head ← if ← skipIf ";" then pure (.from none)
    else if ← seesKeyword "var" then forVar self
    else if (← seesKeyword "const") || (← seesKeyword "let") then forLexical self
    else forExpression self
  let (kind, parts) ← match head with
    | .over kind left right => pure (kind, [left.withRole .left, right.withRole .right])
    | .from first =>
      let test ← if ← sees ";" then pure none else pure (some (← expression self))
      expect ";"
      let step ← if ← sees ")" then pure none else pure (some (← expression self))
      pure (.forStatement, maybe .initial first ++ maybe .test test ++ maybe .update step)
  expect ")"
  let body ← withIteration (isolated (self .statement))
  finish start kind (parts ++ [body.withRole .body])

/-! ## Jumps -/

/-- The label behind `break` or `continue`, if there is one. -/
def jumpLabel : Reader (Option Node) := do
  let s ← get
  if s.lookahead.kind == .identifier && !s.lineBreak then
    let label ← variableName none
    let name := label.name?.getD ""
    if !s.context.labels.contains name then refuse (.unknownLabel name)
    return some label
  else return none

/-- A `continue` statement. -/
def continueStatement : Reader Node := do
  let start ← here
  expectKeyword "continue"
  let label ← jumpLabel
  consumeSemicolon
  if label.isNone && !(← get).context.inIteration then refuse .badContinue
  finish start .continueStatement (maybe .label label)

/-- A `break` statement. -/
def breakStatement : Reader Node := do
  let start ← here
  expectKeyword "break"
  let label ← jumpLabel
  consumeSemicolon
  let c := (← get).context
  if label.isNone && !c.inIteration && !c.inSwitch then refuse .badBreak
  finish start .breakStatement (maybe .label label)

/-- A `return` statement. -/
def returnStatement (self : Rule) : Reader Node := do
  if !(← get).context.inFunction then refuseAhead .badReturn
  let start ← here
  expectKeyword "return"
  let s ← get
  let ends := (← sees ";") || (← sees "\x7d") || s.lineBreak || s.lookahead.kind == .endOfInput
  let hasValue := !ends || s.lookahead.kind == .string || s.lookahead.kind == .template
  let value ← if hasValue then pure (some (← expression self)) else pure none
  consumeSemicolon
  finish start .returnStatement (maybe .argument value)

/-- A `throw` statement. -/
def throwStatement (self : Rule) : Reader Node := do
  let start ← here
  expectKeyword "throw"
  if (← get).lineBreak then refuse .newlineAfterThrow
  let e ← expression self
  consumeSemicolon
  finish start .throwStatement [e.withRole .argument]

/-! ## Other statements -/

/-- The first name that occurs among those before it or in `seen`. -/
def firstRepeated (seen : List String) : List String → Option String
  | [] => none
  | name :: names => if seen.contains name then some name else firstRepeated (name :: seen) names

/-- The clause that catches. -/
def catchClause (self : Rule) : Reader Node := do
  let start ← here
  expectKeyword "catch"
  expect "("
  if ← sees ")" then unexpectedNext
  let (param, names) ← binding (self (.pattern none))
  if let some name := firstRepeated [] (names.map (·.value)) then
    refuseAhead (.duplicateBinding name)
  checkBound param .strictCatchName
  expect ")"
  let body ← block self
  finish start .catchClause [param.withRole .param, body.withRole .body]

/-- A `try` statement. -/
def tryStatement (self : Rule) : Reader Node := do
  let start ← here
  expectKeyword "try"
  let body ← block self
  let handler ← if ← seesKeyword "catch" then pure (some (← catchClause self)) else pure none
  let finalizer ← if ← seesKeyword "finally" then
      let _ ← advance
      pure (some (← block self))
    else pure none
  if handler.isNone && finalizer.isNone then refuse .missingCatch
  finish start .tryStatement
    (body.withRole .block :: maybe .handler handler ++ maybe .finalizer finalizer)

/-- A `with` statement. -/
def withStatement (self : Rule) : Reader Node := do
  if (← get).context.strict then refuseAhead .strictWith
  let start ← here
  expectKeyword "with"
  let e ← condition self
  let body ← self .statement
  finish start .withStatement [e.withRole .object, body.withRole .body]

/-- A `debugger` statement. -/
def debuggerStatement : Reader Node := do
  let start ← here
  expectKeyword "debugger"
  consumeSemicolon
  finish start .debuggerStatement []

/-- An expression as a statement. -/
def expressionStatement (self : Rule) : Reader Node := do
  let start ← here
  let e ← expression self
  consumeSemicolon
  finish start .expressionStatement [e.withRole .expression]

/-- The statement behind a label. -/
def labeledBody (self : Rule) : Reader Node := do
  if ← seesKeyword "class" then unexpectedNext
  else if ← seesKeyword "function" then
    let t := (← get).lookahead
    let f ← functionDeclaration self
    if (← get).context.strict then refuseAt t .strictNestedFunction
    else match f.kind with
      | .functionDeclaration marks =>
        if marks.isGenerator then refuseAt t .generatorInLegacyContext
      | _ => pure ()
    return f
  else self .statement

/-- A statement that begins with a name: a label or an expression. -/
def labeledStatement (self : Rule) : Reader Node := do
  let start ← here
  let e ← expression self
  match e.name? with
  | some name =>
    if ← skipIf ":" then
      if (← get).context.labels.contains name then refuse (.labelRedeclared name)
      modifyContext fun c => { c with labels := name :: c.labels }
      let body ← labeledBody self
      modifyContext fun c => { c with labels := c.labels.erase name }
      finish start .labeledStatement [e.withRole .label, body.withRole .body]
    else
      consumeSemicolon
      finish start .expressionStatement [e.withRole .expression]
  | none =>
    consumeSemicolon
    finish start .expressionStatement [e.withRole .expression]

/-- A statement that begins with a keyword. -/
def keywordStatement (self : Rule) (word : String) : Reader Node :=
  match word with
  | "break" => breakStatement
  | "continue" => continueStatement
  | "debugger" => debuggerStatement
  | "do" => doStatement self
  | "for" => forStatement self
  | "function" => functionDeclaration self
  | "if" => ifStatement self
  | "return" => returnStatement self
  | "switch" => switchStatement self
  | "throw" => throwStatement self
  | "try" => tryStatement self
  | "var" => varStatement self
  | "while" => whileStatement self
  | "with" => withStatement self
  | _ => expressionStatement self

/-- A statement. -/
def statement (self : Rule) : Reader Node := do
  let start ← here
  let t := (← get).lookahead
  match t.kind with
  | .punctuator =>
    if t.value == "\x7b" then block self
    else if ← skipIf ";" then finish start .emptyStatement []
    else expressionStatement self
  | .identifier =>
    if ← seesAsyncFunction then functionDeclaration self else labeledStatement self
  | .keyword => keywordStatement self t.value
  | .endOfInput => unexpected t
  | _ => expressionStatement self

end HtmlModules.Script.Grammar
