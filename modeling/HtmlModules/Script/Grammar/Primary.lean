import HtmlModules.Script.Grammar.Function
import HtmlModules.Script.Regex

/-!
# Primary expressions

Literals, templates, arrays, objects, functions, classes and what stands in parentheses. A
parenthesised list in front of an arrow is kept as `Kind.arrowParameters` until the arrow is read.
-/

namespace HtmlModules.Script.Grammar

/-! ## Templates -/

/-- One part of a template. -/
def templatePart : Reader (Node × Bool) := do
  let start ← here
  let t ← advance
  return (← finish start .templateElement [], t.tail)

/-- A template. -/
def templateLiteral (self : Rule) : Reader Node := do
  let start ← here
  if !(← get).lookahead.head then throw ⟨.templateHeadExpected, none⟩
  let (head, closed) ← templatePart
  let (parts, _) ← extend (fun (parts, closed) => do
    if closed then return none
    else
      let e ← expression self
      if (← get).lookahead.kind != .template then refuse .illegalToken
      let (part, closed) ← templatePart
      return some (parts ++ [e.withRole .expression, part.withRole .quasi], closed))
    ([head.withRole .quasi], closed)
  finish start .templateLiteral parts

/-- The lookahead begins a template. -/
def seesTemplate : Reader Bool := do
  let t := (← get).lookahead
  return t.kind == .template && t.head

/-! ## Arrays and objects -/

/-- Three dots and an expression. -/
def spreadElement (self : Rule) : Reader Node := do
  let start ← here
  expect "..."
  let e ← inherited (self .assignment)
  finish start .spreadElement [e.withRole .argument]

/-- An array. -/
def arrayLiteral (self : Rule) : Reader Node := do
  let start ← here
  expect "["
  let elements ← collect do
    if ← sees "]" then return none
    else if ← skipIf "," then return some []
    else if ← sees "..." then
      let e ← spreadElement self
      if !(← sees "]") then
        plainValue
        expect ","
      return some [e]
    else
      let e ← inherited (self .assignment)
      if !(← sees "]") then expect ","
      return some [e]
  expect "]"
  finish start .arrayExpression (each .element elements.flatten)

/-- A property of which the key has been read and that is not an accessor: its value, a method or a
shorthand. Tells whether the object has a prototype by now. -/
def propertyRest (self : Rule) (start : Nat) (t : Token) (key : Node) (computed isAsync : Bool)
    (hasProto : Bool) : Reader (Node × Bool) := do
  if (← sees ":") && !isAsync then
    let proto := !computed && isKey key "__proto__"
    if proto && hasProto then refuseAhead .duplicateProto
    let _ ← advance
    let value ← inherited (self .assignment)
    return (← property start .init computed false false key value, hasProto || proto)
  else if ← sees "(" then
    let value ← if isAsync then asyncMethodFunction self else methodFunction self
    return (← property start .init computed true false key value, hasProto)
  else if t.kind == .identifier then
    let id ← finish start (.identifier t.value) []
    let equals := (← get).lookahead
    if ← sees "=" then
      modifyContext fun c => { c with coverFault := some equals }
      let _ ← advance
      let value ← isolated (self .assignment)
      let whole ← finish start .assignmentPattern [id.withRole .left, value.withRole .right]
      return (← property start .init computed false true key whole, hasProto)
    else return (← property start .init computed false true key id, hasProto)
  else unexpected (← advance)

/-- A property of an object, and whether the object has a prototype by now. -/
def objectProperty (self : Rule) (hasProto : Bool) : Reader (Node × Bool) := do
  let start ← here
  let t := (← get).lookahead
  let (key, computed, isAsync) ←
    if t.kind == .identifier then
      let _ ← advance
      let computed ← sees "["
      let isAsync := !(← get).lineBreak && t.value == "async" &&
        !(← seesAny [":", "(", "*", ","])
      let key ← if isAsync then propertyKey self else finish start (.identifier t.value) []
      pure (some key, computed, isAsync)
    else if ← skipIf "*" then pure (none, false, false)
    else
      let computed ← sees "["
      pure (some (← propertyKey self), computed, false)
  let keyed := startsKey (← get).lookahead
  let accessor := t.kind == .identifier && !isAsync && keyed
  if accessor && t.value == "get" then
    let computed ← sees "["
    let key ← propertyKey self
    modifyContext fun c => { c with allowYield := false }
    let value ← getterFunction self
    return (← property start .get computed false false key value, hasProto)
  else if accessor && t.value == "set" then
    let computed ← sees "["
    let key ← propertyKey self
    let value ← setterFunction self
    return (← property start .set computed false false key value, hasProto)
  else if t.kind == .punctuator && t.value == "*" && keyed then
    let computed ← sees "["
    let key ← propertyKey self
    let value ← generatorMethodFunction self
    return (← property start .init computed true false key value, hasProto)
  else match key with
    | none => unexpectedNext
    | some key => propertyRest self start t key computed isAsync hasProto

/-- An object. -/
def objectLiteral (self : Rule) : Reader Node := do
  let start ← here
  expect "\x7b"
  let (properties, _) ← extend (fun (properties, hasProto) => do
    if ← sees "\x7d" then return none
    else
      let (p, hasProto) ← if ← sees "..." then pure (← spreadElement self, hasProto)
        else objectProperty self hasProto
      if !(← sees "\x7d") then expect ","
      return some (properties ++ [p], hasProto)) (([] : List Node), false)
  expect "\x7d"
  finish start .objectExpression (each .property properties)

/-! ## Parentheses -/

/-- Parameters in front of an arrow. -/
def arrowParameters (params : List Node) (isAsync : Bool := false) : Node :=
  Node.ofChildren (.arrowParameters { isAsync }) ⟨0, 0⟩ (each .param params)

/-- Refuses what is not an arrow. -/
def requireArrow : Reader Unit := do if !(← sees "=>") then expect "=>"

/-- A closing parenthesis behind one expression or several; an arrow behind it makes them
parameters. -/
def closeGroup (e : Node) : Reader Node := do
  expect ")"
  let result ← if ← sees "=>" then
      if e.name? == some "yield" then pure (arrowParameters [e])
      else
        if !(← get).context.isBindingElement then unexpectedNext
        if e.kind == .sequenceExpression then pure (arrowParameters (e.children.map toPattern))
        else pure (arrowParameters [toPattern e])
    else pure e
  modifyContext fun c => { c with isBindingElement := false }
  return result

/-- What follows the first of several expressions in parentheses: the list, with the node it makes
if it turned out to be one of parameters. -/
def groupRest (self : Rule) (first : Node) : Reader (List Node × Option Node) :=
  extend (fun (es, closed) => do
    if closed.isSome then return none
    else if !(← skipIf ",") then return none
    else if ← skipIf ")" then return some (es, some (arrowParameters (es.map toPattern)))
    else if ← sees "..." then
      if !(← get).context.isBindingElement then unexpectedNext
      let (rest, _) ← binding (restParameter self)
      expect ")"
      requireArrow
      modifyContext fun c => { c with isBindingElement := false }
      return some (es, some (arrowParameters ((es ++ [rest]).map toPattern)))
    else return some (es ++ [← inherited (self .assignment)], none)) ([first], none)

/-- What stands in parentheses. -/
def group (self : Rule) : Reader Node := do
  expect "("
  if ← skipIf ")" then
    requireArrow
    return arrowParameters []
  else if ← sees "..." then
    let (rest, _) ← binding (restParameter self)
    expect ")"
    requireArrow
    return arrowParameters [rest]
  else
    let inner ← here
    modifyContext fun c => { c with isBindingElement := true }
    let first ← inherited (self .assignment)
    if ← sees "," then
      modifyContext fun c => { c with isAssignmentTarget := false }
      let (es, closed) ← groupRest self first
      match closed with
      | some params => return params
      | none => closeGroup (← finish inner .sequenceExpression (each .expression es))
    else closeGroup first

/-! ## Primary expressions -/

/-- A regular expression; the lookahead is its first slash. -/
def regexLiteral : Reader Node := do
  plainValue
  let s ← get
  let (t, cursor) ← scanned (scanRegex Regex.isWellFormed s.front)
  set { s with cursor, lookahead := t }
  let _ ← advance
  finish s.front.offset (literalOf t) []

/-- An expression that begins with a keyword. -/
def keywordExpression (self : Rule) : Reader Node := do
  let start ← here
  let c := (← get).context
  if !c.strict && c.allowYield && (← seesKeyword "yield") then identifierName
  else if !c.strict && (← seesKeyword "let") then
    let t ← advance
    finish start (.identifier t.value) []
  else
    plainValue
    if ← seesKeyword "function" then functionExpression self
    else if ← seesKeyword "this" then
      let _ ← advance
      finish start .thisExpression []
    else if ← seesKeyword "class" then classExpression self
    else if ← seesImportCall then
      let _ ← advance
      finish start .importKeyword []
    else unexpected (← advance)

/-- A primary expression. -/
def primary (self : Rule) : Reader Node := do
  let start ← here
  let s ← get
  let t := s.lookahead
  match t.kind with
  | .identifier =>
    if (s.context.isModule || s.context.allowAwait) && t.value == "await" then unexpected t
    if ← seesAsyncFunction then functionExpression self
    else
      let _ ← advance
      finish start (.identifier t.value) []
  | .number | .string =>
    if s.context.strict && t.octal then refuseAt t .strictOctal
    plainValue
    let _ ← advance
    finish start (literalOf t) []
  | .boolean | .null =>
    plainValue
    let _ ← advance
    finish start (literalOf t) []
  | .template => templateLiteral self
  | .punctuator =>
    if t.value == "(" then
      modifyContext fun c => { c with isBindingElement := false }
      inherited (group self)
    else if t.value == "[" then inherited (arrayLiteral self)
    else if t.value == "\x7b" then inherited (objectLiteral self)
    else if t.value == "/" || t.value == "/=" then regexLiteral
    else unexpected (← advance)
  | .keyword => keywordExpression self
  | _ => unexpected (← advance)

end HtmlModules.Script.Grammar
