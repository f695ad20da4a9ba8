import HtmlModules.Script.Grammar.Pattern

/-!
# Functions and classes

A list of parameters is judged twice: when it is read, and again when the body turns out to be
strict. `Parameters` keeps the offenders for the second time.
-/

namespace HtmlModules.Script.Grammar

/-! ## Parameters -/

/-- The parameters read so far. An offender is the token to blame, or no token where the list was
read as an expression. -/
structure Parameters where
  /-- All parameters are plain names. -/
  simple : Bool := true
  params : List Node := []
  /-- Offends in strict code. -/
  offender : Option (Option Token) := none
  /-- Offends once the code turns out to be strict. -/
  restricted : Option (Option Token) := none
  fault : Option Fault := none
  names : List String := []

/-- Takes note of a bound name. -/
def Parameters.note (strict : Bool) (p : Parameters) (t : Option Token) (name : String) :
    Parameters :=
  let repeated := p.names.contains name
  let judged :=
    if strict then
      let p := if isRestricted name then
        { p with offender := some t, fault := some .strictParameterName } else p
      if repeated then { p with offender := some t, fault := some .strictDuplicateParameter } else p
    else if p.restricted.isNone then
      if isRestricted name then
        { p with restricted := some t, fault := some .strictParameterName }
      else if isStrictReserved name then
        { p with restricted := some t, fault := some .strictReservedWord }
      else if repeated then
        { p with offender := some t, fault := some .strictDuplicateParameter }
      else p
    else p
  { judged with names := name :: judged.names }

/-- Refuses what offends in strict code. -/
def Parameters.check (p : Parameters) (fault : Option Fault) : Reader Unit := do
  if (← get).context.strict then
    let fault := fault.getD .illegalToken
    if let some t := p.restricted then refuseAt? t fault
    if let some t := p.offender then refuseAt? t fault

/-- The node is a plain name. -/
def isName (n : Node) : Bool := n.name?.isSome

/-- One parameter. -/
def formalParameter (self : Rule) (p : Parameters) : Reader Parameters := do
  let (param, names) ← binding do
    if ← sees "..." then restParameter self else patternWithDefault self none
  let strict := (← get).context.strict
  let p := names.foldl (fun p t => p.note strict (some t) t.value) p
  return { p with simple := p.simple && isName param, params := p.params ++ [param] }

/-- A list of parameters; `restricted` is the name of the function if it offends in strict code. -/
def formalParameters (self : Rule) (restricted : Option Token := none) : Reader Parameters := do
  let start : Parameters := { restricted := restricted.map some }
  expect "("
  let p ← if ← sees ")" then pure start
    else
      let p ← formalParameter self start
      extend (fun p => do
        if ← sees ")" then return none
        else
          expect ","
          if ← sees ")" then return none
          else return some (← formalParameter self p)) p
  expect ")"
  return p

/-! ## Bodies -/

/-- A string token that is written without escapes as `use strict`. -/
def isStrictDirective (t : Token) : Bool := t.value == "use strict" && t.stop == t.start + 12

/-- A statement that may be a directive, with the token it starts with; whether it is one. -/
def directive (self : Rule) : Reader (Node × Token × Bool) := do
  let t := (← get).lookahead
  let e ← expression self
  let isDirective := e.string?.isSome && t.stop > t.start + 2
  consumeSemicolon
  return (← finish t.start .expressionStatement [e.withRole .expression], t, isDirective)

/-- Takes note of a directive: `use strict` makes the code strict. An octal escape in an earlier
directive is refused then. -/
def noteDirective (earlier : Option Token) (t : Token) : Reader (Option Token) := do
  if isStrictDirective t then
    modifyContext fun c => { c with strict := true }
    if let some o := earlier then refuseAt o .strictOctal
    if !(← get).context.allowStrictDirective then refuseAt t .strictDirectiveForbidden
    return earlier
  else return earlier <|> if t.octal then some t else none

/-- The directives at the beginning of a body. -/
def directives (self : Rule) : Reader (List Node) := do
  let (done, _, _) ← extend (fun (done, earlier, more) => do
    if !more || (← get).lookahead.kind != .string then return none
    else
      let (statement, t, isDirective) ← directive self
      let earlier ← if isDirective then noteDirective earlier t else pure earlier
      return some (done ++ [statement], earlier, isDirective)) (([] : List Node), none, true)
  return done

/-- The body of a function in braces. -/
def functionBody (self : Rule) : Reader Node := do
  let start ← here
  expect "\x7b"
  let first ← directives self
  let rest ← within
    (fun c => { c with labels := [], inIteration := false, inSwitch := false, inFunction := true })
    (fun old new => { new with
      labels := old.labels, inIteration := old.inIteration, inSwitch := old.inSwitch,
      inFunction := old.inFunction })
    (do
      let rest ← collect do
        if (← get).lookahead.kind == .endOfInput || (← sees "\x7d") then return none
        else return some (← self .item)
      expect "\x7d"
      return rest)
  finish start .blockStatement (each .body (first ++ rest))

/-- Runs `p` in the strictness of its own. -/
def withStrictness (simple : Bool) (p : Reader α) : Reader α :=
  within (fun c => { c with allowStrictDirective := simple })
    (fun old new => { new with
      strict := old.strict, allowStrictDirective := old.allowStrictDirective }) p

/-- The body of a method. -/
def methodBody (self : Rule) (p : Parameters) : Reader Node := do
  plainValue
  withStrictness p.simple do
    let body ← isolated (functionBody self)
    p.check p.fault
    return body

/-- The children of a function. -/
def functionParts (id : Option Node) (params : List Node) (body : Node) : List Node :=
  maybe .id id ++ each .param params ++ [body.withRole .body]

/-- The function of a plain method. -/
def methodFunction (self : Rule) : Reader Node := do
  let start ← here
  let (params, body) ← withYield true do
    let p ← formalParameters self
    return (p.params, ← methodBody self p)
  finish start (.functionExpression {}) (functionParts none params body)

/-- The function of an asynchronous method. -/
def asyncMethodFunction (self : Rule) : Reader Node := do
  let start ← here
  let (params, body) ← withYield false <| withAwait true do
    let p ← formalParameters self
    return (p.params, ← methodBody self p)
  finish start (.functionExpression { isAsync := true }) (functionParts none params body)

/-- The function of a generator method. -/
def generatorMethodFunction (self : Rule) : Reader Node := do
  let start ← here
  let (params, body) ← withYield true do
    let p ← formalParameters self
    modifyContext fun c => { c with allowYield := false }
    return (p.params, ← methodBody self p)
  finish start (.functionExpression { isGenerator := true }) (functionParts none params body)

/-- The function of a getter. -/
def getterFunction (self : Rule) : Reader Node := do
  let start ← here
  let (params, body) ← withYield true do
    let p ← formalParameters self
    if !p.params.isEmpty then refuseAhead .badGetterArity
    return (p.params, ← methodBody self p)
  finish start (.functionExpression {}) (functionParts none params body)

/-- The function of a setter. -/
def setterFunction (self : Rule) : Reader Node := do
  let start ← here
  let (params, body) ← withYield true do
    let p ← formalParameters self
    match p.params with
    | [param] => if param.kind == .restElement then refuseAhead .badSetterRest
    | _ => refuseAhead .badSetterArity
    return (p.params, ← methodBody self p)
  finish start (.functionExpression {}) (functionParts none params body)

/-! ## Functions -/

/-- Judges the name of a function: an offender for when the code is strict. -/
def functionName (t : Token) : Reader (Option (Token × Fault)) := do
  if (← get).context.strict then
    if isRestricted t.value then refuseAt t .strictFunctionName
    return none
  else if isRestricted t.value then return some (t, .strictFunctionName)
  else if isStrictReserved t.value then return some (t, .strictReservedWord)
  else return none

/-- Parameters and body of a function whose name may offend in strict code. -/
def functionRest (self : Rule) (offence : Option (Token × Fault)) : Reader (List Node × Node) := do
  let p ← formalParameters self (offence.map Prod.fst)
  let body ← withStrictness p.simple do
    let body ← functionBody self
    p.check (p.fault <|> offence.map Prod.snd)
    return body
  return (p.params, body)

/-- The words in front of the name of a function. -/
def functionMarks : Reader FunctionMarks := do
  let isAsync ← seesWord "async"
  if isAsync then
    let _ ← advance
  expectKeyword "function"
  let isGenerator ← if isAsync then pure false else skipIf "*"
  return { isAsync, isGenerator }

/-- A function as a declaration; `anonymous` tells that the name may be missing. -/
def functionDeclaration (self : Rule) (anonymous : Bool := false) : Reader Node := do
  let start ← here
  let marks ← functionMarks
  let (id, offence) ← if anonymous && (← sees "(") then pure (none, none)
    else
      let t := (← get).lookahead
      let id ← variableName none
      pure (some id, ← functionName t)
  let (params, body) ← withAwait marks.isAsync <| withYield (!marks.isGenerator) <|
    functionRest self offence
  finish start (.functionDeclaration marks) (functionParts id params body)

/-- A function as an expression. -/
def functionExpression (self : Rule) : Reader Node := do
  let start ← here
  let marks ← functionMarks
  let (id, params, body) ← withAwait marks.isAsync <| withYield (!marks.isGenerator) do
    let (id, offence) ← if ← sees "(" then pure (none, none)
      else
        let t := (← get).lookahead
        let plain := !(← get).context.strict && !marks.isGenerator && (← seesKeyword "yield")
        let id ← if plain then identifierName else variableName none
        pure (some id, ← functionName t)
    let (params, body) ← functionRest self offence
    return (id, params, body)
  finish start (.functionExpression marks) (functionParts id params body)

/-! ## Classes -/

/-- The key is this word or string. -/
def isKey (key : Node) (word : String) : Bool := key.name? == some word || key.string? == some word

/-- What is known of a class element in front of its parentheses. -/
structure ElementHead where
  token : Token
  key : Option Node := none
  computed : Bool := false
  isStatic : Bool := false
  isAsync : Bool := false

/-- The words in front of a class element. -/
def elementHead (self : Rule) : Reader ElementHead := do
  let first := (← get).lookahead
  if ← skipIf "*" then return { token := first }
  else
    let computed ← sees "["
    let key ← propertyKey self
    let next := (← get).lookahead
    let star ← sees "*"
    let head ← if key.name? == some "static" && (startsKey next || star) then
        let computed ← sees "["
        let key ← if ← skipIf "*" then pure key else propertyKey self
        pure { token := next, key := some key, computed, isStatic := true : ElementHead }
      else pure { token := first, key := some key, computed }
    let s ← get
    if head.token.kind == .identifier && !s.lineBreak && head.token.value == "async" &&
        !([":", "(", "*"].contains s.lookahead.value) then
      let t := s.lookahead
      let key ← propertyKey self
      if t.kind == .identifier && t.value == "constructor" then refuseAt t .asyncConstructor
      return { head with token := t, key := some key, isAsync := true }
    else return head

/-- The kind, key and function of a class element; whether the key is computed and whether the
element is a method. -/
def elementBody (self : Rule) (h : ElementHead) :
    Reader (PropertyKind × Node × Node × Bool × Bool) := do
  let keyed := startsKey (← get).lookahead
  let accessor := h.token.kind == .identifier && keyed
  if accessor && h.token.value == "get" then
    let computed ← sees "["
    let key ← propertyKey self
    modifyContext fun c => { c with allowYield := false }
    return (.get, key, ← getterFunction self, computed, false)
  else if accessor && h.token.value == "set" then
    let computed ← sees "["
    let key ← propertyKey self
    return (.set, key, ← setterFunction self, computed, false)
  else if h.token.kind == .punctuator && h.token.value == "*" && keyed then
    let computed ← sees "["
    let key ← propertyKey self
    return (.method, key, ← generatorMethodFunction self, computed, true)
  else match h.key with
    | some key =>
      if ← sees "(" then
        let value ← if h.isAsync then asyncMethodFunction self else methodFunction self
        return (.method, key, value, h.computed, true)
      else unexpectedNext
    | none => unexpectedNext

/-- The function is a generator. -/
def isGenerator (n : Node) : Bool :=
  match n.kind with
  | .functionExpression marks => marks.isGenerator
  | _ => false

/-- One element of a class, and whether the class has a constructor by now. -/
def classElement (self : Rule) (hasConstructor : Bool) : Reader (Node × Bool) := do
  let start ← here
  let h ← elementHead self
  let (kind, key, value, computed, method) ← elementBody self h
  let done := fun kind => finish start (.methodDefinition kind computed h.isStatic)
    [key.withRole .key, value.withRole .value]
  if computed then return (← done kind, hasConstructor)
  else
    if h.isStatic && isKey key "prototype" then refuseAt h.token .staticPrototype
    if !h.isStatic && isKey key "constructor" then
      if kind != .method || !method || isGenerator value then
        refuseAt h.token .classConstructorAccessor
      if hasConstructor then refuseAt h.token .duplicateConstructor
      return (← done .constructor, true)
    else return (← done kind, hasConstructor)

/-- The elements of a class in braces. -/
def classBody (self : Rule) : Reader Node := do
  let start ← here
  expect "\x7b"
  let (elements, _) ← extend (fun (elements, hasConstructor) => do
    if ← sees "\x7d" then return none
    else if ← skipIf ";" then return some (elements, hasConstructor)
    else
      let (element, hasConstructor) ← classElement self hasConstructor
      return some (elements ++ [element], hasConstructor)) (([] : List Node), false)
  expect "\x7d"
  finish start .classBody (each .body elements)

/-- A class; `name` reads its name, if it has one. -/
def classWith (self : Rule) (kind : Kind) (name : Reader (Option Node)) : Reader Node := do
  let start ← here
  let parts ← within (fun c => { c with strict := true })
    (fun old new => { new with strict := old.strict })
    (do
      expectKeyword "class"
      let id ← name
      let superClass ← if ← seesKeyword "extends" then
          let _ ← advance
          pure (some (← isolated (self .call)))
        else pure none
      let body ← classBody self
      return maybe .id id ++ maybe .superClass superClass ++ [body.withRole .body])
  finish start kind parts

/-- The lookahead is a word that is not reserved. -/
def seesIdentifier : Reader Bool := return (← get).lookahead.kind == .identifier

/-- A class as a declaration; `anonymous` tells that the name may be missing. -/
def classDeclaration (self : Rule) (anonymous : Bool := false) : Reader Node :=
  classWith self .classDeclaration do
    if anonymous && !(← seesIdentifier) then return none else return some (← variableName none)

/-- A class as an expression. -/
def classExpression (self : Rule) : Reader Node :=
  classWith self .classExpression do
    if ← seesIdentifier then return some (← variableName none) else return none

end HtmlModules.Script.Grammar
