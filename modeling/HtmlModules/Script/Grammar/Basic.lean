import HtmlModules.Script.Lexer
import HtmlModules.Script.Node

/-!
# Reading by the grammar

A `Reader` is a computation over a `ReadState`: one token of lookahead, the place behind the last
token that was consumed, and the context that decides which words are reserved and which
constructs are allowed. It ends with a result or with the first fault of the script.

The grammar is recursive, so its rules are written against a `Rule`, which reads any of the
recursive `Goal`s; the knot is tied once, by a count of the steps that may be nested.

An expression is often read before it is known to be a pattern. `isolated` reads one that must be an
expression, `inherited` one that may still become a pattern.
-/

namespace HtmlModules.Script.Grammar

/-! ## State -/

/-- A place between two tokens. -/
structure Mark where
  offset : Nat
  line : Nat
  lineStart : Nat
deriving Inhabited

/-- The place where a cursor stands. -/
def markOf (c : Cursor) : Mark := ⟨c.offset, c.line, c.lineStart⟩

/-- What the surroundings of the next token allow. -/
structure Context where
  isModule : Bool := false
  strict : Bool := false
  allowAwait : Bool := false
  allowIn : Bool := true
  allowYield : Bool := true
  allowStrictDirective : Bool := true
  isAssignmentTarget : Bool := false
  isBindingElement : Bool := false
  /-- An initial value in an object that has yet to turn out to be a pattern. -/
  coverFault : Option Token := none
  inFunction : Bool := false
  inIteration : Bool := false
  inSwitch : Bool := false
  labels : List String := []
deriving Inhabited

/-- The state of reading. -/
structure ReadState where
  /-- In front of the lookahead. -/
  front : Cursor
  /-- Behind the lookahead. -/
  cursor : Cursor
  lookahead : Token
  /-- The lookahead is on another line than the token before it. -/
  lineBreak : Bool
  /-- Behind the last token. -/
  last : Mark
  context : Context
  /-- The names bound by the pattern being read, the latest first. -/
  bound : List Token
deriving Inhabited

/-- A computation that reads tokens. -/
abbrev Reader := EStateM SyntaxError ReadState

/-- What the rules of the grammar call each other for. -/
inductive Goal where
  | assignment
  | unary
  | exponentiation
  | call
  | callee
  | pattern (kind : Option VariableKind)
  | statement
  | item
deriving DecidableEq, Repr

/-- Reads a goal. -/
abbrev Rule := Goal → Reader Node

/-! ## Faults -/

/-- Refuses the script behind the last token. -/
def refuse (fault : Fault) : Reader α := do
  let m := (← get).last
  throw ⟨fault, some (m.line, (m.offset : Int) - m.lineStart + 1)⟩

/-- Refuses the script behind the last token for something that a lenient reader would let pass.
The line is the one that scanning has reached, the column is that of the last token. -/
def refuseAhead (fault : Fault) : Reader α := do
  let s ← get
  throw ⟨fault, some (s.cursor.line, (s.last.offset : Int) - s.last.lineStart + 1)⟩

/-- Refuses the script at a token. The column counts from the line of the last token. -/
def refuseAt (t : Token) (fault : Fault) : Reader α := do
  let m := (← get).last
  throw ⟨fault, some (t.line, (t.start : Int) - m.lineStart + 1)⟩

/-- Refuses the script at a token, or behind the last one if none is given. -/
def refuseAt? (t : Option Token) (fault : Fault) : Reader α :=
  match t with
  | some t => refuseAt t fault
  | none => refuse fault

/-- How a token that does not fit is described. -/
def unexpectedFault (strict : Bool) (t : Token) : Fault :=
  match t.kind with
  | .endOfInput => .unexpectedEnd
  | .identifier => .unexpectedIdentifier
  | .number => .unexpectedNumber
  | .string => .unexpectedString
  | .template => .unexpectedTemplate t.value
  | .keyword =>
    if isFutureReserved t.value then .reservedWord
    else if strict && isStrictReserved t.value then .strictReservedWord
    else .unexpected t.value
  | _ => .unexpected t.value

/-- Refuses a token that does not fit. -/
def unexpected (t : Token) : Reader α := do
  refuseAt t (unexpectedFault (← get).context.strict t)

/-- Refuses the lookahead. -/
def unexpectedNext : Reader α := do unexpected (← get).lookahead

/-! ## Tokens -/

/-- The result of scanning, or its fault. -/
def scanned (r : Except SyntaxError α) : Reader α :=
  match r with
  | .ok a => pure a
  | .error e => throw e

/-- Consumes the lookahead and scans the token behind it. -/
def advance : Reader Token := do
  let s ← get
  let front ← scanned s.cursor.trimmed
  let (next, cursor) ← scanned (scanToken front)
  let reserved := s.context.strict && next.kind == .identifier && isStrictReserved next.value
  let next := if reserved then { next with kind := .keyword } else next
  set { s with
    front, cursor, lookahead := next, lineBreak := s.lookahead.line != next.line,
    last := markOf s.cursor }
  return s.lookahead

/-- The token behind the lookahead, which is not consumed. The braces it opens or closes stay
counted. -/
def peek : Reader Token := do
  let s ← get
  let (next, cursor) ← scanned (nextToken s.cursor)
  set { s with cursor := { s.cursor with braces := cursor.braces } }
  return next

/-- The lookahead is this punctuator. -/
def sees (p : String) : Reader Bool := do
  let t := (← get).lookahead
  return t.kind == .punctuator && t.value == p

/-- The lookahead is this keyword. -/
def seesKeyword (w : String) : Reader Bool := do
  let t := (← get).lookahead
  return t.kind == .keyword && t.value == w

/-- The lookahead is this word, which is not reserved. -/
def seesWord (w : String) : Reader Bool := do
  let t := (← get).lookahead
  return t.kind == .identifier && t.value == w

/-- The lookahead is one of these punctuators. -/
def seesAny (ps : List String) : Reader Bool := do
  let t := (← get).lookahead
  return t.kind == .punctuator && ps.contains t.value

/-- Consumes this punctuator. -/
def expect (p : String) : Reader Unit := do
  let t ← advance
  if t.kind != .punctuator || t.value != p then unexpected t

/-- Consumes this keyword. -/
def expectKeyword (w : String) : Reader Unit := do
  let t ← advance
  if t.kind != .keyword || t.value != w then unexpected t

/-- Consumes the lookahead if it is this punctuator, and tells whether it was. -/
def skipIf (p : String) : Reader Bool := do
  if ← sees p then
    let _ ← advance
    return true
  else return false

/-- `async` is followed by `function` on the same line. -/
def seesAsyncFunction : Reader Bool := do
  if ← seesWord "async" then
    let line := (← get).cursor.line
    let next ← peek
    return next.line == line && next.kind == .keyword && next.value == "function"
  else return false

/-- `import` is followed by a parenthesis. -/
def seesImportCall : Reader Bool := do
  if ← seesKeyword "import" then
    let next ← peek
    return next.kind == .punctuator && next.value == "("
  else return false

/-! ## Repetition -/

/-- Runs `step` until it yields nothing, at most `fuel` times, and lists what it yields. -/
def collectWith (step : Reader (Option α)) : Nat → Reader (List α)
  | 0 => throw ⟨.tooDeep, none⟩
  | fuel + 1 => do
    match ← step with
    | none => return []
    | some a => return a :: (← collectWith step fuel)

/-- Runs `step`, which consumes a token each time, until it yields nothing, and lists what it
yields. -/
def collect (step : Reader (Option α)) : Reader (List α) := do
  collectWith step ((← get).cursor.rest.length + 2)

/-- Extends `a` by `step` until it yields nothing, at most `fuel` times. -/
def extendWith (step : α → Reader (Option α)) : Nat → α → Reader α
  | 0, _ => throw ⟨.tooDeep, none⟩
  | fuel + 1, a => do
    match ← step a with
    | none => return a
    | some b => extendWith step fuel b

/-- Extends `a` by `step`, which consumes a token each time, until it yields nothing. -/
def extend (step : α → Reader (Option α)) (a : α) : Reader α := do
  extendWith step ((← get).cursor.rest.length + 2) a

/-! ## Context -/

/-- Changes the context. -/
def modifyContext (f : Context → Context) : Reader Unit :=
  modify fun s => { s with context := f s.context }

/-- Runs `p` in a changed context; `leave old new` is the context afterwards. -/
def within (enter : Context → Context) (leave : Context → Context → Context) (p : Reader α) :
    Reader α := do
  let old := (← get).context
  modifyContext enter
  let a ← p
  modifyContext (leave old)
  return a

/-- What was read can be neither assigned to nor bound. -/
def plainValue : Reader Unit :=
  modifyContext fun c => { c with isAssignmentTarget := false, isBindingElement := false }

/-- Nothing is known yet about the expression that follows. -/
def Context.uncovered (c : Context) : Context :=
  { c with isAssignmentTarget := true, isBindingElement := true, coverFault := none }

/-- Reads what must be an expression. -/
def isolated (p : Reader α) : Reader α :=
  within Context.uncovered
    (fun old new => { new with
      isAssignmentTarget := old.isAssignmentTarget, isBindingElement := old.isBindingElement,
      coverFault := old.coverFault })
    (do
      let a ← p
      if let some t := (← get).context.coverFault then unexpected t
      return a)

/-- Reads what may still become a pattern. -/
def inherited (p : Reader α) : Reader α :=
  within Context.uncovered
    (fun old new => { new with
      isAssignmentTarget := new.isAssignmentTarget && old.isAssignmentTarget,
      isBindingElement := new.isBindingElement && old.isBindingElement,
      coverFault := old.coverFault <|> new.coverFault })
    p

/-- Runs `p` with `in` as an operator or not. -/
def withIn (allowed : Bool) (p : Reader α) : Reader α :=
  within (fun c => { c with allowIn := allowed })
    (fun old new => { new with allowIn := old.allowIn }) p

/-- Runs `p` with `yield` as a name or not. -/
def withYield (allowed : Bool) (p : Reader α) : Reader α :=
  within (fun c => { c with allowYield := allowed })
    (fun old new => { new with allowYield := old.allowYield }) p

/-- Runs `p` with `await` as an operator or not. -/
def withAwait (allowed : Bool) (p : Reader α) : Reader α :=
  within (fun c => { c with allowAwait := allowed })
    (fun old new => { new with allowAwait := old.allowAwait }) p

/-- Runs `p` inside a loop. -/
def withIteration (p : Reader α) : Reader α :=
  within (fun c => { c with inIteration := true })
    (fun old new => { new with inIteration := old.inIteration }) p

/-- Runs `p` and gives the names that it binds, in order. -/
def binding (p : Reader α) : Reader (α × List Token) := do
  let old := (← get).bound
  modify fun s => { s with bound := [] }
  let a ← p
  let names := (← get).bound.reverse
  modify fun s => { s with bound := old }
  return (a, names)

/-- Notes a name that a pattern binds. -/
def noteBound (t : Token) : Reader Unit := modify fun s => { s with bound := t :: s.bound }

/-! ## Nodes -/

/-- Where the lookahead starts. -/
def here : Reader Nat := return (← get).lookahead.start

/-- A node from `start` up to the end of the last token. -/
def finish (start : Nat) (kind : Kind) (children : List Node) : Reader Node := do
  return Node.ofChildren kind ⟨start, (← get).last.offset⟩ children

/-- A node in a list if there is one. -/
def maybe (r : Role) (n : Option Node) : List Node := (n.map (·.withRole r)).toList

/-- The nodes in a role. -/
def each (r : Role) (ns : List Node) : List Node := ns.map (·.withRole r)

/-- Ends a statement: by a semicolon, or in front of a brace, a line break or the end. -/
def consumeSemicolon : Reader Unit := do
  if ← skipIf ";" then return
  let s ← get
  if !s.lineBreak then
    if s.lookahead.kind != .endOfInput && !(← sees "\x7d") then unexpectedNext
    set { s with last := markOf s.front }

/-- Any word, reserved or not. -/
def isWord (t : Token) : Bool := [.identifier, .keyword, .boolean, .null].contains t.kind

/-- Reads any word as a name. -/
def identifierName : Reader Node := do
  let start ← here
  let t ← advance
  if !isWord t then unexpected t
  finish start (.identifier t.value) []

/-- Reads a name that may be bound. -/
def variableName (kind : Option VariableKind) : Reader Node := do
  let start ← here
  let t ← advance
  let c := (← get).context
  if t.kind == .keyword && t.value == "yield" then
    if c.strict then refuseAt t .strictReservedWord
    else if !c.allowYield then unexpected t
  else if t.kind != .identifier then
    if c.strict && t.kind == .keyword && isStrictReserved t.value then
      refuseAt t .strictReservedWord
    else if c.strict || t.value != "let" || kind != some .var then unexpected t
  else if (c.isModule || c.allowAwait) && t.value == "await" then unexpected t
  finish start (.identifier t.value) []

/-- The literal of a string or number token. -/
def literalOf (t : Token) : Kind :=
  .literal (match t.kind with
    | .string => .string t.value
    | .number => .number
    | .boolean => .boolean
    | .regex => .regex
    | _ => .null)

/-- Reads expressions separated by commas. -/
def expression (self : Rule) : Reader Node := do
  let start ← here
  let first ← isolated (self .assignment)
  if ← sees "," then
    let rest ← collect do
      if ← skipIf "," then return some (← isolated (self .assignment)) else return none
    finish start .sequenceExpression (each .expression (first :: rest))
  else return first

end HtmlModules.Script.Grammar
