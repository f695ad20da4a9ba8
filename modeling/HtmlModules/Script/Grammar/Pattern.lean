import HtmlModules.Script.Grammar.Basic
import HtmlModules.Script.Binding

/-!
# Patterns

Patterns are read as such in declarations and parameters; elsewhere an expression is read first and
`toPattern` turns it into the pattern it spells.
-/

namespace HtmlModules.Script.Grammar

/-! ## Expressions as patterns -/

mutual

/-- The pattern that an expression spells. -/
def toPattern : Node → Node
  | .mk r k s cs =>
    match k with
    | .spreadElement => .mk r .restElement s (toPatternsIn .argument cs)
    | .arrayExpression => .mk r .arrayPattern s (toPatternsIn .element cs)
    | .objectExpression => .mk r .objectPattern s (toPatternsIn .property cs)
    | .property .. => .mk r k s (toPatternsIn .value cs)
    | .assignmentExpression _ => .mk r .assignmentPattern s (toPatternsIn .left cs)
    | _ => .mk r k s cs

/-- The children with those in a role as patterns. -/
def toPatternsIn (role : Role) : List Node → List Node
  | [] => []
  | n :: ns => (if n.role == role then toPattern n else n) :: toPatternsIn role ns

end

/-! ## Reading patterns -/

/-- A token may begin the key of a property. -/
def startsKey (t : Token) : Bool :=
  match t.kind with
  | .identifier | .string | .boolean | .null | .number | .keyword => true
  | .punctuator => t.value == "["
  | _ => false

/-- The key of a property: a word, a string, a number or an expression in brackets. -/
def propertyKey (self : Rule) : Reader Node := do
  let start ← here
  let t ← advance
  match t.kind with
  | .string | .number =>
    if (← get).context.strict && t.octal then refuseAt t .strictOctal
    finish start (literalOf t) []
  | .identifier | .boolean | .null | .keyword => finish start (.identifier t.value) []
  | .punctuator =>
    if t.value == "[" then
      let key ← isolated (self .assignment)
      expect "]"
      return key
    else unexpected t
  | _ => unexpected t

/-- A property over its key and value. -/
def property (start : Nat) (kind : PropertyKind) (computed method shorthand : Bool)
    (key value : Node) : Reader Node :=
  finish start (.property kind computed method shorthand) [key.withRole .key, value.withRole .value]

/-- A pattern that may have a default. -/
def patternWithDefault (self : Rule) (kind : Option VariableKind) : Reader Node := do
  let start ← here
  let target ← self (.pattern kind)
  if ← skipIf "=" then
    let value ← withYield true (isolated (self .assignment))
    finish start .assignmentPattern [target.withRole .left, value.withRole .right]
  else return target

/-- The elements of an array pattern; none may follow a rest. -/
def arrayPattern (self : Rule) (kind : Option VariableKind) : Reader Node := do
  let start ← here
  expect "["
  let elements ← collect do
    if ← sees "]" then return none
    else if ← skipIf "," then return some []
    else
      let restStart ← here
      if ← skipIf "..." then
        let target ← self (.pattern kind)
        let rest ← finish restStart .restElement [target.withRole .argument]
        if !(← sees "]") then expect "]"
        return some [rest]
      else
        let element ← patternWithDefault self kind
        if !(← sees "]") then expect ","
        return some [element]
  expect "]"
  finish start .arrayPattern (each .element elements.flatten)

/-- A property of an object pattern. -/
def propertyPattern (self : Rule) (kind : Option VariableKind) : Reader Node := do
  let start ← here
  let t := (← get).lookahead
  if t.kind == .identifier then
    let key ← variableName none
    let target ← finish start (.identifier t.value) []
    if ← sees "=" then
      noteBound t
      let _ ← advance
      let value ← self .assignment
      let whole ← finish start .assignmentPattern [target.withRole .left, value.withRole .right]
      property start .init false false true key whole
    else if ← skipIf ":" then
      property start .init false false false key (← patternWithDefault self kind)
    else
      noteBound t
      property start .init false false true key target
  else
    let computed ← sees "["
    let key ← propertyKey self
    expect ":"
    property start .init computed false false key (← patternWithDefault self kind)

/-- The rest of an object pattern. -/
def restProperty (self : Rule) : Reader Node := do
  let start ← here
  expect "..."
  let target ← self (.pattern none)
  if ← sees "=" then refuse (.unexpected "=")
  if !(← sees "\x7d") then refuse .unexpectedBare
  finish start .restElement [target.withRole .argument]

/-- The properties of an object pattern. -/
def objectPattern (self : Rule) (kind : Option VariableKind) : Reader Node := do
  let start ← here
  expect "\x7b"
  let properties ← collect do
    if ← sees "\x7d" then return none
    else
      let p ← if ← sees "..." then restProperty self else propertyPattern self kind
      if !(← sees "\x7d") then expect ","
      return some p
  expect "\x7d"
  finish start .objectPattern (each .property properties)

/-- A pattern. -/
def pattern (self : Rule) (kind : Option VariableKind) : Reader Node := do
  if ← sees "[" then arrayPattern self kind
  else if ← sees "\x7b" then objectPattern self kind
  else
    let t := (← get).lookahead
    if (← seesKeyword "let") && (kind == some .const || kind == some .letBinding) then
      refuseAt t .letAsName
    noteBound t
    variableName kind

/-- The rest of a list of parameters, which must be the last of them. -/
def restParameter (self : Rule) : Reader Node := do
  let start ← here
  expect "..."
  let target ← self (.pattern none)
  if ← sees "=" then refuse (.unexpected "=")
  if !(← sees ")") then refuse .restNotLast
  finish start .restElement [target.withRole .argument]

end HtmlModules.Script.Grammar
