import HtmlModules.Script.Grammar.Module

/-!
# Programs

`parse` reads a script as a module and, if that fails, as a classic script. A script that is neither
is refused with the fault found in reading it as a module.
-/

namespace HtmlModules.Script

open Grammar

/-- Reads a goal with at most the given number of nested steps. -/
def readGoal : Nat → Goal → Reader Node
  | 0, _ => throw ⟨.tooDeep, none⟩
  | fuel + 1, goal =>
    match goal with
    | .assignment => assignment (readGoal fuel)
    | .unary => unary (readGoal fuel)
    | .exponentiation => exponentiation (readGoal fuel)
    | .call => call (readGoal fuel)
    | .callee => callee (readGoal fuel)
    | .pattern kind => pattern (readGoal fuel) kind
    | .statement => statement (readGoal fuel)
    | .item => item (readGoal fuel)

/-- Reads to the end of the script. -/
def program (self : Rule) : Reader Node := do
  let start ← here
  let first ← directives self
  let rest ← collect do
    if (← get).lookahead.kind == .endOfInput then return none else return some (← self .item)
  finish start .program (each .body (first ++ rest))

/-- The state in front of the first token, which is scanned as sloppy code. In a module `<!--`
begins a comment only before this token. -/
def initialState (source : String) (isModule : Bool) : Except SyntaxError ReadState := do
  let front ← (Cursor.ofText source).trimmed
  let (token, cursor) ← scanToken front
  let front := { front with markupComments := !isModule }
  let cursor := { cursor with markupComments := !isModule }
  return {
    front, cursor, lookahead := token, lineBreak := false, last := markOf cursor
    context := { isModule, strict := isModule }, bound := [] }

/-- Reads a script as a module or as a classic script. -/
def parseAs (isModule : Bool) (source : String) : Except SyntaxError Node := do
  let state ← initialState source isModule
  match program (readGoal (8 * source.length + 16)) state with
  | .ok n _ => .ok n
  | .error e _ => .error e

/-- Reads a script. -/
def parse (source : String) : Except SyntaxError Node :=
  match parseAs true source with
  | .ok n => .ok n
  | .error e =>
    match parseAs false source with
    | .ok n => .ok n
    | .error _ => .error e

end HtmlModules.Script
