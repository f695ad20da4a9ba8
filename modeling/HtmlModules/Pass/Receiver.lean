import HtmlModules.Pass.Basic
import HtmlModules.Script.Wrapper

/-!
# `this` in functions of a namespace

A function that was a member of a namespace object reaches its siblings through `this`. Where it
names one of them, `this` becomes the namespace.
-/

namespace HtmlModules.Pass

open Text Script

/-- The function that a statement declares, also one that it exports. -/
def declaredFunction? (statement : Node) : Option (String × Node) :=
  let function := match statement.kind with
    | .exportNamedDeclaration => (statement.child? .declaration).getD statement
    | _ => statement
  match function.kind with
  | .functionDeclaration _ => ((function.child? .id).bind (·.name?)).map (·, function)
  | _ => none

/-- The functions of a program that were members of namespaces: the namespace, the name and the
function. -/
def namespaceFunctionsIn (functions : Table String) (program : Node) :
    List (String × String × Node) :=
  (statements program).filterMap fun s => do
    let (name, function) ← declaredFunction? s
    return (← Table.get? functions name, name, function)

/-- Every `this` of a function, with the node around it. -/
def receivers (function : Node) : List (Option Node × Node) :=
  (Node.outlineAll Node.sharesThis none function.bodyStatements).filter fun (_, n) =>
    n.kind == .thisExpression

/-- The member that is taken from `this`. -/
def receiverMember? (parent : Option Node) (n : Node) : Option String :=
  match parent with
  | none => none
  | some p =>
    if p.kind == .memberExpression false && n.role == .object
    then (p.child? .property).bind (·.name?) else none

/-- The edit for one `this`; it is reported if it names no member of the namespace. -/
def receiverEdit (source space name : String) (receiver : Option Node × Node) :
    Step (List Edit) := do
  let (parent, n) := receiver
  let known := (← get).localNames
  if (receiverMember? parent n).any fun member => Table.has known (space ++ "." ++ member) then
    return [.replace n.start n.stop space]
  else
    warn "W0303" (s!"\x60this\x60 in {space}.{name} does not name a member of {space} " ++
      "and was left as is") none ((parent.getD n).text source)
    return []

/-- The edits for every `this` of one function. -/
def functionReceiverEdits (source : String) (f : String × String × Node) : Step (List Edit) := do
  return (← (receivers f.2.2).mapM (receiverEdit source f.1 f.2.1)).flatten

/-- Names the namespace where `this` does. -/
def namespaceThis (source : String) : Step String := do
  let functions := (← get).namespaceFunctions
  if functions.isEmpty then return source
  let program ← readProgram source
  let edits ← (namespaceFunctionsIn functions program).mapM (functionReceiverEdits source)
  edit source edits.flatten

end HtmlModules.Pass
