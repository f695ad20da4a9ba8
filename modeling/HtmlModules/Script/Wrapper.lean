import HtmlModules.Script.Reference

/-!
# Wrapper functions

Classic scripts are wrapped in functions that are called at once, or once the page is ready, to keep
their names to themselves. `wrappedFunction?` finds the function that such a statement runs.
-/

namespace HtmlModules.Script.Node

/-- The directive that makes code strict. -/
def isUseStrict (n : Node) : Bool :=
  n.kind == .expressionStatement && (n.child? .expression).bind string? == some "use strict"

/-- The statements in the body of a function, none if its body is an expression. -/
def bodyStatements (n : Node) : List Node := ((n.child? .body).map (·.childrenIn .body)).getD []

/-- A function without parameters whose body is a block. -/
def isBareFunction (n : Node) : Bool :=
  n.kind.isFunction && (n.childrenIn .param).isEmpty &&
    (n.child? .body).map kind == some .blockStatement

/-- The receivers that a wrapper may be called with. -/
def isGlobalReceiver (n : Node) : Bool := n.kind == .thisExpression || n.name? == some "window"

/-- The function that is called by `f()`, `f.call(this)` or `f.apply(window)`. -/
def calledFunction? (n : Node) : Option Node :=
  match n.kind, n.child? .callee with
  | .callExpression, some callee =>
    let args := n.childrenIn .argument
    if callee.isBareFunction && args.isEmpty then some callee
    else match callee.kind, callee.child? .object, (callee.child? .property).bind name? with
      | .memberExpression false, some object, some word =>
        if (word == "call" || word == "apply") && object.isBareFunction &&
            args.length ≤ 1 && args.all isGlobalReceiver then some object
        else none
      | _, _, _ => none
  | _, _ => none

/-- The function that is called at once, also behind `!` or `void`. -/
def immediateFunction? (n : Node) : Option Node :=
  match n.kind with
  | .unaryExpression operator =>
    if operator == "!" || operator == "void" then (n.child? .argument).bind calledFunction?
    else n.calledFunction?
  | _ => n.calledFunction?

/-- The events that tell that the page is ready. -/
def readyEvents : List String := ["WebComponentsReady", "HTMLImportsLoaded"]

/-- The function that is called once the page is ready. -/
def readyFunction? (n : Node) : Option Node :=
  match n.kind, n.child? .callee with
  | .callExpression, some callee =>
    match callee.path?, n.childrenIn .argument with
    | some ["HTMLImports", "whenReady"], [f] => if f.isBareFunction then some f else none
    | some path, [event, f] =>
      if (path == ["addEventListener"] || path == ["document", "addEventListener"]) &&
          (event.string?.map readyEvents.contains).getD false && f.isBareFunction then some f
      else none
    | _, _ => none
  | _, _ => none

/-- The function that a wrapper statement runs. -/
def wrappedFunction? (n : Node) : Option Node :=
  match n.kind, n.child? .expression with
  | .expressionStatement, some e => e.immediateFunction? <|> e.readyFunction?
  | _, _ => none

/-- The body of the function returns. -/
def hasReturn (f : Node) : Bool :=
  (outlineAll (fun m => !(m.kind.isFunction || m.kind.isClass)) none f.bodyStatements).any
    fun (_, m) => m.kind == .returnStatement

/-- The body of the function reads its arguments as a whole. -/
def usesArguments (f : Node) : Bool :=
  (outlineAll (fun m => !m.kind.isPlainFunction) none f.bodyStatements).any
    fun (_, m) => m.name? == some "arguments"

end HtmlModules.Script.Node
