import HtmlModules.Pass.Basic
import HtmlModules.Script.Reference

/-!
# The global `this`

A classic script runs with `this` bound to the window, a module does not. Every `this` outside
functions with a `this` of their own becomes `window`.
-/

namespace HtmlModules.Pass

open Text Script

/-- The edit that names the window, if the node is `this`. -/
def windowEdit? (n : Node) : Option Edit :=
  if n.kind == .thisExpression then some (.replace n.start n.stop "window") else none

/-- The edits for every `this` that is the window. -/
def globalThisEdits (program : Node) : List Edit :=
  (program.outline Node.sharesThis none).filterMap fun (_, n) => windowEdit? n

/-- Names the window where `this` does. -/
def globalThis (source : String) : Step String := do
  edit source (globalThisEdits (← readProgram source))

end HtmlModules.Pass
