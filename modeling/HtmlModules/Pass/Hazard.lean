import HtmlModules.Pass.Basic
import HtmlModules.Script.Reference

/-!
# Hazards

Some expressions mean something else in a module. They are reported and left alone.
-/

namespace HtmlModules.Pass

open Text Script

/-- Paths that mean something else in a module, with what to say about them. -/
def hazards : Table String :=
  [("document.currentScript", "document.currentScript is always \x60null\x60 in an ES6 module.")]

/-- What to say about a node. -/
def hazard? (n : Node) : Option String :=
  n.memberPath?.bind fun path => Table.get? hazards (join "." path)

/-- Reports a node if there is something to say about it. -/
def warnHazard (source : String) (n : Node) : Step Unit :=
  match hazard? n with
  | some message => warn "W0401" message none (n.text source)
  | none => return ()

/-- Reports what means something else in a module. -/
def reportHazards (source : String) : Step String := do
  (← readProgram source).walk.forM (warnHazard source)
  return source

end HtmlModules.Pass
