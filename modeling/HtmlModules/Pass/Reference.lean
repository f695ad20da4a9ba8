import HtmlModules.Identifier
import HtmlModules.Pass.Basic
import HtmlModules.Script.Reference

/-!
# References to other modules

Every place at which the program reads what another module exports is replaced by a placeholder.
Of a chain of properties the longest part that is known decides. An assignment to an export becomes
a call of its setter, if there is one.
-/

namespace HtmlModules.Pass

open Text Script

/-! ## Resolution of paths -/

/-- What a path stands for. -/
inductive Resolution where
  /-- The module's own export, or a path that is excluded or replaced. -/
  | ours
  /-- The first segments of the path are an export of another module. -/
  | exported (record : ExportRecord) (length : Nat)
  /-- No part of the path is known. -/
  | unknown
deriving DecidableEq, Repr

/-- What the first segments of a path stand for, of which at most `length` are tried. -/
def Context.resolve (c : Context) (path : List String) : Nat → Resolution
  | 0 => .unknown
  | length + 1 =>
    let name := join "." (path.take (length + 1))
    if c.settings.isRedirected name then .ours
    else match c.registry.lookup name with
      | none => c.resolve path length
      | some record =>
        if record.module == c.moduleUrl then .ours else .exported record (length + 1)

/-- The record of the function that sets a path, if another module has it. -/
def Context.setter? (c : Context) (path : List String) : Option ExportRecord :=
  ((Identifier.setterPath path).bind c.registry.lookup).filter (·.module != c.moduleUrl)

/-! ## Places of references -/

/-- A place at which a path is referred to. -/
structure Site where
  parent : Option Node
  node : Node
  path : List String

namespace Site

/-- The path is written to. -/
def isAssigned (s : Site) : Bool := s.node.isAssigned s.parent

/-- The path that a node refers to, if it is a chain or an identifier that stands for a binding. -/
def of? (parent : Option Node) (n : Node) : Option Site :=
  match n.kind with
  | .memberExpression _ => (n.memberPath?.filter (·.head? != some "this")).map (⟨parent, n, ·⟩)
  | .identifier name =>
    if name != "window" && n.isReference parent then some ⟨parent, n, [name]⟩ else none
  | _ => none

end Site

/-- What is inside the node can hold references of its own. -/
def holdsReferences (n : Node) : Bool :=
  match n.memberPath? with
  | some path => path.head? == some "this"
  | none => true

/-- All places of references, in source order. -/
def referenceSites (program : Node) : List Site :=
  (program.outline holdsReferences none).filterMap fun (parent, n) => Site.of? parent n

/-! ## Replacing -/

/-- The two edits that turn an assignment into a call of its setter. -/
def setterEdits (assignment value : Node) (placeholder : String) : List Edit :=
  [.replace assignment.start value.start (placeholder ++ "("),
    .replace value.stop assignment.stop ")"]

/-- Replaces an assignment to an export by a call of its setter, or reports that there is none. -/
def setExport (source : String) (s : Site) : Step (List Edit) := do
  let assignment := s.parent.bind fun p => p.plainAssignment?.map fun (_, value) => (p, value)
  match assignment, (← read).setter? s.path with
  | some (p, value), some setter => return setterEdits p value (← placeholderFor setter)
  | _, _ =>
    warn "W0302"
      ("assignment to \x60" ++ join "." s.path ++
        "\x60, which is exported by another module and has no setter")
      "imported bindings are read-only; export a setter function next to the binding"
      (s.parent.map (·.text source))
    return []

/-- Replaces what a path begins with by the placeholder of an export. -/
def useExport (s : Site) (record : ExportRecord) (length : Nat) : Step (List Edit) := do
  let target := s.node.chainBase (s.path.length - length)
  return [.replace target.start target.stop (← placeholderFor record)]

/-- The path begins with the name of a tracked namespace. -/
def Context.isTracked (c : Context) (path : List String) : Bool :=
  path.head?.any c.settings.roots.contains

/-- Reports a path of a tracked namespace that nothing exports. -/
def warnUnresolved (source : String) (s : Site) : Step Unit :=
  warn "W0301" ("unresolved reference to \x60" ++ join "." s.path ++ "\x60")
    "the namespace member is not exported by any converted document"
    (s.node.text source)

/-- The edits for one place. -/
def collectSite (source : String) (s : Site) : Step (List Edit) := do
  let c ← read
  match c.resolve s.path s.path.length with
  | .ours => return []
  | .exported record length =>
    if s.isAssigned && length == s.path.length then setExport source s
    else useExport s record length
  | .unknown =>
    if c.isTracked s.path && !s.isAssigned then warnUnresolved source s
    return []

/-- Replaces references to other modules by placeholders. -/
def collectReferences (source : String) : Step String := do
  let program ← readProgram source
  let edits ← (referenceSites program).mapM (collectSite source)
  edit source edits.flatten

end HtmlModules.Pass
