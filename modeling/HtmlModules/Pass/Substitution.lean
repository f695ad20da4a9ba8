import HtmlModules.Pass.Basic
import HtmlModules.Script.Reference

/-!
# Substitution of paths

Paths for which the settings have a replacement are replaced, excluded paths become `undefined`
unless they are written to, and paths that the module itself exports become its local names. Of a
chain of properties the longest part that has a substitute is replaced.
-/

namespace HtmlModules.Pass

open Text Script

/-- What a path is replaced by. -/
def substitute? (s : Settings) (localNames : Table String) (assigned : Bool) (path : String) :
    Option String :=
  match Table.get? s.referenceReplacements path with
  | some text => some text
  | none =>
    if s.referenceExcludes.contains path then (if assigned then none else some "undefined")
    else Table.get? localNames path

/-- The edit for a chain that spells `path`: its first `length` segments are tried, then fewer, but
never one alone. -/
def substitution? (s : Settings) (localNames : Table String) (assigned : Bool)
    (path : List String) (chain : Node) : Nat → Option Edit
  | 0 | 1 => none
  | length + 2 =>
    match substitute? s localNames assigned (join "." (path.take (length + 2))) with
    | some text =>
      let target := chain.chainBase (path.length - (length + 2))
      some (.replace target.start target.stop text)
    | none => substitution? s localNames assigned path chain (length + 1)

/-- The edits for all chains of a program. -/
def substitutionEdits (s : Settings) (localNames : Table String) (program : Node) : List Edit :=
  (program.outline (·.memberPath?.isNone) none).filterMap fun (parent, n) => do
    let path ← n.memberPath?
    substitution? s localNames (n.isAssigned parent) path n path.length

/-- Substitutes paths. -/
def substitutePaths (source : String) : Step String := do
  let program ← readProgram source
  edit source (substitutionEdits (← read).settings (← get).localNames program)

end HtmlModules.Pass
