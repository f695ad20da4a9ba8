import HtmlModules.Pass.GlobalThis
import HtmlModules.Script.Wrapper

/-!
# Unwrapping

A module has a scope of its own and runs when its imports have, so functions that only give a script
a scope, or make it wait, are replaced by their bodies, and the directive that makes code strict is
dropped. A wrapper stays if its body returns or reads its arguments, or if it declares a name that
another statement declares too.

Each round shortens the program, so there is a last one.
-/

namespace HtmlModules.Pass

open Text Script

/-- The ranges of the directives among statements, counted from `base`. -/
def directiveCuts (base : Nat) (statements : List Node) : List Edit :=
  (statements.filter (·.isUseStrict)).map fun s => .delete (s.start - base) (s.stop - base)

/-- The body of a function without its directives and without line ends at both ends. -/
def bodyText (source : String) (function : Node) : String :=
  match function.child? .body with
  | none => ""
  | some body =>
    let text := slice source (body.start + 1) (body.stop - 1)
    let cuts := directiveCuts (body.start + 1) function.bodyStatements
    trimBoth (· == '\n') ((applyEdits text cuts).toOption.getD text)

/-- What a round has done so far. -/
structure UnwrapRound where
  edits : List Edit := []
  /-- The names that unwrapped bodies declare. -/
  claimed : List String := []
  /-- The names on account of which wrappers stay. -/
  collisions : List (List String) := []

/-- The function of a wrapper that can go. -/
def removableWrapper? (statement : Node) : Option Node :=
  statement.wrappedFunction?.filter fun f => !(f.hasReturn || f.usesArguments)

/-- Takes in one statement; `others` are the names that other statements declare. -/
def UnwrapRound.take (r : UnwrapRound) (source : String) (others : List String)
    (statement : Node) : UnwrapRound :=
  if statement.isUseStrict then
    { r with edits := r.edits ++ [.delete statement.start statement.stop] }
  else match removableWrapper? statement with
    | none => r
    | some function =>
      let names := Node.scopeNames function.bodyStatements
      let shared := names.filter fun name => r.claimed.contains name || others.contains name
      if shared.isEmpty then
        { r with
          edits := r.edits ++ [.replace statement.start statement.stop (bodyText source function)]
          claimed := r.claimed ++ names }
      else { r with collisions := r.collisions ++ [sort shared] }

/-- Takes in statements, `before` being the names that earlier ones declare. -/
def unwrapFrom (source : String) (before : List String) (r : UnwrapRound) :
    List Node → UnwrapRound
  | [] => r
  | s :: rest =>
    let others := before ++ rest.flatMap (·.statementNames)
    unwrapFrom source (before ++ s.statementNames) (r.take source others s) rest

/-- One round over the statements of a program. -/
def unwrapRound (source : String) (program : Node) : UnwrapRound :=
  unwrapFrom source [] {} (statements program)

/-- Reports the names on account of which a wrapper stays. -/
def warnCollision (names : List String) : Step Unit :=
  warn "W0202" ("wrapper function not removed: it declares " ++ join ", " names ++
    ", which is also declared at the top level")

/-- Unwraps until nothing is left to unwrap. -/
def unwrapAll (source : String) : Step String := do
  let round := unwrapRound source (← readProgram source)
  round.collisions.forM warnCollision
  if round.edits.isEmpty then return source
  let next ← edit source round.edits
  if next.length < source.length then unwrapAll next else return next
termination_by source.length

/-- Unwraps the program; `this` in a wrapper was the window too. -/
def unwrap (source : String) : Step String := do
  let text ← unwrapAll source
  if text = source then return source else globalThis text

end HtmlModules.Pass
