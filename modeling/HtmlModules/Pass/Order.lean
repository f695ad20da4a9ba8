import HtmlModules.Text.Basic

/-!
# Order of passes

`readyOrder` lists items so that each comes behind those it requires, as far as they are among the
items. It keeps a queue of items that are ready: at first those that require nothing, and behind
every item those that become ready through it, in the order in which they were given.

An item becomes ready when as many items it requires are done as it requires. There is no order if
some item never becomes ready.
-/

namespace HtmlModules.Pass

variable {α : Type} [BEq α]

/-- The number of items that `a` requires. -/
def requirementCount (requires : α → List α) (items : List α) (a : α) : Nat :=
  (List.eraseDups items).countP (requires a).contains

/-- The number of items done that `a` requires. -/
def doneCount (requires : α → List α) (done : List α) (a : α) : Nat :=
  done.countP (requires a).contains

/-- The items that become ready when `a` joins the ones done. -/
def readied (requires : α → List α) (items done : List α) (a : α) : List α :=
  (List.eraseDups items).filter fun b => (requires b).contains a &&
    doneCount requires (done ++ [a]) b == requirementCount requires items b

/-- Takes items from the queue until it is empty; `fuel` bounds their number. -/
def drainQueue (requires : α → List α) (items : List α) : Nat → List α → List α → List α
  | 0, done, _ => done
  | _, done, [] => done
  | fuel + 1, done, a :: queue =>
    drainQueue requires items fuel (done ++ [a]) (queue ++ readied requires items done a)

/-- The items in an order in which each comes behind what it requires. -/
def readyOrder? (requires : α → List α) (items : List α) : Option (List α) :=
  let first := items.filter fun a => requirementCount requires items a == 0
  let done := drainQueue requires items items.length [] first
  if done.length = items.length then some done else none

end HtmlModules.Pass
