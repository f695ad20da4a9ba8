/-!
# Sorting

A list is put in order by insertion, which takes a list that is in order already in one pass.
Members that the order does not tell apart keep the order they were given in.
-/

namespace HtmlModules

variable {α : Type}

/-- Puts `a` in front of the first member that it may come before. -/
def insertInOrder (le : α → α → Bool) (a : α) : List α → List α
  | [] => [a]
  | b :: rest => if le a b then a :: b :: rest else b :: insertInOrder le a rest

/-- The members of a list in ascending order. -/
def sortBy (le : α → α → Bool) : List α → List α
  | [] => []
  | a :: rest => insertInOrder le a (sortBy le rest)

end HtmlModules
