/-!
# Tables

A table maps texts to values and keeps the order in which its keys were added. Setting a key that is
present changes its value in place; `addNew` leaves it alone, so the first writer wins.
-/

namespace HtmlModules

/-- Keys with their values, in order. -/
abbrev Table (α : Type) := List (String × α)

namespace Table

variable {α : Type}

/-- The value of a key. -/
def get? (t : Table α) (key : String) : Option α := t.lookup key

/-- The key is present. -/
def has (t : Table α) (key : String) : Bool := (get? t key).isSome

/-- Sets a key: in its place if it is present, else at the end. -/
def set (key : String) (value : α) : Table α → Table α
  | [] => [(key, value)]
  | (k, v) :: rest => if k = key then (k, value) :: rest else (k, v) :: set key value rest

/-- Sets the keys of `news` one after the other. -/
def setAll (t news : Table α) : Table α := news.foldl (fun t p => set p.1 p.2 t) t

/-- Adds a key that is not present. -/
def addNew (t : Table α) (key : String) (value : α) : Table α :=
  if has t key then t else t ++ [(key, value)]

/-- Removes a key. -/
def erase (t : Table α) (key : String) : Table α := t.filter (fun p => p.1 ≠ key)

/-- The keys, in order. -/
def keys (t : Table α) : List String := t.map Prod.fst

/-- The values, in order. -/
def values (t : Table α) : List α := t.map Prod.snd

/-- What is looked up is in the table. -/
theorem mem_of_get? {key : String} {value : α} :
    ∀ {t : Table α}, get? t key = some value → (key, value) ∈ t
  | (k, v) :: rest, h => by
    by_cases hk : key = k
    · subst hk
      simp only [get?, List.lookup_cons_self, Option.some.injEq] at h
      simp [h]
    · have hb : (key == k) = false := by simpa using hk
      have : get? rest key = some value := by simpa [get?, List.lookup_cons, hb] using h
      exact List.mem_cons_of_mem _ (mem_of_get? this)

end Table

end HtmlModules
