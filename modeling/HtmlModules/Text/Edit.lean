import HtmlModules.Sorting

/-!
# Edits

Every change of a text is the replacement of a range of it. A batch of edits refers to one text:
it is ordered by start and end, edits of the same range keep the order they were given in, and the
text is rebuilt in one sweep, so no edit moves the offsets of another. Two edits of a batch must
not overlap; on request an edit inside an earlier one is dropped instead.
-/

namespace HtmlModules.Text

/-- Replaces the characters from offset `start` up to `stop` by `text`. -/
structure Edit where
  start : Int
  stop : Int
  text : String
deriving DecidableEq, Repr

/-- Puts `text` in front of the character at `offset`. -/
def Edit.insert (offset : Nat) (text : String) : Edit := ⟨offset, offset, text⟩

/-- Removes the characters from `start` up to `stop`. -/
def Edit.delete (start stop : Nat) : Edit := ⟨start, stop, ""⟩

/-- Replaces the characters from `start` up to `stop`. -/
def Edit.replace (start stop : Nat) (text : String) : Edit := ⟨start, stop, text⟩

/-- Why a batch cannot be applied. -/
inductive EditConflict where
  | outside (edit : Edit) (length : Nat)
  | overlap (first second : Edit)
deriving DecidableEq, Repr

/-- The wording of a conflict. -/
def EditConflict.message : EditConflict → String
  | .outside e n => s!"edit {e.start}:{e.stop} outside of source (length {n})"
  | .overlap a b => s!"overlapping edits {a.start}:{a.stop} and {b.start}:{b.stop}"

/-- The edit lies in a text of length `n`. -/
def Edit.fits (e : Edit) (n : Nat) : Bool := 0 ≤ e.start && e.stop ≤ n && e.start ≤ e.stop

/-- `a` comes before `b`, by start and then by end. -/
def Edit.le (a b : Edit) : Bool := a.start < b.start || (a.start == b.start && a.stop ≤ b.stop)

/-- The batch in the order of application. -/
def orderEdits (edits : List Edit) : List Edit := sortBy Edit.le edits

/-- The edits of an ordered batch that are applied, `last` being the one kept before. -/
def keepEdits (length : Nat) (dropNested : Bool) :
    Option Edit → List Edit → Except EditConflict (List Edit)
  | _, [] => .ok []
  | last, e :: rest =>
    if !e.fits length then .error (.outside e length)
    else match last with
      | none => return e :: (← keepEdits length dropNested (some e) rest)
      | some l =>
        if e.start < l.stop then
          if dropNested && e.stop ≤ l.stop then keepEdits length dropNested (some l) rest
          else .error (.overlap l e)
        else return e :: (← keepEdits length dropNested (some e) rest)

/-- The text from offset `position` on, with the kept edits carried out. -/
def sweep (source : List Char) : Nat → List Edit → List Char
  | position, [] => source.drop position
  | position, e :: rest =>
    (source.take e.start.toNat).drop position ++ e.text.toList ++ sweep source e.stop.toNat rest

/-- Applies a batch of edits to `source`. -/
def applyEdits (source : String) (edits : List Edit) (dropNested : Bool := false) :
    Except EditConflict String := do
  let kept ← keepEdits source.length dropNested none (orderEdits edits)
  return String.ofList (sweep source.toList 0 kept)

end HtmlModules.Text
