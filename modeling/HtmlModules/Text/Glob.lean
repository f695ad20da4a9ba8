/-!
# Glob patterns

`*` stands for any text, slashes included, `?` for one character, `[...]` for one character of a
set and `[!...]` for one character outside of it. A bracket that is never closed stands for itself.
A pattern has to match the whole text.
-/

namespace HtmlModules.Text

/-- One element of a pattern. -/
inductive GlobItem where
  | star
  | one
  | char (c : Char)
  | set (negated : Bool) (ranges : List (Char × Char))
deriving DecidableEq, Repr

/-! ## Sets -/

/-- The contents of a set with its range signs (`none`) told apart from its characters: a hyphen
with a character on both sides makes a range. -/
def setMarks : List Char → List (Option Char)
  | a :: '-' :: b :: rest => some a :: none :: some b :: setMarks rest
  | a :: rest => some a :: setMarks rest
  | [] => []

/-- Drops the ranges whose ends are in the wrong order. -/
def dropEmptyRanges : List (Option Char) → List (Option Char)
  | some a :: none :: some b :: rest =>
    if b < a then dropEmptyRanges rest
    else some a :: none :: some b :: dropEmptyRanges rest
  | m :: rest => m :: dropEmptyRanges rest
  | [] => []

/-- The ranges that the marks spell; a range sign without a left end is a hyphen. -/
def rangesOfMarks : List (Option Char) → List (Char × Char)
  | some a :: none :: some b :: rest => (a, b) :: rangesOfMarks rest
  | some a :: rest => (a, a) :: rangesOfMarks rest
  | none :: rest => ('-', '-') :: rangesOfMarks rest
  | [] => []

/-- The set written between brackets. -/
def GlobItem.ofSet (body : List Char) : GlobItem :=
  let marks := match body with
    | '!' :: rest => some '!' :: dropEmptyRanges (setMarks rest)
    | _ => dropEmptyRanges (setMarks body)
  match marks with
  | some '!' :: rest => .set true (rangesOfMarks rest)
  | _ => .set false (rangesOfMarks marks)

/-- The text up to the closing bracket and the rest behind it. -/
def closeSet : List Char → Option (List Char × List Char)
  | [] => none
  | ']' :: cs => some ([], cs)
  | c :: cs => (closeSet cs).map fun (body, rest) => (c :: body, rest)

/-- The contents and the rest behind the closing bracket, for the text behind an opening one. The
closing bracket is not the first character, nor the first behind `!`. -/
def splitSet? : List Char → Option (List Char × List Char)
  | '!' :: c :: cs => (closeSet cs).map fun (body, rest) => ('!' :: c :: body, rest)
  | c :: cs => (closeSet cs).map fun (body, rest) => (c :: body, rest)
  | [] => none

theorem closeSet_length : ∀ {cs body rest : List Char}, closeSet cs = some (body, rest) →
    rest.length < cs.length := by
  intro cs
  fun_induction closeSet cs with
  | case1 => simp
  | case2 cs => rintro _ _ ⟨⟩; simp
  | case3 c cs _ ih =>
    intro body rest h
    obtain ⟨⟨b, r⟩, hb, he⟩ := Option.map_eq_some_iff.1 h
    cases he
    exact Nat.lt_succ_of_lt (ih hb)

theorem splitSet?_length {cs body rest : List Char} (h : splitSet? cs = some (body, rest)) :
    rest.length < cs.length := by
  fun_cases splitSet? cs with
  | case1 c cs =>
    obtain ⟨⟨b, r⟩, hb, he⟩ := Option.map_eq_some_iff.1 h
    cases he
    have := closeSet_length hb
    simp only [List.length_cons]
    omega
  | case2 c cs hne =>
    rw [splitSet?.eq_2 c cs hne] at h
    obtain ⟨⟨b, r⟩, hb, he⟩ := Option.map_eq_some_iff.1 h
    cases he
    have := closeSet_length hb
    simp only [List.length_cons]
    omega
  | case3 => cases h

/-- The elements of a pattern. -/
def globItems : List Char → List GlobItem
  | [] => []
  | '*' :: cs => .star :: globItems cs
  | '?' :: cs => .one :: globItems cs
  | '[' :: cs =>
    match h : splitSet? cs with
    | some (body, rest) =>
      have := splitSet?_length h
      .ofSet body :: globItems rest
    | none => .char '[' :: globItems cs
  | c :: cs => .char c :: globItems cs
termination_by cs => cs.length
decreasing_by all_goals simp_all <;> omega

/-! ## Matching -/

/-- The element stands for this one character; `*` stands for none in particular. -/
def GlobItem.matchesChar (c : Char) : GlobItem → Bool
  | .star => false
  | .one => true
  | .char d => c == d
  | .set negated ranges => (ranges.any fun r => r.1 ≤ c && c ≤ r.2) != negated

/-- The elements match the whole text. -/
def matchItems : List GlobItem → List Char → Bool
  | [], cs => cs.isEmpty
  | .star :: items, [] => matchItems items []
  | .star :: items, c :: cs => matchItems items (c :: cs) || matchItems (.star :: items) cs
  | _ :: _, [] => false
  | item :: items, c :: cs => item.matchesChar c && matchItems items cs
termination_by items cs => (items.length, cs.length)

/-- The pattern matches the text. -/
def globMatches (pattern text : String) : Bool :=
  matchItems (globItems pattern.toList) text.toList

end HtmlModules.Text
