import HtmlModules.Proofs.Combine
import HtmlModules.Script.Lexer
import HtmlModules.Script.Template

/-!
# How far the scanner moves

From inside a comment the scanner of scripts moves behind the first `*/` (`rest_skipBlock`). From
inside a template it moves behind the quote at the end, if the text in front of that is escaped
(`templateBody_escaped`).
-/

namespace HtmlModules.Script

open Text

variable {fuel : Nat} {c : Cursor} {ch : Char} {cs more : List Char}

/-! ## The cursor -/

theorem rest_ofText (s : String) : (Cursor.ofText s).rest = s.toList := rfl

theorem rest_skip (n : Nat) (c : Cursor) : (c.skip n).rest = c.rest.drop n := rfl

theorem offset_skip (n : Nat) (c : Cursor) : (c.skip n).offset = c.offset + n := rfl

/-- A line end of two characters is passed in one step. -/
theorem finishLine_pair (hch : ch = '\r') (hrest : c.rest = '\n' :: cs) :
    (c.finishLine ch).rest = cs ∧ (c.finishLine ch).offset = c.offset + 1 := by
  simp [Cursor.finishLine, Cursor.newLine, Cursor.skip, hch, hrest]

theorem finishLine_single (h : ¬(ch = '\r' ∧ c.rest.head? = some '\n')) :
    (c.finishLine ch).rest = c.rest ∧ (c.finishLine ch).offset = c.offset := by
  have hsingle : (ch == '\r' && c.rest.head? == some '\n') = false := by simpa using h
  simp [Cursor.finishLine, Cursor.newLine, hsingle]

/-! ## Comments -/

/-- From inside a comment the scanner moves behind the first mark that ends it, and fails if there
is none. -/
theorem rest_skipBlock (hfuel : c.rest.length < fuel) :
    (skipBlock fuel c).toOption.map (·.rest) =
      (indexOfChars ['*', '/'] c.rest).map fun n => c.rest.drop (n + 2) := by
  induction fuel generalizing c with
  | zero => omega
  | succ fuel ih =>
    rw [skipBlock]
    split
    · next hrest => simp [hrest, indexOfChars, Cursor.fail, Except.toOption]
    · next rest hrest => simp [hrest, indexOfChars, Cursor.skip, Except.toOption]
    · next ch rest hmark hrest =>
      have hskip : (c.skip 1).rest = rest := by simp [rest_skip, hrest]
      rw [hrest, List.length_cons] at hfuel
      have hclose : indexOfChars ['*', '/'] (ch :: rest) =
          (indexOfChars ['*', '/'] rest).map (· + 1) := by
        refine indexOfChars_close_cons fun hstar hslash => ?_
        obtain ⟨more, rfl⟩ := List.head?_eq_some_iff.1 hslash
        exact hmark more hstar rfl
      have hstep : ∀ next : Cursor, next.rest = rest →
          (skipBlock fuel next).toOption.map (·.rest) =
            (indexOfChars ['*', '/'] c.rest).map fun n => c.rest.drop (n + 2) := by
        intro next hnext
        rw [ih (by rw [hnext]; omega), hnext, hrest, hclose]
        simp [Function.comp_def]
      split_ifs
      · by_cases hpair : ch = '\r' ∧ (c.skip 1).rest.head? = some '\n'
        · obtain ⟨hch, hhead⟩ := hpair
          obtain ⟨more, hmore⟩ := List.head?_eq_some_iff.1 hhead
          obtain ⟨hline, -⟩ := finishLine_pair hch hmore
          rw [hskip] at hmore
          subst hmore
          rw [ih (by rw [hline]; simp only [List.length_cons] at hfuel; omega), hline, hrest,
            hclose, indexOfChars_close_cons (by simp)]
          simp [Function.comp_def]
        · exact hstep _ ((finishLine_single hpair).1.trans hskip)
      · exact hstep _ hskip

/-! ## Templates -/

/-- The character means something inside a template. -/
def IsSpecial (ch : Char) : Prop := ch = '\\' ∨ ch = '\x60' ∨ ch = '$'

instance (ch : Char) : Decidable (IsSpecial ch) := inferInstanceAs (Decidable (_ ∨ _))

theorem escapeTemplateChar_eq (ch : Char) :
    escapeTemplateChar ch = if IsSpecial ch then ['\\', ch] else [ch] := rfl

theorem templateBody_quote (hrest : c.rest = '\x60' :: more) :
    templateBody (fuel + 1) c = .ok (true, c.skip 1) := by
  rw [templateBody]
  split <;> simp_all

/-- An escaped character is passed together with its backslash. -/
theorem templateBody_special (hch : IsSpecial ch) (hrest : c.rest = '\\' :: ch :: cs) :
    templateBody (fuel + 1) c = templateBody fuel (c.skip 2) := by
  rw [templateBody]
  split
  · next h => cases hrest.symm.trans h
  · next h => cases hrest.symm.trans h
  · next h => cases hrest.symm.trans h
  · next h =>
    obtain ⟨rfl, -⟩ : ch = _ ∧ _ := by simpa using hrest.symm.trans h
    rcases hch with rfl | rfl | rfl <;> rfl
  · next h => cases hrest.symm.trans h
  · next hpair _ h =>
    obtain ⟨rfl, rfl⟩ := List.cons.inj (hrest.symm.trans h)
    exact (hpair ch cs rfl rfl).elim

theorem templateBody_plain (hch : ¬IsSpecial ch) (hrest : c.rest = ch :: cs) :
    templateBody (fuel + 1) c =
      templateBody fuel (if isLineEnd ch then (c.skip 1).finishLine ch else c.skip 1) := by
  rw [templateBody]
  split
  · next h => cases hrest.symm.trans h
  · next h => exact absurd (Or.inr (Or.inl (List.cons.inj (hrest.symm.trans h)).1)) hch
  · next h => exact absurd (Or.inr (Or.inr (List.cons.inj (hrest.symm.trans h)).1)) hch
  · next h => exact absurd (Or.inl (List.cons.inj (hrest.symm.trans h)).1) hch
  · next h => exact absurd (Or.inl (List.cons.inj (hrest.symm.trans h)).1) hch
  · next h =>
    obtain ⟨rfl, -⟩ := List.cons.inj (hrest.symm.trans h)
    split_ifs <;> rfl

/-- An escaped text begins with a line feed only if the text does. -/
theorem eq_cons_of_head?_escaped
    (h : (cs.flatMap escapeTemplateChar ++ '\x60' :: more).head? = some '\n') :
    ∃ ds, cs = '\n' :: ds := by
  cases cs with
  | nil => simp at h
  | cons ch cs =>
    rw [List.flatMap_cons, escapeTemplateChar_eq] at h
    split_ifs at h
    · simp at h
    · obtain rfl : ch = '\n' := by simpa using h
      exact ⟨cs, rfl⟩

/-- From inside a template the scanner moves behind the quote at the end of an escaped text. -/
theorem templateBody_escaped (hfuel : c.rest.length < fuel)
    (hrest : c.rest = cs.flatMap escapeTemplateChar ++ '\x60' :: more) :
    ∃ next, templateBody fuel c = .ok (true, next) ∧ next.rest = more ∧
      next.offset + next.rest.length = c.offset + c.rest.length := by
  induction fuel generalizing c cs with
  | zero => omega
  | succ fuel ih =>
    -- It is enough to pass some of the characters and to stand in front of an escaped text again.
    have hstep : ∀ (d : Cursor) (ds : List Char) (n : Nat), 0 < n →
        d.rest = ds.flatMap escapeTemplateChar ++ '\x60' :: more →
        c.rest.length = d.rest.length + n → d.offset = c.offset + n →
        ∃ next, templateBody fuel d = .ok (true, next) ∧ next.rest = more ∧
          next.offset + next.rest.length = c.offset + c.rest.length := by
      intro d ds n hn hd hlength hoffset
      obtain ⟨next, hnext, hmore, hsum⟩ := ih (by omega) hd
      exact ⟨next, hnext, hmore, by omega⟩
    cases cs with
    | nil =>
      rw [List.flatMap_nil, List.nil_append] at hrest
      refine ⟨c.skip 1, templateBody_quote hrest, by simp [rest_skip, hrest], ?_⟩
      rw [offset_skip, rest_skip, hrest, List.drop_one, List.tail_cons, List.length_cons]
      omega
    | cons ch cs =>
      rw [List.flatMap_cons, escapeTemplateChar_eq] at hrest
      split_ifs at hrest with hspecial
      · rw [templateBody_special hspecial hrest]
        exact hstep (c.skip 2) cs 2 (by omega) (by simp [rest_skip, hrest])
          (by rw [rest_skip, hrest]; rfl) rfl
      · rw [templateBody_plain hspecial hrest]
        have hskip : (c.skip 1).rest = cs.flatMap escapeTemplateChar ++ '\x60' :: more := by
          simp [rest_skip, hrest]
        have hlength : c.rest.length = (c.skip 1).rest.length + 1 := by rw [rest_skip, hrest]; rfl
        split_ifs
        · by_cases hpair : ch = '\r' ∧ (c.skip 1).rest.head? = some '\n'
          · obtain ⟨hch, hhead⟩ := hpair
            obtain ⟨ds, rfl⟩ := eq_cons_of_head?_escaped (hskip ▸ hhead)
            obtain ⟨hline, hoffset⟩ := finishLine_pair hch hskip
            refine hstep _ ds 2 (by omega) hline ?_ hoffset
            rw [hlength, hskip, hline]
            rfl
          · obtain ⟨hline, hoffset⟩ := finishLine_single hpair
            exact hstep _ cs 1 (by omega) (hline.trans hskip) (by rw [hline, hlength]) hoffset
        · exact hstep _ cs 1 (by omega) hskip hlength rfl

/-- A quote begins a template. -/
theorem nextToken_quote (hrest : c.rest = '\x60' :: more) : nextToken c = scanTemplate c := by
  have htrimmed : c.trimmed = .ok c := by
    rw [Cursor.trimmed, skipTrivia, hrest]
    rfl
  have htoken : scanToken c = scanTemplate c := by
    rw [scanToken, hrest]
    rfl
  rw [nextToken, htrimmed, ← htoken]
  rfl

end HtmlModules.Script
