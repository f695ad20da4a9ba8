import HtmlModules.Text.Basic
import HtmlModules.Text.Location
import Mathlib.Data.List.DropRight
import Mathlib.Data.List.GetD

/-!
# Lines and columns are exact

The place behind some characters is given by the line ends in them and by what follows the last one
(`Text.placeBehind`). The line starts of a text ascend, and those up to an offset are the line starts of
what is in front of it, so a line index gives every offset its place and leads back from there
(`Text.lineAndColumn_exact`). The places of a text are those in its lines (`Text.hasPlace_iff`).

In front of a tail of a text stands what is in front of it in the tail, behind all that was left out. A
place in the tail is re-anchored by adding up lines, and columns on the first line only
(`Text.shiftLocation_exact`).
-/

namespace HtmlModules.Text

variable {A B C : List Char} {s : String}

/-! ## Places -/

/-- The characters behind the last line end. -/
def lastLine (cs : List Char) : List Char := cs.rtakeWhile (· ≠ '\n')

/-- Line and column behind the given characters, which begin a text. -/
def placeBehind (before : List Char) : Int × Int :=
  (before.count '\n' + 1, (lastLine before).length + 1)

/-- The text has a line of this number, which has a character or its end in this column. -/
def HasPlace (s : String) (line column : Int) : Prop :=
  ∃ (i j : ℕ) (row : String), (lines s)[i]? = some row ∧ j ≤ row.length ∧
    line = i + 1 ∧ column = j + 1

@[simp] theorem lastLine_nil : lastLine [] = [] := rfl

theorem lastLine_append_of_mem (h : '\n' ∈ B) : lastLine (A ++ B) = lastLine B := by
  have hshort : (B.reverse.takeWhile (· ≠ '\n')).length ≠ B.reverse.length := by
    intro hlength
    have hwhole := (List.takeWhile_prefix _).eq_of_length hlength
    have hnot := List.takeWhile_eq_self_iff.1 hwhole '\n' (List.mem_reverse.2 h)
    simp at hnot
  rw [lastLine, lastLine, List.rtakeWhile, List.rtakeWhile, List.reverse_append,
    List.takeWhile_append, if_neg hshort]

/-- A text without a line end continues the last line. -/
theorem lastLine_append_of_notMem (h : '\n' ∉ B) : lastLine (A ++ B) = lastLine A ++ B := by
  have hall : ∀ c ∈ B.reverse, decide (c ≠ '\n') = true := fun c hc =>
    decide_eq_true fun he => h (he ▸ List.mem_reverse.1 hc)
  rw [lastLine, lastLine, List.rtakeWhile, List.rtakeWhile, List.reverse_append,
    List.takeWhile_append_of_pos hall, List.reverse_append, List.reverse_reverse]

theorem lastLine_of_notMem (h : '\n' ∉ B) : lastLine B = B := by
  simpa [lastLine] using lastLine_append_of_notMem (A := []) h

/-- The place behind a text and its continuation, from the places behind both. -/
theorem placeBehind_append (A B : List Char) :
    placeBehind (A ++ B) = ((placeBehind A).1 + (placeBehind B).1 - 1,
      (placeBehind B).2 + if (placeBehind B).1 = 1 then (placeBehind A).2 - 1 else 0) := by
  by_cases h : '\n' ∈ B
  · have hcount : 0 < B.count '\n' := List.count_pos_iff.2 h
    simp only [placeBehind, List.count_append, lastLine_append_of_mem h, Prod.mk.injEq]
    omega
  · have hcount : B.count '\n' = 0 := List.count_eq_zero.2 h
    simp only [placeBehind, List.count_append, lastLine_append_of_notMem h, lastLine_of_notMem h,
      List.length_append, hcount, Prod.mk.injEq]
    omega

/-! ## Places in lines -/

theorem lastLine_lineEnd_cons (A : List Char) : lastLine ('\n' :: A) = lastLine A := by
  by_cases h : '\n' ∈ A
  · exact lastLine_append_of_mem (A := ['\n']) h
  · rw [lastLine_of_notMem h]
    exact lastLine_append_of_notMem (A := ['\n']) h

/-- A character in front lengthens the last line only if it is the only one. -/
theorem length_lastLine_cons {c : Char} (hc : c ≠ '\n') (A : List Char) :
    (lastLine (c :: A)).length = (lastLine A).length + if A.count '\n' = 0 then 1 else 0 := by
  by_cases h : '\n' ∈ A
  · rw [if_neg (List.count_pos_iff.2 h).ne', ← List.singleton_append, lastLine_append_of_mem h,
      Nat.add_zero]
  · have hcons : '\n' ∉ c :: A := by simp [hc.symm, h]
    rw [if_pos (List.count_eq_zero.2 h), lastLine_of_notMem h, lastLine_of_notMem hcons,
      List.length_cons]

/-- A beginning of a longer text is empty, or the first character and a beginning of the rest. -/
theorem exists_prefix_cons_iff {c : Char} {cs : List Char} {P : List Char → Prop} :
    (∃ before, before <+: c :: cs ∧ P before) ↔
      P [] ∨ ∃ before, before <+: cs ∧ P (c :: before) := by
  simp only [List.prefix_cons_iff]
  grind

/-- The places in the lines of some characters are those behind what they begin with. The induction is
on the characters: the first one is a line end behind an empty line, or it begins the first line. -/
theorem exists_row_iff : ∀ (cs : List Char) (i j : ℕ),
    (∃ row, (splitChars '\n' cs)[i]? = some row ∧ j ≤ row.length) ↔
      ∃ before, before <+: cs ∧ before.count '\n' = i ∧ (lastLine before).length = j
  | [], i, j => by
    cases i <;> simp [splitChars, lastLine, eq_comm]
  | c :: cs, i, j => by
    have ih := exists_row_iff cs
    rw [exists_prefix_cons_iff]
    by_cases hc : c = '\n'
    · subst hc
      cases i with
      | zero => simp [splitChars, lastLine, eq_comm]
      | succ i => simpa [splitChars, lastLine_lineEnd_cons] using ih i j
    · obtain ⟨part, parts, hparts⟩ : ∃ part parts, splitChars '\n' cs = part :: parts := by
        obtain ⟨row, hrow, -⟩ := (ih 0 0).2 ⟨[], List.nil_prefix, rfl, rfl⟩
        exact List.exists_cons_of_ne_nil fun hnil => by simp [hnil] at hrow
      have hsplit : splitChars '\n' (c :: cs) = (c :: part) :: parts := by
        rw [splitChars, if_neg hc, hparts]
      rw [hsplit]
      simp only [List.count_cons_of_ne hc]
      rw [hparts] at ih
      cases i with
      | zero =>
        cases j with
        | zero => simp [lastLine]
        | succ j =>
          have hlonger (before : List Char) :
              (before <+: cs ∧ before.count '\n' = 0 ∧ (lastLine (c :: before)).length = j + 1) ↔
                (before <+: cs ∧ before.count '\n' = 0 ∧ (lastLine before).length = j) :=
            and_congr_right fun _ => and_congr_right fun hcount => by
              rw [length_lastLine_cons hc, if_pos hcount, Nat.add_right_cancel_iff]
          simpa [hlonger] using ih 0 j
      | succ i =>
        have hsame (before : List Char) :
            (before <+: cs ∧ before.count '\n' = i + 1 ∧ (lastLine (c :: before)).length = j) ↔
              (before <+: cs ∧ before.count '\n' = i + 1 ∧ (lastLine before).length = j) :=
          and_congr_right fun _ => and_congr_right fun hcount => by
            rw [length_lastLine_cons hc, if_neg (by omega), Nat.add_zero]
        simpa [hsame] using ih (i + 1) j

/-- The places of a text are those behind what it begins with. -/
theorem hasPlace_iff {line column : Int} : HasPlace s line column ↔
    ∃ offset ≤ s.length, placeBehind (s.toList.take offset) = (line, column) := by
  constructor
  · rintro ⟨i, j, row, hrow, hj, rfl, rfl⟩
    rw [lines, split, List.getElem?_map] at hrow
    obtain ⟨cs, hcs, rfl⟩ := Option.map_eq_some_iff.1 hrow
    obtain ⟨before, hbefore, rfl, rfl⟩ :=
      (exists_row_iff s.toList i j).1 ⟨cs, hcs, by simpa using hj⟩
    refine ⟨before.length, String.length_toList ▸ hbefore.length_le, ?_⟩
    rw [← List.prefix_iff_eq_take.1 hbefore, placeBehind]
  · rintro ⟨offset, -, hplace⟩
    obtain ⟨cs, hcs, hlength⟩ :=
      (exists_row_iff s.toList _ _).2 ⟨s.toList.take offset, List.take_prefix _ _, rfl, rfl⟩
    obtain ⟨rfl, rfl⟩ := Prod.mk.inj hplace
    refine ⟨_, _, String.ofList cs, ?_, by simpa using hlength, rfl, rfl⟩
    rw [lines, split, List.getElem?_map, hcs]
    rfl

/-! ## Line starts -/

namespace LineIndex

/-- The line starts of a text are those of what it begins with, and behind them those of the rest. -/
theorem starts_append (n : ℕ) (A B : List Char) :
    starts n (A ++ B) = starts n A ++ starts (n + A.length) B := by
  induction A generalizing n with
  | nil => rfl
  | cons c A ih =>
    rw [List.cons_append, starts, starts, ih, List.length_cons, Nat.add_right_comm, Nat.add_assoc]
    split_ifs <;> rfl

/-- So many lines start behind a line end as there are line ends. -/
theorem length_starts (n : ℕ) (A : List Char) : (starts n A).length = A.count '\n' := by
  induction A generalizing n with
  | nil => rfl
  | cons c A ih =>
    rw [starts, List.count_cons]
    split_ifs <;> simp_all

theorem bounds_of_mem_starts {n p : ℕ} {A : List Char} (hp : p ∈ starts n A) :
    n < p ∧ p ≤ n + A.length := by
  induction A generalizing n with
  | nil => cases hp
  | cons c A ih =>
    rw [starts] at hp
    rw [List.length_cons]
    split_ifs at hp with hc
    · rcases List.mem_cons.1 hp with rfl | hp
      · omega
      · have := ih hp
        omega
    · have := ih hp
      omega

/-- Line starts ascend, as a binary search needs it. -/
theorem pairwise_starts (n : ℕ) (A : List Char) : (n :: starts n A).Pairwise (· < ·) := by
  induction A generalizing n with
  | nil => exact List.pairwise_singleton _ _
  | cons c A ih =>
    refine List.pairwise_cons.2 ⟨fun p hp => (bounds_of_mem_starts hp).1, ?_⟩
    rw [starts]
    split_ifs
    · exact ih (n + 1)
    · exact (List.pairwise_cons.1 (ih (n + 1))).2

/-- The line starts up to an offset are those of what is in front of it. -/
theorem filter_ofText (hs : s.toList = A ++ B) :
    (ofText s).filter (fun p : ℕ => (p : Int) ≤ (A.length : ℕ)) = 0 :: starts 0 A := by
  have hkeep : ∀ p ∈ 0 :: starts 0 A, decide ((p : Int) ≤ (A.length : ℕ)) = true := by
    intro p hp
    rcases List.mem_cons.1 hp with rfl | hp
    · simp
    · have := bounds_of_mem_starts hp
      simp
      omega
  have hdrop : ∀ p ∈ starts (0 + A.length) B, ¬decide ((p : Int) ≤ (A.length : ℕ)) = true := by
    intro p hp
    have := bounds_of_mem_starts hp
    simp
    omega
  rw [ofText, hs, starts_append, ← List.cons_append, List.filter_append, List.filter_eq_self.2 hkeep,
    List.filter_eq_nil_iff.2 hdrop, List.append_nil]

/-- The last of the lines begins at the line start that the line ends lead to. The induction is on the
last character: it is a line end, and the line behind it is empty, or it makes the last line longer. -/
theorem getD_starts (A : List Char) :
    (0 :: starts 0 A).getD (A.count '\n') 0 + (lastLine A).length = A.length := by
  induction A using List.reverseRecOn with
  | nil => rfl
  | append_singleton A c ih =>
    rw [starts_append, Nat.zero_add, ← List.cons_append, List.count_append, List.length_append]
    by_cases hc : c = '\n'
    · have hlength : (0 :: starts 0 A).length = A.count '\n' + 1 := by
        rw [List.length_cons, length_starts]
      rw [lastLine_append_of_mem (by simp [hc]), List.getD_append_right _ _ _ _ (by simp [hlength, hc])]
      simp [starts, hlength, hc, lastLine]
    · have hcount : [c].count '\n' = 0 := List.count_eq_zero.2 (by simpa using Ne.symm hc)
      rw [lastLine_append_of_notMem (List.count_eq_zero.1 hcount), List.length_append, ← Nat.add_assoc,
        hcount, Nat.add_zero, starts, if_neg hc, starts, List.append_nil, ih]

/-- What is in front of an offset and what is behind it. -/
theorem exists_split {offset : ℕ} (hoffset : offset ≤ s.length) :
    ∃ A B, s.toList = A ++ B ∧ A.length = offset ∧ s.toList.take offset = A :=
  ⟨_, _, (List.take_append_drop offset _).symm,
    List.length_take_of_le (String.length_toList ▸ hoffset), rfl⟩

/-- Among the line starts of a text, those of what it begins with stay where they are. -/
theorem getD_ofText (hs : s.toList = A ++ B) :
    ((ofText s).getD (A.count '\n') 0 : ℕ) + (lastLine A).length = A.length := by
  rw [ofText, hs, starts_append, ← List.cons_append, List.getD_append _ _ _ _ (by simp [length_starts]),
    getD_starts]

/-- The line and the column of an offset are those behind what is in front of it. -/
theorem lineAndColumn_eq {offset : ℕ} (hoffset : offset ≤ s.length) :
    (ofText s).lineAndColumn offset = placeBehind (s.toList.take offset) := by
  obtain ⟨A, B, hs, rfl, hA⟩ := exists_split hoffset
  have hline : ((ofText s).filter fun p : ℕ => (p : Int) ≤ (A.length : ℕ)).length =
      A.count '\n' + 1 := by
    rw [filter_ofText hs, List.length_cons, length_starts]
  have hstart := getD_ofText hs
  simp only [hA, lineAndColumn, hline, placeBehind, Nat.add_sub_cancel, if_neg (Nat.succ_ne_zero _),
    Prod.mk.injEq]
  omega

/-- The place of an offset leads back to it. -/
theorem offsetOf_placeBehind {offset : ℕ} (hoffset : offset ≤ s.length) :
    (ofText s).offsetOf (placeBehind (s.toList.take offset)).1
      (placeBehind (s.toList.take offset)).2 = offset := by
  obtain ⟨A, B, hs, rfl, hA⟩ := exists_split hoffset
  have hlines : A.count '\n' + 1 ≤ (ofText s).length := by
    rw [ofText, hs, List.length_cons, length_starts, List.count_append]
    omega
  have hline : (min (max (A.count '\n' + 1 : Int) 1) (ofText s).length).toNat - 1 =
      A.count '\n' := by
    omega
  have hstart := getD_ofText hs
  simp only [hA, offsetOf, placeBehind, hline]
  omega

end LineIndex

open LineIndex

/-- The line starts of a text ascend. They give every offset of the text the place behind what is in front
of it and lead back from there, and every place of the text comes back from the offset that it leads
to. -/
theorem lineAndColumn_exact (text : String) :
    let index := ofText text
    index.Pairwise (· < ·) ∧
    (∀ offset : ℕ, offset ≤ text.length →
      index.lineAndColumn offset = placeBehind (text.toList.take offset) ∧
        index.offsetOf (index.lineAndColumn offset).1 (index.lineAndColumn offset).2 = offset) ∧
    ∀ line column : Int, HasPlace text line column →
      index.lineAndColumn (index.offsetOf line column) = (line, column) ∧
        0 ≤ index.offsetOf line column ∧ index.offsetOf line column ≤ text.length := by
  refine ⟨pairwise_starts 0 _, fun offset hoffset => ?_, fun line column hplace => ?_⟩
  · rw [lineAndColumn_eq hoffset]
    exact ⟨rfl, offsetOf_placeBehind hoffset⟩
  · obtain ⟨offset, hoffset, hplace⟩ := hasPlace_iff.1 hplace
    have hleads := offsetOf_placeBehind hoffset
    have hback := lineAndColumn_eq hoffset
    rw [hplace] at hleads hback
    rw [hleads]
    exact ⟨hback, by omega, by omega⟩

/-- Behind an empty line the last line begins, and the end of its text is a place of the third line. -/
theorem lineAndColumn_exact_emptyLine :
    (ofText "a\n\nbc\n").lineAndColumn 6 = (4, 1) ∧ (ofText "a\n\nbc\n").offsetOf 4 1 = 6 ∧
      (ofText "a\n\nbc\n").lineAndColumn ((ofText "a\n\nbc\n").offsetOf 3 3) = (3, 3) := by
  obtain ⟨-, hoffset, hplace⟩ := lineAndColumn_exact "a\n\nbc\n"
  have hend : (ofText "a\n\nbc\n").lineAndColumn (6 : ℕ) = (4, 1) :=
    (hoffset 6 (by decide)).1.trans (by decide)
  have hback := (hoffset 6 (by decide)).2
  rw [hend] at hback
  exact ⟨hend, hback, (hplace 3 3 ⟨2, 2, "bc", by decide +kernel, by decide, rfl, rfl⟩).1⟩

/-! ## Tails -/

/-- A location in the tail of a text is re-anchored to the place behind what was left out and what is in
front of it in the tail. -/
theorem shiftLocation_eq {l : Location} {base offset : ℕ} (hbase : base ≤ s.length)
    (hoffset : base + offset ≤ s.length)
    (hl : (l.line, l.column) = placeBehind ((s.toList.drop base).take offset)) :
    shiftLocation l s base = (ofText s).location l.file (base + offset) := by
  have hleads := offsetOf_placeBehind hoffset
  rw [List.take_add, placeBehind_append, ← hl, Int.natCast_add] at hleads
  simp only [shiftLocation, lineAndColumn_eq hbase, hleads]

/-- A location has the line and the column of its start. -/
theorem location_place (index : LineIndex) (file : String) (start stop : Int) :
    ((index.location file start stop).line, (index.location file start stop).column) =
      index.lineAndColumn start := by
  unfold location
  split_ifs <;> rfl

theorem location_start (index : LineIndex) (file : String) (start stop : Int) :
    (index.location file start stop).start = start := by
  unfold location
  split_ifs <;> rfl

theorem location_file (index : LineIndex) (file : String) (start stop : Int) :
    (index.location file start stop).file = file := by
  unfold location
  split_ifs <;> rfl

/-- A location that the line index of a tail gives to an offset there is re-anchored to the location of
the same place in the whole text. -/
theorem shiftLocation_exact (file text : String) (base offset : ℕ) (stop : Int)
    (hbase : base ≤ text.length) (hoffset : offset ≤ (dropFirst base text).length) :
    let shifted := shiftLocation ((ofText (dropFirst base text)).location file offset stop) text base
    shifted = (ofText text).location file (base + offset) ∧ shifted.start = base + offset ∧
      (shifted.line, shifted.column) = placeBehind (text.toList.take (base + offset)) := by
  have htail : (dropFirst base text).toList = text.toList.drop base := String.toList_ofList
  have hwhole : base + offset ≤ text.length := by
    rw [← String.length_toList, htail, List.length_drop, String.length_toList] at hoffset
    omega
  have hshift := shiftLocation_eq hbase hwhole
    ((location_place _ file _ stop).trans ((lineAndColumn_eq hoffset).trans (by rw [htail])))
  rw [location_file] at hshift
  simp only [hshift, location_start, location_place, true_and]
  rw [← Int.natCast_add, lineAndColumn_eq hwhole]

/-- A script begins inside the second line of its document: its own second line is the third one there,
and its first line is shifted to the right. -/
theorem shiftLocation_exact_script :
    let text := "<p>x</p>\n<script>var a;\n  b(;\n</script>\n"
    let script := ofText (dropFirst 17 text)
    shiftLocation (script.location "page.html" 4) text 17 = (ofText text).location "page.html" 21 ∧
      ((ofText text).location "page.html" 21).text = "page.html:2:13" ∧
      shiftLocation (script.location "page.html" 11) text 17 = (ofText text).location "page.html" 28 ∧
      ((ofText text).location "page.html" 28).text = "page.html:3:5" :=
  let text := "<p>x</p>\n<script>var a;\n  b(;\n</script>\n"
  ⟨(shiftLocation_exact "page.html" text 17 4 0 (by decide) (by decide)).1, by decide +kernel,
    (shiftLocation_exact "page.html" text 17 11 0 (by decide) (by decide)).1, by decide +kernel⟩

end HtmlModules.Text
