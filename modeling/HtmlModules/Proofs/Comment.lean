import HtmlModules.Proofs.Path
import HtmlModules.Proofs.Scanning
import HtmlModules.Proofs.Spelling

/-!
# Comments that end where they should

A comment of a script goes from its opening to the first `*/` behind that, which is how far the
scanner of scripts moves (`isWholeComment_iff_scans`). The marks in the data of a comment are
written in another way, so none of them ends the comment early. The second star of a documentation
comment is not part of the data: in front of a slash it makes a mark, and the comment is over before
its text begins (`blockComment_isWhole_iff`).
-/

namespace HtmlModules.Script

open Text Markup

/-- The text is one comment: of the marks `*/` behind its opening, the first one is at its end. -/
def IsWholeComment (text : String) : Prop :=
  ∃ inner, text = "/*" ++ (inner ++ "*/") ∧ indexOf (inner ++ "*/") "*/" = some inner.length

/-! ## Scanning -/

/-- The text begins with the opening of a comment, and from behind that the scanner of comments
moves to its end. -/
def ScansAsComment (text : String) : Prop :=
  startsWith text "/*" = true ∧
    ∃ c, skipBlock (text.length + 1) ((Cursor.ofText text).skip 2) = .ok c ∧ c.rest = []

/-- Nothing stands behind the first mark of a text. -/
def EndsAtMark (cs : List Char) : Prop :=
  ∃ n, indexOfChars ['*', '/'] cs = some n ∧ cs.drop (n + 2) = []

/-- A text that opens a comment is scanned as one if it ends at the first mark that closes it. -/
theorem scansAsComment_append (rest : String) :
    ScansAsComment ("/*" ++ rest) ↔ EndsAtMark rest.toList := by
  have hopening : startsWith ("/*" ++ rest) "/*" = true := startsWith_iff.2 ⟨rest, rfl⟩
  have hrest : ((Cursor.ofText ("/*" ++ rest)).skip 2).rest = rest.toList := by
    rw [rest_skip, rest_ofText]
    simp
  have hfuel : rest.toList.length < ("/*" ++ rest).length + 1 := by
    rw [String.length_append, String.length_toList]
    omega
  have hmoved := rest_skipBlock (hrest ▸ hfuel)
  rw [hrest] at hmoved
  simp only [ScansAsComment, EndsAtMark, hopening, true_and]
  generalize skipBlock _ _ = moved at hmoved ⊢
  cases moved <;> cases hindex : indexOfChars ['*', '/'] rest.toList <;>
    simp_all [Except.toOption]

/-- A text ends at its first closing mark if no such mark is found before the one at its end. -/
theorem endsAtMark_iff {cs : List Char} :
    EndsAtMark cs ↔
      ∃ inner, cs = inner ++ ['*', '/'] ∧ indexOfChars ['*', '/'] cs = some inner.length := by
  constructor
  · rintro ⟨n, hindex, hend⟩
    have hmark : cs.drop n = ['*', '/'] := by
      obtain ⟨more, hmore⟩ := prefix_of_indexOfChars hindex
      have hnone : more = [] := by rw [← hend, ← List.drop_drop, ← hmore]; rfl
      rw [← hmore, hnone, List.append_nil]
    have hle : n ≤ cs.length := Nat.le_trans (Nat.le_add_right n 2) (indexOfChars_le hindex)
    refine ⟨cs.take n, ?_, by rw [hindex, List.length_take_of_le hle]⟩
    rw [← hmark, List.take_append_drop]
  · rintro ⟨inner, rfl, hindex⟩
    exact ⟨inner.length, hindex, by simp⟩

/-- A text is one whole comment if and only if the scanner of scripts reads it as one. -/
theorem isWholeComment_iff_scans (text : String) : IsWholeComment text ↔ ScansAsComment text := by
  constructor
  · rintro ⟨inner, rfl, hindex⟩
    rw [indexOf, ← String.length_toList] at hindex
    exact (scansAsComment_append _).2
      (endsAtMark_iff.2 ⟨inner.toList, String.toList_append, hindex⟩)
  · intro hscans
    obtain ⟨rest, rfl⟩ := startsWith_iff.1 hscans.1
    obtain ⟨inner, hrest, hindex⟩ := endsAtMark_iff.1 ((scansAsComment_append rest).1 hscans)
    have hinner : rest = String.ofList inner ++ "*/" := String.toList_injective (by simp [hrest])
    refine ⟨String.ofList inner, by rw [hinner], ?_⟩
    rw [← hinner, indexOf, String.length_ofList]
    exact hindex

/-! ## Comments of documents -/

/-- A text between the marks is a whole comment if the first closing mark is the one behind it. -/
theorem isWholeComment_append (inner : String) :
    IsWholeComment ("/*" ++ (inner ++ "*/")) ↔
      indexOf (inner ++ "*/") "*/" = some inner.length := by
  constructor
  · rintro ⟨other, htext, hindex⟩
    have htoList := congrArg String.toList htext
    simp only [String.toList_append, List.append_cancel_left_eq,
      List.append_cancel_right_eq] at htoList
    rw [String.toList_injective htoList]
    exact hindex
  · exact fun hindex => ⟨inner, rfl, hindex⟩

/-- A star in front of data whose marks are written in another way makes a mark if and only if the
data begins with a slash. -/
theorem indexOf_star_iff (data : String) :
    indexOf ("*" ++ replaceAll data "*/" "*\\/" ++ "*/") "*/" =
        some ("*" ++ replaceAll data "*/" "*\\/").length ↔
      startsWith data "/" = false := by
  have hhead := head?_replaceFrom_close data.toList
  have hfirst := indexOfChars_replaceFrom_close data.toList 0
  simp only [indexOf, replaceAll, ← String.length_toList, String.toList_append,
    String.toList_ofList, String.reduceToList, List.cons_append, List.nil_append] at hhead hfirst ⊢
  generalize replaceFrom _ _ 0 data.toList = body at hhead hfirst ⊢
  by_cases hslash : data.toList.head? = some '/'
  · have hstarts : startsWith data "/" = true := by
      obtain ⟨rest, hrest⟩ := List.head?_eq_some_iff.1 hslash
      simp [startsWith, hrest]
    obtain ⟨more, rfl⟩ := List.head?_eq_some_iff.1 (hhead.trans hslash)
    simp [indexOfChars, hstarts]
  · have hstarts : startsWith data "/" = false := by
      rw [Bool.eq_false_iff]
      rintro hstarts
      obtain ⟨rest, rfl⟩ := startsWith_iff.1 hstarts
      exact hslash (by simp)
    rw [indexOfChars_close_cons, hfirst]
    · simp [hstarts]
    · rintro - hnext
      rw [List.head?_append, hhead] at hnext
      cases hdata : data.toList.head? <;> simp_all

/-- The comment of a script with the data of a comment of a document is one comment, and is scanned
as one, unless the data holds a documentation tag and begins with a slash. -/
theorem blockComment_isWhole_iff (data : String) :
    (IsWholeComment (blockComment data) ↔
      ¬(startsWith data "/" = true ∧ hasDocTag data.toList = true)) ∧
    (ScansAsComment (blockComment data) ↔
      ¬(startsWith data "/" = true ∧ hasDocTag data.toList = true)) := by
  rw [← isWholeComment_iff_scans, and_self, blockComment]
  split_ifs with htag
  · have hopening : "/**" ++ replaceAll data "*/" "*\\/" ++ "*/" =
        "/*" ++ ("*" ++ replaceAll data "*/" "*\\/" ++ "*/") := by
      simp only [← String.append_assoc]
      rfl
    rw [hopening, isWholeComment_append, indexOf_star_iff]
    simp [htag]
  · rw [String.append_assoc, isWholeComment_append, indexOf, ← String.length_toList,
      String.toList_append, replaceAll, String.toList_ofList]
    simpa [htag] using indexOfChars_replaceFrom_close data.toList 0

/-- The data of a comment can begin with a slash, and then its tag stands behind the comment of the
script. -/
theorem exists_not_isWholeComment :
    ∃ data, comment? ("<!--" ++ data ++ "-->").toList = some data.toList ∧
      ¬IsWholeComment (blockComment data) := by
  have hcomment : blockComment "/ @license MIT" = "/*" ++ ("*/ @license MIT" ++ "*/") := by
    decide +kernel
  have hindex : indexOf ("*/ @license MIT" ++ "*/") "*/" = some 0 := by decide +kernel
  refine ⟨"/ @license MIT", by decide +kernel, ?_⟩
  rw [hcomment, isWholeComment_append, hindex]
  decide

end HtmlModules.Script
