import HtmlModules.Proofs.Path
import HtmlModules.Proofs.StartTag
import HtmlModules.Proofs.Template

/-!
# Markup inside of scripts

Markup that is inserted by a module stands in a script as a template literal. An end tag of a script
in it would end the script around it, so the beginning of each one is replaced, but only of those in
small letters. Therefore the script is read back with all its statements exactly if the markup holds
no others (`readsAs_moduleScript_iff`).
-/

namespace HtmlModules.Markup

open Text Script

variable {word cs : List Char} {c : Char}

/-! ## Literals -/

theorem mem_foreignChars (hc : IsSpecial c) : c ∈ foreignChars := by
  rcases hc with rfl | rfl | rfl <;> decide

theorem ne_mark_of_special (hc : IsSpecial c) : c ≠ '<' := by
  rcases hc with rfl | rfl | rfl <;> decide

/-- A word without special characters stands where it stood, since escapes are put in front of
special characters only. -/
theorem startsWithWord_escaped :
    ∀ {word : List Char}, (∀ d ∈ foreignChars, ∀ w ∈ word, sameLetter w d = false) →
      ∀ cs : List Char, startsWithWord word (cs.flatMap escapeTemplateChar) = startsWithWord word cs
  | [], _, _ => by rw [startsWithWord, startsWithWord]
  | _ :: _, _, [] => rfl
  | w :: word, h, c :: cs => by
    rw [List.flatMap_cons, escapeTemplateChar_eq, startsWithWord]
    split_ifs with hspecial
    · have hslash : sameLetter w '\\' = false := h _ (by decide) w List.mem_cons_self
      rw [List.cons_append, startsWithWord, hslash,
        h c (mem_foreignChars hspecial) w List.mem_cons_self, Bool.false_and, Bool.false_and]
    · rw [List.singleton_append, startsWithWord,
        startsWithWord_escaped (fun d hd v hv => h d hd v (List.mem_cons_of_mem w hv)) cs]

/-- To escape a template neither makes nor breaks a mark that ends a raw element. -/
theorem fitsInside_escaped (hword : word ∈ rawWords) (cs : List Char) :
    FitsInside word (cs.flatMap escapeTemplateChar) ↔ FitsInside word cs := by
  induction cs with
  | nil => rfl
  | cons c cs ih =>
    have hstarts := startsWithWord_escaped (fun d hd => foreign_of_mem_rawWords hword hd) (c :: cs)
    unfold FitsInside at ih ⊢
    rw [throughout_cons_iff, ← hstarts, ← ih, List.flatMap_cons, escapeTemplateChar_eq]
    split_ifs with hspecial
    · have hslash : '\\' ≠ '<' := by decide
      have hfront : ∀ d ∈ ['\\', c], ∀ s, startsWithWord (endMark word) (d :: s) = false := by
        intro d hd s
        rcases List.mem_pair.1 hd with rfl | rfl
        · exact startsWithWord_endMark_of_ne hslash
        · exact startsWithWord_endMark_of_ne (ne_mark_of_special hspecial)
      rw [throughout_append hfront]
      exact (and_iff_right (startsWithWord_endMark_of_ne hslash)).symm
    · rw [List.singleton_append, throughout_cons_iff]

/-! ## Replaced marks -/

/-- If an end tag of a raw element begins the text, in any case, then in small letters. -/
def BeginsSmall (word cs : List Char) : Prop :=
  startsWithWord (endMark word) cs = true → endMark word <+: cs

/-- Wherever an end tag of a raw element begins in the text, it does so in small letters. -/
def HasSmallMarks (word : List Char) : List Char → Prop := Throughout (BeginsSmall word)

theorem beginsSmall_of_ne (hc : c ≠ '<') : BeginsSmall word (c :: cs) := by
  intro h
  rw [startsWithWord_endMark_of_ne hc] at h
  cases h

theorem hasSmallMarks_nil : HasSmallMarks word [] := throughout_nil_iff.2 nofun

/-- What stands for a mark in small letters. -/
def replacedMark (word : List Char) : List Char := ['&', 'l', 't', ';', '/'] ++ word

/-- A word that does not begin with a mark stands where it stood. -/
theorem startsWithWord_replaced {mark : List Char} :
    ∀ {word : List Char}, (∀ w ∈ word, sameLetter w '<' = false) →
      (∀ w ∈ word, sameLetter w '&' = false) →
      ∀ cs : List Char, startsWithWord word
        (replaceFrom (endMark mark) (replacedMark mark) 0 cs) = startsWithWord word cs
  | [], _, _, _ => by rw [startsWithWord, startsWithWord]
  | _ :: _, _, _, [] => rfl
  | w :: word, hlt, hamp, c :: cs => by
    rw [replaceFrom, startsWithWord]
    split_ifs with hmark
    · obtain ⟨rest, hrest⟩ := List.isPrefixOf_iff_prefix.1 hmark
      obtain rfl : '<' = c := (List.cons.inj hrest).1
      rw [replacedMark, List.cons_append, List.cons_append, startsWithWord,
        hamp w List.mem_cons_self, hlt w List.mem_cons_self, Bool.false_and, Bool.false_and]
    · rw [startsWithWord, startsWithWord_replaced (fun v hv => hlt v (List.mem_cons_of_mem w hv))
        (fun v hv => hamp v (List.mem_cons_of_mem w hv)) cs]

/-- Whether an end tag begins here does not change when the small end tags behind are replaced. -/
theorem startsWithWord_cons_replaced (hword : word ∈ rawWords) (c : Char) (cs : List Char) :
    startsWithWord (endMark word) (c :: replaceFrom (endMark word) (replacedMark word) 0 cs) =
      startsWithWord (endMark word) (c :: cs) := by
  have hamp : ∀ w ∈ '/' :: word, sameLetter w '&' = false := fun w hw =>
    foreign_of_mem_rawWords hword (by decide) w (List.mem_cons_of_mem '<' hw)
  rw [endMark, startsWithWord, startsWithWord, ← endMark,
    startsWithWord_replaced (endMark_of_mem_rawWords hword).2 hamp]

theorem mark_notMem (hword : word ∈ rawWords) : '<' ∉ '/' :: word ∧ '<' ∉ replacedMark word := by
  have hall : ∀ word ∈ rawWords, '<' ∉ '/' :: word ∧ '<' ∉ replacedMark word := by decide
  exact hall word hword

/-- A small end tag in front adds none in other letters. -/
theorem hasSmallMarks_mark_append (hword : word ∈ rawWords) (rest : List Char) :
    HasSmallMarks word (endMark word ++ rest) ↔ HasSmallMarks word rest := by
  have hfront : ∀ c ∈ '/' :: word, ∀ s, BeginsSmall word (c :: s) :=
    fun c hc s => beginsSmall_of_ne (ne_of_mem_of_not_mem hc (mark_notMem hword).1)
  have hmark : BeginsSmall word (endMark word ++ rest) :=
    fun _ => List.prefix_append (endMark word) rest
  rw [endMark, List.cons_append] at hmark ⊢
  exact throughout_cons_iff.trans ((and_iff_right hmark).trans (throughout_append hfront))

/-- With the marks in small letters replaced a text fits inside exactly if it had no others. -/
theorem fitsInside_replaced (hword : word ∈ rawWords) :
    ∀ {cs : List Char} {skip : Nat}, skip ≤ cs.length →
      (FitsInside word (replaceFrom (endMark word) (replacedMark word) skip cs) ↔
        HasSmallMarks word (cs.drop skip))
  | [], skip, _ => by
    rw [List.drop_nil, replaceFrom]
    exact iff_of_true fitsInside_nil hasSmallMarks_nil
  | c :: cs, skip + 1, h => by
    rw [replaceFrom, List.drop_succ_cons]
    exact fitsInside_replaced hword (Nat.le_of_succ_le_succ h)
  | c :: cs, 0, _ => by
    rw [replaceFrom, List.drop_zero]
    split_ifs with hmark
    · obtain ⟨rest, hrest⟩ := List.isPrefixOf_iff_prefix.1 hmark
      obtain ⟨rfl, rfl⟩ : '<' = c ∧ '/' :: word ++ rest = cs := List.cons.inj hrest
      have hfront : ∀ c ∈ replacedMark word, ∀ s, startsWithWord (endMark word) (c :: s) = false :=
        fun c hc s => startsWithWord_endMark_of_ne (ne_of_mem_of_not_mem hc (mark_notMem hword).2)
      have hskip : (endMark word).length - 1 ≤ ('/' :: word ++ rest).length := by
        simp [endMark]
      have hdrop : ('/' :: word ++ rest).drop ((endMark word).length - 1) = rest := by
        simp [endMark]
      rw [← hrest, hasSmallMarks_mark_append hword]
      have ih := fitsInside_replaced hword hskip
      rw [hdrop] at ih
      exact (throughout_append hfront).trans ih
    -- A mark in another case stays, so that there must be none.
    · have ih := fitsInside_replaced hword (Nat.zero_le cs.length)
      have hnot : ¬endMark word <+: c :: cs := fun h => hmark (List.isPrefixOf_iff_prefix.2 h)
      rw [List.drop_zero] at ih
      unfold FitsInside HasSmallMarks at ih ⊢
      rw [throughout_cons_iff, throughout_cons_iff, startsWithWord_cons_replaced hword, ih]
      simp [BeginsSmall, hnot]

/-! ## Lines -/

theorem join_lines (s : String) : join "\n" (lines s) = s := by
  apply String.toList_injective
  rw [join_eq_intercalate, String.toList_intercalate, lines, split, List.map_map,
    splitChars_eq_splitOn]
  simp [Function.comp_def]

variable {P : List Char → Prop}

/-- What no line end is a part of can be looked for in each line. -/
theorem throughout_join (hnil : P []) (hline : ∀ cs back, P (cs ++ '\n' :: back) ↔ P cs) :
    ∀ parts : List String,
      Throughout P (join "\n" parts).toList ↔ ∀ s ∈ parts, Throughout P s.toList
  | [] => iff_of_true (throughout_nil_iff.2 hnil) nofun
  | [s] => by simp [join]
  | s :: t :: rest => by
    have hparts : (join "\n" (s :: t :: rest)).toList =
        s.toList ++ '\n' :: (join "\n" (t :: rest)).toList := by
      simp [join]
    rw [hparts, throughout_append_cons fun cs => hline cs _, List.forall_mem_cons,
      throughout_join hnil hline (t :: rest)]

/-- No tag begins in the text. -/
def HasNoTag (s : String) : Prop := '<' ∉ s.toList

instance (s : String) : Decidable (HasNoTag s) := inferInstanceAs (Decidable ('<' ∉ s.toList))

theorem HasNoTag.append {s t : String} (hs : HasNoTag s) (ht : HasNoTag t) : HasNoTag (s ++ t) := by
  rw [HasNoTag, String.toList_append, List.mem_append, not_or]
  exact ⟨hs, ht⟩

/-- In a text without a tag a property holds throughout if it holds wherever no tag begins. -/
theorem HasNoTag.throughout {s : String} (h : HasNoTag s) (hnil : P [])
    (hne : ∀ c, c ≠ '<' → ∀ cs, P (c :: cs)) : Throughout P s.toList := by
  have hall := (throughout_append fun c hc => hne c (ne_of_mem_of_not_mem hc h)).2
    (throughout_nil_iff.2 hnil)
  rwa [List.append_nil] at hall

theorem hasNoTag_of_allBlank {s : String} (h : allBlank s = true) : HasNoTag s := by
  intro hmem
  have hblank : isBlank '<' = true := List.all_eq_true.1 h '<' hmem
  exact absurd hblank (by decide)

/-- Whether a mark is small is told within its line. -/
theorem beginsSmall_append_line (hword : word ∈ rawWords) (cs back : List Char) :
    BeginsSmall word (cs ++ '\n' :: back) ↔ BeginsSmall word cs := by
  have hall : ∀ word ∈ rawWords, '\n' ∉ endMark word := by decide
  have hforeign := foreign_of_mem_rawWords (d := '\n') hword (by decide)
  rw [BeginsSmall, BeginsSmall, startsWithWord_append_of_foreign hforeign,
    ← List.isPrefixOf_iff_prefix, ← List.isPrefixOf_iff_prefix,
    isPrefixOf_append_of_notMem (hall word hword)]

theorem hasSmallMarks_join (hword : word ∈ rawWords) (parts : List String) :
    HasSmallMarks word (join "\n" parts).toList ↔ ∀ s ∈ parts, HasSmallMarks word s.toList :=
  throughout_join nofun (beginsSmall_append_line hword) parts

/-- Blank lines at the ends do not matter. -/
theorem hasSmallMarks_trimBlankLines (hword : word ∈ rawWords) (s : String) :
    HasSmallMarks word (join "\n" (trimBlankLines (lines s))).toList ↔
      HasSmallMarks word s.toList := by
  obtain ⟨before, after, hlines, hblank, -, -⟩ := exists_trimBlankLines (lines s)
  have hall := hasSmallMarks_join hword (lines s)
  rw [join_lines] at hall
  rw [hall, hasSmallMarks_join hword]
  constructor
  · intro h l hl
    rw [hlines] at hl
    by_cases hkept : l ∈ trimBlankLines (lines s)
    · exact h l hkept
    · have hend : l ∈ before ++ after := by
        simp only [List.mem_append] at hl ⊢
        tauto
      exact (hasNoTag_of_allBlank (hblank l hend)).throughout nofun fun c hc cs =>
        beginsSmall_of_ne hc
  · intro h l hl
    refine h l ?_
    rw [hlines]
    simp [hl]

/-! ## Module scripts -/

/-- A character that no mark contains keeps the marks on either side apart. -/
theorem fitsInside_append_cons {d : Char} (hword : word ∈ rawWords) (hd : d ∈ foreignChars)
    (front back : List Char) :
    FitsInside word (front ++ d :: back) ↔ FitsInside word front ∧ FitsInside word back :=
  throughout_append_cons fun s => by
    rw [startsWithWord_append_of_foreign (foreign_of_mem_rawWords hword hd)]

/-- Lines fit inside a raw element if each of them does. -/
theorem fitsInside_join (hword : word ∈ rawWords) (parts : List String) :
    FitsInside word (join "\n" parts).toList ↔ ∀ s ∈ parts, FitsInside word s.toList :=
  throughout_join (P := fun s => startsWithWord (endMark word) s = false) rfl
    (fun cs back => by
      rw [startsWithWord_append_of_foreign (foreign_of_mem_rawWords hword (by decide))]) parts

/-- A text without a tag fits inside every raw element. -/
theorem HasNoTag.fitsInside {s : String} (h : HasNoTag s) : FitsInside word s.toList :=
  h.throughout rfl fun _ hc _ => startsWithWord_endMark_of_ne hc

theorem hasNoTag_containerName : HasNoTag containerName := by decide

/-- An end tag in a literal is one in its text. -/
theorem fitsInside_assignment (hword : word ∈ rawWords) (markup : String) :
    FitsInside word s!"{containerName}.innerHTML = {templateLiteral markup false};".toList ↔
      FitsInside word (templateText markup false).toList := by
  have hfront : HasNoTag (containerName ++ ".innerHTML = ") :=
    hasNoTag_containerName.append (by decide)
  have hback : HasNoTag ";" := by decide
  have htext : s!"{containerName}.innerHTML = {templateLiteral markup false};".toList =
      (containerName ++ ".innerHTML = ").toList ++
        '\x60' :: ((templateText markup false).toList.flatMap escapeTemplateChar ++
          '\x60' :: ";".toList) := by
    simp [templateLiteral, quoteTemplate, toString]
  rw [htext, fitsInside_append_cons hword (by decide), fitsInside_append_cons hword (by decide),
    fitsInside_escaped hword, and_iff_right hfront.fitsInside, and_iff_left hback.fitsInside]

/-- Of the statements only the one with the literal can hold an end tag. -/
theorem fitsInside_insertionStatements (hword : word ∈ rawWords) (markup : String) (inBody : Bool) :
    FitsInside word (insertionStatements markup containerName inBody).toList ↔
      FitsInside word (templateText markup false).toList := by
  have hassigned := fitsInside_assignment hword markup
  have hdeclared : HasNoTag s!"const {containerName} = document.createElement('div');" :=
    (HasNoTag.append (by decide) hasNoTag_containerName).append (by decide)
  have hhidden : HasNoTag s!"{containerName}.setAttribute('style', 'display: none;');" :=
    hasNoTag_containerName.append (by decide)
  have hplaced : ∀ place : String, HasNoTag place →
      HasNoTag s!"document.{place}.appendChild({containerName});" := fun place hplace =>
    (((HasNoTag.append (by decide) hplace).append (by decide)).append
      hasNoTag_containerName).append (by decide)
  have hbody := hplaced "body" (by decide)
  have hhead := hplaced "head" (by decide)
  rw [insertionStatements, fitsInside_join hword]
  cases inBody
  · simp only [Bool.false_eq_true, if_false, List.cons_append, List.nil_append,
      List.forall_mem_cons, hdeclared.fitsInside, hhidden.fitsInside, hassigned,
      hhead.fitsInside, true_and]
    exact and_iff_left nofun
  · simp only [if_true, List.cons_append, List.nil_append, List.forall_mem_cons,
      hdeclared.fitsInside, hassigned, hbody.fitsInside, true_and]
    exact and_iff_left nofun

/-- The text of a literal fits inside exactly if all ends of scripts in the markup are in small
letters. -/
theorem fitsInside_templateText (markup : String) :
    FitsInside "script".toList (templateText markup false).toList ↔
      HasSmallMarks "script".toList markup.toList := by
  have hreplaced := fitsInside_replaced script_mem_rawWords
    (Nat.zero_le (join "\n" (trimBlankLines (lines markup))).toList.length)
  rw [List.drop_zero, hasSmallMarks_trimBlankLines script_mem_rawWords] at hreplaced
  have htext : (templateText markup false).toList =
      replaceFrom (endMark "script".toList) (replacedMark "script".toList) 0
        (join "\n" (trimBlankLines (lines markup))).toList := by
    rw [templateText, replaceAll, String.toList_ofList]
    rfl
  rw [htext, hreplaced]

/-- The statements do not end with a line end. -/
theorem trimEnd_insertionStatements (markup : String) (inBody : Bool) :
    trimEnd (· == '\n') (insertionStatements markup containerName inBody) =
      insertionStatements markup containerName inBody := by
  obtain ⟨front, hend⟩ :
      ∃ front, insertionStatements markup containerName inBody = front ++ ");" := by
    cases inBody <;>
      simp only [insertionStatements, join, Bool.false_eq_true, if_true, if_false, List.cons_append,
        List.nil_append, ← String.append_assoc]
    · exact ⟨_, rfl⟩
    · exact ⟨_, rfl⟩
  have hlast : ∀ c ∈ (insertionStatements markup containerName inBody).toList.getLast?,
      (c == '\n') = false := by
    intro c hc
    obtain rfl : ';' = c := by simpa [hend] using hc
    decide
  have hkept := @dropEndWhile_append _ _ [] (by simp) hlast
  rw [List.append_nil] at hkept
  rw [trimEnd, hkept, String.ofList_toList]

/-- The attribute of a script that holds a module. -/
def moduleAttributes : List Attribute := [⟨"type", some "module"⟩]

theorem isNamed_of_mem_moduleAttributes : ∀ a ∈ moduleAttributes, a.IsNamed := by decide +kernel

/-- The module script is a script element around the statements. -/
theorem moduleScript_insertionStatements (markup : String) (inBody : Bool) :
    moduleScript (insertionStatements markup containerName inBody) =
      scriptElement moduleAttributes
        ("\n" ++ insertionStatements markup containerName inBody ++ "\n") := by
  have hend : "\n</script>" = "\n" ++ "</script>" := rfl
  rw [moduleScript, scriptElement, trimEnd_insertionStatements, hend]
  simp [moduleAttributes, String.append_assoc]

/-- The script of inserted markup is read as one element with all its statements exactly if no end
tag begins in the text of the literal. -/
theorem readsAs_moduleScript_iff_fitsInside (markup : String) (inBody : Bool) :
    ReadsAs (moduleScript (insertionStatements markup containerName inBody)) "script"
        [⟨"type", some "module"⟩]
        ("\n" ++ insertionStatements markup containerName inBody ++ "\n") ↔
      FitsInside "script".toList (templateText markup false).toList := by
  have htext : ("\n" ++ insertionStatements markup containerName inBody ++ "\n").toList =
      [] ++ '\n' :: ((insertionStatements markup containerName inBody).toList ++ '\n' :: []) := by
    simp
  have hreads := readsAs_script_iff isNamed_of_mem_moduleAttributes
    ("\n" ++ insertionStatements markup containerName inBody ++ "\n")
  rw [htext, fitsInside_append_cons script_mem_rawWords (by decide),
    fitsInside_append_cons script_mem_rawWords (by decide), and_iff_right fitsInside_nil,
    and_iff_left fitsInside_nil, fitsInside_insertionStatements script_mem_rawWords] at hreads
  rw [moduleScript_insertionStatements]
  exact hreads

/-- The script of inserted markup is read as one element with one attribute and all its statements
exactly if wherever the end tag of a script begins in the markup it does so in small letters. -/
theorem readsAs_moduleScript_iff (markup : String) (inBody : Bool) :
    ReadsAs (moduleScript (insertionStatements markup containerName inBody)) "script"
        [⟨"type", some "module"⟩]
        ("\n" ++ insertionStatements markup containerName inBody ++ "\n") ↔
      ∀ s, s <:+ markup.toList → startsWithWord "</script".toList s = true →
        "</script".toList <+: s :=
  (readsAs_moduleScript_iff_fitsInside markup inBody).trans (fitsInside_templateText markup)

/-- An element of a document with an end tag in capital letters: the script of its markup ends
there. -/
theorem exists_not_readsAs_moduleScript : ∃ d p,
    Document.parse "<div><script>a</SCRIPT></div>" = .ok d ∧ p ∈ d.elements ∧
      ∀ inBody, ¬ReadsAs
        (moduleScript (insertionStatements (d.sourceOf p.element) containerName inBody)) "script"
        [⟨"type", some "module"⟩]
        ("\n" ++ insertionStatements (d.sourceOf p.element) containerName inBody ++ "\n") := by
  have hscan : scan "<div><script>a</SCRIPT></div>" = .ok [⟨0, 5, .startTag "div" [] false⟩,
      ⟨5, 23, .rawElement "script" [] 13 14 "a"⟩, ⟨23, 29, .endTag "div"⟩] := by decide +kernel
  have hparse : Document.parse "<div><script>a</SCRIPT></div>" =
      .ok ⟨"<div><script>a</SCRIPT></div>", [.element ⟨0, 29, "div", [], 5, 23⟩
        [.element ⟨5, 23, "script", [], 13, 14⟩ [.text 13 14 "a"]]]⟩ := by
    simp [Document.parse, hscan, Event.hasLongNumber, EventKind.attributes, nodesOf, Builder.step,
      Builder.add, Builder.closeTag, Builder.finish, Builder.voidTags, push, OpenElement.close]
  have hsource : slice "<div><script>a</SCRIPT></div>" 0 29 = "<div><script>a</SCRIPT></div>" :=
    slice_zero_length _
  refine ⟨_, ⟨[], ⟨0, 29, "div", [], 5, 23⟩, _⟩, hparse, List.mem_cons_self, ?_⟩
  intro inBody hreads
  rw [Document.sourceOf, hsource, readsAs_moduleScript_iff_fitsInside] at hreads
  exact absurd (hreads "</SCRIPT></div>".toList (by decide +kernel)) (by decide)

end HtmlModules.Markup
