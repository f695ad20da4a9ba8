import HtmlModules.Proofs.Scanning

/-!
# Template literals stand for their text

Three characters mean something inside a template literal. A backslash goes in front of each of
them, so none is left that is not escaped (`mem_unescaped`), the scanner of scripts reads the literal
as one template without substitutions (`isTemplate_quoteTemplate`), and what it stands for is the
text that it was made of (`cooked_flatMap_escape`). For markup this is its lines without the blank
ones at both ends (`templateLiteral_cooked`).
-/

namespace HtmlModules

namespace Text

/-- To replace a single character is to rewrite each character by itself. -/
theorem replaceFrom_singleton (p : Char) (rep : List Char) :
    ∀ cs : List Char, replaceFrom [p] rep 0 cs = cs.flatMap fun c => if c = p then rep else [c]
  | [] => rfl
  | c :: cs => by
    rw [replaceFrom, List.flatMap_cons, List.length_singleton, Nat.sub_self,
      replaceFrom_singleton p rep cs]
    by_cases hc : c = p
    · simp [hc]
    · simp [hc, Ne.symm hc]

variable {pat rep : List Char} {c : Char} {more : List Char}

/-- A character that the pattern lacks ends the comparison. -/
theorem isPrefixOf_append_of_notMem :
    ∀ {pat : List Char}, c ∉ pat → ∀ cs : List Char,
      pat.isPrefixOf (cs ++ c :: more) = pat.isPrefixOf cs
  | [], _, _ => by rw [List.isPrefixOf_nil_left, List.isPrefixOf_nil_left]
  | p :: pat, hc, [] => by
    have hp : (p == c) = false := by simpa using (List.ne_of_not_mem_cons hc).symm
    rw [List.nil_append, List.isPrefixOf_cons_cons, hp, Bool.false_and, List.isPrefixOf_cons_nil]
  | p :: pat, hc, d :: cs => by
    rw [List.cons_append, List.isPrefixOf_cons_cons, List.isPrefixOf_cons_cons,
      isPrefixOf_append_of_notMem (List.not_mem_of_not_mem_cons hc) cs]

/-- A character that is not part of the pattern divides what is replaced in front of it from what is
replaced behind it. -/
theorem replaceFrom_append_of_notMem (hpat : pat ≠ []) (hc : c ∉ pat) :
    ∀ {skip : Nat} {cs : List Char}, skip ≤ cs.length →
      replaceFrom pat rep skip (cs ++ c :: more) =
        replaceFrom pat rep skip cs ++ c :: replaceFrom pat rep 0 more
  | 0, [], _ => by
    have hprefix : pat.isPrefixOf (c :: more) = false := by
      obtain ⟨p, pat, rfl⟩ := List.exists_cons_of_ne_nil hpat
      exact isPrefixOf_append_of_notMem hc []
    rw [List.nil_append, replaceFrom, replaceFrom, hprefix]
    rfl
  | skip + 1, d :: cs, h => by
    rw [List.cons_append, replaceFrom, replaceFrom]
    exact replaceFrom_append_of_notMem hpat hc (Nat.le_of_succ_le_succ h)
  | 0, d :: cs, _ => by
    rw [List.cons_append, replaceFrom, replaceFrom, ← List.cons_append,
      isPrefixOf_append_of_notMem hc]
    split_ifs with hprefix
    · have hlength := (List.isPrefixOf_iff_prefix.1 hprefix).length_le
      rw [List.length_cons] at hlength
      rw [replaceFrom_append_of_notMem hpat hc (by omega), List.append_assoc]
    · rw [replaceFrom_append_of_notMem hpat hc (Nat.zero_le _), List.cons_append]

end Text

namespace Script

open Text

/-! ## Escapes -/

/-- The text that the inside of a template literal stands for: of a backslash and what follows it
only the latter counts. -/
def cooked : List Char → List Char
  | '\\' :: c :: cs => c :: cooked cs
  | c :: cs => c :: cooked cs
  | [] => []

/-- The characters inside a template literal that are neither a backslash in front of another
character nor behind one. -/
def unescaped : List Char → List Char
  | '\\' :: _ :: cs => unescaped cs
  | c :: cs => c :: unescaped cs
  | [] => []

/-- A character other than the backslash stands for itself. -/
theorem cooked_cons {c : Char} (h : c ≠ '\\') (cs : List Char) :
    cooked (c :: cs) = c :: cooked cs := by
  rw [cooked]
  rintro d ds rfl
  exact absurd rfl h

/-- A character other than the backslash is not escaped. -/
theorem unescaped_cons {c : Char} (h : c ≠ '\\') (cs : List Char) :
    unescaped (c :: cs) = c :: unescaped cs := by
  rw [unescaped]
  rintro d ds rfl
  exact absurd rfl h

/-- The escaped text stands for the text. -/
theorem cooked_flatMap_escape (cs : List Char) : cooked (cs.flatMap escapeTemplateChar) = cs := by
  induction cs with
  | nil => rfl
  | cons c cs ih =>
    rw [List.flatMap_cons, escapeTemplateChar_eq]
    split_ifs with hspecial
    · simp [cooked, ih]
    · rw [List.singleton_append, cooked_cons fun hc => hspecial (Or.inl hc), ih]

/-- No special character of the escaped text stands by itself. -/
theorem mem_unescaped {c : Char} {cs : List Char}
    (h : c ∈ unescaped (cs.flatMap escapeTemplateChar)) : ¬IsSpecial c := by
  induction cs with
  | nil => cases h
  | cons d cs ih =>
    rw [List.flatMap_cons, escapeTemplateChar_eq] at h
    split_ifs at h with hspecial
    · exact ih (by simpa [unescaped] using h)
    · rw [List.singleton_append, unescaped_cons fun hd => hspecial (Or.inl hd)] at h
      rcases List.mem_cons.1 h with rfl | h
      · exact hspecial
      · exact ih h

/-! ## Scanning -/

/-- The text is one template without substitutions, and this is what stands between its quotes. -/
def IsTemplate (text interior : String) : Prop :=
  ∃ t c, nextToken (Cursor.ofText text) = .ok (t, c) ∧ c.rest = [] ∧
    t.kind = .template ∧ t.head = true ∧ t.tail = true ∧ t.value = interior

/-- What is quoted is scanned as one whole template. -/
theorem scanTemplate_quote {text : String} {c : Cursor}
    (hrest : c.rest = (quoteTemplate text).toList) :
    ∃ t next, scanTemplate c = .ok (t, next) ∧ next.rest = [] ∧
      t.kind = .template ∧ t.head = true ∧ t.tail = true ∧
      t.value = String.ofList (text.toList.flatMap escapeTemplateChar) := by
  have hquoted : c.rest = '\x60' :: (text.toList.flatMap escapeTemplateChar ++ ['\x60']) := by
    simp [hrest, quoteTemplate]
  have hskip : (c.skip 1).rest = text.toList.flatMap escapeTemplateChar ++ ['\x60'] := by
    rw [rest_skip, hquoted, List.drop_one, List.tail_cons]
  have hfuel : (c.skip 1).rest.length < c.rest.length + 1 := by
    rw [hskip, hquoted, List.length_cons]
    omega
  obtain ⟨next, hbody, hend, hsum⟩ := templateBody_escaped hfuel hskip
  have hwidth : next.offset - c.offset - 2 = (text.toList.flatMap escapeTemplateChar).length := by
    have hoffset : (c.skip 1).offset = c.offset + 1 := rfl
    simp only [hoffset, hskip, hend, List.length_append, List.length_cons, List.length_nil] at hsum
    omega
  have hquote : (c.char == '\x60') = true := by simp [Cursor.char, hquoted]
  have hraw : (c.rest.drop 1).take (next.offset - c.offset - 2) =
      text.toList.flatMap escapeTemplateChar := by
    rw [hwidth, ← rest_skip, hskip, List.take_left]
  rw [scanTemplate, hbody]
  refine ⟨_, _, rfl, ?_⟩
  exact ⟨hend, rfl, hquote, rfl, congrArg String.ofList hraw⟩

/-- A template literal is read as one template, and nothing is left of it. -/
theorem isTemplate_quoteTemplate (text : String) : IsTemplate (quoteTemplate text)
    (String.ofList (text.toList.flatMap escapeTemplateChar)) := by
  have hrest := rest_ofText (quoteTemplate text)
  have hquoted : (quoteTemplate text).toList =
      '\x60' :: (text.toList.flatMap escapeTemplateChar ++ ['\x60']) := by
    simp [quoteTemplate]
  obtain ⟨t, next, hscan, hend, ht⟩ := scanTemplate_quote hrest
  exact ⟨t, next, (nextToken_quote (hrest.trans hquoted)).trans hscan, hend, ht⟩

/-! ## Markup -/

/-- What is trimmed off the ends of a list of lines is blank, and no end of the rest is. -/
theorem exists_trimBlankLines (ls : List String) :
    ∃ before after, ls = before ++ trimBlankLines ls ++ after ∧
      (∀ l ∈ before ++ after, allBlank l = true) ∧
      (∀ l ∈ (trimBlankLines ls).head?, allBlank l = false) ∧
      ∀ l ∈ (trimBlankLines ls).getLast?, allBlank l = false := by
  have htrim : trimBlankLines ls = (ls.dropWhile allBlank).rdropWhile allBlank := rfl
  refine ⟨ls.takeWhile allBlank, (ls.dropWhile allBlank).rtakeWhile allBlank, ?_, ?_, ?_, ?_⟩
  · rw [htrim, List.append_assoc, List.rdropWhile_append_rtakeWhile,
      List.takeWhile_append_dropWhile]
  · intro l hl
    rcases List.mem_append.1 hl with hl | hl
    · exact List.mem_takeWhile_imp hl
    · exact List.mem_rtakeWhile_imp hl
  · intro l hl
    obtain ⟨after, hafter⟩ := List.rdropWhile_prefix allBlank (ls.dropWhile allBlank)
    have hhead : (ls.dropWhile allBlank).head? = some l := by
      rw [← hafter, ← htrim, List.head?_append, Option.mem_def.1 hl, Option.some_or]
    simpa [hhead] using List.head?_dropWhile_not allBlank ls
  · intro l hl
    obtain ⟨hne, rfl⟩ := List.mem_getLast?_eq_getLast hl
    simpa [htrim] using List.rdropWhile_last_not allBlank _ hne

/-- Line ends are not part of what is replaced. -/
theorem replaceAll_between_lines (s : String) :
    replaceAll ("\n" ++ s ++ "\n") "</script" "&lt;/script" =
      "\n" ++ replaceAll s "</script" "&lt;/script" ++ "\n" := by
  have hpat : "</script".toList ≠ [] := by decide
  have hline : '\n' ∉ "</script".toList := by decide
  have hlines : ("\n" ++ s ++ "\n").toList = [] ++ '\n' :: (s.toList ++ '\n' :: []) := by simp
  apply String.toList_injective
  rw [replaceAll, String.toList_ofList, hlines,
    replaceFrom_append_of_notMem hpat hline (Nat.zero_le _),
    replaceFrom_append_of_notMem hpat hline (Nat.zero_le _)]
  simp [replaceAll, replaceFrom]

/-- The text of a template is its markup between blank lines, with the closing tags of scripts
defused. -/
theorem templateText_eq (markup : String) (addNewlines : Bool) :
    templateText markup addNewlines =
      (if addNewlines then "\n" else "") ++
        replaceAll (join "\n" (trimBlankLines (lines markup))) "</script" "&lt;/script" ++
        (if addNewlines then "\n" else "") := by
  cases addNewlines with
  | false => simp [templateText]
  | true => exact replaceAll_between_lines _

/-- A template literal is one template without substitutions and without special characters that are
not escaped. It stands for the lines of the markup without the blank ones at both ends. -/
theorem templateLiteral_cooked (markup : String) (addNewlines : Bool) :
    ∃ interior before kept after,
      templateLiteral markup addNewlines = "\x60" ++ interior ++ "\x60" ∧
      IsTemplate (templateLiteral markup addNewlines) interior ∧
      (∀ c ∈ unescaped interior.toList, c ≠ '\\' ∧ c ≠ '\x60' ∧ c ≠ '$') ∧
      lines markup = before ++ kept ++ after ∧
      (∀ l ∈ before ++ after, allBlank l = true) ∧
      (∀ l ∈ kept.head?, allBlank l = false) ∧ (∀ l ∈ kept.getLast?, allBlank l = false) ∧
      String.ofList (cooked interior.toList) =
        (if addNewlines then "\n" else "") ++
          replaceAll (join "\n" kept) "</script" "&lt;/script" ++
          (if addNewlines then "\n" else "") := by
  obtain ⟨before, after, hlines, hblank, hhead, hlast⟩ := exists_trimBlankLines (lines markup)
  refine ⟨String.ofList ((templateText markup addNewlines).toList.flatMap escapeTemplateChar),
    before, _, after, rfl, isTemplate_quoteTemplate _, fun c hc => ?_, hlines, hblank, hhead, hlast,
    ?_⟩
  · rw [String.toList_ofList] at hc
    have hplain := mem_unescaped hc
    rw [IsSpecial, not_or, not_or] at hplain
    exact hplain
  · rw [String.toList_ofList, cooked_flatMap_escape, String.ofList_toList]
    exact templateText_eq markup addNewlines

end Script

end HtmlModules
