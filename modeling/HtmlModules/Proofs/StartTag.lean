import HtmlModules.Proofs.RawElement
import HtmlModules.Proofs.Single
import Mathlib.Data.List.Find

/-!
# Start tags are read back

A start tag whose name is its own lower case is read as it was written, with all its attributes
(`readsAs_startTag`). Only the names of raw elements begin more than a tag, and since other letters
count as those of a word, one more name does (`eq_of_rawWord`). Behind the start tag of a script its
contents are read back if no end tag begins in them (`readsAs_script_iff`).
-/

namespace HtmlModules.Markup

open Text

variable {tag : String} {attributes : List Attribute} {cs more : List Char} {c f : Char}

/-! ## What is written -/

/-- The attributes and the end of a start tag. -/
def behindName (attributes : List Attribute) : List Char :=
  attributes.flatMap (·.text.toList) ++ ['>']

theorem toList_join_empty : ∀ parts : List String, (join "" parts).toList = parts.flatMap (·.toList)
  | [] => rfl
  | [s] => by simp [join]
  | s :: t :: rest => by
    have ih := toList_join_empty (t :: rest)
    simp [join, ih]

theorem toList_startTag (tag : String) (attributes : List Attribute) :
    (startTag tag attributes).toList = '<' :: (tag.toList ++ behindName attributes) := by
  simp [startTag, behindName, toList_join_empty, List.flatMap_map]

/-- A blank or the end of the tag stands behind the name. -/
theorem exists_behindName (attributes : List Attribute) :
    ∃ f more, behindName attributes = f :: more ∧ (f = ' ' ∨ f = '>') := by
  cases attributes with
  | nil => exact ⟨'>', [], rfl, Or.inr rfl⟩
  | cons a attributes =>
    have htext : behindName (a :: attributes) =
        ' ' :: (a.name.toList ++ (a.assigned ++ behindName attributes)) := by
      simp [behindName, a.toList_text]
    exact ⟨' ', _, htext, Or.inl rfl⟩

theorem length_lt_behindName (attributes : List Attribute) :
    attributes.length < (behindName attributes).length := by
  induction attributes with
  | nil => exact Nat.one_pos
  | cons a attributes ih =>
    simp only [behindName, List.flatMap_cons, a.toList_text, List.length_append, List.length_cons]
      at ih ⊢
    omega

theorem tagRest_behindName {fuel last offset : Nat} (hfuel : attributes.length < fuel)
    (h : ∀ a ∈ attributes, a.IsNamed) :
    tagRest fuel last offset (behindName attributes ++ cs) [] =
      .ok ⟨attributes.map Attribute.escaped, false, offset + (behindName attributes).length - 1,
        offset + (behindName attributes).length⟩ := by
  rw [behindName, List.append_assoc, List.singleton_append, tagRest_attributes hfuel h]
  simp [Nat.add_assoc]

/-! ## Names -/

/-- The name of a tag that is its own lower case, so that reading it gives it back. -/
structure IsTagName (tag : String) : Prop where
  letter : tag.toList.head?.any isAsciiLetter = true
  chars : ∀ c ∈ tag.toList, isTagNameChar c = true
  lower : lower tag = tag

theorem isTagName_iff : IsTagName tag ↔ tag.toList.head?.any isAsciiLetter = true ∧
    tag.toList.all isTagNameChar = true ∧ lower tag = tag :=
  ⟨fun h => ⟨h.letter, List.all_eq_true.2 h.chars, h.lower⟩,
    fun h => ⟨h.1, List.all_eq_true.1 h.2.1, h.2.2⟩⟩

instance : Decidable (IsTagName tag) := decidable_of_iff _ isTagName_iff.symm

theorem IsTagName.exists_letter (h : IsTagName tag) :
    ∃ c cs, tag.toList = c :: cs ∧ isAsciiLetter c = true := by
  obtain ⟨c, hhead, hc⟩ := (Option.any_eq_true _ _).1 h.letter
  obtain ⟨cs, hcs⟩ := List.head?_eq_some_iff.1 hhead
  exact ⟨c, cs, hcs, hc⟩

theorem isTagName_script : IsTagName "script" := by decide +kernel

/-- A raw element begins here if its word is the whole name, in any case. -/
theorem rawWord?_name {name : List Char} (hname : ∀ c ∈ name, isTagNameChar c = true)
    (hf : f = ' ' ∨ f = '>') :
    rawWord? ('<' :: (name ++ f :: more)) =
      rawWords.find? fun word => startsWithWord word name && word.length == name.length := by
  refine List.find?_congr fun word hword => ?_
  have hforeign : ∀ w ∈ word, sameLetter w f = false := by
    have hend : f ∈ foreignChars := by
      rcases hf with rfl | rfl <;> decide
    exact fun w hw => foreign_of_mem_rawWords hword hend w (by simp [endMark, hw])
  have hstarts : startsWithWord ('<' :: word) ('<' :: (name ++ f :: more)) =
      startsWithWord word name := by
    rw [startsWithWord, startsWithWord_append_of_foreign hforeign]
    rfl
  rw [hstarts, List.drop_succ_cons, List.head?_drop]
  cases hbegins : startsWithWord word name with
  | false => rfl
  | true =>
    rcases Nat.lt_or_eq_of_le (length_le_of_startsWithWord hbegins) with hlt | heq
    · have hc := hname _ (List.getElem_mem hlt)
      have hne : (word.length == name.length) = false := by simpa using Nat.ne_of_lt hlt
      rw [List.getElem?_append_left hlt, List.getElem?_eq_getElem hlt, hne]
      simp_all [isTagNameChar]
    · rw [heq, List.getElem?_append_right (Nat.le_refl _), Nat.sub_self]
      rcases hf with rfl | rfl
      · have hspace : isBlank ' ' = true := by decide
        simp [hspace]
      · simp

/-! ## Events -/

variable {start : Nat}

/-- Behind `<` and a letter neither a comment nor a declaration nor an end tag begins. -/
theorem not_mark_of_letter (hc : isAsciiLetter c = true) :
    comment? ('<' :: c :: cs) = none ∧ declaration? ('<' :: c :: cs) = none ∧
      endTag? ('<' :: c :: cs) = none := by
  have hbang : c ≠ '!' := by
    rintro rfl
    exact absurd hc (by decide)
  have hslash : c ≠ '/' := by
    rintro rfl
    exact absurd hc (by decide)
  refine ⟨?_, ?_, ?_⟩
  · unfold comment?
    split
    · simp_all
    · rfl
  · unfold declaration?
    split <;> simp_all
  · unfold endTag?
    split
    · simp_all
    · rfl

theorem toList_startTag_append (tag : String) (attributes : List Attribute) (cs : List Char) :
    (startTag tag attributes).toList ++ cs =
      '<' :: (tag.toList ++ (behindName attributes ++ cs)) := by
  rw [toList_startTag, List.cons_append, List.append_assoc]

theorem length_startTag (tag : String) (attributes : List Attribute) :
    (startTag tag attributes).length = tag.length + 1 + (behindName attributes).length := by
  rw [← String.length_toList, toList_startTag, List.length_cons, List.length_append,
    String.length_toList]
  omega

theorem drop_startTag (tag : String) (attributes : List Attribute) (cs : List Char) :
    ((startTag tag attributes).toList ++ cs).drop (tag.length + 1) =
      behindName attributes ++ cs := by
  rw [toList_startTag_append, List.drop_succ_cons, ← String.length_toList, List.drop_left]

theorem tagRest_startTag {last : Nat} (h : ∀ a ∈ attributes, a.IsNamed) :
    tagRest (((startTag tag attributes).toList ++ cs).length + 1) last (start + (tag.length + 1))
      (((startTag tag attributes).toList ++ cs).drop (tag.length + 1)) [] =
      .ok ⟨attributes.map Attribute.escaped, false,
        start + (startTag tag attributes).length - 1,
        start + (startTag tag attributes).length⟩ := by
  have hlength := length_startTag tag attributes
  have hfuel : attributes.length < ((startTag tag attributes).toList ++ cs).length + 1 := by
    have hle := length_lt_behindName attributes
    rw [List.length_append, String.length_toList]
    omega
  rw [drop_startTag, tagRest_behindName hfuel h, hlength, Nat.add_assoc]

/-- Neither a comment nor a declaration nor an end tag begins where a start tag does. -/
theorem not_mark_startTag (htag : IsTagName tag) (attributes : List Attribute) (cs : List Char) :
    comment? ((startTag tag attributes).toList ++ cs) = none ∧
      declaration? ((startTag tag attributes).toList ++ cs) = none ∧
      endTag? ((startTag tag attributes).toList ++ cs) = none := by
  obtain ⟨c, name, hname, hc⟩ := htag.exists_letter
  rw [toList_startTag_append, hname]
  exact not_mark_of_letter hc

theorem tagName?_startTag (htag : IsTagName tag) :
    tagName? ((startTag tag attributes).toList ++ cs) = some tag.toList := by
  obtain ⟨c, name, hname, hc⟩ := htag.exists_letter
  obtain ⟨f, more, hbehind, hf⟩ := exists_behindName attributes
  have hstop : isTagNameChar f = false := by rcases hf with rfl | rfl <;> decide
  have htake : (name ++ (behindName attributes ++ cs)).takeWhile isTagNameChar = name := by
    refine takeWhile_append_of_head? (fun d hd => htag.chars d (by simp [hname, hd])) ?_
    simp [hbehind, hstop]
  rw [toList_startTag_append, hname, List.cons_append, tagName?, if_pos hc, htake]

theorem rawWord?_startTag (htag : IsTagName tag) (attributes : List Attribute) (cs : List Char) :
    rawWord? ((startTag tag attributes).toList ++ cs) =
      rawWords.find? fun word =>
        startsWithWord word tag.toList && word.length == tag.toList.length := by
  obtain ⟨f, more, hbehind, hf⟩ := exists_behindName attributes
  rw [toList_startTag_append, hbehind, List.cons_append, rawWord?_name htag.chars hf]

/-- Behind a name with which no raw element begins the tag is read as it was written. -/
theorem scanEvent_startTag (start : Nat) (htag : IsTagName tag) (h : ∀ a ∈ attributes, a.IsNamed)
    (hraw : rawWord? ((startTag tag attributes).toList ++ cs) = none) :
    scanEvent start ((startTag tag attributes).toList ++ cs) =
      .ok ⟨start, start + (startTag tag attributes).length,
        .startTag tag (attributes.map Attribute.escaped) false⟩ := by
  obtain ⟨hcomment, hdeclaration, hend⟩ := not_mark_startTag htag attributes cs
  simp only [scanEvent, hcomment, hdeclaration, hraw, hend, tagName?_startTag htag,
    String.length_toList, tagRest_startTag h, String.ofList_toList, htag.lower]
  rfl

/-- Behind the start tag of a raw element its contents follow. -/
theorem scanEvent_rawElement (start : Nat) {word : List Char} (htag : IsTagName tag)
    (h : ∀ a ∈ attributes, a.IsNamed)
    (hraw : rawWord? ((startTag tag attributes).toList ++ cs) = some word)
    (hlength : word.length = tag.length) :
    scanEvent start ((startTag tag attributes).toList ++ cs) =
      rawRest word tag start ⟨attributes.map Attribute.escaped, false,
        start + (startTag tag attributes).length - 1,
        start + (startTag tag attributes).length⟩ cs := by
  obtain ⟨hcomment, hdeclaration, -⟩ := not_mark_startTag htag attributes cs
  have hname : (((startTag tag attributes).toList ++ cs).take (tag.length + 1)).drop 1 =
      tag.toList := by
    rw [toList_startTag_append, List.take_succ_cons, ← String.length_toList, List.take_left,
      List.drop_one, List.tail_cons]
  have hrest : ((startTag tag attributes).toList ++ cs).drop
      (start + (startTag tag attributes).length - start) = cs := by
    rw [Nat.add_sub_cancel_left, ← String.length_toList, List.drop_left]
  simp only [scanEvent, hcomment, hdeclaration, hraw, hlength, tagRest_startTag h, hname,
    String.ofList_toList, htag.lower]
  change rawRest word tag start _ (((startTag tag attributes).toList ++ cs).drop
      (start + (startTag tag attributes).length - start)) = _
  rw [hrest]

/-! ## Script elements -/

/-- A script with these attributes and these contents. -/
def scriptElement (attributes : List Attribute) (body : String) : String :=
  startTag "script" attributes ++ body ++ "</script>"

theorem rawWord?_script (attributes : List Attribute) (cs : List Char) :
    rawWord? ((startTag "script" attributes).toList ++ cs) = some "script".toList := by
  rw [rawWord?_startTag isTagName_script]
  decide

theorem script_mem_rawWords : "script".toList ∈ rawWords := by decide

theorem scanEvent_scriptElement (h : ∀ a ∈ attributes, a.IsNamed) (body : String) :
    scanEvent 0 (scriptElement attributes body).toList =
      rawRest "script".toList "script" 0 ⟨attributes.map Attribute.escaped, false,
        (startTag "script" attributes).length - 1, (startTag "script" attributes).length⟩
        (body.toList ++ endTag "script".toList) := by
  have htext : (scriptElement attributes body).toList =
      (startTag "script" attributes).toList ++ (body.toList ++ endTag "script".toList) := by
    simp [scriptElement, endTag, endMark]
  rw [htext, scanEvent_rawElement 0 isTagName_script h (rawWord?_script attributes _) rfl,
    Nat.zero_add]

theorem length_scriptElement (attributes : List Attribute) (body : String) :
    (scriptElement attributes body).length =
      (startTag "script" attributes).length + body.length + 9 := by
  simp [scriptElement]
  rfl

theorem slice_scriptElement (attributes : List Attribute) (body : String) :
    slice (scriptElement attributes body) (startTag "script" attributes).length
      ((startTag "script" attributes).length + body.length) = body := by
  have htext : (scriptElement attributes body).toList =
      (startTag "script" attributes).toList ++ (body.toList ++ "</script>".toList) := by
    rw [scriptElement, String.toList_append, String.toList_append, List.append_assoc]
  apply String.toList_injective
  rw [toList_slice, Nat.add_sub_cancel_left, htext,
    ← String.length_toList (s := startTag "script" attributes), List.drop_left,
    ← String.length_toList, List.take_left]

/-- A script is read as one element with its contents exactly if no end tag begins in them. -/
theorem readsAs_script_iff (h : ∀ a ∈ attributes, a.IsNamed) (body : String) :
    ReadsAs (scriptElement attributes body) "script" attributes body ↔
      FitsInside "script".toList body.toList := by
  have hlength := length_scriptElement attributes body
  have hscan := scanEvent_scriptElement h body
  constructor
  · rintro ⟨d, e, cs, hparse, hnodes, -, -, hinner⟩
    by_contra hfits
    obtain ⟨ev, events, hev, rfl⟩ := exists_scanEvent_of_parse hparse (by omega)
    obtain ⟨n, hn, stop, text, rfl⟩ := rawRest_of_not_fitsInside hfits (hscan.symm.trans hev)
    obtain ⟨ms, hms⟩ := exists_nodesOf_rawElement "script" attributes
    obtain ⟨hnode, -⟩ := List.cons.inj (hms.symm.trans hnodes)
    obtain ⟨rfl, -⟩ := Node.element.inj hnode
    replace hinner : slice (scriptElement attributes body) (startTag "script" attributes).length
      ((startTag "script" attributes).length + n) = body := hinner
    have hshort := congrArg String.length hinner
    rw [String.length_toList] at hn
    rw [length_slice (by omega)] at hshort
    omega
  · intro hfits
    rw [rawRest_of_fitsInside script_mem_rawWords hfits, String.length_toList] at hscan
    exact readsAs_of_single hscan hlength.symm (by omega) (hasLongNumber_of_escaped rfl)
      nodesOf_rawElement (slice_scriptElement attributes body)

/-! ## Other elements -/

theorem toLower_of_not_ascii (hc : ¬c.toNat < 0x80) : c.toLower = c := by
  unfold Char.toLower
  rw [dif_neg]
  rintro ⟨-, hle⟩
  have hz : c.toNat ≤ 0x5A := hle
  omega

/-- A letter of a name that is its own lower case is no capital letter. -/
theorem lowerFrom_eq_cons {before : List Char} (h : lowerFrom before (c :: cs) = c :: cs) :
    c.toLower = c ∧ c ≠ '\u0130' ∧ lowerFrom (c :: before) cs = cs := by
  rw [lowerFrom] at h
  split_ifs at h with hsigma hfinal
  · obtain ⟨hhead, -⟩ := List.cons.inj h
    exact absurd (hhead.trans (beq_iff_eq.1 hsigma)) (by decide)
  · obtain ⟨hhead, -⟩ := List.cons.inj h
    exact absurd (hhead.trans (beq_iff_eq.1 hsigma)) (by decide)
  · unfold lowerChar at h
    split_ifs at h with hascii hdotted
    · obtain ⟨hhead, htail⟩ := List.cons.inj h
      refine ⟨hhead, ?_, htail⟩
      rintro rfl
      exact absurd hascii (by decide)
    · obtain ⟨hhead, -⟩ := List.cons.inj h
      exact absurd (hhead ▸ hdotted) (by decide)
    · obtain ⟨-, htail⟩ := List.cons.inj h
      refine ⟨toLower_of_not_ascii hascii, ?_, htail⟩
      rintro rfl
      exact absurd rfl hdotted

/-- The letter `c`, or another small letter that counts as the same. -/
def Resembles (w c : Char) : Prop := c = w ∨ w = 's' ∧ c = '\u017F' ∨ w = 'i' ∧ c = '\u0131'

/-- A name that is its own lower case begins with a word only if its letters resemble it. -/
theorem forall₂_of_startsWithWord :
    ∀ {word cs before : List Char}, lowerFrom before cs = cs → word.length = cs.length →
      startsWithWord word cs = true → List.Forall₂ Resembles word cs
  | [], [], _, _, _, _ => .nil
  | w :: word, c :: cs, before, hlower, hlength, h => by
    obtain ⟨hsmall, hdotted, hrest⟩ := lowerFrom_eq_cons hlower
    obtain ⟨hletter, hword⟩ := Bool.and_eq_true_iff.1 h
    refine .cons ?_ (forall₂_of_startsWithWord hrest (Nat.succ.inj hlength) hword)
    unfold sameLetter at hletter
    rw [hsmall] at hletter
    unfold Resembles
    grind

/-- The name with which a script begins although it is not that of one. -/
def dotlessScript : String := "scr\u0131pt"

/-- The names with which raw elements begin. -/
theorem eq_of_rawWord {word : List Char} (htag : IsTagName tag) (hword : word ∈ rawWords)
    (hstarts : startsWithWord word tag.toList = true) (hlength : word.length = tag.toList.length) :
    tag = "script" ∨ tag = "style" ∨ tag = dotlessScript := by
  have hlower : lowerFrom [] tag.toList = tag.toList := by
    have hlower := congrArg String.toList htag.lower
    rwa [lower, String.toList_ofList] at hlower
  have hresembles := forall₂_of_startsWithWord hlower hlength hstarts
  obtain ⟨c, name, hname, hc⟩ := htag.exists_letter
  have hletter : c ≠ '\u017F' := by
    rintro rfl
    exact absurd hc (by decide)
  simp only [rawWords, List.mem_cons, List.not_mem_nil, or_false] at hword
  rcases hword with rfl | rfl
  · have hspelled : (name = ['c', 'r', 'i', 'p', 't'] ∨ name = ['c', 'r', '\u0131', 'p', 't']) ∧
        c = 's' := by
      simpa [Resembles, List.forall₂_cons_left_iff, hname, hletter] using hresembles
    obtain ⟨rfl | rfl, rfl⟩ := hspelled
    · exact Or.inl (String.toList_injective hname)
    · exact Or.inr (Or.inr (String.toList_injective hname))
  · have hspelled : c = 's' ∧ name = ['t', 'y', 'l', 'e'] := by
      simpa [Resembles, List.forall₂_cons_left_iff, hname, hletter] using hresembles
    obtain ⟨rfl, rfl⟩ := hspelled
    exact Or.inr (Or.inl (String.toList_injective hname))

/-- A start tag by itself is read as it was written, unless a raw element begins with it. -/
theorem readsAs_startTag (htag : IsTagName tag) (h : ∀ a ∈ attributes, a.IsNamed)
    (hscript : tag ≠ "script") (hstyle : tag ≠ "style") (hdotless : tag ≠ dotlessScript) :
    ReadsAs (startTag tag attributes) tag attributes "" := by
  have hraw : rawWord? ((startTag tag attributes).toList ++ []) = none := by
    rw [rawWord?_startTag htag, List.find?_eq_none]
    intro word hword hstarts
    obtain ⟨hstarts, hlength⟩ := Bool.and_eq_true_iff.1 hstarts
    rcases eq_of_rawWord htag hword hstarts (beq_iff_eq.1 hlength) with heq | heq | heq
    · exact hscript heq
    · exact hstyle heq
    · exact hdotless heq
  have hscan := scanEvent_startTag 0 htag h hraw
  rw [List.append_nil, Nat.zero_add] at hscan
  have hpos : 0 < (startTag tag attributes).length := by
    rw [length_startTag]
    omega
  exact readsAs_of_single hscan rfl hpos (hasLongNumber_of_escaped rfl) nodesOf_startTag
    (slice_self _ _)

/-- With a dotless `i` the name counts as that of a script, whose end tag is missed. -/
theorem not_readsAs_dotlessScript (h : ∀ a ∈ attributes, a.IsNamed) (inner : String) :
    ¬ReadsAs (startTag dotlessScript attributes) dotlessScript attributes inner := by
  rintro ⟨d, e, cs, hparse, -⟩
  have htag : IsTagName dotlessScript := by decide +kernel
  have hlength : "script".toList.length = dotlessScript.length := by decide
  have hraw : rawWord? ((startTag dotlessScript attributes).toList ++ []) =
      some "script".toList := by
    rw [rawWord?_startTag htag]
    decide
  have hpos : 0 < (startTag dotlessScript attributes).length := by
    rw [length_startTag]
    omega
  obtain ⟨ev, events, hev, -⟩ := exists_scanEvent_of_parse hparse hpos
  have hscan := scanEvent_rawElement 0 htag h hraw hlength
  rw [List.append_nil, hev] at hscan
  cases hscan

/-- Whatever the values of its attributes are, a start tag is read as it was written, also that of a
script with its end tag. Only the name with a dotless `i` is taken for that of a script. -/
theorem readsAs_startTag_iff (htag : IsTagName tag) (h : ∀ a ∈ attributes, a.IsNamed) :
    ReadsAs (startTag "script" attributes ++ "</script>") "script" attributes "" ∧
      (tag ≠ "script" → tag ≠ "style" →
        (ReadsAs (startTag tag attributes) tag attributes "" ↔ tag ≠ "scr\u0131pt")) := by
  constructor
  · have hscript := (readsAs_script_iff h "").2 fitsInside_nil
    rwa [scriptElement, String.append_empty] at hscript
  · intro hscript hstyle
    refine ⟨?_, readsAs_startTag htag h hscript hstyle⟩
    rintro hreads rfl
    exact not_readsAs_dotlessScript h "" hreads

/-- Values with quotes, references, blanks and tags in them, an empty one and a name without one. -/
def quotedAttributes : List Attribute :=
  [⟨"a", some "\"&quot;&amp&#34;\n'<b>&lt"⟩, ⟨"b", none⟩, ⟨"a", some ""⟩]

theorem readsAs_startTag_quoted : IsTagName "x-<\"a" ∧ (∀ a ∈ quotedAttributes, a.IsNamed) ∧
    ReadsAs (startTag "script" quotedAttributes ++ "</script>") "script" quotedAttributes "" ∧
    ReadsAs (startTag "x-<\"a" quotedAttributes) "x-<\"a" quotedAttributes "" := by
  have htag : IsTagName "x-<\"a" := by decide +kernel
  have hattributes : ∀ a ∈ quotedAttributes, a.IsNamed := by decide +kernel
  obtain ⟨hscript, hother⟩ := readsAs_startTag_iff htag hattributes
  exact ⟨htag, hattributes, hscript, (hother (by decide) (by decide)).2 (by decide)⟩

/-- There is a name that is neither that of a script nor that of a style sheet, and still its start
tag is not read as it was written. -/
theorem exists_not_readsAs_startTag : ∃ tag, IsTagName tag ∧ tag ≠ "script" ∧ tag ≠ "style" ∧
    ∀ inner, ¬ReadsAs (startTag tag []) tag [] inner :=
  ⟨dotlessScript, by decide +kernel, by decide, by decide,
    not_readsAs_dotlessScript fun _ ha => absurd ha List.not_mem_nil⟩

end HtmlModules.Markup
