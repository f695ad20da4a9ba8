import HtmlModules.Proofs.Event

/-!
# The contents of raw elements

The contents of a raw element go up to the place where its end tag begins, in any case. A text in
which no end tag begins fits inside: it is read to its end (`rawRest_of_fitsInside`). Of any other
text only a part is read (`rawRest_of_not_fitsInside`).
-/

namespace HtmlModules.Markup

open Text

variable {word cs more : List Char} {c : Char}

/-! ## Words in any case -/

/-- No word goes on behind a character that is not one of its letters. -/
theorem startsWithWord_append_of_foreign :
    ∀ {word : List Char}, (∀ w ∈ word, sameLetter w c = false) → ∀ cs : List Char,
      startsWithWord word (cs ++ c :: more) = startsWithWord word cs
  | [], _, _ => by rw [startsWithWord, startsWithWord]
  | w :: word, h, [] => by
    rw [List.nil_append, startsWithWord, startsWithWord, h w List.mem_cons_self, Bool.false_and]
  | w :: word, h, d :: cs => by
    rw [List.cons_append, startsWithWord, startsWithWord,
      startsWithWord_append_of_foreign (fun v hv => h v (List.mem_cons_of_mem w hv)) cs]

/-- Only `<` counts as the beginning of a tag. -/
theorem eq_of_sameLetter_mark (h : sameLetter '<' c = true) : c = '<' := by
  have hlower : '<' = c.toLower := by simpa [sameLetter] using h
  unfold Char.toLower at hlower
  split at hlower
  -- A capital letter moves behind all of them.
  · next hcapital =>
    have hval : '<'.val.toNat = (c.val + ('a'.val - 'A'.val)).toNat :=
      congrArg UInt32.toNat (congrArg Char.val hlower)
    have hge : 65 ≤ c.val.toNat := hcapital.1
    have hle : c.val.toNat ≤ 90 := hcapital.2
    have hdistance : ('a'.val - 'A'.val).toNat = 32 := by decide
    have hmark : '<'.val.toNat = 60 := by decide
    rw [UInt32.toNat_add, hdistance, hmark] at hval
    omega
  · exact hlower.symm

/-- What the end tag of a raw element begins with. -/
def endMark (word : List Char) : List Char := '<' :: '/' :: word

theorem startsWithWord_endMark_of_ne (hc : c ≠ '<') :
    startsWithWord (endMark word) (c :: cs) = false := by
  rw [endMark, startsWithWord, Bool.eq_false_iff.2 fun h => hc (eq_of_sameLetter_mark h),
    Bool.false_and]

/-! ## Places in a text -/

/-- The property holds of what begins at any place of a text. -/
def Throughout (P : List Char → Prop) (cs : List Char) : Prop := ∀ s, s <:+ cs → P s

variable {P : List Char → Prop} {front back : List Char}

theorem throughout_nil_iff : Throughout P [] ↔ P [] := by
  simp [Throughout]

theorem throughout_cons_iff : Throughout P (c :: cs) ↔ P (c :: cs) ∧ Throughout P cs := by
  constructor
  · intro h
    exact ⟨h _ List.suffix_rfl, fun s hs => h s (hs.trans (List.suffix_cons c cs))⟩
  · rintro ⟨hc, hcs⟩ s hs
    rcases List.suffix_cons_iff.1 hs with rfl | hs
    · exact hc
    · exact hcs s hs

/-- If nothing that the property is about goes on behind a character, then the text in front of it
and the text behind it can be looked at by themselves. -/
theorem throughout_append_cons (hc : ∀ s, P (s ++ c :: back) ↔ P s) :
    Throughout P (front ++ c :: back) ↔ Throughout P front ∧ Throughout P back := by
  induction front with
  | nil =>
    rw [List.nil_append, throughout_cons_iff, throughout_nil_iff, ← hc [], List.nil_append]
  | cons d front ih =>
    rw [List.cons_append, throughout_cons_iff, throughout_cons_iff, ih, ← List.cons_append, hc,
      and_assoc]

/-- Places at which the property holds anyway need no look. -/
theorem throughout_append (hfront : ∀ c ∈ front, ∀ s, P (c :: s)) :
    Throughout P (front ++ back) ↔ Throughout P back := by
  induction front with
  | nil => rw [List.nil_append]
  | cons c front ih =>
    rw [List.cons_append, throughout_cons_iff, ih fun d hd => hfront d (List.mem_cons_of_mem c hd)]
    exact and_iff_right (hfront c List.mem_cons_self _)

/-- The text can stand in a raw element: nowhere in it an end tag of the element begins. -/
def FitsInside (word : List Char) : List Char → Prop :=
  Throughout fun s => startsWithWord (endMark word) s = false

theorem fitsInside_nil : FitsInside word [] := throughout_nil_iff.2 rfl

/-! ## Contents -/

/-- The text of a raw element goes on up to the first mark. -/
theorem rawText_cons : rawText word (c :: cs) =
    if startsWithWord (endMark word) (c :: cs) then [] else c :: rawText word cs := by
  rw [rawText, endMark]

/-- Characters that count as no part of the end tag of a raw element. -/
def foreignChars : List Char := [' ', '>', '\\', '\x60', '$', '&', '\n']

theorem foreign_of_mem_rawWords {d : Char} (hword : word ∈ rawWords) (hd : d ∈ foreignChars) :
    ∀ w ∈ endMark word, sameLetter w d = false := by
  have hall : ∀ word ∈ rawWords,
      (foreignChars.all fun d => (endMark word).all (!sameLetter · d)) = true := by decide
  have hchars := List.all_eq_true.1 (hall word hword) d hd
  intro w hw
  simpa using List.all_eq_true.1 hchars w hw

/-- A raw word spells itself, and the end tag behind it does not go on with the beginning of
another one. -/
theorem endMark_of_mem_rawWords (hword : word ∈ rawWords) :
    startsWithWord (endMark word) (endMark word) = true ∧
      ∀ w ∈ '/' :: word, sameLetter w '<' = false := by
  have hall : ∀ word ∈ rawWords, startsWithWord (endMark word) (endMark word) = true ∧
      ('/' :: word).all (!sameLetter · '<') = true := by decide
  obtain ⟨hitself, hchars⟩ := hall word hword
  refine ⟨hitself, fun w hw => ?_⟩
  simpa using List.all_eq_true.1 hchars w hw

/-- An end tag begins in front of another one only if it begins there alone. -/
theorem startsWithWord_cons_append (hword : word ∈ rawWords) (c : Char) (cs more : List Char) :
    startsWithWord (endMark word) (c :: cs ++ (endMark word ++ more)) =
      startsWithWord (endMark word) (c :: cs) := by
  rw [endMark, List.cons_append, List.cons_append, startsWithWord, startsWithWord,
    startsWithWord_append_of_foreign (endMark_of_mem_rawWords hword).2]

/-- A text that fits inside is read up to the end tag behind it. -/
theorem rawText_append (hword : word ∈ rawWords) (h : FitsInside word cs) :
    rawText word (cs ++ (endMark word ++ more)) = cs := by
  induction cs with
  | nil =>
    rw [List.nil_append]
    exact rawText_cons.trans (if_pos (startsWithWord_append (endMark_of_mem_rawWords hword).1))
  | cons c cs ih =>
    obtain ⟨hc, hcs⟩ := throughout_cons_iff.1 h
    rw [← startsWithWord_cons_append hword c cs more] at hc
    rw [List.cons_append, rawText_cons, ← List.cons_append, hc, ih hcs]
    rfl

/-- A text that does not fit inside is not read to its end. -/
theorem length_rawText_lt (h : ¬FitsInside word cs) (more : List Char) :
    (rawText word (cs ++ more)).length < cs.length := by
  induction cs with
  | nil => exact absurd fitsInside_nil h
  | cons c cs ih =>
    rw [List.cons_append, rawText_cons]
    split_ifs with hstarts
    · exact Nat.succ_pos _
    · have hc : startsWithWord (endMark word) (c :: cs) = false :=
        Bool.eq_false_iff.2 fun hc => hstarts (startsWithWord_append hc)
      exact Nat.succ_lt_succ (ih fun hcs => h (throughout_cons_iff.2 ⟨hc, hcs⟩))

/-- The end tag of a raw element. -/
def endTag (word : List Char) : List Char := endMark word ++ ['>']

theorem rawClose?_endTag (hword : word ∈ rawWords) :
    rawClose? word (endTag word) = some (word.length + 3) := by
  have hall : ∀ word ∈ rawWords, rawClose? word (endTag word) = some (word.length + 3) := by decide
  exact hall word hword

theorem rawClose?_eq_none (h : startsWithWord (endMark word) cs = false) :
    rawClose? word cs = none := by
  rw [endMark] at h
  simp [rawClose?, h]

variable {tag : String} {start : Nat} {head : TagRest} {e : Event}

/-- What fits inside is the contents of the element, and nothing is left behind its end tag. -/
theorem rawRest_of_fitsInside (hword : word ∈ rawWords) (h : FitsInside word cs) :
    rawRest word tag start head (cs ++ endTag word) =
      .ok ⟨start, head.stop + cs.length + (word.length + 3),
        .rawElement tag head.attributes head.stop (head.stop + cs.length) (String.ofList cs)⟩ := by
  have htext : (if (rawClose? word (cs ++ endTag word)).isSome then []
      else rawText word (cs ++ endTag word)) = cs := by
    cases cs with
    | nil =>
      rw [List.nil_append, rawClose?_endTag hword]
      rfl
    | cons c cs =>
      have hc := (throughout_cons_iff.1 h).1
      rw [← startsWithWord_cons_append hword c cs ['>']] at hc
      rw [endTag, rawClose?_eq_none hc, rawText_append hword h]
      rfl
  rw [rawRest, htext, List.drop_left, rawClose?_endTag hword]

/-- If a text does not fit inside, then the contents of the element are shorter. -/
theorem rawRest_of_not_fitsInside (h : ¬FitsInside word cs)
    (he : rawRest word tag start head (cs ++ more) = .ok e) :
    ∃ n < cs.length, ∃ stop text,
      e = ⟨start, stop, .rawElement tag head.attributes head.stop (head.stop + n) text⟩ := by
  unfold rawRest at he
  dsimp only at he
  generalize htext : (if (rawClose? word (cs ++ more)).isSome then []
    else rawText word (cs ++ more)) = text at he
  have hlength : text.length < cs.length := by
    rw [← htext]
    split_ifs
    · exact Nat.zero_lt_of_lt (length_rawText_lt h more)
    · exact length_rawText_lt h more
  split at he
  · exact ⟨text.length, hlength, _, _, (Except.ok.inj he).symm⟩
  · split_ifs at he

end HtmlModules.Markup
