import HtmlModules.Markup.Document
import HtmlModules.Markup.Printer
import HtmlModules.Proofs.Event
import HtmlModules.Proofs.Template

/-!
# Attributes are read back

What is written for the value of an attribute holds no double quote, and its references stand for
the value (`unescape_escapeValue`). So behind the name of a tag each attribute is read as it was
written, up to the end of the tag (`tagRest_attributes`).
-/

namespace HtmlModules.Markup

open Text

/-! ## Values -/

/-- What is written for a character in the value of an attribute. -/
def escapeValueChar (c : Char) : List Char :=
  if c = '&' then ['&', 'a', 'm', 'p', ';']
  else if c = '"' then ['&', 'q', 'u', 'o', 't', ';'] else [c]

/-- The value is escaped one character after the other. -/
theorem toList_escapeValue (v : String) :
    (escapeValue v).toList = v.toList.flatMap escapeValueChar := by
  have hescape : escapeValueChar = fun c =>
      (if c = '&' then ['&', 'a', 'm', 'p', ';'] else [c]).flatMap fun c =>
        if c = '"' then ['&', 'q', 'u', 'o', 't', ';'] else [c] := by
    funext c
    by_cases hamp : c = '&'
    · simp [escapeValueChar, hamp]
    · by_cases hquote : c = '"' <;> simp [escapeValueChar, hamp, hquote]
  simp only [escapeValue, replaceAll, String.toList_ofList, String.reduceToList,
    replaceFrom_singleton, List.flatMap_assoc, hescape]

/-- A value between double quotes holds none. -/
theorem quote_notMem_escapeValue (v : String) : '"' ∉ (escapeValue v).toList := by
  rw [toList_escapeValue, List.mem_flatMap]
  rintro ⟨c, -, hc⟩
  unfold escapeValueChar at hc
  split_ifs at hc with hamp hquote
  · simp at hc
  · simp at hc
  · exact hquote (List.mem_singleton.1 hc).symm

/-- A character other than an ampersand stands for itself. -/
theorem unescapeFrom_cons {c : Char} (hc : c ≠ '&') (cs : List Char) :
    unescapeFrom 0 (c :: cs) = c :: unescapeFrom 0 cs := by
  rw [unescapeFrom]
  rintro rfl
  exact hc rfl

theorem named_amp : named ['a', 'm', 'p', ';'] = ['&'] := by decide +kernel

theorem named_quot : named ['q', 'u', 'o', 't', ';'] = ['"'] := by decide +kernel

theorem unescapeFrom_amp (cs : List Char) :
    unescapeFrom 0 ('&' :: 'a' :: 'm' :: 'p' :: ';' :: cs) = '&' :: unescapeFrom 0 cs := by
  have href : reference? ('a' :: 'm' :: 'p' :: ';' :: cs) = some (['&'], 4) := by
    simp [reference?, isEntityChar, named_amp]
  simp [unescapeFrom, href]

/-- The reference to a quotation mark is read as one. -/
theorem unescapeFrom_quot (cs : List Char) :
    unescapeFrom 0 ('&' :: 'q' :: 'u' :: 'o' :: 't' :: ';' :: cs) = '"' :: unescapeFrom 0 cs := by
  have href : reference? ('q' :: 'u' :: 'o' :: 't' :: ';' :: cs) = some (['"'], 5) := by
    simp [reference?, isEntityChar, named_quot]
  simp [unescapeFrom, href]

/-- What is escaped is read back, by induction on the characters: neither reference runs into what
follows. -/
theorem unescapeFrom_escaped (cs : List Char) :
    unescapeFrom 0 (cs.flatMap escapeValueChar) = cs := by
  induction cs with
  | nil => rfl
  | cons c cs ih =>
    rw [List.flatMap_cons, escapeValueChar]
    split_ifs with hamp hquote
    · simp [unescapeFrom_amp, ih, hamp]
    · simp [unescapeFrom_quot, ih, hquote]
    · rw [List.singleton_append, unescapeFrom_cons hamp, ih]

theorem unescape_escapeValue (v : String) : unescape (escapeValue v) = v := by
  rw [unescape, toList_escapeValue, unescapeFrom_escaped, String.ofList_toList]

/-- An escaped value holds no numeric reference, so none that is too long. -/
theorem holdsLongNumber_escaped (cs : List Char) :
    holdsLongNumber (cs.flatMap escapeValueChar) = false := by
  induction cs with
  | nil => rfl
  | cons c cs ih =>
    rw [List.flatMap_cons, escapeValueChar]
    split_ifs with hamp hquote
    · simpa [holdsLongNumber] using ih
    · simpa [holdsLongNumber] using ih
    · rw [List.singleton_append, holdsLongNumber, ih]
      exact fun _ h => absurd h hamp

/-! ## Attributes -/

/-- The attribute as it is read, its value still with references. -/
def Attribute.escaped (a : Attribute) : Attribute := { a with value := a.value.map escapeValue }

/-- To escape an attribute and to read it back leaves it as it was. -/
theorem Attribute.unescaped_escaped (a : Attribute) : a.escaped.unescaped = a := by
  obtain ⟨name, value⟩ := a
  cases value <;> simp [escaped, unescaped, unescape_escapeValue]

/-- No blank and no equals sign is part of a name. -/
theorem isAttributeNameChar_ne {c : Char} (h : isAttributeNameChar c = true) :
    isBlank c = false ∧ c ≠ '=' := by
  unfold isAttributeNameChar at h
  refine ⟨?_, ?_⟩
  · simp_all
  · rintro rfl
    simp at h

/-- Characters that satisfy `p` in front of one that does not. -/
theorem takeWhile_append_of_head? {p : Char → Bool} {front back : List Char}
    (hfront : ∀ c ∈ front, p c = true) (hback : ∀ c ∈ back.head?, p c = false) :
    (front ++ back).takeWhile p = front := by
  rw [List.takeWhile_append_of_pos hfront]
  cases back with
  | nil => simp
  | cons c back => simp [hback c rfl]

/-- What can stand behind a name without being a part of it or giving it a value. -/
structure EndsName (cs : List Char) : Prop where
  notName : ∀ c ∈ cs.head?, isAttributeNameChar c = false
  notAssigned : assignedValue? cs = none

theorem endsName_close (cs : List Char) : EndsName ('>' :: cs) where
  notName := by
    rintro c hc
    obtain rfl := Option.some.inj hc
    decide
  notAssigned := by
    have hblank : isBlank '>' = false := by decide
    simp [assignedValue?, hblank]

/-- The end of a name may be the blank in front of another one. -/
theorem endsName_blank {c : Char} (hc : isAttributeNameChar c = true) (cs : List Char) :
    EndsName (' ' :: c :: cs) where
  notName := by
    rintro d hd
    obtain rfl := Option.some.inj hd
    decide
  notAssigned := by
    obtain ⟨hblank, hequals⟩ := isAttributeNameChar_ne hc
    have hspace : isBlank ' ' = true := by decide
    simp only [assignedValue?, List.takeWhile_cons, hspace, hblank, if_true, Bool.false_eq_true,
      if_false, List.length_singleton, List.drop_succ_cons, List.drop_zero]
    split
    · next h => exact absurd (List.cons.inj h).1 hequals
    · rfl

/-- A value in quotation marks is read up to the closing one. -/
theorem assignedValue?_quoted {v : List Char} (hv : '"' ∉ v) (cs : List Char) :
    assignedValue? ('=' :: '"' :: (v ++ '"' :: cs)) = some (v, v.length + 3) := by
  have hinner : (v ++ '"' :: cs).takeWhile (· != '"') = v :=
    takeWhile_append_of_head? (fun c hc => bne_iff_ne.2 (ne_of_mem_of_not_mem hc hv)) (by simp)
  have hvalue : value? ('"' :: (v ++ '"' :: cs)) = some (v, v.length + 2) := by
    simp [value?, hinner]
  have hequals : isBlank '=' = false := by decide
  have hquote : isBlank '"' = false := by decide
  simp only [assignedValue?, List.takeWhile_cons, hequals, hquote, Bool.false_eq_true, if_false,
    List.length_nil, List.drop_zero, hvalue, Option.map_some]
  congr 2
  omega

/-- What stands behind the name of an attribute. -/
def Attribute.assigned (a : Attribute) : List Char :=
  match a.value with
  | none => []
  | some v => '=' :: '"' :: ((escapeValue v).toList ++ ['"'])

/-- The text of an attribute is a blank, its name and its value. -/
theorem Attribute.toList_text (a : Attribute) :
    a.text.toList = ' ' :: (a.name.toList ++ a.assigned) := by
  obtain ⟨name, value⟩ := a
  cases value <;> simp [text, assigned, toString]

/-- What follows the name of an attribute does not continue the name. -/
theorem notName_assigned (a : Attribute) {cs : List Char} (hcs : EndsName cs) :
    ∀ c ∈ (a.assigned ++ cs).head?, isAttributeNameChar c = false := by
  unfold Attribute.assigned
  cases a.value with
  | none => exact hcs.notName
  | some v =>
    intro c hc
    obtain rfl : '=' = c := Option.some.inj hc
    decide

/-- The value of an attribute is read from what stands behind its name. -/
theorem assignedValue?_assigned (a : Attribute) {cs : List Char} (hcs : EndsName cs) :
    assignedValue? (a.assigned ++ cs) =
      a.value.map fun v => ((escapeValue v).toList, a.assigned.length) := by
  unfold Attribute.assigned
  cases a.value with
  | none => exact hcs.notAssigned
  | some v =>
    have hquoted := assignedValue?_quoted (quote_notMem_escapeValue v) cs
    simpa using hquoted

/-- A name that is its own lower case, so that reading it gives it back. -/
structure Attribute.IsNamed (a : Attribute) : Prop where
  nonempty : a.name ≠ ""
  chars : ∀ c ∈ a.name.toList, isAttributeNameChar c = true
  lower : Text.lower a.name = a.name

theorem Attribute.isNamed_iff {a : Attribute} : a.IsNamed ↔ a.name ≠ "" ∧
    a.name.toList.all isAttributeNameChar = true ∧ Text.lower a.name = a.name :=
  ⟨fun h => ⟨h.nonempty, List.all_eq_true.2 h.chars, h.lower⟩,
    fun h => ⟨h.1, List.all_eq_true.1 h.2.1, h.2.2⟩⟩

instance (a : Attribute) : Decidable a.IsNamed := decidable_of_iff _ Attribute.isNamed_iff.symm

/-- What is written for an attribute begins with a blank and a part of its name. -/
theorem Attribute.IsNamed.exists_text {a : Attribute} (ha : a.IsNamed) :
    ∃ c cs, a.text.toList = ' ' :: c :: cs ∧ isAttributeNameChar c = true := by
  obtain ⟨c, name, hname⟩ : ∃ c name, a.name.toList = c :: name :=
    List.exists_cons_of_ne_nil (by simpa using ha.nonempty)
  refine ⟨c, name ++ a.assigned, ?_, ha.chars c (by simp [hname])⟩
  rw [a.toList_text, hname, List.cons_append]

/-- An attribute is read as it was written. -/
theorem attribute?_text {a : Attribute} {cs : List Char} (ha : a.IsNamed) (hcs : EndsName cs) :
    attribute? (a.text.toList ++ cs) = some (a.escaped, a.text.length) := by
  have hblanks : (a.text.toList ++ cs).takeWhile isBlank = [' '] := by
    obtain ⟨c, more, htext, hc⟩ := ha.exists_text
    have hspace : isBlank ' ' = true := by decide
    simp [htext, hspace, (isAttributeNameChar_ne hc).1]
  have htext : a.text.toList ++ cs = ' ' :: (a.name.toList ++ (a.assigned ++ cs)) := by
    simp [a.toList_text]
  have hname : (a.name.toList ++ (a.assigned ++ cs)).takeWhile isAttributeNameChar =
      a.name.toList := takeWhile_append_of_head? ha.chars (notName_assigned a hcs)
  have hwidth : a.text.length = 1 + a.name.length + a.assigned.length := by
    rw [← String.length_toList, a.toList_text, List.length_cons, List.length_append,
      String.length_toList]
    omega
  have hdrop : (a.text.toList ++ cs).drop (1 + a.name.length) = a.assigned ++ cs := by
    rw [htext, Nat.add_comm, List.drop_succ_cons, ← String.length_toList, List.drop_left]
  have hnonempty : a.name.toList.isEmpty = false := by simpa using ha.nonempty
  have hread : ((a.text.toList ++ cs).drop 1).takeWhile isAttributeNameChar = a.name.toList := by
    rw [htext, List.drop_one, List.tail_cons, hname]
  simp only [attribute?, hblanks, List.length_singleton, hread, String.length_toList, hdrop,
    assignedValue?_assigned a hcs, hwidth, hnonempty, String.ofList_toList, ha.lower]
  cases hvalue : a.value <;> simp [Attribute.escaped, Attribute.assigned, hvalue]

/-! ## Tags -/

variable {attributes done : List Attribute} {rest : List Char}

/-- The attributes of a tag, and the bracket behind them, end the name in front of them. -/
theorem endsName_attributes (h : ∀ a ∈ attributes, a.IsNamed) (rest : List Char) :
    EndsName (attributes.flatMap (·.text.toList) ++ '>' :: rest) := by
  cases attributes with
  | nil => exact endsName_close rest
  | cons a attributes =>
    obtain ⟨c, more, htext, hc⟩ := (h a List.mem_cons_self).exists_text
    have hends := endsName_blank hc (more ++ (attributes.flatMap (·.text.toList) ++ '>' :: rest))
    simpa [htext] using hends

/-- Behind the name of a tag its attributes are read as they were written. -/
theorem tagRest_attributes {fuel last offset : Nat} (hfuel : attributes.length < fuel)
    (h : ∀ a ∈ attributes, a.IsNamed) :
    tagRest fuel last offset (attributes.flatMap (·.text.toList) ++ '>' :: rest) done =
      .ok ⟨done.reverse ++ attributes.map Attribute.escaped, false,
        offset + (attributes.flatMap (·.text.toList)).length,
        offset + (attributes.flatMap (·.text.toList)).length + 1⟩ := by
  induction attributes generalizing fuel last offset done with
  | nil =>
    obtain ⟨fuel, rfl⟩ := Nat.exists_eq_succ_of_ne_zero (Nat.ne_zero_of_lt hfuel)
    have hblank : isBlank '>' = false := by decide
    simp [tagRest, attribute?, tagEnd?, hblank]
  | cons a attributes ih =>
    obtain ⟨fuel, rfl⟩ := Nat.exists_eq_succ_of_ne_zero (Nat.ne_zero_of_lt hfuel)
    have hrest : ∀ b ∈ attributes, b.IsNamed := fun b hb => h b (List.mem_cons_of_mem a hb)
    have hread := attribute?_text (h a List.mem_cons_self) (endsName_attributes hrest rest)
    have hnonempty :
        (a.text.toList ++ (attributes.flatMap (·.text.toList) ++ '>' :: rest)).isEmpty = false := by
      simp
    rw [List.flatMap_cons, List.append_assoc, tagRest, hread, hnonempty]
    simp only [Bool.false_eq_true, if_false]
    rw [← String.length_toList, List.drop_left, ih (by simpa using hfuel) hrest]
    simp [Nat.add_assoc]

end HtmlModules.Markup
