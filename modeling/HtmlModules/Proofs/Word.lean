import HtmlModules.Identifier
import HtmlModules.Proofs.Failing
import HtmlModules.Proofs.Scanning

/-!
# A name is read as one word

The scanner of scripts reads a text that has the shape of a name as one word, up to a character that
continues no name (`scanToken_word`), and the blanks in front of it are skipped
(`trimmed_blanks_word`).
-/

namespace HtmlModules.Script

open Text Identifier Failing

variable {c : Cursor} {ch : Char} {word more : List Char}

/-! ## Characters of names -/

theorem toNat_lt_of_isNamePart (h : isNamePart ch = true) : ch.toNat < 0x80 := by
  simp only [isNamePart, isNameStart, isAsciiLetter, isAsciiDigit, Bool.or_eq_true,
    Bool.and_eq_true, decide_eq_true_eq, beq_iff_eq, Char.le_def, UInt32.le_iff_toNat_le] at h
  rcases h with (((⟨-, h⟩ | ⟨-, h⟩) | rfl) | rfl) | ⟨-, h⟩
  · exact Nat.lt_of_le_of_lt h (by decide)
  · exact Nat.lt_of_le_of_lt h (by decide)
  · decide
  · decide
  · exact Nat.lt_of_le_of_lt h (by decide)

/-- What begins a name begins an identifier without an escape, and what continues a name continues
one. -/
theorem isIdentifierPart_of_isNamePart (h : isNamePart ch = true) :
    isIdentifierPart ch = true ∧ ch ≠ '\\' ∧
      (isNameStart ch = true → isIdentifierStart ch = true) := by
  have hascii : ∀ n < 0x80, isNamePart (Char.ofNat n) = true →
      isIdentifierPart (Char.ofNat n) = true ∧ Char.ofNat n ≠ '\\' ∧
        (isNameStart (Char.ofNat n) = true → isIdentifierStart (Char.ofNat n) = true) := by
    decide
  have hch := hascii ch.toNat (toNat_lt_of_isNamePart h)
  rw [Char.ofNat_toNat] at hch
  exact hch h

/-- The character is neither white space nor the beginning of a comment. -/
def BeginsToken (ch : Char) : Prop :=
  isSpace ch = false ∧ isLineEnd ch = false ∧ ch ≠ '/' ∧ ch ≠ '<' ∧ ch ≠ '-'

instance (ch : Char) : Decidable (BeginsToken ch) := inferInstanceAs (Decidable (_ ∧ _))

/-- What continues a name can begin a token. -/
theorem beginsToken_of_isNamePart (h : isNamePart ch = true) : BeginsToken ch := by
  have hascii : ∀ n < 0x80, isNamePart (Char.ofNat n) = true → BeginsToken (Char.ofNat n) := by
    decide
  have hch := hascii ch.toNat (toNat_lt_of_isNamePart h)
  rw [Char.ofNat_toNat] at hch
  exact hch h

/-- A name has a first character, and all of them may continue a name. -/
theorem exists_of_isNameShaped : ∀ {word : List Char}, isNameShaped word = true →
    ∃ ch cs, word = ch :: cs ∧ isNameStart ch = true ∧ ∀ d ∈ ch :: cs, isNamePart d = true
  | ch :: cs, h => by
    obtain ⟨hstart, hpart⟩ := Bool.and_eq_true_iff.1 h
    refine ⟨ch, cs, rfl, hstart, List.forall_mem_cons.2 ⟨?_, List.all_eq_true.1 hpart⟩⟩
    rw [isNamePart, hstart, Bool.true_or]

/-! ## Scanning a name -/

/-- The text does not continue an identifier. -/
def EndsWord (more : List Char) : Prop :=
  ∀ d ∈ more.head?, isIdentifierPart d = false

theorem skip_skip (m n : Nat) (c : Cursor) : (c.skip m).skip n = c.skip (m + n) := by
  simp [Cursor.skip, Nat.add_assoc]

/-- Nothing more is read in front of what does not continue an identifier. -/
theorem identifierRest_stop (hmore : EndsWord more) {c : Cursor} (hrest : c.rest = more) (fuel : Nat)
    (done : List Char) : identifierRest (fuel + 1) c done = .ok (done.reverse, c) := by
  rw [identifierRest, hrest]
  cases more with
  | nil => rfl
  | cons d more =>
    have hd : isIdentifierPart d = false := hmore d rfl
    have hbackslash : d ≠ '\\' := by
      rintro rfl
      revert hd
      decide
    split
    · next heq => exact (hbackslash (List.cons.inj heq).1).elim
    · next heq =>
      obtain rfl := (List.cons.inj heq).1
      rw [hd]
      rfl
    · rfl

/-- A character of a name is read, and nothing else with it. -/
theorem identifierRest_cons {d : Char} (hd : isNamePart d = true) {c : Cursor}
    (hrest : c.rest = d :: more) (fuel : Nat) (done : List Char) :
    identifierRest (fuel + 1) c done = identifierRest fuel (c.skip 1) (d :: done) := by
  obtain ⟨hpart, hbackslash, -⟩ := isIdentifierPart_of_isNamePart hd
  rw [identifierRest, hrest]
  split
  · next heq => exact (hbackslash (List.cons.inj heq).1).elim
  · next heq =>
    obtain rfl := (List.cons.inj heq).1
    rw [if_pos hpart]
  · next heq => cases heq

/-- The rest of an identifier is read up to what does not continue it. -/
theorem identifierRest_word (hmore : EndsWord more) : ∀ {word : List Char} {fuel : Nat} {c : Cursor}
    (done : List Char), (∀ d ∈ word, isNamePart d = true) → c.rest = word ++ more →
      word.length < fuel →
      identifierRest fuel c done = .ok (done.reverse ++ word, c.skip word.length)
  | [], fuel + 1, c, done, _, hrest, _ => by
    rw [identifierRest_stop hmore hrest, List.append_nil]
    rfl
  | d :: word, fuel + 1, c, done, hword, hrest, hfuel => by
    obtain ⟨hd, hword⟩ := List.forall_mem_cons.1 hword
    have hskip : (c.skip 1).rest = word ++ more := by
      rw [rest_skip, hrest]
      rfl
    have hlength : word.length < fuel := by simpa using hfuel
    rw [identifierRest_cons hd hrest, identifierRest_word hmore (d :: done) hword hskip hlength,
      skip_skip, List.reverse_cons, List.append_assoc, List.length_cons, Nat.add_comm]
    rfl

/-- A name is one token. -/
theorem scanWord_word (hword : isNameShaped word = true) (hmore : EndsWord more)
    (hrest : c.rest = word ++ more) :
    scanWord c = .ok ((c.skip word.length).token c.offset (wordKind (String.ofList word))
      (String.ofList word), c.skip word.length) := by
  obtain ⟨ch, cs, rfl, hstart, hpart⟩ := exists_of_isNameShaped hword
  obtain ⟨hch, hcs⟩ := List.forall_mem_cons.1 hpart
  obtain ⟨-, hbackslash, -⟩ := isIdentifierPart_of_isNamePart hch
  have hskip : (c.skip 1).rest = cs ++ more := by
    rw [rest_skip, hrest]
    rfl
  have hfuel : cs.length < (c.skip 1).rest.length + 1 := by
    rw [hskip, List.length_append]
    omega
  have hread : identifierRest ((c.skip 1).rest.length + 1) (c.skip 1) [ch] =
      .ok (ch :: cs, c.skip (ch :: cs).length) := by
    rw [identifierRest_word hmore [ch] hcs hskip hfuel, skip_skip, List.length_cons, Nat.add_comm]
    rfl
  unfold scanWord
  rw [hrest, List.cons_append]
  split
  · next heq => exact (hbackslash (List.cons.inj heq).1).elim
  · next heq =>
    obtain rfl := (List.cons.inj heq).1
    refine bind_eq_ok.2 ⟨([ch], c.skip 1), rfl, bind_eq_ok.2 ⟨_, hread, ?_⟩⟩
    -- the characters are those of the text, so the word is written without escapes
    have hoffset : (c.offset + (ch :: cs).length != (c.skip (ch :: cs).length).offset) = false :=
      bne_eq_false_iff_eq.2 (offset_skip _ _).symm
    dsimp only
    rw [hoffset, Bool.and_false]
    rfl
  · next heq => cases heq

/-- A name in front of something else is one token. -/
theorem scanToken_word (hword : isNameShaped word = true) (hmore : EndsWord more)
    (hrest : c.rest = word ++ more) :
    scanToken c = .ok ((c.skip word.length).token c.offset (wordKind (String.ofList word))
      (String.ofList word), c.skip word.length) := by
  rw [← scanWord_word hword hmore hrest]
  obtain ⟨ch, cs, rfl, hstart, hpart⟩ := exists_of_isNameShaped hword
  obtain ⟨-, -, hidentifier⟩ := isIdentifierPart_of_isNamePart (hpart ch List.mem_cons_self)
  rw [scanToken, hrest, List.cons_append]
  exact if_pos (hidentifier hstart)

/-! ## Blanks in front of a token -/

/-- Nothing is skipped in front of a token. -/
theorem skipTrivia_token {fuel : Nat} {fresh : Bool} (hch : BeginsToken ch)
    (hrest : c.rest = ch :: more) : skipTrivia (fuel + 1) fresh c = .ok c := by
  obtain ⟨hspace, hline, hslash, hless, hdash⟩ := hch
  rw [skipTrivia, hrest]
  split <;> simp_all

theorem skipTrivia_blanks (hch : BeginsToken ch) : ∀ {n fuel : Nat} {fresh : Bool} {c : Cursor},
    c.rest = List.replicate n ' ' ++ ch :: more → n < fuel →
      skipTrivia fuel fresh c = .ok (c.skip n)
  | 0, fuel + 1, fresh, c, hrest, _ => skipTrivia_token hch hrest
  | n + 1, fuel + 1, fresh, c, hrest, hfuel => by
    rw [List.replicate_succ, List.cons_append] at hrest
    have hskip : (c.skip 1).rest = List.replicate n ' ' ++ ch :: more := by
      rw [rest_skip, hrest]
      rfl
    have hstep : skipTrivia (fuel + 1) fresh c = skipTrivia fuel fresh (c.skip 1) := by
      rw [skipTrivia, hrest]
      rfl
    rw [hstep, skipTrivia_blanks hch hskip (Nat.lt_of_succ_lt_succ hfuel), skip_skip, Nat.add_comm]

/-- The blanks in front of a token are skipped. -/
theorem trimmed_blanks {n : Nat} (hch : BeginsToken ch)
    (hrest : c.rest = List.replicate n ' ' ++ ch :: more) : c.trimmed = .ok (c.skip n) := by
  refine skipTrivia_blanks hch hrest ?_
  rw [hrest, List.length_append, List.length_replicate]
  omega

theorem trimmed_blanks_word {n : Nat} (hword : isNameShaped word = true)
    (hrest : c.rest = List.replicate n ' ' ++ (word ++ more)) : c.trimmed = .ok (c.skip n) := by
  obtain ⟨ch, cs, rfl, -, hpart⟩ := exists_of_isNameShaped hword
  exact trimmed_blanks (beginsToken_of_isNamePart (hpart ch List.mem_cons_self)) hrest

end HtmlModules.Script
