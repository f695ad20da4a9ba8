import HtmlModules.Pass.Basic
import HtmlModules.Proofs.Specifier
import HtmlModules.Proofs.Template

/-!
# Placeholders cannot be confused

A placeholder is the stem of the program with a number, which counts the paths of records or, behind
a letter, the texts. The stem ends in as many underscores as it takes for it not to occur in the source
(`lengthens_freeStem`), so no placeholder occurs there. In a placeholder the letter `m` stands at one
place only, and behind the stem the number runs up to the first underscore: one placeholder is a part of
another only if they are the same (`Slot.eq_of_infix`), whatever the stem and the numbers are.

Requests for placeholders are answered one after the other (`Findings.issued`). What a request gets is
known from the findings at its time (`Findings.slot_of_mem_issued`), and the main result
(`placeholders_unambiguous`) compares any two of them.
-/

namespace HtmlModules

open Text

namespace Text

/-! ## Replacing beside a word -/

/-- A text contains another one if that is a part of it. -/
theorem contains_iff_isInfix {s pat : String} :
    contains s pat = true ↔ pat.toList <:+: s.toList := by
  rw [contains, indexOf, isSome_indexOfChars_iff]

/-- Where the pattern does not occur nothing is replaced. -/
theorem replaceFrom_eq_self {pat rep : List Char} :
    ∀ {cs : List Char}, ¬pat <:+: cs → replaceFrom pat rep 0 cs = cs
  | [], _ => rfl
  | c :: cs, h => by
    rw [List.infix_cons_iff, not_or, ← List.isPrefixOf_iff_prefix] at h
    rw [replaceFrom, if_neg h.1, replaceFrom_eq_self h.2]

/-- Nothing is replaced where nothing is contained. -/
theorem replaceAll_eq_self {s pat : String} (rep : String) (h : contains s pat = false) :
    replaceAll s pat rep = s := by
  rw [← Bool.not_eq_true, contains_iff_isInfix] at h
  rw [replaceAll, replaceFrom_eq_self h, String.ofList_toList]

/-- What stands between the two texts stands there as a word: no part of a name is in front of it or
behind it. -/
def StandsBetween (front back : String) : Prop :=
  (∀ c ∈ front.toList.getLast?, Identifier.isNamePart c = false) ∧
    ∀ c ∈ back.toList.head?, Identifier.isNamePart c = false

variable {pat rep : List Char}

theorem replaceFrom_append_of_getLast? {cs more : List Char} (hpat : pat ≠ [])
    (h : ∀ c ∈ cs.getLast?, c ∉ pat) :
    replaceFrom pat rep 0 (cs ++ more) = replaceFrom pat rep 0 cs ++ replaceFrom pat rep 0 more := by
  rcases List.eq_nil_or_concat cs with rfl | ⟨cs, c, rfl⟩
  · rfl
  · have hc : c ∉ pat := h c (by simp)
    have hdivide (more : List Char) : replaceFrom pat rep 0 (cs ++ c :: more) =
        replaceFrom pat rep 0 cs ++ c :: replaceFrom pat rep 0 more :=
      replaceFrom_append_of_notMem hpat hc (Nat.zero_le cs.length)
    rw [List.concat_eq_append, List.append_assoc, List.singleton_append, hdivide, hdivide,
      List.append_assoc]
    rfl

theorem replaceFrom_append_of_head? {cs more : List Char} (hpat : pat ≠ [])
    (h : ∀ c ∈ more.head?, c ∉ pat) :
    replaceFrom pat rep 0 (cs ++ more) = replaceFrom pat rep 0 cs ++ replaceFrom pat rep 0 more := by
  cases more with
  | nil => simp [replaceFrom]
  | cons c more =>
    have hc : c ∉ pat := h c rfl
    rw [replaceFrom_append_of_notMem hpat hc (Nat.zero_le _),
      ← List.nil_append (c :: more), replaceFrom_append_of_notMem hpat hc (Nat.zero_le _)]
    rfl

/-- To replace a name is to replace it in a word and, apart from that, on both sides of the word. -/
theorem replaceAll_between {front back : String} (h : StandsBetween front back) (word : String)
    {pat : String} (rep : String) (hpat : pat ≠ "")
    (hname : ∀ c ∈ pat.toList, Identifier.isNamePart c = true) :
    replaceAll (front ++ word ++ back) pat rep =
      replaceAll front pat rep ++ replaceAll word pat rep ++ replaceAll back pat rep := by
  have hne : pat.toList ≠ [] := by simpa using hpat
  have hnot (c : Char) (hc : Identifier.isNamePart c = false) : c ∉ pat.toList := fun hmem => by
    simp [hname c hmem] at hc
  apply String.toList_injective
  simp only [replaceAll, String.toList_append, String.toList_ofList]
  rw [replaceFrom_append_of_head? hne fun c hc => hnot c (h.2 c hc),
    replaceFrom_append_of_getLast? hne fun c hc => hnot c (h.1 c hc)]

end Text

namespace Pass

/-! ## The stem -/

/-- The loop that appends underscores to a stem as long as it occurs in the source ends, and with
which stem. -/
inductive Lengthens (source : String) : String → String → Prop
  | stop {stem : String} : contains source stem = false → Lengthens source stem stem
  | next {stem free : String} : contains source stem = true →
    Lengthens source (stem ++ "_") free → Lengthens source stem free

/-- A stem that is longer than the source does not occur in it. -/
theorem lengthens_lengthenStem {source : String} : ∀ {fuel : Nat} {stem : String},
    source.length < stem.length + fuel → Lengthens source stem (lengthenStem source fuel stem)
  | 0, stem, hfuel => by
    refine .stop (Bool.eq_false_iff.2 fun hcontains => ?_)
    have hle := (contains_iff_isInfix.1 hcontains).length_le
    simp only [String.length_toList] at hle
    omega
  | fuel + 1, stem, hfuel => by
    rw [lengthenStem]
    split_ifs with hcontains
    · refine .next hcontains (lengthens_lengthenStem ?_)
      rw [String.length_append]
      change source.length < stem.length + 1 + fuel
      omega
    · exact .stop (Bool.eq_false_iff.2 hcontains)

/-- The stem that is reached is not contained in the source. -/
theorem Lengthens.contains_eq_false {source stem free : String} (h : Lengthens source stem free) :
    contains source free = false := by
  induction h with
  | stop hfree => exact hfree
  | next _ _ ih => exact ih

/-- The loop ends for every source. -/
theorem lengthens_freeStem (source : String) :
    Lengthens source "__modulizerref" (freeStem source) :=
  lengthens_lengthenStem (by omega)

/-- The stem of some program. -/
def IsStem (stem : String) : Prop := ∃ k, stem = "__modulizerref" ++ fill k '_'

theorem Lengthens.isStem {source stem free : String} (h : Lengthens source stem free)
    (hstem : IsStem stem) : IsStem free := by
  induction h with
  | stop => exact hstem
  | next _ _ ih =>
    obtain ⟨k, rfl⟩ := hstem
    refine ih ⟨k + 1, ?_⟩
    apply String.toList_injective
    simp [fill, List.replicate_succ']

theorem isStem_freeStem (source : String) : IsStem (freeStem source) :=
  (lengthens_freeStem source).isStem ⟨0, rfl⟩

/-- The letter `m` stands in a stem behind its first two underscores and nowhere else. -/
theorem IsStem.toList_eq {stem : String} (h : IsStem stem) :
    ∃ rest, stem.toList = '_' :: '_' :: 'm' :: rest ∧ 'm' ∉ rest := by
  obtain ⟨k, rfl⟩ := h
  refine ⟨"odulizerref".toList ++ List.replicate k '_', ?_, ?_⟩
  · simp [fill]
  · simp [List.mem_replicate]

theorem IsStem.isNamePart {stem : String} (h : IsStem stem) :
    ∀ c ∈ stem.toList, Identifier.isNamePart c = true := by
  obtain ⟨k, rfl⟩ := h
  intro c hc
  rw [String.toList_append, List.mem_append] at hc
  rcases hc with hc | hc
  · have hstart : "__modulizerref".toList.all Identifier.isNamePart = true := by decide
    exact List.all_eq_true.1 hstart c hc
  · obtain ⟨-, rfl⟩ : k ≠ 0 ∧ c = '_' := by simpa [fill, List.mem_replicate] using hc
    decide

/-! ## Placeholders of one stem -/

/-- What a placeholder stands for: the path of a record, or a text, by the number of those before. -/
inductive Slot where
  | reference (n : Nat)
  | deferred (n : Nat)

namespace Slot

/-- The placeholder behind its stem. -/
def tail : Slot → List Char
  | .reference n => Nat.toDigits 10 n ++ ['_', '_']
  | .deferred n => 'd' :: Nat.toDigits 10 n ++ ['_', '_']

/-- The placeholder with a stem. -/
def placeholder (stem : String) (s : Slot) : String := stem ++ String.ofList s.tail

theorem isDigit_of_mem_toDigits {n : Nat} {c : Char} (hc : c ∈ Nat.toDigits 10 n) :
    c.isDigit = true :=
  Nat.isDigit_of_mem_toDigits (by omega) (by omega) hc

/-- A number runs up to the first underscore. -/
theorem toDigits_append_inj {m n : Nat} {more more' : List Char}
    (h : Nat.toDigits 10 m ++ '_' :: more = Nat.toDigits 10 n ++ '_' :: more') : m = n := by
  have hdigits (n : Nat) (more : List Char) :
      (Nat.toDigits 10 n ++ '_' :: more).takeWhile Char.isDigit = Nat.toDigits 10 n := by
    rw [List.takeWhile_append_of_pos fun c => isDigit_of_mem_toDigits]
    simp
  have hequal := congrArg (List.takeWhile Char.isDigit) h
  rw [hdigits, hdigits] at hequal
  calc
    m = Nat.ofDigitChars 10 (Nat.toDigits 10 m) 0 := Nat.ofDigitChars_ten_toDigits.symm
    _ = Nat.ofDigitChars 10 (Nat.toDigits 10 n) 0 := by rw [hequal]
    _ = n := Nat.ofDigitChars_ten_toDigits

/-- A number does not begin with the letter of the texts. -/
theorem toDigits_append_ne {n : Nat} {more more' : List Char} :
    Nat.toDigits 10 n ++ more ≠ 'd' :: more' := by
  intro h
  obtain ⟨c, cs, hdigits⟩ := List.exists_cons_of_ne_nil (Nat.toDigits_ne_nil (n := n) (b := 10))
  have hdigit : c.isDigit = true := isDigit_of_mem_toDigits (hdigits ▸ List.mem_cons_self)
  rw [hdigits] at h
  rw [(List.cons.inj h).1] at hdigit
  cases hdigit

/-- Behind the stem a placeholder is the beginning of no other one. -/
theorem eq_of_prefix {a b : Slot} (h : a.tail <+: b.tail) : a = b := by
  obtain ⟨more, h⟩ := h
  cases a with
  | reference m =>
    cases b with
    | reference n =>
      simp only [tail, List.append_assoc, List.cons_append] at h
      rw [toDigits_append_inj h]
    | deferred n =>
      simp only [tail, List.append_assoc, List.cons_append] at h
      exact absurd h toDigits_append_ne
  | deferred m =>
    cases b with
    | reference n =>
      simp only [tail, List.append_assoc, List.cons_append] at h
      exact absurd h.symm toDigits_append_ne
    | deferred n =>
      simp only [tail, List.append_assoc, List.cons_append, List.cons.injEq, true_and] at h
      rw [toDigits_append_inj h]

theorem mem_tail {s : Slot} {c : Char} (hc : c ∈ s.tail) : c.isDigit = true ∨ c = 'd' ∨ c = '_' := by
  cases s with
  | reference n =>
    rcases List.mem_append.1 hc with hc | hc
    · exact Or.inl (isDigit_of_mem_toDigits hc)
    · simp_all
  | deferred n =>
    rcases List.mem_append.1 hc with hc | hc
    · exact (List.mem_cons.1 hc).elim (fun h => Or.inr (Or.inl h)) fun h =>
        Or.inl (isDigit_of_mem_toDigits h)
    · simp_all

/-- A placeholder is a part of no other one with the same stem. -/
theorem eq_of_infix {stem : String} (hstem : IsStem stem) {a b : Slot}
    (h : (a.placeholder stem).toList <:+: (b.placeholder stem).toList) : a = b := by
  obtain ⟨rest, hrest, hm⟩ := hstem.toList_eq
  obtain ⟨front, back, h⟩ := h
  simp only [placeholder, String.toList_append, String.toList_ofList, hrest] at h
  have htail : 'm' ∉ b.tail := fun hmem => by simpa using mem_tail hmem
  -- the only `m` of both is at the same place, so nothing is in front
  have hsplit : ['_', '_'] ++ 'm' :: (rest ++ b.tail) =
      (front ++ ['_', '_']) ++ 'm' :: (rest ++ a.tail ++ back) := by
    simpa using h.symm
  obtain ⟨-, -, hbehind⟩ :=
    (List.append_cons_inj_of_notMem (by decide) (by simp [hm, htail])).1 hsplit
  rw [List.append_assoc, List.append_cancel_left_eq] at hbehind
  exact eq_of_prefix ⟨back, hbehind.symm⟩

/-- Placeholders of one stem are equal only for one slot. -/
theorem placeholder_inj {stem : String} (hstem : IsStem stem) {a b : Slot} :
    a.placeholder stem = b.placeholder stem ↔ a = b :=
  ⟨fun h => eq_of_infix hstem (h ▸ List.infix_refl _), fun h => h ▸ rfl⟩

theorem placeholder_ne_empty {stem : String} (hstem : IsStem stem) {s : Slot} :
    s.placeholder stem ≠ "" := by
  obtain ⟨rest, hrest, -⟩ := hstem.toList_eq
  intro hempty
  have hlist := congrArg String.toList hempty
  simp [placeholder, hrest] at hlist

theorem isNamePart_of_mem_placeholder {stem : String} (hstem : IsStem stem) {s : Slot} {c : Char}
    (hc : c ∈ (s.placeholder stem).toList) : Identifier.isNamePart c = true := by
  rw [placeholder, String.toList_append, String.toList_ofList, List.mem_append] at hc
  rcases hc with hc | hc
  · exact hstem.isNamePart c hc
  · rcases mem_tail hc with hdigit | rfl | rfl
    · simp only [Char.isDigit, Bool.and_eq_true, decide_eq_true_eq] at hdigit
      simp only [Identifier.isNamePart, isAsciiDigit, Bool.or_eq_true, Bool.and_eq_true,
        decide_eq_true_eq]
      exact Or.inr hdigit
    · decide
    · decide

end Slot

/-! ## Requests -/

/-- A request for a placeholder, of a record or of a text. -/
inductive Request where
  | reference (record : ExportRecord)
  | deferred (text : String)

namespace Findings

/-- The placeholder that a request gets, and the findings with it. -/
def answer (f : Findings) : Request → String × Findings
  | .reference record => f.placeholderFor record
  | .deferred text => f.defer text

/-- Requests made one after the other, each with the placeholder that it gets. -/
def issued : Findings → List Request → List (Request × String)
  | _, [] => []
  | f, r :: rest => (r, (f.answer r).1) :: issued (f.answer r).2 rest

theorem map_fst_issued : ∀ (f : Findings) (requests : List Request),
    (f.issued requests).map Prod.fst = requests
  | _, [] => rfl
  | f, r :: rest => by rw [issued, List.map_cons, map_fst_issued]

/-- The paths that records have been asked for, in the order of their first request. -/
def paths (f : Findings) : List String := f.references.map (·.2.path)

/-- The placeholders of records count the paths. -/
def Numbered (f : Findings) : Prop :=
  Table.keys f.references =
    (List.range f.references.length).map fun n => (Slot.reference n).placeholder f.stem

theorem numbered_start (source : String) : (start source).Numbered := rfl

/-- What the placeholder for a request stands for. -/
def slotOf (f : Findings) : Request → Slot
  | .reference record => .reference (f.paths.idxOf record.path)
  | .deferred _ => .deferred f.deferred.length

theorem reference_eq (stem : String) (n : Nat) :
    stem ++ toString n ++ "__" = (Slot.reference n).placeholder stem := by
  apply String.toList_injective
  simp [Slot.placeholder, Slot.tail]

/-- The placeholder of a deferred text, spelled out. -/
theorem deferred_eq (stem : String) (n : Nat) :
    stem ++ "d" ++ toString n ++ "__" = (Slot.deferred n).placeholder stem := by
  apply String.toList_injective
  simp [Slot.placeholder, Slot.tail]

/-- The slot may be what a request stands for, if it is made now or later: the paths are continued, and
the texts counted further. -/
inductive Admits (f : Findings) : Request → Slot → Prop
  | reference {record : ExportRecord} {paths : List String} : f.paths <+: paths →
    record.path ∈ paths → f.Admits (.reference record) (.reference (paths.idxOf record.path))
  | deferred {text : String} {n : Nat} : f.deferred.length ≤ n →
    f.Admits (.deferred text) (.deferred n)

/-- The slot is what a request that has been made stands for. -/
inductive Settles (f : Findings) : Request → Slot → Prop
  | reference {record : ExportRecord} : record.path ∈ f.paths →
    f.Settles (.reference record) (.reference (f.paths.idxOf record.path))
  | deferred {text : String} {n : Nat} : n < f.deferred.length →
    f.Settles (.deferred text) (.deferred n)

variable {f g : Findings} {q r : Request} {s t : Slot}

/-- What a request does: it gets the placeholder of its slot, and this is settled from now on. -/
structure Answers (f : Findings) (q : Request) (placeholder : String) (g : Findings) : Prop where
  placeholder : placeholder = (f.slotOf q).placeholder f.stem
  settles : g.Settles q (f.slotOf q)
  numbered : g.Numbered
  stem : g.stem = f.stem
  paths : f.paths <+: g.paths
  deferred : f.deferred.length ≤ g.deferred.length

/-- The placeholder of a reference is numbered by the references before it. -/
theorem Numbered.placeholder_eq (hf : f.Numbered) {before after : Table ExportRecord}
    {placeholder : String} {record : ExportRecord}
    (hreferences : f.references = before ++ (placeholder, record) :: after) :
    placeholder = (Slot.reference before.length).placeholder f.stem := by
  have hkey := congrArg (·[before.length]?) hf
  simpa [hreferences, Table.keys] using hkey

/-- A path that is known keeps its number. -/
theorem answers_known (hf : f.Numbered) {record other : ExportRecord} {placeholder : String}
    (hfind : f.references.find? (·.2.path == record.path) = some (placeholder, other)) :
    f.Answers (.reference record) placeholder f := by
  obtain ⟨hpath, before, after, hreferences, hbefore⟩ := List.find?_eq_some_iff_append.1 hfind
  replace hpath : other.path = record.path := by simpa using hpath
  have hsplit : f.paths = before.map (·.2.path) ++ record.path :: after.map (·.2.path) := by
    simp [paths, hreferences, hpath]
  have hnew : record.path ∉ before.map (·.2.path) := by
    intro hmem
    obtain ⟨p, hp, hpath⟩ := List.mem_map.1 hmem
    simpa [hpath] using hbefore p hp
  have hnumber : f.paths.idxOf record.path = before.length := by
    rw [hsplit, List.idxOf_append_of_notMem hnew, List.idxOf_cons_self, List.length_map,
      Nat.add_zero]
  refine ⟨?_, .reference (by simp [hsplit]), hf, rfl, List.prefix_refl _, le_rfl⟩
  rw [slotOf, hnumber]
  exact hf.placeholder_eq hreferences

/-- A new path gets the next number. -/
theorem answers_new (hf : f.Numbered) {record : ExportRecord} (hnew : record.path ∉ f.paths) :
    f.Answers (.reference record) (f.stem ++ toString f.references.length ++ "__")
      { f with references := f.references ++
        [(f.stem ++ toString f.references.length ++ "__", record)] } := by
  have hnumber : f.paths.idxOf record.path = f.references.length := by
    rw [List.idxOf_of_notMem hnew, paths, List.length_map]
  have hpaths (placeholder : String) : paths { f with references :=
      f.references ++ [(placeholder, record)] } = f.paths ++ [record.path] := by
    simp [paths]
  refine ⟨?_, ?_, ?_, rfl, ?_, le_rfl⟩
  · rw [slotOf, hnumber, reference_eq]
  · have hsame : f.paths.idxOf record.path =
        (f.paths ++ [record.path]).idxOf record.path := by
      rw [List.idxOf_of_notMem hnew, List.idxOf_append_of_notMem hnew, List.idxOf_cons_self,
        Nat.add_zero]
    rw [slotOf, hsame, ← hpaths]
    exact .reference (by simp [hpaths])
  · rw [reference_eq]
    unfold Numbered Table.keys at hf ⊢
    simp [hf, List.range_succ]
  · rw [hpaths]
    exact List.prefix_append _ _

theorem answers_placeholderFor (hf : f.Numbered) (record : ExportRecord) :
    f.Answers (.reference record) (f.placeholderFor record).1 (f.placeholderFor record).2 := by
  unfold placeholderFor
  split
  · next hfind => exact answers_known hf hfind
  · next hfind => exact answers_new hf (by simpa [paths] using hfind)

/-- A deferred text is answered by a new placeholder. -/
theorem answers_defer (hf : f.Numbered) (text : String) :
    f.Answers (.deferred text) (f.defer text).1 (f.defer text).2 where
  placeholder := deferred_eq _ _
  settles := .deferred (by simp [defer])
  numbered := hf
  stem := rfl
  paths := List.prefix_refl _
  deferred := by simp [defer]

theorem answers_answer (hf : f.Numbered) : ∀ q, f.Answers q (f.answer q).1 (f.answer q).2
  | .reference record => answers_placeholderFor hf record
  | .deferred text => answers_defer hf text

/-! ## Two requests -/

/-- What a later state admits an earlier one does. -/
theorem Admits.earlier (hpaths : f.paths <+: g.paths)
    (hdeferred : f.deferred.length ≤ g.deferred.length) (h : g.Admits q s) : f.Admits q s := by
  cases h with
  | reference hbegins hmem => exact .reference (hpaths.trans hbegins) hmem
  | deferred hle => exact .deferred (hdeferred.trans hle)

theorem Answers.admits {placeholder : String} (h : f.Answers q placeholder g) :
    f.Admits q (f.slotOf q) := by
  cases q with
  | reference record =>
    have hsettles := h.settles
    generalize f.slotOf (.reference record) = s at hsettles
    cases hsettles with
    | reference hmem => exact .reference h.paths hmem
  | deferred text => exact .deferred le_rfl

/-- Two requests agree with their slots: two records have the same slot if and only if they have the
same path, and the slot of a text is no other request's. -/
def Agree {α : Type} : Request → α → Request → α → Prop
  | .reference a, s, .reference b, t => s = t ↔ a.path = b.path
  | _, s, _, t => s ≠ t

/-- Two requests that are settled agree on whether they share a slot. -/
theorem Settles.agree (hs : f.Settles q s) (ht : f.Admits r t) : Agree q s r t := by
  cases hs with
  | reference hmem =>
    cases ht with
    | reference hbegins hmem' =>
      rw [Agree, hbegins.idxOf_eq_of_mem hmem, Slot.reference.injEq,
        List.idxOf_inj (hbegins.subset hmem)]
    | deferred => simp [Agree]
  | deferred hlt =>
    cases ht with
    | reference => simp [Agree]
    | deferred hle =>
      simp only [Agree, ne_eq, Slot.deferred.injEq]
      omega

/-- What is issued is the placeholder of a slot that the request is admitted to. -/
theorem slot_of_mem_issued : ∀ {requests : List Request} {f : Findings}, f.Numbered →
    ∀ {x : Request × String}, x ∈ f.issued requests →
      ∃ s, x.2 = s.placeholder f.stem ∧ f.Admits x.1 s
  | q :: rest, f, hf, x, hx => by
    have h := answers_answer hf q
    rcases List.mem_cons.1 hx with rfl | hx
    · exact ⟨f.slotOf q, h.placeholder, h.admits⟩
    · obtain ⟨s, hs, hadmits⟩ := slot_of_mem_issued h.numbered hx
      exact ⟨s, h.stem ▸ hs, hadmits.earlier h.paths h.deferred⟩

/-- Placeholders agree if and only if their slots do. -/
theorem agree_placeholder {stem : String} (hstem : IsStem stem) :
    Agree q (s.placeholder stem) r (t.placeholder stem) ↔ Agree q s r t := by
  cases q <;> cases r <;> simp [Agree, Slot.placeholder_inj hstem]

/-- Any two answers agree on whether their requests are the same, by induction on the requests. -/
theorem pairwise_issued : ∀ {requests : List Request} {f : Findings}, f.Numbered → IsStem f.stem →
    (f.issued requests).Pairwise fun x y => Agree x.1 x.2 y.1 y.2
  | [], _, _, _ => .nil
  | q :: rest, f, hf, hstem => by
    have h := answers_answer hf q
    have hstem' : IsStem (f.answer q).2.stem := h.stem ▸ hstem
    refine List.pairwise_cons.2 ⟨fun x hx => ?_, pairwise_issued h.numbered hstem'⟩
    obtain ⟨s, hs, hadmits⟩ := slot_of_mem_issued h.numbered hx
    dsimp only
    rw [h.placeholder, hs, h.stem, agree_placeholder hstem]
    exact h.settles.agree hadmits

end Findings

/-! ## All requests -/

open Findings

/-- No two placeholders can be confused. The loop that looks for a stem ends. Whatever placeholders are
asked for then, none of them occurs in the source. Two records get the same one if and only if they have
the same path, and every text gets one of its own. And of two that differ, neither is a part of the
other: to replace one of them leaves the other alone wherever it stands as a word. -/
theorem placeholders_unambiguous (source : String) (requests : List Request) :
    Lengthens source "__modulizerref" (freeStem source) ∧
      ((start source).issued requests).map Prod.fst = requests ∧
      (∀ x ∈ (start source).issued requests, contains source x.2 = false) ∧
      ((start source).issued requests).Pairwise (fun x y => Agree x.1 x.2 y.1 y.2) ∧
      ∀ x ∈ (start source).issued requests, ∀ y ∈ (start source).issued requests, x.2 ≠ y.2 →
        contains y.2 x.2 = false ∧ ∀ front back text, StandsBetween front back →
          replaceAll (front ++ y.2 ++ back) x.2 text =
            replaceAll front x.2 text ++ y.2 ++ replaceAll back x.2 text := by
  have hlengthens := lengthens_freeStem source
  have hstem : IsStem (start source).stem := isStem_freeStem source
  have hslot {x : Request × String} (hx : x ∈ (start source).issued requests) :
      ∃ s : Slot, x.2 = s.placeholder (start source).stem :=
    (slot_of_mem_issued (numbered_start source) hx).imp fun _ h => h.1
  refine ⟨hlengthens, map_fst_issued _ _, fun x hx => ?_,
    pairwise_issued (numbered_start source) hstem, fun x hx y hy hne => ?_⟩
  · obtain ⟨s, hs⟩ := hslot hx
    refine Bool.eq_false_iff.2 fun hcontains => ?_
    -- the stem is the beginning of the placeholder
    have hinfix : (start source).stem.toList <:+: source.toList := by
      refine List.IsInfix.trans ?_ (contains_iff_isInfix.1 hcontains)
      rw [hs, Slot.placeholder, String.toList_append]
      exact (List.prefix_append _ _).isInfix
    exact absurd (contains_iff_isInfix.2 hinfix) (by simp [start, hlengthens.contains_eq_false])
  · obtain ⟨s, hs⟩ := hslot hx
    obtain ⟨t, ht⟩ := hslot hy
    have hcontains : contains y.2 x.2 = false := by
      refine Bool.eq_false_iff.2 fun hcontains => hne ?_
      rw [hs, ht] at hcontains ⊢
      rw [Slot.eq_of_infix hstem (contains_iff_isInfix.1 hcontains)]
    refine ⟨hcontains, fun front back text hbetween => ?_⟩
    rw [replaceAll_between hbetween y.2 text ?_ ?_, replaceAll_eq_self text hcontains]
    · rw [hs]
      exact Slot.placeholder_ne_empty hstem
    · rw [hs]
      exact fun c => Slot.isNamePart_of_mem_placeholder hstem

end Pass

end HtmlModules
