import HtmlModules.Markup.Event
import HtmlModules.Proofs.Failing
import Mathlib.Tactic.SplitIfs

/-!
# Events tile the text

Every event begins where the one before it ends, takes at least one character and ends inside the
text; the contents of a raw element lie between its tags (`tiles_scan`). For each part of an event
there is a lemma that it takes no more characters than there are. A raw element is never read as a
start tag by itself (`lower_notMem_rawTags`).
-/

namespace HtmlModules.Markup

open Text

variable {cs : List Char} {n : Nat}

/-! ## Parts of tags -/

/-- The value of an attribute takes no more than there is. -/
theorem value?_le {v : List Char} (h : value? cs = some (v, n)) : n ≤ cs.length := by
  unfold value? at h
  split at h
  · cases h
  · next q rest =>
    have hbare := (List.takeWhile_prefix isBareValueChar (l := q :: rest)).length_le
    dsimp only at h
    split_ifs at h
    · obtain ⟨-, rfl⟩ := Prod.mk.inj (Option.some.inj h)
      simp only [List.length_cons]
      omega
    · obtain ⟨-, rfl⟩ := Prod.mk.inj (Option.some.inj h)
      exact hbare

theorem assignedValue?_le {v : List Char} (h : assignedValue? cs = some (v, n)) :
    n ≤ cs.length := by
  unfold assignedValue? at h
  dsimp only at h
  split at h
  · next rest hrest =>
    obtain ⟨⟨v', m⟩, hvalue, hn⟩ := Option.map_eq_some_iff.1 h
    obtain ⟨-, rfl⟩ := Prod.mk.inj hn
    have hm := value?_le hvalue
    have hlength := congrArg List.length hrest
    have hafter := (List.takeWhile_prefix isBlank (l := rest)).length_le
    simp only [List.length_drop, List.length_cons] at hm hlength
    omega
  · cases h

theorem attribute?_le {a : Attribute} (h : attribute? cs = some (a, n)) : n ≤ cs.length := by
  unfold attribute? at h
  dsimp only at h
  have hname := (List.takeWhile_prefix isAttributeNameChar
    (l := cs.drop (cs.takeWhile isBlank).length)).length_le
  have hblank := (List.takeWhile_prefix isBlank (l := cs)).length_le
  rw [List.length_drop] at hname
  split_ifs at h
  split at h
  · next v m hvalue =>
    obtain ⟨-, rfl⟩ := Prod.mk.inj (Option.some.inj h)
    have hm := assignedValue?_le hvalue
    rw [List.length_drop] at hm
    omega
  · obtain ⟨-, rfl⟩ := Prod.mk.inj (Option.some.inj h)
    omega

/-- The end of a tag takes something, and no more than there is. -/
theorem tagEnd?_le {selfClosing : Bool} (h : tagEnd? cs = some (selfClosing, n)) :
    0 < n ∧ n ≤ cs.length := by
  unfold tagEnd? at h
  dsimp only at h
  split at h
  · next rest hrest =>
    obtain ⟨-, rfl⟩ := Prod.mk.inj (Option.some.inj h)
    have hlength := congrArg List.length hrest
    simp only [List.length_drop, List.length_cons] at hlength
    omega
  · next rest hrest =>
    obtain ⟨-, rfl⟩ := Prod.mk.inj (Option.some.inj h)
    have hlength := congrArg List.length hrest
    simp only [List.length_drop, List.length_cons] at hlength
    omega
  · cases h

/-- A tag ends behind its name and inside the text. -/
theorem tagRest_stop {r : TagRest} :
    ∀ {fuel last offset : Nat} {cs : List Char} {done : List Attribute},
      tagRest fuel last offset cs done = .ok r → offset < r.stop ∧ r.stop ≤ offset + cs.length
  | 0, _, _, _, _, h => by cases h
  | fuel + 1, last, offset, cs, done, h => by
    rw [tagRest] at h
    split_ifs at h
    split at h
    · next a m hattribute =>
      have hm := attribute?_le hattribute
      have ih := tagRest_stop h
      rw [List.length_drop] at ih
      omega
    · split at h
      · next selfClosing m hend =>
        obtain ⟨hpos, hm⟩ := tagEnd?_le hend
        obtain rfl := Except.ok.inj h
        dsimp only
        omega
      · cases h

/-! ## Raw elements -/

/-- A text that starts with a word, in whatever case, is as long as the word. -/
theorem length_le_of_startsWithWord :
    ∀ {word cs : List Char}, startsWithWord word cs = true → word.length ≤ cs.length
  | [], _, _ => Nat.zero_le _
  | _ :: _, [], h => by cases h
  | _ :: word, _ :: cs, h =>
    Nat.succ_le_succ (length_le_of_startsWithWord (Bool.and_eq_true_iff.1 h).2)

theorem rawClose?_le {word : List Char} (h : rawClose? word cs = some n) : n ≤ cs.length := by
  unfold rawClose? at h
  dsimp only at h
  split_ifs at h with hword hclose
  obtain rfl := Option.some.inj h
  obtain ⟨rest, hrest⟩ := List.head?_eq_some_iff.1 (beq_iff_eq.1 hclose)
  have hlength := congrArg List.length hrest
  simp only [List.length_drop, List.length_cons] at hlength
  omega

/-- The text of a raw element takes no more than there is. -/
theorem length_rawText_le (word : List Char) :
    ∀ cs : List Char, (rawText word cs).length ≤ cs.length
  | [] => Nat.le_refl _
  | c :: cs => by
    rw [rawText]
    split_ifs
    · exact Nat.zero_le _
    · exact Nat.succ_le_succ (length_rawText_le word cs)

/-! ## Words in lower case -/

/-- The runs that begin above ASCII stay above it, the Kelvin sign apart, whose lower case is `k`. -/
theorem lowerRuns_above : ∀ r ∈ lowerRuns, 0x80 ≤ r.last →
    0x80 ≤ r.first + r.distance ∨ r.first = r.last ∧ r.first + r.distance = 'k'.toNat := by
  decide +kernel

theorem toNat_ofNat (n : Nat) : (Char.ofNat n).toNat = n ∨ Char.ofNat n = '\x00' := by
  unfold Char.ofNat
  by_cases h : n.isValidChar
  · rw [dif_pos h]
    exact Or.inl rfl
  · rw [dif_neg h]
    exact Or.inr rfl

/-- No character outside of ASCII becomes an ASCII letter, other than `k`. -/
theorem moveCase_above {c : Char} (hc : 0x80 ≤ c.toNat) :
    0x80 ≤ (moveCase lowerRuns c).toNat ∨ moveCase lowerRuns c = 'k' ∨
      moveCase lowerRuns c = '\x00' := by
  unfold moveCase
  split
  · next r hr =>
    have hcovers := List.find?_some hr
    simp only [CaseRun.covers, Bool.and_eq_true, decide_eq_true_eq] at hcovers
    obtain ⟨⟨hfirst, hlast⟩, -⟩ := hcovers
    rcases lowerRuns_above r (List.mem_of_find?_eq_some hr) (Nat.le_trans hc hlast) with
      habove | ⟨hsingle, hkelvin⟩
    · rcases toNat_ofNat ((c.toNat : Int) + r.distance).toNat with heq | heq
      · left
        omega
      · exact Or.inr (Or.inr heq)
    · right
      left
      have hk : ((c.toNat : Int) + r.distance).toNat = 'k'.toNat := by omega
      rw [hk]
      rfl
  · exact Or.inl hc

/-- Only letters of ASCII have this character as their lower case. -/
def IsPlain (w : Char) : Prop := w.toNat < 0x80 ∧ w ≠ 'k' ∧ w ≠ '\x00'

instance (w : Char) : Decidable (IsPlain w) := inferInstanceAs (Decidable (_ ∧ _))

/-- If the lower case of a text is plain, then the text is this word in some case. -/
theorem startsWithWord_of_lowerFrom :
    ∀ {cs before word : List Char}, (∀ w ∈ word, IsPlain w) → lowerFrom before cs = word →
      cs.length = word.length ∧ startsWithWord word cs = true
  | [], _, _, _, h => by
    obtain rfl := h
    exact ⟨rfl, rfl⟩
  | c :: cs, before, word, hplain, h => by
    rw [lowerFrom] at h
    split_ifs at h
    -- The final sigma and the other one are not in ASCII.
    · exact absurd (hplain 'ς' (by simp [← h])) (by decide)
    · exact absurd (hplain 'σ' (by simp [← h])) (by decide)
    · unfold lowerChar at h
      split_ifs at h with hascii
      · rw [List.singleton_append] at h
        obtain rfl := h
        obtain ⟨hlength, hrest⟩ :=
          startsWithWord_of_lowerFrom (fun w hw => hplain w (List.mem_cons_of_mem _ hw)) rfl
        exact ⟨by simp [hlength], by simp [startsWithWord, sameLetter, hrest]⟩
      · exact absurd (hplain '\u0307' (by simp [← h])) (by decide)
      · obtain ⟨hlt, hk, hzero⟩ := hplain (moveCase lowerRuns c) (by simp [← h])
        rcases moveCase_above (Nat.not_lt.1 hascii) with habove | heq | heq
        · omega
        · exact absurd heq hk
        · exact absurd heq hzero

theorem startsWithWord_append {more : List Char} :
    ∀ {word cs : List Char}, startsWithWord word cs = true → startsWithWord word (cs ++ more) = true
  | [], _, _ => by rw [startsWithWord]
  | _ :: _, [], h => by cases h
  | _ :: _, _ :: _, h => by
    obtain ⟨hletter, hrest⟩ := Bool.and_eq_true_iff.1 h
    exact Bool.and_eq_true_iff.2 ⟨hletter, startsWithWord_append hrest⟩

/-- The tags of raw elements. -/
def rawTags : List String := ["script", "style"]

/-- The words with which raw elements begin. -/
def rawWords : List (List Char) := [['s', 'c', 'r', 'i', 'p', 't'], ['s', 't', 'y', 'l', 'e']]

/-- The names of the raw elements have plain letters only. -/
theorem isPlain_of_mem_rawWords {word : List Char} {w : Char} (hword : word ∈ rawWords)
    (hw : w ∈ word) : IsPlain w := by
  have hall : (rawWords.all fun word => word.all fun w => decide (IsPlain w)) = true := by decide
  exact of_decide_eq_true (List.all_eq_true.1 (List.all_eq_true.1 hall word hword) w hw)

/-- A start tag that is read to its end is that of a raw element only if it begins one. -/
theorem lower_notMem_rawTags {name : List Char} {fuel last offset : Nat} {done : List Attribute}
    {r : TagRest} (hword : rawWord? cs = none) (hname : tagName? cs = some name)
    (hrest : tagRest fuel last offset (cs.drop (name.length + 1)) done = .ok r) :
    lower (String.ofList name) ∉ rawTags := by
  intro hmem
  obtain ⟨word, hraw, hlower⟩ : ∃ word ∈ rawWords, lowerFrom [] name = word := by
    simp only [rawTags, List.mem_cons, List.not_mem_nil, or_false, lower, String.toList_ofList]
      at hmem
    have hlower := String.toList_ofList (l := lowerFrom [] name)
    rcases hmem with h | h <;> rw [h] at hlower
    · exact ⟨_, List.mem_cons_self, hlower.symm⟩
    · exact ⟨_, List.mem_cons_of_mem _ List.mem_cons_self, hlower.symm⟩
  obtain ⟨hlength, hstarts⟩ :=
    startsWithWord_of_lowerFrom (fun _ => isPlain_of_mem_rawWords hraw) hlower
  -- So the text begins with the word, and what follows the name would end it.
  have hnone := List.find?_eq_none.1 hword word hraw
  unfold tagName? at hname
  split at hname
  · next c rest =>
    split_ifs at hname
    obtain rfl := Option.some.inj hname
    have hcs : c :: rest = (c :: rest.takeWhile isTagNameChar) ++ rest.dropWhile isTagNameChar := by
      simp
    have hdrop : ('<' :: c :: rest).drop (word.length + 1) = rest.dropWhile isTagNameChar := by
      rw [List.drop_succ_cons, hcs, ← hlength, List.drop_left]
    have hbegins : startsWithWord ('<' :: word) ('<' :: c :: rest) = true := by
      rw [hcs]
      exact Bool.and_eq_true_iff.2 ⟨rfl, startsWithWord_append hstarts⟩
    rw [hbegins, hdrop] at hnone
    rw [hlength, hdrop] at hrest
    cases hend : rest.dropWhile isTagNameChar with
    | nil =>
      rw [hend] at hrest
      cases fuel <;> simp [tagRest] at hrest
    | cons d more =>
      have hd : isTagNameChar d = false := by
        simpa [hend] using List.head?_dropWhile_not isTagNameChar rest
      have hcloses : (isBlank d || d == '/' || d == '>') = true := by grind [isTagNameChar]
      exact hnone (by simpa [hend] using hcloses)
  · cases hname

/-! ## Events -/

/-- The contents of a raw element lie in an event from `start` to `stop`, behind its start tag; no
start tag by itself is that of a raw element. -/
def EventKind.Inside (start stop : Nat) : EventKind → Prop
  | rawElement _ _ innerStart innerStop _ =>
    start < innerStart ∧ innerStart ≤ innerStop ∧ innerStop ≤ stop
  | startTag tag _ _ => tag ∉ rawTags
  | _ => True

/-- The event begins at `start`, takes at least one character and ends not behind `limit`. -/
structure Event.Covers (e : Event) (start limit : Nat) : Prop where
  start_eq : e.start = start
  start_lt : start < e.stop
  stop_le : e.stop ≤ limit
  inside : e.kind.Inside start e.stop

/-- A raw element covers its start tag and what it takes of the rest. -/
theorem rawRest_covers {word : List Char} {tag : String} {start : Nat} {head : TagRest} {e : Event}
    (hhead : start < head.stop) (h : rawRest word tag start head cs = .ok e) :
    e.Covers start (head.stop + cs.length) := by
  unfold rawRest at h
  dsimp only at h
  generalize htext : (if (rawClose? word cs).isSome then [] else rawText word cs) = text at h
  have hlength : text.length ≤ cs.length := by
    rw [← htext]
    split_ifs
    · exact Nat.zero_le _
    · exact length_rawText_le word cs
  split at h
  · next m hclose =>
    have hm := rawClose?_le hclose
    rw [List.length_drop] at hm
    obtain rfl := Except.ok.inj h
    refine ⟨rfl, ?_, ?_, hhead, Nat.le_add_right _ _, Nat.le_add_right _ _⟩
    · dsimp only
      omega
    · dsimp only
      omega
  · split_ifs at h

theorem indexOfChars_le {pat : List Char} :
    ∀ {cs : List Char} {n : Nat}, indexOfChars pat cs = some n → n + pat.length ≤ cs.length
  | [], n, h => by
    rw [indexOfChars] at h
    split_ifs at h with hpat
    obtain rfl := Option.some.inj h
    simp [List.isEmpty_iff.1 hpat]
  | c :: cs, n, h => by
    rw [indexOfChars] at h
    split_ifs at h with hpat
    · obtain rfl := Option.some.inj h
      simpa using (List.isPrefixOf_iff_prefix.1 hpat).length_le
    · obtain ⟨m, hm, rfl⟩ := Option.map_eq_some_iff.1 h
      have ih := indexOfChars_le hm
      rw [List.length_cons]
      omega

theorem comment?_le {data : List Char} (h : comment? cs = some data) :
    data.length + 7 ≤ cs.length := by
  unfold comment? at h
  split at h
  · next rest =>
    obtain ⟨m, hindex, rfl⟩ := Option.map_eq_some_iff.1 h
    have hm := indexOfChars_le hindex
    simp only [List.length_take, List.length_cons, List.length_nil] at hm ⊢
    omega
  · cases h

theorem throughClose?_le (h : throughClose? cs = some n) : 0 < n ∧ n ≤ cs.length := by
  unfold throughClose? at h
  dsimp only at h
  split_ifs at h
  obtain rfl := Option.some.inj h
  omega

theorem declaration?_le (h : declaration? cs = some n) : 0 < n ∧ n ≤ cs.length := by
  unfold declaration? at h
  split at h
  · cases h
  · obtain ⟨m, hclose, rfl⟩ := Option.map_eq_some_iff.1 h
    have hm := throughClose?_le hclose
    simp only [List.length_cons]
    omega
  · cases h

theorem endTag?_le (h : endTag? cs = some n) : 0 < n ∧ n ≤ cs.length := by
  unfold endTag? at h
  split at h
  · split_ifs at h
    obtain ⟨m, hclose, rfl⟩ := Option.map_eq_some_iff.1 h
    have hm := throughClose?_le hclose
    simp only [List.length_cons]
    omega
  · cases h

theorem tagName?_le {name : List Char} (h : tagName? cs = some name) :
    name.length + 1 ≤ cs.length := by
  unfold tagName? at h
  split at h
  · next c rest =>
    split_ifs at h
    obtain rfl := Option.some.inj h
    have hname := (List.takeWhile_prefix isTagNameChar (l := rest)).length_le
    simp only [List.length_cons]
    omega
  · cases h

theorem rawWord?_le {word : List Char} (h : rawWord? cs = some word) :
    word.length + 1 ≤ cs.length := by
  have hword := List.find?_some h
  exact length_le_of_startsWithWord (Bool.and_eq_true_iff.1 hword).1

/-- The text in front of the next tag is not empty if no `<` begins it. -/
theorem length_text {cs : List Char} (hcs : cs ≠ []) (hne : ∀ rest, cs ≠ '<' :: rest) :
    0 < (cs.takeWhile (· != '<')).length ∧ (cs.takeWhile (· != '<')).length ≤ cs.length := by
  obtain ⟨c, rest, rfl⟩ := List.exists_cons_of_ne_nil hcs
  have hc : (c != '<') = true := by
    rw [bne_iff_ne]
    rintro rfl
    exact hne rest rfl
  refine ⟨?_, (List.takeWhile_prefix _).length_le⟩
  rw [List.takeWhile_cons, if_pos hc]
  exact Nat.succ_pos _

/-- An event that takes some characters of a text takes its place in the text. -/
theorem Event.covers_of_le {kind : EventKind} {start n : Nat} (hle : 0 < n ∧ n ≤ cs.length)
    (hinside : kind.Inside start (start + n)) :
    Event.Covers ⟨start, start + n, kind⟩ start (start + cs.length) :=
  ⟨rfl, Nat.lt_add_of_pos_right hle.1, Nat.add_le_add_left hle.2 start, hinside⟩

/-- The event at the beginning of a text covers a part of it that is not empty. -/
theorem scanEvent_covers {start : Nat} {e : Event} (hcs : cs ≠ [])
    (h : scanEvent start cs = .ok e) : e.Covers start (start + cs.length) := by
  unfold scanEvent at h
  split at h
  · next data hdata =>
    have hle := comment?_le hdata
    obtain rfl := Except.ok.inj h
    rw [Nat.add_assoc]
    exact Event.covers_of_le ⟨by omega, hle⟩ trivial
  split at h
  · next n hn =>
    obtain rfl := Except.ok.inj h
    exact Event.covers_of_le (declaration?_le hn) trivial
  split at h
  · next word hword =>
    have hle := rawWord?_le hword
    obtain ⟨head, hrest, hraw⟩ := Failing.bind_eq_ok.1 h
    have hstop := tagRest_stop hrest
    have hcovers := rawRest_covers (by omega) hraw
    have hlimit : head.stop + (cs.drop (head.stop - start)).length = start + cs.length := by
      rw [List.length_drop] at hstop ⊢
      omega
    rwa [hlimit] at hcovers
  rename_i hword
  split at h
  · next n hn =>
    obtain rfl := Except.ok.inj h
    exact Event.covers_of_le (endTag?_le hn) trivial
  split at h
  · next name hname =>
    have hle := tagName?_le hname
    obtain ⟨rest, hrest, hevent⟩ := Failing.bind_eq_ok.1 h
    have hstop := tagRest_stop hrest
    rw [List.length_drop] at hstop
    obtain rfl := Except.ok.inj hevent
    exact ⟨rfl, by dsimp only; omega, by dsimp only; omega,
      lower_notMem_rawTags (Option.eq_none_iff_forall_ne_some.2 hword) hname hrest⟩
  dsimp only at h
  split at h
  · obtain rfl := Except.ok.inj h
    exact Event.covers_of_le ⟨Nat.one_pos, by simp⟩ trivial
  · next hne =>
    obtain rfl := Except.ok.inj h
    exact Event.covers_of_le (length_text hcs hne) trivial

/-! ## Texts -/

/-- The events follow each other without gaps from an offset on and end not behind `limit`. -/
def Tiles (limit : Nat) : Nat → List Event → Prop
  | offset, [] => offset ≤ limit
  | offset, e :: events => e.Covers offset limit ∧ Tiles limit e.stop events

/-- The events tile the text from the place where scanning starts. The induction is on the fuel, and
each step covers what its event takes. -/
theorem tiles_scanFrom :
    ∀ {fuel start : Nat} {cs : List Char} {events : List Event},
      scanFrom fuel start cs = .ok events → Tiles (start + cs.length) start events
  | 0, start, cs, _, h => by
    obtain rfl := Except.ok.inj h
    exact Nat.le_add_right start _
  | fuel + 1, start, cs, events, h => by
    rw [scanFrom] at h
    split_ifs at h with hcs
    · obtain rfl := Except.ok.inj h
      exact Nat.le_add_right start _
    · obtain ⟨e, hevent, hrest⟩ := Failing.bind_eq_ok.1 h
      obtain ⟨rest, hscan, hevents⟩ := Failing.bind_eq_ok.1 hrest
      obtain rfl := Except.ok.inj hevents
      have hcovers := scanEvent_covers (by simpa using hcs) hevent
      have hlimit : e.stop + (cs.drop (e.stop - start)).length = start + cs.length := by
        have hlt := hcovers.start_lt
        have hle := hcovers.stop_le
        rw [List.length_drop]
        omega
      exact ⟨hcovers, hlimit ▸ tiles_scanFrom hscan⟩

/-- The events of a text tile it. -/
theorem tiles_scan {source : String} {events : List Event} (h : scan source = .ok events) :
    Tiles source.length 0 events := by
  have htiles := tiles_scanFrom h
  rwa [String.length_toList, Nat.zero_add] at htiles

end HtmlModules.Markup
