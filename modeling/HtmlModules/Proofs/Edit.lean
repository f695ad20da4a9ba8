import HtmlModules.Proofs.Listing
import HtmlModules.Text.Edit

/-!
# Batches of edits

A batch of edits is put in order and applied in one sweep. In the result the ranges of the edits are
replaced, and what is between them stays (`Spliced`, `spliced_of_applyEdits`). A batch without
overlaps (`AllApart`) can be applied. What is between two replaced ranges is changed by the edits in
there only (`applyEdits_between`).
-/

namespace HtmlModules.Text

namespace Edit

/-- The range of `e` is part of the range of `f`. -/
def Within (e f : Edit) : Prop := f.start ≤ e.start ∧ e.stop ≤ f.stop

instance (e f : Edit) : Decidable (e.Within f) := inferInstanceAs (Decidable (_ ∧ _))

/-- The edits replace the same range. -/
def SameRange (e f : Edit) : Prop := e.start = f.start ∧ e.stop = f.stop

instance (e f : Edit) : Decidable (e.SameRange f) := inferInstanceAs (Decidable (_ ∧ _))

/-- An edit fits a text if its range runs forward inside it. -/
theorem fits_iff {e : Edit} {n : Nat} :
    e.fits n = true ↔ 0 ≤ e.start ∧ e.stop ≤ n ∧ e.start ≤ e.stop := by
  simp [fits, and_assoc]

/-! ## Order -/

/-- Edits are ordered by where they start and then by where they stop. -/
theorem le_iff {e f : Edit} :
    e.le f = true ↔ e.start < f.start ∨ e.start = f.start ∧ e.stop ≤ f.stop := by
  simp [le]

theorem le_total (e f : Edit) (h : e.le f = false) : f.le e = true := by
  have h' := mt le_iff.2 (Bool.eq_false_iff.1 h)
  rw [le_iff]
  omega

theorem le_trans (e f g : Edit) (h : e.le f = true) (h' : f.le g = true) : e.le g = true := by
  rw [le_iff] at *
  omega

/-- An edit that stops where another one starts comes first. -/
theorem le_of_stop_le {e f : Edit} (he : e.start ≤ e.stop) (hf : f.start ≤ f.stop)
    (h : e.stop ≤ f.start) : e.le f = true := by
  rw [le_iff]
  omega

/-- The edit that comes first does not start later. -/
theorem start_le_of_le {e f : Edit} (h : e.le f = true) : e.start ≤ f.start := by
  rw [le_iff] at h
  omega

/-- Edits of the same range may come in any order. -/
theorem le_of_sameRange {d e f : Edit} (he : d.SameRange e) (hf : d.SameRange f) :
    e.le f = true := by
  rw [le_iff, ← he.1, ← hf.1, ← he.2, ← hf.2]
  exact Or.inr ⟨rfl, Int.le_refl _⟩

end Edit

theorem orderEdits_perm (batch : List Edit) : (orderEdits batch).Perm batch :=
  sortBy_perm Edit.le batch

theorem pairwise_orderEdits (batch : List Edit) :
    (orderEdits batch).Pairwise fun e f => e.le f = true :=
  pairwise_sortBy Edit.le_total Edit.le_trans batch

/-! ## The result -/

/-- The second text is the first one, which starts at an offset, with the ranges of the edits
replaced. -/
inductive Spliced : Nat → List Char → List Edit → List Char → Prop
  /-- Behind the last edit all stays. -/
  | rest (offset : Nat) (source : List Char) : Spliced offset source [] source
  /-- What is in front of an edit stays, and its range is replaced. -/
  | edit {offset : Nat} {gap old source result : List Char} {e : Edit} {edits : List Edit} :
    e.start = (offset + gap.length : Nat) → e.stop = (offset + gap.length + old.length : Nat) →
    Spliced (offset + gap.length + old.length) source edits result →
    Spliced offset (gap ++ (old ++ source)) (e :: edits) (gap ++ e.text.toList ++ result)

/-- A text from one offset up to another one and then on is the text from the first offset. -/
theorem take_append_drop_of_le {source : List Char} {a b : Nat} (h : a ≤ b) :
    (source.drop a).take (b - a) ++ source.drop b = source.drop a := by
  rw [← Nat.add_sub_cancel' h, ← List.drop_drop, Nat.add_sub_cancel_left, List.take_append_drop]

/-- The sweep replaces the ranges of edits that are apart. -/
theorem spliced_sweep {source : List Char} :
    ∀ {edits : List Edit} {offset : Nat}, (∀ e ∈ edits, e.fits source.length = true) →
      edits.Pairwise (fun e f => e.stop ≤ f.start) → (∀ e ∈ edits, offset ≤ e.start) →
      Spliced offset (source.drop offset) edits (sweep source offset edits)
  | [], offset, _, _, _ => .rest offset _
  | e :: edits, offset, hfits, hapart, hoffset => by
    obtain ⟨hstart, hstop, hle⟩ := Edit.fits_iff.1 (hfits e (by simp))
    obtain ⟨a, ha⟩ := Int.eq_ofNat_of_zero_le hstart
    obtain ⟨b, hb⟩ := Int.eq_ofNat_of_zero_le (Int.le_trans hstart hle)
    have hoa : offset ≤ a := by
      have := hoffset e (by simp)
      omega
    obtain ⟨hnext, hapart⟩ := List.pairwise_cons.1 hapart
    have ih : Spliced b (source.drop b) edits (sweep source b edits) :=
      spliced_sweep (fun f hf => hfits f (List.mem_cons_of_mem e hf)) hapart
        fun f hf => hb ▸ hnext f hf
    have hgap : ((source.drop offset).take (a - offset)).length = a - offset := by
      rw [List.length_take, List.length_drop]
      omega
    have hold : ((source.drop a).take (b - a)).length = b - a := by
      rw [List.length_take, List.length_drop]
      omega
    -- The text from the offset on is the gap, the range of `e` and what is behind it.
    have hsource : source.drop offset = (source.drop offset).take (a - offset) ++
        ((source.drop a).take (b - a) ++ source.drop b) := by
      rw [take_append_drop_of_le (by omega), take_append_drop_of_le hoa]
    rw [hsource, sweep, ha, hb, Int.toNat_natCast, Int.toNat_natCast, List.drop_take]
    refine .edit ?_ ?_ ?_
    · rw [hgap, ha]
      omega
    · rw [hgap, hold, hb]
      omega
    · rw [hgap, hold]
      have hoff : offset + (a - offset) + (b - a) = b := by omega
      rwa [hoff]

/-! ## Batches without overlaps -/

namespace Edit

/-- One of the edits ends before the other begins. -/
def Apart (e f : Edit) : Prop := e.stop ≤ f.start ∨ f.stop ≤ e.start

theorem Apart.symm {e f : Edit} (h : e.Apart f) : f.Apart e :=
  Or.symm h

end Edit

/-- The edits lie in a text of the given length, and no two of them overlap. -/
structure AllApart (length : Nat) (batch : List Edit) : Prop where
  fits : ∀ e ∈ batch, e.fits length = true
  apart : batch.Pairwise Edit.Apart

/-- In order, edits that are apart follow each other. -/
theorem le_start_of_apart {e f : Edit} {length : Nat} (hf : f.fits length = true)
    (hle : e.le f = true) (h : e.Apart f) : e.stop ≤ f.start := by
  rw [Edit.le_iff] at hle
  have := (Edit.fits_iff.1 hf).2.2
  rcases h with h | h <;> omega

/-- A batch without overlaps is kept as a whole. -/
theorem keepEdits_of_apart {length : Nat} :
    ∀ {batch : List Edit} {last : Option Edit}, (∀ e ∈ batch, e.fits length = true) →
      (∀ k ∈ last, ∀ e ∈ batch, k.stop ≤ e.start) →
      batch.Pairwise (fun e f => e.stop ≤ f.start) →
      keepEdits length false last batch = .ok batch
  | [], _, _, _, _ => rfl
  | e :: batch, last, hfits, hlast, happart => by
    obtain ⟨he, hapart⟩ := List.pairwise_cons.1 happart
    have hrest : keepEdits length false (some e) batch = .ok batch :=
      keepEdits_of_apart (fun f hf => hfits f (List.mem_cons_of_mem e hf))
        (fun k hk f hf => Option.mem_some.1 hk ▸ he f hf) hapart
    cases last with
    | none =>
      simp only [keepEdits, hfits e (by simp), hrest]
      rfl
    | some k =>
      have hlt : ¬e.start < k.stop := Int.not_lt.2 (hlast k rfl e (by simp))
      simp only [keepEdits, hfits e (by simp), hlt, hrest]
      rfl

/-- A batch without overlaps can be applied. -/
theorem AllApart.applyEdits {source : String} {batch : List Edit}
    (h : AllApart source.length batch) : ∃ text, applyEdits source batch = .ok text := by
  have hfits : ∀ e ∈ orderEdits batch, e.fits source.length = true := fun e he =>
    h.fits e ((orderEdits_perm batch).mem_iff.1 he)
  have hapart : (orderEdits batch).Pairwise Edit.Apart :=
    ((orderEdits_perm batch).pairwise_iff fun h => h.symm).2 h.apart
  have hkept := @keepEdits_of_apart _ _ none hfits (by simp)
    (((pairwise_orderEdits batch).and hapart).imp_of_mem fun _ hf h =>
      le_start_of_apart (hfits _ hf) h.1 h.2)
  exact ⟨_, by rw [Text.applyEdits, hkept]; rfl⟩

/-! ## Batches that can be applied -/

/-- A batch that is applied as a whole lies in the text, and its edits follow each other. -/
theorem keepEdits_eq_ok {length : Nat} :
    ∀ {batch kept : List Edit} {last : Option Edit}, keepEdits length false last batch = .ok kept →
      kept = batch ∧ (∀ e ∈ batch, e.fits length = true) ∧
        batch.Pairwise (fun e f => e.stop ≤ f.start) ∧
        ∀ k ∈ last, ∀ e ∈ batch, k.stop ≤ e.start
  | [], kept, last, h => by
    cases h
    exact ⟨rfl, by simp, .nil, by simp⟩
  | e :: rest, kept, last, h => by
    unfold keepEdits at h
    split_ifs at h with hfits
    have hfits : e.fits length = true := by simpa using hfits
    obtain ⟨hlast, rest', hrest, rfl⟩ : (∀ k ∈ last, k.stop ≤ e.start) ∧
        ∃ rest', keepEdits length false (some e) rest = .ok rest' ∧ kept = e :: rest' := by
      have hkept (h : (do return e :: (← keepEdits length false (some e) rest)) = Except.ok kept) :
          ∃ rest', keepEdits length false (some e) rest = .ok rest' ∧ kept = e :: rest' := by
        cases hrest : keepEdits length false (some e) rest with
        | error conflict =>
          rw [hrest] at h
          cases h
        | ok rest' =>
          rw [hrest] at h
          cases h
          exact ⟨rest', rfl, rfl⟩
      split at h
      · exact ⟨by simp, hkept h⟩
      · simp only [Bool.false_and, Bool.false_eq_true, if_false] at h
        split_ifs at h with hlt
        exact ⟨by simpa using hlt, hkept h⟩
    obtain ⟨rfl, hall, hapart, hnext⟩ := keepEdits_eq_ok hrest
    have hle := (Edit.fits_iff.1 hfits).2.2
    refine ⟨rfl, by simpa using ⟨hfits, hall⟩, List.pairwise_cons.2 ⟨hnext e rfl, hapart⟩, ?_⟩
    intro k hk f hf
    have := hlast k hk
    rcases List.mem_cons.1 hf with rfl | hf
    · exact this
    · have := hnext e rfl f hf
      omega

/-- A text to which a batch has been applied has the ranges of all its edits replaced. -/
theorem spliced_of_applyEdits {source text : String} {batch : List Edit}
    (h : applyEdits source batch = .ok text) :
    Spliced 0 source.toList (orderEdits batch) text.toList := by
  cases hkept : keepEdits source.length false none (orderEdits batch) with
  | error conflict =>
    rw [applyEdits, hkept] at h
    cases h
  | ok kept =>
    rw [applyEdits, hkept] at h
    cases h
    obtain ⟨rfl, hfits, hapart, -⟩ := keepEdits_eq_ok hkept
    rw [String.toList_ofList]
    rw [← String.length_toList] at hfits
    exact spliced_sweep hfits hapart fun e he => (Edit.fits_iff.1 (hfits e he)).1

/-- What stands in front of the range of an edit is replaced by the edits before it, and what stands
behind the range by those after it. -/
theorem Spliced.split_append {e : Edit} {after : List Edit} :
    ∀ {before : List Edit} {offset : Nat} {source text : List Char},
      Spliced offset source (before ++ e :: after) text →
      ∃ front old back text₁ text₂,
        source = front ++ (old ++ back) ∧ e.start = (offset + front.length : Nat) ∧
        e.stop = (offset + front.length + old.length : Nat) ∧
        text = text₁ ++ e.text.toList ++ text₂ ∧ Spliced offset front before text₁ ∧
        Spliced (offset + front.length + old.length) back after text₂
  | [], offset, source, text, h => by
    cases h with
    | @edit _ gap range rest result _ _ hstart hstop hrest =>
      exact ⟨gap, range, rest, gap, result, rfl, hstart, hstop, rfl, .rest _ _, hrest⟩
  | first :: before, offset, source, text, h => by
    cases h with
    | @edit _ gap range rest result _ _ hstart hstop hrest =>
      obtain ⟨front, old, back, text₁, text₂, rfl, hstart', hstop', rfl, hfront, hback⟩ :=
        Spliced.split_append hrest
      have hlength : offset + (gap ++ (range ++ front)).length =
          offset + gap.length + range.length + front.length := by
        simp only [List.length_append]
        omega
      refine ⟨gap ++ (range ++ front), old, back, gap ++ first.text.toList ++ text₁, text₂,
        by simp, ?_, ?_, by simp, .edit hstart hstop hfront, ?_⟩
      · rw [hlength, hstart']
      · rw [hlength, hstop']
      · rwa [hlength]

/-- What stands in front of the range of an edit and what stands behind it are replaced apart from
each other. -/
theorem Spliced.split {offset : Nat} {source text : List Char} {edits : List Edit}
    (h : Spliced offset source edits text) {e : Edit} (he : e ∈ edits) :
    ∃ front old back before after text₁ text₂,
      source = front ++ (old ++ back) ∧ e.start = (offset + front.length : Nat) ∧
      e.stop = (offset + front.length + old.length : Nat) ∧
      text = text₁ ++ e.text.toList ++ text₂ ∧ Spliced offset front before text₁ ∧
      Spliced (offset + front.length + old.length) back after text₂ := by
  obtain ⟨before, after, rfl⟩ := List.append_of_mem he
  obtain ⟨front, old, back, text₁, text₂, h⟩ := h.split_append
  exact ⟨front, old, back, before, after, text₁, text₂, h⟩

/-- A batch has one order, if the edits of one range in it are the same. -/
theorem orderEdits_eq_of_perm {batch ordered : List Edit} (hperm : ordered.Perm batch)
    (hordered : ordered.Pairwise fun e f => e.le f = true)
    (hsame : ∀ e ∈ batch, ∀ f ∈ batch, e.SameRange f → e = f) : orderEdits batch = ordered := by
  refine ((orderEdits_perm batch).trans hperm.symm).eq_of_pairwise (fun e f he hf hle hge => ?_)
    (pairwise_orderEdits batch) hordered
  refine hsame e ((orderEdits_perm batch).mem_iff.1 he) f (hperm.mem_iff.1 hf) ?_
  rw [Edit.le_iff] at hle hge
  exact ⟨by omega, by omega⟩

/-- Edits in order, which lie from an offset on. -/
structure OrderedFrom (offset : Int) (edits : List Edit) : Prop where
  ordered : edits.Pairwise fun e f => e.le f = true
  proper : ∀ e ∈ edits, offset ≤ e.start ∧ e.start ≤ e.stop

/-- Edits in order that end where others begin come in front of them. -/
theorem OrderedFrom.pairwise_append {offset : Int} {front back : List Edit}
    (hback : OrderedFrom offset back) (hfront : front.Pairwise fun e f => e.le f = true)
    (hends : ∀ e ∈ front, e.start ≤ e.stop ∧ e.stop ≤ offset) :
    (front ++ back).Pairwise fun e f => e.le f = true := by
  refine List.pairwise_append.2 ⟨hfront, hback.ordered, fun e he f hf => ?_⟩
  have hf := hback.proper f hf
  exact Edit.le_of_stop_le (hends e he).1 hf.2 (Int.le_trans (hends e he).2 hf.1)

/-- Edits in front of others, and ordered, are ordered with them. -/
theorem OrderedFrom.append {start offset : Int} {front back : List Edit}
    (hback : OrderedFrom offset back) (hle : start ≤ offset)
    (hfront : front.Pairwise fun e f => e.le f = true)
    (hinside : ∀ e ∈ front, start ≤ e.start ∧ e.start ≤ e.stop ∧ e.stop ≤ offset) :
    OrderedFrom start (front ++ back) where
  ordered := hback.pairwise_append hfront fun e he => (hinside e he).2
  proper := List.forall_mem_append.2 ⟨fun e he => ⟨(hinside e he).1, (hinside e he).2.1⟩,
    fun f hf => ⟨Int.le_trans hle (hback.proper f hf).1, (hback.proper f hf).2⟩⟩

/-- A replacement in front of ordered edits is ordered with them. -/
theorem OrderedFrom.replace {a b : Nat} {text : String} {back : List Edit}
    (hback : OrderedFrom b back) (hab : a ≤ b) : OrderedFrom a (.replace a b text :: back) := by
  have hfront : OrderedFrom a ([.replace a b text] ++ back) := by
    refine hback.append (by omega) (List.pairwise_singleton _ _) (List.forall_mem_singleton.2 ?_)
    simp only [Edit.replace]
    omega
  exact hfront

/-- The order of a batch that replaces two ranges: what is to be done between them comes between the two
replacements, and all else comes in front of them or behind them. -/
theorem orderEdits_between {opening closing : String} {a b c d : Nat}
    {batch inner outer : List Edit} (hab : a < b) (hbc : b ≤ c) (hcd : c ≤ d)
    (hperm : batch.Perm (.replace a b opening :: .replace c d closing :: (inner ++ outer)))
    (hinner : ∀ e ∈ inner, (b : Int) ≤ e.start ∧ e.start ≤ e.stop ∧ e.stop ≤ c)
    (houter : ∀ e ∈ outer, e.start ≤ e.stop ∧ (e.stop ≤ a ∨ (d : Int) ≤ e.start))
    (hsame : ∀ e ∈ batch, ∀ f ∈ batch, e.SameRange f → e = f) :
    ∃ before behind, orderEdits batch = before ++ .replace a b opening ::
      (orderEdits inner ++ .replace c d closing :: behind) := by
  refine ⟨orderEdits (outer.filter fun e => e.stop ≤ a),
    orderEdits (outer.filter fun e => !decide (e.stop ≤ a)), ?_⟩
  set before := orderEdits (outer.filter fun e => e.stop ≤ a)
  set behind := orderEdits (outer.filter fun e => !decide (e.stop ≤ a))
  have hbefore : ∀ e ∈ before, e.start ≤ e.stop ∧ e.stop ≤ a := fun e he => by
    have he := (orderEdits_perm _).mem_iff.1 he
    exact ⟨(houter e (List.mem_of_mem_filter he)).1, by simpa using (List.mem_filter.1 he).2⟩
  have hbehind : OrderedFrom d behind := by
    refine ⟨pairwise_orderEdits _, fun e he => ?_⟩
    have he := (orderEdits_perm _).mem_iff.1 he
    obtain ⟨hproper, hbeside⟩ := houter e (List.mem_of_mem_filter he)
    exact ⟨hbeside.resolve_left (by simpa using (List.mem_filter.1 he).2), hproper⟩
  have hmiddle : OrderedFrom b (orderEdits inner ++ .replace c d closing :: behind) :=
    (hbehind.replace hcd).append (by omega) (pairwise_orderEdits _)
      fun e he => hinner e ((orderEdits_perm _).mem_iff.1 he)
  refine orderEdits_eq_of_perm ?_
    ((hmiddle.replace hab.le).pairwise_append (pairwise_orderEdits _) hbefore) hsame
  have hmove : (before ++ .replace a b opening ::
      (orderEdits inner ++ .replace c d closing :: behind)).Perm (.replace a b opening ::
        .replace c d closing :: (orderEdits inner ++ (before ++ behind))) := by
    rw [List.perm_iff_count]
    intro e
    simp only [List.count_append, List.count_cons]
    omega
  have houter : (before ++ behind).Perm outer :=
    ((orderEdits_perm _).append (orderEdits_perm _)).trans (List.filter_append_perm _ outer)
  exact (hmove.trans ((((orderEdits_perm inner).append houter).cons _).cons _)).trans hperm.symm

/-- What a batch makes of a text from an offset on, at a range that one of its edits replaces. -/
theorem Spliced.split_replace {offset a b : Nat} {source text : List Char} {replacement : String}
    {before after : List Edit}
    (h : Spliced offset (source.drop offset) (before ++ .replace a b replacement :: after) text) :
    ∃ text₁ text₂, text = text₁ ++ replacement.toList ++ text₂ ∧
      Spliced offset ((source.drop offset).take (a - offset)) before text₁ ∧
      Spliced b (source.drop b) after text₂ := by
  obtain ⟨front, old, back, text₁, text₂, hsource, hstart, hstop, htext, hfront, hback⟩ :=
    h.split_append
  simp only [Edit.replace, Int.natCast_inj] at hstart hstop
  have hbehind : source.drop b = back := by
    rw [hstop, Nat.add_assoc, ← List.drop_drop, hsource, ← List.append_assoc, ← List.length_append,
      List.drop_left]
  refine ⟨text₁, text₂, htext, ?_, ?_⟩
  · rwa [hsource, hstart, Nat.add_sub_cancel_left, List.take_left]
  · rwa [hbehind, hstop]

/-- What a batch makes of a text in which the ranges from `a` to `b` and from `c` to `d` are replaced:
between the two replacements is what the edits in there make of the text between them. -/
theorem applyEdits_between {source text opening closing : String} {a b c d : Nat}
    {batch inner outer : List Edit} (hab : a < b) (hbc : b ≤ c) (hcd : c ≤ d)
    (hperm : batch.Perm (.replace a b opening :: .replace c d closing :: (inner ++ outer)))
    (hinner : ∀ e ∈ inner, (b : Int) ≤ e.start ∧ e.start ≤ e.stop ∧ e.stop ≤ c)
    (houter : ∀ e ∈ outer, e.start ≤ e.stop ∧ (e.stop ≤ a ∨ (d : Int) ≤ e.start))
    (hsame : ∀ e ∈ batch, ∀ f ∈ batch, e.SameRange f → e = f)
    (h : applyEdits source batch = .ok text) :
    ∃ front middle back before behind,
      text.toList = front ++ opening.toList ++ (middle ++ closing.toList ++ back) ∧
        Spliced 0 (source.toList.take a) before front ∧
        Spliced b ((source.toList.drop b).take (c - b)) (orderEdits inner) middle ∧
        Spliced d (source.toList.drop d) behind back := by
  obtain ⟨before, behind, hordered⟩ := orderEdits_between hab hbc hcd hperm hinner houter hsame
  have hspliced : Spliced 0 (source.toList.drop 0) (before ++ .replace a b opening ::
      (orderEdits inner ++ .replace c d closing :: behind)) text.toList :=
    hordered ▸ spliced_of_applyEdits h
  obtain ⟨front, rest, htext, hfront, hrest⟩ := hspliced.split_replace
  obtain ⟨middle, back, rfl, hmiddle, hback⟩ := hrest.split_replace
  exact ⟨front, middle, back, before, behind, htext, hfront, hmiddle, hback⟩

end HtmlModules.Text
