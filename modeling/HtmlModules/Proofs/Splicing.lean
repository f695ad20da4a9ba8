import HtmlModules.Proofs.Edit

/-!
# Edits from the last to the first

A batch is applied in one sweep. This gives the text that replacing one range after the other gives,
from the last edit to the first, so that no replacement moves a range that is still to come
(`sweep_eq_spliceBackward`). The order of the edits is that by start, end and position in the batch
(`inOrder_eq_orderEdits`), so only the order among edits of one range counts
(`Reorders.orderEdits_eq`): above all, what is inserted at one offset comes in the order of the batch
(`Spliced.insertions`).
-/

namespace HtmlModules.Text

/-! ## The order -/

namespace Edit

theorem sameRange_iff {e f : Edit} : e.SameRange f ↔ e.le f = true ∧ f.le e = true := by
  rw [le_iff, le_iff, SameRange]
  omega

theorem SameRange.refl (e : Edit) : e.SameRange e :=
  ⟨rfl, rfl⟩

end Edit

/-- Two batches in order are the same if they have the same edits of each range, in the same order. -/
theorem eq_of_filter_sameRange :
    ∀ {l m : List Edit}, l.Pairwise (fun e f => e.le f = true) →
      m.Pairwise (fun e f => e.le f = true) →
      (∀ d : Edit, l.filter (fun f => d.SameRange f) = m.filter fun f => d.SameRange f) → l = m
  | [], [], _, _, _ => rfl
  | [], b :: m, _, _, h => by
    have hb := h b
    rw [List.filter_cons_of_pos (by simp [Edit.SameRange.refl])] at hb
    cases hb
  | a :: l, [], _, _, h => by
    have ha := h a
    rw [List.filter_cons_of_pos (by simp [Edit.SameRange.refl])] at ha
    cases ha
  | a :: l, b :: m, hl, hm, h => by
    obtain ⟨ha, hl'⟩ := List.pairwise_cons.1 hl
    obtain ⟨hb, hm'⟩ := List.pairwise_cons.1 hm
    have hmem (d : Edit) : d ∈ a :: l ↔ d ∈ b :: m := by
      have hself (n : List Edit) : d ∈ n ↔ d ∈ n.filter fun f => d.SameRange f := by
        simp [Edit.SameRange.refl]
      rw [hself (a :: l), h d, ← hself]
    -- Each list begins with a smallest edit, so the first edits have one range and are the same.
    have hle : a.le b = true := by
      rcases List.mem_cons.1 ((hmem b).2 List.mem_cons_self) with rfl | hb
      · exact (Edit.sameRange_iff.1 (.refl b)).1
      · exact ha b hb
    have hge : b.le a = true := by
      rcases List.mem_cons.1 ((hmem a).1 List.mem_cons_self) with rfl | ha
      · exact (Edit.sameRange_iff.1 (.refl a)).1
      · exact hb a ha
    have hsame : a.SameRange b := Edit.sameRange_iff.2 ⟨hle, hge⟩
    have hfirst : a = b := by
      have hrange := h a
      rw [List.filter_cons_of_pos (by simp [Edit.SameRange.refl]),
        List.filter_cons_of_pos (by simpa using hsame)] at hrange
      exact (List.cons.inj hrange).1
    rw [hfirst] at h ⊢
    refine congrArg _ (eq_of_filter_sameRange hl' hm' fun d => ?_)
    have hrange := h d
    rw [List.filter_cons, List.filter_cons] at hrange
    split_ifs at hrange
    · exact (List.cons.inj hrange).2
    · exact hrange

theorem filter_orderEdits (batch : List Edit) (e : Edit) :
    (orderEdits batch).filter (fun f => e.SameRange f) = batch.filter fun f => e.SameRange f := by
  unfold orderEdits
  refine filter_sortBy (fun f g hf hg => ?_) batch
  exact Edit.le_of_sameRange (of_decide_eq_true hf) (of_decide_eq_true hg)

/-- An edit of a batch with its position there comes before another one or is the same: it starts
first, or ends first, or has the first position. -/
def Precedes (a b : Edit × Nat) : Prop :=
  a.1.start < b.1.start ∨ a.1.start = b.1.start ∧
    (a.1.stop < b.1.stop ∨ a.1.stop = b.1.stop ∧ a.2 ≤ b.2)

instance (a b : Edit × Nat) : Decidable (Precedes a b) :=
  inferInstanceAs (Decidable (_ ∨ _ ∧ (_ ∨ _ ∧ _)))

/-- The edits by start, end and position in the batch. -/
def inOrder (batch : List Edit) : List Edit :=
  (batch.zipIdx.mergeSort fun a b => Precedes a b).map Prod.fst

theorem pairwise_precedes (edits : List (Edit × Nat)) :
    (edits.mergeSort fun a b => Precedes a b).Pairwise Precedes := by
  have htrans (a b c : Edit × Nat) (hab : decide (Precedes a b) = true)
      (hbc : decide (Precedes b c) = true) : decide (Precedes a c) = true := by
    rw [decide_eq_true_iff] at *
    unfold Precedes at *
    omega
  have htotal (a b : Edit × Nat) : (decide (Precedes a b) || decide (Precedes b a)) = true := by
    rw [Bool.or_eq_true, decide_eq_true_iff, decide_eq_true_iff]
    unfold Precedes
    omega
  exact (List.pairwise_mergeSort htrans htotal edits).imp of_decide_eq_true

/-- Edits of one range are in the order of their positions. -/
theorem filter_mergeSort (batch : List Edit) (e : Edit) :
    (batch.zipIdx.mergeSort fun a b => Precedes a b).filter (fun x => e.SameRange x.1) =
      batch.zipIdx.filter fun x => e.SameRange x.1 := by
  have hperm := (List.mergeSort_perm batch.zipIdx fun a b => Precedes a b).filter
    fun x => e.SameRange x.1
  refine hperm.eq_of_pairwise (fun x y hx hy (hxy : x.2 ≤ y.2) hyx => ?_) ?_ ?_
  · -- A position belongs to one edit.
    have hx := (List.mem_mergeSort.1 (List.mem_of_mem_filter hx))
    have hy := List.mem_of_mem_filter hy
    rw [List.mem_zipIdx_iff_getElem?] at hx hy
    have hposition : x.2 = y.2 := Nat.le_antisymm hxy hyx
    rw [hposition, hy] at hx
    exact Prod.ext (Option.some.inj hx).symm hposition
  · refine ((pairwise_precedes batch.zipIdx).filter _).imp_of_mem fun {x y} hx hy hxy => ?_
    obtain ⟨hxstart, hxstop⟩ := of_decide_eq_true (List.mem_filter.1 hx).2
    obtain ⟨hystart, hystop⟩ := of_decide_eq_true (List.mem_filter.1 hy).2
    unfold Precedes at hxy
    omega
  · refine List.Pairwise.filter _ ?_
    rw [← List.pairwise_map (f := Prod.snd) (R := fun i j : Nat => i ≤ j), List.zipIdx_map_snd]
    exact List.pairwise_le_range'

/-- Edits of one range are in the order of the batch. -/
theorem filter_inOrder (batch : List Edit) (e : Edit) :
    (inOrder batch).filter (fun f => e.SameRange f) = batch.filter fun f => e.SameRange f := by
  rw [inOrder, List.filter_map]
  conv_rhs => rw [← List.zipIdx_map_fst 0 batch, List.filter_map]
  exact congrArg _ (filter_mergeSort batch e)

/-- A sweep takes the edits by start, end and position. -/
theorem inOrder_eq_orderEdits (batch : List Edit) : inOrder batch = orderEdits batch := by
  refine eq_of_filter_sameRange (List.pairwise_map.2 ?_) (pairwise_orderEdits batch) fun d => ?_
  · refine (pairwise_precedes batch.zipIdx).imp fun {x y} hxy => Edit.le_iff.2 ?_
    unfold Precedes at hxy
    omega
  · rw [filter_inOrder, filter_orderEdits]

/-- The first batch is the second one in another order; edits of one range keep their order. -/
def Reorders (other batch : List Edit) : Prop :=
  other.Perm batch ∧
    ∀ d ∈ batch, other.filter (fun f => d.SameRange f) = batch.filter fun f => d.SameRange f

instance (other batch : List Edit) : Decidable (Reorders other batch) :=
  inferInstanceAs (Decidable (_ ∧ _))

theorem Reorders.filter_eq {other batch : List Edit} (h : Reorders other batch) (d : Edit) :
    other.filter (fun f => d.SameRange f) = batch.filter fun f => d.SameRange f := by
  by_cases hsome : ∃ e ∈ batch, d.SameRange e
  · obtain ⟨e, he, hde⟩ := hsome
    have hrange (f : Edit) : d.SameRange f ↔ e.SameRange f := by
      rw [Edit.SameRange, Edit.SameRange, hde.1, hde.2]
    simp only [hrange]
    exact h.2 e he
  · have hnone (edits : List Edit) (hsub : edits ⊆ batch) :
        edits.filter (fun f => d.SameRange f) = [] :=
      List.filter_eq_nil_iff.2 fun f hf hsame => hsome ⟨f, hsub hf, of_decide_eq_true hsame⟩
    rw [hnone other h.1.subset, hnone batch fun _ hf => hf]

theorem Reorders.orderEdits_eq {other batch : List Edit} (h : Reorders other batch) :
    orderEdits other = orderEdits batch :=
  eq_of_filter_sameRange (pairwise_orderEdits other) (pairwise_orderEdits batch) fun d => by
    rw [filter_orderEdits, filter_orderEdits, h.filter_eq d]

/-! ## Backwards -/

/-- Replaces the range of the edit in a text. -/
def Edit.splice (e : Edit) (text : List Char) : List Char :=
  text.take e.start.toNat ++ e.text.toList ++ text.drop e.stop.toNat

/-- Replaces the ranges of edits one after the other, from the last edit to the first. -/
def spliceBackward (edits : List Edit) (text : List Char) : List Char := edits.foldr Edit.splice text

/-- In front of the offset where a sweep begins, the edits change nothing; behind it they make of the
text what the sweep makes of it. -/
theorem sweep_eq_spliceBackward {source : List Char} :
    ∀ {edits : List Edit} {offset : Nat}, (∀ e ∈ edits, e.fits source.length = true) →
      edits.Pairwise (fun e f => e.stop ≤ f.start) → (∀ e ∈ edits, (offset : Int) ≤ e.start) →
      spliceBackward edits source = source.take offset ++ sweep source offset edits
  | [], offset, _, _, _ => (List.take_append_drop offset source).symm
  | e :: edits, offset, hfits, hapart, hoffset => by
    obtain ⟨hstart, hstop, hle⟩ := Edit.fits_iff.1 (hfits e List.mem_cons_self)
    obtain ⟨hnext, hapart⟩ := List.pairwise_cons.1 hapart
    have hfirst := hoffset e List.mem_cons_self
    have ih : spliceBackward edits source =
        source.take e.stop.toNat ++ sweep source e.stop.toNat edits :=
      sweep_eq_spliceBackward (fun f hf => hfits f (List.mem_cons_of_mem e hf)) hapart
        fun f hf => by
          have := hnext f hf
          omega
    have hlength : (source.take e.stop.toNat).length = e.stop.toNat := by
      rw [List.length_take]
      omega
    have hfront : (spliceBackward edits source).take e.start.toNat =
        source.take offset ++ (source.take e.start.toNat).drop offset := by
      rw [ih, List.take_append_of_le_length (by omega), List.take_take, Nat.min_eq_left (by omega)]
      conv_lhs => rw [← List.take_append_drop offset (source.take e.start.toNat)]
      rw [List.take_take, Nat.min_eq_left (by omega)]
    have hback : (spliceBackward edits source).drop e.stop.toNat =
        sweep source e.stop.toNat edits := by
      rw [ih, List.drop_left' hlength]
    calc spliceBackward (e :: edits) source
        = (spliceBackward edits source).take e.start.toNat ++ e.text.toList ++
            (spliceBackward edits source).drop e.stop.toNat := rfl
      _ = source.take offset ++ sweep source offset (e :: edits) := by
        rw [hfront, hback, sweep]
        simp only [List.append_assoc]

/-- The edits lie in a text of the given length, and in order none begins before an earlier one
ends. -/
structure Applicable (length : Nat) (batch : List Edit) : Prop where
  inside : ∀ e ∈ batch, 0 ≤ e.start ∧ e.start ≤ e.stop ∧ e.stop ≤ length
  ordered : (inOrder batch).Pairwise fun e f => e.stop ≤ f.start

theorem fits_of_mem_orderEdits {length : Nat} {batch : List Edit} (h : Applicable length batch)
    {e : Edit} (he : e ∈ orderEdits batch) : e.fits length = true := by
  obtain ⟨hstart, hle, hstop⟩ := h.inside e ((orderEdits_perm batch).mem_iff.1 he)
  exact Edit.fits_iff.2 ⟨hstart, hstop, hle⟩

/-- A batch that is applicable is applied as a whole. -/
theorem Applicable.applyEdits {source : String} {batch : List Edit}
    (h : Applicable source.length batch) :
    applyEdits source batch =
      .ok (String.ofList (spliceBackward (inOrder batch) source.toList)) := by
  have hfits : ∀ e ∈ orderEdits batch, e.fits source.length = true :=
    fun e he => fits_of_mem_orderEdits h he
  have hordered := h.ordered
  rw [inOrder_eq_orderEdits] at hordered ⊢
  have hkept : keepEdits source.length false none (orderEdits batch) = .ok (orderEdits batch) :=
    keepEdits_of_apart hfits (by simp) hordered
  have hsweep : spliceBackward (orderEdits batch) source.toList =
      sweep source.toList 0 (orderEdits batch) :=
    sweep_eq_spliceBackward (by rwa [String.length_toList]) hordered
      fun e he => (Edit.fits_iff.1 (hfits e he)).1
  rw [Text.applyEdits, hkept, hsweep]
  rfl

/-- Only an applicable batch is applied. -/
theorem applicable_of_applyEdits {source text : String} {batch : List Edit}
    (h : applyEdits source batch = .ok text) : Applicable source.length batch := by
  cases hkept : keepEdits source.length false none (orderEdits batch) with
  | error conflict =>
    rw [applyEdits, hkept] at h
    cases h
  | ok kept =>
    obtain ⟨-, hfits, hapart, -⟩ := keepEdits_eq_ok hkept
    refine ⟨fun e he => ?_, by rwa [inOrder_eq_orderEdits]⟩
    have := Edit.fits_iff.1 (hfits e ((orderEdits_perm batch).mem_iff.2 he))
    omega

/-! ## Insertions -/

/-- What the batch inserts at an offset, in the order of the batch. -/
def insertionsAt (offset : Nat) (batch : List Edit) : List Edit :=
  batch.filter fun e => (Edit.insert offset "").SameRange e

/-- Edits in order are those before a range, those of the range and those behind it. -/
theorem eq_append_of_ordered (d : Edit) :
    ∀ {edits : List Edit}, edits.Pairwise (fun e f => e.le f = true) →
      edits = edits.filter (fun e => !d.le e) ++
        (edits.filter (fun e => d.SameRange e) ++ edits.filter fun e => !e.le d)
  | [], _ => rfl
  | e :: edits, h => by
    obtain ⟨he, h⟩ := List.pairwise_cons.1 h
    have ih := eq_append_of_ordered d h
    -- Behind an edit that is not before the range there is none before it.
    have hbefore (hde : d.le e = true) : edits.filter (fun f => !d.le f) = [] :=
      List.filter_eq_nil_iff.2 fun f hf => by simpa using Edit.le_trans d e f hde (he f hf)
    have hrange (hed : e.le d = false) : edits.filter (fun f => d.SameRange f) = [] :=
      List.filter_eq_nil_iff.2 fun f hf hsame => by
        have hfd := (Edit.sameRange_iff.1 (of_decide_eq_true hsame)).2
        rw [Edit.le_trans e f d (he f hf) hfd] at hed
        cases hed
    cases hde : d.le e with
    | false =>
      have hed : e.le d = true := Edit.le_total d e hde
      rw [List.filter_cons_of_pos (by simp [hde]),
        List.filter_cons_of_neg (by simp [Edit.sameRange_iff, hde]),
        List.filter_cons_of_neg (by simp [hed]), List.cons_append, ← ih]
    | true =>
      rw [hbefore hde, List.nil_append] at ih
      rw [List.filter_cons_of_neg (by simp [hde]), hbefore hde, List.nil_append]
      cases hed : e.le d with
      | true =>
        rw [List.filter_cons_of_pos (by simp [Edit.sameRange_iff, hde, hed]),
          List.filter_cons_of_neg (by simp [hed]), List.cons_append, ← ih]
      | false =>
        rw [hrange hed, List.nil_append] at ih
        rw [List.filter_cons_of_neg (by simp [Edit.sameRange_iff, hed]), hrange hed,
          List.nil_append, List.filter_cons_of_pos (by simp [hed]), ← ih]

/-- Insertions at the offset where a text begins come one behind the other in front of it. -/
theorem Spliced.insertions {offset : Nat} {source text : List Char} {after : List Edit} :
    ∀ {edits : List Edit}, (∀ e ∈ edits, (Edit.insert offset "").SameRange e) →
      Spliced offset source (edits ++ after) text →
      ∃ back, text = edits.flatMap (·.text.toList) ++ back ∧ Spliced offset source after back
  | [], _, h => ⟨text, rfl, h⟩
  | e :: edits, hat, h => by
    obtain ⟨hstart, hstop⟩ := hat e List.mem_cons_self
    cases h with
    | @edit _ gap old rest result _ _ hgap hold hrest =>
      simp only [Edit.insert] at hstart hstop
      obtain rfl : gap = [] := List.eq_nil_of_length_eq_zero (by omega)
      obtain rfl : old = [] := List.eq_nil_of_length_eq_zero (by
        simp only [List.length_nil] at hold
        omega)
      obtain ⟨back, rfl, hback⟩ := Spliced.insertions (fun f hf => hat f (List.mem_cons_of_mem e hf))
        hrest
      exact ⟨back, by simp, hback⟩

/-- What a batch inserts at an offset stands there in the order of the batch, between what the edits
before make of the text in front of the offset and what those behind make of the text behind it. -/
theorem insertionsAt_inOrder {source text : String} {batch : List Edit} {offset : Nat}
    (hsome : insertionsAt offset batch ≠ []) (h : applyEdits source batch = .ok text) :
    ∃ before after front back,
      inOrder batch = before ++ (insertionsAt offset batch ++ after) ∧
        text.toList = front ++ ((insertionsAt offset batch).flatMap (·.text.toList) ++ back) ∧
        Spliced 0 (source.toList.take offset) before front ∧
        Spliced offset (source.toList.drop offset) after back := by
  have hsplit := eq_append_of_ordered (.insert offset "") (pairwise_orderEdits batch)
  rw [filter_orderEdits] at hsplit
  set before := (orderEdits batch).filter fun e => !(Edit.insert offset "").le e
  set after := (orderEdits batch).filter fun e => !e.le (.insert offset "")
  have hat : ∀ e ∈ insertionsAt offset batch, (Edit.insert offset "").SameRange e := fun e he =>
    of_decide_eq_true (List.mem_filter.1 he).2
  have hspliced := spliced_of_applyEdits h
  rw [inOrder_eq_orderEdits, hsplit]
  rw [hsplit] at hspliced
  change insertionsAt offset batch ≠ [] at hsome
  change Spliced 0 source.toList (before ++ (insertionsAt offset batch ++ after)) text.toList at hspliced
  cases hedits : insertionsAt offset batch with
  | nil => exact absurd hedits hsome
  | cons e edits =>
    rw [hedits] at hat hspliced
    obtain ⟨hstart, hstop⟩ := hat e List.mem_cons_self
    obtain ⟨front, old, rest, text₁, text₂, hsource, hfront, hold, htext, hbefore, hafter⟩ :=
      hspliced.split_append
    simp only [Edit.insert, Nat.zero_add] at hstart hstop hfront hold hafter
    obtain rfl : old = [] := List.eq_nil_of_length_eq_zero (by omega)
    obtain rfl : offset = front.length := by omega
    obtain ⟨back, rfl, hback⟩ :=
      Spliced.insertions (fun f hf => hat f (List.mem_cons_of_mem e hf)) hafter
    refine ⟨before, after, text₁, back, hedits ▸ rfl, by simp [htext], ?_, ?_⟩
    · rwa [hsource, List.take_left]
    · rwa [hsource, List.drop_left]

/-! ## Batches -/

/-- A batch is applied if and only if its edits lie in the text and none begins before an earlier one
ends, in the order by start, end and position in the batch; otherwise there is a conflict. The text it
gives is the one that replacing the ranges from the last edit to the first gives. So the order of the
batch counts for the edits of one range only, and insertions at one offset keep it. -/
theorem applyEdits_backward (source : String) (batch : List Edit) :
    ((∃ text, applyEdits source batch = .ok text) ↔ Applicable source.length batch) ∧
      (¬Applicable source.length batch → ∃ conflict, applyEdits source batch = .error conflict) ∧
      (∀ text, applyEdits source batch = .ok text →
        text.toList = spliceBackward (inOrder batch) source.toList) ∧
      (∀ other, Reorders other batch → applyEdits source other = applyEdits source batch) ∧
      ∀ text offset, applyEdits source batch = .ok text → insertionsAt offset batch ≠ [] →
        ∃ before after front back,
          inOrder batch = before ++ (insertionsAt offset batch ++ after) ∧
            text.toList = front ++ ((insertionsAt offset batch).flatMap (·.text.toList) ++ back) ∧
            Spliced 0 (source.toList.take offset) before front ∧
            Spliced offset (source.toList.drop offset) after back := by
  refine ⟨⟨fun ⟨text, h⟩ => applicable_of_applyEdits h, fun h => ⟨_, h.applyEdits⟩⟩, fun h => ?_,
    fun text h => ?_, fun other hother => ?_, fun text offset h hsome => ?_⟩
  · cases happly : applyEdits source batch with
    | ok text => exact absurd (applicable_of_applyEdits happly) h
    | error conflict => exact ⟨conflict, rfl⟩
  · have htext := (applicable_of_applyEdits h).applyEdits
    rw [h] at htext
    rw [Except.ok.inj htext, String.toList_ofList]
  · rw [applyEdits, hother.orderEdits_eq]
    rfl
  · exact insertionsAt_inOrder hsome h

/-- Two insertions in front of a range that is replaced, and one behind it. -/
def insertingBatch : List Edit := [.replace 1 2 "X", .insert 1 "u", .insert 2 "w", .insert 1 "v"]

theorem applyEdits_backward_inserting :
    Applicable 3 insertingBatch ∧ applyEdits "abc" insertingBatch = .ok "auvXwc" ∧
      "auvXwc".toList = spliceBackward (inOrder insertingBatch) "abc".toList ∧
      applyEdits "abc" [.insert 2 "w", .insert 1 "u", .replace 1 2 "X", .insert 1 "v"] =
        .ok "auvXwc" ∧
      insertionsAt 1 insertingBatch = [.insert 1 "u", .insert 1 "v"] ∧
      ∃ before after front back,
        inOrder insertingBatch = before ++ (insertionsAt 1 insertingBatch ++ after) ∧
          "auvXwc".toList =
            front ++ ((insertionsAt 1 insertingBatch).flatMap (·.text.toList) ++ back) ∧
          Spliced 0 ['a'] before front ∧ Spliced 1 ['b', 'c'] after back := by
  have hok : applyEdits "abc" insertingBatch = .ok "auvXwc" := by decide +kernel
  have hreorders : Reorders [.insert 2 "w", .insert 1 "u", .replace 1 2 "X", .insert 1 "v"]
      insertingBatch := by decide +kernel
  obtain ⟨happlicable, -, hbackward, hreordered, hinserted⟩ :=
    applyEdits_backward "abc" insertingBatch
  exact ⟨happlicable.1 ⟨_, hok⟩, hok, hbackward _ hok, (hreordered _ hreorders).trans hok, rfl,
    hinserted _ 1 hok (by decide)⟩

end HtmlModules.Text
