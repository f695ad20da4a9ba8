import HtmlModules.Proofs.Edit
import HtmlModules.Proofs.Spelling

/-!
# Characters that stay

`select` keeps the characters of a text at some of its offsets, in their order. What is kept of parts
that follow each other is put together (`select_append`), and of a part that holds all that is kept
nothing else counts (`select_slice`). Trimming and edits that only take characters away are such
selections (`trim_select`, `applyEdits_eq_select`).
-/

namespace HtmlModules

namespace Text

/-! ## Selections -/

/-- The characters of a text at the positions to keep; the first one is at `offset`. -/
def select (keep : Nat → Prop) [DecidablePred keep] (offset : Nat) (cs : List Char) : List Char :=
  ((cs.zipIdx offset).filter fun x => keep x.2).map Prod.fst

section Select

variable {keep keep' : Nat → Prop} [DecidablePred keep] [DecidablePred keep']

theorem select_append (offset : Nat) (cs ds : List Char) :
    select keep offset (cs ++ ds) =
      select keep offset cs ++ select keep (offset + cs.length) ds := by
  simp only [select, List.zipIdx_append, List.filter_append, List.map_append]

theorem select_congr {offset : Nat} {cs : List Char}
    (h : ∀ i, offset ≤ i → i < offset + cs.length → (keep i ↔ keep' i)) :
    select keep offset cs = select keep' offset cs := by
  refine congrArg _ (List.filter_congr fun x hx => decide_eq_decide.2 ?_)
  obtain ⟨hfirst, hlast, -⟩ := List.mem_zipIdx hx
  exact h x.2 hfirst (by omega)

theorem select_of_forall {offset : Nat} {cs : List Char}
    (h : ∀ i, offset ≤ i → i < offset + cs.length → keep i) : select keep offset cs = cs := by
  rw [select, List.filter_eq_self.2 fun x hx => ?_, List.zipIdx_map_fst]
  obtain ⟨hfirst, hlast, -⟩ := List.mem_zipIdx hx
  exact decide_eq_true (h x.2 hfirst (by omega))

theorem select_of_forall_not {offset : Nat} {cs : List Char}
    (h : ∀ i, offset ≤ i → i < offset + cs.length → ¬keep i) : select keep offset cs = [] := by
  rw [select, List.filter_eq_nil_iff.2 fun x hx => ?_, List.map_nil]
  obtain ⟨hfirst, hlast, -⟩ := List.mem_zipIdx hx
  simpa using h x.2 hfirst (by omega)

theorem select_add (base offset : Nat) (cs : List Char) :
    select (fun i => keep (i + base)) offset cs = select keep (offset + base) cs := by
  induction cs generalizing offset with
  | nil => rfl
  | cons ch cs ih =>
    have hnext := ih (offset + 1)
    simp only [select, List.zipIdx_cons, List.filter_cons] at hnext ⊢
    rw [Nat.add_right_comm] at hnext
    split_ifs <;> simp_all

theorem add_length_slice {source : String} {a b : Nat} (hab : a ≤ b) (hb : b ≤ source.length) :
    a + (slice source a b).toList.length = b := by
  rw [String.length_toList, length_slice hb]
  omega

theorem lt_of_lt_add_length_slice {source : String} {a b i : Nat} (ha : a ≤ i)
    (hi : i < a + (slice source a b).toList.length) : i < b := by
  rw [toList_slice, List.length_take] at hi
  omega

/-- Of a part of a text, the characters stay that stay of a smaller part, if all that are kept are
there. -/
theorem select_slice {source : String} {a b c d : Nat} (hac : a ≤ c) (hdb : d ≤ b)
    (hlength : b ≤ source.length) (hkeep : ∀ i, keep i → c ≤ i ∧ i < d) :
    select keep a (slice source a b).toList = select keep c (slice source c d).toList := by
  have hnone {x y : Nat} (h : y ≤ c ∨ d ≤ x) : select keep x (slice source x y).toList = [] := by
    refine select_of_forall_not fun i hfirst hlast hi => ?_
    have := hkeep i hi
    have := lt_of_lt_add_length_slice hfirst hlast
    omega
  rcases Nat.lt_or_ge d c with hlt | hcd
  · have hall : select keep a (slice source a b).toList = [] :=
      select_of_forall_not fun i _ _ hi => by
        have := hkeep i hi
        omega
    rw [hall, hnone (Or.inl hlt.le)]
  · rw [← slice_append_slice source hac (hcd.trans hdb), ← slice_append_slice source hcd hdb,
      String.toList_append, String.toList_append, select_append, select_append,
      add_length_slice hac (by omega), add_length_slice hcd (by omega), hnone (Or.inl (Nat.le_refl c)),
      hnone (Or.inr (Nat.le_refl d)), List.nil_append, List.append_nil]

/-! ## Trimming -/

/-- Of the members of a list in order, those stay that do not come before all members without the
property. -/
theorem dropWhile_eq_filter {α : Type} {R : α → α → Prop} [DecidableRel R]
    (hrefl : ∀ x, R x x) (p : α → Bool) :
    ∀ {l : List α}, l.Pairwise (fun x y => R x y ∧ ¬R y x) →
      l.dropWhile p = l.filter fun x => ∃ y ∈ l, R y x ∧ p y = false
  | [], _ => rfl
  | a :: l, h => by
    obtain ⟨ha, hl⟩ := List.pairwise_cons.1 h
    cases hp : p a with
    | false =>
      rw [List.dropWhile_cons_of_neg (by simp [hp]), List.filter_eq_self.2 fun x hx => ?_]
      refine decide_eq_true ⟨a, List.mem_cons_self, ?_, hp⟩
      rcases List.mem_cons.1 hx with rfl | hx
      · exact hrefl x
      · exact (ha x hx).1
    | true =>
      have hfirst : ¬∃ y ∈ a :: l, R y a ∧ p y = false := by
        rintro ⟨y, hy, hle, hpy⟩
        rcases List.mem_cons.1 hy with rfl | hy
        · simp [hp] at hpy
        · exact (ha y hy).2 hle
      rw [List.dropWhile_cons_of_pos hp, dropWhile_eq_filter hrefl p hl,
        List.filter_cons_of_neg (by simpa using hfirst)]
      exact List.filter_congr fun x _ => decide_eq_decide.2 (by simp [hp])

/-- Trimming leaves the characters that stand between two others that are not trimmed. -/
theorem trim_eq_filter (p : Char → Bool) {l : List (Char × Nat)}
    (h : l.Pairwise fun x y => x.2 < y.2) :
    dropEndWhile p ((l.map Prod.fst).dropWhile p) = (l.filter fun x =>
      (∃ y ∈ l, x.2 ≤ y.2 ∧ p y.1 = false) ∧ ∃ y ∈ l, y.2 ≤ x.2 ∧ p y.1 = false).map Prod.fst := by
  have hstart := dropWhile_eq_filter (R := fun x y : Char × Nat => x.2 ≤ y.2)
    (fun x => Nat.le_refl x.2) (fun x => p x.1) (h.imp fun hlt => ⟨hlt.le, not_le.2 hlt⟩)
  set front := l.dropWhile fun x => p x.1
  -- A character that is not trimmed is not taken from the beginning.
  have hbehind (x : Char × Nat) : (∃ y ∈ front.reverse, x.2 ≤ y.2 ∧ p y.1 = false) ↔
      ∃ y ∈ l, x.2 ≤ y.2 ∧ p y.1 = false := by
    simp only [List.mem_reverse]
    refine ⟨fun ⟨y, hy, h⟩ => ⟨y, (List.dropWhile_sublist _).subset hy, h⟩, fun ⟨y, hy, h⟩ => ?_⟩
    refine ⟨y, ?_, h⟩
    rw [hstart, List.mem_filter]
    exact ⟨hy, decide_eq_true ⟨y, hy, Nat.le_refl _, h.2⟩⟩
  have hfront : front.Pairwise fun x y => x.2 < y.2 := h.sublist (List.dropWhile_sublist _)
  have hstop := dropWhile_eq_filter (R := fun x y : Char × Nat => y.2 ≤ x.2)
    (fun x => Nat.le_refl x.2) (fun x => p x.1) (l := front.reverse)
    (List.pairwise_reverse.2 (hfront.imp fun hlt => ⟨hlt.le, not_le.2 hlt⟩))
  simp only [hbehind] at hstop
  calc dropEndWhile p ((l.map Prod.fst).dropWhile p)
      = (front.reverse.dropWhile fun x => p x.1).reverse.map Prod.fst := by
        rw [dropEndWhile, List.dropWhile_map, ← List.map_reverse, List.dropWhile_map,
          List.map_reverse]
        rfl
    _ = _ := by
        rw [hstop, List.filter_reverse, List.reverse_reverse, hstart, List.filter_filter]
        simp only [Bool.decide_and]

/-- What trimming leaves of characters that stay. -/
theorem trim_select {p : Char → Bool} {offset : Nat} {cs : List Char}
    (h : ∀ i, offset ≤ i → i < offset + cs.length → (keep' i ↔ keep i ∧
      (∃ ch j, (ch, j) ∈ cs.zipIdx offset ∧ keep j ∧ i ≤ j ∧ p ch = false) ∧
      ∃ ch j, (ch, j) ∈ cs.zipIdx offset ∧ keep j ∧ j ≤ i ∧ p ch = false)) :
    dropEndWhile p ((select keep offset cs).dropWhile p) = select keep' offset cs := by
  have horder : (cs.zipIdx offset).Pairwise fun x y => x.2 < y.2 := by
    rw [← List.pairwise_map (f := Prod.snd), List.zipIdx_map_snd]
    exact List.pairwise_lt_range'
  rw [select, trim_eq_filter p (horder.filter _), List.filter_filter, select]
  refine congrArg _ (List.filter_congr fun x hx => ?_)
  obtain ⟨hfirst, hlast, -⟩ := List.mem_zipIdx hx
  rw [← Bool.decide_and, decide_eq_decide, h x.2 hfirst (by omega), and_comm]
  simp only [List.mem_filter, decide_eq_true_iff, Prod.exists, and_assoc]

/-! ## Edits that take characters away -/

theorem Spliced.le_start {offset : Nat} {source result : List Char} {edits : List Edit}
    (h : Spliced offset source edits result) : ∀ e ∈ edits, (offset : Int) ≤ e.start := by
  induction h with
  | rest => simp
  | edit hstart hstop _ ih =>
    refine List.forall_mem_cons.2 ⟨by omega, fun e he => ?_⟩
    have := ih e he
    omega

/-- If each edit leaves the characters of its range that are kept, then the edits leave all the
characters that are kept. -/
theorem Spliced.eq_select {full : String} {offset : Nat} {source result : List Char}
    {edits : List Edit} (h : Spliced offset source edits result)
    (hsource : full.toList.drop offset = source)
    (hedits : ∀ e ∈ edits, ∀ a b : Nat, e.start = a → e.stop = b →
      e.text.toList = select keep a (slice full a b).toList)
    (hkeep : ∀ i, offset ≤ i → i < offset + source.length →
      (∀ e ∈ edits, ¬(e.start ≤ i ∧ i < e.stop)) → keep i) :
    result = select keep offset source := by
  induction h with
  | rest offset source =>
    exact (select_of_forall fun i hfirst hlast => hkeep i hfirst hlast (by simp)).symm
  | @edit offset gap old source result e edits hstart hstop hrest ih =>
    have hold : full.toList.drop (offset + gap.length) = old ++ source := by
      rw [← List.drop_drop, hsource, List.drop_left]
    have hbehind : full.toList.drop (offset + gap.length + old.length) = source := by
      rw [← List.drop_drop, hold, List.drop_left]
    simp only [List.length_append] at hkeep
    have hgap : select keep offset gap = gap := select_of_forall fun i hfirst hlast =>
      hkeep i hfirst (by omega) <| List.forall_mem_cons.2 ⟨by omega, fun f hf => by
        have := hrest.le_start f hf
        omega⟩
    have htext : e.text.toList = select keep (offset + gap.length) old := by
      rw [hedits e (by simp) _ _ hstart hstop, toList_slice, hold, Nat.add_sub_cancel_left,
        List.take_left]
    have hresult := ih hbehind (fun f hf => hedits f (List.mem_cons_of_mem e hf))
      fun i hfirst hlast hf =>
        hkeep i (by omega) (by omega) (List.forall_mem_cons.2 ⟨by omega, hf⟩)
    rw [select_append, select_append, hgap, ← htext, ← hresult, List.append_assoc]

theorem applyEdits_eq_select {source text : String} {batch : List Edit}
    (h : applyEdits source batch = .ok text)
    (hedits : ∀ e ∈ batch, ∀ a b : Nat, e.start = a → e.stop = b →
      e.text.toList = select keep a (slice source a b).toList)
    (hkeep : ∀ i < source.length, (∀ e ∈ batch, ¬(e.start ≤ i ∧ i < e.stop)) → keep i) :
    text.toList = select keep 0 source.toList := by
  have hperm := orderEdits_perm batch
  exact (spliced_of_applyEdits h).eq_select List.drop_zero
    (fun e he => hedits e (hperm.mem_iff.1 he))
    fun i _ hlast hi => hkeep i (by rw [← String.length_toList]; omega) fun e he =>
      hi e (hperm.mem_iff.2 he)

end Select

end Text

end HtmlModules
