import HtmlModules.Proofs.Splicing

/-!
# Edits inside others

An edit can be dropped in favour of another that holds it. In a `Laminar` batch, of two edits that
overlap one holds the other, and the edits that lie inside no other are the `outermost` ones. They
are apart, so they can be applied. To drop the edits inside others gives the same, except where the
longer of two edits comes second in order: an edit that begins where a longer one begins is kept, and
the longer one is a conflict, unless an edit further out holds both (`Stacked`). So a laminar batch is
applied if and only if no edits are stacked, and the text is that of the outermost edits
(`applyEdits_outermost`).

In a batch that is `Nested`, two edits replace the same range, or ranges apart, or one of them begins
first and holds the other. It is laminar, and nothing in it is stacked, so it can always be applied;
what is kept are the outermost edits, and of those that replace the same range the first
(`exists_keepEdits`). The result is the text with the ranges of the kept edits replaced
(`applyEdits_spliced`).
-/

namespace HtmlModules.Text

/-! ## Inside and outermost -/

/-- The later edit, in order, begins before the other one ends. -/
def Edit.Overlaps (e f : Edit) : Prop := if e.le f then f.start < e.stop else e.start < f.stop

instance (e f : Edit) : Decidable (e.Overlaps f) :=
  inferInstanceAs (Decidable (if e.le f then f.start < e.stop else e.start < f.stop))

/-- The first edit, with its position in the batch, lies inside the second one and overlaps it. Of
edits with one range those behind lie inside the first. -/
def Inside (a b : Edit × Nat) : Prop :=
  a.1.Overlaps b.1 ∧ a.1.Within b.1 ∧ (a.1.SameRange b.1 → b.2 < a.2)

instance (a b : Edit × Nat) : Decidable (Inside a b) := inferInstanceAs (Decidable (_ ∧ _ ∧ _))

/-- The edit lies inside no other edit of the batch. -/
def IsOuter (batch : List Edit) (a : Edit × Nat) : Prop := ∀ b ∈ batch.zipIdx, ¬Inside a b

instance (batch : List Edit) (a : Edit × Nat) : Decidable (IsOuter batch a) :=
  inferInstanceAs (Decidable (∀ b ∈ batch.zipIdx, ¬Inside a b))

/-- The edits of the batch that lie inside no other one. -/
def outermost (batch : List Edit) : List Edit :=
  (batch.zipIdx.filter fun a => IsOuter batch a).map Prod.fst

/-- The edits lie in a text of the given length, and of two that overlap one holds the other. -/
structure Laminar (length : Nat) (batch : List Edit) : Prop where
  inside : ∀ e ∈ batch, 0 ≤ e.start ∧ e.start ≤ e.stop ∧ e.stop ≤ length
  nests : ∀ e ∈ batch, ∀ f ∈ batch, e.Overlaps f → e.Within f ∨ f.Within e

/-- Edits are laminar if they lie in the text and of two that overlap one is within the other. -/
theorem laminar_iff {length : Nat} {batch : List Edit} :
    Laminar length batch ↔
      (∀ e ∈ batch, 0 ≤ e.start ∧ e.start ≤ e.stop ∧ e.stop ≤ length) ∧
        ∀ e ∈ batch, ∀ f ∈ batch, e.Overlaps f → e.Within f ∨ f.Within e :=
  ⟨fun h => ⟨h.inside, h.nests⟩, fun h => ⟨h.1, h.2⟩⟩

instance (length : Nat) (batch : List Edit) : Decidable (Laminar length batch) :=
  decidable_of_iff _ laminar_iff.symm

/-- The first edit replaces something and begins where the second, longer one begins, and no edit
that begins earlier holds the longer one. -/
def Stacked (batch : List Edit) (e f : Edit) : Prop :=
  e.start = f.start ∧ e.start < e.stop ∧ e.stop < f.stop ∧
    ∀ g ∈ batch, g.start < f.start → g.stop < f.stop

instance (batch : List Edit) (e f : Edit) : Decidable (Stacked batch e f) :=
  inferInstanceAs (Decidable (_ ∧ _ ∧ _ ∧ ∀ g ∈ batch, g.start < f.start → g.stop < f.stop))

/-! ## The edits in order -/

/-- The edits of the batch with their positions, in order. -/
def placed (batch : List Edit) : List (Edit × Nat) :=
  batch.zipIdx.mergeSort fun a b => Precedes a b

theorem exists_mem_zipIdx {batch : List Edit} {e : Edit} (he : e ∈ batch) :
    ∃ i, (e, i) ∈ batch.zipIdx := by
  obtain ⟨i, hi⟩ := List.mem_iff_getElem?.1 he
  exact ⟨i, List.mem_zipIdx_iff_getElem?.2 hi⟩

/-- The placed edits are those of the batch, with their places. -/
theorem mem_placed {batch : List Edit} {a : Edit × Nat} : a ∈ placed batch ↔ a ∈ batch.zipIdx :=
  List.mem_mergeSort

/-- The placed edits, without their places, are the ordered ones. -/
theorem map_placed (batch : List Edit) : (placed batch).map Prod.fst = orderEdits batch :=
  inOrder_eq_orderEdits batch

/-- In order, an edit comes before another one of the batch. -/
def Before (a b : Edit × Nat) : Prop := Precedes a b ∧ a.2 ≠ b.2

/-- Of two placed edits the first is before the second. -/
theorem pairwise_placed (batch : List Edit) : (placed batch).Pairwise Before := by
  have hpositions : (placed batch).Pairwise fun a b => a.2 ≠ b.2 := by
    rw [← List.pairwise_map (f := Prod.snd) (R := fun i j : Nat => i ≠ j)]
    refine (List.Perm.map Prod.snd (List.mergeSort_perm _ _)).nodup_iff.2 ?_
    rw [List.zipIdx_map_snd]
    exact List.nodup_range'
  exact (pairwise_precedes batch.zipIdx).and hpositions

namespace Before

variable {a b : Edit × Nat}

/-- What is before is not behind in the order of edits. -/
theorem le (h : Before a b) : a.1.le b.1 = true := by
  have := h.1
  unfold Precedes at this
  rw [Edit.le_iff]
  omega

/-- An edit overlaps a later one if the later one starts in front of its end. -/
theorem overlaps_iff (h : Before a b) : a.1.Overlaps b.1 ↔ b.1.start < a.1.stop := by
  rw [Edit.Overlaps, if_pos h.le]

theorem overlaps_iff' (h : Before a b) : b.1.Overlaps a.1 ↔ b.1.start < a.1.stop := by
  have hle := Edit.le_iff.1 h.le
  unfold Edit.Overlaps
  split_ifs with hge
  · rw [Edit.le_iff] at hge
    omega
  · rfl

/-- The later of two edits lies inside the earlier one if it begins and ends before that ends. -/
theorem inside_iff (h : Before a b) :
    Inside b a ↔ b.1.start < a.1.stop ∧ b.1.stop ≤ a.1.stop := by
  obtain ⟨hprecedes, hne⟩ := id h
  rw [Inside, h.overlaps_iff', Edit.Within, Edit.SameRange]
  unfold Precedes at hprecedes
  omega

/-- The earlier of two edits lies inside the later one if it ends first and both begin at one
offset. -/
theorem inside_iff' (h : Before a b) :
    Inside a b ↔ a.1.start = b.1.start ∧ b.1.start < a.1.stop ∧ a.1.stop < b.1.stop := by
  obtain ⟨hprecedes, hne⟩ := id h
  rw [Inside, h.overlaps_iff, Edit.Within, Edit.SameRange]
  unfold Precedes at hprecedes
  omega

end Before

namespace Laminar

variable {length : Nat} {batch : List Edit} {a b : Edit × Nat}

theorem fits (h : Laminar length batch) {e : Edit} (he : e ∈ batch) : e.fits length = true := by
  obtain ⟨hstart, hle, hstop⟩ := h.inside e he
  exact Edit.fits_iff.2 ⟨hstart, hstop, hle⟩

/-- One of two edits that overlap lies inside the other. -/
theorem inside_or_inside (h : Laminar length batch) (ha : a ∈ placed batch) (hb : b ∈ placed batch)
    (hbefore : Before a b) (hlt : b.1.start < a.1.stop) : Inside b a ∨ Inside a b := by
  have hnests := h.nests a.1 (List.fst_mem_of_mem_zipIdx (mem_placed.1 ha)) b.1
    (List.fst_mem_of_mem_zipIdx (mem_placed.1 hb)) (hbefore.overlaps_iff.2 hlt)
  have hstart := Edit.start_le_of_le hbefore.le
  rw [hbefore.inside_iff, hbefore.inside_iff']
  unfold Edit.Within at hnests
  omega

end Laminar

/-! ## The outermost edits -/

/-- In order, the outermost edits are those of all edits that lie inside no other. -/
theorem orderEdits_outermost (batch : List Edit) :
    orderEdits (outermost batch) =
      ((placed batch).filter fun a => IsOuter batch a).map Prod.fst := by
  refine eq_of_filter_sameRange (pairwise_orderEdits _) ?_ fun d => ?_
  · exact List.pairwise_map.2 (((pairwise_placed batch).filter _).imp Before.le)
  · have hsame := filter_mergeSort batch d
    rw [filter_orderEdits, outermost, List.filter_map, List.filter_map]
    refine congrArg (List.map Prod.fst) ?_
    calc (batch.zipIdx.filter fun a => IsOuter batch a).filter (fun a => d.SameRange a.1)
        = (batch.zipIdx.filter fun a => d.SameRange a.1).filter fun a => IsOuter batch a :=
          List.filter_comm _ _ _
      _ = ((placed batch).filter fun a => d.SameRange a.1).filter fun a => IsOuter batch a := by
          rw [placed, hsame]
      _ = ((placed batch).filter fun a => IsOuter batch a).filter fun a => d.SameRange a.1 :=
          List.filter_comm _ _ _

theorem mem_of_mem_outermost {batch : List Edit} {e : Edit} (he : e ∈ outermost batch) :
    e ∈ batch := by
  obtain ⟨a, ha, rfl⟩ := List.mem_map.1 he
  exact List.fst_mem_of_mem_zipIdx (List.mem_of_mem_filter ha)

/-- The outermost edits of a laminar batch follow each other. -/
theorem Laminar.pairwise_outermost {length : Nat} {batch : List Edit}
    (h : Laminar length batch) :
    (orderEdits (outermost batch)).Pairwise fun e f => e.stop ≤ f.start := by
  rw [orderEdits_outermost]
  refine List.pairwise_map.2 (((pairwise_placed batch).filter _).imp_of_mem
    fun {a b} ha hb hbefore => Int.not_lt.1 fun hlt => ?_)
  obtain ⟨ha, haouter⟩ := List.mem_filter.1 ha
  obtain ⟨hb, hbouter⟩ := List.mem_filter.1 hb
  rcases h.inside_or_inside ha hb hbefore hlt with hinside | hinside
  · exact of_decide_eq_true hbouter a (mem_placed.1 ha) hinside
  · exact of_decide_eq_true haouter b (mem_placed.1 hb) hinside

/-! ## The scan -/

section Step

variable {length : Nat} {l : List Edit} {last : Option Edit} {a k : Edit}

/-- An edit that starts and ends inside the last one that was kept is dropped. -/
theorem keepEdits_of_start_lt (hfits : a.fits length = true) (hlt : a.start < k.stop)
    (hle : a.stop ≤ k.stop) :
    keepEdits length true (some k) (a :: l) = keepEdits length true (some k) l := by
  simp [keepEdits, hfits, hlt, hle]

/-- An edit that starts inside the last one and ends behind it is a conflict. -/
theorem keepEdits_of_lt_stop (hfits : a.fits length = true) (hlt : a.start < k.stop)
    (hgt : k.stop < a.stop) :
    keepEdits length true (some k) (a :: l) = .error (.overlap k a) := by
  simp [keepEdits, hfits, hlt, Int.not_le.2 hgt]

/-- An edit that starts behind the last one is kept. -/
theorem keepEdits_of_le_start (hfits : a.fits length = true)
    (hle : ∀ k ∈ last, k.stop ≤ a.start) :
    keepEdits length true last (a :: l) = (a :: ·) <$> keepEdits length true (some a) l := by
  cases last with
  | none =>
    simp only [keepEdits, hfits]
    rfl
  | some k =>
    have hlt : ¬a.start < k.stop := Int.not_lt.2 (hle k rfl)
    simp only [keepEdits, hfits, hlt]
    rfl

end Step

/-- Where the scan is behind the edits `done`, of which it has kept `last` as the last one: no edit
ends later than that one, and it is not the longer one of stacked edits. -/
structure Reached (batch : List Edit) (done : List (Edit × Nat)) (last : Option (Edit × Nat)) :
    Prop where
  mem : ∀ k ∈ last, k ∈ done
  ends : ∀ a ∈ done, ∃ k ∈ last, a.1.stop ≤ k.1.stop
  clear : ∀ k ∈ last, ∀ e ∈ batch, ¬Stacked batch e k.1

section Scan

variable {length : Nat} {batch : List Edit} {done rest : List (Edit × Nat)}
  {last : Option (Edit × Nat)} {a b k : Edit × Nat} {e : Edit}

theorem before_of_mem_done (hplaced : placed batch = done ++ a :: rest) (hb : b ∈ done) :
    Before b a :=
  (List.pairwise_append.1 (hplaced ▸ pairwise_placed batch)).2.2 b hb a List.mem_cons_self

theorem before_of_mem_rest (hplaced : placed batch = done ++ a :: rest) (hb : b ∈ rest) :
    Before a b :=
  List.rel_of_pairwise_cons (List.pairwise_append.1 (hplaced ▸ pairwise_placed batch)).2.1 hb

theorem mem_placed_of_mem_done (hplaced : placed batch = done ++ rest) (hb : b ∈ done) :
    b ∈ placed batch :=
  hplaced ▸ List.mem_append_left rest hb

theorem mem_placed_head (hplaced : placed batch = done ++ a :: rest) : a ∈ placed batch :=
  hplaced ▸ List.mem_append_right done List.mem_cons_self

/-- What comes before the next edit in order ends no later than the edit kept last. -/
theorem Reached.exists_stop_le (hreached : Reached batch done last)
    (hplaced : placed batch = done ++ a :: rest) (he : e ∈ batch)
    (hlt : e.start < a.1.start ∨ e.start = a.1.start ∧ e.stop < a.1.stop) :
    ∃ k ∈ last, e.stop ≤ k.1.stop := by
  have hle : ¬a.1.le e = true := by
    rw [Edit.le_iff]
    omega
  obtain ⟨i, hi⟩ := exists_mem_zipIdx he
  rw [← mem_placed, hplaced, List.mem_append, List.mem_cons] at hi
  rcases hi with hi | rfl | hi
  · exact hreached.ends (e, i) hi
  · exact absurd (Edit.sameRange_iff.1 (.refl e)).1 hle
  · exact absurd (before_of_mem_rest hplaced hi).le hle

/-- An edit behind the one kept last is not the longer one of stacked edits. -/
theorem Reached.not_stacked (hreached : Reached batch done last)
    (hplaced : placed batch = done ++ a :: rest) (hle : ∀ k ∈ last, k.1.stop ≤ a.1.start) :
    ∀ e ∈ batch, ¬Stacked batch e a.1 := by
  rintro e he ⟨hstart, hsome, hstop, -⟩
  obtain ⟨k, hk, hends⟩ := hreached.exists_stop_le hplaced he (Or.inr ⟨hstart, hstop⟩)
  have := hle k hk
  omega

/-- An edit that ends no later than the one kept last is not the longer one of stacked edits. -/
theorem Reached.not_stacked_of_stop_le (hreached : Reached batch done (some k))
    (hplaced : placed batch = done ++ a :: rest) (hle : a.1.stop ≤ k.1.stop) :
    ∀ e ∈ batch, ¬Stacked batch e a.1 := by
  rintro e he ⟨hstart, hsome, hstop, hfirst⟩
  have hkdone := hreached.mem k rfl
  have hk := hfirst k.1 (List.fst_mem_of_mem_zipIdx (mem_placed.1
    (mem_placed_of_mem_done hplaced hkdone)))
  have hka := Edit.le_iff.1 (before_of_mem_done hplaced hkdone).le
  -- So the edit kept last has the range of `a`.
  have hsame : k.1.start = a.1.start ∧ k.1.stop = a.1.stop := by omega
  refine hreached.clear k rfl e he ⟨by omega, hsome, by omega, fun g hg => ?_⟩
  rw [hsame.1, hsame.2]
  exact hfirst g hg

/-- To drop an edit that ends inside the last one keeps what has been reached. -/
theorem Reached.drop (hreached : Reached batch done (some k)) (hle : a.1.stop ≤ k.1.stop) :
    Reached batch (done ++ [a]) (some k) where
  mem k' hk' := List.mem_append_left [a] (hreached.mem k' hk')
  ends b hb := by
    rcases List.mem_append.1 hb with hb | hb
    · exact hreached.ends b hb
    · exact ⟨k, rfl, List.mem_singleton.1 hb ▸ hle⟩
  clear := hreached.clear

/-- To keep an edit that starts behind the last one keeps what has been reached. -/
theorem Reached.keep (hreached : Reached batch done last)
    (hplaced : placed batch = done ++ a :: rest) (hle : ∀ k ∈ last, k.1.stop ≤ a.1.start)
    (hproper : a.1.start ≤ a.1.stop) : Reached batch (done ++ [a]) (some a) where
  mem k hk := Option.some.inj hk ▸ List.mem_append_right done (List.mem_singleton_self a)
  ends b hb := by
    refine ⟨a, rfl, ?_⟩
    rcases List.mem_append.1 hb with hb | hb
    · obtain ⟨k, hk, hends⟩ := hreached.ends b hb
      have := hle k hk
      omega
    · exact List.mem_singleton.1 hb ▸ Int.le_refl _
  clear k hk := Option.some.inj hk ▸ hreached.not_stacked hplaced hle

/-- The edit kept last and one that ends behind it are stacked if they overlap. -/
theorem Reached.stacked (h : Laminar length batch) (hreached : Reached batch done (some k))
    (hplaced : placed batch = done ++ a :: rest) (hlt : a.1.start < k.1.stop)
    (hgt : k.1.stop < a.1.stop) : Stacked batch k.1 a.1 := by
  have hkdone := hreached.mem k rfl
  have hbefore := before_of_mem_done hplaced hkdone
  have hinside : Inside k a := (h.inside_or_inside (mem_placed_of_mem_done hplaced hkdone)
    (mem_placed_head hplaced) hbefore hlt).resolve_left fun hinside => by
      have := (hbefore.inside_iff.1 hinside).2
      omega
  obtain ⟨hstart, -, -⟩ := hbefore.inside_iff'.1 hinside
  refine ⟨hstart, hstart ▸ hlt, hgt, fun g hg hearlier => ?_⟩
  obtain ⟨k', hk', hends⟩ := hreached.exists_stop_le hplaced hg (Or.inl hearlier)
  obtain rfl := Option.some.inj hk'
  exact Int.lt_of_le_of_lt hends hgt

/-- An edit behind the one kept last lies inside an edit only if it is stacked. -/
theorem Reached.isOuter (hreached : Reached batch done last)
    (hplaced : placed batch = done ++ a :: rest) (hle : ∀ k ∈ last, k.1.stop ≤ a.1.start)
    (hclear : ∀ b ∈ rest, ¬Stacked batch a.1 b.1) : IsOuter batch a := by
  intro b hb hinside
  rw [← mem_placed, hplaced, List.mem_append, List.mem_cons] at hb
  rcases hb with hb | rfl | hb
  · obtain ⟨k, hk, hends⟩ := hreached.ends b hb
    have := ((before_of_mem_done hplaced hb).inside_iff.1 hinside).1
    have := hle k hk
    omega
  · exact Nat.lt_irrefl _ (hinside.2.2 (.refl b.1))
  · obtain ⟨hstart, hlt, hgt⟩ := (before_of_mem_rest hplaced hb).inside_iff'.1 hinside
    refine hclear b hb ⟨hstart, hstart ▸ hlt, hgt, fun g hg hearlier => ?_⟩
    obtain ⟨k, hk, hends⟩ := hreached.exists_stop_le hplaced hg (Or.inl (hstart ▸ hearlier))
    have := hle k hk
    omega

/-- From where it is, the scan keeps the outermost edits and meets no stacked ones, or it ends at a
conflict of stacked edits. -/
theorem keepEdits_placed (h : Laminar length batch) :
    ∀ {rest done : List (Edit × Nat)} {last : Option (Edit × Nat)},
      placed batch = done ++ rest → Reached batch done last →
      (keepEdits length true (last.map Prod.fst) (rest.map Prod.fst) =
          .ok ((rest.filter fun a => IsOuter batch a).map Prod.fst) ∧
        ∀ a ∈ rest, ∀ e ∈ batch, ¬Stacked batch e a.1) ∨
      ∃ e ∈ batch, ∃ f ∈ batch, Stacked batch e f ∧
        keepEdits length true (last.map Prod.fst) (rest.map Prod.fst) = .error (.overlap e f)
  | [], _, last, _, _ => Or.inl ⟨by cases last <;> rfl, by simp⟩
  | a :: rest, done, last, hplaced, hreached => by
    have ha := mem_placed_head hplaced
    have hmem {b : Edit × Nat} (hb : b ∈ placed batch) : b.1 ∈ batch :=
      List.fst_mem_of_mem_zipIdx (mem_placed.1 hb)
    have hfits := h.fits (hmem ha)
    have hnext : placed batch = done ++ [a] ++ rest := by rw [hplaced, List.append_cons]
    by_cases hin : ∃ k ∈ last, a.1.start < k.1.stop
    · -- An edit that overlaps the one kept last is dropped, or it is the longer one.
      obtain ⟨k, rfl, hlt⟩ := hin
      have hk := mem_placed_of_mem_done hplaced (hreached.mem k rfl)
      by_cases hle : a.1.stop ≤ k.1.stop
      · have hdrop : keepEdits length true (some k.1) (a.1 :: rest.map Prod.fst) =
            keepEdits length true (some k.1) (rest.map Prod.fst) :=
          keepEdits_of_start_lt hfits hlt hle
        have hinner : ¬IsOuter batch a := fun houter => houter k (mem_placed.1 hk)
          ((before_of_mem_done hplaced (hreached.mem k rfl)).inside_iff.2 ⟨hlt, hle⟩)
        rw [List.filter_cons_of_neg (by simpa using hinner), List.map_cons, Option.map_some, hdrop]
        refine (keepEdits_placed h hnext (hreached.drop hle)).imp_left fun ⟨hkept, hclear⟩ =>
          ⟨hkept, List.forall_mem_cons.2 ⟨?_, hclear⟩⟩
        exact hreached.not_stacked_of_stop_le hplaced hle
      · have hgt : k.1.stop < a.1.stop := Int.not_le.1 hle
        refine Or.inr ⟨k.1, hmem hk, a.1, hmem ha, hreached.stacked h hplaced hlt hgt, ?_⟩
        exact keepEdits_of_lt_stop hfits hlt hgt
    · have hle : ∀ k ∈ last, k.1.stop ≤ a.1.start :=
        fun k hk => Int.not_lt.1 fun hlt => hin ⟨k, hk, hlt⟩
      have hkeep : keepEdits length true (last.map Prod.fst) (a.1 :: rest.map Prod.fst) =
          (a.1 :: ·) <$> keepEdits length true (some a.1) (rest.map Prod.fst) :=
        keepEdits_of_le_start hfits (by simpa using hle)
      have hproper := (h.inside a.1 (hmem ha)).2.1
      rw [List.map_cons, hkeep]
      rcases keepEdits_placed h hnext (hreached.keep hplaced hle hproper) with
        ⟨hkept, hclear⟩ | ⟨e, he, f, hf, hstacked, hkept⟩
      · -- Only an edit behind `a` could hold it, and then the scan would not get past that one.
        have houter : IsOuter batch a :=
          hreached.isOuter hplaced hle fun b hb => hclear b hb a.1 (hmem ha)
        refine Or.inl ⟨?_, List.forall_mem_cons.2 ⟨hreached.not_stacked hplaced hle, hclear⟩⟩
        rw [List.filter_cons_of_pos (by simpa using houter), List.map_cons]
        exact congrArg ((a.1 :: ·) <$> ·) hkept
      · exact Or.inr ⟨e, he, f, hf, hstacked, congrArg ((a.1 :: ·) <$> ·) hkept⟩

/-- Dropping what is inside others keeps the outermost edits of a laminar batch, or there is a conflict
of stacked edits. -/
theorem Laminar.keepEdits_orderEdits (h : Laminar length batch) :
    (keepEdits length true none (orderEdits batch) = .ok (orderEdits (outermost batch)) ∧
      ∀ e ∈ batch, ∀ f ∈ batch, ¬Stacked batch e f) ∨
    ∃ e ∈ batch, ∃ f ∈ batch, Stacked batch e f ∧
      keepEdits length true none (orderEdits batch) = .error (.overlap e f) := by
  have hreached : Reached batch [] none := ⟨by simp, by simp, by simp⟩
  have hscan := keepEdits_placed h (List.nil_append (placed batch)).symm hreached
  rw [Option.map_none, map_placed, ← orderEdits_outermost] at hscan
  refine hscan.imp_left fun ⟨hkept, hclear⟩ => ⟨hkept, fun e he f hf => ?_⟩
  obtain ⟨i, hi⟩ := exists_mem_zipIdx hf
  exact hclear (f, i) (mem_placed.2 hi) e he

end Scan

/-! ## Batches -/

/-- The outermost edits of a laminar batch can be applied. To apply the batch without the edits inside
others gives the same text, unless edits are stacked; then there is a conflict of two such edits. -/
theorem applyEdits_outermost {source : String} {batch : List Edit}
    (h : Laminar source.length batch) :
    (∃ text, applyEdits source (outermost batch) = .ok text) ∧
      ((∀ e ∈ batch, ∀ f ∈ batch, ¬Stacked batch e f) →
        applyEdits source batch true = applyEdits source (outermost batch)) ∧
      ((∃ e ∈ batch, ∃ f ∈ batch, Stacked batch e f) →
        ∃ e ∈ batch, ∃ f ∈ batch, Stacked batch e f ∧
          applyEdits source batch true = .error (.overlap e f)) := by
  have hfits : ∀ e ∈ orderEdits (outermost batch), e.fits source.length = true := fun e he =>
    h.fits (mem_of_mem_outermost ((orderEdits_perm _).mem_iff.1 he))
  have hkept : keepEdits source.length false none (orderEdits (outermost batch)) =
      .ok (orderEdits (outermost batch)) :=
    keepEdits_of_apart hfits (by simp) h.pairwise_outermost
  have happly : applyEdits source (outermost batch) =
      .ok (String.ofList (sweep source.toList 0 (orderEdits (outermost batch)))) := by
    rw [applyEdits, hkept]
    rfl
  refine ⟨⟨_, happly⟩, fun hclear => ?_, fun hsome => ?_⟩
  · rcases h.keepEdits_orderEdits with ⟨hscan, -⟩ | ⟨e, he, f, hf, hstacked, -⟩
    · rw [happly, applyEdits, hscan]
      rfl
    · exact absurd hstacked (hclear e he f hf)
  · obtain ⟨e, he, f, hf, hstacked⟩ := hsome
    rcases h.keepEdits_orderEdits with ⟨-, hclear⟩ | ⟨e, he, f, hf, hstacked, hscan⟩
    · exact absurd hstacked (hclear e he f hf)
    · refine ⟨e, he, f, hf, hstacked, ?_⟩
      rw [applyEdits, hscan]
      rfl

/-- Edits three deep, two of which begin at one offset inside a third, one range twice, and insertions
at both ends of it and inside. -/
def deepBatch : List Edit :=
  [.replace 1 3 "in", .replace 1 5 "mid", .insert 8 ">", .replace 0 8 "out", .insert 0 "<",
    .replace 0 8 "again", .insert 4 "x", .replace 8 9 "next"]

theorem applyEdits_outermost_deep :
    Laminar 10 deepBatch ∧
      outermost deepBatch =
        [.insert 8 ">", .replace 0 8 "out", .insert 0 "<", .replace 8 9 "next"] ∧
      applyEdits "abcdefghij" deepBatch true = .ok "<out>nextj" ∧
      Laminar 6 [.replace 0 6 "outer", .insert 2 "x", .replace 0 3 "inner"] ∧
      ∃ e f, applyEdits "abcdef" [.replace 0 6 "outer", .insert 2 "x", .replace 0 3 "inner"] true =
        .error (.overlap e f) := by
  have hdeep : Laminar "abcdefghij".length deepBatch := by decide +kernel
  have hlonger : Laminar "abcdef".length
      [.replace 0 6 "outer", .insert 2 "x", .replace 0 3 "inner"] := by decide +kernel
  have htext : applyEdits "abcdefghij" (outermost deepBatch) = .ok "<out>nextj" := by
    decide +kernel
  obtain ⟨-, hdropped, -⟩ := applyEdits_outermost hdeep
  obtain ⟨-, -, hconflict⟩ := applyEdits_outermost hlonger
  obtain ⟨e, -, f, -, -, herror⟩ := hconflict (by decide +kernel)
  exact ⟨hdeep, by decide +kernel, (hdropped (by decide +kernel)).trans htext, hlonger, e, f, herror⟩

/-- An edit that begins where a longer one begins is not dropped in favour of that one, which is a
conflict instead. -/
theorem exists_laminar_conflict :
    ∃ source batch outer, Laminar source.length batch ∧ outermost batch = [outer] ∧
      applyEdits source [outer] = .ok "outer" ∧
      applyEdits source batch true = .error (.overlap (.replace 0 3 "inner") outer) :=
  ⟨"abcdef", [.replace 0 6 "outer", .replace 0 3 "inner"], .replace 0 6 "outer", by decide +kernel,
    by decide +kernel, by decide +kernel, by decide +kernel⟩

/-! ## Nested batches -/

/-- No edit of the batch replaces more than the range of `e` and all of it. -/
def Edit.IsOutermost (e : Edit) (batch : List Edit) : Prop :=
  ∀ f ∈ batch, e.Within f → e.SameRange f

/-- An edit with the same range is within the other one. -/
theorem Edit.SameRange.within {e f : Edit} (h : e.SameRange f) : e.Within f :=
  ⟨Int.le_of_eq h.1.symm, Int.le_of_eq h.2⟩

/-- The edits lie in a text of the given length and replace something. If one begins in the range of
another that does not begin later, they replace the same range, or the second one begins first and
holds all of the first. -/
structure Nested (length : Nat) (batch : List Edit) : Prop where
  fits : ∀ e ∈ batch, e.fits length = true
  proper : ∀ e ∈ batch, e.start < e.stop
  nests : ∀ e ∈ batch, ∀ f ∈ batch, f.start ≤ e.start → e.start < f.stop →
    e.SameRange f ∨ f.start < e.start ∧ e.stop ≤ f.stop

section Nested

variable {length : Nat} {batch kept : List Edit} {e f : Edit}

theorem Nested.laminar (h : Nested length batch) : Laminar length batch where
  inside e he := by
    have := Edit.fits_iff.1 (h.fits e he)
    omega
  nests e he f hf hoverlaps := by
    unfold Edit.Overlaps at hoverlaps
    unfold Edit.Within
    split_ifs at hoverlaps with hle
    · rcases h.nests f hf e he (Edit.start_le_of_le hle) hoverlaps with ⟨hstart, hstop⟩ | hstrict
      all_goals omega
    · have hge := Edit.start_le_of_le (Edit.le_total e f (Bool.eq_false_iff.2 hle))
      rcases h.nests e he f hf hge hoverlaps with ⟨hstart, hstop⟩ | hstrict
      all_goals omega

/-- No nested edit starts where one around it starts. -/
theorem Nested.not_stacked (h : Nested length batch) (he : e ∈ batch) (hf : f ∈ batch) :
    ¬Stacked batch e f := by
  rintro ⟨hstart, hsome, hstop, -⟩
  rcases h.nests e he f hf (by omega) (by omega) with ⟨-, hsame⟩ | ⟨hlt, -⟩
  all_goals omega

theorem Nested.overlaps_of_within (h : Nested length batch) (he : e ∈ batch)
    (hwithin : e.Within f) : e.Overlaps f := by
  have hproper := h.proper e he
  unfold Edit.Within at hwithin
  unfold Edit.Overlaps
  split_ifs <;> omega

/-- In a nested batch the edits inside no other are those that no longer one holds, of each range
the first. -/
theorem Nested.mem_outermost_iff (h : Nested length batch) :
    e ∈ outermost batch ↔ batch.find? (fun f => e.SameRange f) = some e ∧ e.IsOutermost batch := by
  have hinside {f : Edit} {i j : Nat} (he : e ∈ batch) (hwithin : e.Within f)
      (hposition : e.SameRange f → j < i) : Inside (e, i) (f, j) :=
    ⟨h.overlaps_of_within he hwithin, hwithin, hposition⟩
  rw [List.find?_eq_some_iff_getElem]
  constructor
  · intro he
    obtain ⟨⟨e, i⟩, ha, rfl⟩ := List.mem_map.1 he
    obtain ⟨ha, houter⟩ := List.mem_filter.1 ha
    have houter : IsOuter batch (e, i) := of_decide_eq_true houter
    obtain ⟨hi, rfl⟩ := List.getElem?_eq_some_iff.1 (List.mk_mem_zipIdx_iff_getElem?.1 ha)
    have he := List.getElem_mem hi
    refine ⟨⟨by simp [Edit.SameRange.refl], i, hi, rfl, fun j hj => ?_⟩, fun f hf hwithin => ?_⟩
    · -- An edit in front of it with the same range would hold it.
      have hj' := List.mk_mem_zipIdx_iff_getElem?.2 (List.getElem?_eq_getElem (hj.trans hi))
      simp only [Bool.not_eq_true', decide_eq_false_iff_not]
      exact fun hsame => houter _ hj' (hinside he hsame.within fun _ => hj)
    · obtain ⟨j, hj⟩ := exists_mem_zipIdx hf
      by_contra hne
      exact houter _ hj (hinside he hwithin fun hsame => absurd hsame hne)
  · rintro ⟨⟨-, i, hi, rfl, hfirst⟩, hout⟩
    have ha := List.mk_mem_zipIdx_iff_getElem?.2 (List.getElem?_eq_getElem hi)
    refine List.mem_map.2 ⟨(batch[i], i), List.mem_filter.2 ⟨ha, decide_eq_true ?_⟩, rfl⟩
    rintro ⟨f, j⟩ hb ⟨-, hwithin, hposition⟩
    have hsame := hout f (List.fst_mem_of_mem_zipIdx hb) hwithin
    obtain ⟨hj, rfl⟩ := List.getElem?_eq_some_iff.1 (List.mk_mem_zipIdx_iff_getElem?.1 hb)
    simpa [hsame] using hfirst j (hposition hsame)

/-- A nested batch can be applied if edits inside others are dropped. The kept edits are apart; they
are the outermost edits of the batch, and of those with one range the first. -/
theorem exists_keepEdits (h : Nested length batch) :
    ∃ kept, keepEdits length true none (orderEdits batch) = .ok kept ∧
      kept.Pairwise (fun e f => e.stop ≤ f.start) ∧
      ∀ e, e ∈ kept ↔ batch.find? (fun f => e.SameRange f) = some e ∧ e.IsOutermost batch := by
  rcases h.laminar.keepEdits_orderEdits with ⟨hkept, -⟩ | ⟨e, he, f, hf, hstacked, -⟩
  · refine ⟨_, hkept, h.laminar.pairwise_outermost, fun e => ?_⟩
    rw [(orderEdits_perm _).mem_iff, h.mem_outermost_iff]
  · exact absurd hstacked (h.not_stacked he hf)

/-- What is kept of nested edits is the first edit of each outermost range. -/
theorem mem_kept_iff (h : Nested length batch)
    (hkept : keepEdits length true none (orderEdits batch) = .ok kept) :
    e ∈ kept ↔ batch.find? (fun f => e.SameRange f) = some e ∧ e.IsOutermost batch := by
  obtain ⟨kept', hkept', -, hmem⟩ := exists_keepEdits h
  obtain rfl : kept' = kept := Except.ok.inj (hkept'.symm.trans hkept)
  exact hmem e

end Nested

/-- A nested batch is applied by replacing the ranges of the edits that are kept. -/
theorem applyEdits_spliced {source : String} {batch kept : List Edit}
    (h : Nested source.length batch)
    (hkept : keepEdits source.length true none (orderEdits batch) = .ok kept) :
    ∃ text, applyEdits source batch true = .ok text ∧
      Spliced 0 source.toList kept text.toList := by
  obtain ⟨kept', hkept', hapart, hmem⟩ := exists_keepEdits h
  obtain rfl : kept' = kept := Except.ok.inj (hkept'.symm.trans hkept)
  have hfits : ∀ e ∈ kept', e.fits source.toList.length = true := fun e he => by
    rw [String.length_toList]
    exact h.fits e (List.mem_of_find?_eq_some ((hmem e).1 he).1)
  refine ⟨String.ofList (sweep source.toList 0 kept'), ?_, ?_⟩
  · rw [applyEdits, hkept]
    rfl
  · rw [String.toList_ofList]
    exact spliced_sweep hfits hapart fun e he => (Edit.fits_iff.1 (hfits e he)).1

end HtmlModules.Text
