import HtmlModules.Proofs.Table

/-!
# Tables that are set again

To set keys that have been set so before changes nothing (`setAll_setAll`), though a key may be set
several times on the way. A table that extends another one by values of some kind is given back by
setting the values of this kind that it holds (`Extends.setAll_filter`), in the same order.
-/

namespace HtmlModules.Table

variable {α : Type} {t start news : Table α} {key other : String} {value : α}

/-! ## Setting again -/

theorem setAll_cons (t : Table α) (key : String) (value : α) (news : Table α) :
    setAll t ((key, value) :: news) = setAll (set key value t) news :=
  rfl

/-- To set two lists of fields is to set one and then the other. -/
theorem setAll_append (t news more : Table α) :
    setAll t (news ++ more) = setAll (setAll t news) more :=
  List.foldl_append

/-- A key that has the value already is left alone. -/
theorem set_eq_self : ∀ {t : Table α}, get? t key = some value → set key value t = t
  | (k, v) :: t, h => by
    rw [get?_cons] at h
    rw [set]
    by_cases hk : key = k
    · rw [if_pos hk] at h
      rw [if_pos hk.symm, Option.some.inj h]
    · rw [if_neg hk] at h
      rw [if_neg (Ne.symm hk), set_eq_self h]

/-- Of two values that a key is set to the last one counts. -/
theorem set_set (key : String) (value before : α) :
    ∀ t : Table α, set key value (set key before t) = set key value t
  | [] => by simp [set]
  | (k, v) :: t => by
    by_cases hk : k = key
    · simp [set, hk]
    · simp [set, hk, set_set key value before t]

/-- A key that is present can be set before another one is. -/
theorem set_comm (hne : key ≠ other) (value before : α) :
    ∀ {t : Table α}, other ∈ keys t →
      set key value (set other before t) = set other before (set key value t)
  | (k, v) :: t, h => by
    by_cases hk : k = key
    · have hko : k ≠ other := hk ▸ hne
      simp [set, hk, hne]
    · by_cases ho : k = other
      · simp [set, ho, hne.symm]
      · have hmem : other ∈ keys t := by simpa [keys, Ne.symm ho] using h
        simp [set, hk, ho, set_comm hne value before hmem]

theorem keys_subset_set (key : String) (value : α) (t : Table α) :
    keys t ⊆ keys (set key value t) := by
  rw [keys_set]
  split_ifs
  · exact List.Subset.refl _
  · exact List.subset_append_left _ _

theorem mem_keys_set (key : String) (value : α) (t : Table α) : key ∈ keys (set key value t) := by
  rw [keys_set]
  split_ifs with h
  · exact h
  · simp

theorem keys_subset_setAll : ∀ news t : Table α, keys t ⊆ keys (setAll t news)
  | [], _ => List.Subset.refl _
  | (k, v) :: news, t =>
    List.Subset.trans (keys_subset_set k v t) (keys_subset_setAll news (set k v t))

theorem keys_news_subset_setAll : ∀ news t : Table α, keys news ⊆ keys (setAll t news)
  | [], _ => List.nil_subset _
  | (k, v) :: news, t => List.cons_subset.2
    ⟨keys_subset_setAll news _ (mem_keys_set k v t), keys_news_subset_setAll news (set k v t)⟩

/-- What a key had before others are set does not count if it is set behind them. -/
theorem set_setAll_set (key : String) (value : α) : ∀ {news t : Table α}, keys news ⊆ keys t →
    set key value (setAll (set key value t) news) = set key value (setAll t news)
  | [], t, _ => set_set key value value t
  | (k, v) :: news, t, h => by
    obtain ⟨hk, hnews⟩ := List.cons_subset.1 h
    rw [setAll_cons, setAll_cons]
    by_cases hkey : key = k
    · rw [hkey, set_set]
    · rw [← set_comm hkey value v hk,
        set_setAll_set key value (List.Subset.trans hnews (keys_subset_set k v t))]

/-- To set the same keys again changes nothing. -/
theorem setAll_setAll (t news : Table α) : setAll (setAll t news) news = setAll t news := by
  induction news using List.reverseRecOn with
  | nil => rfl
  | append_singleton news p ih =>
    obtain ⟨key, value⟩ := p
    have hstep (t : Table α) :
        setAll t (news ++ [(key, value)]) = set key value (setAll t news) := setAll_append _ _ _
    rw [hstep, hstep, set_setAll_set key value (keys_news_subset_setAll news t), ih]

/-- A field of the new table is the one that was set, or was there. -/
theorem mem_set : ∀ {t : Table α} {p : String × α}, p ∈ set key value t → p = (key, value) ∨ p ∈ t
  | [], p, h => Or.inl (List.mem_singleton.1 h)
  | (k, v) :: t, p, h => by
    rw [set] at h
    split_ifs at h with hk
    · rcases List.mem_cons.1 h with rfl | h
      · exact Or.inl (by rw [hk])
      · exact Or.inr (List.mem_cons_of_mem _ h)
    · rcases List.mem_cons.1 h with rfl | h
      · exact Or.inr List.mem_cons_self
      · exact (mem_set h).imp_right (List.mem_cons_of_mem _)

theorem get?_setAll_of_notMem : ∀ {news : Table α} (t : Table α), key ∉ keys news →
    get? (setAll t news) key = get? t key
  | [], _, _ => rfl
  | (k, v) :: news, t, h => by
    obtain ⟨hk, hnews⟩ := not_or.1 (mt List.mem_cons.2 h)
    rw [setAll_cons, get?_setAll_of_notMem _ hnews, get?_set, if_neg hk]

/-- If the keys that are set are distinct, each of them has its value. -/
theorem get?_setAll_of_mem : ∀ {news : Table α} (t : Table α), (keys news).Nodup →
    (key, value) ∈ news → get? (setAll t news) key = some value
  | (k, v) :: news, t, hd, h => by
    obtain ⟨hk, hd⟩ := List.nodup_cons.1 hd
    rw [setAll_cons]
    rcases List.mem_cons.1 h with he | h
    · obtain ⟨rfl, rfl⟩ := Prod.mk.inj he
      rw [get?_setAll_of_notMem _ hk, get?_set, if_pos rfl]
    · exact get?_setAll_of_mem _ hd h

/-- To set what is there changes nothing. -/
theorem setAll_eq_self : ∀ {news : Table α}, (∀ p ∈ news, get? t p.1 = some p.2) →
    setAll t news = t
  | [], _ => rfl
  | (k, v) :: news, h => by
    obtain ⟨hk, hnews⟩ := List.forall_mem_cons.1 h
    rw [setAll_cons, set_eq_self hk, setAll_eq_self hnews]

theorem get?_erase (hne : key ≠ other) : ∀ t : Table α, get? (erase t other) key = get? t key
  | [] => rfl
  | (k, v) :: t => by
    have ih := get?_erase hne t
    unfold erase at ih ⊢
    by_cases hk : k = other
    · rw [List.filter_cons_of_neg (by simpa using hk), ih, get?_cons, if_neg (hk ▸ hne)]
    · rw [List.filter_cons_of_pos (by simpa using hk), get?_cons, get?_cons, ih]

theorem keys_erase (t : Table α) (key : String) :
    keys (erase t key) = (keys t).filter (· ≠ key) := by
  rw [keys, erase, keys, List.filter_map]
  rfl

/-- A key that is not present leaves nothing to erase. -/
theorem erase_eq_self (h : key ∉ keys t) : erase t key = t := by
  refine List.filter_eq_self.2 fun p hp => ?_
  have hne : p.1 ≠ key := fun he => h (mem_keys.2 ⟨p.2, he ▸ hp⟩)
  simpa using hne

theorem setAll_cons_of_notMem (p : String × α) :
    ∀ {news t : Table α}, p.1 ∉ keys news → setAll (p :: t) news = p :: setAll t news
  | [], _, _ => rfl
  | (k, v) :: news, t, h => by
    obtain ⟨hk, hnews⟩ := not_or.1 (mt List.mem_cons.2 h)
    rw [setAll_cons, set, if_neg hk, setAll_cons_of_notMem p hnews, setAll_cons]

/-! ## Extensions -/

/-- The table begins with the keys of another one, and all its values but those of the other are kept
by a test. -/
structure Extends (kept : α → Bool) (start t : Table α) : Prop where
  begins : keys start <+: keys t
  distinct : (keys t).Nodup
  kept_or_mem : ∀ p ∈ t, kept p.2 = true ∨ p ∈ start

variable {kept : α → Bool}

theorem Extends.refl (h : (keys start).Nodup) : Extends kept start start :=
  ⟨List.prefix_refl _, h, fun _ => Or.inr⟩

/-- To set a field to a value that is kept extends the table. -/
theorem Extends.set (h : Extends kept start t) (key : String) (hvalue : kept value = true) :
    Extends kept start (set key value t) where
  begins := by
    rw [keys_set]
    split_ifs
    · exact h.begins
    · exact h.begins.trans (List.prefix_append _ _)
  distinct := by
    rw [keys_set]
    exact nodup_keys_with h.distinct key
  kept_or_mem p hp := by
    rcases mem_set hp with rfl | hp
    · exact Or.inl hvalue
    · exact h.kept_or_mem p hp

/-- To set fields to values that are kept extends the table. -/
theorem Extends.setAll : ∀ {news t : Table α}, Extends kept start t →
    (∀ p ∈ news, kept p.2 = true) → Extends kept start (setAll t news)
  | [], _, h, _ => h
  | (k, v) :: _, _, h, hnews =>
    (h.set k (hnews (k, v) List.mem_cons_self)).setAll
      fun p hp => hnews p (List.mem_cons_of_mem _ hp)

/-- To erase a new field takes nothing from the start. -/
theorem Extends.erase (h : Extends kept start t) (hkey : key ∉ keys start) :
    Extends kept start (erase t key) where
  begins := by
    obtain ⟨more, hmore⟩ := h.begins
    have hstart : (keys start).filter (· ≠ key) = keys start :=
      List.filter_eq_self.2 fun k hk => by simpa using fun he : k = key => hkey (he ▸ hk)
    rw [keys_erase, ← hmore, List.filter_append, hstart]
    exact List.prefix_append _ _
  distinct := by
    rw [keys_erase]
    exact h.distinct.filter _
  kept_or_mem p hp := h.kept_or_mem p (List.mem_of_mem_filter hp)

/-- Behind its first field an extension extends the rest. -/
theorem Extends.tail {k : String} {v w : α} (h : Extends kept ((k, v) :: start) ((k, w) :: t)) :
    Extends kept start t := by
  obtain ⟨hnew, hdistinct⟩ := List.nodup_cons.1 h.distinct
  refine ⟨(List.cons_prefix_cons.1 h.begins).2, hdistinct, fun p hp => ?_⟩
  refine (h.kept_or_mem p (List.mem_cons_of_mem _ hp)).imp_right fun hmem => ?_
  refine (List.mem_cons.1 hmem).resolve_left ?_
  rintro rfl
  exact hnew (mem_keys.2 ⟨v, hp⟩)

/-- What is not kept is the value that the table started with. -/
theorem Extends.eq_of_not_kept {k : String} {v w : α}
    (h : Extends kept ((k, v) :: start) ((k, w) :: t)) (hw : ¬kept w = true) : w = v := by
  obtain ⟨hnew, -⟩ := List.nodup_cons.1 h.distinct
  have hmem : (k, w) ∈ (k, v) :: start := (h.kept_or_mem _ List.mem_cons_self).resolve_left hw
  rcases List.mem_cons.1 hmem with he | hmem
  · exact (Prod.mk.inj he).2
  · exact absurd (h.tail.begins.subset (mem_keys.2 ⟨w, hmem⟩)) hnew

/-- The values that are kept give an extension back. -/
theorem Extends.setAll_filter : ∀ {start t : Table α}, Extends kept start t →
    Table.setAll start (t.filter fun p => kept p.2) = t
  | [], t, h => by
    have hall : t.filter (fun p => kept p.2) = t :=
      List.filter_eq_self.2 fun p hp => (h.kept_or_mem p hp).resolve_right List.not_mem_nil
    rw [hall, setAll_of_disjoint (by simpa using h.distinct), List.nil_append]
  | (k, v) :: start, [], h => by
    have hnil := List.prefix_nil.1 h.begins
    cases hnil
  | (k, v) :: start, (k', w) :: t, h => by
    obtain rfl : k = k' := (List.cons_prefix_cons.1 h.begins).1
    have hfilter : k ∉ keys (t.filter fun p => kept p.2) := fun hmem => by
      obtain ⟨u, hu⟩ := mem_keys.1 hmem
      exact (List.nodup_cons.1 h.distinct).1 (mem_keys.2 ⟨u, List.mem_of_mem_filter hu⟩)
    by_cases hw : kept w = true
    · rw [List.filter_cons, if_pos hw, setAll_cons, Table.set, if_pos rfl,
        setAll_cons_of_notMem (k, w) hfilter, h.tail.setAll_filter]
    · obtain rfl := h.eq_of_not_kept hw
      rw [List.filter_cons, if_neg hw, setAll_cons_of_notMem (k, w) hfilter, h.tail.setAll_filter]

end HtmlModules.Table
