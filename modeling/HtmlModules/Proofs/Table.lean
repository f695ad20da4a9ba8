import HtmlModules.Proofs.Listing
import HtmlModules.Table
import Mathlib.Data.List.Induction

/-!
# Laws of tables

A look-up sees the last value that was set (`get?_set`). Setting a key that is present leaves the
list of keys alone, and a new key goes to its end (`keys_set`, `keys_addNew`). In a table whose keys
are distinct the look-up of a key finds the only pair that has it (`get?_of_mem`), so the table is
its keys with their look-ups (`eq_map_keys`).
-/

namespace HtmlModules.Table

variable {α β : Type}

/-! ## Look-up -/

@[simp] theorem get?_nil (key : String) : get? ([] : Table α) key = none :=
  rfl

theorem get?_cons (k : String) (v : α) (t : Table α) (key : String) :
    get? ((k, v) :: t) key = if key = k then some v else get? t key := by
  rw [get?, List.lookup_cons]
  by_cases h : key = k
  · rw [beq_iff_eq.2 h, if_pos h]
  · rw [beq_eq_false_iff_ne.2 h, if_neg h, get?]

@[simp] theorem keys_append (t u : Table α) : keys (t ++ u) = keys t ++ keys u :=
  List.map_append

theorem mem_keys {t : Table α} {key : String} : key ∈ keys t ↔ ∃ v, (key, v) ∈ t := by
  simp [keys]

theorem get?_eq_none_iff {key : String} : ∀ {t : Table α}, get? t key = none ↔ key ∉ keys t
  | [] => by simp [keys]
  | (k, v) :: t => by
    have ih : get? t key = none ↔ key ∉ keys t := get?_eq_none_iff
    rw [get?_cons]
    by_cases h : key = k <;> simp_all [keys]

theorem has_iff {t : Table α} {key : String} : has t key = true ↔ key ∈ keys t := by
  rw [has, Option.isSome_iff_ne_none, Ne, get?_eq_none_iff, not_not]

/-- If the keys are distinct, a pair of the table is what its key is looked up as. -/
theorem get?_of_mem {key : String} {value : α} :
    ∀ {t : Table α}, (keys t).Nodup → (key, value) ∈ t → get? t key = some value
  | (k, v) :: t, hd, h => by
    obtain ⟨hk, hd⟩ := List.nodup_cons.1 hd
    rw [get?_cons]
    rcases List.mem_cons.1 h with he | ht
    · obtain ⟨rfl, rfl⟩ := Prod.mk.inj he
      rw [if_pos rfl]
    · have hne : key ≠ k := by
        rintro rfl
        exact hk (mem_keys.2 ⟨value, ht⟩)
      rw [if_neg hne, get?_of_mem hd ht]

/-- If the keys are distinct, the pairs of a table are its look-ups. -/
theorem mem_iff_get? {t : Table α} (h : (keys t).Nodup) {key : String} {value : α} :
    (key, value) ∈ t ↔ get? t key = some value :=
  ⟨get?_of_mem h, mem_of_get?⟩

/-- The value that was set is found at its key, and the old ones at the others. -/
theorem get?_set (key : String) (value : α) (other : String) :
    ∀ t : Table α, get? (set key value t) other = if other = key then some value else get? t other
  | [] => by rw [set, get?_cons]
  | (k, v) :: t => by
    by_cases hk : k = key
    · subst hk
      by_cases ho : other = k <;> simp [set, get?_cons, ho]
    · rw [set, if_neg hk, get?_cons, get?_set key value other t, get?_cons]
      by_cases ho : other = k
      · rw [if_pos ho, if_pos ho, if_neg fun h => hk (ho.symm.trans h)]
      · rw [if_neg ho, if_neg ho]

/-- What is looked up after keys were set one after the other: the value of one of them, all of which
have the same one, or what was there. -/
theorem get?_foldl_set_eq_some {f : β → String} {g : β → α} {key : String} {value : α} :
    ∀ {l : List β} {t : Table α}, (∀ a ∈ l, ∀ b ∈ l, f a = f b → g a = g b) →
      (get? (l.foldl (fun t a => set (f a) (g a) t) t) key = some value ↔
        (∃ a ∈ l, f a = key ∧ g a = value) ∨ (∀ a ∈ l, f a ≠ key) ∧ get? t key = some value)
  | [], _, _ => by simp
  | a :: l, t, h => by
    have hrest : ∀ b ∈ l, ∀ b' ∈ l, f b = f b' → g b = g b' := fun b hb b' hb' =>
      h b (List.mem_cons_of_mem a hb) b' (List.mem_cons_of_mem a hb')
    rw [List.foldl_cons, get?_foldl_set_eq_some hrest, get?_set, List.exists_mem_cons_iff,
      List.forall_mem_cons]
    by_cases hlater : ∃ b ∈ l, f b = key
    · obtain ⟨b, hb, hkey⟩ := hlater
      have hsame : f a = key → g a = g b := fun ha =>
        h a (by simp) b (List.mem_cons_of_mem a hb) (ha.trans hkey.symm)
      grind
    · grind

/-- A new key goes to the end of the table. -/
theorem set_of_not_mem {key : String} (value : α) :
    ∀ {t : Table α}, key ∉ keys t → set key value t = t ++ [(key, value)]
  | [], _ => rfl
  | (k, v) :: t, h => by
    obtain ⟨hk, ht⟩ := not_or.1 (mt List.mem_cons.2 h)
    rw [set, if_neg fun he => hk he.symm, set_of_not_mem value ht, List.cons_append]

/-- A key that is present keeps its place. -/
theorem keys_set_of_mem {key : String} (value : α) :
    ∀ {t : Table α}, key ∈ keys t → keys (set key value t) = keys t
  | (k, v) :: t, h => by
    by_cases hk : k = key
    · rw [set, if_pos hk]
      rfl
    · rw [set, if_neg hk]
      have ht : key ∈ keys t := (List.mem_cons.1 h).resolve_left fun he => hk he.symm
      simpa [keys] using keys_set_of_mem value ht

/-- A new key goes to the end, and an old one stays where it is. -/
theorem keys_set (key : String) (value : α) (t : Table α) :
    keys (set key value t) = if key ∈ keys t then keys t else keys t ++ [key] := by
  split_ifs with h
  · exact keys_set_of_mem value h
  · rw [set_of_not_mem value h, keys, List.map_append]
    rfl

/-- Distinct keys stay distinct if a key is added that is not among them. -/
theorem nodup_keys_with {ks : List String} (h : ks.Nodup) (key : String) :
    (if key ∈ ks then ks else ks ++ [key]).Nodup := by
  split_ifs with hk
  · exact h
  · exact List.nodup_append.2 ⟨h, List.nodup_singleton key, fun a ha b hb hab =>
      hk (List.mem_singleton.1 hb ▸ hab ▸ ha)⟩

theorem nodup_foldl_set (f : β → String) (g : β → α) (l : List β) {t : Table α}
    (h : (keys t).Nodup) : (keys (l.foldl (fun t a => set (f a) (g a) t) t)).Nodup := by
  induction l generalizing t with
  | nil => exact h
  | cons a l ih =>
    refine ih ?_
    rw [keys_set]
    exact nodup_keys_with h (f a)

/-- Pairs with new and distinct keys go to the end of the table, in their order. -/
theorem setAll_of_disjoint :
    ∀ {news t : Table α}, (keys (t ++ news)).Nodup → setAll t news = t ++ news
  | [], t, _ => (List.append_nil t).symm
  | (k, v) :: news, t, h => by
    have hk : k ∉ keys t := by
      intro hk
      simp only [keys, List.map_append, List.map_cons, List.nodup_append] at h
      exact h.2.2 k hk k (by simp) rfl
    have hs : setAll t ((k, v) :: news) = setAll (t ++ [(k, v)]) news := by
      rw [setAll, List.foldl_cons, set_of_not_mem v hk]
      rfl
    rw [hs, setAll_of_disjoint (by simpa [keys] using h), List.append_assoc]
    rfl

/-! ## Adding -/

/-- What a key is set to, or was before. -/
theorem get?_setAll_eq_some {key : String} {value : α} :
    ∀ {news t : Table α}, get? (setAll t news) key = some value →
      (key, value) ∈ news ∨ get? t key = some value
  | [], _, h => Or.inr h
  | (k, v) :: news, t, h => by
    rcases get?_setAll_eq_some (t := set k v t) h with hnews | hset
    · exact Or.inl (List.mem_cons_of_mem _ hnews)
    · rw [get?_set] at hset
      split_ifs at hset with hkey
      · rw [hkey, Option.some.inj hset]
        exact Or.inl List.mem_cons_self
      · exact Or.inr hset

/-- The second table is asked where the first one has no entry. -/
theorem get?_append (t u : Table α) (key : String) :
    get? (t ++ u) key = (get? t key).or (get? u key) :=
  List.lookup_append

theorem get?_addNew (t : Table α) (key : String) (value : α) (other : String) :
    get? (addNew t key value) other =
      (get? t other).or (if other = key then some value else none) := by
  unfold addNew
  split_ifs with h ho ho
  · obtain ⟨v, hv⟩ := Option.isSome_iff_exists.1 h
    rw [ho, hv, Option.some_or]
  · rw [Option.or_none]
  · rw [get?_append, get?_cons, if_pos ho]
  · rw [get?_append, get?_cons, if_neg ho, get?_nil]

/-- A new key goes to the end, and an old one stays where it is. -/
theorem keys_addNew (t : Table α) (key : String) (value : α) :
    keys (addNew t key value) = if key ∈ keys t then keys t else keys t ++ [key] := by
  unfold addNew
  by_cases h : key ∈ keys t
  · rw [if_pos (has_iff.2 h), if_pos h]
  · rw [if_neg (mt has_iff.1 h), if_neg h, keys, List.map_append]
    rfl

theorem nodup_addNew {t : Table α} (h : (keys t).Nodup) (key : String) (value : α) :
    (keys (addNew t key value)).Nodup := by
  rw [keys_addNew]
  exact nodup_keys_with h key

theorem mem_foldl_addNew (key : β → String) (value : β → α) {p : String × α} :
    ∀ {l : List β} {t : Table α}, p ∈ l.foldl (fun t b => addNew t (key b) (value b)) t →
      p ∈ t ∨ ∃ b ∈ l, p = (key b, value b)
  | [], _, h => Or.inl h
  | b :: l, t, h => by
    rw [List.foldl_cons] at h
    rcases mem_foldl_addNew key value h with h | ⟨b', hb', hp⟩
    · unfold addNew at h
      split_ifs at h
      · exact Or.inl h
      · rcases List.mem_append.1 h with h | h
        · exact Or.inl h
        · exact Or.inr ⟨b, List.mem_cons_self, List.mem_singleton.1 h⟩
    · exact Or.inr ⟨b', List.mem_cons_of_mem b hb', hp⟩

/-- Pairs that are added one after the other keep the order in which their keys come first. -/
theorem keys_foldl_addNew (g : β → α) (l : Table β) :
    keys (l.foldl (fun t p => addNew t p.1 (g p.2)) []) = List.eraseDups (keys l) := by
  induction l using List.reverseRecOn with
  | nil => rfl
  | append_singleton l p ih =>
    have hk : keys (l ++ [p]) = keys l ++ [p.1] := keys_append l [p]
    rw [List.foldl_append, List.foldl_cons, List.foldl_nil, keys_addNew, ih, hk,
      eraseDups_concat]
    simp only [List.mem_eraseDups]

/-- Of the pairs that are added for a key, the first one stays. -/
theorem get?_foldl_addNew (g : β → α) (l : Table β) (key : String) :
    get? (l.foldl (fun t p => addNew t p.1 (g p.2)) []) key = (get? l key).map g := by
  induction l using List.reverseRecOn with
  | nil => rfl
  | append_singleton l p ih =>
    rw [List.foldl_append, List.foldl_cons, List.foldl_nil, get?_addNew, ih, get?_append,
      get?_cons, get?_nil, Option.map_or]
    split_ifs <;> rfl

end HtmlModules.Table
