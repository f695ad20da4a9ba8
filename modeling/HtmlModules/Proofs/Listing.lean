import HtmlModules.Text.Basic
import Mathlib.Data.List.DropRight
import Mathlib.Data.List.Nodup
import Mathlib.Data.List.Pairwise
import Mathlib.Data.List.Sort

/-!
# Lists without copies, lists in order

A member that is new goes to the end of a list without copies (`eraseDups_concat`). Sorting is
insertion sort (`sortBy_eq_insertionSort`): it permutes a list (`sort_perm`) and puts it in order
(`pairwise_sortBy`); members that are in order already, or that the order does not tell apart, stay
in the order they were in (`filter_sortBy_of_pairwise`, `filter_sortBy`). What is dropped at the end
of a text is what follows its last character of another kind (`dropEndWhile_append`).
-/

namespace HtmlModules

variable {α : Type}

/-! ## Copies -/

section Copies

variable [BEq α] [LawfulBEq α]

/-- Only a new member makes a list without copies longer. -/
theorem eraseDups_concat (a : α) (l : List α) :
    (l ++ [a]).eraseDups = if a ∈ l then l.eraseDups else l.eraseDups ++ [a] := by
  rw [List.eraseDups_append]
  split_ifs with h
  · simp [List.removeAll, h]
  · simp [List.removeAll, h, List.eraseDups_cons]

/-- What is left without repetitions holds nothing twice. -/
theorem nodup_eraseDups (l : List α) : l.eraseDups.Nodup := by
  induction l using List.reverseRecOn with
  | nil => exact List.nodup_nil
  | append_singleton l a ih =>
    rw [eraseDups_concat]
    split_ifs with h
    · exact ih
    · rw [← List.concat_eq_append]
      exact ih.concat (by simpa using h)

/-- Members may be left out before or after their copies are. -/
theorem eraseDups_filter (p : α → Bool) (l : List α) :
    (l.filter p).eraseDups = l.eraseDups.filter p := by
  induction l using List.reverseRecOn with
  | nil => rfl
  | append_singleton l a ih =>
    rw [List.filter_append, eraseDups_concat]
    by_cases hp : p a = true
    · have hmem : a ∈ l.filter p ↔ a ∈ l := by simp [hp]
      rw [List.filter_cons_of_pos hp, List.filter_nil, eraseDups_concat, ih]
      simp only [hmem]
      split_ifs <;> simp [hp]
    · rw [List.filter_cons_of_neg hp, List.filter_nil, List.append_nil, ih]
      split_ifs <;> simp [hp]

end Copies

/-- The only member with a property is the first one. -/
theorem find?_eq_some_of_unique {p : α → Bool} {a : α} {l : List α} (ha : a ∈ l) (hp : p a = true)
    (h : ∀ b ∈ l, p b = true → b = a) : l.find? p = some a := by
  cases hfind : l.find? p with
  | none => exact absurd hp (List.find?_eq_none.1 hfind a ha)
  | some b => rw [h b (List.mem_of_find?_eq_some hfind) (List.find?_some hfind)]

/-- Of the members that satisfy a condition, the first is the only one if and only if the condition
counts one. -/
theorem countP_eq_one_iff {p : α → Bool} :
    ∀ {l : List α} {i : Nat}, l.findIdx? p = some i →
      (l.countP p = 1 ↔ ∀ j a, l[j]? = some a → p a = true → j = i)
  | a :: l, i, h => by
    rw [List.findIdx?_cons] at h
    split_ifs at h with ha
    · obtain rfl := Option.some.inj h
      rw [List.countP_cons_of_pos ha, Nat.add_eq_right, List.countP_eq_zero]
      constructor
      · rintro hl (_ | j) b hb hp
        · rfl
        · exact absurd hp (hl b (List.mem_of_getElem? hb))
      · intro hall b hb hp
        obtain ⟨j, hj⟩ := List.getElem?_of_mem hb
        exact absurd (hall (j + 1) b hj hp) (Nat.succ_ne_zero j)
    · obtain ⟨i', hi, rfl⟩ := Option.map_eq_some_iff.1 h
      rw [List.countP_cons_of_neg (by simpa using ha), countP_eq_one_iff hi]
      constructor
      · rintro hl (_ | j) b hb hp
        · obtain rfl := Option.some.inj hb
          exact absurd hp ha
        · exact congrArg (· + 1) (hl j b hb hp)
      · intro hall j b hb hp
        exact Nat.succ.inj (hall (j + 1) b hb hp)

/-! ## Corresponding lists -/

/-- A property of all elements of one row is one of all elements of a row that is related to it. -/
theorem forall_iff_of_forall₂ {β : Type} {R : α → β → Prop} {P : α → Prop} {Q : β → Prop}
    {as : List α} {bs : List β} (h : List.Forall₂ R as bs)
    (hPQ : ∀ a, ∀ b ∈ bs, R a b → (P a ↔ Q b)) : (∀ a ∈ as, P a) ↔ ∀ b ∈ bs, Q b := by
  induction h with
  | nil => simp
  | cons hab _ ih =>
    rw [List.forall_mem_cons, List.forall_mem_cons, hPQ _ _ List.mem_cons_self hab,
      ih fun a b hb => hPQ a b (List.mem_cons_of_mem _ hb)]

/-- Two pairwise relations agree on lists whose members correspond, if they agree wherever a third
one holds. -/
theorem pairwise_iff_of_forall₂ {β : Type} {R : α → β → Prop} {P : α → α → Prop}
    {Q N : β → β → Prop}
    (hPQ : ∀ a a' b b', R a b → R a' b' → N b b' → (P a a' ↔ Q b b')) :
    ∀ {as : List α} {bs : List β}, List.Forall₂ R as bs → bs.Pairwise N →
      (as.Pairwise P ↔ bs.Pairwise Q)
  | [], [], .nil, _ => by simp
  | a :: as, b :: bs, .cons hab h, hN => by
    obtain ⟨hb, hN⟩ := List.pairwise_cons.1 hN
    rw [List.pairwise_cons, List.pairwise_cons, pairwise_iff_of_forall₂ hPQ h hN,
      forall_iff_of_forall₂ h fun a' b' hb' hab' => hPQ a a' b b' hab hab' (hb b' hb')]

/-- Every element of one row is related to an element of the other. -/
theorem exists_of_forall₂_left {β : Type} {R : α → β → Prop} {as : List α} {bs : List β}
    (h : List.Forall₂ R as bs) {a : α} (ha : a ∈ as) : ∃ b ∈ bs, R a b := by
  induction h with
  | nil => simp at ha
  | cons hd _ ih =>
    rcases List.mem_cons.1 ha with rfl | ha
    · exact ⟨_, by simp, hd⟩
    · obtain ⟨b, hb, hab⟩ := ih ha
      exact ⟨b, List.mem_cons_of_mem _ hb, hab⟩

/-- Related rows are related by whatever follows for the elements of the first. -/
theorem forall₂_imp_of_mem {β : Type} {R S : α → β → Prop} {as : List α} {bs : List β}
    (h : List.Forall₂ R as bs) (hRS : ∀ a ∈ as, ∀ b, R a b → S a b) : List.Forall₂ S as bs := by
  induction h with
  | nil => exact .nil
  | cons hab _ ih =>
    exact .cons (hRS _ List.mem_cons_self _ hab) (ih fun a ha => hRS a (List.mem_cons_of_mem _ ha))

/-- Members of parts that stand for related members of a list are related. -/
theorem pairwise_flatten_of_forall₂ {β : Type} {R : α → α → Prop} {S : α → List β → Prop}
    {T : β → β → Prop} (hown : ∀ a part, S a part → part.Pairwise T)
    (hbetween : ∀ a part b part', R a b → S a part → S b part' → ∀ x ∈ part, ∀ y ∈ part', T x y)
    {as : List α} {parts : List (List β)} (h : List.Forall₂ S as parts) (hR : as.Pairwise R) :
    parts.flatten.Pairwise T := by
  induction h with
  | nil => exact .nil
  | @cons a part as parts hpart hparts ih =>
    obtain ⟨ha, hR⟩ := List.pairwise_cons.1 hR
    rw [List.flatten_cons, List.pairwise_append]
    refine ⟨hown a part hpart, ih hR, fun x hx y hy => ?_⟩
    obtain ⟨part', hpart', hy⟩ := List.mem_flatten.1 hy
    obtain ⟨b, hb, hS⟩ := exists_of_forall₂_left hparts.flip hpart'
    exact hbetween a part b part' (ha b hb) hpart hS x hx y hy

/-- Of members that correspond, the first ones with a property correspond. -/
theorem rel_find?_of_forall₂ {β : Type} {R : α → β → Prop} {p : α → Bool} {q : β → Bool}
    (hpq : ∀ a b, R a b → p a = q b) {as : List α} {bs : List β} (h : List.Forall₂ R as bs) :
    Option.Rel R (as.find? p) (bs.find? q) := by
  induction h with
  | nil => exact .none
  | cons hab _ ih =>
    rw [List.find?_cons, List.find?_cons, hpq _ _ hab]
    split
    · exact .some hab
    · exact ih

/-- A property of one option is one of an option that is related to it. -/
theorem exists_some_iff_of_rel {β : Type} {R : α → β → Prop} {P : α → Prop} {Q : β → Prop}
    {a? : Option α} {b? : Option β} (h : Option.Rel R a? b?)
    (hPQ : ∀ a b, b? = some b → R a b → (P a ↔ Q b)) :
    (∃ a, a? = some a ∧ P a) ↔ ∃ b, b? = some b ∧ Q b := by
  cases h with
  | none => simp
  | some hab => simpa using hPQ _ _ rfl hab

/-! ## Order -/

/-- Members are put in order by insertion. -/
theorem sortBy_eq_insertionSort (le : α → α → Bool) :
    ∀ l : List α, sortBy le l = l.insertionSort fun a b => le a b = true
  | [] => rfl
  | a :: l => by
    have hinsert : ∀ l : List α,
        insertInOrder le a l = l.orderedInsert (fun a b => le a b = true) a := by
      intro l
      induction l with
      | nil => rfl
      | cons b l ih => rw [insertInOrder, ih, List.orderedInsert_cons]
    rw [sortBy, hinsert, sortBy_eq_insertionSort le l, List.insertionSort_cons]

theorem sortBy_perm (le : α → α → Bool) (l : List α) : (sortBy le l).Perm l := by
  rw [sortBy_eq_insertionSort]
  exact List.perm_insertionSort _ l

theorem pairwise_sortBy {le : α → α → Bool} (htotal : ∀ a b, le a b = false → le b a = true)
    (htrans : ∀ a b c, le a b = true → le b c = true → le a c = true) (l : List α) :
    (sortBy le l).Pairwise fun x y => le x y = true := by
  have : Std.Total fun a b => le a b = true :=
    ⟨fun a b => or_iff_not_imp_left.2 fun h => htotal a b (Bool.eq_false_iff.2 h)⟩
  have : IsTrans α fun a b => le a b = true := ⟨htrans⟩
  rw [sortBy_eq_insertionSort]
  exact List.pairwise_insertionSort _ l

/-- Members that are in order already stay in the order they were in. -/
theorem filter_sortBy_of_pairwise {le : α → α → Bool} {p : α → Bool} {l : List α}
    (h : (l.filter p).Pairwise fun a b => le a b = true) : (sortBy le l).filter p = l.filter p := by
  have hsublist : (l.filter p).Sublist (sortBy le l) := by
    rw [sortBy_eq_insertionSort]
    exact List.sublist_insertionSort h List.filter_sublist
  have hfiltered := hsublist.filter p
  rw [List.filter_filter] at hfiltered
  simp only [Bool.and_self] at hfiltered
  exact (hfiltered.eq_of_length ((sortBy_perm le l).filter p).length_eq.symm).symm

/-- Members that may all come before each other stay in the order they were in. -/
theorem filter_sortBy {le : α → α → Bool} {p : α → Bool}
    (hp : ∀ a b, p a = true → p b = true → le a b = true) (l : List α) :
    (sortBy le l).filter p = l.filter p := by
  refine filter_sortBy_of_pairwise (List.pairwise_of_forall_mem_list fun a ha b hb => ?_)
  exact hp a b (List.of_mem_filter ha) (List.of_mem_filter hb)

/-- What members contribute that are in order already stays in the order it was in. -/
theorem filterMap_sortBy_of_pairwise {β : Type} {le : α → α → Bool} {f : α → Option β} {l : List α}
    (h : (l.filter fun a => (f a).isSome).Pairwise fun a b => le a b = true) :
    (sortBy le l).filterMap f = l.filterMap f := by
  have hfilter : ∀ k : List α, k.filterMap f = (k.filter fun a => (f a).isSome).filterMap f := by
    intro k
    rw [List.filterMap_filter]
    refine List.filterMap_congr fun a _ => ?_
    cases f a <;> rfl
  rw [hfilter, filter_sortBy_of_pairwise h, ← hfilter]

theorem Text.sort_perm (l : List String) : (Text.sort l).Perm l :=
  sortBy_perm Text.le l

theorem Text.mem_sort_eraseDups {l : List String} {s : String} :
    s ∈ Text.sort l.eraseDups ↔ s ∈ l := by
  rw [(Text.sort_perm _).mem_iff, List.mem_eraseDups]

/-! ## Ends -/

/-- Of a text that is followed by characters of a kind, and does not end with one, these are what is
dropped at its end. -/
theorem Text.dropEndWhile_append {p : Char → Bool} {kept back : List Char}
    (hback : ∀ ch ∈ back, p ch = true) (hlast : ∀ ch ∈ kept.getLast?, p ch = false) :
    dropEndWhile p (kept ++ back) = kept := by
  have hkept : kept.rdropWhile p = kept :=
    List.rdropWhile_eq_self_iff.2 fun hne => by simp [hlast _ (List.getLast_mem_getLast? hne)]
  rw [dropEndWhile, List.reverse_append, List.dropWhile_append_of_pos (by simpa using hback)]
  exact hkept

/-- Of a text between characters of two kinds, which neither begins with one of the first kind nor ends
with one of the second, these are what is dropped at its ends. -/
theorem Text.dropEndWhile_dropWhile {p q : Char → Bool} {front kept back : List Char}
    (hfront : ∀ ch ∈ front, p ch = true) (hback : ∀ ch ∈ back, q ch = true)
    (hhead : ∀ ch ∈ kept.head?, p ch = false) (hlast : ∀ ch ∈ kept.getLast?, q ch = false) :
    dropEndWhile q ((front ++ (kept ++ back)).dropWhile p) = kept := by
  rw [List.dropWhile_append_of_pos hfront]
  cases kept with
  | nil =>
    -- Of what is left, some may be dropped as characters of the first kind.
    have hrest : ∀ ch ∈ back.dropWhile p, q ch = true := fun ch hch =>
      hback ch ((List.dropWhile_suffix _).subset hch)
    exact @dropEndWhile_append q [] _ hrest (by simp)
  | cons ch rest =>
    rw [List.cons_append, List.dropWhile_cons_of_neg (by simp [hhead ch rfl])]
    exact dropEndWhile_append hback hlast

end HtmlModules
