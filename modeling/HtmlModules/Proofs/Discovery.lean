import HtmlModules.Proofs.Analysis
import HtmlModules.Proofs.Feature

/-!
# The order in which an analysis finds files

An analysis finds the urls that it is asked for, then those that these import, then those that those
import, and so on (`levels`), each url only once (`discovered`). It loads them in this order
(`foldlM_load_of_follow`): a step of the queue loads the first of the urls that it leads to and
keeps the others as they are (`Closed.fresh_levels_cons`), although what the loaded file imports is
put behind all that waits. So an analysis of files that can be parsed comes to an end, and it has
the files at the urls that are reached through imports (`exists_analyze_breadthFirst`).
-/

namespace HtmlModules

open Markup Text

/-! ## Levels -/

section

variable {α : Type} {next : α → List α}

/-- The members of a list, what they lead to, what that leads to, and so on `n` times. -/
def levels (next : α → List α) : Nat → List α → List α
  | 0, l => l
  | n + 1, l => l ++ levels next n (l.flatMap next)

@[simp] theorem levels_nil : ∀ n, levels next n [] = []
  | 0 => rfl
  | n + 1 => by rw [levels, List.flatMap_nil, levels_nil n, List.nil_append]

/-- A member that leads nowhere is only listed. -/
theorem levels_cons_of_eq_nil {a : α} (h : next a = []) (l : List α) :
    ∀ n, levels next n (a :: l) = a :: levels next n l
  | 0 => rfl
  | n + 1 => by rw [levels, List.flatMap_cons, h, List.nil_append, levels, List.cons_append]

/-- If the first members are taken out and what they lead to is put behind the others, then as many
levels list at least as much, in the same order. -/
theorem levels_append_isPrefix (n : Nat) (l l' : List α) :
    levels next n (l ++ l') <+: l ++ levels next n (l' ++ l.flatMap next) := by
  induction n generalizing l l' with
  | zero => exact (List.prefix_append_right_inj l).2 (List.prefix_append l' _)
  | succ n ih =>
    rw [levels, levels, List.flatMap_append, List.flatMap_append, List.append_assoc,
      List.append_assoc, List.prefix_append_right_inj, List.prefix_append_right_inj]
    exact ih (l.flatMap next) (l'.flatMap next)

/-- One level more lists all of that, in the same order. -/
theorem append_levels_isPrefix (n : Nat) (l l' : List α) :
    l ++ levels next n (l' ++ l.flatMap next) <+: levels next (n + 1) (l ++ l') := by
  induction n generalizing l l' with
  | zero =>
    rw [levels, levels, levels, List.flatMap_append, List.append_assoc,
      List.prefix_append_right_inj, List.prefix_append_right_inj]
    exact List.prefix_append _ _
  | succ n ih =>
    rw [levels, List.flatMap_append, levels, List.flatMap_append, List.append_assoc,
      List.append_assoc, List.prefix_append_right_inj, List.prefix_append_right_inj]
    exact ih (l.flatMap next) (l'.flatMap next)

/-- The first levels come first among more of them. -/
theorem levels_isPrefix {m n : Nat} (h : m ≤ n) (l : List α) :
    levels next m l <+: levels next n l := by
  induction h with
  | refl => exact List.prefix_refl _
  | @step n _ ih =>
    refine ih.trans ?_
    simpa using (levels_append_isPrefix n l []).trans (append_levels_isPrefix n l [])

/-- What a listed member leads to is listed one level deeper. -/
theorem mem_levels_succ {a b : α} (hb : b ∈ next a) :
    ∀ {n : Nat} {l : List α}, a ∈ levels next n l → b ∈ levels next (n + 1) l
  | 0, l, h => List.mem_append_right _ (List.mem_flatMap.2 ⟨a, h, hb⟩)
  | n + 1, l, h => by
    rw [levels]
    rcases List.mem_append.1 h with h | h
    · refine List.mem_append_right _ ((levels_isPrefix (Nat.zero_le _) _).subset ?_)
      exact List.mem_flatMap.2 ⟨a, h, hb⟩
    · exact List.mem_append_right _ (mem_levels_succ hb h)

end

/-! ## Queues -/

section

variable {α : Type} {next : α → List α} {seen queue queue' : List α} {a : α}

/-- What has been seen leads to what has been seen or is in the queue. -/
def Closed (next : α → List α) (seen queue : List α) : Prop :=
  ∀ a ∈ seen, ∀ b ∈ next a, b ∈ seen ∨ b ∈ queue

/-- The first member of a queue can be seen, if what it leads to is put into the queue. -/
theorem Closed.dequeue (h : Closed next seen (a :: queue)) (hqueue : queue ⊆ queue')
    (hnext : ∀ b ∈ next a, b ∈ seen ++ [a] ∨ b ∈ queue') : Closed next (seen ++ [a]) queue' := by
  intro c hc b hb
  rcases List.mem_append.1 hc with hc | hc
  · rcases h c hc b hb with hseen | hwaiting
    · exact Or.inl (List.mem_append_left _ hseen)
    · rcases List.mem_cons.1 hwaiting with rfl | hwaiting
      · exact Or.inl (List.mem_append_right _ List.mem_cons_self)
      · exact Or.inr (hqueue hwaiting)
  · obtain rfl := List.mem_singleton.1 hc
    exact hnext b hb

theorem Closed.skip (h : Closed next seen (a :: queue)) (ha : a ∈ seen) :
    Closed next seen queue := by
  intro c hc b hb
  rcases h c hc b hb with hseen | hwaiting
  · exact Or.inl hseen
  · rcases List.mem_cons.1 hwaiting with rfl | hwaiting
    · exact Or.inl ha
    · exact Or.inr hwaiting

end

/-! ## New members -/

section

variable {α : Type} [BEq α] [LawfulBEq α] {next : α → List α}
  {seen seen' l l' queue queue' : List α} {a : α} {n : Nat}

/-- The members that have not been seen, each once, in the order in which they come first. -/
def fresh (seen l : List α) : List α := (List.eraseDups l).filter fun a => !seen.contains a

/-- What is fresh is in the list and has not been seen. -/
@[simp] theorem mem_fresh : a ∈ fresh seen l ↔ a ∈ l ∧ a ∉ seen := by
  simp [fresh]

theorem nodup_fresh (seen l : List α) : (fresh seen l).Nodup :=
  (nodup_eraseDups l).filter _

/-- Before anything was seen, copies are left out. -/
@[simp] theorem nil_fresh (l : List α) : fresh [] l = List.eraseDups l := by
  simp [fresh]

theorem fresh_cons_of_mem (h : a ∈ seen) (l : List α) : fresh seen (a :: l) = fresh seen l := by
  rw [fresh, List.eraseDups_cons, eraseDups_filter, List.filter_cons, if_neg (by simpa using h),
    List.filter_filter, fresh]
  refine List.filter_congr fun b _ => ?_
  by_cases hab : b = a
  · subst hab
    simp [h]
  · simp [hab]

/-- What has not been seen is fresh, and is seen from then on. -/
theorem fresh_cons_of_notMem (h : a ∉ seen) (l : List α) :
    fresh seen (a :: l) = a :: fresh (seen ++ [a]) l := by
  rw [fresh, List.eraseDups_cons, eraseDups_filter, List.filter_cons, if_pos (by simpa using h),
    List.filter_filter, fresh]
  congr 1
  refine List.filter_congr fun b _ => ?_
  by_cases hab : b = a
  · subst hab
    simp
  · simp [hab]

/-- What is fresh in the second list must not be fresh in the first one. -/
theorem fresh_append (seen l l' : List α) :
    fresh seen (l ++ l') = fresh seen l ++ fresh (seen ++ fresh seen l) l' := by
  induction l generalizing seen with
  | nil => simp [fresh]
  | cons a l ih =>
    by_cases h : a ∈ seen
    · rw [List.cons_append, fresh_cons_of_mem h, fresh_cons_of_mem h, ih]
    · rw [List.cons_append, fresh_cons_of_notMem h, fresh_cons_of_notMem h, ih, List.cons_append,
        List.append_assoc, List.singleton_append]

theorem fresh_eq_nil (h : ∀ a ∈ l, a ∈ seen) : fresh seen l = [] :=
  List.eq_nil_iff_forall_not_mem.2 fun a ha => (mem_fresh.1 ha).2 (h a (mem_fresh.1 ha).1)

/-- A longer list has its fresh elements behind those of the shorter one. -/
theorem fresh_isPrefix (h : l <+: l') (seen : List α) : fresh seen l <+: fresh seen l' := by
  obtain ⟨rest, rfl⟩ := h
  rw [fresh_append]
  exact List.prefix_append _ _

/-- What has been seen can be left out. -/
theorem fresh_filter (h : ∀ a ∈ seen, a ∈ seen') (l : List α) :
    fresh seen' (l.filter fun a => !seen.contains a) = fresh seen' l := by
  induction l generalizing seen' with
  | nil => rfl
  | cons a l ih =>
    by_cases ha : a ∈ seen
    · rw [List.filter_cons, if_neg (by simpa using ha), ih h, fresh_cons_of_mem (h a ha)]
    · rw [List.filter_cons, if_pos (by simpa using ha)]
      by_cases ha' : a ∈ seen'
      · rw [fresh_cons_of_mem ha', fresh_cons_of_mem ha', ih h]
      · rw [fresh_cons_of_notMem ha', fresh_cons_of_notMem ha',
          ih fun b hb => List.mem_append_left _ (h b hb)]

/-- What members lead to is led to by those of them that are new, if the others lead nowhere new. -/
theorem fresh_flatMap (h : ∀ a ∈ seen, ∀ b ∈ next a, b ∈ seen') (l : List α) :
    fresh seen' ((fresh seen l).flatMap next) = fresh seen' (l.flatMap next) := by
  induction l generalizing seen seen' with
  | nil => rfl
  | cons a l ih =>
    by_cases ha : a ∈ seen
    · rw [fresh_cons_of_mem ha, ih h, List.flatMap_cons, fresh_append, fresh_eq_nil (h a ha),
        List.nil_append, List.append_nil]
    · rw [fresh_cons_of_notMem ha, List.flatMap_cons, List.flatMap_cons, fresh_append, fresh_append,
        ih]
      intro b hb c hc
      rw [List.mem_append, mem_fresh]
      rcases List.mem_append.1 hb with hb | hb
      · exact Or.inl (h b hb c hc)
      · rw [List.mem_singleton.1 hb] at hc
        by_cases hseen : c ∈ seen'
        · exact Or.inl hseen
        · exact Or.inr ⟨hc, hseen⟩

/-- What follows from what has been seen has been seen or is fresh in the queue. -/
theorem Closed.mem_append_fresh (h : Closed next seen queue) :
    ∀ a ∈ seen, ∀ b ∈ next a, b ∈ seen ++ fresh seen queue := by
  intro a ha b hb
  rw [List.mem_append, mem_fresh]
  by_cases hseen : b ∈ seen
  · exact Or.inl hseen
  · exact Or.inr ⟨(h a ha b hb).resolve_left hseen, hseen⟩

/-- The members of a queue can be seen. -/
theorem Closed.flatMap (h : Closed next seen queue) :
    Closed next (seen ++ fresh seen queue) (queue.flatMap next) := by
  intro a ha b hb
  rcases List.mem_append.1 ha with ha | ha
  · exact Or.inl (h.mem_append_fresh a ha b hb)
  · exact Or.inr (List.mem_flatMap.2 ⟨a, (mem_fresh.1 ha).1, hb⟩)

/-- Two queues with the same new members lead to the same. -/
theorem Closed.fresh_levels_congr (h : Closed next seen queue)
    (hqueue : fresh seen queue = fresh seen queue') (n : Nat) :
    fresh seen (levels next n queue) = fresh seen (levels next n queue') := by
  induction n generalizing seen queue queue' with
  | zero => exact hqueue
  | succ n ih =>
    rw [levels, levels, fresh_append, fresh_append, ← hqueue, ih h.flatMap]
    rw [← fresh_flatMap h.mem_append_fresh queue, hqueue, fresh_flatMap]
    rw [← hqueue]
    exact h.mem_append_fresh

/-- The new members of what the first member of a queue leads to go behind the others. -/
def enqueue (next : α → List α) (seen queue : List α) (a : α) : List α :=
  queue ++ (next a).filter fun b => !seen.contains b

/-- To see the first of the queue and to append what follows from it keeps the queue closed. -/
protected theorem Closed.enqueue (h : Closed next seen (a :: queue)) :
    Closed next (seen ++ [a]) (enqueue next (seen ++ [a]) queue a) := by
  refine h.dequeue (List.subset_append_left _ _) fun b hb => ?_
  by_cases hseen : b ∈ seen ++ [a]
  · exact Or.inl hseen
  · exact Or.inr (List.mem_append_right _ (List.mem_filter.2 ⟨hb, by simpa using hseen⟩))

/-- What a queue leads to is its first member and then what the queue leads to when this one has
been loaded, if that does not depend on the number of levels. -/
theorem Closed.fresh_levels_cons {found : List α} (h : Closed next seen (a :: queue))
    (ha : a ∉ seen) (hfound : ∀ m, n ≤ m →
      fresh (seen ++ [a]) (levels next m (enqueue next (seen ++ [a]) queue a)) = found) :
    fresh seen (levels next (n + 1) (a :: queue)) = a :: found := by
  have hsame : fresh (seen ++ [a]) (enqueue next (seen ++ [a]) queue a) =
      fresh (seen ++ [a]) (queue ++ next a) := by
    rw [enqueue, fresh_append, fresh_append,
      fresh_filter fun b hb => List.mem_append_left _ hb]
  have hlevels : ∀ m, n ≤ m → fresh (seen ++ [a]) (levels next m (queue ++ next a)) = found :=
    fun m hm => (h.enqueue.fresh_levels_congr hsame m).symm.trans (hfound m hm)
  -- what is listed behind the first member lies between what `n` and what `n + 1` levels list
  have hmore : queue ++ levels next n (next a ++ queue.flatMap next) <+:
      levels next (n + 1) (queue ++ next a) := append_levels_isPrefix n queue (next a)
  have hless : levels next n (queue ++ next a) <+:
      queue ++ levels next n (next a ++ queue.flatMap next) := levels_append_isPrefix n queue (next a)
  have hle := fresh_isPrefix hmore (seen ++ [a])
  have hge := fresh_isPrefix hless (seen ++ [a])
  rw [hlevels _ (Nat.le_succ n)] at hle
  rw [hlevels _ (Nat.le_refl n)] at hge
  rw [levels, List.cons_append, List.flatMap_cons, fresh_cons_of_notMem ha,
    hle.eq_of_length_le hge.length_le]

end

/-! ## Imports -/

namespace SourceRoot

variable {r : SourceRoot} {a b : Analysis} {url other contents : String} {file : SourceFile}
  {warnings : Diagnostics} {d : Document} {p : PlacedElement} {urls queue : List String} {n : Nat}

/-- The file that an element imports: a link that imports a document, or a script with a source. In
a template nothing is imported. -/
def importedBy? (r : SourceRoot) (url : String) (p : PlacedElement) : Option String :=
  if isInside p.around "template" then none
  else match p.element.tag with
    | "link" =>
      if "import" ∈ words (lower ((p.element.attribute? "rel").getD "")) then
        (p.element.attribute? "href").bind (r.target? url)
      else none
    | "script" => (p.element.attribute? "src").bind (r.target? url)
    | _ => none

/-- The files that the document at a url imports, in the order of the document. -/
def imports (r : SourceRoot) (url : String) : List String :=
  match Table.get? r.files url with
  | some (.ok contents) =>
    if endsWith url Url.htmlExtension then
      match Document.parse contents with
      | .ok d => d.elements.filterMap (r.importedBy? url)
      | .error _ => []
    else []
  | _ => []

/-- The urls that are found on the way from these ones, along at most `n` imports. -/
def discovered (r : SourceRoot) (urls : List String) (n : Nat) : List String :=
  List.eraseDups (levels r.imports n urls)

/-- The file that a feature links to. -/
def linkUrl? : Feature → Option String
  | .link l => some l.url
  | _ => none

/-- An import leads to the target of its `href` if its `rel` has the word for it. -/
theorem importLink?_bind_linkUrl? (r : SourceRoot) (url : String) (e : Element) :
    ((r.importLink? url e).map Feature.link).bind linkUrl? =
      if "import" ∈ words (lower ((e.attribute? "rel").getD "")) then
        (e.attribute? "href").bind (r.target? url)
      else none := by
  unfold importLink?
  simp only [List.contains_iff_mem]
  split_ifs
  · cases e.attribute? "href" with
    | none => rfl
    | some href => cases htarget : r.target? url href <;> simp [htarget, linkUrl?]
  · rfl

theorem scriptLink?_bind_linkUrl? (r : SourceRoot) (url href : String) (e : Element) :
    ((r.scriptLink? url href e).map Feature.link).bind linkUrl? = r.target? url href := by
  unfold scriptLink?
  cases r.target? url href <;> rfl

/-- A feature links to what its element imports. -/
theorem feature?_bind_linkUrl? (r : SourceRoot) (url : String) (d : Document) (p : PlacedElement) :
    (r.feature? url d p).bind linkUrl? = r.importedBy? url p := by
  unfold feature? importedBy?
  by_cases htemplate : isInside p.around "template" = true
  · simp only [htemplate, if_true]
    split
    · rfl
    · split <;> rfl
    · rfl
    · rfl
  · simp only [htemplate, Bool.false_eq_true, if_false]
    generalize p.element.tag = tag
    split
    · exact importLink?_bind_linkUrl? r url p.element
    · cases p.element.attribute? "src" with
      | none => rfl
      | some href => exact scriptLink?_bind_linkUrl? r url href p.element
    · rfl
    · simp

/-- The urls that a file links are those of its features. -/
theorem links_map_url (file : SourceFile) :
    file.links.map (·.url) = file.features.filterMap linkUrl? := by
  rw [SourceFile.links, List.map_filterMap]
  refine List.filterMap_congr fun f _ => ?_
  cases f <;> rfl

/-- A file links to what the document imports. -/
theorem Holds.links (h : r.Holds url file) : file.links.map (·.url) = r.imports url := by
  obtain ⟨text, warnings, htext, hread⟩ := h
  obtain ⟨contents, hcontents, hread⟩ := Failing.bind_eq_ok.1 hread
  rw [imports, htext, hcontents]
  dsimp only
  split_ifs at hread with hhtml
  · obtain ⟨d, hparse, -⟩ := SourceRoot.readDocument_ok hread
    rw [if_pos hhtml, hparse, links_map_url, filterMap_features (fun _ => rfl) hparse hread]
    exact List.filterMap_congr fun p _ => feature?_bind_linkUrl? r url d p
  · obtain ⟨rfl, -⟩ := Prod.mk.inj (Except.ok.inj hread)
    rw [if_neg hhtml]
    rfl

theorem imports_of_missing (h : Table.get? r.files url = none) : r.imports url = [] := by
  rw [imports, h]

/-! ## Loading -/

/-- The file at a url, if there is one that can be read. -/
def found? (r : SourceRoot) (url : String) : Option SourceFile :=
  (Table.get? r.files url).bind fun text => (r.readFile url text).toOption.map Prod.fst

theorem found?_eq_some : r.found? url = some file ↔ r.Holds url file := by
  rw [found?, Option.bind_eq_some_iff]
  refine exists_congr fun text => ?_
  cases hread : r.readFile url text with
  | error e => simp [Except.toOption]
  | ok read => simp [Except.toOption, Prod.ext_iff]

/-- The url of a file is added behind those that were read before. -/
@[simp] theorem keys_loaded_add {file : Option SourceFile} :
    Table.keys (a.add url file warnings).loaded = Table.keys a.loaded ++ [url] := by
  simp [Analysis.add, Table.keys]

/-- To load a new url adds the file that is found there, or none. -/
theorem load_loaded (hnew : url ∉ Table.keys a.loaded) (h : r.load a url = .ok b) :
    b.loaded = a.loaded ++ [(url, r.found? url)] := by
  unfold load at h
  rw [if_neg (mt Table.has_iff.1 hnew)] at h
  unfold found?
  split at h
  · next hmissing =>
    rw [hmissing, ← Except.ok.inj h]
    rfl
  · next text htext =>
    obtain ⟨⟨file, warnings⟩, hread, h⟩ := Failing.bind_eq_ok.1 h
    rw [htext, Option.bind_some, hread, ← Except.ok.inj h]
    rfl

/-- New urls are loaded one after the other, each with the file that is found there. -/
theorem foldlM_load_loaded : ∀ {urls : List String} {a : Analysis}, urls.Nodup →
    (∀ url ∈ urls, url ∉ Table.keys a.loaded) → urls.foldlM r.load a = .ok b →
    b.loaded = a.loaded ++ urls.map fun url => (url, r.found? url)
  | [], a, _, _, h => by
    rw [← Except.ok.inj h, List.map_nil, List.append_nil]
  | url :: urls, a, hnodup, hnew, h => by
    obtain ⟨hurl, hnodup⟩ := List.nodup_cons.1 hnodup
    obtain ⟨hnewUrl, hnew⟩ := List.forall_mem_cons.1 hnew
    rw [List.foldlM_cons] at h
    obtain ⟨mid, hload, h⟩ := Failing.bind_eq_ok.1 h
    have hmid := load_loaded hnewUrl hload
    rw [foldlM_load_loaded hnodup ?_ h, hmid, List.map_cons, List.append_assoc,
      List.singleton_append]
    intro other hother
    rw [hmid, Table.keys_append, List.mem_append, not_or]
    refine ⟨hnew other hother, fun heq => ?_⟩
    obtain rfl : other = url := List.mem_singleton.1 heq
    exact hurl hother

/-- The urls that are loaded are the fresh ones, in order. -/
theorem foldlM_load_keys (h : (fresh (Table.keys a.loaded) urls).foldlM r.load a = .ok b) :
    Table.keys b.loaded = Table.keys a.loaded ++ fresh (Table.keys a.loaded) urls := by
  rw [foldlM_load_loaded (nodup_fresh _ _) (fun url hurl => (mem_fresh.1 hurl).2) h,
    Table.keys_append, Table.keys, Table.keys, List.map_map]
  simp [Function.comp_def]

/-- The new links of a file are put into the queue. -/
theorem append_newLinks (h : r.Holds url file) (queue : List String) :
    queue ++ newLinks a file = enqueue r.imports (Table.keys a.loaded) queue url := by
  rw [newLinks, h.links, enqueue]
  congr 1
  refine List.filter_congr fun other _ => ?_
  rw [Bool.eq_iff_iff]
  simp [← Table.has_iff]

/-- A queue is followed by loading what it leads to, level by level, each new url once. -/
theorem foldlM_load_of_follow : ∀ n, r.unread a ≤ n →
    Closed r.imports (Table.keys a.loaded) queue → r.follow a queue = .ok b →
    (fresh (Table.keys a.loaded) (levels r.imports n queue)).foldlM r.load a = .ok b := by
  fun_induction follow r a queue with
  | case1 a =>
    intro n _ _ h
    rw [levels_nil]
    exact h
  | case2 a url queue hloaded ih =>
    intro n hn hclosed h
    have hurl := Table.has_iff.1 hloaded
    rw [hclosed.fresh_levels_congr (fresh_cons_of_mem hurl queue)]
    exact ih n hn (hclosed.skip hurl) h
  | case3 a url queue hloaded hmissing ih =>
    intro n hn hclosed h
    have hurl := mt Table.has_iff.2 hloaded
    have himports := imports_of_missing hmissing
    rw [levels_cons_of_eq_nil himports, fresh_cons_of_notMem hurl, List.foldlM_cons, load,
      if_neg hloaded, hmissing, ← keys_loaded_add]
    refine ih n (Nat.le_trans (unread_add_le r a url none []) hn) ?_ h
    rw [keys_loaded_add]
    exact hclosed.dequeue (List.Subset.refl _) (by simp [himports])
  | case4 a url queue hloaded text hf e hread => exact fun _ _ _ h => by cases h
  | case5 a url queue hloaded text hf file warnings hread added hlt ih =>
    intro n hn hclosed h
    have hurl := mt Table.has_iff.2 hloaded
    have hholds : r.Holds url file := ⟨text, warnings, hf, hread⟩
    have hkeys : Table.keys added.loaded = Table.keys a.loaded ++ [url] := keys_loaded_add
    rw [append_newLinks hholds] at ih h
    cases n with
    | zero => exact absurd (Nat.lt_of_lt_of_le hlt hn) (Nat.not_lt_zero _)
    | succ m =>
      have hm : r.unread added ≤ m := Nat.le_of_lt_succ (Nat.lt_of_lt_of_le hlt hn)
      have hfollow := fun k (hk : m ≤ k) => ih k (Nat.le_trans hm hk) (hkeys ▸ hclosed.enqueue) h
      -- more levels list nothing more
      have hfound := fun k (hk : m ≤ k) => List.append_cancel_left <|
        (foldlM_load_keys (hfollow k hk)).symm.trans (foldlM_load_keys (hfollow m (Nat.le_refl m)))
      rw [hkeys] at hfound
      rw [hclosed.fresh_levels_cons hurl hfound, List.foldlM_cons, load, if_neg hloaded, hf]
      dsimp only
      rw [hread, ← hkeys]
      exact hfollow m (Nat.le_refl m)

/-! ## Whole analyses -/

/-- If every file has a text, then it can be read, unless it is a document that cannot be parsed. -/
theorem HasTexts.readable (htexts : r.HasTexts)
    (hparse : ∀ contents, Table.get? r.files url = some (.ok contents) →
      endsWith url Url.htmlExtension = true → ∃ d, Document.parse contents = .ok d) :
    r.Readable url := by
  intro text htext
  obtain ⟨contents, rfl⟩ := htexts url text htext
  by_cases hhtml : endsWith url Url.htmlExtension = true
  · obtain ⟨d, hd⟩ := hparse contents htext hhtml
    obtain ⟨⟨file, warnings⟩, hread⟩ := htexts.exists_readDocument url hd
    refine ⟨file, warnings, Failing.bind_eq_ok.2 ⟨contents, rfl, ?_⟩⟩
    rw [if_pos hhtml, hread]
  · refine ⟨{ url, contents }, [], Failing.bind_eq_ok.2 ⟨contents, rfl, ?_⟩⟩
    rw [if_neg hhtml]
    rfl

/-- A file that imports something can be read. -/
theorem Readable.exists_holds (h : r.Readable url) (hother : other ∈ r.imports url) :
    ∃ file, r.Holds url file := by
  cases htext : Table.get? r.files url with
  | none =>
    rw [imports_of_missing htext] at hother
    cases hother
  | some text =>
    obtain ⟨file, warnings, hread⟩ := h text htext
    exact ⟨file, text, warnings, htext, hread⟩

/-- What an import leads to is reached. -/
theorem Reaches.imports (hreadable : ∀ url, r.Reaches urls url → r.Readable url)
    (hurl : r.Reaches urls url) (hother : other ∈ r.imports url) : r.Reaches urls other := by
  obtain ⟨file, hfile⟩ := (hreadable url hurl).exists_holds hother
  rw [← hfile.links] at hother
  obtain ⟨l, hl, rfl⟩ := List.mem_map.1 hother
  exact hurl.link hfile hl

theorem reaches_of_mem_levels (hreadable : ∀ url, r.Reaches urls url → r.Readable url) :
    ∀ {n queue}, (∀ url ∈ queue, r.Reaches urls url) →
      ∀ url ∈ levels r.imports n queue, r.Reaches urls url
  | 0, _, h => h
  | n + 1, queue, h => by
    refine List.forall_mem_append.2 ⟨h, reaches_of_mem_levels hreadable fun other hother => ?_⟩
    obtain ⟨url, hurl, hother⟩ := List.mem_flatMap.1 hother
    exact (h url hurl).imports hreadable hother

/-- What is reached is on a level, by induction on the links that lead to it. -/
theorem exists_mem_levels (h : r.Reaches urls url) : ∃ n, url ∈ levels r.imports n urls := by
  induction h with
  | start hmem => exact ⟨0, hmem⟩
  | @link url file l _ hfile hl ih =>
    obtain ⟨n, hn⟩ := ih
    refine ⟨n + 1, mem_levels_succ ?_ hn⟩
    rw [← hfile.links]
    exact List.mem_map_of_mem hl

section

variable (h : r.analyze urls = .ok a) (hn : r.files.length ≤ n)

include h hn

/-- An analysis loads what is discovered, each url once. -/
theorem foldlM_load_of_analyze : (r.discovered urls n).foldlM r.load {} = .ok a := by
  have hunread : r.unread {} ≤ n := by
    refine Nat.le_trans List.countP_le_length (Nat.le_trans ?_ hn)
    rw [Table.keys, List.length_map]
  have hload := foldlM_load_of_follow n hunread (by simp [Closed, Table.keys]) h
  rwa [Table.keys, List.map_nil, nil_fresh] at hload

/-- The analysis holds exactly the files at the urls that are discovered, in their order. -/
theorem loaded_of_analyze : a.loaded = (r.discovered urls n).map fun url => (url, r.found? url) :=
  foldlM_load_loaded (nodup_eraseDups _) (by simp [Table.keys]) (foldlM_load_of_analyze h hn)

/-- The urls that were read are the ones that are discovered. -/
theorem keys_of_analyze : Table.keys a.loaded = r.discovered urls n := by
  rw [loaded_of_analyze h hn, Table.keys, List.map_map]
  exact List.map_id _

/-- What is discovered is what is reached. -/
theorem mem_discovered_iff : url ∈ r.discovered urls n ↔ r.Reaches urls url := by
  constructor
  · intro hmem
    exact reaches_of_mem_levels (exists_analyze_iff.1 ⟨a, h⟩) (fun _ => .start) url
      (List.mem_eraseDups.1 hmem)
  · intro hurl
    obtain ⟨m, hm⟩ := exists_mem_levels hurl
    have hmore := (levels_isPrefix (Nat.le_max_left m n) urls).subset hm
    rw [← keys_of_analyze h hn, keys_of_analyze h (Nat.le_trans hn (Nat.le_max_right m n))]
    exact List.mem_eraseDups.2 hmore

/-- The files of an analysis are those that stand at the urls that are reached. -/
theorem file?_of_analyze : a.file? url = some file ↔ r.Reaches urls url ∧ r.Holds url file := by
  have hnodup : (Table.keys a.loaded).Nodup := by
    rw [keys_of_analyze h hn]
    exact nodup_eraseDups _
  rw [Analysis.file?_eq_some, ← Table.mem_iff_get? hnodup, loaded_of_analyze h hn, List.mem_map,
    ← mem_discovered_iff h hn, ← found?_eq_some]
  constructor
  · rintro ⟨other, hother, heq⟩
    obtain ⟨rfl, hfound⟩ := Prod.mk.inj heq
    exact ⟨hother, hfound⟩
  · rintro ⟨hurl, hfound⟩
    exact ⟨url, hurl, by rw [hfound]⟩

/-- They are kept in the order in which they are discovered. -/
theorem urls_of_analyze : a.urls = (r.discovered urls n).filter r.exists? := by
  have hreadable := exists_analyze_iff.1 ⟨a, h⟩
  rw [Analysis.urls, Analysis.files, loaded_of_analyze h hn, Table.values, List.map_map,
    List.filterMap_map, List.map_filterMap, ← List.filterMap_eq_filter]
  refine List.filterMap_congr fun url hurl => ?_
  have hurl := (mem_discovered_iff h hn).1 hurl
  cases htext : Table.get? r.files url with
  | none => simp [found?, exists?, Table.has, htext, Option.guard]
  | some text =>
    obtain ⟨file, warnings, hread⟩ := hreadable url hurl text htext
    have hfound : r.found? url = some file := found?_eq_some.2 ⟨text, warnings, htext, hread⟩
    simp [hfound, exists?, Table.has, htext, Option.guard, readFile_url hread]

end

/-! ## Texts in memory -/

theorem get?_ofTexts (texts : Table String) (dependencyDir : Option String) (url : String) :
    Table.get? (ofTexts texts dependencyDir).files url = (Table.get? texts url).map .ok := by
  induction texts with
  | nil => rfl
  | cons entry texts ih =>
    obtain ⟨key, text⟩ := entry
    rw [ofTexts, List.map_cons, Table.get?_cons, Table.get?_cons]
    split_ifs
    · rfl
    · exact ih

/-- A root that is made of texts has a text for every file. -/
theorem hasTexts_ofTexts (texts : Table String) (dependencyDir : Option String) :
    (ofTexts texts dependencyDir).HasTexts := by
  intro url text htext
  rw [get?_ofTexts] at htext
  obtain ⟨contents, -, rfl⟩ := Option.map_eq_some_iff.1 htext
  exact ⟨contents, rfl⟩

/-- An analysis of files that have texts, of which those of documents can be parsed, comes to an
end. It has the files at the urls that are reached through imports, and no others; it loads each url
once, in the order in which a search level by level discovers it. -/
theorem exists_analyze_breadthFirst (htexts : r.HasTexts)
    (hparse : ∀ url contents, Table.get? r.files url = some (.ok contents) →
      endsWith url Url.htmlExtension = true → ∃ d, Document.parse contents = .ok d)
    (urls : List String) :
    ∃ a, r.analyze urls = .ok a ∧
      (∀ url file, a.file? url = some file ↔ r.Reaches urls url ∧ r.Holds url file) ∧
      (∀ url, url ∈ a.urls ↔ r.Reaches urls url ∧ r.exists? url = true) ∧
      ∀ n, r.files.length ≤ n →
        (r.discovered urls n).Nodup ∧ (r.discovered urls n).foldlM r.load {} = .ok a ∧
          a.urls = (r.discovered urls n).filter r.exists? := by
  have hreadable : ∀ url, r.Readable url := fun url => htexts.readable (hparse url)
  obtain ⟨a, ha⟩ := exists_analyze_iff.2 fun url (_ : r.Reaches urls url) => hreadable url
  have hlength := Nat.le_refl r.files.length
  refine ⟨a, ha, fun url file => file?_of_analyze ha hlength, fun url => ?_, fun n hn => ?_⟩
  · rw [urls_of_analyze ha hlength, List.mem_filter, mem_discovered_iff ha hlength]
  · exact ⟨nodup_eraseDups _, foldlM_load_of_analyze ha hn, urls_of_analyze ha hn⟩

/-- Two documents that import each other, one of them twice, and a script in a template. -/
def cyclicRoot : SourceRoot :=
  ofTexts [
    ("b.html", "<link rel=import href=a.html><template><script src=s.js></script></template>"),
    ("a.html", "<link rel=import href=b.html><link rel=import href=b.html>"), ("s.js", "")] none

theorem exists_analyze_breadthFirst_cyclic : cyclicRoot.HasTexts ∧
    (∀ url contents, Table.get? cyclicRoot.files url = some (.ok contents) →
      endsWith url Url.htmlExtension = true → ∃ d, Document.parse contents = .ok d) ∧
    ∃ a, cyclicRoot.analyze ["c.html", "a.html"] = .ok a ∧ a.urls = ["a.html", "b.html"] := by
  have htexts : cyclicRoot.HasTexts := hasTexts_ofTexts _ _
  have hparse : ∀ url contents, Table.get? cyclicRoot.files url = some (.ok contents) →
      endsWith url Url.htmlExtension = true → ∃ d, Document.parse contents = .ok d := by
    have hread : ∀ f ∈ cyclicRoot.files, (f.2.bind Document.parse).toBool = true := by
      decide +kernel
    intro url contents hcontents _
    have hok : (Document.parse contents).toBool = true := hread _ (Table.mem_of_get? hcontents)
    exact ⟨_, Failing.eq_ok_getD hok ⟨"", []⟩⟩
  obtain ⟨a, ha, -, -, horder⟩ := exists_analyze_breadthFirst htexts hparse ["c.html", "a.html"]
  have hfound : (cyclicRoot.discovered ["c.html", "a.html"] 3).filter cyclicRoot.exists? =
      ["a.html", "b.html"] := by
    decide +kernel
  exact ⟨htexts, hparse, a, ha, (horder 3 (by decide)).2.2.trans hfound⟩

end SourceRoot

end HtmlModules
