import HtmlModules.Pass.Pipeline
import HtmlModules.Proofs.Listing
import Mathlib.Data.List.Perm.Subperm
import Mathlib.Data.Set.Finite.Basic
import Mathlib.Logic.Relation

/-!
# Items behind what they require

While `drainQueue` runs, the items done and those in the queue are distinct, and they are just the
items whose requirements are done (`Draining`). So every item joins behind what it requires, and an
item is only left over if it requires another one that is left over. This never ends if no item
requires itself over others: there is an order if and only if there is no cycle
(`isSome_readyOrder?_iff`), and it is one in which each item comes behind what it requires
(`isOrder_of_readyOrder?`). The stages of a pipeline can always be put in order
(`Pipeline.exists_ordered`).
-/

namespace HtmlModules

namespace Pass

variable {α : Type} {requires : α → List α} {items done queue : List α} {a b : α}

/-! ## Orders -/

/-- One item requires another one, and both are there. -/
def Requires (requires : α → List α) (items : List α) (a b : α) : Prop :=
  a ∈ items ∧ b ∈ items ∧ b ∈ requires a

/-- No item requires itself, not over others either. -/
def Acyclic (requires : α → List α) (items : List α) : Prop :=
  ∀ a ∈ items, ¬Relation.TransGen (Requires requires items) a a

/-- Every item of the list comes behind those it requires. -/
def Behind (requires : α → List α) (items order : List α) : Prop :=
  ∀ before a after, order = before ++ a :: after → ∀ b ∈ items, b ∈ requires a → b ∈ before

/-- The items, each behind those it requires. -/
structure IsOrder (requires : α → List α) (items order : List α) : Prop where
  perm : order.Perm items
  behind : Behind requires items order

/-- All that the item requires is done. -/
def IsReady (requires : α → List α) (items done : List α) (a : α) : Prop :=
  ∀ b ∈ items, b ∈ requires a → b ∈ done

theorem Behind.concat (h : Behind requires items done) (ha : IsReady requires items done a) :
    Behind requires items (done ++ [a]) := by
  intro before b after heq
  rcases List.eq_nil_or_concat after with rfl | ⟨after, c, rfl⟩
  · obtain ⟨rfl, hab⟩ := List.append_inj' heq rfl
    obtain rfl := List.singleton_inj.1 hab
    exact ha
  · rw [List.concat_eq_append, ← List.cons_append, ← List.append_assoc] at heq
    exact h before b after (List.append_inj' heq rfl).1

/-- There is no cycle if each item stands higher than those it requires. -/
theorem acyclic_of_rank {rank : α → ℕ}
    (h : ∀ {a b}, Requires requires items a b → rank b < rank a) : Acyclic requires items := by
  have hchain {a b : α} (hab : Relation.TransGen (Requires requires items) a b) :
      rank b < rank a := by
    induction hab with
    | single hab => exact h hab
    | tail _ hbc ih => exact Nat.lt_trans (h hbc) ih
  exact fun a _ hcycle => Nat.lt_irrefl _ (hchain hcycle)

/-- In an order, an item is required by none in front of it. -/
theorem IsOrder.acyclic {order : List α} (h : IsOrder requires items order)
    (hdistinct : items.Nodup) : Acyclic requires items := by
  classical
  suffices h : ∀ {a b}, Requires requires items a b → order.idxOf b < order.idxOf a from
    acyclic_of_rank h
  rintro a b ⟨ha, hb, hrequires⟩
  obtain ⟨before, after, hsplit⟩ := List.append_of_mem (h.perm.mem_iff.2 ha)
  have hbefore := h.behind before a after hsplit b hb hrequires
  have hfresh : a ∉ before := fun hmem => by
    have hnodup := h.perm.nodup_iff.2 hdistinct
    rw [hsplit] at hnodup
    exact (List.nodup_append.1 hnodup).2.2 a hmem a List.mem_cons_self rfl
  rw [hsplit, List.idxOf_append_of_mem hbefore, List.idxOf_append_of_notMem hfresh]
  exact Nat.lt_of_lt_of_le (List.idxOf_lt_length_of_mem hbefore) (Nat.le_add_right _ _)

/-- The items done and those in the queue: just those whose requirements are done, each of them once
and behind what it requires. -/
structure Draining (requires : α → List α) (items done queue : List α) : Prop where
  distinct : (done ++ queue).Nodup
  mem_iff : ∀ b, b ∈ done ++ queue ↔ b ∈ items ∧ IsReady requires items done b
  behind : Behind requires items done

theorem Draining.subset (h : Draining requires items done queue) : done ⊆ items := fun b hb =>
  ((h.mem_iff b).1 (List.mem_append_left _ hb)).1

/-- Without a cycle all items get done: what an item requires comes first. -/
theorem Draining.perm (h : Draining requires items done []) (hdistinct : items.Nodup)
    (hacyclic : Acyclic requires items) : done.Perm items := by
  let precedes (a b : { a // a ∈ items }) : Prop :=
    Relation.TransGen (Requires requires items) b.1 a.1
  have : IsTrans { a // a ∈ items } precedes := ⟨fun _ _ _ hab hbc => hbc.trans hab⟩
  have : Std.Irrefl precedes := ⟨fun a => hacyclic a.1 a.2⟩
  have : Finite { a // a ∈ items } := (List.finite_toSet items).to_subtype
  have hwf : WellFounded precedes := Finite.wellFounded_of_trans_of_irrefl precedes
  have hdone (a : { a // a ∈ items }) : a.1 ∈ done := by
    induction a using hwf.induction with
    | _ a ih =>
      have hready : IsReady requires items done a.1 := fun b hb hrequires =>
        ih ⟨b, hb⟩ (.single ⟨a.2, hb, hrequires⟩)
      simpa using (h.mem_iff a.1).2 ⟨a.2, hready⟩
  have hnodup : done.Nodup := by simpa using h.distinct
  exact (List.perm_ext_iff_of_nodup hnodup hdistinct).2 fun b =>
    ⟨fun hb => h.subset hb, fun hb => hdone ⟨b, hb⟩⟩

/-! ## Counting what is done -/

section Count

variable [BEq α] [LawfulBEq α]

/-- An item without open requirements is ready at the start. -/
theorem requirementCount_eq_zero_iff :
    requirementCount requires items a = 0 ↔ IsReady requires items [] a := by
  rw [requirementCount, List.countP_eq_zero]
  simp only [List.mem_eraseDups, List.contains_iff_mem]
  exact forall₂_congr fun b _ => by simp

/-- As many items are done as are required if and only if all that are required are done. -/
theorem doneCount_eq_iff (hdistinct : done.Nodup) (hdone : done ⊆ items) :
    doneCount requires done a = requirementCount requires items a ↔
      IsReady requires items done a := by
  have hfilter : (done.filter (requires a).contains).Subperm
      ((List.eraseDups items).filter (requires a).contains) := by
    refine (hdistinct.filter _).subperm fun b hb => ?_
    rw [List.mem_filter] at hb ⊢
    exact ⟨List.mem_eraseDups.2 (hdone hb.1), hb.2⟩
  rw [doneCount, requirementCount, List.countP_eq_length_filter, List.countP_eq_length_filter]
  constructor
  · intro hlength b hb hrequires
    have hperm := hfilter.perm_of_length_le hlength.ge
    have hmem : b ∈ (List.eraseDups items).filter (requires a).contains :=
      List.mem_filter.2 ⟨List.mem_eraseDups.2 hb, List.contains_iff_mem.2 hrequires⟩
    exact (List.mem_filter.1 (hperm.mem_iff.2 hmem)).1
  · intro hready
    refine Nat.le_antisymm hfilter.length_le (List.Subperm.length_le ?_)
    refine ((nodup_eraseDups items).filter _).subperm fun b hb => ?_
    rw [List.mem_filter] at hb ⊢
    exact ⟨hready b (List.mem_eraseDups.1 hb.1) (List.contains_iff_mem.1 hb.2), hb.2⟩

/-- What is readied by an item requires it, and is ready when it is done. -/
theorem mem_readied_iff (hdistinct : (done ++ [a]).Nodup) (hdone : done ++ [a] ⊆ items) :
    b ∈ readied requires items done a ↔
      b ∈ items ∧ a ∈ requires b ∧ IsReady requires items (done ++ [a]) b := by
  rw [readied, List.mem_filter, List.mem_eraseDups, Bool.and_eq_true, List.contains_iff_mem, beq_iff_eq,
    doneCount_eq_iff hdistinct hdone]

/-! ## Draining the queue -/

namespace Draining

/-- At the start the queue holds what requires nothing. -/
theorem start (hdistinct : items.Nodup) :
    Draining requires items [] (items.filter fun a => requirementCount requires items a == 0) where
  distinct := hdistinct.filter _
  mem_iff b := by
    rw [List.nil_append, List.mem_filter, beq_iff_eq, requirementCount_eq_zero_iff]
  behind := fun before a after heq => by simp at heq

/-- The first item of the queue is done, and those that become ready join the queue. -/
theorem step (h : Draining requires items done (a :: queue)) :
    Draining requires items (done ++ [a]) (queue ++ readied requires items done a) := by
  have hsplit : done ++ a :: queue = done ++ [a] ++ queue := List.append_cons done a queue
  have hdistinct := h.distinct
  rw [hsplit] at hdistinct
  have hdone : (done ++ [a]).Nodup := (List.nodup_append.1 hdistinct).1
  have hfresh : a ∉ done := fun hmem =>
    (List.nodup_append.1 hdone).2.2 a hmem a (List.mem_singleton_self a) rfl
  have hmem (b : α) : b ∈ done ++ [a] ++ queue ↔ b ∈ items ∧ IsReady requires items done b := by
    rw [← hsplit, h.mem_iff]
  have hitems : done ++ [a] ⊆ items := fun b hb => ((hmem b).1 (List.mem_append_left _ hb)).1
  have ha : a ∈ items ∧ IsReady requires items done a := (hmem a).1 (by simp)
  refine ⟨?_, fun b => ?_, h.behind.concat ha.2⟩
  · rw [← List.append_assoc]
    -- What requires `a` was not ready before, so it joins the queue for the first time.
    refine List.nodup_append.2 ⟨hdistinct, (nodup_eraseDups items).filter _, ?_⟩
    rintro b hb _ hb' rfl
    exact hfresh (((hmem b).1 hb).2 a ha.1 ((mem_readied_iff hdone hitems).1 hb').2.1)
  · rw [← List.append_assoc, List.mem_append, hmem, mem_readied_iff hdone hitems]
    constructor
    · rintro (⟨hb, hready⟩ | ⟨hb, -, hready⟩)
      · exact ⟨hb, fun c hc hrequires => List.mem_append_left _ (hready c hc hrequires)⟩
      · exact ⟨hb, hready⟩
    · rintro ⟨hb, hready⟩
      by_cases hrequires : a ∈ requires b
      · exact Or.inr ⟨hb, hrequires, hready⟩
      · refine Or.inl ⟨hb, fun c hc hcb => ?_⟩
        refine (List.mem_append.1 (hready c hc hcb)).resolve_right fun hca => hrequires ?_
        exact List.mem_singleton.1 hca ▸ hcb

/-- With enough fuel, what is drained is done and leaves nothing in the queue. -/
theorem drain : ∀ {fuel : ℕ} {done queue : List α}, Draining requires items done queue →
    items.length ≤ fuel + done.length →
    Draining requires items (drainQueue requires items fuel done queue) []
  | 0, done, queue, h, hfuel => by
    have hlength := (h.distinct.subperm fun b hb => ((h.mem_iff b).1 hb).1).length_le
    rw [List.length_append] at hlength
    obtain rfl : queue = [] := List.length_eq_zero_iff.1 (by omega)
    exact h
  | fuel + 1, done, [], h, _ => h
  | fuel + 1, done, a :: queue, h, hfuel => by
    rw [drainQueue]
    refine drain h.step ?_
    rw [List.length_append, List.length_singleton]
    omega

end Draining

/-! ## The order -/

/-- After as many steps as there are items the queue is empty. -/
theorem draining_drainQueue (hdistinct : items.Nodup) :
    Draining requires items (drainQueue requires items items.length []
      (items.filter fun a => requirementCount requires items a == 0)) [] :=
  (Draining.start hdistinct).drain (Nat.le_add_right _ _)

/-- An order is one in which each item comes behind what it requires. -/
theorem isOrder_of_readyOrder? (hdistinct : items.Nodup) {order : List α}
    (h : readyOrder? requires items = some order) : IsOrder requires items order := by
  have hdrained : Draining requires items _ [] := draining_drainQueue hdistinct
  rw [readyOrder?] at h
  split_ifs at h with hlength
  obtain rfl := Option.some.inj h
  have hnodup := (List.nodup_append.1 hdrained.distinct).1
  exact ⟨(hnodup.subperm hdrained.subset).perm_of_length_le hlength.ge, hdrained.behind⟩

/-- There is an order if and only if there is no cycle. -/
theorem isSome_readyOrder?_iff (hdistinct : items.Nodup) :
    (readyOrder? requires items).isSome ↔ Acyclic requires items := by
  constructor
  · intro h
    obtain ⟨order, horder⟩ := Option.isSome_iff_exists.1 h
    exact (isOrder_of_readyOrder? hdistinct horder).acyclic hdistinct
  · intro hacyclic
    have hperm := (draining_drainQueue hdistinct).perm hdistinct hacyclic
    rw [readyOrder?, if_pos hperm.length_eq]
    rfl

/-- Distinct items can be ordered if and only if no item requires itself over others, and then each of
them comes once and behind what it requires, as far as that is among the items. -/
theorem readyOrder?_topological (hdistinct : items.Nodup) :
    ((readyOrder? requires items).isSome ↔ Acyclic requires items) ∧
      ∀ order, readyOrder? requires items = some order → IsOrder requires items order :=
  ⟨isSome_readyOrder?_iff hdistinct, fun _ => isOrder_of_readyOrder? hdistinct⟩

/-- Stages out of order; what the last one requires is not among them. -/
theorem readyOrder?_topological_stages :
    readyOrder? Stage.requires [.unwrap, .globalThis, .finish, .exportNamespaces] =
        some [.globalThis, .finish, .exportNamespaces, .unwrap] ∧
      [Stage.unwrap, .globalThis, .finish, .exportNamespaces].Nodup ∧
      Acyclic Stage.requires [.unwrap, .globalThis, .finish, .exportNamespaces] ∧
      IsOrder Stage.requires [.unwrap, .globalThis, .finish, .exportNamespaces]
        [.globalThis, .finish, .exportNamespaces, .unwrap] := by
  have horder : readyOrder? Stage.requires [.unwrap, .globalThis, .finish, .exportNamespaces] =
      some [.globalThis, .finish, .exportNamespaces, .unwrap] := by decide
  have hdistinct : [Stage.unwrap, .globalThis, .finish, .exportNamespaces].Nodup := by decide
  have hsome : (readyOrder? Stage.requires
      [.unwrap, .globalThis, .finish, .exportNamespaces]).isSome := by rw [horder]; rfl
  exact ⟨horder, hdistinct, (readyOrder?_topological hdistinct).1.1 hsome,
    (readyOrder?_topological hdistinct).2 _ horder⟩

end Count

end Pass

/-! ## Pipelines -/

/-- How far a stage is from the first one. -/
def Stage.rank : Stage → Nat
  | .globalThis => 0
  | .unwrap => 1
  | .inlineTemplates => 2
  | .collectReferences => 3
  | .exportNamespaces => 4
  | .namespaceThis => 5
  | .substitutePaths => 6
  | .insertMarkup => 7
  | .bindImports => 8
  | .reportHazards => 9
  | .finish => 10

/-- A stage has a higher rank than those it requires. -/
theorem Stage.rank_lt {a b : Stage} (h : b ∈ a.requires) : b.rank < a.rank := by
  cases a <;> cases b <;> revert h <;> decide

/-- Distinct stages can be put in order, whichever they are. -/
theorem Pipeline.exists_ordered {p : Pipeline} (h : p.Nodup) :
    ∃ stages, p.ordered? = some stages ∧ Pass.IsOrder Stage.requires p stages := by
  have hacyclic : Pass.Acyclic Stage.requires p :=
    Pass.acyclic_of_rank fun hab => Stage.rank_lt hab.2.2
  obtain ⟨stages, hstages⟩ := Option.isSome_iff_exists.1 ((Pass.isSome_readyOrder?_iff h).2 hacyclic)
  exact ⟨stages, hstages, Pass.isOrder_of_readyOrder? h hstages⟩

end HtmlModules
