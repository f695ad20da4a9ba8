import HtmlModules.Proofs.Unwrapping

/-!
# Names that wrappers bring to the top level

A round compares the names that the body of a wrapper declares, with the `var`s in its blocks and
loops, with those that the bodies of the wrappers opened before declare (`Fate.names`) and with those
that the other statements of the program declare where they stand (`statementNames`). A wrapper is
opened just if it has none of them (`Pass.getElem?_fates_iff`). So no two bodies that are opened
declare a name in common. But the `var`s in the blocks and loops of another statement, and the name of
a default export, are not compared: a body may declare these too, and no other names of a statement
(`Pass.unwrapRound_declares`). Then two bindings become one (`Pass.exists_mergesName`).
-/

namespace HtmlModules

open Text Script

namespace Script.Node

/-! ## Names at the level of a function -/

/-- The names of the `var`s in the blocks and loops of a statement. Those in a function or a class do
not belong to the level of the statement. -/
def nestedVars (s : Node) : List String :=
  if s.kind.isFunction || s.kind.isClass then [] else s.hoistedNames

/-- The names that statements declare in the function whose body they are. -/
def declaredNames (ss : List Node) : List String :=
  ss.flatMap fun s => s.statementNames ++ s.nestedVars

/-- The name that a default export declares. -/
def defaultNames (s : Node) : List String :=
  match s.kind with
  | .exportDefaultDeclaration => ((s.child? .declaration).map plainStatementNames).getD []
  | _ => []

/-- The names that a statement of a program declares in the program. -/
def topNames (s : Node) : List String := s.statementNames ++ (s.nestedVars ++ s.defaultNames)

/-- A variable below a statement is hoisted out of it. -/
theorem nestedVars_subset (s : Node) : s.nestedVars ⊆ s.hoistedNames := by
  unfold nestedVars
  split_ifs
  · exact List.nil_subset _
  · exact List.Subset.refl _

/-- What statements declare by themselves is in their scope. -/
theorem declaredNames_subset (ss : List Node) : declaredNames ss ⊆ scopeNames ss := by
  intro name hname
  rw [scopeNames, List.mem_eraseDups]
  obtain ⟨s, hs, hname⟩ := List.mem_flatMap.1 hname
  refine List.mem_flatMap.2 ⟨s, hs, List.mem_append.2 ?_⟩
  exact (List.mem_append.1 hname).imp_right fun hnested => nestedVars_subset s hnested

end Script.Node

namespace Pass

open Node

variable {source : String} {program : Node}

/-! ## Statements in their places -/

/-- The members of a list apart from one of them stand in front of it or behind it. -/
theorem mem_take_or_drop_iff {α : Type} {l : List α} {i : Nat} {a : α} :
    a ∈ l.take i ∨ a ∈ l.drop (i + 1) ↔ ∃ j, j ≠ i ∧ l[j]? = some a := by
  simp only [List.mem_iff_getElem?, List.getElem?_take, List.getElem?_drop]
  constructor
  · rintro (⟨j, hj⟩ | ⟨j, hj⟩)
    · split_ifs at hj with hlt
      exact ⟨j, hlt.ne, hj⟩
    · exact ⟨i + 1 + j, by omega, hj⟩
  · rintro ⟨j, hne, hj⟩
    rcases Nat.lt_or_gt_of_ne hne with hlt | hgt
    · exact .inl ⟨j, by rw [if_pos hlt, hj]⟩
    · exact .inr ⟨j - (i + 1), by rw [Nat.add_sub_cancel' hgt, hj]⟩

/-- A list shares nothing with the parts of another one if it shares nothing with any of them. -/
theorem disjoint_flatMap_right {α β : Type} {l : List β} {f : α → List β} {as : List α} :
    l.Disjoint (as.flatMap f) ↔ ∀ a ∈ as, l.Disjoint (f a) := by
  simp only [List.disjoint_right, List.mem_flatMap]
  exact ⟨fun h a ha b hb => h ⟨a, ha, hb⟩, fun h b ⟨a, ha, hb⟩ => h a ha hb⟩

/-- What is done with a statement depends on the names of the bodies that have been opened in front
of it and on those of the statements around it. -/
theorem getElem?_fatesFrom :
    ∀ (statements : List Node) (before claimed : List String) (i : Nat),
      (fatesFrom before claimed statements)[i]? = statements[i]?.map fun s =>
        (s, Fate.of ((claimed ++
            ((fatesFrom before claimed statements).take i).flatMap (·.2.names)) ++
          (before ++ (statements.take i).flatMap (·.statementNames) ++
            (statements.drop (i + 1)).flatMap (·.statementNames))) s)
  | [], _, _, _ => rfl
  | s :: rest, before, claimed, 0 => by simp [fatesFrom]
  | s :: rest, before, claimed, i + 1 => by
    rw [fatesFrom, List.getElem?_cons_succ, getElem?_fatesFrom rest, List.getElem?_cons_succ]
    simp only [List.take_succ_cons, List.drop_succ_cons, List.flatMap_cons, List.append_assoc]

/-- A wrapper is opened if it is removable and no name of its scope is taken. -/
theorem Fate.of_eq_opened_iff {taken : List String} {s f : Node} :
    Fate.of taken s = .opened f ↔ s.isUseStrict = false ∧ removableWrapper? s = some f ∧
      (scopeNames f.bodyStatements).Disjoint taken := by
  unfold Fate.of
  cases s.isUseStrict with
  | true => simp
  | false =>
    cases removableWrapper? s with
    | none => simp
    | some g =>
      have hshared : (scopeNames g.bodyStatements).any taken.contains = true ↔
          ¬(scopeNames g.bodyStatements).Disjoint taken := by
        simp [List.Disjoint]
      simp only [Bool.false_eq_true, if_false, true_and, Option.some.injEq]
      split_ifs with hany
      · simp only [false_iff]
        rintro ⟨rfl, hdisjoint⟩
        exact hshared.1 hany hdisjoint
      · rw [Fate.opened.injEq]
        exact ⟨fun h => ⟨h, h ▸ not_not.1 (mt hshared.2 hany)⟩, fun h => h.1⟩

/-- When a round opens a wrapper: no other statement declares, where it stands, a name of the body, and
no body that is opened before declares one. -/
structure Opens (program : Node) (i : Nat) (s f : Node) : Prop where
  statement : (statements program)[i]? = some s
  notStrict : s.isUseStrict = false
  wrapper : removableWrapper? s = some f
  statementNames : ∀ j ≠ i, ∀ t, (statements program)[j]? = some t →
    (scopeNames f.bodyStatements).Disjoint t.statementNames
  bodyNames : ∀ j < i, ∀ x, (fates program)[j]? = some x →
    (scopeNames f.bodyStatements).Disjoint x.2.names

/-- What a round does with the statement at a place. -/
theorem getElem?_fates (program : Node) (i : Nat) :
    (fates program)[i]? = (statements program)[i]?.map fun s =>
      (s, Fate.of (((fates program).take i).flatMap (·.2.names) ++
        (((statements program).take i).flatMap (·.statementNames) ++
          ((statements program).drop (i + 1)).flatMap (·.statementNames))) s) :=
  getElem?_fatesFrom (statements program) [] [] i

/-- A round opens the wrappers that it is to open. -/
theorem getElem?_fates_iff {i : Nat} {s f : Node} :
    (fates program)[i]? = some (s, .opened f) ↔ Opens program i s f := by
  rw [getElem?_fates, Option.map_eq_some_iff]
  simp only [Prod.mk.injEq, Fate.of_eq_opened_iff, List.disjoint_append_right,
    disjoint_flatMap_right]
  constructor
  · rintro ⟨_, hs, rfl, hstrict, hwrapper, hbodies, hbefore, hbehind⟩
    refine ⟨hs, hstrict, hwrapper, fun j hne t ht => ?_, fun j hlt x hx => ?_⟩
    · exact (mem_take_or_drop_iff.2 ⟨j, hne, ht⟩).elim (hbefore t) (hbehind t)
    · exact hbodies x (List.mem_iff_getElem?.2 ⟨j, by rw [List.getElem?_take, if_pos hlt, hx]⟩)
  · rintro ⟨hs, hstrict, hwrapper, hstatements, hbodies⟩
    have hothers (t : Node) (ht : t ∈ (statements program).take i ∨
        t ∈ (statements program).drop (i + 1)) :
        (scopeNames f.bodyStatements).Disjoint t.statementNames := by
      obtain ⟨j, hne, ht⟩ := mem_take_or_drop_iff.1 ht
      exact hstatements j hne t ht
    refine ⟨s, hs, rfl, hstrict, hwrapper, fun x hx => ?_, fun t ht => hothers t (.inl ht),
      fun t ht => hothers t (.inr ht)⟩
    obtain ⟨j, hj⟩ := List.mem_iff_getElem?.1 hx
    rw [List.getElem?_take] at hj
    split_ifs at hj with hlt
    exact hbodies j hlt x hj

/-! ## What the bodies declare -/

/-- Two bodies that are opened declare no name in common. -/
theorem Opens.disjoint {i j : Nat} {s f t g : Node} (hf : Opens program i s f)
    (hg : Opens program j t g) (hne : i ≠ j) :
    (declaredNames f.bodyStatements).Disjoint (declaredNames g.bodyStatements) := by
  have hbefore {i j : Nat} {s f t g : Node} (hf : Opens program i s f) (hg : Opens program j t g)
      (hlt : j < i) :
      (declaredNames f.bodyStatements).Disjoint (declaredNames g.bodyStatements) := by
    have h := hf.bodyNames j hlt _ (getElem?_fates_iff.2 hg)
    exact List.disjoint_of_subset_left (declaredNames_subset _)
      (List.disjoint_of_subset_right (declaredNames_subset _) h)
  rcases Nat.lt_or_gt_of_ne hne with hlt | hgt
  · exact List.disjoint_symm (hbefore hg hf hlt)
  · exact hbefore hf hg hgt

/-- The statement is opened, and the body declares the name. -/
def opensWith (name : String) : Fate → Bool
  | .opened f => (declaredNames f.bodyStatements).contains name
  | _ => false

theorem exists_opens {i : Nat} {name : String}
    (h : ((fates program)[i]?.any fun x => opensWith name x.2) = true) :
    ∃ s f, Opens program i s f ∧ name ∈ declaredNames f.bodyStatements := by
  obtain ⟨⟨s, fate⟩, hx, h⟩ := (Option.any_eq_true _ _).1 h
  cases fate with
  | opened f => exact ⟨s, f, getElem?_fates_iff.1 hx, List.contains_iff_mem.1 h⟩
  | dropped | kept => cases h

/-- The edits of a round open just the wrappers that declare no name of another statement, where that
stands, and no name of a body that is opened before. A name that a body declares is declared by no
other body that is opened. Another statement declares it just if it is the name of a `var` in a block or
a loop of the statement, or the statement exports it by default. -/
theorem unwrapRound_declares (source : String) (program : Node) :
    (unwrapRound source program).edits = (fates program).flatMap (fun x => x.2.edits source x.1) ∧
      (fates program).map Prod.fst = statements program ∧
      (∀ i s f, (fates program)[i]? = some (s, .opened f) ↔ Opens program i s f) ∧
      ∀ i s f, Opens program i s f → ∀ name ∈ declaredNames f.bodyStatements,
        (∀ j ≠ i, ∀ t g, Opens program j t g → name ∉ declaredNames g.bodyStatements) ∧
        ∀ j ≠ i, ∀ t, (statements program)[j]? = some t →
          (name ∈ t.topNames ↔ name ∈ t.nestedVars ∨ name ∈ t.defaultNames) := by
  refine ⟨unwrapRound_edits_eq source program, map_fst_fatesFrom _ _ _,
    fun i s f => getElem?_fates_iff, fun i s f hf name hname =>
      ⟨fun j hne t g hg => hf.disjoint hg hne.symm hname, fun j hne t ht => ?_⟩⟩
  have hstands : name ∉ t.statementNames :=
    hf.statementNames j hne t ht (declaredNames_subset _ hname)
  rw [topNames, List.mem_append, List.mem_append, or_iff_right hstands]

/-- Two wrappers in front of a declaration. -/
def wrappersBeforeVar : String :=
  "(function() \x7b if (a) \x7b var x; \x7d \x7d)(); (function() \x7b let y; \x7d)(); var z;"

theorem unwrapRound_declares_wrappersBeforeVar : ∃ program s f t g,
    Script.parse wrappersBeforeVar = .ok program ∧ Opens program 0 s f ∧ Opens program 1 t g ∧
      "x" ∈ declaredNames f.bodyStatements ∧ "x" ∉ declaredNames g.bodyStatements ∧
      ∃ u, (statements program)[2]? = some u ∧
        ("x" ∈ u.topNames ↔ "x" ∈ u.nestedVars ∨ "x" ∈ u.defaultNames) := by
  obtain ⟨program, hparse, h⟩ := @exists_parse wrappersBeforeVar (fun program =>
    ((fates program)[0]?.any fun x => opensWith "x" x.2) &&
      ((fates program)[1]?.any fun x => opensWith "y" x.2) &&
      (statements program)[2]?.isSome) (by decide +kernel)
  simp only [Bool.and_eq_true, Option.isSome_iff_exists] at h
  obtain ⟨⟨hfirst, hsecond⟩, u, hu⟩ := h
  obtain ⟨s, f, hf, hx⟩ := exists_opens hfirst
  obtain ⟨t, g, hg, -⟩ := exists_opens hsecond
  obtain ⟨-, -, -, hnames⟩ := unwrapRound_declares wrappersBeforeVar program
  obtain ⟨hbodies, hstatements⟩ := hnames 0 s f hf "x" hx
  exact ⟨program, s, f, t, g, hparse, hf, hg, hx, hbodies 1 (by decide) t g hg, u, hu,
    hstatements 2 (by decide) u hu⟩

/-! ## Names that are merged -/

/-- A round over the program opens a wrapper whose body declares the name, and another statement of the
program declares it too. -/
def MergesName (source name : String) : Prop :=
  ∃ (program : Node) (i j : Nat) (s f t : Node), Script.parse source = .ok program ∧
    (fates program)[i]? = some (s, .opened f) ∧ name ∈ declaredNames f.bodyStatements ∧
    j ≠ i ∧ (statements program)[j]? = some t ∧ name ∈ t.topNames

/-- The test of a program shows that two declarations of a name are merged. -/
theorem mergesName {source name : String} {i j : Nat} (hne : j ≠ i)
    (h : (Script.parse source).toOption.any (fun program =>
      ((fates program)[i]?.any fun x => opensWith name x.2) &&
        (statements program)[j]?.any fun t => t.topNames.contains name) = true) :
    MergesName source name := by
  obtain ⟨program, hparse, h⟩ := exists_parse h
  obtain ⟨hopens, hdeclares⟩ := Bool.and_eq_true_iff.1 h
  obtain ⟨s, f, hf, hname⟩ := exists_opens hopens
  obtain ⟨t, ht, hdeclares⟩ := (Option.any_eq_true _ _).1 hdeclares
  exact ⟨program, i, j, s, f, t, hparse, getElem?_fates_iff.2 hf, hname, hne, ht,
    List.contains_iff_mem.1 hdeclares⟩

/-- A loop or a block behind the wrapper declares the variable of the body, or a default export does.
-/
theorem exists_mergesName :
    MergesName "(function() \x7b\n  var i = 1;\n\x7d)();\nfor (var i = 0; i < 3; i++) \x7b\x7d" "i" ∧
      MergesName "(function() \x7b var x = 1; \x7d)();\nif (a) \x7b var x = 2; \x7d" "x" ∧
      MergesName "(function() \x7b var f = 1; \x7d)();\nexport default function f() \x7b\x7d" "f" := by
  refine ⟨mergesName (i := 0) (j := 1) (by decide) ?_, mergesName (i := 0) (j := 1) (by decide) ?_,
    mergesName (i := 0) (j := 1) (by decide) ?_⟩ <;> decide +kernel

end Pass

end HtmlModules
