import HtmlModules.Proofs.Capture

/-!
# Excluded paths that are written to

An excluded path becomes `undefined`, unless it is written to. What a node writes to is a chain of
properties, or a pattern of such chains, and the head of a loop writes too. If an assignment or an update
writes to a chain that spells a path, then no part of the chain becomes `undefined`. In every other
target the outermost chain that spells a path is treated as if it was only read: its longest part that
has a substitute becomes `undefined` if it is excluded (`Pass.excluded_in_target_iff`). So the program
may write to a property of `undefined`, or to `undefined` itself (`Pass.exists_undefined_written`).
-/

namespace HtmlModules

open Text Script

/-! ## Joined segments -/

/-- To join with one more segment puts the separator and the segment at the end. -/
theorem join_concat (sep last : String) :
    ∀ {segments : List String}, segments ≠ [] →
      join sep (segments ++ [last]) = join sep segments ++ sep ++ last
  | [s], _ => rfl
  | s :: t :: rest, _ => by
    rw [List.cons_append, List.cons_append, Pass.join_cons_cons, ← List.cons_append,
      join_concat sep last (List.cons_ne_nil t rest), Pass.join_cons_cons]
    simp only [String.append_assoc]

/-- More segments of a path make a longer text. -/
theorem length_join_take_lt {sep : String} (hsep : 0 < sep.length) {segments : List String}
    {i j : Nat} (hi : 0 < i) (hij : i < j) (hj : j ≤ segments.length) :
    (join sep (segments.take i)).length < (join sep (segments.take j)).length := by
  have hstep {k : Nat} (hk : 0 < k) (hlt : k < segments.length) :
      (join sep (segments.take k)).length < (join sep (segments.take (k + 1))).length := by
    have hne : segments.take k ≠ [] := by
      rw [← List.length_pos_iff, List.length_take]
      omega
    rw [List.take_succ_eq_append_getElem hlt, join_concat _ _ hne]
    simp only [String.length_append]
    omega
  induction j, hij using Nat.le_induction with
  | base => exact hstep hi (by omega)
  | succ k hk ih => exact (ih (by omega)).trans (hstep (by omega) (by omega))

namespace Script.Node

/-! ## Patterns -/

/-- The node is a pattern, or a part of one that is not written to itself. -/
def isPattern (n : Node) : Bool :=
  match n.kind with
  | .objectPattern | .property .. | .arrayPattern | .assignmentPattern | .restElement => true
  | _ => false

theorem memberPath?_of_isPattern {n : Node} (h : n.isPattern = true) : n.memberPath? = none :=
  memberPath?_of_kind fun computed hkind => by simp [isPattern, hkind] at h

theorem isAssigned_of_isPattern {p n : Node} (h : p.isPattern = true) :
    n.isAssigned (some p) = false := by
  unfold isAssigned
  rw [Option.map_some]
  split
  · next hkind => simp [isPattern, Option.some.inj hkind] at h
  · next hkind => simp [isPattern, Option.some.inj hkind] at h
  · rfl

/-- What a node writes to is inside one of its children, and that is assigned to unless the node is a
loop. -/
theorem exists_of_mem_targets {n t : Node} (ht : t ∈ n.targets) :
    ∃ m ∈ n.children, t ∈ patternTargets m ∧ n.memberPath? = none ∧
      (n.writeTarget? = some m ∧ m.isAssigned (some n) = true ∨
        n.writeTarget? = none ∧ m.isAssigned (some n) = false) := by
  have hchild {role : Role} (ht : t ∈ ((n.child? role).map patternTargets).getD []) :
      ∃ m ∈ n.children, m.role = role ∧ n.child? role = some m ∧ t ∈ patternTargets m := by
    cases hm : n.child? role with
    | none => simp [hm] at ht
    | some m =>
      exact ⟨m, List.mem_of_find?_eq_some hm, by simpa using List.find?_some hm, rfl,
        by simpa [hm] using ht⟩
  unfold targets at ht
  split at ht
  · next hkind =>
    obtain ⟨m, hm, hrole, hleft, ht⟩ := hchild ht
    exact ⟨m, hm, ht, memberPath?_of_kind (by simp [hkind]), Or.inl
      ⟨by simp [writeTarget?, hkind, hleft], by simp [isAssigned, hkind, hrole]⟩⟩
  · next hkind =>
    obtain ⟨m, hm, -, -, ht⟩ := hchild ht
    exact ⟨m, hm, ht, memberPath?_of_kind (by simp [hkind]), Or.inr
      ⟨by simp [writeTarget?, hkind], by simp [isAssigned, hkind]⟩⟩
  · next hkind =>
    obtain ⟨m, hm, -, -, ht⟩ := hchild ht
    exact ⟨m, hm, ht, memberPath?_of_kind (by simp [hkind]), Or.inr
      ⟨by simp [writeTarget?, hkind], by simp [isAssigned, hkind]⟩⟩
  · next hkind =>
    obtain ⟨m, hm, hrole, hargument, ht⟩ := hchild ht
    exact ⟨m, hm, ht, memberPath?_of_kind (by simp [hkind]), Or.inl
      ⟨by simp [writeTarget?, hkind, hargument], by simp [isAssigned, hkind, hrole]⟩⟩
  · cases ht

end Script.Node

namespace Pass

open Node

/-! ## Where substitution comes to -/

/-- The nodes that substitution comes to, each with its parent. -/
def reached (program : Node) : List (Option Node × Node) :=
  program.outline (·.memberPath?.isNone) none

variable {program : Node}

/-- Whatever is reached is a place where a chain may be replaced. -/
theorem exists_mem_chains {x : Option Node × Node} (h : x ∈ reached program) :
    ∃ o ∈ chains program, o.parent = x.1 ∧ o.node = x.2 := by
  rw [reached, ← map_occurrences _ program []] at h
  obtain ⟨o, ho, rfl⟩ := List.mem_map.1 h
  exact ⟨o, ho, rfl, rfl⟩

/-- The children of what is reached, and is no path, are reached. -/
theorem child_mem_reached {parent : Option Node} {n c : Node} (hn : (parent, n) ∈ reached program)
    (hpath : n.memberPath? = none) (hc : c ∈ n.children) : (some n, c) ∈ reached program :=
  child_mem_outline hc (by rw [hpath]; rfl) hn

mutual

/-- Substitution comes to everything that a pattern writes to. -/
theorem exists_reached_target {t : Node} : ∀ {m : Node} {parent : Option Node},
    (parent, m) ∈ reached program → t ∈ patternTargets m →
      t.isPattern = false ∧ (t = m ∨ m.isPattern = true ∧
        ∃ q, q.isPattern = true ∧ (some q, t) ∈ reached program)
  | mk r k s cs, parent, hm, ht => by
    have hbelow (h : (mk r k s cs).isPattern = true) {role : Role}
        (ht : t ∈ patternTargetsIn role cs) := exists_reached_targetIn h
      (fun c hc => child_mem_reached hm (memberPath?_of_isPattern h) hc) ht
    cases k with
    | objectPattern | property | arrayPattern | assignmentPattern | restElement =>
      rw [patternTargets] at ht
      obtain ⟨hplain, hparent⟩ := hbelow rfl ht
      exact ⟨hplain, Or.inr ⟨rfl, hparent⟩⟩
    | variableDeclaration => simp [patternTargets] at ht
    | _ =>
      simp only [patternTargets, List.mem_singleton] at ht
      exact ⟨by rw [ht]; rfl, Or.inl ht⟩

/-- A target inside a pattern that is reached is reached, and is no pattern itself. -/
theorem exists_reached_targetIn {t q : Node} (hq : q.isPattern = true) {role : Role} :
    ∀ {ns : List Node}, (∀ c ∈ ns, (some q, c) ∈ reached program) → t ∈ patternTargetsIn role ns →
      t.isPattern = false ∧ ∃ q, q.isPattern = true ∧ (some q, t) ∈ reached program
  | n :: ns, hns, ht => by
    obtain ⟨hn, hrest⟩ := List.forall_mem_cons.1 hns
    rw [patternTargetsIn] at ht
    rcases List.mem_append.1 ht with ht | ht
    · split_ifs at ht
      · obtain ⟨hplain, rfl | ⟨-, hparent⟩⟩ := exists_reached_target hn ht
        · exact ⟨hplain, q, hq, hn⟩
        · exact ⟨hplain, hparent⟩
      · cases ht
    · exact exists_reached_targetIn hq hrest ht

end

/-- What a node writes to counts as assigned to exactly if the node is an assignment or an update and
there is no pattern around the target. -/
theorem exists_reached_isAssigned {x : Option Node × Node} {t : Node} (hx : x ∈ reached program)
    (ht : t ∈ x.2.targets) :
    ∃ q, (q, t) ∈ reached program ∧ (t.isAssigned q = true ↔ x.2.writeTarget? = some t) := by
  obtain ⟨m, hm, ht, hpath, hplace⟩ := exists_of_mem_targets ht
  have hreached : (some x.2, m) ∈ reached program := child_mem_reached hx hpath hm
  obtain ⟨hplain, rfl | ⟨hpattern, q, hq, hinner⟩⟩ := exists_reached_target hreached ht
  · refine ⟨some x.2, hreached, ?_⟩
    rcases hplace with ⟨hwrite, hassigned⟩ | ⟨hwrite, hassigned⟩ <;> simp [hwrite, hassigned]
  · refine ⟨some q, hinner, ?_⟩
    have hne : t ≠ m := fun h => by simp [h, hpattern] at hplain
    rcases hplace with ⟨hwrite, -⟩ | ⟨hwrite, -⟩ <;>
      simp [hwrite, isAssigned_of_isPattern hq, hne.symm]

/-- Substitution comes to the outermost chain in a node that spells a path. It counts as assigned to if
it is the node itself and that does. -/
theorem exists_reached_chainBase :
    ∀ {k : Nat} {t : Node} {parent : Option Node}, (parent, t) ∈ reached program →
      (∀ j < k, (t.chainBase j).memberPath? = none) → (t.chainBase k).memberPath?.isSome = true →
      ∃ q, (q, t.chainBase k) ∈ reached program ∧
        ((t.chainBase k).isAssigned q = true ↔ k = 0 ∧ t.isAssigned parent = true)
  | 0, t, parent, ht, _, _ => ⟨parent, ht, by simp [chainBase]⟩
  | k + 1, t, parent, ht, hshorter, hpath => by
    have hnone : t.memberPath? = none := hshorter 0 (Nat.succ_pos k)
    cases hobject : t.child? .object with
    | none => simp [chainBase, hobject, hnone] at hpath
    | some m =>
      have hbase (j : Nat) : t.chainBase (j + 1) = m.chainBase j := by simp [chainBase, hobject]
      have hm : (some t, m) ∈ reached program :=
        child_mem_reached ht hnone (List.mem_of_find?_eq_some hobject)
      have hrole : m.isAssigned (some t) = false := by
        have hrole : m.role = .object := by simpa using List.find?_some hobject
        unfold isAssigned
        split <;> simp [hrole]
      rw [hbase] at hpath ⊢
      obtain ⟨q, hq, hassigned⟩ := exists_reached_chainBase hm
        (fun j hj => hbase j ▸ hshorter (j + 1) (Nat.succ_lt_succ hj)) hpath
      exact ⟨q, hq, by simp [hassigned, hrole]⟩

/-! ## What becomes of excluded paths -/

/-- The path is excluded, and nothing else is put in its place. -/
def Excludes (s : Settings) (path : String) : Prop :=
  Table.get? s.referenceReplacements path = none ∧ s.referenceExcludes.contains path = true

/-- An excluded path that is not assigned becomes `undefined`. -/
theorem Excludes.substitute?_eq {s : Settings} {path : String} (h : Excludes s path)
    (localNames : Table String) (assigned : Bool) :
    substitute? s localNames assigned path = if assigned then none else some "undefined" := by
  unfold substitute?
  rw [h.1]
  exact if_pos h.2

/-- The longest part with a substitute is the one that is found. -/
theorem substitution?_eq_replace {s : Settings} {localNames : Table String} {assigned : Bool}
    {path : List String} {chain : Node} {i : Nat} {text : String}
    (htext : substitute? s localNames assigned (join "." (path.take (i + 2))) = some text) :
    ∀ {length : Nat}, i + 2 ≤ length →
      (∀ j, i < j → j + 2 ≤ length →
        substitute? s localNames assigned (join "." (path.take (j + 2))) = none) →
      substitution? s localNames assigned path chain length =
        some (.replace (chain.chainBase (path.length - (i + 2))).start
          (chain.chainBase (path.length - (i + 2))).stop text)
  | length + 2, hi, hlonger => by
    rw [substitution?]
    rcases Nat.lt_or_eq_of_le (Nat.le_of_add_le_add_right hi) with hlt | rfl
    · rw [hlonger length hlt le_rfl]
      exact substitution?_eq_replace htext (by omega) fun j hj hle => hlonger j hj (by omega)
    · rw [htext]

variable {s : Settings} {localNames : Table String}

/-- The longest part of a chain that has a substitute is replaced. -/
theorem exists_substitutes_of_longest {o : Occurrence} (ho : o ∈ chains program)
    {segments : List String} (hsegments : o.node.memberPath? = some segments) {i : Nat}
    (hi : i + 2 ≤ segments.length) {text : String}
    (htext : substitute? s localNames (o.node.isAssigned o.parent)
      (join "." (segments.take (i + 2))) = some text)
    (hlonger : ∀ j, i < j → j + 2 ≤ segments.length →
      substitute? s localNames (o.node.isAssigned o.parent)
        (join "." (segments.take (j + 2))) = none) :
    ∃ e ∈ substitutionEdits s localNames program,
      Substitutes s localNames o (join "." (segments.take (i + 2))) text e := by
  refine ⟨_, ?_, .mk hsegments hi rfl htext hlonger rfl⟩
  have hmem : (o.parent, o.node) ∈ reached program := by
    rw [reached, ← map_occurrences _ program []]
    exact List.mem_map_of_mem ho
  refine List.mem_filterMap.2 ⟨(o.parent, o.node), hmem, ?_⟩
  simp only [hsegments, Option.bind_eq_bind, Option.bind_some]
  exact substitution?_eq_replace htext hi hlonger

/-- An excluded part of a chain becomes `undefined` exactly if the chain is not assigned to and no longer
part of it has a substitute. -/
theorem exists_substitutes_undefined_iff {o : Occurrence} (ho : o ∈ chains program)
    {segments : List String} (hsegments : o.node.memberPath? = some segments) {i : Nat}
    (hi : i + 2 ≤ segments.length) (hexcluded : Excludes s (join "." (segments.take (i + 2)))) :
    (∃ e ∈ substitutionEdits s localNames program,
        Substitutes s localNames o (join "." (segments.take (i + 2))) "undefined" e) ↔
      o.node.isAssigned o.parent = false ∧ ∀ j, i < j → j + 2 ≤ segments.length →
        substitute? s localNames false (join "." (segments.take (j + 2))) = none := by
  constructor
  · rintro ⟨e, -, @⟨path, k, hpath, hk, heq, htext, hlonger, -⟩⟩
    obtain rfl := Option.some.inj (hsegments.symm.trans hpath)
    obtain rfl : i = k := by
      have hlt {a b : Nat} (hab : a < b) (hb : b + 2 ≤ segments.length) :
          join "." (segments.take (a + 2)) ≠ join "." (segments.take (b + 2)) := fun h =>
        absurd (congrArg String.length h)
          (length_join_take_lt (by decide) (by omega) (by omega) hb).ne
      rcases Nat.lt_trichotomy i k with hik | hik | hik
      · exact absurd heq (hlt hik hk)
      · exact hik
      · exact absurd heq.symm (hlt hik hi)
    have hassigned : o.node.isAssigned o.parent = false := by
      by_contra h
      simp [hexcluded.substitute?_eq, h] at htext
    exact ⟨hassigned, hassigned ▸ hlonger⟩
  · rintro ⟨hassigned, hlonger⟩
    refine exists_substitutes_of_longest ho hsegments hi ?_ (hassigned ▸ hlonger)
    simp [hexcluded.substitute?_eq, hassigned]

/-- In what a node writes to, take the outermost chain that spells a path. Its part that spells an
excluded path becomes `undefined` if and only if no longer part of it has a substitute, and it is not
what an assignment or an update writes to itself. -/
theorem excluded_in_target_iff (s : Settings) (localNames : Table String) (program : Node) :
    ∀ x ∈ reached program, ∀ t ∈ x.2.targets, ∀ k segments,
      (t.chainBase k).memberPath? = some segments →
      (∀ j < k, (t.chainBase j).memberPath? = none) →
        ∃ o ∈ chains program, o.node = t.chainBase k ∧
          ∀ i, i + 2 ≤ segments.length → Excludes s (join "." (segments.take (i + 2))) →
            ((∃ e ∈ substitutionEdits s localNames program,
                Substitutes s localNames o (join "." (segments.take (i + 2))) "undefined" e) ↔
              ¬(k = 0 ∧ x.2.writeTarget? = some t) ∧
                ∀ j, i < j → j + 2 ≤ segments.length →
                  substitute? s localNames false (join "." (segments.take (j + 2))) = none) := by
  intro x hx t ht k segments hsegments hshorter
  obtain ⟨p, hreached, hwritten⟩ := exists_reached_isAssigned hx ht
  obtain ⟨q, hbase, hassigned⟩ :=
    exists_reached_chainBase hreached hshorter (by rw [hsegments]; rfl)
  obtain ⟨o, ho, hparent, hnode⟩ := exists_mem_chains hbase
  refine ⟨o, ho, hnode, fun i hi hexcluded => ?_⟩
  rw [exists_substitutes_undefined_iff ho (hnode ▸ hsegments) hi hexcluded]
  refine and_congr_left' ?_
  rw [hnode, hparent, ← Bool.not_eq_true, hassigned, hwritten]

/-- One path is excluded. -/
def excludingContext : Context where
  file := { url := "foo.html", contents := "" }
  moduleUrl := "./foo.js"
  settings := { namespaces := ["Polymer"], referenceExcludes := ["Polymer.Foo"] }

theorem excluded_in_target_iff_computed :
    ∃ program, parse "Polymer.Foo[x] = 1;" = .ok program ∧
      ∃ x ∈ reached program, ∃ t ∈ x.2.targets, x.2.writeTarget? = some t ∧
        (t.chainBase 1).memberPath? = some ["Polymer", "Foo"] ∧
        (∀ j < 1, (t.chainBase j).memberPath? = none) ∧
        ∃ o ∈ chains program, o.node = t.chainBase 1 ∧
          ∀ i, i + 2 ≤ ["Polymer", "Foo"].length →
            Excludes excludingContext.settings (join "." (["Polymer", "Foo"].take (i + 2))) →
              ((∃ e ∈ substitutionEdits excludingContext.settings [] program,
                  Substitutes excludingContext.settings [] o
                    (join "." (["Polymer", "Foo"].take (i + 2))) "undefined" e) ↔
                ¬(1 = 0 ∧ x.2.writeTarget? = some t) ∧
                  ∀ j, i < j → j + 2 ≤ ["Polymer", "Foo"].length →
                    substitute? excludingContext.settings [] false
                      (join "." (["Polymer", "Foo"].take (j + 2))) = none) := by
  obtain ⟨program, hparse, hprogram⟩ := @exists_parse "Polymer.Foo[x] = 1;" (fun program =>
    decide (∃ x ∈ reached program, ∃ t ∈ x.2.targets, x.2.writeTarget? = some t ∧
      (t.chainBase 1).memberPath? = some ["Polymer", "Foo"] ∧ t.memberPath? = none))
    (by decide +kernel)
  obtain ⟨x, hx, t, ht, hwrite, hpath, hnone⟩ := of_decide_eq_true hprogram
  have hshorter : ∀ j < 1, (t.chainBase j).memberPath? = none := fun j hj => by
    rw [Nat.lt_one_iff.1 hj]
    exact hnone
  exact ⟨program, hparse, x, hx, t, ht, hwrite, hpath, hshorter,
    excluded_in_target_iff _ _ program x hx t ht 1 _ hpath hshorter⟩

/-- The program writes to `undefined`, or to a property that is taken from it. -/
def writesUndefined (program : Node) : Bool :=
  program.walk.any fun n => n.targets.any fun t =>
    (List.range t.walk.length).any fun k => (t.chainBase k).name? == some "undefined"

/-- Substitution turns the source into a program that writes to `undefined`, which it did not before. -/
def WritesUndefined (source : String) : Prop :=
  ∃ before after, parse source = .ok before ∧
    (Pipeline.run [.substitutePaths] excludingContext source).failure = none ∧
    parse ((Pipeline.run [.substitutePaths] excludingContext source).text source) = .ok after ∧
    writesUndefined before = false ∧ writesUndefined after = true

/-- The test of a run shows that it writes to `undefined`. -/
theorem writesUndefined_of_run {source : String} (h : (parse source).toOption.any (fun before =>
    (parse ((Pipeline.run [.substitutePaths] excludingContext source).text source)).toOption.any
      fun after =>
        (Pipeline.run [.substitutePaths] excludingContext source).failure.isNone &&
          !writesUndefined before && writesUndefined after) = true) : WritesUndefined source := by
  obtain ⟨before, hbefore, h⟩ := exists_parse h
  obtain ⟨after, hafter, h⟩ := exists_parse h
  simp only [Bool.and_eq_true, Bool.not_eq_true', Option.isNone_iff_eq_none] at h
  obtain ⟨⟨hfinished, hclean⟩, hwrites⟩ := h
  exact ⟨before, after, hbefore, hfinished, hafter, hclean, hwrites⟩

/-- An excluded path becomes `undefined` below a property that is computed, also further down and in an
update, in a pattern and in the head of a loop. -/
theorem exists_undefined_written :
    WritesUndefined "Polymer.Foo[x] = 1;" ∧ WritesUndefined "Polymer.Foo.a[x].b++;" ∧
      WritesUndefined "[Polymer.Foo] = [1];" ∧ WritesUndefined "for (Polymer.Foo in o);" := by
  refine ⟨writesUndefined_of_run ?_, writesUndefined_of_run ?_, writesUndefined_of_run ?_,
    writesUndefined_of_run ?_⟩ <;> decide +kernel

end Pass

end HtmlModules
