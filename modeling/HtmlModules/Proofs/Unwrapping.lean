import HtmlModules.Proofs.Combine
import HtmlModules.Proofs.Conflict
import HtmlModules.Proofs.Initializer
import HtmlModules.Proofs.Selection

/-!
# What a round of unwrapping leaves

A round changes no character of a program, it only leaves characters out
(`Pass.unwrapRound_select`): the directives, and of a wrapper that is opened what stands around its
body and the line ends at both ends of the body. The statements of the body stand where the wrapper
was. So the statements that are left stand in the result, one behind the other and unchanged
(`Pass.unwrapRound_splices`). The brace that ended the last statement of a body is left out too, and
so is the line end behind a comment there. With what follows, the text may then be no program, or
have fewer statements (`Pass.exists_not_keepsRemaining`).
-/

namespace HtmlModules

open Text Script

namespace Script.Node

/-- The offset lies in the node. -/
def Covers (n : Node) (i : Nat) : Prop := n.start ≤ i ∧ i < n.stop

instance (n : Node) (i : Nat) : Decidable (n.Covers i) := inferInstanceAs (Decidable (_ ∧ _))

/-- No offset lies in two nodes that come one behind the other. -/
theorem eq_of_covers {β : Type} {f : β → Node} {l : List β}
    (h : l.Pairwise fun a b => (f a).stop ≤ (f b).start) {a b : β} (ha : a ∈ l) (hb : b ∈ l)
    {i : Nat} (hai : (f a).Covers i) (hbi : (f b).Covers i) : a = b := by
  have hapart : l.Pairwise fun a b => ¬((f a).Covers i ∧ (f b).Covers i) :=
    h.imp fun hle ⟨hai, hbi⟩ => absurd (hai.2.trans_le hle) (Nat.not_lt.2 hbi.1)
  have : Std.Symm fun a b : β => ¬((f a).Covers i ∧ (f b).Covers i) :=
    ⟨fun _ _ hab hba => hab hba.symm⟩
  by_contra hne
  exact hapart.forall ha hb hne ⟨hai, hbi⟩

/-- The node neither begins nor ends with a line end. -/
def Trimmed (source : String) (n : Node) : Prop :=
  source.toList[n.start]? ≠ some '\n' ∧ source.toList[n.stop - 1]? ≠ some '\n'

instance (source : String) (n : Node) : Decidable (n.Trimmed source) :=
  inferInstanceAs (Decidable (_ ∧ _))

end Script.Node

namespace Pass

open Node

variable {source : String} {program : Node}

/-! ## Nodes in a text -/

/-- The texts of the nodes stand one behind the other. -/
inductive StandIn (source : String) : List Node → List Char → Prop
  | nil (text : List Char) : StandIn source [] text
  | cons (gap : List Char) {n : Node} {ns : List Node} {text : List Char} : StandIn source ns text →
    StandIn source (n :: ns) (gap ++ ((slice source n.start n.stop).toList ++ text))

/-- If all characters of some nodes stay, then the nodes stand in what is left. -/
theorem standIn_select {keep : Nat → Prop} [DecidablePred keep] :
    ∀ {nodes : List Node} {offset : Nat}, offset ≤ source.length →
      nodes.Pairwise (fun a b => a.stop ≤ b.start) →
      (∀ n ∈ nodes, offset ≤ n.start ∧ n.start < n.stop ∧ n.stop ≤ source.length) →
      (∀ n ∈ nodes, ∀ i, n.Covers i → keep i) →
      StandIn source nodes (select keep offset (slice source offset source.length).toList)
  | [], _, _, _, _, _ => .nil _
  | n :: ns, offset, hoffset, hordered, hbounds, hkeep => by
    obtain ⟨hnext, hordered⟩ := List.pairwise_cons.1 hordered
    obtain ⟨hstart, hproper, hstop⟩ := hbounds n (by simp)
    have hself : select keep n.start (slice source n.start n.stop).toList =
        (slice source n.start n.stop).toList := select_of_forall fun i hfirst hlast =>
      hkeep n (by simp) i ⟨hfirst, lt_of_lt_add_length_slice hfirst hlast⟩
    rw [← slice_append_slice source hstart (hproper.le.trans hstop),
      ← slice_append_slice source hproper.le hstop, String.toList_append, String.toList_append,
      select_append, select_append, add_length_slice hstart (by omega),
      add_length_slice hproper.le hstop, hself]
    refine .cons _ (standIn_select hstop hordered (fun m hm => ?_)
      fun m hm => hkeep m (List.mem_cons_of_mem n hm))
    exact ⟨hnext m hm, (hbounds m (List.mem_cons_of_mem n hm)).2⟩

/-! ## Bodies -/

/-- The offset lies between the braces of a function and in none of its directives. -/
def InBody (f : Node) (i : Nat) : Prop :=
  (∃ body ∈ f.child? .body, body.start + 1 ≤ i ∧ i < body.stop - 1) ∧
    ∀ s ∈ f.bodyStatements, s.isUseStrict = true → ¬s.Covers i

instance (f : Node) (i : Nat) : Decidable (InBody f i) := inferInstanceAs (Decidable (_ ∧ _))

theorem InBody.bounds {f body : Node} {i : Nat} (h : InBody f i)
    (hbody : f.child? .body = some body) : body.start + 1 ≤ i ∧ i < body.stop - 1 := by
  obtain ⟨body', hbody', h⟩ := h.1
  obtain rfl : body = body' := Option.some.inj (hbody.symm.trans hbody')
  exact h

/-- The character belongs to the body and is no line end. -/
def Solid (source : String) (f : Node) (i : Nat) : Prop :=
  InBody f i ∧ ∃ ch ∈ source.toList[i]?, ch ≠ '\n'

instance (source : String) (f : Node) (i : Nat) : Decidable (Solid source f i) :=
  inferInstanceAs (Decidable (_ ∧ _))

/-- The character stays when a wrapper is opened: it belongs to the body, and does not stand in
front of all that is no line end there, nor behind it. -/
def Opened (source : String) (f : Node) (i : Nat) : Prop :=
  InBody f i ∧ (∃ j < source.length, i ≤ j ∧ Solid source f j) ∧ ∃ j ≤ i, Solid source f j

instance (source : String) (f : Node) : DecidablePred (Opened source f) := fun _ =>
  inferInstanceAs (Decidable (_ ∧ _))

theorem Solid.lt_length {f : Node} {i : Nat} (h : Solid source f i) : i < source.length := by
  obtain ⟨ch, hch, -⟩ := h.2
  rw [← String.length_toList]
  exact (List.getElem?_eq_some_iff.1 hch).1

/-- The characters of a body that are no line ends, in the text between the braces. -/
theorem solid_iff {f body : Node} (hbody : f.child? .body = some body) {j : Nat} :
    Solid source f j ↔ ∃ ch, (ch, j) ∈ (slice source (body.start + 1) (body.stop - 1)).toList.zipIdx
      (body.start + 1) ∧ InBody f j ∧ (ch == '\n') = false := by
  have hmem (ch : Char) (hj : InBody f j) :
      (ch, j) ∈ (slice source (body.start + 1) (body.stop - 1)).toList.zipIdx (body.start + 1) ↔
        ch ∈ source.toList[j]? := by
    obtain ⟨hfirst, hlast⟩ := hj.bounds hbody
    rw [List.mk_mem_zipIdx_iff_le_and_getElem?_sub, toList_slice, List.getElem?_take,
      List.getElem?_drop, if_pos (by omega), Nat.add_sub_cancel' hfirst]
    exact ⟨And.right, fun h => ⟨hfirst, h⟩⟩
  constructor
  · rintro ⟨hj, ch, hch, hne⟩
    exact ⟨ch, (hmem ch hj).2 hch, hj, beq_false_of_ne hne⟩
  · rintro ⟨ch, hch, hj, hne⟩
    exact ⟨hj, ch, (hmem ch hj).1 hch, ne_of_beq_false hne⟩

theorem exists_body {f : Node} (h : f.isBareFunction = true) :
    ∃ body, f.child? .body = some body := by
  simp only [isBareFunction, Bool.and_eq_true, beq_iff_eq, Option.map_eq_some_iff] at h
  obtain ⟨body, hbody, -⟩ := h.2
  exact ⟨body, hbody⟩

/-- The directives are taken out of the text between the braces. -/
theorem directiveCuts_select {f body : Node} (hbare : f.isBareFunction = true) (hf : f.Laid)
    (hbody : f.child? .body = some body) (hlength : f.stop ≤ source.length) {cut : String}
    (hcut : applyEdits (slice source (body.start + 1) (body.stop - 1))
      (directiveCuts (body.start + 1) f.bodyStatements) = .ok cut) :
    cut.toList = select (InBody f) (body.start + 1)
      (slice source (body.start + 1) (body.stop - 1)).toList := by
  obtain ⟨-, hstop, -, hinside⟩ := bodyStatements_inOrder hbare hf hbody
  have hin (i : Nat) (hi : i < (slice source (body.start + 1) (body.stop - 1)).length) :
      body.start + 1 + i < body.stop - 1 := by
    rw [length_slice (by omega)] at hi
    omega
  rw [← Nat.zero_add (body.start + 1), ← select_add, Nat.zero_add]
  refine applyEdits_eq_select hcut (fun e he a b ha hb => ?_) fun i hi hcuts => ⟨?_, ?_⟩
  · obtain ⟨s, hs, rfl⟩ := List.mem_map.1 he
    obtain ⟨hs, hstrict⟩ := List.mem_filter.1 hs
    obtain ⟨-, hfirst, hlast⟩ := hinside s hs
    simp only [Edit.delete, Int.natCast_inj] at ha hb
    refine (select_of_forall_not fun i hai hib hi => hi.2 s hs hstrict ?_).symm
    have := lt_of_lt_add_length_slice hai hib
    exact ⟨by omega, by omega⟩
  · exact ⟨body, hbody, by omega, by have := hin i hi; omega⟩
  · intro s hs hstrict hcovers
    obtain ⟨-, hfirst, -⟩ := hinside s hs
    refine hcuts _ (List.mem_map_of_mem (List.mem_filter.2 ⟨hs, hstrict⟩)) ?_
    simp only [Edit.delete]
    have := hcovers.1
    have := hcovers.2
    omega

/-- The text of a body is what stays of the characters between its braces. -/
theorem toList_bodyText {f body : Node} (hbare : f.isBareFunction = true) (hf : f.Laid)
    (hbody : f.child? .body = some body) (hlength : f.stop ≤ source.length) :
    (bodyText source f).toList = select (Opened source f) (body.start + 1)
      (slice source (body.start + 1) (body.stop - 1)).toList := by
  obtain ⟨cut, hcut⟩ := (directiveCuts_apart hbare hf hbody hlength).applyEdits
  have htext : (bodyText source f).toList =
      dropEndWhile (· == '\n') (cut.toList.dropWhile (· == '\n')) := by
    rw [bodyText, hbody]
    simp only [hcut, trimBoth, Except.toOption, Option.getD_some, String.toList_ofList]
  rw [htext, directiveCuts_select hbare hf hbody hlength hcut]
  refine trim_select fun i hfirst hlast => and_congr_right fun hi => and_congr ?_ ?_
  · constructor
    · rintro ⟨j, -, hij, hsolid⟩
      obtain ⟨ch, hmem, hj, hch⟩ := (solid_iff hbody).1 hsolid
      exact ⟨ch, j, hmem, hj, hij, hch⟩
    · rintro ⟨ch, j, hmem, hj, hij, hch⟩
      have hsolid : Solid source f j := (solid_iff hbody).2 ⟨ch, hmem, hj, hch⟩
      exact ⟨j, hsolid.lt_length, hij, hsolid⟩
  · constructor
    · rintro ⟨j, hji, hsolid⟩
      obtain ⟨ch, hmem, hj, hch⟩ := (solid_iff hbody).1 hsolid
      exact ⟨ch, j, hmem, hj, hji, hch⟩
    · rintro ⟨ch, j, hmem, hj, hji, hch⟩
      exact ⟨j, hji, (solid_iff hbody).2 ⟨ch, hmem, hj, hch⟩⟩

/-! ## Statements -/

/-- What a round does with a statement: it drops a directive, or opens a wrapper, or keeps the
statement. -/
inductive Fate where
  | dropped
  | opened (function : Node)
  | kept

namespace Fate

/-- What is done with a statement if the names `taken` are declared elsewhere. -/
def of (taken : List String) (s : Node) : Fate :=
  if s.isUseStrict then .dropped
  else match removableWrapper? s with
    | none => .kept
    | some f => if (scopeNames f.bodyStatements).any taken.contains then .kept else .opened f

/-- The names that become names of the program. -/
def names : Fate → List String
  | .dropped => []
  | .opened f => scopeNames f.bodyStatements
  | .kept => []

/-- The statements that stand for the statement. -/
def nodes (s : Node) : Fate → List Node
  | .dropped => []
  | .opened f => f.bodyStatements.filter fun n => !n.isUseStrict
  | .kept => [s]

/-- The characters of the statement that stay. -/
def Leaves (source : String) (i : Nat) : Fate → Prop
  | .dropped => False
  | .opened f => Opened source f i
  | .kept => True

instance (source : String) (i : Nat) : DecidablePred (Leaves source i)
  | .dropped => inferInstanceAs (Decidable False)
  | .opened f => inferInstanceAs (Decidable (Opened source f i))
  | .kept => inferInstanceAs (Decidable True)

/-- How the text of the statement is changed. -/
def edits (source : String) (s : Node) : Fate → List Edit
  | .dropped => [.delete s.start s.stop]
  | .opened f => [.replace s.start s.stop (bodyText source f)]
  | .kept => []

end Fate

/-- What a round does with statements; the names `before` are declared in front of them, and the
names `claimed` in wrappers that have been opened. -/
def fatesFrom (before claimed : List String) : List Node → List (Node × Fate)
  | [] => []
  | s :: rest =>
    let fate := Fate.of (claimed ++ (before ++ rest.flatMap (·.statementNames))) s
    (s, fate) :: fatesFrom (before ++ s.statementNames) (claimed ++ fate.names) rest

/-- What a round does with the statements of a program. -/
def fates (program : Node) : List (Node × Fate) := fatesFrom [] [] (statements program)

/-- The statements that are left by a round. -/
def remaining (program : Node) : List Node := (fates program).flatMap fun x => x.2.nodes x.1

/-- The character stays in a round. -/
def Stays (source : String) (program : Node) (i : Nat) : Prop :=
  ∀ x ∈ fates program, x.1.Covers i → x.2.Leaves source i

instance (source : String) (program : Node) : DecidablePred (Stays source program) := fun i =>
  inferInstanceAs (Decidable (∀ x ∈ fates program, x.1.Covers i → x.2.Leaves source i))

/-- A round takes in a statement with its fate. -/
theorem take_eq (r : UnwrapRound) (source : String) (others : List String) (s : Node) :
    let fate := Fate.of (r.claimed ++ others) s
    (r.take source others s).edits = r.edits ++ fate.edits source s ∧
      (r.take source others s).claimed = r.claimed ++ fate.names := by
  unfold UnwrapRound.take Fate.of
  split_ifs with hstrict
  · exact ⟨rfl, (List.append_nil _).symm⟩
  · cases hwrapper : removableWrapper? s with
    | none => exact ⟨(List.append_nil _).symm, (List.append_nil _).symm⟩
    | some f =>
      have hshared : ((scopeNames f.bodyStatements).filter fun name =>
          r.claimed.contains name || others.contains name).isEmpty = true ↔
          ¬(scopeNames f.bodyStatements).any (r.claimed ++ others).contains = true := by
        simp [List.filter_eq_nil_iff]
      dsimp only
      split_ifs with hempty hany hany
      · exact absurd hany (hshared.1 hempty)
      · exact ⟨rfl, rfl⟩
      · exact ⟨(List.append_nil _).symm, (List.append_nil _).symm⟩
      · exact absurd (hshared.2 hany) hempty

/-- A round makes the edits of the fates. -/
theorem unwrapFrom_edits_eq (source : String) :
    ∀ (statements : List Node) (before : List String) (r : UnwrapRound),
      (unwrapFrom source before r statements).edits =
        r.edits ++ (fatesFrom before r.claimed statements).flatMap fun x => x.2.edits source x.1
  | [], before, r => by simp [unwrapFrom, fatesFrom]
  | s :: rest, before, r => by
    obtain ⟨hedits, hclaimed⟩ := take_eq r source (before ++ rest.flatMap (·.statementNames)) s
    rw [unwrapFrom, unwrapFrom_edits_eq source rest, fatesFrom, List.flatMap_cons, hedits, hclaimed,
      List.append_assoc]

/-- The edits of a round are those of the fates of its statements. -/
theorem unwrapRound_edits_eq (source : String) (program : Node) :
    (unwrapRound source program).edits =
      (fates program).flatMap fun x => x.2.edits source x.1 :=
  unwrapFrom_edits_eq source (statements program) [] {}

theorem map_fst_fatesFrom :
    ∀ (statements : List Node) (before claimed : List String),
      (fatesFrom before claimed statements).map Prod.fst = statements
  | [], _, _ => rfl
  | s :: rest, before, claimed => by
    rw [fatesFrom, List.map_cons, map_fst_fatesFrom rest]

theorem Fate.removableWrapper?_of_opened {taken : List String} {s f : Node}
    (h : Fate.of taken s = .opened f) : removableWrapper? s = some f := by
  unfold Fate.of at h
  split_ifs at h
  split at h
  · cases h
  · next hwrapper =>
    split_ifs at h
    cases h
    exact hwrapper

/-- The fate of a statement is decided by the names that are taken. -/
theorem exists_of_mem_fatesFrom {x : Node × Fate} :
    ∀ {statements : List Node} {before claimed : List String},
      x ∈ fatesFrom before claimed statements → ∃ taken, Fate.of taken x.1 = x.2
  | s :: rest, before, claimed, h => by
    rw [fatesFrom] at h
    rcases List.mem_cons.1 h with rfl | h
    · exact ⟨_, rfl⟩
    · exact exists_of_mem_fatesFrom h

theorem removableWrapper?_of_mem_fates {s f : Node} (h : (s, Fate.opened f) ∈ fates program) :
    removableWrapper? s = some f := by
  obtain ⟨taken, htaken⟩ := exists_of_mem_fatesFrom h
  exact Fate.removableWrapper?_of_opened htaken

theorem mem_statements_of_mem_fates {x : Node × Fate} (hx : x ∈ fates program) :
    x.1 ∈ statements program := by
  have h := List.mem_map_of_mem (f := Prod.fst) hx
  rwa [fates, map_fst_fatesFrom] at h

/-- Statements have their fates in the order of the source. -/
theorem fates_ordered (h : program.LaidIn source) :
    (fates program).Pairwise fun x y => x.1.stop ≤ y.1.start := by
  rw [← List.pairwise_map (f := Prod.fst) (R := fun a b : Node => a.stop ≤ b.start), fates,
    map_fst_fatesFrom]
  exact h.statements_inOrder.ordered

/-- A character of a statement stays as the fate of the statement has it. -/
theorem stays_iff (h : program.LaidIn source) {x : Node × Fate} (hx : x ∈ fates program) {i : Nat}
    (hi : x.1.Covers i) : Stays source program i ↔ x.2.Leaves source i := by
  refine ⟨fun hstays => hstays x hx hi, fun hleaves y hy hcovers => ?_⟩
  rwa [eq_of_covers (f := Prod.fst) (fates_ordered h) hy hx hcovers hi]

/-- The body of a wrapper that is opened lies in the statement, and its statements lie in the body.
-/
theorem opened_inOrder (h : program.LaidIn source) {s f : Node}
    (hx : (s, Fate.opened f) ∈ fates program) :
    ∃ body, f.isBareFunction = true ∧ f.Laid ∧ f.child? .body = some body ∧
      s.start ≤ body.start ∧ body.stop ≤ s.stop ∧ f.stop ≤ s.stop ∧ InOrder f.bodyStatements ∧
      ∀ n ∈ f.bodyStatements,
        n.start < n.stop ∧ body.start + 1 ≤ n.start ∧ n.stop + 1 ≤ body.stop := by
  obtain ⟨hlaid, hrange, -⟩ := h.of_mem_statements (mem_statements_of_mem_fates hx)
  obtain ⟨hbare, hlies⟩ :=
    removableWrapper?_eq_some (removableWrapper?_of_mem_fates hx) hlaid hrange
  obtain ⟨body, hbody⟩ := exists_body hbare
  obtain ⟨hfirst, hlast⟩ := hlies.bounds (hasRange_of_isBareFunction hbare)
  obtain ⟨hstart, hstop, hinside⟩ := bodyStatements_inOrder hbare hlies.laid hbody
  exact ⟨body, hbare, hlies.laid, hbody, hfirst.trans hstart, hstop.trans hlast, hlast, hinside⟩

/-- A round can be carried out. What it gives are the characters that stay. -/
theorem unwrapRound_select (h : program.LaidIn source) :
    ∃ text, applyEdits source (unwrapRound source program).edits = .ok text ∧
      text.toList = select (Stays source program) 0 source.toList := by
  obtain ⟨text, htext⟩ := (unwrapRound_apart h).applyEdits
  have hedits := unwrapRound_edits_eq source program
  refine ⟨text, htext, applyEdits_eq_select htext (fun e he a b ha hb => ?_) fun i _ hi => ?_⟩
  · rw [hedits] at he
    obtain ⟨⟨s, fate⟩, hx, he⟩ := List.mem_flatMap.1 he
    obtain ⟨hlaid, hrange, hlength⟩ := h.of_mem_statements (mem_statements_of_mem_fates hx)
    dsimp only at hlaid hrange hlength he
    have hcovers {i : Nat} (hfirst : s.start ≤ i)
        (hlast : i < s.start + (slice source s.start s.stop).toList.length) : s.Covers i :=
      ⟨hfirst, lt_of_lt_add_length_slice hfirst hlast⟩
    cases fate with
    | dropped =>
      obtain rfl := List.mem_singleton.1 he
      obtain ⟨rfl, rfl⟩ : s.start = a ∧ s.stop = b := ⟨Int.natCast_inj.1 ha, Int.natCast_inj.1 hb⟩
      exact (select_of_forall_not fun i hfirst hlast hstays =>
        (stays_iff h hx (hcovers hfirst hlast)).1 hstays).symm
    | opened f =>
      obtain rfl := List.mem_singleton.1 he
      obtain ⟨rfl, rfl⟩ : s.start = a ∧ s.stop = b := ⟨Int.natCast_inj.1 ha, Int.natCast_inj.1 hb⟩
      obtain ⟨body, hbare, hf, hbody, hfirst, hlast, hstop, -⟩ := opened_inOrder h hx
      calc (bodyText source f).toList
          = select (Opened source f) (body.start + 1)
              (slice source (body.start + 1) (body.stop - 1)).toList :=
            toList_bodyText hbare hf hbody (by omega)
        _ = select (Opened source f) s.start (slice source s.start s.stop).toList :=
            (select_slice (by omega) (by omega) hlength fun i hi => hi.1.bounds hbody).symm
        _ = select (Stays source program) s.start (slice source s.start s.stop).toList :=
            select_congr fun i hfirst hlast => (stays_iff h hx (hcovers hfirst hlast)).symm
    | kept => cases he
  · rintro ⟨s, fate⟩ hx hcovers
    have hoff {e : Edit} (he : e ∈ fate.edits source s) : ¬(e.start ≤ i ∧ i < e.stop) :=
      hi e (hedits ▸ List.mem_flatMap.2 ⟨(s, fate), hx, he⟩)
    have hin (text : String) : (Edit.replace s.start s.stop text).start ≤ i ∧
        i < (Edit.replace s.start s.stop text).stop :=
      ⟨Int.ofNat_le.2 hcovers.1, Int.ofNat_lt.2 hcovers.2⟩
    cases fate with
    | dropped => exact hoff (List.mem_singleton_self _) (hin "")
    | opened f => exact absurd (hin _) (hoff (List.mem_singleton_self _))
    | kept => trivial

/-! ## The statements that are left -/

/-- The statements that stand for a statement lie in it. -/
theorem bounds_of_mem_nodes (h : program.LaidIn source) {x : Node × Fate} (hx : x ∈ fates program)
    {n : Node} (hn : n ∈ x.2.nodes x.1) :
    x.1.start ≤ n.start ∧ n.start < n.stop ∧ n.stop ≤ x.1.stop := by
  obtain ⟨s, fate⟩ := x
  cases fate with
  | dropped => cases hn
  | opened f =>
    obtain ⟨body, -, -, -, hstart, hstop, -, -, hinside⟩ := opened_inOrder h hx
    have := hinside n (List.mem_of_mem_filter hn)
    dsimp only
    omega
  | kept =>
    obtain rfl := List.mem_singleton.1 hn
    exact ⟨Nat.le_refl _, h.start_lt_stop_of_mem_statements (mem_statements_of_mem_fates hx),
      Nat.le_refl _⟩

/-- What is left of a statement is in the order of the source. -/
theorem nodes_ordered (h : program.LaidIn source) {x : Node × Fate} (hx : x ∈ fates program) :
    (x.2.nodes x.1).Pairwise fun a b => a.stop ≤ b.start := by
  obtain ⟨s, fate⟩ := x
  cases fate with
  | dropped => exact .nil
  | opened f =>
    obtain ⟨body, -, -, -, -, -, -, horder, -⟩ := opened_inOrder h hx
    exact horder.ordered.filter _
  | kept => exact List.pairwise_singleton _ _

/-- What remains of a program is in the order of the source. -/
theorem remaining_ordered (h : program.LaidIn source) :
    (remaining program).Pairwise fun a b => a.stop ≤ b.start := by
  refine List.pairwise_flatMap.2 ⟨fun x hx => nodes_ordered h hx, ?_⟩
  refine (fates_ordered h).imp_of_mem fun {x y} hx hy hxy m hm n hn => ?_
  have := bounds_of_mem_nodes h hx hm
  have := bounds_of_mem_nodes h hy hn
  omega

/-- Of the statements that are left, all characters stay. -/
theorem stays_of_mem_remaining (h : program.LaidIn source)
    (htrimmed : ∀ s ∈ statements program, ∀ f ∈ removableWrapper? s, ∀ n ∈ f.bodyStatements,
      n.Trimmed source)
    {n : Node} (hn : n ∈ remaining program) {i : Nat} (hi : n.Covers i) :
    Stays source program i := by
  obtain ⟨⟨s, fate⟩, hx, hn⟩ := List.mem_flatMap.1 hn
  obtain ⟨hfirst, hproper, hlast⟩ := bounds_of_mem_nodes h hx hn
  have hcovers : s.Covers i := ⟨hfirst.trans hi.1, hi.2.trans_le hlast⟩
  rw [stays_iff h hx hcovers]
  cases fate with
  | dropped => cases hn
  | kept => trivial
  | opened f =>
    obtain ⟨body, -, -, hbody, hstart, hstop, -, horder, hinside⟩ := opened_inOrder h hx
    obtain ⟨hn, hstrict⟩ := List.mem_filter.1 hn
    obtain ⟨hbegins, hends⟩ := htrimmed s (mem_statements_of_mem_fates hx) f
      (removableWrapper?_of_mem_fates hx) n hn
    have hin {j : Nat} (hj : n.Covers j) : InBody f j := by
      have := hinside n hn
      refine ⟨⟨body, hbody, by have := hj.1; omega, by have := hj.2; omega⟩,
        fun d hd hdirective hcovers => ?_⟩
      obtain rfl : d = n := eq_of_covers (f := id) horder.ordered hd hn hcovers hj
      simp [hdirective] at hstrict
    have hsolid {j : Nat} (hj : n.Covers j) (hne : source.toList[j]? ≠ some '\n') :
        Solid source f j := by
      have hlt : j < source.toList.length := by
        have := (h.of_mem_statements (mem_statements_of_mem_fates hx)).2.2
        have := hj.2
        rw [String.length_toList]
        dsimp only at *
        omega
      rw [List.getElem?_eq_getElem hlt] at hne
      exact ⟨hin hj, _, List.getElem?_eq_getElem hlt, fun heq => hne (congrArg some heq)⟩
    have hstop : n.Covers (n.stop - 1) := ⟨by omega, by omega⟩
    have hlast := hsolid hstop hends
    exact ⟨hin hi, ⟨_, hlast.lt_length, by have := hi.2; omega, hlast⟩,
      n.start, hi.1, hsolid ⟨Nat.le_refl _, hproper⟩ hbegins⟩

/-- What a round gives is the program without the characters that do not stay. In it stand, one
behind the other and unchanged, the statements that are left: a directive is left out, and a wrapper
that is opened is replaced by the statements of its body. -/
theorem unwrapRound_splices (h : program.LaidIn source)
    (htrimmed : ∀ s ∈ statements program, ∀ f ∈ removableWrapper? s, ∀ n ∈ f.bodyStatements,
      n.Trimmed source) :
    ∃ text, applyEdits source (unwrapRound source program).edits = .ok text ∧
      text.toList = select (Stays source program) 0 source.toList ∧
      StandIn source (remaining program) text.toList := by
  obtain ⟨text, htext, hselect⟩ := unwrapRound_select h
  refine ⟨text, htext, hselect, ?_⟩
  rw [hselect]
  have h := standIn_select (Nat.zero_le source.length)
    (remaining_ordered h) (fun n hn => ?_) fun n hn i hi => stays_of_mem_remaining h htrimmed hn hi
  · rwa [slice_zero_length] at h
  · obtain ⟨x, hx, hn⟩ := List.mem_flatMap.1 hn
    obtain ⟨-, hproper, hstop⟩ := bounds_of_mem_nodes h hx hn
    exact ⟨Nat.zero_le _, hproper,
      hstop.trans (h.of_mem_statements (mem_statements_of_mem_fates hx)).2.2⟩

/-- A wrapper with a directive and a statement, and a statement behind the wrapper. -/
def wrappedScript : String := "(function() \x7b\n  'use strict';\n\n  a(); // b\n\x7d)();\nc();"

theorem unwrapRound_splices_wrappedScript : ∃ program text,
    Script.parse wrappedScript = .ok program ∧ program.LaidIn wrappedScript ∧
      applyEdits wrappedScript (unwrapRound wrappedScript program).edits = .ok text ∧
      (remaining program).length = 2 ∧ StandIn wrappedScript (remaining program) text.toList := by
  obtain ⟨program, hparse, h⟩ := @exists_parse wrappedScript (fun program =>
    decide (program.LaidIn wrappedScript) &&
      decide (∀ s ∈ statements program, ∀ f ∈ removableWrapper? s, ∀ n ∈ f.bodyStatements,
        n.Trimmed wrappedScript) && (remaining program).length == 2) (by decide +kernel)
  simp only [Bool.and_eq_true, decide_eq_true_eq, beq_iff_eq] at h
  obtain ⟨⟨hlaid, htrimmed⟩, hcount⟩ := h
  obtain ⟨text, htext, -, hstand⟩ := unwrapRound_splices hlaid htrimmed
  exact ⟨program, text, hparse, hlaid, htext, hcount, hstand⟩

/-! ## Statements that run together -/

/-- The text that a round gives is a program, and its statements are those that are left. -/
def KeepsRemaining (source : String) : Prop :=
  ∀ program, Script.parse source = .ok program → ∃ text next,
    applyEdits source (unwrapRound source program).edits = .ok text ∧
      Script.parse text = .ok next ∧
      (statements next).map Script.Node.unplaced = (remaining program).map Script.Node.unplaced

/-- The test of a round shows that it does not leave the statements that should remain. -/
theorem not_keepsRemaining {source : String}
    (h : (Script.parse source).toOption.any (fun program =>
      (applyEdits source (unwrapRound source program).edits).toOption.bind statementCount? !=
        some (remaining program).length) = true) :
    ¬KeepsRemaining source := by
  obtain ⟨program, hparse, hcount⟩ := exists_parse h
  intro hkeeps
  obtain ⟨text, next, htext, hnext, hsame⟩ := hkeeps program hparse
  have hlength : (statements next).length = (remaining program).length := by
    simpa using congrArg List.length hsame
  simp [htext, statementCount?, hnext, hlength, Except.toOption] at hcount

/-- A call behind a wrapper is lost in a comment of the body, or what a round gives is no program as
only the brace has ended the call in the body, or the two calls become one. -/
theorem exists_not_keepsRemaining :
    ¬KeepsRemaining "(function()\x7b\n a(); // c\n\x7d)(); b();" ∧
      ¬KeepsRemaining "(function()\x7b a() \x7d)(); b();" ∧
      ¬KeepsRemaining "(function()\x7b\n a()\n\x7d)();\n(b)();" := by
  refine ⟨not_keepsRemaining ?_, not_keepsRemaining ?_, not_keepsRemaining ?_⟩ <;> decide +kernel

end Pass

end HtmlModules
