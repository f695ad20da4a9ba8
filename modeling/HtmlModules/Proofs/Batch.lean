import HtmlModules.Pass.Pipeline
import HtmlModules.Proofs.Laid
import HtmlModules.Proofs.Step

/-!
# Passes and their edits

Each pass changes a program by one batch of edits. If the program is laid out as the grammar lays it
out (`Node.LaidIn`), then no two edits of a batch overlap, so each batch can be applied.
-/

namespace HtmlModules

open Text Script

namespace Script.Node

/-! ## Programs -/

/-- The program lies in the source: it is laid out unless it is empty, and its statements begin with a
character that is no white space and, if another one follows, end with one that is no blank. -/
structure LaidIn (source : String) (program : Node) : Prop where
  isProgram : program.kind = .program
  bounds : program.start ≤ program.stop ∧ program.stop ≤ source.length
  laid : program.children = [] ∨ program.Laid
  begins : ∀ s ∈ program.children, ∀ ch, source.toList[s.start]? = some ch →
    Pass.isIndent ch = false ∧ ch ≠ '\n'
  ends : program.children.Pairwise fun a _ => ∀ ch, source.toList[a.stop - 1]? = some ch →
    Pass.isIndent ch = false

instance (o : Option Char) (p : Char → Prop) [DecidablePred p] :
    Decidable (∀ ch, o = some ch → p ch) :=
  match o with
  | none => isTrue nofun
  | some ch => decidable_of_iff (p ch) (by simp)

instance (source : String) (program : Node) : Decidable (program.LaidIn source) :=
  decidable_of_iff (program.kind = .program ∧
      (program.start ≤ program.stop ∧ program.stop ≤ source.length) ∧
      (program.children.isEmpty = true ∨ program.Laid) ∧
      (∀ s ∈ program.children, ∀ ch, source.toList[s.start]? = some ch →
        Pass.isIndent ch = false ∧ ch ≠ '\n') ∧
      program.children.Pairwise fun a _ => ∀ ch, source.toList[a.stop - 1]? = some ch →
        Pass.isIndent ch = false)
    ⟨fun ⟨hkind, hbounds, hlaid, hbegins, hends⟩ =>
      ⟨hkind, hbounds, hlaid.imp_left List.isEmpty_iff.1, hbegins, hends⟩,
    fun ⟨hkind, hbounds, hlaid, hbegins, hends⟩ =>
      ⟨hkind, hbounds, hlaid.imp_left List.isEmpty_iff.2, hbegins, hends⟩⟩

/-- A node on a walk lies where the first one lies: it is the first one, or one below a node that is
laid out. -/
theorem LiesIn.mem_outline {enter : Node → Bool} {n outer : Node} (h : n.LiesIn outer) :
    ∀ {parent : Option Node} {x : Option Node × Node}, x ∈ n.outline enter parent →
      x.2.LiesIn outer ∧ (x = (parent, n) ∨ ∃ p, x.1 = some p ∧ p.Laid ∧ x.2 ∈ p.children) := by
  induction h.laid with
  | @mk r k s cs hencloses harranged hbelow ih =>
    intro parent x hx
    rw [outline] at hx
    rcases List.mem_cons.1 hx with rfl | hx
    · exact ⟨h, Or.inl rfl⟩
    · split_ifs at hx
      · rw [outlineAll_eq_flatMap] at hx
        obtain ⟨c, hc, hx⟩ := List.mem_flatMap.1 hx
        obtain ⟨hlies, hplace⟩ := ih c hc (h.of_mem hc) hx
        refine ⟨hlies, Or.inr ?_⟩
        rcases hplace with rfl | hbelow
        · exact ⟨_, rfl, h.laid, hc⟩
        · exact hbelow
      · cases hx

/-- The part of a chain lies in the chain. -/
theorem LiesIn.chainBase {n outer : Node} (h : n.LiesIn outer) :
    ∀ k : Nat, (chainBase k n).LiesIn outer
  | 0 => h
  | k + 1 => by
    rw [Node.chainBase]
    cases hobject : n.child? .object with
    | none => exact h
    | some object => exact (h.child? hobject).chainBase k

/-- Only a member expression has a path of members. -/
theorem memberPath?_of_kind {n : Node} (h : ∀ computed, n.kind ≠ .memberExpression computed) :
    n.memberPath? = none := by
  unfold memberPath?
  split
  · exact absurd rfl (h false)
  · rfl

/-- The node spells a path, or is what paths may start with. -/
def IsChain (n : Node) : Prop := n.kind = .thisExpression ∨ n.path?.isSome = true

theorem isChain_of_memberPath? {n : Node} {path : List String} (h : n.memberPath? = some path) :
    n.IsChain := by
  right
  unfold path?
  split
  · rfl
  · rw [h]
    rfl

theorem IsChain.hasRange {n : Node} (h : n.IsChain) : n.kind.hasRange = true := by
  rcases h with h | h
  · rw [h]
    rfl
  · unfold path? at h
    split at h
    · next hkind =>
      rw [hkind]
      rfl
    · by_contra hnone
      rw [memberPath?_of_kind fun computed hkind => hnone (by rw [hkind]; rfl)] at h
      cases h

/-- What a property is taken from in a chain is a chain. -/
theorem IsChain.child {n c : Node} (h : n.IsChain) (hn : n.Laid) (hc : c ∈ n.children) :
    c.IsChain := by
  have harranged := hn.arranged
  have hempty (hnone : n.children = []) : c.IsChain := by
    rw [hnone] at hc
    cases hc
  rcases h with hthis | hpath
  · rw [hthis] at harranged
    exact hempty harranged
  · unfold path? at hpath
    split at hpath
    · next hkind =>
      rw [hkind] at harranged
      exact hempty harranged
    · unfold memberPath? at hpath
      split at hpath
      · next object property =>
        obtain ⟨path, hpath⟩ := Option.isSome_iff_exists.1 hpath
        obtain ⟨last, hlast, hpath⟩ := Option.bind_eq_some_iff.1 hpath
        rcases List.mem_pair.1 hc with rfl | rfl
        · split at hpath
          · next hkind => exact Or.inl hkind
          · next hkind => exact Or.inr (by rw [path?, hkind]; rfl)
          · next hkind => exact Or.inr (by rw [path?, hkind]; rfl)
          · obtain ⟨rest, hrest, -⟩ := Option.map_eq_some_iff.1 hpath
            exact isChain_of_memberPath? hrest
        · right
          unfold name? at hlast
          split at hlast
          · next hkind =>
            rw [path?, hkind]
            rfl
          · cases hlast
      · cases hpath

/-- Whatever number of members is taken from a chain, it stays one. -/
theorem IsChain.chainBase {n : Node} (h : n.IsChain) (hn : n.Laid) :
    ∀ k : Nat, (chainBase k n).IsChain
  | 0 => h
  | k + 1 => by
    rw [Node.chainBase]
    cases hobject : n.child? .object with
    | none => exact h
    | some object =>
      have hmem := List.mem_of_find?_eq_some hobject
      exact (h.child hn hmem).chainBase (hn.child hmem) k

namespace LaidIn

variable {source : String} {program : Node}

theorem hasRange (h : program.LaidIn source) : program.kind.hasRange = true := by
  rw [h.isProgram]
  rfl

/-- Edits inside the program that are pairwise apart are a batch that fits its source. -/
theorem allApart_of_changes (h : program.LaidIn source) {edits : List Edit}
    (hterritory : ∀ e ∈ edits, Territory none program e) (hapart : edits.Pairwise Edit.Apart) :
    AllApart source.length edits := by
  refine ⟨fun e he => Edit.fits_iff.2 ?_, hapart⟩
  obtain ⟨hle, hinside | ⟨p, _, _, hp, -⟩⟩ := hterritory e he
  · have := h.bounds
    omega
  · cases hp

/-- What a walk through a program changes, as is permitted, does not overlap. -/
theorem walk_apart (h : program.LaidIn source) {enter : Node → Bool}
    (henter : ∀ n, n.kind = .assignmentPattern → enter n = true) {batches : List (List Edit)}
    (hwalk : List.Forall₂ (fun x es => Permitted enter x.1 x.2 es) (program.outline enter none)
      batches) : AllApart source.length batches.flatten := by
  rcases h.laid with hempty | hlaid
  · rw [outline_of_children_eq_nil hempty] at hwalk
    rcases hwalk with _ | ⟨hown, _ | _⟩
    exact h.allApart_of_changes (by simpa using hown.territory) (by simpa using hown.apart)
  · have hchanges := hlaid.outline_apart henter hwalk
    exact h.allApart_of_changes (fun e he => hchanges.territory_of_hasRange h.hasRange he)
      hchanges.apart

/-- The first node on a walk through a program is the program; all others are laid out, and so is the
node around each of them. -/
theorem mem_outline (h : program.LaidIn source) {enter : Node → Bool} {x : Option Node × Node}
    (hx : x ∈ program.outline enter none) :
    x = (none, program) ∨ x.2.Laid ∧ ∃ p, x.1 = some p ∧ p.Laid ∧ x.2 ∈ p.children := by
  rcases h.laid with hempty | hlaid
  · rw [outline_of_children_eq_nil hempty] at hx
    exact Or.inl (List.mem_singleton.1 hx)
  · obtain ⟨hlies, hfirst | hbelow⟩ := (LiesIn.refl hlaid h.hasRange).mem_outline hx
    · exact Or.inl hfirst
    · exact Or.inr ⟨hlies.laid, hbelow⟩

/-- A chain on a walk through a program is laid out, and so is the node around it. -/
theorem laid_of_isChain (h : program.LaidIn source) {enter : Node → Bool} {x : Option Node × Node}
    (hx : x ∈ program.outline enter none) (hchain : x.2.IsChain) :
    x.2.Laid ∧ ∃ p, x.1 = some p ∧ p.Laid ∧ x.2 ∈ p.children := by
  rcases h.mem_outline hx with rfl | hlaid
  · rcases hchain with hkind | hpath
    · simp [h.isProgram] at hkind
    · rw [path?, h.isProgram, memberPath?_of_kind fun computed => by simp [h.isProgram]] at hpath
      cases hpath
  · exact hlaid

/-- A child of a node begins in front of the end of the source. -/
theorem start_lt_of_mem_children (h : program.LaidIn source) {n c : Node} (hn : n ∈ program.walk)
    (hc : c ∈ n.children) : c.start < source.length := by
  obtain ⟨x, hx, rfl⟩ := List.mem_map.1 hn
  have hbounds := h.bounds
  rcases h.laid with hempty | hlaid
  · rw [family, outline_of_children_eq_nil hempty, List.mem_singleton] at hx
    subst hx
    rw [hempty] at hc
    cases hc
  · have hlies := ((LiesIn.refl hlaid h.hasRange).mem_outline hx).1.of_mem hc
    cases hrange : c.kind.hasRange with
    | true =>
      have := hlies.laid.start_lt_stop hrange
      have := hlies.bounds hrange
      omega
    | false =>
      have := hlaid.start_lt_stop h.hasRange
      have : c.start = 0 := congrArg Span.start (hlies.laid.encloses.empty hrange)
      omega

/-- What is changed for single nodes, as is permitted, does not overlap. -/
theorem flatMap_apart (h : program.LaidIn source) {enter : Node → Bool}
    (henter : ∀ n, n.kind = .assignmentPattern → enter n = true)
    {edits : Option Node × Node → List Edit}
    (hedits : ∀ x ∈ program.outline enter none, Permitted enter x.1 x.2 (edits x)) :
    AllApart source.length ((program.outline enter none).flatMap edits) := by
  rw [List.flatMap_def]
  refine h.walk_apart henter (List.forall₂_map_right_iff.2 ?_)
  exact List.forall₂_same.2 hedits

end LaidIn

/-! ## Single nodes -/

theorem Permitted.nil {enter : Node → Bool} {parent : Option Node} {n : Node} :
    Permitted enter parent n [] :=
  ⟨by simp, .nil, fun _ => rfl, fun _ _ => rfl, fun _ _ => rfl⟩

/-- A part of a node may be replaced, if the walk ends there. -/
theorem Permitted.replace {enter : Node → Bool} {parent : Option Node} {n part : Node}
    (hn : n.kind.hasRange = true) (hpart : part.LiesIn n) (hrange : part.kind.hasRange = true)
    (hends : enter n = true → n.children = [])
    (hname : n.IsName → n.isReference parent = true) (text : String) :
    Permitted enter parent n [.replace part.start part.stop text] where
  territory e he := by
    obtain rfl := List.mem_singleton.1 he
    have := hpart.laid.start_lt_stop hrange
    have := hpart.bounds hrange
    refine ⟨?_, Or.inl ⟨?_, ?_⟩⟩ <;> simp only [Edit.replace] <;> omega
  apart := List.pairwise_singleton _ _
  ranged hnone := by simp [hn] at hnone
  entered henter hne := absurd (hends henter) hne
  name hplain href := by simp [hname hplain] at href

/-! ## Assignments -/

/-- The two sides of a plain assignment. -/
theorem Laid.sides {p left value : Node} (hp : p.Laid)
    (h : p.plainAssignment? = some (left, value)) :
    p.kind = .assignmentExpression "=" ∧ p.children = [left, value] ∧ left.role = .left ∧
      value.role = .right ∧ InOrder [left, value] := by
  unfold plainAssignment? at h
  split at h
  · next hkind =>
    have harranged := hp.arranged
    rw [hkind] at harranged
    obtain ⟨a, b, hchildren, ha, hb, horder⟩ := harranged
    have hfirst : p.child? .left = some a := by simp [child?, hchildren, ha]
    have hsecond : p.child? .right = some b := by simp [child?, hchildren, ha, hb]
    rw [hfirst, hsecond] at h
    obtain ⟨rfl, rfl⟩ := Prod.mk.inj (Option.some.inj h)
    exact ⟨hkind, hchildren, ha, hb, horder⟩
  · cases h

/-- An assignment begins with its left side, and its value stands behind that. -/
theorem Laid.sides_ordered {p left value : Node} (hp : p.Laid)
    (h : p.plainAssignment? = some (left, value)) :
    p.start < value.start ∧ value.start < value.stop ∧ value.stop ≤ p.stop := by
  obtain ⟨hkind, hchildren, -, -, horder⟩ := hp.sides h
  have hrange : p.kind.hasRange = true := by
    rw [hkind]
    rfl
  have hinside {m : Node} (hm : m ∈ [left, value]) : p.start ≤ m.start ∧ m.start < m.stop ∧
      m.stop ≤ p.stop := by
    have hmem : m ∈ p.children := hchildren ▸ hm
    have hbounds := hp.inside hrange hmem
      (by rw [parts_of_hasRange (horder.hasRange m hm)]; exact List.mem_singleton_self m)
    exact ⟨hbounds.1, (hp.child hmem).start_lt_stop (horder.hasRange m hm), hbounds.2⟩
  have hleft := hinside (m := left) (by simp)
  have hvalue := hinside (m := value) (by simp)
  have hbehind : left.stop ≤ value.start :=
    List.rel_of_pairwise_cons horder.ordered (List.mem_singleton_self value)
  exact ⟨by omega, hvalue.2.1, hvalue.2.2⟩

end Script.Node

namespace Pass

open Node

variable {source : String} {program : Node}

/-! ## Batches -/

/-- The edits that replace `this` by the global object are apart. -/
theorem globalThisEdits_apart (h : program.LaidIn source) :
    AllApart source.length (globalThisEdits program) := by
  have hbatch : globalThisEdits program = (program.outline Node.sharesThis none).flatMap
      fun x => (windowEdit? x.2).toList := List.filterMap_eq_flatMap_toList _ _
  rw [hbatch]
  refine h.flatMap_apart (fun n hn => by rw [sharesThis, hn]; rfl) fun x hx => ?_
  unfold windowEdit?
  split_ifs with hthis
  · rcases h.mem_outline hx with rfl | ⟨hlaid, -⟩
    · simp [h.isProgram] at hthis
    · have harranged := hlaid.arranged
      rw [beq_iff_eq.1 hthis] at harranged
      have hrange : x.2.kind.hasRange = true := by rw [beq_iff_eq.1 hthis]; rfl
      refine .replace hrange (.refl hlaid hrange) hrange (fun _ => harranged) (fun hname => ?_) _
      have := hname.1
      simp [name?, beq_iff_eq.1 hthis] at this
  · exact .nil

theorem memberPath?_of_isName {n : Node} (h : n.IsName) : n.memberPath? = none := by
  refine memberPath?_of_kind fun computed hkind => ?_
  have hname := h.1
  rw [name?, hkind] at hname
  cases hname

/-- A substitution replaces a part of the chain. -/
theorem substitution?_eq_some {s : Settings} {localNames : Table String} {assigned : Bool}
    {path : List String} {chain : Node} {e : Edit} :
    ∀ {length : Nat}, substitution? s localNames assigned path chain length = some e →
      ∃ k text, e = .replace (chain.chainBase k).start (chain.chainBase k).stop text
  | length + 2, h => by
    rw [substitution?] at h
    split at h
    · exact ⟨_, _, (Option.some.inj h).symm⟩
    · exact substitution?_eq_some h

/-- The edits that put local names for references are apart. -/
theorem substitutionEdits_apart (h : program.LaidIn source) (s : Settings)
    (localNames : Table String) : AllApart source.length (substitutionEdits s localNames program) := by
  rw [substitutionEdits, List.filterMap_eq_flatMap_toList]
  refine h.flatMap_apart (fun n hn => ?_) fun x hx => ?_
  · rw [memberPath?_of_kind fun computed => by simp [hn]]
    rfl
  · obtain ⟨parent, n⟩ := x
    dsimp only
    cases hpath : n.memberPath? with
    | none => exact .nil
    | some path =>
      rw [Option.bind_eq_bind, Option.bind_some]
      cases hedit : substitution? s localNames (n.isAssigned parent) path n path.length with
      | none => exact .nil
      | some e =>
        obtain ⟨k, text, rfl⟩ := substitution?_eq_some hedit
        rcases h.mem_outline hx with hfirst | ⟨hlaid, -⟩
        · obtain ⟨rfl, rfl⟩ := Prod.mk.inj hfirst
          rw [memberPath?_of_kind fun computed => by simp [h.isProgram]] at hpath
          cases hpath
        · have hchain : n.IsChain := isChain_of_memberPath? hpath
          refine .replace hchain.hasRange ((LiesIn.refl hlaid hchain.hasRange).chainBase k)
            (hchain.chainBase hlaid k).hasRange (fun henter => ?_) (fun hname => ?_) text
          · rw [hpath] at henter
            cases henter
          · rw [memberPath?_of_isName hname] at hpath
            cases hpath

/-! ## References -/

/-- The result of a list of steps is that of each of them. -/
theorem forall₂_of_mapM {α β : Type} {k : α → Step β} {c : Context} :
    ∀ {l : List α} {f g : Findings} {out : List β}, l.mapM k c f = .ok out g →
      List.Forall₂ (fun a b => ∃ f g, k a c f = .ok b g) l out
  | [], _, _, _, h => by
    cases h
    exact .nil
  | a :: l, f, g, out, h => by
    rw [List.mapM_cons] at h
    obtain ⟨b, f', hhead, hrest⟩ := bind_eq_ok.1 h
    obtain ⟨bs, g', htail, hreturn⟩ := bind_eq_ok.1 hrest
    cases hreturn
    exact .cons ⟨f, f', hhead⟩ (forall₂_of_mapM htail)

/-- What stands for the chosen members of a list stands for all of them, with nothing for the
others. -/
theorem exists_of_forall₂_filterMap {α β γ : Type} {choose : α → Option β}
    {R : β → List γ → Prop} :
    ∀ {l : List α} {parts : List (List γ)}, List.Forall₂ R (l.filterMap choose) parts →
      ∃ parts', List.Forall₂ (fun a part => (∃ b, choose a = some b ∧ R b part) ∨ part = [])
        l parts' ∧ parts'.flatten = parts.flatten
  | [], parts, h => by
    cases h
    exact ⟨[], .nil, rfl⟩
  | a :: l, parts, h => by
    cases hchoose : choose a with
    | none =>
      rw [List.filterMap_cons_none hchoose] at h
      obtain ⟨parts', hparts, hflatten⟩ := exists_of_forall₂_filterMap h
      exact ⟨[] :: parts', .cons (Or.inr rfl) hparts, hflatten⟩
    | some b =>
      rw [List.filterMap_cons_some hchoose] at h
      obtain ⟨part, rest, hpart, hrest, rfl⟩ := List.forall₂_cons_left_iff.1 h
      obtain ⟨parts', hparts, hflatten⟩ := exists_of_forall₂_filterMap hrest
      refine ⟨part :: parts', .cons (Or.inl ⟨b, hchoose, hpart⟩) hparts, ?_⟩
      rw [List.flatten_cons, List.flatten_cons, hflatten]

/-- An export is used in place of a part of the chain. -/
theorem useExport_ok {s : Site} {record : ExportRecord} {length : Nat} {c : Context}
    {f g : Findings} {edits : List Edit} (h : useExport s record length c f = .ok edits g) :
    ∃ k text, edits = [.replace (s.node.chainBase k).start (s.node.chainBase k).stop text] := by
  obtain ⟨text, g', -, hreturn⟩ := bind_eq_ok.1 h
  cases hreturn
  exact ⟨_, text, rfl⟩

/-- An assignment becomes a call in two edits, or it stays. -/
theorem setExport_ok {s : Site} {c : Context} {f g : Findings} {edits : List Edit}
    (h : setExport source s c f = .ok edits g) :
    edits = [] ∨ ∃ p left value text, s.parent = some p ∧ p.plainAssignment? = some (left, value) ∧
      edits = setterEdits p value text := by
  unfold setExport at h
  obtain ⟨c', f', hread, h⟩ := bind_eq_ok.1 h
  cases hread
  dsimp only at h
  rcases hassignment : s.parent.bind fun p => p.plainAssignment?.map fun sides => (p, sides.2)
    with _ | ⟨p, value⟩ <;> rcases hsetter : c.setter? s.path with _ | setter <;>
    simp only [hassignment, hsetter] at h
  case refl.some.some =>
    obtain ⟨text, g', -, hreturn⟩ := bind_eq_ok.1 h
    cases hreturn
    obtain ⟨q, hparent, hsides⟩ := Option.bind_eq_some_iff.1 hassignment
    obtain ⟨⟨left, right⟩, hplain, hpair⟩ := Option.map_eq_some_iff.1 hsides
    obtain ⟨rfl, rfl⟩ := Prod.mk.inj hpair
    exact Or.inr ⟨q, left, right, text, hparent, hplain, rfl⟩
  all_goals
    obtain ⟨-, g', -, hreturn⟩ := bind_eq_ok.1 h
    cases hreturn
    exact Or.inl rfl

/-- The edits that are made for a place: none, or the beginning of the chain is replaced, or the
assignment to it becomes a call. -/
def Site.Changed (s : Site) (edits : List Edit) : Prop :=
  edits = [] ∨
    (∃ k text, edits = [.replace (s.node.chainBase k).start (s.node.chainBase k).stop text]) ∨
    s.isAssigned = true ∧ ∃ p left value text, s.parent = some p ∧
      p.plainAssignment? = some (left, value) ∧ edits = setterEdits p value text

/-- What a site contributes if it succeeds is one of the changes that it may make. -/
theorem collectSite_ok {s : Site} {c : Context} {f g : Findings} {edits : List Edit}
    (h : collectSite source s c f = .ok edits g) : s.Changed edits := by
  unfold collectSite at h
  obtain ⟨c', f', hread, h⟩ := bind_eq_ok.1 h
  cases hread
  cases hresolve : c.resolve s.path s.path.length <;> simp only [hresolve] at h
  · cases h
    exact Or.inl rfl
  · split_ifs at h with hassigned
    · rw [Bool.and_eq_true] at hassigned
      exact (setExport_ok h).imp_right fun h => Or.inr ⟨hassigned.1, h⟩
    · exact Or.inr (Or.inl (useExport_ok h))
  · split_ifs at h
    · obtain ⟨-, g', -, hreturn⟩ := bind_eq_ok.1 h
      cases hreturn
      exact Or.inl rfl
    · cases h
      exact Or.inl rfl

/-- A place is an identifier that refers to a binding, or a chain that the walk does not enter. -/
theorem Site.of?_eq_some {parent : Option Node} {n : Node} {s : Site}
    (h : Site.of? parent n = some s) : s.parent = parent ∧ s.node = n ∧
      ((∃ name, n.kind = .identifier name) ∧ n.isReference parent = true ∨
        holdsReferences n = false ∧ ¬n.IsName) := by
  unfold Site.of? at h
  split at h
  · next computed hkind =>
    obtain ⟨path, hpath, rfl⟩ := Option.map_eq_some_iff.1 h
    obtain ⟨hpath, hthis⟩ := Option.filter_eq_some_iff.1 hpath
    refine ⟨rfl, rfl, Or.inr ⟨?_, fun hname => ?_⟩⟩
    · rw [holdsReferences, hpath]
      simpa using hthis
    · rw [memberPath?_of_isName hname] at hpath
      cases hpath
  · next name hkind =>
    split_ifs at h with href
    cases h
    rw [Bool.and_eq_true] at href
    exact ⟨rfl, rfl, Or.inl ⟨⟨name, hkind⟩, href.2⟩⟩
  · cases h

/-- The two edits of an assignment lie in it, beside its right side. -/
theorem bounds_setterEdits {p left value : Node} (hp : p.Laid)
    (hsides : p.plainAssignment? = some (left, value)) {text : String} {e : Edit}
    (he : e ∈ setterEdits p value text) :
    e.start ≤ e.stop ∧ p.start ≤ e.start ∧ e.stop ≤ p.stop ∧
      (e.stop ≤ value.start ∨ value.stop ≤ e.start) := by
  have := hp.sides_ordered hsides
  rcases List.mem_pair.1 he with rfl | rfl <;> simp only [Edit.replace] <;> omega

/-- The two edits of an assignment leave out its right side. -/
theorem territory_setterEdits {p n : Node} (hp : p.Laid) (hn : n ∈ p.children)
    (hassigned : n.isAssigned (some p) = true) {left value : Node}
    (hplain : p.plainAssignment? = some (left, value)) (text : String) :
    (∀ e ∈ setterEdits p value text, Territory (some p) n e) ∧
      (setterEdits p value text).Pairwise Edit.Apart := by
  obtain ⟨hkind, hchildren, -, hright, -⟩ := hp.sides hplain
  have hordered := hp.sides_ordered hplain
  obtain rfl : n = left := by
    rw [hchildren] at hn
    rcases List.mem_pair.1 hn with hn | rfl
    · exact hn
    · simp [isAssigned, hkind, hright] at hassigned
  refine ⟨fun e he => ?_, List.pairwise_pair.2 (Or.inl ?_)⟩
  · obtain ⟨hle, hstart, hstop, hbeside⟩ := bounds_setterEdits hp hplain he
    exact ⟨hle, Or.inr ⟨p, value, _, rfl, hkind, hchildren, hstart, hstop, hbeside⟩⟩
  · simp only [Edit.replace]
    omega

/-- A place is an identifier or a chain. -/
theorem isChain_of_place {parent : Option Node} {n : Node}
    (hplace : (∃ name, n.kind = .identifier name) ∧ n.isReference parent = true ∨
      holdsReferences n = false ∧ ¬n.IsName) : n.IsChain := by
  rcases hplace with ⟨⟨name, hkind⟩, -⟩ | ⟨hnot, -⟩
  · exact Or.inr (by rw [path?, hkind]; rfl)
  · unfold holdsReferences at hnot
    split at hnot
    · next path hpath => exact isChain_of_memberPath? hpath
    · cases hnot

/-- Such edits are permitted for an identifier that refers to a binding, and for a chain that the walk
does not enter. -/
theorem Site.Changed.permitted (h : program.LaidIn source) {s : Site}
    (hx : (s.parent, s.node) ∈ program.outline holdsReferences none)
    (hplace : (∃ name, s.node.kind = .identifier name) ∧ s.node.isReference s.parent = true ∨
      holdsReferences s.node = false ∧ ¬s.node.IsName) {edits : List Edit}
    (hedits : s.Changed edits) : Permitted holdsReferences s.parent s.node edits := by
  have hchain : s.node.IsChain := isChain_of_place hplace
  obtain ⟨hlaid, p, hp, hparent, hchild⟩ := h.laid_of_isChain hx hchain
  dsimp only at hlaid hp hchild
  have hends : holdsReferences s.node = true → s.node.children = [] := fun henter => by
    rcases hplace with ⟨⟨name, hkind⟩, -⟩ | ⟨hnot, -⟩
    · have harranged := hlaid.arranged
      rwa [hkind] at harranged
    · rw [hnot] at henter
      cases henter
  have hname : s.node.IsName → s.node.isReference s.parent = true := fun hname => by
    rcases hplace with ⟨-, href⟩ | ⟨-, hnot⟩
    · exact href
    · exact absurd hname hnot
  rcases hedits with rfl | ⟨k, text, rfl⟩ | ⟨hassigned, q, left, value, text, hq, hplain, rfl⟩
  · exact .nil
  · exact .replace hchain.hasRange ((LiesIn.refl hlaid hchain.hasRange).chainBase k)
      (hchain.chainBase hlaid k).hasRange hends hname text
  · obtain rfl := Option.some.inj (hq.symm.trans hp)
    rw [Site.isAssigned, hq] at hassigned
    obtain ⟨hterritory, hapart⟩ := territory_setterEdits hparent hchild hassigned hplain text
    rw [hq] at hname ⊢
    refine ⟨hterritory, hapart, fun hnone => by simp [hchain.hasRange] at hnone,
      fun henter hne => absurd (hends henter) hne, fun hn href => ?_⟩
    simp [hname hn] at href

/-- What a site contributes stays inside the node it is about. -/
theorem collectSite_permitted (h : program.LaidIn source) {x : Option Node × Node}
    (hx : x ∈ program.outline holdsReferences none) {s : Site} (hs : Site.of? x.1 x.2 = some s)
    {c : Context} {f g : Findings} {edits : List Edit}
    (hok : collectSite source s c f = .ok edits g) : Permitted holdsReferences x.1 x.2 edits := by
  obtain ⟨parent, n⟩ := x
  obtain ⟨rfl, rfl, hplace⟩ := Site.of?_eq_some hs
  exact (collectSite_ok hok).permitted h hx hplace

theorem collectReferences_apart (h : program.LaidIn source) {c : Context} {f g : Findings}
    {batches : List (List Edit)}
    (hok : (referenceSites program).mapM (collectSite source) c f = .ok batches g) :
    AllApart source.length batches.flatten := by
  obtain ⟨parts, hparts, hflatten⟩ := exists_of_forall₂_filterMap (forall₂_of_mapM hok)
  rw [← hflatten]
  have henter (n : Node) (hn : n.kind = .assignmentPattern) : holdsReferences n = true := by
    rw [holdsReferences, memberPath?_of_kind fun computed => by simp [hn]]
  refine h.walk_apart henter (forall₂_imp_of_mem hparts fun x hx edits hedits => ?_)
  rcases hedits with ⟨s, hs, f', g', hok⟩ | rfl
  · exact collectSite_permitted h hx hs hok
  · exact .nil

end Pass

/-! ## Programs that are found -/

/-- A program with a property is found by a check. -/
theorem exists_parse {text : String} {p : Script.Node → Bool}
    (h : (Script.parse text).toOption.any p = true) :
    ∃ program, Script.parse text = .ok program ∧ p program = true := by
  cases hparse : Script.parse text with
  | ok program =>
    rw [hparse] at h
    exact ⟨program, rfl, h⟩
  | error e =>
    rw [hparse] at h
    cases h

end HtmlModules
