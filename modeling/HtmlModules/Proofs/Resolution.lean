import HtmlModules.Proofs.Inert
import HtmlModules.Proofs.Initializer
import Mathlib.Order.Lattice.Nat

/-!
# What a path is resolved to

A chain of properties, or an identifier by itself, is a place of a reference (`Pass.places`). Of the
first segments of its path the longest known part decides (`Context.LongestKnown`): if another module
exports it, it becomes the placeholder of that export, and else the place stays as it is
(`collectReferences_longest_known`).
-/

namespace HtmlModules

open Text Script

namespace Script.Node

mutual

/-- Two trees are compared node by node. -/
def decEq : (a b : Node) → Decidable (a = b)
  | mk r k s cs, mk r' k' s' cs' =>
    if h : r = r' ∧ k = k' ∧ s = s' then
      match decEqAll cs cs' with
      | isTrue hcs => isTrue (by rw [h.1, h.2.1, h.2.2, hcs])
      | isFalse hcs => isFalse fun heq => hcs (Node.mk.inj heq).2.2.2
    else isFalse fun heq =>
      h ⟨(Node.mk.inj heq).1, (Node.mk.inj heq).2.1, (Node.mk.inj heq).2.2.1⟩

/-- Two rows of trees are compared tree by tree. -/
def decEqAll : (as bs : List Node) → Decidable (as = bs)
  | [], [] => isTrue rfl
  | [], _ :: _ => isFalse (by simp)
  | _ :: _, [] => isFalse (by simp)
  | a :: as, b :: bs =>
    match decEq a b, decEqAll as bs with
    | isTrue h, isTrue hs => isTrue (by rw [h, hs])
    | isFalse h, _ => isFalse fun heq => h (List.cons.inj heq).1
    | _, isFalse hs => isFalse fun heq => hs (List.cons.inj heq).2

end

instance : DecidableEq Node := decEq

/-! ## Chains in a tree -/

/-- An identifier has nothing below it; a property with a dot has its object and its name there. -/
def IsFormed (n : Node) : Prop :=
  match n.kind with
  | .identifier _ => n.children.map role = []
  | .memberExpression false => n.children.map role = [.object, .property]
  | _ => True

instance : DecidablePred IsFormed := fun n => by
  unfold IsFormed
  split <;> infer_instance

/-- All nodes of the tree are formed. -/
inductive Formed : Node → Prop
  | mk {role : Role} {kind : Kind} {span : Span} {children : List Node} :
    IsFormed (.mk role kind span children) → (∀ c ∈ children, Formed c) →
    Formed (.mk role kind span children)

theorem Formed.isFormed {n : Node} (h : n.Formed) : n.IsFormed := by
  cases h
  assumption

theorem Formed.child {n c : Node} (h : n.Formed) (hc : c ∈ n.children) : c.Formed := by
  cases h with
  | mk _ hbelow => exact hbelow c hc

/-- Whatever is in the outline of a well formed node is well formed. -/
theorem Formed.of_mem_outline {enter : Node → Bool} {n : Node} (h : n.Formed) :
    ∀ {parent : Option Node} {x : Option Node × Node}, x ∈ n.outline enter parent → x.2.Formed := by
  induction h with
  | @mk role kind span cs hformed hbelow ih =>
    intro parent x hx
    rw [outline] at hx
    rcases List.mem_cons.1 hx with rfl | hx
    · exact .mk hformed hbelow
    · split_ifs at hx
      · rw [outlineAll_eq_flatMap] at hx
        obtain ⟨c, hc, hx⟩ := List.mem_flatMap.1 hx
        exact ih c hc hx
      · cases hx

theorem Formed.of_mem_walk {n m : Node} (h : n.Formed) (hm : m ∈ n.walk) : m.Formed := by
  obtain ⟨x, hx, rfl⟩ := List.mem_map.1 hm
  exact h.of_mem_outline hx

theorem Formed.children_eq_nil {n : Node} (h : n.Formed) (hn : n.name?.isSome = true) :
    n.children = [] := by
  have hformed := h.isFormed
  unfold name? at hn
  unfold IsFormed at hformed
  split at hn
  · next hkind =>
    rw [hkind] at hformed
    exact List.map_eq_nil_iff.1 hformed
  · cases hn

mutual

/-- A tree is checked node by node. -/
def decFormed : (n : Node) → Decidable n.Formed
  | mk r k s cs =>
    match (inferInstance : Decidable (IsFormed (mk r k s cs))), decFormedAll cs with
    | isTrue h, isTrue hs => isTrue (.mk h hs)
    | isFalse h, _ => isFalse fun hn => h hn.isFormed
    | _, isFalse hs => isFalse fun hn => hs fun _ hc => hn.child hc

/-- A row of trees is checked tree by tree. -/
def decFormedAll : (ns : List Node) → Decidable (∀ n ∈ ns, n.Formed)
  | [] => isTrue (by simp)
  | n :: ns =>
    match decFormed n, decFormedAll ns with
    | isTrue h, isTrue hs => isTrue (List.forall_mem_cons.2 ⟨h, hs⟩)
    | isFalse h, _ => isFalse fun hall => h (List.forall_mem_cons.1 hall).1
    | _, isFalse hs => isFalse fun hall => hs (List.forall_mem_cons.1 hall).2

end

instance : DecidablePred Formed := decFormed

/-- The path of a chain that does not begin with `this`. -/
def chain? (n : Node) : Option (List String) := n.memberPath?.filter (·.head? != some "this")

/-- A chain is a path of members that does not begin with `this`. -/
theorem chain?_eq_some {n : Node} {path : List String} :
    n.chain? = some path ↔ n.memberPath? = some path ∧ path.head? ≠ some "this" := by
  rw [chain?, Option.filter_eq_some_iff, bne_iff_ne]

theorem memberPath?_ne_nil {n : Node} {path : List String} (h : n.memberPath? = some path) :
    path ≠ [] := by
  unfold memberPath? at h
  split at h
  · obtain ⟨last, -, h⟩ := Option.bind_eq_some_iff.1 h
    split at h
    · cases h
      simp
    · cases h
      simp
    · cases h
      simp
    · obtain ⟨rest, -, rfl⟩ := Option.map_eq_some_iff.1 h
      simp
  · cases h

/-- A chain that does not begin with `this` takes a property from the window, from another identifier
or from a shorter chain. -/
theorem Formed.chain_cases {n : Node} (h : n.Formed) {path : List String}
    (hn : n.chain? = some path) :
    ∃ object property last, n.children = [object, property] ∧ n.child? .object = some object ∧
      property.name? = some last ∧
      (object.name? = some "window" ∧ path = [last] ∨
        (∃ name, object.name? = some name ∧ path = [name, last]) ∨
        ∃ rest, object.chain? = some rest ∧ path = rest ++ [last]) := by
  obtain ⟨hpath, hroot⟩ := chain?_eq_some.1 hn
  have hformed := h.isFormed
  unfold memberPath? at hpath
  split at hpath
  · next r span object property =>
    obtain ⟨last, hlast, hpath⟩ := Option.bind_eq_some_iff.1 hpath
    have hroles : object.role = .object ∧ property.role = .property := by
      simpa [IsFormed] using hformed
    refine ⟨object, property, last, rfl, by simp [child?, hroles.1], hlast, ?_⟩
    split at hpath
    · cases hpath
      exact absurd rfl hroot
    · next hkind =>
      cases hpath
      exact Or.inl ⟨by rw [name?, hkind], rfl⟩
    · next name _ hkind =>
      cases hpath
      exact Or.inr (Or.inl ⟨name, by rw [name?, hkind], rfl⟩)
    · obtain ⟨rest, hrest, rfl⟩ := Option.map_eq_some_iff.1 hpath
      refine Or.inr (Or.inr ⟨rest, chain?_eq_some.2 ⟨hrest, ?_⟩, rfl⟩)
      rwa [List.head?_append_of_ne_nil _ (memberPath?_ne_nil hrest)] at hroot
  · cases hpath

/-- What is below a chain has a chain around it. -/
theorem Formed.below_chain {n : Node} (h : n.Formed) :
    ∀ {path : List String}, n.chain? = some path →
      ∀ x ∈ outlineAll (fun _ => true) (some n) n.children,
        ∃ p, x.1 = some p ∧ p.chain?.isSome = true := by
  induction h with
  | @mk role kind span cs hformed hbelow ih =>
    intro path hpath x hx
    have hn : Formed (Node.mk role kind span cs) := .mk hformed hbelow
    set n := Node.mk role kind span cs
    obtain ⟨object, property, last, hchildren, -, hlast, hcases⟩ := hn.chain_cases hpath
    have hleaf {c : Node} (hc : c ∈ n.children) (hname : c.name?.isSome = true)
        (hx : x ∈ c.outline (fun _ => true) (some n)) : x = (some n, c) := by
      rwa [outline_of_children_eq_nil ((hn.child hc).children_eq_nil hname),
        List.mem_singleton] at hx
    have hhere {c : Node} (hx : x = (some n, c)) : ∃ p, x.1 = some p ∧ p.chain?.isSome = true :=
      ⟨n, by rw [hx], by rw [hpath]; rfl⟩
    rw [hchildren, outlineAll_eq_flatMap, List.flatMap_cons, List.flatMap_singleton,
      List.mem_append] at hx
    rcases hx with hx | hx
    · have hmem : object ∈ n.children := by simp [hchildren]
      rcases hcases with ⟨hname, -⟩ | ⟨name, hname, -⟩ | ⟨rest, hrest, -⟩
      · exact hhere (hleaf hmem (by rw [hname]; rfl) hx)
      · exact hhere (hleaf hmem (by rw [hname]; rfl) hx)
      · obtain ⟨r', k', s', cs'⟩ := object
        rw [outline, if_pos rfl] at hx
        rcases List.mem_cons.1 hx with hx | hx
        · exact hhere hx
        · exact ih _ hmem hrest x hx
    · exact hhere (hleaf (by simp [hchildren]) (by rw [hlast]; rfl) hx)

theorem path?_of_name? {n : Node} {name : String} (h : n.name? = some name) :
    n.path? = some [name] := by
  unfold name? at h
  split at h
  · next hkind =>
    cases h
    rw [path?, hkind]
  · cases h

/-- The part of a chain that is left when its last properties are taken away spells what is left of
the path. -/
theorem Formed.path?_chainBase {n : Node} (h : n.Formed) :
    ∀ {path : List String} {k : Nat}, n.chain? = some path → 1 ≤ k → k ≤ path.length →
      (n.chainBase (path.length - k)).path? = some (path.take k) := by
  induction h with
  | @mk role kind span cs hformed hbelow ih =>
    intro path k hpath hpos hle
    have hn : Formed (Node.mk role kind span cs) := .mk hformed hbelow
    set n := Node.mk role kind span cs
    have hwhole : (n.chainBase (path.length - path.length)).path? =
        some (path.take path.length) := by
      rw [Nat.sub_self, List.take_length, chainBase]
      exact (path?_of_memberPath? (chain?_eq_some.1 hpath).1).1
    obtain ⟨object, property, last, hchildren, hobject, -, hcases⟩ := hn.chain_cases hpath
    rcases Nat.lt_or_eq_of_le hle with hlt | rfl
    · rcases hcases with ⟨-, rfl⟩ | ⟨name, hname, rfl⟩ | ⟨rest, hrest, rfl⟩
      · simp only [List.length_singleton] at hlt
        omega
      · obtain rfl : k = 1 := by
          simp only [List.length_cons, List.length_nil] at hlt
          omega
        simpa [chainBase, hobject] using path?_of_name? hname
      · rw [List.length_append, List.length_singleton] at hlt ⊢
        have hstep : rest.length + 1 - k = rest.length - k + 1 := by omega
        rw [hstep, chainBase, hobject, List.take_append_of_le_length (by omega)]
        have hmem : object ∈ n.children := by simp [hchildren]
        exact ih object hmem hrest hpos (by omega)
    · exact hwhole

mutual

/-- Of a node on a walk, the node around it is where the walk began or has been entered. -/
theorem entered_of_mem_outline {enter : Node → Bool} {x : Option Node × Node} :
    ∀ {n : Node} {parent : Option Node}, x ∈ n.outline enter parent →
      x.1 = parent ∨ ∃ p, x.1 = some p ∧ enter p = true
  | mk r k s cs, parent, hx => by
    rw [outline] at hx
    rcases List.mem_cons.1 hx with rfl | hx
    · exact Or.inl rfl
    · split_ifs at hx with henter
      · rcases entered_of_mem_outlineAll hx with hparent | hinner
        · exact Or.inr ⟨_, hparent, henter⟩
        · exact Or.inr hinner
      · cases hx

/-- What is in an outline is in the row, or its parent was entered. -/
theorem entered_of_mem_outlineAll {enter : Node → Bool} {x : Option Node × Node} :
    ∀ {ns : List Node} {parent : Option Node}, x ∈ outlineAll enter parent ns →
      x.1 = parent ∨ ∃ p, x.1 = some p ∧ enter p = true
  | n :: ns, parent, hx => by
    rw [outlineAll] at hx
    rcases List.mem_append.1 hx with hx | hx
    · exact entered_of_mem_outline hx
    · exact entered_of_mem_outlineAll hx

end

end Script.Node

namespace Pass

open Node

variable {c : Context} {path : List String} {source : String} {program : Node}

/-! ## Places -/

/-- The place that a node is: a chain that is no part of a longer one, or an identifier that stands for
a binding and begins no chain. Of the window alone nothing is left but the empty path. -/
def Site.whole? (parent : Option Node) (n : Node) : Option Site :=
  if parent.any (·.chain?.isSome) then none
  else match n.kind with
  | .memberExpression _ => n.chain?.map (⟨parent, n, ·⟩)
  | .identifier name =>
    if n.isReference parent then some ⟨parent, n, if name = "window" then [] else [name]⟩ else none
  | _ => none

/-- All places of a program at which a path can be referred to. -/
def places (program : Node) : List Site :=
  program.family.filterMap fun (parent, n) => Site.whole? parent n

theorem holdsReferences_eq (n : Node) : holdsReferences n = n.chain?.isNone := by
  unfold holdsReferences chain?
  cases n.memberPath? with
  | none => rfl
  | some path => by_cases hroot : path.head? = some "this" <;> simp [Option.filter, hroot]

theorem Site.whole?_of_parent {p n : Node} (h : p.chain?.isSome = true) :
    Site.whole? (some p) n = none := by
  simp [Site.whole?, h]

/-- A walk that does not enter chains comes to all places. -/
theorem filterMap_whole? {n : Node} (h : n.Formed) :
    ∀ {parent : Option Node}, parent.any (·.chain?.isSome) = false →
      (n.outline (fun _ => true) parent).filterMap (fun x => Site.whole? x.1 x.2) =
        (n.outline holdsReferences parent).filterMap fun x => Site.whole? x.1 x.2 := by
  induction h with
  | @mk role kind span cs hformed hbelow ih =>
    intro parent hparent
    have hn : Formed (Node.mk role kind span cs) := .mk hformed hbelow
    rw [outline, outline, if_pos rfl, List.filterMap_cons, List.filterMap_cons, holdsReferences_eq]
    cases hchain : (Node.mk role kind span cs).chain? with
    | none =>
      simp only [Option.isNone_none, if_true, outlineAll_eq_flatMap, List.filterMap_flatMap]
      rw [List.flatMap_congr fun c hc => ih c hc (by simp [hchain])]
    | some path =>
      have hnone : (outlineAll (fun _ => true) (some (Node.mk role kind span cs)) cs).filterMap
          (fun x => Site.whole? x.1 x.2) = [] := by
        refine List.filterMap_eq_nil_iff.2 fun x hx => ?_
        obtain ⟨p, hp, hsome⟩ := hn.below_chain hchain x hx
        rw [hp, Site.whole?_of_parent hsome]
      simp [hnone]

/-- The places of a program are the chains that no chain holds. -/
theorem places_eq (h : program.Formed) :
    places program =
      (program.outline holdsReferences none).filterMap fun x => Site.whole? x.1 x.2 :=
  filterMap_whole? h rfl

/-- On such a walk, the places are the sites of references and the windows that stand alone. -/
theorem Site.of?_eq {parent : Option Node} {n : Node}
    (h : parent.any (·.chain?.isSome) = false) :
    Site.of? parent n = (Site.whole? parent n).filter (·.path ≠ []) := by
  rw [Site.of?, Site.whole?, h]
  simp only [Bool.false_eq_true, if_false]
  cases n.kind with
  | memberExpression computed =>
    change n.chain?.map _ = _
    cases hchain : n.chain? with
    | none => rfl
    | some path =>
      have hne := memberPath?_ne_nil (chain?_eq_some.1 hchain).1
      simp [Option.filter, hne]
  | identifier name =>
    cases n.isReference parent <;> by_cases hname : name = "window" <;>
      simp [Option.filter, hname]
  | _ => rfl

/-- References are looked for at all places but the windows that stand alone. -/
theorem referenceSites_eq (h : program.Formed) :
    referenceSites program = (places program).filter (·.path ≠ []) := by
  have hsite {x : Option Node × Node} (hx : x ∈ program.outline holdsReferences none) :
      Site.of? x.1 x.2 = (Site.whole? x.1 x.2).filter (·.path ≠ []) := by
    refine Site.of?_eq ?_
    rcases entered_of_mem_outline hx with hnone | ⟨p, hp, henter⟩
    · rw [hnone]
      rfl
    · rw [holdsReferences_eq, Option.isNone_iff_eq_none] at henter
      rw [hp, Option.any_some, henter]
      rfl
  rw [referenceSites, places_eq h, List.filter_filterMap]
  exact List.filterMap_congr fun x hx => hsite hx

/-! ## The longest known part of a path -/

/-- The path of the first `k` segments. -/
def beginning (path : List String) (k : Nat) : String := join "." (path.take k)

/-- The path of the first `k` segments is excluded, replaced or registered. -/
def Context.Knows (c : Context) (path : List String) (k : Nat) : Prop :=
  c.settings.isRedirected (beginning path k) = true ∨
    (c.registry.lookup (beginning path k)).isSome = true

/-- The first `k` segments are the longest part of the path that is known. -/
def Context.LongestKnown (c : Context) (path : List String) (k : Nat) : Prop :=
  IsGreatest {k | 1 ≤ k ∧ k ≤ path.length ∧ c.Knows path k} k

/-- What the first `k` segments stand for if they decide. -/
def Context.verdict (c : Context) (path : List String) (k : Nat) : Resolution :=
  if c.settings.isRedirected (beginning path k) then .ours
  else match c.registry.lookup (beginning path k) with
    | none => .unknown
    | some record => if record.module == c.moduleUrl then .ours else .exported record k

/-- If any part is known, one is the longest. -/
theorem exists_longestKnown {k : Nat} (hpos : 1 ≤ k) (hle : k ≤ path.length)
    (hknown : c.Knows path k) : ∃ k, c.LongestKnown path k := by
  have hbounded : BddAbove {k | 1 ≤ k ∧ k ≤ path.length ∧ c.Knows path k} :=
    ⟨path.length, fun _ hk => hk.2.1⟩
  exact ⟨_, Nat.sSup_mem ⟨k, hpos, hle, hknown⟩ hbounded, fun _ hk => le_csSup hbounded hk⟩

/-- The search goes past what is not known. -/
theorem resolve_eq_of_forall {n : Nat} :
    ∀ m, n ≤ m → (∀ k, n < k → k ≤ m → ¬c.Knows path k) → c.resolve path m = c.resolve path n := by
  intro m hm
  induction m, hm using Nat.le_induction with
  | base => exact fun _ => rfl
  | succ m hm ih =>
    intro h
    have hunknown := h (m + 1) (by omega) le_rfl
    rw [Context.Knows, not_or, Bool.not_eq_true, Bool.not_eq_true, Option.isSome_eq_false_iff,
      Option.isNone_iff_eq_none] at hunknown
    rw [Context.resolve, ← beginning, hunknown.1, hunknown.2]
    exact ih fun k hlt hle => h k hlt (by omega)

/-- The longest known part decides. -/
theorem resolve_of_longestKnown {k : Nat} (h : c.LongestKnown path k) :
    c.resolve path path.length = c.verdict path k := by
  obtain ⟨⟨hpos, hle, hknown⟩, hgreatest⟩ := h
  have hlonger (j : Nat) (hlt : k < j) (hle : j ≤ path.length) : ¬c.Knows path j := fun hj => by
    have := hgreatest ⟨by omega, hle, hj⟩
    omega
  rw [resolve_eq_of_forall path.length hle hlonger]
  obtain ⟨n, rfl⟩ : ∃ n, k = n + 1 := ⟨k - 1, by omega⟩
  rw [Context.resolve, Context.verdict, ← beginning]
  split_ifs with hredirected
  · rfl
  · cases hlookup : c.registry.lookup (beginning path (n + 1)) with
    | none =>
      rw [Context.Knows, hlookup] at hknown
      exact absurd hknown (by simp [hredirected])
    | some record => rfl

/-- A path of which nothing is known stands for nothing. -/
theorem resolve_of_not_longestKnown (h : ∀ k, ¬c.LongestKnown path k) :
    c.resolve path path.length = .unknown := by
  refine resolve_eq_of_forall path.length (Nat.zero_le _) fun k hpos hle hknown => ?_
  obtain ⟨k', hk'⟩ := exists_longestKnown hpos hle hknown
  exact h k' hk'

/-- A path is resolved to an export if and only if its longest known part is the path of an export of
another module and neither excluded nor replaced. -/
theorem resolve_eq_exported {record : ExportRecord} {k : Nat} :
    c.resolve path path.length = .exported record k ↔
      c.LongestKnown path k ∧ c.settings.isRedirected (beginning path k) = false ∧
        c.registry.lookup (beginning path k) = some record ∧ record.module ≠ c.moduleUrl := by
  constructor
  · intro h
    by_cases hknown : ∃ k, c.LongestKnown path k
    · obtain ⟨j, hj⟩ := hknown
      rw [resolve_of_longestKnown hj, Context.verdict] at h
      split_ifs at h with hredirected
      cases hlookup : c.registry.lookup (beginning path j) with
      | none =>
        rw [hlookup] at h
        cases h
      | some r =>
        rw [hlookup] at h
        dsimp only at h
        split_ifs at h with hmodule
        obtain ⟨rfl, rfl⟩ := Resolution.exported.inj h
        exact ⟨hj, by simpa using hredirected, hlookup, by simpa using hmodule⟩
    · rw [resolve_of_not_longestKnown (not_exists.1 hknown)] at h
      cases h
  · rintro ⟨hk, hdirect, hlookup, hforeign⟩
    rw [resolve_of_longestKnown hk, Context.verdict, hdirect, hlookup]
    simp [hforeign]

/-! ## Placeholders -/

/-- The references are to exports of other modules, each as it is registered and each once. Their
placeholders are numbered. -/
structure Findings.Tracks (f : Findings) (c : Context) : Prop where
  registered : ∀ p ∈ f.references, c.registry.lookup p.2.path = some p.2
  foreign : ∀ p ∈ f.references, p.2.module ≠ c.moduleUrl
  numbered : Table.keys f.references =
    (List.range f.references.length).map fun n => f.stem ++ toString n ++ "__"
  distinct : (f.references.map (·.2.path)).Nodup

theorem Findings.Tracks.start (source : String) (c : Context) : (Findings.start source).Tracks c :=
  ⟨by simp [Findings.start], by simp [Findings.start], rfl, .nil⟩

/-- No two references share a placeholder. -/
theorem Findings.Tracks.nodup {f : Findings} (h : f.Tracks c) :
    (Table.keys f.references).Nodup := by
  rw [h.numbered]
  refine List.nodup_range.map fun m n hmn => ?_
  have hdigits := congrArg String.toList hmn
  simp only [String.toList_append, List.append_cancel_left_eq, List.append_cancel_right_eq]
    at hdigits
  simpa [Nat.toString_eq_ofList_toDigits] using
    congrArg (fun cs => Nat.ofDigitChars 10 cs 0) hdigits

/-- An export of another module gets a placeholder. -/
theorem placeholderFor_spec {f : Findings} (hf : f.Tracks c) {name : String} {record : ExportRecord}
    (hlookup : c.registry.lookup name = some record) (hforeign : record.module ≠ c.moduleUrl) :
    (f.placeholderFor record).2.Tracks c ∧ f.references ⊆ (f.placeholderFor record).2.references ∧
      ((f.placeholderFor record).1, record) ∈ (f.placeholderFor record).2.references := by
  have hregistered : c.registry.lookup record.path = some record := by
    rw [(Registry.mem_of_lookup hlookup).2, hlookup]
  unfold Findings.placeholderFor
  split
  · next placeholder other hfind =>
    have hmem := List.mem_of_find?_eq_some hfind
    have hpath : other.path = record.path := by simpa using List.find?_some hfind
    obtain rfl : other = record := by
      have hother := hf.registered _ hmem
      rw [hpath, hregistered] at hother
      exact (Option.some.inj hother).symm
    exact ⟨hf, List.Subset.refl _, hmem⟩
  · have hmem {p : String × ExportRecord} {placeholder : String}
        (hp : p ∈ f.references ++ [(placeholder, record)]) :
        p ∈ f.references ∨ p = (placeholder, record) := by
      simpa using hp
    refine ⟨⟨fun p hp => ?_, fun p hp => ?_, ?_, ?_⟩, List.subset_append_left _ _, by simp⟩
    · rcases hmem hp with hp | rfl
      · exact hf.registered p hp
      · exact hregistered
    · rcases hmem hp with hp | rfl
      · exact hf.foreign p hp
      · exact hforeign
    · have hnumbered := hf.numbered
      unfold Table.keys at hnumbered ⊢
      simp [hnumbered, List.range_succ]
    · next hfind =>
      rw [List.find?_eq_none] at hfind
      simp only [List.map_append, List.map_cons, List.map_nil]
      refine List.nodup_append.2 ⟨hf.distinct, List.nodup_singleton _, ?_⟩
      rintro _ ha _ hb rfl
      obtain ⟨p, hp, hpath⟩ := List.mem_map.1 ha
      exact hfind p hp (by rw [hpath, List.mem_singleton.1 hb, beq_self_eq_true])

/-! ## Collecting -/

/-- What becomes of a place: the longest part that is known, if it is the export of another module and
not the whole of what is assigned to, is replaced by its placeholder. If it is excluded, replaced or the
module's own, or if no part is known, the place stays as it is. -/
structure Resolves (c : Context) (g : Findings) (s : Site) (edits : List Edit) : Prop where
  replaced : ∀ k record, c.LongestKnown s.path k →
    c.settings.isRedirected (beginning s.path k) = false →
    c.registry.lookup (beginning s.path k) = some record → record.module ≠ c.moduleUrl →
    ¬(k = s.path.length ∧ s.isAssigned = true) →
    ∃ part placeholder, part = s.node.chainBase (s.path.length - k) ∧
      part.path? = some (s.path.take k) ∧ (placeholder, record) ∈ g.references ∧
      edits = [.replace part.start part.stop placeholder]
  untouched : (∀ k, c.LongestKnown s.path k →
      c.settings.isRedirected (beginning s.path k) = true ∨
        ∃ record, c.registry.lookup (beginning s.path k) = some record ∧
          record.module = c.moduleUrl) →
    edits = []

/-- What is resolved stays so when references are added. -/
theorem Resolves.mono {g h : Findings} {s : Site} {edits : List Edit}
    (hsubset : g.references ⊆ h.references) (hr : Resolves c g s edits) : Resolves c h s edits where
  replaced k record hk hdirect hlookup hforeign hread := by
    obtain ⟨part, placeholder, hpart, hpath, hmem, hedits⟩ :=
      hr.replaced k record hk hdirect hlookup hforeign hread
    exact ⟨part, placeholder, hpart, hpath, hsubset hmem, hedits⟩
  untouched := hr.untouched

/-- The parts of the place spell the beginnings of its path. -/
def Site.Spelled (s : Site) : Prop :=
  ∀ k, 1 ≤ k → k ≤ s.path.length →
    (s.node.chainBase (s.path.length - k)).path? = some (s.path.take k)

theorem spelled_of_mem_places (h : program.Formed) {s : Site} (hs : s ∈ places program) :
    s.Spelled := by
  obtain ⟨⟨parent, n⟩, hx, hwhole⟩ := List.mem_filterMap.1 hs
  have hn : n.Formed := h.of_mem_walk (List.mem_map_of_mem hx)
  change Site.whole? parent n = some s at hwhole
  unfold Site.whole? at hwhole
  intro k hpos hle
  cases hkind : n.kind with
  | memberExpression computed =>
    simp only [hkind] at hwhole
    split_ifs at hwhole
    obtain ⟨path, hpath, rfl⟩ := Option.map_eq_some_iff.1 hwhole
    exact hn.path?_chainBase hpath hpos hle
  | identifier name =>
    simp only [hkind] at hwhole
    split_ifs at hwhole
    · cases hwhole
      simp only [List.length_nil] at hle
      omega
    · cases hwhole
      simp only [List.length_singleton] at hle
      obtain rfl : k = 1 := by omega
      exact path?_of_name? (show n.name? = some name by rw [name?, hkind])
  | _ =>
    simp only [hkind] at hwhole
    split_ifs at hwhole

theorem bind_read {α : Type} (k : Context → Step α) (f : Findings) :
    ((read : Step Context) >>= k) c f = k c c f :=
  rfl

/-- Where a path is used, the part that is an export becomes its placeholder. -/
theorem useExport_settled {s : Site} {f : Findings} (hf : f.Tracks c) (hs : s.Spelled)
    {record : ExportRecord} {k : Nat}
    (hresolve : c.resolve s.path s.path.length = .exported record k) :
    ∃ edits g, useExport s record k c f = .ok edits g ∧ g.Tracks c ∧
      f.references ⊆ g.references ∧ Resolves c g s edits := by
  obtain ⟨hk, hdirect, hlookup, hforeign⟩ := resolve_eq_exported.1 hresolve
  obtain ⟨htracks, hsubset, hmem⟩ := placeholderFor_spec hf hlookup hforeign
  refine ⟨_, (f.placeholderFor record).2, rfl, htracks, hsubset, ?_, fun hstays => ?_⟩
  · intro k' record' hk' hdirect' hlookup' hforeign' _
    obtain ⟨rfl, rfl⟩ := Resolution.exported.inj
      (hresolve.symm.trans (resolve_eq_exported.2 ⟨hk', hdirect', hlookup', hforeign'⟩))
    exact ⟨_, (f.placeholderFor record).1, rfl, hs k hk.1.1 hk.1.2.1, hmem, rfl⟩
  · exact absurd (hstays k hk) (by simp [hdirect, hlookup, hforeign])

/-- An export of another module that is assigned to is not replaced by its placeholder. -/
theorem setExport_settled {s : Site} {f : Findings} (hf : f.Tracks c) {record : ExportRecord}
    (hassigned : s.isAssigned = true)
    (hresolve : c.resolve s.path s.path.length = .exported record s.path.length) :
    ∃ edits g, setExport source s c f = .ok edits g ∧ g.Tracks c ∧
      f.references ⊆ g.references ∧ Resolves c g s edits := by
  have hresolves (g : Findings) (edits : List Edit) : Resolves c g s edits := by
    obtain ⟨hk, hdirect, hlookup, hforeign⟩ := resolve_eq_exported.1 hresolve
    refine ⟨fun k' record' hk' hdirect' hlookup' hforeign' hread => ?_, fun hstays => ?_⟩
    · obtain ⟨rfl, hlength⟩ := Resolution.exported.inj
        (hresolve.symm.trans (resolve_eq_exported.2 ⟨hk', hdirect', hlookup', hforeign'⟩))
      exact absurd ⟨hlength.symm, hassigned⟩ hread
    · exact absurd (hstays _ hk) (by simp [hdirect, hlookup, hforeign])
  have hwarned (code message : String) (help about : Option String) :
      ∃ edits g, (warn code message help about >>= fun _ => return [] : Step (List Edit)) c f =
          .ok edits g ∧ g.Tracks c ∧ f.references ⊆ g.references ∧ Resolves c g s edits :=
    ⟨[], _, rfl, ⟨hf.registered, hf.foreign, hf.numbered, hf.distinct⟩, List.Subset.refl _, hresolves _ _⟩
  unfold setExport
  rw [bind_read]
  dsimp only
  rcases hassignment : s.parent.bind fun p => p.plainAssignment?.map fun sides => (p, sides.2)
    with _ | ⟨p, value⟩ <;> rcases hsetter : c.setter? s.path with _ | setter <;>
    simp only [hassignment]
  case some.some =>
    obtain ⟨hsome, hforeign⟩ := Option.filter_eq_some_iff.1 hsetter
    obtain ⟨name, -, hlookup⟩ := Option.bind_eq_some_iff.1 hsome
    obtain ⟨htracks, hsubset, -⟩ := placeholderFor_spec hf hlookup (bne_iff_ne.1 hforeign)
    exact ⟨_, (f.placeholderFor setter).2, rfl, htracks, hsubset, hresolves _ _⟩
  all_goals exact hwarned _ _ _ _

/-- The collection comes through a place, and the longest known part decides. -/
theorem collectSite_settled (source : String) {s : Site} {f : Findings} (hf : f.Tracks c) (hs : s.Spelled) :
    ∃ edits g, collectSite source s c f = .ok edits g ∧ g.Tracks c ∧
      f.references ⊆ g.references ∧ Resolves c g s edits := by
  have hstays {g : Findings} (h : ∀ record k, c.resolve s.path s.path.length ≠ .exported record k) :
      Resolves c g s [] :=
    ⟨fun k record hk hdirect hlookup hforeign _ =>
      absurd (resolve_eq_exported.2 ⟨hk, hdirect, hlookup, hforeign⟩) (h record k), fun _ => rfl⟩
  unfold collectSite
  rw [bind_read]
  cases hresolve : c.resolve s.path s.path.length with
  | ours => exact ⟨[], f, rfl, hf, List.Subset.refl _, hstays (by simp [hresolve])⟩
  | exported record k =>
    dsimp only
    split_ifs with hwhole
    · rw [Bool.and_eq_true, beq_iff_eq] at hwhole
      exact setExport_settled hf hwhole.1 (hwhole.2 ▸ hresolve)
    · exact useExport_settled hf hs hresolve
  | unknown =>
    dsimp only
    split_ifs
    · exact ⟨[], _, rfl, ⟨hf.registered, hf.foreign, hf.numbered, hf.distinct⟩, List.Subset.refl _,
        hstays (by simp [hresolve])⟩
    · exact ⟨[], f, rfl, hf, List.Subset.refl _, hstays (by simp [hresolve])⟩

/-- What the collection does for each place by itself it does for all places. -/
theorem mapM_collectSite {R : Findings → Site → List Edit → Prop}
    (hmono : ∀ ⦃g h : Findings⦄ ⦃s : Site⦄ ⦃edits : List Edit⦄, g.references ⊆ h.references →
      R g s edits → R h s edits)
    (hstep : ∀ ⦃s : Site⦄ ⦃f : Findings⦄, f.Tracks c → s.Spelled →
      ∃ edits g, collectSite source s c f = .ok edits g ∧ g.Tracks c ∧
        f.references ⊆ g.references ∧ R g s edits) :
    ∀ {sites : List Site} {f : Findings}, f.Tracks c → (∀ s ∈ sites, s.Spelled) →
      ∃ rows g, sites.mapM (collectSite source) c f = .ok rows g ∧ g.Tracks c ∧
        f.references ⊆ g.references ∧ List.Forall₂ (R g) sites rows
  | [], f, hf, _ => ⟨[], f, rfl, hf, List.Subset.refl _, .nil⟩
  | s :: rest, f, hf, hs => by
    obtain ⟨hs, hrest⟩ := List.forall_mem_cons.1 hs
    obtain ⟨edits, g, hok, hg, hsubset, hedits⟩ := hstep hf hs
    obtain ⟨rows, h, hoks, hh, hsubsets, hrows⟩ := mapM_collectSite hmono hstep hg hrest
    refine ⟨edits :: rows, h, ?_, hh, List.Subset.trans hsubset hsubsets,
      .cons (hmono hsubsets hedits) hrows⟩
    rw [List.mapM_cons, bind_of_ok hok, bind_of_ok hoks]
    rfl

/-- The collection comes through all places. -/
theorem mapM_collectSite_settled (source : String) {sites : List Site} {f : Findings}
    (hf : f.Tracks c) (hs : ∀ s ∈ sites, s.Spelled) :
    ∃ rows g, sites.mapM (collectSite source) c f = .ok rows g ∧ g.Tracks c ∧
      f.references ⊆ g.references ∧
      List.Forall₂ (fun s edits => Resolves c g s edits ∧ s.Changed edits) sites rows := by
  refine mapM_collectSite (fun _ _ _ _ hsubset h => ⟨h.1.mono hsubset, h.2⟩)
    (fun _ _ hf hs => ?_) hf hs
  obtain ⟨edits, g, hok, hg, hsubset, hresolves⟩ := collectSite_settled source hf hs
  exact ⟨edits, g, hok, hg, hsubset, hresolves, collectSite_ok hok⟩

/-! ## Edits -/

/-- A place is an identifier that refers to a binding, or a chain that the walk does not enter. -/
theorem Site.whole?_eq_some {parent : Option Node} {n : Node} {s : Site}
    (h : Site.whole? parent n = some s) : s.parent = parent ∧ s.node = n ∧
      ((∃ name, n.kind = .identifier name) ∧ n.isReference parent = true ∨
        holdsReferences n = false ∧ ¬n.IsName) := by
  unfold Site.whole? at h
  cases hkind : n.kind with
  | memberExpression computed =>
    simp only [hkind] at h
    split_ifs at h
    obtain ⟨path, hpath, rfl⟩ := Option.map_eq_some_iff.1 h
    refine ⟨rfl, rfl, Or.inr ⟨by simp [holdsReferences_eq, hpath], fun hname => ?_⟩⟩
    simpa [name?, hkind] using hname.1
  | identifier name =>
    simp only [hkind] at h
    split_ifs at h with hparent href
    all_goals
      cases h
      exact ⟨rfl, rfl, Or.inl ⟨⟨name, rfl⟩, href⟩⟩
  | _ =>
    simp only [hkind] at h
    split_ifs at h

/-- Edits of different places do not overlap. -/
theorem places_apart (hlaid : program.LaidIn source) (hformed : program.Formed)
    {rows : List (List Edit)} (hrows : List.Forall₂ Site.Changed (places program) rows) :
    AllApart source.length rows.flatten := by
  rw [places_eq hformed] at hrows
  obtain ⟨parts, hparts, hflatten⟩ := exists_of_forall₂_filterMap hrows
  rw [← hflatten]
  have henter (n : Node) (hn : n.kind = .assignmentPattern) : holdsReferences n = true := by
    rw [holdsReferences, memberPath?_of_kind fun computed => by simp [hn]]
  refine hlaid.walk_apart henter (forall₂_imp_of_mem hparts fun x hx edits hedits => ?_)
  obtain ⟨parent, n⟩ := x
  rcases hedits with ⟨s, hs, hchanged⟩ | rfl
  · obtain ⟨rfl, rfl, hplace⟩ := Site.whole?_eq_some hs
    exact hchanged.permitted hlaid hx hplace
  · exact .nil

/-- Rows for the chosen members of a list make rows for all of them. -/
theorem exists_forall₂_of_filter {α β : Type} {p : α → Bool} {R : α → List β → Prop}
    (hR : ∀ a, p a = false → R a []) :
    ∀ {l : List α} {rows : List (List β)}, List.Forall₂ R (l.filter p) rows →
      ∃ rows', List.Forall₂ R l rows' ∧ rows'.flatten = rows.flatten
  | [], rows, h => by
    cases h
    exact ⟨[], .nil, rfl⟩
  | a :: l, rows, h => by
    cases hp : p a with
    | false =>
      rw [List.filter_cons_of_neg (by simp [hp])] at h
      obtain ⟨rows', hrows, hflatten⟩ := exists_forall₂_of_filter hR h
      exact ⟨[] :: rows', .cons (hR a hp) hrows, hflatten⟩
    | true =>
      rw [List.filter_cons_of_pos hp] at h
      obtain ⟨row, rest, hrow, hrest, rfl⟩ := List.forall₂_cons_left_iff.1 h
      obtain ⟨rows', hrows, hflatten⟩ := exists_forall₂_of_filter hR hrest
      exact ⟨row :: rows', .cons hrow hrows, by rw [List.flatten_cons, hflatten, List.flatten_cons]⟩

/-- The edits are beside the place. -/
def Site.Beside (s : Site) (edits : List Edit) : Prop :=
  ∀ e ∈ edits, e.stop ≤ s.node.start ∨ s.node.stop ≤ e.start

/-- Where nothing is done for a place, it might as well be replaced as a whole. -/
theorem exists_replaced (text : String) {sites : List Site} {rows : List (List Edit)}
    (h : List.Forall₂ Site.Changed sites rows) :
    ∃ rows', List.Forall₂ Site.Changed sites rows' ∧ rows.flatten ⊆ rows'.flatten ∧
      ∀ s edits, (s, edits) ∈ sites.zip rows → edits = [] →
        Edit.replace s.node.start s.node.stop text ∈ rows'.flatten := by
  induction h with
  | nil => exact ⟨[], .nil, List.Subset.refl _, by simp⟩
  | @cons s row sites rows hrow hrows ih =>
    obtain ⟨rows', hrows', hsubset, hwhole⟩ := ih
    by_cases hempty : row = []
    · subst hempty
      refine ⟨[.replace s.node.start s.node.stop text] :: rows',
        .cons (Or.inr (Or.inl ⟨0, text, rfl⟩)) hrows', ?_, ?_⟩
      · exact List.subset_append_of_subset_right _ hsubset
      · intro t edits ht hedits
        rcases List.mem_cons.1 ht with ht | ht
        · cases ht
          simp
        · exact List.mem_append_right _ (hwhole t edits ht hedits)
    · refine ⟨row :: rows', .cons hrow hrows', ?_, ?_⟩
      · exact List.append_subset.2 ⟨List.subset_append_left _ _,
          List.subset_append_of_subset_right _ hsubset⟩
      · intro t edits ht hedits
        rcases List.mem_cons.1 ht with ht | ht
        · cases ht
          exact absurd hedits hempty
        · exact List.mem_append_right _ (hwhole t edits ht hedits)

/-- A place for which nothing is done is beside all edits. -/
theorem beside_of_eq_nil (hlaid : program.LaidIn source) (hformed : program.Formed)
    {rows : List (List Edit)} (hrows : List.Forall₂ Site.Changed (places program) rows)
    {s : Site} (hs : (s, []) ∈ (places program).zip rows) : s.Beside rows.flatten := by
  intro e he
  -- A text that is not that of the edit makes the two edits different, so they have to be apart.
  obtain ⟨rows', hrows', hsubset, hwhole⟩ := exists_replaced (e.text ++ " ") hrows
  have hne : e ≠ .replace s.node.start s.node.stop (e.text ++ " ") := fun h => by
    have htext := congrArg (fun d => d.text.length) h
    simp [Edit.replace] at htext
  have : Std.Symm Edit.Apart := ⟨fun _ _ => Edit.Apart.symm⟩
  have hapart := (places_apart hlaid hformed hrows').apart.forall (hsubset he)
    (hwhole s [] hs rfl) hne
  simpa [Edit.Apart, Edit.replace] using hapart

/-- The collection of references comes through every program. At each place of a reference the longest
known part of the path decides. Where it is the export of another module, and not the whole of what is
assigned to, exactly the part of the chain that spells it is replaced by the placeholder of its record.
Where it is excluded, replaced or the module's own, or where no part is known, the place is left as it
is: no edit touches it. There are no other edits. No placeholder stands for an export of the module
itself, and each record has one of its own. -/
theorem collectReferences_longest_known {f : Findings} (hparse : parse source = .ok program)
    (hlaid : program.LaidIn source) (hformed : program.Formed) (hf : f.Tracks c) :
    ∃ rows text g, collectReferences source c f = .ok text g ∧
      List.Forall₂ (Resolves c g) (places program) rows ∧
      AllApart source.length rows.flatten ∧ applyEdits source rows.flatten = .ok text ∧
      (∀ s, (s, []) ∈ (places program).zip rows → s.Beside rows.flatten) ∧
      (∀ p ∈ g.references, p.2.module ≠ c.moduleUrl) ∧ (Table.keys g.references).Nodup ∧
      (g.references.map (·.2)).Nodup := by
  have hspelled : ∀ s ∈ referenceSites program, s.Spelled := fun s hs => by
    rw [referenceSites_eq hformed] at hs
    exact spelled_of_mem_places hformed (List.mem_of_mem_filter hs)
  obtain ⟨siteRows, g, hcollect, hg, -, hsites⟩ := mapM_collectSite_settled source hf hspelled
  -- The window alone has no beginning that could be known, so nothing is to be done for it.
  have hwindow (s : Site) (hs : decide (s.path ≠ []) = false) :
      Resolves c g s [] ∧ s.Changed [] := by
    refine ⟨⟨fun k record hk => ?_, fun _ => rfl⟩, Or.inl rfl⟩
    obtain ⟨⟨hpos, hle, -⟩, -⟩ := hk
    simp only [ne_eq, decide_not, Bool.not_eq_false', decide_eq_true_eq] at hs
    rw [hs, List.length_nil] at hle
    omega
  rw [referenceSites_eq hformed] at hsites
  obtain ⟨rows, hrows, hflatten⟩ := exists_forall₂_of_filter hwindow hsites
  have hchanged : List.Forall₂ Site.Changed (places program) rows := hrows.imp fun _ _ h => h.2
  have hapart := places_apart hlaid hformed hchanged
  obtain ⟨text, htext⟩ := hapart.applyEdits
  refine ⟨rows, text, g, ?_, hrows.imp fun _ _ h => h.1, hapart, htext,
    fun s hs => beside_of_eq_nil hlaid hformed hchanged hs, hg.foreign, hg.nodup,
    .of_map ExportRecord.path (by rw [List.map_map]; exact hg.distinct)⟩
  unfold collectReferences
  rw [bind_of_ok (readProgram_eq_ok.2 ⟨hparse, rfl⟩), bind_of_ok hcollect, ← hflatten]
  exact edit_eq_ok.2 ⟨htext, rfl⟩

/-- Chains of which no part, one part or two parts are known; two of the known parts are assigned to,
one of them as a whole. -/
def knownChains : String := "P.a.b.c(P.a, P.z);\nP.a.b = P.a.d = 1;"

/-- Other modules export `P.a` and `P.a.b`. -/
def chainContext : Context where
  file := { url := "a.html", contents := knownChains }
  moduleUrl := "./a.js"
  settings := { namespaces := ["P"] }
  registry := [⟨"P.a", "./b.js", "a"⟩, ⟨"P.a.b", "./c.js", "b"⟩]

theorem collectReferences_longest_known_chains :
    ∃ program, parse knownChains = .ok program ∧
      ∃ rows text g,
        collectReferences knownChains chainContext (Findings.start knownChains) = .ok text g ∧
        text = "__modulizerref0__.c(__modulizerref1__, P.z);\nP.a.b = __modulizerref1__.d = 1;" ∧
        g.references = [("__modulizerref0__", ⟨"P.a.b", "./c.js", "b"⟩),
          ("__modulizerref1__", ⟨"P.a", "./b.js", "a"⟩)] ∧
        List.Forall₂ (Resolves chainContext g) (places program) rows ∧
        AllApart knownChains.length rows.flatten ∧ applyEdits knownChains rows.flatten = .ok text ∧
        (∀ s, (s, []) ∈ (places program).zip rows → s.Beside rows.flatten) ∧
        (∀ p ∈ g.references, p.2.module ≠ chainContext.moduleUrl) ∧
        (Table.keys g.references).Nodup ∧ (g.references.map (·.2)).Nodup := by
  obtain ⟨program, hparse, hprogram⟩ := @exists_parse knownChains
    (fun program => decide (program.LaidIn knownChains ∧ program.Formed)) (by decide +kernel)
  obtain ⟨hlaid, hformed⟩ := of_decide_eq_true hprogram
  obtain ⟨rows, text, g, hcollect, hresolves⟩ :=
    collectReferences_longest_known hparse hlaid hformed (.start knownChains chainContext)
  have hresult : (Failing.outcome? (collectReferences knownChains chainContext)
      (Findings.start knownChains)).map (fun r => (r.1, r.2.references)) =
        some ("__modulizerref0__.c(__modulizerref1__, P.z);\nP.a.b = __modulizerref1__.d = 1;",
          [("__modulizerref0__", ⟨"P.a.b", "./c.js", "b"⟩),
            ("__modulizerref1__", ⟨"P.a", "./b.js", "a"⟩)]) := by decide +kernel
  rw [Failing.outcome?_of_ok hcollect] at hresult
  obtain ⟨htext, hreferences⟩ := Prod.mk.inj (Option.some.inj hresult)
  exact ⟨program, hparse, rows, text, g, hcollect, htext, hreferences, hresolves⟩

end Pass

end HtmlModules
