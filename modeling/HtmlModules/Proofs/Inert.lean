import HtmlModules.Proofs.Batch
import HtmlModules.Proofs.Failing
import HtmlModules.Proofs.Pipeline
import HtmlModules.Proofs.Table
import Mathlib.Data.List.DropRight

/-!
# Programs with nothing to convert

A program is `Inert` if none of the passes over an inline script has anything to do with it. Each
stage then `Idles`: it gives the text that it was given and finds nothing. So a run of all of them
only trims the text at its ends (`passesThrough_of_inert`).
-/

namespace HtmlModules

open Text Script

namespace Script.Node

variable {n : Node}

/-! ## Walks and paths -/

theorem self_mem_outline (enter : Node → Bool) (parent : Option Node) (n : Node) :
    (parent, n) ∈ n.outline enter parent := by
  obtain ⟨r, k, s, cs⟩ := n
  rw [outline]
  exact List.mem_cons_self

mutual

/-- A walk comes to the children of each node that it enters. -/
theorem child_mem_outline {enter : Node → Bool} {x : Option Node × Node} {c : Node}
    (hc : c ∈ x.2.children) (henter : enter x.2 = true) :
    ∀ {n : Node} {parent : Option Node}, x ∈ n.outline enter parent →
      (some x.2, c) ∈ n.outline enter parent
  | mk r k s cs, parent, hx => by
    rw [outline] at hx ⊢
    refine List.mem_cons_of_mem _ ?_
    rcases List.mem_cons.1 hx with rfl | hx
    · rw [if_pos henter, outlineAll_eq_flatMap]
      exact List.mem_flatMap.2 ⟨c, hc, self_mem_outline _ _ c⟩
    · split_ifs at hx ⊢
      · exact child_mem_outlineAll hc henter hx
      · cases hx

/-- The children of a node that is entered are in the outline. -/
theorem child_mem_outlineAll {enter : Node → Bool} {x : Option Node × Node} {c : Node}
    (hc : c ∈ x.2.children) (henter : enter x.2 = true) :
    ∀ {ns : List Node} {parent : Option Node}, x ∈ outlineAll enter parent ns →
      (some x.2, c) ∈ outlineAll enter parent ns
  | n :: ns, parent, hx => by
    rw [outlineAll] at hx ⊢
    rcases List.mem_append.1 hx with hx | hx
    · exact List.mem_append_left _ (child_mem_outline hc henter hx)
    · exact List.mem_append_right _ (child_mem_outlineAll hc henter hx)

end

theorem self_mem_walk (n : Node) : n ∈ n.walk :=
  List.mem_map_of_mem (self_mem_outline _ none n)

/-- The children of a node of the program are nodes of it. -/
theorem mem_walk_of_mem_children {m c : Node} (hm : m ∈ n.walk) (hc : c ∈ m.children) :
    c ∈ n.walk := by
  obtain ⟨x, hx, rfl⟩ := List.mem_map.1 hm
  exact List.mem_map_of_mem (child_mem_outline hc rfl hx)

theorem mem_walk_of_child? {m c : Node} {role : Role} (hm : m ∈ n.walk)
    (hc : m.child? role = some c) : c ∈ n.walk :=
  mem_walk_of_mem_children hm (List.mem_of_find?_eq_some hc)

mutual

/-- A walk from a node of the tree does not leave the tree. -/
theorem outline_mem_walk {enter : Node → Bool} {x : Option Node × Node} :
    ∀ {m : Node} {parent : Option Node}, m ∈ n.walk → x ∈ m.outline enter parent → x.2 ∈ n.walk
  | mk r k s cs, parent, hm, hx => by
    rw [outline] at hx
    rcases List.mem_cons.1 hx with rfl | hx
    · exact hm
    · split_ifs at hx
      · exact outlineAll_mem_walk (fun c hc => mem_walk_of_mem_children hm hc) hx
      · cases hx

/-- What is in the outline of nodes of a tree is a node of the tree. -/
theorem outlineAll_mem_walk {enter : Node → Bool} {x : Option Node × Node} :
    ∀ {ms : List Node} {parent : Option Node}, ms ⊆ n.walk → x ∈ outlineAll enter parent ms →
      x.2 ∈ n.walk
  | m :: ms, parent, hms, hx => by
    rw [outlineAll] at hx
    rcases List.mem_append.1 hx with hx | hx
    · exact outline_mem_walk (hms List.mem_cons_self) hx
    · exact outlineAll_mem_walk (fun c hc => hms (List.mem_cons_of_mem _ hc)) hx

end

theorem mem_walk_of_mem_outline {enter : Node → Bool} {x : Option Node × Node}
    (h : x ∈ n.outline enter none) : x.2 ∈ n.walk :=
  outline_mem_walk (self_mem_walk n) h

/-- A chain of properties spells its path and is no name. -/
theorem path?_of_memberPath? {path : List String} (h : n.memberPath? = some path) :
    n.path? = some path ∧ n.name? = none := by
  cases hkind : n.kind with
  | memberExpression computed => simp [path?, name?, hkind, h]
  | _ =>
    rw [memberPath?_of_kind (by simp [hkind])] at h
    cases h

end Script.Node

namespace Pass

variable {α β : Type} {c : Context}

/-! ## Steps that find nothing -/

/-- Nothing was found, apart from what was reported. -/
structure Findings.Blank (f : Findings) : Prop where
  localNames : f.localNames = []
  exports : f.exports = []
  namespaceFunctions : f.namespaceFunctions = []
  references : f.references = []
  deferred : f.deferred = []
  importCount : f.importCount = 0

/-- If nothing was found before, the step gives `a`, and still nothing is found. -/
def Idles (c : Context) (m : Step α) (a : α) : Prop :=
  ∀ f : Findings, f.Blank → ∃ g : Findings, m c f = .ok a g ∧ g.Blank

namespace Idles

theorem pure (c : Context) (a : α) : Idles c (Pure.pure a : Step α) a :=
  fun f hf => ⟨f, rfl, hf⟩

theorem bind {m : Step α} {k : α → Step β} {a : α} {b : β} (hm : Idles c m a)
    (hk : Idles c (k a) b) : Idles c (m >>= k) b := by
  intro f hf
  obtain ⟨g, hg, hblank⟩ := hm f hf
  rw [bind_of_ok hg]
  exact hk g hblank

/-- What a step reads is its context. -/
theorem read_bind {k : Context → Step β} {b : β} (hk : Idles c (k c) b) :
    Idles c (read >>= k) b :=
  hk

/-- What a step gets has nothing in it. -/
theorem get_bind {k : Findings → Step β} {b : β} (hk : ∀ f, f.Blank → Idles c (k f) b) :
    Idles c (get >>= k) b :=
  fun f hf => hk f hf f hf

theorem modify {change : Findings → Findings} (hchange : ∀ f, f.Blank → (change f).Blank) :
    Idles c (modify change : Step Unit) () :=
  fun f hf => ⟨change f, rfl, hchange f hf⟩

/-- Steps that do nothing over a list do nothing together. -/
theorem mapM {k : α → Step β} {g : α → β} {l : List α} (hk : ∀ a ∈ l, Idles c (k a) (g a)) :
    Idles c (l.mapM k) (l.map g) := by
  induction l with
  | nil => exact .pure c []
  | cons a l ih =>
    obtain ⟨ha, hl⟩ := List.forall_mem_cons.1 hk
    rw [List.mapM_cons]
    exact ha.bind ((ih hl).bind (.pure c _))

theorem forM {k : α → Step Unit} (hk : ∀ a, Idles c (k a) ()) (l : List α) :
    Idles c (l.forM k) () := by
  induction l with
  | nil => exact .pure c ()
  | cons a l ih => exact (hk a).bind ih

theorem warn (code message : String) (help about : Option String) :
    Idles c (warn code message help about) () :=
  fun _ hf => ⟨_, rfl, { hf with }⟩

theorem readProgram {source : String} {program : Node} (h : parse source = .ok program) :
    Idles c (readProgram source) program :=
  fun f hf => ⟨f, readProgram_eq_ok.2 ⟨h, rfl⟩, hf⟩

theorem edit_nil (source : String) : Idles c (edit source []) source :=
  fun f hf => ⟨f, edit_eq_ok.2 ⟨congrArg Except.ok String.ofList_toList, rfl⟩, hf⟩

end Idles

/-! ## Inert programs -/

/-- The paths that a statement sets: the variable that it declares with a value, or what it assigns
to. -/
def pathsSet (statement : Node) : List (List String) :=
  ((settingOf? statement).map Prod.fst).toList ++
    ((assignmentIn? statement).bind fun a => a.1.plainAssignment?.bind (·.1.path?)).toList

/-- The program has no wrapper, nothing that its paths begin with is registered, excluded or
replaced, and the markup imports no modules. -/
@[mk_iff]
structure Unrelated (c : Context) (program : Node) : Prop where
  explicitImports : c.explicitImports = []
  wrapper : ∀ s ∈ statements program, s.wrappedFunction? = none
  path : ∀ n ∈ program.walk, n.name? ≠ some "window" → ∀ path ∈ n.path?,
    ∀ name ∈ pathPrefixes path,
      c.registry.lookup name = none ∧ c.settings.isRedirected name = false

instance (c : Context) (program : Node) : Decidable (Unrelated c program) :=
  decidable_of_iff' _ (unrelated_iff c program)

/-- The passes over an inline script have nothing to do with the program. -/
@[mk_iff]
structure Inert (c : Context) (program : Node) : Prop extends Unrelated c program where
  /-- The binding of imports fails without a resolver, also if there is nothing to import. -/
  resolver : c.resolver.isSome = true
  /-- Outside of functions with a `this` of their own and of classes there is no `this`. -/
  receiver : ∀ x ∈ program.outline Node.sharesThis none, x.2.kind ≠ .thisExpression
  /-- No statement is the text that makes code strict, wherever it stands. -/
  strict : ∀ s ∈ statements program, s.isUseStrict = false
  /-- No statement sets a path that begins as that of a tracked namespace does. -/
  untracked : ∀ s ∈ statements program, ∀ path ∈ pathsSet s, c.isTracked path = false

instance (c : Context) (program : Node) : Decidable (Inert c program) :=
  decidable_of_iff' _ (inert_iff c program)

/-- The prefixes of a path are its beginnings, the path included. -/
theorem mem_pathPrefixes {path : List String} {name : String} :
    name ∈ pathPrefixes path ↔ ∃ n < path.length, join "." (path.take (n + 1)) = name := by
  simp [pathPrefixes]

/-- A place at which a path is referred to spells the path, and is not the window itself. -/
theorem Site.path?_of_of? {parent : Option Node} {n : Node} {s : Site}
    (h : Site.of? parent n = some s) : n.path? = some s.path ∧ n.name? ≠ some "window" := by
  unfold Site.of? at h
  split at h
  · obtain ⟨path, hpath, rfl⟩ := Option.map_eq_some_iff.1 h
    obtain ⟨hpath, -⟩ := Option.filter_eq_some_iff.1 hpath
    obtain ⟨hspells, hname⟩ := Node.path?_of_memberPath? hpath
    exact ⟨hspells, by simp [hname]⟩
  · next name hkind =>
    split_ifs at h with href
    cases h
    rw [Bool.and_eq_true, bne_iff_ne] at href
    simp [Node.path?, Node.name?, hkind, href.1]
  · cases h

/-- A path of which no beginning is registered, excluded or replaced is unknown. -/
theorem resolve_eq_unknown {path : List String}
    (h : ∀ name ∈ pathPrefixes path,
      c.registry.lookup name = none ∧ c.settings.isRedirected name = false) :
    ∀ length ≤ path.length, c.resolve path length = .unknown
  | 0, _ => rfl
  | length + 1, hlength => by
    obtain ⟨hlookup, hredirected⟩ := h _ (mem_pathPrefixes.2 ⟨length, hlength, rfl⟩)
    rw [Context.resolve, hredirected, hlookup]
    exact resolve_eq_unknown h length (by omega)

/-- Nor is any part of it replaced, if the module exports nothing itself. -/
theorem substitution?_eq_none {path : List String}
    (h : ∀ name ∈ pathPrefixes path, c.settings.isRedirected name = false) (assigned : Bool)
    (chain : Node) :
    ∀ length ≤ path.length, substitution? c.settings [] assigned path chain length = none
  | 0, _ | 1, _ => by simp [substitution?]
  | length + 2, hlength => by
    have hredirected := h _ (mem_pathPrefixes.2 ⟨length + 1, hlength, rfl⟩)
    simp only [Settings.isRedirected, Bool.or_eq_false_iff, Table.has, Option.isSome_eq_false_iff,
      Option.isNone_iff_eq_none] at hredirected
    have hsubstitute :
        substitute? c.settings [] assigned (join "." (path.take (length + 2))) = none := by
      rw [substitute?, hredirected.1, hredirected.2]
      rfl
    rw [substitution?, hsubstitute]
    exact substitution?_eq_none h assigned chain (length + 1) (by omega)

/-- A statement that sets no path of a namespace is no initializer. -/
theorem initializedPath?_eq_none {roots : List String} {s : Node}
    (h : ∀ path ∈ pathsSet s, path.head?.any roots.contains = false) :
    initializedPath? roots s = none := by
  cases hsetting : settingOf? s with
  | none => simp [initializedPath?, hsetting]
  | some setting =>
    have huntracked := h setting.1 (by simp [pathsSet, hsetting])
    simp [initializedPath?, hsetting, huntracked]

/-- A statement that sets no path of a namespace is no candidate. -/
theorem candidate?_eq_none {roots : List String} {s : Node}
    (h : ∀ path ∈ pathsSet s, path.head?.any roots.contains = false) :
    candidate? roots s = none := by
  cases hassignment : assignmentIn? s with
  | none => simp [candidate?, hassignment]
  | some assignment =>
    cases hsides : assignment.1.plainAssignment? with
    | none => simp [candidate?, hassignment, hsides]
    | some sides =>
      cases hpath : sides.1.path? with
      | none => simp [candidate?, hassignment, hsides, hpath]
      | some path =>
        have huntracked := h path (by simp [pathsSet, hassignment, hsides, hpath])
        simp [candidate?, hassignment, hsides, hpath, isMember, huntracked]

/-! ## Stages -/

namespace Inert

variable {source : String} {program : Node}

theorem globalThisEdits_eq_nil (h : Inert c program) : globalThisEdits program = [] := by
  refine List.filterMap_eq_nil_iff.2 fun x hx => ?_
  have hkind : (x.2.kind == .thisExpression) = false := by simpa using h.receiver x hx
  simp [windowEdit?, hkind]

/-- The stage for `this` does nothing to an inert program. -/
theorem idles_globalThis (h : Inert c program) (hparse : parse source = .ok program) :
    Idles c (globalThis source) source := by
  refine (Idles.readProgram hparse).bind ?_
  rw [h.globalThisEdits_eq_nil]
  exact .edit_nil source

/-- A round finds no directive and no wrapper. -/
theorem unwrapFrom_eq (source : String) (r : UnwrapRound) :
    ∀ {statements : List Node} (before : List String),
      (∀ s ∈ statements, s.wrappedFunction? = none) → (∀ s ∈ statements, s.isUseStrict = false) →
      unwrapFrom source before r statements = r
  | [], _, _, _ => rfl
  | s :: rest, before, hwrapper, hstrict => by
    have htake : r.take source (before ++ rest.flatMap (·.statementNames)) s = r := by
      rw [UnwrapRound.take, hstrict s (by simp), removableWrapper?, hwrapper s (by simp)]
      rfl
    rw [unwrapFrom, htake]
    exact unwrapFrom_eq source r _ (fun s hs => hwrapper s (List.mem_cons_of_mem _ hs))
      fun s hs => hstrict s (List.mem_cons_of_mem _ hs)

/-- The stage that unwraps does nothing to an inert program. -/
theorem idles_unwrap (h : Inert c program) (hparse : parse source = .ok program) :
    Idles c (unwrap source) source := by
  have hround : unwrapRound source program = {} :=
    unwrapFrom_eq source {} [] h.wrapper h.strict
  have hall : Idles c (unwrapAll source) source := by
    rw [unwrapAll]
    refine (Idles.readProgram hparse).bind ?_
    rw [hround]
    exact (Idles.forM (fun names => .warn _ _ _ _) []).bind (.pure c source)
  refine hall.bind ?_
  rw [if_pos rfl]
  exact .pure c source

theorem idles_collectSite (h : Inert c program) {s : Site} (hs : s ∈ referenceSites program) :
    Idles c (collectSite source s) [] := by
  obtain ⟨⟨parent, n⟩, hx, hof⟩ := List.mem_filterMap.1 hs
  obtain ⟨hpath, hwindow⟩ := Site.path?_of_of? hof
  -- A place spells a path of the program, so nothing that it begins with is known.
  have hunknown : c.resolve s.path s.path.length = .unknown :=
    resolve_eq_unknown (h.path n (Node.mem_walk_of_mem_outline hx) hwindow s.path hpath) _ le_rfl
  refine Idles.read_bind ?_
  rw [hunknown]
  dsimp only
  split_ifs
  · exact (Idles.warn _ _ _ _).bind (.pure c [])
  · exact .pure c []

/-- The stage that collects references does nothing to an inert program. -/
theorem idles_collectReferences (h : Inert c program) (hparse : parse source = .ok program) :
    Idles c (collectReferences source) source := by
  refine (Idles.readProgram hparse).bind ?_
  refine (Idles.mapM fun s hs => h.idles_collectSite hs).bind ?_
  have hnone : ((referenceSites program).map fun _ => ([] : List Edit)).flatten = [] := by simp
  rw [hnone]
  exact .edit_nil source

/-- Statements that set no path of a tracked namespace are left alone. -/
theorem exportStatements_eq (i : ExportInput) (e : Exports) :
    ∀ {statements : List Node} (position : Nat),
      (∀ s ∈ statements, ∀ path ∈ pathsSet s, path.head?.any i.settings.roots.contains = false) →
      exportStatements i position statements e = ([], e)
  | [], _, _ => rfl
  | s :: rest, position, h => by
    obtain ⟨hs, hrest⟩ := List.forall_mem_cons.1 h
    rw [exportStatements, initializedPath?_eq_none hs, candidate?_eq_none hs]
    dsimp only
    rw [Option.bind_none, exportStatements_eq i e _ hrest]
    rfl

theorem exportProgram_eq (h : Inert c program) (source : String) :
    exportProgram c source program = ([], { used := program.usedNames }) := by
  unfold exportProgram
  dsimp only
  rw [exportStatements_eq _ _ 0 h.untracked]
  rfl

/-- The stage for exports does nothing to an inert program. -/
theorem idles_exportNamespaces (h : Inert c program) (hparse : parse source = .ok program) :
    Idles c (exportNamespaces source) source := by
  refine Idles.read_bind ((Idles.readProgram hparse).bind ?_)
  rw [h.exportProgram_eq]
  refine (Idles.modify fun f hf => ?_).bind (.edit_nil source)
  exact { hf with
    exports := by simp [hf.exports]
    localNames := by simp [hf.localNames, Table.setAll]
    namespaceFunctions := by simp [hf.namespaceFunctions, Table.setAll] }

theorem idles_namespaceThis (c : Context) (source : String) :
    Idles c (namespaceThis source) source := by
  refine Idles.get_bind fun f hf => ?_
  rw [hf.namespaceFunctions]
  exact .pure c source

/-- The stage that puts local names does nothing to an inert program. -/
theorem idles_substitutePaths (h : Inert c program) (hparse : parse source = .ok program) :
    Idles c (substitutePaths source) source := by
  refine (Idles.readProgram hparse).bind (Idles.read_bind (Idles.get_bind fun f hf => ?_))
  have hedits : substitutionEdits c.settings [] program = [] := by
    refine List.filterMap_eq_nil_iff.2 fun ⟨parent, n⟩ hx => ?_
    cases hpath : n.memberPath? with
    | none => simp [hpath]
    | some path =>
      obtain ⟨hspells, hname⟩ := Node.path?_of_memberPath? hpath
      have hunknown := h.path n (Node.mem_walk_of_mem_outline hx) (by simp [hname]) path hspells
      simpa [hpath] using
        substitution?_eq_none (fun name hprefix => (hunknown name hprefix).2) _ n _ le_rfl
  rw [hf.localNames, hedits]
  exact .edit_nil source

/-- An inert program without links imports nothing. -/
theorem idles_bindImports (h : Inert c program) (hparse : parse source = .ok program) :
    Idles c (bindImports source) source := by
  obtain ⟨resolver, hresolver⟩ := Option.isSome_iff_exists.1 h.resolver
  unfold bindImports
  refine Idles.read_bind ?_
  rw [hresolver]
  refine Idles.get_bind fun f hf => (Idles.readProgram hparse).bind ?_
  have hnone : requirements c f = [] := by
    rw [requirements, hf.references, h.explicitImports]
    rfl
  rw [hnone]
  have hcount : Idles c (modify fun f => { f with importCount := 0 } : Step Unit) () :=
    .modify fun f hf => { hf with importCount := rfl }
  exact hcount.bind (.pure c source)

/-- The stage for hazards reports and changes nothing. -/
theorem idles_reportHazards (hparse : parse source = .ok program) :
    Idles c (reportHazards source) source := by
  refine (Idles.readProgram hparse).bind ((Idles.forM (fun n => ?_) _).bind (.pure c source))
  unfold warnHazard
  split
  · exact .warn _ _ _ _
  · exact .pure c ()

theorem idles_finish (c : Context) (source : String) :
    Idles c (finish source) (normalizeEnds source) := by
  refine Idles.get_bind fun f hf => ?_
  rw [hf.deferred]
  exact .pure c _

end Inert

end Pass

/-! ## Ends -/

/-- The text is the source without the line ends in front of it and the blanks behind it, ended by
one line end if any of it is left. -/
def IsTrimmed (source text : String) : Prop :=
  ∃ front kept back : List Char, source.toList = front ++ kept ++ back ∧
    (∀ ch ∈ front, ch = '\n') ∧ (∀ ch ∈ kept.head?, ch ≠ '\n') ∧
    (∀ ch ∈ kept.getLast?, isBlank ch = false) ∧ (∀ ch ∈ back, isBlank ch = true) ∧
    text.toList = if kept = [] then [] else kept ++ ['\n']

/-- To normalize the ends drops line ends in front and blanks behind, and ends the last line. -/
theorem Pass.normalizeEnds_toList (source : String) :
    (normalizeEnds source).toList =
      let kept := dropEndWhile isBlank (source.toList.dropWhile (· == '\n'))
      if kept = [] then [] else kept ++ ['\n'] := by
  unfold normalizeEnds
  simp only [trimEnd, trimStart, String.toList_ofList]
  split_ifs with h h' h' <;> simp_all

/-- A source is trimmed as the last stage trims it. -/
theorem isTrimmed_iff {source text : String} :
    IsTrimmed source text ↔ text = Pass.normalizeEnds source := by
  rw [← String.toList_inj, Pass.normalizeEnds_toList]
  constructor
  · rintro ⟨front, kept, back, hsource, hfront, hhead, hlast, hback, htext⟩
    have hkept : dropEndWhile isBlank (source.toList.dropWhile (· == '\n')) = kept := by
      rw [hsource, List.append_assoc]
      exact dropEndWhile_dropWhile (by simpa using hfront) hback (by simpa using hhead) hlast
    rw [htext, hkept]
  · intro htext
    let rest := source.toList.dropWhile (· == '\n')
    have hrest : rest.rdropWhile isBlank ++ rest.rtakeWhile isBlank = rest :=
      List.rdropWhile_append_rtakeWhile
    -- What is kept begins the rest, so it begins with the first character that is no line end.
    refine ⟨source.toList.takeWhile (· == '\n'), rest.rdropWhile isBlank, rest.rtakeWhile isBlank,
      ?_, ?_, ?_, ?_, ?_, htext⟩
    · rw [List.append_assoc, hrest, List.takeWhile_append_dropWhile]
    · intro ch hch
      simpa using List.mem_takeWhile_imp hch
    · intro ch hch
      have hhead : rest.head? = some ch := by
        rw [← hrest, List.head?_append, Option.mem_def.1 hch, Option.some_or]
      have hnot := List.head?_dropWhile_not (· == '\n') source.toList
      rw [hhead] at hnot
      simpa using hnot
    · intro ch hch
      obtain ⟨hne, rfl⟩ := List.mem_getLast?_eq_getLast hch
      simpa using List.rdropWhile_last_not isBlank rest hne
    · intro ch hch
      exact List.mem_rtakeWhile_imp hch

/-! ## Runs -/

namespace Pipeline

open Pass

variable {c : Context} {source : String}

/-- If all stages but the last one give the text that they were given and find nothing, then the run
ends with what the last one makes of that text. -/
theorem runFrom_of_idles {last : Stage} {text : String} (hlast : Idles c (last.run source) text) :
    ∀ {stages : List Stage} {f : Findings},
      (∀ s ∈ stages, Idles c (s.run source) source) → f.Blank →
      let r := runFrom c f source (stages ++ [last])
      r.failure = none ∧ r.text source = text ∧ r.findings.Blank
  | [], f, _, hf => by
    obtain ⟨g, hg, hblank⟩ := hlast f hf
    rw [List.nil_append, runFrom_of_ok hg]
    exact ⟨rfl, rfl, hblank⟩
  | s :: stages, f, h, hf => by
    obtain ⟨hs, hrest⟩ := List.forall_mem_cons.1 h
    obtain ⟨g, hg, hblank⟩ := hs f hf
    rw [List.cons_append, runFrom_of_ok hg]
    dsimp only
    rw [text_cons]
    exact runFrom_of_idles hlast hrest hblank

/-- The run gives the source, trimmed at its ends, and finds nothing. -/
structure PassesThrough (source : String) (r : Run) : Prop where
  failure : r.failure = none
  text : IsTrimmed source (r.text source)
  importCount : r.findings.importCount = 0
  exports : r.findings.exports = []
  references : r.findings.references = []

theorem forInlineScript_order :
    forInlineScript.ordered? = some ([.globalThis, .unwrap, .collectReferences, .exportNamespaces,
      .namespaceThis, .substitutePaths, .bindImports, .reportHazards] ++ [.finish]) := by
  decide

/-- A program that the passes over an inline script have nothing to do with passes through all of
them. -/
theorem passesThrough_of_inert {program : Script.Node} (hparse : Script.parse source = .ok program)
    (h : Inert c program) : PassesThrough source (forInlineScript.run c source) := by
  have hstages : ∀ s ∈ [Stage.globalThis, .unwrap, .collectReferences, .exportNamespaces,
      .namespaceThis, .substitutePaths, .bindImports, .reportHazards],
      Idles c (s.run source) source := by
    simp only [List.forall_mem_cons, List.not_mem_nil, false_implies, implies_true, and_true]
    exact ⟨h.idles_globalThis hparse, h.idles_unwrap hparse, h.idles_collectReferences hparse,
      h.idles_exportNamespaces hparse, Inert.idles_namespaceThis c source,
      h.idles_substitutePaths hparse, h.idles_bindImports hparse, Inert.idles_reportHazards hparse⟩
  have hstart : (Findings.start source).Blank := ⟨rfl, rfl, rfl, rfl, rfl, rfl⟩
  have hfinish : Idles c (Stage.finish.run source) (normalizeEnds source) :=
    Inert.idles_finish c source
  obtain ⟨hfailure, htext, hblank⟩ := runFrom_of_idles hfinish hstages hstart
  rw [run, forInlineScript_order]
  exact ⟨hfailure, isTrimmed_iff.2 htext, hblank.importCount, hblank.exports, hblank.references⟩

/-! ### What the conditions leave out -/

/-- The context of a page, in which nothing is registered. -/
def pageContext (namespaces : List String) (resolver : Option Resolver) : Context where
  file := { url := "index.html", contents := "" }
  moduleUrl := "./index.html"
  settings := { namespaces }
  resolver

/-- The resolver of a package without dependencies. -/
def packageResolver : Resolver := { layout := .package {}, dependencies := [] }

/-- The program of a source that can be parsed. -/
def programOf (source : String) : Script.Node := (Script.parse source).toOption.getD default

/-- A function that has a `this` of its own and is strict, and is called behind its declaration. -/
def strictSource : String := "\nvar f = function() \x7b 'use strict'; return this; \x7d;\nf(a.b);  "

/-- The context of a page for which another module exports a member of a tracked namespace. -/
def exportingContext : Context :=
  { pageContext ["P"] packageResolver with registry := [⟨"P.a", "./a.js", "a"⟩] }

/-- The program of the function passes through. -/
theorem passesThrough_of_inert_strict :
    Script.parse strictSource = .ok (programOf strictSource) ∧
      Inert exportingContext (programOf strictSource) ∧
      PassesThrough strictSource (forInlineScript.run exportingContext strictSource) := by
  have hparse : Script.parse strictSource = .ok (programOf strictSource) :=
    Failing.eq_ok_getD (by decide +kernel) default
  have hinert : Inert exportingContext (programOf strictSource) := by decide +kernel
  exact ⟨hparse, hinert, passesThrough_of_inert hparse hinert⟩

/-- There is no `this` outside of functions and classes, the program does not begin with the text
that makes code strict, no statement sets a path that begins with a tracked namespace, and there
need not be a resolver. -/
@[mk_iff]
structure SeemsInert (c : Context) (program : Script.Node) : Prop extends Unrelated c program where
  receiver : ∀ x ∈ program.outline (fun n => !(n.kind.isFunction || n.kind == .classBody)) none,
    x.2.kind ≠ .thisExpression
  strict : ∀ s ∈ (statements program).takeWhile fun s =>
    ((statementExpression? s).bind (·.string?)).isSome, s.isUseStrict = false
  untracked : ∀ s ∈ statements program, ∀ path ∈ pathsSet s, ∀ name ∈ pathPrefixes path,
    name ∉ c.settings.namespaces

instance (c : Context) (program : Script.Node) : Decidable (SeemsInert c program) :=
  decidable_of_iff' _ (seemsInert_iff c program)

/-- The source is that of a program that seems inert, but it does not pass through. -/
def IsAltered (c : Context) (source : String) : Prop :=
  ∃ program, Script.parse source = .ok program ∧ SeemsInert c program ∧
    ¬PassesThrough source (forInlineScript.run c source)

theorem isAltered_of_run (hparse : (Script.parse source).toBool = true)
    (hseems : SeemsInert c (programOf source))
    (hrun : (forInlineScript.run c source).failure ≠ none ∨
      (forInlineScript.run c source).text source ≠ normalizeEnds source) : IsAltered c source := by
  refine ⟨programOf source, Failing.eq_ok_getD hparse default, hseems, fun hpasses => ?_⟩
  rcases hrun with hfailure | htext
  · exact hfailure hpasses.failure
  · exact htext (isTrimmed_iff.1 hpasses.text)

/-- The `this` of an arrow function, the text that makes code strict behind a call, and a member of
an object that holds a tracked namespace are all changed, and without a resolver the run fails. -/
theorem exists_not_passesThrough :
    IsAltered (pageContext ["P"] packageResolver) "f(() => \x7b return this; \x7d);\n" ∧
      IsAltered (pageContext ["P"] packageResolver) "f();\n'use strict';\n" ∧
      IsAltered (pageContext ["P.a"] packageResolver) "P.b = 1;\n" ∧
      IsAltered (pageContext ["P"] none) "f();\n" := by
  refine ⟨isAltered_of_run ?_ ?_ ?_, isAltered_of_run ?_ ?_ ?_, isAltered_of_run ?_ ?_ ?_,
    isAltered_of_run ?_ ?_ ?_⟩ <;> decide +kernel

end Pipeline

end HtmlModules
