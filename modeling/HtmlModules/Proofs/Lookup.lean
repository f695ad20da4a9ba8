import HtmlModules.Proofs.Pipeline
import HtmlModules.Proofs.Reporting

/-!
# Registries are only looked up

Two registries in which every path has the same record cannot be told apart: every stage does the
same with them (`extensional_run`), and so do the conversions of documents (`convertModule_congr`,
`convertPage_congr`).
-/

namespace HtmlModules

/-- Every path has the same record in both registries. -/
def SameLookups (q q' : Registry) : Prop := ∀ path, q.lookup path = q'.lookup path

theorem SameLookups.symm {q q' : Registry} (h : SameLookups q q') : SameLookups q' q :=
  fun path => (h path).symm

theorem SameLookups.trans {q q' q'' : Registry} (h : SameLookups q q') (h' : SameLookups q' q'') :
    SameLookups q q'' :=
  fun path => (h path).trans (h' path)

namespace Pass

variable {α β : Type}

/-! ## Steps -/

/-- The step reads the registry only by looking paths up. -/
def Extensional (m : Step α) : Prop :=
  ∀ (c : Context) (q : Registry), SameLookups q c.registry → m { c with registry := q } = m c

theorem extensional_pure (a : α) : Extensional (pure a : Step α) :=
  fun _ _ _ => rfl

/-- Two steps that depend on look-ups only depend on look-ups only together. -/
theorem extensional_bind {m : Step α} {k : α → Step β} (hm : Extensional m)
    (hk : ∀ a, Extensional (k a)) : Extensional (m >>= k) := by
  intro c q hq
  change EStateM.bind (m _) (fun a => k a _) = EStateM.bind (m c) fun a => k a c
  rw [hm c q hq]
  exact congrArg _ (funext fun a => hk a c q hq)

/-- What a step reads is its context. -/
theorem extensional_read_bind {k : Context → Step β} (hk : ∀ c, Extensional (k c))
    (hc : ∀ c q, SameLookups q c.registry → k { c with registry := q } = k c) :
    Extensional (read >>= k) := by
  intro c q hq
  change k { c with registry := q } { c with registry := q } = k c c
  rw [hc c q hq]
  exact hk c c q hq

/-- Steps over a list that depend on look-ups only depend on look-ups only together. -/
theorem extensional_mapM {k : α → Step β} (hk : ∀ a, Extensional (k a)) :
    ∀ l : List α, Extensional (l.mapM k)
  | [] => extensional_pure []
  | a :: l => by
    rw [List.mapM_cons]
    exact extensional_bind (hk a) fun _ => extensional_bind (extensional_mapM hk l) fun _ =>
      extensional_pure _

theorem extensional_forM {k : α → Step Unit} (hk : ∀ a, Extensional (k a)) :
    ∀ l : List α, Extensional (l.forM k)
  | [] => extensional_pure ()
  | a :: l => extensional_bind (hk a) fun _ => extensional_forM hk l

theorem extensional_warn (code message : String) (help about : Option String) :
    Extensional (warn code message help about) :=
  fun _ _ _ => rfl

theorem extensional_readProgram (source : String) : Extensional (readProgram source) := by
  intro c q _
  unfold readProgram
  cases Script.parse source <;> rfl

theorem extensional_edit (source : String) (edits : List Text.Edit) :
    Extensional (edit source edits) := by
  intro c q _
  unfold edit
  cases Text.applyEdits source edits <;> rfl

/-! ## Stages -/

/-- The stage for `this` does not look into the registry. -/
theorem extensional_globalThis (source : String) : Extensional (globalThis source) :=
  extensional_bind (extensional_readProgram source) fun _ => extensional_edit source _

theorem extensional_unwrapAll (source : String) : Extensional (unwrapAll source) := by
  induction hn : source.length using Nat.strongRecOn generalizing source with
  | _ n ih =>
    rw [unwrapAll]
    refine extensional_bind (extensional_readProgram source) fun program => ?_
    refine extensional_bind (extensional_forM (fun names => extensional_warn _ _ _ _) _) fun _ => ?_
    split_ifs
    · exact extensional_pure source
    · refine extensional_bind (extensional_edit source _) fun next => ?_
      split_ifs with hlt
      · exact ih next.length (hn ▸ hlt) next rfl
      · exact extensional_pure next

theorem extensional_unwrap (source : String) : Extensional (unwrap source) := by
  refine extensional_bind (extensional_unwrapAll source) fun text => ?_
  split_ifs
  · exact extensional_pure source
  · exact extensional_globalThis text

theorem extensional_inlineTemplates (source : String) : Extensional (inlineTemplates source) := by
  refine extensional_read_bind (fun c => ?_) fun _ _ _ => rfl
  refine extensional_bind (extensional_readProgram source) fun _ => ?_
  refine extensional_bind (fun _ _ _ => rfl) fun _ => ?_
  refine extensional_bind (extensional_forM (fun tag => extensional_warn _ _ _ _) _) fun _ => ?_
  refine extensional_bind ?_ fun _ => extensional_edit source _
  unfold importPathEdits
  split_ifs
  · refine extensional_mapM (fun d => ?_) _
    exact extensional_bind (fun _ _ _ => rfl) fun _ => extensional_pure _
  · exact extensional_pure []

theorem resolve_congr {c : Context} {q : Registry} (hq : SameLookups q c.registry)
    (path : List String) :
    ∀ length, ({ c with registry := q } : Context).resolve path length = c.resolve path length
  | 0 => rfl
  | length + 1 => by
    rw [Context.resolve, Context.resolve, hq, resolve_congr hq path length]

theorem extensional_setExport (source : String) (s : Site) : Extensional (setExport source s) := by
  refine extensional_read_bind (fun c => ?_) fun c q hq => ?_
  · split
    · exact extensional_bind (fun _ _ _ => rfl) fun _ => extensional_pure _
    · exact extensional_bind (extensional_warn _ _ _ _) fun _ => extensional_pure []
  · have hsetter : ({ c with registry := q } : Context).setter? s.path = c.setter? s.path := by
      unfold Context.setter?
      rw [show q.lookup = c.registry.lookup from funext hq]
    dsimp only
    rw [hsetter]

/-- A site is changed by what is looked up for its path. -/
theorem extensional_collectSite (source : String) (s : Site) :
    Extensional (collectSite source s) := by
  refine extensional_read_bind (fun c => ?_) fun c q hq => ?_
  · split
    · exact extensional_pure []
    · split_ifs
      · exact extensional_setExport source s
      · exact extensional_bind (fun _ _ _ => rfl) fun _ => extensional_pure _
    · split_ifs
      · exact extensional_bind (extensional_warn _ _ _ _) fun _ => extensional_pure []
      · exact extensional_pure []
  · rw [resolve_congr hq]
    rfl

theorem extensional_collectReferences (source : String) : Extensional (collectReferences source) :=
  extensional_bind (extensional_readProgram source) fun _ =>
    extensional_bind (extensional_mapM (extensional_collectSite source) _) fun _ =>
      extensional_edit source _

theorem extensional_namespaceThis (source : String) : Extensional (namespaceThis source) := by
  refine extensional_bind (fun _ _ _ => rfl) fun f => ?_
  dsimp only
  split_ifs
  · exact extensional_pure source
  · refine extensional_bind (extensional_readProgram source) fun _ => ?_
    refine extensional_bind (extensional_mapM (fun function => ?_) _) fun _ =>
      extensional_edit source _
    refine extensional_bind (extensional_mapM (fun receiver => ?_) _) fun _ => extensional_pure _
    refine extensional_bind (fun _ _ _ => rfl) fun f => ?_
    dsimp only
    split_ifs
    · exact extensional_pure _
    · exact extensional_bind (extensional_warn _ _ _ _) fun _ => extensional_pure []

theorem extensional_substitutePaths (source : String) : Extensional (substitutePaths source) :=
  extensional_bind (extensional_readProgram source) fun _ =>
    extensional_read_bind (fun _ => extensional_bind (fun _ _ _ => rfl) fun _ =>
      extensional_edit source _) fun _ _ _ => rfl

theorem extensional_insertMarkup (source : String) : Extensional (insertMarkup source) := by
  refine extensional_read_bind (fun c => ?_) fun _ _ _ => rfl
  split
  · exact extensional_pure source
  · refine extensional_bind (fun _ _ _ => rfl) fun f => ?_
    dsimp only
    split_ifs
    · exact extensional_pure source
    · exact extensional_bind (extensional_readProgram source) fun _ => extensional_edit source _

/-- Imports are bound by the references, which are collected already. -/
theorem extensional_bindImports (source : String) : Extensional (bindImports source) := by
  refine extensional_read_bind (fun c => ?_) fun _ _ _ => rfl
  split
  · refine extensional_bind (fun _ _ _ => rfl) fun f => ?_
    refine extensional_bind (extensional_readProgram source) fun _ => ?_
    dsimp only
    split
    · exact fun _ _ _ => rfl
    · exact extensional_bind (fun _ _ _ => rfl) fun _ => extensional_pure _
  · exact fun _ _ _ => rfl

theorem extensional_reportHazards (source : String) : Extensional (reportHazards source) := by
  refine extensional_bind (extensional_readProgram source) fun _ =>
    extensional_bind (extensional_forM (fun n => ?_) _) fun _ => extensional_pure source
  unfold warnHazard
  split
  · exact extensional_warn _ _ _ _
  · exact extensional_pure ()

/-! ## Exports -/

section Exports

variable {i : ExportInput} {q : Registry}

theorem chooseName_congr (hq : SameLookups q i.registry) (path requested : String) (e : Exports) :
    e.chooseName { i with registry := q } path requested = e.chooseName i path requested := by
  unfold Exports.chooseName
  rw [hq]

theorem exportValue_congr (hq : SameLookups q i.registry) (c : Candidate) (e : Exports) :
    exportValue { i with registry := q } c e = exportValue i c e := by
  unfold exportValue
  simp only [chooseName_congr hq]
  rfl

theorem exportMember_congr (hq : SameLookups q i.registry) (space : String) (written : List String)
    (m : Member) (e : Exports) :
    exportMember { i with registry := q } space written m e = exportMember i space written m e := by
  unfold exportMember
  simp only [chooseName_congr hq]
  rfl

theorem exportMembers_congr (hq : SameLookups q i.registry) (space : String)
    (written : List String) :
    ∀ (members : List Member) (e : Exports),
      exportMembers { i with registry := q } space written members e =
        exportMembers i space written members e
  | [], _ => rfl
  | m :: rest, e => by
    rw [exportMembers, exportMembers, exportMember_congr hq]
    dsimp only
    rw [exportMembers_congr hq space written rest]

theorem exportNamespace?_congr (hq : SameLookups q i.registry) (c : Candidate) (e : Exports) :
    exportNamespace? { i with registry := q } c e = exportNamespace? i c e := by
  unfold exportNamespace?
  simp only [exportMembers_congr hq]
  rfl

/-- Whether a statement stays is decided by look-ups. -/
theorem staysAssignment_congr (hq : SameLookups q i.registry) (c : Candidate) (e : Exports) :
    staysAssignment { i with registry := q } c e = staysAssignment i c e := by
  unfold staysAssignment
  dsimp only
  rw [hq]

theorem exportCandidate?_congr (hq : SameLookups q i.registry) (c : Candidate) (leading : String)
    (e : Exports) :
    exportCandidate? { i with registry := q } c leading e = exportCandidate? i c leading e := by
  unfold exportCandidate?
  rw [staysAssignment_congr hq, exportNamespace?_congr hq, exportValue_congr hq]
  rfl

theorem exportStatements_congr (hq : SameLookups q i.registry) :
    ∀ (position : Nat) (statements : List Script.Node) (e : Exports),
      exportStatements { i with registry := q } position statements e =
        exportStatements i position statements e
  | _, [], _ => rfl
  | position, s :: rest, e => by
    rw [exportStatements, exportStatements]
    simp only [exportCandidate?_congr hq, exportStatements_congr hq s.stop rest]

theorem exportProgram_congr {c : Context} (hq : SameLookups q c.registry) (source : String)
    (program : Script.Node) :
    exportProgram { c with registry := q } source program = exportProgram c source program := by
  have h := exportStatements_congr (q := q)
    (i := ⟨source, c.settings, c.registry, c.moduleUrl, Script.Node.scopeNames (statements program),
      writtenPaths program⟩) hq 0 (statements program) { used := program.usedNames }
  unfold exportProgram
  dsimp only at h ⊢
  rw [h]
  rfl

end Exports

/-- The stage for exports depends on look-ups only. -/
theorem extensional_exportNamespaces (source : String) : Extensional (exportNamespaces source) := by
  refine extensional_read_bind (fun c => ?_) fun c q hq => ?_
  · refine extensional_bind (extensional_readProgram source) fun program => ?_
    exact extensional_bind (fun _ _ _ => rfl) fun _ => extensional_edit source _
  · simp only [exportProgram_congr hq]

/-- Every stage reads the registry only by looking paths up. -/
theorem extensional_run (s : Stage) (source : String) : Extensional (s.run source) := by
  cases s with
  | globalThis => exact extensional_globalThis source
  | unwrap => exact extensional_unwrap source
  | inlineTemplates => exact extensional_inlineTemplates source
  | collectReferences => exact extensional_collectReferences source
  | exportNamespaces => exact extensional_exportNamespaces source
  | namespaceThis => exact extensional_namespaceThis source
  | substitutePaths => exact extensional_substitutePaths source
  | insertMarkup => exact extensional_insertMarkup source
  | bindImports => exact extensional_bindImports source
  | reportHazards => exact extensional_reportHazards source
  | finish => exact fun _ _ _ => rfl

end Pass

/-! ## Runs and conversions -/

namespace Pipeline

/-- Stages one after the other depend on look-ups only, by induction on the stages. -/
theorem runFrom_congr {c : Pass.Context} {q : Registry} (hq : SameLookups q c.registry) :
    ∀ (stages : List Stage) (f : Pass.Findings) (source : String),
      runFrom { c with registry := q } f source stages = runFrom c f source stages
  | [], _, _ => rfl
  | s :: rest, f, source => by
    rw [runFrom, runFrom, Pass.extensional_run s source c q hq]
    simp only [runFrom_congr hq rest]

theorem run_congr (p : Pipeline) {c : Pass.Context} {q : Registry}
    (hq : SameLookups q c.registry) (source : String) :
    p.run { c with registry := q } source = p.run c source := by
  unfold run
  simp only [runFrom_congr hq]

theorem convert_congr (p : Pipeline) {c : Pass.Context} {q : Registry}
    (hq : SameLookups q c.registry) (source : String) :
    p.convert { c with registry := q } source = p.convert c source := by
  unfold convert
  rw [run_congr p hq]

end Pipeline

namespace Conversion

variable {q q' : Registry}

theorem convertModule_congr (c : Conversion) (hq : SameLookups q q') (file : SourceFile) :
    c.convertModule q file = c.convertModule q' file := by
  unfold convertModule
  refine congrArg _ (funext fun p => ?_)
  rw [← Pipeline.convert_congr _ (c := c.context p q') hq]
  rfl

theorem inlineModule?_congr (c : Conversion) (p : Preparation) (hq : SameLookups q q')
    (s : InlineScript) : c.inlineModule? p q s = c.inlineModule? p q' s := by
  unfold inlineModule?
  rw [← Pipeline.convert_congr _ (c := c.inlineContext p q' s) hq]
  rfl

theorem convertPage_congr (c : Conversion) (hq : SameLookups q q') (file : SourceFile) :
    c.convertPage q file = c.convertPage q' file := by
  have hedits : ∀ p, c.pageEdits p q = c.pageEdits p q' := fun p => by
    unfold pageEdits
    rw [show c.inlineEdit? p q = c.inlineEdit? p q' from funext fun s => by
      unfold inlineEdit?
      rw [inlineModule?_congr c p hq]]
  unfold convertPage
  simp only [hedits]

end Conversion

end HtmlModules
