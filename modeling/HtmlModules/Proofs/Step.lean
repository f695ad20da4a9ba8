import HtmlModules.Pass.Pipeline
import HtmlModules.Proofs.Diagnostic
import HtmlModules.Proofs.Registry

/-!
# What the stages change

A `Frame` is a relation between findings that composes and allows for the changes that stages make:
warnings, deferred texts, the number of imports, and placeholders for records of the registry. Claims
come from the inlining of templates only, and exports from the export of namespaces: the other stages
keep every frame (`Frame.keeps_run`), also when they fail. Four frames tell that only these two stages
add claims (`SameClaims`) and exports (`SameExports`), that all references are to records of the
registry (`RegisteredReferences`), and that no stage reports what could be taken for the failure of a
document (`WellCodedReports`).
-/

namespace HtmlModules.Pass

variable {α β : Type}

/-! ## Steps -/

theorem bind_of_ok {m : Step α} {k : α → Step β} {c : Context} {f g : Findings} {a : α}
    (h : m c f = .ok a g) : (m >>= k) c f = k a c g := by
  change EStateM.bind (m c) (fun a => k a c) f = _
  rw [EStateM.bind, h]

theorem bind_of_error {m : Step α} {k : α → Step β} {c : Context} {f g : Findings} {e : Failure}
    (h : m c f = .error e g) : (m >>= k) c f = .error e g := by
  change EStateM.bind (m c) (fun a => k a c) f = _
  rw [EStateM.bind, h]

/-- Two steps succeed if and only if the first does and then the second. -/
theorem bind_eq_ok {m : Step α} {k : α → Step β} {c : Context} {f h : Findings} {b : β} :
    (m >>= k) c f = .ok b h ↔ ∃ a g, m c f = .ok a g ∧ k a c g = .ok b h := by
  cases hm : m c f with
  | ok a g => simp [bind_of_ok hm]
  | error e g => simp [bind_of_error hm]

/-- The findings that a step leaves, whether it fails or not. -/
def findingsOf : EStateM.Result Failure Findings α → Findings
  | .ok _ f => f
  | .error _ f => f

/-- The findings that a step leaves are related to those that it starts from. -/
def Keeps (R : Findings → Findings → Prop) (c : Context) (m : Step α) : Prop :=
  ∀ f, R f (findingsOf (m c f))

theorem Keeps.ok {R : Findings → Findings → Prop} {c : Context} {m : Step α} {f g : Findings} {a : α}
    (h : Keeps R c m) (hm : m c f = .ok a g) : R f g := by
  have hf := h f
  rwa [hm] at hf

/-- A relation that composes and allows for the changes that several stages make. -/
structure Frame (c : Context) (R : Findings → Findings → Prop) : Prop where
  refl : ∀ f, R f f
  trans : ∀ {f g h}, R f g → R g h → R f h
  warning : ∀ f d, d.WellCoded → R f { f with diagnostics := f.diagnostics.report d }
  deferred : ∀ f texts, R f { f with deferred := texts }
  importCount : ∀ f n, R f { f with importCount := n }
  placeholder : ∀ f r, r ∈ c.registry → R f (f.placeholderFor r).2

/-- The relation allows for the claims that the inlining of templates makes. -/
def AllowsClaims (R : Findings → Findings → Prop) : Prop :=
  ∀ f starts, R f { f with claimed := starts }

/-- The relation allows for what the export of namespaces finds. -/
def AllowsExports (R : Findings → Findings → Prop) : Prop :=
  ∀ f exports locals functions, R f { f with
    exports := exports, localNames := locals, namespaceFunctions := functions }

namespace Frame

variable {c : Context} {R : Findings → Findings → Prop}

theorem keeps_pure (h : Frame c R) (a : α) : Keeps R c (pure a : Step α) :=
  h.refl

theorem keeps_throw (h : Frame c R) (e : Failure) : Keeps R c (throw e : Step α) :=
  h.refl

theorem keeps_read (h : Frame c R) : Keeps R c (read : Step Context) :=
  h.refl

/-- What a step reads is its context. -/
theorem keeps_read_bind {k : Context → Step β} (hk : Keeps R c (k c)) :
    Keeps R c (read >>= k) :=
  hk

theorem keeps_get (h : Frame c R) : Keeps R c (get : Step Findings) :=
  h.refl

theorem keeps_modify {g : Findings → Findings} (hg : ∀ f, R f (g f)) :
    Keeps R c (modify g : Step Unit) :=
  hg

/-- Two steps that keep a relation keep it together. -/
theorem keeps_bind (h : Frame c R) {m : Step α} {k : α → Step β} (hm : Keeps R c m)
    (hk : ∀ a, Keeps R c (k a)) : Keeps R c (m >>= k) := by
  intro f
  have hf := hm f
  cases hmf : m c f with
  | ok a g =>
    rw [hmf] at hf
    rw [bind_of_ok hmf]
    exact h.trans hf (hk a g)
  | error e g =>
    rw [hmf] at hf
    rwa [bind_of_error hmf]

theorem keeps_ite {p : Prop} [Decidable p] {m m' : Step α} (hm : Keeps R c m)
    (hm' : Keeps R c m') : Keeps R c (if p then m else m') := by
  split_ifs
  · exact hm
  · exact hm'

/-- Steps over a list that keep a relation keep it together. -/
theorem keeps_mapM (h : Frame c R) {k : α → Step β} (hk : ∀ a, Keeps R c (k a)) (l : List α) :
    Keeps R c (l.mapM k) := by
  induction l with
  | nil => exact h.keeps_pure []
  | cons a l ih =>
    rw [List.mapM_cons]
    exact h.keeps_bind (hk a) fun b => h.keeps_bind ih fun bs => h.keeps_pure (b :: bs)

theorem keeps_forM (h : Frame c R) {k : α → Step Unit} (hk : ∀ a, Keeps R c (k a)) (l : List α) :
    Keeps R c (l.forM k) := by
  induction l with
  | nil => exact h.keeps_pure ()
  | cons a l ih => exact h.keeps_bind (hk a) fun _ => ih

/-! ## Steps that passes share -/

/-- A warning is well coded, so every frame allows it. -/
theorem keeps_warn (h : Frame c R) {code : String} (hcode : code ≠ failureCode) (message : String)
    (help about : Option String) : Keeps R c (warn code message help about) :=
  h.keeps_bind h.keeps_read fun _ => keeps_modify fun f =>
    h.warning f _ (Diagnostic.wellCoded_of_code rfl hcode)

theorem keeps_readProgram (h : Frame c R) (source : String) : Keeps R c (readProgram source) := by
  unfold readProgram
  split
  · exact h.keeps_pure _
  · exact h.keeps_bind h.keeps_read fun _ => h.keeps_throw _

theorem keeps_edit (h : Frame c R) (source : String) (edits : List Text.Edit) :
    Keeps R c (edit source edits) := by
  unfold edit
  split
  · exact h.keeps_pure _
  · exact h.keeps_throw _

/-- A placeholder may be taken for a record of the registry. -/
theorem keeps_placeholderFor (h : Frame c R) {r : ExportRecord} (hr : r ∈ c.registry) :
    Keeps R c (placeholderFor r) :=
  fun f => h.placeholder f r hr

/-! ## Stages -/

theorem registered_of_setter {path : List String} {r : ExportRecord}
    (h : c.setter? path = some r) : r ∈ c.registry := by
  obtain ⟨name, -, hname⟩ := Option.bind_eq_some_iff.1 (Option.filter_eq_some_iff.1 h).1
  exact (Registry.mem_of_lookup hname).1

theorem registered_of_resolve {path : List String} {r : ExportRecord} {n : Nat} :
    ∀ {length : Nat}, c.resolve path length = .exported r n → r ∈ c.registry
  | length + 1, h => by
    rw [Context.resolve] at h
    split_ifs at h
    split at h
    · exact registered_of_resolve h
    · next record hrecord =>
      split_ifs at h
      exact (Resolution.exported.inj h).1 ▸ (Registry.mem_of_lookup hrecord).1

theorem keeps_globalThis (h : Frame c R) (source : String) : Keeps R c (globalThis source) :=
  h.keeps_bind (h.keeps_readProgram source) fun _ => h.keeps_edit source _

theorem keeps_unwrapAll (h : Frame c R) (source : String) : Keeps R c (unwrapAll source) := by
  induction hn : source.length using Nat.strongRecOn generalizing source with
  | _ n ih =>
    rw [unwrapAll]
    refine h.keeps_bind (h.keeps_readProgram source) fun program => ?_
    refine h.keeps_bind (h.keeps_forM (fun names => h.keeps_warn (by decide) _ _ _) _) fun _ => ?_
    refine keeps_ite (h.keeps_pure _) (h.keeps_bind (h.keeps_edit source _) fun next => ?_)
    split_ifs with hlt
    · exact ih next.length (hn ▸ hlt) next rfl
    · exact h.keeps_pure next

theorem keeps_unwrap (h : Frame c R) (source : String) : Keeps R c (unwrap source) := by
  refine h.keeps_bind (h.keeps_unwrapAll source) fun text => ?_
  split_ifs
  · exact h.keeps_pure source
  · exact h.keeps_globalThis text

theorem keeps_importPathEdits (h : Frame c R) (declarations : Table Script.ElementDeclaration) :
    Keeps R c (importPathEdits c declarations) := by
  refine keeps_ite (h.keeps_mapM (fun d => ?_) _) (h.keeps_pure [])
  exact h.keeps_bind (fun f => h.deferred f _) fun _ => h.keeps_pure _

theorem keeps_warnUndeclared (h : Frame c R) (tags : List String) :
    Keeps R c (tags.forM warnUndeclared) :=
  h.keeps_forM (fun _ => h.keeps_warn (by decide) _ _ _) tags

/-- To inline templates is allowed by a frame that allows claims. -/
theorem keeps_inlineTemplates (h : Frame c R) (hclaims : AllowsClaims R) (source : String) :
    Keeps R c (inlineTemplates source) := by
  refine keeps_read_bind (h.keeps_bind (h.keeps_readProgram source) fun _ => ?_)
  refine h.keeps_bind (keeps_modify fun f => hclaims f _) fun _ => ?_
  exact h.keeps_bind (h.keeps_warnUndeclared _) fun _ =>
    h.keeps_bind (h.keeps_importPathEdits _) fun _ => h.keeps_edit source _

theorem keeps_setExport (h : Frame c R) (source : String) (s : Site) :
    Keeps R c (setExport source s) := by
  unfold setExport
  refine keeps_read_bind ?_
  split
  · next setter _ hsetter =>
    exact h.keeps_bind (h.keeps_placeholderFor (registered_of_setter hsetter)) fun _ =>
      h.keeps_pure _
  · exact h.keeps_bind (h.keeps_warn (by decide) _ _ _) fun _ => h.keeps_pure []

/-- What a site leaves behind is allowed by every frame. -/
theorem keeps_collectSite (h : Frame c R) (source : String) (s : Site) :
    Keeps R c (collectSite source s) := by
  unfold collectSite
  refine keeps_read_bind ?_
  split
  · exact h.keeps_pure []
  · next record length hresolve =>
    split_ifs
    · exact h.keeps_setExport source s
    · exact h.keeps_bind (h.keeps_placeholderFor (registered_of_resolve hresolve)) fun _ =>
        h.keeps_pure _
  · dsimp only
    split_ifs
    · exact h.keeps_bind (h.keeps_warn (by decide) _ _ _) fun _ => h.keeps_pure []
    · exact h.keeps_pure []

/-- To collect references is allowed by every frame. -/
theorem keeps_collectReferences (h : Frame c R) (source : String) :
    Keeps R c (collectReferences source) :=
  h.keeps_bind (h.keeps_readProgram source) fun _ =>
    h.keeps_bind (h.keeps_mapM (h.keeps_collectSite source) _) fun _ => h.keeps_edit source _

/-- To export is allowed by a frame that allows exports. -/
theorem keeps_exportNamespaces (h : Frame c R) (hexports : AllowsExports R) (source : String) :
    Keeps R c (exportNamespaces source) := by
  refine keeps_read_bind (h.keeps_bind (h.keeps_readProgram source) fun _ => ?_)
  exact h.keeps_bind (keeps_modify fun f => hexports f _ _ _) fun _ => h.keeps_edit _ _

theorem keeps_receiverEdit (h : Frame c R) (source space name : String)
    (receiver : Option Script.Node × Script.Node) :
    Keeps R c (receiverEdit source space name receiver) := by
  refine h.keeps_bind h.keeps_get fun f => keeps_ite (h.keeps_pure _) ?_
  exact h.keeps_bind (h.keeps_warn (by decide) _ _ _) fun _ => h.keeps_pure []

theorem keeps_namespaceThis (h : Frame c R) (source : String) :
    Keeps R c (namespaceThis source) := by
  refine h.keeps_bind h.keeps_get fun f => keeps_ite (h.keeps_pure source) ?_
  refine h.keeps_bind (h.keeps_readProgram source) fun _ =>
    h.keeps_bind (h.keeps_mapM (fun function => ?_) _) fun _ => h.keeps_edit source _
  exact h.keeps_bind (h.keeps_mapM (h.keeps_receiverEdit source _ _) _) fun _ => h.keeps_pure _

theorem keeps_substitutePaths (h : Frame c R) (source : String) :
    Keeps R c (substitutePaths source) :=
  h.keeps_bind (h.keeps_readProgram source) fun _ => h.keeps_bind h.keeps_read fun _ =>
    h.keeps_bind h.keeps_get fun _ => h.keeps_edit source _

theorem keeps_insertMarkup (h : Frame c R) (source : String) : Keeps R c (insertMarkup source) := by
  unfold insertMarkup
  refine h.keeps_bind h.keeps_read fun c' => ?_
  split
  · exact h.keeps_pure source
  · refine h.keeps_bind h.keeps_get fun f => keeps_ite (h.keeps_pure source) ?_
    exact h.keeps_bind (h.keeps_readProgram source) fun _ => h.keeps_edit source _

theorem keeps_bindImports (h : Frame c R) (source : String) : Keeps R c (bindImports source) := by
  unfold bindImports
  refine h.keeps_bind h.keeps_read fun c' => ?_
  split
  · refine h.keeps_bind h.keeps_get fun f => h.keeps_bind (h.keeps_readProgram source) fun _ => ?_
    dsimp only
    split
    · exact h.keeps_throw _
    · exact h.keeps_bind (keeps_modify fun f => h.importCount f _) fun _ => h.keeps_pure _
  · exact h.keeps_throw _

theorem keeps_reportHazards (h : Frame c R) (source : String) :
    Keeps R c (reportHazards source) := by
  unfold reportHazards
  refine h.keeps_bind (h.keeps_readProgram source) fun _ =>
    h.keeps_bind (h.keeps_forM (fun n => ?_) _) fun _ => h.keeps_pure source
  unfold warnHazard
  split
  · exact h.keeps_warn (by decide) _ _ _
  · exact h.keeps_pure ()

theorem keeps_finish (h : Frame c R) (source : String) : Keeps R c (finish source) :=
  h.keeps_bind h.keeps_get fun _ => h.keeps_pure _

/-- Every stage keeps a frame that allows for claims and for exports, if it makes them. -/
theorem keeps_run (h : Frame c R) {s : Stage} (hclaims : s = .inlineTemplates → AllowsClaims R)
    (hexports : s = .exportNamespaces → AllowsExports R) (source : String) :
    Keeps R c (s.run source) := by
  cases s with
  | globalThis => exact h.keeps_globalThis source
  | unwrap => exact h.keeps_unwrap source
  | inlineTemplates => exact h.keeps_inlineTemplates (hclaims rfl) source
  | collectReferences => exact h.keeps_collectReferences source
  | exportNamespaces => exact h.keeps_exportNamespaces (hexports rfl) source
  | namespaceThis => exact h.keeps_namespaceThis source
  | substitutePaths => exact h.keeps_substitutePaths source
  | insertMarkup => exact h.keeps_insertMarkup source
  | bindImports => exact h.keeps_bindImports source
  | reportHazards => exact h.keeps_reportHazards source
  | finish => exact h.keeps_finish source

end Frame

/-! ## Exports -/

/-- A program is read if the source parses, and nothing else happens. -/
theorem readProgram_eq_ok {source : String} {c : Context} {f g : Findings}
    {program : Script.Node} :
    readProgram source c f = .ok program g ↔ Script.parse source = .ok program ∧ g = f := by
  unfold readProgram
  cases Script.parse source with
  | ok n =>
    change EStateM.Result.ok n f = .ok program g ↔ _
    simp [eq_comm]
  | error e =>
    change EStateM.Result.error (Failure.script e c.file.url) f = .ok program g ↔ _
    simp

/-- A source is edited if the edits apply, and nothing else happens. -/
theorem edit_eq_ok {source text : String} {edits : List Text.Edit} {c : Context}
    {f g : Findings} :
    edit source edits c f = .ok text g ↔ Text.applyEdits source edits = .ok text ∧ g = f := by
  unfold edit
  cases Text.applyEdits source edits with
  | ok t =>
    change EStateM.Result.ok t f = .ok text g ↔ _
    simp [eq_comm]
  | error e =>
    change EStateM.Result.error (Failure.conflict e) f = .ok text g ↔ _
    simp

/-- The export of namespaces, if it succeeds, adds the records that it makes of the program. -/
theorem exportNamespaces_ok {source text : String} {c : Context} {f g : Findings}
    (h : exportNamespaces source c f = .ok text g) :
    ∃ program, Script.parse source = .ok program ∧
      g.exports = f.exports ++ (exportProgram c source program).2.records := by
  obtain ⟨c', f₁, hread, hrest⟩ := bind_eq_ok.1 h
  cases hread
  obtain ⟨program, f₂, hprogram, hmore⟩ := bind_eq_ok.1 hrest
  obtain ⟨hparse, rfl⟩ := readProgram_eq_ok.1 hprogram
  rcases hexport : exportProgram c source program with ⟨edits, e⟩
  rw [hexport] at hmore
  obtain ⟨u, f₃, hmodify, hedit⟩ := bind_eq_ok.1 hmore
  cases hmodify
  obtain ⟨-, rfl⟩ := edit_eq_ok.1 hedit
  exact ⟨program, hparse, by rw [hexport]⟩

/-- The export of namespaces carries out the edits for the program. -/
theorem exportNamespaces_applied {source text : String} {c : Context} {f g : Findings}
    (h : exportNamespaces source c f = .ok text g) :
    ∃ program, Script.parse source = .ok program ∧
      Text.applyEdits source (exportProgram c source program).1 = .ok text := by
  obtain ⟨c', f₁, hread, hrest⟩ := bind_eq_ok.1 h
  cases hread
  obtain ⟨program, f₂, hprogram, hmore⟩ := bind_eq_ok.1 hrest
  obtain ⟨hparse, rfl⟩ := readProgram_eq_ok.1 hprogram
  obtain ⟨u, f₃, hmodify, hedit⟩ := bind_eq_ok.1 hmore
  exact ⟨program, hparse, (edit_eq_ok.1 hedit).1⟩

/-- The exports stay as they are. -/
def SameExports (f g : Findings) : Prop := g.exports = f.exports

theorem frame_sameExports (c : Context) : Frame c SameExports where
  refl _ := rfl
  trans h₁ h₂ := h₂.trans h₁
  warning _ _ _ := rfl
  deferred _ _ := rfl
  importCount _ _ := rfl
  placeholder f r _ := by
    unfold Findings.placeholderFor
    split <;> rfl

/-- Exports are found by the stage for exports and by no other. -/
theorem keeps_sameExports (c : Context) {s : Stage} (hs : s ≠ .exportNamespaces)
    (source : String) : Keeps SameExports c (s.run source) :=
  (frame_sameExports c).keeps_run (fun _ _ _ => rfl) (fun he => absurd he hs) source

/-! ## Claims -/

/-- The claims stay as they are. -/
def SameClaims (f g : Findings) : Prop := g.claimed = f.claimed

theorem frame_sameClaims (c : Context) : Frame c SameClaims where
  refl _ := rfl
  trans h₁ h₂ := h₂.trans h₁
  warning _ _ _ := rfl
  deferred _ _ := rfl
  importCount _ _ := rfl
  placeholder f r _ := by
    unfold Findings.placeholderFor
    split <;> rfl

/-- Blocks are claimed by the stage that inlines templates and by no other. -/
theorem keeps_sameClaims (c : Context) {s : Stage} (hs : s ≠ .inlineTemplates) (source : String) :
    Keeps SameClaims c (s.run source) :=
  (frame_sameClaims c).keeps_run (fun he => absurd he hs) (fun _ _ _ _ _ => rfl) source

/-! ## References -/

/-- New references are to records of the registry. -/
def RegisteredReferences (c : Context) (f g : Findings) : Prop :=
  ∀ p ∈ g.references, p ∈ f.references ∨ p.2 ∈ c.registry

theorem frame_registeredReferences (c : Context) : Frame c (RegisteredReferences c) where
  refl _ _ := Or.inl
  trans h₁ h₂ p hp := (h₂ p hp).elim (h₁ p) Or.inr
  warning _ _ _ _ := Or.inl
  deferred _ _ _ := Or.inl
  importCount _ _ _ := Or.inl
  placeholder f r hr p hp := by
    unfold Findings.placeholderFor at hp
    split at hp
    · exact Or.inl hp
    · rcases List.mem_append.1 hp with hp | hp
      · exact Or.inl hp
      · rw [List.mem_singleton.1 hp]
        exact Or.inr hr

/-- Whatever stage adds a reference, it is to a record of the registry. -/
theorem keeps_registeredReferences (c : Context) (s : Stage) (source : String) :
    Keeps (RegisteredReferences c) c (s.run source) :=
  (frame_registeredReferences c).keeps_run (fun _ _ _ _ => Or.inl)
    (fun _ _ _ _ _ _ => Or.inl) source

/-! ## Reports -/

/-- The code of failures stands at errors only, if it did so before. -/
def WellCodedReports (f g : Findings) : Prop :=
  (∀ d ∈ f.diagnostics, d.WellCoded) → ∀ d ∈ g.diagnostics, d.WellCoded

theorem frame_wellCodedReports (c : Context) : Frame c WellCodedReports where
  refl _ := id
  trans h₁ h₂ := h₂ ∘ h₁
  warning _ _ hd h := Diagnostics.forall_mem_report h hd
  deferred _ _ := id
  importCount _ _ := id
  placeholder f r _ h := by
    unfold Findings.placeholderFor
    split <;> exact h

theorem keeps_wellCodedReports (c : Context) (s : Stage) (source : String) :
    Keeps WellCodedReports c (s.run source) :=
  (frame_wellCodedReports c).keeps_run (fun _ _ _ => id) (fun _ _ _ _ _ => id) source

end HtmlModules.Pass
