import HtmlModules.Proofs.Step

/-!
# The exports of a run

A run that succeeds is the run of its first stages followed by that of the others
(`runFrom_append`), and a stage that finished started from what those before it left
(`exists_run_of_mem_texts`). The stages around the export of namespaces add no exports, so the exports of a
run are the records that `exportProgram` makes of the program as that stage finds it
(`exports_of_run`). A conversion exports after it has unwrapped the program, inlined its templates
and replaced its references; the scan exports first (`forModule_order`, `forScan_order`).
-/

namespace HtmlModules.Pipeline

open Pass

variable {c : Context} {f g : Findings} {source text : String} {s : Stage}

/-! ## Runs -/

theorem runFrom_of_ok (h : s.run source c f = .ok text g) (rest : List Stage) :
    runFrom c f source (s :: rest) =
      { runFrom c g text rest with texts := (s, text) :: (runFrom c g text rest).texts } := by
  rw [runFrom, h]

theorem runFrom_of_error {e : Failure} (h : s.run source c f = .error e g) (rest : List Stage) :
    runFrom c f source (s :: rest) = { texts := [], findings := g, failure := some e } := by
  rw [runFrom, h]

/-- A run that succeeds has the text of its first stage, and then those of the others. -/
theorem runFrom_cons_ok {rest : List Stage} (h : (runFrom c f source (s :: rest)).failure = none) :
    ∃ text g, s.run source c f = .ok text g ∧ (runFrom c g text rest).failure = none ∧
      (runFrom c f source (s :: rest)).texts = (s, text) :: (runFrom c g text rest).texts := by
  cases hs : s.run source c f with
  | error e g =>
    rw [runFrom_of_error hs] at h
    cases h
  | ok text g =>
    rw [runFrom_of_ok hs] at h ⊢
    exact ⟨text, g, rfl, h, rfl⟩

theorem text_cons (r : Run) (s : Stage) (text source : String) :
    Run.text { r with texts := (s, text) :: r.texts } source = r.text text := by
  cases h : r.texts.getLast? <;> simp [Run.text, List.getLast?_cons, h]

/-- A run that ends early ends so whatever comes behind. -/
theorem runFrom_append_of_failure {after : List Stage} :
    ∀ {before : List Stage} {f : Findings} {source : String},
      (runFrom c f source before).failure ≠ none →
      runFrom c f source (before ++ after) = runFrom c f source before
  | [], _, _, h => absurd rfl h
  | s :: before, f, source, h => by
    cases hs : s.run source c f with
    | error e g => rw [List.cons_append, runFrom_of_error hs, runFrom_of_error hs]
    | ok text g =>
      rw [runFrom_of_ok hs] at h
      rw [List.cons_append, runFrom_of_ok hs, runFrom_of_ok hs, runFrom_append_of_failure h]

/-- The stages behind others that succeed start from what these leave. -/
theorem runFrom_append_of_success {after : List Stage} :
    ∀ {before : List Stage} {f : Findings} {source : String},
      let first := runFrom c f source before
      let second := runFrom c first.findings (first.text source) after
      first.failure = none →
      runFrom c f source (before ++ after) = { second with texts := first.texts ++ second.texts }
  | [], _, _, _ => rfl
  | s :: before, f, source, h => by
    cases hs : s.run source c f with
    | error e g =>
      rw [runFrom_of_error hs] at h
      cases h
    | ok text g =>
      rw [runFrom_of_ok hs] at h
      rw [List.cons_append, runFrom_of_ok hs, runFrom_of_ok hs, runFrom_append_of_success h,
        text_cons]
      rfl

/-- The stages behind others start from what these leave, if nothing fails. -/
theorem runFrom_append {before after : List Stage} {f : Findings} {source : String}
    (h : (runFrom c f source (before ++ after)).failure = none) :
    let first := runFrom c f source before
    let second := runFrom c first.findings (first.text source) after
    first.failure = none ∧ second.failure = none ∧
      (runFrom c f source (before ++ after)).findings = second.findings := by
  have hfirst : (runFrom c f source before).failure = none := by
    by_contra hfailure
    rw [runFrom_append_of_failure hfailure] at h
    exact hfailure h
  rw [runFrom_append_of_success hfirst] at h ⊢
  exact ⟨hfirst, h, rfl⟩

theorem mem_of_mem_texts : ∀ {stages : List Stage} {f : Findings} {source : String},
    (s, text) ∈ (runFrom c f source stages).texts → s ∈ stages
  | s' :: stages, f, source, h => by
    cases hs : s'.run source c f with
    | error e g =>
      rw [runFrom_of_error hs] at h
      cases h
    | ok text' g =>
      rw [runFrom_of_ok hs] at h
      rcases List.mem_cons.1 h with heq | h
      · cases heq
        exact List.mem_cons_self
      · exact List.mem_cons_of_mem _ (mem_of_mem_texts h)

/-- A stage that finished started from what the stages before it left. -/
theorem exists_run_of_mem_texts {before after : List Stage} (hbefore : s ∉ before)
    (hafter : s ∉ after) (h : (s, text) ∈ (runFrom c f source (before ++ s :: after)).texts) :
    let first := runFrom c f source before
    first.failure = none ∧ ∃ g, s.run (first.text source) c first.findings = .ok text g ∧
      runFrom c f source (before ++ s :: after) =
        { runFrom c g text after with
          texts := first.texts ++ (s, text) :: (runFrom c g text after).texts } := by
  dsimp only
  by_cases hfirst : (runFrom c f source before).failure = none
  · refine ⟨hfirst, ?_⟩
    rw [runFrom_append_of_success hfirst] at h ⊢
    rcases List.mem_append.1 h with h | h
    · exact absurd (mem_of_mem_texts h) hbefore
    · cases hs : s.run ((runFrom c f source before).text source) c
        (runFrom c f source before).findings with
      | error e g =>
        rw [runFrom_of_error hs] at h
        cases h
      | ok text' g =>
        rw [runFrom_of_ok hs] at h ⊢
        rcases List.mem_cons.1 h with heq | h
        · cases heq
          exact ⟨g, rfl, rfl⟩
        · exact absurd (mem_of_mem_texts h) hafter
  · rw [runFrom_append_of_failure hfirst] at h
    exact absurd (mem_of_mem_texts h) hbefore

/-- A stage of a run that succeeds has finished. -/
theorem exists_text_of_mem : ∀ {stages : List Stage} {f : Findings} {source : String},
    (runFrom c f source stages).failure = none → s ∈ stages →
      ∃ text, (s, text) ∈ (runFrom c f source stages).texts
  | s' :: stages, f, source, h, hs => by
    obtain ⟨text, g, -, hrest, htexts⟩ := runFrom_cons_ok h
    rw [htexts]
    rcases List.mem_cons.1 hs with rfl | hs
    · exact ⟨text, List.mem_cons_self⟩
    · obtain ⟨text', htext⟩ := exists_text_of_mem hrest hs
      exact ⟨text', List.mem_cons_of_mem _ htext⟩

/-- A run that succeeds leaves the text of its last stage. -/
theorem mem_texts_last {stages : List Stage} (hlast : stages.getLast? = some s)
    (h : (runFrom c f source stages).failure = none) :
    (s, (runFrom c f source stages).text source) ∈ (runFrom c f source stages).texts := by
  obtain ⟨before, rfl⟩ := List.getLast?_eq_some_iff.1 hlast
  obtain ⟨hfirst, hsecond, -⟩ := runFrom_append h
  obtain ⟨text, g, -, -, htexts⟩ := runFrom_cons_ok hsecond
  rw [runFrom_append_of_success hfirst, htexts]
  simp [Run.text, runFrom]

/-- What all stages of a run keep, the run keeps. -/
theorem runFrom_keeps {R : Findings → Findings → Prop} (hR : Frame c R) :
    ∀ {stages : List Stage} (f : Findings) (source : String),
      (∀ s ∈ stages, ∀ source, Keeps R c (s.run source)) → R f (runFrom c f source stages).findings
  | [], f, source, _ => hR.refl f
  | s :: rest, f, source, h => by
    have hstep := h s (by simp) source f
    cases hs : s.run source c f with
    | error e g =>
      rw [hs] at hstep
      rw [runFrom_of_error hs]
      exact hstep
    | ok text g =>
      rw [hs] at hstep
      rw [runFrom_of_ok hs]
      exact hR.trans hstep (runFrom_keeps hR g text fun s hmem => h s (List.mem_cons_of_mem _ hmem))

/-- Stages that inline no templates claim nothing. -/
theorem runFrom_claimed {stages : List Stage} (hs : .inlineTemplates ∉ stages) (f : Findings)
    (source : String) : (runFrom c f source stages).findings.claimed = f.claimed :=
  runFrom_keeps (frame_sameClaims c) f source fun _ hmem =>
    keeps_sameClaims c fun he => hs (he ▸ hmem)

/-- Blocks are claimed by the stage that inlines templates and by no other. -/
theorem runFrom_append_claimed {before after : List Stage} (hafter : .inlineTemplates ∉ after)
    (f : Findings) (source : String) :
    (runFrom c f source (before ++ after)).findings.claimed =
      (runFrom c f source before).findings.claimed := by
  by_cases hfirst : (runFrom c f source before).failure = none
  · rw [runFrom_append_of_success hfirst]
    exact runFrom_claimed hafter _ _
  · rw [runFrom_append_of_failure hfirst]

/-- All references of a run are to records of the registry. -/
theorem references_registered (p : Pipeline) (c : Context) (source : String) :
    ∀ q ∈ (p.run c source).findings.references, q.2 ∈ c.registry := by
  have hstart : ∀ q ∈ (Findings.start source).references, q.2 ∈ c.registry := by
    simp [Findings.start]
  unfold run
  split
  · intro q hq
    exact (runFrom_keeps (frame_registeredReferences c) _ _
      (fun s _ => keeps_registeredReferences c s) q hq).elim (hstart q) id
  · exact hstart

/-- No run reports what could be taken for the failure of a document. -/
theorem wellCoded_of_run (p : Pipeline) (c : Context) (source : String) :
    ∀ d ∈ (p.run c source).findings.diagnostics, d.WellCoded := by
  have hstart : ∀ d ∈ (Findings.start source).diagnostics, d.WellCoded := by
    simp [Findings.start]
  unfold run
  split
  · exact runFrom_keeps (frame_wellCodedReports c) _ _ (fun s _ => keeps_wellCodedReports c s) hstart
  · exact hstart

/-! ## Exports -/

/-- The stages that come before the export of namespaces. -/
def beforeExports (p : Pipeline) : List Stage :=
  (p.ordered?.getD []).takeWhile (· != .exportNamespaces)

/-- The program as the export of namespaces finds it, if the stages before succeed. -/
def exportText? (p : Pipeline) (c : Context) (source : String) : Option String :=
  let first := runFrom c (.start source) source p.beforeExports
  if first.failure.isNone then some (first.text source) else none

/-- Exports are found by their stage and by no other. -/
theorem runFrom_exports {stages : List Stage} (hs : .exportNamespaces ∉ stages) (f : Findings)
    (source : String) : (runFrom c f source stages).findings.exports = f.exports :=
  runFrom_keeps (frame_sameExports c) f source fun _ hmem =>
    keeps_sameExports c fun he => hs (he ▸ hmem)

/-- The exports of a run are those of the program that reaches the export of namespaces. -/
theorem exports_of_run {p : Pipeline} {before after : List Stage}
    (horder : p.ordered? = some (before ++ .exportNamespaces :: after))
    (hbefore : .exportNamespaces ∉ before) (hafter : .exportNamespaces ∉ after)
    (hrun : (p.run c source).failure = none) :
    ∃ text program, p.exportText? c source = some text ∧ Script.parse text = .ok program ∧
      (p.run c source).findings.exports = (exportProgram c text program).2.records := by
  have hp : p.beforeExports = before := by
    rw [beforeExports, horder, Option.getD_some, List.takeWhile_append_of_pos, List.takeWhile_cons]
    · simp
    · intro s hs
      have hne : s ≠ .exportNamespaces := fun he => hbefore (he ▸ hs)
      simpa using hne
  have hrunFrom : p.run c source =
      runFrom c (.start source) source (before ++ .exportNamespaces :: after) := by
    rw [run, horder]
  rw [hrunFrom] at hrun ⊢
  obtain ⟨hfirst, hsecond, hfindings⟩ := runFrom_append hrun
  set first := runFrom c (.start source) source before with hfirstDef
  have htext : p.exportText? c source = some (first.text source) := by
    rw [exportText?, hp, ← hfirstDef, hfirst]
    rfl
  have hstart : first.findings.exports = [] := runFrom_exports hbefore _ _
  cases hs : Stage.exportNamespaces.run (first.text source) c first.findings with
  | error e g =>
    rw [runFrom_of_error hs] at hsecond
    cases hsecond
  | ok text g =>
    obtain ⟨program, hprogram, hexports⟩ := exportNamespaces_ok hs
    refine ⟨first.text source, program, htext, hprogram, ?_⟩
    rw [hfindings, runFrom_of_ok hs, runFrom_exports hafter, hexports, hstart, List.nil_append]

theorem forModule_order :
    forModule.ordered? = some ([.globalThis, .unwrap, .inlineTemplates, .collectReferences] ++
      .exportNamespaces :: [.namespaceThis, .substitutePaths, .insertMarkup, .bindImports,
        .reportHazards, .finish]) := by
  decide

theorem forScan_order :
    forScan.ordered? =
      some ([.globalThis] ++ .exportNamespaces :: [.unwrap, .inlineTemplates]) := by
  decide

end HtmlModules.Pipeline
