import HtmlModules.Conversion.Page
import HtmlModules.Proofs.Pipeline

/-!
# Results do not depend on reports

What was reported before has no influence on the result of a conversion nor on what it reports itself
(`Predictable`), so a document may be scanned or converted at any time of a run. `scanModule_ok` and
`convertModule_ok` tell what the scan and the conversion of a document are: the runs of two pipelines
on one program.
-/

namespace HtmlModules

variable {α β : Type}

/-! ## Outcomes -/

/-- The result of a computation, without what it has to report. -/
def Reporting.outcome (m : Reporting α) (ds : Diagnostics) : Except Failure α :=
  match m ds with
  | .ok a _ => .ok a
  | .error e _ => .error e

/-- What has been reported when a computation ends. -/
def Reporting.reports : EStateM.Result Failure Diagnostics α → Diagnostics
  | .ok _ ds | .error _ ds => ds

/-- The end of a computation with a result. -/
def Reporting.ended : Except Failure α → Diagnostics → EStateM.Result Failure Diagnostics α
  | .ok a, ds => .ok a ds
  | .error e, ds => .error e ds

/-- The result and the reports are the same whatever was reported before, and none of them could be
taken for the failure of a document. -/
def Predictable (m : Reporting α) : Prop :=
  ∃ (result : Except Failure α) (news : Diagnostics), (∀ d ∈ news, d.WellCoded) ∧
    ∀ ds, m ds = Reporting.ended result (Diagnostics.reportAll ds news)

namespace Reporting

/-- After a step that succeeds the next one goes on. -/
theorem bind_of_ok {m : Reporting α} {k : α → Reporting β} {ds ds' : Diagnostics} {a : α}
    (h : m ds = .ok a ds') : (m >>= k) ds = k a ds' := by
  change EStateM.bind m k ds = _
  rw [EStateM.bind, h]

theorem bind_of_error {m : Reporting α} {k : α → Reporting β} {ds ds' : Diagnostics} {e : Failure}
    (h : m ds = .error e ds') : (m >>= k) ds = .error e ds' := by
  change EStateM.bind m k ds = _
  rw [EStateM.bind, h]

/-- Two computations succeed if and only if the first does and then the second. -/
theorem bind_eq_ok {m : Reporting α} {k : α → Reporting β} {ds es : Diagnostics} {b : β} :
    (m >>= k) ds = .ok b es ↔ ∃ a ds', m ds = .ok a ds' ∧ k a ds' = .ok b es := by
  cases hm : m ds with
  | ok a ds' => simp [bind_of_ok hm]
  | error e ds' => simp [bind_of_error hm]

theorem outcome_eq_ok {m : Reporting α} {ds : Diagnostics} {a : α} :
    m.outcome ds = .ok a ↔ ∃ es, m ds = .ok a es := by
  cases hm : m ds <;> simp [outcome, hm]

theorem exists_of_toBool_outcome {m : Reporting α} {ds : Diagnostics}
    (h : (m.outcome ds).toBool = true) : ∃ a es, m ds = .ok a es := by
  cases hm : m ds with
  | ok a es => exact ⟨a, es, rfl⟩
  | error e es =>
    rw [outcome, hm] at h
    cases h

/-- To apply a function at the end changes the outcome by it. -/
theorem outcome_bind_pure {m : Reporting α} {f : α → β} {ds : Diagnostics} {b : β} :
    (m >>= fun a => pure (f a)).outcome ds = .ok b ↔ ∃ a, m.outcome ds = .ok a ∧ f a = b := by
  unfold outcome
  cases hm : m ds with
  | ok a es =>
    rw [bind_of_ok hm]
    simp [Pure.pure, EStateM.pure]
  | error e es =>
    rw [bind_of_error hm]
    simp

end Reporting

namespace Predictable

open Reporting

/-- The outcome of a predictable step does not depend on the diagnostics before it. -/
theorem outcome_eq {m : Reporting α} (h : Predictable m) (ds ds' : Diagnostics) :
    m.outcome ds = m.outcome ds' := by
  obtain ⟨result, news, -, hm⟩ := h
  unfold outcome
  rw [hm ds, hm ds']
  cases result <;> rfl

theorem outcome_of_ok {m : Reporting α} (h : Predictable m) {ds es : Diagnostics} {a : α}
    (hm : m ds = .ok a es) : m.outcome [] = .ok a :=
  (h.outcome_eq [] ds).trans (outcome_eq_ok.2 ⟨es, hm⟩)

/-- A predictable step reports well coded diagnostics on top of what was there. -/
theorem reports_eq {m : Reporting α} (h : Predictable m) (ds : Diagnostics) :
    ∃ news : Diagnostics, (∀ d ∈ news, d.WellCoded) ∧ reports (m ds) = ds.reportAll news := by
  obtain ⟨result, news, hnews, hm⟩ := h
  refine ⟨news, hnews, ?_⟩
  rw [hm ds]
  cases result <;> rfl

theorem pure (a : α) : Predictable (Pure.pure a : Reporting α) :=
  ⟨.ok a, [], by simp, fun _ => rfl⟩

theorem throw (e : Failure) : Predictable (MonadExcept.throw e : Reporting α) :=
  ⟨.error e, [], by simp, fun _ => rfl⟩

/-- To report well coded diagnostics is predictable. -/
theorem report {news : Diagnostics} (h : ∀ d ∈ news, d.WellCoded) : Predictable (report news) :=
  ⟨.ok (), news, h, fun _ => rfl⟩

/-- Two predictable steps are predictable together. -/
theorem bind {m : Reporting α} {k : α → Reporting β} (hm : Predictable m)
    (hk : ∀ a, Predictable (k a)) : Predictable (m >>= k) := by
  obtain ⟨result, news, hnews, hm⟩ := hm
  cases result with
  | error e => exact ⟨.error e, news, hnews, fun ds => bind_of_error (hm ds)⟩
  | ok a =>
    obtain ⟨result, more, hmore, hk⟩ := hk a
    refine ⟨result, news ++ more, List.forall_mem_append.2 ⟨hnews, hmore⟩, fun ds => ?_⟩
    rw [bind_of_ok (hm ds), hk, Diagnostics.reportAll_append]

theorem forM {k : α → Reporting Unit} (hk : ∀ a, Predictable (k a)) (l : List α) :
    Predictable (l.forM k) := by
  induction l with
  | nil => exact pure ()
  | cons a l ih => exact (hk a).bind fun _ => ih

theorem ofExcept (r : Except Failure α) : Predictable (Reporting.ofExcept r) := by
  cases r with
  | ok a => exact pure a
  | error e => exact throw e

theorem wellCoded_warnings (r : Resolver) (url : String) : ∀ d ∈ r.warnings url, d.WellCoded := by
  unfold Resolver.warnings
  cases r.lookedUp? url with
  | none => simp
  | some name =>
    rw [Option.map_some, Option.getD_some]
    unfold Dependencies.warnings
    split_ifs
    · simp
    · exact List.forall_mem_singleton.2 (Diagnostic.wellCoded_of_code rfl (by decide))

theorem lookUp (r : Resolver) (url : String) : Predictable (lookUp r url) :=
  (report (wellCoded_warnings r url)).bind fun _ => ofExcept _

theorem prepare (c : Conversion) (file : SourceFile) : Predictable (c.prepare file) := by
  unfold Conversion.prepare
  dsimp only
  split_ifs
  · exact (throw _).bind fun _ => (forM (lookUp c.resolver) _).bind fun _ => pure _
  · exact (forM (lookUp c.resolver) _).bind fun _ => pure _

theorem convert (p : Pipeline) (context : Pass.Context) (source : String) :
    Predictable (p.convert context source) := by
  refine (report (p.wellCoded_of_run context source)).bind fun _ => ?_
  split
  · exact throw _
  · exact pure _

theorem scanModule (c : Conversion) (file : SourceFile) : Predictable (c.scanModule file) :=
  (prepare c file).bind fun _ => (convert _ _ _).bind fun _ => pure _

theorem scanDocument (c : Conversion) (file : SourceFile) : Predictable (c.scanDocument file) :=
  (prepare c file).bind fun _ => (lookUp _ _).bind fun _ => pure _

theorem convertModule (c : Conversion) (registry : Registry) (file : SourceFile) :
    Predictable (c.convertModule registry file) :=
  (prepare c file).bind fun _ => (convert _ _ _).bind fun _ => pure _

/-- Predictable steps over a list are predictable together. -/
theorem mapM {k : α → Reporting β} (hk : ∀ a, Predictable (k a)) :
    ∀ l : List α, Predictable (l.mapM k)
  | [] => pure []
  | a :: l => by
    rw [List.mapM_cons]
    exact (hk a).bind fun _ => (mapM hk l).bind fun _ => pure _

theorem filterMapM {k : α → Reporting (Option β)} (hk : ∀ a, Predictable (k a)) :
    ∀ l : List α, Predictable (l.filterMapM k)
  | [] => pure []
  | a :: l => by
    rw [List.filterMapM_cons]
    refine (hk a).bind fun found => ?_
    cases found with
    | none => exact filterMapM hk l
    | some _ => exact (filterMapM hk l).bind fun _ => pure _

section Page

variable (c : Conversion) (p : Preparation) (registry : Registry)

theorem inlineModule? (s : InlineScript) : Predictable (c.inlineModule? p registry s) := by
  unfold Conversion.inlineModule?
  split
  · exact (report (List.forall_mem_singleton.2 (Diagnostic.wellCoded_of_code rfl (by decide)))).bind
      fun _ => pure _
  · split_ifs
    · exact pure _
    · exact (convert _ _ _).bind fun _ => pure _

theorem inlineEdit? (s : InlineScript) : Predictable (c.inlineEdit? p registry s) :=
  (inlineModule? c p registry s).bind fun _ => pure _

theorem linkSpecifier (l : Link) : Predictable (c.linkSpecifier p l) :=
  (lookUp _ _).bind fun _ => ofExcept _

theorem importEdit (l : Link) : Predictable (c.importEdit p l) :=
  (linkSpecifier c p l).bind fun _ => pure _

theorem scriptEdit (l : Link) : Predictable (c.scriptEdit p l) :=
  (linkSpecifier c p l).bind fun _ => pure _

theorem sharedStyleEdits (file : SourceFile) : Predictable (sharedStyleEdits file) := by
  unfold HtmlModules.sharedStyleEdits
  split
  · exact pure _
  · split_ifs
    · exact pure _
    · split
      · exact pure _
      · refine (report (List.forall_mem_singleton.2 ?_)).bind fun _ => pure _
        exact Diagnostic.wellCoded_of_code rfl (by decide)

theorem pageEdits : Predictable (c.pageEdits p registry) :=
  (filterMapM (inlineEdit? c p registry) _).bind fun _ =>
    (mapM (importEdit c p) _).bind fun _ =>
      (mapM (scriptEdit c p) _).bind fun _ =>
        (sharedStyleEdits p.file).bind fun _ => pure _

theorem convertPage (file : SourceFile) : Predictable (c.convertPage registry file) := by
  refine (prepare c file).bind fun p => (pageEdits c p registry).bind fun edits => ?_
  split
  · exact throw _
  · exact (lookUp _ _).bind fun _ => pure _

end Page

end Predictable

namespace Reporting

/-- If a list is mapped by computations that do not depend on reports, then the results are those of
its members. -/
theorem mem_of_mapM_eq_ok {k : α → Reporting β} (hk : ∀ a, Predictable (k a)) {b : β} :
    ∀ {l : List α} {ds es : Diagnostics} {out : List β}, l.mapM k ds = .ok out es →
      (b ∈ out ↔ ∃ a ∈ l, (k a).outcome [] = .ok b)
  | [], _, _, _, h => by
    cases h
    simp
  | a :: l, ds, es, out, h => by
    rw [List.mapM_cons] at h
    obtain ⟨b', ds', hhead, hrest⟩ := bind_eq_ok.1 h
    obtain ⟨bs, ds'', htail, hreturn⟩ := bind_eq_ok.1 hrest
    cases hreturn
    rw [List.mem_cons, mem_of_mapM_eq_ok hk htail, List.exists_mem_cons_iff,
      (hk a).outcome_of_ok hhead]
    simp [eq_comm]

/-- If a list is mapped, then there is a result for each member. -/
theorem exists_of_mapM_eq_ok {k : α → Reporting β} (hk : ∀ a, Predictable (k a)) {a : α} :
    ∀ {l : List α} {ds es : Diagnostics} {out : List β}, l.mapM k ds = .ok out es → a ∈ l →
      ∃ b, (k a).outcome [] = .ok b
  | b :: l, ds, es, out, h, ha => by
    rw [List.mapM_cons] at h
    obtain ⟨b', ds', hhead, hrest⟩ := bind_eq_ok.1 h
    obtain ⟨_, _, htail, -⟩ := bind_eq_ok.1 hrest
    rcases List.mem_cons.1 ha with rfl | ha
    · exact ⟨b', (hk a).outcome_of_ok hhead⟩
    · exact exists_of_mapM_eq_ok hk htail ha

/-- If members without a result are left out, then the results are those of the others. -/
theorem mem_of_filterMapM_eq_ok {k : α → Reporting (Option β)} (hk : ∀ a, Predictable (k a))
    {b : β} :
    ∀ {l : List α} {ds es : Diagnostics} {out : List β}, l.filterMapM k ds = .ok out es →
      (b ∈ out ↔ ∃ a ∈ l, (k a).outcome [] = .ok (some b))
  | [], _, _, _, h => by
    cases h
    simp
  | a :: l, ds, es, out, h => by
    rw [List.filterMapM_cons] at h
    obtain ⟨found, ds', hhead, hrest⟩ := bind_eq_ok.1 h
    have hout := (hk a).outcome_of_ok hhead
    cases found with
    | none =>
      rw [mem_of_filterMapM_eq_ok hk hrest, List.exists_mem_cons_iff, hout]
      simp
    | some b' =>
      obtain ⟨bs, ds'', htail, hreturn⟩ := bind_eq_ok.1 hrest
      cases hreturn
      rw [List.mem_cons, mem_of_filterMapM_eq_ok hk htail, List.exists_mem_cons_iff, hout]
      simp [eq_comm]

end Reporting

/-! ## Documents that become modules -/

namespace Conversion

/-- A file as it is prepared, if it is. -/
def preparation (c : Conversion) (file : SourceFile) : Preparation :=
  let moduleUrl := c.resolver.moduleUrl file.url
  { file, moduleUrl, source := c.programOf moduleUrl file
    explicitImports := c.explicitImports moduleUrl file }

/-- The run of a pipeline on the program of a file. -/
def runOf (c : Conversion) (p : Pipeline) (registry : Registry) (file : SourceFile) :
    Pipeline.Run :=
  p.run (c.context (c.preparation file) registry) (c.preparation file).source

/-- What is prepared does not depend on the diagnostics. -/
theorem prepare_ok {c : Conversion} {file : SourceFile} {ds ds' : Diagnostics} {p : Preparation}
    (h : c.prepare file ds = .ok p ds') : p = c.preparation file := by
  unfold prepare at h
  dsimp only at h
  split_ifs at h
  · obtain ⟨u, es, hthrow, -⟩ := Reporting.bind_eq_ok.1 h
    cases hthrow
  · obtain ⟨u, es, -, hreturn⟩ := Reporting.bind_eq_ok.1 h
    cases hreturn
    rfl

/-- The url of a file that was prepared can be looked up. -/
theorem lookUp_url_of_prepare {c : Conversion} {file : SourceFile} {ds ds' : Diagnostics}
    {p : Preparation} (h : c.prepare file ds = .ok p ds') (es : Diagnostics) :
    ∃ es', lookUp c.resolver file.url es = .ok () es' := by
  unfold prepare at h
  dsimp only at h
  split_ifs at h
  · obtain ⟨_, _, hthrow, -⟩ := Reporting.bind_eq_ok.1 h
    cases hthrow
  · obtain ⟨_, _, hall, -⟩ := Reporting.bind_eq_ok.1 h
    obtain ⟨_, _, hurl, -⟩ := Reporting.bind_eq_ok.1 hall
    exact Reporting.outcome_eq_ok.1
      ((Predictable.lookUp _ _).outcome_eq _ _ |>.trans (Reporting.outcome_eq_ok.2 ⟨_, hurl⟩))

/-- A conversion that succeeds gives the text and the findings of its run. -/
theorem convert_ok {p : Pipeline} {context : Pass.Context} {source text : String}
    {findings : Pass.Findings} {ds ds' : Diagnostics}
    (h : p.convert context source ds = .ok (text, findings) ds') :
    (p.run context source).failure = none ∧ text = (p.run context source).text source ∧
      findings = (p.run context source).findings := by
  obtain ⟨u, es, -, hresult⟩ := Reporting.bind_eq_ok.1 h
  cases hfailure : (p.run context source).failure with
  | some e =>
    rw [hfailure] at hresult
    cases hresult
  | none =>
    rw [hfailure] at hresult
    cases hresult
    exact ⟨rfl, rfl, rfl⟩

/-- A scan that succeeds announces the exports of the scanning run. -/
theorem scanModule_ok {c : Conversion} {file : SourceFile} {ds ds' : Diagnostics} {r : ScanResult}
    (h : c.scanModule file ds = .ok r ds') :
    r.legacyUrl = file.url ∧ r.converted = (c.preparation file).moduleUrl ∧
      (c.runOf .forScan [] file).failure = none ∧
      r.exports = (c.runOf .forScan [] file).findings.exports := by
  obtain ⟨p, es, hprepare, hrest⟩ := Reporting.bind_eq_ok.1 h
  obtain rfl := prepare_ok hprepare
  obtain ⟨⟨text, findings⟩, es', hconvert, hreturn⟩ := Reporting.bind_eq_ok.1 hrest
  obtain ⟨hfailure, rfl, rfl⟩ := convert_ok hconvert
  cases hreturn
  exact ⟨rfl, rfl, hfailure, rfl⟩

/-- A document that stays a document announces nothing. -/
theorem scanDocument_ok {c : Conversion} {file : SourceFile} {ds ds' : Diagnostics}
    {r : ScanResult} (h : c.scanDocument file ds = .ok r ds') :
    r.legacyUrl = file.url ∧ r.converted = c.resolver.convertUrl file.url ∧ r.exports = [] := by
  obtain ⟨p, es, -, hrest⟩ := Reporting.bind_eq_ok.1 h
  obtain ⟨u, es', -, hreturn⟩ := Reporting.bind_eq_ok.1 hrest
  cases hreturn
  exact ⟨rfl, rfl, rfl⟩

/-- A document that becomes a module has the text and the exports of the converting run. -/
theorem convertModule_ok {c : Conversion} {registry : Registry} {file : SourceFile}
    {ds ds' : Diagnostics} {r : Converted}
    (h : c.convertModule registry file ds = .ok r ds') :
    (c.runOf .forModule registry file).failure = none ∧ r.url = (c.preparation file).moduleUrl ∧
      r.exports = (c.runOf .forModule registry file).findings.exports ∧
      r.text = (c.runOf .forModule registry file).text (c.preparation file).source := by
  obtain ⟨p, es, hprepare, hrest⟩ := Reporting.bind_eq_ok.1 h
  obtain rfl := prepare_ok hprepare
  obtain ⟨⟨text, findings⟩, es', hconvert, hreturn⟩ := Reporting.bind_eq_ok.1 hrest
  obtain ⟨hfailure, rfl, rfl⟩ := convert_ok hconvert
  cases hreturn
  refine ⟨hfailure, ?_, ?_, ?_⟩
  · dsimp only
  · dsimp only [runOf]
  · dsimp only [runOf]

/-- What is converted in place stays a document. -/
theorem convertPage_kind {c : Conversion} {registry : Registry} {file : SourceFile}
    {ds ds' : Diagnostics} {r : Converted} (h : c.convertPage registry file ds = .ok r ds') :
    r.kind = .document := by
  obtain ⟨p, es, -, hrest⟩ := Reporting.bind_eq_ok.1 h
  obtain ⟨edits, es', -, hresult⟩ := Reporting.bind_eq_ok.1 hrest
  cases hedits : Text.applyEdits file.contents edits true with
  | error conflict =>
    rw [hedits] at hresult
    cases hresult
  | ok text =>
    rw [hedits] at hresult
    obtain ⟨u, es'', -, hreturn⟩ := Reporting.bind_eq_ok.1 hresult
    cases hreturn
    rfl

end Conversion

end HtmlModules
