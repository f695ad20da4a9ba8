import HtmlModules.Project
import HtmlModules.Proofs.Failing
import HtmlModules.Proofs.Listing
import HtmlModules.Proofs.Reporting

/-!
# The two phases of a project

Each document announces some exports, which do not depend on when it is scanned. The registry that a
scan seals holds the first announcement of every path (`scan_sealed`). After that the registry stays
as it is, and every result of the project is the conversion of a document against it
(`Sealed.convertAll`).
-/

namespace HtmlModules

/-! ## Announcements -/

namespace Conversion

/-- A project before its scan. -/
def project (c : Conversion) (ds : Diagnostics) : Project := { conversion := c, diagnostics := ds }

/-- The scan of a document. -/
def scanStep (c : Conversion) (url : String) (file : SourceFile) : Reporting ScanResult :=
  if (c.project []).becomesModule url then c.scanModule file else c.scanDocument file

/-- The exports that a document announces: those that its scan finds. -/
def announced (c : Conversion) (url : String) : List ExportRecord :=
  match (c.analysis.file? url).map fun file => (c.scanStep url file).outcome [] with
  | some (.ok result) => result.exports
  | _ => []

/-- A scan fails in a way that does not depend on the diagnostics before it. -/
theorem predictable_scanStep (c : Conversion) (url : String) (file : SourceFile) :
    Predictable (c.scanStep url file) := by
  unfold scanStep
  split_ifs
  · exact .scanModule c file
  · exact .scanDocument c file

/-- A document that stays a document announces nothing. -/
theorem announced_of_not_module {c : Conversion} {url : String}
    (h : (c.project []).becomesModule url = false) : c.announced url = [] := by
  unfold announced
  cases c.analysis.file? url with
  | none => rfl
  | some file =>
    have hstep : c.scanStep url file = c.scanDocument file := by
      rw [scanStep, h]
      rfl
    rw [Option.map_some, hstep]
    cases hscan : (c.scanDocument file).outcome [] with
    | error e => rfl
    | ok result =>
      obtain ⟨ds, hresult⟩ := Reporting.outcome_eq_ok.1 hscan
      exact (scanDocument_ok hresult).2.2

/-- The announcements of the documents that a scan looks at, in the order of the scan. -/
def announcements (c : Conversion) (urls : List String) : List ExportRecord :=
  ((c.project []).pending urls).flatMap c.announced

end Conversion

namespace Project

/-- Which documents take part depends on the conversion alone. -/
theorem inScope_eq {c : Conversion} {p : Project} (h : p.conversion = c) (url : String) :
    p.inScope url = (c.project []).inScope url := by
  rw [inScope, inScope, h]
  rfl

/-- Without a manifest a scan looks at all documents that take part. -/
theorem mem_pending {c : Conversion} {ds : Diagnostics} {urls : List String} {url : String} :
    url ∈ (c.project ds).pending urls ↔ url ∈ urls ∧ (c.project []).inScope url = true := by
  rw [pending, Text.mem_sort_eraseDups, List.mem_filter]
  exact and_congr_right fun _ => by simp [Conversion.project, Table.has, Table.get?, inScope_eq]

/-! ## Attempts -/

theorem attempt_of_ok {α : Type} {p : Project} {phase url : String} {step : Reporting α} {a : α}
    {ds : Diagnostics} (h : step p.diagnostics = .ok a ds) :
    p.attempt phase url step = (some a, { p with diagnostics := ds }) := by
  rw [attempt, h]

/-- An attempt that fails is reported, and the project goes on. -/
theorem attempt_of_error {α : Type} {p : Project} {phase url : String} {step : Reporting α}
    {e : Failure} {ds : Diagnostics} (h : step p.diagnostics = .error e ds) :
    p.attempt phase url step =
      (none, { p with diagnostics := ds.report (failureOf phase url e) }) := by
  rw [attempt, h]

/-! ## Scan -/

/-- What holds while a project without a manifest is scanned, once the records `announced` have been
announced. -/
structure Scanning (c : Conversion) (announced : List ExportRecord) (p : Project) : Prop where
  conversion : p.conversion = c
  records : p.builder.records = (Registry.addNew [] announced).1
  unsealed : p.builder.isSealed = false
  converted : p.converted = []

namespace Scanning

variable {c : Conversion} {announced : List ExportRecord} {p : Project}

theorem start (c : Conversion) (ds : Diagnostics) : Scanning c [] (c.project ds) :=
  ⟨rfl, rfl, rfl, rfl⟩

theorem withDiagnostics (h : Scanning c announced p) (ds : Diagnostics) :
    Scanning c announced { p with diagnostics := ds } :=
  ⟨h.conversion, h.records, h.unsealed, h.converted⟩

/-- What is registered is announced behind the rest. -/
theorem register (h : Scanning c announced p) (result : ScanResult) :
    Scanning c (announced ++ result.exports) (p.register result) := by
  unfold Project.register RegistryBuilder.register
  simp only [h.unsealed, Bool.false_eq_true, if_false]
  refine ⟨h.conversion, ?_, rfl, h.converted⟩
  rw [h.records, Registry.addNew_append]

/-- A scanned document adds what it announces. -/
theorem scanOne (h : Scanning c announced p) (url : String) :
    Scanning c (announced ++ c.announced url) (p.scanOne url) := by
  unfold Project.scanOne Conversion.announced
  rw [h.conversion]
  cases hfile : c.analysis.file? url with
  | none => simpa using h
  | some file =>
    have hstep : (if p.becomesModule url then c.scanModule file else c.scanDocument file) =
        c.scanStep url file := by
      rw [Conversion.scanStep, becomesModule, becomesModule, isOwn, isOwn, h.conversion]
      rfl
    have houtcome := (c.predictable_scanStep url file).outcome_eq [] p.diagnostics
    dsimp only [Option.map_some]
    rw [hstep, houtcome]
    cases hrun : c.scanStep url file p.diagnostics with
    | ok result ds =>
      rw [attempt_of_ok hrun, Reporting.outcome, hrun]
      exact (h.withDiagnostics ds).register result
    | error e ds =>
      rw [attempt_of_error hrun, Reporting.outcome, hrun]
      simpa using h.withDiagnostics _

/-- Scans announce what their documents announce, in order. -/
theorem foldl_scanOne :
    ∀ (urls : List String) {announced : List ExportRecord} {p : Project},
      Scanning c announced p →
      Scanning c (announced ++ urls.flatMap c.announced) (urls.foldl Project.scanOne p)
  | [], _, _, h => by simpa using h
  | url :: urls, announced, p, h => by
    rw [List.foldl_cons, List.flatMap_cons, ← List.append_assoc]
    exact foldl_scanOne urls (h.scanOne url)

end Scanning

/-! ## Conversion -/

/-- Documents are converted one after the other: the first one, and the others from there on. -/
theorem foldlM_convert_cons_eq_ok {p q : Project} {url : String} {urls : List String} :
    (url :: urls).foldlM (fun p url => return (← p.convert url).2) p = .ok q ↔
      ∃ r next, p.convert url = .ok (r, next) ∧
        urls.foldlM (fun p url => return (← p.convert url).2) next = .ok q := by
  rw [List.foldlM_cons, Failing.bind_eq_ok]
  constructor
  · rintro ⟨next, hnext, hrest⟩
    obtain ⟨⟨r, next'⟩, hconvert, hreturn⟩ := Failing.bind_eq_ok.1 hnext
    obtain rfl := Except.ok.inj hreturn
    exact ⟨r, next', hconvert, hrest⟩
  · rintro ⟨r, next, hconvert, hrest⟩
    exact ⟨next, Failing.bind_eq_ok.2 ⟨(r, next), hconvert, rfl⟩, hrest⟩

/-- The result is the conversion of a document against a registry. -/
def ConvertedBy (c : Conversion) (registry : Registry) (url : String) (r : Converted) : Prop :=
  ∃ file, c.analysis.file? url = some file ∧ (c.project []).inScope url = true ∧
    ∃ ds ds', (if c.settings.isModule url then c.convertModule registry file
      else c.convertPage registry file) ds = .ok r ds'

/-- What holds once the registry of a project is sealed: it stays, and all results are conversions
against it. -/
structure Sealed (c : Conversion) (registry : Registry) (p : Project) : Prop where
  conversion : p.conversion = c
  kept : p.registry = some registry
  converted : ∀ url r, (url, r) ∈ p.converted → ConvertedBy c registry url r

/-- A scan seals the first announcement of every path. -/
theorem scan_sealed {c : Conversion} {ds : Diagnostics} {urls : List String} {p : Project}
    (h : (c.project ds).scan urls = .ok p) :
    Sealed c (Registry.addNew [] (c.announcements urls)).1 p := by
  have hscanning := (Scanning.start c ds).foldl_scanOne ((c.project ds).pending urls)
  rw [List.nil_append] at hscanning
  unfold scan at h
  rw [if_neg (by simp [Conversion.project])] at h
  obtain rfl := Except.ok.inj h
  refine ⟨hscanning.conversion, congrArg some hscanning.records, ?_⟩
  intro url r hr
  exact absurd (hscanning.converted ▸ hr) (by simp)

namespace Sealed

variable {c : Conversion} {registry : Registry} {p q : Project}

theorem withDiagnostics (h : Sealed c registry p) (ds : Diagnostics) :
    Sealed c registry { p with diagnostics := ds } :=
  ⟨h.conversion, h.kept, h.converted⟩

/-- A result that was converted by the sealed registry may be added. -/
theorem addConverted (h : Sealed c registry p) {url : String} {r : Converted}
    (hr : ConvertedBy c registry url r) :
    Sealed c registry { p with converted := Table.addNew p.converted url r } := by
  refine ⟨h.conversion, h.kept, fun url' r' hmem => ?_⟩
  dsimp only [Table.addNew] at hmem
  split_ifs at hmem
  · exact h.converted url' r' hmem
  · rcases List.mem_append.1 hmem with hmem | hmem
    · exact h.converted url' r' hmem
    · obtain ⟨rfl, rfl⟩ := Prod.mk.inj (List.mem_singleton.1 hmem)
      exact hr

/-- A conversion keeps the registry and adds at most its result. -/
theorem convert (h : Sealed c registry p) {url : String} {result : Option Converted}
    (hq : p.convert url = .ok (result, q)) : Sealed c registry q := by
  unfold Project.convert at hq
  rw [h.kept, h.conversion, inScope_eq h.conversion] at hq
  dsimp only at hq
  split at hq
  · cases hq
    exact h
  · cases hq
    exact h
  · next file _ hfile =>
    generalize hstep : (if c.settings.isModule url then c.convertModule registry file
      else c.convertPage registry file) = step at hq
    split_ifs at hq with hin
    · cases hq
      exact h
    · cases hrun : step p.diagnostics with
      | ok r ds =>
        rw [attempt_of_ok hrun] at hq
        cases hq
        exact (h.withDiagnostics ds).addConverted
          ⟨file, hfile, by simpa using hin, p.diagnostics, ds, hstep ▸ hrun⟩
      | error e ds =>
        rw [attempt_of_error hrun] at hq
        cases hq
        exact h.withDiagnostics _

/-- Conversions leave the project sealed, by induction on the documents. -/
theorem foldlM_convert :
    ∀ {urls : List String} {p : Project}, Sealed c registry p →
      urls.foldlM (fun p url => return (← p.convert url).2) p = .ok q → Sealed c registry q
  | [], p, h, hq => by
    obtain rfl := Except.ok.inj hq
    exact h
  | url :: urls, p, h, hq => by
    obtain ⟨result, next, hconvert, hrest⟩ := foldlM_convert_cons_eq_ok.1 hq
    exact foldlM_convert (h.convert hconvert) hrest

/-- To convert all documents leaves the project sealed. -/
theorem convertAll (h : Sealed c registry p) {urls : List String}
    (hq : p.convertAll urls = .ok q) : Sealed c registry q :=
  h.foldlM_convert hq

end Sealed

end Project

end HtmlModules
