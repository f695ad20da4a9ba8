import HtmlModules.Proofs.Analysis
import HtmlModules.Proofs.Linking
import HtmlModules.Proofs.Schedule

/-!
# Failures stay with their documents

A document whose scan or whose conversion fails is reported as an error, and the others are scanned
and converted as if it had not failed (`Isolated`). Two kinds of failures do not stay with their
document: a file that cannot be read ends the analysis of all, and a document whose scan fails is
converted if its conversion does not fail as well. There are no others (`exists_isolated_iff`).
-/

namespace HtmlModules

namespace Conversion

/-! ## Failures of single documents -/

/-- The scan of the document fails. -/
def ScanFails (c : Conversion) (url : String) : Prop :=
  ∃ file e, c.analysis.file? url = some file ∧ (c.scanStep url file).outcome [] = .error e

/-- The document takes part, and its conversion fails. -/
def ConversionFails (c : Conversion) (registry : Registry) (url : String) : Prop :=
  (c.project []).inScope url = true ∧
    ∃ file e, c.analysis.file? url = some file ∧
      (c.convertStep registry url file).outcome [] = .error e

/-- The registry that a scan of all files of the analysis seals. -/
def sealedRegistry (c : Conversion) : Registry :=
  (Registry.addNew [] (c.announcements c.analysis.urls)).1

/-- No document whose scan fails is put out when these urls are converted. -/
def OmitsUnscanned (c : Conversion) (converted : List String) : Prop :=
  ∀ url ∈ converted, (c.project []).inScope url = true → c.ScanFails url →
    ∀ x, c.conversion? c.sealedRegistry url = some x → Project.isProtected x = true

/-- A document that takes part is converted, or its conversion fails. -/
theorem conversion?_eq_none_iff {c : Conversion} {registry : Registry} {url : String}
    (hscope : (c.project []).inScope url = true) :
    c.conversion? registry url = none ↔ c.ConversionFails registry url := by
  obtain ⟨file, hfile⟩ : ∃ file, c.analysis.file? url = some file :=
    Project.exists_file_of_inScope hscope
  rw [conversion?_eq_toOption hscope hfile registry [], ConversionFails, hfile]
  cases hstep : (c.convertStep registry url file).outcome [] <;>
    simp [hscope, hstep, Except.toOption]

end Conversion

namespace Project

/-! ## Reports -/

/-- A step of a project keeps what was reported, and what it reports for other reasons is not taken
for a failure. -/
structure Advances (p q : Project) : Prop where
  conversion : q.conversion = p.conversion
  reported : p.diagnostics ⊆ q.diagnostics
  wellCoded : (∀ d ∈ p.diagnostics, d.WellCoded) → ∀ d ∈ q.diagnostics, d.WellCoded

namespace Advances

variable {p q s : Project}

theorem refl (p : Project) : Advances p p := ⟨rfl, List.Subset.refl _, id⟩

theorem trans (h : Advances p q) (h' : Advances q s) : Advances p s :=
  ⟨h'.conversion.trans h.conversion, List.Subset.trans h.reported h'.reported,
    h'.wellCoded ∘ h.wellCoded⟩

/-- Only the conversion and the diagnostics matter. -/
theorem congr (h : Advances p q) (hconversion : s.conversion = q.conversion)
    (hdiagnostics : s.diagnostics = q.diagnostics) : Advances p s :=
  ⟨hconversion.trans h.conversion, hdiagnostics ▸ h.reported, hdiagnostics ▸ h.wellCoded⟩

end Advances

/-- The diagnostic for a failed document is well coded. -/
theorem wellCoded_failureOf (phase url : String) (e : Failure) :
    (failureOf phase url e).WellCoded :=
  fun _ => rfl

section

variable {α : Type} {step : Reporting α} {p : Project} {phase url : String}

/-- To attempt a step that fails predictably only adds to the project. -/
theorem attempt_advances (hstep : Predictable step) : Advances p (p.attempt phase url step).2 := by
  obtain ⟨news, hnews, hreports⟩ := hstep.reports_eq p.diagnostics
  cases hrun : step p.diagnostics with
  | ok a ds =>
    rw [hrun] at hreports
    obtain rfl : ds = _ := hreports
    rw [attempt_of_ok hrun]
    exact ⟨rfl, Diagnostics.subset_reportAll _ _, fun h => Diagnostics.forall_mem_reportAll h hnews⟩
  | error e ds =>
    rw [hrun] at hreports
    obtain rfl : ds = _ := hreports
    rw [attempt_of_error hrun]
    refine ⟨rfl, List.Subset.trans (Diagnostics.subset_reportAll _ _) (Diagnostics.subset_report _ _),
      fun h => ?_⟩
    exact Diagnostics.forall_mem_report (Diagnostics.forall_mem_reportAll h hnews)
      (wellCoded_failureOf phase url e)

/-- A failed attempt is reported as an error about the document. -/
theorem attempt_reports (hstep : Predictable step) (hp : ∀ d ∈ p.diagnostics, d.WellCoded)
    {e : Failure} (hfail : step.outcome [] = .error e) :
    (p.attempt phase url step).2.diagnostics.HasErrorIn url := by
  obtain ⟨news, hnews, hreports⟩ := hstep.reports_eq p.diagnostics
  rw [hstep.outcome_eq [] p.diagnostics] at hfail
  cases hrun : step p.diagnostics with
  | ok a ds =>
    rw [Reporting.outcome, hrun] at hfail
    cases hfail
  | error e' ds =>
    rw [hrun] at hreports
    obtain rfl : ds = _ := hreports
    rw [attempt_of_error hrun]
    exact Diagnostics.hasErrorIn_report (Diagnostics.forall_mem_reportAll hp hnews) rfl rfl rfl

end

/-! ### Scan -/

section

variable {c : Conversion} {p : Project} {url : String}

/-- To register the result of a scan only adds to the project. -/
theorem register_advances (p : Project) (result : ScanResult) : Advances p (p.register result) := by
  unfold register
  split
  · exact .refl p
  · exact (Advances.refl p).congr rfl rfl

/-- Scanning a document is an attempt, after which its result is registered. -/
theorem attempt_scan_advances {file : SourceFile}
    (hfile : p.conversion.analysis.file? url = some file) :
    Advances (p.attempt "scan" url (p.conversion.scanStep url file)).2 (p.scanOne url) := by
  have hstep : (if p.becomesModule url then p.conversion.scanModule file
      else p.conversion.scanDocument file) = p.conversion.scanStep url file := rfl
  unfold scanOne
  rw [hfile]
  dsimp only
  rw [hstep]
  split
  · next result q hattempt =>
    rw [hattempt]
    exact register_advances q result
  · next q hattempt =>
    rw [hattempt]
    exact .refl q

theorem scanOne_advances (p : Project) (url : String) : Advances p (p.scanOne url) := by
  cases hfile : p.conversion.analysis.file? url with
  | none =>
    rw [scanOne, hfile]
    exact .refl p
  | some file =>
    exact (attempt_advances (p.conversion.predictable_scanStep url file)).trans
      (attempt_scan_advances hfile)

/-- To scan documents one after the other only adds to the project. -/
theorem foldl_scanOne_advances :
    ∀ (urls : List String) (p : Project), Advances p (urls.foldl scanOne p)
  | [], p => .refl p
  | url :: urls, p => (scanOne_advances p url).trans (foldl_scanOne_advances urls (p.scanOne url))

theorem scanInOrder_advances (p : Project) (order : List String) :
    Advances p (p.scanInOrder order) :=
  (foldl_scanOne_advances order p).congr rfl rfl

/-- A document whose scan fails is reported by a scan that looks at it. -/
theorem foldl_scanOne_reports {urls : List String} (hp : ∀ d ∈ p.diagnostics, d.WellCoded)
    (hmem : url ∈ urls) (hfail : p.conversion.ScanFails url) :
    (urls.foldl scanOne p).diagnostics.HasErrorIn url := by
  obtain ⟨before, after, rfl⟩ := List.append_of_mem hmem
  rw [List.foldl_append, List.foldl_cons]
  have hbefore := foldl_scanOne_advances before p
  obtain ⟨file, e, hfile, hstep⟩ := hfail
  rw [← hbefore.conversion] at hfile hstep
  have hadvances := (attempt_scan_advances hfile).trans (foldl_scanOne_advances after _)
  exact (attempt_reports (Conversion.predictable_scanStep _ url file) (hbefore.wellCoded hp)
    hstep).mono hadvances.reported

end

/-! ### Conversion -/

section

variable {c : Conversion} {registry : Registry} {p q : Project} {url : String}

/-- Converting a document that has not been converted is an attempt, after which its result is
kept. -/
theorem attempt_convert_advances {file : SourceFile} {result : Option Converted}
    (hsealed : p.registry = some registry) (hnew : Table.get? p.converted url = none)
    (hfile : p.conversion.analysis.file? url = some file) (hscope : p.inScope url = true)
    (h : p.convert url = .ok (result, q)) :
    Advances (p.attempt "conversion" url (p.conversion.convertStep registry url file)).2 q := by
  rw [convert_of_inScope hsealed hnew hscope hfile] at h
  split at h
  · next r q' hattempt =>
    cases h
    rw [hattempt]
    exact (Advances.refl _).congr rfl rfl
  · next q' hattempt =>
    cases h
    rw [hattempt]
    exact .refl _

/-- To convert one document only adds to the project. -/
theorem convert_advances {result : Option Converted} (h : p.convert url = .ok (result, q)) :
    Advances p q := by
  cases hsealed : p.registry with
  | none =>
    rw [convert, hsealed] at h
    cases h
  | some registry =>
    cases hconverted : Table.get? p.converted url with
    | some r =>
      rw [convert_of_converted hsealed hconverted] at h
      cases h
      exact .refl p
    | none =>
      cases hscope : p.inScope url with
      | false =>
        rw [convert_of_not_inScope hsealed hconverted hscope] at h
        cases h
        exact .refl p
      | true =>
        obtain ⟨file, hfile⟩ := exists_file_of_inScope hscope
        exact (attempt_advances (p.conversion.predictable_convertStep registry url file)).trans
          (attempt_convert_advances hsealed hconverted hfile hscope h)

/-- To convert documents one after the other only adds to the project. -/
theorem foldlM_convert_advances :
    ∀ {urls : List String} {p : Project},
      urls.foldlM (fun p url => return (← p.convert url).2) p = .ok q → Advances p q
  | [], p, h => Except.ok.inj h ▸ .refl p
  | url :: urls, p, h => by
    obtain ⟨result, next, hconvert, hrest⟩ := foldlM_convert_cons_eq_ok.1 h
    exact (convert_advances hconvert).trans (foldlM_convert_advances hrest)

/-- A document whose conversion fails is reported when it is converted. -/
theorem foldlM_convert_reports {urls done : List String} (h : Converting c registry done p)
    (hp : ∀ d ∈ p.diagnostics, d.WellCoded) (hmem : url ∈ urls)
    (hfail : c.ConversionFails registry url)
    (hq : urls.foldlM (fun p url => return (← p.convert url).2) p = .ok q) :
    q.diagnostics.HasErrorIn url := by
  obtain ⟨before, after, rfl⟩ := List.append_of_mem hmem
  rw [List.foldlM_append] at hq
  obtain ⟨p', hp', hq⟩ := Failing.bind_eq_ok.1 hq
  obtain ⟨result, next, hconvert, hafter⟩ := foldlM_convert_cons_eq_ok.1 hq
  obtain ⟨p₀, hp₀, hbefore⟩ := h.foldlM_convert before
  obtain rfl := Except.ok.inj (hp₀.symm.trans hp')
  have hnew : Table.get? p₀.converted url = none := by
    rw [hbefore.found, (Conversion.conversion?_eq_none_iff hfail.1).2 hfail, ite_self]
  obtain ⟨hscope, file, e, hfile, hstep⟩ := hfail
  rw [← inScope_eq hbefore.conversion] at hscope
  rw [← hbefore.conversion] at hfile hstep
  have hadvances := (attempt_convert_advances hbefore.sealed hnew hfile hscope hconvert).trans
    (foldlM_convert_advances hafter)
  exact (attempt_reports (Conversion.predictable_convertStep _ registry url file)
    ((foldlM_convert_advances hp').wellCoded hp) hstep).mono hadvances.reported

end

/-! ## Isolation -/

/-- The project puts out nothing for the document and has reported an error about it. -/
structure Contained (p : Project) (url : String) : Prop where
  absent : ∀ path, IsPathOf url path → Table.get? p.results path = none
  reported : p.diagnostics.HasErrorIn url

end Project

/-- A run from the analysis on came to its end. Documents that cannot be read and documents whose
scan or conversion fails put out nothing and were reported; all others that take part and that were
to be converted were. -/
structure Isolated (r : SourceRoot) (c : Conversion) (urls converted : List String) (p : Project) :
    Prop where
  analyzed : r.analyze urls = .ok c.analysis
  run : c.run c.analysis.diagnostics c.analysis.urls converted = .ok p
  sealed : p.registry = some c.sealedRegistry
  unreadable : ∀ url, r.Reaches urls url → ¬r.Readable url → p.Contained url
  scan : ∀ url ∈ (c.project []).pending c.analysis.urls, c.ScanFails url → p.Contained url
  conversion : ∀ url ∈ converted, c.ConversionFails c.sealedRegistry url → p.Contained url
  others : ∀ url ∈ converted, (c.project []).inScope url = true → ¬c.ScanFails url →
    ¬c.ConversionFails c.sealedRegistry url → ∃ x, Table.get? p.converted url = some x ∧
      (Project.isProtected x = false → Table.get? p.results x.outputPath = some (some x.text))

namespace Conversion

variable {r : SourceRoot} {c : Conversion} {urls converted : List String} {p : Project}

/-- A run scans in one order and converts in the sorted one. -/
theorem run_eq_convertInOrder (c : Conversion) (ds : Diagnostics)
    (scanned converted : List String) :
    c.run ds scanned converted =
      ((c.project ds).scanInOrder ((c.project []).pending scanned)).convertInOrder
        (Text.sort (List.eraseDups converted)) := by
  rw [run, Project.scan_eq_scanInOrder rfl]
  exact Project.convertAll_eq_convertInOrder _ converted

/-- A run converts what it is asked to convert against the registry that the scan has sealed. -/
theorem exists_run (c : Conversion) (ds : Diagnostics) (converted : List String) :
    ∃ p, c.run ds c.analysis.urls converted = .ok p ∧
      Project.Converting c c.sealedRegistry (Text.sort (List.eraseDups converted)) p := by
  obtain ⟨p, hp, h⟩ :=
    (c.scanInOrder_sealed ds ((c.project []).pending c.analysis.urls)).foldlM_convert
      (Text.sort (List.eraseDups converted))
  exact ⟨p, (c.run_eq_convertInOrder ds _ _).trans hp, h⟩

/-- After a run every document that was asked for has been converted. -/
theorem converting_of_run {ds : Diagnostics}
    (hrun : c.run ds c.analysis.urls converted = .ok p) :
    Project.Converting c c.sealedRegistry (Text.sort (List.eraseDups converted)) p := by
  obtain ⟨q, hq, h⟩ := c.exists_run ds converted
  obtain rfl := Except.ok.inj (hq.symm.trans hrun)
  exact h

section

variable (h : r.analyze urls = .ok c.analysis)
  (hrun : c.run c.analysis.diagnostics c.analysis.urls converted = .ok p) {url : String}
include h hrun

/-- A document whose scan fails leaves no more than a report if it is not put out. -/
theorem contained_of_scanFails (homits : c.OmitsUnscanned converted)
    (hurl : url ∈ (c.project []).pending c.analysis.urls) (hfail : c.ScanFails url) :
    p.Contained url := by
  obtain ⟨-, hscope⟩ := Project.mem_pending.1 hurl
  have hext := Project.endsWith_of_inScope hscope
  have hscan := Project.foldl_scanOne_reports (p := c.project c.analysis.diagnostics)
    (SourceRoot.wellCoded_analyze h) hurl hfail
  have hconvert := Project.foldlM_convert_advances
    ((c.run_eq_convertInOrder _ _ converted).symm.trans hrun)
  refine ⟨?_, hscan.mono hconvert.reported⟩
  exact ((converting_of_run hrun).get?_results_eq_none_iff (SourceRoot.keyed_analyze h) hext).2
    fun hdone => homits url (Text.mem_sort_eraseDups.1 hdone) hscope hfail

/-- A document whose conversion fails leaves no more than a report. -/
theorem contained_of_conversionFails (hurl : url ∈ converted)
    (hfail : c.ConversionFails c.sealedRegistry url) : p.Contained url := by
  have hext := Project.endsWith_of_inScope hfail.1
  have hnone := (conversion?_eq_none_iff hfail.1).2 hfail
  have hscan := Project.scanInOrder_advances (c.project c.analysis.diagnostics)
    ((c.project []).pending c.analysis.urls)
  constructor
  · refine ((converting_of_run hrun).get?_results_eq_none_iff (SourceRoot.keyed_analyze h) hext).2
      fun _ x hx => ?_
    rw [hnone] at hx
    cases hx
  · exact Project.foldlM_convert_reports (c.scanInOrder_sealed _ _)
      (hscan.wellCoded (SourceRoot.wellCoded_analyze h)) (Text.mem_sort_eraseDups.2 hurl) hfail
      ((c.run_eq_convertInOrder _ _ converted).symm.trans hrun)

/-- A document that takes part is converted unless its conversion fails. -/
theorem exists_converted (hurl : url ∈ converted) (hscope : (c.project []).inScope url = true)
    (hfine : ¬c.ConversionFails c.sealedRegistry url) :
    ∃ x, Table.get? p.converted url = some x ∧
      (Project.isProtected x = false → Table.get? p.results x.outputPath = some (some x.text)) := by
  have hp := converting_of_run hrun
  have hdone := Text.mem_sort_eraseDups.2 hurl
  obtain ⟨x, hx⟩ := Option.ne_none_iff_exists'.1 (mt (conversion?_eq_none_iff hscope).1 hfine)
  refine ⟨x, ?_, fun hprotected => ?_⟩
  · rw [hp.found, if_pos hdone, hx]
  · have hemitted : x ∈ p.emitted := hp.mem_emitted_iff.2 ⟨url, hdone, hx, hprotected⟩
    exact (hp.get?_results_eq_some (SourceRoot.keyed_analyze h)).2 (Or.inl ⟨x, hemitted, rfl, rfl⟩)

end

/-- If no document whose scan fails is put out, then failures stay with their documents once all
files have been read. -/
theorem exists_isolated (h : r.analyze urls = .ok c.analysis)
    (homits : c.OmitsUnscanned converted) : ∃ p, Isolated r c urls converted p := by
  obtain ⟨p, hrun, hp⟩ := c.exists_run c.analysis.diagnostics converted
  refine ⟨p, h, hrun, hp.sealed, fun url hurl hunreadable => ?_, ?_, ?_, ?_⟩
  · exact absurd (SourceRoot.exists_analyze_iff.1 ⟨c.analysis, h⟩ url hurl) hunreadable
  · exact fun url => contained_of_scanFails h hrun homits
  · exact fun url => contained_of_conversionFails h hrun
  · exact fun url hurl hscope _ => exists_converted h hrun hurl hscope

end Conversion

namespace Isolated

variable {r : SourceRoot} {c : Conversion} {urls converted : List String} {p : Project}

theorem readable (h : Isolated r c urls converted p) {url : String} (hurl : r.Reaches urls url) :
    r.Readable url :=
  SourceRoot.exists_analyze_iff.1 ⟨c.analysis, h.analyzed⟩ url hurl

theorem omitsUnscanned (h : Isolated r c urls converted p) : c.OmitsUnscanned converted := by
  intro url hurl hscope hfail
  obtain ⟨file, e, hfile, -⟩ := id hfail
  have hkeyed := SourceRoot.keyed_analyze h.analyzed
  have hpending : url ∈ (c.project []).pending c.analysis.urls :=
    Project.mem_pending.2 ⟨hkeyed.mem_urls hfile, hscope⟩
  have hp := Conversion.converting_of_run h.run
  exact (hp.get?_results_eq_none_iff hkeyed (Project.endsWith_of_inScope hscope)).1
    (h.scan url hpending hfail).absent (Text.mem_sort_eraseDups.2 hurl)

end Isolated

/-- Failures stay with their documents if and only if all files that the analysis comes to can be
read and no document whose scan fails is put out. -/
theorem exists_isolated_iff (r : SourceRoot) (resolver : Resolver) (settings : Settings)
    (urls converted : List String) :
    (∃ a p, Isolated r ⟨a, resolver, settings⟩ urls converted p) ↔
      (∀ url, r.Reaches urls url → r.Readable url) ∧
        ∀ a, r.analyze urls = .ok a →
          Conversion.OmitsUnscanned ⟨a, resolver, settings⟩ converted := by
  constructor
  · rintro ⟨a, p, h⟩
    refine ⟨fun url hurl => h.readable hurl, fun a' ha' => ?_⟩
    obtain rfl : a' = a := Except.ok.inj (ha'.symm.trans h.analyzed)
    exact h.omitsUnscanned
  · rintro ⟨hreadable, homits⟩
    obtain ⟨a, ha⟩ := SourceRoot.exists_analyze_iff.2 hreadable
    exact ⟨a, Conversion.exists_isolated ha (homits a ha)⟩

/-! ### A failure that stays -/

/-- A document whose script cannot be read, and another one. -/
def brokenRoot : SourceRoot where
  files := [("a.html", .ok "<script>(</script>"), ("b.html", .ok "<script>P.b=1</script>")]

/-- The package of the two documents. -/
def broken : Conversion := brokenRoot.package ["a.html", "b.html"]

/-- Each of the documents can be scanned, or else it cannot be converted either. -/
theorem broken_evaluated :
    brokenRoot.analyze ["a.html", "b.html"] = .ok broken.analysis ∧
      ∀ url ∈ ["a.html", "b.html"],
        (∃ file ∈ broken.analysis.file? url,
          ((broken.scanStep url file).outcome []).toBool = true) ∨
        (broken.conversion? broken.sealedRegistry url).isSome = false :=
  ⟨SourceRoot.analyze_package (by decide +kernel) (by decide +kernel), by decide +kernel⟩

/-- The failure of the first document stays with it. -/
theorem exists_isolated_iff_broken :
    ∃ a p, Isolated brokenRoot ⟨a, broken.resolver, broken.settings⟩ ["a.html", "b.html"]
      ["a.html", "b.html"] p := by
  obtain ⟨hanalyze, hevaluated⟩ := broken_evaluated
  refine (exists_isolated_iff brokenRoot broken.resolver broken.settings _ _).2
    ⟨SourceRoot.exists_analyze_iff.1 ⟨_, hanalyze⟩, ?_⟩
  intro a ha
  obtain rfl : a = broken.analysis := Except.ok.inj (ha.symm.trans hanalyze)
  rintro url hurl - ⟨file, e, hfile, hstep⟩ x hx
  rcases hevaluated url hurl with ⟨file', hfile', hscanned⟩ | hnone
  · obtain rfl : file = file' := Option.some.inj (hfile.symm.trans hfile')
    rw [show (broken.scanStep url file).outcome [] = .error e from hstep] at hscanned
    cases hscanned
  · rw [show broken.conversion? broken.sealedRegistry url = some x from hx] at hnone
    cases hnone

/-! ### Failures that spread -/

/-- A document that ends within a tag, and another one. -/
def unreadableRoot : SourceRoot where
  files := [("a.html", .ok "<div"), ("b.html", .ok "<script>P.b=1</script>")]

/-- Two documents that set one path. The second one cannot be a module that exports it, for it has a
statement that modules must not have; but it need not be one, for the first one exports the path. -/
def sharedRoot : SourceRoot where
  files := [("a.html", .ok "<script>P.a=1</script>"),
    ("b.html", .ok "<script>P.a=2;with(o);</script>")]

/-- The package of the documents that set one path. -/
def shared : Conversion := sharedRoot.package ["a.html", "b.html"]

/-- The document that ends within a tag cannot be read. Of the other two the second one cannot be
scanned, but it can be converted. -/
theorem spreading_evaluated :
    (unreadableRoot.readFile "a.html" (.ok "<div")).toBool = false ∧
      sharedRoot.analyze ["a.html", "b.html"] = .ok shared.analysis ∧
      (shared.project []).inScope "b.html" = true ∧
      (∃ file ∈ shared.analysis.file? "b.html",
        ((shared.scanStep "b.html" file).outcome []).toBool = false) ∧
      ∃ x ∈ shared.conversion? shared.sealedRegistry "b.html", Project.isProtected x = false :=
  ⟨by decide +kernel, SourceRoot.analyze_package (by decide +kernel) (by decide +kernel),
    by decide +kernel⟩

/-- The second document cannot be scanned. -/
theorem shared_scanFails : shared.ScanFails "b.html" := by
  obtain ⟨-, -, -, ⟨file, hfile, hfail⟩, -⟩ := spreading_evaluated
  cases hstep : (shared.scanStep "b.html" file).outcome [] with
  | error e => exact ⟨file, e, hfile, hstep⟩
  | ok result =>
    rw [hstep] at hfail
    cases hfail

/-- One failure ends the run of both documents; after another one the document is converted
nevertheless. -/
theorem exists_not_isolated :
    (¬∃ a p, Isolated unreadableRoot ⟨a, shared.resolver, shared.settings⟩ ["a.html", "b.html"]
      ["a.html", "b.html"] p) ∧
    ¬∃ a p, Isolated sharedRoot ⟨a, shared.resolver, shared.settings⟩ ["a.html", "b.html"]
      ["a.html", "b.html"] p := by
  obtain ⟨hunreadable, hanalyze, hscope, -, x, hx, hunprotected⟩ := spreading_evaluated
  constructor
  · rintro ⟨a, p, h⟩
    have hreaches : unreadableRoot.Reaches ["a.html", "b.html"] "a.html" := .start (by simp)
    obtain ⟨file, warnings, hread⟩ := h.readable hreaches _ rfl
    rw [hread] at hunreadable
    cases hunreadable
  · rintro ⟨a, p, h⟩
    obtain rfl : a = shared.analysis := Except.ok.inj (h.analyzed.symm.trans hanalyze)
    have hprotected := h.omitsUnscanned "b.html" (by simp) hscope shared_scanFails x hx
    rw [hunprotected] at hprotected
    cases hprotected

end HtmlModules
