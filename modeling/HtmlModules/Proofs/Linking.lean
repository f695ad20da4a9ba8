import HtmlModules.Proofs.Export
import HtmlModules.Proofs.Project

/-!
# Linking

The modules of a project are linked by the registry: the scan announces exports, references are
resolved by what was announced, and conversions export. The scan reads the program of a document
while its wrappers are still in place, the conversion when they are gone, so what is announced and
what is exported can differ. Each result here says exactly when they agree.

An export is in the registry if and only if its path was announced as an export of the same kind,
which is to say that the scanned programs first offer it in this kind (`mem_registry_iff_offered`).
What a reference stands for is exported if and only if the path is offered by the program of the
module it leads to (`reference_exported_iff`). Single exports have distinct paths and names if and
only if no object repeats a path and no export takes a name that was announced for a later one
(`singles_distinct_iff`).
-/

namespace HtmlModules

open Pass

/-! ## Runs -/

namespace Conversion

/-- Scans documents and then converts documents. -/
def run (c : Conversion) (ds : Diagnostics) (scanned converted : List String) :
    Except Failure Project := do
  (← (c.project ds).scan scanned).convertAll converted

/-- The references of the module that a document becomes, which its imports are made for. -/
def referencesOf (c : Conversion) (registry : Registry) (url : String) : Table ExportRecord :=
  match c.analysis.file? url with
  | some file => (c.runOf .forModule registry file).findings.references
  | none => []

/-! ## Offers of documents -/

/-- What the program of a file offers when a pipeline makes its exports. -/
def offersIn (c : Conversion) (p : Pipeline) (registry : Registry) (file : SourceFile) :
    List Offer :=
  let context := c.context (c.preparation file) registry
  match (p.exportText? context (c.preparation file).source).map fun text =>
      (text, Script.parse text) with
  | some (text, .ok program) => offers context text program
  | _ => []

/-- What the program of a document offers when its module is made. -/
def offersOf (c : Conversion) (registry : Registry) (url : String) : List Offer :=
  match c.analysis.file? url with
  | some file => c.offersIn .forModule registry file
  | none => []

/-- What the program of a document offers when it is scanned, if the scan succeeds. -/
def scanOffersOf (c : Conversion) (url : String) : List Offer :=
  if (c.project []).becomesModule url then
    match (c.analysis.file? url).map fun file => (file, (c.scanModule file).outcome []) with
    | some (file, .ok _) => c.offersIn .forScan [] file
    | _ => []
  else []

/-- What the programs of the documents offer that a scan looks at, in the order of the scan. -/
def scanOffers (c : Conversion) (urls : List String) : List Offer :=
  ((c.project []).pending urls).flatMap c.scanOffersOf

/-- The exports of a run follow what the program offers when they are made. -/
theorem follows_runOf {c : Conversion} {p : Pipeline} {before after : List Stage}
    {registry : Registry} {file : SourceFile}
    (horder : p.ordered? = some (before ++ .exportNamespaces :: after))
    (hbefore : .exportNamespaces ∉ before) (hafter : .exportNamespaces ∉ after)
    (hrun : (c.runOf p registry file).failure = none) :
    ∃ i e spaces, i.registry = registry ∧ i.moduleUrl = (c.preparation file).moduleUrl ∧
      e.records = (c.runOf p registry file).findings.exports ∧
      Follows i e (c.offersIn p registry file) spaces ∧
        (c.offersIn p registry file).Pairwise NewValue := by
  obtain ⟨text, program, htext, hprogram, hrecords⟩ :=
    Pipeline.exports_of_run horder hbefore hafter hrun
  set context := c.context (c.preparation file) registry with hcontext
  have hoffers : c.offersIn p registry file = offers context text program := by
    simp only [offersIn, ← hcontext, htext, Option.map_some, hprogram]
  rw [hoffers]
  refine ⟨exportInput context text program, (exportProgram context text program).2,
    initializedSpaces context.settings.roots (statements program), ?_, ?_, hrecords.symm,
    follows_exportProgram context text program, pairwise_newValue_offers context text program⟩
  · dsimp only [context, exportInput, Conversion.context]
  · dsimp only [context, exportInput, Conversion.context]

/-- What a document announces is what it offers to the scan. -/
theorem announced_described (c : Conversion) (url : String) :
    List.Forall₂ (fun q o => ∃ i, Describes i q o) (c.announced url) (c.scanOffersOf url) := by
  unfold scanOffersOf
  split_ifs with hmodule
  · unfold announced
    cases c.analysis.file? url with
    | none => exact .nil
    | some file =>
      have hstep : c.scanStep url file = c.scanModule file := by
        rw [scanStep, hmodule]
        rfl
      rw [Option.map_some, Option.map_some, hstep]
      cases hscan : (c.scanModule file).outcome [] with
      | error e => exact .nil
      | ok result =>
        obtain ⟨ds, hresult⟩ := Reporting.outcome_eq_ok.1 hscan
        obtain ⟨-, -, hfailure, hexports⟩ := scanModule_ok hresult
        obtain ⟨i, e, spaces, -, -, hrecords, hfollows, -⟩ :=
          follows_runOf Pipeline.forScan_order (by decide) (by decide) hfailure
        dsimp only
        rw [hexports, ← hrecords]
        exact hfollows.described.imp fun q o hd => ⟨i, hd⟩
  · rw [announced_of_not_module (Bool.eq_false_iff.2 hmodule)]
    exact .nil

/-- The first announcement of a path is the first offer of it to the scan. -/
theorem rel_lookup_announcements (c : Conversion) (urls : List String) (path : String) :
    Option.Rel (fun q o => ∃ i, Describes i q o) (Registry.lookup (c.announcements urls) path)
      ((c.scanOffers urls).find? (·.path == path)) := by
  refine rel_find?_of_forall₂ (fun q o ⟨i, hd⟩ => by rw [hd.path]) ?_
  refine List.rel_flatMap (List.forall₂_eq_eq_eq ▸ rfl) ?_
  rintro url _ rfl
  exact c.announced_described url

end Conversion

/-- A document that was converted to a module has what the run over its program gives. -/
theorem Project.ConvertedBy.run {c : Conversion} {registry : Registry} {url : String}
    {r : Converted} (h : Project.ConvertedBy c registry url r) (hkind : r.kind = .module) :
    ∃ file, c.analysis.file? url = some file ∧
      (c.runOf .forModule registry file).failure = none ∧
        r.url = (c.preparation file).moduleUrl ∧
          r.exports = (c.runOf .forModule registry file).findings.exports ∧
            r.text = (c.runOf .forModule registry file).text (c.preparation file).source := by
  obtain ⟨file, hfile, -, ds, ds', hconvert⟩ := h
  split_ifs at hconvert
  · exact ⟨file, hfile, Conversion.convertModule_ok hconvert⟩
  · rw [Conversion.convertPage_kind hconvert] at hkind
    cases hkind

/-- A run sealed the registry and made the module `r` of the document `url`. -/
structure Emitted (c : Conversion) (ds : Diagnostics) (scanned converted : List String)
    (registry : Registry) (url : String) (r : Converted) : Prop where
  run : ∃ p, c.run ds scanned converted = .ok p ∧ p.registry = some registry ∧
    (url, r) ∈ p.converted
  kind : r.kind = .module

namespace Emitted

variable {c : Conversion} {ds : Diagnostics} {scanned converted : List String}
  {registry : Registry} {url : String} {r : Converted}

/-- A run has made the modules that are among its results. -/
theorem of_run {results : Table Converted}
    (hrun : ((c.run ds scanned converted).toOption.map fun p => (p.registry, p.converted)) =
      some (some registry, results))
    (h : (url, r) ∈ results) (hkind : r.kind = .module) :
    Emitted c ds scanned converted registry url r := by
  obtain ⟨p, hp, hresult⟩ := Option.map_eq_some_iff.1 hrun
  obtain ⟨hregistry, hconverted⟩ := Prod.mk.inj hresult
  refine ⟨⟨p, ?_, hregistry, hconverted ▸ h⟩, hkind⟩
  cases hproject : c.run ds scanned converted with
  | ok q =>
    rw [hproject] at hp
    rw [Option.some.inj hp]
  | error e =>
    rw [hproject] at hp
    cases hp

/-- The sealed registry has the first announcement of every path. -/
theorem registry_eq (h : Emitted c ds scanned converted registry url r) :
    registry = (Registry.addNew [] (c.announcements scanned)).1 ∧
      Project.ConvertedBy c registry url r := by
  obtain ⟨p, hrun, hregistry, hmem⟩ := h.run
  unfold Conversion.run at hrun
  cases hscan : (c.project ds).scan scanned with
  | error e =>
    rw [hscan] at hrun
    cases hrun
  | ok q =>
    rw [hscan] at hrun
    have hsealed := (Project.scan_sealed hscan).convertAll hrun
    obtain rfl : registry = _ := Option.some.inj (hregistry.symm.trans hsealed.kept)
    exact ⟨rfl, hsealed.converted url r hmem⟩

/-- An announced path is looked up as its first announcement. -/
theorem lookup_registry (h : Emitted c ds scanned converted registry url r) (path : String) :
    registry.lookup path = Registry.lookup (c.announcements scanned) path := by
  rw [h.registry_eq.1, Registry.lookup_addNew, Registry.lookup_nil, Option.none_or]

/-- The sealed registry holds what was announced first for each path. -/
theorem mem_registry_iff (h : Emitted c ds scanned converted registry url r) (q : ExportRecord) :
    q ∈ registry ↔ Registry.lookup (c.announcements scanned) q.path = some q := by
  rw [h.registry_eq.1, Registry.mem_addNew_iff]

/-- The module is what the converting run makes of the document. -/
theorem file (h : Emitted c ds scanned converted registry url r) :
    ∃ file, c.analysis.file? url = some file ∧
      (c.runOf .forModule registry file).failure = none ∧
        r.url = (c.preparation file).moduleUrl ∧
          r.exports = (c.runOf .forModule registry file).findings.exports := by
  obtain ⟨file, hfile, hfailure, hurl, hexports, -⟩ := h.registry_eq.2.run h.kind
  exact ⟨file, hfile, hfailure, hurl, hexports⟩

/-- The exports of a module follow what its program offers. -/
theorem follows (h : Emitted c ds scanned converted registry url r) :
    ∃ i e spaces, i.registry = registry ∧ i.moduleUrl = r.url ∧ e.records = r.exports ∧
      Follows i e (c.offersOf registry url) spaces ∧
        (c.offersOf registry url).Pairwise NewValue := by
  obtain ⟨file, hfile, hfailure, hurl, hexports⟩ := h.file
  rw [Conversion.offersOf, hfile, hurl, hexports]
  exact Conversion.follows_runOf Pipeline.forModule_order (by decide) (by decide) hfailure

/-- An export of which the registry has a record of the same kind for the module is this record. -/
theorem eq_of_lookup (h : Emitted c ds scanned converted registry url r) {e q : ExportRecord}
    (he : e ∈ r.exports) (hq : registry.lookup e.path = some q) (hmodule : q.module = r.url)
    (hkind : q.isNamespace = e.isNamespace) : q = e := by
  obtain ⟨i, exports, spaces, hregistry, hurl, hrecords, hfollows, -⟩ := h.follows
  obtain ⟨o, -, ho⟩ := exists_of_forall₂_left hfollows.described (hrecords ▸ he)
  have hpath : q.path = e.path := (Registry.mem_of_lookup hq).2
  refine ExportRecord.ext hpath (hmodule.trans (hurl.symm.trans ho.module.symm)) ?_
  cases hn : e.isNamespace with
  | true =>
    rw [hn] at hkind
    exact (beq_iff_eq.1 hkind).trans (beq_iff_eq.1 hn).symm
  | false =>
    have hsingle : o.IsSingle := fun hw => by simp [ho.whole hw] at hn
    have hregistered : i.registered? o.path = some q := by
      rw [ExportInput.registered?, hregistry, ← ho.path, hq]
      simp [Option.filter, hmodule, hurl, hkind, hn]
    exact (ho.registered hsingle q hregistered).symm

/-- References are to records of the registry. -/
theorem reference_mem_registry (h : Emitted c ds scanned converted registry url r) {p : String}
    {q : ExportRecord} (hq : (p, q) ∈ c.referencesOf registry url) : q ∈ registry := by
  obtain ⟨file, hfile, -⟩ := h.file
  rw [Conversion.referencesOf, hfile] at hq
  exact Pipeline.references_registered .forModule (c.context (c.preparation file) registry) _ _ hq

end Emitted

/-! ## An export in a wrapper -/

/-- The documents of a package: the first one exports within a wrapper and outside of it, the second
one refers to an export of the first. -/
def wrappedRoot : SourceRoot where
  files := [("b.html", .ok "<script>(()=>{P.a=1;})();P.b.a=2;P.a.c=3</script>"),
    ("c.html", .ok "<script>P.a.c</script>")]

/-- The package with both documents as modules. -/
def wrapped : Conversion where
  analysis := (["b.html", "c.html"].foldlM wrappedRoot.load {}).toOption.getD {}
  resolver := { layout := .package {}, dependencies := [] }
  settings := { namespaces := ["P"], modules := ["b.html", "c.html"] }

/-- What the scan of the package announces. -/
def wrappedRegistry : Registry := [⟨"P.b.a", "./b.js", "a"⟩, ⟨"P.a.c", "./b.js", "c"⟩]

/-- The module of the first document. -/
def wrappedExporter : Converted where
  legacyUrl := "b.html"
  url := "./b.js"
  outputPath := "b.js"
  kind := .module
  text := "export const a = 1;const a$0 = 2;\nexport \x7b a$0 as a \x7d;a.c=3;\n"
  exports := [⟨"P.a", "./b.js", "a"⟩, ⟨"P.b.a", "./b.js", "a"⟩]

/-- The module of the second document. -/
def wrappedImporter : Converted where
  legacyUrl := "c.html"
  url := "./c.js"
  outputPath := "c.js"
  kind := .module
  text := "import \x7b c \x7d from './b.js';\n\nc;\n"

theorem wrapped_run :
    ((wrapped.run [] ["b.html", "c.html"] ["b.html", "c.html"]).toOption.map fun p =>
      (p.registry, p.converted)) =
      some (some wrappedRegistry, [("b.html", wrappedExporter), ("c.html", wrappedImporter)]) := by
  decide +kernel

/-- Both documents of the wrapped project are emitted. -/
theorem wrapped_emitted {url : String} {r : Converted}
    (h : (url, r) ∈ [("b.html", wrappedExporter), ("c.html", wrappedImporter)])
    (hkind : r.kind = .module) :
    Emitted wrapped [] ["b.html", "c.html"] ["b.html", "c.html"] wrappedRegistry url r :=
  .of_run wrapped_run h hkind

theorem wrapped_emitted_exporter :
    Emitted wrapped [] ["b.html", "c.html"] ["b.html", "c.html"] wrappedRegistry "b.html"
      wrappedExporter :=
  wrapped_emitted (by simp) rfl

theorem wrapped_emitted_importer :
    Emitted wrapped [] ["b.html", "c.html"] ["b.html", "c.html"] wrappedRegistry "c.html"
      wrappedImporter :=
  wrapped_emitted (by simp) rfl

theorem wrapped_references :
    wrapped.referencesOf wrappedRegistry "c.html" =
      [("__modulizerref0__", ⟨"P.a.c", "./b.js", "c"⟩)] := by
  decide +kernel

/-! ## Announcements and exports -/

section

variable {c : Conversion} {ds : Diagnostics} {scanned converted : List String}
  {registry : Registry} {url : String} {r : Converted}

/-- An export whose path is not registered for another module is in the registry if and only if the
first announcement of its path is of an export of the same kind. This is so if and only if the scan
was first offered the path in this kind; a path in which a star is the last name could stand for
either. -/
theorem mem_registry_iff_offered (h : Emitted c ds scanned converted registry url r)
    {e : ExportRecord} (he : e ∈ r.exports)
    (hown : ∀ q, registry.lookup e.path = some q → q.module = r.url) :
    (e ∈ registry ↔ ∃ q, Registry.lookup (c.announcements scanned) e.path = some q ∧
      q.isNamespace = e.isNamespace) ∧
    (¬EndsInStar e.path → (e ∈ registry ↔
      ∃ o, (c.scanOffers scanned).find? (·.path == e.path) = some o ∧
        (o.IsSingle ↔ e.isNamespace = false))) := by
  have hannounced : e ∈ registry ↔ ∃ q,
      Registry.lookup (c.announcements scanned) e.path = some q ∧
        q.isNamespace = e.isNamespace := by
    rw [h.mem_registry_iff]
    refine ⟨fun hmem => ⟨e, hmem, rfl⟩, ?_⟩
    rintro ⟨q, hq, hkind⟩
    have hlookup : registry.lookup e.path = some q := (h.lookup_registry e.path).trans hq
    rw [hq, h.eq_of_lookup he hlookup (hown q hlookup) hkind]
  refine ⟨hannounced, fun hstar => hannounced.trans
    (exists_some_iff_of_rel (c.rel_lookup_announcements scanned e.path) ?_)⟩
  rintro q o ho ⟨i, hd⟩
  have hpath : o.path = e.path := by simpa using List.find?_some ho
  rw [← hpath] at hstar
  rw [hd.isSingle_iff hstar]
  cases e.isNamespace <;> simp

/-- The second statement of the first document is announced under its path. -/
theorem mem_registry_iff_offered_wrapped :
    ⟨"P.b.a", "./b.js", "a"⟩ ∈ wrappedExporter.exports ∧ ¬EndsInStar "P.b.a" ∧
      (⟨"P.b.a", "./b.js", "a"⟩ ∈ wrappedRegistry ↔
        ∃ o, (wrapped.scanOffers ["b.html", "c.html"]).find? (·.path == "P.b.a") = some o ∧
          (o.IsSingle ↔ ExportRecord.isNamespace ⟨"P.b.a", "./b.js", "a"⟩ = false)) := by
  have hstar : ¬EndsInStar "P.b.a" := by
    unfold EndsInStar
    decide
  refine ⟨by decide, hstar, (mem_registry_iff_offered wrapped_emitted_exporter (by decide) ?_).2
    hstar⟩
  rintro q hq
  obtain rfl := Option.some.inj hq
  rfl

/-- What the wrapper exports is registered for no module. -/
theorem exists_export_not_registered :
    ∃ r e, Emitted wrapped [] ["b.html", "c.html"] ["b.html", "c.html"] wrappedRegistry "b.html" r ∧
      e ∈ r.exports ∧ wrappedRegistry.lookup e.path = none ∧ e ∉ wrappedRegistry :=
  ⟨wrappedExporter, ⟨"P.a", "./b.js", "a"⟩, wrapped_emitted_exporter, by decide, by decide,
    by decide⟩

/-- What a reference to another module stands for is in the registry. It is exported if and only if
the other module exports the path in the same kind, and a single export if and only if its program
offers the path. -/
theorem reference_exported_iff {url' : String} {r' : Converted}
    (h : Emitted c ds scanned converted registry url r)
    (h' : Emitted c ds scanned converted registry url' r') {p : String} {q : ExportRecord}
    (hq : (p, q) ∈ c.referencesOf registry url) (hmodule : q.module = r'.url) :
    q ∈ registry ∧
      (q ∈ r'.exports ↔ ∃ e ∈ r'.exports, e.path = q.path ∧ e.isNamespace = q.isNamespace) ∧
      (q.isNamespace = false →
        (q ∈ r'.exports ↔ ∃ o ∈ c.offersOf registry url', o.path = q.path ∧ o.IsSingle)) := by
  have hmem := h.reference_mem_registry hq
  have hlookup : registry.lookup q.path = some q :=
    (h.lookup_registry q.path).trans ((h.mem_registry_iff q).1 hmem)
  refine ⟨hmem, ⟨fun hexported => ⟨q, hexported, rfl, rfl⟩, ?_⟩, fun hsingle => ?_⟩
  · rintro ⟨e, he, hpath, hkind⟩
    rwa [h'.eq_of_lookup he (hpath ▸ hlookup) hmodule hkind.symm]
  · obtain ⟨i, exports, spaces, hregistry, hurl, hrecords, hfollows, -⟩ := h'.follows
    rw [← hrecords]
    refine hfollows.mem_records_iff ?_
    rw [ExportInput.registered?, hregistry, hlookup]
    simp [Option.filter, hmodule, hurl, hsingle]

/-- The reference of the second document stands for a property of what the wrapper exports. -/
theorem reference_exported_iff_wrapped :
    ("__modulizerref0__", ⟨"P.a.c", "./b.js", "c"⟩) ∈
        wrapped.referencesOf wrappedRegistry "c.html" ∧
      (⟨"P.a.c", "./b.js", "c"⟩ ∈ wrappedExporter.exports ↔
        ∃ o ∈ wrapped.offersOf wrappedRegistry "b.html", o.path = "P.a.c" ∧ o.IsSingle) := by
  have href : ("__modulizerref0__", ⟨"P.a.c", "./b.js", "c"⟩) ∈
      wrapped.referencesOf wrappedRegistry "c.html" := by
    rw [wrapped_references]
    exact List.mem_singleton_self _
  exact ⟨href, (reference_exported_iff wrapped_emitted_importer wrapped_emitted_exporter href
    rfl).2.2 rfl⟩

/-- A module is imported from that does not export what is imported. -/
theorem exists_reference_not_exported :
    ∃ r r' p q,
      Emitted wrapped [] ["b.html", "c.html"] ["b.html", "c.html"] wrappedRegistry "c.html" r ∧
      Emitted wrapped [] ["b.html", "c.html"] ["b.html", "c.html"] wrappedRegistry "b.html" r' ∧
      (p, q) ∈ wrapped.referencesOf wrappedRegistry "c.html" ∧ q.module = r'.url ∧
      q ∉ r'.exports := by
  refine ⟨wrappedImporter, wrappedExporter, "__modulizerref0__", ⟨"P.a.c", "./b.js", "c"⟩,
    wrapped_emitted_importer, wrapped_emitted_exporter, ?_, rfl, by decide⟩
  rw [wrapped_references]
  exact List.mem_singleton_self _

/-- The single exports of a module have distinct paths and distinct names if and only if no member
of an object repeats a path and no export has the name that is registered for a later one. -/
theorem singles_distinct_iff (h : Emitted c ds scanned converted registry url r) :
    ((singles r.exports).map (·.path)).Nodup ∧ ((singles r.exports).map (·.name)).Nodup ↔
      (c.offersOf registry url).Pairwise NoRepeat ∧
        (singles r.exports).Pairwise fun e e' =>
          (∃ q, registry.lookup e'.path = some q ∧ q.module = r.url ∧ q.isNamespace = false) →
            e.name ≠ e'.name := by
  obtain ⟨i, exports, spaces, hregistry, hurl, hrecords, hfollows, hnew⟩ := h.follows
  have hregistered : ∀ path, (i.registered? path).isSome = true ↔
      ∃ q, registry.lookup path = some q ∧ q.module = r.url ∧ q.isNamespace = false := by
    intro path
    rw [ExportInput.registered?, hregistry, hurl]
    cases registry.lookup path <;> simp [Option.filter]
  rw [← hrecords, hfollows.nodup_paths_iff hnew, hfollows.nodup_names_iff]
  simp only [hregistered]

/-- The document of the wrapper has single exports. -/
theorem singles_distinct_iff_wrapped :
    ((singles wrappedExporter.exports).map (·.path)).Nodup ∧
        ((singles wrappedExporter.exports).map (·.name)).Nodup ↔
      (wrapped.offersOf wrappedRegistry "b.html").Pairwise NoRepeat ∧
        (singles wrappedExporter.exports).Pairwise fun e e' =>
          (∃ q, wrappedRegistry.lookup e'.path = some q ∧ q.module = "./b.js" ∧
            q.isNamespace = false) → e.name ≠ e'.name :=
  singles_distinct_iff wrapped_emitted_exporter

/-- Two exports of a module have one name. -/
theorem exists_singles_not_distinct :
    ∃ r,
      Emitted wrapped [] ["b.html", "c.html"] ["b.html", "c.html"] wrappedRegistry "b.html" r ∧
      ¬((singles r.exports).map (·.name)).Nodup :=
  ⟨wrappedExporter, wrapped_emitted_exporter, by decide⟩

end

end HtmlModules
