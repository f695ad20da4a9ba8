import HtmlModules.Proofs.Linking
import HtmlModules.Proofs.Manifest
import HtmlModules.Proofs.Schedule

/-!
# Going on from a manifest

A run can take over what an earlier one has scanned. The manifest holds all that the registry and the
second scan need: the documents that were scanned, and their exports in the order of their urls, which
is the order in which they were registered. The documents that failed are scanned again, but they
announce nothing. So the second run seals the registry of the first one, and its results are the same
(`results_eq_of_manifest`).
-/

namespace HtmlModules

open Text

/-! ## Anchored urls -/

namespace Url

theorem isAnchored_append (url : String) : isAnchored ("./" ++ url) = true :=
  List.isPrefixOf_iff_prefix.2 ⟨url.toList, by rw [String.toList_append]⟩

/-- An end of an anchored url that does not reach into the anchor may be replaced. -/
theorem isAnchored_of_beforeEnd? {url p stem : String} (h : isAnchored url = true)
    (hstem : beforeEnd? url p = some stem) (hslash : p.toList.head? ≠ some '/')
    (hdot : (p.toList.drop 1).head? ≠ some '/') (q : String) : isAnchored (stem ++ q) = true := by
  have hends : endsWith url p = true := by
    unfold beforeEnd? at hstem
    split_ifs at hstem with hends
    exact hends
  obtain ⟨front, hurl, hfront⟩ := beforeEnd?_of_endsWith hends
  obtain rfl := Option.some.inj (hfront.symm.trans hstem)
  obtain ⟨rest, hrest⟩ := List.isPrefixOf_iff_prefix.1 h
  have hanchor : "./".toList = ['.', '/'] := rfl
  rw [hurl, hanchor] at hrest
  refine List.isPrefixOf_iff_prefix.2 ?_
  rw [String.toList_append]
  rcases front with _ | ⟨a, _ | ⟨b, front⟩⟩
  · rw [List.nil_append] at hrest
    rw [← hrest] at hdot
    exact absurd rfl hdot
  · have htail : '/' :: rest = p.toList := (List.cons.inj hrest).2
    rw [← htail] at hslash
    exact absurd rfl hslash
  · obtain ⟨rfl, htail⟩ := List.cons.inj hrest
    obtain ⟨rfl, -⟩ := List.cons.inj htail
    exact ⟨front ++ q.toList, by simp⟩

/-- A url stays anchored when its extension is replaced. -/
theorem isAnchored_replaceHtmlExtension {url : String} (h : isAnchored url = true) :
    isAnchored (replaceHtmlExtension url) = true := by
  unfold replaceHtmlExtension
  split
  next stem hstem => exact isAnchored_of_beforeEnd? h hstem (by decide) (by decide) _
  · exact h

theorem isAnchored_remapEntrypoint {url : String} (h : isAnchored url = true) :
    isAnchored (remapEntrypoint url) = true := by
  have hremaps : ∀ remap ∈ entrypointRemaps,
      remap.1.toList.head? ≠ some '/' ∧ (remap.1.toList.drop 1).head? ≠ some '/' := by decide
  unfold remapEntrypoint
  dsimp only
  cases hfound : entrypointRemaps.findSome? fun remap =>
      (beforeEnd? url remap.1).map (· ++ remap.2) with
  | none => exact h
  | some target =>
    obtain ⟨remap, hremap, htarget⟩ := List.exists_of_findSome?_eq_some hfound
    obtain ⟨stem, hstem, rfl⟩ := Option.map_eq_some_iff.1 htarget
    exact isAnchored_of_beforeEnd? h hstem (hremaps remap hremap).1 (hremaps remap hremap).2 _

end Url

theorem Resolver.isAnchored_convertUrl (r : Resolver) (url : String) :
    Url.isAnchored (r.convertUrl url) = true := by
  unfold convertUrl
  split
  · split_ifs <;> exact Url.isAnchored_append _
  · exact Url.isAnchored_append _

theorem Resolver.isAnchored_moduleUrl (r : Resolver) (url : String) :
    Url.isAnchored (r.moduleUrl url) = true :=
  Url.isAnchored_replaceHtmlExtension (Url.isAnchored_remapEntrypoint (r.isAnchored_convertUrl url))

/-! ## Scanned documents -/

namespace Conversion

/-- What the scan of a document finds, if it does not fail. -/
def scanResult? (c : Conversion) (url : String) : Option ScanResult :=
  (c.analysis.file? url).bind fun file => ((c.scanStep url file).outcome []).toOption

/-- The documents of an order whose scan does not fail, with what is known of them. -/
def scannedIn (c : Conversion) (order : List String) : Table ScannedFile :=
  order.filterMap fun url => (c.scanResult? url).map fun result => (url, .kept result)

/-- What a document announces are the exports of its scan, if it succeeds. -/
theorem announced_eq (c : Conversion) (url : String) :
    c.announced url = ((c.scanResult? url).map (·.exports)).getD [] := by
  unfold announced scanResult?
  cases c.analysis.file? url with
  | none => rfl
  | some file =>
    rw [Option.map_some, Option.bind_some]
    cases (c.scanStep url file).outcome [] <;> rfl

/-- The documents that were scanned announce all that the documents announce. -/
theorem flatMap_exports_scannedIn (c : Conversion) (order : List String) :
    (Table.values (c.scannedIn order)).flatMap (·.exports) = order.flatMap c.announced := by
  induction order with
  | nil => rfl
  | cons url order ih =>
    rw [List.flatMap_cons, ← ih, c.announced_eq]
    cases hresult : c.scanResult? url <;>
      simp [scannedIn, hresult, Table.values, ScannedFile.exports]

/-- A document is in the manifest if it was scanned and did not fail. -/
theorem mem_keys_scannedIn {c : Conversion} {order : List String} {url : String} :
    url ∈ Table.keys (c.scannedIn order) ↔ url ∈ order ∧ (c.scanResult? url).isSome = true := by
  simp only [scannedIn, Table.mem_keys, List.mem_filterMap, Option.map_eq_some_iff,
    Prod.mk.injEq, Option.isSome_iff_exists]
  aesop

/-- The manifest has the documents in the order of the scan. -/
theorem keys_scannedIn_sublist (c : Conversion) (order : List String) :
    (Table.keys (c.scannedIn order)).Sublist order := by
  induction order with
  | nil => exact .slnil
  | cons url order ih =>
    cases hresult : c.scanResult? url with
    | none => simpa [scannedIn, hresult, Table.keys] using ih.cons url
    | some result => simpa [scannedIn, hresult, Table.keys] using ih.cons_cons url

/-- A scan is named by the url of its document, which a manifest can hold with its exports. -/
theorem scanResult?_spec {c : Conversion} (hkeyed : c.analysis.Keyed) {url : String}
    {result : ScanResult} (h : c.scanResult? url = some result) :
    result.legacyUrl = url ∧ (ScannedFile.kept result).Portable := by
  obtain ⟨file, hfile, houtcome⟩ := Option.bind_eq_some_iff.1 h
  have hurl := hkeyed url file hfile
  cases hscan : (c.scanStep url file).outcome [] with
  | error e =>
    rw [hscan] at houtcome
    cases houtcome
  | ok found =>
    rw [hscan] at houtcome
    obtain rfl := Option.some.inj houtcome
    obtain ⟨ds, hrun⟩ := Reporting.outcome_eq_ok.1 hscan
    unfold scanStep at hrun
    split_ifs at hrun
    · obtain ⟨hlegacy, hconverted, hfailure, hexports⟩ := scanModule_ok hrun
      obtain ⟨i, e, spaces, -, hmodule, hrecords, hfollows, -⟩ :=
        follows_runOf Pipeline.forScan_order (by decide) (by decide) hfailure
      refine ⟨hlegacy.trans hurl, ?_, fun r hr => ?_⟩
      · rw [hconverted]
        exact c.resolver.isAnchored_moduleUrl file.url
      · rw [hexports, ← hrecords] at hr
        obtain ⟨o, -, hdescribed⟩ := exists_of_forall₂_left hfollows.described hr
        rw [hconverted, hdescribed.module, hmodule]
    · obtain ⟨hlegacy, hconverted, hexports⟩ := scanDocument_ok hrun
      refine ⟨hlegacy.trans hurl, ?_, fun r hr => ?_⟩
      · rw [hconverted]
        exact c.resolver.isAnchored_convertUrl file.url
      · rw [hexports] at hr
        cases hr

/-- An entry of the manifest is about its document, and can be carried over. -/
theorem scannedIn_spec {c : Conversion} (hkeyed : c.analysis.Keyed) {order : List String}
    {entry : String × ScannedFile} (h : entry ∈ c.scannedIn order) :
    entry.2.url = entry.1 ∧ entry.2.Portable := by
  obtain ⟨url, -, hresult⟩ := List.mem_filterMap.1 h
  obtain ⟨result, hfound, rfl⟩ := Option.map_eq_some_iff.1 hresult
  exact scanResult?_spec hkeyed hfound

/-- The files of a manifest have the urls of their entries. -/
theorem map_url_scannedIn {c : Conversion} (hkeyed : c.analysis.Keyed) (order : List String) :
    (Table.values (c.scannedIn order)).map (·.url) = Table.keys (c.scannedIn order) := by
  rw [Table.values, List.map_map]
  exact List.map_congr_left fun entry hentry => (scannedIn_spec hkeyed hentry).1

/-- What a scan knows of its documents is written to a manifest and read from it in the order of
the scan. -/
theorem ofJson_toJson_scannedIn {c : Conversion} (hkeyed : c.analysis.Keyed) {order : List String}
    (hordered : order.Pairwise (· < ·)) :
    Manifest.ofJson (Manifest.toJson (Table.values (c.scannedIn order))) "" "./" =
      .ok ((Table.values (c.scannedIn order)).map (·.rekinded.reloaded)) := by
  have hlt : ((Table.values (c.scannedIn order)).map (·.url)).Pairwise (· < ·) :=
    map_url_scannedIn hkeyed order ▸ hordered.sublist (c.keys_scannedIn_sublist order)
  have hdistinct : ((Table.values (c.scannedIn order)).map (·.url)).Nodup :=
    hlt.imp fun h => Std.ne_of_lt h
  have hsorted : sortBy (fun a b => le a.url b.url) (Table.values (c.scannedIn order)) =
      Table.values (c.scannedIn order) :=
    (sortBy_perm _ _).eq_of_pairwise (fun a b _ _ hab hba => absurd hab (String.lt_asymm hba))
      (pairwise_lt_sortBy hdistinct) (List.pairwise_map.1 hlt)
  rw [Manifest.ofJson_toJson hdistinct fun f hf => ?_, hsorted]
  obtain ⟨entry, hentry, rfl⟩ := List.mem_map.1 hf
  exact (scannedIn_spec hkeyed hentry).2

end Conversion

/-! ## Scans -/

namespace Project

variable {c : Conversion} {p : Project}

/-- What is known after the scan of a document: also what that scan finds, if it does not fail. -/
theorem scanned_scanOne (hconversion : p.conversion = c) (hunsealed : p.builder.isSealed = false)
    (url : String) :
    (p.scanOne url).scanned = (c.scanResult? url).elim p.scanned fun result =>
      Table.addNew p.scanned result.legacyUrl (.kept result) := by
  unfold scanOne Conversion.scanResult?
  rw [hconversion]
  cases hfile : c.analysis.file? url with
  | none => rfl
  | some file =>
    have hstep : (if p.becomesModule url then c.scanModule file else c.scanDocument file) =
        c.scanStep url file := by
      rw [Conversion.scanStep, becomesModule, becomesModule, isOwn, isOwn, hconversion]
      rfl
    have houtcome := (c.predictable_scanStep url file).outcome_eq [] p.diagnostics
    dsimp only [Option.bind_some]
    rw [hstep, houtcome]
    cases hrun : c.scanStep url file p.diagnostics with
    | ok result ds =>
      rw [attempt_of_ok hrun, Reporting.outcome, hrun]
      simp [register, RegistryBuilder.register, hunsealed, Except.toOption]
    | error e ds =>
      rw [attempt_of_error hrun, Reporting.outcome, hrun]
      rfl

/-- The documents of an order that were not known are known in this order after their scan. -/
theorem scanned_foldl_scanOne (hkeyed : c.analysis.Keyed) :
    ∀ {order : List String} {announced : List ExportRecord} {p : Project},
      Scanning c announced p → (Table.keys p.scanned ++ order).Nodup →
      (order.foldl scanOne p).scanned = p.scanned ++ c.scannedIn order
  | [], _, _, _, _ => (List.append_nil _).symm
  | url :: order, announced, p, h, hnodup => by
    have hstep := scanned_scanOne h.conversion h.unsealed url
    have hrest (hnodup' : (Table.keys (p.scanOne url).scanned ++ order).Nodup) :
        (order.foldl scanOne (p.scanOne url)).scanned =
          (p.scanOne url).scanned ++ c.scannedIn order :=
      scanned_foldl_scanOne hkeyed (h.scanOne url) hnodup'
    have hnew : url ∉ Table.keys p.scanned := fun hmem =>
      (List.nodup_append.1 hnodup).2.2 url hmem url (by simp) rfl
    rw [List.foldl_cons]
    cases hresult : c.scanResult? url with
    | none =>
      rw [hresult, Option.elim_none] at hstep
      rw [hrest, hstep]
      · simp [Conversion.scannedIn, hresult]
      · rw [hstep]
        exact hnodup.sublist ((List.sublist_cons_self url order).append_left _)
    | some result =>
      rw [hresult, Option.elim_some, (Conversion.scanResult?_spec hkeyed hresult).1, Table.addNew,
        if_neg (mt Table.has_iff.1 hnew)] at hstep
      rw [hrest, hstep]
      · simp [Conversion.scannedIn, hresult]
      · rw [hstep, Table.keys_append]
        simpa [Table.keys] using hnodup

/-- The documents that a scan looks at come in the order of their urls. -/
theorem pairwise_lt_pending (p : Project) (urls : List String) :
    (p.pending urls).Pairwise (· < ·) := by
  refine @pairwise_lt_sortBy String id _ ?_
  rw [List.map_id]
  exact nodup_eraseDups _

/-- A scan without a manifest knows the documents that it looks at and that do not fail. -/
theorem scan_scanned (hkeyed : c.analysis.Keyed) (ds : Diagnostics) (urls : List String) :
    ∃ first, (c.project ds).scan urls = .ok first ∧
      first.scanned = c.scannedIn ((c.project []).pending urls) ∧
      Converting c (Registry.addNew [] (c.announcements urls)).1 [] first := by
  refine ⟨_, scan_eq_scanInOrder rfl urls, ?_, c.scanInOrder_sealed ds _⟩
  exact scanned_foldl_scanOne hkeyed (Scanning.start c ds)
    ((pairwise_lt_pending _ urls).imp fun h => Std.ne_of_lt h)

/-! ## Taking over a manifest -/

/-- A project that has taken over a manifest is as if it had scanned the files of the manifest. -/
theorem loadManifest_scanning (c : Conversion) (ds : Diagnostics) (files : List ScannedFile) :
    ∃ started, (c.project ds).loadManifest files = .ok started ∧
      Scanning c (files.flatMap (·.exports)) started ∧ started.registry = none ∧
      ∀ url, Table.has started.scanned url = true ↔ url ∈ files.map (·.url) := by
  refine ⟨_, rfl, ⟨rfl, rfl, rfl, rfl⟩, rfl, fun url => ?_⟩
  have hkeys : Table.keys (files.foldl (fun t f => Table.addNew t f.url f) []) =
      List.eraseDups (files.map (·.url)) := by
    have hpairs := Table.keys_foldl_addNew id (files.map fun f => (f.url, f))
    rwa [List.foldl_map, Table.keys.eq_def (files.map _), List.map_map] at hpairs
  rw [Table.has_iff, ← List.mem_eraseDups (l := files.map _), ← hkeys]
  rfl

/-- A scan after a manifest adds to the registry only what the documents announce that the manifest
does not know. -/
theorem scan_after_manifest {announced : List ExportRecord} (h : Scanning c announced p)
    (hunsealed : p.registry = none) {urls : List String}
    (hknown : ∀ url ∈ urls, p.inScope url = true → Table.has p.scanned url = false →
      c.announced url = []) :
    ∃ second, p.scan urls = .ok second ∧
      Converting c (Registry.addNew [] announced).1 [] second := by
  refine ⟨_, scan_eq_scanInOrder hunsealed urls, ?_⟩
  have hnothing : (p.pending urls).flatMap c.announced = [] := by
    refine List.flatMap_eq_nil_iff.2 fun url hurl => ?_
    rw [pending, Text.mem_sort_eraseDups, List.mem_filter, Bool.and_eq_true, Bool.not_eq_true'] at hurl
    exact hknown url hurl.1 hurl.2.1 hurl.2.2
  have hscanning := h.foldl_scanOne (p.pending urls)
  rw [hnothing, List.append_nil] at hscanning
  exact .start hscanning.conversion (congrArg some hscanning.records) hscanning.converted

end Project

namespace Conversion

/-- A run that takes over the manifest of an earlier run, and then scans the same documents, seals the
same registry; and the results of converting the same documents are the same. -/
theorem results_eq_of_manifest {c : Conversion} (hkeyed : c.analysis.Keyed)
    (urls converted : List String) (ds ds' : Diagnostics) :
    ∃ first files started second registry p q,
      (c.project ds).scan urls = .ok first ∧
      Manifest.ofJson (Manifest.toJson (Table.values first.scanned)) "" "./" = .ok files ∧
      (c.project ds').loadManifest files = .ok started ∧ started.scan urls = .ok second ∧
      first.registry = some registry ∧ second.registry = some registry ∧
      first.convertAll converted = .ok p ∧ second.convertAll converted = .ok q ∧
      ∀ path, Table.get? q.results path = Table.get? p.results path := by
  obtain ⟨first, hfirst, hscanned, hsealed⟩ := Project.scan_scanned hkeyed ds urls
  have hfiles := ofJson_toJson_scannedIn hkeyed (Project.pairwise_lt_pending (c.project []) urls)
  rw [← hscanned] at hfiles
  obtain ⟨started, hstarted, hscanning, hunsealed, hknown⟩ :=
    Project.loadManifest_scanning c ds' ((Table.values first.scanned).map (·.rekinded.reloaded))
  obtain ⟨second, hsecond, hsealed'⟩ :
      ∃ second, started.scan urls = .ok second ∧
        Project.Converting c (Registry.addNew [] (c.announcements urls)).1 [] second := by
    have hexports : ((Table.values first.scanned).map (·.rekinded.reloaded)).flatMap (·.exports) =
        c.announcements urls := by
      rw [hscanned, announcements, ← flatMap_exports_scannedIn]
      simp [List.flatMap_map]
    refine hexports ▸ Project.scan_after_manifest hscanning hunsealed fun url hurl hscope hnew => ?_
    rw [c.announced_eq]
    cases hresult : c.scanResult? url with
    | none => rfl
    | some result =>
      have hmem : url ∈ Table.keys first.scanned := by
        rw [Project.inScope_eq hscanning.conversion] at hscope
        rw [hscanned, mem_keys_scannedIn, Project.mem_pending, hresult]
        exact ⟨⟨hurl, hscope⟩, rfl⟩
      rw [hscanned, ← map_url_scannedIn hkeyed, ← hscanned] at hmem
      have hhas := (hknown url).2 (by simpa [List.map_map] using hmem)
      rw [hnew] at hhas
      cases hhas
  obtain ⟨p, hp, hdone⟩ := hsealed.foldlM_convert (Text.sort (List.eraseDups converted))
  obtain ⟨q, hq, hdone'⟩ := hsealed'.foldlM_convert (Text.sort (List.eraseDups converted))
  exact ⟨first, _, started, second, _, p, q, hfirst, hfiles, hstarted, hsecond, hsealed.sealed,
    hsealed'.sealed, hp, hq,
    get?_results_congr hkeyed (fun _ => rfl) (fun _ => Iff.rfl) hdone' hdone⟩

/-! ### Rivals -/

/-- Two documents that declare the same path, and a document whose program has no end. -/
def rivalRoot : SourceRoot where
  files := [("a.html", .ok "<script>P.a=1</script>"),
    ("b.html", .ok "<script>P.a=2;P.b=3</script>"), ("c.html", .ok "<script>P.c=\x7b</script>")]

/-- The package of the three documents. -/
def rivals : Conversion := rivalRoot.package ["a.html", "b.html", "c.html"]

theorem rivals_evaluated :
    rivalRoot.analyze ["a.html", "b.html", "c.html"] = .ok rivals.analysis ∧
      rivals.announcements ["b.html", "c.html", "a.html"] =
        [⟨"P.a", "./a.js", "a"⟩, ⟨"P.a", "./b.js", "a"⟩, ⟨"P.b", "./b.js", "b"⟩] ∧
      rivals.scanResult? "c.html" = none :=
  ⟨SourceRoot.analyze_package (by decide +kernel) (by decide +kernel), by decide +kernel⟩

/-- The first two documents announce the same path, the third one fails; the manifest of the first two
leads to the same results. -/
theorem results_eq_of_manifest_rivals :
    rivals.announcements ["b.html", "c.html", "a.html"] =
        [⟨"P.a", "./a.js", "a"⟩, ⟨"P.a", "./b.js", "a"⟩, ⟨"P.b", "./b.js", "b"⟩] ∧
      rivals.scanResult? "c.html" = none ∧
      ∃ first files started second registry p q,
        (rivals.project []).scan ["b.html", "c.html", "a.html"] = .ok first ∧
        Manifest.ofJson (Manifest.toJson (Table.values first.scanned)) "" "./" = .ok files ∧
        (rivals.project []).loadManifest files = .ok started ∧
        started.scan ["b.html", "c.html", "a.html"] = .ok second ∧
        first.registry = some registry ∧ second.registry = some registry ∧
        first.convertAll ["a.html", "b.html"] = .ok p ∧
        second.convertAll ["a.html", "b.html"] = .ok q ∧
        ∀ path, Table.get? q.results path = Table.get? p.results path :=
  ⟨rivals_evaluated.2.1, rivals_evaluated.2.2, results_eq_of_manifest
    (SourceRoot.keyed_analyze rivals_evaluated.1) ["b.html", "c.html", "a.html"] ["a.html", "b.html"]
    [] []⟩

end Conversion

end HtmlModules
