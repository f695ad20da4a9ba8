import HtmlModules.Proofs.Lookup
import HtmlModules.Proofs.Output

/-!
# Documents may come in any order

The steps of a phase, one for each document, may be taken in any order. If no path is announced by
two documents, then the registries that two scans seal cannot be told apart, and every document is
converted to the same; so the results are equal (`results_eq_of_perm`). What was reported before has
no influence on them.
-/

namespace HtmlModules

namespace Project

/-! ## Phases in any order -/

/-- Scans documents in this order and seals the registry. -/
def scanInOrder (p : Project) (order : List String) : Project :=
  let p := order.foldl scanOne p
  let (builder, registry) := p.builder.freeze
  { p with builder, registry := some registry }

/-- Converts documents in this order. -/
def convertInOrder (p : Project) (order : List String) : Except Failure Project :=
  order.foldlM (fun p url => return (← p.convert url).2) p

/-- A scan takes the documents in the order of their urls. -/
theorem scan_eq_scanInOrder {p : Project} (h : p.registry = none) (urls : List String) :
    p.scan urls = .ok (p.scanInOrder (p.pending urls)) := by
  rw [scan, h]
  rfl

theorem convertAll_eq_convertInOrder (p : Project) (urls : List String) :
    p.convertAll urls = p.convertInOrder (Text.sort (List.eraseDups urls)) :=
  rfl

end Project

/-! ## Packages without links -/

/-- The package of some documents that all become modules, as it is if they have no links. -/
def SourceRoot.package (r : SourceRoot) (urls : List String) : Conversion where
  analysis := (urls.foldlM r.load {}).toOption.getD {}
  resolver := { layout := .package {}, dependencies := [] }
  settings := { namespaces := ["P"], modules := urls }

theorem SourceRoot.analyze_package {r : SourceRoot} {urls : List String}
    (hlinks : ∀ f ∈ r.files, ∀ read ∈ (r.readFile f.1 f.2).toOption, read.1.links = [])
    (hload : (urls.foldlM r.load {}).toBool = true) :
    r.analyze urls = .ok (r.package urls).analysis := by
  rw [analyze_eq_foldlM_load hlinks]
  exact Failing.eq_ok_getD hload {}

namespace Conversion

variable {c : Conversion} {ds : Diagnostics} {order order' : List String}

/-! ## Registries -/

/-- No path is announced by two of the documents. -/
def AnnouncesApart (c : Conversion) (urls : List String) : Prop :=
  ∀ u ∈ urls, ∀ v ∈ urls, u ≠ v → ∀ e ∈ c.announced u, ∀ f ∈ c.announced v, e.path ≠ f.path

instance (c : Conversion) (urls : List String) : Decidable (c.AnnouncesApart urls) :=
  inferInstanceAs (Decidable (∀ u ∈ urls, ∀ v ∈ urls, u ≠ v → _))

/-- A path is looked up as the record of the document that announces it. -/
theorem lookup_flatMap_announced (h : c.AnnouncesApart order) {path : String} {q : ExportRecord} :
    Registry.lookup (order.flatMap c.announced) path = some q ↔
      ∃ u ∈ order, Registry.lookup (c.announced u) path = some q := by
  have hfind : Registry.lookup (order.flatMap c.announced) path =
      order.findSome? fun u => Registry.lookup (c.announced u) path :=
    List.find?_flatMap
  rw [hfind]
  refine ⟨List.exists_of_findSome?_eq_some, fun ⟨u, hu, hq⟩ => ?_⟩
  cases hfirst : order.findSome? fun u => Registry.lookup (c.announced u) path with
  | none =>
    rw [List.findSome?_eq_none_iff.1 hfirst u hu] at hq
    cases hq
  | some q' =>
    obtain ⟨v, hv, hq'⟩ := List.exists_of_findSome?_eq_some hfirst
    obtain ⟨hmem, hpath⟩ := Registry.mem_of_lookup hq
    obtain ⟨hmem', hpath'⟩ := Registry.mem_of_lookup hq'
    have huv : u = v := Decidable.byContradiction fun hne =>
      h u hu v hv hne q hmem q' hmem' (hpath.trans hpath'.symm)
    rw [← hq', ← huv, hq]

/-- Scans in two orders seal registries that cannot be told apart. -/
theorem sameLookups_of_perm (h : c.AnnouncesApart order) (hperm : order'.Perm order) :
    SameLookups (Registry.addNew [] (order'.flatMap c.announced)).1
      (Registry.addNew [] (order.flatMap c.announced)).1 := by
  have h' : c.AnnouncesApart order' := fun u hu v hv =>
    h u (hperm.mem_iff.1 hu) v (hperm.mem_iff.1 hv)
  intro path
  rw [Registry.lookup_addNew, Registry.lookup_addNew]
  refine congrArg _ (Option.ext fun q => ?_)
  rw [lookup_flatMap_announced h', lookup_flatMap_announced h]
  simp only [hperm.mem_iff]

/-- Scanning in an order seals the announcements of the documents in that order. -/
theorem scanInOrder_sealed (c : Conversion) (ds : Diagnostics) (order : List String) :
    Project.Converting c (Registry.addNew [] (order.flatMap c.announced)).1 []
      ((c.project ds).scanInOrder order) := by
  have hscanning := (Project.Scanning.start c ds).foldl_scanOne order
  rw [List.nil_append] at hscanning
  exact .start hscanning.conversion (congrArg some hscanning.records) hscanning.converted

/-! ## Results -/

theorem conversion?_congr (c : Conversion) {q q' : Registry} (hq : SameLookups q q') (url : String) :
    c.conversion? q url = c.conversion? q' url := by
  unfold conversion? convertStep
  simp only [convertModule_congr c hq, convertPage_congr c hq]

/-- Projects that have converted the same documents against registries that cannot be told apart have
equal results. -/
theorem get?_results_congr (hkeyed : c.analysis.Keyed) {q q' : Registry} (hq : SameLookups q q')
    {done done' : List String} (hdone : ∀ url, url ∈ done ↔ url ∈ done') {p p' : Project}
    (h : Project.Converting c q done p) (h' : Project.Converting c q' done' p') (path : String) :
    Table.get? p.results path = Table.get? p'.results path := by
  have hemitted : ∀ r, r ∈ p.emitted ↔ r ∈ p'.emitted := fun r => by
    rw [h.mem_emitted_iff, h'.mem_emitted_iff]
    simp only [hdone, conversion?_congr c hq]
  refine Option.ext fun value => ?_
  rw [h.get?_results_eq_some hkeyed, h'.get?_results_eq_some hkeyed]
  simp only [hemitted]

/-- If no path is announced by two of the documents that are scanned, then the documents may be
scanned in any order and converted in any order, whatever was reported before: the registries cannot
be told apart, every document is converted as it is by itself, and the results are equal. -/
theorem results_eq_of_perm (hkeyed : c.analysis.Keyed) (scanned converted : List String)
    (hapart : c.AnnouncesApart ((c.project []).pending scanned))
    {scans scans' conversions conversions' : List String} {ds ds' : Diagnostics}
    (hscans : scans.Perm ((c.project []).pending scanned))
    (hscans' : scans'.Perm ((c.project []).pending scanned))
    (hconversions : conversions.Perm (Text.sort (List.eraseDups converted)))
    (hconversions' : conversions'.Perm (Text.sort (List.eraseDups converted))) :
    ∃ p p' q q',
      ((c.project ds).scanInOrder scans).convertInOrder conversions = .ok p ∧
      ((c.project ds').scanInOrder scans').convertInOrder conversions' = .ok p' ∧
      p.registry = some q ∧ p'.registry = some q' ∧ SameLookups q q' ∧
      (∀ url, Table.get? p.converted url =
        if url ∈ converted then c.conversion? q url else none) ∧
      ∀ path, Table.get? p.results path = Table.get? p'.results path := by
  obtain ⟨p, hp, h⟩ := (c.scanInOrder_sealed ds scans).foldlM_convert conversions
  obtain ⟨p', hp', h'⟩ := (c.scanInOrder_sealed ds' scans').foldlM_convert conversions'
  have hsame := (sameLookups_of_perm hapart hscans).trans (sameLookups_of_perm hapart hscans').symm
  have hmem {order : List String} (horder : order.Perm (Text.sort (List.eraseDups converted)))
      (url : String) : url ∈ [] ++ order ↔ url ∈ converted := by
    rw [List.nil_append, horder.mem_iff, Text.mem_sort_eraseDups]
  refine ⟨p, p', _, _, hp, hp', h.sealed, h'.sealed, hsame, fun url => ?_, fun path => ?_⟩
  · rw [h.found]
    simp only [hmem hconversions]
  · exact get?_results_congr hkeyed hsame
      (fun url => (hmem hconversions url).trans (hmem hconversions' url).symm) h h' path

/-! ### Two documents -/

/-- Two documents that export one path each. -/
def pairRoot : SourceRoot where
  files := [("a.html", .ok "<script>P.a=1</script>"), ("b.html", .ok "<script>P.b=1</script>")]

/-- The package of the two documents. -/
def pair : Conversion := pairRoot.package ["a.html", "b.html"]

theorem pair_evaluated :
    pairRoot.analyze ["a.html", "b.html"] = .ok pair.analysis ∧
      (pair.project []).pending ["b.html", "a.html"] = ["a.html", "b.html"] ∧
      pair.AnnouncesApart ["a.html", "b.html"] :=
  ⟨SourceRoot.analyze_package (by decide +kernel) (by decide +kernel), by decide +kernel⟩

/-- The two documents may be scanned from the second to the first, and converted from the first to
the second. -/
theorem results_eq_of_perm_pair :
    (pair.project []).pending ["b.html", "a.html"] = ["a.html", "b.html"] ∧
      pair.AnnouncesApart ["a.html", "b.html"] ∧
      ∃ p p' q q',
        ((pair.project []).scanInOrder ["b.html", "a.html"]).convertInOrder
          ["a.html", "b.html"] = .ok p ∧
        ((pair.project []).scanInOrder ["a.html", "b.html"]).convertInOrder
          ["b.html", "a.html"] = .ok p' ∧
        p.registry = some q ∧ p'.registry = some q' ∧ SameLookups q q' ∧
        (∀ url, Table.get? p.converted url =
          if url ∈ ["a.html", "b.html"] then pair.conversion? q url else none) ∧
        ∀ path, Table.get? p.results path = Table.get? p'.results path := by
  obtain ⟨hanalyze, hpending, hapart⟩ := pair_evaluated
  refine ⟨hpending, hapart, results_eq_of_perm (SourceRoot.keyed_analyze hanalyze)
    ["b.html", "a.html"] ["a.html", "b.html"] (hpending ▸ hapart) ?_ ?_ ?_ ?_⟩
  · rw [hpending]
    exact List.Perm.swap _ _ _
  · rw [hpending]
  · exact (by decide : Text.sort (List.eraseDups ["a.html", "b.html"]) = ["a.html", "b.html"]) ▸ .refl _
  · exact (by decide : Text.sort (List.eraseDups ["a.html", "b.html"]) = ["a.html", "b.html"]) ▸
      List.Perm.swap _ _ _

end Conversion

end HtmlModules
