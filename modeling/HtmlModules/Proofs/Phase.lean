import HtmlModules.Proofs.Call
import HtmlModules.Proofs.Schedule

/-!
# The two phases, whatever is called

A project may be called in any order: manifests are taken over, documents are scanned and converted,
results are read. Until a scan has returned the project is `Collecting`: no document can be
converted. From then on it is `Serving` the registry that the scan has sealed: no call changes that
registry or the builder, scans and manifests are refused, and what a document was converted to stays
(`two_phases`). Every call leads from one of these states to one of them (`Collecting.perform`,
`Serving.perform`), so any number of calls does (`phase_after`).
-/

namespace HtmlModules.Project

open Text

/-! ## Calls -/

/-- A call on a project. -/
inductive Call where
  | loadManifest (files : List ScannedFile)
  | scan (urls : List String)
  | convert (url : String)
  | convertAll (urls : List String)
  | results

/-- What a call on a project returns. -/
inductive Answer where
  | done
  /-- The registry that a scan has sealed. -/
  | registry (r : Registry)
  | conversion (r : Option Converted)
  | results (paths : Table (Option String))
deriving DecidableEq

/-- A change as a step on the project; a change that fails leaves the project as it is. -/
def change {α : Type} (f : Project → Except Failure (α × Project)) : EStateM Failure Project α :=
  fun p =>
    match f p with
    | .ok (a, q) => .ok a q
    | .error e => .error e p

/-- Converts one document after the other; if one of them fails, the conversions before it stay. -/
def convertEach (urls : List String) : EStateM Failure Project Unit :=
  urls.forM fun url => discard (change (·.convert url))

/-- Carries out a call. -/
def perform : Call → EStateM Failure Project Answer
  | .loadManifest files => change fun p => return (.done, ← p.loadManifest files)
  | .scan urls => change fun p => do
    let q ← p.scan urls
    return (.registry (q.registry.getD []), q)
  | .convert url => change fun p => do
    let (r, q) ← p.convert url
    return (.conversion r, q)
  | .convertAll urls => do
    convertEach (sort (List.eraseDups urls))
    return .done
  | .results => fun p => .ok (.results p.results) p

section

variable {p q : Project} {url : String} {urls : List String}

/-- A manifest that is loaded is answered without a value. -/
theorem perform_loadManifest_of_ok {files : List ScannedFile} (h : p.loadManifest files = .ok q) :
    perform (.loadManifest files) p = .ok .done q := by
  simp [perform, change, h, pure, Except.pure, bind, Except.bind]

theorem perform_scan_of_ok (h : p.scan urls = .ok q) :
    perform (.scan urls) p = .ok (.registry (q.registry.getD [])) q := by
  simp [perform, change, h, pure, Except.pure, bind, Except.bind]

theorem perform_convert_of_ok {r : Option Converted} (h : p.convert url = .ok (r, q)) :
    perform (.convert url) p = .ok (.conversion r) q := by
  simp [perform, change, h, pure, Except.pure, bind, Except.bind]

theorem perform_convertAll :
    perform (.convertAll urls) p =
      match convertEach (sort (List.eraseDups urls)) p with
      | .ok _ q => .ok .done q
      | .error e q => .error e q := by
  change EStateM.bind (convertEach (sort (List.eraseDups urls))) (fun _ => pure Answer.done) p = _
  rw [EStateM.bind]
  cases convertEach (sort (List.eraseDups urls)) p <;> rfl

/-- The first document is converted, and then the rest unless it failed. -/
theorem convertEach_cons :
    convertEach (url :: urls) p =
      match p.convert url with
      | .ok (_, q) => convertEach urls q
      | .error e => .error e p := by
  change EStateM.bind (discard (change (·.convert url))) (fun _ => convertEach urls) p = _
  cases h : p.convert url <;>
    simp [EStateM.bind, discard, Functor.mapConst, EStateM.map, change, h]

/-- Converting one document after the other leaves the project that `convertInOrder` gives. -/
theorem convertEach_of_convertInOrder (h : p.convertInOrder urls = .ok q) :
    convertEach urls p = .ok () q := by
  induction urls generalizing p with
  | nil =>
    obtain rfl := Except.ok.inj h
    rfl
  | cons url urls ih =>
    obtain ⟨r, next, hconvert, hrest⟩ := foldlM_convert_cons_eq_ok.1 h
    rw [convertEach_cons, hconvert]
    exact ih hrest

/-- An attempt leaves the registry that is being built. -/
theorem builder_attempt {α : Type} (p : Project) (phase url : String) (step : Reporting α) :
    (p.attempt phase url step).2.builder = p.builder := by
  unfold attempt
  split <;> rfl

/-- A conversion leaves the builder alone. -/
theorem builder_of_convert {r : Option Converted} (h : p.convert url = .ok (r, q)) :
    q.builder = p.builder := by
  unfold convert at h
  split at h
  · cases h
  split at h
  · cases h
    rfl
  · cases h
    rfl
  next file _ _ =>
  dsimp only at h
  generalize (if p.conversion.settings.isModule url then p.conversion.convertModule _ file
    else p.conversion.convertPage _ file) = step at h
  have hbuilder := builder_attempt p "conversion" url step
  split_ifs at h
  · cases h
    rfl
  · split at h <;> next hattempt =>
      rw [hattempt] at hbuilder
      cases h
      exact hbuilder

/-- Conversions leave the registry that is being built. -/
theorem builder_of_convertInOrder (h : p.convertInOrder urls = .ok q) : q.builder = p.builder := by
  induction urls generalizing p with
  | nil =>
    obtain rfl := Except.ok.inj h
    rfl
  | cons url urls ih =>
    obtain ⟨r, next, hconvert, hrest⟩ := foldlM_convert_cons_eq_ok.1 h
    exact (ih hrest).trans (builder_of_convert hconvert)

end

/-! ## Collecting -/

/-- No scan has returned yet. -/
structure Collecting (c : Conversion) (p : Project) : Prop where
  conversion : p.conversion = c
  unsealed : p.builder.isSealed = false
  registry : p.registry = none
  converted : p.converted = []

/-- A scan has sealed the registry, and the urls `done` have been converted against it. -/
structure Serving (c : Conversion) (registry : Registry) (done : List String) (p : Project) :
    Prop extends Converting c registry done p where
  builder : p.builder = ⟨registry, true⟩

namespace Collecting

variable {c : Conversion} {p : Project}

theorem start (c : Conversion) (ds : Diagnostics) : Collecting c (c.project ds) :=
  ⟨rfl, rfl, rfl, rfl⟩

theorem attempt (h : Collecting c p) {α : Type} (phase url : String) (step : Reporting α) :
    Collecting c (p.attempt phase url step).2 := by
  unfold Project.attempt
  split <;> exact ⟨h.conversion, h.unsealed, h.registry, h.converted⟩

/-- To register a result leaves the project collecting. -/
theorem register (h : Collecting c p) (result : ScanResult) : Collecting c (p.register result) := by
  unfold Project.register RegistryBuilder.register
  rw [h.unsealed]
  exact ⟨h.conversion, rfl, h.registry, h.converted⟩

theorem scanOne (h : Collecting c p) (url : String) : Collecting c (p.scanOne url) := by
  unfold Project.scanOne
  split
  · exact h
  next file _ =>
  dsimp only
  have hattempt := h.attempt "scan" url
    (if p.becomesModule url then p.conversion.scanModule file else p.conversion.scanDocument file)
  split
  · next result _ heq =>
    rw [heq] at hattempt
    exact hattempt.register result
  · next heq =>
    rw [heq] at hattempt
    exact hattempt

theorem foldl_scanOne (h : Collecting c p) (urls : List String) :
    Collecting c (urls.foldl Project.scanOne p) := by
  induction urls generalizing p with
  | nil => exact h
  | cons url urls ih => exact ih (h.scanOne url)

/-- A manifest may be taken over. -/
theorem loadManifest (h : Collecting c p) (files : List ScannedFile) :
    ∃ q, p.loadManifest files = .ok q ∧ Collecting c q := by
  unfold Project.loadManifest RegistryBuilder.register
  rw [h.registry, h.unsealed]
  exact ⟨_, rfl, h.conversion, rfl, rfl, h.converted⟩

/-- A scan seals what the builder holds. -/
theorem scan (h : Collecting c p) (urls : List String) :
    ∃ registry q, p.scan urls = .ok q ∧ Serving c registry [] q := by
  have hscanned := h.foldl_scanOne (p.pending urls)
  refine ⟨_, _, scan_eq_scanInOrder h.registry urls, ?_, rfl⟩
  exact .start hscanned.conversion rfl hscanned.converted

/-- No document can be converted. -/
theorem convert (h : Collecting c p) (url : String) :
    p.convert url = .error .convertBeforeScan := by
  rw [Project.convert, h.registry]

/-- Nothing is converted while the project collects. -/
theorem perform_convert (h : Collecting c p) (url : String) :
    perform (.convert url) p = .error .convertBeforeScan p := by
  simp [Project.perform, change, h.convert, bind, Except.bind]

/-- A call leaves the project collecting, unless it is a scan. -/
theorem perform (h : Collecting c p) (call : Call) :
    Collecting c (Calls.stateOf (perform call p)) ∧
        (∀ r, Calls.answerOf (perform call p) ≠ .ok (.registry r)) ∨
      ∃ registry, Calls.answerOf (perform call p) = .ok (.registry registry) ∧
        Serving c registry [] (Calls.stateOf (perform call p)) := by
  cases call with
  | loadManifest files =>
    left
    obtain ⟨q, hq, hcollecting⟩ := h.loadManifest files
    rw [perform_loadManifest_of_ok hq]
    exact ⟨hcollecting, by simp [Calls.answerOf]⟩
  | scan urls =>
    right
    obtain ⟨registry, q, hq, hserving⟩ := h.scan urls
    rw [perform_scan_of_ok hq, hserving.sealed]
    exact ⟨registry, rfl, hserving⟩
  | convert url =>
    left
    rw [h.perform_convert]
    exact ⟨h, by simp [Calls.answerOf]⟩
  | convertAll urls =>
    left
    rw [perform_convertAll]
    cases sort (List.eraseDups urls) with
    | nil => exact ⟨h, by simp [convertEach, Calls.answerOf, pure, EStateM.pure]⟩
    | cons url rest =>
      rw [convertEach_cons, h.convert]
      exact ⟨h, by simp [Calls.answerOf]⟩
  | results => exact Or.inl ⟨h, by simp [Project.perform, Calls.answerOf]⟩

end Collecting

/-! ## Serving -/

namespace Serving

variable {c : Conversion} {registry : Registry} {done : List String} {p : Project}

/-- Converting documents leaves the registry and the builder alone and keeps what has been
converted. -/
theorem convertInOrder (h : Serving c registry done p) (urls : List String) :
    ∃ q, p.convertInOrder urls = .ok q ∧ Serving c registry (done ++ urls) q := by
  obtain ⟨q, hq, hconverting⟩ := h.toConverting.foldlM_convert urls
  exact ⟨q, hq, hconverting, (builder_of_convertInOrder hq).trans h.builder⟩

/-- Nothing is scanned when the registry is sealed. -/
theorem perform_scan (h : Serving c registry done p) (urls : List String) :
    perform (.scan urls) p = .error .scanEnded p := by
  have hscan : p.scan urls = .error .scanEnded := by
    rw [Project.scan, h.sealed]
    rfl
  simp [Project.perform, change, hscan, bind, Except.bind]

/-- No manifest is loaded when the registry is sealed. -/
theorem perform_loadManifest (h : Serving c registry done p) (files : List ScannedFile) :
    perform (.loadManifest files) p = .error .manifestAfterScan p := by
  have hload : p.loadManifest files = .error .manifestAfterScan := by
    rw [Project.loadManifest, h.sealed]
    rfl
  simp [Project.perform, change, hload, bind, Except.bind]

/-- What a document was converted to is returned again. -/
theorem perform_convert_of_converted (h : Serving c registry done p) {url : String} {r : Converted}
    (hr : Table.get? p.converted url = some r) :
    perform (.convert url) p = .ok (.conversion (some r)) p :=
  perform_convert_of_ok (convert_of_converted h.sealed hr)

/-- What a document was converted to stays. -/
theorem get?_converted_mono {more : List String} {q : Project} (h : Serving c registry done p)
    (h' : Serving c registry (done ++ more) q) {url : String} {r : Converted}
    (hr : Table.get? p.converted url = some r) : Table.get? q.converted url = some r := by
  rw [h.found] at hr
  split_ifs at hr with hdone
  rw [h'.found, if_pos (List.mem_append_left _ hdone), hr]

/-- A call leaves the project serving the same registry. -/
theorem perform (h : Serving c registry done p) (call : Call) :
    (∀ r, Calls.answerOf (perform call p) ≠ .ok (.registry r)) ∧
      ∃ more, Serving c registry (done ++ more) (Calls.stateOf (perform call p)) := by
  have hsame : Serving c registry (done ++ []) p := by rwa [List.append_nil]
  cases call with
  | loadManifest files =>
    rw [h.perform_loadManifest]
    exact ⟨by simp [Calls.answerOf], [], hsame⟩
  | scan urls =>
    rw [h.perform_scan]
    exact ⟨by simp [Calls.answerOf], [], hsame⟩
  | convert url =>
    obtain ⟨q, hq, hconverting⟩ := h.toConverting.convert url
    rw [perform_convert_of_ok hq]
    exact ⟨by simp [Calls.answerOf], _, hconverting, (builder_of_convert hq).trans h.builder⟩
  | convertAll urls =>
    obtain ⟨q, hq, hserving⟩ := h.convertInOrder (sort (List.eraseDups urls))
    rw [perform_convertAll, convertEach_of_convertInOrder hq]
    exact ⟨by simp [Calls.answerOf], _, hserving⟩
  | results => exact ⟨by simp [Project.perform, Calls.answerOf], [], hsame⟩

/-- Any calls leave the project serving the same registry. -/
theorem after (h : Serving c registry done p) (calls : List Call) :
    ∃ more, Serving c registry (done ++ more) (Calls.after Project.perform p calls) := by
  have hstep : ∀ q call, (∃ more, Serving c registry (done ++ more) q) →
      ∃ more, Serving c registry (done ++ more) (Calls.stateOf (Project.perform call q)) := by
    rintro q call ⟨more, hq⟩
    obtain ⟨-, more', hnext⟩ := hq.perform call
    exact ⟨more ++ more', by rwa [← List.append_assoc]⟩
  exact Calls.after_keeps hstep ⟨[], by rwa [List.append_nil]⟩ calls

end Serving

/-! ## Any calls -/

variable {c : Conversion} {ds : Diagnostics}

/-- After any calls on a new project no scan has returned and the project is collecting, or one scan
has returned the registry that the project serves. -/
theorem phase_after (c : Conversion) (ds : Diagnostics) (calls : List Call) :
    Collecting c (Calls.after perform (c.project ds) calls) ∧
        (∀ r, .ok (.registry r) ∉ Calls.answers perform (c.project ds) calls) ∨
      ∃ registry done, Serving c registry done (Calls.after perform (c.project ds) calls) ∧
        ∀ r, .ok (.registry r) ∈ Calls.answers perform (c.project ds) calls ↔ r = registry := by
  induction calls using List.reverseRecOn with
  | nil => exact Or.inl ⟨.start c ds, by simp [Calls.answers]⟩
  | append_singleton calls call ih =>
    rw [Calls.after_concat, Calls.answers_concat]
    simp only [List.mem_append, List.mem_singleton]
    rcases ih with ⟨hcollecting, hnone⟩ | ⟨registry, done, hserving, hregistry⟩
    · rcases hcollecting.perform call with ⟨hnext, hanswer⟩ | ⟨registry, hanswer, hnext⟩
      · refine Or.inl ⟨hnext, fun r hr => hr.elim (hnone r) fun h => hanswer r h.symm⟩
      · refine Or.inr ⟨registry, [], hnext, fun r => ?_⟩
        rw [hanswer]
        simp [hnone r]
    · obtain ⟨hanswer, more, hnext⟩ := hserving.perform call
      refine Or.inr ⟨registry, done ++ more, hnext, fun r => ?_⟩
      rw [hregistry]
      exact or_iff_left fun h => hanswer r h.symm

/-- Until a scan has returned no document can be converted, and an attempt changes nothing. From
then on scans and manifests are refused and change nothing; whatever is called, the registry and the
builder stay, and no record can be added; and what a document was converted to stays and is returned
whenever it is converted again. -/
theorem two_phases (c : Conversion) (ds : Diagnostics) (calls later : List Call) :
    let p := Calls.after perform (c.project ds) calls
    let q := Calls.after perform p later
    ((∀ r, .ok (.registry r) ∉ Calls.answers perform (c.project ds) calls) →
      ∀ url, perform (.convert url) p = .error .convertBeforeScan p) ∧
    ∀ r, .ok (.registry r) ∈ Calls.answers perform (c.project ds) calls →
      (∀ urls, perform (.scan urls) p = .error .scanEnded p) ∧
      (∀ files, perform (.loadManifest files) p = .error .manifestAfterScan p) ∧
      p.registry = some r ∧ q.registry = some r ∧
      q.builder = p.builder ∧ (∀ records, q.builder.register records = .error .registrySealed) ∧
      ∀ url result, Table.get? p.converted url = some result →
        Table.get? q.converted url = some result ∧
          perform (.convert url) q = .ok (.conversion (some result)) q := by
  intro p q
  rcases phase_after c ds calls with ⟨hcollecting, hnone⟩ | ⟨registry, done, hserving, hregistry⟩
  · exact ⟨fun _ => hcollecting.perform_convert, fun r hr => absurd hr (hnone r)⟩
  · refine ⟨fun hnone => absurd ((hregistry registry).2 rfl) (hnone registry), fun r hr => ?_⟩
    obtain rfl := (hregistry r).1 hr
    obtain ⟨more, hlater⟩ := hserving.after later
    refine ⟨hserving.perform_scan, hserving.perform_loadManifest, hserving.sealed, hlater.sealed,
      hlater.builder.trans hserving.builder.symm, fun records => ?_, fun url result hresult => ?_⟩
    · rw [hlater.builder]
      rfl
    · have hkept := hserving.get?_converted_mono hlater hresult
      exact ⟨hkept, hlater.perform_convert_of_converted hkept⟩

/-! ### Two documents -/

/-- A document that is converted before a scan and behind it. -/
def pairCalls : List Call := [.convert "a.html", .scan ["b.html", "a.html"], .convert "a.html"]

/-- What the scan of the two documents seals. -/
def pairRegistry : Registry := [⟨"P.a", "./a.js", "a"⟩, ⟨"P.b", "./b.js", "b"⟩]

/-- The module of the first document. -/
def pairConverted : Converted where
  legacyUrl := "a.html"
  url := "./a.js"
  outputPath := "a.js"
  kind := .module
  text := "export const a = 1;\n"
  exports := [⟨"P.a", "./a.js", "a"⟩]

theorem pairCalls_evaluated :
    .ok (.registry pairRegistry) ∈ Calls.answers perform (Conversion.pair.project []) pairCalls ∧
      Table.get? (Calls.after perform (Conversion.pair.project []) pairCalls).converted "a.html" =
        some pairConverted := by
  decide +kernel

/-- The first document cannot be converted before the scan; behind it neither a second scan nor a
manifest changes anything, and the document is converted to the same module as before. -/
theorem two_phases_pair :
    let start := Conversion.pair.project []
    let p := Calls.after perform start pairCalls
    let q := Calls.after perform p [.scan ["a.html"], .loadManifest [], .convert "b.html"]
    perform (.convert "a.html") start = .error .convertBeforeScan start ∧
      perform (.scan ["a.html"]) p = .error .scanEnded p ∧
      perform (.loadManifest []) p = .error .manifestAfterScan p ∧
      q.registry = some pairRegistry ∧ q.builder = p.builder ∧
      perform (.convert "a.html") q = .ok (.conversion (some pairConverted)) q := by
  obtain ⟨hanswer, hconverted⟩ := pairCalls_evaluated
  obtain ⟨hfirst, -⟩ := two_phases Conversion.pair [] [] []
  obtain ⟨-, hsealed⟩ := two_phases Conversion.pair [] pairCalls
    [.scan ["a.html"], .loadManifest [], .convert "b.html"]
  obtain ⟨hscan, hload, -, hregistry, hbuilder, -, hkept⟩ := hsealed pairRegistry hanswer
  exact ⟨hfirst (by simp [Calls.answers]) "a.html", hscan _, hload _, hregistry, hbuilder,
    (hkept "a.html" pairConverted hconverted).2⟩

end HtmlModules.Project
