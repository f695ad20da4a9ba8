import HtmlModules.Proofs.Initializer
import HtmlModules.Proofs.Linking

/-!
# What becomes of statements that make sure of a namespace

A conversion replaces references to other modules before it exports namespaces. The statement
`P = P || {}` reads `P`, so whether it is still recognized when the exports are made depends on the
registry: its default is replaced if and only if the longest registered part of `P` is of another
module. All that are recognized are removed (`initializers_removed`); of two modules that make sure
of the same namespace, the second one keeps the statement (`exists_initializer_survives`).
-/

namespace HtmlModules

open Text Pass

/-! ## Collecting and exporting -/

/-- What a run does when it replaces references and then exports namespaces. -/
structure Rewriting (c : Context) (run : Pipeline.Run) where
  /-- The text in which references are replaced. -/
  collecting : String
  program : Script.Node
  /-- The edits for each of its statements. -/
  rows : List (List Edit)
  /-- The text from which namespaces are exported. -/
  exporting : String
  exporter : Script.Node
  /-- The text with the exports. -/
  exported : String
  mem_collecting : (.inlineTemplates, collecting) ∈ run.texts
  mem_exporting : (.collectReferences, exporting) ∈ run.texts
  mem_exported : (.exportNamespaces, exported) ∈ run.texts
  parse_collecting : Script.parse collecting = .ok program
  rows_for : List.Forall₂ (CollectedFor c collecting program) (statements program) rows
  collected : applyEdits collecting rows.flatten = .ok exporting
  parse_exporting : Script.parse exporting = .ok exporter
  exports : applyEdits exporting (exportProgram c exporting exporter).1 = .ok exported

/-- A run that makes a module and succeeds replaces references and exports namespaces. -/
theorem exists_rewriting {c : Context} {source : String}
    (h : (Pipeline.forModule.run c source).failure = none) :
    Nonempty (Rewriting c (Pipeline.forModule.run c source)) := by
  rw [Pipeline.run, Pipeline.forModule_order] at h ⊢
  change (Pipeline.runFrom c _ source (.globalThis :: .unwrap :: .inlineTemplates ::
    .collectReferences :: .exportNamespaces :: _)).failure = none at h
  change Nonempty (Rewriting c (Pipeline.runFrom c _ source (.globalThis :: .unwrap ::
    .inlineTemplates :: .collectReferences :: .exportNamespaces :: _)))
  obtain ⟨text₁, f₁, -, h, htexts₁⟩ := Pipeline.runFrom_cons_ok h
  obtain ⟨text₂, f₂, -, h, htexts₂⟩ := Pipeline.runFrom_cons_ok h
  obtain ⟨collecting, f₃, -, h, htexts₃⟩ := Pipeline.runFrom_cons_ok h
  obtain ⟨exporting, f₄, hcollect, h, htexts₄⟩ := Pipeline.runFrom_cons_ok h
  obtain ⟨exported, f₅, hexport, h, htexts₅⟩ := Pipeline.runFrom_cons_ok h
  obtain ⟨program, rows, hparse, hrows, hcollected⟩ := collectReferences_ok hcollect
  obtain ⟨exporter, hparse', hexported⟩ := exportNamespaces_applied hexport
  rw [htexts₄, htexts₅] at htexts₃
  rw [htexts₂, htexts₃] at htexts₁
  exact ⟨⟨collecting, program, rows, exporting, exporter, exported, by simp [htexts₁],
    by simp [htexts₁], by simp [htexts₁], hparse, hrows, hcollected, hparse', hexported⟩⟩

/-- Where no reference is replaced, the exports are made from the same program. -/
theorem Rewriting.exporter_eq {c : Context} {run : Pipeline.Run} (m : Rewriting c run)
    (h : ∀ edits ∈ m.rows, edits = []) : m.exporter = m.program := by
  have hcollected := m.collected
  rw [List.flatten_eq_nil_iff.2 h] at hcollected
  have hnil : applyEdits m.collecting [] = .ok (String.ofList m.collecting.toList) := rfl
  have htext : m.collecting = m.exporting :=
    Except.ok.inj ((String.ofList_toList ▸ hnil).symm.trans hcollected)
  exact Except.ok.inj (m.parse_exporting.symm.trans (htext ▸ m.parse_collecting))

/-! ## A namespace of two modules -/

/-- The documents of a package: both make sure of a namespace, and the first one adds to it. -/
def sharingRoot : SourceRoot where
  files := [("a.html", .ok "<script>P.A=P.A||{};P.A.b=1</script>"),
    ("b.html", .ok "<script>P.A=P.A||{}</script>")]

/-- The package with both documents as modules. -/
def sharing : Conversion where
  analysis := (["a.html", "b.html"].foldlM sharingRoot.load {}).toOption.getD {}
  resolver := { layout := .package {}, dependencies := [] }
  settings := { namespaces := ["P"], modules := ["a.html", "b.html"] }

/-- What the scan of the package announces: the namespace is of the first document. -/
def sharingRegistry : Registry :=
  [⟨"P.A.b", "./a.js", "b"⟩, ⟨"P.A", "./a.js", "*"⟩]

/-- The module of the first document. -/
def sharingFirst : Converted where
  legacyUrl := "a.html"
  url := "./a.js"
  outputPath := "a.js"
  kind := .module
  text := "export const b = 1;\n"
  exports := [⟨"P.A.b", "./a.js", "b"⟩, ⟨"P.A", "./a.js", "*"⟩]

/-- The module of the second document. -/
def sharingSecond : Converted where
  legacyUrl := "b.html"
  url := "./b.js"
  outputPath := "b.js"
  kind := .module
  text := "import * as $$a from './a.js';\n\nP.A=$$a||\x7b\x7d\n"

theorem sharing_run :
    ((sharing.run [] ["a.html", "b.html"] ["a.html", "b.html"]).toOption.map fun p =>
      (p.registry, p.converted)) =
      some (some sharingRegistry, [("a.html", sharingFirst), ("b.html", sharingSecond)]) := by
  decide +kernel

/-- Both documents of the sharing project are emitted. -/
theorem sharing_emitted {url : String} {r : Converted}
    (h : (url, r) ∈ [("a.html", sharingFirst), ("b.html", sharingSecond)])
    (hkind : r.kind = .module) :
    Emitted sharing [] ["a.html", "b.html"] ["a.html", "b.html"] sharingRegistry url r :=
  .of_run sharing_run h hkind

/-- What is exported from in the first document is the program it came with. -/
theorem sharing_exporting {file : SourceFile} (hfile : sharing.analysis.file? "a.html" = some file)
    {text : String}
    (h : (.collectReferences, text) ∈ (sharing.runOf .forModule sharingRegistry file).texts) :
    text = "P.A=P.A||\x7b\x7d;P.A.b=1;" := by
  have htexts : ((sharing.analysis.file? "a.html").map fun file =>
      (sharing.runOf .forModule sharingRegistry file).texts.filter (·.1 == .collectReferences)) =
      some [(.collectReferences, "P.A=P.A||\x7b\x7d;P.A.b=1;")] := by
    decide +kernel
  rw [hfile, Option.map_some, Option.some.injEq] at htexts
  have hmem : (.collectReferences, text) ∈
      (sharing.runOf .forModule sharingRegistry file).texts.filter (·.1 == .collectReferences) :=
    List.mem_filter.2 ⟨h, rfl⟩
  rw [htexts, List.mem_singleton] at hmem
  exact (Prod.mk.inj hmem).2

/-- A statement that makes sure of the path is found in the program. -/
def findsInitializer (path : List String) (program : Script.Node) : Bool :=
  (statements program).any fun s => (initializer? s).any fun found => found.1 == path

/-- An initializer that is found is a statement of the program. -/
theorem exists_isInitializer {path : List String} {program : Script.Node}
    (h : findsInitializer path program = true) :
    ∃ s ∈ statements program, ∃ default, IsInitializer path s default := by
  obtain ⟨s, hs, hfound⟩ := List.any_eq_true.1 h
  obtain ⟨⟨found, default⟩, hinitializer, hpath⟩ := (Option.any_eq_true _ _).1 hfound
  obtain rfl : found = path := eq_of_beq hpath
  exact ⟨s, hs, default, isInitializer_of_initializer? hinitializer⟩

/-! ## Statements that make sure of a namespace -/

/-- A statement that makes sure of a namespace goes through the stages in front of the collection
without edits. The collection leaves it alone if and only if its path does not begin with the record
of another module, and replaces the beginning of its default otherwise. All such statements of
tracked namespaces that are then in the program are removed from it; it is the program from which
references were collected if none of them was replaced. -/
theorem initializers_removed {c : Conversion} {ds : Diagnostics} {scanned converted : List String}
    {registry : Registry} {url : String} {r : Converted}
    (h : Emitted c ds scanned converted registry url r) :
    ∃ file, c.analysis.file? url = some file ∧
      r.text = (c.runOf .forModule registry file).text (c.preparation file).source ∧
      ∃ m : Rewriting (c.context (c.preparation file) registry) (c.runOf .forModule registry file),
        (∀ path s default, IsInitializer path s default → LeftInFront s) ∧
        List.Forall₂ (fun s edits => ∀ path default, IsInitializer path s default →
            (∀ name ∈ pathPrefixes path, c.settings.isRedirected name = false) →
            (edits = [] ↔ foreign? registry r.url path = none) ∧
              ((foreign? registry r.url path).isSome = true → BeginsAnew default edits))
          (statements m.program) m.rows ∧
        ((∀ edits ∈ m.rows, edits = []) → m.exporter = m.program) ∧
        ∀ path s default, s ∈ statements m.exporter → IsInitializer path s default →
          path.head?.any c.settings.roots.contains = true → Removed m.exporting s m.exported := by
  obtain ⟨file, hfile, hfailure, hurl, -, htext⟩ := h.registry_eq.2.run h.kind
  obtain ⟨m⟩ : Nonempty (Rewriting (c.context (c.preparation file) registry)
      (c.runOf .forModule registry file)) := by
    unfold Conversion.runOf at hfailure ⊢
    exact exists_rewriting hfailure
  refine ⟨file, hfile, htext, m, fun path s default hs => hs.leftInFront, ?_, m.exporter_eq, ?_⟩
  · rw [hurl]
    exact m.rows_for.imp fun s edits hedits path default hs hdirect =>
      hs.collected (c := c.context (c.preparation file) registry) hdirect hedits
  · intro path s default hmem hs hroots
    exact hs.removed hroots hmem m.exports

/-- The first document loses the statement. -/
theorem initializers_removed_first :
    ∃ file, sharing.analysis.file? "a.html" = some file ∧
      ∃ m : Rewriting (sharing.context (sharing.preparation file) sharingRegistry)
          (sharing.runOf .forModule sharingRegistry file),
        ∃ s ∈ statements m.exporter, ∃ default, IsInitializer ["P", "A"] s default ∧
          Removed m.exporting s m.exported := by
  obtain ⟨file, hfile, -, m, -, -, -, hremoved⟩ :=
    initializers_removed (sharing_emitted (.head _) rfl)
  obtain ⟨program, hparse, hfound⟩ : ∃ program, Script.parse "P.A=P.A||\x7b\x7d;P.A.b=1;" =
      .ok program ∧ findsInitializer ["P", "A"] program = true := exists_parse (by decide +kernel)
  have hexporter := m.parse_exporting
  rw [sharing_exporting hfile m.mem_exporting] at hexporter
  obtain rfl : program = m.exporter := Except.ok.inj (hparse.symm.trans hexporter)
  obtain ⟨s, hs, default, hinitializer⟩ := exists_isInitializer hfound
  exact ⟨file, hfile, m, s, hs, default, hinitializer,
    hremoved _ s default hs hinitializer (by decide)⟩

/-- The statement sets the path to something or, failing that, to an empty object. -/
def Defaults (path : List String) (s : Script.Node) : Prop :=
  ∃ value, settingOf? s = some (path, value) ∧ (defaulted? value).isSome = true

instance (path : List String) : DecidablePred (Defaults path) := fun s =>
  decidable_of_iff ((settingOf? s).any fun found =>
      found.1 == path && (defaulted? found.2).isSome) <| by
    rw [Option.any_eq_true]
    constructor
    · rintro ⟨⟨found, value⟩, hsetting, h⟩
      rw [Bool.and_eq_true, beq_iff_eq] at h
      exact ⟨value, h.1 ▸ hsetting, h.2⟩
    · rintro ⟨value, hsetting, hdefault⟩
      exact ⟨(path, value), hsetting, by simp [hdefault]⟩

/-- The second document keeps a statement that gives the namespace an empty object. -/
theorem exists_initializer_survives :
    ∃ r file program emitted,
      Emitted sharing [] ["a.html", "b.html"] ["a.html", "b.html"] sharingRegistry "b.html" r ∧
      sharing.analysis.file? "b.html" = some file ∧
      Script.parse (sharing.preparation file).source = .ok program ∧
      (∃ s ∈ statements program, ∃ default, IsInitializer ["P", "A"] s default) ∧
      sharing.settings.roots = ["P"] ∧
      (∀ name ∈ pathPrefixes ["P", "A"], sharing.settings.isRedirected name = false) ∧
      Script.parse r.text = .ok emitted ∧ ∃ s ∈ statements emitted, Defaults ["P", "A"] s := by
  have hsource : ((sharing.analysis.file? "b.html").map fun file =>
      (sharing.preparation file).source) = some "P.A=P.A||\x7b\x7d" := by
    decide +kernel
  obtain ⟨file, hfile, hsource⟩ := Option.map_eq_some_iff.1 hsource
  obtain ⟨program, hparse, hfound⟩ : ∃ program, Script.parse "P.A=P.A||\x7b\x7d" = .ok program ∧
      findsInitializer ["P", "A"] program = true := exists_parse (by decide +kernel)
  obtain ⟨emitted, hemitted, hkept⟩ : ∃ emitted, Script.parse sharingSecond.text = .ok emitted ∧
      decide (∃ s ∈ statements emitted, Defaults ["P", "A"] s) = true :=
    exists_parse (by decide +kernel)
  exact ⟨sharingSecond, file, program, emitted, sharing_emitted (.tail _ (.head _)) rfl, hfile,
    hsource ▸ hparse, exists_isInitializer hfound, by decide, by decide, hemitted,
    of_decide_eq_true hkept⟩

end HtmlModules
