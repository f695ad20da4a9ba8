import HtmlModules.Proofs.Phase

/-!
# What the results hold

Whatever was called on a project, its results are told by what it has converted. Each conversion
whose output is not maintained by hand puts its text at its output path and, if it is a module,
deletes the document it replaces; nothing else is in the results. No two conversions write to the
same path, and no document that is deleted stands at a path that is written, so nothing is lost and
nothing is overwritten (`results_exact`).
-/

namespace HtmlModules

/-- The module of a document is written to the output path of the document. -/
theorem Conversion.outputPath_of_module {c : Conversion} (hkeyed : c.analysis.Keyed)
    {registry : Registry} {url : String} {r : Converted}
    (h : c.conversion? registry url = some r) (hmodule : r.kind = .module) :
    r.outputPath = Resolver.outputPath url := by
  obtain ⟨-, file, hfile, ds, hstep⟩ := conversion?_eq_some h
  obtain ⟨-, ⟨-, hpath⟩ | ⟨hreplaces, -⟩⟩ := convertStep_ok hstep
  · rw [hpath, hkeyed url file hfile]
  · simp [Converted.replaces, hmodule] at hreplaces

namespace Project

variable {c : Conversion} {registry : Registry} {done : List String} {p : Project}

theorem nodup_keys_results (p : Project) : (Table.keys p.results).Nodup :=
  Table.nodup_foldl_set _ _ _ (Table.nodup_foldl_set _ _ _ List.nodup_nil)

/-- What is emitted is what was converted and is not protected. -/
theorem mem_emitted {r : Converted} :
    r ∈ p.emitted ↔ ∃ url, (url, r) ∈ p.converted ∧ isProtected r = false := by
  simp [emitted, Table.values]

theorem results_of_converted_nil (h : p.converted = []) : p.results = [] := by
  rw [results, emitted, h]
  rfl

namespace Converting

/-- Every conversion is that of a document. -/
theorem conversion?_of_mem (h : Converting c registry done p) {url : String} {r : Converted}
    (hr : (url, r) ∈ p.converted) : c.conversion? registry url = some r := by
  have hget := Table.get?_of_mem h.nodup hr
  rw [h.found] at hget
  split_ifs at hget
  exact hget

/-- Conversions of different documents are written to different paths. -/
theorem pairwise_outputPath (h : Converting c registry done p) (hkeyed : c.analysis.Keyed) :
    p.converted.Pairwise fun a b => a.2.outputPath ≠ b.2.outputPath := by
  have hnodup : p.converted.Pairwise fun a b => a.1 ≠ b.1 := List.pairwise_map.1 h.nodup
  refine hnodup.imp_of_mem fun {a b} ha hb hne hpath => hne ?_
  obtain ⟨hext, -, hout⟩ := Conversion.conversion?_paths hkeyed (h.conversion?_of_mem ha)
  obtain ⟨hext', -, hout'⟩ := Conversion.conversion?_paths hkeyed (h.conversion?_of_mem hb)
  exact hout.eq hext hext' (hpath ▸ hout')

/-- Nothing is written to the path of a document that a module replaces: by no other document, and
the module itself has another extension. -/
theorem legacyUrl_ne_outputPath (h : Converting c registry done p) (hkeyed : c.analysis.Keyed)
    {a b : String × Converted} (ha : a ∈ p.converted) (hb : b ∈ p.converted)
    (hmodule : a.2.kind = .module) : a.2.legacyUrl ≠ b.2.outputPath := by
  intro hpath
  have hconversion := h.conversion?_of_mem ha
  have hconversion' := h.conversion?_of_mem hb
  obtain ⟨hext, hlegacy, -⟩ := Conversion.conversion?_paths hkeyed hconversion
  obtain ⟨hext', -, hout⟩ := Conversion.conversion?_paths hkeyed hconversion'
  rw [hlegacy] at hpath
  have hurl : a.1 = b.1 := IsPathOf.eq (Or.inl rfl) hext hext' (hpath ▸ hout)
  have hsame : a.2 = b.2 := Option.some.inj (hconversion.symm.trans (hurl ▸ hconversion'))
  rw [← hsame, Conversion.outputPath_of_module hkeyed hconversion hmodule] at hpath
  exact outputPath_ne hext hext hpath.symm

/-- The results hold the text of each conversion that is put out, and delete what a module replaces.
-/
theorem mem_results_iff (h : Converting c registry done p) (hkeyed : c.analysis.Keyed)
    {path : String} {value : Option String} :
    (path, value) ∈ p.results ↔
      ∃ url r, (url, r) ∈ p.converted ∧ isProtected r = false ∧
        (path = r.outputPath ∧ value = some r.text ∨
          r.kind = .module ∧ path = r.legacyUrl ∧ value = none) := by
  rw [Table.mem_iff_get? p.nodup_keys_results, h.get?_results_eq_some hkeyed]
  constructor
  · rintro (⟨r, hr, rfl, rfl⟩ | ⟨-, r, hr, hreplaces, rfl, rfl⟩)
    · obtain ⟨url, hmem, hprotected⟩ := mem_emitted.1 hr
      exact ⟨url, r, hmem, hprotected, Or.inl ⟨rfl, rfl⟩⟩
    · obtain ⟨url, hmem, hprotected⟩ := mem_emitted.1 hr
      have hmodule : r.kind = .module := by simpa [Converted.replaces] using hreplaces
      exact ⟨url, r, hmem, hprotected, Or.inr ⟨hmodule, rfl, rfl⟩⟩
  · rintro ⟨url, r, hmem, hprotected, ⟨rfl, rfl⟩ | ⟨hmodule, rfl, rfl⟩⟩
    · exact Or.inl ⟨r, mem_emitted.2 ⟨url, hmem, hprotected⟩, rfl, rfl⟩
    · refine Or.inr ⟨fun r' hr' hpath => ?_, r, mem_emitted.2 ⟨url, hmem, hprotected⟩,
        by simp [Converted.replaces, hmodule], rfl, rfl⟩
      obtain ⟨url', hmem', -⟩ := mem_emitted.1 hr'
      exact h.legacyUrl_ne_outputPath hkeyed hmem hmem' hmodule hpath.symm

end Converting

/-- After any calls on a project whose documents are found under their urls, as those of every
analysis are (`SourceRoot.keyed_analyze`), the results hold the text of each conversion that is not
maintained by hand, delete each document that such a module replaces, and hold nothing else; no path
stands twice in them. No two conversions are written to the same path, and none is written to the
path of a document that a module replaces. -/
theorem results_exact {c : Conversion} (hkeyed : c.analysis.Keyed) (ds : Diagnostics)
    (calls : List Call) :
    let p := Calls.after perform (c.project ds) calls
    (∀ path value, (path, value) ∈ p.results ↔
      ∃ url r, (url, r) ∈ p.converted ∧ isProtected r = false ∧
        (path = r.outputPath ∧ value = some r.text ∨
          r.kind = .module ∧ path = r.legacyUrl ∧ value = none)) ∧
    (Table.keys p.results).Nodup ∧
    (p.converted.Pairwise fun a b => a.2.outputPath ≠ b.2.outputPath) ∧
    ∀ a ∈ p.converted, ∀ b ∈ p.converted, a.2.kind = .module → a.2.legacyUrl ≠ b.2.outputPath := by
  intro p
  rcases phase_after c ds calls with ⟨hcollecting, -⟩ | ⟨registry, done, hserving, -⟩
  · have hconverted : p.converted = [] := hcollecting.converted
    simp [hconverted, results_of_converted_nil hconverted, Table.keys]
  · have hconverting : Converting c registry done p := hserving.toConverting
    exact ⟨fun _ _ => hconverting.mem_results_iff hkeyed, p.nodup_keys_results,
      hconverting.pairwise_outputPath hkeyed,
      fun _ ha _ hb => hconverting.legacyUrl_ne_outputPath hkeyed ha hb⟩

/-- The module of the first of two documents is put out, the document is deleted, and no path stands
twice in the results. -/
theorem results_exact_pair :
    let p := Calls.after perform (Conversion.pair.project []) pairCalls
    Conversion.pair.analysis.Keyed ∧ ("a.js", some "export const a = 1;\n") ∈ p.results ∧
      ("a.html", none) ∈ p.results ∧ (Table.keys p.results).Nodup := by
  have hkeyed := SourceRoot.keyed_analyze Conversion.pair_evaluated.1
  obtain ⟨hresults, hnodup, -⟩ := results_exact hkeyed [] pairCalls
  have hconverted := Table.mem_of_get? pairCalls_evaluated.2
  have hprotected : isProtected pairConverted = false := by decide
  exact ⟨hkeyed,
    (hresults _ _).2 ⟨"a.html", pairConverted, hconverted, hprotected, Or.inl ⟨rfl, rfl⟩⟩,
    (hresults _ _).2 ⟨"a.html", pairConverted, hconverted, hprotected, Or.inr ⟨rfl, rfl, rfl⟩⟩,
    hnodup⟩

end Project

end HtmlModules
