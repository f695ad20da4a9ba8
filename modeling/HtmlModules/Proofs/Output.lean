import HtmlModules.Proofs.Analysis
import HtmlModules.Proofs.Project
import HtmlModules.Proofs.Table

/-!
# What a project puts out

What a project has converted are the conversions of single documents against its registry, each
found under the url of its document (`Converting`). A document is written to a path of its own
(`IsPathOf.eq`), so the results can be told from the conversions: a path gets the text of the
document that is written to it, or is deleted if it is a document that a module replaces
(`get?_results_eq_some`).
-/

namespace HtmlModules

open Text

/-! ## Extensions -/

namespace Text

/-- A text ends with another one if that is a suffix of it. -/
theorem endsWith_iff {s p : String} : endsWith s p = true ↔ p.toList <:+ s.toList :=
  List.isSuffixOf_iff_suffix

/-- What precedes the end of a text is the text without that end. -/
theorem beforeEnd?_of_endsWith {s p : String} (h : endsWith s p = true) :
    ∃ stem, s.toList = stem ++ p.toList ∧ beforeEnd? s p = some (String.ofList stem) := by
  obtain ⟨stem, hs⟩ := endsWith_iff.1 h
  refine ⟨stem, hs.symm, ?_⟩
  have hlength : s.length - p.length = stem.length := by
    rw [← String.length_toList, ← String.length_toList, ← hs, List.length_append]
    omega
  rw [beforeEnd?, if_pos h, dropLast, hlength, ← hs, List.take_left]

end Text

/-- The module of a document is written to the path of the document with another extension. -/
theorem outputPath_toList {url : String} (h : endsWith url Url.htmlExtension = true) :
    ∃ stem, url.toList = stem ++ Url.htmlExtension.toList ∧
      (Resolver.outputPath url).toList = stem ++ Url.jsExtension.toList := by
  obtain ⟨stem, hurl, hbefore⟩ := beforeEnd?_of_endsWith h
  refine ⟨stem, hurl, ?_⟩
  rw [Resolver.outputPath, Url.replaceHtmlExtension, hbefore]
  simp

theorem outputPath_injective {url url' : String} (h : endsWith url Url.htmlExtension = true)
    (h' : endsWith url' Url.htmlExtension = true)
    (heq : Resolver.outputPath url = Resolver.outputPath url') : url = url' := by
  obtain ⟨stem, hurl, hpath⟩ := outputPath_toList h
  obtain ⟨stem', hurl', hpath'⟩ := outputPath_toList h'
  rw [heq, hpath'] at hpath
  rw [← String.toList_inj, hurl, hurl', List.append_cancel_right hpath]

/-- No document stands where the module of a document is written to. -/
theorem outputPath_ne {url url' : String} (h : endsWith url Url.htmlExtension = true)
    (h' : endsWith url' Url.htmlExtension = true) : Resolver.outputPath url ≠ url' := by
  intro heq
  obtain ⟨stem, -, hpath⟩ := outputPath_toList h
  obtain ⟨stem', hurl'⟩ := endsWith_iff.1 h'
  have hlist := hpath.symm.trans ((congrArg String.toList heq).trans hurl'.symm)
  have hlast := congrArg List.getLast? hlist
  simp [Url.jsExtension, Url.htmlExtension] at hlast

/-- The path is that of a document or of its module. -/
def IsPathOf (url path : String) : Prop := path = url ∨ path = Resolver.outputPath url

/-- A path belongs to one document. -/
theorem IsPathOf.eq {url url' path : String} (hpath : IsPathOf url path)
    (h : endsWith url Url.htmlExtension = true) (h' : endsWith url' Url.htmlExtension = true)
    (hpath' : IsPathOf url' path) : url = url' := by
  rcases hpath with rfl | rfl <;> rcases hpath' with heq | heq
  · exact heq
  · exact absurd heq.symm (outputPath_ne h' h)
  · exact absurd heq (outputPath_ne h h')
  · exact outputPath_injective h h' heq

/-! ## Conversions of single documents -/

theorem Project.endsWith_of_inScope {p : Project} {url : String} (h : p.inScope url = true) :
    endsWith url Url.htmlExtension = true := by
  simp only [inScope, Bool.and_eq_true] at h
  exact h.1.1

theorem Project.exists_file_of_inScope {p : Project} {url : String} (h : p.inScope url = true) :
    ∃ file, p.conversion.analysis.file? url = some file := by
  simp only [inScope, Bool.and_eq_true] at h
  exact Option.isSome_iff_exists.1 h.2

namespace Conversion

/-- The conversion of a document. -/
def convertStep (c : Conversion) (registry : Registry) (url : String) (file : SourceFile) :
    Reporting Converted :=
  if c.settings.isModule url then c.convertModule registry file else c.convertPage registry file

/-- What a document is converted to, if it takes part and does not fail. -/
def conversion? (c : Conversion) (registry : Registry) (url : String) : Option Converted :=
  if (c.project []).inScope url then
    (c.analysis.file? url).bind fun file => ((c.convertStep registry url file).outcome []).toOption
  else none

/-- A conversion fails in a way that does not depend on the diagnostics before it. -/
theorem predictable_convertStep (c : Conversion) (registry : Registry) (url : String)
    (file : SourceFile) : Predictable (c.convertStep registry url file) := by
  unfold convertStep
  split_ifs
  · exact .convertModule c registry file
  · exact .convertPage c registry file

/-- The result of a conversion does not depend on the diagnostics before it. -/
theorem conversion?_eq_toOption {c : Conversion} {url : String} {file : SourceFile}
    (hscope : (c.project []).inScope url = true) (hfile : c.analysis.file? url = some file)
    (registry : Registry) (ds : Diagnostics) :
    c.conversion? registry url = ((c.convertStep registry url file).outcome ds).toOption := by
  rw [conversion?, if_pos hscope, hfile, Option.bind_some,
    (c.predictable_convertStep registry url file).outcome_eq [] ds]

/-- A document is put out under its url, as a module at its output path and as a document in its
place. -/
theorem convertStep_ok {c : Conversion} {registry : Registry} {url : String} {file : SourceFile}
    {ds ds' : Diagnostics} {r : Converted}
    (h : c.convertStep registry url file ds = .ok r ds') :
    r.legacyUrl = file.url ∧ (r.replaces = true ∧ r.outputPath = Resolver.outputPath file.url ∨
      r.replaces = false ∧ r.outputPath = file.url) := by
  unfold convertStep at h
  split_ifs at h
  · obtain ⟨p, _, hprepare, h⟩ := Reporting.bind_eq_ok.1 h
    obtain ⟨⟨text, findings⟩, _, -, h⟩ := Reporting.bind_eq_ok.1 h
    cases h
    exact ⟨rfl, Or.inl ⟨rfl, rfl⟩⟩
  · obtain ⟨p, _, -, h⟩ := Reporting.bind_eq_ok.1 h
    obtain ⟨edits, _, -, h⟩ := Reporting.bind_eq_ok.1 h
    cases hedits : applyEdits file.contents edits true with
    | error conflict =>
      rw [hedits] at h
      cases h
    | ok text =>
      rw [hedits] at h
      obtain ⟨_, _, -, h⟩ := Reporting.bind_eq_ok.1 h
      cases h
      exact ⟨rfl, Or.inr ⟨rfl, rfl⟩⟩

/-- A document with a result is in scope, and its conversion succeeds. -/
theorem conversion?_eq_some {c : Conversion} {registry : Registry} {url : String} {r : Converted}
    (h : c.conversion? registry url = some r) :
    (c.project []).inScope url = true ∧ ∃ file, c.analysis.file? url = some file ∧
      ∃ ds, c.convertStep registry url file [] = .ok r ds := by
  unfold conversion? at h
  split_ifs at h with hscope
  obtain ⟨file, hfile, h⟩ := Option.bind_eq_some_iff.1 h
  refine ⟨hscope, file, hfile, Reporting.outcome_eq_ok.1 ?_⟩
  cases hstep : (c.convertStep registry url file).outcome [] with
  | ok r' =>
    rw [hstep] at h
    exact congrArg Except.ok (Option.some.inj h)
  | error e =>
    rw [hstep] at h
    cases h

/-- A document that is put out is named by its url and written to one of its paths. -/
theorem conversion?_paths {c : Conversion} (hkeyed : c.analysis.Keyed) {registry : Registry}
    {url : String} {r : Converted} (h : c.conversion? registry url = some r) :
    endsWith url Url.htmlExtension = true ∧ r.legacyUrl = url ∧ IsPathOf url r.outputPath := by
  obtain ⟨hscope, file, hfile, ds, hstep⟩ := conversion?_eq_some h
  obtain ⟨hlegacy, hpath⟩ := convertStep_ok hstep
  rw [hkeyed url file hfile] at hlegacy hpath
  exact ⟨Project.endsWith_of_inScope hscope, hlegacy, hpath.symm.imp And.right And.right⟩

/-- Documents are put out under different paths. -/
theorem conversion?_outputPath_injective {c : Conversion} (hkeyed : c.analysis.Keyed)
    {registry : Registry} {url url' : String} {r r' : Converted}
    (h : c.conversion? registry url = some r) (h' : c.conversion? registry url' = some r')
    (hpath : r.outputPath = r'.outputPath) : r = r' := by
  obtain ⟨hext, -, hout⟩ := conversion?_paths hkeyed h
  obtain ⟨hext', -, hout'⟩ := conversion?_paths hkeyed h'
  rw [hout.eq hext hext' (hpath ▸ hout'), h'] at h
  exact (Option.some.inj h).symm

end Conversion

/-! ## Converting documents -/

namespace Project

section

variable {p : Project} {registry : Registry} {url : String}

/-- What has been converted is not converted again. -/
theorem convert_of_converted (hsealed : p.registry = some registry) {r : Converted}
    (h : Table.get? p.converted url = some r) : p.convert url = .ok (some r, p) := by
  rw [convert, hsealed, h]

/-- A document that does not take part is left alone. -/
theorem convert_of_not_inScope (hsealed : p.registry = some registry)
    (hnew : Table.get? p.converted url = none) (hscope : p.inScope url = false) :
    p.convert url = .ok (none, p) := by
  rw [convert, hsealed, hnew, hscope]
  cases p.conversion.analysis.file? url <;> rfl

/-- Any other document is attempted, and its result is kept. -/
theorem convert_of_inScope (hsealed : p.registry = some registry)
    (hnew : Table.get? p.converted url = none) (hscope : p.inScope url = true)
    {file : SourceFile} (hfile : p.conversion.analysis.file? url = some file) :
    p.convert url =
      match p.attempt "conversion" url (p.conversion.convertStep registry url file) with
      | (some result, q) =>
        .ok (some result, { q with converted := Table.addNew q.converted url result })
      | (none, q) => .ok (none, q) := by
  rw [convert, hsealed, hnew, hfile]
  dsimp only
  rw [if_neg (by simp [hscope])]
  rfl

end

/-- The urls `done` have been converted against a registry. -/
structure Converting (c : Conversion) (registry : Registry) (done : List String) (p : Project) :
    Prop where
  conversion : p.conversion = c
  sealed : p.registry = some registry
  nodup : (Table.keys p.converted).Nodup
  found : ∀ url, Table.get? p.converted url =
    if url ∈ done then c.conversion? registry url else none

namespace Converting

variable {c : Conversion} {registry : Registry} {done : List String} {p : Project}

theorem start (hp : p.conversion = c) (hsealed : p.registry = some registry)
    (hconverted : p.converted = []) : Converting c registry [] p :=
  ⟨hp, hsealed, by rw [hconverted]; exact List.nodup_nil, fun url => by rw [hconverted]; rfl⟩

/-- A url has been converted if its conversion has been added. -/
theorem extend (h : Converting c registry done p) {url : String} {q : Project}
    (hconversion : q.conversion = p.conversion) (hsealed : q.registry = p.registry)
    (hnodup : (Table.keys q.converted).Nodup)
    (hfound : ∀ other, Table.get? q.converted other = (Table.get? p.converted other).or
      (if other = url then c.conversion? registry url else none)) :
    Converting c registry (done ++ [url]) q := by
  refine ⟨hconversion.trans h.conversion, hsealed.trans h.sealed, hnodup, fun other => ?_⟩
  rw [hfound, h.found]
  by_cases hdone : other ∈ done
  · rw [if_pos hdone, if_pos (List.mem_append_left _ hdone)]
    split_ifs with hurl
    · rw [hurl, Option.or_self]
    · rw [Option.or_none]
  · rw [if_neg hdone, Option.none_or]
    split_ifs with hurl hmem hmem
    · rw [hurl]
    · exact absurd (by simp [hurl]) hmem
    · exact absurd hmem (by simp [hdone, hurl])
    · rfl

/-- A conversion that gives nothing changes no results. -/
theorem extend_nothing {url : String} (h : Converting c registry done p)
    (hnone : c.conversion? registry url = none) : Converting c registry (done ++ [url]) p :=
  h.extend rfl rfl h.nodup fun other => by simp [hnone]

/-- The conversion of a url in scope that has no result yet is run, and what it gives is kept. -/
theorem convert_inScope {url : String} (h : Converting c registry done p)
    (hconverted : Table.get? p.converted url = none) (hscope : (c.project []).inScope url = true) :
    ∃ q, p.convert url = .ok (c.conversion? registry url, q) ∧
      Converting c registry (done ++ [url]) q := by
  obtain ⟨file, hfile⟩ := exists_file_of_inScope hscope
  have hconvert := convert_of_inScope h.sealed hconverted
    ((inScope_eq h.conversion url).trans hscope) (h.conversion ▸ hfile)
  rw [h.conversion] at hconvert
  have hconversion := Conversion.conversion?_eq_toOption hscope hfile registry p.diagnostics
  rw [hconvert]
  cases hrun : c.convertStep registry url file p.diagnostics with
  | error e ds =>
    rw [Reporting.outcome, hrun] at hconversion
    rw [attempt_of_error hrun, hconversion]
    exact ⟨_, rfl, extend_nothing ⟨h.conversion, h.sealed, h.nodup, h.found⟩ hconversion⟩
  | ok r ds =>
    rw [Reporting.outcome, hrun] at hconversion
    rw [attempt_of_ok hrun, hconversion]
    refine ⟨_, rfl, h.extend rfl rfl (Table.nodup_addNew h.nodup url r) fun other => ?_⟩
    rw [Table.get?_addNew, hconversion]
    rfl

/-- The conversion of a url is its result, also if it has been converted before. -/
theorem convert (h : Converting c registry done p) (url : String) :
    ∃ q, p.convert url = .ok (c.conversion? registry url, q) ∧
      Converting c registry (done ++ [url]) q := by
  cases hconverted : Table.get? p.converted url with
  | some r =>
    have hr := hconverted
    rw [h.found] at hr
    split_ifs at hr with hdone
    refine ⟨p, hr ▸ convert_of_converted h.sealed hconverted, h.extend rfl rfl h.nodup ?_⟩
    intro other
    by_cases hurl : other = url <;> simp [hurl, hconverted, hr]
  | none =>
    cases hscope : (c.project []).inScope url with
    | false =>
      have hnone : c.conversion? registry url = none := by
        rw [Conversion.conversion?, hscope]
        rfl
      rw [hnone]
      exact ⟨p, convert_of_not_inScope h.sealed hconverted
        ((inScope_eq h.conversion url).trans hscope), h.extend_nothing hnone⟩
    | true => exact h.convert_inScope hconverted hscope

/-- Urls can be converted in any order. -/
theorem foldlM_convert :
    ∀ (urls : List String) {done : List String} {p : Project}, Converting c registry done p →
      ∃ q, urls.foldlM (fun p url => return (← p.convert url).2) p = .ok q ∧
        Converting c registry (done ++ urls) q
  | [], done, p, h => ⟨p, rfl, by simpa using h⟩
  | url :: urls, done, p, h => by
    obtain ⟨q, hq, hdone⟩ := h.convert url
    obtain ⟨q', hq', hall⟩ := hdone.foldlM_convert urls
    refine ⟨q', ?_, by simpa using hall⟩
    rw [List.foldlM_cons, hq]
    exact hq'

/-! ## Results -/

/-- A conversion is put out if and only if it is the conversion of one of the urls and not of a module
that is maintained by hand. -/
theorem mem_emitted_iff (h : Converting c registry done p) {r : Converted} :
    r ∈ p.emitted ↔
      ∃ url ∈ done, c.conversion? registry url = some r ∧ isProtected r = false := by
  simp only [emitted, List.mem_filter, Table.values, List.mem_map, Bool.not_eq_true']
  constructor
  · rintro ⟨⟨⟨url, r'⟩, hmem, rfl⟩, hprotected⟩
    have hget := Table.get?_of_mem h.nodup hmem
    rw [h.found] at hget
    split_ifs at hget with hdone
    exact ⟨url, hdone, hget, hprotected⟩
  · rintro ⟨url, hdone, hr, hprotected⟩
    have hget : Table.get? p.converted url = some r := by rw [h.found, if_pos hdone, hr]
    exact ⟨⟨(url, r), Table.mem_of_get? hget, rfl⟩, hprotected⟩

/-- A path has a value in the results if and only if it is that of a conversion that is put out: its
text, or none if a module replaces the document at that path. -/
theorem get?_results_eq_some (h : Converting c registry done p) (hkeyed : c.analysis.Keyed)
    {path : String} {value : Option String} :
    Table.get? p.results path = some value ↔
      (∃ r ∈ p.emitted, r.outputPath = path ∧ some r.text = value) ∨
        (∀ r ∈ p.emitted, r.outputPath ≠ path) ∧
          ∃ r ∈ p.emitted, r.replaces = true ∧ r.legacyUrl = path ∧ none = value := by
  have houtput : ∀ r ∈ p.emitted, ∀ r' ∈ p.emitted, r.outputPath = r'.outputPath →
      some r.text = some r'.text := by
    intro r hr r' hr' hpath
    obtain ⟨url, -, hurl, -⟩ := h.mem_emitted_iff.1 hr
    obtain ⟨url', -, hurl', -⟩ := h.mem_emitted_iff.1 hr'
    rw [Conversion.conversion?_outputPath_injective hkeyed hurl hurl' hpath]
  rw [results, Table.get?_foldl_set_eq_some houtput,
    Table.get?_foldl_set_eq_some fun _ _ _ _ _ => rfl]
  simp [and_assoc]

/-- The results have nothing at the paths of a document if and only if no conversion of it is put
out. -/
theorem get?_results_eq_none_iff (h : Converting c registry done p) (hkeyed : c.analysis.Keyed)
    {url : String} (hurl : endsWith url Url.htmlExtension = true) :
    (∀ path, IsPathOf url path → Table.get? p.results path = none) ↔
      (url ∈ done → ∀ r, c.conversion? registry url = some r → isProtected r = true) := by
  constructor
  · intro hnone hdone r hr
    by_contra hprotected
    have hemitted : r ∈ p.emitted :=
      h.mem_emitted_iff.2 ⟨url, hdone, hr, Bool.eq_false_iff.2 hprotected⟩
    have hget := (h.get?_results_eq_some hkeyed).2 (Or.inl ⟨r, hemitted, rfl, rfl⟩)
    rw [hnone _ (Conversion.conversion?_paths hkeyed hr).2.2] at hget
    cases hget
  · intro hprotected path hpath
    -- What is put out at the path is a conversion of this document.
    have hno : ∀ r ∈ p.emitted, r.outputPath ≠ path ∧ r.legacyUrl ≠ path := by
      intro r hr
      obtain ⟨url', hdone, hr, hunprotected⟩ := h.mem_emitted_iff.1 hr
      obtain ⟨hext, hlegacy, hout⟩ := Conversion.conversion?_paths hkeyed hr
      have hne : url' ≠ url := fun heq =>
        Bool.eq_false_iff.1 hunprotected (hprotected (heq ▸ hdone) r (heq ▸ hr))
      exact ⟨fun heq => hne ((heq ▸ hout).eq hext hurl hpath),
        fun heq => hne (IsPathOf.eq (Or.inl (heq.symm.trans hlegacy)) hext hurl hpath)⟩
    cases hget : Table.get? p.results path with
    | none => rfl
    | some value =>
      rcases (h.get?_results_eq_some hkeyed).1 hget with
        ⟨r, hr, hout, -⟩ | ⟨-, r, hr, -, hlegacy, -⟩
      · exact absurd hout (hno r hr).1
      · exact absurd hlegacy (hno r hr).2

end Converting

end Project

end HtmlModules
