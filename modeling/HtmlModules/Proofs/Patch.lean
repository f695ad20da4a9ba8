import HtmlModules.Proofs.Feature
import HtmlModules.Proofs.Nesting
import HtmlModules.Proofs.Reporting

/-!
# Documents converted in place

Every edit of a document replaces an element of it or the start tag of a script with a source, so the
edits are nested (`nested_of_patches`) and can be applied: `convertPage_spliced`. What is kept of
them is what no other edit holds. Only elements that are put into the page by scripts hold others;
`replacement_kept_iff` tells from them which modules and imports are live in the result.
-/

namespace HtmlModules

open Text Markup

/-! ## Ranges of edits -/

section Ranges

variable {contents : String} {d : Document} {p q : PlacedElement} {e f : Edit}

/-- Where the range ends that the edit of an element replaces: a script with a source gets another
start tag, other elements are replaced as a whole. -/
def patchStop (e : Element) : Nat := if IsLinkedScript e then e.innerStart else e.stop

/-- The edit replaces what the edit of this element replaces. -/
def Patches (p : PlacedElement) (e : Edit) : Prop :=
  e.start = p.element.start ∧ e.stop = patchStop p.element

/-- An element that is no linked script is patched up to its end. -/
theorem patchStop_of_not_linked {e : Element} (h : ¬IsLinkedScript e) : patchStop e = e.stop :=
  if_neg h

/-- An element that holds others is replaced as a whole. -/
theorem patchStop_of_holds {e g : Element} (h : e.Holds g) : patchStop e = e.stop :=
  patchStop_of_not_linked fun hlinked => h.1 (by simp [hlinked.1, leafTags, rawTags])

theorem Markup.Element.Inside.patchStop_bounds {e : Element} {a b : Nat} (h : e.Inside a b) :
    e.start < patchStop e ∧ patchStop e ≤ e.stop := by
  obtain ⟨-, hstart, hinner, hstop, -⟩ := h
  unfold patchStop
  split_ifs <;> omega

/-- If an edit begins in the range of another one that does not begin later, then both are edits of
one element, or the element of the other one holds its element. -/
theorem eq_or_holds (h : Document.parse contents = .ok d) (hp : p ∈ d.elements)
    (hq : q ∈ d.elements) (he : Patches p e) (hf : Patches q f) (hle : f.start ≤ e.start)
    (hlt : e.start < f.stop) : p = q ∨ q.element.Holds p.element := by
  have hpin := Document.inside_elements h p hp
  have hqin := Document.inside_elements h q hq
  have hpstop := hpin.patchStop_bounds
  have hqstop := hqin.patchStop_bounds
  have hpinner := hpin.start_lt
  rw [he.1, hf.1] at hle
  rw [he.1, hf.2] at hlt
  rcases Document.precedes_or_precedes h hp hq with heq | hpq | hqp
  · exact Or.inl heq
  · rcases hpq with hbehind | ⟨-, hbetween, -⟩ <;> omega
  · exact hqp.elim (fun hbehind => by omega) Or.inr

/-- The edit of an element that is held by another lies in the range of the edit of that. -/
theorem within_of_holds (h : Document.parse contents = .ok d) (hp : p ∈ d.elements)
    (hq : q ∈ d.elements) (he : Patches p e) (hf : Patches q f) (hholds : q.element.Holds p.element) :
    f.start < e.start ∧ e.stop ≤ f.stop := by
  have hpstop := (Document.inside_elements h p hp).patchStop_bounds
  have hqin := Document.inside_elements h q hq
  have hinner := hqin.start_lt
  have hstop := hqin.innerStop_le
  obtain ⟨-, hfrom, hto⟩ := id hholds
  rw [he.1, he.2, hf.1, hf.2, patchStop_of_holds hholds]
  omega

/-- Edits of one range are edits of one element. -/
theorem eq_of_sameRange (h : Document.parse contents = .ok d) (hp : p ∈ d.elements)
    (hq : q ∈ d.elements) (he : Patches p e) (hf : Patches q f) (hsame : e.SameRange f) : p = q := by
  have hbounds := (Document.inside_elements h p hp).patchStop_bounds
  have hlt : e.start < f.stop := by
    rw [← hsame.2, he.1, he.2]
    omega
  refine (eq_or_holds h hp hq he hf (Int.le_of_eq hsame.1.symm) hlt).resolve_right fun hholds => ?_
  have hstrict := (within_of_holds h hp hq he hf hholds).1
  have hstart := hsame.1
  omega

/-- Edits of elements are nested. -/
theorem nested_of_patches {edits : List Edit} (h : Document.parse contents = .ok d)
    (hedits : ∀ e ∈ edits, ∃ p ∈ d.elements, Patches p e) : Nested contents.length edits where
  fits e he := by
    obtain ⟨p, hp, hstart, hstop⟩ := hedits e he
    have hin := Document.inside_elements h p hp
    have hbounds := hin.patchStop_bounds
    have hlimit := hin.stop_le
    rw [Edit.fits_iff, hstart, hstop]
    omega
  proper e he := by
    obtain ⟨p, hp, hstart, hstop⟩ := hedits e he
    have hbounds := (Document.inside_elements h p hp).patchStop_bounds
    rw [hstart, hstop]
    omega
  nests e he f hf hle hlt := by
    obtain ⟨p, hp, hpe⟩ := hedits e he
    obtain ⟨q, hq, hqf⟩ := hedits f hf
    rcases eq_or_holds h hp hq hpe hqf hle hlt with rfl | hholds
    · exact Or.inl ⟨hpe.1.trans hqf.1.symm, hpe.2.trans hqf.2.symm⟩
    · exact Or.inr (within_of_holds h hp hq hpe hqf hholds)

end Ranges

/-! ## Styles -/

/-- The elements of a file that are put into the page by scripts. -/
def recreatedElements (file : SourceFile) : List (Element × Bool) :=
  match file.markup with
  | none => []
  | some d =>
    if file.styles.all (·.includes.isEmpty) then []
    else match d.find? "head", d.find? "body" with
      | some head, some body => styledElements head body
      | _, _ => []

/-- The edits for shared styles are those of the elements that are re-created. -/
theorem sharedStyleEdits_ok {file : SourceFile} {d : Document} {ds es : Diagnostics}
    {edits : List Edit} (hmarkup : file.markup = some d)
    (h : sharedStyleEdits file ds = .ok edits es) :
    edits = styleEdits d (recreatedElements file) := by
  unfold sharedStyleEdits at h
  unfold recreatedElements
  rw [hmarkup] at h ⊢
  dsimp only at h ⊢
  split_ifs at h ⊢
  · cases h
    rfl
  · cases hhead : d.find? "head" with
    | none =>
      rw [hhead] at h
      obtain ⟨_, _, -, hreturn⟩ := Reporting.bind_eq_ok.1 h
      cases hreturn
      rfl
    | some head =>
      cases hbody : d.find? "body" with
      | none =>
        rw [hhead, hbody] at h
        obtain ⟨_, _, -, hreturn⟩ := Reporting.bind_eq_ok.1 h
        cases hreturn
        rfl
      | some body =>
        rw [hhead, hbody] at h
        cases h
        rfl

/-- The element that is found for a tag is an element of the document. -/
theorem Markup.Document.mem_elements_of_find? {d : Document} {tag : String} {p : PlacedElement}
    (h : d.find? tag = some p) : p ∈ d.elements :=
  List.mem_of_find?_eq_some h

/-- What is put into the page is replaced as a whole. -/
theorem mem_recreatedElements {file : SourceFile} {d : Document} (hmarkup : file.markup = some d)
    {x : Element × Bool} (hx : x ∈ recreatedElements file) :
    ∃ p ∈ d.elements, p.element = x.1 ∧ ¬IsLinkedScript x.1 := by
  unfold recreatedElements at hx
  rw [hmarkup] at hx
  dsimp only at hx
  split_ifs at hx
  · cases hx
  · split at hx
    · next head body hhead hbody =>
      rcases List.mem_append.1 hx with hx | hx
      · obtain ⟨p, hp, rfl⟩ := List.mem_map.1 hx
        obtain ⟨hbelow, hstyle⟩ := List.mem_filter.1 hp
        refine ⟨p, Document.mem_elements_of_below (Document.mem_elements_of_find? hhead) hbelow, rfl,
          fun hlinked => ?_⟩
        have htag : p.element.tag = "script" := hlinked.1
        simp [isOutermostStyle, htag] at hstyle
      · obtain ⟨p, hp, rfl⟩ := List.mem_map.1 hx
        obtain ⟨hchild, htag⟩ := List.mem_filter.1 hp
        exact ⟨p, Document.mem_elements_of_child (Document.mem_elements_of_find? hbody) hchild, rfl,
          fun hlinked => bne_iff_ne.1 htag hlinked.1⟩
    · cases hx

/-- For every element that is put into the page there is an edit. -/
theorem exists_mem_styleEdits (d : Document) {elements : List (Element × Bool)} {x : Element × Bool}
    (hx : x ∈ elements) : ∃ e ∈ styleEdits d elements, e.start = x.1.start ∧ e.stop = x.1.stop := by
  obtain ⟨n, hn, rfl⟩ := List.mem_iff_getElem.1 hx
  exact ⟨_, List.mem_mapIdx.2 ⟨n, hn, rfl⟩, rfl, rfl⟩

/-- An edit for a style has the range of an element that is re-created. -/
theorem mem_styleEdits {d : Document} {elements : List (Element × Bool)} {e : Edit}
    (he : e ∈ styleEdits d elements) :
    ∃ x ∈ elements, e.start = x.1.start ∧ e.stop = x.1.stop := by
  obtain ⟨n, hn, rfl⟩ := List.mem_mapIdx.1 he
  exact ⟨elements[n], List.getElem_mem hn, rfl, rfl⟩

/-! ## The edits of a document -/

/-- The module that stands for an inline script. -/
def scriptReplacement (s : InlineScript) (code : String) : Edit :=
  .replace s.place.element.start s.place.element.stop (moduleScript code)

/-- The module script that stands for the import of a document. -/
def importReplacement (l : Link) (specifier : String) : Edit :=
  .replace l.element.start l.element.stop (moduleLink specifier)

/-- The start tag that stands for that of a link to a script. -/
def sourceReplacement (l : Link) (specifier : String) : Edit :=
  .replace l.element.start l.element.innerStart (Conversion.scriptTag l.element specifier)

section Page

variable {c : Conversion} {registry : Registry} {p : Preparation} {r : SourceRoot}
  {url contents : String} {file : SourceFile} {d : Document} {ds ds₁ ds₂ : Diagnostics}
  {edits : List Edit}

/-- The edit is the module of an inline script that may become one. -/
def IsScriptEdit (c : Conversion) (p : Preparation) (registry : Registry) (e : Edit) : Prop :=
  ∃ s ∈ candidateScripts p.file, ∃ code,
    (c.inlineModule? p registry s).outcome [] = .ok (some code) ∧ scriptReplacement s code = e

/-- The edit is the module script of an import of a document that is not left out. -/
def IsImportEdit (c : Conversion) (p : Preparation) (e : Edit) : Prop :=
  ∃ l ∈ p.file.linksOf .document, c.settings.isExcluded l.url = false ∧ ∃ specifier,
    (c.linkSpecifier p l).outcome [] = .ok specifier ∧ importReplacement l specifier = e

/-- The edit is the start tag of a link to a script. -/
def IsSourceEdit (c : Conversion) (p : Preparation) (e : Edit) : Prop :=
  ∃ l ∈ p.file.linksOf .script, ∃ specifier,
    (c.linkSpecifier p l).outcome [] = .ok specifier ∧ sourceReplacement l specifier = e

/-- An inline script is replaced by its module if it has one. -/
theorem inlineEdit?_outcome {s : InlineScript} {e : Edit} :
    (c.inlineEdit? p registry s).outcome [] = .ok (some e) ↔ ∃ code,
      (c.inlineModule? p registry s).outcome [] = .ok (some code) ∧ scriptReplacement s code = e := by
  rw [Conversion.inlineEdit?, Reporting.outcome_bind_pure]
  refine ⟨?_, fun ⟨code, hcode, he⟩ => ⟨some code, hcode, congrArg some he⟩⟩
  rintro ⟨found, hfound, he⟩
  obtain ⟨code, rfl, hedit⟩ := Option.map_eq_some_iff.1 he
  exact ⟨code, hfound, hedit⟩

/-- The edits of a document: those of its scripts, its imports, its links to scripts and its styles,
in this order. -/
theorem pageEdits_ok (hmarkup : p.file.markup = some d)
    (h : c.pageEdits p registry ds = .ok edits ds₁) :
    ∃ scripts imports sources,
      edits = scripts ++ imports ++ sources ++ styleEdits d (recreatedElements p.file) ∧
      (∀ e, e ∈ scripts ↔ IsScriptEdit c p registry e) ∧ (∀ e, e ∈ imports ↔ IsImportEdit c p e) ∧
      ∀ e, e ∈ sources ↔ IsSourceEdit c p e := by
  obtain ⟨scripts, _, hscripts, h⟩ := Reporting.bind_eq_ok.1 h
  obtain ⟨imports, _, himports, h⟩ := Reporting.bind_eq_ok.1 h
  obtain ⟨sources, _, hsources, h⟩ := Reporting.bind_eq_ok.1 h
  obtain ⟨styles, _, hstyles, h⟩ := Reporting.bind_eq_ok.1 h
  cases h
  refine ⟨scripts, imports, sources, by rw [sharedStyleEdits_ok hmarkup hstyles], fun e => ?_,
    fun e => ?_, fun e => ?_⟩
  · rw [Reporting.mem_of_filterMapM_eq_ok (Predictable.inlineEdit? c p registry) hscripts]
    simp only [inlineEdit?_outcome]
    rfl
  · rw [Reporting.mem_of_mapM_eq_ok (Predictable.importEdit c p) himports]
    simp only [List.mem_filter, Conversion.importEdit, Reporting.outcome_bind_pure, and_assoc,
      Bool.not_eq_true']
    rfl
  · rw [Reporting.mem_of_mapM_eq_ok (Predictable.scriptEdit c p) hsources]
    simp only [Conversion.scriptEdit, Reporting.outcome_bind_pure]
    rfl

/-! ### Ranges -/

/-- A script that may become a module stands at a script element without a source. -/
theorem ReadFrom.candidate (h : ReadFrom r url d file) {s : InlineScript}
    (hs : s ∈ candidateScripts file) (code : String) :
    s.place ∈ d.elements ∧ r.feature? url d s.place = some (.script s) ∧
      s.place.element.tag = "script" ∧ Patches s.place (scriptReplacement s code) := by
  have hall : s ∈ file.allScripts :=
    (List.mem_append.1 hs).elim (fun hs => List.mem_of_mem_filter (List.mem_of_mem_filter hs))
      fun hs => List.mem_of_mem_filter (List.mem_of_mem_filter hs)
  obtain ⟨hplace, hfeature⟩ := h.script hall
  obtain ⟨-, htag, hlinked⟩ := SourceRoot.feature?_eq_script hfeature
  exact ⟨hplace, hfeature, htag, rfl, by rw [patchStop_of_not_linked hlinked]; rfl⟩

/-- An import of a document stands at a link element. -/
theorem ReadFrom.import (h : ReadFrom r url d file) {l : Link} (hl : l ∈ file.linksOf .document)
    (specifier : String) :
    ∃ q ∈ d.elements, r.feature? url d q = some (.link l) ∧ q.element = l.element ∧
      q.element.tag = "link" ∧ Patches q (importReplacement l specifier) := by
  obtain ⟨hl, hkind⟩ := List.mem_filter.1 hl
  obtain ⟨q, hq, hfeature⟩ := h.link hl
  obtain ⟨helement, hplace⟩ := SourceRoot.feature?_eq_link hfeature
  obtain ⟨-, htag⟩ := hplace.resolve_right fun hscript => by simp [hscript.1] at hkind
  have hlinked : ¬IsLinkedScript q.element := by simp [IsLinkedScript, htag]
  refine ⟨q, hq, hfeature, helement.symm, htag, ?_, ?_⟩
  · rw [← helement]
    rfl
  · rw [patchStop_of_not_linked hlinked, ← helement]
    rfl

/-- A link to a script stands at a script element with a source. -/
theorem ReadFrom.source (h : ReadFrom r url d file) {l : Link} (hl : l ∈ file.linksOf .script)
    (specifier : String) :
    ∃ q ∈ d.elements, q.element.tag = "script" ∧ Patches q (sourceReplacement l specifier) := by
  obtain ⟨hl, hkind⟩ := List.mem_filter.1 hl
  obtain ⟨q, hq, hfeature⟩ := h.link hl
  obtain ⟨helement, hplace⟩ := SourceRoot.feature?_eq_link hfeature
  obtain ⟨-, hlinked⟩ := hplace.resolve_left fun hdocument => by simp [hdocument.1] at hkind
  refine ⟨q, hq, hlinked.1, ?_, ?_⟩
  · rw [← helement]
    rfl
  · rw [patchStop, if_pos hlinked, ← helement]
    rfl

/-- An edit for a style patches an element of the document. -/
theorem patches_of_mem_styleEdits (h : ReadFrom r url d file) {e : Edit}
    (he : e ∈ styleEdits d (recreatedElements file)) :
    ∃ q ∈ d.elements, Patches q e ∧ ∃ x ∈ recreatedElements file, x.1 = q.element := by
  obtain ⟨x, hx, hstart, hstop⟩ := mem_styleEdits he
  obtain ⟨q, hq, helement, hlinked⟩ := mem_recreatedElements h.markup hx
  exact ⟨q, hq, ⟨by rw [hstart, helement], by rw [hstop, helement, patchStop_of_not_linked hlinked]⟩,
    x, hx, helement.symm⟩

/-- Every edit of a document is one of an element: of a leaf, or of an element that is put into the
page. -/
theorem exists_patches (h : ReadFrom r url d p.file)
    (hedits : c.pageEdits p registry ds = .ok edits ds₁) {e : Edit} (he : e ∈ edits) :
    ∃ q ∈ d.elements, Patches q e ∧
      (q.element.tag ∈ leafTags ∨ ∃ x ∈ recreatedElements p.file, x.1 = q.element) := by
  obtain ⟨scripts, imports, sources, rfl, hscripts, himports, hsources⟩ :=
    pageEdits_ok h.markup hedits
  simp only [List.mem_append, hscripts, himports, hsources] at he
  rcases he with ((⟨s, hs, code, -, rfl⟩ | ⟨l, hl, -, specifier, -, rfl⟩) |
    ⟨l, hl, specifier, -, rfl⟩) | he
  · obtain ⟨hq, -, htag, hpatches⟩ := h.candidate hs code
    exact ⟨s.place, hq, hpatches, Or.inl (htag ▸ by decide)⟩
  · obtain ⟨q, hq, -, -, htag, hpatches⟩ := h.import hl specifier
    exact ⟨q, hq, hpatches, Or.inl (htag ▸ by decide)⟩
  · obtain ⟨q, hq, htag, hpatches⟩ := h.source hl specifier
    exact ⟨q, hq, hpatches, Or.inl (htag ▸ by decide)⟩
  · obtain ⟨q, hq, hpatches, hx⟩ := patches_of_mem_styleEdits h he
    exact ⟨q, hq, hpatches, Or.inr hx⟩

/-- The edits of a document are nested. -/
theorem nested_pageEdits (hparse : Document.parse contents = .ok d) (h : ReadFrom r url d p.file)
    (hedits : c.pageEdits p registry ds = .ok edits ds₁) : Nested contents.length edits :=
  nested_of_patches hparse fun _ he =>
    let ⟨q, hq, hpatches, _⟩ := exists_patches h hedits he
    ⟨q, hq, hpatches⟩

/-! ### Kept edits -/

/-- The edits of a document that is converted in place are nested, and the result is its text with
those replaced that are kept. -/
theorem convertPage_kept (hparse : Document.parse contents = .ok d) (hread : ReadFrom r url d file)
    (hprepare : c.prepare file ds = .ok p ds₁)
    (hedits : c.pageEdits p registry ds₁ = .ok edits ds₂) :
    Nested contents.length edits ∧ ∃ kept converted ds₃,
      keepEdits contents.length true none (orderEdits edits) = .ok kept ∧
      c.convertPage registry file ds = .ok converted ds₃ ∧
      Spliced 0 contents.toList kept converted.text.toList := by
  obtain rfl := Conversion.prepare_ok hprepare
  have hnested := nested_pageEdits hparse hread hedits
  obtain ⟨kept, hkept, -⟩ := exists_keepEdits hnested
  obtain ⟨text, happly, hspliced⟩ := applyEdits_spliced hnested hkept
  obtain ⟨ds₃, hlookUp⟩ := Conversion.lookUp_url_of_prepare hprepare ds₂
  have hcontents : file.contents = contents :=
    hread.contents.trans (Document.parse_ok hparse).1
  refine ⟨hnested, kept, ⟨file.url, c.resolver.convertUrl file.url, file.url, .document, text, []⟩,
    ds₃, hkept, ?_, hspliced⟩
  rw [Conversion.convertPage, Reporting.bind_of_ok hprepare, Reporting.bind_of_ok hedits,
    hcontents, happly]
  dsimp only
  rw [Reporting.bind_of_ok hlookUp]
  rfl

/-- The edit of an element is outermost if and only if no element that is put into the page holds its
element. -/
theorem isOutermost_iff (hparse : Document.parse contents = .ok d) (hread : ReadFrom r url d p.file)
    (hedits : c.pageEdits p registry ds = .ok edits ds₁) {e : Edit} {q : PlacedElement}
    (hq : q ∈ d.elements) (he : Patches q e) :
    e.IsOutermost edits ↔ ∀ x ∈ recreatedElements p.file, ¬x.1.Holds q.element := by
  refine ⟨fun hout x hx hholds => ?_, fun hfree f hf hwithin => ?_⟩
  · obtain ⟨scripts, imports, sources, rfl, -⟩ := pageEdits_ok hread.markup hedits
    obtain ⟨q', hq', helement, hlinked⟩ := mem_recreatedElements hread.markup hx
    obtain ⟨f, hf, hstart, hstop⟩ := exists_mem_styleEdits d hx
    have hpatches : Patches q' f :=
      ⟨by rw [hstart, helement], by rw [hstop, helement, patchStop_of_not_linked hlinked]⟩
    obtain ⟨hlt, hle⟩ := within_of_holds hparse hq hq' he hpatches (helement ▸ hholds)
    have hstarts := (hout f (List.mem_append_right _ hf) ⟨Int.le_of_lt hlt, hle⟩).1
    omega
  · obtain ⟨q', hq', hpatches, hkind⟩ := exists_patches hread hedits hf
    have hbounds := (Document.inside_elements hparse q hq).patchStop_bounds
    have hlt : e.start < f.stop := by
      refine Int.lt_of_lt_of_le ?_ hwithin.2
      rw [he.1, he.2]
      omega
    have hholds : ¬q'.element.Holds q.element := fun hholds => by
      rcases hkind with hleaf | ⟨x, hx, helement⟩
      · exact hholds.1 hleaf
      · exact hfree x hx (helement ▸ hholds)
    obtain rfl := (eq_or_holds hparse hq hq' he hpatches hwithin.1 hlt).resolve_right hholds
    exact ⟨he.1.trans hpatches.1.symm, he.2.trans hpatches.2.symm⟩

/-- The edit of a script is the first one of its range. -/
theorem find?_scriptReplacement (hparse : Document.parse contents = .ok d)
    (hread : ReadFrom r url d p.file) (hedits : c.pageEdits p registry ds = .ok edits ds₁)
    {s : InlineScript} (hs : s ∈ candidateScripts p.file) {code : String}
    (hcode : (c.inlineModule? p registry s).outcome [] = .ok (some code)) :
    edits.find? (fun f => (scriptReplacement s code).SameRange f) =
      some (scriptReplacement s code) := by
  obtain ⟨scripts, imports, sources, rfl, hscripts, -⟩ := pageEdits_ok hread.markup hedits
  obtain ⟨hplace, hfeature, -, hpatches⟩ := hread.candidate hs code
  have hfind : scripts.find? (fun f => (scriptReplacement s code).SameRange f) =
      some (scriptReplacement s code) := by
    refine find?_eq_some_of_unique ((hscripts _).2 ⟨s, hs, code, hcode, rfl⟩)
      (by simp [Edit.SameRange]) fun f hf hsame => ?_
    obtain ⟨s', hs', code', hcode', rfl⟩ := (hscripts f).1 hf
    obtain ⟨hplace', hfeature', -, hpatches'⟩ := hread.candidate hs' code'
    rw [← eq_of_sameRange hparse hplace hplace' hpatches hpatches' (of_decide_eq_true hsame),
      hfeature] at hfeature'
    cases hfeature'
    rw [hcode] at hcode'
    cases hcode'
    rfl
  rw [List.append_assoc, List.append_assoc, List.find?_append, hfind]
  rfl

/-- The edit of an import is the first one of its range. -/
theorem find?_importReplacement (hparse : Document.parse contents = .ok d)
    (hread : ReadFrom r url d p.file) (hedits : c.pageEdits p registry ds = .ok edits ds₁)
    {l : Link} (hl : l ∈ p.file.linksOf .document) (hkept : c.settings.isExcluded l.url = false)
    {specifier : String} (hspecifier : (c.linkSpecifier p l).outcome [] = .ok specifier) :
    edits.find? (fun f => (importReplacement l specifier).SameRange f) =
      some (importReplacement l specifier) := by
  obtain ⟨scripts, imports, sources, rfl, hscripts, himports, -⟩ := pageEdits_ok hread.markup hedits
  obtain ⟨q, hq, hfeature, -, htag, hpatches⟩ := hread.import hl specifier
  have hnone : scripts.find? (fun f => (importReplacement l specifier).SameRange f) = none := by
    refine List.find?_eq_none.2 fun f hf hsame => ?_
    obtain ⟨s, hs, code, -, rfl⟩ := (hscripts f).1 hf
    obtain ⟨hplace, -, htag', hpatches'⟩ := hread.candidate hs code
    obtain rfl := eq_of_sameRange hparse hq hplace hpatches hpatches' (of_decide_eq_true hsame)
    simp [htag] at htag'
  have hfind : imports.find? (fun f => (importReplacement l specifier).SameRange f) =
      some (importReplacement l specifier) := by
    refine find?_eq_some_of_unique ((himports _).2 ⟨l, hl, hkept, specifier, hspecifier, rfl⟩)
      (by simp [Edit.SameRange]) fun f hf hsame => ?_
    obtain ⟨l', hl', -, specifier', hspecifier', rfl⟩ := (himports f).1 hf
    obtain ⟨q', hq', hfeature', -, -, hpatches'⟩ := hread.import hl' specifier'
    obtain rfl := eq_of_sameRange hparse hq hq' hpatches hpatches' (of_decide_eq_true hsame)
    rw [hfeature] at hfeature'
    cases hfeature'
    rw [hspecifier] at hspecifier'
    cases hspecifier'
    rfl
  rw [List.append_assoc, List.append_assoc, List.find?_append, hnone, List.find?_append, hfind]
  rfl

/-- The edit of a script is kept if and only if no element that is put into the page holds the
script. -/
theorem scriptReplacement_mem_kept (hparse : Document.parse contents = .ok d)
    (hread : ReadFrom r url d p.file) (hedits : c.pageEdits p registry ds = .ok edits ds₁)
    {kept : List Edit} (hkept : keepEdits contents.length true none (orderEdits edits) = .ok kept)
    {s : InlineScript} (hs : s ∈ candidateScripts p.file) {code : String}
    (hcode : (c.inlineModule? p registry s).outcome [] = .ok (some code)) :
    scriptReplacement s code ∈ kept ↔
      ∀ x ∈ recreatedElements p.file, ¬x.1.Holds s.place.element := by
  obtain ⟨hplace, -, -, hpatches⟩ := hread.candidate hs code
  rw [mem_kept_iff (nested_pageEdits hparse hread hedits) hkept,
    and_iff_right (find?_scriptReplacement hparse hread hedits hs hcode),
    isOutermost_iff hparse hread hedits hplace hpatches]

/-- The edit of an import is kept if and only if no element that is put into the page holds the
link. -/
theorem importReplacement_mem_kept (hparse : Document.parse contents = .ok d)
    (hread : ReadFrom r url d p.file) (hedits : c.pageEdits p registry ds = .ok edits ds₁)
    {kept : List Edit} (hkept : keepEdits contents.length true none (orderEdits edits) = .ok kept)
    {l : Link} (hl : l ∈ p.file.linksOf .document) (hincluded : c.settings.isExcluded l.url = false)
    {specifier : String} (hspecifier : (c.linkSpecifier p l).outcome [] = .ok specifier) :
    importReplacement l specifier ∈ kept ↔
      ∀ x ∈ recreatedElements p.file, ¬x.1.Holds l.element := by
  obtain ⟨q, hq, -, helement, -, hpatches⟩ := hread.import hl specifier
  rw [mem_kept_iff (nested_pageEdits hparse hread hedits) hkept,
    and_iff_right (find?_importReplacement hparse hread hedits hl hincluded hspecifier),
    isOutermost_iff hparse hread hedits hq hpatches, helement]

/-- Imports of a document have their edits if there are edits at all. -/
theorem exists_linkSpecifier (hedits : c.pageEdits p registry ds = .ok edits ds₁) {l : Link}
    (hl : l ∈ p.file.linksOf .document) (hincluded : c.settings.isExcluded l.url = false) :
    ∃ specifier, (c.linkSpecifier p l).outcome [] = .ok specifier := by
  obtain ⟨scripts, _, -, h⟩ := Reporting.bind_eq_ok.1 hedits
  obtain ⟨imports, _, himports, -⟩ := Reporting.bind_eq_ok.1 h
  obtain ⟨e, he⟩ := Reporting.exists_of_mapM_eq_ok (Predictable.importEdit c p) himports
    (List.mem_filter.2 ⟨hl, by simp [hincluded]⟩)
  obtain ⟨specifier, hspecifier, -⟩ := Reporting.outcome_bind_pure.1 he
  exact ⟨specifier, hspecifier⟩

/-! ### A page with shared styles -/

/-- The file that was read, an empty one if reading failed. -/
def fileOf : Except Failure (SourceFile × Diagnostics) → SourceFile
  | .ok (file, _) => file
  | .error _ => { url := "", contents := "" }

theorem exists_eq_fileOf : ∀ {result : Except Failure (SourceFile × Diagnostics)},
    result.toBool = true → ∃ warnings, result = .ok (fileOf result, warnings)
  | .ok (_, warnings), _ => ⟨warnings, rfl⟩

/-- A page that takes in a shared style; a script and an import stand in an element of its body. -/
def pageText : String :=
  "<head></head><body><style include=s></style><div><script>P.a()</script>" ++
    "<link rel=import href=b.html></div></body>"

/-- The page and a document that exports what its script refers to. -/
def pageRoot : SourceRoot where
  files := [("index.html", .ok pageText), ("b.html", .ok "<script>P.a=1</script>")]

/-- The conversion of the page. -/
def pageConversion : Conversion where
  analysis := (["index.html", "b.html"].foldlM pageRoot.load {}).toOption.getD {}
  resolver := { layout := .package {}, dependencies := [] }
  settings := { namespaces := ["P"], modules := ["b.html"] }

/-- What the scan announces. -/
def pageRegistry : Registry := [⟨"P.a", "./b.js", "a"⟩]

/-- The page as it is read. -/
@[irreducible] def page : SourceFile := fileOf (pageRoot.readDocument "index.html" pageText)

/-- What evaluation tells about the page: it can be read, its edits can be made, its script becomes a
module, and its script and its link stand in an element that is put into the page. -/
theorem page_evaluated :
    (pageRoot.readDocument "index.html" pageText).toBool = true ∧
      ((pageConversion.prepare page >>= fun p =>
        pageConversion.pageEdits p pageRegistry).outcome []).toBool = true ∧
      (page.scripts.any fun s => s.isClassic &&
        ((pageConversion.inlineModule? (pageConversion.preparation page) pageRegistry
          s).outcome [] == .ok (some "import { a } from './b.js';\n\na()\n")) &&
        (recreatedElements page).any fun x => x.1.Holds s.place.element) = true ∧
      ((page.linksOf .document).any fun l => !pageConversion.settings.isExcluded l.url &&
        (recreatedElements page).any fun x => x.1.Holds l.element) = true := by
  decide +kernel

theorem page_read : ∃ warnings,
    pageRoot.readDocument "index.html" pageText = .ok (page, warnings) := by
  unfold page
  exact exists_eq_fileOf page_evaluated.1

/-- The page has edits, which are computed without a failure. -/
theorem page_edits : ∃ ds₁ edits ds₂,
    pageConversion.prepare page [] = .ok (pageConversion.preparation page) ds₁ ∧
      pageConversion.pageEdits (pageConversion.preparation page) pageRegistry ds₁ =
        .ok edits ds₂ := by
  obtain ⟨edits, ds₂, h⟩ := Reporting.exists_of_toBool_outcome page_evaluated.2.1
  obtain ⟨p, ds₁, hprepare, hedits⟩ := Reporting.bind_eq_ok.1 h
  obtain rfl := Conversion.prepare_ok hprepare
  exact ⟨ds₁, edits, ds₂, hprepare, hedits⟩

theorem page_script : ∃ s ∈ page.scripts, s.isClassic = true ∧
    (∃ code, (pageConversion.inlineModule? (pageConversion.preparation page) pageRegistry
      s).outcome [] = .ok (some code)) ∧
    ∃ x ∈ recreatedElements page, x.1.Holds s.place.element := by
  have h := page_evaluated.2.2.1
  simp only [List.any_eq_true, Bool.and_eq_true, beq_iff_eq, decide_eq_true_eq, and_assoc] at h
  obtain ⟨s, hs, hclassic, hcode, hholds⟩ := h
  exact ⟨s, hs, hclassic, ⟨_, hcode⟩, hholds⟩

theorem page_import : ∃ l ∈ page.linksOf .document,
    pageConversion.settings.isExcluded l.url = false ∧
      ∃ x ∈ recreatedElements page, x.1.Holds l.element := by
  have h := page_evaluated.2.2.2
  simpa only [List.any_eq_true, Bool.and_eq_true, decide_eq_true_eq, Bool.not_eq_true'] using h

/-! ### Main results -/

variable {warnings : Diagnostics}

/-- If the edits of a document that is converted in place can be made, then they can be applied. The
result is the text with the ranges of the outermost edits replaced, each by the first edit of that
range. -/
theorem convertPage_spliced (hread : r.readDocument url contents = .ok (file, warnings))
    (hprepare : c.prepare file ds = .ok p ds₁)
    (hedits : c.pageEdits p registry ds₁ = .ok edits ds₂) :
    ∃ kept converted ds₃, c.convertPage registry file ds = .ok converted ds₃ ∧
      kept.Pairwise (fun e f => e.stop ≤ f.start) ∧
      (∀ e, e ∈ kept ↔ edits.find? (fun f => e.SameRange f) = some e ∧ e.IsOutermost edits) ∧
      Spliced 0 contents.toList kept converted.text.toList := by
  obtain ⟨d, hparse, hread⟩ := SourceRoot.readDocument_ok hread
  obtain ⟨hnested, kept, converted, ds₃, hkept, hconverted, hspliced⟩ :=
    convertPage_kept hparse hread hprepare hedits
  obtain ⟨kept', hkept', hapart, hmem⟩ := exists_keepEdits hnested
  obtain rfl : kept' = kept := Except.ok.inj (hkept'.symm.trans hkept)
  exact ⟨kept', converted, ds₃, hconverted, hapart, hmem, hspliced⟩

/-- The edits of the page can be applied. -/
theorem convertPage_spliced_page : ∃ warnings ds₁ edits ds₂,
    pageRoot.readDocument "index.html" pageText = .ok (page, warnings) ∧
      pageConversion.prepare page [] = .ok (pageConversion.preparation page) ds₁ ∧
      pageConversion.pageEdits (pageConversion.preparation page) pageRegistry ds₁ =
        .ok edits ds₂ ∧
      ∃ kept converted ds₃, pageConversion.convertPage pageRegistry page [] = .ok converted ds₃ ∧
        kept.Pairwise (fun e f => e.stop ≤ f.start) ∧
        (∀ e, e ∈ kept ↔ edits.find? (fun f => e.SameRange f) = some e ∧ e.IsOutermost edits) ∧
        Spliced 0 pageText.toList kept converted.text.toList := by
  obtain ⟨warnings, hread⟩ := page_read
  obtain ⟨ds₁, edits, ds₂, hprepare, hedits⟩ := page_edits
  exact ⟨warnings, ds₁, edits, ds₂, hread, hprepare, hedits,
    convertPage_spliced hread hprepare hedits⟩

/-- What an inline script or the import of a document is replaced by is live in the result if and
only if no element that is put into the page holds it. -/
theorem replacement_kept_iff (hread : r.readDocument url contents = .ok (file, warnings))
    (hprepare : c.prepare file ds = .ok p ds₁)
    (hedits : c.pageEdits p registry ds₁ = .ok edits ds₂) :
    ∃ kept converted ds₃, keepEdits contents.length true none (orderEdits edits) = .ok kept ∧
      c.convertPage registry file ds = .ok converted ds₃ ∧
      Spliced 0 contents.toList kept converted.text.toList ∧
      (∀ s ∈ candidateScripts file, ∀ code,
        (c.inlineModule? p registry s).outcome [] = .ok (some code) →
          (scriptReplacement s code ∈ kept ↔
            ∀ x ∈ recreatedElements file, ¬x.1.Holds s.place.element)) ∧
      ∀ l ∈ file.linksOf .document, c.settings.isExcluded l.url = false →
        ∃ specifier, (c.linkSpecifier p l).outcome [] = .ok specifier ∧
          (importReplacement l specifier ∈ kept ↔
            ∀ x ∈ recreatedElements file, ¬x.1.Holds l.element) := by
  obtain ⟨d, hparse, hread⟩ := SourceRoot.readDocument_ok hread
  obtain ⟨-, kept, converted, ds₃, hkept, hconverted, hspliced⟩ :=
    convertPage_kept hparse hread hprepare hedits
  obtain rfl := Conversion.prepare_ok hprepare
  refine ⟨kept, converted, ds₃, hkept, hconverted, hspliced, fun s hs code hcode => ?_,
    fun l hl hincluded => ?_⟩
  · exact scriptReplacement_mem_kept hparse hread hedits hkept hs hcode
  · obtain ⟨specifier, hspecifier⟩ := exists_linkSpecifier hedits hl hincluded
    exact ⟨specifier, hspecifier,
      importReplacement_mem_kept hparse hread hedits hkept hl hincluded hspecifier⟩

/-- On the page, what stands in the element of the body is lost. -/
theorem replacement_kept_iff_page : ∃ warnings ds₁ edits ds₂,
    pageRoot.readDocument "index.html" pageText = .ok (page, warnings) ∧
      pageConversion.prepare page [] = .ok (pageConversion.preparation page) ds₁ ∧
      pageConversion.pageEdits (pageConversion.preparation page) pageRegistry ds₁ =
        .ok edits ds₂ ∧
      ∃ kept converted ds₃, keepEdits pageText.length true none (orderEdits edits) = .ok kept ∧
        pageConversion.convertPage pageRegistry page [] = .ok converted ds₃ ∧
        Spliced 0 pageText.toList kept converted.text.toList ∧
        (∀ s ∈ candidateScripts page, ∀ code,
          (pageConversion.inlineModule? (pageConversion.preparation page) pageRegistry
            s).outcome [] = .ok (some code) →
            (scriptReplacement s code ∈ kept ↔
              ∀ x ∈ recreatedElements page, ¬x.1.Holds s.place.element)) ∧
        ∀ l ∈ page.linksOf .document, pageConversion.settings.isExcluded l.url = false →
          ∃ specifier, (pageConversion.linkSpecifier (pageConversion.preparation page)
            l).outcome [] = .ok specifier ∧
            (importReplacement l specifier ∈ kept ↔
              ∀ x ∈ recreatedElements page, ¬x.1.Holds l.element) := by
  obtain ⟨warnings, hread⟩ := page_read
  obtain ⟨ds₁, edits, ds₂, hprepare, hedits⟩ := page_edits
  exact ⟨warnings, ds₁, edits, ds₂, hread, hprepare, hedits,
    replacement_kept_iff hread hprepare hedits⟩

/-- The module of an inline script and the module script of an import are made and then dropped. -/
theorem exists_replacement_dropped : ∃ warnings ds₁ edits ds₂ kept,
    pageRoot.readDocument "index.html" pageText = .ok (page, warnings) ∧
      pageConversion.prepare page [] = .ok (pageConversion.preparation page) ds₁ ∧
      pageConversion.pageEdits (pageConversion.preparation page) pageRegistry ds₁ =
        .ok edits ds₂ ∧
      keepEdits pageText.length true none (orderEdits edits) = .ok kept ∧
      (∃ s ∈ page.scripts, s.isClassic = true ∧ ∃ code,
        (pageConversion.inlineModule? (pageConversion.preparation page) pageRegistry
          s).outcome [] = .ok (some code) ∧ scriptReplacement s code ∉ kept) ∧
      ∃ l ∈ page.linksOf .document, pageConversion.settings.isExcluded l.url = false ∧
        ∃ specifier, (pageConversion.linkSpecifier (pageConversion.preparation page)
          l).outcome [] = .ok specifier ∧ importReplacement l specifier ∉ kept := by
  obtain ⟨warnings, hread⟩ := page_read
  obtain ⟨ds₁, edits, ds₂, hprepare, hedits⟩ := page_edits
  obtain ⟨s, hs, hclassic, ⟨code, hcode⟩, x, hx, hholds⟩ := page_script
  obtain ⟨l, hl, hincluded, y, hy, hholds'⟩ := page_import
  obtain ⟨d, hparse, hfrom⟩ := SourceRoot.readDocument_ok hread
  obtain ⟨-, kept, -, -, hkept, -⟩ := convertPage_kept hparse hfrom hprepare hedits
  obtain ⟨specifier, hspecifier⟩ := exists_linkSpecifier hedits hl hincluded
  have hcandidate : s ∈ candidateScripts page :=
    List.mem_append_left _ (List.mem_filter.2 ⟨hs, hclassic⟩)
  refine ⟨warnings, ds₁, edits, ds₂, kept, hread, hprepare, hedits, hkept,
    ⟨s, hs, hclassic, code, hcode, fun hmem => ?_⟩, l, hl, hincluded, specifier, hspecifier,
    fun hmem => ?_⟩
  · exact (scriptReplacement_mem_kept hparse hfrom hedits hkept hcandidate hcode).1 hmem x hx hholds
  · exact (importReplacement_mem_kept hparse hfrom hedits hkept hl hincluded hspecifier).1 hmem y hy
      hholds'

end Page

end HtmlModules
