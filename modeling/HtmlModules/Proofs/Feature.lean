import HtmlModules.Analysis.Feature
import HtmlModules.Proofs.Failing
import HtmlModules.Proofs.Listing
import HtmlModules.Proofs.Tree

/-!
# Features stand at elements

Every script and every link of a file that was read is the feature of one of the elements of its
document (`readDocument_ok`): a script is a script element without a source, a link is a link element
or a script element with a source. They are kept in the order of their elements
(`filterMap_features`).
-/

namespace HtmlModules

open Markup Text

variable {r : SourceRoot} {url contents : String} {file : SourceFile} {warnings : Diagnostics}
  {d : Document} {p : PlacedElement}

/-! ## The feature of an element -/

/-- The element is a script with a source. -/
def IsLinkedScript (e : Element) : Prop := e.tag = "script" ∧ (e.attribute? "src").isSome

instance (e : Element) : Decidable (IsLinkedScript e) := inferInstanceAs (Decidable (_ ∧ _))

namespace SourceRoot

/-- The link of an import is at its element, and leads to a document. -/
theorem importLink?_eq_some {e : Element} {l : Link} (h : r.importLink? url e = some l) :
    l.element = e ∧ l.kind = .document := by
  unfold importLink? at h
  dsimp only at h
  split_ifs at h
  obtain ⟨href, -, h⟩ := Option.bind_eq_some_iff.1 h
  obtain ⟨target, -, h⟩ := Option.bind_eq_some_iff.1 h
  obtain rfl := Option.some.inj h
  exact ⟨rfl, rfl⟩

/-- The link of a script is at its element, and leads to a script. -/
theorem scriptLink?_eq_some {e : Element} {href : String} {l : Link}
    (h : r.scriptLink? url href e = some l) : l.element = e ∧ l.kind = .script := by
  obtain ⟨target, -, rfl⟩ := Option.map_eq_some_iff.1 h
  exact ⟨rfl, rfl⟩

/-- A link is a link element that imports a document or a script element with a source. -/
theorem feature?_eq_link {l : Link} (h : r.feature? url d p = some (.link l)) :
    l.element = p.element ∧ (l.kind = .document ∧ p.element.tag = "link" ∨
      l.kind = .script ∧ IsLinkedScript p.element) := by
  unfold feature? at h
  dsimp only at h
  split at h
  · next htag =>
    split_ifs at h
    obtain ⟨l', hl, hlink⟩ := Option.map_eq_some_iff.1 h
    obtain rfl := Feature.link.inj hlink
    obtain ⟨helement, hkind⟩ := importLink?_eq_some hl
    exact ⟨helement, Or.inl ⟨hkind, htag⟩⟩
  · next htag =>
    split at h
    · cases h
    · next href hsrc =>
      split_ifs at h
      obtain ⟨l', hl, hlink⟩ := Option.map_eq_some_iff.1 h
      obtain rfl := Feature.link.inj hlink
      obtain ⟨helement, hkind⟩ := scriptLink?_eq_some hl
      exact ⟨helement, Or.inr ⟨hkind, htag, by simp [hsrc]⟩⟩
  · split_ifs at h
    cases h
  · cases h

/-- A script is a script element without a source. -/
theorem feature?_eq_script {s : InlineScript} (h : r.feature? url d p = some (.script s)) :
    s.place = p ∧ p.element.tag = "script" ∧ ¬IsLinkedScript p.element := by
  unfold feature? at h
  dsimp only at h
  split at h
  · split_ifs at h
    obtain ⟨l, -, hlink⟩ := Option.map_eq_some_iff.1 h
    cases hlink
  · next htag =>
    split at h
    · next hsrc =>
      obtain rfl := Feature.script.inj (Option.some.inj h)
      exact ⟨rfl, htag, fun hlinked => by simpa [hsrc] using hlinked.2⟩
    · split_ifs at h
      obtain ⟨l, -, hlink⟩ := Option.map_eq_some_iff.1 h
      cases hlink
  · split_ifs at h
    cases h
  · cases h

/-- A feature takes the range of its element. -/
theorem feature?_range {f : Feature} (h : r.feature? url d p = some f) :
    f.start = p.element.start ∧ f.stop = p.element.stop := by
  unfold feature? at h
  dsimp only at h
  split at h
  · split_ifs at h
    obtain ⟨l, hl, rfl⟩ := Option.map_eq_some_iff.1 h
    obtain ⟨helement, -⟩ := importLink?_eq_some hl
    exact ⟨congrArg Element.start helement, congrArg Element.stop helement⟩
  · split at h
    · cases h
      exact ⟨rfl, rfl⟩
    · split_ifs at h
      obtain ⟨l, hl, rfl⟩ := Option.map_eq_some_iff.1 h
      obtain ⟨helement, -⟩ := scriptLink?_eq_some hl
      exact ⟨congrArg Element.start helement, congrArg Element.stop helement⟩
  · split_ifs at h
    cases h
    exact ⟨rfl, rfl⟩
  · cases h

end SourceRoot

/-! ## Reading -/

namespace SourceRoot

/-- Every file under the root has a text. -/
def HasTexts (r : SourceRoot) : Prop :=
  ∀ url, ∀ text ∈ Table.get? r.files url, ∃ contents, text = .ok contents

/-- With a text for every file, the code of every feature is read. -/
theorem HasTexts.exists_codeOf (h : r.HasTexts) (url : String) (f : Feature) :
    ∃ code?, r.codeOf url f = .ok code? := by
  unfold codeOf
  split
  · split_ifs <;> exact ⟨_, rfl⟩
  · split_ifs
    · exact ⟨_, rfl⟩
    · split
      · exact ⟨_, rfl⟩
      · next text htext =>
        obtain ⟨contents, rfl⟩ := h _ text htext
        exact ⟨_, rfl⟩
  · exact ⟨_, rfl⟩

/-- If all files have texts, then every document that can be parsed can be read. -/
theorem HasTexts.exists_readDocument (h : r.HasTexts) (url : String)
    (hparse : Document.parse contents = .ok d) :
    ∃ read, r.readDocument url contents = .ok read := by
  obtain ⟨codes, hcodes⟩ := Failing.exists_filterMapM_eq_ok
    (l := d.elements.filterMap (r.feature? url d)) fun f _ => h.exists_codeOf url f
  exact ⟨_, Failing.bind_eq_ok.2 ⟨d, hparse, Failing.bind_eq_ok.2 ⟨codes, hcodes, rfl⟩⟩⟩

end SourceRoot

/-! ## Files -/

/-- The file was read from a document: every feature of it that is not a declared element stands at
an element. -/
structure ReadFrom (r : SourceRoot) (url : String) (d : Document) (file : SourceFile) : Prop where
  markup : file.markup = some d
  contents : file.contents = d.contents
  placed : ∀ f ∈ file.features,
    (∃ p ∈ d.elements, r.feature? url d p = some f) ∨ ∃ e, f = .element e

/-- A document that is read was parsed, and its file is read from it. -/
theorem SourceRoot.readDocument_ok (h : r.readDocument url contents = .ok (file, warnings)) :
    ∃ d, Document.parse contents = .ok d ∧ ReadFrom r url d file := by
  unfold SourceRoot.readDocument at h
  obtain ⟨d, hparse, h⟩ := Failing.bind_eq_ok.1 h
  obtain ⟨codes, -, h⟩ := Failing.bind_eq_ok.1 h
  obtain ⟨rfl, -⟩ := Prod.mk.inj (Except.ok.inj h)
  refine ⟨d, hparse, rfl, (Document.parse_ok hparse).1.symm, fun f hf => ?_⟩
  rcases List.mem_append.1 ((sortBy_perm _ _).mem_iff.1 hf) with hf | hf
  · exact Or.inl (List.mem_filterMap.1 hf)
  · obtain ⟨e, -, rfl⟩ := List.mem_map.1 hf
    exact Or.inr ⟨e, rfl⟩

/-- The features that are not declared elements stand in the order of their elements. -/
theorem SourceRoot.filterMap_features {β : Type} {g : Feature → Option β}
    (hg : ∀ e, g (.element e) = none) (hparse : Document.parse contents = .ok d)
    (h : r.readDocument url contents = .ok (file, warnings)) :
    file.features.filterMap g = d.elements.filterMap fun p => (r.feature? url d p).bind g := by
  unfold readDocument at h
  obtain ⟨d', hd, h⟩ := Failing.bind_eq_ok.1 h
  obtain rfl := Except.ok.inj (hd.symm.trans hparse)
  obtain ⟨codes, -, h⟩ := Failing.bind_eq_ok.1 h
  obtain ⟨rfl, -⟩ := Prod.mk.inj (Except.ok.inj h)
  have hfound : (d'.elements.filterMap (r.feature? url d')).Pairwise
      fun f f' => decide (f.start ≤ f'.start) = true := by
    refine List.pairwise_filterMap.2 ((Document.pairwise_start_lt hparse).imp ?_)
    intro p q hlt f hf f' hf'
    rw [decide_eq_true_iff, (feature?_range hf).1, (feature?_range hf').1]
    exact Nat.le_of_lt hlt
  generalize (codes.map (declaredElements url d')).flatMap Prod.snd = declared
  have hnone : ∀ f ∈ declared.map Feature.element, g f = none :=
    List.forall_mem_map.2 fun e _ => hg e
  have hdeclared : (declared.map Feature.element).filter (fun f => (g f).isSome) = [] :=
    List.filter_eq_nil_iff.2 fun f hf => by simp [hnone f hf]
  rw [filterMap_sortBy_of_pairwise, List.filterMap_append, List.filterMap_filterMap,
    List.filterMap_eq_nil_iff.2 hnone, List.append_nil]
  rw [List.filter_append, hdeclared, List.append_nil]
  exact hfound.filter _

namespace ReadFrom

/-- An inline script of a file is the feature of an element of its document. -/
theorem script (h : ReadFrom r url d file) {s : InlineScript} (hs : s ∈ file.allScripts) :
    s.place ∈ d.elements ∧ r.feature? url d s.place = some (.script s) := by
  obtain ⟨f, hf, hfeature⟩ := List.mem_filterMap.1 hs
  cases f with
  | script s' =>
    obtain rfl := Option.some.inj hfeature
    rcases h.placed _ hf with ⟨p, hp, hplace⟩ | ⟨e, he⟩
    · obtain ⟨rfl, -⟩ := SourceRoot.feature?_eq_script hplace
      exact ⟨hp, hplace⟩
    · cases he
  | _ => cases hfeature

/-- A link of a file is the feature of an element of its document. -/
theorem link (h : ReadFrom r url d file) {l : Link} (hl : l ∈ file.links) :
    ∃ p ∈ d.elements, r.feature? url d p = some (.link l) := by
  obtain ⟨f, hf, hfeature⟩ := List.mem_filterMap.1 hl
  cases f with
  | link l' =>
    obtain rfl := Option.some.inj hfeature
    rcases h.placed _ hf with hplace | ⟨e, he⟩
    · exact hplace
    · cases he
  | _ => cases hfeature

end ReadFrom

end HtmlModules
