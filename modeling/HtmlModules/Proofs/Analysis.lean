import HtmlModules.Analysis.Basic
import HtmlModules.Proofs.Diagnostic
import HtmlModules.Proofs.Failing
import HtmlModules.Proofs.Table

/-!
# What an analysis loads

An analysis loads the urls it is asked for and those that the files it finds link to (`Reaches`). It
succeeds if and only if all files at these urls can be read (`exists_analyze_iff`). A file is found
under its own url (`keyed_analyze`).
-/

namespace HtmlModules

namespace Analysis

/-- Every file is found under its own url. -/
def Keyed (a : Analysis) : Prop := ∀ url file, a.file? url = some file → file.url = url

/-- An analysis that has read nothing is keyed by url. -/
theorem keyed_empty : Keyed {} :=
  fun _ _ h => by cases h

/-- A file is found at a url if the url was read and had a text. -/
theorem file?_eq_some {a : Analysis} {url : String} {file : SourceFile} :
    a.file? url = some file ↔ Table.get? a.loaded url = some (some file) := by
  unfold file?
  cases Table.get? a.loaded url <;> simp

/-- The url of a file that is found is one of the urls of the analysis. -/
theorem Keyed.mem_urls {a : Analysis} (h : a.Keyed) {url : String} {file : SourceFile}
    (hfile : a.file? url = some file) : url ∈ a.urls := by
  have hmem := Table.mem_of_get? (file?_eq_some.1 hfile)
  refine List.mem_map.2 ⟨file, List.mem_filterMap.2 ⟨some file, ?_, rfl⟩, h url file hfile⟩
  exact List.mem_map.2 ⟨(url, some file), hmem, rfl⟩

/-- Adding a file keeps what was loaded before. -/
theorem get?_loaded_add (a : Analysis) (url : String) (file : Option SourceFile)
    (warnings : Diagnostics) (other : String) :
    Table.get? (a.add url file warnings).loaded other =
      (Table.get? a.loaded other).or (if other = url then some file else none) := by
  rw [add, Table.get?_append, Table.get?_cons, Table.get?_nil]

/-- Adding a file at its own url keeps the files keyed. -/
theorem Keyed.add {a : Analysis} (h : a.Keyed) {url : String} {file : Option SourceFile}
    {warnings : Diagnostics} (hfile : ∀ f ∈ file, f.url = url) :
    (a.add url file warnings).Keyed := by
  intro other f hf
  rw [file?_eq_some, get?_loaded_add] at hf
  rcases Option.or_eq_some_iff.1 hf with hf | ⟨-, hf⟩
  · exact h other f (file?_eq_some.2 hf)
  · split_ifs at hf with hurl
    rw [hurl]
    exact hfile f (Option.some.inj hf)

end Analysis

namespace SourceRoot

variable {r : SourceRoot} {a b : Analysis} {url : String}

/-- A file that is read has the url that was asked for. -/
theorem readFile_url {text : Except Failure String} {file : SourceFile} {warnings : Diagnostics}
    (h : r.readFile url text = .ok (file, warnings)) : file.url = url := by
  obtain ⟨contents, -, h⟩ := Failing.bind_eq_ok.1 h
  split_ifs at h
  · obtain ⟨d, -, h⟩ := Failing.bind_eq_ok.1 h
    obtain ⟨codes, -, h⟩ := Failing.bind_eq_ok.1 h
    obtain ⟨rfl, -⟩ := Prod.mk.inj (Except.ok.inj h)
    rfl
  · obtain ⟨rfl, -⟩ := Prod.mk.inj (Except.ok.inj h)
    rfl

/-- What every step of an analysis keeps holds at its end. -/
theorem keeps_follow {P : Analysis → Prop} (hmissing : ∀ a url, P a → P (a.add url none []))
    (hfile : ∀ a url text file warnings, r.readFile url text = .ok (file, warnings) → P a →
      P (a.add url (some file) warnings)) {queue : List String} :
    P a → r.follow a queue = .ok b → P b := by
  fun_induction follow r a queue with
  | case1 a => exact fun ha h => Except.ok.inj h ▸ ha
  | case2 a url queue hloaded ih => exact ih
  | case3 a url queue hloaded hnone ih => exact fun ha => ih (hmissing a url ha)
  | case4 a url queue hloaded text hf e hread => exact fun _ h => by cases h
  | case5 a url queue hloaded text hf file warnings hread added hlt ih =>
    exact fun ha => ih (hfile a url text file warnings hread ha)

/-- An analysis is keyed by url. -/
theorem keyed_analyze {urls : List String} (h : r.analyze urls = .ok b) : b.Keyed := by
  refine keeps_follow (fun a url ha => ha.add (by simp)) ?_ Analysis.keyed_empty h
  intro a url text file warnings hread ha
  refine ha.add fun f hf => ?_
  rw [← Option.some.inj hf]
  exact readFile_url hread

/-- The warnings about a file are not taken for a failure. -/
theorem wellCoded_readFile {text : Except Failure String} {file : SourceFile}
    {warnings : Diagnostics} (h : r.readFile url text = .ok (file, warnings)) :
    ∀ w ∈ warnings, w.WellCoded := by
  obtain ⟨contents, -, h⟩ := Failing.bind_eq_ok.1 h
  split_ifs at h
  · obtain ⟨d, -, h⟩ := Failing.bind_eq_ok.1 h
    obtain ⟨codes, -, h⟩ := Failing.bind_eq_ok.1 h
    obtain ⟨-, rfl⟩ := Prod.mk.inj (Except.ok.inj h)
    intro w hw
    obtain ⟨declared, hdeclared, hw⟩ := List.mem_flatMap.1 hw
    obtain ⟨code, -, rfl⟩ := List.mem_map.1 hdeclared
    unfold declaredElements at hw
    split at hw
    · rw [List.mem_singleton.1 hw]
      exact Diagnostic.wellCoded_of_code rfl (by decide)
    · cases hw
  · obtain ⟨-, rfl⟩ := Prod.mk.inj (Except.ok.inj h)
    simp

/-- An analysis reports no failure. -/
theorem wellCoded_analyze {urls : List String} (h : r.analyze urls = .ok b) :
    ∀ d ∈ b.diagnostics, d.WellCoded := by
  refine keeps_follow (P := fun a => ∀ d ∈ a.diagnostics, d.WellCoded) (fun _ _ ha => ha) ?_
    (by simp) h
  exact fun a url text file warnings hread ha =>
    Diagnostics.forall_mem_reportAll ha (wellCoded_readFile hread)

/-! ## Following links -/

/-- The url holds this file. -/
def Holds (r : SourceRoot) (url : String) (file : SourceFile) : Prop :=
  ∃ text warnings, Table.get? r.files url = some text ∧ r.readFile url text = .ok (file, warnings)

/-- The file at the url, if there is one, can be read. -/
def Readable (r : SourceRoot) (url : String) : Prop :=
  ∀ text ∈ Table.get? r.files url, ∃ file warnings, r.readFile url text = .ok (file, warnings)

/-- An analysis of the urls comes to this one. -/
inductive Reaches (r : SourceRoot) (urls : List String) : String → Prop
  | start {url : String} : url ∈ urls → Reaches r urls url
  | link {url : String} {file : SourceFile} {l : Link} :
    Reaches r urls url → r.Holds url file → l ∈ file.links → Reaches r urls l.url

/-- The url has been loaded or is about to be followed. -/
def Known (a : Analysis) (queue : List String) (url : String) : Prop :=
  Table.has a.loaded url = true ∨ url ∈ queue

/-- What was asked for is known. What was loaded can be read, and its links are known. -/
structure Explored (r : SourceRoot) (urls : List String) (a : Analysis) (queue : List String) :
    Prop where
  asked : ∀ url ∈ urls, Known a queue url
  readable : ∀ url, Table.has a.loaded url = true → r.Readable url
  closed : ∀ url file, Table.has a.loaded url = true → r.Holds url file →
    ∀ l ∈ file.links, Known a queue l.url

theorem Holds.eq {file file' : SourceFile} (h : r.Holds url file) (h' : r.Holds url file') :
    file = file' := by
  obtain ⟨text, warnings, htext, hread⟩ := h
  obtain ⟨text', warnings', htext', hread'⟩ := h'
  obtain rfl := Option.some.inj (htext.symm.trans htext')
  exact (Prod.mk.inj (Except.ok.inj (hread.symm.trans hread'))).1

section

variable {urls queue queue' : List String} {file : Option SourceFile} {warnings : Diagnostics}
  {other : String}

/-- After a file is added, what has been read is what had been read before, and its url. -/
theorem has_loaded_add_iff : Table.has (a.add url file warnings).loaded other = true ↔
    Table.has a.loaded other = true ∨ other = url := by
  unfold Table.has
  rw [Analysis.get?_loaded_add]
  split_ifs with h <;> simp [h]

/-- To pass over a url that has been read makes no url unknown. -/
theorem Known.skip (h : Known a (url :: queue) other) (hloaded : Table.has a.loaded url = true) :
    Known a queue other := by
  rcases h with hdone | hnext
  · exact Or.inl hdone
  · rcases List.mem_cons.1 hnext with rfl | hnext
    · exact Or.inl hloaded
    · exact Or.inr hnext

/-- To read the first url of the queue makes no url unknown, if nothing leaves the queue. -/
theorem Known.add (h : Known a (url :: queue) other) (hqueue : queue ⊆ queue') :
    Known (a.add url file warnings) queue' other := by
  rcases h with hdone | hnext
  · exact Or.inl (has_loaded_add hdone)
  · rcases List.mem_cons.1 hnext with rfl | hnext
    · exact Or.inl has_loaded_add_self
    · exact Or.inr (hqueue hnext)

namespace Explored

/-- At the start everything that is known is waiting in the queue. -/
theorem start (urls : List String) : r.Explored urls {} urls where
  asked _ h := Or.inr h
  readable _ h := by cases h
  closed _ _ h := by cases h

/-- A url that has been loaded need not be followed. -/
theorem skip (h : r.Explored urls a (url :: queue)) (hloaded : Table.has a.loaded url = true) :
    r.Explored urls a queue where
  asked other hother := (h.asked other hother).skip hloaded
  readable := h.readable
  closed other f hother hf l hl := (h.closed other f hother hf l hl).skip hloaded

/-- A url is loaded, and its links are put into the queue. -/
theorem add (h : r.Explored urls a (url :: queue)) (hqueue : queue ⊆ queue')
    (hreadable : r.Readable url)
    (hlinks : ∀ f, r.Holds url f → ∀ l ∈ f.links, Known (a.add url file warnings) queue' l.url) :
    r.Explored urls (a.add url file warnings) queue' where
  asked other hother := (h.asked other hother).add hqueue
  readable other hother := by
    rcases has_loaded_add_iff.1 hother with hold | rfl
    · exact h.readable other hold
    · exact hreadable
  closed other f hother hf l hl := by
    rcases has_loaded_add_iff.1 hother with hold | rfl
    · exact (h.closed other f hold hf l hl).add hqueue
    · exact hlinks f hf l hl

end Explored

/-- The new links of a file are those that have not been read. -/
theorem mem_newLinks {file : SourceFile} : other ∈ newLinks a file ↔
    (∃ l ∈ file.links, l.url = other) ∧ Table.has a.loaded other = false := by
  simp [newLinks]

/-- Following a queue to its end leaves nothing that is known but not loaded. -/
theorem explored_follow :
    r.Explored urls a queue → r.follow a queue = .ok b → r.Explored urls b [] := by
  fun_induction follow r a queue with
  | case1 a => exact fun h hb => Except.ok.inj hb ▸ h
  | case2 a url queue hloaded ih => exact fun h hb => ih (h.skip hloaded) hb
  | case3 a url queue hloaded hmissing ih =>
    refine fun h hb => ih (h.add (List.Subset.refl _) ?_ ?_) hb
    · intro text htext
      rw [hmissing] at htext
      cases htext
    · rintro f ⟨text, _, htext, -⟩
      rw [hmissing] at htext
      cases htext
  | case4 a url queue hloaded text hf e hread => exact fun _ hb => by cases hb
  | case5 a url queue hloaded text hf file warnings hread added hlt ih =>
    have hholds : r.Holds url file := ⟨text, warnings, hf, hread⟩
    refine fun h hb => ih (h.add (List.subset_append_left _ _) ?_ fun f hf l hl => ?_) hb
    · intro text' htext'
      obtain rfl := Option.some.inj (hf.symm.trans htext')
      exact ⟨file, warnings, hread⟩
    · obtain rfl := hholds.eq hf
      cases hdone : Table.has added.loaded l.url with
      | true => exact Or.inl hdone
      | false => exact Or.inr (List.mem_append_right _ (mem_newLinks.2 ⟨⟨l, hl, rfl⟩, hdone⟩))

/-- If all that the queue leads to can be read, then it can be followed to its end. -/
theorem exists_follow (hreadable : ∀ url, r.Reaches urls url → r.Readable url) :
    (∀ url ∈ queue, r.Reaches urls url) → ∃ b, r.follow a queue = .ok b := by
  fun_induction follow r a queue with
  | case1 a => exact fun _ => ⟨a, rfl⟩
  | case2 a url queue hloaded ih => exact fun h => ih (List.forall_mem_cons.1 h).2
  | case3 a url queue hloaded hmissing ih => exact fun h => ih (List.forall_mem_cons.1 h).2
  | case4 a url queue hloaded text hf e hread =>
    intro h
    obtain ⟨file, warnings, hok⟩ := hreadable url (List.forall_mem_cons.1 h).1 text hf
    rw [hread] at hok
    cases hok
  | case5 a url queue hloaded text hf file warnings hread added hlt ih =>
    intro h
    obtain ⟨hurl, hqueue⟩ := List.forall_mem_cons.1 h
    refine ih (List.forall_mem_append.2 ⟨hqueue, fun other hother => ?_⟩)
    obtain ⟨⟨l, hl, rfl⟩, -⟩ := mem_newLinks.1 hother
    exact hurl.link ⟨text, warnings, hf, hread⟩ hl

/-- An analysis succeeds if and only if it can read all that it comes to. -/
theorem exists_analyze_iff :
    (∃ b, r.analyze urls = .ok b) ↔ ∀ url, r.Reaches urls url → r.Readable url := by
  refine ⟨?_, fun h => exists_follow h fun _ => .start⟩
  rintro ⟨b, hb⟩ url hurl
  have h := explored_follow (.start urls) hb
  have hloaded : ∀ {url}, Known b [] url → Table.has b.loaded url = true :=
    fun hknown => hknown.resolve_right List.not_mem_nil
  refine h.readable url (hloaded ?_)
  induction hurl with
  | start hmem => exact h.asked _ hmem
  | link _ hfile hl ih => exact h.closed _ _ (hloaded ih) hfile _ hl

/-- Without links a queue is loaded as it stands. -/
theorem follow_eq_foldlM_load (hlinks : ∀ url file, r.Holds url file → file.links = []) :
    r.follow a queue = queue.foldlM r.load a := by
  fun_induction follow r a queue with
  | case1 a => rfl
  | case2 a url queue hloaded ih =>
    rw [List.foldlM_cons, load, if_pos hloaded]
    exact ih
  | case3 a url queue hloaded hmissing ih =>
    rw [List.foldlM_cons, load, if_neg hloaded, hmissing]
    exact ih
  | case4 a url queue hloaded text hf e hread =>
    rw [List.foldlM_cons, load, if_neg hloaded, hf]
    dsimp only
    rw [hread]
    rfl
  | case5 a url queue hloaded text hf file warnings hread added hlt ih =>
    have hnone : newLinks added file = [] := by
      rw [newLinks, hlinks url file ⟨text, warnings, hf, hread⟩]
      rfl
    rw [hnone, List.append_nil] at ih ⊢
    rw [List.foldlM_cons, load, if_neg hloaded, hf]
    dsimp only
    rw [hread]
    exact ih

/-- If no file has links, then an analysis loads what it is asked for. -/
theorem analyze_eq_foldlM_load
    (hlinks : ∀ f ∈ r.files, ∀ read ∈ (r.readFile f.1 f.2).toOption, read.1.links = []) :
    r.analyze urls = urls.foldlM r.load {} := by
  refine follow_eq_foldlM_load fun url file hfile => ?_
  obtain ⟨text, warnings, htext, hread⟩ := hfile
  refine hlinks (url, text) (Table.mem_of_get? htext) (file, warnings) ?_
  dsimp only
  rw [hread]
  rfl

end

end SourceRoot

end HtmlModules
