import HtmlModules.Manifest
import HtmlModules.Proofs.Failing
import HtmlModules.Proofs.Table

/-!
# Manifests

A manifest holds what a scan has learned, without what can be told from the rest: the kind of the
output and the module of the records are read off the url, and the path of the output is not kept
(`ScannedFile.reloaded`). Reading a written manifest gives back what was written, in the order of the
urls, and writing what was read gives the manifest in its normal form (`roundTrip`).
-/

namespace HtmlModules

open Text

/-! ## Order of urls -/

theorem Text.le_of_le_eq_false {a b : String} (h : le a b = false) : le b a = true := by
  simp only [le, decide_eq_false_iff_not, decide_eq_true_eq] at h ⊢
  exact (String.le_total a b).resolve_left h

theorem Text.le_trans {a b c : String} (hab : le a b = true) (hbc : le b c = true) :
    le a c = true := by
  simp only [le, decide_eq_true_eq] at hab hbc ⊢
  exact String.le_trans hab hbc

/-- Members with different names are put in a strict order of their names. -/
theorem pairwise_lt_sortBy {α : Type} {name : α → String} {l : List α} (h : (l.map name).Nodup) :
    (sortBy (fun a b => le (name a) (name b)) l).Pairwise fun a b => name a < name b := by
  have hle : (sortBy (fun a b => le (name a) (name b)) l).Pairwise
      fun a b => le (name a) (name b) = true :=
    @pairwise_sortBy α (fun a b => le (name a) (name b)) (fun _ _ => Text.le_of_le_eq_false)
      (fun _ _ _ => Text.le_trans) l
  have hne : (sortBy (fun a b => le (name a) (name b)) l).Pairwise fun a b => name a ≠ name b :=
    List.pairwise_map.1 (((sortBy_perm _ l).map name).nodup_iff.2 h)
  refine (hle.and hne).imp fun {a b} hab => ?_
  exact Std.lt_of_le_of_ne (of_decide_eq_true hab.1) hab.2

/-- Members are put in order by what they are mapped to. -/
theorem map_sortBy {α β : Type} {f : α → β} (le : α → α → Bool) {le' : β → β → Bool}
    (h : ∀ a b, le' (f a) (f b) = le a b) (l : List α) :
    (sortBy le l).map f = sortBy le' (l.map f) := by
  rw [sortBy_eq_insertionSort, sortBy_eq_insertionSort]
  exact List.map_insertionSort _ _ f l fun a _ b _ => by rw [h]

/-! ## Anchored urls -/

namespace Url

theorem dropAnchor_append (url : String) : dropAnchor ("./" ++ url) = url := by
  have hlength : "./".length = 2 := rfl
  simp [dropAnchor, afterStart?, startsWith, dropFirst, hlength]

theorem append_dropAnchor {url : String} (h : isAnchored url = true) :
    "./" ++ dropAnchor url = url := by
  obtain ⟨rest, hrest⟩ := List.isPrefixOf_iff_prefix.1 h
  obtain rfl : "./" ++ String.ofList rest = url :=
    String.toList_inj.1 (by simp [← hrest])
  rw [dropAnchor_append]

/-- The anchor is no part of the extension. -/
theorem endsWith_append_anchor (url : String) :
    endsWith ("./" ++ url) htmlExtension = endsWith url htmlExtension := by
  have hanchor : "./".toList = ['.', '/'] := rfl
  have hext : htmlExtension.toList = ['.', 'h', 't', 'm', 'l'] := rfl
  rw [Bool.eq_iff_iff, endsWith, endsWith, List.isSuffixOf_iff_suffix, List.isSuffixOf_iff_suffix,
    String.toList_append, hanchor, hext]
  refine ⟨fun h => ?_, fun h => h.trans (List.suffix_append _ _)⟩
  rcases List.suffix_cons_iff.1 h with h | h
  · simp at h
  · rcases List.suffix_cons_iff.1 h with h | h
    · simp at h
    · exact h

end Url

/-! ## Single files -/

namespace ScannedFile

/-- A manifest can hold the url and the exports of the file: its successor lies in the converted
package and is the module of all its records. -/
def Portable : ScannedFile → Prop
  | deleted _ => True
  | kept r => Url.isAnchored r.converted = true ∧ ∀ e ∈ r.exports, e.module = r.converted

instance : DecidablePred Portable
  | deleted _ => inferInstanceAs (Decidable True)
  | kept r => inferInstanceAs (Decidable (_ ∧ ∀ e ∈ r.exports, _))

/-- A manifest can hold the file with the kind of its output, which the extension of its successor
tells. -/
def Storable : ScannedFile → Prop
  | deleted _ => True
  | kept r => (kept r).Portable ∧
      (r.kind = .document ↔ endsWith r.converted Url.htmlExtension = true)

instance : DecidablePred Storable
  | deleted _ => inferInstanceAs (Decidable True)
  | kept r => inferInstanceAs (Decidable (_ ∧ (r.kind = .document ↔ _)))

/-- The file as it is known from a manifest: its output lies where its url says. -/
def reloaded : ScannedFile → ScannedFile
  | deleted url => deleted url
  | kept r => kept { r with outputPath := Url.dropAnchor r.converted }

/-- The file with the kind of output that its url tells. -/
def rekinded : ScannedFile → ScannedFile
  | deleted url => deleted url
  | kept r => kept { r with
      kind := if endsWith r.converted Url.htmlExtension then .document else .module }

@[simp] theorem url_reloaded (f : ScannedFile) : f.reloaded.url = f.url := by
  cases f <;> rfl

@[simp] theorem exports_reloaded (f : ScannedFile) : f.reloaded.exports = f.exports := by
  cases f <;> rfl

@[simp] theorem url_rekinded (f : ScannedFile) : f.rekinded.url = f.url := by
  cases f <;> rfl

@[simp] theorem exports_rekinded (f : ScannedFile) : f.rekinded.exports = f.exports := by
  cases f <;> rfl

theorem Storable.portable {f : ScannedFile} (h : f.Storable) : f.Portable := by
  cases f with
  | deleted url => trivial
  | kept r => exact h.1

theorem Storable.rekinded_eq {f : ScannedFile} (h : f.Storable) : f.rekinded = f := by
  cases f with
  | deleted url => rfl
  | kept r =>
    have hkind : (if endsWith r.converted Url.htmlExtension then OutputKind.document else .module) =
        r.kind := by
      have := h.2
      cases hk : r.kind <;> simp_all
    rw [rekinded, hkind]

end ScannedFile

namespace Manifest

/-- The records that were written are read back, in order. -/
theorem mapM_exportOfJson? (records : List ExportRecord) :
    (records.map fun e => Json.object [("id", .string e.path), ("name", .string e.name)]).mapM
      exportOfJson? = some (records.map fun e => (e.path, e.name)) := by
  rw [List.mapM_map]
  exact List.mapM_pure

/-- The entry of a file is read back as the file, with the kind that its url tells. -/
theorem entryOfJson_toJson {f : ScannedFile} (h : f.Portable) :
    entryOfJson "" "./" f.url f.toJson = .ok f.rekinded.reloaded := by
  cases f with
  | deleted url =>
    rw [entryOfJson]
    simp [ScannedFile.toJson, ScannedFile.url, ScannedFile.rekinded, ScannedFile.reloaded,
      Json.isNull]
  | kept r =>
    obtain ⟨hanchored, hmodule⟩ := h
    have hurl : "./" ++ Url.dropAnchor r.converted = r.converted :=
      Url.append_dropAnchor hanchored
    have hextension : endsWith (Url.dropAnchor r.converted) Url.htmlExtension =
        endsWith r.converted Url.htmlExtension := by
      rw [← Url.endsWith_append_anchor, hurl]
    have hrecords : (r.exports.map fun e => (e.path, e.name)).map
        (fun p => (⟨p.1, r.converted, p.2⟩ : ExportRecord)) = r.exports := by
      rw [List.map_map]
      refine (List.map_congr_left fun e he => ?_).trans (List.map_id _)
      rw [Function.comp_apply, ← hmodule e he, id]
    have hfield : exportsOfJson? (ScannedFile.toJson (.kept r)) =
        some (r.exports.map fun e => (e.path, e.name)) :=
      mapM_exportOfJson? r.exports
    have hnull : (ScannedFile.toJson (.kept r)).isNull = false := rfl
    have hstring : ((ScannedFile.toJson (.kept r)).field? "url").bind Json.string? =
        some (Url.dropAnchor r.converted) := rfl
    rw [entryOfJson, hnull, hstring, hfield]
    simp only [Bool.false_eq_true, if_false, String.empty_append, hurl, hextension, hrecords]
    rfl

/-! ## Whole manifests -/

/-- The files of a manifest. -/
def fields? (data : Json) : Option Json.Fields := (data.field? "files").bind Json.object?

/-- The entries of a manifest stand in the order of the urls. -/
theorem toJson_eq {files : List ScannedFile} (h : (files.map (·.url)).Nodup) :
    toJson files = .object [("files",
      .object (sortBy (fun a b => le a.1 b.1) (files.map fun f => (f.url, f.toJson))))] := by
  have hordered : (sortBy (fun a b => le a.url b.url) files).map (fun f => (f.url, f.toJson)) =
      sortBy (fun a b => le a.1 b.1) (files.map fun f => (f.url, f.toJson)) :=
    map_sortBy _ (by exact fun _ _ => rfl) files
  have hkeys : (Table.keys ([] ++ (sortBy (fun a b => le a.url b.url) files).map
      fun f : ScannedFile => (f.url, f.toJson))).Nodup := by
    rw [List.nil_append, Table.keys, List.map_map]
    exact ((sortBy_perm _ files).map _).nodup_iff.2 h
  rw [toJson, ← hordered, ← List.nil_append (List.map _ (sortBy _ files)),
    ← Table.setAll_of_disjoint hkeys, Table.setAll, List.foldl_map]

/-- The fields of an object that have one of these names. -/
def pick (names : List String) (v : Json) : Json :=
  .object (names.filterMap fun name => (v.field? name).map (name, ·))

/-- An entry with its exports spelled out and without fields that do not count. -/
def normalEntry (v : Json) : Json :=
  if v.isNull then .null
  else
    let exports := ((v.field? "exports").bind Json.array?).getD []
    .object [("url", (v.field? "url").getD .null),
      ("exports", .array (exports.map (pick ["id", "name"])))]

/-- A manifest in the order of its files, with normal entries and nothing else. -/
def normal (data : Json) : Json :=
  let entries := ((fields? data).getD []).map fun f => (f.1, normalEntry f.2)
  .object [("files", .object (sortBy (fun a b => le a.1 b.1) entries))]

/-- What is read as an export is written as its two fields. -/
theorem pick_of_exportOfJson? {v : Json} {path name : String}
    (h : exportOfJson? v = some (path, name)) :
    pick ["id", "name"] v = .object [("id", .string path), ("name", .string name)] := by
  unfold exportOfJson? at h
  simp only [Option.bind_eq_bind, Option.bind_eq_some_iff, Option.pure_def, Option.some.injEq,
    Prod.mk.injEq] at h
  obtain ⟨_, ⟨id, hid, hpath⟩, _, ⟨second, hname, hsecond⟩, rfl, rfl⟩ := h
  cases id <;> cases hpath
  cases second <;> cases hsecond
  simp [pick, hid, hname]

/-- Records that are read have the two fields that are written. -/
theorem map_pick_of_mapM {vs : List Json} {exports : List (String × String)}
    (h : vs.mapM exportOfJson? = some exports) :
    vs.map (pick ["id", "name"]) =
      exports.map fun e => .object [("id", .string e.1), ("name", .string e.2)] := by
  induction vs generalizing exports with
  | nil =>
    obtain rfl : [] = exports := Option.some.inj h
    rfl
  | cons v vs ih =>
    simp only [List.mapM_cons, Option.bind_eq_bind, Option.bind_eq_some_iff, Option.pure_def,
      Option.some.injEq] at h
    obtain ⟨e, hhead, rest, htail, rfl⟩ := h
    rw [List.map_cons, List.map_cons, pick_of_exportOfJson? hhead, ih htail]

/-- The list of exports of an entry is written with the fields that are read. -/
theorem map_pick_of_exportsOfJson? {v : Json} {exports : List (String × String)}
    (h : exportsOfJson? v = some exports) :
    (((v.field? "exports").bind Json.array?).getD []).map (pick ["id", "name"]) =
      exports.map fun e => .object [("id", .string e.1), ("name", .string e.2)] := by
  unfold exportsOfJson? at h
  cases hlist : v.field? "exports" with
  | none =>
    rw [hlist] at h
    cases h
    rfl
  | some list =>
    rw [hlist] at h
    obtain ⟨items, hitems, hmapM⟩ := Option.bind_eq_some_iff.1 h
    rw [Option.bind_some, hitems]
    exact map_pick_of_mapM hmapM

/-- A file that is read from an entry has its name and is written as its normal form. -/
theorem toJson_of_entryOfJson {name : String} {v : Json} {f : ScannedFile}
    (h : entryOfJson "" "./" name v = .ok f) : f.url = name ∧ f.toJson = normalEntry v := by
  unfold entryOfJson at h
  dsimp only at h
  rw [String.empty_append] at h
  split_ifs at h with hnull
  · cases h
    exact ⟨rfl, by rw [normalEntry, if_pos hnull]; rfl⟩
  · split at h
    · cases h
    next url hurl =>
      split at h
      · cases h
      next exports hexports =>
        cases h
        refine ⟨rfl, ?_⟩
        obtain ⟨u, hfield, hstring⟩ := Option.bind_eq_some_iff.1 hurl
        cases u <;> cases hstring
        rw [normalEntry, if_neg hnull, hfield]
        dsimp only
        rw [map_pick_of_exportsOfJson? hexports]
        simp [ScannedFile.toJson, Url.dropAnchor_append, Function.comp_def]

/-- A written manifest is read back in the order of the urls. -/
theorem ofJson_toJson {files : List ScannedFile} (hdistinct : (files.map (·.url)).Nodup)
    (hportable : ∀ f ∈ files, f.Portable) :
    ofJson (toJson files) "" "./" =
      .ok ((sortBy (fun a b => le a.url b.url) files).map (·.rekinded.reloaded)) := by
  rw [toJson_eq hdistinct, ← map_sortBy (fun a b => le a.url b.url) fun _ _ => rfl]
  refine Failing.mapM_eq_ok.2 (List.forall₂_map_left_iff.2 (List.forall₂_map_right_iff.2 ?_))
  refine List.forall₂_same.2 fun f hf => entryOfJson_toJson (hportable f ?_)
  exact (sortBy_perm _ files).mem_iff.1 hf

/-- What is written comes back when it is read: of files with different urls, all of which a manifest
can hold, each is known again with its kind, url and exports, in the order of the urls. And what is
read is written in normal form. -/
theorem roundTrip :
    (∀ files : List ScannedFile, (files.map (·.url)).Nodup → (∀ f ∈ files, f.Storable) →
      ∃ loaded, ofJson (toJson files) "" "./" = .ok loaded ∧
        loaded.Perm (files.map (·.reloaded)) ∧ loaded.Pairwise fun f g => f.url < g.url) ∧
    ∀ (data : Json) (fields : Json.Fields) (files : List ScannedFile),
      fields? data = some fields → (Table.keys fields).Nodup →
      ofJson data "" "./" = .ok files → toJson files = normal data := by
  refine ⟨fun files hdistinct hstorable => ?_, fun data fields files hfields hkeys hread => ?_⟩
  · have hloaded := ofJson_toJson hdistinct fun f hf => (hstorable f hf).portable
    refine ⟨_, hloaded, ?_, ?_⟩
    · have hkinds : ∀ f ∈ sortBy (fun a b => le a.url b.url) files,
          f.rekinded.reloaded = f.reloaded := fun f hf => by
        rw [(hstorable f ((sortBy_perm _ files).mem_iff.1 hf)).rekinded_eq]
      rw [List.map_congr_left hkinds]
      exact (sortBy_perm _ files).map _
    · simpa [List.pairwise_map] using pairwise_lt_sortBy hdistinct
  · have hentries : List.Forall₂ (fun p f => entryOfJson "" "./" p.1 p.2 = .ok f) fields files := by
      refine Failing.mapM_eq_ok.1 ?_
      rw [ofJson, ← fields?, hfields] at hread
      exact hread
    have hfiles : (files.map fun f => (f.url, f.toJson)) =
        fields.map fun p => (p.1, normalEntry p.2) := by
      refine List.forall₂_eq_eq_eq ▸ List.forall₂_map_left_iff.2 (List.forall₂_map_right_iff.2 ?_)
      refine hentries.flip.imp fun f p h => ?_
      obtain ⟨hurl, hjson⟩ := toJson_of_entryOfJson h
      rw [hurl, hjson]
    have hdistinct : (files.map (·.url)).Nodup := by
      have hurls := congrArg (List.map Prod.fst) hfiles
      rw [List.map_map, List.map_map] at hurls
      exact hurls ▸ hkeys
    rw [toJson_eq hdistinct, hfiles, normal, hfields, Option.getD_some]

/-! ### A button and an old document -/

/-- An old document without a successor, and a button that becomes a module. -/
def buttonFiles : List ScannedFile :=
  [.deleted "old.html", .kept {
    legacyUrl := "button.html", converted := "./button.js", outputPath := "button.js", kind := .module
    exports := [⟨"P.Button", "./button.js", "Button"⟩, ⟨"P.Ripple", "./button.js", "Ripple"⟩] }]

/-- The fields of a manifest of two documents, one of which has no exports but a field that does not
count. -/
def buttonFields : Json.Fields :=
  [("old.html", .object [("url", .string "old.js"), ("size", .number "7")]), ("button.html", .null)]

/-- The two files come back with the button in front, and the two fields are written with the button
in front and with an empty list of exports. -/
theorem roundTrip_button :
    ((buttonFiles.map (·.url)).Nodup ∧ (∀ f ∈ buttonFiles, f.Storable) ∧
      ∃ loaded, ofJson (toJson buttonFiles) "" "./" = .ok loaded ∧
        loaded.Perm (buttonFiles.map (·.reloaded)) ∧ loaded.Pairwise fun f g => f.url < g.url) ∧
    ∃ files, (Table.keys buttonFields).Nodup ∧
      ofJson (.object [("files", .object buttonFields)]) "" "./" = .ok files ∧
      toJson files = .object [("files", .object [("button.html", .null),
        ("old.html", .object [("url", .string "old.js"), ("exports", .array [])])])] := by
  have hdistinct : (buttonFiles.map (·.url)).Nodup := by decide
  have hstorable : ∀ f ∈ buttonFiles, f.Storable := by decide
  have hkeys : (Table.keys buttonFields).Nodup := by decide
  have hread : ofJson (.object [("files", .object buttonFields)]) "" "./" =
      .ok [.kept ⟨"old.html", "./old.js", "old.js", .module, []⟩, .deleted "button.html"] := by rfl
  refine ⟨⟨hdistinct, hstorable, roundTrip.1 buttonFiles hdistinct hstorable⟩,
    _, hkeys, hread, ?_⟩
  exact roundTrip.2 (.object [("files", .object buttonFields)]) buttonFields _ rfl hkeys hread

end Manifest

end HtmlModules
