import HtmlModules.PackageJson
import HtmlModules.Proofs.Failing
import HtmlModules.Proofs.Overriding

/-!
# A description is made once

The fields of a description are filled in step by step, and every step has its own fields (`Settles`).
A field is set if it is missing (`settles_guarded`), or it is merged with what it holds
(`settles_merging`), and a step that finds its fields as it left them changes nothing. So steps with
different fields settle together (`Settles.bind`), and a description that is made again from the
finished one is the same, key by key (`generate_again`).
-/

namespace HtmlModules

open Text

namespace Json.Entries

/-! ## Entries of texts -/

variable {t : Fields}

/-- A field of the object is the field of its table. -/
theorem get?_ofFields (name : String) :
    ∀ t : Fields, Entries.get? (ofFields t) name = Table.get? t name
  | [] => rfl
  | (k, v) :: t => by
    have ih := get?_ofFields name t
    unfold Entries.get? ofFields at ih ⊢
    rw [List.map_cons, List.find?_cons, Table.get?_cons, ← ih]
    by_cases hk : name = k
    · simp [hk, key?]
    · simp [hk, key?, Ne.symm hk]

/-- To set a field of the object sets it in its table. -/
theorem set_ofFields (name : String) (value : Json) :
    ∀ t : Fields, Entries.set (.string name) value (ofFields t) = ofFields (Table.set name value t)
  | [] => rfl
  | (k, v) :: t => by
    have ih := set_ofFields name value t
    unfold ofFields at ih ⊢
    rw [List.map_cons, Entries.set, Table.set]
    by_cases hk : k = name
    · simp [hk, key?]
    · simp [hk, key?, ih]

/-- To set several fields of the object sets them in its table. -/
theorem setAll_ofFields : ∀ news t : Fields,
    Entries.setAll (ofFields t) (ofFields news) = ofFields (Table.setAll t news)
  | [], _ => rfl
  | (k, v) :: news, t => by
    have ih := setAll_ofFields news (Table.set k v t)
    rw [← set_ofFields] at ih
    exact ih

/-- To erase a field of the object erases it from its table. -/
theorem erase_ofFields (name : String) (t : Fields) :
    Entries.erase (ofFields t) name = ofFields (Table.erase t name) := by
  unfold Entries.erase ofFields Table.erase
  rw [List.filter_map]
  congr 1
  exact List.filter_congr fun p _ => by simp [key?]

/-- The table of an object that is made of a table is the table. -/
theorem toFields_ofFields (t : Fields) : toFields (ofFields t) = t := by
  unfold toFields ofFields
  rw [List.map_map]
  exact List.map_id t

/-- To keep the values that satisfy a test keeps them in the table. -/
theorem filter_ofFields (p : Json → Bool) (t : Fields) :
    (ofFields t).filter (fun e => p e.2) = ofFields (t.filter fun e => p e.2) :=
  List.filter_map

end Json.Entries

namespace PackageJson

open Failing Json.Entries
open Json (Fields)

/-! ## Filling in fields -/

/-- The fields that are merged with what exists. -/
def mergedFields : List String := ["resolutions", "dependencies", "devDependencies"]

/-- The fields that are merged are objects where they are present. -/
def Mergeable (t : Fields) : Prop :=
  ∀ key ∈ mergedFields, ∀ v ∈ Json.present? (Table.get? t key), v.object?.isSome = true

/-- Fields that a description keeps: no value is null, and those that are merged are objects where they
are present. -/
def Lasting (news : Fields) : Prop :=
  ∀ p ∈ news, p.2.isNull = false ∧
    (p.1 ∈ mergedFields → ∀ v ∈ Json.present? (some p.2), v.object?.isSome = true)

theorem lasting_nil : Lasting [] :=
  List.forall_mem_nil _

/-- Two lists of fields that last are one that lasts. -/
theorem Lasting.append {news more : Fields} (h : Lasting news) (hmore : Lasting more) :
    Lasting (news ++ more) :=
  List.forall_mem_append.2 ⟨h, hmore⟩

/-- A field that is not merged needs only a value. -/
theorem lasting_singleton {key : String} {v : Json} (hkey : key ∉ mergedFields)
    (hv : v.isNull = false) : Lasting [(key, v)] :=
  List.forall_mem_singleton.2 ⟨hv, fun hmerged => (hkey hmerged).elim⟩

theorem lasting_object (key : String) (g : Fields) : Lasting [(key, .object g)] :=
  List.forall_mem_singleton.2 ⟨rfl, fun _ v hv => by
    obtain rfl := Option.some.inj (Option.filter_eq_some_iff.1 hv).1
    rfl⟩

theorem Mergeable.setAll {news t : Fields} (ht : Mergeable t) (hnews : Lasting news) :
    Mergeable (Table.setAll t news) := by
  intro key hkey v hv
  obtain ⟨hget, hpresent⟩ := Option.filter_eq_some_iff.1 hv
  rcases Table.get?_setAll_eq_some hget with hmem | hget
  · exact (hnews _ hmem).2 hkey v (Option.filter_eq_some_iff.2 ⟨rfl, hpresent⟩)
  · exact ht key hkey v (Option.filter_eq_some_iff.2 ⟨hget, hpresent⟩)

/-- A step that fills in fields among its keys. It succeeds, and once these fields are as it leaves them
it changes nothing, whatever the others are. -/
def Settles (step : Draft → Except Failure Draft) (keys : List String) : Prop :=
  ∀ (d : Draft) (t : Fields), d.fields = ofFields t → Mergeable t →
    ∃ d' news, step d = .ok d' ∧ d'.fields = ofFields (Table.setAll t news) ∧
      Table.keys news ⊆ keys ∧ Lasting news ∧
      ∀ (e : Draft) (u : Fields), e.fields = ofFields u →
        (∀ key ∈ keys, Table.get? u key = Table.get? (Table.setAll t news) key) →
        ∃ e', step e = .ok e' ∧ e'.fields = ofFields u

/-- Steps that fill in different fields can be taken one after the other. -/
theorem Settles.bind {step step' : Draft → Except Failure Draft} {keys keys' : List String}
    (h : Settles step keys) (h' : Settles step' keys') (hdisjoint : ∀ key ∈ keys, key ∉ keys') :
    Settles (fun d => step d >>= step') (keys ++ keys') := by
  intro d t ht hmergeable
  obtain ⟨d₁, news, hd₁, hfields, hkeys, hnews, hagain⟩ := h d t ht hmergeable
  obtain ⟨d₂, news', hd₂, hfields', hkeys', hnews', hagain'⟩ :=
    h' d₁ _ hfields (hmergeable.setAll hnews)
  refine ⟨d₂, news ++ news', bind_eq_ok.2 ⟨d₁, hd₁, hd₂⟩, ?_, ?_, hnews.append hnews',
    fun e u hu hagree => ?_⟩
  · rw [hfields', Table.setAll_append]
  · rw [Table.keys_append]
    exact List.append_subset.2 ⟨List.subset_append_of_subset_left _ hkeys,
      List.subset_append_of_subset_right _ hkeys'⟩
  · rw [Table.setAll_append] at hagree
    obtain ⟨e₁, he₁, hu₁⟩ := hagain e u hu fun key hkey => by
      -- what the second step sets is none of the keys of the first one
      have hkeep : key ∉ Table.keys news' := fun hmem => hdisjoint key hkey (hkeys' hmem)
      rw [hagree key (List.mem_append_left _ hkey), Table.get?_setAll_of_notMem _ hkeep]
    obtain ⟨e₂, he₂, hu₂⟩ := hagain' e₁ u hu₁ fun key hkey =>
      hagree key (List.mem_append_right _ hkey)
    exact ⟨e₂, bind_eq_ok.2 ⟨e₁, he₁, he₂⟩, hu₂⟩

/-- A field is there if the table has a value for it that is not null. -/
theorem has_eq {d : Draft} {t : Fields} (h : d.fields = ofFields t) (name : String) :
    d.has name = (Json.present? (Table.get? t name)).isSome := by
  rw [Draft.has, h, get?_ofFields]

/-- Whether one of the keys is present can be told from what they hold. -/
theorem any_has_congr {d e : Draft} {t u : Fields} {keys : List String} (ht : d.fields = ofFields t)
    (hu : e.fields = ofFields u) (hagree : ∀ key ∈ keys, Table.get? u key = Table.get? t key) :
    keys.any e.has = keys.any d.has := by
  rw [Bool.eq_iff_iff, List.any_eq_true, List.any_eq_true]
  refine exists_congr fun key => and_congr_right fun hkey => ?_
  rw [has_eq ht, has_eq hu, hagree key hkey]

/-- A step that does nothing if one of its keys is present, and else sets one of them at most. -/
theorem settles_guarded {step : Draft → Except Failure Draft} {keys : List String}
    (choice : Option (String × Json))
    (hstep : ∀ d, ∃ d', step d = .ok d' ∧ d'.fields = if keys.any d.has then d.fields
      else choice.elim d.fields fun p => d.fields.set (.string p.1) p.2)
    (hchoice : ∀ p ∈ choice, p.1 ∈ keys ∧ p.2.isNull = false)
    (hkeys : ∀ key ∈ keys, key ∉ mergedFields) :
    Settles step keys := by
  intro d t ht _
  obtain ⟨d', hd', hfields⟩ := hstep d
  by_cases hpresent : keys.any d.has = true
  · rw [if_pos hpresent] at hfields
    refine ⟨d', [], hd', hfields.trans ht, List.nil_subset _, lasting_nil, fun e u hu hagree => ?_⟩
    obtain ⟨e', he', hfields'⟩ := hstep e
    rw [any_has_congr ht hu hagree, if_pos hpresent] at hfields'
    exact ⟨e', he', hfields'.trans hu⟩
  · rw [if_neg hpresent] at hfields
    cases choice with
    | none =>
      refine ⟨d', [], hd', hfields.trans ht, List.nil_subset _, lasting_nil, fun e u hu hagree => ?_⟩
      obtain ⟨e', he', hfields'⟩ := hstep e
      rw [any_has_congr ht hu hagree, if_neg hpresent] at hfields'
      exact ⟨e', he', hfields'.trans hu⟩
    | some p =>
      obtain ⟨key, v⟩ := p
      obtain ⟨hkey, hnull⟩ := hchoice (key, v) rfl
      have hset : d'.fields = ofFields (Table.set key v t) := by
        rw [hfields, Option.elim_some, ht, set_ofFields]
      refine ⟨d', [(key, v)], hd', hset, List.cons_subset.2 ⟨hkey, List.nil_subset _⟩,
        lasting_singleton (hkeys key hkey) hnull, fun e u hu hagree => ?_⟩
      obtain ⟨e', he', hfields'⟩ := hstep e
      refine ⟨e', he', hfields'.trans ?_⟩
      split_ifs
      · exact hu
      · have hsame : Table.get? u key = some v := by
          rw [hagree key hkey]
          exact (Table.get?_set key v key t).trans (if_pos rfl)
        rw [Option.elim_some, hu, set_ofFields, Table.set_eq_self hsame]

/-- The fields of an object that may be missing. -/
def objectAt (t : Fields) (key : String) : Fields :=
  ((Json.present? (Table.get? t key)).bind Json.object?).getD []

/-- The object at a key is the one that the table has there. -/
theorem objectAt_of_get? {t g : Fields} {key : String} (h : Table.get? t key = some (.object g)) :
    objectAt t key = g := by
  rw [objectAt, h]
  cases g <;> rfl

/-- A field that is an object where it is present is missing, or it is there with its fields. -/
theorem objectAt_cases {t : Fields} {key : String}
    (h : ∀ v ∈ Json.present? (Table.get? t key), v.object?.isSome = true) :
    (Json.present? (Table.get? t key) = none ∧ objectAt t key = []) ∨
      Json.present? (Table.get? t key) = some (.object (objectAt t key)) := by
  unfold objectAt
  cases hv : Json.present? (Table.get? t key) with
  | none => exact .inl ⟨rfl, rfl⟩
  | some v =>
    have hobject := h v hv
    cases v with
    | object g => exact .inr rfl
    | null | bool | number | string | array => cases hobject

/-- A step that merges some fields into an object. -/
theorem settles_merging {step : Draft → Except Failure Draft} {key : String} (updates : Fields)
    (hkey : key ∈ mergedFields)
    (hstep : ∀ d t, d.fields = ofFields t →
      (∀ v ∈ Json.present? (Table.get? t key), v.object?.isSome = true) →
      ∃ d', step d = .ok d' ∧ d'.fields = ofFields
        (Table.set key (.object (Table.setAll (objectAt t key) updates)) t)) :
    Settles step [key] := by
  intro d t ht hmergeable
  let merged := Table.setAll (objectAt t key) updates
  obtain ⟨d', hd', hfields⟩ := hstep d t ht (hmergeable key hkey)
  refine ⟨d', [(key, .object merged)], hd', hfields, List.Subset.refl _, lasting_object key merged,
    fun e u hu hagree => ?_⟩
  have hmerged : Table.get? u key = some (.object merged) := by
    rw [hagree key (List.mem_singleton_self key)]
    exact (Table.get?_set _ _ _ _).trans (if_pos rfl)
  obtain ⟨e', he', hfields'⟩ := hstep e u hu fun v hv => by
    rw [hmerged] at hv
    exact (lasting_object key merged _ (List.mem_singleton_self _)).2 hkey v hv
  refine ⟨e', he', ?_⟩
  rw [hfields', objectAt_of_get? hmerged, Table.setAll_setAll, Table.set_eq_self hmerged]

/-! ## The steps -/

@[simp] theorem Draft.warn_fields (ws : Diagnostics) (d : Draft) : (d.warn ws).fields = d.fields :=
  rfl

@[simp] theorem Draft.set_fields (name : String) (v : Json) (d : Draft) :
    (d.set name v).fields = d.fields.set (.string name) v :=
  rfl

/-- Merges the versions that are pinned into those that exist. -/
def addResolutions (d : Draft) : Except Failure Draft := do
  let resolutions ← (Json.present? (d.fields.get? "resolutions")).elim (.ok []) entriesOf
  return d.set "resolutions"
    (.object (Json.Entries.setAll resolutions (.ofFields pinnedResolutions)).toFields)

/-- An object that may be missing is read by its entries. -/
theorem entriesOf_present {t : Fields} {key : String}
    (h : ∀ v ∈ Json.present? (Table.get? t key), v.object?.isSome = true) :
    (Json.present? ((ofFields t).get? key)).elim (.ok []) entriesOf =
      .ok (ofFields (objectAt t key)) := by
  rw [get?_ofFields]
  rcases objectAt_cases h with ⟨hnone, hempty⟩ | hsome
  · rw [hnone, hempty]
    rfl
  · rw [hsome]
    rfl

/-- The resolutions are settled when they are added. -/
theorem settles_addResolutions : Settles addResolutions ["resolutions"] := by
  refine settles_merging pinnedResolutions (by decide) fun d t ht hobject => ?_
  refine ⟨_, bind_eq_ok.2 ⟨_, by rw [ht]; exact entriesOf_present hobject, rfl⟩, ?_⟩
  rw [Draft.set_fields, setAll_ofFields, toFields_ofFields, ht, set_ofFields]

/-- A field is set to what is given for it, and a warning is added if nothing is. -/
theorem fields_given (given : Option String) (name : String) (value : String → Json)
    {d d' : Draft} (h : d'.fields = d.fields) (ws : Diagnostics) :
    (match given with
      | some s => d'.set name (value s)
      | none => d'.warn ws).fields =
      (given.map fun s => (name, value s)).elim d.fields fun p =>
        d.fields.set (.string p.1) p.2 := by
  cases given <;> simp [h]

/-- To warn of several values changes no field. -/
theorem fields_warnIf (several : Bool) (ws : Diagnostics) (d : Draft) :
    (if several then d.warn ws else d).fields = d.fields := by
  cases several <;> rfl

/-- The main file is settled when it is added, or when it is there already. -/
theorem settles_addMain (old : Fields) (package : String) :
    Settles (fun d => .ok (addMain old package d)) ["main"] := by
  let given := (single? ((Table.get? old "main").getD .null)).filter (endsWith · Url.htmlExtension)
  refine settles_guarded
    (given.map fun main => ("main", .string (Url.replaceHtmlExtension main)))
    (fun d => ⟨_, rfl, ?_⟩) (fun p hp => ?_) (by decide)
  · rw [List.any_cons, List.any_nil, Bool.or_false, addMain]
    split_ifs
    · rfl
    · exact fields_given given "main" _ (fields_warnIf _ _ d) _
  · obtain ⟨main, -, rfl⟩ := Option.map_eq_some_iff.1 hp
    exact ⟨List.mem_singleton_self _, rfl⟩

/-- The license is settled when it is added, or when it is there already. -/
theorem settles_addLicense (old : Fields) (package : String) :
    Settles (fun d => .ok (addLicense old package d)) ["license"] := by
  let given := (single? ((Table.get? old "license").getD .null)).filter (· ≠ "")
  refine settles_guarded
    (given.map fun license => ("license", .string
      (if contains license "polymer.github.io/LICENSE" then "BSD-3-Clause" else license)))
    (fun d => ⟨_, rfl, ?_⟩) (fun p hp => ?_) (by decide)
  · rw [List.any_cons, List.any_nil, Bool.or_false, addLicense]
    split_ifs
    · rfl
    · exact fields_given given "license" _ (fields_warnIf _ _ d) _
  · obtain ⟨license, -, rfl⟩ := Option.map_eq_some_iff.1 hp
    exact ⟨List.mem_singleton_self _, rfl⟩

/-! ## What the old description may hold -/

/-- One author: a text or an object. -/
def isAuthor : Json → Bool
  | .string _ | .object _ => true
  | _ => false

/-- One author, or an array of authors. -/
def areAuthors : Json → Bool
  | .array items => items.all isAuthor
  | v => isAuthor v

/-- The fields of the old description that are taken apart have their types where they are present:
authors are authors, and dependencies are objects. -/
structure WellTyped (old : Fields) : Prop where
  authors : ∀ key ∈ ["authors", "author"], ∀ v ∈ Json.present? (Table.get? old key),
    areAuthors v = true
  dependencies : ∀ key ∈ ["dependencies", "devDependencies"],
    ∀ v ∈ Json.present? (Table.get? old key), v.object?.isSome = true

variable {old : Fields} {table : Dependencies}

/-- Authors that are well typed are converted, each to something. -/
theorem exists_mapM_authorOf : ∀ {items : List Json}, items.all isAuthor = true →
    ∃ list, items.mapM authorOf = .ok list ∧ ∀ a ∈ list, a.isNull = false
  | [], _ => ⟨[], rfl, List.forall_mem_nil _⟩
  | a :: items, h => by
    obtain ⟨ha, hitems⟩ := Bool.and_eq_true_iff.1 h
    obtain ⟨list, hlist, hnull⟩ := exists_mapM_authorOf hitems
    obtain ⟨b, hb, hbnull⟩ : ∃ b, authorOf a = .ok b ∧ b.isNull = false := by
      cases a with
      | string s => exact ⟨_, rfl, rfl⟩
      | object fields => exact ⟨_, rfl, rfl⟩
      | null | bool | number | array => cases ha
    refine ⟨b :: list, ?_, List.forall_mem_cons.2 ⟨hbnull, hnull⟩⟩
    rw [List.mapM_cons, hb, hlist]
    rfl

/-- The authors can be read, and none of them is null. -/
theorem WellTyped.exists_authors (h : WellTyped old) :
    ∃ list, PackageJson.authors old = .ok list ∧ ∀ a ∈ list, a.isNull = false := by
  have hgiven : ∀ v ∈ (Json.present? (Table.get? old "authors") <|>
      Json.present? (Table.get? old "author")), areAuthors v = true := by
    intro v hv
    cases hfirst : Json.present? (Table.get? old "authors") with
    | none => exact h.authors "author" (by decide) v (by simpa [hfirst] using hv)
    | some w => exact h.authors "authors" (by decide) v (by simpa [hfirst] using hv)
  unfold PackageJson.authors
  generalize (Json.present? (Table.get? old "authors") <|>
    Json.present? (Table.get? old "author")) = given at hgiven
  cases given with
  | none => exact ⟨[], rfl, List.forall_mem_nil _⟩
  | some v =>
    have hv := hgiven v rfl
    cases v with
    | array items => exact exists_mapM_authorOf hv
    | string s => exact exists_mapM_authorOf (show [Json.string s].all isAuthor = true from rfl)
    | object fields =>
      exact exists_mapM_authorOf (show [Json.object fields].all isAuthor = true from rfl)
    | null | bool | number => cases hv

/-- The field that authors are written to. -/
def authorField? : List Json → Option (String × Json)
  | [] => none
  | [author] => some ("author", author)
  | several => some ("contributors", .array several)

/-- One author becomes `author` and several become `contributors`, unless one of the two is
there. -/
theorem addAuthors_eq {list : List Json} (hlist : authors old = .ok list) (d : Draft) :
    addAuthors old d = .ok (if d.has "author" || d.has "contributors" then d
      else (authorField? list).elim d fun p => d.set p.1 p.2) := by
  unfold addAuthors
  split_ifs
  · rfl
  · rw [hlist]
    match list with
    | [] | [_] | _ :: _ :: _ => rfl

theorem settles_addAuthors (h : WellTyped old) :
    Settles (addAuthors old) ["author", "contributors"] := by
  obtain ⟨list, hlist, hnull⟩ := h.exists_authors
  refine settles_guarded (authorField? list)
    (fun d => ⟨_, addAuthors_eq hlist d, ?_⟩) (fun p hp => ?_) (by decide)
  · rw [List.any_cons, List.any_cons, List.any_nil, Bool.or_false]
    split_ifs
    · rfl
    · cases authorField? list <;> rfl
  · match list, hp with
    | [author], hp =>
      obtain rfl := Option.some.inj hp
      exact ⟨List.mem_cons_self, hnull author List.mem_cons_self⟩
    | _ :: _ :: _, hp =>
      obtain rfl := Option.some.inj hp
      exact ⟨List.mem_cons_of_mem _ List.mem_cons_self, rfl⟩

/-! ## Dependencies -/

/-- The new names of packages, with the versions that are asked for. -/
def renamed (table : Dependencies) (names : List String) : Fields :=
  names.filterMap fun name => (Table.get? table name).bind fun new =>
    new.name.string?.map fun s => (s, new.version)

/-- All new names are texts. -/
def Named (table : Dependencies) : Prop := ∀ p ∈ table, p.2.name.string?.isSome = true

/-- What replaces some packages is set in the order of their names. -/
theorem foldlM_addDependency (htable : Named table) : ∀ (names : List String) (d : Draft) (g : Fields),
    ∃ d', (names.map Json.string).foldlM (addDependency table) (d, ofFields g) =
        .ok (d', ofFields (Table.setAll g (renamed table names))) ∧ d'.fields = d.fields
  | [], d, g => ⟨d, rfl, rfl⟩
  | name :: names, d, g => by
    rw [List.map_cons, List.foldlM_cons]
    cases hnew : Table.get? table name with
    | none =>
      let missed : Draft := { d.warn (Dependencies.miss (.string name) d.misses).1 with
        misses := (Dependencies.miss (.string name) d.misses).2 }
      obtain ⟨d', hd', hfields⟩ := foldlM_addDependency htable names missed g
      refine ⟨d', bind_eq_ok.2 ⟨(missed, ofFields g), ?_, ?_⟩, hfields⟩
      · unfold addDependency Dependencies.lookUp?
        simp only [Json.key?, hnew]
        rfl
      · rw [renamed, List.filterMap_cons, hnew]
        exact hd'
    | some new =>
      obtain ⟨s, hs⟩ := Option.isSome_iff_exists.1 (htable _ (Table.mem_of_get? hnew))
      have hname : new.name = .string s := by
        cases hjson : new.name <;> simp_all [Json.string?]
      obtain ⟨d', hd', hfields⟩ :=
        foldlM_addDependency htable names d (Table.set s new.version g)
      refine ⟨d', bind_eq_ok.2 ⟨(d, ofFields (Table.set s new.version g)), ?_, ?_⟩, hfields⟩
      · unfold addDependency Dependencies.lookUp?
        simp only [Json.key?, hnew, bind, Except.bind]
        rw [hname, ← set_ofFields]
        rfl
      · rw [renamed, List.filterMap_cons, hnew, Option.bind_some, hs]
        exact hd'

/-- The names of the dependencies of a kind can be read. -/
theorem WellTyped.membersOf_dependencies (h : WellTyped old) {kind : String}
    (hkind : kind ∈ ["dependencies", "devDependencies"]) :
    (Json.present? (Table.get? old kind)).elim (.ok []) membersOf =
      .ok ((Table.keys (objectAt old kind)).map Json.string) := by
  rcases objectAt_cases (h.dependencies kind hkind) with ⟨hnone, hempty⟩ | hsome
  · rw [hnone, hempty]
    rfl
  · rw [hsome]
    rfl

/-- The dependencies of a kind are settled when they are added. -/
theorem settles_addDependencies (h : WellTyped old) (htable : Named table) {kind : String}
    (hkind : kind ∈ ["dependencies", "devDependencies"]) :
    Settles (addDependencies old table kind) [kind] := by
  have hmerged : kind ∈ mergedFields := List.mem_cons_of_mem _ hkind
  let updates := renamed table (Table.keys (objectAt old kind))
  refine settles_merging updates hmerged fun d t ht hobject => ?_
  obtain ⟨d', hd', hfields⟩ := foldlM_addDependency htable (Table.keys (objectAt old kind)) d
    (objectAt t kind)
  refine ⟨d'.set kind (.object (Table.setAll (objectAt t kind) updates)), ?_, ?_⟩
  · refine bind_eq_ok.2 ⟨ofFields (objectAt t kind), by rw [ht]; exact entriesOf_present hobject,
      bind_eq_ok.2 ⟨_, h.membersOf_dependencies hkind, bind_eq_ok.2 ⟨_, hd', ?_⟩⟩⟩
    change Except.ok (d'.set kind (.object (toFields (ofFields _)))) = _
    rw [toFields_ofFields]
  · rw [Draft.set_fields, hfields, ht, set_ofFields]

/-! ## Making it again -/

/-- The fields that are taken over, as null if they are missing. -/
def copied (old : Fields) : Fields :=
  copiedFields.map fun f => (f, (Table.get? old f).getD .null)

/-- The fields that are set whatever exists. -/
def fixedFields (name version : String) : Fields :=
  [("name", .string name), ("version", .string version), ("flat", .bool true)]

/-- The fields that a description is filled in from. -/
def base (old : Fields) (name version : String) (existing : Fields) : Fields :=
  Table.erase (Table.setAll (Table.setAll (copied old) existing) (fixedFields name version)) "private"

/-- The fields that the steps fill in. -/
def filledFields : List String :=
  ["resolutions", "main", "author", "contributors", "license", "dependencies", "devDependencies"]

/-- Fills in all fields. -/
def complete (old : Fields) (table : Dependencies) (package : String) (d : Draft) :
    Except Failure Draft := do
  let d ← addResolutions d
  let d ← addAuthors old (addMain old package d)
  let d ← addDependencies old table "dependencies" (addLicense old package d)
  addDependencies old table "devDependencies" d

/-- What a description holds is what the steps fill in and what is not null. -/
theorem generate_eq (old : Fields) (name version : String) (table : Dependencies)
    (existing : Option Fields) (misses : List Json.Key) :
    generate old (.string name) (.string version) table (existing.elim .null .object) misses =
      (complete old table ((Table.get? old "name").getD (.string name)).plain
        { fields := ofFields (base old name version (existing.getD [])), misses } >>= fun d =>
          .ok {
            fields := toFields (d.fields.filter fun p => !p.2.isNull)
            warnings := d.warnings
            misses := d.misses }) := by
  have hbase : Json.Entries.erase (Json.Entries.setAll
      (Json.Entries.setAll
        (copiedFields.map fun f => (Json.string f, (Table.get? old f).getD .null))
        (ofFields (existing.getD [])))
      [(.string "name", .string name), (.string "version", .string version),
        (.string "flat", .bool true)]) "private" =
      ofFields (base old name version (existing.getD [])) := by
    rw [base, ← erase_ofFields, ← setAll_ofFields, ← setAll_ofFields]
    rfl
  rw [← hbase]
  unfold generate complete addResolutions
  simp only [bind_assoc, pure_bind]
  cases existing with
  | none => rfl
  | some fields => cases fields <;> rfl

theorem settles_complete (h : WellTyped old) (htable : Named table) (package : String) :
    Settles (complete old table package) filledFields :=
  settles_addResolutions.bind
    ((settles_addMain old package).bind
      ((settles_addAuthors h).bind
        ((settles_addLicense old package).bind
          ((settles_addDependencies h htable (by decide)).bind
            (settles_addDependencies h htable (by decide)) (by decide)) (by decide)) (by decide))
      (by decide)) (by decide)

variable {name version : String} {fields news : Fields}

theorem lasting_fixedFields (name version : String) : Lasting (fixedFields name version) :=
  (lasting_singleton (by decide) rfl).append
    ((lasting_singleton (by decide) rfl).append (lasting_singleton (by decide) rfl))

theorem keys_copied (old : Fields) : Table.keys (copied old) = copiedFields := by
  rw [copied, Table.keys, List.map_map]
  exact List.map_id copiedFields

/-- What generation starts from can be merged with the old fields. -/
theorem mergeable_base (hfields : Lasting fields) : Mergeable (base old name version fields) := by
  have hnotCopied : ∀ key ∈ mergedFields, key ∉ copiedFields := by decide
  have hnotPrivate : ∀ key ∈ mergedFields, key ≠ "private" := by decide
  have hcopied : Mergeable (copied old) := by
    intro key hkey v hv
    rw [Table.get?_eq_none_iff.2 (by rw [keys_copied]; exact hnotCopied key hkey)] at hv
    cases hv
  intro key hkey v hv
  rw [base, Table.get?_erase (hnotPrivate key hkey)] at hv
  exact (hcopied.setAll hfields).setAll (lasting_fixedFields name version) key hkey v hv

/-- A description begins with the fields that are taken over, and only these may be null. -/
theorem extends_setAll_base (hfields : Lasting fields) (hnews : Lasting news) :
    Table.Extends (fun v => !v.isNull) (copied old)
      (Table.setAll (base old name version fields) news) := by
  have hkept {l : Fields} (h : Lasting l) : ∀ p ∈ l, (!p.2.isNull) = true := fun p hp => by
    rw [(h p hp).1]
    rfl
  have hcopied : (Table.keys (copied old)).Nodup := by
    rw [keys_copied]
    decide
  have hprivate : "private" ∉ Table.keys (copied old) := by
    rw [keys_copied]
    decide
  exact ((((Table.Extends.refl hcopied).setAll (hkept hfields)).setAll
    (hkept (lasting_fixedFields name version))).erase hprivate).setAll (hkept hnews)

/-- What is not null of a description whose fields are filled in leads back to it. -/
theorem base_filter (hfields : Lasting fields) (hnews : Lasting news)
    (hkeys : Table.keys news ⊆ filledFields) :
    base old name version
        ((Table.setAll (base old name version fields) news).filter fun p => !p.2.isNull) =
      Table.setAll (base old name version fields) news := by
  -- the steps leave the fields alone that are set whatever exists
  have hfixed : ∀ p ∈ fixedFields name version,
      Table.get? (Table.setAll (base old name version fields) news) p.1 = some p.2 := by
    have hother : ∀ key ∈ ["name", "version", "flat"], key ∉ filledFields ∧ key ≠ "private" := by
      decide
    have hdistinct : (Table.keys (fixedFields name version)).Nodup := by
      change ["name", "version", "flat"].Nodup
      decide
    intro p hp
    obtain ⟨hfilled, hne⟩ := hother p.1 (List.mem_map_of_mem hp)
    rw [Table.get?_setAll_of_notMem _ fun hmem => hfilled (hkeys hmem), base,
      Table.get?_erase hne]
    exact Table.get?_setAll_of_mem _ hdistinct hp
  have hprivate : "private" ∉ Table.keys (Table.setAll (base old name version fields) news) := by
    have hnew : "private" ∉ Table.keys news := fun hmem => absurd (hkeys hmem) (by decide)
    rw [← Table.get?_eq_none_iff, Table.get?_setAll_of_notMem _ hnew, Table.get?_eq_none_iff, base,
      Table.keys_erase]
    simp
  rw [base, (extends_setAll_base hfields hnews).setAll_filter, Table.setAll_eq_self hfixed,
    Table.erase_eq_self hprivate]

/-- A description that is made again, with the one that was made before as what exists, is the same, in
the same order. -/
theorem generate_again (hold : WellTyped old) (htable : Named table) (name version : String)
    {existing : Option Fields} (hexisting : ∀ fields ∈ existing, Lasting fields)
    (misses misses' : List Json.Key) :
    ∃ r r', generate old (.string name) (.string version) table (existing.elim .null .object)
        misses = .ok r ∧
      generate old (.string name) (.string version) table (.object r.fields) misses' = .ok r' ∧
      r'.fields = r.fields := by
  have hfields : Lasting (existing.getD []) := by
    cases existing with
    | none => exact lasting_nil
    | some fields => exact hexisting fields rfl
  let b := base old name version (existing.getD [])
  obtain ⟨d, news, hd, hdfields, hkeys, hnews, hagain⟩ := settles_complete hold htable
    ((Table.get? old "name").getD (.string name)).plain { fields := ofFields b, misses } b rfl
    (mergeable_base hfields)
  obtain ⟨e, he, hefields⟩ := hagain { fields := ofFields (Table.setAll b news), misses := misses' }
    (Table.setAll b news) rfl fun _ _ => rfl
  have hfilter : toFields ((ofFields (Table.setAll b news)).filter fun p => !p.2.isNull) =
      (Table.setAll b news).filter fun p => !p.2.isNull := by
    rw [filter_ofFields (fun v => !v.isNull), toFields_ofFields]
  refine ⟨_, ⟨toFields (e.fields.filter fun p => !p.2.isNull), e.warnings, e.misses⟩,
    (generate_eq old name version table existing misses).trans (bind_eq_ok.2 ⟨d, hd, rfl⟩), ?_, ?_⟩
  · refine (generate_eq old name version table (some _) misses').trans (bind_eq_ok.2 ⟨e, ?_, rfl⟩)
    rw [hdfields, hfilter, Option.getD_some, base_filter hfields hnews hkeys]
    exact he
  · rw [hdfields, hefields]

/-- The old description of a package with two main documents, two authors and an element that is
installed under two names. -/
def paperGrid : Fields :=
  [("name", .string "paper-grid"), ("private", .bool true),
    ("main", .array [.string "paper-grid.html", .string "paper-cell.html"]),
    ("authors", .array [.string "Ada", .object [("name", .string "Bo"), ("homepage", .null)]]),
    ("license", .string "http://polymer.github.io/LICENSE.txt"), ("keywords", .array []),
    ("dependencies", .object [("paper-input", .string "^2.0.0"), ("input", .string "^1.0.0"),
      ("moment", .string "^2.0.0")]), ("devDependencies", .string "")]

/-- Two old names of one element. -/
def inputNames : Dependencies :=
  [("paper-input", ⟨.string "@polymer/paper-input", .string "^3.0.0"⟩),
    ("input", ⟨.string "@polymer/paper-input", .string "^2.9.0"⟩)]

/-- What exists for the package: an empty main document, and versions of packages that are pinned or
replaced as well. -/
def publishedGrid : Fields :=
  [("scripts", .object [("test", .string "wct")]), ("name", .string "grid"), ("main", .string ""),
    ("resolutions", .object [("samsam", .string "2.0.0"), ("lolex", .string "1.0.0")]),
    ("dependencies", .object [("@polymer/paper-input", .string "^1.0.0"), ("lit", .string "1")]),
    ("description", .string "A grid")]

theorem generate_again_paperGrid :
    WellTyped paperGrid ∧ Named inputNames ∧ (∀ fields ∈ some publishedGrid, Lasting fields) ∧
      ∃ r r', generate paperGrid (.string "@polymer/paper-grid") (.string "3.0.0") inputNames
          (.object publishedGrid) [.text "moment"] = .ok r ∧
        generate paperGrid (.string "@polymer/paper-grid") (.string "3.0.0") inputNames
          (.object r.fields) [] = .ok r' ∧
        r'.fields = r.fields := by
  have hold : WellTyped paperGrid := ⟨by decide, by decide⟩
  have htable : Named inputNames := by
    unfold Named
    decide
  have hexisting : ∀ fields ∈ some publishedGrid, Lasting fields := by
    unfold Lasting
    decide
  exact ⟨hold, htable, hexisting, generate_again hold htable _ _ hexisting _ _⟩

end PackageJson

end HtmlModules
