import HtmlModules.Registry
import Mathlib.Data.List.Nodup

/-!
# The first record of a path wins

`addNew` puts the records it accepts behind those that are there (`addNew_fst`). A path that is not
registered yet is looked up as its first record among the new ones (`lookup_addNew`), so records
that are added in several steps might as well be added at once (`addNew_append`). In a registry that
starts empty no path comes twice, and a record is in it if and only if its path is looked up as it
(`mem_addNew_iff`).
-/

attribute [ext] HtmlModules.ExportRecord

namespace HtmlModules.Registry

/-! ## Look-up -/

@[simp] theorem lookup_nil (path : String) : lookup [] path = none :=
  rfl

theorem lookup_cons (q : ExportRecord) (r : Registry) (path : String) :
    lookup (q :: r) path = if q.path = path then some q else r.lookup path := by
  rw [lookup, List.find?_cons]
  by_cases h : q.path = path
  · rw [beq_iff_eq.2 h, if_pos h]
  · rw [beq_eq_false_iff_ne.2 h, if_neg h, lookup]

/-- The second registry is asked where the first one has no record. -/
theorem lookup_append (r s : Registry) (path : String) :
    lookup (r ++ s) path = (r.lookup path).or (s.lookup path) :=
  List.find?_append

/-- What is looked up has the path and is in the registry. -/
theorem mem_of_lookup {r : Registry} {path : String} {q : ExportRecord}
    (h : r.lookup path = some q) : q ∈ r ∧ q.path = path :=
  ⟨List.mem_of_find?_eq_some h, by simpa using List.find?_some h⟩

theorem lookup_eq_none_iff {r : Registry} {path : String} :
    r.lookup path = none ↔ ∀ q ∈ r, q.path ≠ path := by
  simp [lookup]

/-- If no path comes twice, every record is what its path is looked up as. -/
theorem lookup_of_mem {r : Registry} (hd : (r.map (·.path)).Nodup) {q : ExportRecord}
    (h : q ∈ r) : r.lookup q.path = some q := by
  obtain ⟨q', hq'⟩ : ∃ q', r.lookup q.path = some q' :=
    Option.ne_none_iff_exists'.1 fun hn => lookup_eq_none_iff.1 hn q h rfl
  obtain ⟨hmem, hpath⟩ := mem_of_lookup hq'
  rw [hq', List.inj_on_of_nodup_map hd hmem h hpath]

/-! ## Adding -/

theorem addNew_cons_of_some {r : Registry} {q : ExportRecord}
    (h : (r.lookup q.path).isSome = true) (rest : List ExportRecord) :
    r.addNew (q :: rest) = r.addNew rest := by
  rw [addNew, if_pos h]

theorem addNew_cons_of_none {r : Registry} {q : ExportRecord} (h : r.lookup q.path = none)
    (rest : List ExportRecord) :
    r.addNew (q :: rest) =
      ((Registry.addNew (r ++ [q]) rest).1, q :: (Registry.addNew (r ++ [q]) rest).2) := by
  rw [addNew, if_neg (by simp [h])]

/-- The accepted records stand behind the old ones, in their order. -/
theorem addNew_fst :
    ∀ (news : List ExportRecord) (r : Registry), (r.addNew news).1 = r ++ (r.addNew news).2
  | [], r => (List.append_nil r).symm
  | q :: rest, r => by
    cases h : r.lookup q.path with
    | some old => rw [addNew_cons_of_some (by simp [h]), addNew_fst rest r]
    | none =>
      rw [addNew_cons_of_none h]
      exact (addNew_fst rest (r ++ [q])).trans (List.append_assoc r [q] _)

/-- An old record stays, and of the new ones of a path the first is accepted. -/
theorem lookup_addNew (path : String) :
    ∀ (news : List ExportRecord) (r : Registry),
      (r.addNew news).1.lookup path = (r.lookup path).or (lookup news path)
  | [], r => (Option.or_none).symm
  | q :: rest, r => by
    cases h : r.lookup q.path with
    | some old =>
      rw [addNew_cons_of_some (by simp [h]), lookup_addNew path rest r, lookup_cons]
      by_cases hp : q.path = path
      · rw [← hp, h, Option.some_or, Option.some_or]
      · rw [if_neg hp]
    | none =>
      rw [addNew_cons_of_none h, lookup_addNew path rest (r ++ [q]), lookup_append, lookup_cons,
        lookup_cons]
      by_cases hp : q.path = path
      · rw [if_pos hp, if_pos hp, ← hp, h, Option.none_or, Option.some_or]
      · rw [if_neg hp, if_neg hp, lookup_nil, Option.or_none]

theorem nodup_addNew :
    ∀ (news : List ExportRecord) {r : Registry}, (r.map (·.path)).Nodup →
      ((r.addNew news).1.map (·.path)).Nodup
  | [], _, h => h
  | q :: rest, r, h => by
    cases hq : r.lookup q.path with
    | some old =>
      rw [addNew_cons_of_some (by simp [hq])]
      exact nodup_addNew rest h
    | none =>
      rw [addNew_cons_of_none hq]
      refine nodup_addNew rest ?_
      rw [List.map_append, List.map_singleton]
      refine List.nodup_append.2 ⟨h, List.nodup_singleton _, ?_⟩
      rintro a ha b hb rfl
      obtain ⟨p, hp, hpath⟩ := List.mem_map.1 ha
      exact lookup_eq_none_iff.1 hq p hp (hpath.trans (List.mem_singleton.1 hb))

/-- Records that are added one list after the other might as well be added at once. -/
theorem addNew_append (more : List ExportRecord) :
    ∀ (news : List ExportRecord) (r : Registry),
      (r.addNew (news ++ more)).1 = ((r.addNew news).1.addNew more).1
  | [], r => rfl
  | q :: rest, r => by
    cases h : r.lookup q.path with
    | some old =>
      rw [List.cons_append, addNew_cons_of_some (by simp [h]), addNew_cons_of_some (by simp [h]),
        addNew_append more rest r]
    | none =>
      rw [List.cons_append, addNew_cons_of_none h, addNew_cons_of_none h]
      exact addNew_append more rest (r ++ [q])

/-- In a registry that starts empty a record is present if and only if it is the first of its
path. -/
theorem mem_addNew_iff (news : List ExportRecord) (q : ExportRecord) :
    q ∈ (addNew [] news).1 ↔ lookup news q.path = some q := by
  have hlookup := lookup_addNew q.path news []
  have hnodup := nodup_addNew news (r := []) List.nodup_nil
  rw [lookup_nil, Option.none_or] at hlookup
  rw [← hlookup]
  exact ⟨lookup_of_mem hnodup, fun h => (mem_of_lookup h).1⟩

end HtmlModules.Registry
