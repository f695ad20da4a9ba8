import HtmlModules.Proofs.Naming
import Mathlib.Order.Bounds.Basic

/-!
# The first free name

A requested name that cannot be had is numbered, and the numbers are tried one after the other as long
as the numbered name is in use (`Search`). However many names are in use, the search ends
(`search_freeSuffix`), and it ends at the least number that is free (`Search.isLeast`). So
`findAvailable` gives the first name that can be had (`findAvailable_first`), and names that are
allocated one after the other are new and distinct (`allocateAll_fresh`).
-/

namespace HtmlModules.Identifier

variable {requested : String} {used : List String}

/-! ## The search without a bound -/

/-- The search that stands at one number ends at another: it stops where the numbered name is not in
use, and else it goes on to the next number. -/
inductive Search (requested : String) (used : List String) : Nat → Nat → Prop
  | stop {n : Nat} : numbered requested n ∉ used → Search requested used n n
  | next {n k : Nat} : numbered requested n ∈ used → Search requested used (n + 1) k →
    Search requested used n k

/-- A search ends at the least number that is free. -/
theorem Search.isLeast {n k : Nat} (h : Search requested used n k) :
    IsLeast {j | n ≤ j ∧ numbered requested j ∉ used} k := by
  induction h with
  | stop hfree => exact ⟨⟨le_rfl, hfree⟩, fun j hj => hj.1⟩
  | @next n k hused _ ih =>
    obtain ⟨⟨hle, hfree⟩, hleast⟩ := ih
    refine ⟨⟨by omega, hfree⟩, fun j ⟨hj, hfreej⟩ => hleast ⟨?_, hfreej⟩⟩
    -- the number that the search has passed is in use
    have hne : n ≠ j := by
      rintro rfl
      exact hfreej hused
    omega

/-- If a bounded search ends at a free number, the search ends there without the bound. -/
theorem search_of_freeSuffix : ∀ {fuel n : Nat},
    numbered requested (freeSuffix requested used fuel n) ∉ used →
      Search requested used n (freeSuffix requested used fuel n)
  | 0, _, hfree => .stop hfree
  | fuel + 1, n, hfree => by
    rw [freeSuffix] at hfree ⊢
    split_ifs at hfree ⊢ with hused
    · exact .next (List.contains_iff_mem.1 hused) (search_of_freeSuffix hfree)
    · exact .stop hfree

/-- The search ends, after as many numbers as there are names in use at the latest. -/
theorem search_freeSuffix (requested : String) (used : List String) :
    Search requested used 0 (freeSuffix requested used used.length 0) :=
  search_of_freeSuffix (numbered_freeSuffix_not_mem requested used)

/-! ## Available names -/

theorem numbered_eq (name : String) (n : Nat) : numbered name n = name ++ "$" ++ toString n := by
  apply String.toList_injective
  simp [toList_numbered]

/-- A numbered name is not the name that was numbered. -/
theorem numbered_ne (name : String) (n : Nat) : numbered name n ≠ name := by
  intro h
  have hlength := congrArg (fun s => s.toList.length) h
  simp [toList_numbered] at hlength

/-- The requested name is available if it is neither in use nor reserved, and only then. -/
theorem findAvailable_eq_iff :
    findAvailable requested used = requested ↔ requested ∉ used ∧ requested ∉ reservedWords := by
  unfold findAvailable
  split_ifs with h
  · simp only [Bool.or_eq_true, List.contains_iff_mem] at h
    exact iff_of_false (numbered_ne _ _) fun ⟨hused, hreserved⟩ => h.elim hused hreserved
  · simp only [Bool.or_eq_true, List.contains_iff_mem, not_or] at h
    exact iff_of_true rfl h

/-- If the requested name cannot be had, the available one is numbered by where the search ends. -/
theorem findAvailable_eq_numbered (h : requested ∈ used ∨ requested ∈ reservedWords) :
    findAvailable requested used =
      numbered requested (freeSuffix requested used used.length 0) := by
  have htaken : (used.contains requested || reservedWords.contains requested) = true := by
    simpa only [Bool.or_eq_true, List.contains_iff_mem] using h
  rw [findAvailable, if_pos htaken]

/-! ## Names one after the other -/

/-- Allocates names for requests one after the other; gives the names, and all names in use
afterwards. -/
def allocateAll : List String → List String → List String × List String
  | [], used => ([], used)
  | requested :: requests, used =>
    let (name, used) := allocate requested used
    let (names, used) := allocateAll requests used
    (name :: names, used)

/-- The first request is answered first, and the rest must also avoid its answer. -/
theorem allocateAll_cons (requested : String) (requests used : List String) :
    allocateAll (requested :: requests) used =
      (findAvailable requested used ::
          (allocateAll requests (used ++ [findAvailable requested used])).1,
        (allocateAll requests (used ++ [findAvailable requested used])).2) := by
  rw [← allocate_snd]
  rfl

/-- The allocated names are the new names in use. -/
theorem allocateAll_snd : ∀ requests used : List String,
    (allocateAll requests used).2 = used ++ (allocateAll requests used).1
  | [], used => (List.append_nil used).symm
  | requested :: requests, used => by
    rw [allocateAll_cons]
    dsimp only
    rw [allocateAll_snd requests, List.append_assoc, List.singleton_append]

/-- The allocated names are distinct, and none of them was in use. -/
theorem allocateAll_fresh : ∀ requests used : List String,
    (allocateAll requests used).1.Nodup ∧ (allocateAll requests used).1.Disjoint used
  | [], used => ⟨.nil, List.disjoint_nil_left used⟩
  | requested :: requests, used => by
    rw [allocateAll_cons]
    obtain ⟨hnodup, hdisjoint⟩ :=
      allocateAll_fresh requests (used ++ [findAvailable requested used])
    obtain ⟨hused, hname⟩ := List.disjoint_append_right.1 hdisjoint
    exact ⟨List.nodup_cons.2 ⟨List.disjoint_singleton.1 hname, hnodup⟩,
      List.disjoint_cons_left.2 ⟨findAvailable_not_mem requested used, hused⟩⟩

/-- An available name is neither in use nor reserved. It is the requested one if and only if that can
be had. The search through the numbers ends for all names in use, at the least number that is free,
and the available name has this number if the requested one cannot be had. So names that are allocated
one after the other are distinct, and none of them was in use. -/
theorem findAvailable_first (requested : String) (used : List String) :
    (findAvailable requested used ∉ used ∧ findAvailable requested used ∉ reservedWords) ∧
      (findAvailable requested used = requested ↔
        requested ∉ used ∧ requested ∉ reservedWords) ∧
      (∃ k, Search requested used 0 k ∧ IsLeast {j | requested ++ "$" ++ toString j ∉ used} k ∧
        findAvailable requested used =
          if requested ∉ used ∧ requested ∉ reservedWords then requested
          else requested ++ "$" ++ toString k) ∧
      ∀ requests, (allocateAll requests used).1.Nodup ∧
        (allocateAll requests used).1.Disjoint used ∧
        (allocateAll requests used).2 = used ++ (allocateAll requests used).1 := by
  refine ⟨⟨findAvailable_not_mem _ _, findAvailable_not_reserved _ _⟩, findAvailable_eq_iff,
    ?_, fun requests => ?_⟩
  · have hsearch := search_freeSuffix requested used
    refine ⟨_, hsearch, by simpa [numbered_eq] using hsearch.isLeast, ?_⟩
    split_ifs with hfree
    · exact findAvailable_eq_iff.2 hfree
    · rw [findAvailable_eq_numbered (by tauto), numbered_eq]
  · obtain ⟨hnodup, hdisjoint⟩ := allocateAll_fresh requests used
    exact ⟨hnodup, hdisjoint, allocateAll_snd requests used⟩

end HtmlModules.Identifier
