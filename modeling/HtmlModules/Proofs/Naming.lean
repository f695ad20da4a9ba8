import HtmlModules.Identifier
import Mathlib.Data.List.Nodup
import Mathlib.Data.List.Perm.Subperm

/-!
# Fresh names

`findAvailable` gives a name that is neither in use nor reserved (`findAvailable_not_mem`,
`findAvailable_not_reserved`). The numbered names are distinct, so one of the first `n + 1` of them
is not among `n` names in use, and the search cannot run out. `allocate` puts the new name behind
those in use (`allocate_snd`).
-/

namespace HtmlModules.Identifier

/-! ## The search -/

/-- A numbered name is the name, a dollar sign and the digits. -/
theorem toList_numbered (name : String) (n : Nat) :
    (numbered name n).toList = name.toList ++ '$' :: (toString n).toList := by
  simp [numbered, toString]

theorem numbered_injective (name : String) : Function.Injective (numbered name) := by
  intro m n h
  have hlist := congrArg String.toList h
  rw [toList_numbered, toList_numbered, List.append_cancel_left_eq] at hlist
  have hdigits := (List.cons.inj hlist).2
  simpa [Nat.toString_eq_ofList_toDigits] using
    congrArg (fun cs => Nat.ofDigitChars 10 cs 0) hdigits

/-- The search ends at a name that is not in use, or has seen all its numbers in use. -/
theorem freeSuffix_spec (requested : String) (used : List String) :
    ∀ fuel n, numbered requested (freeSuffix requested used fuel n) ∉ used ∨
      (freeSuffix requested used fuel n = n + fuel ∧
        ∀ k, n ≤ k → k < n + fuel → numbered requested k ∈ used)
  | 0, n => Or.inr ⟨rfl, fun k h₁ h₂ => by omega⟩
  | fuel + 1, n => by
    rw [freeSuffix]
    split_ifs with h
    · have hn : numbered requested n ∈ used := List.contains_iff_mem.1 h
      refine (freeSuffix_spec requested used fuel (n + 1)).imp_right fun ⟨he, hk⟩ => ⟨by omega, ?_⟩
      intro k h₁ h₂
      rcases Nat.eq_or_lt_of_le h₁ with rfl | h₁
      · exact hn
      · exact hk k h₁ (by omega)
    · exact Or.inl fun hn => h (List.contains_iff_mem.2 hn)

/-- As many steps as there are names in use are enough. -/
theorem numbered_freeSuffix_not_mem (requested : String) (used : List String) :
    numbered requested (freeSuffix requested used used.length 0) ∉ used := by
  rcases freeSuffix_spec requested used used.length 0 with h | ⟨he, hk⟩
  · exact h
  · intro hmem
    rw [he, Nat.zero_add] at hmem
    have hsub : (List.range (used.length + 1)).map (numbered requested) ⊆ used := by
      intro name hname
      obtain ⟨k, hk', rfl⟩ := List.mem_map.1 hname
      rcases Nat.lt_or_eq_of_le (Nat.le_of_lt_succ (List.mem_range.1 hk')) with hlt | rfl
      · exact hk k (Nat.zero_le k) (by omega)
      · exact hmem
    have hle := (List.nodup_range.map (numbered_injective requested)).subperm hsub |>.length_le
    rw [List.length_map, List.length_range] at hle
    omega

/-- An available name is not in use. -/
theorem findAvailable_not_mem (requested : String) (used : List String) :
    findAvailable requested used ∉ used := by
  unfold findAvailable
  split_ifs with h
  · exact numbered_freeSuffix_not_mem requested used
  · intro hmem
    exact h (by simp [hmem])

/-! ## Reserved words -/

theorem dollar_mem_numbered (name : String) (n : Nat) : '$' ∈ (numbered name n).toList := by
  simp [toList_numbered]

theorem dollar_not_mem_of_reserved : ∀ word ∈ reservedWords, '$' ∉ word.toList := by
  decide

/-- An available name is not reserved. -/
theorem findAvailable_not_reserved (requested : String) (used : List String) :
    findAvailable requested used ∉ reservedWords := by
  unfold findAvailable
  split_ifs with h
  · exact fun hmem => dollar_not_mem_of_reserved _ hmem (dollar_mem_numbered _ _)
  · intro hmem
    exact h (by simp [hmem])

/-! ## Allocation -/

theorem mem_use {name other : String} {used : List String} :
    other ∈ use name used ↔ other ∈ used ∨ other = name := by
  unfold use
  split_ifs with h
  · have hname : name ∈ used := List.contains_iff_mem.1 h
    exact ⟨Or.inl, fun ho => ho.elim id fun he => he ▸ hname⟩
  · simp

/-- An allocated name is new, so it goes behind the names in use. -/
theorem allocate_snd (requested : String) (used : List String) :
    (allocate requested used).2 = used ++ [findAvailable requested used] := by
  have h : ¬used.contains (findAvailable requested used) := by
    rw [List.contains_iff_mem]
    exact findAvailable_not_mem requested used
  exact if_neg h

end HtmlModules.Identifier
