import Mathlib.Data.List.Forall2

/-!
# Computations that may fail

A computation of several steps succeeds if and only if each of them does (`Failing.bind_eq_ok`), and
a list is mapped if and only if each member is (`Failing.mapM_eq_ok`).
-/

namespace HtmlModules.Failing

variable {ε α β : Type}

/-- Two steps succeed if the first one does, and the second one with its result. -/
theorem bind_eq_ok {m : Except ε α} {k : α → Except ε β} {b : β} :
    (m >>= k) = .ok b ↔ ∃ a, m = .ok a ∧ k a = .ok b := by
  cases m with
  | ok a =>
    change k a = .ok b ↔ _
    simp
  | error e =>
    change Except.error e = .ok b ↔ _
    simp

/-- Two steps fail if the first one does, or the second one with its result. -/
theorem bind_eq_error {m : Except ε α} {k : α → Except ε β} {e : ε} :
    (m >>= k) = .error e ↔ m = .error e ∨ ∃ a, m = .ok a ∧ k a = .error e := by
  cases m with
  | ok a =>
    change k a = .error e ↔ _
    simp
  | error e' =>
    change Except.error e' = .error e ↔ _
    simp

/-- Steps over a list succeed if each of them does. -/
theorem mapM_eq_ok {k : α → Except ε β} {l : List α} {out : List β} :
    l.mapM k = .ok out ↔ List.Forall₂ (fun a b => k a = .ok b) l out := by
  induction l generalizing out with
  | nil =>
    rw [List.mapM_nil, List.forall₂_nil_left_iff]
    exact ⟨fun h => (Except.ok.inj h).symm, fun h => congrArg Except.ok h.symm⟩
  | cons a l ih =>
    simp only [List.mapM_cons, bind_eq_ok, ih, List.forall₂_cons_left_iff]
    constructor
    · rintro ⟨b, hb, bs, hbs, hout⟩
      exact ⟨b, bs, hb, hbs, (Except.ok.inj hout).symm⟩
    · rintro ⟨b, bs, hb, hbs, rfl⟩
      exact ⟨b, hb, bs, hbs, rfl⟩

/-- If no member fails, then a list can be mapped and filtered. -/
theorem exists_filterMapM_eq_ok {k : α → Except ε (Option β)} :
    ∀ {l : List α}, (∀ a ∈ l, ∃ b, k a = .ok b) → ∃ out, l.filterMapM k = .ok out
  | [], _ => ⟨[], rfl⟩
  | a :: l, h => by
    obtain ⟨⟨b, hb⟩, hl⟩ := List.forall_mem_cons.1 h
    obtain ⟨out, hout⟩ := exists_filterMapM_eq_ok hl
    refine ⟨b.toList ++ out, ?_⟩
    rw [List.filterMapM_cons, hb, hout]
    cases b <;> rfl

/-- A step that succeeds gives a result, whatever would stand for a missing one. -/
theorem eq_ok_getD {x : Except ε α} (h : x.toBool = true) (d : α) :
    x = .ok (x.toOption.getD d) := by
  cases x with
  | error e => cases h
  | ok a => rfl

/-! ## With a state -/

variable {σ : Type} {m : EStateM ε σ α} {k : α → EStateM ε σ β} {s s' : σ}

/-- The result of a computation that succeeds, and the state that it ends in. -/
def outcome? (m : EStateM ε σ α) (s : σ) : Option (α × σ) :=
  match m s with
  | .ok a s' => some (a, s')
  | .error .. => none

theorem outcome?_of_ok {a : α} (h : m s = .ok a s') : outcome? m s = some (a, s') := by
  rw [outcome?, h]

/-- Two steps over a state succeed if the first one does, and the second one from where it ends. -/
theorem run_bind_eq_ok {b : β} :
    (m >>= k) s = .ok b s' ↔ ∃ a mid, m s = .ok a mid ∧ k a mid = .ok b s' := by
  change EStateM.bind m k s = _ ↔ _
  unfold EStateM.bind
  cases m s <;> simp

/-- Two steps over a state fail if the first one does, or the second one from where it ends. -/
theorem run_bind_eq_error {e : ε} :
    (m >>= k) s = .error e s' ↔
      m s = .error e s' ∨ ∃ a mid, m s = .ok a mid ∧ k a mid = .error e s' := by
  change EStateM.bind m k s = _ ↔ _
  unfold EStateM.bind
  cases m s <;> simp

end HtmlModules.Failing
