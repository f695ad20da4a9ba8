import HtmlModules.Proofs.Lowering
import HtmlModules.Proofs.Splicing
import HtmlModules.Proofs.Unwrapping

/-!
# Rounds come to an end

An edit of a round takes characters away: a directive is deleted, and the body of a wrapper is shorter
than its statement, which holds the braces too (`Pass.Separated.shortens`). So each round that changes
a program gives a shorter one (`Pass.Advances.length_lt`), and unwrapping ends with a program in which
a round finds nothing, or with a text that is no program (`Pass.unwrapAll_ends`).
-/

namespace HtmlModules

open Text Script

namespace Text

/-! ## Edits that take characters away -/

/-- If each edit makes a text shorter by some characters at least, all of them together do. -/
theorem Spliced.length_add_le {least offset : Nat} {source text : List Char} {edits : List Edit}
    (h : Spliced offset source edits text)
    (hedits : ∀ e ∈ edits, (e.text.length : Int) + least ≤ e.stop - e.start) :
    text.length + least * edits.length ≤ source.length := by
  induction h with
  | rest => simp
  | @edit offset gap old source result e edits hstart hstop _ ih =>
    have hrest := ih fun f hf => hedits f (List.mem_cons_of_mem e hf)
    have hfirst := hedits e List.mem_cons_self
    simp only [List.length_append, List.length_cons, String.length_toList, Nat.mul_succ]
    omega

theorem length_add_le_of_applyEdits {least : Nat} {source text : String} {batch : List Edit}
    (h : applyEdits source batch = .ok text)
    (hedits : ∀ e ∈ batch, (e.text.length : Int) + least ≤ e.stop - e.start) :
    text.length + least * batch.length ≤ source.length := by
  have hperm := orderEdits_perm batch
  have hlength := (spliced_of_applyEdits h).length_add_le
    fun e he => hedits e (hperm.mem_iff.1 he)
  rwa [hperm.length_eq, String.length_toList, String.length_toList] at hlength

theorem length_slice_le (source : String) (start stop : Nat) :
    (slice source start stop).length ≤ stop - start := by
  rw [← String.length_toList, toList_slice]
  exact List.length_take_le _ _

theorem length_trimBoth_le (p : Char → Bool) (source : String) :
    (trimBoth p source).length ≤ source.length := by
  have hfront := (List.dropWhile_sublist (l := source.toList) p).length_le
  have hback := (List.dropWhile_sublist (l := (source.toList.dropWhile p).reverse) p).length_le
  rw [trimBoth, String.length_ofList, dropEndWhile, List.length_reverse, ← String.length_toList]
  exact hback.trans (by rwa [List.length_reverse])

end Text

namespace Pass

open Node

variable {source : String} {program : Node}

/-! ## One round -/

/-- What is assumed of the ranges in a program: its statements take text of the source and no text
belongs to two of them, and the body of a wrapper lies in its statement. -/
structure Separated (source : String) (program : Node) : Prop where
  proper : ∀ s ∈ statements program, s.start < s.stop ∧ s.stop ≤ source.length
  beside : (statements program).Pairwise Beside
  body : ∀ s ∈ statements program, ∀ f ∈ removableWrapper? s, ∀ body ∈ f.child? .body,
    s.start ≤ body.start ∧ body.stop ≤ s.stop

instance (source : String) (program : Node) : Decidable (Separated source program) :=
  decidable_of_iff ((∀ s ∈ statements program, s.start < s.stop ∧ s.stop ≤ source.length) ∧
      (statements program).Pairwise Beside ∧
      ∀ s ∈ statements program, ∀ f ∈ removableWrapper? s, ∀ body ∈ f.child? .body,
        s.start ≤ body.start ∧ body.stop ≤ s.stop)
    ⟨fun ⟨hproper, hbeside, hbody⟩ => ⟨hproper, hbeside, hbody⟩,
      fun h => ⟨h.proper, h.beside, h.body⟩⟩

/-- A body is not longer than the text between its braces. -/
theorem length_bodyText_le (source : String) {f body : Node} (hbody : f.child? .body = some body) :
    (bodyText source f).length ≤ body.stop - 1 - (body.start + 1) := by
  have hslice := length_slice_le source (body.start + 1) (body.stop - 1)
  simp only [bodyText, hbody]
  refine (length_trimBoth_le _ _).trans (le_trans ?_ hslice)
  cases hcut : applyEdits (slice source (body.start + 1) (body.stop - 1))
      (directiveCuts (body.start + 1) f.bodyStatements) with
  | error conflict => exact le_rfl
  | ok cut =>
    have hlength := @length_add_le_of_applyEdits 0 _ _ _ hcut fun e he => by
      obtain ⟨-, hle, -⟩ := (applicable_of_applyEdits hcut).inside e he
      obtain ⟨s, -, rfl⟩ := List.mem_map.1 he
      simp only [Edit.delete, String.length_empty] at hle ⊢
      omega
    simpa only [Except.toOption, Option.getD_some, Nat.zero_mul, Nat.add_zero] using hlength

/-- An edit of a round replaces a statement by a shorter text. -/
theorem Separated.shortens (h : Separated source program) {x : Node × Fate} (hx : x ∈ fates program)
    {e : Edit} (he : e ∈ x.2.edits source x.1) :
    e.start = x.1.start ∧ e.stop = x.1.stop ∧ (e.text.length : Int) + 1 ≤ e.stop - e.start := by
  obtain ⟨s, fate⟩ := x
  have hs := mem_statements_of_mem_fates hx
  have hproper := (h.proper s hs).1
  cases fate with
  | kept => cases he
  | dropped =>
    obtain rfl := List.mem_singleton.1 he
    refine ⟨rfl, rfl, ?_⟩
    simp only [Edit.delete, String.length_empty]
    omega
  | opened f =>
    obtain rfl := List.mem_singleton.1 he
    have hlength : (bodyText source f).length + 1 ≤ s.stop - s.start := by
      cases hbody : f.child? .body with
      | none =>
        simp only [bodyText, hbody, String.length_empty]
        omega
      | some body =>
        have hinside := h.body s hs f (removableWrapper?_of_mem_fates hx) body hbody
        have := length_bodyText_le source hbody
        omega
    refine ⟨rfl, rfl, ?_⟩
    simp only [Edit.replace]
    omega

/-- The edits of a round do not overlap. -/
theorem Separated.allApart (h : Separated source program) :
    AllApart source.length (unwrapRound source program).edits := by
  have hbeside : (fates program).Pairwise fun x y => x.1.Beside y.1 := by
    rw [← List.pairwise_map (f := Prod.fst) (R := Beside), fates, map_fst_fatesFrom]
    exact h.beside
  rw [unwrapRound_edits_eq]
  refine ⟨fun e he => ?_, List.pairwise_flatMap.2 ⟨fun x hx => ?_, ?_⟩⟩
  · obtain ⟨x, hx, he⟩ := List.mem_flatMap.1 he
    obtain ⟨hstart, hstop, -⟩ := h.shortens hx he
    have := h.proper x.1 (mem_statements_of_mem_fates hx)
    rw [Edit.fits_iff]
    omega
  · obtain ⟨s, fate⟩ := x
    cases fate with
    | kept => exact .nil
    | dropped => exact List.pairwise_singleton _ _
    | opened f => exact List.pairwise_singleton _ _
  · refine hbeside.imp_of_mem fun {x y} hx hy hxy e he f hf => ?_
    obtain ⟨hstart, hstop, -⟩ := h.shortens hx he
    obtain ⟨hstart', hstop', -⟩ := h.shortens hy hf
    unfold Beside at hxy
    unfold Edit.Apart
    omega

/-- A round changes the first text, a program, and gives the second one. -/
def Advances (source next : String) : Prop :=
  ∃ program, Script.parse source = .ok program ∧ (unwrapRound source program).edits ≠ [] ∧
    applyEdits source (unwrapRound source program).edits = .ok next

/-- A round that changes a program makes it shorter. -/
theorem Advances.length_lt {next : String} (h : Advances source next)
    (hseparated : ∀ program, Script.parse source = .ok program → Separated source program) :
    next.length < source.length := by
  obtain ⟨program, hparse, hsome, hnext⟩ := h
  have hlength := @length_add_le_of_applyEdits 1 _ _ _ hnext fun e he => by
    rw [unwrapRound_edits_eq] at he
    obtain ⟨x, hx, he⟩ := List.mem_flatMap.1 he
    exact ((hseparated program hparse).shortens hx he).2.2
  have := List.length_pos_iff.2 hsome
  omega

/-! ## All rounds -/

theorem readProgram_of_error {e : SyntaxError} {c : Context} {f : Findings}
    (h : Script.parse source = .error e) :
    readProgram source c f = .error (.script e c.file.url) f := by
  unfold readProgram
  rw [h]
  rfl

theorem exists_forM_warnCollision (collisions : List (List String)) (c : Context) (f : Findings) :
    ∃ g, collisions.forM warnCollision c f = .ok () g := by
  induction collisions generalizing f with
  | nil => exact ⟨f, rfl⟩
  | cons names collisions ih =>
    obtain ⟨g, hwarn⟩ : ∃ g, warnCollision names c f = .ok () g := ⟨_, rfl⟩
    obtain ⟨g', hrest⟩ := ih g
    exact ⟨g', (bind_of_ok hwarn).trans hrest⟩

/-- Unwrapping fails with what is no program. -/
theorem unwrapAll_of_error {e : SyntaxError} (h : Script.parse source = .error e) (c : Context)
    (f : Findings) : unwrapAll source c f = .error (.script e c.file.url) f := by
  rw [unwrapAll, bind_of_error (readProgram_of_error h)]

/-- Unwrapping leaves a program in which a round finds nothing. -/
theorem exists_unwrapAll_eq_self (hparse : Script.parse source = .ok program)
    (hnone : (unwrapRound source program).edits = []) (c : Context) (f : Findings) :
    ∃ g, unwrapAll source c f = .ok source g := by
  obtain ⟨g, hwarn⟩ := exists_forM_warnCollision (unwrapRound source program).collisions c f
  refine ⟨g, ?_⟩
  rw [unwrapAll, bind_of_ok (readProgram_eq_ok.2 ⟨hparse, rfl⟩), bind_of_ok hwarn, hnone]
  rfl

/-- Unwrapping goes on with what a round makes of a program, as long as that is shorter. -/
theorem Advances.exists_unwrapAll_eq {next : String} (h : Advances source next) (c : Context)
    (f : Findings) : ∃ g, unwrapAll source c f =
      if next.length < source.length then unwrapAll next c g else .ok next g := by
  obtain ⟨program, hparse, hsome, hnext⟩ := h
  obtain ⟨g, hwarn⟩ := exists_forM_warnCollision (unwrapRound source program).collisions c f
  refine ⟨g, ?_⟩
  rw [unwrapAll, bind_of_ok (readProgram_eq_ok.2 ⟨hparse, rfl⟩), bind_of_ok hwarn,
    if_neg (by simpa using hsome), bind_of_ok (edit_eq_ok.2 ⟨hnext, rfl⟩)]
  split_ifs <;> rfl

/-- Unwrapping comes to an end, if the ranges are as assumed in all programs that it comes to: each
round that changes a program makes it shorter, so there is no endless row of rounds. What comes last is
a program in which a round finds nothing, or a text that is no program. -/
theorem unwrapAll_ends
    (hseparated : ∀ reached, Relation.ReflTransGen Advances source reached →
      ∀ program, Script.parse reached = .ok program → Separated reached program)
    (c : Context) (f : Findings) :
    (∀ reached, Relation.ReflTransGen Advances source reached →
        ∀ next, Advances reached next → next.length < reached.length) ∧
      Acc (fun next reached => Advances reached next) source ∧
      ∃ last, Relation.ReflTransGen Advances source last ∧
        ((∃ program g, Script.parse last = .ok program ∧ (unwrapRound last program).edits = [] ∧
            unwrapAll source c f = .ok last g) ∨
          ∃ e g, Script.parse last = .error e ∧
            unwrapAll source c f = .error (.script e c.file.url) g) := by
  refine ⟨fun reached hreached next hnext => hnext.length_lt (hseparated reached hreached), ?_, ?_⟩
  · induction hn : source.length using Nat.strongRecOn generalizing source with
    | _ n ih =>
      refine .intro source fun next hnext => ?_
      exact ih next.length (hn ▸ hnext.length_lt (hseparated source .refl))
        (fun reached hreached => hseparated reached (.head hnext hreached)) rfl
  · induction hn : source.length using Nat.strongRecOn generalizing source f with
    | _ n ih =>
      cases hparse : Script.parse source with
      | error e => exact ⟨source, .refl, .inr ⟨e, f, hparse, unwrapAll_of_error hparse c f⟩⟩
      | ok program =>
        by_cases hnone : (unwrapRound source program).edits = []
        · obtain ⟨g, hself⟩ := exists_unwrapAll_eq_self hparse hnone c f
          exact ⟨source, .refl, .inl ⟨program, g, hparse, hnone, hself⟩⟩
        · obtain ⟨next, hnext⟩ := (hseparated source .refl program hparse).allApart.applyEdits
          have hadvances : Advances source next := ⟨program, hparse, hnone, hnext⟩
          have hlt := hadvances.length_lt (hseparated source .refl)
          obtain ⟨g, hgoes⟩ := hadvances.exists_unwrapAll_eq c f
          rw [hgoes, if_pos hlt]
          obtain ⟨last, hlast, hend⟩ := ih next.length (hn ▸ hlt)
            (fun reached hreached => hseparated reached (.head hadvances hreached)) g rfl
          exact ⟨last, .head hadvances hlast, hend⟩

/-- The texts that a list of texts leads to are in it, and have the ranges that are assumed. -/
def ClosedUnderRounds (texts : List String) : Prop :=
  ∀ text ∈ texts, (Script.parse text).toOption.all (fun program =>
    decide (Separated text program) && ((unwrapRound text program).edits.isEmpty ||
      (applyEdits text (unwrapRound text program).edits).toOption.all texts.contains)) = true

instance (texts : List String) : Decidable (ClosedUnderRounds texts) :=
  inferInstanceAs (Decidable (∀ text ∈ texts, _))

theorem ClosedUnderRounds.separated {texts : List String} (h : ClosedUnderRounds texts)
    {program : Node} (hsource : source ∈ texts) (hparse : Script.parse source = .ok program) :
    Separated source program := by
  have hsource := h source hsource
  simp only [hparse, Except.toOption, Option.all_some, Bool.and_eq_true] at hsource
  exact of_decide_eq_true hsource.1

theorem ClosedUnderRounds.mem {texts : List String} (h : ClosedUnderRounds texts)
    (hsource : source ∈ texts) {reached : String}
    (hreached : Relation.ReflTransGen Advances source reached) : reached ∈ texts := by
  induction hreached with
  | refl => exact hsource
  | @tail reached next _ hadvances hmem =>
    obtain ⟨program, hparse, hsome, hnext⟩ := hadvances
    have hmem := h reached hmem
    simp only [hparse, hnext, Except.toOption, Option.all_some, Bool.and_eq_true, Bool.or_eq_true,
      List.isEmpty_iff, hsome, false_or] at hmem
    exact List.contains_iff_mem.1 hmem.2

/-- A directive in front of a wrapper in a wrapper. -/
def nestedWrappers : String :=
  "'use strict';\n(function() \x7b (function() \x7b a(); \x7d)(); \x7d)();"

/-- What the first round makes of it. -/
def innerWrapper : String := "\n (function() \x7b a(); \x7d)(); "

theorem unwrapAll_ends_nested :
    Advances nestedWrappers innerWrapper ∧ innerWrapper.length < nestedWrappers.length ∧
      Acc (fun next reached => Advances reached next) nestedWrappers ∧
      ∃ last, Relation.ReflTransGen Advances nestedWrappers last ∧
        ((∃ program g, Script.parse last = .ok program ∧ (unwrapRound last program).edits = [] ∧
            unwrapAll nestedWrappers loweringContext (.start nestedWrappers) = .ok last g) ∨
          ∃ e g, Script.parse last = .error e ∧
            unwrapAll nestedWrappers loweringContext (.start nestedWrappers) =
              .error (.script e loweringContext.file.url) g) := by
  have hclosed : ClosedUnderRounds [nestedWrappers, innerWrapper, "\n  a();  "] := by
    decide +kernel
  obtain ⟨program, hparse, hprogram⟩ := @exists_parse nestedWrappers (fun program =>
    decide ((unwrapRound nestedWrappers program).edits ≠ [] ∧
      applyEdits nestedWrappers (unwrapRound nestedWrappers program).edits = .ok innerWrapper))
    (by decide +kernel)
  have hadvances : Advances nestedWrappers innerWrapper :=
    ⟨program, hparse, of_decide_eq_true hprogram⟩
  obtain ⟨hshorter, hacc, hend⟩ := @unwrapAll_ends nestedWrappers
    (fun reached hreached program hparse =>
      hclosed.separated (hclosed.mem (by decide) hreached) hparse)
    loweringContext (.start nestedWrappers)
  exact ⟨hadvances, hshorter _ .refl _ hadvances, hacc, hend⟩

end Pass

end HtmlModules
