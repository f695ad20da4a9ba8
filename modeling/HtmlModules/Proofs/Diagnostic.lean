import HtmlModules.Diagnostic
import Mathlib.Data.List.Basic

/-!
# Diagnostics stay

What was reported stays (`subset_reportAll`). A failure has a code of its own, so its report is never
dropped for an earlier warning: afterwards an error about its file is there (`hasErrorIn_report`).
-/

namespace HtmlModules

/-- The code of the diagnostic for a document that failed. -/
def failureCode : String := "E0001"

/-- The code of failures stands at errors only. -/
def Diagnostic.WellCoded (d : Diagnostic) : Prop := d.code = some failureCode → d.severity = .error

/-- A diagnostic with a code other than that of failures is well coded. -/
theorem Diagnostic.wellCoded_of_code {d : Diagnostic} {code : String} (h : d.code = some code)
    (hne : code ≠ failureCode) : d.WellCoded :=
  fun hfailure => absurd (Option.some.inj (h.symm.trans hfailure)) hne

/-- An error about a file has been reported. -/
def Diagnostics.HasErrorIn (ds : Diagnostics) (file : String) : Prop :=
  ∃ d ∈ ds, d.severity = .error ∧ d.location.map (·.file) = some file

namespace Diagnostics

/-- To report a diagnostic adds it at the end, or nothing if it was there. -/
theorem report_eq (ds : Diagnostics) (d : Diagnostic) :
    ds.report d = ds ∨ ds.report d = ds ++ [d] := by
  unfold report
  split
  · exact Or.inl rfl
  · exact Or.inr rfl

/-- No diagnostic is lost when another one is reported. -/
theorem subset_report (ds : Diagnostics) (d : Diagnostic) : ds ⊆ ds.report d := by
  rcases report_eq ds d with h | h <;> simp [h]

theorem forall_mem_report {ds : Diagnostics} {d : Diagnostic} {P : Diagnostic → Prop}
    (hds : ∀ e ∈ ds, P e) (hd : P d) : ∀ e ∈ ds.report d, P e := by
  rcases report_eq ds d with h | h
  · rwa [h]
  · rw [h]
    exact List.forall_mem_append.2 ⟨hds, List.forall_mem_singleton.2 hd⟩

/-- No diagnostic is lost when others are reported. -/
theorem subset_reportAll : ∀ (ds news : Diagnostics), ds ⊆ ds.reportAll news
  | ds, [] => List.Subset.refl ds
  | ds, d :: news => List.Subset.trans (subset_report ds d) (subset_reportAll (ds.report d) news)

theorem forall_mem_reportAll {P : Diagnostic → Prop} :
    ∀ {news ds : Diagnostics}, (∀ e ∈ ds, P e) → (∀ e ∈ news, P e) → ∀ e ∈ ds.reportAll news, P e
  | [], _, hds, _ => hds
  | d :: news, ds, hds, hnews => by
    obtain ⟨hd, hnews⟩ := List.forall_mem_cons.1 hnews
    change ∀ e ∈ (ds.report d).reportAll news, P e
    exact forall_mem_reportAll (forall_mem_report hds hd) hnews

theorem reportAll_append (ds news more : Diagnostics) :
    ds.reportAll (news ++ more) = (ds.reportAll news).reportAll more :=
  List.foldl_append

/-- An error in a file stays when diagnostics are added. -/
theorem HasErrorIn.mono {ds es : Diagnostics} {file : String} (h : ds.HasErrorIn file)
    (hsub : ds ⊆ es) : es.HasErrorIn file :=
  let ⟨d, hd, herror⟩ := h
  ⟨d, hsub hd, herror⟩

/-- After a failure was reported there is an error about its file. -/
theorem hasErrorIn_report {ds : Diagnostics} (hds : ∀ e ∈ ds, e.WellCoded) {d : Diagnostic}
    {file : String} (hcode : d.code = some failureCode) (hseverity : d.severity = .error)
    (hfile : d.location.map (·.file) = some file) : (ds.report d).HasErrorIn file := by
  unfold report
  split
  · next hsame =>
    obtain ⟨e, he, hsameAs⟩ := List.any_eq_true.1 hsame
    simp only [Diagnostic.sameAs, Bool.and_eq_true, beq_iff_eq] at hsameAs
    obtain ⟨⟨hcodes, -⟩, hfiles⟩ := hsameAs
    exact ⟨e, he, hds e he (hcodes.symm.trans hcode), hfiles.symm.trans hfile⟩
  · exact ⟨d, by simp, hseverity, hfile⟩

end Diagnostics

end HtmlModules
