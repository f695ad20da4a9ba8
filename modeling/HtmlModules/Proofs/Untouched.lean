import HtmlModules.Proofs.Copying
import Mathlib.Data.List.Infix

/-!
# Failing runs and the files

A run that fails has left the disk as it found it, unless an operation that writes or deletes
something has failed or the copying of the package has been given up (`untouched_of_error`). The
latter does happen, and then files stay behind: a package that is copied two levels down into itself
is copied until directories nest too deeply (`exists_touched_of_error`).
-/

namespace HtmlModules

open Text FileTree

/-- If the conversion of a package or of a workspace fails, then every file and directory is as it
was, unless the failure is that of an operation on files that the conversion has carried out: one
that writes or deletes something, or a step further down in a package that is copied. The latter fails
only if directories nest too deeply or if the package is copied into itself. -/
theorem untouched_of_error (cwd : String) (s s' : RunState) (e : Failure) :
    (∀ o : PackageOptions, Package.convert o cwd s = .error e s' →
      s'.disk = s.disk ∨ e.ofOperation = true ∧ (s.disk.FailedBetween e s'.disk ∨
        s.disk.GivesUp e s'.disk ∧ (s.disk.tree.Proper →
          s.disk.tree.Entangled (resolve cwd o.source) (resolve cwd o.target) s.room))) ∧
    (∀ o : WorkspaceOptions, Workspace.convert o cwd s = .error e s' →
      s'.disk = s.disk ∨ e.ofOperation = true ∧ s.disk.FailedBetween e s'.disk) := by
  refine ⟨fun o h => ?_, fun o h => ?_⟩
  · rcases Package.error_of_convert h with hsame | hfailed | hcopy
    · exact .inl hsame
    · exact .inr ⟨hfailed.ofOperation, .inl hfailed⟩
    obtain ⟨source, target, rfl, rfl, hthere, hgives, hrun⟩ := hcopy
    refine .inr ⟨hgives.ofOperation, .inr ⟨hgives, fun hproper => ?_⟩⟩
    obtain ⟨source, hsource, hfrom⟩ := exists_resolve cwd o.source
    obtain ⟨target, htarget, hto⟩ := exists_resolve cwd o.target
    rw [hfrom] at hthere
    rw [hfrom, hto] at hrun ⊢
    exact Filing.entangled_of_gaveUp hsource htarget hproper (kindAt_of_isDirectory hsource hthere)
      hrun hgives.gaveUp
  · exact ((Workspace.careful_convert o cwd).of_error h).imp_right fun h => ⟨h.ofOperation, h⟩

/-- A run in which a package is to be copied into a directory two levels down in itself, of which the
upper one is there. -/
def nested : RunState where
  disk := { tree := {
    files := [("/p/a.html", Utf8.encode "<script>Polymer.a = 1;</script>")]
    directories := ["/p/build"] } }

/-- Asks for that conversion; no document is converted. -/
def nestedPackage : PackageOptions where
  common := { importStyle := .path }
  source := "/p"
  target := "/p/build/out"
  name := some "x"
  version := some "1.0.0"
  includes := []

theorem proper_nested : nested.disk.tree.Proper :=
  @proper_of_names _ [["p", "a.html"]] [["p", "build"]] rfl rfl (by decide) (by decide)

/-- A package without files has no documents. -/
theorem Package.documents_nil (t : FileTree) (dir : String) : documents t dir [] = [] := by
  simp [documents, FileTree.matching]

theorem Package.analyze_nil (dir : String) (dependencyDir : Option String) :
    analyze dir dependencyDir [] = fun s => .ok {} { s with
      diagnostics := s.diagnostics.reportAll [], texts := {} } := by
  have hfollow (r : SourceRoot) : r.analyze [] = .ok {} := by
    rw [SourceRoot.analyze, SourceRoot.follow]
  funext s
  unfold analyze
  simp only [hfollow]
  rfl

/-- The nested package is planned without a failure. -/
theorem exists_plan_nested : ∃ p s, Package.plan nestedPackage "/" nested = .ok p s := by
  have hno : Run.errorOf? (Package.plan nestedPackage "/") nested = none := by
    simp only [Package.plan, nestedPackage, Package.documents_nil, Package.analyze_nil]
    decide +kernel
  unfold Run.errorOf? at hno
  split at hno
  next p s hplan => exact ⟨p, s, hplan⟩
  · cases hno

/-- The conversion fails though nothing that writes or deletes has failed, and leaves the copy of a
file behind. -/
theorem exists_touched_of_error :
    ∃ e s', Package.convert nestedPackage "/" nested = .error e s' ∧
      ¬nested.disk.FailedBetween e s'.disk ∧
      "/p/build/out/a.html" ∉ Table.keys nested.disk.tree.files ∧
      "/p/build/out/a.html" ∈ Table.keys s'.disk.tree.files := by
  obtain ⟨p, s, hplan⟩ := exists_plan_nested
  obtain ⟨hsource, htarget, -⟩ := Package.plan_places hplan
  obtain ⟨hdisk, hroom⟩ := (Package.readOnly_plan nestedPackage "/").of_ok hplan
  have hsource : p.source = absolute ["p"] := hsource.trans (by decide)
  have htarget : p.target = absolute ["p", "build", "out"] := htarget.trans (by decide)
  have hplain : IsPlain (Url.baseName (absolute ["p", "build", "out"])) := by
    rw [show Url.baseName (absolute ["p", "build", "out"]) = "out" by decide]
    simp [IsPlain]
  have hkept : ∀ x ∈ ["a.html", "build", "out"],
      Filing.isLeftOut (absolute ["p"]) (absolute ["p", "build", "out"]) x = false := by
    intro x hx
    rw [Bool.eq_false_iff, Ne, Filing.isLeftOut_iff hplain]
    revert x
    decide
  have hclear : ∀ q ∈ List.inits ["p", "build", "out"], nested.disk.tree.kindAt q ≠ .file := by
    decide +kernel
  have hmirrors : nested.disk.tree.Mirrors ["p"] ["p", "build", "out"] :=
    proper_nested.mirrors (by decide) (fun q hq => hclear q ((List.mem_inits ..).2 hq))
      (by decide +kernel) _
  obtain ⟨e, d', hcopy, -, hcopying⟩ := @Filing.exists_copyPackage_gaveUp nested.disk ["p"] "build"
    ["out"] (by decide) (by simp) (by decide) (fun x hx => hkept x (List.mem_cons_of_mem _ hx))
    hmirrors (by decide +kernel) nested.room
  have hcopy : Filing.copyPackage s.room p.source p.target s.disk = .error e d' := by
    rw [hsource, htarget, hdisk, hroom]
    exact hcopy
  have hcarry : Package.carryOut p s.room nestedPackage.common.deletes s.disk = .error e d' := by
    unfold Package.carryOut
    rw [if_pos (by rw [hsource, htarget]; decide)]
    exact Failing.run_bind_eq_error.2 (.inl hcopy)
  have hconvert : Package.convert nestedPackage "/" nested = .error e { s with disk := d' } := by
    refine Failing.run_bind_eq_error.2 (.inr ⟨p, s, hplan, ?_⟩)
    refine Failing.run_bind_eq_error.2 (.inr ⟨s, s, rfl, ?_⟩)
    unfold Run.filing
    rw [hcarry]
  refine ⟨e, _, hconvert, fun hfailed => ?_, by decide +kernel, ?_⟩
  · obtain ⟨op, halters, hmem⟩ := hfailed.exists_mem
    rcases hcopying.flawless _ hmem with hold | hnone
    · cases hold
    · cases hnone halters
  · have hlisted : (nested.disk.tree.namesIn (absolute ["p"])).filter (fun name =>
        !Filing.isLeftOut (absolute ["p"]) (absolute ["p", "build", "out"]) name) =
        ["a.html", "build"] := by
      rw [show nested.disk.tree.namesIn (absolute ["p"]) = ["a.html", "build"] by decide +kernel,
        List.filter_eq_self]
      exact fun x hx => by simpa using hkept x (List.mem_append_left ["out"] hx)
    have hcopied := @Filing.file_of_copyTree nested.disk
      (Filing.isLeftOut (absolute ["p"]) (absolute ["p", "build", "out"])) 489
      (.makeDirectory (absolute ["p", "build", "out"])) ["p"] ["p", "build", "out"] [] "a.html" ["build"]
      hmirrors (by decide) (by decide) (by decide) names_nil (by decide +kernel)
      (FileOperation.makes_makeDirectory (by decide))
      (FileOperation.able_makeDirectory (by decide) (by decide)) hlisted (by decide +kernel)
    have hrun : Filing.outcome (Filing.copyPackage nested.room (absolute ["p"])
        (absolute ["p", "build", "out"])) nested.disk = (some e, d') := by
      rw [← hsource, ← htarget, Filing.outcome, ← hroom, ← hdisk, hcopy]
    have hthere : d'.tree.kindAt ["p", "build", "out", "a.html"] = .file :=
      (congrArg (fun r => r.2.tree.kindAt ["p", "build", "out", "a.html"]) hrun).symm.trans hcopied
    exact kindAt_eq_file_iff.1 hthere

section

/-- A package whose old description is no object. -/
def malformed : RunState where
  disk := { tree := { files := [("/w/x/bower.json", Utf8.encode "[]")] } }

/-- Asks for the conversion of that package in place. -/
def malformedPackage : PackageOptions where
  common := { importStyle := .path }
  source := "/w/x"
  target := "/w/x"

/-- Asks for the conversion of the workspace that the package is in. -/
def malformedWorkspace : WorkspaceOptions where
  common := { importStyle := .name }
  dir := "/w"
  repositories := ["x"]
  version := "1.0.0"

/-- Neither conversion does anything to the files. -/
theorem untouched_of_error_malformed :
    (∃ e s', Package.convert malformedPackage "/" malformed = .error e s' ∧
      s'.disk = malformed.disk) ∧
    (∃ e s', Workspace.convert malformedWorkspace "/" malformed = .error e s' ∧
      s'.disk = malformed.disk) := by
  have hpackage : (Run.errorOf? (Package.convert malformedPackage "/") malformed).map
      Failure.ofOperation = some false := by decide +kernel
  have hworkspace : (Run.errorOf? (Workspace.convert malformedWorkspace "/") malformed).map
      Failure.ofOperation = some false := by decide +kernel
  constructor
  · obtain ⟨e, s', h, he⟩ := Run.exists_of_errorOf? hpackage
    refine ⟨e, s', h, ((untouched_of_error "/" malformed s' e).1 _ h).resolve_right ?_⟩
    simp [he]
  · obtain ⟨e, s', h, he⟩ := Run.exists_of_errorOf? hworkspace
    refine ⟨e, s', h, ((untouched_of_error "/" malformed s' e).2 _ h).resolve_right ?_⟩
    simp [he]

end

end HtmlModules
