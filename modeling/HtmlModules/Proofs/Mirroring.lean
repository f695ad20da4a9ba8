import HtmlModules.Filing
import HtmlModules.Proofs.Directory

/-!
# Copies in a tree of files

A tree that is written to while nothing is in the way only grows (`FileTree.Grows`). The target of a
copy mirrors its source if what is below the one is of the same kind as what is at the same place
below the other (`FileTree.Mirrors`). Making the copy of a directory and copying a file into it keep
that so, also when the target is in the source and the source grows with it.
-/

namespace HtmlModules

open Text

namespace FileTree

variable {t t' : FileTree} {source target p q : List String} {s : String}

/-! ## Trees that grow -/

/-- All that is in one tree is in the other as well, and of the same kind. -/
def Grows (t t' : FileTree) : Prop :=
  ∀ p, Names p → t.kindAt p ≠ .nothing → t'.kindAt p = t.kindAt p

theorem Grows.refl (t : FileTree) : t.Grows t := fun _ _ _ => rfl

/-- What grows twice has grown. -/
theorem Grows.trans {t'' : FileTree} (h : t.Grows t') (h' : t'.Grows t'') : t.Grows t'' := by
  intro p hp hsome
  have hkind := h p hp hsome
  rw [h' p hp (hkind ▸ hsome), hkind]

/-- A directory stays one while the tree grows. -/
theorem Grows.directory (h : t.Grows t') (hp : Names p) (hkind : t.kindAt p = .directory) :
    t'.kindAt p = .directory := by
  rw [h p hp (by simp [hkind]), hkind]

/-- A file stays one while the tree grows. -/
theorem Grows.file (h : t.Grows t') (hp : Names p) (hkind : t.kindAt p = .file) :
    t'.kindAt p = .file := by
  rw [h p hp (by simp [hkind]), hkind]

/-- To make directories changes no file. -/
theorem files_makeDirectories {made : FileTree × List String} {steps done : List String}
    (h : t.makeDirectories done steps = .ok made) : made.1.files = t.files := by
  induction steps generalizing t done with
  | nil =>
    unfold makeDirectories at h
    split at h <;> cases h <;> rfl
  | cons s rest ih =>
    unfold makeDirectories at h
    split at h
    · exact ih h
    · cases h
    · rw [ih h]

/-- Making a directory, and those it is in, adds directories and nothing else. -/
theorem Proper.grows_makeDirectories {made : FileTree × List String} (h : t.Proper) (hp : Names p)
    (hmake : t.makeDirectories [] p = .ok made) :
    made.1.Proper ∧ t.Grows made.1 ∧
      ∀ q, Names q → made.1.kindAt q = if q <+: p then .directory else t.kindAt q := by
  obtain ⟨hproper, hkinds⟩ := @Proper.makeDirectories_eq_ok t [] p made h hp (by simp) hmake
  simp only [List.reverse_nil, List.nil_append, List.nil_prefix, true_and] at hkinds
  refine ⟨hproper, fun q hq hsome => ?_, hkinds⟩
  rw [hkinds q hq]
  split_ifs with hqp
  · cases hkind : t.kindAt q with
    | directory => rfl
    | nothing => exact absurd hkind hsome
    -- A file stays one, but what leads to the directory is a directory.
    | file =>
      have hfile : made.1.kindAt q = .file := by
        rw [kindAt_eq_file_iff, files_makeDirectories hmake]
        exact kindAt_eq_file_iff.1 hkind
      rw [hkinds q hq, if_pos hqp] at hfile
      cases hfile
  · rfl

/-- Writing a file into a directory adds no directory. -/
theorem Proper.grows_write (h : t.Proper) (hp : Names (p ++ [s])) (hparent : t.kindAt p = .directory)
    (hplace : t.kindAt (p ++ [s]) ≠ .directory) (bytes : ByteArray) :
    (t.write (absolute (p ++ [s])) bytes).Proper ∧ t.Grows (t.write (absolute (p ++ [s])) bytes) ∧
      ∀ q, Names q → (t.write (absolute (p ++ [s])) bytes).kindAt q =
        if q = p ++ [s] then .file else t.kindAt q := by
  obtain ⟨hproper, hkinds⟩ :=
    h.kindAt_write hp (by simp) (by rwa [List.dropLast_concat]) hplace bytes
  refine ⟨hproper, fun q hq hsome => ?_, hkinds⟩
  rw [hkinds q hq]
  split_ifs with hqp
  · subst hqp
    cases hkind : t.kindAt (p ++ [s]) with
    | file => rfl
    | directory => exact absurd hkind hplace
    | nothing => exact absurd hkind hsome
  · rfl

/-! ## Copies of files -/

/-- A copy is a file that is written with the octets of the source. -/
theorem copyFile_eq (hs : '/' ∉ s.toList) (htarget : Names (target ++ [s])) :
    ∃ p : List String, (p = target ∧ t.kindAt (target ++ [s]) ≠ .directory ∨
        p = target ++ [s] ∧ t.kindAt (target ++ [s]) = .directory) ∧
      t.copyFile (absolute (source ++ [s])) (absolute (target ++ [s])) =
        match Table.get? t.files (absolute (source ++ [s])) with
        | none => .error .notCopied
        | some bytes =>
          if absolute (p ++ [s]) = absolute (source ++ [s]) || t.kindAt (p ++ [s]) = .directory then
            .error .notCopied
          else .ok (t.write (absolute (p ++ [s])) bytes) := by
  obtain ⟨p, hp, hto⟩ : ∃ p : List String, (p = target ∧ t.kindAt (target ++ [s]) ≠ .directory ∨
      p = target ++ [s] ∧ t.kindAt (target ++ [s]) = .directory) ∧
      (if t.kindAt (target ++ [s]) = .directory then
        start (absolute (target ++ [s])) ++ Url.baseName (absolute (source ++ [s]))
      else absolute (target ++ [s])) = absolute (p ++ [s]) := by
    split_ifs with hplace
    · rw [baseName_absolute hs, ← absolute_concat htarget]
      exact ⟨_, .inr ⟨rfl, hplace⟩, rfl⟩
    · exact ⟨_, .inl ⟨rfl, hplace⟩, rfl⟩
  refine ⟨p, hp, ?_⟩
  unfold copyFile
  dsimp only
  rw [← kindAt, hto]
  rfl

/-- A file that is copied is written to a directory, and no directory is made for it. -/
theorem Proper.copyFile_eq_ok (h : t.Proper) (htarget : Names (target ++ [s]))
    (hparent : t.kindAt target = .directory)
    (hcopy : t.copyFile (absolute (source ++ [s])) (absolute (target ++ [s])) = .ok t') :
    t'.Proper ∧ t.Grows t' ∧ ∀ q, Names q → t'.kindAt q = .directory → t.kindAt q = .directory := by
  have hs : Names [s] := htarget.of_append.2
  obtain ⟨p, hp, hcopies⟩ := @copyFile_eq t source target s (hs s (by simp)).2 htarget
  rw [hcopies] at hcopy
  split at hcopy
  · cases hcopy
  split_ifs at hcopy with hbad
  cases hcopy
  simp only [Bool.or_eq_true, decide_eq_true_eq, not_or] at hbad
  have hplace : Names (p ++ [s]) ∧ t.kindAt p = .directory := by
    rcases hp with ⟨rfl, -⟩ | ⟨rfl, hplace⟩
    · exact ⟨htarget, hparent⟩
    · exact ⟨htarget.append hs, hplace⟩
  obtain ⟨hproper, hgrows, hkinds⟩ := h.grows_write hplace.1 hplace.2 hbad.2 _
  refine ⟨hproper, hgrows, fun q hq hdirectory => ?_⟩
  rw [hkinds q hq] at hdirectory
  split_ifs at hdirectory
  exact hdirectory

/-- A file is copied unless a directory is in the way. -/
theorem Proper.exists_copyFile (h : t.Proper) (hsource : Names (source ++ [s]))
    (htarget : Names (target ++ [s])) (hne : source ≠ target)
    (hfile : t.kindAt (source ++ [s]) = .file) (hparent : t.kindAt target = .directory)
    (hplace : t.kindAt (target ++ [s]) ≠ .directory) :
    ∃ t', t.copyFile (absolute (source ++ [s])) (absolute (target ++ [s])) = .ok t' ∧ t'.Proper ∧
      t.Grows t' ∧ ∀ q, Names q → t'.kindAt q = if q = target ++ [s] then .file else t.kindAt q := by
  obtain ⟨p, hp, hcopies⟩ := @copyFile_eq t source target s (hsource s (by simp)).2 htarget
  obtain ⟨rfl, -⟩ := hp.resolve_right fun hp => hplace hp.2
  obtain ⟨bytes, hbytes⟩ : ∃ bytes, Table.get? t.files (absolute (source ++ [s])) = some bytes := by
    rw [← Option.ne_none_iff_exists']
    exact fun hnone => Table.get?_eq_none_iff.1 hnone (kindAt_eq_file_iff.1 hfile)
  have hother : absolute (p ++ [s]) ≠ absolute (source ++ [s]) := fun heq =>
    hne (List.append_cancel_right (absolute_injective htarget hsource heq)).symm
  refine ⟨_, ?_, h.grows_write htarget hparent hplace bytes⟩
  rw [hcopies, hbytes]
  simp [hother, hplace]

/-! ## Copies that are like what is copied -/

/-- What is below the target is of the same kind as what is at the same place below the source, and
no file is on the way to the target. -/
structure Mirrors (t : FileTree) (source target : List String) : Prop where
  proper : t.Proper
  clear : ∀ p, p <+: target → t.kindAt p ≠ .file
  same : ∀ q, Names q → t.kindAt (target ++ q) ≠ .nothing →
    t.kindAt (source ++ q) = t.kindAt (target ++ q)

/-- A target that is not there is as good as a copy. -/
theorem Proper.mirrors (h : t.Proper) (htarget : Names target)
    (hclear : ∀ p, p <+: target → t.kindAt p ≠ .file) (hnothing : t.kindAt target = .nothing)
    (source : List String) : t.Mirrors source target := by
  refine ⟨h, hclear, fun q hq hsome => ?_⟩
  by_cases hnil : q = []
  · subst hnil
    exact absurd (by rwa [List.append_nil]) hsome
  · rw [h.kindAt_of_append (htarget.append hq) hnil hsome] at hnothing
    cases hnothing

/-- What is new below the target is like what is in the source. The target may be in the source: what
is new there is new in the source too, but nothing in the source has become of another kind. -/
theorem Mirrors.of_grows (h : t.Mirrors source target) (hsource : Names source)
    (hproper : t'.Proper) (hgrows : t.Grows t') (hclear : ∀ p, p <+: target → t'.kindAt p ≠ .file)
    (hnew : ∀ q, Names q → t'.kindAt (target ++ q) = t.kindAt (target ++ q) ∨
      t'.kindAt (target ++ q) = t.kindAt (source ++ q)) : t'.Mirrors source target := by
  refine ⟨hproper, hclear, fun q hq hsome => ?_⟩
  have hlike : t'.kindAt (target ++ q) = t.kindAt (source ++ q) := by
    rcases hnew q hq with hold | hnew
    · rw [hold] at hsome ⊢
      exact (h.same q hq hsome).symm
    · exact hnew
  rw [hlike] at hsome ⊢
  exact hgrows (source ++ q) (hsource.append hq) hsome

/-- The copy of a directory can be made. -/
theorem Mirrors.exists_makeDirectories (h : t.Mirrors source target) (hsource : Names (source ++ q))
    (htarget : Names (target ++ q)) (hkind : t.kindAt (source ++ q) = .directory) :
    ∃ made, t.makeDirectories [] (target ++ q) = .ok made ∧ made.1.Mirrors source target ∧
      t.Grows made.1 ∧ made.1.kindAt (target ++ q) = .directory := by
  have hbefore {r : List String} (hr : r <+: q) : t.kindAt (source ++ r) = .directory :=
    h.proper.kindAt_initial hsource ((List.prefix_append_right_inj source).2 hr) hkind
  have hclear : ∀ p, p <+: target ++ q → t.kindAt p ≠ .file := by
    intro p hp hfile
    rcases List.prefix_or_prefix_of_prefix hp (List.prefix_append target q) with hon | ⟨r, rfl⟩
    · exact h.clear p hon hfile
    · have hr := (List.prefix_append_right_inj target).1 hp
      have hsame := h.same r (htarget.of_append.2.initial hr) (by simp [hfile])
      rw [hfile, hbefore hr] at hsame
      cases hsame
  obtain ⟨made, hmake⟩ : ∃ made, t.makeDirectories [] (target ++ q) = .ok made :=
    @Proper.exists_makeDirectories t [] (target ++ q) h.proper htarget (by simp) hclear
  obtain ⟨hproper, hgrows, hkinds⟩ := h.proper.grows_makeDirectories htarget hmake
  refine ⟨made, hmake, ?_, hgrows, by rw [hkinds _ htarget, if_pos List.prefix_rfl]⟩
  refine h.of_grows hsource.of_append.1 hproper hgrows (fun p hp => ?_) fun r hr => ?_
  · rw [hkinds p (htarget.of_append.1.initial hp), if_pos (hp.trans (List.prefix_append _ _))]
    nofun
  · rw [hkinds _ (htarget.of_append.1.append hr)]
    split_ifs with hrq
    · exact .inr (hbefore ((List.prefix_append_right_inj target).1 hrq)).symm
    · exact .inl rfl

/-- A file can be copied to the copy of its directory. -/
theorem Mirrors.exists_copyFile (h : t.Mirrors source target) (hsource : Names (source ++ q ++ [s]))
    (htarget : Names (target ++ q ++ [s])) (hne : source ≠ target)
    (hkind : t.kindAt (source ++ q ++ [s]) = .file) (hparent : t.kindAt (target ++ q) = .directory) :
    ∃ t', t.copyFile (absolute (source ++ q ++ [s])) (absolute (target ++ q ++ [s])) = .ok t' ∧
      t'.Mirrors source target ∧ t.Grows t' ∧ t'.kindAt (target ++ q ++ [s]) = .file := by
  have hqs : Names (q ++ [s]) := (List.append_assoc .. ▸ hsource).of_append.2
  have hplace : t.kindAt (target ++ q ++ [s]) ≠ .directory := by
    intro hdirectory
    have hsame := h.same (q ++ [s]) hqs
    rw [← List.append_assoc, ← List.append_assoc, hdirectory, hkind] at hsame
    exact absurd (hsame nofun) nofun
  obtain ⟨t', hcopy, hproper, hgrows, hkinds⟩ := h.proper.exists_copyFile hsource htarget
    (fun heq => hne (List.append_cancel_right heq)) hkind hparent hplace
  refine ⟨t', hcopy, ?_, hgrows, by rw [hkinds _ htarget, if_pos rfl]⟩
  have hnames : Names source ∧ Names target :=
    ⟨hsource.of_append.1.of_append.1, htarget.of_append.1.of_append.1⟩
  refine h.of_grows hnames.1 hproper hgrows (fun p hp => ?_) fun r hr => ?_
  · rw [hkinds p (hnames.2.initial hp), if_neg]
    · exact h.clear p hp
    · rintro rfl
      have hlength := hp.length_le
      simp only [List.length_append, List.length_cons, List.length_nil] at hlength
      omega
  · rw [hkinds _ (hnames.2.append hr)]
    split_ifs with hrq
    · rw [List.append_assoc] at hrq
      obtain rfl := List.append_cancel_left hrq
      rw [← List.append_assoc source, hkind]
      exact .inr rfl
    · exact .inl rfl

end FileTree

end HtmlModules
