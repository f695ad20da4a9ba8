import HtmlModules.Proofs.Failing
import HtmlModules.Workspace

/-!
# Operations on files and how they fail

A run first reads and converts and then writes. Everything in front of the first operation on files
is `Run.ReadOnly`: whatever comes of it, the disk is as it was. What stands behind it is
`Filing.Exact`: it changes the disk by operations alone, and it fails only for one of them that has
failed or, where directories are copied, since they nest too deeply (`Package.error_of_convert`,
`Workspace.careful_convert`).
-/

namespace HtmlModules

open Text

/-! ## Failures of operations -/

/-- The failure is one that an operation on files can have. -/
def Failure.ofOperation : Failure → Bool
  | .badPath | .missingFile | .isADirectory | .notADirectory | .alreadyExists | .notCopied
  | .notEncodable => true
  | _ => false

namespace FileTree

variable {t : FileTree} {e : Failure} {path text : String}

/-- A path that is refused is refused by the file system. -/
theorem ofOperation_of_checked (h : checked path = .error e) : e.ofOperation = true := by
  unfold checked at h
  split_ifs at h
  cases h
  rfl

theorem ofOperation_of_walk {steps done : List String} (h : t.walk done steps = .error e) :
    e.ofOperation = true := by
  induction steps generalizing done with
  | nil => cases h
  | cons s rest ih =>
    unfold walk at h
    split at h
    · exact ih h
    all_goals
      cases h
      rfl

/-- A place that cannot be reached is a failure of the file system. -/
theorem ofOperation_of_locate (h : t.locate path = .error e) : e.ofOperation = true := by
  rcases Failing.bind_eq_error.1 h with h | ⟨checked, -, h⟩
  · exact ofOperation_of_checked h
  rcases Failing.bind_eq_error.1 h with h | ⟨done, -, h⟩
  · exact ofOperation_of_walk h
  · cases h

theorem ofOperation_of_makeDirectories {steps done : List String}
    (h : t.makeDirectories done steps = .error e) : e.ofOperation = true := by
  induction steps generalizing t done with
  | nil =>
    unfold makeDirectories at h
    split at h <;> cases h
    rfl
  | cons s rest ih =>
    unfold makeDirectories at h
    split at h
    · exact ih h
    · cases h
      rfl
    · exact ih h

theorem ofOperation_of_makeDirectory (h : t.makeDirectory path = .error e) :
    e.ofOperation = true := by
  rcases Failing.bind_eq_error.1 h with h | ⟨checked, -, h⟩
  · exact ofOperation_of_checked h
  rcases Failing.bind_eq_error.1 h with h | ⟨made, -, h⟩
  · exact ofOperation_of_makeDirectories h
  · cases h

theorem ofOperation_of_writeText (h : (t.writeText path text).2 = some e) :
    e.ofOperation = true := by
  unfold writeText at h
  split at h
  next hlocate =>
    cases h
    exact ofOperation_of_locate hlocate
  · split_ifs at h <;> cases h <;> rfl

theorem ofOperation_of_removeFile (h : t.removeFile path = .error e) : e.ofOperation = true := by
  rcases Failing.bind_eq_error.1 h with h | ⟨path, -, h⟩
  · exact ofOperation_of_locate h
  · split at h <;> cases h <;> rfl

theorem ofOperation_of_copyDirectory (h : t.copyDirectory path = .error e) :
    e.ofOperation = true := by
  unfold copyDirectory at h
  split at h <;> cases h
  rfl

theorem ofOperation_of_copyFile {source target : String}
    (h : t.copyFile source target = .error e) : e.ofOperation = true := by
  unfold copyFile at h
  dsimp only at h
  cases hbytes : Table.get? t.files source with
  | none =>
    rw [hbytes] at h
    cases h
    rfl
  | some bytes =>
    rw [hbytes] at h
    dsimp only at h
    split_ifs at h <;> cases h <;> rfl

/-- What an attempt fails with is the failure of what was attempted. -/
theorem eq_error_of_attempt {x : Except Failure FileTree} (h : (t.attempt x).2 = some e) :
    x = .error e := by
  cases x with
  | ok t => cases h
  | error e' =>
    cases h
    rfl

end FileTree

/-- An operation fails by the file system and by nothing else. -/
theorem FileOperation.ofOperation_of_carryOut {op : FileOperation} {t : FileTree} {e : Failure}
    (h : (op.carryOut t).2 = some e) : e.ofOperation = true := by
  cases op <;> simp only [carryOut] at h
  case makeDirectory =>
    exact FileTree.ofOperation_of_makeDirectory (FileTree.eq_error_of_attempt h)
  case write => exact FileTree.ofOperation_of_writeText h
  case remove => exact FileTree.ofOperation_of_removeFile (FileTree.eq_error_of_attempt h)
  case enter =>
    split_ifs at h
    cases h
    rfl
  case copyDirectory =>
    exact FileTree.ofOperation_of_copyDirectory (FileTree.eq_error_of_attempt h)
  case copyFile =>
    exact FileTree.ofOperation_of_copyFile (FileTree.eq_error_of_attempt h)

/-! ## What operations do to a disk -/

/-- The operation writes or deletes something. -/
def FileOperation.alters : FileOperation → Bool
  | enter .. => false
  | _ => true

namespace Disk

variable {d mid d' : Disk} {e : Failure}

/-- Operations lead from one disk to another. -/
def Leads (d d' : Disk) : Prop := ∃ ops : List FileOperation, d' = ops.foldl after d

/-- Operations lead from one disk to another, and one of them, which writes or deletes something, has
failed for the reason `e`. -/
def FailedBetween (d : Disk) (e : Failure) (d' : Disk) : Prop :=
  ∃ (reached : Disk) (op : FileOperation), op.alters = true ∧
    d.Leads reached ∧ (op.carryOut reached.tree).2 = some e ∧ (reached.after op).Leads d'

/-- Operations lead from one disk to another, and the last of them is a step into a directory that
nests too deeply, which is what has failed. -/
def GivesUp (d : Disk) (e : Failure) (d' : Disk) : Prop :=
  e = .notCopied ∧
    ∃ (reached : Disk) (path : String), d.Leads reached ∧ d' = reached.after (.enter path 0)

theorem Leads.refl (d : Disk) : d.Leads d := ⟨[], rfl⟩

theorem leads_after (d : Disk) (op : FileOperation) : d.Leads (d.after op) := ⟨[op], rfl⟩

theorem Leads.trans (h : d.Leads mid) (h' : mid.Leads d') : d.Leads d' := by
  obtain ⟨ops, rfl⟩ := h
  obtain ⟨ops', rfl⟩ := h'
  exact ⟨ops ++ ops', (List.foldl_append ..).symm⟩

/-- What is on record stays there. -/
theorem Leads.mem_operations (h : d.Leads d') {r : FileOperation × Option Failure}
    (hr : r ∈ d.operations) : r ∈ d'.operations := by
  obtain ⟨ops, rfl⟩ := h
  induction ops generalizing d with
  | nil => exact hr
  | cons op ops ih => exact ih (List.mem_cons_of_mem _ hr)

/-- An operation that failed later failed between the ends of the whole stretch. -/
theorem FailedBetween.of_leads (h : d.Leads mid) (h' : mid.FailedBetween e d') :
    d.FailedBetween e d' := by
  obtain ⟨reached, op, halters, hbefore, hop, hbehind⟩ := h'
  exact ⟨reached, op, halters, h.trans hbefore, hop, hbehind⟩

/-- An operation that has failed has failed, whatever comes later. -/
theorem FailedBetween.leads_on (h : d.FailedBetween e mid) (h' : mid.Leads d') :
    d.FailedBetween e d' := by
  obtain ⟨reached, op, halters, hbefore, hop, hbehind⟩ := h
  exact ⟨reached, op, halters, hbefore, hop, hbehind.trans h'⟩

/-- The reason is one that an operation can fail for. -/
theorem FailedBetween.ofOperation (h : d.FailedBetween e d') : e.ofOperation = true := by
  obtain ⟨reached, op, -, -, hop, -⟩ := h
  exact op.ofOperation_of_carryOut hop

/-- A failure lies on the way from one disk to the other. -/
theorem FailedBetween.leads (h : d.FailedBetween e d') : d.Leads d' := by
  obtain ⟨reached, op, -, hbefore, -, hbehind⟩ := h
  exact (hbefore.trans (leads_after reached op)).trans hbehind

/-- The operation that has failed is on record. -/
theorem FailedBetween.exists_mem (h : d.FailedBetween e d') :
    ∃ op : FileOperation, op.alters = true ∧ (op, some e) ∈ d'.operations := by
  obtain ⟨reached, op, halters, -, hop, hbehind⟩ := h
  refine ⟨op, halters, hbehind.mem_operations ?_⟩
  rw [← hop]
  exact List.mem_cons_self

/-- Who gives up later gives up on the whole stretch. -/
theorem GivesUp.of_leads (h : d.Leads mid) (h' : mid.GivesUp e d') : d.GivesUp e d' := by
  obtain ⟨he, reached, path, hbefore, rfl⟩ := h'
  exact ⟨he, reached, path, h.trans hbefore, rfl⟩

/-- To give up lies on the way from one disk to the other. -/
theorem GivesUp.leads (h : d.GivesUp e d') : d.Leads d' := by
  obtain ⟨-, reached, path, hbefore, rfl⟩ := h
  exact hbefore.trans (leads_after reached _)

theorem GivesUp.gaveUp (h : d.GivesUp e d') : d'.gaveUp = true := by
  obtain ⟨-, reached, path, -, rfl⟩ := h
  rfl

theorem GivesUp.ofOperation (h : d.GivesUp e d') : e.ofOperation = true := by
  rw [h.1]
  rfl

end Disk

namespace Filing

variable {α β : Type} {m : Filing α} {k : α → Filing β} {copies : Bool}

/-- The computation changes a disk by operations alone, and it fails only for one of them that writes
or deletes something or, if it copies directories, since they nest too deeply. -/
structure Exact (copies : Bool) (m : Filing α) : Prop where
  leads : ∀ {d a d'}, m d = .ok a d' → d.Leads d'
  failed : ∀ {d e d'}, m d = .error e d' →
    d.FailedBetween e d' ∨ copies = true ∧ d.GivesUp e d'

/-- Also a computation that fails changes the disk by operations alone. -/
theorem Exact.leads_of_error (h : Exact copies m) {d d' : Disk} {e : Failure}
    (hrun : m d = .error e d') : d.Leads d' := by
  rcases h.failed hrun with hfailed | ⟨-, hgives⟩
  · exact hfailed.leads
  · exact hgives.leads

theorem exact_pure (a : α) : Exact copies (pure a) where
  leads h := by
    cases h
    exact Disk.Leads.refl _
  failed h := by cases h

theorem exact_get : Exact copies get where
  leads h := by
    cases h
    exact Disk.Leads.refl _
  failed h := by cases h

/-- An operation that is performed leads to the disk after it. -/
theorem leads_perform {op : FileOperation} {d d' : Disk} {a : Unit}
    (h : perform op d = .ok a d') : d.Leads d' := by
  unfold perform at h
  split at h <;> cases h
  exact Disk.leads_after _ op

/-- An operation that alters the disk is exact: if it fails, it is the one that failed. -/
theorem exact_perform {op : FileOperation} (halters : op.alters = true) :
    Exact copies (perform op) where
  leads := leads_perform
  failed {d e d'} h := by
    unfold perform at h
    split at h
    · cases h
    next hop =>
      cases h
      exact .inl ⟨d, op, halters, Disk.Leads.refl d, hop, Disk.Leads.refl _⟩

/-- A step into a directory fails only if it nests too deeply. -/
theorem exact_enter (path : String) : ∀ room, Exact true (perform (.enter path room))
  | 0 => {
    leads := leads_perform
    failed := fun {d e d'} h => by
      cases h
      exact .inr ⟨rfl, rfl, d, path, Disk.Leads.refl d, rfl⟩ }
  | room + 1 => {
    leads := leads_perform
    failed := fun h => by cases h }

/-- Two exact computations one after the other are exact. -/
theorem Exact.bind (hm : Exact copies m) (hk : ∀ a, Exact copies (k a)) :
    Exact copies (m >>= k) where
  leads h := by
    obtain ⟨a, mid, hrun, hrest⟩ := Failing.run_bind_eq_ok.1 h
    exact (hm.leads hrun).trans ((hk a).leads hrest)
  failed h := by
    rcases Failing.run_bind_eq_error.1 h with hrun | ⟨a, mid, hrun, hrest⟩
    · exact hm.failed hrun
    · exact ((hk a).failed hrest).imp (.of_leads (hm.leads hrun))
        (.imp_right (.of_leads (hm.leads hrun)))

theorem exact_forM {l : List α} {step : α → Filing PUnit} (h : ∀ a, Exact copies (step a)) :
    Exact copies (l.forM step) := by
  induction l with
  | nil => exact exact_pure _
  | cons a l ih => exact (h a).bind fun _ => ih

theorem exact_forM_option {step : α → Filing PUnit} (h : ∀ a, Exact copies (step a)) :
    {o : Option α} → Exact copies (o.forM step)
  | none => exact_pure _
  | some a => h a

/-- The first attempt is made, and then the others, unless the first one gave up. -/
theorem tryAll_cons (m : Filing Unit) (ms : List (Filing Unit)) (d : Disk) :
    tryAll (m :: ms) d =
      match m d with
      | .ok () d => tryAll ms d
      | .error e d =>
        if d.gaveUp then .error e d
        else match tryAll ms d with
          | .ok () d | .error _ d => .error e d := rfl

theorem exact_tryAll {ms : List (Filing Unit)} (h : ∀ m ∈ ms, Exact copies m) :
    Exact copies (tryAll ms) := by
  induction ms with
  | nil => exact exact_pure _
  | cons m ms ih =>
    obtain ⟨hm, hms⟩ := List.forall_mem_cons.1 h
    have ih := ih hms
    constructor
    · intro d a d' h
      rw [tryAll_cons] at h
      split at h
      next hrun => exact (hm.leads hrun).trans (ih.leads h)
      next hrun =>
        split_ifs at h
        split at h <;> cases h
    · intro d e d' h
      rw [tryAll_cons] at h
      split at h
      next hrun =>
        exact (ih.failed h).imp (.of_leads (hm.leads hrun)) (.imp_right (.of_leads (hm.leads hrun)))
      next reached hrun =>
        split_ifs at h with hgave
        · cases h
          exact hm.failed hrun
        -- What stands behind the failing computation is run all the same.
        · have hfailed := (hm.failed hrun).resolve_right fun hgives => hgave hgives.2.gaveUp
          split at h <;> cases h
          next hrest => exact .inl (hfailed.leads_on (ih.leads hrest))
          next hrest => exact .inl (hfailed.leads_on (ih.leads_of_error hrest))

theorem exact_writeText (path text : String) : Exact copies (writeText path text) :=
  (exact_perform rfl).bind fun _ => exact_perform rfl

theorem exact_put (dir : String) (result : String × Option String) :
    Exact copies (put dir result) := by
  unfold put
  dsimp only
  split
  · exact exact_writeText _ _
  · refine exact_get.bind fun d => ?_
    split
    · exact exact_perform rfl
    · exact exact_pure _

/-- To write all results and to remove what they replace is exact. -/
theorem exact_writeResults (dir : String) (results : Table (Option String))
    (patterns : List String) : Exact copies (writeResults dir results patterns) := by
  unfold writeResults
  refine Exact.bind (exact_forM fun result => exact_put dir result) fun _ => ?_
  refine exact_get.bind fun d => ?_
  refine exact_forM fun path => ?_
  exact exact_perform rfl

/-- Copying a directory. The induction is on how far directories may still nest. -/
theorem exact_copyTree (isLeftOut : String → Bool) (source target : String) :
    ∀ (room : Nat) {make : FileOperation}, make.alters = true →
      Exact true (copyTree isLeftOut room make source target) := by
  intro room
  induction room generalizing source target with
  | zero => exact fun _ => exact_enter source 0
  | succ room ih =>
    intro make hmake
    refine (exact_enter source (room + 1)).bind fun _ => exact_get.bind fun d => ?_
    refine (exact_perform hmake).bind fun _ => exact_tryAll fun m hm => ?_
    obtain ⟨name, -, rfl⟩ := List.mem_map.1 hm
    dsimp only
    split
    · exact ih _ _ rfl
    · exact exact_perform rfl

/-- To copy a package is exact, if giving up is allowed for. -/
theorem exact_copyPackage (room : Nat) (source target : String) :
    Exact true (copyPackage room source target) :=
  exact_copyTree _ source target room rfl

end Filing

/-! ## Computations that leave the disk alone -/

namespace Run

variable {α β : Type} {m : Run α} {k : α → Run β}

/-- Why the computation fails. -/
def errorOf? (m : Run α) (s : RunState) : Option Failure :=
  match m s with
  | .ok .. => none
  | .error e _ => some e

theorem exists_of_errorOf? {s : RunState} {f : Failure → Bool} {b : Bool}
    (h : (m.errorOf? s).map f = some b) : ∃ e s', m s = .error e s' ∧ f e = b := by
  unfold errorOf? at h
  split at h
  · cases h
  next e s' hrun => exact ⟨e, s', hrun, Option.some.inj h⟩

/-- Whatever comes of it, the computation leaves the disk alone, and the room for copying. -/
structure ReadOnly (m : Run α) : Prop where
  of_ok : ∀ {s a s'}, m s = .ok a s' → s'.disk = s.disk ∧ s'.room = s.room
  of_error : ∀ {s e s'}, m s = .error e s' → s'.disk = s.disk ∧ s'.room = s.room

theorem readOnly_pure (a : α) : ReadOnly (pure a) where
  of_ok h := by
    cases h
    exact ⟨rfl, rfl⟩
  of_error h := by cases h

theorem readOnly_throw (e : Failure) : ReadOnly (throw e : Run α) where
  of_ok h := by cases h
  of_error h := by
    cases h
    exact ⟨rfl, rfl⟩

theorem readOnly_get : ReadOnly get where
  of_ok h := by
    cases h
    exact ⟨rfl, rfl⟩
  of_error h := by cases h

theorem readOnly_modify {f : RunState → RunState}
    (hf : ∀ s, (f s).disk = s.disk ∧ (f s).room = s.room) : ReadOnly (modify f) where
  of_ok h := by
    cases h
    exact hf _
  of_error h := by cases h

/-- Two computations that change no disk change none together. -/
theorem ReadOnly.bind (hm : m.ReadOnly) (hk : ∀ a, (k a).ReadOnly) : ReadOnly (m >>= k) where
  of_ok h := by
    obtain ⟨a, mid, hrun, hrest⟩ := Failing.run_bind_eq_ok.1 h
    obtain ⟨hdisk, hroom⟩ := hm.of_ok hrun
    exact ((hk a).of_ok hrest).imp (·.trans hdisk) (·.trans hroom)
  of_error h := by
    rcases Failing.run_bind_eq_error.1 h with hrun | ⟨a, mid, hrun, hrest⟩
    · exact hm.of_error hrun
    · obtain ⟨hdisk, hroom⟩ := hm.of_ok hrun
      exact ((hk a).of_error hrest).imp (·.trans hdisk) (·.trans hroom)

theorem readOnly_ofExcept (x : Except Failure α) : ReadOnly (ofExcept x) := by
  cases x with
  | ok a => exact readOnly_pure a
  | error e => exact readOnly_throw e

theorem readOnly_require (condition : Bool) (e : Failure) : ReadOnly (require condition e) := by
  unfold require
  split
  · exact readOnly_pure ()
  · exact readOnly_throw e

theorem readOnly_report (ds : Diagnostics) : ReadOnly (report ds) :=
  readOnly_modify fun _ => ⟨rfl, rfl⟩

theorem readOnly_tree : ReadOnly tree := readOnly_get.bind fun _ => readOnly_pure _

theorem readOnly_reading (read : FileTree → Except Failure α) : ReadOnly (reading read) :=
  readOnly_tree.bind fun _ => readOnly_ofExcept _

theorem readOnly_lookUp (table : Dependencies) (old : Json) : ReadOnly (lookUp table old) := by
  refine (readOnly_ofExcept _).bind fun found => ?_
  split
  · exact readOnly_pure _
  · refine readOnly_get.bind fun s => (readOnly_report _).bind fun _ => ?_
    exact ReadOnly.bind (readOnly_modify fun _ => by exact ⟨rfl, rfl⟩) fun _ => readOnly_pure _

theorem readOnly_foldlM {step : β → α → Run β} (h : ∀ b a, ReadOnly (step b a)) {l : List α}
    {b : β} : ReadOnly (l.foldlM step b) := by
  induction l generalizing b with
  | nil => exact readOnly_pure b
  | cons a l ih => exact (h b a).bind fun _ => ih

/-- A step that changes no disk changes none where there may be nothing to do. -/
theorem readOnly_mapM {step : α → Run β} (h : ∀ a, ReadOnly (step a)) :
    ∀ o : Option α, ReadOnly (o.mapM step)
  | none => readOnly_pure none
  | some a => (h a).bind fun b => readOnly_pure (some b)

/-- Every result of the computation has the property. -/
structure Yields (P : α → Prop) (m : Run α) : Prop where
  of_ok : ∀ {s a s'}, m s = .ok a s' → P a

theorem yields_pure {P : α → Prop} {a : α} (h : P a) : Yields P (pure a) where
  of_ok hrun := by
    cases hrun
    exact h

/-- What is yielded at the end is what the last computation yields. -/
theorem Yields.bind {P : β → Prop} (hk : ∀ a, Yields P (k a)) : Yields P (m >>= k) where
  of_ok hrun := by
    obtain ⟨a, mid, -, hrest⟩ := Failing.run_bind_eq_ok.1 hrun
    exact (hk a).of_ok hrest

/-- A path that has been checked is the path itself. -/
theorem eq_of_checked {path path' : String} {s s' : RunState}
    (h : ofExcept (FileTree.checked path) s = .ok path' s') : path' = path := by
  unfold FileTree.checked at h
  split at h <;> cases h
  rfl

/-- A failure of the computation leaves the disk alone, unless it is that of an operation that writes
or deletes something. -/
structure Careful (m : Run α) : Prop where
  of_error : ∀ {s e s'}, m s = .error e s' → s'.disk = s.disk ∨ s.disk.FailedBetween e s'.disk

theorem ReadOnly.careful_bind (hm : m.ReadOnly) (hk : ∀ a, (k a).Careful) : Careful (m >>= k) where
  of_error h := by
    rcases Failing.run_bind_eq_error.1 h with hrun | ⟨a, mid, hrun, hrest⟩
    · exact .inl (hm.of_error hrun).1
    · rw [← (hm.of_ok hrun).1]
      exact (hk a).of_error hrest

/-- A conversion that files exactly fails only by what it files. -/
theorem careful_filing {m : Filing α} (hm : Filing.Exact false m) : Careful (filing m) where
  of_error h := by
    unfold filing at h
    split at h <;> cases h
    next hrun => exact .inr ((hm.failed hrun).resolve_right (by simp))

end Run

/-! ## Packages and workspaces -/

namespace Package

open Run

theorem readOnly_nameOf (o : PackageOptions) (old : Json.Fields) (table : Dependencies) :
    ReadOnly (nameOf o old table) := by
  unfold nameOf
  split
  · exact readOnly_pure _
  · exact readOnly_throw _
  · exact (readOnly_lookUp _ _).bind fun _ => readOnly_pure _

theorem readOnly_analyze (dir : String) (dependencyDir : Option String) (urls : List String) :
    ReadOnly (analyze dir dependencyDir urls) := by
  refine readOnly_tree.bind fun t => (readOnly_ofExcept _).bind fun analysis => ?_
  refine (readOnly_report _).bind fun _ => ?_
  exact ReadOnly.bind (readOnly_modify fun _ => by exact ⟨rfl, rfl⟩) fun _ => readOnly_pure analysis

/-- To convert documents changes no disk: their results are written later. -/
theorem readOnly_convertDocuments (c : Conversion) (manifest : Option (List ScannedFile))
    (urls : List String) : ReadOnly (convertDocuments c manifest urls) := by
  refine readOnly_get.bind fun s => (readOnly_ofExcept _).bind fun loaded => ?_
  refine (readOnly_ofExcept _).bind fun scanned => (readOnly_ofExcept _).bind fun p => ?_
  exact ReadOnly.bind (readOnly_modify fun _ => by exact ⟨rfl, rfl⟩) fun _ => readOnly_pure p

theorem readOnly_describe (dir : String) (old : Json.Fields) (name version : Json)
    (table : Dependencies) : ReadOnly (describe dir old name version table) := by
  refine (readOnly_reading _).bind fun existing => readOnly_get.bind fun s => ?_
  refine (readOnly_ofExcept _).bind fun d => (readOnly_report _).bind fun _ => ?_
  exact ReadOnly.bind (readOnly_modify fun _ => by exact ⟨rfl, rfl⟩) fun _ => readOnly_pure _

/-- All that is decided before the first write changes no disk. -/
theorem readOnly_plan (o : PackageOptions) (cwd : String) : ReadOnly (plan o cwd) := by
  refine (readOnly_ofExcept _).bind fun source => (readOnly_ofExcept _).bind fun target => ?_
  refine readOnly_tree.bind fun t => (readOnly_require _ _).bind fun _ => ?_
  refine (readOnly_ofExcept _).bind fun table => (readOnly_reading _).bind fun old => ?_
  refine (readOnly_nameOf o old table).bind fun name => (readOnly_ofExcept _).bind fun version => ?_
  refine readOnly_tree.bind fun t => (readOnly_analyze _ _ _).bind fun analysis => ?_
  refine (readOnly_mapM (fun _ => readOnly_reading _) _).bind fun manifest => ?_
  refine (readOnly_convertDocuments _ _ _).bind fun p => ?_
  exact (readOnly_describe _ _ _ _ _).bind fun description => readOnly_pure _

/-- A plan names the directories that the caller has named, and its source is there. -/
theorem plan_places {o : PackageOptions} {cwd : String} {s s' : RunState} {p : Plan}
    (h : plan o cwd s = .ok p s') :
    p.source = FileTree.resolve cwd o.source ∧ p.target = FileTree.resolve cwd o.target ∧
      s.disk.tree.isDirectory p.source = true := by
  obtain ⟨source, s₁, hsource, h⟩ := Failing.run_bind_eq_ok.1 h
  obtain ⟨target, s₂, htarget, h⟩ := Failing.run_bind_eq_ok.1 h
  obtain ⟨t, s₃, htree, h⟩ := Failing.run_bind_eq_ok.1 h
  obtain ⟨_, s₄, hrequire, h⟩ := Failing.run_bind_eq_ok.1 h
  have hdisk : s₂.disk = s.disk :=
    ((readOnly_ofExcept _).of_ok htarget).1.trans ((readOnly_ofExcept _).of_ok hsource).1
  have ht : t = s.disk.tree := by
    rw [← hdisk]
    cases htree
    rfl
  have hthere : t.isDirectory source = true := by
    by_contra hnot
    rw [require, if_neg hnot] at hrequire
    cases hrequire
  have hplaces : p.source = source ∧ p.target = target := by
    refine Yields.of_ok (P := fun p => p.source = source ∧ p.target = target) ?_ h
    refine Yields.bind fun table => Yields.bind fun old => ?_
    refine Yields.bind fun name => Yields.bind fun version => Yields.bind fun t => ?_
    refine Yields.bind fun analysis => Yields.bind fun manifest => Yields.bind fun p => ?_
    exact Yields.bind fun description => yields_pure ⟨rfl, rfl⟩
  refine ⟨hplaces.1.trans (eq_of_checked hsource), hplaces.2.trans (eq_of_checked htarget), ?_⟩
  rw [hplaces.1, ← ht]
  exact hthere

/-- What is carried out fails only for an operation that writes or deletes something, or since the
copying is given up. -/
theorem error_of_carryOut {p : Plan} {room : Nat} {deletes : List String} {d d' : Disk} {e : Failure}
    (h : carryOut p room deletes d = .error e d') :
    d.FailedBetween e d' ∨ d.GivesUp e d' ∧
      Filing.copyPackage room p.source p.target d = .error e d' := by
  have hrest {write : String × String → Filing Unit} (h : ∀ file, Filing.Exact false (write file)) :
      Filing.Exact false (Filing.writeResults p.target p.results deletes >>= fun _ =>
        p.manifest.forM write) :=
    (Filing.exact_writeResults _ _ _).bind fun _ => Filing.exact_forM_option h
  have hcopy := Filing.exact_copyPackage room p.source p.target
  unfold carryOut at h
  split at h
  · rcases Failing.run_bind_eq_error.1 h with hrun | ⟨a, mid, hrun, hfails⟩
    · exact (hcopy.failed hrun).imp_right fun hgives => ⟨hgives.2, hrun⟩
    · refine .inl (.of_leads (hcopy.leads hrun)
        (((hrest fun file => ?_).failed hfails).resolve_right (by simp)))
      obtain ⟨path, text⟩ := file
      exact Filing.exact_writeText path text
  · refine .inl (((hrest fun file => ?_).failed h).resolve_right (by simp))
    obtain ⟨path, text⟩ := file
    exact Filing.exact_writeText path text

/-- A failing conversion leaves the disk alone, unless an operation that writes or deletes something
has failed or the copying has been given up. -/
theorem error_of_convert {o : PackageOptions} {cwd : String} {s s' : RunState} {e : Failure}
    (h : convert o cwd s = .error e s') :
    s'.disk = s.disk ∨ s.disk.FailedBetween e s'.disk ∨
      ∃ source target, source = FileTree.resolve cwd o.source ∧
        target = FileTree.resolve cwd o.target ∧ s.disk.tree.isDirectory source = true ∧
        s.disk.GivesUp e s'.disk ∧
        Filing.copyPackage s.room source target s.disk = .error e s'.disk := by
  rcases Failing.run_bind_eq_error.1 h with hrun | ⟨p, mid, hplan, hrest⟩
  · exact .inl ((readOnly_plan o cwd).of_error hrun).1
  obtain ⟨hdisk, hroom⟩ := (readOnly_plan o cwd).of_ok hplan
  obtain ⟨hsource, htarget, hthere⟩ := plan_places hplan
  right
  rw [← hdisk, ← hroom]
  rcases Failing.run_bind_eq_error.1 hrest with hget | ⟨a, mid', hget, hfiling⟩
  · cases hget
  cases hget
  unfold Run.filing at hfiling
  split at hfiling <;> cases hfiling
  next hrun =>
    refine (error_of_carryOut hrun).imp_right fun ⟨hgives, hcopy⟩ => ?_
    exact ⟨_, _, hsource, htarget, hdisk ▸ hthere, hgives, hcopy⟩

end Package

namespace Workspace

open Run

/-- To take a package into a workspace changes no disk. -/
theorem readOnly_addPackage (dir : String) (table : Dependencies) (p : Packages)
    (repository : String) : ReadOnly (addPackage dir table p repository) := by
  refine (readOnly_reading _).bind fun old => (readOnly_lookUp _ _).bind fun found => ?_
  split <;> exact readOnly_pure _

/-- The conversion of a workspace fails before it writes, or by an operation on the disk. -/
theorem careful_convert (o : WorkspaceOptions) (cwd : String) :
    Careful (convert o cwd) := by
  refine (readOnly_ofExcept _).careful_bind fun dir => readOnly_tree.careful_bind fun t => ?_
  refine (readOnly_require _ _).careful_bind fun _ => readOnly_tree.careful_bind fun t => ?_
  refine (readOnly_require _ _).careful_bind fun _ => ?_
  refine (readOnly_ofExcept _).careful_bind fun table => ?_
  refine (readOnly_foldlM (readOnly_addPackage dir table)).careful_bind fun packages => ?_
  refine readOnly_tree.careful_bind fun t => ?_
  refine (Package.readOnly_analyze _ _ _).careful_bind fun analysis => ?_
  refine (Package.readOnly_convertDocuments _ _ _).careful_bind fun p => ?_
  refine (readOnly_foldlM fun results package => ?_).careful_bind fun results => careful_filing ?_
  · exact (Package.readOnly_describe _ _ _ _ _).bind fun text => readOnly_pure _
  · exact Filing.exact_forM fun package => Filing.exact_writeResults _ _ _

end Workspace

end HtmlModules
