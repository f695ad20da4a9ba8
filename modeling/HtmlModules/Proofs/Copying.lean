import HtmlModules.Proofs.Filing
import HtmlModules.Proofs.Mirroring

/-!
# Copying a package

A directory is listed when the copying comes to it. While nothing is in the way, each step makes the
target a little more like the source, so that no operation fails and the only way for the copying to
end early is to give up (`Filing.smooth_copyTree`). It does give up, however far directories may nest,
if the target is two or more levels down in the source and the first of these levels is there already:
then the copy is copied as well, and the copy of the copy (`Filing.exists_copyPackage_gaveUp`). If the
target is not in the source, or right in it under a name that is left out, then the copying goes down
no further than the directories of the source did in the first place (`Filing.entangled_of_gaveUp`).
-/

namespace HtmlModules

open Text

/-! ## Names that are left out -/

namespace Text

/-- The characters of the text stand for themselves in a pattern. -/
def IsPlain (pattern : String) : Prop := ∀ c ∈ pattern.toList, c ≠ '*' ∧ c ≠ '?' ∧ c ≠ '['

instance (pattern : String) : Decidable (IsPlain pattern) :=
  inferInstanceAs (Decidable (∀ c ∈ pattern.toList, c ≠ '*' ∧ c ≠ '?' ∧ c ≠ '['))

/-- A pattern without the three special characters is a row of plain characters. -/
theorem globItems_plain :
    ∀ {cs : List Char}, (∀ c ∈ cs, c ≠ '*' ∧ c ≠ '?' ∧ c ≠ '[') → globItems cs = cs.map .char
  | [], _ => by
    rw [globItems]
    rfl
  | c :: cs, h => by
    obtain ⟨hstar, hone, hset⟩ := h c List.mem_cons_self
    rw [globItems.eq_5 c cs hstar hone hset,
      globItems_plain fun d hd => h d (List.mem_cons_of_mem c hd)]
    rfl

/-- Plain characters match themselves only. -/
theorem matchItems_chars : ∀ {cs text : List Char}, matchItems (cs.map .char) text = true ↔ cs = text
  | [], [] => by simp [matchItems]
  | [], d :: text => by simp [matchItems]
  | c :: cs, [] => by simp [matchItems]
  | c :: cs, d :: text => by
    rw [List.map_cons, matchItems, Bool.and_eq_true, matchItems_chars, GlobItem.matchesChar,
      beq_iff_eq, List.cons.injEq, @eq_comm _ d c]
    simp

/-- A pattern whose characters stand for themselves matches itself and nothing else. -/
theorem globMatches_iff {pattern text : String} (h : IsPlain pattern) :
    globMatches pattern text = true ↔ pattern = text := by
  rw [globMatches, globItems_plain h, matchItems_chars, String.toList_inj]

end Text

/-- Dependencies are left out, and the directory that is copied to if it is right in the package and
its name is no pattern of others. -/
theorem Filing.isLeftOut_iff {source target name : String} (h : Text.IsPlain (Url.baseName target)) :
    isLeftOut source target name = true ↔
      name ∈ foreignDirectories ∨ Url.dirName target = source ∧ name = Url.baseName target := by
  have hforeign : ∀ pattern ∈ foreignDirectories, Text.IsPlain pattern := by
    simp [foreignDirectories, legacyDependencyDir, moduleDependencyDir, Text.IsPlain]
  have hnames : foreignDirectories.any (fun pattern => globMatches pattern name) = true ↔
      name ∈ foreignDirectories := by
    rw [List.any_eq_true]
    constructor
    · rintro ⟨pattern, hmem, hmatches⟩
      exact (Text.globMatches_iff (hforeign pattern hmem)).1 hmatches ▸ hmem
    · exact fun hmem => ⟨name, hmem, (Text.globMatches_iff (hforeign name hmem)).2 rfl⟩
  unfold isLeftOut
  dsimp only
  rw [List.any_append, Bool.or_eq_true, hnames]
  refine or_congr_right ?_
  split_ifs with hin
  · simp [Text.globMatches_iff h, beq_iff_eq.1 hin, eq_comm]
  · simpa using fun heq => absurd (beq_iff_eq.2 heq) hin

open FileTree

/-! ## Operations that make directories -/

/-- The operation makes the directories of a path, or it fails and does nothing. -/
structure FileOperation.Makes (op : FileOperation) (p : List String) : Prop where
  alters : op.alters = true
  of_none : ∀ {t}, (op.carryOut t).2 = none →
    ∃ made, t.makeDirectories [] p = .ok made ∧ (op.carryOut t).1 = made.1
  of_some : ∀ {t e}, (op.carryOut t).2 = some e → (op.carryOut t).1 = t

/-- The operation fails only if a directory cannot be made. -/
def FileOperation.Able (op : FileOperation) (p : List String) : Prop :=
  ∀ t made, t.makeDirectories [] p = .ok made → (op.carryOut t).2 = none

namespace FileOperation

variable {p : List String} {t : FileTree} {e : Failure}

/-- An attempt without a failure has made the change. -/
theorem attempt_of_none {x : Except Failure FileTree} (h : (t.attempt x).2 = none) :
    x = .ok (t.attempt x).1 := by
  cases x with
  | ok t' => rfl
  | error e => cases h

/-- An attempt that fails leaves the tree as it was. -/
theorem attempt_of_some {x : Except Failure FileTree} (h : (t.attempt x).2 = some e) :
    (t.attempt x).1 = t := by
  cases x with
  | ok t' => cases h
  | error e => rfl

/-- To copy a directory makes a directory, or finds one, at its place. -/
theorem makes_copyDirectory (hp : Names p) : (copyDirectory (absolute p)).Makes p where
  alters := rfl
  of_none {t} h := by
    have hmade : t.copyDirectory (absolute p) = .ok ((copyDirectory (absolute p)).carryOut t).1 :=
      attempt_of_none h
    generalize ((copyDirectory (absolute p)).carryOut t).1 = t' at hmade ⊢
    unfold FileTree.copyDirectory at hmade
    rw [steps_absolute hp] at hmade
    split at hmade <;> cases hmade
    next done hmake => exact ⟨_, hmake, rfl⟩
  of_some h := attempt_of_some h

/-- A copy of a directory can be made at a place whose parent is a directory. -/
theorem able_copyDirectory (hp : Names p) : (copyDirectory (absolute p)).Able p := by
  intro t made hmake
  simp only [carryOut, FileTree.copyDirectory, steps_absolute hp, hmake]
  rfl

/-- To make a directory makes it at its place, or finds one there. -/
theorem makes_makeDirectory (hp : Names p) : (makeDirectory (absolute p)).Makes p where
  alters := rfl
  of_none {t} h := by
    obtain ⟨path, hchecked, hrest⟩ := Failing.bind_eq_ok.1 (attempt_of_none h)
    obtain ⟨made, hmake, hmade⟩ := Failing.bind_eq_ok.1 hrest
    unfold checked at hchecked
    split_ifs at hchecked
    cases hchecked
    rw [steps_absolute hp] at hmake
    exact ⟨made, hmake, (Except.ok.inj hmade).symm⟩
  of_some h := attempt_of_some h

/-- A directory can be made at a place whose parent is a directory. -/
theorem able_makeDirectory (hp : Names p) (hchecked : checked (absolute p) = .ok (absolute p)) :
    (makeDirectory (absolute p)).Able p := by
  intro t made hmake
  have hmade : t.makeDirectory (absolute p) = .ok made.1 := by
    unfold FileTree.makeDirectory
    rw [hchecked]
    exact Failing.bind_eq_ok.2 ⟨_, rfl, Failing.bind_eq_ok.2 ⟨made, by rwa [steps_absolute hp], rfl⟩⟩
  rw [carryOut, hmade]
  rfl

end FileOperation

namespace Filing

variable {m : Filing Unit} {ms : List (Filing Unit)} {d d' : Disk} {leavesOut : String → Bool}
  {room : Nat} {make op : FileOperation}

/-! ## Outcomes -/

/-- Why the computation fails if it does, and the disk that it leaves. -/
def outcome (m : Filing Unit) (d : Disk) : Option Failure × Disk :=
  match m d with
  | .ok () d' => (none, d')
  | .error e d' => (some e, d')

/-- An operation fails or not as the tree says, and the disk is the one after it. -/
theorem outcome_perform (op : FileOperation) (d : Disk) :
    outcome (perform op) d = ((op.carryOut d.tree).2, d.after op) := by
  unfold outcome perform
  cases (op.carryOut d.tree).2 <;> rfl

/-- What follows is done on the disk that is left, if there was no failure. -/
theorem outcome_bind (m m' : Filing Unit) (d : Disk) :
    outcome (m >>= fun _ => m') d =
      match outcome m d with
      | (none, d') => outcome m' d'
      | (some e, d') => (some e, d') := by
  cases hrun : m d <;> simp [outcome, bind, EStateM.bind, hrun]

/-- Of several attempts every one is made, unless copying gives up, and the first failure counts. -/
theorem outcome_tryAll_cons (m : Filing Unit) (ms : List (Filing Unit)) (d : Disk) :
    outcome (tryAll (m :: ms)) d =
      match outcome m d with
      | (none, d') => outcome (tryAll ms) d'
      | (some e, d') =>
        if d'.gaveUp then (some e, d') else (some e, (outcome (tryAll ms) d').2) := by
  simp only [outcome, tryAll_cons]
  cases m d with
  | ok _ d' => rfl
  | error e d' =>
    dsimp only
    split_ifs
    · rfl
    · cases tryAll ms d' <;> rfl

/-- Copies what has a name in a directory. -/
def copyEntry (leavesOut : String → Bool) (room : Nat) (t : FileTree) (source target name : String) :
    Filing Unit :=
  let path := start source ++ name
  let copy := start target ++ name
  if t.placeAt path = .directory then copyTree leavesOut room (.copyDirectory copy) path copy
  else perform (.copyFile path copy)

/-- The copies of all that is in a directory. -/
def copyEntries (leavesOut : String → Bool) (room : Nat) (t : FileTree) (source target : String) :
    List (Filing Unit) :=
  ((t.namesIn source).filter fun name => !leavesOut name).map
    (copyEntry leavesOut room t source target)

/-- The directory is listed in front of the operation that makes its copy. -/
theorem outcome_copyTree_succ (leavesOut : String → Bool) (room : Nat) (make : FileOperation)
    (source target : String) (d : Disk) :
    outcome (copyTree leavesOut (room + 1) make source target) d =
      match (make.carryOut d.tree).2 with
      | none => outcome (tryAll (copyEntries leavesOut room d.tree source target))
          ((d.after (.enter source (room + 1))).after make)
      | some e => (some e, (d.after (.enter source (room + 1))).after make) := by
  have hrun : outcome (copyTree leavesOut (room + 1) make source target) d =
      outcome (perform make >>= fun _ => tryAll (copyEntries leavesOut room d.tree source target))
        (d.after (.enter source (room + 1))) := rfl
  have htree : (d.after (.enter source (room + 1))).tree = d.tree := rfl
  rw [hrun, outcome_bind, outcome_perform, htree]
  cases (make.carryOut d.tree).2 <;> rfl

/-- An entry that is a directory is copied as a tree, and one that is a file as a file. -/
theorem copyEntry_eq {t : FileTree} {source target : List String} (hsource : Names source)
    (htarget : Names target) (s : String) :
    copyEntry leavesOut room t (absolute source) (absolute target) s =
      if t.kindAt (source ++ [s]) = .directory then
        copyTree leavesOut room (.copyDirectory (absolute (target ++ [s]))) (absolute (source ++ [s]))
          (absolute (target ++ [s]))
      else perform (.copyFile (absolute (source ++ [s])) (absolute (target ++ [s]))) := by
  simp only [copyEntry, kindAt, absolute_concat hsource, absolute_concat htarget]

/-- What is in a directory is copied: a directory as a whole, a file by an operation. -/
theorem exists_of_mem_copyEntries {t : FileTree} {source target : List String} (h : t.Proper)
    (hsource : Names source) (htarget : Names target)
    (hm : m ∈ copyEntries leavesOut room t (absolute source) (absolute target)) :
    ∃ s, Names (source ++ [s]) ∧ leavesOut s = false ∧
      (t.kindAt (source ++ [s]) = .directory ∧
          m = copyTree leavesOut room (.copyDirectory (absolute (target ++ [s])))
            (absolute (source ++ [s])) (absolute (target ++ [s])) ∨
        t.kindAt (source ++ [s]) = .file ∧
          m = perform (.copyFile (absolute (source ++ [s])) (absolute (target ++ [s])))) := by
  obtain ⟨s, hs, rfl⟩ := List.mem_map.1 hm
  obtain ⟨hlisted, hleft⟩ := List.mem_filter.1 hs
  obtain ⟨hnames, hsome⟩ := (h.mem_namesIn_iff hsource).1 hlisted
  refine ⟨s, hnames, by simpa using hleft, ?_⟩
  rw [copyEntry_eq hsource htarget]
  cases hkind : t.kindAt (source ++ [s]) with
  | directory => exact .inl ⟨rfl, rfl⟩
  | file => exact .inr ⟨rfl, rfl⟩
  | nothing => exact absurd hkind hsome

/-- A directory that is not left out is copied with the rest of its parent. -/
theorem mem_copyEntries {t : FileTree} {source target : List String} {s : String} (h : t.Proper)
    (hsource : Names (source ++ [s])) (htarget : Names target) (hleft : leavesOut s = false)
    (hkind : t.kindAt (source ++ [s]) = .directory) :
    copyTree leavesOut room (.copyDirectory (absolute (target ++ [s]))) (absolute (source ++ [s]))
        (absolute (target ++ [s])) ∈
      copyEntries leavesOut room t (absolute source) (absolute target) := by
  have hlisted : s ∈ t.namesIn (absolute source) :=
    (h.mem_namesIn_iff hsource.of_append.1).2 ⟨hsource, by simp [hkind]⟩
  refine List.mem_map.2 ⟨s, List.mem_filter.2 ⟨hlisted, by simpa using hleft⟩, ?_⟩
  rw [copyEntry_eq hsource.of_append.1 htarget, if_pos hkind]

/-! ## Rules for computations one after the other -/

section

variable {I : Disk → Prop}

/-- The computation keeps what holds of the disk, and it fails only by giving up. -/
structure Smooth (I : Disk → Prop) (m : Filing Unit) : Prop where
  keeps : ∀ {d}, I d → I (outcome m d).2
  gaveUp : ∀ {d}, I d → (outcome m d).1 ≠ none → (outcome m d).2.gaveUp = true

/-- The computation gives up. -/
def Stops (I : Disk → Prop) (m : Filing Unit) : Prop :=
  ∀ d, I d → (outcome m d).1 ≠ none ∧ (outcome m d).2.gaveUp = true

/-- What every attempt keeps, all of them keep. -/
theorem keeps_tryAll (h : ∀ m ∈ ms, ∀ {d}, I d → I (outcome m d).2) (hd : I d) :
    I (outcome (tryAll ms) d).2 := by
  induction ms generalizing d with
  | nil => exact hd
  | cons m ms ih =>
    obtain ⟨hm, hms⟩ := List.forall_mem_cons.1 h
    have hkept := hm hd
    rw [outcome_tryAll_cons]
    cases hrun : outcome m d with
    | mk failure reached =>
      rw [hrun] at hkept
      cases failure with
      | none => exact ih hms hkept
      | some e =>
        dsimp only
        split_ifs
        · exact hkept
        · exact ih hms hkept

/-- Attempts that do not fail one by one do not fail together. -/
theorem smooth_tryAll (h : ∀ m ∈ ms, Smooth I m) : Smooth I (tryAll ms) := by
  refine ⟨keeps_tryAll fun m hm => (h m hm).keeps, fun {d} hd => ?_⟩
  induction ms generalizing d with
  | nil => exact fun hfails => absurd rfl hfails
  | cons m ms ih =>
    obtain ⟨hm, hms⟩ := List.forall_mem_cons.1 h
    have hkept := hm.keeps hd
    have hgave := hm.gaveUp hd
    rw [outcome_tryAll_cons]
    cases hrun : outcome m d with
    | mk failure reached =>
      rw [hrun] at hkept hgave
      cases failure with
      | none => exact ih hms hkept
      | some e =>
        dsimp only at hgave ⊢
        rw [if_pos (hgave nofun)]
        exact fun _ => hgave nofun

/-- Once one of the computations gives up, that is the end of all. -/
theorem stops_tryAll (h : ∀ m ∈ ms, Smooth I m) (hm : m ∈ ms) (hstops : Stops I m) :
    Stops I (tryAll ms) := by
  intro d hd
  induction ms generalizing d with
  | nil => cases hm
  | cons first ms ih =>
    obtain ⟨hfirst, hms⟩ := List.forall_mem_cons.1 h
    have hkept := hfirst.keeps hd
    have hgave := hfirst.gaveUp hd
    rw [outcome_tryAll_cons]
    cases hrun : outcome first d with
    | mk failure reached =>
      rw [hrun] at hkept hgave
      cases failure with
      | some e =>
        dsimp only at hgave ⊢
        rw [if_pos (hgave nofun)]
        exact ⟨nofun, hgave nofun⟩
      | none =>
        rcases List.mem_cons.1 hm with rfl | hm
        · exact absurd (congrArg Prod.fst hrun) (hstops _ hd).1
        · exact ih hms hm _ hkept

end

/-! ## Copying while nothing is in the way -/

/-- The copying has led from one disk to another: there is more in the tree, the target is like the
source as far as it goes, and no operation that writes has failed. -/
structure Copying (source target : List String) (d d' : Disk) : Prop where
  grows : d.tree.Grows d'.tree
  mirrors : d'.tree.Mirrors source target
  flawless : ∀ r ∈ d'.operations, r ∈ d.operations ∨ (r.1.alters = true → r.2 = none)

section

variable {source target q : List String} {s : String}

/-- Nothing has been copied at the start. -/
theorem Copying.refl (h : d.tree.Mirrors source target) : Copying source target d d :=
  ⟨.refl _, h, fun _ hr => .inl hr⟩

/-- Two stretches of copying are one. -/
theorem Copying.trans {d'' : Disk} (h : Copying source target d d')
    (h' : Copying source target d' d'') : Copying source target d d'' := by
  refine ⟨h.grows.trans h'.grows, h'.mirrors, fun r hr => ?_⟩
  exact (h'.flawless r hr).elim (h.flawless r) .inr

/-- An operation that does not fail, or that writes nothing, is a step of the copying. -/
theorem Copying.of_after (hgrows : d.tree.Grows (op.carryOut d.tree).1)
    (hmirrors : (op.carryOut d.tree).1.Mirrors source target)
    (hop : op.alters = true → (op.carryOut d.tree).2 = none) :
    Copying source target d (d.after op) := by
  refine ⟨hgrows, hmirrors, fun r hr => ?_⟩
  rcases List.mem_cons.1 hr with rfl | hr
  · exact .inr hop
  · exact .inl hr

/-- To enter a directory copies nothing. -/
theorem copying_enter (h : d.tree.Mirrors source target) (path : String) (room : Nat) :
    Copying source target d (d.after (.enter path room)) :=
  .of_after (.refl _) h nofun

/-- The copy of a directory is made. -/
theorem copying_make (h : d.tree.Mirrors source target) (hsource : Names (source ++ q))
    (htarget : Names (target ++ q)) (hkind : d.tree.kindAt (source ++ q) = .directory)
    (hmakes : make.Makes (target ++ q)) (hable : make.Able (target ++ q)) :
    (make.carryOut d.tree).2 = none ∧ Copying source target d (d.after make) ∧
      (d.after make).tree.kindAt (target ++ q) = .directory := by
  obtain ⟨made, hmake, hmirrors, hgrows, hmade⟩ := h.exists_makeDirectories hsource htarget hkind
  have hnone := hable _ _ hmake
  obtain ⟨made', hmake', htree⟩ := hmakes.of_none hnone
  obtain rfl := Except.ok.inj (hmake.symm.trans hmake')
  refine ⟨hnone, .of_after (htree ▸ hgrows) (htree ▸ hmirrors) fun _ => hnone, ?_⟩
  exact (congrArg (kindAt · (target ++ q)) htree).trans hmade

/-- A file is copied. -/
theorem copying_copyFile (h : d.tree.Mirrors source target) (hsource : Names (source ++ q ++ [s]))
    (htarget : Names (target ++ q ++ [s])) (hne : source ≠ target)
    (hkind : d.tree.kindAt (source ++ q ++ [s]) = .file)
    (hparent : d.tree.kindAt (target ++ q) = .directory) :
    ∃ d', outcome (perform (.copyFile (absolute (source ++ q ++ [s]))
        (absolute (target ++ q ++ [s])))) d = (none, d') ∧
      Copying source target d d' ∧ d'.tree.kindAt (target ++ q ++ [s]) = .file := by
  obtain ⟨t', hcopy, hmirrors, hgrows, hcopied⟩ :=
    h.exists_copyFile hsource htarget hne hkind hparent
  have hop : (FileOperation.copyFile (absolute (source ++ q ++ [s]))
      (absolute (target ++ q ++ [s]))).carryOut d.tree = (t', none) := by
    rw [FileOperation.carryOut, hcopy]
    rfl
  refine ⟨_, by rw [outcome_perform, hop], .of_after ?_ ?_ fun _ => by rw [hop], ?_⟩
  · rwa [hop]
  · rwa [hop]
  · exact (congrArg (fun x => kindAt x.1 (target ++ q ++ [s])) hop).trans hcopied

/-- A directory that is entered is listed, and then its copy is made. -/
theorem copying_copyTree (h : d.tree.Mirrors source target) (hsource : Names (source ++ q))
    (htarget : Names (target ++ q)) (hkind : d.tree.kindAt (source ++ q) = .directory)
    (hmakes : make.Makes (target ++ q)) (hable : make.Able (target ++ q)) (leavesOut : String → Bool)
    (room : Nat) :
    ∃ d', Copying source target d d' ∧ d'.tree.kindAt (target ++ q) = .directory ∧
      outcome (copyTree leavesOut (room + 1) make (absolute (source ++ q)) (absolute (target ++ q))) d =
        outcome (tryAll (copyEntries leavesOut room d.tree (absolute (source ++ q))
          (absolute (target ++ q)))) d' := by
  have henter := copying_enter h (absolute (source ++ q)) (room + 1)
  obtain ⟨hnone, hmade, hcopy⟩ := copying_make henter.mirrors hsource htarget hkind hmakes hable
  refine ⟨_, henter.trans hmade, hcopy, ?_⟩
  have hnone : (make.carryOut d.tree).2 = none := hnone
  rw [outcome_copyTree_succ, hnone]

/-- All that is in a directory is copied smoothly if its directories are. -/
theorem smooth_copyEntries {t : FileTree} (hsource : Names source) (htarget : Names target)
    (hne : source ≠ target) (hq : Names q) (ht : t.Proper) (hgrows : t.Grows d.tree)
    (hcopy : d.tree.kindAt (target ++ q) = .directory)
    (hdirectories : ∀ {s}, Names (q ++ [s]) → t.kindAt (source ++ (q ++ [s])) = .directory →
      Smooth (Copying source target d) (copyTree leavesOut room
        (.copyDirectory (absolute (target ++ (q ++ [s])))) (absolute (source ++ (q ++ [s])))
        (absolute (target ++ (q ++ [s]))))) :
    ∀ m ∈ copyEntries leavesOut room t (absolute (source ++ q)) (absolute (target ++ q)),
      Smooth (Copying source target d) m := by
  intro m hm
  obtain ⟨s, hnames, -, hentry⟩ :=
    exists_of_mem_copyEntries ht (hsource.append hq) (htarget.append hq) hm
  rw [List.append_assoc source, List.append_assoc target] at hentry
  rw [List.append_assoc source] at hnames
  have hqs : Names (q ++ [s]) := hnames.of_append.2
  rcases hentry with ⟨hkind, rfl⟩ | ⟨hkind, rfl⟩
  · exact hdirectories hqs hkind
  have hcopied {d' : Disk} (hd : Copying source target d d') :=
    @copying_copyFile d' source target q s hd.mirrors (by simpa using hnames)
      (by simpa using htarget.append hqs) hne
      (hd.grows.file (by simpa using hnames) (hgrows.file (by simpa using hnames) (by simpa using hkind)))
      (hd.grows.directory (htarget.append hq) hcopy)
  simp only [List.append_assoc] at hcopied
  constructor
  · intro d' hd
    obtain ⟨d'', hrun, hstep, -⟩ := hcopied hd
    rw [hrun]
    exact hd.trans hstep
  · intro d' hd hfails
    obtain ⟨d'', hrun, -, -⟩ := hcopied hd
    rw [hrun] at hfails
    exact absurd rfl hfails

/-- Copying a directory goes on until it is given up. The induction is on how far directories may
still nest; what is copied on the way only adds to the directory and to its copy. -/
theorem smooth_copyTree (hsource : Names source) (htarget : Names target) (hne : source ≠ target)
    (leavesOut : String → Bool) (room : Nat) :
    ∀ {q : List String} {make : FileOperation} {d : Disk}, Names q → make.Makes (target ++ q) →
      make.Able (target ++ q) → d.tree.kindAt (source ++ q) = .directory →
      Smooth (Copying source target d) (copyTree leavesOut room make (absolute (source ++ q))
        (absolute (target ++ q))) := by
  induction room with
  | zero =>
    intro q make d hq hmakes hable hkind
    constructor
    · intro d' hd
      exact hd.trans (copying_enter hd.mirrors _ 0)
    · intro d' hd _
      rfl
  | succ room ih =>
    intro q make d hq hmakes hable hkind
    have hrun {d' : Disk} (hd : Copying source target d d') :
        ∃ d'', Copying source target d' d'' ∧
          outcome (copyTree leavesOut (room + 1) make (absolute (source ++ q))
            (absolute (target ++ q))) d' =
          outcome (tryAll (copyEntries leavesOut room d'.tree (absolute (source ++ q))
            (absolute (target ++ q)))) d'' ∧
          Smooth (Copying source target d'') (tryAll (copyEntries leavesOut room d'.tree
            (absolute (source ++ q)) (absolute (target ++ q)))) := by
      obtain ⟨d'', hstep, hcopy, hrun⟩ := copying_copyTree hd.mirrors (hsource.append hq)
        (htarget.append hq) (hd.grows.directory (hsource.append hq) hkind) hmakes hable leavesOut room
      refine ⟨d'', hstep, hrun, smooth_tryAll ?_⟩
      refine smooth_copyEntries hsource htarget hne hq hd.mirrors.proper hstep.grows hcopy ?_
      intro s hs hinner
      exact ih hs (FileOperation.makes_copyDirectory (htarget.append hs))
        (FileOperation.able_copyDirectory (htarget.append hs))
        (hstep.grows.directory (hsource.append hs) hinner)
    constructor
    · intro d' hd
      obtain ⟨d'', hstep, hrun, hsmooth⟩ := hrun hd
      rw [hrun]
      exact (hd.trans hstep).trans (hsmooth.keeps (.refl hstep.mirrors))
    · intro d' hd
      obtain ⟨d'', hstep, hrun, hsmooth⟩ := hrun hd
      rw [hrun]
      exact hsmooth.gaveUp (.refl hstep.mirrors)

/-- All that is in a directory is copied smoothly once the copy of the directory is there. -/
theorem smooth_of_mem_copyEntries {t : FileTree} (hsource : Names source) (htarget : Names target)
    (hne : source ≠ target) (hq : Names q) (ht : t.Proper) (hgrows : t.Grows d.tree)
    (hcopy : d.tree.kindAt (target ++ q) = .directory) :
    ∀ m ∈ copyEntries leavesOut room t (absolute (source ++ q)) (absolute (target ++ q)),
      Smooth (Copying source target d) m :=
  smooth_copyEntries hsource htarget hne hq ht hgrows hcopy fun hs hinner =>
    smooth_copyTree hsource htarget hne leavesOut room hs
      (FileOperation.makes_copyDirectory (htarget.append hs))
      (FileOperation.able_copyDirectory (htarget.append hs))
      (hgrows.directory (hsource.append hs) hinner)

/-- A file that is listed first is copied, whatever becomes of the rest. -/
theorem file_of_copyTree {rest : List String} (h : d.tree.Mirrors source target)
    (hsource : Names source) (htarget : Names target) (hne : source ≠ target) (hq : Names q)
    (hkind : d.tree.kindAt (source ++ q) = .directory) (hmakes : make.Makes (target ++ q))
    (hable : make.Able (target ++ q))
    (hlisted : (d.tree.namesIn (absolute (source ++ q))).filter (fun name => !leavesOut name) = s :: rest)
    (hfile : d.tree.kindAt (source ++ (q ++ [s])) = .file) :
    (outcome (copyTree leavesOut (room + 1) make (absolute (source ++ q)) (absolute (target ++ q)))
      d).2.tree.kindAt (target ++ (q ++ [s])) = .file := by
  obtain ⟨d', hstep, hcopy, hrun⟩ := copying_copyTree h (hsource.append hq) (htarget.append hq) hkind
    hmakes hable leavesOut room
  have hlist : s ∈ d.tree.namesIn (absolute (source ++ q)) :=
    (List.mem_filter.1 (hlisted ▸ List.mem_cons_self)).1
  have hqs : Names (q ++ [s]) := by
    have hnames := ((h.proper.mem_namesIn_iff (hsource.append hq)).1 hlist).1
    exact (List.append_assoc source q [s] ▸ hnames).of_append.2
  obtain ⟨d'', hcopied, hmore, hthere⟩ := @copying_copyFile d' source target q s hstep.mirrors
    (by simpa using hsource.append hqs) (by simpa using htarget.append hqs) hne
    (by simpa using hstep.grows.file (hsource.append hqs) hfile) hcopy
  have hentries : copyEntries leavesOut room d.tree (absolute (source ++ q)) (absolute (target ++ q)) =
      perform (.copyFile (absolute (source ++ q ++ [s])) (absolute (target ++ q ++ [s]))) ::
        rest.map (copyEntry leavesOut room d.tree (absolute (source ++ q)) (absolute (target ++ q))) := by
    rw [copyEntries, hlisted, List.map_cons, copyEntry_eq (hsource.append hq) (htarget.append hq),
      if_neg (by simp [hfile])]
  have hsmooth := @smooth_of_mem_copyEntries d'' leavesOut room source target q d.tree hsource htarget
    hne hq h.proper (hstep.grows.trans hmore.grows) (hmore.grows.directory (htarget.append hq) hcopy)
  rw [hentries] at hsmooth
  rw [hrun, hentries, outcome_tryAll_cons, hcopied, ← List.append_assoc]
  have hrest := keeps_tryAll (fun m hm => (List.forall_mem_cons.1 hsmooth).2 m hm |>.keeps)
    (Copying.refl hmore.mirrors)
  exact hrest.grows.file (by simpa using htarget.append hqs) hthere

/-! ## Copying that does not end -/

/-- The target is in the source. A directory on the way down is copied along the way that leads to
the target; once the copy is made, the way goes on in it. -/
theorem stops_copyTree {way : List String} (hsource : Names source) (hway : Names way)
    (hlong : 2 ≤ way.length) (hkept : ∀ s ∈ way, leavesOut s = false) (room : Nat) :
    ∀ {q : List String} {s : String} {make : FileOperation} {d : Disk},
      q ++ [s] <+: way ++ q → make.Makes (source ++ way ++ q) → make.Able (source ++ way ++ q) →
      Names q → (∀ s ∈ q, leavesOut s = false) →
      d.tree.kindAt (source ++ (q ++ [s])) = .directory →
      Stops (Copying source (source ++ way) d) (copyTree leavesOut room make (absolute (source ++ q))
        (absolute (source ++ way ++ q))) := by
  have htarget : Names (source ++ way) := hsource.append hway
  have hne : source ≠ source ++ way := by
    intro heq
    rw [List.self_eq_append_right.1 heq] at hlong
    simp at hlong
  induction room with
  | zero => exact fun _ _ _ _ _ _ _ _ => ⟨nofun, rfl⟩
  | succ room ih =>
    intro q s make d hqs hmakes hable hq hkeptq hkind d' hd
    have hallnames : Names (way ++ q) := hway.append hq
    have hsnames : Names (q ++ [s]) := hallnames.initial hqs
    have hkepts : ∀ x ∈ q ++ [s], leavesOut x = false := fun x hx =>
      List.forall_mem_append.2 ⟨hkept, hkeptq⟩ x (hqs.subset hx)
    have hkind' := hd.grows.directory (hsource.append hsnames) hkind
    have hhere : d'.tree.kindAt (source ++ q) = .directory :=
      hd.mirrors.proper.kindAt_initial (hsource.append hsnames) (by simp) hkind'
    obtain ⟨d'', hstep, hcopy, hrun⟩ := copying_copyTree hd.mirrors (hsource.append hq)
      (htarget.append hq) hhere hmakes hable leavesOut room
    -- The way leads on from the directory that is copied next, and it is there by now.
    obtain ⟨x, hx⟩ : ∃ x, q ++ [s] ++ [x] <+: way ++ q := by
      obtain ⟨rest, hrest⟩ := hqs
      cases rest with
      | nil =>
        have hlength := congrArg List.length hrest
        simp only [List.length_append, List.length_cons, List.length_nil] at hlength
        omega
      | cons x rest => exact ⟨x, rest, by simpa using hrest⟩
    have hnext : d''.tree.kindAt (source ++ (q ++ [s] ++ [x])) = .directory := by
      refine hstep.mirrors.proper.kindAt_initial (htarget.append hq) ?_ hcopy
      rw [List.append_assoc source]
      exact (List.prefix_append_right_inj source).2 hx
    have hstops := @ih (q ++ [s]) x (.copyDirectory (absolute (source ++ way ++ (q ++ [s])))) d''
      (hx.trans (by simp)) (FileOperation.makes_copyDirectory (htarget.append hsnames))
      (FileOperation.able_copyDirectory (htarget.append hsnames)) hsnames hkepts hnext
    rw [hrun]
    have hmem := @mem_copyEntries leavesOut room d'.tree (source ++ q) (source ++ way ++ q) s
      hd.mirrors.proper (by simpa using hsource.append hsnames) (htarget.append hq)
      (hkepts s (by simp)) (by simpa using hkind')
    rw [List.append_assoc source q, List.append_assoc (source ++ way) q] at hmem
    exact stops_tryAll
      (smooth_of_mem_copyEntries hsource htarget hne hq hd.mirrors.proper hstep.grows hcopy)
      hmem hstops _ (.refl hstep.mirrors)

/-! ## Copying that ends -/

/-- The directories in the source that are not left out are less than `depth` levels down. -/
def Shallow (leavesOut : String → Bool) (t : FileTree) (source : List String) (depth : Nat) : Prop :=
  ∀ q, Names (source ++ q) → (∀ s ∈ q, leavesOut s = false) →
    t.kindAt (source ++ q) = .directory → q.length < depth

/-- The target is not in the source, or right in it and left out. -/
def Outside (leavesOut : String → Bool) (source target : List String) : Prop :=
  ∀ way, target = source ++ way → ∃ s, way = [s] ∧ leavesOut s = true

/-- The copying has led from one disk to another, and the directories in the source are still no more
than `depth` levels down. -/
structure GoingOn (leavesOut : String → Bool) (source : List String) (depth : Nat) (d d' : Disk) :
    Prop where
  proper : d'.tree.Proper
  grows : d.tree.Grows d'.tree
  shallow : Shallow leavesOut d'.tree source depth
  goesOn : d'.gaveUp = false

variable {depth : Nat}

/-- Two stretches that keep what is still shallow are one. -/
theorem GoingOn.trans {d'' : Disk} (h : GoingOn leavesOut source depth d d')
    (h' : GoingOn leavesOut source depth d' d'') : GoingOn leavesOut source depth d d'' :=
  ⟨h'.proper, h.grows.trans h'.grows, h'.shallow, h'.goesOn⟩

/-- A copy that is made is no further down in the source than what it is a copy of. -/
theorem Shallow.made {t : FileTree} {made : FileTree × List String}
    (h : Shallow leavesOut t source depth) (ht : t.Proper) (hout : Outside leavesOut source target)
    (hsource : Names (source ++ q)) (htarget : Names (target ++ q)) (hkept : ∀ s ∈ q, leavesOut s = false)
    (hkind : t.kindAt (source ++ q) = .directory)
    (hmake : t.makeDirectories [] (target ++ q) = .ok made) :
    Shallow leavesOut made.1 source depth := by
  obtain ⟨-, -, hkinds⟩ := ht.grows_makeDirectories htarget hmake
  intro r hr hkeptr hdirectory
  rw [hkinds _ hr] at hdirectory
  split_ifs at hdirectory with hon
  · refine lt_of_le_of_lt ?_ (h q hsource hkept hkind)
    rcases List.prefix_or_prefix_of_prefix ((List.prefix_append source r).trans hon)
      (List.prefix_append target q) with ⟨way, hway⟩ | ⟨way, rfl⟩
    -- The target is right in the source: what is in it is left out.
    · obtain ⟨s, rfl, hs⟩ := hout way hway.symm
      rw [← hway, List.append_assoc] at hon
      cases r with
      | nil => exact Nat.zero_le _
      | cons x r =>
        obtain ⟨rfl, -⟩ := List.cons_prefix_cons.1 ((List.prefix_append_right_inj source).1 hon)
        rw [hkeptr x (by simp)] at hs
        cases hs
    -- The source is in the target: what is made is further up.
    · rw [List.append_assoc] at hon
      have hlength := ((List.prefix_append_right_inj target).1 hon).length_le
      rw [List.length_append] at hlength
      omega
  · exact h r hr hkeptr hdirectory

/-- To make a directory outside the source leaves the source as shallow as it was. -/
theorem goingOn_make (ht : d.tree.Proper) (h : Shallow leavesOut d.tree source depth)
    (hout : Outside leavesOut source target) (hsource : Names (source ++ q))
    (htarget : Names (target ++ q)) (hkept : ∀ s ∈ q, leavesOut s = false)
    (hkind : d.tree.kindAt (source ++ q) = .directory) (hmakes : make.Makes (target ++ q)) :
    GoingOn leavesOut source depth d (d.after make) ∧
      ((make.carryOut d.tree).2 = none → (d.after make).tree.kindAt (target ++ q) = .directory) := by
  have hgoes : (d.after make).gaveUp = false := by
    have halters := hmakes.alters
    cases make <;> first | rfl | cases halters
  cases hfailure : (make.carryOut d.tree).2 with
  | none =>
    obtain ⟨made, hmake, htree⟩ := hmakes.of_none hfailure
    obtain ⟨hproper, hgrows, hkinds⟩ := ht.grows_makeDirectories htarget hmake
    have htree : (d.after make).tree = made.1 := htree
    have hshallow := h.made ht hout hsource htarget hkept hkind hmake
    rw [← htree] at hproper hgrows hkinds hshallow
    exact ⟨⟨hproper, hgrows, hshallow, hgoes⟩, fun _ => by
      rw [hkinds _ htarget, if_pos List.prefix_rfl]⟩
  | some e =>
    have htree : (d.after make).tree = d.tree := hmakes.of_some hfailure
    exact ⟨⟨htree ▸ ht, htree ▸ .refl _, htree ▸ h, hgoes⟩, nofun⟩

/-- To copy a file leaves the source as shallow as it was. -/
theorem goingOn_copyFile (ht : d.tree.Proper) (h : Shallow leavesOut d.tree source depth)
    (path : List String) (hto : Names (target ++ [s])) (hparent : d.tree.kindAt target = .directory) :
    GoingOn leavesOut source depth d
      (d.after (.copyFile (absolute (path ++ [s])) (absolute (target ++ [s])))) := by
  cases hcopy : d.tree.copyFile (absolute (path ++ [s])) (absolute (target ++ [s])) with
  | ok t' =>
    obtain ⟨hproper, hgrows, hkinds⟩ := ht.copyFile_eq_ok hto hparent hcopy
    have htree : (d.after (.copyFile (absolute (path ++ [s])) (absolute (target ++ [s])))).tree = t' := by
      simp only [Disk.after, FileOperation.carryOut, hcopy]
      rfl
    refine ⟨htree ▸ hproper, htree ▸ hgrows, htree ▸ fun r hr hkeptr hdirectory => ?_, rfl⟩
    exact h r hr hkeptr (hkinds _ hr hdirectory)
  | error e =>
    have htree : (d.after (.copyFile (absolute (path ++ [s])) (absolute (target ++ [s])))).tree =
        d.tree := by
      simp only [Disk.after, FileOperation.carryOut, hcopy]
      rfl
    exact ⟨htree ▸ ht, htree ▸ .refl _, htree ▸ h, rfl⟩

/-- If the target is not in the source, then the copying goes down as far as the directories do and
does not give up, whatever fails on the way. -/
theorem goingOn_copyTree (hsource : Names source) (htarget : Names target)
    (hout : Outside leavesOut source target) (room : Nat) :
    ∀ {q : List String} {make : FileOperation} {d : Disk}, Names q → (∀ s ∈ q, leavesOut s = false) →
      make.Makes (target ++ q) → d.tree.Proper → Shallow leavesOut d.tree source depth →
      d.tree.kindAt (source ++ q) = .directory → depth ≤ q.length + room →
      GoingOn leavesOut source depth d (outcome (copyTree leavesOut room make (absolute (source ++ q))
        (absolute (target ++ q))) d).2 := by
  induction room with
  | zero =>
    intro q make d hq hkept hmakes ht hshallow hkind hdepth
    have hlength := hshallow q (hsource.append hq) hkept hkind
    omega
  | succ room ih =>
    intro q make d hq hkept hmakes ht hshallow hkind hdepth
    have henter : GoingOn leavesOut source depth d (d.after (.enter (absolute (source ++ q)) (room + 1))) :=
      ⟨ht, .refl _, hshallow, rfl⟩
    obtain ⟨hmade, hcopy⟩ := goingOn_make henter.proper henter.shallow hout (hsource.append hq)
      (htarget.append hq) hkept hkind hmakes
    rw [outcome_copyTree_succ]
    split
    next hnone =>
      refine henter.trans (hmade.trans ?_)
      have hcopy := hcopy hnone
      generalize (d.after (.enter (absolute (source ++ q)) (room + 1))).after make = d₂ at hmade hcopy
      refine keeps_tryAll (fun m hm d' hd => hd.trans ?_) ⟨hmade.proper, .refl _, hmade.shallow, hmade.goesOn⟩
      obtain ⟨s, hnames, hleft, hentry⟩ :=
        exists_of_mem_copyEntries ht (hsource.append hq) (htarget.append hq) hm
      have hqs : Names (q ++ [s]) := (List.append_assoc source q [s] ▸ hnames).of_append.2
      rcases hentry with ⟨hinner, rfl⟩ | ⟨-, rfl⟩
      · have hinner' := hd.grows.directory hnames (hmade.grows.directory hnames hinner)
        rw [List.append_assoc source, List.append_assoc target] at *
        refine ih hqs ?_ (FileOperation.makes_copyDirectory (htarget.append hqs)) hd.proper hd.shallow
          hinner' ?_
        · exact List.forall_mem_append.2 ⟨hkept, by simpa using hleft⟩
        · simp
          omega
      · rw [outcome_perform]
        exact goingOn_copyFile hd.proper hd.shallow _ (by simpa using htarget.append hqs)
          (hd.grows.directory (htarget.append hq) hcopy)
    next e hsome => exact henter.trans hmade

/-! ## Packages -/

/-- A package is copied to a directory two or more levels down in its own one, and the first of these
levels is there. Then the copying is given up, however far directories may nest, and what has been
copied by then stays. -/
theorem exists_copyPackage_gaveUp {way : List String} (hnames : Names (source ++ s :: way))
    (hway : way ≠ []) (hchecked : checked (absolute (source ++ s :: way)) =
      .ok (absolute (source ++ s :: way)))
    (hkept : ∀ x ∈ s :: way,
      isLeftOut (absolute source) (absolute (source ++ s :: way)) x = false)
    (hmirrors : d.tree.Mirrors source (source ++ s :: way))
    (hkind : d.tree.kindAt (source ++ [s]) = .directory) (room : Nat) :
    ∃ e d', copyPackage room (absolute source) (absolute (source ++ s :: way)) d = .error e d' ∧
      d'.gaveUp = true ∧ Copying source (source ++ s :: way) d d' := by
  have hsource := hnames.of_append.1
  have hne : source ≠ source ++ s :: way := by simp
  have hmakes := FileOperation.makes_makeDirectory hnames
  have hable := FileOperation.able_makeDirectory hnames hchecked
  have hsmooth : Smooth (Copying source (source ++ s :: way) d)
      (copyPackage room (absolute source) (absolute (source ++ s :: way))) := by
    have h := @smooth_copyTree source (source ++ s :: way) hsource hnames hne
      (isLeftOut (absolute source) (absolute (source ++ s :: way))) room []
      (.makeDirectory (absolute (source ++ s :: way))) d names_nil
    simp only [List.append_nil] at h
    refine h hmakes hable (hmirrors.proper.kindAt_of_append (r := [s]) ?_ (by simp) (by simp [hkind]))
    exact hsource.append (hnames.of_append.2.initial (by simp))
  have hstops : Stops (Copying source (source ++ s :: way) d)
      (copyPackage room (absolute source) (absolute (source ++ s :: way))) := by
    have hlong : 2 ≤ (s :: way).length := by
      have := List.length_pos_iff.2 hway
      simp only [List.length_cons]
      omega
    have h := @stops_copyTree (isLeftOut (absolute source) (absolute (source ++ s :: way))) source
      (s :: way) hsource hnames.of_append.2 hlong hkept room []
      s (.makeDirectory (absolute (source ++ s :: way))) d (by simp)
    simp only [List.append_nil, List.nil_append] at h
    exact h hmakes hable names_nil (by simp) hkind
  obtain ⟨hfails, hgave⟩ := hstops d (.refl hmirrors)
  have hcopying := hsmooth.keeps (.refl hmirrors)
  unfold outcome at hfails hgave hcopying
  cases hrun : copyPackage room (absolute source) (absolute (source ++ s :: way)) d with
  | ok a d' =>
    rw [hrun] at hfails
    exact absurd rfl hfails
  | error e d' =>
    rw [hrun] at hgave hcopying
    exact ⟨e, d', rfl, hgave, hcopying⟩

end

end Filing

/-- The target of a copy is in its source, other than right in it under a name that is left out, or
the directories that are copied nest as deeply as `room`. -/
def FileTree.Entangled (t : FileTree) (source target : String) (room : Nat) : Prop :=
  ∃ p q, Names p ∧ Names q ∧ source = absolute p ∧ target = absolute q ∧
    ((∃ way, q = p ++ way ∧ ∀ s, way = [s] → Filing.isLeftOut source target s = false) ∨
      ∃ r, Names (p ++ r) ∧ (∀ s ∈ r, Filing.isLeftOut source target s = false) ∧
        t.kindAt (p ++ r) = .directory ∧ room ≤ r.length)

namespace Filing

/-- Copying a package is given up only if the source and the target are entangled. -/
theorem entangled_of_gaveUp {source target : List String} {room : Nat} {d d' : Disk} {e : Failure}
    (hsource : Names source) (htarget : Names target) (hproper : d.tree.Proper)
    (hkind : d.tree.kindAt source = .directory)
    (hrun : copyPackage room (absolute source) (absolute target) d = .error e d')
    (hgave : d'.gaveUp = true) : d.tree.Entangled (absolute source) (absolute target) room := by
  by_contra hnot
  refine absurd hgave ?_
  rw [Bool.not_eq_true]
  have hout : Outside (isLeftOut (absolute source) (absolute target)) source target := by
    intro way hway
    by_contra hnone
    refine hnot ⟨source, target, hsource, htarget, rfl, rfl, .inl ⟨way, hway, fun s hs => ?_⟩⟩
    rw [← Bool.not_eq_true]
    exact fun hs' => hnone ⟨s, hs, hs'⟩
  have hshallow : Shallow (isLeftOut (absolute source) (absolute target)) d.tree source room := by
    intro q hq hkept hdirectory
    by_contra hlength
    exact hnot ⟨source, target, hsource, htarget, rfl, rfl,
      .inr ⟨q, hq, hkept, hdirectory, not_lt.1 hlength⟩⟩
  have hgoing := @goingOn_copyTree (isLeftOut (absolute source) (absolute target)) source target
    room hsource htarget hout room [] (.makeDirectory (absolute target)) d names_nil (by simp)
  simp only [List.append_nil] at hgoing
  have hgoing := (hgoing (FileOperation.makes_makeDirectory htarget) hproper hshallow hkind
    (by simp)).goesOn
  unfold outcome at hgoing
  rw [show copyTree (isLeftOut (absolute source) (absolute target)) room _ _ _ d = _ from hrun] at hgoing
  exact hgoing

end Filing

end HtmlModules
