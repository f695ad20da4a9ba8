import HtmlModules.Proofs.Manifest
import HtmlModules.Proofs.Path

/-!
# Relative urls

The url of one module as seen from another is the way from the directory of the one to the other, with
`./` in front if it leads down. From wherever the root of the package is, it is the same, and it leads
back to the module (`Url.relativeUrl_leadsBack`). It begins with `./` or `../` unless the first name on
the way down begins with a dot itself (`Url.relativeUrl_explicit_iff`); then it reads like the name of a
package (`Url.exists_bare_relativeUrl`).
-/

namespace HtmlModules.Url

open Text

variable {source target path file file' : String} {dir dir' parts way base : List String}

/-! ## Urls of modules -/

/-- The url is anchored, and only names lead from the root to its file. -/
structure Plain (url : String) : Prop where
  anchored : isAnchored url = true
  names : ∀ s ∈ segments (dropAnchor url), IsName s

/-- The url leads from the root over the directories `dir` to `file`. -/
structure LeadsTo (url : String) (dir : List String) (file : String) : Prop where
  segments_eq : segments url = "." :: (dir ++ [file])
  names : ∀ s ∈ dir ++ [file], IsName s

theorem segments_anchored (rest : String) : segments ("./" ++ rest) = "." :: segments rest :=
  segments_append "." rest

/-- A plain url leads through directories to a file. -/
theorem Plain.exists_leadsTo {url : String} (h : Plain url) : ∃ dir file, LeadsTo url dir file := by
  obtain ⟨rest, rfl⟩ := startsWith_iff.1 h.anchored
  have hnames := h.names
  rw [dropAnchor_append] at hnames
  obtain hnil | ⟨dir, file, hrest⟩ := List.eq_nil_or_concat (segments rest)
  · exact absurd hnil (segments_ne_nil rest)
  · exact ⟨dir, file, by rw [segments_anchored, hrest, List.concat_eq_append],
      fun s hs => hnames s (by rwa [hrest, List.concat_eq_append])⟩

namespace LeadsTo

variable {url : String}

theorem notMem_dir (h : LeadsTo url dir file) : "" ∉ "." :: dir := by
  intro hempty
  rcases List.mem_cons.1 hempty with hdot | hdir
  · exact absurd hdot (by decide)
  · exact (h.names "" (List.mem_append_left _ hdir)).1 rfl

theorem isName_dir (h : LeadsTo url dir file) {s : String} (hs : s ∈ dir) : IsName s :=
  h.names s (List.mem_append_left _ hs)

theorem slash_notMem (h : LeadsTo url dir file) {s : String} (hs : s ∈ "." :: (dir ++ [file])) :
    '/' ∉ s.toList :=
  Url.slash_notMem (h.segments_eq ▸ hs)

/-- A plain url is made of its directories and its file. -/
theorem eq_ofSegments (h : LeadsTo url dir file) : url = ofSegments ("." :: (dir ++ [file])) := by
  rw [← h.segments_eq, ofSegments_segments]

/-- The directory of a plain url is made of its directories. -/
theorem dirName_eq (h : LeadsTo url dir file) : dirName url = ofSegments ("." :: dir) :=
  dirName_of_segments h.segments_eq (List.cons_ne_nil "." dir) h.notMem_dir

theorem segments_dirName (h : LeadsTo url dir file) : segments (dirName url) = "." :: dir := by
  rw [h.dirName_eq]
  refine segments_ofSegments (List.cons_ne_nil "." dir) fun s hs => h.slash_notMem ?_
  exact List.mem_cons.2 ((List.mem_cons.1 hs).imp_right (List.mem_append_left _))

end LeadsTo

/-! ## The way from a module to another -/

/-- Seen from a base, an anchored path lies below the base. -/
theorem absoluteSegments_eq (hbase : ∀ s ∈ base, IsName s) (hpath : segments path = "." :: parts)
    (hparts : ∀ s ∈ parts, IsName s) : absoluteSegments base path = base ++ parts := by
  have hrelative : startsWith path "/" = false := startsWith_slash (by simp [hpath])
  simp [absoluteSegments, hrelative, hpath, resolveSegments, foldl_pushSegment_names hbase,
    pushSegment_dot, foldl_pushSegment_names hparts]

/-- The relative url that a way is written as. -/
def spell (way : List String) : String :=
  if way = [] then "." else if startsWith (ofSegments way) "." then ofSegments way
  else "./" ++ ofSegments way

/-- The url of one module as seen from another, where the directory `base` below the root of the file
system is the working directory. -/
def relativeUrlFrom (base : List String) (source target : String) : Except Failure String :=
  if !isAnchored source || !isAnchored target then .error (.notAnchored source target)
  else
    let path := relativePath base target (dirName source)
    .ok (if startsWith path "." || startsWith path "/" then path else "./" ++ path)

/-- Relative urls do not depend on the working directory, so a made-up one stands for it. -/
theorem relativeUrl_eq_from (source target : String) :
    relativeUrl source target =
      relativeUrlFrom (nestedBase ((segments source).length + (segments target).length)) source
        target :=
  rfl

/-- The way from the directory of a module to another module does not depend on the working
directory. -/
theorem relativePath_eq (hsource : LeadsTo source dir file) (hbase : ∀ s ∈ base, IsName s)
    (htarget : segments target = "." :: parts) (hparts : ∀ s ∈ parts, IsName s) :
    relativePath base target (dirName source) =
      if climb dir parts = [] then "." else ofSegments (climb dir parts) := by
  have hdir : absoluteSegments base (dirName source) = base ++ dir :=
    absoluteSegments_eq hbase hsource.segments_dirName fun s hs => hsource.isName_dir hs
  rw [relativePath, hdir, absoluteSegments_eq hbase htarget hparts, climb_append]
  cases climb dir parts with
  | nil => rfl
  | cons step way => simp

/-- The steps of a way: each leads upwards or is a name. -/
def IsWay (way : List String) : Prop := ∀ s ∈ way, (s = ".." ∨ IsName s) ∧ '/' ∉ s.toList

namespace IsWay

theorem ne_empty (h : IsWay way) : "" ∉ way := by
  intro hempty
  rcases (h "" hempty).1 with hup | hname
  · exact absurd hup (by decide)
  · exact hname.1 rfl

/-- The segments of a way that is spelled are those of the way. -/
theorem segments_ofSegments (h : IsWay way) (hne : way ≠ []) : segments (ofSegments way) = way :=
  Url.segments_ofSegments hne fun s hs => (h s hs).2

theorem startsWith_slash (h : IsWay way) (hne : way ≠ []) :
    startsWith (ofSegments way) "/" = false := by
  refine Url.startsWith_slash fun hempty => h.ne_empty ?_
  rw [h.segments_ofSegments hne] at hempty
  exact List.mem_of_head? hempty

/-- A way is spelled with its own segments, or with a `.` in front of them. -/
theorem segments_spell (h : IsWay way) :
    segments (spell way) = way ∨ segments (spell way) = "." :: way := by
  unfold spell
  split_ifs with hnil
  · exact .inr (hnil ▸ by decide)
  · exact .inl (h.segments_ofSegments hnil)
  · exact .inr (by rw [segments_anchored, h.segments_ofSegments hnil])

theorem startsWith_slash_spell (h : IsWay way) : startsWith (spell way) "/" = false := by
  refine Url.startsWith_slash fun hempty => ?_
  rcases h.segments_spell with hway | hway
  · exact h.ne_empty (List.mem_of_head? (hway ▸ hempty))
  · rw [hway, List.head?_cons] at hempty
    exact absurd (Option.some.inj hempty) (by decide)

/-- Only a way down is spelled with a `./` in front. -/
theorem eq_of_spell_eq (h : IsWay way) (hspell : spell way = "./" ++ path) :
    way ≠ [] ∧ path = ofSegments way ∧ startsWith (ofSegments way) "." = false := by
  have hsegments := congrArg segments hspell
  rw [segments_anchored] at hsegments
  unfold spell at hsegments hspell
  split_ifs at hsegments hspell with hnil hdot
  · have hempty : segments path = [] := (List.cons.inj hsegments).2.symm
    exact absurd hempty (segments_ne_nil path)
  · rw [h.segments_ofSegments hnil] at hsegments
    rcases (h "." (hsegments ▸ List.mem_cons_self)).1 with hup | hname
    · exact absurd hup (by decide)
    · exact absurd rfl hname.2.1
  · rw [segments_anchored] at hsegments
    exact ⟨hnil, (segments_injective (List.cons.inj hsegments).2).symm, Bool.eq_false_iff.2 hdot⟩

end IsWay

/-- What leads from one directory to a file is a way. -/
theorem LeadsTo.isWay (ht : LeadsTo target dir' file')
    (dir : List String) : IsWay (climb dir (dir' ++ [file'])) := by
  intro s hs
  rcases mem_climb hs with rfl | hs
  · exact ⟨.inl rfl, by decide⟩
  · exact ⟨.inr (ht.names s hs), ht.slash_notMem (List.mem_cons_of_mem "." hs)⟩

/-- From every working directory, the relative url of a module spells the way to it. -/
theorem relativeUrlFrom_eq (hs : LeadsTo source dir file)
    (ht : LeadsTo target dir' file') (hbase : ∀ s ∈ base, IsName s)
    (hsource : isAnchored source = true) (htarget : isAnchored target = true) :
    relativeUrlFrom base source target = .ok (spell (climb dir (dir' ++ [file']))) := by
  have hway := ht.isWay dir
  rw [relativeUrlFrom, if_neg (by simp [hsource, htarget]),
    relativePath_eq hs hbase ht.segments_eq ht.names, spell]
  by_cases hnil : climb dir (dir' ++ [file']) = []
  · simp only [hnil, if_true]
    rfl
  · simp only [hnil, if_false, hway.startsWith_slash hnil, Bool.or_false]

/-- The relative url spells the way from one directory to the other file. -/
theorem relativeUrl_eq (hs : LeadsTo source dir file)
    (ht : LeadsTo target dir' file') (hsource : isAnchored source = true)
    (htarget : isAnchored target = true) :
    relativeUrl source target = .ok (spell (climb dir (dir' ++ [file']))) := by
  rw [relativeUrl_eq_from]
  refine relativeUrlFrom_eq hs ht (fun s hs => ?_) hsource htarget
  rw [(List.mem_replicate.1 hs).2]
  decide

/-! ## The way back -/

/-- A relative url leads from a module to another if its segments lead from the directory of the one to
the other. -/
theorem normalize_joinPath_iff (hs : LeadsTo source dir file)
    (ht : LeadsTo target dir' file') (hpath : startsWith path "/" = false) :
    normalize (joinPath (dirName source) path) = normalize target ↔
      (segments path).foldl (pushSegment false) dir.reverse = (dir' ++ [file']).reverse := by
  have hparts : ∀ s ∈ dir' ++ [file'], IsName s ∧ '/' ∉ s.toList := fun s hs =>
    ⟨ht.names s hs, ht.slash_notMem (List.mem_cons_of_mem "." hs)⟩
  have hne : dir' ++ [file'] ≠ [] := by simp
  have htarget : normalize target = ofSegments (dir' ++ [file']) := by
    refine (normalize_eq_iff (startsWith_slash (by simp [ht.segments_eq])) hne hparts).2 ?_
    simp [ht.segments_eq, resolveSegments, pushSegment_dot, foldl_pushSegment_names ht.names]
  have hsegments : segments (joinPath (dirName source) path) = "." :: dir ++ segments path := by
    rw [joinPath_eq (hs.segments_dirName ▸ hs.notMem_dir) hpath, segments_append,
      hs.segments_dirName]
  have hdir : ∀ s ∈ dir, IsName s := fun s hmem => hs.isName_dir hmem
  rw [htarget, normalize_eq_iff (startsWith_slash (by simp [hsegments])) hne hparts, hsegments,
    resolveSegments, List.cons_append, List.foldl_cons, pushSegment_dot, List.foldl_append,
    foldl_pushSegment_names hdir, List.append_nil, List.reverse_eq_iff]

/-- Between modules there is always a relative url. It does not depend on the working directory, and it
leads from the directory of the one module to the other. For urls that are not anchored there is none. -/
theorem relativeUrl_leadsBack (source target : String) :
    (Plain source → Plain target → ∃ path, relativeUrl source target = .ok path ∧
        (∀ base, (∀ s ∈ base, IsName s) → relativeUrlFrom base source target = .ok path) ∧
        normalize (joinPath (dirName source) path) = normalize target) ∧
      ∀ failure, relativeUrl source target = .error failure ↔
        failure = .notAnchored source target ∧
          (isAnchored source = false ∨ isAnchored target = false) := by
  constructor
  · intro hsource htarget
    obtain ⟨dir, file, hs⟩ := hsource.exists_leadsTo
    obtain ⟨dir', file', ht⟩ := htarget.exists_leadsTo
    have hway := ht.isWay dir
    refine ⟨_, relativeUrl_eq hs ht hsource.anchored htarget.anchored, fun base hbase =>
      relativeUrlFrom_eq hs ht hbase hsource.anchored htarget.anchored,
      (normalize_joinPath_iff hs ht hway.startsWith_slash_spell).2 ?_⟩
    have hclimb := @foldl_pushSegment_climb false dir (dir' ++ [file']) []
      (fun s hmem => hs.isName_dir hmem) ht.names
    rw [List.append_nil, List.append_nil] at hclimb
    rcases hway.segments_spell with hspell | hspell
    · rw [hspell, hclimb]
    · rw [hspell, List.foldl_cons, pushSegment_dot, hclimb]
  · intro failure
    rw [relativeUrl]
    by_cases hanchored : isAnchored source = false ∨ isAnchored target = false
    · rw [if_pos (by simpa using hanchored)]
      exact ⟨fun h => ⟨(Except.error.inj h).symm, hanchored⟩, fun h => congrArg _ h.1.symm⟩
    · rw [if_neg (by simpa using hanchored)]
      exact iff_of_false (fun h => by cases h) fun h => hanchored h.2

/-- A module in a directory that begins like that of another. -/
theorem relativeUrl_leadsBack_sibling :
    Plain "./a/b/c.js" ∧ Plain "./a/bc/..d.js" ∧
      relativeUrl "./a/b/c.js" "./a/bc/..d.js" = .ok "../bc/..d.js" ∧
      (∀ base, (∀ s ∈ base, IsName s) →
        relativeUrlFrom base "./a/b/c.js" "./a/bc/..d.js" = .ok "../bc/..d.js") ∧
      normalize (joinPath (dirName "./a/b/c.js") "../bc/..d.js") = normalize "./a/bc/..d.js" ∧
      relativeUrl "a.js" "./b.js" = .error (.notAnchored "a.js" "./b.js") := by
  have hsource : Plain "./a/b/c.js" := ⟨by decide, by decide⟩
  have htarget : Plain "./a/bc/..d.js" := ⟨by decide, by decide⟩
  obtain ⟨path, hpath, hbase, hback⟩ :=
    (relativeUrl_leadsBack "./a/b/c.js" "./a/bc/..d.js").1 hsource htarget
  have hurl : relativeUrl "./a/b/c.js" "./a/bc/..d.js" = .ok "../bc/..d.js" := by decide +kernel
  obtain rfl : "../bc/..d.js" = path := Except.ok.inj (hurl.symm.trans hpath)
  exact ⟨hsource, htarget, hpath, hbase, hback,
    ((relativeUrl_leadsBack "a.js" "./b.js").2 _).2 ⟨rfl, .inl (by decide)⟩⟩

/-! ## How relative urls begin -/

/-- The url cannot be taken for the name of a package. -/
def IsExplicit (path : String) : Bool := startsWith path "./" || startsWith path "../"

/-- A path that begins with a name does not begin like a relative one. -/
theorem isExplicit_of_head? {s : String} (h : (segments path).head? = some s) (hs : IsName s) :
    IsExplicit path = false := by
  have hbegins (first : String) (hfirst : '/' ∉ first.toList)
      (hstarts : startsWith path (first ++ "/") = true) : s = first := by
    obtain ⟨rest, rfl⟩ := startsWith_iff.1 hstarts
    rw [segments_append, segments_of_notMem hfirst] at h
    exact (Option.some.inj h).symm
  rw [IsExplicit, Bool.or_eq_false_iff, Bool.eq_false_iff, Bool.eq_false_iff]
  exact ⟨fun h => hs.2.1 (hbegins "." (by decide) h),
    fun h => hs.2.2 (hbegins ".." (by decide) h)⟩

/-- A way down is spelled like one unless its first name begins with a dot. -/
theorem isExplicit_spell_down (hway : ∀ s ∈ way, IsName s) (hslash : ∀ s ∈ way, '/' ∉ s.toList)
    (hne : way ≠ []) : IsExplicit (spell way) = !startsWith (ofSegments way) "." := by
  rw [spell, if_neg hne]
  cases hdot : startsWith (ofSegments way) "." with
  | true =>
    obtain ⟨first, rest, rfl⟩ := List.exists_cons_of_ne_nil hne
    refine isExplicit_of_head? (s := first) ?_ (hway first List.mem_cons_self)
    rw [if_pos rfl, segments_ofSegments hne hslash, List.head?_cons]
  | false =>
    have hstarts : startsWith ("./" ++ ofSegments way) "./" = true := startsWith_iff.2 ⟨_, rfl⟩
    simp [IsExplicit, hstarts]

/-- A way that begins upwards and goes on is spelled like one. -/
theorem isExplicit_spell_up (hne : way ≠ []) :
    IsExplicit (spell (".." :: way)) = true := by
  have hspell : ofSegments (".." :: way) = ".." ++ "/" ++ ofSegments way :=
    ofSegments_append (List.cons_ne_nil ".." []) hne
  have hdot : startsWith (ofSegments (".." :: way)) "." = true :=
    startsWith_iff.2 ⟨"./" ++ ofSegments way, by rw [hspell]; simp [← String.append_assoc]⟩
  have hup : startsWith (ofSegments (".." :: way)) "../" = true :=
    startsWith_iff.2 ⟨ofSegments way, hspell⟩
  rw [spell, if_neg (List.cons_ne_nil _ _), if_pos hdot, IsExplicit, hup, Bool.or_true]

/-- A module below the directory of another. -/
theorem LeadsTo.eq_below {rest : List String} (hs : LeadsTo source dir file)
    (ht : LeadsTo target dir' file') (hrest : dir' ++ [file'] = dir ++ rest) (hne : rest ≠ []) :
    target = dirName source ++ "/" ++ ofSegments rest := by
  rw [hs.dirName_eq, ht.eq_ofSegments, hrest, ← List.cons_append]
  exact ofSegments_append (List.cons_ne_nil "." dir) hne

/-- A url that is a directory above a module. -/
theorem LeadsTo.startsWith_above {between : List String}
    (hs : LeadsTo source dir file) (ht : LeadsTo target dir' file')
    (hdir : dir = dir' ++ [file'] ++ between) : startsWith source (target ++ "/") = true := by
  have hsegments : "." :: (dir ++ [file]) = "." :: (dir' ++ [file']) ++ (between ++ [file]) := by
    simp [hdir]
  refine startsWith_iff.2 ⟨ofSegments (between ++ [file]), ?_⟩
  rw [hs.eq_ofSegments, ht.eq_ofSegments, hsegments]
  exact ofSegments_append (List.cons_ne_nil _ _) (by simp)

/-- The relative url of a module that is no directory above the other one begins with `./` or `../`
unless the module is in or below the directory of the other and the first name on the way down begins
with a dot. It never begins with a slash. -/
theorem relativeUrl_explicit_iff (hsource : Plain source) (htarget : Plain target)
    (habove : startsWith source (target ++ "/") = false) :
    ∃ path, relativeUrl source target = .ok path ∧ startsWith path "/" = false ∧
      (IsExplicit path = true ↔ startsWith target (dirName source ++ "/.") = false) := by
  obtain ⟨dir, file, hs⟩ := hsource.exists_leadsTo
  obtain ⟨dir', file', ht⟩ := htarget.exists_leadsTo
  have hway := ht.isWay dir
  refine ⟨_, relativeUrl_eq hs ht hsource.anchored htarget.anchored, hway.startsWith_slash_spell, ?_⟩
  have hnotAbove : ¬dir' ++ [file'] <+: dir := by
    rintro ⟨between, hdir⟩
    rw [hs.startsWith_above ht hdir.symm] at habove
    cases habove
  have hdot : dirName source ++ "/." = dirName source ++ "/" ++ "." := by
    rw [String.append_assoc]
    rfl
  rw [hdot]
  by_cases hdown : dir <+: dir' ++ [file']
  · obtain ⟨rest, hrest⟩ := hdown
    have hne : rest ≠ [] := by
      rintro rfl
      rw [List.append_nil] at hrest
      exact hnotAbove (hrest ▸ List.prefix_rfl)
    have hnames : ∀ s ∈ rest, IsName s ∧ '/' ∉ s.toList := fun s hs => by
      have hmem : s ∈ dir' ++ [file'] := hrest ▸ List.mem_append_right dir hs
      exact ⟨ht.names s hmem, ht.slash_notMem (List.mem_cons_of_mem "." hmem)⟩
    rw [hs.eq_below ht hrest.symm hne, startsWith_append, ← hrest, climb_prefix,
      isExplicit_spell_down (fun s hs => (hnames s hs).1) (fun s hs => (hnames s hs).2) hne,
      Bool.not_eq_true']
  · obtain ⟨more, hmore, hnil⟩ := exists_climb_eq_cons hdown
    rw [hmore] at hway ⊢
    refine iff_of_true (isExplicit_spell_up fun h => hnotAbove (hnil h)) ?_
    rw [Bool.eq_false_iff]
    intro hstarts
    obtain ⟨rest, hrest⟩ := startsWith_iff.1 hstarts
    have hsegments := ht.segments_eq
    rw [hrest, String.append_assoc, segments_append, hs.segments_dirName, List.cons_append]
      at hsegments
    exact hdown ⟨_, (List.cons.inj hsegments).2⟩

theorem relativeUrl_explicit_iff_below :
    Plain "./a/b.js" ∧ Plain "./a/c/.d.js" ∧ startsWith "./a/b.js" ("./a/c/.d.js" ++ "/") = false ∧
      relativeUrl "./a/b.js" "./a/c/.d.js" = .ok "./c/.d.js" ∧
      startsWith "./c/.d.js" "/" = false ∧
      (IsExplicit "./c/.d.js" = true ↔
        startsWith "./a/c/.d.js" (dirName "./a/b.js" ++ "/.") = false) := by
  have hsource : Plain "./a/b.js" := ⟨by decide, by decide⟩
  have htarget : Plain "./a/c/.d.js" := ⟨by decide, by decide⟩
  have habove : startsWith "./a/b.js" ("./a/c/.d.js" ++ "/") = false := by decide
  obtain ⟨path, hpath, hexplicit⟩ := relativeUrl_explicit_iff hsource htarget habove
  have hurl : relativeUrl "./a/b.js" "./a/c/.d.js" = .ok "./c/.d.js" := by decide +kernel
  obtain rfl : "./c/.d.js" = path := Except.ok.inj (hurl.symm.trans hpath)
  exact ⟨hsource, htarget, habove, hpath, hexplicit⟩

/-- The relative url of a module whose name begins with a dot reads like the name of a package. -/
theorem exists_bare_relativeUrl :
    ∃ source target path, source ≠ target ∧ Plain source ∧ Plain target ∧
      startsWith source (target ++ "/") = false ∧ startsWith target (source ++ "/") = false ∧
      relativeUrl source target = .ok path ∧ IsExplicit path = false :=
  ⟨"./a.js", "./.b.js", ".b.js", by decide, ⟨by decide, by decide⟩, ⟨by decide, by decide⟩,
    by decide, by decide, by decide +kernel, by decide⟩

end HtmlModules.Url
