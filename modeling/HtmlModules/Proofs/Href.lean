import HtmlModules.Proofs.Relative
import HtmlModules.Url.Href

/-!
# Where links lead

A link is a walk over its segments, from the root or from the directory of the document: a name leads
down, `..` takes back the last name (`Walk.step`). A walk that takes back more than there is leaves the
root; it goes on in the directory of dependencies, from where it left the root last
(`Url.destination`). That is where `resolveHref` finds the file (`Url.resolveHref_eq_destination`).
-/

namespace HtmlModules.Url

open Text

/-- The place that a walk has come to: the names that lead there, the last one first, from the root or,
if the walk has left the root, from the place where the dependencies are. -/
structure Walk where
  outside : Bool
  names : List String
deriving DecidableEq, Repr

namespace Walk

/-- One segment further. -/
def step (w : Walk) (s : String) : Walk :=
  if s = "" ∨ s = "." then w
  else if s ≠ ".." then { w with names := s :: w.names }
  else match w.names with
    | [] => { w with outside := true }
    | _ :: names => { w with names }

/-- A walk over segments from a directory below the root. -/
def along (dir parts : List String) : Walk := parts.foldl step ⟨false, dir.reverse⟩

end Walk

/-- The directory that a link starts from: the root if it begins with a slash, else that of the
document. -/
def startOf (document path : String) : List String :=
  if startsWith path "/" then [] else (segments document).dropLast

/-- The walk of a link. -/
def Walk.ofLink (document path : String) : Walk := along (startOf document path) (segments path)

/-- The file that a link leads to. -/
def destination (document href : String) (dependencyDir : Option String) : Option String :=
  let w := Walk.ofLink document (pathPart href)
  if w.outside then dependencyDir.map fun dir => ofSegments (segments dir ++ w.names.reverse)
  else some (ofSegments w.names.reverse)

/-! ## Walks and normal forms -/

namespace Walk

variable {w : Walk} {done dir parts : List String} {s last : String}

/-- The segments of a normal form, the last one first, are the names of the walk and behind them the
steps by which it left the root. -/
structure Matches (w : Walk) (done : List String) : Prop where
  names : ∀ s ∈ w.names, IsName s
  ups : ∃ n, done = w.names ++ List.replicate n ".." ∧ (w.outside = true ↔ 0 < n)

/-- A step of the walk is a step of the normal form. -/
theorem Matches.step (h : w.Matches done) (s : String) :
    (w.step s).Matches (pushSegment false done s) := by
  obtain ⟨hnames, n, rfl, houtside⟩ := h
  by_cases hskip : s = "" ∨ s = "."
  · rw [pushSegment_skip hskip, Walk.step, if_pos hskip]
    exact ⟨hnames, n, rfl, houtside⟩
  by_cases hup : s ≠ ".."
  · have hname : IsName s := isName_iff.2 ⟨hskip, hup⟩
    rw [pushSegment_name hname, Walk.step, if_neg hskip, if_pos hup]
    exact ⟨List.forall_mem_cons.2 ⟨hname, hnames⟩, n, rfl, houtside⟩
  obtain rfl : s = ".." := not_not.1 hup
  obtain ⟨outside, names⟩ := w
  cases names with
  | nil =>
    -- the walk leaves the root here, for the first time or once more
    refine ⟨nofun, n + 1, ?_, by simp [Walk.step]⟩
    cases n <;> rfl
  | cons name names =>
    obtain ⟨hname, hnames⟩ := List.forall_mem_cons.1 hnames
    refine ⟨hnames, n, ?_, houtside⟩
    exact pushSegment_up hname.2.2

/-- A walk matches the segments that it has gone over. -/
theorem Matches.foldl (h : w.Matches done) (parts : List String) :
    (parts.foldl Walk.step w).Matches (parts.foldl (pushSegment false) done) := by
  induction parts generalizing w done with
  | nil => exact h
  | cons s parts ih => exact ih (h.step s)

/-- A walk from a directory gives what remains of its segments. -/
theorem matches_along (hdir : ∀ s ∈ dir, IsName s) (parts : List String) :
    (along dir parts).Matches ((dir ++ parts).foldl (pushSegment false) []) := by
  rw [List.foldl_append, foldl_pushSegment_names hdir, List.append_nil]
  refine Matches.foldl ⟨fun s hs => hdir s (List.mem_reverse.1 hs), 0, ?_, by simp⟩ parts
  simp

/-- A walk ends at its last segment, if that is a name. -/
theorem names_along_ne_nil (hne : parts ≠ []) (hlast : IsName (parts.getLastD "")) :
    (along dir parts).names ≠ [] := by
  obtain hnil | ⟨front, last, rfl⟩ := List.eq_nil_or_concat parts
  · exact absurd hnil hne
  · rw [List.concat_eq_append] at hlast ⊢
    have hname : IsName last := by simpa using hlast
    rw [along, List.foldl_append]
    simp [Walk.step, isName_iff.1 hname]

end Walk

/-! ## Steps out of the root -/

section

variable {left : List String} {n : Nat}

/-- A path of names does not begin upwards. -/
theorem startsWith_up_names (hne : left ≠ []) (hnames : ∀ s ∈ left, IsName s)
    (hslash : ∀ s ∈ left, '/' ∉ s.toList) : startsWith (ofSegments left) "../" = false := by
  obtain ⟨first, rest, rfl⟩ := List.exists_cons_of_ne_nil hne
  have hexplicit : IsExplicit (ofSegments (first :: rest)) = false := by
    refine isExplicit_of_head? (s := first) ?_ (hnames first List.mem_cons_self)
    rw [segments_ofSegments hne hslash, List.head?_cons]
  exact (Bool.or_eq_false_iff.1 hexplicit).2

/-- A path with several steps up begins with one of them. -/
theorem ofSegments_up (hne : left ≠ []) :
    ofSegments (List.replicate (n + 1) ".." ++ left) =
      "../" ++ ofSegments (List.replicate n ".." ++ left) := by
  rw [List.replicate_succ, List.cons_append, ofSegments_cons _ (by simp [hne])]
  rfl

theorem startsWith_up_iff (hne : left ≠ []) (hnames : ∀ s ∈ left, IsName s)
    (hslash : ∀ s ∈ left, '/' ∉ s.toList) :
    startsWith (ofSegments (List.replicate n ".." ++ left)) "../" = true ↔ 0 < n := by
  cases n with
  | zero =>
    rw [List.replicate_zero, List.nil_append, startsWith_up_names hne hnames hslash]
    simp
  | succ n => simp [ofSegments_up hne, startsWith_iff]

/-- Without the steps out of the root, the names are left. -/
theorem dropClimbs_ups (hne : left ≠ []) (hnames : ∀ s ∈ left, IsName s)
    (hslash : ∀ s ∈ left, '/' ∉ s.toList) :
    ∀ {fuel n : Nat}, n ≤ fuel →
      dropClimbs fuel (ofSegments (List.replicate n ".." ++ left)) = ofSegments left
  | 0, n, h => by
    obtain rfl := Nat.le_zero.1 h
    rfl
  | fuel + 1, 0, _ => by
    have hstarts := startsWith_up_names hne hnames hslash
    simp [dropClimbs, afterStart?, hstarts]
  | fuel + 1, n + 1, h => by
    rw [ofSegments_up hne, dropClimbs, afterStart?_append]
    exact dropClimbs_ups hne hnames hslash (Nat.le_of_succ_le_succ h)

theorem le_length_ups (hslash : ∀ s ∈ left, '/' ∉ s.toList) (hne : left ≠ []) :
    n ≤ (ofSegments (List.replicate n ".." ++ left)).length := by
  have hsegments : segments (ofSegments (List.replicate n ".." ++ left)) =
      List.replicate n ".." ++ left := by
    refine segments_ofSegments (by simp [hne]) fun s hs => ?_
    rcases List.mem_append.1 hs with hup | hs
    · rw [(List.mem_replicate.1 hup).2]
      decide
    · exact hslash s hs
  have hcount := length_segments (ofSegments (List.replicate n ".." ++ left))
  have hle := List.count_le_length (a := '/')
    (l := (ofSegments (List.replicate n ".." ++ left)).toList)
  have hsome := List.length_pos_iff.2 hne
  rw [hsegments, List.length_append, List.length_replicate] at hcount
  rw [String.length_toList] at hle
  omega

end

/-! ## Links -/

section

variable {document href : String} {dependencyDir : Option String}

/-- A path of names is relative. -/
theorem startsWith_slash_names {path : String} (h : ∀ s ∈ segments path, IsName s) :
    startsWith path "/" = false :=
  startsWith_slash fun hempty => (h "" (List.mem_of_head? hempty)).1 rfl

theorem isName_startOf (hdocument : ∀ s ∈ segments document, IsName s) (path : String) :
    ∀ s ∈ startOf document path, IsName s := by
  intro s hs
  unfold startOf at hs
  split_ifs at hs
  · cases hs
  · exact hdocument s (List.dropLast_subset _ hs)

/-- The path that a link is read as. -/
def linkPath (document path : String) : String :=
  if startsWith path "/" then trimStart (· == '/') path else joinPath (dirName document) path

/-- A link is read from the directory it starts from. -/
theorem resolveSegments_linkPath (hdocument : ∀ s ∈ segments document, IsName s) (path : String) :
    startsWith (linkPath document path) "/" = false ∧
      resolveSegments false (segments (linkPath document path)) =
        ((startOf document path ++ segments path).foldl (pushSegment false) []).reverse := by
  unfold linkPath startOf
  by_cases hslash : startsWith path "/" = true
  · rw [if_pos hslash, if_pos hslash]
    refine ⟨startsWith_slash_trimStart path, ?_⟩
    obtain ⟨n, hn⟩ := exists_slashes_append path
    have hsegments : segments path =
        List.replicate n "" ++ segments (trimStart (· == '/') path) := by
      conv_lhs => rw [hn, segments_slashes_append]
    rw [hsegments, resolveSegments, List.nil_append, List.foldl_append, foldl_pushSegment_empties]
  · have hrelative := Bool.eq_false_iff.2 hslash
    obtain ⟨hjoined, hfold⟩ := foldl_segments_joinPath false
      (startsWith_slash_names hdocument) hrelative
    rw [if_neg hslash, if_neg hslash]
    exact ⟨hjoined, by rw [resolveSegments, hfold]⟩

/-- The normal form of a link to a file are the steps by which its walk leaves the root, and the names
of the walk. -/
theorem exists_normalize_linkPath (hdocument : ∀ s ∈ segments document, IsName s) {path : String}
    (hlast : IsName ((segments path).getLastD "")) :
    ∃ n, normalize (linkPath document path) =
        ofSegments (List.replicate n ".." ++ (Walk.ofLink document path).names.reverse) ∧
      ((Walk.ofLink document path).outside = true ↔ 0 < n) ∧
      ∀ s ∈ (Walk.ofLink document path).names, IsName s ∧ '/' ∉ s.toList := by
  obtain ⟨hrelative, hresolved⟩ := resolveSegments_linkPath hdocument path
  obtain ⟨hnames, n, hdone, houtside⟩ :=
    Walk.matches_along (isName_startOf hdocument path) (segments path)
  have hsome : (Walk.ofLink document path).names ≠ [] :=
    Walk.names_along_ne_nil (segments_ne_nil path) hlast
  rw [hdone, List.reverse_append, List.reverse_replicate] at hresolved
  refine ⟨n, ?_, houtside, fun s hs => ⟨hnames s hs, ?_⟩⟩
  · rw [normalize_relative hrelative, hresolved]
    exact if_neg fun hnil => hsome (List.reverse_eq_nil_iff.1 (List.append_eq_nil_iff.1 hnil).2)
  · have hmem : s ∈ resolveSegments false (segments (linkPath document path)) :=
      hresolved ▸ List.mem_append_right _ (List.mem_reverse.2 hs)
    exact slash_notMem (mem_of_mem_resolveSegments hmem).1

/-- A local link is normalized; what leads out of the root is read from the directory of
dependencies. -/
theorem resolveHref_of_local (hlocal : isLocal href = true) (hpath : pathPart href ≠ "") :
    resolveHref document href dependencyDir =
      let normal := normalize (linkPath document (pathPart href))
      if startsWith normal "../" then
        dependencyDir.map fun dir => joinPath dir (dropClimbs normal.length normal)
      else some normal := by
  have hkept : (!isLocal href || decide (pathPart href = "")) = false := by simp [hlocal, hpath]
  simp only [resolveHref, hkept, Bool.false_eq_true, if_false]
  rfl

/-- What begins with none of the marks of a remote link is local. -/
theorem isLocal_of_not_remote (hne : href ≠ "")
    (hlocal : ∀ p ∈ remoteStarts, startsWith href p = false) : isLocal href = true := by
  have hany : remoteStarts.any (startsWith href) = false := by simpa using hlocal
  simp [isLocal, hne, hany]

variable {left : List String}

/-- Names joined to a directory of names lead on from it. -/
theorem joinPath_ofSegments {dir : String} (hdir : ∀ s ∈ segments dir, IsName s) (hne : left ≠ [])
    (hnames : ∀ s ∈ left, IsName s) (hslash : ∀ s ∈ left, '/' ∉ s.toList) :
    joinPath dir (ofSegments left) = ofSegments (segments dir ++ left) := by
  have hsegments := segments_ofSegments hne hslash
  have hrelative : startsWith (ofSegments left) "/" = false :=
    startsWith_slash_names (hsegments.symm ▸ hnames)
  rw [joinPath_eq (fun h => (hdir "" h).1 rfl) hrelative, ofSegments_append (segments_ne_nil dir) hne,
    ofSegments_segments]

/-- A path of names does not lead upwards. -/
theorem up_notMem_ofSegments (hne : left ≠ []) (hnames : ∀ s ∈ left, IsName s)
    (hslash : ∀ s ∈ left, '/' ∉ s.toList) : ".." ∉ segments (ofSegments left) := by
  rw [segments_ofSegments hne hslash]
  exact fun hup => (hnames ".." hup).2.2 rfl

/-- A local link to a file leads to its destination, and that does not lead upwards. -/
theorem resolveHref_eq_destination (hdocument : ∀ s ∈ segments document, IsName s)
    (hlocal : ∀ p ∈ remoteStarts, startsWith href p = false)
    (hlast : IsName ((segments (pathPart href)).getLastD ""))
    (hdir : ∀ dir ∈ dependencyDir, ∀ s ∈ segments dir, IsName s) :
    resolveHref document href dependencyDir = destination document href dependencyDir ∧
      ∀ path ∈ resolveHref document href dependencyDir, ".." ∉ segments path := by
  have hpath : pathPart href ≠ "" := by
    intro hempty
    rw [hempty] at hlast
    exact absurd hlast (by decide)
  have hhref : href ≠ "" := by
    rintro rfl
    exact hpath (by decide)
  obtain ⟨n, hnormal, houtside, hwalk⟩ := exists_normalize_linkPath hdocument hlast
  have hsome : (Walk.ofLink document (pathPart href)).names ≠ [] :=
    Walk.names_along_ne_nil (segments_ne_nil _) hlast
  rw [resolveHref_of_local (isLocal_of_not_remote hhref hlocal) hpath, hnormal, destination]
  generalize Walk.ofLink document (pathPart href) = w at *
  have hne : w.names.reverse ≠ [] := mt List.reverse_eq_nil_iff.1 hsome
  have hnames : ∀ s ∈ w.names.reverse, IsName s := fun s hs => (hwalk s (List.mem_reverse.1 hs)).1
  have hslash : ∀ s ∈ w.names.reverse, '/' ∉ s.toList := fun s hs =>
    (hwalk s (List.mem_reverse.1 hs)).2
  dsimp only
  by_cases hout : w.outside = true
  · rw [if_pos ((startsWith_up_iff hne hnames hslash).2 (houtside.1 hout)), if_pos hout,
      dropClimbs_ups hne hnames hslash (le_length_ups hslash hne)]
    cases dependencyDir with
    | none => exact ⟨rfl, nofun⟩
    | some dir =>
      have hdirNames : ∀ s ∈ segments dir, IsName s := hdir dir rfl
      have hjoin := joinPath_ofSegments hdirNames hne hnames hslash
      refine ⟨congrArg some hjoin, fun path hpath => ?_⟩
      obtain rfl := Option.some.inj hpath
      change ".." ∉ segments (joinPath dir (ofSegments w.names.reverse))
      rw [hjoin]
      exact up_notMem_ofSegments (List.append_ne_nil_of_right_ne_nil _ hne)
        (List.forall_mem_append.2 ⟨hdirNames, hnames⟩)
        (List.forall_mem_append.2 ⟨fun _ => slash_notMem, hslash⟩)
  · have hzero : ¬0 < n := mt houtside.2 hout
    rw [if_neg (mt (startsWith_up_iff hne hnames hslash).1 hzero), if_neg hout]
    obtain rfl : n = 0 := Nat.eq_zero_of_not_pos hzero
    refine ⟨rfl, fun path hpath => ?_⟩
    obtain rfl := Option.some.inj hpath
    exact up_notMem_ofSegments hne hnames hslash

/-- A link that leaves the root and goes on behind it. -/
theorem resolveHref_eq_destination_outside :
    (∀ s ∈ segments "demo/pages/index.html", IsName s) ∧
      (∀ p ∈ remoteStarts, startsWith "../..//../polymer/./lib/../polymer.html?a#b" p = false) ∧
      IsName ((segments (pathPart "../..//../polymer/./lib/../polymer.html?a#b")).getLastD "") ∧
      (∀ s ∈ segments "bower_components", IsName s) ∧
      resolveHref "demo/pages/index.html" "../..//../polymer/./lib/../polymer.html?a#b"
        (some "bower_components") = some "bower_components/polymer/polymer.html" ∧
      ".." ∉ segments "bower_components/polymer/polymer.html" := by
  have hdocument : ∀ s ∈ segments "demo/pages/index.html", IsName s := by decide
  have hlocal : ∀ p ∈ remoteStarts,
      startsWith "../..//../polymer/./lib/../polymer.html?a#b" p = false := by decide
  have hlast : IsName
      ((segments (pathPart "../..//../polymer/./lib/../polymer.html?a#b")).getLastD "") := by decide
  have hdir : ∀ s ∈ segments "bower_components", IsName s := by decide
  obtain ⟨hresolved, hinside⟩ := resolveHref_eq_destination hdocument hlocal hlast
    fun dir (h : dir ∈ some "bower_components") => Option.some.inj h ▸ hdir
  have hdestination : destination "demo/pages/index.html"
      "../..//../polymer/./lib/../polymer.html?a#b" (some "bower_components") =
        some "bower_components/polymer/polymer.html" := by decide +kernel
  rw [hdestination] at hresolved
  exact ⟨hdocument, hlocal, hlast, hdir, hresolved, hinside _ (hresolved ▸ rfl)⟩

end

end HtmlModules.Url
