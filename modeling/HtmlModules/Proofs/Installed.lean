import HtmlModules.Proofs.Specifier
import Mathlib.Data.List.Infix

/-!
# Specifiers of dependencies

The dependencies of an element are installed beside it, in the directory that holds the element itself.
A module of the element that imports a module of a dependency goes up to that directory first: as many
steps as there are directories around the module and segments in the name of the package
(`PackageLayout.pathSpecifier_dependency`). A walk loses no more steps than it takes upwards
(`Url.length_foldl_pushSegment`), so this leads to the dependency if and only if each segment of that
name is a directory of its own (`PackageLayout.pathSpecifier_installed_iff`).
-/

namespace HtmlModules

namespace Text

/-! ## Places in texts -/

/-- What is replaced is the first occurrence, in front of which its first character does not
stand. -/
theorem replaceFirstChars_append {c : Char} (pat rep back : List Char) :
    ∀ {front : List Char}, c ∉ front →
      replaceFirstChars (c :: pat) rep (front ++ (c :: pat ++ back)) = front ++ (rep ++ back)
  | [], _ => by
    have hbegins : (c :: pat).isPrefixOf (c :: (pat ++ back)) = true :=
      List.isPrefixOf_iff_prefix.2 (List.prefix_append (c :: pat) back)
    simp [replaceFirstChars, hbegins]
  | d :: front, h => by
    obtain ⟨hcd, hfront⟩ := List.ne_and_not_mem_of_not_mem_cons h
    have hbegins : (c :: pat).isPrefixOf (d :: (front ++ (c :: pat ++ back))) = false := by
      simp [List.isPrefixOf, hcd]
    rw [List.cons_append, replaceFirstChars, hbegins, replaceFirstChars_append pat rep back hfront]
    rfl

/-- A text contains a slash if one of its characters is one. -/
theorem contains_slash_iff {s : String} : contains s "/" = true ↔ '/' ∈ s.toList := by
  rw [contains, indexOf, isSome_indexOfChars_iff]
  exact List.singleton_infix_iff '/' s.toList

/-- A text is replaced where it begins if its first character does not stand in front of that. -/
theorem replaceFirst_append {front pat : String} {c : Char} (hc : pat.toList.head? = some c)
    (hfront : c ∉ front.toList) (rep back : String) :
    replaceFirst (front ++ (pat ++ back)) pat rep = front ++ (rep ++ back) := by
  obtain ⟨rest, hpat⟩ := List.head?_eq_some_iff.1 hc
  apply String.toList_injective
  have hchars := replaceFirstChars_append rest rep.toList back.toList hfront
  simpa [replaceFirst, hpat] using hchars

end Text

namespace Url

open Text

variable {walk done : List String} {s : String}

/-! ## Steps upwards -/

theorem mem_ofSegments_ups {c : Char} :
    ∀ {n : Nat}, c ∈ (ofSegments (List.replicate n "..")).toList → c = '.' ∨ c = '/'
  | 0, h => by cases h
  | 1, h => by
    have h : c ∈ ['.', '.'] := h
    exact .inl (by simpa using h)
  | n + 2, h => by
    rw [List.replicate_succ, ofSegments_cons _ (by simp)] at h
    simp only [String.toList_append, List.mem_append] at h
    rcases h with (h | h) | h
    · have h : c ∈ ['.', '.'] := h
      exact .inl (by simpa using h)
    · have h : c ∈ ['/'] := h
      exact .inr (by simpa using h)
    · exact mem_ofSegments_ups h

/-- If a walk stays below the root, each name leads one step down and each `..` one step up. -/
theorem length_foldl_pushSegment :
    ∀ {walk done : List String}, ".." ∉ walk.foldl (pushSegment false) done →
      (walk.foldl (pushSegment false) done).length + walk.count ".." =
        done.length + walk.countP (fun s => IsName s)
  | [], _, _ => rfl
  | s :: walk, done, h => by
    rw [List.foldl_cons] at h ⊢
    have ih := length_foldl_pushSegment h
    rw [List.count_cons, List.countP_cons]
    by_cases hskip : s = "" ∨ s = "."
    · rw [pushSegment_skip hskip] at ih ⊢
      have hup : s ≠ ".." := by rcases hskip with rfl | rfl <;> decide
      have hname : ¬IsName s := fun hname => (isName_iff.1 hname).1 hskip
      simpa [hup, hname] using ih
    by_cases hup : s = ".."
    · subst hup
      obtain _ | ⟨top, rest⟩ := done
      · have hstep : ".." ∈ pushSegment false [] ".." := by decide
        exact absurd (up_mem_foldl_pushSegment hstep) h
      · have htop : top ≠ ".." := by
          rintro rfl
          exact h (up_mem_foldl_pushSegment (by simp [pushSegment]))
        rw [pushSegment_up htop] at ih ⊢
        have hname : ¬IsName ".." := by decide
        simp only [List.length_cons, hname, beq_self_eq_true, if_true, decide_false]
        simp
        omega
    · have hname : IsName s := isName_iff.2 ⟨hskip, hup⟩
      rw [pushSegment_name hname] at ih ⊢
      simp only [List.length_cons] at ih
      simp [hup, hname]
      omega

theorem countP_of_names {names : List String} (h : ∀ s ∈ names, IsName s) :
    names.countP (fun s => IsName s) = names.length :=
  List.countP_eq_length.2 fun s hs => decide_eq_true (h s hs)

theorem count_up_of_names {names : List String} (h : ∀ s ∈ names, IsName s) :
    names.count ".." = 0 :=
  List.count_eq_zero.2 fun hup => (h _ hup).2.2 rfl

/-- A walk that goes down by a name, by the segments of a package and by names, and then up by as many
steps as it has gone down behind the first one, is back there if and only if the segments are names. -/
theorem foldl_pushSegment_back_iff {name : String} {package dir rest : List String}
    (hname : IsName name) (hdir : ∀ s ∈ dir, IsName s) (hrest : ∀ s ∈ rest, IsName s) :
    (name :: package ++ dir ++ (List.replicate (dir.length + package.length) ".." ++ rest)).foldl
        (pushSegment false) [] = (name :: rest).reverse ↔ ∀ s ∈ package, IsName s := by
  constructor
  · intro h
    have hlength := @length_foldl_pushSegment
      (name :: package ++ dir ++ (List.replicate (dir.length + package.length) ".." ++ rest)) []
    rw [h] at hlength
    have hbelow : ".." ∉ (name :: rest).reverse := by
      intro hup
      rcases List.mem_cons.1 (List.mem_reverse.1 hup) with rfl | hup
      · exact hname.2.2 rfl
      · exact (hrest _ hup).2.2 rfl
    have hcount := hlength hbelow
    have hups : ¬IsName ".." := by decide
    have hne : name ≠ ".." := hname.2.2
    have hall : package.countP (fun s => IsName s) = package.length := by
      simp only [List.length_reverse, List.length_cons, List.length_nil, List.cons_append,
        List.count_cons, List.count_append, List.count_replicate_self, List.countP_cons,
        List.countP_append, List.countP_replicate, count_up_of_names hdir, count_up_of_names hrest,
        countP_of_names hdir, countP_of_names hrest, beq_iff_eq, hne, hname, hups, decide_true,
        decide_false, if_true, if_false, Bool.false_eq_true] at hcount
      have hle := List.countP_le_length (p := fun s => decide (IsName s)) (l := package)
      omega
    exact fun s hs => of_decide_eq_true (List.countP_eq_length.1 hall s hs)
  · intro h
    have hdown : ∀ s ∈ package ++ dir, IsName s := List.forall_mem_append.2 ⟨h, hdir⟩
    have hups : List.replicate (dir.length + package.length) ".." =
        (package ++ dir).map fun _ => ".." := by
      simp [Nat.add_comm]
    rw [hups, List.cons_append, List.cons_append, List.foldl_cons, pushSegment_name hname,
      List.foldl_append, List.foldl_append, foldl_pushSegment_names hdown, foldl_pushSegment_ups hdown,
      foldl_pushSegment_names hrest, List.reverse_cons]

end Url

namespace PackageLayout

open Text Url

variable {l : PackageLayout} {f rest : String} {dir : List String} {file : String}

/-! ## Out of an element -/

/-- A path that begins upwards is not spelled like one that leads down. -/
theorem afterStart?_up {p : String} (hp : startsWith p "./" = true) (way : List String) :
    afterStart? (ofSegments (".." :: way)) p = none := by
  obtain ⟨rest, rfl⟩ := startsWith_iff.1 hp
  have hup : startsWith ".." ".." = true := startsWith_iff.2 ⟨"", rfl⟩
  obtain ⟨back, hback⟩ := startsWith_iff.1 (startsWith_ofSegments_cons hup way)
  simp [afterStart?, startsWith, hback, List.isPrefixOf]

/-- The first segment of a path decides whether it begins with a dot. -/
theorem startsWith_dot_ofSegments {first : String} (hne : first ≠ "")
    (hdot : startsWith first "." = false) (parts : List String) :
    startsWith (ofSegments (first :: parts)) "." = false := by
  obtain ⟨c, chars, hfirst⟩ := List.exists_cons_of_ne_nil (mt String.toList_eq_nil_iff.1 hne)
  cases parts with
  | nil => exact hdot
  | cons second parts =>
    rw [ofSegments_cons _ (List.cons_ne_nil second parts)]
    simpa [startsWith, hfirst, List.isPrefixOf] using hdot

/-- The way from a module at the top of the element into the directory of dependencies. -/
theorem spell_down {name : String} (hne : name ≠ "") (hdot : startsWith name "." = false)
    {parts : List String} (hparts : parts ≠ []) :
    spell (climb [] (name :: parts)) = "./" ++ name ++ "/" ++ ofSegments parts := by
  rw [climb_nil_left, spell, if_neg (List.cons_ne_nil _ _),
    startsWith_dot_ofSegments hne hdot, ofSegments_cons _ hparts]
  simp [String.append_assoc]

/-- The way from any other module leads upwards first. -/
theorem spell_up {name a : String} {dir parts : List String} (h : a ≠ name) :
    spell (climb (a :: dir) (name :: parts)) =
      ofSegments (List.replicate (dir.length + 1) ".." ++ name :: parts) := by
  have hups : (a :: dir).map (fun _ => "..") = List.replicate (dir.length + 1) ".." := by
    simp [List.replicate_succ]
  have hstarts : startsWith (ofSegments (List.replicate (dir.length + 1) ".." ++ name :: parts)) "." =
      true := by
    rw [List.replicate_succ, List.cons_append]
    exact startsWith_ofSegments_cons (by decide) _
  rw [climb_cons_of_ne h, hups, spell, if_neg (by simp), if_pos hstarts]

/-- The directory of a module of the element does not lead into the directory of dependencies. -/
theorem ne_moduleDir {a : String} (hs : LeadsTo ("./" ++ f) (a :: dir) file)
    (hsource : l.isInternalUrl ("./" ++ f) = true) : a ≠ l.moduleDir := by
  rintro rfl
  have hsplit : "./" ++ f = "." ++ ("/" ++ l.moduleDir ++ "/") ++ ofSegments (dir ++ [file]) := by
    rw [hs.eq_ofSegments, ofSegments_cons _ (by simp), List.cons_append,
      ofSegments_cons _ (by simp)]
    simp only [String.append_assoc]
  rw [hsplit, l.isInternalUrl_eq_false] at hsource
  cases hsource

/-- What becomes of the relative url of a module as seen from inside an element. -/
def siblingUrl (l : PackageLayout) (url : String) : String :=
  match afterStart? url ("./" ++ l.moduleDir ++ "/") with
  | some rest => "../" ++ rest
  | none => replaceFirst url l.moduleDir ".."

/-- The specifier from a file of an element, by where the target lies. -/
theorem pathSpecifier_of_element {source target url : String} (helement : l.packageType = .element)
    (hsource : l.isInternalUrl source = true) (hurl : relativeUrl source target = .ok url) :
    l.pathSpecifier source target =
      .ok (if contains l.packageName "/" && !l.isInternalUrl target then
        "../" ++ (afterStart? (l.siblingUrl url) "./").getD (l.siblingUrl url)
      else l.siblingUrl url) := by
  unfold pathSpecifier
  rw [hurl, hsource, helement]
  simp only [bind, Except.bind, siblingUrl]
  cases afterStart? url ("./" ++ l.moduleDir ++ "/") <;>
    cases contains l.packageName "/" <;> cases l.isInternalUrl target <;> rfl

/-- From inside an element, the name of the directory of dependencies becomes one more step upwards. -/
theorem siblingUrl_spell (hs : LeadsTo ("./" ++ f) dir file) (hsource : l.isInternalUrl ("./" ++ f) = true)
    (hname : IsName l.moduleDir) (hslash : '/' ∉ l.moduleDir.toList)
    (hdot : startsWith l.moduleDir "." = false) {parts : List String} (hparts : parts ≠ []) :
    l.siblingUrl (spell (climb dir (l.moduleDir :: parts))) =
      ofSegments (List.replicate (dir.length + 1) ".." ++ parts) := by
  cases dir with
  | nil =>
    rw [siblingUrl, spell_down hname.1 hdot hparts, afterStart?_append]
    exact (ofSegments_cons ".." hparts).symm
  | cons a dir =>
    have hne := ne_moduleDir hs hsource
    have hnone : afterStart? (ofSegments (List.replicate (dir.length + 1) ".." ++ l.moduleDir :: parts))
        ("./" ++ (l.moduleDir ++ "/")) = none :=
      afterStart?_up (startsWith_iff.2 ⟨_, rfl⟩) _
    obtain ⟨c, chars, hchars⟩ := List.exists_cons_of_ne_nil (mt String.toList_eq_nil_iff.1 hname.1)
    have hc : c ∉ (ofSegments (List.replicate (dir.length + 1) "..") ++ "/").toList := by
      intro hmem
      have hcdot : c = '.' ∨ c = '/' := by
        rw [String.toList_append, List.mem_append] at hmem
        exact hmem.elim mem_ofSegments_ups fun h => .inr (List.mem_singleton.1 h)
      rcases hcdot with rfl | rfl
      · simp [startsWith, hchars] at hdot
      · exact hslash (hchars ▸ List.mem_cons_self)
    have hsplit (s : String) : ofSegments (List.replicate (dir.length + 1) ".." ++ s :: parts) =
        ofSegments (List.replicate (dir.length + 1) "..") ++ "/" ++
          (s ++ ("/" ++ ofSegments parts)) := by
      rw [ofSegments_append (by simp) (by simp), ofSegments_cons _ hparts]
      simp only [String.append_assoc]
    have hups : List.replicate ((a :: dir).length + 1) ".." ++ parts =
        List.replicate (dir.length + 1) ".." ++ ".." :: parts := by
      rw [List.length_cons, List.replicate_succ', List.append_assoc, List.singleton_append]
    rw [siblingUrl, spell_up hne, String.append_assoc, hnone, hups, hsplit ".."]
    dsimp only
    rw [hsplit l.moduleDir, replaceFirst_append (by rw [hchars]; rfl) hc]

/-- The url of a module of a dependency leads over the directory of dependencies. -/
theorem segments_dependency (hslash : '/' ∉ l.moduleDir.toList) (rest : String) :
    segments ("./" ++ l.moduleDir ++ "/" ++ rest) = "." :: l.moduleDir :: segments rest := by
  rw [segments_append, segments_anchored, segments_of_notMem hslash]
  rfl

/-- The path of a dependency has the directory of modules and names behind it. -/
theorem names_dependency (hslash : '/' ∉ l.moduleDir.toList)
    (htarget : Plain ("./" ++ l.moduleDir ++ "/" ++ rest)) :
    IsName l.moduleDir ∧ ∀ s ∈ segments rest, IsName s := by
  obtain ⟨dir, file, ht⟩ := htarget.exists_leadsTo
  have hsegments := ht.segments_eq
  rw [segments_dependency hslash] at hsegments
  exact List.forall_mem_cons.1 ((List.cons.inj hsegments).2 ▸ ht.names)

/-- A module of a dependency is not internal. -/
theorem isInternalUrl_dependency (l : PackageLayout) (rest : String) :
    l.isInternalUrl ("./" ++ l.moduleDir ++ "/" ++ rest) = false := by
  have hsplit : "./" ++ l.moduleDir ++ "/" ++ rest = "." ++ ("/" ++ l.moduleDir ++ "/") ++ rest := by
    simp only [String.append_assoc]
    rfl
  rw [hsplit, l.isInternalUrl_eq_false]

/-- A module of an element imports a module of a dependency by as many steps upwards as lead to the
directory of dependencies, if the name of the package is a name, or two of them. -/
theorem pathSpecifier_dependency (helement : l.packageType = .element)
    (hcount : l.packageName.toList.count '/' ≤ 1) (hslash : '/' ∉ l.moduleDir.toList)
    (hdot : startsWith l.moduleDir "." = false) (hs : LeadsTo ("./" ++ f) dir file)
    (hsource : l.isInternalUrl ("./" ++ f) = true)
    (htarget : Plain ("./" ++ l.moduleDir ++ "/" ++ rest)) :
    l.pathSpecifier ("./" ++ f) ("./" ++ l.moduleDir ++ "/" ++ rest) =
      .ok (ofSegments
        (List.replicate (dir.length + (segments l.packageName).length) ".." ++ segments rest)) := by
  obtain ⟨dir', file', ht⟩ := htarget.exists_leadsTo
  have hparts : dir' ++ [file'] = l.moduleDir :: segments rest := by
    have hsegments := ht.segments_eq
    rw [segments_dependency hslash] at hsegments
    exact (List.cons.inj hsegments).2.symm
  have hname : IsName l.moduleDir := ht.names _ (hparts ▸ List.mem_cons_self)
  have hurl := relativeUrl_eq hs ht (startsWith_iff.2 ⟨f, rfl⟩) htarget.anchored
  rw [hparts] at hurl
  rw [pathSpecifier_of_element helement hsource hurl, l.isInternalUrl_dependency rest,
    siblingUrl_spell hs hsource hname hslash hdot (segments_ne_nil rest)]
  have hlevels := length_segments l.packageName
  by_cases hscope : contains l.packageName "/" = true
  · have hone : (segments l.packageName).length = 2 := by
      have hmem := List.count_pos_iff.2 (contains_slash_iff.1 hscope)
      omega
    have hups : List.replicate (dir.length + 2) ".." ++ segments rest =
        ".." :: (List.replicate (dir.length + 1) ".." ++ segments rest) := rfl
    have hnone : afterStart? (ofSegments (List.replicate (dir.length + 1) ".." ++ segments rest)) "./" =
        none := afterStart?_up (by decide) _
    rw [hone, hups, ofSegments_cons _ (by simp)]
    simp [hscope, hnone]
  · have hone : (segments l.packageName).length = 1 := by
      have hzero := mt List.count_pos_iff.1 (mt contains_slash_iff.2 hscope)
      omega
    simp [hscope, hone]

/-- Where a module of the element lies when the element is installed. -/
theorem segments_installed (hslash : '/' ∉ l.moduleDir.toList) (hs : LeadsTo ("./" ++ f) dir file) :
    segments (l.moduleDir ++ "/" ++ l.packageName ++ "/" ++ f) =
      l.moduleDir :: segments l.packageName ++ dir ++ [file] := by
  have hf : segments f = dir ++ [file] := by
    have hsegments := hs.segments_eq
    rw [segments_anchored] at hsegments
    exact (List.cons.inj hsegments).2
  rw [segments_append, segments_append, segments_of_notMem hslash, hf, ← List.append_assoc]
  rfl

/-- Steps upwards, and then down by names. -/
theorem isWay_up (n : Nat) (hrest : ∀ s ∈ segments rest, IsName s) :
    IsWay (List.replicate n ".." ++ segments rest) := by
  intro s hs
  rcases List.mem_append.1 hs with hup | hs
  · rw [(List.mem_replicate.1 hup).2]
    exact ⟨.inl rfl, by decide⟩
  · exact ⟨.inr (hrest s hs), slash_notMem hs⟩

/-- The specifier of a module of a dependency leads there from the place where the element is installed,
if and only if the name of the package is made of names. -/
theorem pathSpecifier_installed_iff (helement : l.packageType = .element)
    (hcount : l.packageName.toList.count '/' ≤ 1) (hslash : '/' ∉ l.moduleDir.toList)
    (hdot : startsWith l.moduleDir "." = false) (hsource : Plain ("./" ++ f))
    (his : l.isInternalUrl ("./" ++ f) = true)
    (htarget : Plain ("./" ++ l.moduleDir ++ "/" ++ rest)) :
    ∃ path, l.pathSpecifier ("./" ++ f) ("./" ++ l.moduleDir ++ "/" ++ rest) = .ok path ∧
      (normalize (joinPath (dirName (l.moduleDir ++ "/" ++ l.packageName ++ "/" ++ f)) path) =
          l.moduleDir ++ "/" ++ rest ↔
        ∀ s ∈ segments l.packageName, IsName s) := by
  obtain ⟨dir, file, hs⟩ := hsource.exists_leadsTo
  refine ⟨_, pathSpecifier_dependency helement hcount hslash hdot hs his htarget, ?_⟩
  set way := List.replicate (dir.length + (segments l.packageName).length) ".." ++ segments rest
    with hway
  obtain ⟨hname, hrest⟩ := names_dependency hslash htarget
  have hdir : ∀ s ∈ dir, IsName s := fun s hmem => hs.isName_dir hmem
  have hplace := segments_installed hslash hs
  have hrelative : startsWith (l.moduleDir ++ "/" ++ l.packageName ++ "/" ++ f) "/" = false :=
    startsWith_slash (by rw [hplace]; simpa using hname.1)
  have hsteps : IsWay way := isWay_up _ hrest
  have hne : way ≠ [] := List.append_ne_nil_of_right_ne_nil _ (segments_ne_nil rest)
  obtain ⟨hjoined, hfold⟩ := foldl_segments_joinPath false hrelative
    (hsteps.startsWith_slash hne)
  have hparts : ∀ s ∈ l.moduleDir :: segments rest, IsName s ∧ '/' ∉ s.toList := by
    intro s hs
    rcases List.mem_cons.1 hs with rfl | hs
    · exact ⟨hname, hslash⟩
    · exact ⟨hrest s hs, slash_notMem hs⟩
  have hgoal : l.moduleDir ++ "/" ++ rest = ofSegments (l.moduleDir :: segments rest) := by
    rw [ofSegments_cons _ (segments_ne_nil rest), ofSegments_segments]
  rw [hgoal, normalize_eq_iff hjoined (List.cons_ne_nil _ _) hparts, resolveSegments, hfold, hplace,
    List.dropLast_concat, hsteps.segments_ofSegments hne, List.reverse_eq_iff]
  exact foldl_pushSegment_back_iff hname hdir hrest

theorem pathSpecifier_installed_iff_scoped :
    Plain "./demo/pages/index.js" ∧ Plain "./node_modules/@polymer/polymer/polymer.js" ∧
      scopedElement.isInternalUrl "./demo/pages/index.js" = true ∧
      scopedElement.pathSpecifier "./demo/pages/index.js"
          "./node_modules/@polymer/polymer/polymer.js" =
        .ok "../../../../@polymer/polymer/polymer.js" ∧
      normalize (joinPath (dirName "node_modules/@polymer/paper-button/demo/pages/index.js")
          "../../../../@polymer/polymer/polymer.js") =
        "node_modules/@polymer/polymer/polymer.js" := by
  have hsource : Plain "./demo/pages/index.js" := ⟨by decide, by decide⟩
  have htarget : Plain "./node_modules/@polymer/polymer/polymer.js" := ⟨by decide, by decide⟩
  have his : scopedElement.isInternalUrl "./demo/pages/index.js" = true := by decide +kernel
  have hplain : Plain ("./" ++ scopedElement.moduleDir ++ "/" ++ "@polymer/polymer/polymer.js") :=
    htarget
  obtain ⟨path, hpath, hback⟩ := pathSpecifier_installed_iff (l := scopedElement)
    (f := "demo/pages/index.js") rfl (by decide) (by decide) (by decide) hsource his hplain
  have hspecifier : scopedElement.pathSpecifier "./demo/pages/index.js"
      "./node_modules/@polymer/polymer/polymer.js" =
        .ok "../../../../@polymer/polymer/polymer.js" := by decide +kernel
  obtain rfl := Except.ok.inj (hspecifier.symm.trans hpath)
  exact ⟨hsource, htarget, his, hpath, hback.2 (by decide)⟩

/-- The name of a package that ends with a slash has a slash, but it takes no directory more. -/
theorem exists_not_installed :
    ∃ (l : PackageLayout) (f rest path : String), l.packageType = .element ∧
      l.packageName.toList.count '/' ≤ 1 ∧ '/' ∉ l.moduleDir.toList ∧
      startsWith l.moduleDir "." = false ∧ Plain ("./" ++ f) ∧
      l.isInternalUrl ("./" ++ f) = true ∧ Plain ("./" ++ l.moduleDir ++ "/" ++ rest) ∧
      l.pathSpecifier ("./" ++ f) ("./" ++ l.moduleDir ++ "/" ++ rest) = .ok path ∧
      normalize (joinPath (dirName (l.moduleDir ++ "/" ++ l.packageName ++ "/" ++ f)) path) ≠
        l.moduleDir ++ "/" ++ rest :=
  ⟨{ packageName := "my-element/" }, "a.js", "polymer/polymer.js", "../../polymer/polymer.js", rfl,
    by decide, by decide, by decide, ⟨by decide, by decide⟩, by decide +kernel,
    ⟨by decide, by decide⟩, by decide +kernel, by decide +kernel⟩

end PackageLayout

end HtmlModules
