import HtmlModules.Layout
import HtmlModules.Proofs.Relative

/-!
# Specifiers inside a package

The way from one directory to another is the only walk between them that is not more than one step
longer (`Url.steps_eq_climb`). An element that imports one of its own modules has the name of the
directory of dependencies replaced in the relative url if it occurs there. What this gives has no more
steps, so it leads somewhere else: a specifier inside a package leads back to the module if and only if
there was nothing to replace (`PackageLayout.pathSpecifier_leadsBack_iff`).
-/

namespace HtmlModules

namespace Text

/-! ## The first occurrence -/

variable {s pat rep : String}

theorem isSome_indexOfChars_iff {pat : List Char} :
    ∀ {cs : List Char}, (indexOfChars pat cs).isSome = true ↔ pat <:+: cs
  | [] => by
    rw [List.infix_nil]
    cases pat <;> simp [indexOfChars]
  | c :: cs => by
    rw [indexOfChars, List.infix_cons_iff, ← List.isPrefixOf_iff_prefix]
    split_ifs with hbegins
    · simp [hbegins]
    · simp [hbegins, isSome_indexOfChars_iff]

theorem contains_iff : contains s pat = true ↔ ∃ front back, s = front ++ pat ++ back := by
  rw [contains, indexOf, isSome_indexOfChars_iff]
  constructor
  · rintro ⟨front, back, h⟩
    exact ⟨String.ofList front, String.ofList back, String.toList_injective (by simp [← h])⟩
  · rintro ⟨front, back, rfl⟩
    exact ⟨front.toList, back.toList, by simp⟩

theorem exists_replaceFirstChars {pat : List Char} (rep : List Char) :
    ∀ {cs : List Char}, pat <:+: cs →
      ∃ front back, cs = front ++ pat ++ back ∧ replaceFirstChars pat rep cs = front ++ rep ++ back
  | [], h => by
    obtain rfl := List.infix_nil.1 h
    exact ⟨[], [], rfl, by simp [replaceFirstChars]⟩
  | c :: cs, h => by
    by_cases hbegins : pat.isPrefixOf (c :: cs) = true
    · obtain ⟨back, hback⟩ := List.isPrefixOf_iff_prefix.1 hbegins
      refine ⟨[], back, by simpa using hback.symm, ?_⟩
      rw [replaceFirstChars, if_pos hbegins, ← hback, List.drop_left]
      rfl
    · have hrest : pat <:+: cs :=
        (List.infix_cons_iff.1 h).resolve_left fun h => hbegins (List.isPrefixOf_iff_prefix.2 h)
      obtain ⟨front, back, hcs, hreplaced⟩ := exists_replaceFirstChars rep hrest
      refine ⟨c :: front, back, by rw [hcs]; rfl, ?_⟩
      rw [replaceFirstChars, if_neg hbegins, hreplaced]
      rfl

theorem replaceFirstChars_eq_self {pat : List Char} (rep : List Char) :
    ∀ {cs : List Char}, ¬pat <:+: cs → replaceFirstChars pat rep cs = cs
  | [], h => by
    have hsome : pat.isEmpty = false := by
      simpa using fun hnil : pat = [] => h (hnil ▸ List.infix_rfl)
    simp [replaceFirstChars, hsome]
  | c :: cs, h => by
    rw [List.infix_cons_iff, not_or, ← List.isPrefixOf_iff_prefix] at h
    rw [replaceFirstChars, if_neg h.1, replaceFirstChars_eq_self rep h.2]

/-- If a text occurs, its first occurrence is replaced. -/
theorem exists_replaceFirst (rep : String) (h : contains s pat = true) :
    ∃ front back, s = front ++ pat ++ back ∧ replaceFirst s pat rep = front ++ rep ++ back := by
  obtain ⟨front, back, hs, hreplaced⟩ :=
    exists_replaceFirstChars rep.toList (isSome_indexOfChars_iff.1 h)
  exact ⟨String.ofList front, String.ofList back, String.toList_injective (by simp [hs]),
    String.toList_injective (by simp [replaceFirst, hreplaced])⟩

theorem replaceFirst_eq_self (rep : String) (h : contains s pat = false) :
    replaceFirst s pat rep = s := by
  rw [contains, indexOf, Bool.eq_false_iff, ne_eq, isSome_indexOfChars_iff] at h
  rw [replaceFirst, replaceFirstChars_eq_self _ h, String.ofList_toList]

end Text

namespace Url

open Text

variable {start path walk done : List String} {s : String}

/-! ## Shortest ways -/

/-- From a directory and from the one below it, the way to the same place differs by one step. -/
theorem climb_concat (s : String) : ∀ start path : List String,
    climb start path = s :: climb (start ++ [s]) path ∨
      climb (start ++ [s]) path = ".." :: climb start path
  | [], [] => .inr rfl
  | [], b :: path => by
    by_cases hb : s = b
    · subst hb
      exact .inl (by rw [List.nil_append, climb_cons_self, climb_nil_left, climb_nil_left])
    · exact .inr (by rw [List.nil_append, climb_cons_of_ne hb, climb_nil_left]; rfl)
  | a :: start, [] => .inr (by rw [climb_nil_right, climb_nil_right, map_up_concat])
  | a :: start, b :: path => by
    by_cases hab : a = b
    · subst hab
      rw [List.cons_append, climb_cons_self, climb_cons_self]
      exact climb_concat s start path
    · refine .inr ?_
      rw [List.cons_append, climb_cons_of_ne hab, climb_cons_of_ne hab, ← List.cons_append,
        map_up_concat, List.cons_append]

/-- What leads out of the root leads nowhere below it. -/
theorem up_mem_foldl_pushSegment :
    ∀ {walk done : List String}, ".." ∈ done → ".." ∈ walk.foldl (pushSegment false) done
  | [], _, h => h
  | s :: walk, done, h => by
    rw [List.foldl_cons]
    refine up_mem_foldl_pushSegment ?_
    by_cases hskip : s = "" ∨ s = "."
    · rwa [pushSegment_skip hskip]
    by_cases hup : s = ".."
    · subst hup
      obtain _ | ⟨top, rest⟩ := done
      · cases h
      · by_cases htop : top = ".."
        · simp [pushSegment, htop]
        · rw [pushSegment_up htop]
          exact (List.mem_cons.1 h).resolve_left (Ne.symm htop)
    · rw [pushSegment_name (isName_iff.2 ⟨hskip, hup⟩)]
      exact List.mem_cons_of_mem s h

/-- The segments that lead to another directory. -/
def steps (walk : List String) : List String := walk.filter fun s => s ≠ "" ∧ s ≠ "."

theorem steps_cons_of_skip (h : s = "" ∨ s = ".") : steps (s :: walk) = steps walk := by
  refine List.filter_cons_of_neg ?_
  simpa [not_and_or] using fun hs => h.resolve_left hs

theorem steps_cons (h : ¬(s = "" ∨ s = ".")) : steps (s :: walk) = s :: steps walk :=
  List.filter_cons_of_pos (by simpa [not_or] using h)

/-- A step that takes the way to its end one step closer, or away: the walk that begins with it takes as
many steps as the way from where it begins, if the rest of the walk does so from where the step leads. -/
theorem step_along {way next rest : List String} (hstep : way = s :: next ∨ ∃ t, next = t :: way)
    (hle : next.length ≤ rest.length) (heq : rest.length ≤ next.length + 1 → rest = next) :
    way.length ≤ (s :: rest).length ∧ ((s :: rest).length ≤ way.length + 1 → s :: rest = way) := by
  rw [List.length_cons]
  rcases hstep with rfl | ⟨t, rfl⟩
  · rw [List.length_cons]
    exact ⟨by omega, fun hsteps => congrArg _ (heq (by omega))⟩
  · rw [List.length_cons] at hle
    exact ⟨by omega, fun _ => by omega⟩

/-- A walk from one directory to another takes as many steps as the way at least. If it takes one more
at most, it takes the steps of the way. -/
theorem steps_eq_climb (hpath : ∀ s ∈ path, IsName s) :
    ∀ {walk start : List String}, (∀ s ∈ start, IsName s) →
      walk.foldl (pushSegment false) start.reverse = path.reverse →
      (climb start path).length ≤ (steps walk).length ∧
        ((steps walk).length ≤ (climb start path).length + 1 → steps walk = climb start path)
  | [], start, _, h => by
    obtain rfl := List.reverse_injective h
    have hself := climb_prefix start []
    rw [List.append_nil] at hself
    simp [hself, steps]
  | s :: walk, start, hstart, h => by
    rw [List.foldl_cons] at h
    by_cases hskip : s = "" ∨ s = "."
    · rw [pushSegment_skip hskip] at h
      rw [steps_cons_of_skip hskip]
      exact steps_eq_climb hpath hstart h
    rw [steps_cons hskip]
    by_cases hup : s = ".."
    · subst hup
      obtain rfl | ⟨init, last, rfl⟩ := List.eq_nil_or_concat start
      · have hmem : ".." ∈ path.reverse := h ▸ up_mem_foldl_pushSegment List.mem_cons_self
        exact absurd rfl (hpath ".." (List.mem_reverse.1 hmem)).2.2
      · rw [List.concat_eq_append] at hstart h ⊢
        rw [List.reverse_append, List.reverse_singleton, List.singleton_append,
          pushSegment_up (hstart last (by simp)).2.2] at h
        obtain ⟨hle, heq⟩ :=
          steps_eq_climb hpath (fun t ht => hstart t (List.mem_append_left _ ht)) h
        exact step_along ((climb_concat last init path).symm.imp_right fun haway => ⟨last, haway⟩)
          hle heq
    · have hname : IsName s := isName_iff.2 ⟨hskip, hup⟩
      rw [pushSegment_name hname, ← List.reverse_concat] at h
      have hstart' : ∀ t ∈ start ++ [s], IsName t := by
        intro t ht
        rcases List.mem_append.1 ht with ht | ht
        · exact hstart t ht
        · exact List.mem_singleton.1 ht ▸ hname
      obtain ⟨hle, heq⟩ := steps_eq_climb hpath hstart' h
      exact step_along ((climb_concat s start path).imp_right fun haway => ⟨"..", haway⟩) hle heq

/-! ## Replaced names -/

/-- What stands in front of the first slash of a path is part of its first segment. -/
theorem exists_segments_append {front : String} (hfront : '/' ∉ front.toList) (back : String) :
    ∃ first rest, segments (front ++ back) = (front ++ first) :: rest := by
  obtain ⟨first, rest, hback⟩ := List.exists_cons_of_ne_nil (segments_ne_nil back)
  have hjoined : front ++ back = ofSegments ((front ++ first) :: rest) := by
    rw [← ofSegments_segments back, hback]
    cases rest with
    | nil => rfl
    | cons second rest =>
      simp only [ofSegments, join_eq_intercalate, String.intercalate_cons_cons, String.append_assoc]
  refine ⟨first, rest, ?_⟩
  rw [hjoined, segments_ofSegments (List.cons_ne_nil _ _)]
  intro s hs
  rcases List.mem_cons.1 hs with rfl | hs
  · have hfirst : '/' ∉ first.toList := slash_notMem (hback ▸ List.mem_cons_self)
    simp [hfront, hfirst]
  · exact slash_notMem (hback ▸ List.mem_cons_of_mem first hs)

/-- A step upwards in place of a part of a path does not make more segments. -/
theorem length_segments_replaced_le (front name back : String) :
    (segments (front ++ ".." ++ back)).length ≤ (segments (front ++ name ++ back)).length := by
  rw [length_segments, length_segments]
  simp

/-- A step upwards in place of a part of a path does not make it absolute. -/
theorem startsWith_slash_replaced {front name back : String}
    (h : startsWith (front ++ name ++ back) "/" = false) :
    startsWith (front ++ ".." ++ back) "/" = false := by
  simp only [startsWith, String.toList_append] at h ⊢
  cases hfront : front.toList with
  | nil => rfl
  | cons c cs =>
    rw [hfront] at h
    simpa [List.isPrefixOf] using h

/-- If a part of a path is replaced by a step upwards and the steps stay the same, the part was such a
step. -/
theorem eq_up_of_steps {front name back : String} {way : List String}
    (hway : segments (front ++ name ++ back) = way)
    (hsteps : steps (segments (front ++ ".." ++ back)) = way) : name = ".." := by
  have hcount : (segments (front ++ ".." ++ back)).length ≤ way.length :=
    hway ▸ length_segments_replaced_le front name back
  have hall : steps (segments (front ++ ".." ++ back)) = segments (front ++ ".." ++ back) :=
    List.filter_sublist.eq_of_length_le (by rwa [← hsteps] at hcount)
  have hpath : front ++ ".." ++ back = front ++ name ++ back :=
    segments_injective (by rw [← hall, hsteps, hway])
  have hchars := congrArg String.toList hpath
  simp only [String.toList_append, List.append_assoc, List.append_cancel_left_eq] at hchars
  exact (String.toList_injective (List.append_cancel_right hchars)).symm

theorem startsWith_ofSegments_cons {first p : String} (h : startsWith first p = true)
    (rest : List String) : startsWith (ofSegments (first :: rest)) p = true := by
  obtain ⟨back, rfl⟩ := startsWith_iff.1 h
  cases rest with
  | nil => exact h
  | cons second rest =>
    refine startsWith_iff.2 ⟨back ++ "/" ++ ofSegments (second :: rest), ?_⟩
    simp only [ofSegments, join_eq_intercalate, String.intercalate_cons_cons, String.append_assoc]

/-- A way whose first name begins with a dot is what remains of a path that begins with more dots than
one. -/
theorem startsWith_dot_of_steps {front back : String} {way : List String}
    (hfront : front = "" ∨ front = ".") (hsteps : steps (segments (front ++ ".." ++ back)) = way) :
    way ≠ [] ∧ startsWith (ofSegments way) "." = true := by
  have hslash : '/' ∉ (front ++ "..").toList := by rcases hfront with rfl | rfl <;> decide
  obtain ⟨first, rest, hsegments⟩ := exists_segments_append hslash back
  have hdot : startsWith (front ++ ".." ++ first) "." = true := by
    rcases hfront with rfl | rfl
    · exact startsWith_iff.2 ⟨"." ++ first, by rw [String.empty_append, ← String.append_assoc]; rfl⟩
    · exact startsWith_iff.2 ⟨".." ++ first, by rw [String.append_assoc]⟩
  have hkept : ¬(front ++ ".." ++ first = "" ∨ front ++ ".." ++ first = ".") := by
    rintro (h | h) <;>
      · have hlength := congrArg String.length h
        simp only [String.length_append] at hlength
        have h2 : "..".length = 2 := rfl
        have h1 : ".".length = 1 := rfl
        have h0 : "".length = 0 := rfl
        omega
  rw [hsegments, steps_cons hkept] at hsteps
  subst hsteps
  exact ⟨List.cons_ne_nil _ _, startsWith_ofSegments_cons hdot _⟩

theorem eq_empty_or_dot {front rest : String} (h : "." = front ++ rest) :
    front = "" ∨ front = "." := by
  have hchars := congrArg String.toList h
  rw [String.toList_append] at hchars
  rcases List.singleton_eq_append_iff.1 hchars with ⟨hfront, -⟩ | ⟨hfront, -⟩
  · exact .inl (String.toList_injective hfront)
  · exact .inr (String.toList_injective hfront)

theorem exists_eq_anchor_append {front rest path : String} (h : "./" ++ path = front ++ rest) :
    front = "" ∨ front = "." ∨ ∃ front', front = "./" ++ front' ∧ path = front' ++ rest := by
  have hchars := congrArg String.toList h
  have hanchor : "./".toList = ['.', '/'] := rfl
  rw [String.toList_append, String.toList_append, hanchor] at hchars
  rcases hfront : front.toList with _ | ⟨a, _ | ⟨b, front'⟩⟩
  · exact .inl (String.toList_injective hfront)
  · rw [hfront] at hchars
    obtain rfl : '.' = a := (List.cons.inj hchars).1
    exact .inr (.inl (String.toList_injective hfront))
  · rw [hfront] at hchars
    obtain ⟨rfl, rfl, hrest⟩ : '.' = a ∧ '/' = b ∧ path.toList = front' ++ rest.toList := by
      simpa using hchars
    refine .inr (.inr ⟨String.ofList front', String.toList_injective ?_, String.toList_injective ?_⟩)
    · simp [hfront]
    · simpa using hrest

/-- If a part of what a way is spelled as is replaced by a step upwards and the steps stay the same, the
part was such a step. -/
theorem eq_up_of_spell {front name back : String} {way : List String} (hway : IsWay way)
    (hspell : spell way = front ++ name ++ back)
    (hsteps : steps (segments (front ++ ".." ++ back)) = way) : name = ".." := by
  by_cases hdots : way ≠ [] ∧ startsWith (ofSegments way) "." = true
  · rw [spell, if_neg hdots.1, if_pos hdots.2] at hspell
    exact eq_up_of_steps (by rw [← hspell, hway.segments_ofSegments hdots.1]) hsteps
  have hfront : ¬(front = "" ∨ front = ".") :=
    fun hfront => hdots (startsWith_dot_of_steps hfront hsteps)
  rw [String.append_assoc] at hspell
  by_cases hne : way = []
  · rw [spell, if_pos hne] at hspell
    exact absurd (eq_empty_or_dot hspell) hfront
  · rw [spell, if_neg hne, if_neg fun h => hdots ⟨hne, h⟩] at hspell
    obtain h | h | ⟨front', rfl, hpath⟩ := exists_eq_anchor_append hspell
    · exact absurd (.inl h) hfront
    · exact absurd (.inr h) hfront
    · rw [String.append_assoc, String.append_assoc, segments_anchored, ← String.append_assoc,
        steps_cons_of_skip (.inr rfl)] at hsteps
      refine eq_up_of_steps ?_ hsteps
      rw [String.append_assoc, ← hpath, hway.segments_ofSegments hne]

end Url

namespace PackageLayout

open Text Url

variable {l : PackageLayout} {source target file file' : String} {dir dir' : List String}

/-! ## Inside a package -/

theorem isInternalUrl_eq_false (l : PackageLayout) (front back : String) :
    l.isInternalUrl (front ++ ("/" ++ l.moduleDir ++ "/") ++ back) = false := by
  have hcontains : contains (front ++ ("/" ++ l.moduleDir ++ "/") ++ back)
      ("/" ++ l.moduleDir ++ "/") = true := contains_iff.2 ⟨front, back, rfl⟩
  simp [isInternalUrl, hcontains]

/-- The way to a module of the package does not lead into the directory of dependencies. -/
theorem afterStart?_eq_none (hs : LeadsTo source dir file) (ht : LeadsTo target dir' file')
    (htarget : l.isInternalUrl target = true) :
    afterStart? (spell (climb dir (dir' ++ [file']))) ("./" ++ l.moduleDir ++ "/") = none := by
  unfold afterStart?
  refine if_neg fun hstarts => ?_
  obtain ⟨rest, hrest⟩ := startsWith_iff.1 hstarts
  rw [String.append_assoc, String.append_assoc] at hrest
  obtain ⟨hne, hpath, hdot⟩ := (ht.isWay dir).eq_of_spell_eq hrest
  have hdown : dir <+: dir' ++ [file'] := by
    by_contra hdown
    obtain ⟨more, hmore, -⟩ := exists_climb_eq_cons hdown
    rw [hmore, startsWith_ofSegments_cons (by decide)] at hdot
    cases hdot
  obtain ⟨way, hway⟩ := hdown
  rw [← hway, climb_prefix] at hne hpath
  rw [hs.eq_below ht hway.symm hne, ← hpath] at htarget
  have hinside := l.isInternalUrl_eq_false (dirName source) rest
  simp only [String.append_assoc] at hinside htarget
  rw [hinside] at htarget
  cases htarget

theorem pathSpecifier_eq {url : String} (hs : LeadsTo source dir file)
    (ht : LeadsTo target dir' file') (hsource : l.isInternalUrl source = true)
    (htarget : l.isInternalUrl target = true) (hurl : relativeUrl source target = .ok url)
    (hspell : url = spell (climb dir (dir' ++ [file']))) :
    l.pathSpecifier source target =
      .ok (if l.packageType = .element then replaceFirst url l.moduleDir ".." else url) := by
  have hnone := afterStart?_eq_none hs ht htarget
  rw [← hspell] at hnone
  simp only [pathSpecifier, hurl, hsource, htarget, hnone, bind, Except.bind, Bool.true_and]
  cases l.packageType <;> simp [pure, Except.pure]

/-- A step upwards in place of a part of the relative url of a module leads somewhere else. -/
theorem eq_up_of_leadsBack {front name back : String} (hs : LeadsTo source dir file)
    (ht : LeadsTo target dir' file')
    (hspell : spell (climb dir (dir' ++ [file'])) = front ++ name ++ back)
    (hback : normalize (joinPath (dirName source) (front ++ ".." ++ back)) = normalize target) :
    name = ".." := by
  have hway := ht.isWay dir
  have hrelative := hway.startsWith_slash_spell
  rw [hspell] at hrelative
  rw [normalize_joinPath_iff hs ht (startsWith_slash_replaced hrelative)] at hback
  obtain ⟨-, hsteps⟩ := steps_eq_climb ht.names (fun s hmem => hs.isName_dir hmem) hback
  refine eq_up_of_spell hway hspell (hsteps ?_)
  have hsegments : (segments (spell (climb dir (dir' ++ [file'])))).length ≤
      (climb dir (dir' ++ [file'])).length + 1 := by
    rcases hway.segments_spell with h | h <;> rw [h] <;> simp
  calc (steps (segments (front ++ ".." ++ back))).length
      ≤ (segments (front ++ ".." ++ back)).length := List.length_filter_le _ _
    _ ≤ (segments (front ++ name ++ back)).length := length_segments_replaced_le front name back
    _ ≤ (climb dir (dir' ++ [file'])).length + 1 := hspell ▸ hsegments

/-- Between modules of one package, the specifier leads back to the module, unless the package is an
element and the name of the directory of dependencies occurs in the relative url. -/
theorem pathSpecifier_leadsBack_iff (l : PackageLayout) {source target : String}
    (hsource : Plain source) (htarget : Plain target) (his : l.isInternalUrl source = true)
    (hit : l.isInternalUrl target = true) :
    ∃ url path, relativeUrl source target = .ok url ∧ l.pathSpecifier source target = .ok path ∧
      (normalize (joinPath (dirName source) path) = normalize target ↔
        (l.packageType = .element → contains url l.moduleDir = true → l.moduleDir = "..")) := by
  obtain ⟨dir, file, hs⟩ := hsource.exists_leadsTo
  obtain ⟨dir', file', ht⟩ := htarget.exists_leadsTo
  obtain ⟨url, hurl, -, hback⟩ := (relativeUrl_leadsBack source target).1 hsource htarget
  have hspell := Except.ok.inj
    (hurl.symm.trans (relativeUrl_eq hs ht hsource.anchored htarget.anchored))
  refine ⟨url, _, hurl, pathSpecifier_eq hs ht his hit hurl hspell, ?_⟩
  by_cases helement : l.packageType = .element
  · rw [if_pos helement]
    cases hcontains : contains url l.moduleDir with
    | false =>
      rw [replaceFirst_eq_self _ hcontains]
      exact iff_of_true hback fun _ h => by cases h
    | true =>
      obtain ⟨front, back, hparts, hreplaced⟩ := exists_replaceFirst ".." hcontains
      rw [hreplaced]
      refine ⟨fun h _ _ => eq_up_of_leadsBack hs ht (hspell.symm.trans hparts) h, fun h => ?_⟩
      rwa [← h helement rfl, ← hparts]
  · rw [if_neg helement]
    exact iff_of_true hback fun h => absurd h helement

/-- An element with a scope, and the modules of a demonstration of it. -/
def scopedElement : PackageLayout where
  packageName := "@polymer/paper-button"

theorem pathSpecifier_leadsBack_iff_scoped :
    Plain "./demo/pages/index.js" ∧ Plain "./node-modules/..button.js" ∧
      scopedElement.isInternalUrl "./demo/pages/index.js" = true ∧
      scopedElement.isInternalUrl "./node-modules/..button.js" = true ∧
      scopedElement.pathSpecifier "./demo/pages/index.js" "./node-modules/..button.js" =
        .ok "../../node-modules/..button.js" ∧
      normalize (joinPath (dirName "./demo/pages/index.js") "../../node-modules/..button.js") =
        normalize "./node-modules/..button.js" := by
  have hsource : Plain "./demo/pages/index.js" := ⟨by decide, by decide⟩
  have htarget : Plain "./node-modules/..button.js" := ⟨by decide, by decide⟩
  have his : scopedElement.isInternalUrl "./demo/pages/index.js" = true := by decide +kernel
  have hit : scopedElement.isInternalUrl "./node-modules/..button.js" = true := by decide +kernel
  obtain ⟨url, path, hurl, hpath, hback⟩ :=
    scopedElement.pathSpecifier_leadsBack_iff hsource htarget his hit
  have hrelative : relativeUrl "./demo/pages/index.js" "./node-modules/..button.js" =
      .ok "../../node-modules/..button.js" := by decide +kernel
  have hspecifier : scopedElement.pathSpecifier "./demo/pages/index.js" "./node-modules/..button.js" =
      .ok "../../node-modules/..button.js" := by decide +kernel
  obtain rfl := Except.ok.inj (hrelative.symm.trans hurl)
  obtain rfl := Except.ok.inj (hspecifier.symm.trans hpath)
  refine ⟨hsource, htarget, his, hit, hpath, hback.2 fun _ hcontains => ?_⟩
  exact absurd hcontains (by decide +kernel)

/-- A module of an element that is named like the directory of dependencies is imported by a specifier
that leads to another one. -/
theorem exists_not_leadsBack :
    ∃ l : PackageLayout, ∃ source target path, Plain source ∧ Plain target ∧
      l.isInternalUrl source = true ∧ l.isInternalUrl target = true ∧
      l.pathSpecifier source target = .ok path ∧
      normalize (joinPath (dirName source) path) ≠ normalize target :=
  ⟨{}, "./a.js", "./node_modules.js", "./...js", ⟨by decide, by decide⟩, ⟨by decide, by decide⟩,
    by decide +kernel, by decide +kernel, by decide +kernel, by decide +kernel⟩

end PackageLayout

end HtmlModules
