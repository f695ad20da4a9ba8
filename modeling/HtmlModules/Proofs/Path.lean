import HtmlModules.Proofs.Listing
import HtmlModules.Url.Path

/-!
# Segments of paths

A path is its segments with slashes between them (`Url.ofSegments_segments`, `Url.segments_ofSegments`),
and its directory is made of all segments but the last (`Url.dirName_of_segments`); what is read from
there leads on from those segments (`Url.foldl_segments_joinPath`). Names lead down, one after the
other. So the way that `climb` finds from one directory to another leads there
(`Url.foldl_pushSegment_climb`), and it does not depend on what is around both of them
(`Url.climb_append`).
-/

namespace HtmlModules

namespace Text

/-! ## Parts of texts -/

/-- A text starts with another one if that is in front of a rest. -/
theorem startsWith_iff {s p : String} : startsWith s p = true ↔ ∃ rest, s = p ++ rest := by
  rw [startsWith, List.isPrefixOf_iff_prefix]
  constructor
  · rintro ⟨rest, hrest⟩
    exact ⟨String.ofList rest, String.toList_injective (by simp [hrest])⟩
  · rintro ⟨rest, rfl⟩
    exact ⟨rest.toList, by simp⟩

theorem startsWith_append (front s p : String) :
    startsWith (front ++ s) (front ++ p) = startsWith s p := by
  rw [Bool.eq_iff_iff, startsWith, startsWith, List.isPrefixOf_iff_prefix, List.isPrefixOf_iff_prefix,
    String.toList_append, String.toList_append, List.prefix_append_right_inj]

theorem afterStart?_append (p s : String) : afterStart? (p ++ s) p = some s := by
  have hlength : p.toList.length = p.length := String.length_toList
  simp [afterStart?, startsWith, dropFirst, ← hlength]

/-- The segments are those of the library's `splitOn`. -/
theorem splitChars_eq_splitOn (sep : Char) : ∀ cs : List Char, splitChars sep cs = cs.splitOn sep
  | [] => rfl
  | c :: cs => by
    have ih := splitChars_eq_splitOn sep cs
    rw [splitChars, List.splitOn_cons_eq_if_modifyHead, ← ih]
    by_cases hc : c = sep
    · simp [hc]
    · cases hparts : splitChars sep cs with
      | nil => exact absurd (ih ▸ hparts) (List.splitOn_ne_nil sep cs)
      | cons part parts => simp [hc]

/-- The join of parts is the library's `intercalate`. -/
theorem join_eq_intercalate (sep : String) :
    ∀ parts : List String, join sep parts = sep.intercalate parts
  | [] => rfl
  | [s] => String.intercalate_singleton.symm
  | s :: t :: rest => by
    rw [String.intercalate_cons_cons, ← join_eq_intercalate sep (t :: rest)]
    rfl

theorem map_toList_injective : Function.Injective (List.map String.toList) :=
  List.map_injective_iff.2 fun _ _ h => String.toList_injective h

/-- No part holds the separator. -/
theorem notMem_of_mem_splitChars {sep : Char} :
    ∀ {cs part : List Char}, part ∈ splitChars sep cs → sep ∉ part
  | [], part, h => by
    obtain rfl := List.mem_singleton.1 h
    exact List.not_mem_nil
  | c :: cs, part, h => by
    have ih {part : List Char} : part ∈ splitChars sep cs → sep ∉ part := notMem_of_mem_splitChars
    rw [splitChars] at h
    split_ifs at h with hc
    · rcases List.mem_cons.1 h with rfl | h
      · exact List.not_mem_nil
      · exact ih h
    · have hc : sep ≠ c := Ne.symm hc
      cases hparts : splitChars sep cs with
      | nil =>
        rw [hparts] at h
        obtain rfl := List.mem_singleton.1 h
        simpa using hc
      | cons first parts =>
        rw [hparts] at h ih
        rcases List.mem_cons.1 h with rfl | h
        · simpa [hc] using ih List.mem_cons_self
        · exact ih (List.mem_cons_of_mem first h)

theorem length_splitChars (sep : Char) :
    ∀ cs : List Char, (splitChars sep cs).length = cs.count sep + 1
  | [] => rfl
  | c :: cs => by
    have ih := length_splitChars sep cs
    rw [splitChars]
    by_cases hc : c = sep
    · simp [hc, ih]
    · cases hparts : splitChars sep cs with
      | nil => simp [hparts] at ih
      | cons part parts =>
        rw [hparts] at ih
        simpa [hc] using ih

end Text

namespace Url

open Text

variable {absolute : Bool} {path s : String} {parts done : List String}

/-! ## Segments -/

/-- A segment that leads down from a directory. -/
def IsName (s : String) : Prop := s ≠ "" ∧ s ≠ "." ∧ s ≠ ".."

instance (s : String) : Decidable (IsName s) := inferInstanceAs (Decidable (_ ∧ _))

theorem isName_iff : IsName s ↔ ¬(s = "" ∨ s = ".") ∧ s ≠ ".." := by
  rw [IsName, not_or, and_assoc]

theorem map_toList_segments (path : String) :
    (segments path).map String.toList = path.toList.splitOn '/' := by
  simp [segments, split, splitChars_eq_splitOn, Function.comp_def]

/-- Every path has a segment, if only the empty one. -/
theorem segments_ne_nil (path : String) : segments path ≠ [] := by
  intro h
  have hnil := map_toList_segments path
  rw [h] at hnil
  exact List.splitOn_ne_nil _ _ hnil.symm

theorem slash_notMem (h : s ∈ segments path) : '/' ∉ s.toList := by
  obtain ⟨part, hpart, rfl⟩ := List.mem_map.1 h
  rw [String.toList_ofList]
  exact notMem_of_mem_splitChars hpart

theorem length_segments (path : String) : (segments path).length = path.toList.count '/' + 1 := by
  rw [segments, split, List.length_map, length_splitChars]

theorem ofSegments_segments (path : String) : ofSegments (segments path) = path := by
  apply String.toList_injective
  rw [ofSegments, join_eq_intercalate, String.toList_intercalate, map_toList_segments]
  exact List.intercalate_splitOn '/'

/-- The segments that a path is made of are its segments. -/
theorem segments_ofSegments (hne : parts ≠ []) (h : ∀ s ∈ parts, '/' ∉ s.toList) :
    segments (ofSegments parts) = parts := by
  apply map_toList_injective
  rw [map_toList_segments, ofSegments, join_eq_intercalate, String.toList_intercalate]
  refine List.splitOn_intercalate '/' ?_ (by simpa using hne)
  intro part hpart
  obtain ⟨s, hs, rfl⟩ := List.mem_map.1 hpart
  exact h s hs

theorem segments_injective : Function.Injective segments := by
  intro path path' h
  rw [← ofSegments_segments path, h, ofSegments_segments]

/-- The segments on both sides of a slash are the segments of the whole. -/
theorem segments_append (front back : String) :
    segments (front ++ "/" ++ back) = segments front ++ segments back := by
  apply map_toList_injective
  simp [map_toList_segments, List.splitOn_append_cons_self]

theorem segments_of_notMem (h : '/' ∉ s.toList) : segments s = [s] :=
  segments_ofSegments (List.cons_ne_nil s []) (by simpa using h)

/-- Paths are put one behind the other with a slash between them. -/
theorem ofSegments_append {front back : List String} (hfront : front ≠ []) (hback : back ≠ []) :
    ofSegments (front ++ back) = ofSegments front ++ "/" ++ ofSegments back := by
  simp only [ofSegments, join_eq_intercalate]
  exact String.intercalate_append_of_ne_nil hfront hback

theorem ofSegments_cons (s : String) {parts : List String} (h : parts ≠ []) :
    ofSegments (s :: parts) = s ++ "/" ++ ofSegments parts :=
  ofSegments_append (List.cons_ne_nil s []) h

/-! ## Ends -/

theorem ne_empty (h : "" ∉ segments path) : path ≠ "" := by
  rintro rfl
  exact h (by decide)

/-- A path of which the first segment is not empty does not start with a slash. -/
theorem startsWith_slash (h : (segments path).head? ≠ some "") : startsWith path "/" = false := by
  rw [Bool.eq_false_iff]
  intro hstarts
  obtain ⟨rest, rfl⟩ := startsWith_iff.1 hstarts
  have hsegments := segments_append "" rest
  rw [String.empty_append] at hsegments
  exact h (hsegments ▸ rfl)

/-- A path without empty segments does not end with a slash. -/
theorem endsWith_slash (h : "" ∉ segments path) : endsWith path "/" = false := by
  rw [Bool.eq_false_iff]
  intro hends
  obtain ⟨front, hfront⟩ := List.isSuffixOf_iff_suffix.1 hends
  obtain rfl : String.ofList front ++ "/" ++ "" = path :=
    String.toList_injective (by simp [← hfront])
  exact h (segments_append _ _ ▸ List.mem_append_right _ (by decide))

/-- A relative path is joined to a directory by a slash. -/
theorem joinPath_eq {dir : String} (hdir : "" ∉ segments dir) (hpath : startsWith path "/" = false) :
    joinPath dir path = dir ++ "/" ++ path := by
  simp [joinPath, hpath, ne_empty hdir, endsWith_slash hdir]

/-! ## Directories -/

theorem headChars_append {last : String} (hlast : '/' ∉ last.toList) (front : String) :
    headChars (front ++ "/" ++ last) = front.toList ++ ['/'] := by
  have hback : ∀ c ∈ last.toList, decide (c ≠ '/') = true := by
    intro c hc
    simpa using fun h : c = '/' => hlast (h ▸ hc)
  have hdrop := @dropEndWhile_append (fun c => decide (c ≠ '/')) (front.toList ++ ['/']) _ hback
    (by simp)
  simpa [headChars] using hdrop

/-- The directory of a path is what precedes the slash in front of its last segment. -/
theorem dirName_append {front last : String} (hfront : "" ∉ segments front)
    (hlast : '/' ∉ last.toList) : dirName (front ++ "/" ++ last) = front := by
  have hends : ∀ c ∈ front.toList.getLast?, (c == '/') = false := by
    intro c hc
    obtain ⟨init, hinit⟩ := List.getLast?_eq_some_iff.1 hc
    by_contra hslash
    obtain rfl : c = '/' := by simpa using hslash
    have hends : endsWith front "/" = true := List.isSuffixOf_iff_suffix.2 ⟨init, hinit.symm⟩
    rw [endsWith_slash hfront] at hends
    cases hends
  obtain ⟨c, hc⟩ : ∃ c, front.toList.getLast? = some c := by
    cases hchars : front.toList.getLast? with
    | none => exact absurd (String.toList_injective (by simpa using hchars)) (ne_empty hfront)
    | some c => exact ⟨c, rfl⟩
  have hsome : (front.toList ++ ['/']).all (· == '/') = false := by
    rw [List.all_append, List.all_eq_false.2 ⟨c, List.mem_of_getLast? hc, by simpa using hends c hc⟩,
      Bool.false_and]
  have hkept : dropEndWhile (· == '/') (front.toList ++ ['/']) = front.toList :=
    dropEndWhile_append (by simp) hends
  rw [dirName, headChars_append hlast]
  simp [hsome, hkept]

/-- The directory of a path has all segments but the last. -/
theorem dirName_of_segments {front : List String} {last : String}
    (h : segments path = front ++ [last]) (hne : front ≠ []) (hfront : "" ∉ front) :
    dirName path = ofSegments front := by
  have hslash : ∀ s ∈ front ++ [last], '/' ∉ s.toList := fun s hs => slash_notMem (h ▸ hs)
  have hsegments : segments (ofSegments front) = front :=
    segments_ofSegments hne fun s hs => hslash s (List.mem_append_left _ hs)
  rw [← ofSegments_segments path, h, ofSegments_append hne (List.cons_ne_nil last [])]
  exact dirName_append (hsegments.symm ▸ hfront) (hslash last (by simp))

/-! ## Segments one after the other -/

theorem pushSegment_name (h : IsName s) : pushSegment absolute done s = s :: done := by
  obtain ⟨hempty, hdot, hup⟩ := h
  simp [pushSegment, hempty, hdot, hup]

theorem pushSegment_skip (h : s = "" ∨ s = ".") : pushSegment absolute done s = done := by
  simp [pushSegment, h]

theorem pushSegment_dot : pushSegment absolute done "." = done :=
  pushSegment_skip (.inr rfl)

theorem pushSegment_empty : pushSegment absolute done "" = done :=
  pushSegment_skip (.inl rfl)

/-- Empty segments lead nowhere. -/
theorem foldl_pushSegment_empties (n : Nat) :
    (List.replicate n "").foldl (pushSegment absolute) done = done := by
  induction n with
  | zero => rfl
  | succ n ih => rw [List.replicate_succ, List.foldl_cons, pushSegment_empty, ih]

/-- A segment that leads upwards takes back the name before it. -/
theorem pushSegment_up (h : s ≠ "..") : pushSegment absolute (s :: done) ".." = done := by
  simp [pushSegment]

theorem foldl_pushSegment_names :
    ∀ {names done : List String}, (∀ s ∈ names, IsName s) →
      names.foldl (pushSegment absolute) done = names.reverse ++ done
  | [], _, _ => rfl
  | s :: names, done, h => by
    rw [List.foldl_cons, pushSegment_name (h s List.mem_cons_self),
      foldl_pushSegment_names fun t ht => h t (List.mem_cons_of_mem s ht)]
    simp

theorem map_up_concat (s : String) (names : List String) :
    (names ++ [s]).map (fun _ => "..") = ".." :: names.map fun _ => ".." := by
  simp [← List.replicate_succ', List.replicate_succ]

/-- As many steps upwards as there are names lead back to where the names begin. -/
theorem foldl_pushSegment_ups :
    ∀ {names done : List String}, (∀ s ∈ names, IsName s) →
      (names.map fun _ => "..").foldl (pushSegment absolute) (names.reverse ++ done) = done
  | [], _, _ => rfl
  | s :: names, done, h => by
    have hups : (s :: names).map (fun _ => "..") = names.map (fun _ => "..") ++ [".."] := by
      rw [List.map_cons, ← map_up_concat s, List.map_append]
      rfl
    have ih := @foldl_pushSegment_ups names (s :: done) fun t ht => h t (List.mem_cons_of_mem s ht)
    rw [hups, List.foldl_append, List.reverse_cons, List.append_assoc, List.singleton_append, ih]
    exact pushSegment_up (h s List.mem_cons_self).2.2

/-- A level comes from what was there or is the segment, which says where to go. -/
theorem mem_pushSegment {t : String} (h : t ∈ pushSegment absolute done s) :
    t ∈ done ∨ t = s ∧ s ≠ "" ∧ s ≠ "." := by
  unfold pushSegment at h
  by_cases hskip : s = "" ∨ s = "."
  · rw [if_pos hskip] at h
    exact .inl h
  rw [if_neg hskip] at h
  by_cases hname : s ≠ ".."
  · rw [if_pos hname] at h
    exact (List.mem_cons.1 h).symm.imp_right fun ht => ⟨ht, not_or.1 hskip⟩
  · obtain rfl : s = ".." := not_not.1 hname
    rw [if_neg hname] at h
    split at h
    · split_ifs at h
      · cases h
      · exact .inr ⟨List.mem_singleton.1 h, by decide, by decide⟩
    · exact .inl (by simpa using h)
    · exact .inl (List.mem_cons_of_mem _ h)

/-- A level comes from what was there or from a segment that says where to go. -/
theorem mem_foldl_pushSegment {t : String} :
    ∀ {parts done : List String}, t ∈ parts.foldl (pushSegment absolute) done →
      t ∈ done ∨ t ∈ parts ∧ t ≠ "" ∧ t ≠ "."
  | [], _, h => .inl h
  | s :: parts, done, h => by
    rcases mem_foldl_pushSegment (List.foldl_cons .. ▸ h) with h | ⟨h, hne⟩
    · rcases mem_pushSegment h with h | ⟨rfl, hne⟩
      · exact .inl h
      · exact .inr ⟨List.mem_cons_self, hne⟩
    · exact .inr ⟨List.mem_cons_of_mem s h, hne⟩

theorem mem_of_mem_resolveSegments (h : s ∈ resolveSegments absolute parts) :
    s ∈ parts ∧ s ≠ "" ∧ s ≠ "." :=
  (mem_foldl_pushSegment (List.mem_reverse.1 h)).resolve_left List.not_mem_nil

/-- Nothing leads upwards from the root. -/
theorem up_notMem_pushSegment (h : ".." ∉ done) (s : String) : ".." ∉ pushSegment true done s := by
  unfold pushSegment
  by_cases hskip : s = "" ∨ s = "."
  · rwa [if_pos hskip]
  rw [if_neg hskip]
  by_cases hname : s ≠ ".."
  · rw [if_pos hname]
    exact List.not_mem_cons_of_ne_of_not_mem hname.symm h
  · rw [if_neg hname]
    split
    · exact List.not_mem_nil
    · exact absurd List.mem_cons_self h
    · exact fun hmem => h (List.mem_cons_of_mem _ hmem)

/-- On an absolute path no step goes above the root. -/
theorem up_notMem_foldl_pushSegment :
    ∀ {parts done : List String}, ".." ∉ done → ".." ∉ parts.foldl (pushSegment true) done
  | [], _, h => h
  | s :: parts, _, h => @up_notMem_foldl_pushSegment parts _ (up_notMem_pushSegment h s)

theorem up_notMem_resolveSegments : ".." ∉ resolveSegments true parts := fun h =>
  up_notMem_foldl_pushSegment List.not_mem_nil (List.mem_reverse.1 h)

/-- What remains of the segments of a path are segments themselves. -/
theorem segments_ofSegments_resolved (hne : resolveSegments absolute (segments path) ≠ []) :
    segments (ofSegments (resolveSegments absolute (segments path))) =
      resolveSegments absolute (segments path) :=
  segments_ofSegments hne fun _ hs => slash_notMem (mem_of_mem_resolveSegments hs).1

/-- The normal form of a relative path is what remains of its segments. -/
theorem normalize_relative (hrelative : startsWith path "/" = false) :
    normalize path = if resolveSegments false (segments path) = [] then "."
      else ofSegments (resolveSegments false (segments path)) := by
  have hroot : rootSlashes path = "" := by simp [rootSlashes, hrelative]
  have hnormalize : normalize path =
      if ofSegments (resolveSegments false (segments path)) = "" then "."
        else ofSegments (resolveSegments false (segments path)) := by
    simp [normalize, hroot]
  rw [hnormalize]
  by_cases hnil : resolveSegments false (segments path) = []
  · rw [hnil, if_pos (show ofSegments [] = "" from rfl), if_pos rfl]
  · have hsome : ofSegments (resolveSegments false (segments path)) ≠ "" := by
      refine ne_empty fun hempty => ?_
      rw [segments_ofSegments_resolved hnil] at hempty
      exact (mem_of_mem_resolveSegments hempty).2.1 rfl
    rw [if_neg hsome, if_neg hnil]

/-- The normal form of a relative path is made of names if and only if these are what remains of its
segments. -/
theorem normalize_eq_iff (habsolute : startsWith path "/" = false) (hne : parts ≠ [])
    (hparts : ∀ s ∈ parts, IsName s ∧ '/' ∉ s.toList) :
    normalize path = ofSegments parts ↔ resolveSegments false (segments path) = parts := by
  have hsegments := segments_ofSegments hne fun s hs => (hparts s hs).2
  rw [normalize_relative habsolute]
  by_cases hnil : resolveSegments false (segments path) = []
  · rw [if_pos hnil, hnil]
    refine iff_of_false (fun h => ?_) hne.symm
    have hdot : parts = ["."] := by rw [← hsegments, ← h]; decide
    exact (hparts "." (hdot ▸ List.mem_singleton_self _)).1.2.1 rfl
  · rw [if_neg hnil]
    refine ⟨fun h => ?_, fun h => h ▸ rfl⟩
    rw [← segments_ofSegments_resolved hnil, h, hsegments]

/-! ## Reading from a directory -/

/-- A text of slashes. -/
def slashes (n : Nat) : String := String.ofList (List.replicate n '/')

theorem segments_append_slashes (path : String) :
    ∀ n, segments (path ++ slashes n) = segments path ++ List.replicate n ""
  | 0 => by simp [slashes]
  | n + 1 => by
    have hlast : path ++ slashes (n + 1) = path ++ slashes n ++ "/" ++ "" :=
      String.toList_injective (by simp [slashes, List.replicate_succ'])
    have hempty : segments "" = [""] := by decide
    rw [hlast, segments_append, segments_append_slashes path n, hempty, List.append_assoc,
      ← List.replicate_succ']

theorem segments_slashes_append (path : String) :
    ∀ n, segments (slashes n ++ path) = List.replicate n "" ++ segments path
  | 0 => by simp [slashes]
  | n + 1 => by
    have hfirst : slashes (n + 1) ++ path = "" ++ "/" ++ (slashes n ++ path) :=
      String.toList_injective (by simp [slashes, List.replicate_succ])
    have hempty : segments "" = [""] := by decide
    rw [hfirst, segments_append, segments_slashes_append path n, hempty, List.replicate_succ]
    rfl

theorem exists_slashes (cs : List Char) (h : ∀ c ∈ cs, (c == '/') = true) :
    ∃ n, String.ofList cs = slashes n :=
  ⟨cs.length, congrArg _ (List.eq_replicate_iff.2 ⟨rfl, fun c hc => by simpa using h c hc⟩)⟩

/-- A path is what is left without the slashes at its end, and those. -/
theorem exists_append_slashes (path : String) :
    ∃ n, path = trimEnd (· == '/') path ++ slashes n := by
  obtain ⟨n, hn⟩ := exists_slashes (path.toList.reverse.takeWhile (· == '/')).reverse
    fun c hc => List.all_eq_true.1 List.all_takeWhile c (List.mem_reverse.1 hc)
  refine ⟨n, ?_⟩
  rw [← hn, trimEnd, dropEndWhile, ← String.ofList_append, ← List.reverse_append,
    List.takeWhile_append_dropWhile, List.reverse_reverse, String.ofList_toList]

/-- A path is the slashes in front of it and what is left without them. -/
theorem exists_slashes_append (path : String) :
    ∃ n, path = slashes n ++ trimStart (· == '/') path := by
  obtain ⟨n, hn⟩ := exists_slashes (path.toList.takeWhile (· == '/'))
    fun c hc => List.all_eq_true.1 List.all_takeWhile c hc
  refine ⟨n, ?_⟩
  rw [← hn, trimStart, ← String.ofList_append, List.takeWhile_append_dropWhile,
    String.ofList_toList]

theorem head?_dropWhile_slash {cs : List Char} : (cs.dropWhile (· == '/')).head? ≠ some '/' := by
  intro hhead
  have hnot := List.head?_dropWhile_not (· == '/') cs
  rw [hhead] at hnot
  cases hnot

theorem startsWith_slash_trimStart (path : String) :
    startsWith (trimStart (· == '/') path) "/" = false := by
  rw [Bool.eq_false_iff]
  intro hstarts
  obtain ⟨rest, hrest⟩ := List.isPrefixOf_iff_prefix.1 hstarts
  simp only [trimStart, String.toList_ofList] at hrest
  exact head?_dropWhile_slash (hrest ▸ rfl : (path.toList.dropWhile (· == '/')).head? = some '/')

theorem endsWith_slash_trimEnd (path : String) :
    endsWith (trimEnd (· == '/') path) "/" = false := by
  rw [Bool.eq_false_iff]
  intro hends
  obtain ⟨front, hfront⟩ := List.isSuffixOf_iff_suffix.1 hends
  simp only [trimEnd, dropEndWhile, String.toList_ofList] at hfront
  have hreverse := congrArg List.reverse hfront
  rw [List.reverse_append, List.reverse_reverse] at hreverse
  exact head?_dropWhile_slash
    (hreverse ▸ rfl : (path.toList.reverse.dropWhile (· == '/')).head? = some '/')

/-- The directory of a relative path is what precedes its last segment, without the slashes there. -/
theorem dirName_eq_trimEnd {front last : String} (hlast : '/' ∉ last.toList)
    (hrelative : startsWith (front ++ "/" ++ last) "/" = false) :
    dirName (front ++ "/" ++ last) = trimEnd (· == '/') front := by
  have hsome : (front.toList ++ ['/']).all (· == '/') = false := by
    obtain ⟨c, rest, hfront⟩ : ∃ c rest, front.toList = c :: rest := by
      refine List.exists_cons_of_ne_nil fun hnil => ?_
      simp [startsWith, hnil] at hrelative
    have hc : c ≠ '/' := by
      rintro rfl
      simp [startsWith, hfront] at hrelative
    simp [hfront, hc]
  have hdrop : dropEndWhile (· == '/') (front.toList ++ ['/']) =
      dropEndWhile (· == '/') front.toList := by
    simp [dropEndWhile]
  rw [dirName, headChars_append hlast, hsome, hdrop]
  rfl

/-- What stands behind decides nothing about the first character. -/
theorem startsWith_slash_append {front : String} (h : front ≠ "") (back : String) :
    startsWith (front ++ back) "/" = startsWith front "/" := by
  obtain ⟨c, rest, hfront⟩ := List.exists_cons_of_ne_nil (mt String.toList_eq_nil_iff.1 h)
  simp [startsWith, hfront, List.isPrefixOf]

theorem dirName_of_slash_notMem (h : '/' ∉ path.toList) : dirName path = "" := by
  have hhead : headChars path = [] := by
    have hall : ∀ c ∈ path.toList, decide (c ≠ '/') = true := fun c hc =>
      decide_eq_true fun hslash => h (hslash ▸ hc)
    exact @dropEndWhile_append (fun c => decide (c ≠ '/')) [] _ hall (by simp)
  rw [dirName, hhead]
  rfl

/-- The directory of a relative path is relative, and it is not empty. -/
theorem dirName_relative {front last : String} (hlast : '/' ∉ last.toList)
    (hrelative : startsWith (front ++ "/" ++ last) "/" = false) :
    dirName (front ++ "/" ++ last) ≠ "" ∧ startsWith (dirName (front ++ "/" ++ last)) "/" = false := by
  obtain ⟨n, hn⟩ := exists_append_slashes front
  rw [dirName_eq_trimEnd hlast hrelative]
  have hsome : trimEnd (· == '/') front ≠ "" := by
    intro hempty
    have hstarts : startsWith (slashes n ++ "/" ++ last) "/" = true := by
      cases n <;> simp [startsWith, slashes, List.replicate_succ]
    rw [hn, hempty, String.empty_append, hstarts] at hrelative
    cases hrelative
  refine ⟨hsome, ?_⟩
  rwa [hn, String.append_assoc, String.append_assoc, startsWith_slash_append hsome] at hrelative

/-- What is read from the directory of a relative path leads where all segments of the path but the
last lead, and from there on. -/
theorem foldl_segments_joinPath (absolute : Bool) {path next : String}
    (hrelative : startsWith path "/" = false) (hnext : startsWith next "/" = false) :
    startsWith (joinPath (dirName path) next) "/" = false ∧
      ∀ done, (segments (joinPath (dirName path) next)).foldl (pushSegment absolute) done =
        ((segments path).dropLast ++ segments next).foldl (pushSegment absolute) done := by
  obtain hnil | ⟨front, last, hpath⟩ := List.eq_nil_or_concat (segments path)
  · exact absurd hnil (segments_ne_nil path)
  rw [List.concat_eq_append] at hpath
  have hslash : ∀ s ∈ front ++ [last], '/' ∉ s.toList := fun s hs => slash_notMem (hpath ▸ hs)
  have hlast : '/' ∉ last.toList := hslash last (by simp)
  rw [hpath, List.dropLast_concat]
  by_cases hfront : front = []
  · have hsingle : path = last := by rw [← ofSegments_segments path, hpath, hfront]; rfl
    rw [hsingle, dirName_of_slash_notMem hlast, hfront]
    simp [joinPath, hnext]
  · have hparts : path = ofSegments front ++ "/" ++ last := by
      rw [← ofSegments_segments path, hpath, ofSegments_append hfront (List.cons_ne_nil last [])]
      rfl
    have hsegments : segments (ofSegments front) = front :=
      segments_ofSegments hfront fun s hs => hslash s (List.mem_append_left _ hs)
    rw [hparts] at hrelative ⊢
    obtain ⟨hsome, hdir⟩ := dirName_relative hlast hrelative
    have hends : endsWith (dirName (ofSegments front ++ "/" ++ last)) "/" = false := by
      rw [dirName_eq_trimEnd hlast hrelative]
      exact endsWith_slash_trimEnd _
    have hjoin : joinPath (dirName (ofSegments front ++ "/" ++ last)) next =
        dirName (ofSegments front ++ "/" ++ last) ++ "/" ++ next := by
      simp [joinPath, hnext, hsome, hends]
    refine ⟨?_, fun done => ?_⟩
    · rw [hjoin, String.append_assoc, startsWith_slash_append hsome, hdir]
    · obtain ⟨n, hn⟩ := exists_append_slashes (ofSegments front)
      have hfold : front.foldl (pushSegment absolute) done =
          (segments (trimEnd (· == '/') (ofSegments front))).foldl (pushSegment absolute) done := by
        conv_lhs => rw [← hsegments, hn, segments_append_slashes, List.foldl_append,
          foldl_pushSegment_empties]
      rw [hjoin, segments_append, List.foldl_append, List.foldl_append, hfold,
        dirName_eq_trimEnd hlast hrelative]

/-! ## Ways -/

theorem climb_nil_left (path : List String) : climb [] path = path := by
  simp [climb]

theorem climb_nil_right : ∀ start : List String, climb start [] = start.map fun _ => ".."
  | [] => rfl
  | a :: start => by simp [climb]

theorem climb_cons_self (a : String) (start path : List String) :
    climb (a :: start) (a :: path) = climb start path := by
  simp [climb]

/-- From another level the way goes up all of them and then down. -/
theorem climb_cons_of_ne {a b : String} (h : a ≠ b) (start path : List String) :
    climb (a :: start) (b :: path) = (a :: start).map (fun _ => "..") ++ b :: path := by
  simp [climb, h]

/-- What is above both of them does not count. -/
theorem climb_append : ∀ base start path : List String,
    climb (base ++ start) (base ++ path) = climb start path
  | [], _, _ => rfl
  | a :: base, start, path => by
    rw [List.cons_append, List.cons_append, climb_cons_self, climb_append base]

/-- A way consists of steps upwards and of names of the path. -/
theorem mem_climb : ∀ {start path : List String}, s ∈ climb start path → s = ".." ∨ s ∈ path
  | [], path, h => .inr (climb_nil_left path ▸ h)
  | a :: start, [], h => by
    rw [climb_nil_right] at h
    obtain ⟨-, -, rfl⟩ := List.mem_map.1 h
    exact .inl rfl
  | a :: start, b :: path, h => by
    by_cases hab : a = b
    · rw [hab, climb_cons_self] at h
      exact (mem_climb h).imp_right (List.mem_cons_of_mem b)
    · rw [climb_cons_of_ne hab] at h
      refine (List.mem_append.1 h).imp_left fun hup => ?_
      obtain ⟨-, -, rfl⟩ := List.mem_map.1 hup
      rfl

/-- Down from where one stands the way is the rest. -/
theorem climb_prefix (start rest : List String) : climb start (start ++ rest) = rest := by
  have happend := climb_append start [] rest
  rwa [List.append_nil, climb_nil_left] at happend

/-- A way that does not only lead down begins upwards, and it ends there only above its start. -/
theorem exists_climb_eq_cons : ∀ {start path : List String}, ¬start <+: path →
    ∃ more, climb start path = ".." :: more ∧ (more = [] → path <+: start)
  | [], path, h => absurd List.nil_prefix h
  | a :: start, [], _ => ⟨start.map fun _ => "..", by rw [climb_nil_right, List.map_cons],
      fun _ => List.nil_prefix⟩
  | a :: start, b :: path, h => by
    by_cases hab : a = b
    · subst hab
      obtain ⟨more, hmore, hbegins⟩ :=
        exists_climb_eq_cons fun hstart => h (List.cons_prefix_cons.2 ⟨rfl, hstart⟩)
      exact ⟨more, by rwa [climb_cons_self],
        fun hnil => List.cons_prefix_cons.2 ⟨rfl, hbegins hnil⟩⟩
    · exact ⟨start.map (fun _ => "..") ++ b :: path, by rw [climb_cons_of_ne hab]; rfl, by simp⟩

/-- The way from one directory to another leads there. -/
theorem foldl_pushSegment_climb :
    ∀ {start path done : List String}, (∀ s ∈ start, IsName s) → (∀ s ∈ path, IsName s) →
      (climb start path).foldl (pushSegment absolute) (start.reverse ++ done) = path.reverse ++ done
  | [], path, done, _, hpath => by
    rw [climb_nil_left]
    exact foldl_pushSegment_names hpath
  | a :: start, [], done, hstart, _ => by
    rw [climb_nil_right]
    exact foldl_pushSegment_ups hstart
  | a :: start, b :: path, done, hstart, hpath => by
    by_cases hab : a = b
    · subst hab
      rw [climb_cons_self, List.reverse_cons, List.append_assoc, List.singleton_append,
        foldl_pushSegment_climb (fun s hs => hstart s (List.mem_cons_of_mem a hs))
          fun s hs => hpath s (List.mem_cons_of_mem a hs)]
      simp
    · rw [climb_cons_of_ne hab, List.foldl_append, foldl_pushSegment_ups hstart]
      exact foldl_pushSegment_names hpath

end Url

end HtmlModules
