import HtmlModules.FileTree
import HtmlModules.Proofs.Failing
import HtmlModules.Proofs.Listing
import HtmlModules.Proofs.Path
import HtmlModules.Proofs.Table

/-!
# Directories

A path from the root is a list of names, and a tree of files says what is at each of them
(`FileTree.kindAt`). In a proper tree nothing is below a file. Making directories and writing a file
into a directory keep the tree proper and change what is at the paths that are made or written, and
nothing else (`FileTree.Proper.exists_makeDirectories`, `FileTree.Proper.kindAt_write`).
-/

namespace HtmlModules.FileTree

open Text Url

/-! ## Paths of names -/

/-- The list is the names of a path. -/
def Names (p : List String) : Prop := ∀ s ∈ p, IsName s ∧ '/' ∉ s.toList

/-- The path of names from the root. -/
def absolute (p : List String) : String := "/" ++ ofSegments p

variable {p q r : List String} {s path : String}

instance (p : List String) : Decidable (Names p) :=
  inferInstanceAs (Decidable (∀ s ∈ p, (s ≠ "" ∧ s ≠ "." ∧ s ≠ "..") ∧ '/' ∉ s.toList))

theorem names_nil : Names [] := fun _ hs => absurd hs List.not_mem_nil

/-- The parts of a row of names are rows of names. -/
theorem Names.of_append (h : Names (p ++ q)) : Names p ∧ Names q :=
  ⟨fun s hs => h s (List.mem_append_left q hs), fun s hs => h s (List.mem_append_right p hs)⟩

theorem Names.append (hp : Names p) (hq : Names q) : Names (p ++ q) :=
  List.forall_mem_append.2 ⟨hp, hq⟩

/-- The first names of a row of names are one. -/
theorem Names.initial (h : Names p) (hq : q <+: p) : Names q := fun s hs => h s (hq.subset hs)

/-- The segments of an absolute path are the empty one and its names. -/
theorem segments_absolute (h : Names p) (hne : p ≠ []) : segments (absolute p) = "" :: p := by
  have hrooted : absolute p = ofSegments ("" :: p) := by
    rw [ofSegments_cons "" hne, String.empty_append]
    rfl
  rw [hrooted, segments_ofSegments (List.cons_ne_nil "" p)]
  rintro s (_ | ⟨_, hs⟩)
  · decide
  · exact (h s hs).2

/-- Different names make different paths. -/
theorem absolute_injective (hp : Names p) (hq : Names q) (h : absolute p = absolute q) : p = q := by
  have hroot : ∀ {p : List String}, Names p → absolute p = absolute [] → p = [] := by
    intro p hp h
    by_contra hne
    have hsegments := segments_absolute hp hne
    rw [h] at hsegments
    obtain rfl : p = [""] := (List.cons.inj hsegments).2.symm
    exact (hp "" List.mem_cons_self).1.1 rfl
  by_cases hpnil : p = []
  · subst hpnil
    exact (hroot hq h.symm).symm
  by_cases hqnil : q = []
  · subst hqnil
    exact hroot hp h
  · have hsegments := congrArg segments h
    rw [segments_absolute hp hpnil, segments_absolute hq hqnil] at hsegments
    exact (List.cons.inj hsegments).2

/-- The absolute path of names is the one that the walk over them in reverse spells. -/
theorem absolute_eq_pathOf (p : List String) : absolute p = pathOf p.reverse := by
  rw [pathOf, List.reverse_reverse]
  rfl

/-- The steps of an absolute path are its names. -/
theorem steps_absolute (h : Names p) : steps (absolute p) = p := by
  by_cases hne : p = []
  · subst hne
    decide
  · rw [steps, segments_absolute h hne, List.filter_cons_of_neg (by decide)]
    refine List.filter_eq_self.2 fun s hs => ?_
    obtain ⟨⟨hempty, hdot, -⟩, -⟩ := h s hs
    simp [hempty, hdot]

/-- What the paths below a directory begin with. -/
theorem start_absolute (h : Names p) :
    start (absolute p) = if p = [] then "/" else absolute p ++ "/" := by
  split_ifs with hne
  · subst hne
    decide
  · have hends : endsWith (absolute p) "/" = false := by
      rw [Bool.eq_false_iff]
      intro hends
      obtain ⟨front, hfront⟩ := List.isSuffixOf_iff_suffix.1 hends
      have hsplit : absolute p = String.ofList front ++ "/" ++ "" :=
        String.toList_injective (by simp [← hfront])
      have hsegments := segments_absolute h hne
      rw [hsplit, segments_append] at hsegments
      have hlast : "" :: p = segments (String.ofList front) ++ [""] := hsegments.symm
      have hempty : p.getLast hne = "" := by
        have hgetLast := congrArg List.getLast? hlast
        rw [List.getLast?_concat, List.getLast?_cons_of_ne_nil hne,
          List.getLast?_eq_some_getLast hne] at hgetLast
        exact Option.some.inj hgetLast
      exact (h _ (List.getLast_mem hne)).1.1 hempty
    rw [start, hends]
    rfl

theorem absolute_append (hp : Names p) (hr : r ≠ []) :
    absolute (p ++ r) = start (absolute p) ++ ofSegments r := by
  rw [start_absolute hp]
  split_ifs with hne
  · subst hne
    rfl
  · rw [absolute, ofSegments_append hne hr]
    simp only [absolute, String.append_assoc]

/-- The path of a name in a directory. -/
theorem absolute_concat (hp : Names p) (s : String) :
    absolute (p ++ [s]) = start (absolute p) ++ s :=
  absolute_append hp (List.cons_ne_nil s [])

/-- The last name of a path. -/
theorem baseName_absolute (hs : '/' ∉ s.toList) (p : List String) :
    baseName (absolute (p ++ [s])) = s := by
  obtain ⟨front, hfront⟩ : ∃ front, absolute (p ++ [s]) = front ++ "/" ++ s := by
    by_cases hne : p = []
    · subst hne
      exact ⟨"", rfl⟩
    · refine ⟨absolute p, ?_⟩
      rw [absolute, ofSegments_append hne (List.cons_ne_nil s [])]
      simp only [absolute, String.append_assoc]
      rfl
  rw [baseName, hfront, headChars_append hs]
  apply String.toList_injective
  simp

/-- A path that is read from a directory is one of names. -/
theorem exists_resolve (dir path : String) : ∃ p, Names p ∧ resolve dir path = absolute p := by
  refine ⟨_, fun s hs => ?_, rfl⟩
  obtain ⟨hmem, hempty, hdot⟩ := mem_of_mem_resolveSegments hs
  refine ⟨⟨hempty, hdot, ?_⟩, slash_notMem hmem⟩
  rintro rfl
  exact up_notMem_resolveSegments hs

/-- What is below a directory leads on from it by names; the root begins like what is below it. -/
theorem startsWith_start_iff (hp : Names p) (hq : Names q) :
    startsWith (absolute q) (start (absolute p)) = true ↔ p = [] ∨ ∃ r, r ≠ [] ∧ q = p ++ r := by
  constructor
  · intro hstarts
    by_cases hne : p = []
    · exact .inl hne
    rw [start_absolute hp, if_neg hne] at hstarts
    obtain ⟨rest, hrest⟩ := startsWith_iff.1 hstarts
    have hsegments := congrArg segments hrest
    rw [segments_append, segments_absolute hp hne] at hsegments
    have hqne : q ≠ [] := by
      rintro rfl
      have hroot : ["", ""] = "" :: p ++ segments rest := hsegments
      obtain ⟨first, more, rfl⟩ := List.exists_cons_of_ne_nil hne
      have hfirst : "" = first := (List.cons.inj (List.cons.inj hroot).2).1
      exact (hp first List.mem_cons_self).1.1 hfirst.symm
    rw [segments_absolute hq hqne] at hsegments
    exact .inr ⟨segments rest, segments_ne_nil rest, (List.cons.inj hsegments).2⟩
  · rintro (rfl | ⟨r, hr, rfl⟩)
    · exact startsWith_iff.2 ⟨ofSegments q, rfl⟩
    · exact startsWith_iff.2 ⟨ofSegments r, absolute_append hp hr⟩

/-! ## What is at a path -/

/-- What is at the path of names. -/
def kindAt (t : FileTree) (p : List String) : Place := t.placeAt (absolute p)

/-- The path is that of a file or of a directory that is known. -/
def Stored (t : FileTree) (p : List String) : Prop :=
  absolute p ∈ Table.keys t.files ++ t.directories

/-- All paths are paths of names, and nothing is below a file. -/
structure Proper (t : FileTree) : Prop where
  named : ∀ path ∈ Table.keys t.files ++ t.directories, ∃ p, Names p ∧ path = absolute p
  clear : ∀ {p r}, Names (p ++ r) → r ≠ [] → t.kindAt p = .file → ¬t.Stored (p ++ r)

variable {t : FileTree} {bytes : ByteArray}

/-- What begins with a text is not shorter than it. -/
theorem isBelow_eq (start : String) : isBelow start = (startsWith · start) := by
  funext path
  cases hstarts : startsWith path start with
  | false => rw [isBelow, hstarts, Bool.and_false]
  | true =>
    obtain ⟨rest, rfl⟩ := startsWith_iff.1 hstarts
    simp [isBelow, hstarts]

/-- What stands at a path, told by the tables of the tree. -/
theorem placeAt_eq (t : FileTree) (path : String) : t.placeAt path =
    if Table.has t.files path then .file
    else if path == "/" || t.directories.contains path ||
        (Table.keys t.files ++ t.directories).any (startsWith · (start path)) then .directory
    else .nothing := by
  rw [← isBelow_eq]
  rfl

/-- A name in a directory is the first one of a path that leads on from it. -/
theorem mem_namesIn_iff {dir : String} : s ∈ t.namesIn dir ↔
    s ≠ "" ∧ ∃ rest, start dir ++ rest ∈ Table.keys t.files ++ t.directories ∧
      before '/' rest = s := by
  have hdrop (rest : String) : dropFirst (start dir).length (start dir ++ rest) = rest := by
    have hafter := afterStart?_append (start dir) rest
    rw [afterStart?, if_pos (startsWith_iff.2 ⟨rest, rfl⟩)] at hafter
    exact Option.some.inj hafter
  rw [namesIn, isBelow_eq, List.mem_eraseDups, List.mem_filter, List.mem_map, and_comm, decide_eq_true_iff]
  refine and_congr_right fun _ => ?_
  constructor
  · rintro ⟨rest, hrest, rfl⟩
    obtain ⟨path, hpath, rfl⟩ := List.mem_map.1 hrest
    obtain ⟨hmem, hstarts⟩ := List.mem_filter.1 hpath
    obtain ⟨rest, rfl⟩ := startsWith_iff.1 hstarts
    exact ⟨rest, hmem, by rw [hdrop]⟩
  · rintro ⟨rest, hmem, rfl⟩
    refine ⟨rest, List.mem_map.2 ⟨_, List.mem_filter.2 ⟨hmem, ?_⟩, hdrop rest⟩, rfl⟩
    exact startsWith_iff.2 ⟨rest, rfl⟩

/-- A file stands where the table of files has a path. -/
theorem kindAt_eq_file_iff : t.kindAt p = .file ↔ absolute p ∈ Table.keys t.files := by
  rw [← Table.has_iff, kindAt, placeAt]
  split_ifs with hfile hdirectory <;> simp [hfile]

/-- A tree is proper if all its paths are made of names, and none of them leads on from a file. -/
theorem proper_of_names {files directories : List (List String)}
    (hfiles : Table.keys t.files = files.map absolute)
    (hdirectories : t.directories = directories.map absolute)
    (hnames : ∀ p ∈ files ++ directories, Names p)
    (hclear : ∀ f ∈ files, ∀ p ∈ files ++ directories, f <+: p → f = p) : t.Proper := by
  have hstored : Table.keys t.files ++ t.directories = (files ++ directories).map absolute := by
    rw [hfiles, hdirectories, List.map_append]
  constructor
  · intro path hpath
    rw [hstored] at hpath
    obtain ⟨p, hp, rfl⟩ := List.mem_map.1 hpath
    exact ⟨p, hnames p hp, rfl⟩
  · intro p r hpr hr hkind hpath
    rw [Stored, hstored] at hpath
    obtain ⟨q, hq, hqpath⟩ := List.mem_map.1 hpath
    obtain rfl := absolute_injective (hnames q hq) hpr hqpath
    have hfile : absolute p ∈ files.map absolute := by
      rw [← hfiles]
      exact kindAt_eq_file_iff.1 hkind
    obtain ⟨f, hf, hfpath⟩ := List.mem_map.1 hfile
    obtain rfl := absolute_injective (hnames f (List.mem_append_left _ hf)) hpr.of_append.1 hfpath
    exact hr (List.self_eq_append_right.1 (hclear f hf _ hq (List.prefix_append f r)))

/-- The root is a directory, unless it is a file. -/
theorem kindAt_nil (h : t.kindAt [] ≠ .file) : t.kindAt [] = .directory := by
  rw [kindAt, placeAt_eq, if_neg (mt (fun h => kindAt_eq_file_iff.2 (Table.has_iff.1 h)) h), if_pos]
  simp [show absolute [] = "/" from rfl]

/-- Something is at a path if it is that of the root, if it is stored, or if what is stored leads on
from it. -/
theorem Proper.kindAt_ne_nothing_iff (h : t.Proper) (hp : Names p) :
    t.kindAt p ≠ .nothing ↔ p = [] ∨ ∃ r, Names (p ++ r) ∧ t.Stored (p ++ r) := by
  have hstored : (Table.keys t.files ++ t.directories).any (startsWith · (start (absolute p))) =
      true ↔ (∃ r, r ≠ [] ∧ Names (p ++ r) ∧ t.Stored (p ++ r)) ∨
        p = [] ∧ Table.keys t.files ++ t.directories ≠ [] := by
    rw [List.any_eq_true]
    constructor
    · rintro ⟨path, hpath, hstarts⟩
      obtain ⟨q, hq, rfl⟩ := h.named path hpath
      rcases (startsWith_start_iff hp hq).1 hstarts with rfl | ⟨r, hr, rfl⟩
      · exact .inr ⟨rfl, List.ne_nil_of_mem hpath⟩
      · exact .inl ⟨r, hr, hq, hpath⟩
    · rintro (⟨r, hr, hq, hpath⟩ | ⟨rfl, hne⟩)
      · exact ⟨_, hpath, (startsWith_start_iff hp hq).2 (.inr ⟨r, hr, rfl⟩)⟩
      · obtain ⟨path, hpath⟩ := List.exists_mem_of_ne_nil _ hne
        obtain ⟨q, hq, rfl⟩ := h.named path hpath
        exact ⟨_, hpath, (startsWith_start_iff hp hq).2 (.inl rfl)⟩
  by_cases hnil : p = []
  · subst hnil
    refine iff_of_true (fun hnothing => ?_) (.inl rfl)
    rw [kindAt_nil (by simp [hnothing])] at hnothing
    cases hnothing
  have hroot : (absolute p == "/") = false := by
    rw [beq_eq_false_iff_ne]
    exact fun h => hnil (absolute_injective hp names_nil h)
  simp only [hnil, false_and, or_false, false_or] at hstored ⊢
  rw [kindAt, placeAt_eq, hroot, Bool.false_or]
  constructor
  · intro hsome
    split_ifs at hsome with hfile hdirectory
    · refine ⟨[], by simpa using hp, ?_⟩
      rw [List.append_nil]
      exact List.mem_append_left _ (Table.has_iff.1 hfile)
    · rcases (Bool.or_eq_true_iff.1 hdirectory) with hknown | hbelow
      · refine ⟨[], by simpa using hp, ?_⟩
        rw [List.append_nil]
        exact List.mem_append_right _ (List.contains_iff_mem.1 hknown)
      · obtain ⟨r, -, hr⟩ := hstored.1 hbelow
        exact ⟨r, hr⟩
    · exact absurd rfl hsome
  · rintro ⟨r, hr, hpath⟩
    split_ifs with hfile hdirectory
    · simp
    · simp
    · refine absurd (Bool.or_eq_true_iff.2 ?_) hdirectory
      by_cases hrnil : r = []
      · rw [hrnil, List.append_nil] at hpath
        rcases List.mem_append.1 hpath with hkey | hknown
        · exact absurd (Table.has_iff.2 hkey) hfile
        · exact .inl (List.contains_iff_mem.2 hknown)
      · exact .inr (hstored.2 ⟨r, hrnil, hr, hpath⟩)

/-- What leads to something is a directory. -/
theorem Proper.kindAt_of_append (h : t.Proper) (hpr : Names (p ++ r)) (hr : r ≠ [])
    (hsome : t.kindAt (p ++ r) ≠ .nothing) : t.kindAt p = .directory := by
  have hstored : ∃ r', r' ≠ [] ∧ Names (p ++ r') ∧ t.Stored (p ++ r') := by
    rcases (h.kindAt_ne_nothing_iff hpr).1 hsome with hnil | ⟨r', hr', hpath⟩
    · exact absurd (List.append_eq_nil_iff.1 hnil).2 hr
    · rw [List.append_assoc] at hr' hpath
      exact ⟨r ++ r', List.append_ne_nil_of_left_ne_nil hr r', hr', hpath⟩
  obtain ⟨r', hr', hnames, hpath⟩ := hstored
  have hthere : t.kindAt p ≠ .nothing :=
    (h.kindAt_ne_nothing_iff hpr.of_append.1).2 (.inr ⟨r', hnames, hpath⟩)
  cases hkind : t.kindAt p with
  | file => exact absurd hpath (h.clear hnames hr' hkind)
  | directory => rfl
  | nothing => exact absurd hkind hthere

/-- Above a directory there are directories. -/
theorem Proper.kindAt_initial (h : t.Proper) (hp : Names p) (hq : q <+: p)
    (hdirectory : t.kindAt p = .directory) : t.kindAt q = .directory := by
  obtain ⟨r, rfl⟩ := hq
  by_cases hr : r = []
  · rwa [hr, List.append_nil] at hdirectory
  · exact h.kindAt_of_append hp hr (by simp [hdirectory])

/-! ## Storing -/

/-- What stands at a place is told by whether it is a file and whether it is anything. -/
theorem kind_ext {a b : Place} (hfile : a = .file ↔ b = .file)
    (hnothing : a ≠ .nothing ↔ b ≠ .nothing) : a = b := by
  cases a <;> cases b <;> simp at hfile hnothing <;> rfl

/-- Storing one more path in a directory changes what is at that path, and nothing else. -/
theorem Proper.store {t' : FileTree} (h : t.Proper) (hp : Names p) (hne : p ≠ [])
    (hparent : t.kindAt p.dropLast = .directory)
    (hstored : ∀ path, path ∈ Table.keys t'.files ++ t'.directories ↔
      path ∈ Table.keys t.files ++ t.directories ∨ path = absolute p)
    (hfiles : ∀ q, Names q → q ≠ p →
      (absolute q ∈ Table.keys t'.files ↔ absolute q ∈ Table.keys t.files))
    (hfile : t'.kindAt p = .file → t.kindAt p ≠ .directory) :
    t'.Proper ∧ ∀ q, Names q → q ≠ p → t'.kindAt q = t.kindAt q := by
  -- What leads on to the new path is a directory of the old tree.
  have hbefore {q r : List String} (hr : r ≠ []) (hqr : q ++ r = p) : t.kindAt q = .directory := by
    subst hqr
    refine h.kindAt_initial (hp.initial ( List.dropLast_prefix _)) ?_ hparent
    rw [List.dropLast_append_of_ne_nil hr]
    exact List.prefix_append q _
  have hsame {q : List String} (hq : Names q) (hqp : q ≠ p) :
      t'.kindAt q = .file ↔ t.kindAt q = .file := by
    rw [kindAt_eq_file_iff, kindAt_eq_file_iff, hfiles q hq hqp]
  have hproper : t'.Proper := by
    constructor
    · intro path hpath
      rcases (hstored path).1 hpath with hold | rfl
      · exact h.named path hold
      · exact ⟨p, hp, rfl⟩
    · intro q r hqr hr hkind hnew
      by_cases hqp : q = p
      · subst hqp
        rcases (hstored _).1 hnew with hold | heq
        · have hsome : t.kindAt (q ++ r) ≠ .nothing :=
            (h.kindAt_ne_nothing_iff hqr).2 (.inr ⟨[], by simpa using hqr, by simpa [Stored] using hold⟩)
          exact hfile hkind (h.kindAt_of_append hqr hr hsome)
        · exact hr (List.append_right_eq_self.1 (absolute_injective hqr hp heq))
      · have hkind := (hsame hqr.of_append.1 hqp).1 hkind
        rcases (hstored _).1 hnew with hold | heq
        · exact h.clear hqr hr hkind hold
        · rw [hbefore hr (absolute_injective hqr hp heq)] at hkind
          cases hkind
  refine ⟨hproper, fun q hq hqp => kind_ext (hsame hq hqp) ?_⟩
  constructor
  · intro hsome
    rcases (hproper.kindAt_ne_nothing_iff hq).1 hsome with hnil | ⟨r, hr, hpath⟩
    · exact (h.kindAt_ne_nothing_iff hq).2 (.inl hnil)
    rcases (hstored _).1 hpath with hold | heq
    · exact (h.kindAt_ne_nothing_iff hq).2 (.inr ⟨r, hr, hold⟩)
    · have hqr := absolute_injective hr hp heq
      have hrne : r ≠ [] := by
        rintro rfl
        exact hqp (by simpa using hqr)
      simp [hbefore hrne hqr]
  · intro hsome
    refine (hproper.kindAt_ne_nothing_iff hq).2 ?_
    exact ((h.kindAt_ne_nothing_iff hq).1 hsome).imp_right
      fun ⟨r, hr, hpath⟩ => ⟨r, hr, (hstored _).2 (.inl hpath)⟩

/-- A file is written into a directory. -/
theorem Proper.kindAt_write (h : t.Proper) (hp : Names p) (hne : p ≠ [])
    (hparent : t.kindAt p.dropLast = .directory) (hplace : t.kindAt p ≠ .directory)
    (bytes : ByteArray) :
    (t.write (absolute p) bytes).Proper ∧
      ∀ q, Names q → (t.write (absolute p) bytes).kindAt q = if q = p then .file else t.kindAt q := by
  have hkeys (path : String) : path ∈ Table.keys (t.write (absolute p) bytes).files ↔
      path ∈ Table.keys t.files ∨ path = absolute p := by
    rw [write, Table.keys_set]
    split_ifs with hmem
    · exact ⟨.inl, fun hpath => hpath.elim id fun heq => heq ▸ hmem⟩
    · simp
  have hstore := @Proper.store p t (t.write (absolute p) bytes) h hp hne hparent (fun path => ?_)
    (fun q hq hqp => ?_) fun _ => hplace
  · refine ⟨hstore.1, fun q hq => ?_⟩
    split_ifs with hqp
    · subst hqp
      exact kindAt_eq_file_iff.2 ((hkeys _).2 (.inr rfl))
    · exact hstore.2 q hq hqp
  · rw [List.mem_append, hkeys, List.mem_append]
    exact ⟨fun hpath => by tauto, fun hpath => by tauto⟩
  · rw [hkeys]
    exact or_iff_left fun heq => hqp (absolute_injective hq hp heq)

/-- A directory is made in a directory. -/
theorem Proper.kindAt_know (h : t.Proper) (hp : Names p) (hne : p ≠ [])
    (hparent : t.kindAt p.dropLast = .directory) (hplace : t.kindAt p = .nothing) :
    FileTree.Proper { t with directories := t.directories ++ [absolute p] } ∧
      ∀ q, Names q → FileTree.kindAt { t with directories := t.directories ++ [absolute p] } q =
        if q = p then .directory else t.kindAt q := by
  have hnofile : absolute p ∉ Table.keys t.files := by
    rw [← kindAt_eq_file_iff, hplace]
    nofun
  have hstore := @Proper.store p t { t with directories := t.directories ++ [absolute p] } h hp hne
    hparent (fun path => by simp [or_assoc]) (fun q hq hqp => Iff.rfl)
    fun hfile => absurd (kindAt_eq_file_iff.1 hfile) hnofile
  refine ⟨hstore.1, fun q hq => ?_⟩
  split_ifs with hqp
  · subst hqp
    have hsome := (hstore.1.kindAt_ne_nothing_iff hq).2
      (.inr ⟨[], by simpa using hq, by simp [Stored]⟩)
    have hnot := mt kindAt_eq_file_iff.1 hnofile
    cases hkind : FileTree.kindAt { t with directories := t.directories ++ [absolute q] } q with
    | file => exact absurd (kindAt_eq_file_iff.1 hkind) hnofile
    | directory => rfl
    | nothing => exact absurd hkind hsome
  · exact hstore.2 q hq hqp

/-! ## Making directories -/

variable {done rest : List String}

theorem placeAt_pathOf (t : FileTree) (done : List String) :
    t.placeAt (pathOf done) = t.kindAt done.reverse := by
  rw [kindAt, absolute_eq_pathOf, List.reverse_reverse]

/-- Nothing is left to make where a directory stands. -/
theorem makeDirectories_nil (h : t.kindAt done.reverse = .directory) :
    t.makeDirectories done [] = .ok (t, done) := by
  rw [makeDirectories, placeAt_pathOf, h]

/-- A directory that exists is passed. -/
theorem makeDirectories_cons (h : t.kindAt done.reverse = .directory) (hs : s ≠ "..")
    (rest : List String) : t.makeDirectories done (s :: rest) = t.makeDirectories (s :: done) rest := by
  rw [makeDirectories, placeAt_pathOf, h]
  dsimp only
  rw [step, if_neg hs]

/-- No directory is made where a file is. -/
theorem kindAt_ne_file {made : FileTree × List String} (h : t.makeDirectories done rest = .ok made) :
    t.kindAt done.reverse ≠ .file := by
  intro hfile
  cases rest <;> rw [makeDirectories, placeAt_pathOf, hfile] at h <;> cases h

/-- Unless a file is there, a directory is made on the way, or it is there already. -/
theorem Proper.exists_known (h : t.Proper) (hp : Names done.reverse)
    (hparent : done ≠ [] → t.kindAt done.reverse.dropLast = .directory)
    (hplace : t.kindAt done.reverse ≠ .file) :
    ∃ t' : FileTree, t'.Proper ∧ t'.kindAt done.reverse = .directory ∧
      (∀ rest, t.makeDirectories done rest = t'.makeDirectories done rest) ∧
      ∀ q, Names q → t'.kindAt q = if q = done.reverse then .directory else t.kindAt q := by
  cases hkind : t.kindAt done.reverse with
  | file => exact absurd hkind hplace
  | directory =>
    refine ⟨t, h, hkind, fun rest => rfl, fun q hq => ?_⟩
    split_ifs with hqp
    · rw [hqp, hkind]
    · rfl
  | nothing =>
    have hne : done.reverse ≠ [] := by
      intro hnil
      rw [hnil] at hkind
      exact (h.kindAt_ne_nothing_iff names_nil).2 (.inl rfl) hkind
    obtain ⟨hproper, hkinds⟩ := h.kindAt_know hp hne
      (hparent fun hnil => hne (List.reverse_eq_nil_iff.2 hnil)) hkind
    have hmade := hkinds done.reverse hp
    rw [if_pos rfl] at hmade
    refine ⟨_, hproper, hmade, fun rest => ?_, hkinds⟩
    rw [absolute_eq_pathOf, List.reverse_reverse] at hmade ⊢
    cases rest with
    | nil => rw [makeDirectories_nil hmade, makeDirectories, placeAt_pathOf, hkind]
    | cons s rest =>
      conv_rhs => rw [makeDirectories, placeAt_pathOf, hmade]
      rw [makeDirectories, placeAt_pathOf, hkind]

/-- What is longer than the beginning of a list goes on like the list. -/
theorem concat_prefix_iff (hqp : q ≠ p) (hq : q <+: p ++ s :: rest) :
    p ++ [s] <+: q ↔ p <+: q := by
  refine ⟨(List.prefix_append p [s]).trans, ?_⟩
  rintro ⟨r, rfl⟩
  cases r with
  | nil => exact absurd (List.append_nil p) hqp
  | cons x r =>
    obtain ⟨rfl, -⟩ := List.cons_prefix_cons.1 ((List.prefix_append_right_inj p).1 hq)
    exact ⟨r, by simp⟩

/-- Making directories one in the other makes all that lead there. The induction is on the names that
are left. -/
theorem Proper.makeDirectories_eq_ok {made : FileTree × List String} (h : t.Proper)
    (hp : Names (done.reverse ++ rest))
    (hparent : done ≠ [] → t.kindAt done.reverse.dropLast = .directory)
    (hmake : t.makeDirectories done rest = .ok made) :
    made.1.Proper ∧ ∀ q, Names q → made.1.kindAt q =
      if done.reverse <+: q ∧ q <+: done.reverse ++ rest then .directory else t.kindAt q := by
  obtain ⟨t', hproper, hhere, hknown, hkinds⟩ :=
    h.exists_known hp.of_append.1 hparent (kindAt_ne_file hmake)
  rw [hknown] at hmake
  induction rest generalizing done t t' with
  | nil =>
    rw [makeDirectories_nil hhere] at hmake
    cases hmake
    refine ⟨hproper, fun q hq => ?_⟩
    rw [hkinds q hq, List.append_nil]
    refine if_congr ⟨?_, fun ⟨hdone, hq⟩ => hq.eq_of_length_le hdone.length_le⟩ rfl rfl
    rintro rfl
    exact ⟨List.prefix_rfl, List.prefix_rfl⟩
  | cons s rest ih =>
    have hsplit : (s :: done).reverse ++ rest = done.reverse ++ s :: rest := by simp
    have hparent' : s :: done ≠ [] → t'.kindAt (s :: done).reverse.dropLast = .directory := fun _ => by
      rwa [List.reverse_cons, List.dropLast_concat]
    rw [makeDirectories_cons hhere (hp s (by simp)).1.2.2] at hmake
    rw [← hsplit] at hp
    obtain ⟨t'', hproper', hhere', hknown', hkinds'⟩ :=
      hproper.exists_known hp.of_append.1 hparent' (kindAt_ne_file hmake)
    rw [hknown'] at hmake
    obtain ⟨hmade, hall⟩ := ih hproper hp hparent' t'' hmake hproper' hhere' hknown' hkinds'
    refine ⟨hmade, fun q hq => ?_⟩
    rw [hall q hq, hsplit, hkinds q hq, List.reverse_cons]
    by_cases hdone : q = done.reverse
    · subst hdone
      simp
    · rw [if_neg hdone]
      exact if_congr (and_congr_left fun hq => concat_prefix_iff hdone hq) rfl rfl

/-- Directories can be made unless a file is in the way. -/
theorem Proper.exists_makeDirectories (h : t.Proper) (hp : Names (done.reverse ++ rest))
    (hparent : done ≠ [] → t.kindAt done.reverse.dropLast = .directory)
    (hplace : ∀ q, q <+: done.reverse ++ rest → t.kindAt q ≠ .file) :
    ∃ made, t.makeDirectories done rest = .ok made := by
  obtain ⟨t', hproper, hhere, hknown, hkinds⟩ :=
    h.exists_known hp.of_append.1 hparent (hplace _ (List.prefix_append _ _))
  rw [hknown]
  induction rest generalizing done t t' with
  | nil => exact ⟨_, makeDirectories_nil hhere⟩
  | cons s rest ih =>
    have hsplit : (s :: done).reverse ++ rest = done.reverse ++ s :: rest := by simp
    rw [makeDirectories_cons hhere (hp s (by simp)).1.2.2]
    rw [← hsplit] at hp hplace
    have hplace' : ∀ q, q <+: (s :: done).reverse ++ rest → t'.kindAt q ≠ .file := by
      intro q hq
      rw [hkinds q (hp.initial hq)]
      split_ifs
      · nofun
      · exact hplace q hq
    have hparent' : s :: done ≠ [] → t'.kindAt (s :: done).reverse.dropLast = .directory := fun _ => by
      rwa [List.reverse_cons, List.dropLast_concat]
    obtain ⟨t'', hproper', hhere', hknown', hkinds'⟩ :=
      hproper.exists_known hp.of_append.1 hparent' (hplace' _ (List.prefix_append _ _))
    rw [hknown' rest]
    exact ih hproper hp hparent' hplace' t'' hproper' hhere' hknown' hkinds'

/-! ## Walking -/

/-- A walk over names goes down by all of them. -/
theorem walk_eq_ok {reached : List String} (h : t.walk done rest = .ok reached) (hrest : Names rest) :
    reached = rest.reverse ++ done := by
  induction rest generalizing done with
  | nil =>
    cases h
    rfl
  | cons s rest ih =>
    unfold walk at h
    split at h
    · rw [step, if_neg (hrest s List.mem_cons_self).1.2.2] at h
      rw [ih h fun x hx => hrest x (List.mem_cons_of_mem s hx)]
      simp
    all_goals cases h

/-- A path of names leads to the directory that is at it. -/
theorem kindAt_of_isDirectory (hp : Names p) (h : t.isDirectory (absolute p) = true) :
    t.kindAt p = .directory := by
  have hplace : t.placeOf (absolute p) = .directory := by simpa [isDirectory] using h
  unfold placeOf at hplace
  split at hplace
  next path hlocate =>
    obtain ⟨path', hchecked, hrest⟩ := Failing.bind_eq_ok.1 hlocate
    obtain ⟨reached, hwalk, hpath⟩ := Failing.bind_eq_ok.1 hrest
    unfold checked at hchecked
    split_ifs at hchecked
    cases hchecked
    rw [steps_absolute hp] at hwalk
    cases hpath
    rw [walk_eq_ok hwalk hp, List.append_nil, ← absolute_eq_pathOf] at hplace
    exact hplace
  · cases hplace

/-! ## Listing -/

theorem before_slash_ofSegments (hs : '/' ∉ s.toList) (rest : List String) :
    before '/' (ofSegments (s :: rest)) = s := by
  have htake : ∀ c ∈ s.toList, decide (c ≠ '/') = true := by
    intro c hc
    simpa using fun h : c = '/' => hs (h ▸ hc)
  apply String.toList_injective
  rw [before, String.toList_ofList]
  cases rest with
  | nil => exact List.takeWhile_eq_self_iff.2 htake
  | cons next rest =>
    rw [ofSegments_cons s (List.cons_ne_nil next rest), String.append_assoc, String.toList_append,
      List.takeWhile_append_of_pos htake]
    simp

/-- A directory holds the names of what is in it. -/
theorem Proper.mem_namesIn_iff (h : t.Proper) (hp : Names p) :
    s ∈ t.namesIn (absolute p) ↔ Names (p ++ [s]) ∧ t.kindAt (p ++ [s]) ≠ .nothing := by
  rw [FileTree.mem_namesIn_iff]
  constructor
  · rintro ⟨hne, rest, hpath, rfl⟩
    obtain ⟨q, hq, hsplit⟩ := h.named _ hpath
    obtain ⟨r, rfl, hr⟩ :
        ∃ r, q = p ++ r ∧ absolute q = start (absolute p) ++ ofSegments r := by
      rcases (startsWith_start_iff hp hq).1 (startsWith_iff.2 ⟨rest, hsplit.symm⟩) with
        rfl | ⟨r, hr, rfl⟩
      · exact ⟨q, rfl, rfl⟩
      · exact ⟨r, rfl, absolute_append hp hr⟩
    obtain rfl : rest = ofSegments r := String.append_right_inj _ |>.1 (hsplit.trans hr)
    cases r with
    | nil => exact absurd hne (by decide)
    | cons s r =>
      have hs := hq s (by simp)
      rw [before_slash_ofSegments hs.2]
      have hnames : Names (p ++ [s] ++ r) := by simpa using hq
      refine ⟨hnames.of_append.1, (h.kindAt_ne_nothing_iff hnames.of_append.1).2 (.inr ⟨r, hnames, ?_⟩)⟩
      rw [Stored, List.append_assoc, List.singleton_append, ← hsplit]
      exact hpath
  · rintro ⟨hnames, hsome⟩
    obtain ⟨r, hr, hpath⟩ := ((h.kindAt_ne_nothing_iff hnames).1 hsome).resolve_left (by simp)
    have hs := hnames s (by simp)
    refine ⟨hs.1.1, ofSegments (s :: r), ?_, before_slash_ofSegments hs.2 r⟩
    rw [← absolute_append hp (List.cons_ne_nil s r)]
    simpa [Stored] using hpath

end HtmlModules.FileTree
