import HtmlModules.Proofs.Declaring
import HtmlModules.Proofs.Export
import HtmlModules.Proofs.Initializer

/-!
# Names that can be exported

`isValid` accepts the identifiers of ASCII that are not reserved, and besides them every identifier of
ASCII with one line end behind it, reserved or not (`isValid_iff`). The keys of a namespace that is
taken apart are accepted texts. Such a key can be declared and exported as it stands if and only if it
has no line end (`exportable_iff`).
-/

namespace HtmlModules

open Script

namespace Identifier

/-! ## Identifiers of ASCII -/

/-- Letters of ASCII, the underscore and the dollar sign. -/
def IsFirst (c : Char) : Prop :=
  ('a' ≤ c ∧ c ≤ 'z') ∨ ('A' ≤ c ∧ c ≤ 'Z') ∨ c = '_' ∨ c = '$'

/-- A text of letters, digits, underscores and dollar signs that does not begin with a digit. -/
structure IsAsciiIdentifier (name : String) : Prop where
  nonempty : name ≠ ""
  first : ∀ c ∈ name.toList.head?, IsFirst c
  further : ∀ c ∈ name.toList.tail, IsFirst c ∨ ('0' ≤ c ∧ c ≤ '9')

theorem isNameStart_iff (c : Char) : isNameStart c = true ↔ IsFirst c := by
  simp [isNameStart, Text.isAsciiLetter, IsFirst, or_assoc]

theorem isNamePart_iff (c : Char) :
    isNamePart c = true ↔ IsFirst c ∨ ('0' ≤ c ∧ c ≤ '9') := by
  simp [isNamePart, isNameStart_iff, Text.isAsciiDigit]

theorem isNameShaped_iff (name : String) :
    isNameShaped name.toList = true ↔ IsAsciiIdentifier name := by
  constructor
  · intro h
    obtain ⟨c, cs, hname, hstart, hpart⟩ := exists_of_isNameShaped h
    refine ⟨?_, ?_, ?_⟩
    · rintro rfl
      cases hname
    · rw [hname]
      exact fun d hd => Option.some.inj hd ▸ (isNameStart_iff c).1 hstart
    · rw [hname]
      exact fun d hd => (isNamePart_iff d).1 (hpart d (List.mem_cons_of_mem c hd))
  · rintro ⟨hnonempty, hfirst, hfurther⟩
    cases hname : name.toList with
    | nil => exact (hnonempty (String.toList_eq_nil_iff.1 hname)).elim
    | cons c cs =>
      rw [hname] at hfirst hfurther
      refine Bool.and_eq_true_iff.2 ⟨(isNameStart_iff c).2 (hfirst c rfl), ?_⟩
      exact List.all_eq_true.2 fun d hd => (isNamePart_iff d).2 (hfurther d hd)

theorem IsAsciiIdentifier.newline_notMem {name : String} (h : IsAsciiIdentifier name) :
    '\n' ∉ name.toList := by
  obtain ⟨c, cs, hname, -, hpart⟩ := exists_of_isNameShaped ((isNameShaped_iff name).2 h)
  rw [hname]
  exact fun hmem => absurd (hpart '\n' hmem) (by decide)

theorem newline_notMem_of_reserved : ∀ word ∈ reservedWords, '\n' ∉ word.toList := by
  decide

theorem dropLineEnd_append (cs : List Char) : dropLineEnd (cs ++ ['\n']) = cs := by
  rw [dropLineEnd, if_pos List.getLast?_concat, List.dropLast_concat]

theorem dropLineEnd_eq_self {cs : List Char} (h : '\n' ∉ cs) : dropLineEnd cs = cs :=
  if_neg fun hlast => h (List.mem_of_getLast? hlast)

/-- The check looks at the characters in front of a line end, and at the whole text for the words that
are reserved. -/
theorem isValid_iff (name : String) :
    isValid name = true ↔ (IsAsciiIdentifier name ∧ name ∉ reservedWords) ∨
      ∃ stem, IsAsciiIdentifier stem ∧ name = stem ++ "\n" := by
  have hcheck : isValid name = true ↔
      isNameShaped (dropLineEnd name.toList) = true ∧ name ∉ reservedWords := by
    simp [isValid]
  rw [hcheck]
  constructor
  · rintro ⟨hshape, hfree⟩
    by_cases hlast : name.toList.getLast? = some '\n'
    · obtain ⟨cs, hcs⟩ := List.getLast?_eq_some_iff.1 hlast
      rw [hcs, dropLineEnd_append] at hshape
      refine .inr ⟨String.ofList cs, (isNameShaped_iff _).1 (by rwa [String.toList_ofList]), ?_⟩
      exact String.toList_injective (by rw [hcs, String.toList_append, String.toList_ofList]; rfl)
    · rw [dropLineEnd, if_neg hlast] at hshape
      exact .inl ⟨(isNameShaped_iff name).1 hshape, hfree⟩
  · rintro (⟨hname, hfree⟩ | ⟨stem, hstem, rfl⟩)
    · rw [dropLineEnd_eq_self hname.newline_notMem]
      exact ⟨(isNameShaped_iff name).2 hname, hfree⟩
    · rw [String.toList_append]
      refine ⟨?_, fun hreserved => newline_notMem_of_reserved _ hreserved (by simp)⟩
      exact (dropLineEnd_append stem.toList).symm ▸ (isNameShaped_iff stem).2 hstem

end Identifier

namespace Pass

open Identifier

/-! ## Keys of namespaces -/

/-- The name can be declared and exported: a module that does so where the name is written declares and
exports this name, and nothing else. -/
def Exportable (name : String) : Prop :=
  ∃ program, parse ("export let " ++ name ++ ";") = .ok program ∧
    (statements program).map (fun s => (s.kind, s.statementNames)) =
      [(.exportNamedDeclaration, [name])]

/-- Behind a word that is reserved a line end helps nothing. -/
theorem not_exportable_of_reserved : ∀ word ∈ reservedWords, ¬Exportable (word ++ "\n") := by
  have hchecked : ∀ word ∈ reservedWords,
      ((parse ("export let " ++ (word ++ "\n") ++ ";")).toOption.all fun program =>
        decide ((statements program).map (fun s => (s.kind, s.statementNames)) ≠
          [(.exportNamedDeclaration, [word ++ "\n"])])) = true := by
    decide +kernel
  rintro word hword ⟨program, hparse, hnames⟩
  have hother := hchecked word hword
  rw [hparse] at hother
  exact of_decide_eq_true hother hnames

/-- An accepted text can be declared and exported if and only if it has no line end. -/
theorem exportable_iff {name : String} (h : isValid name = true) :
    Exportable name ↔ '\n' ∉ name.toList := by
  rcases (isValid_iff name).1 h with ⟨hname, hfree⟩ | ⟨stem, hstem, rfl⟩
  · refine iff_of_true ?_ hname.newline_notMem
    obtain ⟨program, hparse, hnames⟩ := Grammar.exists_parse_export ((isNameShaped_iff name).2 hname)
      hfree "" (.inl rfl)
    exact ⟨program, by rwa [String.append_empty] at hparse, hnames⟩
  · refine iff_of_false ?_ fun hline => hline (by simp)
    by_cases hfree : stem ∈ reservedWords
    · exact not_exportable_of_reserved stem hfree
    · -- the module exports what stands in front of the line end
      rintro ⟨program, hparse, hnames⟩
      obtain ⟨program', hparse', hnames'⟩ := Grammar.exists_parse_export
        ((isNameShaped_iff stem).2 hstem) hfree "\n" (.inr rfl)
      rw [← String.append_assoc, hparse'] at hparse
      obtain rfl := Except.ok.inj hparse
      have hsame : stem = stem ++ "\n" := by
        simpa using (show _ = _ from hnames'.symm.trans hnames)
      have hlength := congrArg String.length hsame
      simp at hlength

/-- The check accepts the identifiers of ASCII that are not reserved, and those with one line end behind
them. Of the keys of a namespace that is taken apart, those can be declared and exported that have no
line end, and no others. -/
theorem isValid_exact (name source : String) (position : Nat) (properties : List Node) :
    (isValid name = true ↔ (IsAsciiIdentifier name ∧ name ∉ reservedWords) ∨
      ∃ stem, IsAsciiIdentifier stem ∧ name = stem ++ "\n") ∧
    ∀ members, members? source position properties = some members →
      ∀ m ∈ members, Exportable m.key ↔ '\n' ∉ m.key.toList := by
  refine ⟨isValid_iff name, fun members hmembers m hm => ?_⟩
  exact exportable_iff (isValid_of_members? hmembers m hm)

/-- A namespace that is taken apart into a member whose key is a reserved word with a line end. -/
def classKey : String := "P.A = \x7b'class\\n': 1\x7d;"

/-- A text with a line end is accepted, even behind a word that is reserved. As the key of a namespace
it is taken for a name that can be exported, and it is none. -/
theorem exists_valid_not_identifier :
    (isValid "a\n" = true ∧ ¬IsAsciiIdentifier "a\n") ∧
      ∃ program n members, parse classKey = .ok program ∧ n ∈ program.walk ∧
        members? classKey (n.start + 1) (n.childrenIn .property) = some members ∧
        ∃ m ∈ members, ¬IsAsciiIdentifier m.key ∧ ¬Exportable m.key := by
  have hnot {name : String} (hline : '\n' ∈ name.toList) : ¬IsAsciiIdentifier name :=
    fun h => h.newline_notMem hline
  obtain ⟨program, hparse, h⟩ := @exists_parse classKey (fun program => program.walk.any fun n =>
    (members? classKey (n.start + 1) (n.childrenIn .property)).any fun members =>
      members.any fun m => m.key == "class\n") (by decide +kernel)
  obtain ⟨n, hn, h⟩ := List.any_eq_true.1 h
  obtain ⟨members, hmembers, h⟩ := (Option.any_eq_true _ _).1 h
  obtain ⟨m, hm, hkey⟩ := List.any_eq_true.1 h
  obtain hkey : m.key = "class\n" := beq_iff_eq.1 hkey
  refine ⟨⟨by decide, hnot (by decide)⟩, program, n, members, hparse, hn, hmembers, m, hm, ?_⟩
  rw [hkey]
  exact ⟨hnot (by decide), not_exportable_of_reserved "class" (by decide)⟩

end Pass

end HtmlModules
