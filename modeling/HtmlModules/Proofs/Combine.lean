import HtmlModules.Conversion.Basic
import HtmlModules.Proofs.Output
import HtmlModules.Proofs.Resume

/-!
# The parts of a combined program

The program of a document is made of its comments and the codes of its scripts, in the order of the
document, with blank lines between them (`Conversion.programOf_pieces`). Each part is closed: a comment
ends where the first `*/` behind its opening mark stands, and a code ends with a semicolon or a brace.

A brace that ends a code does not always end a statement: behind an object or a function what follows
in parentheses is taken for the arguments of a call, so that two scripts make one statement
(`exists_not_keepsStatements`).
-/

namespace HtmlModules

open Text Markup

/-! ## Comments -/

/-- No comment ends at the character. -/
theorem indexOfChars_close_cons {c : Char} {cs : List Char} (h : c = '*' → cs.head? ≠ some '/') :
    indexOfChars ['*', '/'] (c :: cs) = (indexOfChars ['*', '/'] cs).map (· + 1) := by
  have hprefix : ['*', '/'].isPrefixOf (c :: cs) = false := by
    rw [Bool.eq_false_iff, ne_eq, List.isPrefixOf_cons_cons, Bool.and_eq_true, beq_iff_eq]
    rintro ⟨rfl, hslash⟩
    cases cs with
    | nil => cases hslash
    | cons d cs =>
      rw [List.isPrefixOf_cons_cons, Bool.and_eq_true, beq_iff_eq] at hslash
      exact h rfl (by rw [← hslash.1]; rfl)
  rw [indexOfChars, hprefix]
  rfl

/-- The text with the ends of comments written in another way begins with the same character. -/
theorem head?_replaceFrom_close (cs : List Char) :
    (replaceFrom ['*', '/'] ['*', '\\', '/'] 0 cs).head? = cs.head? := by
  cases cs with
  | nil => rfl
  | cons c cs =>
    rw [replaceFrom]
    split_ifs with hclose
    · rw [List.isPrefixOf_cons_cons, Bool.and_eq_true, beq_iff_eq] at hclose
      rw [← hclose.1]
      rfl
    · rfl

/-- Behind such a text the end of a comment is the first one. -/
theorem indexOfChars_replaceFrom_close (cs : List Char) : ∀ skip,
    indexOfChars ['*', '/'] (replaceFrom ['*', '/'] ['*', '\\', '/'] skip cs ++ ['*', '/']) =
      some (replaceFrom ['*', '/'] ['*', '\\', '/'] skip cs).length := by
  induction cs with
  | nil => intro skip; cases skip <;> rfl
  | cons c cs ih =>
    intro skip
    cases skip with
    | succ skip => exact ih skip
    | zero =>
      rw [replaceFrom]
      split_ifs with hclose
      · simp only [List.cons_append, List.nil_append]
        rw [indexOfChars_close_cons (by simp), indexOfChars_close_cons (by simp),
          indexOfChars_close_cons (by simp), ih]
        rfl
      · rw [List.cons_append, indexOfChars_close_cons, ih]
        · rfl
        · rintro rfl hslash
          refine hclose ?_
          rw [List.head?_append, head?_replaceFrom_close] at hslash
          cases cs with
          | nil => cases hslash
          | cons d cs =>
            obtain rfl : d = '/' := by simpa using hslash
            rfl

/-- Behind the mark that opens a comment, the second star of it included, the first `*/` is at the end
of the text. -/
def IsBlockComment (text : String) : Prop :=
  ∃ opening body, (opening = "/*" ∨ opening = "/**") ∧ text = opening ++ (body ++ "*/") ∧
    indexOf (body ++ "*/") "*/" = some body.length

/-- What is made of a comment of the document begins and ends as a block comment. -/
theorem isBlockComment_blockComment (text : String) :
    IsBlockComment (Script.blockComment text) := by
  refine ⟨if Script.hasDocTag text.toList then "/**" else "/*", replaceAll text "*/" "*\\/", ?_, ?_, ?_⟩
  · split_ifs
    · exact Or.inr rfl
    · exact Or.inl rfl
  · rw [Script.blockComment, String.append_assoc]
  · have hbody : (replaceAll text "*/" "*\\/").toList =
        replaceFrom ['*', '/'] ['*', '\\', '/'] 0 text.toList := String.toList_ofList
    rw [indexOf, String.toList_append, ← String.length_toList, hbody]
    exact indexOfChars_replaceFrom_close text.toList 0

/-! ## Parts -/

/-- A part of the program of a document. -/
inductive ProgramPart where
  | comment (text : String)
  | script (code : String)

namespace ProgramPart

/-- The text of the part. -/
def text : ProgramPart → String
  | comment text => text
  | script code => code

/-- The code of a script. -/
def code? : ProgramPart → Option String
  | comment _ => none
  | script code => some code

/-- A comment is one comment, and a code ends with a semicolon or a brace. -/
def IsClosed : ProgramPart → Prop
  | comment text => IsBlockComment text
  | script code => endsWith code ";" = true ∨ endsWith code "\x7d" = true

end ProgramPart

/-- The code of a script ends with a semicolon or a brace, unless it is empty. -/
theorem endsWith_terminated {code : String} (h : terminated code ≠ "") :
    endsWith (terminated code) ";" = true ∨ endsWith (terminated code) "\x7d" = true := by
  unfold terminated at h ⊢
  dsimp only at h ⊢
  split_ifs at h ⊢ with hdone
  · simp only [h, decide_false, Bool.or_eq_true, Bool.false_eq_true, false_or] at hdone
    exact hdone
  · left
    rw [endsWith_iff, String.toList_append]
    exact List.suffix_append _ _

/-- The comments as parts. -/
theorem comments_parts (d : Document) (start stop : Nat) :
    ∃ parts : List ProgramPart, commentsBetween d start stop = parts.map ProgramPart.text ∧
      parts.filterMap ProgramPart.code? = [] ∧ ∀ p ∈ parts, p.IsClosed := by
  refine ⟨(commentsBetween d start stop).map ProgramPart.comment, ?_, ?_, fun p hp => ?_⟩
  · rw [List.map_map]
    exact (List.map_id _).symm
  · rw [List.filterMap_eq_nil_iff]
    intro p hp
    obtain ⟨text, -, rfl⟩ := List.mem_map.1 hp
    rfl
  · obtain ⟨text, htext, rfl⟩ := List.mem_map.1 hp
    obtain ⟨⟨around, a, b, data⟩, -, hdata⟩ := List.mem_filterMap.1 htext
    dsimp only at hdata
    split_ifs at hdata
    cases hdata
    exact isBlockComment_blockComment data

/-- The code of one script as parts, none if it is empty. -/
theorem code_parts (code : String) :
    ∃ parts : List ProgramPart,
      (if terminated code = "" then [] else [terminated code]) = parts.map ProgramPart.text ∧
      parts.filterMap ProgramPart.code? = [terminated code].filter (fun code => code ≠ "") ∧
      ∀ p ∈ parts, p.IsClosed := by
  by_cases hempty : terminated code = ""
  · exact ⟨[], by simp [hempty], by simp [hempty], by simp⟩
  · refine ⟨[.script (terminated code)], by simp [hempty, ProgramPart.text],
      by simp [hempty, ProgramPart.code?], fun p hp => ?_⟩
    obtain rfl := List.mem_singleton.1 hp
    exact endsWith_terminated hempty

/-- The pieces from one place of the document on: its comments, closed, and its codes, terminated,
in order. The induction is on the scripts that are still to come. -/
theorem programPieces_parts (d : Document) : ∀ (units : List ScriptUnit) (position : Nat),
    ∃ parts : List ProgramPart, programPieces d position units = parts.map ProgramPart.text ∧
      parts.filterMap ProgramPart.code? =
        (units.map fun u => terminated u.code).filter (fun code => code ≠ "") ∧
      ∀ p ∈ parts, p.IsClosed
  | [], position => comments_parts d position d.contents.length
  | u :: units, position => by
    obtain ⟨before, hbefore, hnone, hcomments⟩ := comments_parts d position u.start
    obtain ⟨own, hown, hcode, hterminated⟩ := code_parts u.code
    obtain ⟨rest, hrest, hcodes, hclosed⟩ := programPieces_parts d units u.stop
    refine ⟨before ++ own ++ rest, ?_, ?_, fun p hp => ?_⟩
    · rw [programPieces, List.map_append, List.map_append, ← hbefore, ← hown, ← hrest]
    · rw [List.filterMap_append, List.filterMap_append, hnone, hcode, hcodes, List.nil_append,
        ← List.filter_append, List.map_cons, List.singleton_append]
    · rcases List.mem_append.1 hp with hp | hp
      · exact (List.mem_append.1 hp).elim (hcomments p) (hterminated p)
      · exact hclosed p hp

/-- The program of a document is made of comments and of the codes of its scripts, in their order. -/
theorem Conversion.programOf_parts (c : Conversion) (moduleUrl : String) (file : SourceFile)
    (d : Document) : ∃ parts : List ProgramPart,
      c.programOf moduleUrl { file with markup := some d } =
        join "\n\n" (parts.map ProgramPart.text) ∧
      parts.filterMap ProgramPart.code? = ((file.features.filterMap (c.scriptUnit? moduleUrl)).map
        fun u => terminated u.code).filter (fun code => code ≠ "") ∧
      ∀ p ∈ parts, p.IsClosed := by
  obtain ⟨parts, hpieces, hcodes, hclosed⟩ :=
    programPieces_parts d (file.features.filterMap (c.scriptUnit? moduleUrl)) 0
  exact ⟨parts, by rw [← hpieces]; rfl, hcodes, hclosed⟩

/-! ## Scripts that run together -/

mutual

/-- The node without the places in the source. -/
def Script.Node.unplaced : Script.Node → Script.Node
  | .mk r k _ cs => .mk r k ⟨0, 0⟩ (Script.Node.unplacedAll cs)

/-- The nodes without the places in the source. -/
def Script.Node.unplacedAll : List Script.Node → List Script.Node
  | [] => []
  | n :: ns => n.unplaced :: Script.Node.unplacedAll ns

end

/-- If each script of a document is a program, then the combined program has their statements, one
script after the other. -/
def Conversion.KeepsStatements (c : Conversion) (moduleUrl : String) (file : SourceFile) : Prop :=
  ∀ programs : List Script.Node,
    List.Forall₂ (fun (u : ScriptUnit) program => Script.parse u.code = .ok program)
      (file.features.filterMap (c.scriptUnit? moduleUrl)) programs →
    ∃ program, Script.parse (c.programOf moduleUrl file) = .ok program ∧
      (Pass.statements program).map Script.Node.unplaced =
        programs.flatMap fun program => (Pass.statements program).map Script.Node.unplaced

/-- A document with two scripts: the first one ends with an object, the second one begins with a
parenthesis. -/
def adjoiningRoot : SourceRoot where
  files := [("a.html", .ok "<script>var a = \x7b\x7d</script><script>(Polymer.b = 1)</script>")]

/-- The number of statements of a script, if it is a program. -/
def statementCount? (source : String) : Option Nat :=
  (Script.parse source).toOption.map fun program => (Pass.statements program).length

/-- A source of which the statements are counted is a program with so many statements. -/
theorem exists_parse_of_statementCount? {source : String} {n : Nat}
    (h : statementCount? source = some n) :
    ∃ program, Script.parse source = .ok program ∧ (Pass.statements program).length = n := by
  obtain ⟨program, hprogram, hcount⟩ := Option.map_eq_some_iff.1 h
  cases hparse : Script.parse source with
  | error e =>
    rw [hparse] at hprogram
    cases hprogram
  | ok m =>
    rw [hparse] at hprogram
    exact ⟨program, by rw [Option.some.inj hprogram], hcount⟩

/-- Each of the two scripts is one statement, and so is the program of both. -/
theorem adjoining_evaluated :
    ((adjoiningRoot.package ["a.html"]).analysis.file? "a.html").map (fun file =>
      ((file.features.filterMap
          ((adjoiningRoot.package ["a.html"]).scriptUnit? "./a.js")).map (·.code),
        (adjoiningRoot.package ["a.html"]).programOf "./a.js" file)) =
      some (["var a = \x7b\x7d", "(Polymer.b = 1)"], "var a = \x7b\x7d\n\n(Polymer.b = 1);") ∧
    statementCount? "var a = \x7b\x7d" = some 1 ∧
    statementCount? "(Polymer.b = 1)" = some 1 ∧
    statementCount? "var a = \x7b\x7d\n\n(Polymer.b = 1);" = some 1 := by
  decide +kernel

/-- The scripts of the document run together. -/
theorem exists_not_keepsStatements : ∃ file,
    (adjoiningRoot.package ["a.html"]).analysis.file? "a.html" = some file ∧
      ¬(adjoiningRoot.package ["a.html"]).KeepsStatements "./a.js" file := by
  obtain ⟨hfile, hfirst, hsecond, hboth⟩ := adjoining_evaluated
  obtain ⟨file, hfile, hprogram⟩ := Option.map_eq_some_iff.1 hfile
  refine ⟨file, hfile, fun hkeeps => ?_⟩
  obtain ⟨hcodes, hcombined⟩ := Prod.mk.inj hprogram
  obtain ⟨first, hparse, hone⟩ := exists_parse_of_statementCount? hfirst
  obtain ⟨second, hparse', hone'⟩ := exists_parse_of_statementCount? hsecond
  obtain ⟨both, hparse'', hone''⟩ := exists_parse_of_statementCount? hboth
  have hprograms : List.Forall₂ (fun code program => Script.parse code = .ok program)
      ["var a = \x7b\x7d", "(Polymer.b = 1)"] [first, second] :=
    .cons hparse (.cons hparse' .nil)
  rw [← hcodes, List.forall₂_map_left_iff] at hprograms
  obtain ⟨program, hparsed, hstatements⟩ := hkeeps [first, second] hprograms
  rw [hcombined, hparse''] at hparsed
  obtain rfl := Except.ok.inj hparsed
  have hlength := congrArg List.length hstatements
  simp [hone, hone', hone''] at hlength

end HtmlModules
