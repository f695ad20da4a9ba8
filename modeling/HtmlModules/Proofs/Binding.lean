import HtmlModules.Proofs.Freshness
import HtmlModules.Proofs.Grammar

/-!
# Names in use are complete

Every name that a node declares is in use (`Script.Node.declares_subset`). The names that statements
declare in their function are read off declarations and imports, so in a grammatical tree each of them is
declared by a node: a declarator, a function, a class or a name of an import
(`Script.Node.statementNames_subset`, `Script.Node.hoistedNames_subset`). So they are in use as well, at
any place in a program that was parsed (`Script.Node.usedNames_complete`).
-/

namespace HtmlModules.Script.Node

open Text

variable {program n : Node}

/-! ## Names that are declared by children -/

/-- The child that is found in a role is one of the children in it. -/
theorem child?_mem_childrenIn {c : Node} {r : Role} (h : n.child? r = some c) :
    c ∈ n.childrenIn r := by
  have hrole : (c.role == r) = true := by simpa using List.find?_some h
  exact List.mem_filter.2 ⟨List.mem_of_find?_eq_some h, hrole⟩

/-- The declarators of a declaration bind names that are in use. -/
theorem declaratorNames_subset (h : program.Grammatical) (hn : n ∈ program.walk) {v : VariableKind}
    (hkind : n.kind = .variableDeclaration v) : n.declaratorNames ⊆ program.usedNames := by
  refine flatMap_subset fun d hd => ?_
  obtain ⟨hchild, hrole⟩ := List.mem_filter.1 hd
  have hadmits := h n hn
  rw [hkind, Kind.admits_variableDeclaration] at hadmits
  have hdeclares := declares_subset (mem_walk_of_mem_children hn hchild)
  rw [declares, hadmits d hchild (beq_iff_eq.1 hrole)] at hdeclares
  cases hid : d.child? .id with
  | none => exact List.nil_subset _
  | some id =>
    exact fun _ hname => hdeclares (List.mem_flatMap.2 ⟨id, child?_mem_childrenIn hid, hname⟩)

/-- The names of an import are in use. -/
theorem importNames_subset (h : program.Grammatical) (hn : n ∈ program.walk)
    (hkind : n.kind = .importDeclaration) :
    ((n.childrenIn .specifier).filterMap fun s => (s.child? .localName).bind name?) ⊆
      program.usedNames := by
  intro name hname
  obtain ⟨s, hs, hname⟩ := List.mem_filterMap.1 hname
  obtain ⟨hchild, hrole⟩ := List.mem_filter.1 hs
  have hadmits := h n hn
  rw [hkind, Kind.admits_importDeclaration] at hadmits
  refine declares_subset (mem_walk_of_mem_children hn hchild) ?_
  have himported := hadmits s hchild (beq_iff_eq.1 hrole)
  unfold declares
  cases hs : s.kind <;> simp_all [Kind.isImported]

/-! ## Names of statements -/

/-- The names that a statement declares by itself are among the used ones. -/
theorem plainStatementNames_subset (h : program.Grammatical) (hn : n ∈ program.walk) :
    n.plainStatementNames ⊆ program.usedNames := by
  have hdeclares := declares_subset hn
  unfold plainStatementNames
  split
  · exact declaratorNames_subset h hn ‹_›
  · next hkind =>
    rw [declares, hkind] at hdeclares
    exact List.Subset.trans (List.subset_append_left _ _) hdeclares
  · next hkind =>
    rw [declares, hkind] at hdeclares
    exact hdeclares
  · exact importNames_subset h hn ‹_›
  · exact List.nil_subset _

/-- A statement declares names that are in use. -/
theorem statementNames_subset (h : program.Grammatical) (hn : n ∈ program.walk) :
    n.statementNames ⊆ program.usedNames := by
  unfold statementNames
  split
  · cases hd : n.child? .declaration with
    | none => exact List.nil_subset _
    | some d => exact plainStatementNames_subset h (mem_walk_of_child? hn hd)
  · exact plainStatementNames_subset h hn

/-- The `var`s below a node declare names that are in use. -/
theorem hoistedNames_subset (h : program.Grammatical) (hn : n ∈ program.walk) :
    n.hoistedNames ⊆ program.usedNames := by
  refine flatMap_subset fun x hx => ?_
  have hwalk := outlineAll_mem_walk (fun c hc => mem_walk_of_mem_children hn hc) hx
  dsimp only
  split_ifs with hvar
  · exact declaratorNames_subset h hwalk (beq_iff_eq.1 hvar)
  · exact List.nil_subset _

/-- Every name that a node of a program declares is in use. What is parsed is grammatical, and there every
name that statements declare in their function is in use too. -/
theorem usedNames_complete (program : Node) :
    (∀ n ∈ program.walk, n.declares ⊆ program.usedNames) ∧
      (∀ source, parse source = .ok program → program.Grammatical) ∧
      (program.Grammatical → ∀ statements : List Node, statements ⊆ program.walk →
        scopeNames statements ⊆ program.usedNames) := by
  refine ⟨fun n hn => declares_subset hn, fun source h => grammatical_of_parse h, ?_⟩
  intro h statements hstatements name hname
  rw [scopeNames, List.mem_eraseDups] at hname
  obtain ⟨s, hs, hname⟩ := List.mem_flatMap.1 hname
  rcases List.mem_append.1 hname with hname | hname
  · exact statementNames_subset h (hstatements hs) hname
  · exact hoistedNames_subset h (hstatements hs) hname

/-- Names of imports, of patterns with defaults and rests, and of a `var` in a block. -/
theorem usedNames_complete_module :
    let source := "import d, \x7bi as j\x7d from 'm'; import * as ns from 'n';
      function f(\x7ba, k: [c = g, ...e]\x7d, ...r) \x7b try \x7b\x7d catch (\x7bm\x7d) \x7b\x7d \x7d
      class K \x7b\x7d export const [q, \x7bs: t\x7d] = u; if (v) \x7b var w; \x7d"
    ∃ program, parse source = .ok program ∧
      program.walk.flatMap declares =
        ["d", "j", "ns", "f", "a", "c", "e", "r", "m", "K", "q", "t", "w"] ∧
      (∀ n ∈ program.walk, n.declares ⊆ program.usedNames) ∧
      scopeNames (program.childrenIn .body) = ["d", "j", "ns", "f", "K", "q", "t", "w"] ∧
      scopeNames (program.childrenIn .body) ⊆ program.usedNames := by
  intro source
  obtain ⟨program, hparse, hnames⟩ := @exists_parse source (fun program => decide
    (program.walk.flatMap declares =
        ["d", "j", "ns", "f", "a", "c", "e", "r", "m", "K", "q", "t", "w"] ∧
      scopeNames (program.childrenIn .body) = ["d", "j", "ns", "f", "K", "q", "t", "w"]))
    (by decide +zetaReduce +kernel)
  obtain ⟨hdeclares, hscope⟩ := of_decide_eq_true hnames
  obtain ⟨hused, hgrammatical, hstatements⟩ := usedNames_complete program
  exact ⟨program, hparse, hdeclares, hused, hscope, hstatements (hgrammatical source hparse) _
    (childrenIn_subset_walk (self_mem_walk program) .body)⟩

/-- A label in the place of a declarator is declared, but it is no binding. -/
example : let label := mk .declaration .labeledStatement ⟨4, 5⟩ [mk .id (.identifier "a") ⟨4, 5⟩ []]
    let program := mk .root (.variableDeclaration .var) ⟨0, 5⟩ [label]
    scopeNames [program] = ["a"] ∧ program.usedNames = [] ∧ ¬program.Grammatical := by
  decide

end HtmlModules.Script.Node
