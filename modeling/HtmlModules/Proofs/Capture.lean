import HtmlModules.Proofs.Constant
import HtmlModules.Proofs.Listing

/-!
# References that a scope captures

Where a program names what it exports itself, the local name of the export is put. A scope around that
place may declare a variable of the same name. The scopes in a program declare no names but those that
the program uses (`Script.Node.names_subset_usedNames`), and the name of a new binding is none of these.
So a reference can be captured only if its export reuses a binding that the program declares
(`Pass.substitutionEdits_boundAt`), and such a reference is (`Pass.exists_captured`).
-/

namespace HtmlModules

open Text Script

namespace Script.Node

/-! ## Scopes -/

/-- The name of a function or a class. -/
def ownNames (n : Node) : List String := ((n.child? .id).bind name?).toList

/-- The names that a statement binds. -/
def boundNames (s : Node) : List String :=
  match s.kind with
  | .variableDeclaration _ =>
    ((s.childrenIn .declaration).filter (·.kind == .variableDeclarator)).flatMap fun d =>
      (d.childrenIn .id).flatMap patternNames
  | .functionDeclaration _ | .classDeclaration => s.ownNames
  | _ => []

/-- The names that statements bind in their block; a `var` belongs to the function around it. -/
def blockNames (ss : List Node) : List String :=
  ss.flatMap fun s => if s.isVar then [] else s.boundNames

/-- The names of the `var`s in statements, without those of functions and classes in them. -/
def varNames (ss : List Node) : List String :=
  (outlineAll (fun m => !(m.kind.isFunction || m.kind.isClass)) none ss).flatMap fun (_, m) =>
    if m.isVar then m.boundNames else []

/-- The statements of a function, none if its body is an expression. -/
def ownStatements (function : Node) : List Node :=
  ((function.child? .body).filter (·.kind == .blockStatement)).elim [] (·.childrenIn .body)

/-- The names that a function binds for its parameters, and for its body those of its statements too. -/
def functionNames (function : Node) (r : Role) : List String :=
  (if function.kind matches .functionExpression _ then function.ownNames else []) ++
    (function.childrenIn .param).flatMap patternNames ++
    if r = .body then blockNames function.ownStatements ++ varNames function.ownStatements else []

/-- The names that a node declares for its children in a role. The names that a program declares are not
among them: they are those of the module. -/
def namesFor (n : Node) (r : Role) : List String :=
  match n.kind with
  | .functionDeclaration _ | .functionExpression _ | .arrowFunction _ => n.functionNames r
  | .classExpression => n.ownNames
  | .catchClause => (n.childrenIn .param).flatMap patternNames
  | .blockStatement => blockNames (n.childrenIn .body)
  | .switchStatement =>
    if r = .clause then blockNames ((n.childrenIn .clause).flatMap (·.childrenIn .consequent)) else []
  | .forStatement | .forInStatement | .forOfStatement =>
    blockNames (n.childrenIn .initial ++ n.childrenIn .left)
  | _ => []

/-- A node in a program. -/
structure Occurrence where
  parent : Option Node
  node : Node
  /-- The names that the scopes around the node declare. -/
  names : List String

mutual

/-- The outline of a tree (`outline`), with the names that the scopes around each node declare. -/
def occurrences (enter : Node → Bool) (names : List String) (parent : Option Node) :
    Node → List Occurrence
  | mk r k s cs =>
    ⟨parent, mk r k s cs, names⟩ ::
      if enter (mk r k s cs) then occurrencesIn enter names (mk r k s cs) cs else []

/-- The outlines of the children of one node. -/
def occurrencesIn (enter : Node → Bool) (names : List String) (parent : Node) :
    List Node → List Occurrence
  | [] => []
  | n :: ns =>
    occurrences enter (names ++ parent.namesFor n.role) (some parent) n ++
      occurrencesIn enter names parent ns

end

mutual

/-- The occurrences in a tree are the nodes of its outline, each with the names that are bound
around it. -/
theorem map_occurrences (enter : Node → Bool) :
    ∀ (n : Node) (names : List String) (parent : Option Node),
      (n.occurrences enter names parent).map (fun o => (o.parent, o.node)) = n.outline enter parent
  | mk r k s cs, names, parent => by
    rw [occurrences, outline, List.map_cons]
    split_ifs
    · rw [map_occurrencesIn enter cs names (mk r k s cs)]
    · rfl

theorem map_occurrencesIn (enter : Node → Bool) :
    ∀ (ns : List Node) (names : List String) (parent : Node),
      (occurrencesIn enter names parent ns).map (fun o => (o.parent, o.node)) =
        outlineAll enter (some parent) ns
  | [], _, _ => rfl
  | n :: ns, names, parent => by
    rw [occurrencesIn, outlineAll, List.map_append, map_occurrences enter n,
      map_occurrencesIn enter ns names parent]

end

/-! ## Names that scopes declare -/

section Names

variable {program : Node}

theorem flatMap_subset {α β : Type} {f : α → List β} {l : List α} {m : List β}
    (h : ∀ a ∈ l, f a ⊆ m) : l.flatMap f ⊆ m := fun _ hb => by
  obtain ⟨a, ha, hb⟩ := List.mem_flatMap.1 hb
  exact h a ha hb

/-- A name at a place that binds or refers is used by the program. -/
theorem mem_usedNames {x : Option Node × Node} {name : String} (hx : x ∈ program.family)
    (hbinding : isBindingName x.1 x.2 = true) (hname : x.2.name? = some name) :
    name ∈ program.usedNames := by
  rw [usedNames, List.mem_eraseDups]
  exact List.mem_filterMap.2 ⟨x, hx, (if_pos hbinding).trans hname⟩

/-- A node and its child are a pair of the program. -/
theorem child_mem_family {n c : Node} (hn : n ∈ program.walk) (hc : c ∈ n.children) :
    (some n, c) ∈ program.family := by
  obtain ⟨x, hx, rfl⟩ := List.mem_map.1 hn
  exact child_mem_outline hc rfl hx

mutual

/-- A pattern binds names that the program uses. -/
theorem patternNames_subset : ∀ {n : Node} {parent : Option Node}, (parent, n) ∈ program.family →
    isBindingName parent n = true → patternNames n ⊆ program.usedNames
  | mk r k s cs, parent, hn, hbinding => by
    have hbelow (role : Role)
        (hchild : ∀ c, c.role = role → isBindingName (some (mk r k s cs)) c = true) :
        patternNamesIn role cs ⊆ program.usedNames :=
      patternNamesIn_subset (List.mem_map_of_mem hn) hchild fun c hc => hc
    cases k with
    | identifier name =>
      rw [patternNames]
      exact List.cons_subset.2 ⟨mem_usedNames hn hbinding rfl, List.nil_subset _⟩
    | objectPattern | arrayPattern | assignmentPattern | restElement =>
      rw [patternNames]
      exact hbelow _ fun c _ => rfl
    | property =>
      rw [patternNames]
      exact hbelow _ fun c hc => by simp [isBindingName, kind, hc]
    | _ => simp [patternNames]

/-- Patterns in a role that binds bind only names that are used. -/
theorem patternNamesIn_subset {p : Node} (hp : p ∈ program.walk) {r : Role}
    (hbinding : ∀ c, c.role = r → isBindingName (some p) c = true) :
    ∀ {ns : List Node}, ns ⊆ p.children → patternNamesIn r ns ⊆ program.usedNames
  | [], _ => List.nil_subset _
  | n :: ns, hns => by
    rw [patternNamesIn]
    refine List.append_subset.2 ⟨?_, patternNamesIn_subset hp hbinding fun c hc =>
      hns (List.mem_cons_of_mem _ hc)⟩
    split_ifs with hrole
    · exact patternNames_subset (child_mem_family hp (hns List.mem_cons_self))
        (hbinding n (beq_iff_eq.1 hrole))
    · exact List.nil_subset _

end

theorem flatMap_patternNames_subset {p : Node} (hp : p ∈ program.walk) {r : Role}
    (hbinding : ∀ c, isBindingName (some p) c = true) :
    (p.childrenIn r).flatMap patternNames ⊆ program.usedNames :=
  flatMap_subset fun _ hc =>
    patternNames_subset (child_mem_family hp (List.mem_of_mem_filter hc)) (hbinding _)

/-- The name that a function or a class has inside itself is used. -/
theorem ownNames_subset {n : Node} (hn : n ∈ program.walk)
    (hbinding : ∀ c, isBindingName (some n) c = true) : n.ownNames ⊆ program.usedNames := by
  intro name hname
  rw [ownNames, Option.mem_toList] at hname
  obtain ⟨id, hid, hname⟩ := Option.bind_eq_some_iff.1 hname
  exact mem_usedNames (child_mem_family hn (List.mem_of_find?_eq_some hid)) (hbinding id) hname

theorem boundNames_subset {s : Node} (hs : s ∈ program.walk) :
    s.boundNames ⊆ program.usedNames := by
  unfold boundNames
  split
  · refine flatMap_subset fun d hd => ?_
    obtain ⟨hd, hkind⟩ := List.mem_filter.1 hd
    refine flatMap_patternNames_subset
      (mem_walk_of_mem_children hs (List.mem_of_mem_filter hd)) fun c => ?_
    simp [isBindingName, beq_iff_eq.1 hkind]
  · next hkind => exact ownNames_subset hs fun c => by simp [isBindingName, hkind]
  · next hkind => exact ownNames_subset hs fun c => by simp [isBindingName, hkind]
  · exact List.nil_subset _

theorem blockNames_subset {ss : List Node} (hss : ss ⊆ program.walk) :
    blockNames ss ⊆ program.usedNames := by
  refine flatMap_subset fun s hs => ?_
  split_ifs
  · exact List.nil_subset _
  · exact boundNames_subset (hss hs)

/-- The variables that are hoisted out of statements are used names. -/
theorem varNames_subset {ss : List Node} (hss : ss ⊆ program.walk) :
    varNames ss ⊆ program.usedNames := by
  refine flatMap_subset fun x hx => ?_
  dsimp only
  split_ifs
  · exact boundNames_subset (outlineAll_mem_walk hss hx)
  · exact List.nil_subset _

/-- The children of a node of the program are nodes of it. -/
theorem childrenIn_subset_walk {n : Node} (hn : n ∈ program.walk) (r : Role) :
    n.childrenIn r ⊆ program.walk :=
  fun _ hc => mem_walk_of_mem_children hn (List.mem_of_mem_filter hc)

/-- The names that a function binds for its parts are used. -/
theorem functionNames_subset {function : Node} (hf : function ∈ program.walk)
    (hbinding : ∀ c, isBindingName (some function) c = true) (r : Role) :
    function.functionNames r ⊆ program.usedNames := by
  have hstatements : function.ownStatements ⊆ program.walk := by
    unfold ownStatements
    cases hbody : (function.child? .body).filter (·.kind == .blockStatement) with
    | none => exact List.nil_subset _
    | some body =>
      have hbody := mem_walk_of_child? hf (Option.filter_eq_some_iff.1 hbody).1
      exact childrenIn_subset_walk hbody .body
  refine List.append_subset.2 ⟨List.append_subset.2
    ⟨?_, flatMap_patternNames_subset hf hbinding⟩, ?_⟩
  · split_ifs
    · exact ownNames_subset hf hbinding
    · exact List.nil_subset _
  · split_ifs
    · exact List.append_subset.2 ⟨blockNames_subset hstatements, varNames_subset hstatements⟩
    · exact List.nil_subset _

/-- A node declares names that the program uses. -/
theorem namesFor_subset {n : Node} (hn : n ∈ program.walk) (r : Role) :
    n.namesFor r ⊆ program.usedNames := by
  unfold namesFor
  split
  · next hkind => exact functionNames_subset hn (fun c => by simp [isBindingName, hkind]) r
  · next hkind => exact functionNames_subset hn (fun c => by simp [isBindingName, hkind]) r
  · next hkind => exact functionNames_subset hn (fun c => by simp [isBindingName, hkind]) r
  · next hkind => exact ownNames_subset hn fun c => by simp [isBindingName, hkind]
  · next hkind => exact flatMap_patternNames_subset hn fun c => by simp [isBindingName, hkind]
  · exact blockNames_subset (childrenIn_subset_walk hn .body)
  · split_ifs
    · refine blockNames_subset (flatMap_subset fun clause hclause => ?_)
      exact childrenIn_subset_walk (childrenIn_subset_walk hn .clause hclause) .consequent
    · exact List.nil_subset _
  all_goals first
    | exact List.nil_subset _
    | exact blockNames_subset (List.append_subset.2
        ⟨childrenIn_subset_walk hn .initial, childrenIn_subset_walk hn .left⟩)

mutual

/-- The scopes around a node declare names that the program uses. -/
theorem names_subset_usedNames {enter : Node → Bool} {o : Occurrence} :
    ∀ {n : Node} {names : List String} {parent : Option Node}, n ∈ program.walk →
      names ⊆ program.usedNames → o ∈ n.occurrences enter names parent →
      o.names ⊆ program.usedNames
  | mk r k s cs, names, parent, hn, hnames, ho => by
    rw [occurrences] at ho
    rcases List.mem_cons.1 ho with rfl | ho
    · exact hnames
    · split_ifs at ho
      · exact names_subset_usedNames_of_mem_occurrencesIn hn (fun c hc => hc) hnames ho
      · cases ho

/-- Every name that is bound around an occurrence is used by the program. The induction goes down
the tree and adds the names of one scope at each step. -/
theorem names_subset_usedNames_of_mem_occurrencesIn {enter : Node → Bool} {o : Occurrence} {p : Node}
    (hp : p ∈ program.walk) : ∀ {ns : List Node} {names : List String}, ns ⊆ p.children →
      names ⊆ program.usedNames → o ∈ occurrencesIn enter names p ns →
      o.names ⊆ program.usedNames
  | n :: ns, names, hns, hnames, ho => by
    rw [occurrencesIn] at ho
    rcases List.mem_append.1 ho with ho | ho
    · exact names_subset_usedNames (mem_walk_of_mem_children hp (hns List.mem_cons_self))
        (List.append_subset.2 ⟨hnames, namesFor_subset hp n.role⟩) ho
    · exact names_subset_usedNames_of_mem_occurrencesIn hp
        (fun c hc => hns (List.mem_cons_of_mem _ hc)) hnames ho

end

end Names

end Script.Node

namespace Pass

open Node

/-! ## Substitutes -/

/-- The nodes that substitution comes to: it stops at chains. -/
def chains (program : Node) : List Occurrence :=
  program.occurrences (·.memberPath?.isNone) [] none

/-- Of the parts of a chain that have a substitute, the longest one spells the path, and the edit puts
the substitute in its place. -/
inductive Substitutes (s : Settings) (localNames : Table String) (o : Occurrence) (path text : String)
    (e : Edit) : Prop
  | mk {segments : List String} {k : Nat} :
    o.node.memberPath? = some segments → k + 2 ≤ segments.length →
    path = join "." (segments.take (k + 2)) →
    substitute? s localNames (o.node.isAssigned o.parent) path = some text →
    (∀ j, k < j → j + 2 ≤ segments.length →
      substitute? s localNames (o.node.isAssigned o.parent) (join "." (segments.take (j + 2))) = none) →
    e = .replace (o.node.chainBase (segments.length - (k + 2))).start
      (o.node.chainBase (segments.length - (k + 2))).stop text →
    Substitutes s localNames o path text e

/-- The longest part with a substitute is found. -/
theorem substitution?_longest {s : Settings} {localNames : Table String} {assigned : Bool}
    {path : List String} {chain : Node} {e : Edit} :
    ∀ {length : Nat}, substitution? s localNames assigned path chain length = some e →
      ∃ k text, k + 2 ≤ length ∧
        substitute? s localNames assigned (join "." (path.take (k + 2))) = some text ∧
        (∀ j, k < j → j + 2 ≤ length →
          substitute? s localNames assigned (join "." (path.take (j + 2))) = none) ∧
        e = .replace (chain.chainBase (path.length - (k + 2))).start
          (chain.chainBase (path.length - (k + 2))).stop text
  | length + 2, h => by
    rw [substitution?] at h
    split at h
    · next text htext =>
      exact ⟨length, text, le_rfl, htext, fun j hlt hle => by omega, (Option.some.inj h).symm⟩
    · next hnone =>
      obtain ⟨k, text, hk, htext, hlonger, he⟩ := substitution?_longest h
      refine ⟨k, text, by omega, htext, fun j hlt hle => ?_, he⟩
      rcases Nat.lt_or_eq_of_le hle with hle | hle
      · exact hlonger j hlt (by omega)
      · obtain rfl : j = length := by omega
        exact hnone

/-- Every edit of the stage puts a substitute somewhere. -/
theorem exists_substitutes {s : Settings} {localNames : Table String} {program : Node} {e : Edit}
    (h : e ∈ substitutionEdits s localNames program) :
    ∃ o ∈ chains program, ∃ path text, Substitutes s localNames o path text e := by
  rw [substitutionEdits, ← map_occurrences _ program []] at h
  obtain ⟨x, hx, he⟩ := List.mem_filterMap.1 h
  obtain ⟨o, ho, rfl⟩ := List.mem_map.1 hx
  obtain ⟨segments, hsegments, he⟩ := Option.bind_eq_some_iff.1 he
  obtain ⟨k, text, hk, htext, hlonger, he⟩ := substitution?_longest he
  exact ⟨o, ho, _, text, .mk hsegments hk rfl htext hlonger he⟩

/-! ## Local names -/

theorem patternNames_of_name? {n : Node} {name : String} (h : n.name? = some name) :
    patternNames n = [name] := by
  obtain ⟨r, k, s, cs⟩ := n
  cases k with
  | identifier other =>
    obtain rfl : other = name := Option.some.inj h
    simp [patternNames]
  | _ => cases h

/-- A variable that a statement sets to the value of an export is declared by the program. -/
theorem declared_mem_scopeNames {roots : List String} {program s : Node} {candidate : Candidate}
    {kind : VariableKind} {name : String} (hs : s ∈ statements program)
    (hcandidate : candidate? roots s = some candidate)
    (hdeclares : candidate.declares? = some (kind, name)) :
    name ∈ scopeNames (statements program) := by
  obtain ⟨own, _, hown, -, -, -⟩ := candidate?_eq_some hcandidate
  have hnames : name ∈ s.statementNames := by
    rw [hdeclares] at hown
    obtain ⟨hkind, d, id, hdeclarations, hid, hname, -⟩ :=
      singleVariable?_eq_some (singleVariable?_of_assignmentIn? hown)
    simp [statementNames, plainStatementNames, declaratorNames, hkind, hdeclarations, hid,
      patternNames_of_name? hname]
  rw [scopeNames, List.mem_eraseDups]
  exact List.mem_flatMap.2 ⟨s, hs, List.mem_append_left _ hnames⟩

/-- An export has a new name, or that of a binding which the program declares. -/
theorem newName?_eq_none {c : Context} {source : String} {program : Node}
    (plan : Plan c source program) {l : Lowering} (hl : l ∈ plan.changes.flatMap Change.lowerings)
    (hnew : l.newName? = none) : l.localName ∈ scopeNames (statements program) := by
  obtain ⟨change, hchange, hl⟩ := List.mem_flatMap.1 hl
  obtain ⟨s, hs, hconverts⟩ := exists_of_forall₂_left plan.converts.flip hchange
  cases hconverts with
  | kept | removed => cases hl
  | lowered _ hcandidate hlowers =>
    cases hlowers with
    | value hvalue =>
      obtain rfl := List.mem_singleton.1 hl
      cases hvalue with
      | declared hdeclares => exact declared_mem_scopeNames hs hcandidate hdeclares
      | existing _ _ hdeclared => exact hdeclared
      | fresh => cases hnew
    | takenApart _ _ hls =>
      obtain ⟨m, -, hlowers⟩ := exists_of_forall₂_left hls.flip hl
      cases hlowers <;> cases hnew

/-- How a local name in the place of a reference to an export is bound there: either it is the new name
of this export alone, and neither the program nor a scope around the place has another binding of that
name, or the program declares it itself. -/
inductive BoundAt {c : Context} {source : String} {program : Node} (plan : Plan c source program)
    (o : Occurrence) (path localName : String) : Prop
  | new {l : Lowering} :
    l ∈ plan.changes.flatMap Change.lowerings → l.path = path → l.newName? = some localName →
    (newNames (plan.changes.flatMap Change.lowerings)).count localName = 1 →
    localName ∉ program.usedNames → localName ∉ o.names → BoundAt plan o path localName
  | reused {l : Lowering} :
    l ∈ plan.changes.flatMap Change.lowerings → l.path = path → l.localName = localName →
    l.newName? = none → localName ∈ scopeNames (statements program) → BoundAt plan o path localName

/-- At every place of the program the local name of an exported path is bound to what the module
declares, unless a name that was there before is bound around it. -/
theorem boundAt {c : Context} {source : String} {program : Node} (plan : Plan c source program)
    {o : Occurrence} {path localName : String} (hnames : o.names ⊆ program.usedNames)
    (h : Table.get? (exportProgram c source program).2.localNames path = some localName) :
    BoundAt plan o path localName := by
  rw [plan.registers.localNames] at h
  rcases Table.get?_setAll_eq_some h with hmem | hnil
  · obtain ⟨l, hl, heq⟩ := List.mem_map.1 hmem
    obtain ⟨rfl, rfl⟩ := Prod.mk.inj heq
    cases hnew : l.newName? with
    | none => exact .reused hl rfl rfl hnew (newName?_eq_none plan hl hnew)
    | some name =>
      obtain rfl := localName_of_newName? hnew
      have hmem : l.localName ∈ newNames (plan.changes.flatMap Change.lowerings) :=
        List.mem_filterMap.2 ⟨l, hl, hnew⟩
      have hfree := plan.registers.free _ hmem
      exact .new hl rfl hnew (List.count_eq_one_of_mem plan.registers.nodup hmem) hfree
        fun hcaptured => hfree (hnames hcaptured)
  · cases hnil

/-- If no scope in the program `later` declares more than some scope in the program whose members were
exported, then every substitute that is put in `later` comes from the settings, or it is the local name
of an export. That is captured by no scope, unless the export reuses a binding that the program declares
itself. -/
theorem substitutionEdits_boundAt (c : Context) (source : String) (program later : Node)
    (hscopes : ∀ o ∈ chains later, ∃ o' ∈ program.occurrences (fun _ => true) [] none,
      o.names ⊆ o'.names) :
    ∃ plan : Plan c source program,
      ∀ e ∈ substitutionEdits c.settings (exportProgram c source program).2.localNames later,
        ∃ o ∈ chains later, ∃ path text,
          Substitutes c.settings (exportProgram c source program).2.localNames o path text e ∧
            (Table.get? c.settings.referenceReplacements path = some text ∨
              c.settings.referenceExcludes.contains path = true ∧ text = "undefined" ∨
              BoundAt plan o path text) := by
  obtain ⟨plan⟩ := exists_plan c source program
  refine ⟨plan, fun e he => ?_⟩
  obtain ⟨o, ho, path, text, hsubstitutes⟩ := exists_substitutes he
  refine ⟨o, ho, path, text, hsubstitutes, ?_⟩
  obtain ⟨o', ho', hsubset⟩ := hscopes o ho
  have hnames : o.names ⊆ program.usedNames := List.Subset.trans hsubset
    (names_subset_usedNames (self_mem_walk program) (List.nil_subset _) ho')
  obtain ⟨-, -, -, htext, -, -⟩ := hsubstitutes
  unfold substitute? at htext
  split at htext
  · next hreplacement => exact Or.inl (hreplacement.trans htext)
  · split_ifs at htext with hexcluded
    · exact Or.inr (Or.inl ⟨hexcluded, (Option.some.inj htext).symm⟩)
    · exact Or.inr (Or.inr (boundAt plan hnames htext))

/-- An export that has a new name is named in a function. -/
theorem substitutionEdits_boundAt_inner :
    ∃ program later, Turns [.exportNamespaces, .namespaceThis]
        "P.a = 1; function g(b) \x7b return P.a; \x7d" program later ∧
      (∀ o ∈ chains later, ∃ o' ∈ program.occurrences (fun _ => true) [] none, o.names ⊆ o'.names) ∧
      (∃ o ∈ chains later, o.names = ["b"] ∧ o.node.memberPath? = some ["P", "a"]) ∧
      ∃ plan : Plan loweringContext "P.a = 1; function g(b) \x7b return P.a; \x7d" program,
        ∀ e ∈ substitutionEdits loweringContext.settings (exportProgram loweringContext
            "P.a = 1; function g(b) \x7b return P.a; \x7d" program).2.localNames later,
          ∃ o ∈ chains later, ∃ path text,
            Substitutes loweringContext.settings (exportProgram loweringContext
              "P.a = 1; function g(b) \x7b return P.a; \x7d" program).2.localNames o path text e ∧
              (Table.get? loweringContext.settings.referenceReplacements path = some text ∨
                loweringContext.settings.referenceExcludes.contains path = true ∧
                  text = "undefined" ∨
                BoundAt plan o path text) := by
  obtain ⟨program, later, hturns, h⟩ : ∃ program later,
      Turns [.exportNamespaces, .namespaceThis] "P.a = 1; function g(b) \x7b return P.a; \x7d"
        program later ∧
      decide ((∀ o ∈ chains later, ∃ o' ∈ program.occurrences (fun _ => true) [] none,
          o.names ⊆ o'.names) ∧
        ∃ o ∈ chains later, o.names = ["b"] ∧ o.node.memberPath? = some ["P", "a"]) = true :=
    exists_turns (by decide +kernel)
  obtain ⟨hscopes, hinner⟩ := of_decide_eq_true h
  exact ⟨program, later, hturns, hscopes, hinner, substitutionEdits_boundAt _ _ program later hscopes⟩

/-- A reference to the name is captured by a scope below that of the program. -/
def captures (program : Node) (name : String) : Bool :=
  (program.occurrences (fun _ => true) [] none).any fun o =>
    o.node.name? == some name && o.node.isReference o.parent && o.names.contains name

/-- The stages turn the source into a program in which a scope captures a reference to the local name of
an export, which none did before. -/
def CapturesExport (source name : String) : Prop :=
  ∃ before after, Turns exportStages source before after ∧ name ∈ exportedAs source ∧
    captures before name = false ∧ captures after name = true

/-- The test of two programs shows that an exported name is captured. -/
theorem capturesExport {source name : String} (h : (parse source).toOption.any (fun before =>
    (parse ((exportStages.run loweringContext source).text source)).toOption.any fun after =>
      (exportStages.run loweringContext source).failure.isNone &&
        decide (name ∈ exportedAs source ∧ captures before name = false ∧
          captures after name = true)) = true) : CapturesExport source name := by
  obtain ⟨before, after, hturns, h⟩ := exists_turns h
  exact ⟨before, after, hturns, of_decide_eq_true h⟩

/-- A class and a constant that are exported under their names are captured by a parameter and by a
variable of a block. -/
theorem exists_captured :
    CapturesExport "class F \x7b\x7d P.F = F; function g(F) \x7b return P.F; \x7d" "F" ∧
      CapturesExport "const F = P.F = 1; \x7b let F; f(P.F); \x7d" "F" := by
  refine ⟨capturesExport ?_, capturesExport ?_⟩ <;> decide +kernel

end Pass

end HtmlModules
