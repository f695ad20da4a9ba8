import HtmlModules.Proofs.Capture

/-!
# New names are mentioned nowhere

A program mentions a name where it reads or writes a binding of that name, and where it declares one,
at any depth (`Script.Node.Mentions`). All these names are in use (`Script.Node.Mentions.mem_usedNames`),
so the bindings that the exports of a program introduce have names that it does not mention, and no two
of them the same (`Pass.exportProgram_fresh`).

Two names that differ can still spell one binding: the key of a member may end in a line end. And a
program may read a name where its tree has the name of a method: the tree does not tell that the key of
an asynchronous method of a class stands in brackets (`Pass.exists_not_fresh`).
-/

namespace HtmlModules

open Text Script

namespace Script.Node

variable {program : Node} {name : String}

/-! ## Mentioned names -/

/-- The names that a node by itself declares: a variable, a function with its parameters, a class, a
clause that catches, or an import. -/
def declares (n : Node) : List String :=
  match n.kind with
  | .variableDeclarator => (n.childrenIn .id).flatMap patternNames
  | .functionDeclaration _ | .functionExpression _ =>
    n.ownNames ++ (n.childrenIn .param).flatMap patternNames
  | .arrowFunction _ | .catchClause => (n.childrenIn .param).flatMap patternNames
  | .classDeclaration | .classExpression => n.ownNames
  | .importSpecifier | .importDefaultSpecifier | .importNamespaceSpecifier =>
    ((n.child? .localName).bind name?).toList
  | _ => []

/-- A binding of the name is read, written or declared somewhere in the program. -/
inductive Mentions (program : Node) (name : String) : Prop
  | reads {parent : Option Node} {n : Node} : (parent, n) ∈ program.family →
    isReference parent n = true → n.name? = some name → Mentions program name
  | writes {n t : Node} : n ∈ program.walk → t ∈ n.targets → t.name? = some name →
    Mentions program name
  | declares {n : Node} : n ∈ program.walk → name ∈ n.declares → Mentions program name

/-- A name that refers is a name that may be bound. -/
theorem isBindingName_of_isReference {parent : Option Node} {n : Node}
    (h : isReference parent n = true) : isBindingName parent n = true := by
  cases parent with
  | none => rfl
  | some p =>
    unfold isReference at h
    unfold isBindingName
    cases hkind : p.kind <;> simp_all [isComputed, isShorthand]
    split_ifs at h <;> simp_all

mutual

/-- What is written to by writing to a binding is a binding. -/
theorem exists_family_of_mem_patternTargets {t : Node} : ∀ {n : Node} {parent : Option Node},
    (parent, n) ∈ program.family → isBindingName parent n = true → t ∈ patternTargets n →
      ∃ q, (q, t) ∈ program.family ∧ isBindingName q t = true
  | mk r k s cs, parent, hn, hbinding, ht => by
    have hbelow (role : Role) (ht : t ∈ patternTargetsIn role cs)
        (hchild : ∀ c, c.role = role → isBindingName (some (mk r k s cs)) c = true) :
        ∃ q, (q, t) ∈ program.family ∧ isBindingName q t = true :=
      exists_family_of_mem_patternTargetsIn (List.mem_map_of_mem hn) hchild (fun c hc => hc) ht
    cases k with
    | objectPattern | arrayPattern | assignmentPattern | restElement =>
      rw [patternTargets] at ht
      exact hbelow _ ht fun c _ => rfl
    | property =>
      rw [patternTargets] at ht
      exact hbelow _ ht fun c hc => by simp [isBindingName, kind, hc]
    | variableDeclaration => simp [patternTargets] at ht
    | _ =>
      obtain rfl : t = mk r _ s cs := by simpa [patternTargets] using ht
      exact ⟨parent, hn, hbinding⟩

/-- A target in a pattern is a node of the program at a place that binds. -/
theorem exists_family_of_mem_patternTargetsIn {t p : Node} (hp : p ∈ program.walk) {r : Role}
    (hbinding : ∀ c, c.role = r → isBindingName (some p) c = true) :
    ∀ {ns : List Node}, ns ⊆ p.children → t ∈ patternTargetsIn r ns →
      ∃ q, (q, t) ∈ program.family ∧ isBindingName q t = true
  | n :: ns, hns, ht => by
    rw [patternTargetsIn] at ht
    rcases List.mem_append.1 ht with ht | ht
    · split_ifs at ht with hrole
      · exact exists_family_of_mem_patternTargets (child_mem_family hp (hns List.mem_cons_self))
          (hbinding n (beq_iff_eq.1 hrole)) ht
      · cases ht
    · exact exists_family_of_mem_patternTargetsIn hp hbinding
        (fun c hc => hns (List.mem_cons_of_mem _ hc)) ht

end

/-- Below a node that writes to something, or declares something, all identifiers are bindings. -/
theorem isBindingName_of_mem_targets {n t : Node} (ht : t ∈ n.targets) (c : Node) :
    isBindingName (some n) c = true := by
  cases hkind : n.kind <;> simp_all [targets, isBindingName]

/-- The children of a node that declares a name are places that bind. -/
theorem isBindingName_of_mem_declares {n : Node} (hname : name ∈ n.declares) (c : Node) :
    isBindingName (some n) c = true := by
  cases hkind : n.kind <;> simp_all [declares, isBindingName]

theorem mem_usedNames_of_mem_targets {n t : Node} (hn : n ∈ program.walk) (ht : t ∈ n.targets)
    (hname : t.name? = some name) : name ∈ program.usedNames := by
  have hbinding := isBindingName_of_mem_targets ht
  have hchild {role : Role} (ht : t ∈ ((n.child? role).map patternTargets).getD []) :
      name ∈ program.usedNames := by
    cases hm : n.child? role with
    | none => simp [hm] at ht
    | some m =>
      obtain ⟨q, hq, ht⟩ := exists_family_of_mem_patternTargets
        (child_mem_family hn (List.mem_of_find?_eq_some hm)) (hbinding m) (by simpa [hm] using ht)
      exact mem_usedNames hq ht hname
  unfold targets at ht
  split at ht
  · exact hchild ht
  · exact hchild ht
  · exact hchild ht
  · exact hchild ht
  · cases ht

/-- A node declares names that the program uses. -/
theorem declares_subset {n : Node} (hn : n ∈ program.walk) : n.declares ⊆ program.usedNames := by
  intro name hname
  have hbinding := isBindingName_of_mem_declares hname
  have hown : n.ownNames ⊆ program.usedNames := ownNames_subset hn hbinding
  have hparams : (n.childrenIn .param).flatMap patternNames ⊆ program.usedNames :=
    flatMap_patternNames_subset hn hbinding
  have hlocal (h : name ∈ ((n.child? .localName).bind name?).toList) : name ∈ program.usedNames := by
    obtain ⟨m, hm, hname⟩ := Option.bind_eq_some_iff.1 (Option.mem_toList.1 h)
    exact mem_usedNames (child_mem_family hn (List.mem_of_find?_eq_some hm)) (hbinding m) hname
  unfold declares at hname
  split at hname
  · exact flatMap_patternNames_subset hn hbinding hname
  · exact (List.mem_append.1 hname).elim (fun h => hown h) fun h => hparams h
  · exact (List.mem_append.1 hname).elim (fun h => hown h) fun h => hparams h
  · exact hparams hname
  · exact hparams hname
  · exact hown hname
  · exact hown hname
  · exact hlocal hname
  · exact hlocal hname
  · exact hlocal hname
  · cases hname

/-- Whatever a program mentions is in use. -/
theorem Mentions.mem_usedNames (h : Mentions program name) : name ∈ program.usedNames := by
  cases h with
  | reads hn hreference hname =>
    exact Node.mem_usedNames hn (isBindingName_of_isReference hreference) hname
  | writes hn ht hname => exact mem_usedNames_of_mem_targets hn ht hname
  | declares hn hname => exact declares_subset hn hname

end Script.Node

namespace Pass

open Node

/-! ## New names -/

/-- The name that is read where a name is written in a declaration: a line end behind it is none of
it. -/
def spelled (name : String) : String := String.ofList (Identifier.dropLineEnd name.toList)

/-- What names spell is all different, and new to a program that mentions none of the names, if and
only if no name with a line end behind it spells what is mentioned or what another one spells. -/
theorem spelled_fresh_iff {names : List String} {mentioned : String → Prop} (hnodup : names.Nodup)
    (hnew : ∀ name ∈ names, ¬mentioned name) :
    ((names.map spelled).Nodup ∧ ∀ name ∈ names, ¬mentioned (spelled name)) ↔
      ∀ name ∈ names, spelled name ≠ name → ¬mentioned (spelled name) ∧
        ∀ other ∈ names, spelled other = spelled name → other = name := by
  rw [List.nodup_map_iff_inj_on hnodup]
  constructor
  · rintro ⟨hinjective, hspelled⟩ name hname -
    exact ⟨hspelled name hname, fun other hother => hinjective other hother name hname⟩
  · intro h
    refine ⟨fun name hname other hother heq => ?_, fun name hname => ?_⟩
    · by_cases hline : spelled name = name
      · by_cases hline' : spelled other = other
        · rw [← hline, heq, hline']
        · exact (h other hother hline').2 name hname heq
      · exact ((h name hname hline).2 other hother heq.symm).symm
    · by_cases hline : spelled name = name
      · rw [hline]
        exact hnew name hname
      · exact (h name hname hline).1

/-- Every local name of an export is declared by the program, or it is new: then the program mentions
it nowhere, and no other export has it. The bindings that are read there are as new and as different,
unless one of the names ends in a line end and spells, without it, what is mentioned or another one. -/
theorem exportProgram_fresh (c : Context) (source : String) (program : Node) :
    ∃ plan : Plan c source program,
      let exports := plan.changes.flatMap Change.lowerings
      (∀ l ∈ exports, l.newName? = some l.localName ∨
        l.localName ∈ scopeNames (statements program)) ∧
      (newNames exports).Nodup ∧ (∀ name ∈ newNames exports, ¬Mentions program name) ∧
      (((newNames exports).map spelled).Nodup ∧
          (∀ name ∈ newNames exports, ¬Mentions program (spelled name)) ↔
        ∀ name ∈ newNames exports, spelled name ≠ name → ¬Mentions program (spelled name) ∧
          ∀ other ∈ newNames exports, spelled other = spelled name → other = name) := by
  obtain ⟨plan⟩ := exists_plan c source program
  have hnodup := plan.registers.nodup
  have hnew : ∀ name ∈ newNames (plan.changes.flatMap Change.lowerings), ¬Mentions program name :=
    fun name hname hmentions => plan.registers.free name hname hmentions.mem_usedNames
  refine ⟨plan, fun l hl => ?_, hnodup, hnew, spelled_fresh_iff hnodup hnew⟩
  cases hname : l.newName? with
  | none => exact Or.inr (newName?_eq_none plan hl hname)
  | some name => exact Or.inl (congrArg some (localName_of_newName? hname).symm)

/-- The exports of a source bind a name twice that it does not mention. -/
def BindsTwice (source name : String) : Prop :=
  ∃ before after, Turns [.exportNamespaces] source before after ∧ ¬Mentions before name ∧
    ((statements after).flatMap statementNames).count name = 2

/-- The test of a run shows that two declarations have one name. -/
theorem bindsTwice {source name : String} (h : (parse source).toOption.any (fun before =>
    (parse ((Pipeline.run [.exportNamespaces] loweringContext source).text source)).toOption.any
      fun after => (Pipeline.run [.exportNamespaces] loweringContext source).failure.isNone &&
        decide (name ∉ before.usedNames ∧
          ((statements after).flatMap statementNames).count name = 2)) = true) :
    BindsTwice source name := by
  obtain ⟨before, after, hturns, h⟩ := exists_turns h
  obtain ⟨hunused, hcount⟩ := of_decide_eq_true h
  exact ⟨before, after, hturns, fun hmentions => hunused hmentions.mem_usedNames, hcount⟩

/-- A method of the source has the name in brackets as its key, so it reads the name, and the exports
bind it. -/
def BindsKey (source name : String) : Prop :=
  ∃ before after, Turns [.exportNamespaces] source before after ∧
    (∃ x ∈ before.family, x.1.map kind = some (.methodDefinition .method false false) ∧
      x.2.role = .key ∧ slice source (x.2.start - 1) (x.2.stop + 1) = "[" ++ name ++ "]") ∧
    name ∉ (statements before).flatMap statementNames ∧
    name ∈ (statements after).flatMap statementNames

/-- The test of a run shows that a key of a method became a name. -/
theorem bindsKey {source name : String} (h : (parse source).toOption.any (fun before =>
    (parse ((Pipeline.run [.exportNamespaces] loweringContext source).text source)).toOption.any
      fun after => (Pipeline.run [.exportNamespaces] loweringContext source).failure.isNone &&
        decide ((∃ x ∈ before.family, x.1.map kind = some (.methodDefinition .method false false) ∧
            x.2.role = .key ∧ slice source (x.2.start - 1) (x.2.stop + 1) = "[" ++ name ++ "]") ∧
          name ∉ (statements before).flatMap statementNames ∧
          name ∈ (statements after).flatMap statementNames)) = true) :
    BindsKey source name := by
  obtain ⟨before, after, hturns, h⟩ := exists_turns h
  exact ⟨before, after, hturns, of_decide_eq_true h⟩

/-- Two members with keys that differ by a line end are bound under one name, and a class that reads a
name for the key of an asynchronous method has it bound by an export. -/
theorem exists_not_fresh :
    BindsTwice "P.A = \x7bx: 1, 'x\\n': 2\x7d;" "x" ∧
      BindsKey "class C \x7basync [x]() \x7b\x7d\x7d P.x = 1;" "x" := by
  refine ⟨bindsTwice ?_, bindsKey ?_⟩ <;> decide +kernel

end Pass

end HtmlModules
