import HtmlModules.Pass.Pipeline
import HtmlModules.Proofs.Lowering
import HtmlModules.Proofs.Resolution

/-!
# Exports that are written to

A member of a namespace can be written to in many places, and the new variable for it has to allow for
that. It is a constant if and only if no assignment and no update but the one that makes it writes to
the member (`Pass.exportProgram_boundFor`). Patterns and the heads of loops are not counted, and a
binding that the program declares itself keeps its keyword (`Pass.exists_constant_overwritten`).
-/

namespace HtmlModules

open Text Script

namespace Script.Node

/-! ## Writes -/

mutual

/-- What is written to by writing to a pattern; anything else is written to itself. -/
def patternTargets : Node → List Node
  | mk r k s cs =>
    match k with
    | .objectPattern => patternTargetsIn .property cs
    | .property .. => patternTargetsIn .value cs
    | .arrayPattern => patternTargetsIn .element cs
    | .assignmentPattern => patternTargetsIn .left cs
    | .restElement => patternTargetsIn .argument cs
    | .variableDeclaration _ => []
    | _ => [mk r k s cs]

/-- What is written to by the children in a role. -/
def patternTargetsIn (r : Role) : List Node → List Node
  | [] => []
  | n :: ns => (if n.role == r then patternTargets n else []) ++ patternTargetsIn r ns

end

/-- What a node writes to: an assignment, an update, or the head of a loop. -/
def targets (n : Node) : List Node :=
  match n.kind with
  | .assignmentExpression _ | .forInStatement | .forOfStatement =>
    ((n.child? .left).map patternTargets).getD []
  | .updateExpression _ => ((n.child? .argument).map patternTargets).getD []
  | _ => []

/-- The node assigns to a path or updates it, without a pattern around it. -/
def isDirect (n : Node) : Bool := (n.writeTarget?.bind path?).isSome

theorem patternTargets_of_path? {n : Node} (h : n.path?.isSome = true) :
    patternTargets n = [n] := by
  obtain ⟨r, k, s, cs⟩ := n
  cases k with
  | identifier | memberExpression => simp [patternTargets]
  | _ =>
    rw [path?, memberPath?_of_kind (by simp [kind])] at h
    cases h

/-- An assignment or an update of a path writes to nothing else. -/
theorem targets_of_writeTarget? {n t : Node} (h : n.writeTarget? = some t)
    (ht : t.path?.isSome = true) : n.targets = [t] := by
  unfold writeTarget? at h
  unfold targets
  split at h
  · next hkind =>
    simp only [hkind, h, Option.map_some, Option.getD_some, patternTargets_of_path? ht]
  · next hkind =>
    simp only [hkind, h, Option.map_some, Option.getD_some, patternTargets_of_path? ht]
  · cases h

end Script.Node

namespace Pass

open Node

/-- The nodes that write to the path. -/
def writers (program : Node) (path : String) : List Node :=
  program.walk.filter fun n => n.targets.any fun t => t.path?.map (join ".") == some path

/-- The nodes in the body of a function that share its `this`. -/
def sharingThis (function : Node) : List Node :=
  match function.child? .body with
  | none => []
  | some body => (body.outline Node.sharesThis none).map Prod.snd

/-- The nodes in the functions among the members that write to a member through `this`. -/
def siblingWriters (members : List Member) (key : String) : List Node :=
  members.flatMap fun m =>
    if m.value.kind.isPlainFunction then
      (sharingThis m.value).filter fun n => n.targets.any fun t => t.memberPath? == some ["this", key]
    else []

/-- The nodes that write to an export apart from the assignment that makes it: to its path, and, if it
is taken out of an object, through `this` in the functions that are taken out with it. -/
inductive OtherWriters (c : Context) (source : String) (program s : Node) :
    Lowering → List Node → Prop
  | value {l : Lowering} {candidate : Candidate} {own : Node}
    {declares? : Option (VariableKind × String)} :
    candidate? c.settings.roots s = some candidate → assignmentIn? s = some (own, declares?) →
    l.path = join "." candidate.path →
    OtherWriters c source program s l ((writers program l.path).erase own)
  | member {l : Lowering} {candidate : Candidate} {members : List Member} {m : Member} :
    candidate? c.settings.roots s = some candidate →
    members? source (candidate.value.start + 1) (candidate.value.childrenIn .property) =
      some members → m ∈ members → l.path = join "." candidate.path ++ "." ++ m.key →
    OtherWriters c source program s l (writers program l.path ++ siblingWriters members m.key)

/-! ## Counting -/

/-- An assignment or an update of the path. -/
theorem isDirect_of_mem_writers {program n : Node} {path : String} (h : n ∈ writers program path) :
    n.isDirect = true ↔ (n.writeTarget?.bind (·.path?)).map (join ".") = some path := by
  obtain ⟨-, h⟩ := List.mem_filter.1 h
  rw [isDirect]
  cases ht : n.writeTarget? with
  | none => simp
  | some t =>
    cases hpath : t.path? with
    | none => simp [hpath]
    | some segments =>
      rw [targets_of_writeTarget? ht (by rw [hpath]; rfl)] at h
      simpa [hpath] using h

/-- A node that assigns to the path or updates it writes to the path. -/
theorem mem_writers {program n : Node} {path : String} (hn : n ∈ program.walk)
    (h : (n.writeTarget?.bind (·.path?)).map (join ".") = some path) : n ∈ writers program path := by
  obtain ⟨segments, hsegments, hpath⟩ := Option.map_eq_some_iff.1 h
  obtain ⟨t, ht, hsegments⟩ := Option.bind_eq_some_iff.1 hsegments
  refine List.mem_filter.2 ⟨hn, ?_⟩
  rw [targets_of_writeTarget? ht (by rw [hsegments]; rfl)]
  simp [hsegments, hpath]

/-- The direct writes to a path are counted. -/
theorem count_writtenPaths (program : Node) (path : String) :
    (writtenPaths program).count path = (writers program path).countP Node.isDirect := by
  rw [writtenPaths, List.count_filterMap, writers, List.countP_filter]
  refine List.countP_congr fun n hn => ?_
  rw [beq_iff_eq, Bool.and_eq_true]
  constructor
  · intro h
    have hmem := mem_writers hn h
    exact ⟨(isDirect_of_mem_writers hmem).2 h, (List.mem_filter.1 hmem).2⟩
  · rintro ⟨hdirect, hwrites⟩
    exact (isDirect_of_mem_writers (List.mem_filter.2 ⟨hn, hwrites⟩)).1 hdirect

/-- The expression that is assigned in a statement, by itself or to a variable, is part of it. -/
theorem assignmentIn?_mem_walk {program s own : Node} {declares? : Option (VariableKind × String)}
    (hs : s ∈ program.walk) (hown : assignmentIn? s = some (own, declares?)) :
    own ∈ program.walk := by
  unfold assignmentIn? at hown
  split at hown
  · next e he =>
    obtain ⟨rfl, -⟩ := Prod.mk.inj (Option.some.inj hown)
    unfold statementExpression? at he
    split_ifs at he
    exact mem_walk_of_child? hs he
  · obtain ⟨⟨kind, name, value⟩, hvariable, heq⟩ := Option.map_eq_some_iff.1 hown
    obtain ⟨rfl, -⟩ := Prod.mk.inj heq
    obtain ⟨-, d, -, hdeclarations, -, -, hvalue⟩ := singleVariable?_eq_some hvariable
    have hd : d ∈ s.childrenIn .declaration := by simp [hdeclarations]
    exact mem_walk_of_child? (mem_walk_of_mem_children hs (List.mem_of_mem_filter hd)) hvalue

/-- The assignment of a candidate is a direct write to its path. -/
theorem own_mem_writers {roots : List String} {program s : Node} {candidate : Candidate}
    (hs : s ∈ statements program) (hcandidate : candidate? roots s = some candidate) :
    ∃ own declares?, assignmentIn? s = some (own, declares?) ∧
      own ∈ writers program (join "." candidate.path) ∧ own.isDirect = true := by
  obtain ⟨own, left, hown, hsides, hpath, -⟩ := candidate?_eq_some hcandidate
  have htarget : own.writeTarget? = some left := by
    unfold plainAssignment? at hsides
    unfold writeTarget?
    split at hsides
    · next hkind =>
      simp only [Option.bind_eq_bind, Option.bind_eq_some_iff] at hsides
      obtain ⟨_, hleft, _, -, heq⟩ := hsides
      rw [hkind]
      rw [hleft, (Prod.mk.inj (Option.some.inj heq)).1]
    · cases hsides
  have hwrites : (own.writeTarget?.bind (·.path?)).map (join ".") =
      some (join "." candidate.path) := by
    simp [htarget, hpath]
  have hwalk := assignmentIn?_mem_walk
    (mem_walk_of_mem_children (self_mem_walk program) (List.mem_of_mem_filter hs)) hown
  have hmem := mem_writers hwalk hwrites
  exact ⟨own, _, hown, hmem, (isDirect_of_mem_writers hmem).2 hwrites⟩

/-! ## Writes through `this` -/

/-- A node writes directly to a member of `this` if one of its targets is that member. -/
theorem receiverWrite?_eq_some_iff {n : Node} {key : String} :
    receiverWrite? n = some key ↔
      (n.targets.any fun t => t.memberPath? == some ["this", key]) = true ∧ n.isDirect = true := by
  have hpath {t : Node} (h : t.memberPath? = some ["this", key]) : t.path?.isSome = true := by
    rw [(path?_of_memberPath? h).1]
    rfl
  constructor
  · intro h
    simp only [receiverWrite?, Option.bind_eq_bind, Option.bind_eq_some_iff] at h
    obtain ⟨t, ht, hkey⟩ := h
    split at hkey
    · next hmember =>
      obtain rfl := Option.some.inj hkey
      rw [targets_of_writeTarget? ht (hpath hmember), isDirect, ht]
      simp [hmember, hpath hmember]
    · cases hkey
  · rintro ⟨hany, hdirect⟩
    obtain ⟨t, ht, hpath⟩ : ∃ t, n.writeTarget? = some t ∧ t.path?.isSome = true := by
      unfold isDirect at hdirect
      cases ht : n.writeTarget? with
      | none => simp [ht] at hdirect
      | some t => exact ⟨t, rfl, by simpa [ht] using hdirect⟩
    rw [targets_of_writeTarget? ht hpath] at hany
    have hmember : t.memberPath? = some ["this", key] := by simpa using hany
    simp [receiverWrite?, ht, hmember]

/-- The members that a function writes through its receiver are those that one of its nodes
writes. -/
theorem mem_receiverWrites {function : Node} {key : String} :
    key ∈ receiverWrites function ↔ ∃ n ∈ sharingThis function, receiverWrite? n = some key := by
  unfold receiverWrites sharingThis
  cases function.child? .body with
  | none => simp
  | some body =>
    simp only [List.mem_filterMap, List.mem_map, Prod.exists, exists_eq_right]
    exact ⟨fun ⟨parent, n, hn, hwrites⟩ => ⟨n, ⟨parent, hn⟩, hwrites⟩,
      fun ⟨n, ⟨parent, hn⟩, hwrites⟩ => ⟨parent, n, hn, hwrites⟩⟩

/-- The members that count as written to by their siblings are those that are written to directly. -/
theorem mem_writtenBySiblings {members : List Member} {key : String} :
    key ∈ writtenBySiblings members ↔ ∃ n ∈ siblingWriters members key, n.isDirect = true := by
  unfold writtenBySiblings siblingWriters
  constructor
  · intro h
    obtain ⟨m, hm, hkey⟩ := List.mem_flatMap.1 h
    split_ifs at hkey with hfunction
    · obtain ⟨n, hn, hwrites⟩ := mem_receiverWrites.1 hkey
      obtain ⟨hany, hdirect⟩ := receiverWrite?_eq_some_iff.1 hwrites
      refine ⟨n, List.mem_flatMap.2 ⟨m, hm, ?_⟩, hdirect⟩
      rw [if_pos hfunction]
      exact List.mem_filter.2 ⟨hn, hany⟩
    · cases hkey
  · rintro ⟨n, hn, hdirect⟩
    obtain ⟨m, hm, hn⟩ := List.mem_flatMap.1 hn
    split_ifs at hn with hfunction
    · obtain ⟨hn, hany⟩ := List.mem_filter.1 hn
      refine List.mem_flatMap.2 ⟨m, hm, ?_⟩
      rw [if_pos hfunction]
      exact mem_receiverWrites.2 ⟨n, hn, receiverWrite?_eq_some_iff.2 ⟨hany, hdirect⟩⟩
    · cases hn

/-! ## Keywords -/

/-- The keyword of a variable with these writes to it besides the one that makes it. -/
def keywordFor (others : List Node) : String :=
  if ∃ n ∈ others, n.isDirect = true then "let" else "const"

/-- How an export is bound if these nodes write to it otherwise: what the program declares keeps its
keyword, and a new variable has the keyword for them. -/
inductive BoundFor (c : Context) (program s : Node) (others : List Node) : Lowering → Prop
  | declared {path name localName comment : String} {kind : VariableKind} {value : Node}
    {candidate : Candidate} :
    candidate? c.settings.roots s = some candidate → candidate.declares? = some (kind, localName) →
    BoundFor c program s others ⟨path, name, localName, .declared kind value, comment⟩
  | existing {path name localName comment : String} :
    localName ∈ scopeNames (statements program) →
    BoundFor c program s others ⟨path, name, localName, .existing, comment⟩
  | lifted {path name localName comment : String} {function : Node} :
    BoundFor c program s others ⟨path, name, localName, .lifted function, comment⟩
  | fresh {path name localName comment : String} {value : Node} :
    BoundFor c program s others
      ⟨path, name, localName, .fresh (keywordFor others) value, comment⟩

section Keywords

variable {c : Context} {source : String} {program s : Node} {candidate : Candidate}

/-- A value that is exported is declared constant if no other node writes to its path. -/
theorem LowersValue.boundFor {used : List String} {l : Lowering} (hs : s ∈ statements program)
    (hcandidate : candidate? c.settings.roots s = some candidate)
    (h : LowersValue (exportInput c source program) used candidate l) :
    ∃ others, OtherWriters c source program s l others ∧ BoundFor c program s others l := by
  obtain ⟨own, declares?, hown, hmem, hdirect⟩ := own_mem_writers hs hcandidate
  refine ⟨_, .value hcandidate hown h.carries.1, ?_⟩
  cases h with
  | declared hdeclares => exact .declared hcandidate hdeclares
  | existing _ _ hdeclared => exact .existing hdeclared
  | fresh =>
    have hkeyword : bindingKeyword ((writtenPaths program).count (join "." candidate.path)) 1 =
        keywordFor ((writers program (join "." candidate.path)).erase own) := by
      rw [bindingKeyword, keywordFor, count_writtenPaths]
      refine if_congr ?_ rfl rfl
      rw [← List.countP_pos_iff, List.countP_erase, if_pos ⟨hmem, hdirect⟩]
      omega
    exact hkeyword ▸ .fresh

/-- A member of a namespace is declared constant if no other node writes to its path, and no sibling
through `this`. -/
theorem LowersMember.boundFor {used : List String} {members : List Member} {m : Member} {l : Lowering}
    (hcandidate : candidate? c.settings.roots s = some candidate)
    (hmembers : members? source (candidate.value.start + 1)
      (candidate.value.childrenIn .property) = some members) (hm : m ∈ members)
    (h : LowersMember (exportInput c source program) used (join "." candidate.path)
      (writtenBySiblings members) m l) :
    ∃ others, OtherWriters c source program s l others ∧ BoundFor c program s others l := by
  refine ⟨_, .member hcandidate hmembers hm h.carries.1, ?_⟩
  cases h with
  | lifted => exact .lifted
  | fresh =>
    set path := join "." candidate.path ++ "." ++ m.key
    have hkeyword : (if (writtenBySiblings members).contains m.key then "let"
        else bindingKeyword ((writtenPaths program).count path) 0) =
        keywordFor (writers program path ++ siblingWriters members m.key) := by
      have hsplit : (∃ n ∈ writers program path ++ siblingWriters members m.key, n.isDirect = true) ↔
          m.key ∈ writtenBySiblings members ∨ 0 < (writtenPaths program).count path := by
        rw [mem_writtenBySiblings, count_writtenPaths, List.countP_pos_iff]
        simp only [List.mem_append, or_and_right, exists_or]
        exact or_comm
      rw [keywordFor, bindingKeyword]
      simp only [hsplit, List.contains_iff_mem]
      split_ifs <;> simp_all
    exact hkeyword ▸ .fresh

end Keywords

/-! ## Programs -/

/-- For every export there are the nodes that write to it otherwise, and it is bound for them: a new
variable is a constant if and only if none of them is an assignment or an update, and what the program
declares keeps its keyword. -/
theorem exportProgram_boundFor (c : Context) (source : String) (program : Node) :
    ∃ plan : Plan c source program,
      ∀ s ls, (s, Change.lowered ls) ∈ (statements program).zip plan.changes → ∀ l ∈ ls,
        ∃ others, OtherWriters c source program s l others ∧ BoundFor c program s others l := by
  obtain ⟨plan⟩ := exists_plan c source program
  refine ⟨plan, fun s ls hmem l hl => ?_⟩
  have hs := (List.of_mem_zip hmem).1
  cases List.forall₂_iff_zip.1 plan.converts |>.2 hmem with
  | @lowered candidate _ _ hcandidate hlowers =>
    cases hlowers with
    | value hvalue =>
      obtain rfl := List.mem_singleton.1 hl
      exact hvalue.boundFor hs hcandidate
    | takenApart _ hmembers hls =>
      obtain ⟨m, hm, hlowers⟩ := exists_of_forall₂_left hls.flip hl
      exact hlowers.boundFor hcandidate hmembers hm

/-- The names of the constants that the statements of a program declare. -/
def constantNames (program : Node) : List String :=
  (statements program).flatMap fun s =>
    let declaration := match s.kind with
      | .exportNamedDeclaration => (s.child? .declaration).getD s
      | _ => s
    if declaration.kind == .variableDeclaration .const then declaration.declaratorNames else []

/-- The program writes to the name. -/
def overwrites (program : Node) (name : String) : Bool :=
  program.walk.any fun n => n.targets.any fun t => t.name? == some name

/-- The stages that export the members of namespaces and put the local names in their places. -/
def exportStages : Pipeline := [.exportNamespaces, .namespaceThis, .substitutePaths]

/-- Stages turn a source that is one program into a text that is another. -/
structure Turns (stages : Pipeline) (source : String) (before after : Node) : Prop where
  before : parse source = .ok before
  finished : (stages.run loweringContext source).failure = none
  after : parse ((stages.run loweringContext source).text source) = .ok after

/-- A test that holds of a source and of what the stages make of it gives the two programs. -/
theorem exists_turns {stages : Pipeline} {source : String} {p : Node → Node → Bool}
    (h : (parse source).toOption.any (fun before =>
      (parse ((stages.run loweringContext source).text source)).toOption.any fun after =>
        (stages.run loweringContext source).failure.isNone && p before after) = true) :
    ∃ before after, Turns stages source before after ∧ p before after = true := by
  obtain ⟨before, hbefore, h⟩ := exists_parse h
  obtain ⟨after, hafter, h⟩ := exists_parse h
  obtain ⟨hfinished, hp⟩ := Bool.and_eq_true_iff.1 h
  exact ⟨before, after, ⟨hbefore, Option.isNone_iff_eq_none.1 hfinished, hafter⟩, hp⟩

/-- The local names of the exports of a source. -/
def exportedAs (source : String) : List String :=
  Table.values (exportStages.run loweringContext source).findings.localNames

/-- The stages turn the source into a program that writes to a constant, which is the local name of an
export and was not written to before. -/
def OverwritesConstant (source name : String) : Prop :=
  ∃ before after, Turns exportStages source before after ∧ name ∈ exportedAs source ∧
    name ∈ constantNames after ∧ overwrites before name = false ∧ overwrites after name = true

/-- The test of two programs shows that a constant is overwritten. -/
theorem overwritesConstant {source name : String} (h : (parse source).toOption.any (fun before =>
    (parse ((exportStages.run loweringContext source).text source)).toOption.any fun after =>
      (exportStages.run loweringContext source).failure.isNone &&
        decide (name ∈ exportedAs source ∧ name ∈ constantNames after ∧
          overwrites before name = false ∧ overwrites after name = true)) = true) :
    OverwritesConstant source name := by
  obtain ⟨before, after, hturns, h⟩ := exists_turns h
  exact ⟨before, after, hturns, of_decide_eq_true h⟩

/-- A write to a member that stands in a pattern or in the head of a loop, that is made through `this`
in a function that another statement exports, or that meets a binding of the program, ends as a write to
a constant. -/
theorem exists_constant_overwritten :
    OverwritesConstant "P.x = 1; [P.x] = [2];" "x" ∧
      OverwritesConstant "P.x = 1; for (P.x of []);" "x" ∧
      OverwritesConstant "P.A = \x7bf() \x7b this.x = 2; \x7d\x7d; P.A.x = 1;" "x" ∧
      OverwritesConstant "const x = P.x = 1; P.x = 2;" "x" ∧
      OverwritesConstant "const x = 1; P.x = x; P.x = 2;" "x" := by
  refine ⟨overwritesConstant ?_, overwritesConstant ?_, overwritesConstant ?_,
    overwritesConstant ?_, overwritesConstant ?_⟩ <;> decide +kernel

end Pass

end HtmlModules
