import HtmlModules.Proofs.Export
import HtmlModules.Proofs.Inert
import HtmlModules.Proofs.Initializer
import HtmlModules.Proofs.InitialValue

/-!
# What statements are lowered to

A statement that sets a member of a namespace is lowered to the exports of one value, or of all the
members of an object that is taken apart (`Pass.Lowers`). Each export is bound in one of four ways
(`Pass.Binding`), and a binding that the program does not declare itself has a new name
(`Pass.Registers`). A program is lowered statement by statement (`Pass.exists_plan`). An export carries
the text of its value, and is read with this value if the text is one expression
(`Pass.exportProgram_carries`).
-/

namespace HtmlModules.Pass

open Text Script

/-! ## Exports in the text -/

/-- How an export is bound. -/
inductive Binding where
  /-- By the variable that its statement declares with the same value. -/
  | declared (kind : VariableKind) (value : Node)
  /-- By a binding that the program declares elsewhere. -/
  | existing
  /-- By a new variable. -/
  | fresh (keyword : String) (value : Node)
  /-- By a function that was a member of a namespace. -/
  | lifted (function : Node)

/-- An export in the text that replaces a statement. -/
structure Lowering where
  path : String
  name : String
  localName : String
  binding : Binding
  /-- What stood in front of a member. -/
  comment : String := ""

namespace Lowering

/-- The declaration that binds the local name, if the program does not have it already. -/
def declaration? (source : String) (l : Lowering) : Option String :=
  match l.binding with
  | .declared kind value => some s!"{kind.keyword} {l.localName} = {value.text source};"
  | .existing => none
  | .fresh keyword value => some s!"{keyword} {l.localName} = {value.text source};"
  | .lifted function => some (functionText source l.localName function)

/-- The declaration and the clause that exports it, or the clause alone. -/
def exported (source : String) (l : Lowering) : String :=
  match l.declaration? source with
  | some declaration => exportDeclaration declaration l.localName l.name
  | none => exportClause l.localName l.name

/-- The export behind its comment. -/
def text (source : String) (l : Lowering) : String :=
  if l.comment = "" then l.exported source else l.comment ++ "\n" ++ l.exported source

/-- The local name, if the program does not declare it itself. -/
def newName? (l : Lowering) : Option String :=
  match l.binding with
  | .fresh _ _ | .lifted _ => some l.localName
  | .declared _ _ | .existing => none

end Lowering

/-- A new name is the local name of what is exported. -/
theorem localName_of_newName? {l : Lowering} {name : String} (h : l.newName? = some name) :
    l.localName = name := by
  unfold Lowering.newName? at h
  split at h
  · exact Option.some.inj h
  · exact Option.some.inj h
  · cases h
  · cases h

/-- The names that exports bind anew. -/
def newNames (ls : List Lowering) : List String := ls.filterMap Lowering.newName?

/-- The new names of two lists are those of one and then of the other. -/
@[simp] theorem newNames_append (ls ms : List Lowering) :
    newNames (ls ++ ms) = newNames ls ++ newNames ms :=
  List.filterMap_append

/-! ## Statements that are lowered -/

/-- The members that functions among them write to through `this`. -/
def writtenBySiblings (members : List Member) : List String :=
  members.flatMap fun m => if m.value.kind.isPlainFunction then receiverWrites m.value else []

/-- What the value of a candidate is exported as; the names `used` are taken. -/
inductive LowersValue (i : ExportInput) (used : List String) (c : Candidate) : Lowering → Prop
  | declared {name localName : String} {kind : VariableKind} :
    c.declares? = some (kind, localName) →
    LowersValue i used c ⟨join "." c.path, name, localName, .declared kind c.value, ""⟩
  | existing {name localName : String} :
    c.declares? = none → c.value.name? = some localName → localName ∈ i.declared →
    LowersValue i used c ⟨join "." c.path, name, localName, .existing, ""⟩
  | fresh {name localName : String} :
    c.declares? = none → (∀ other ∈ c.value.name?, other ∉ i.declared) → localName ∉ used →
    LowersValue i used c ⟨join "." c.path, name, localName,
      .fresh (bindingKeyword (i.writes.count (join "." c.path)) 1) c.value, ""⟩

/-- What a member of a namespace is exported as; `written` are the members that are written to through
`this`. -/
inductive LowersMember (i : ExportInput) (used : List String) (space : String)
    (written : List String) (m : Member) : Lowering → Prop
  | lifted {name localName : String} :
    m.value.kind.isPlainFunction = true → localName ∉ used →
    LowersMember i used space written m
      ⟨space ++ "." ++ m.key, name, localName, .lifted m.value, m.comment⟩
  | fresh {name localName : String} :
    m.value.kind.isPlainFunction = false → localName ∉ used →
    LowersMember i used space written m ⟨space ++ "." ++ m.key, name, localName,
      .fresh (if written.contains m.key then "let"
        else bindingKeyword (i.writes.count (space ++ "." ++ m.key)) 0) m.value, m.comment⟩

/-- What a candidate is exported as. -/
inductive Lowers (i : ExportInput) (used : List String) (c : Candidate) : List Lowering → Prop
  | value {l : Lowering} : LowersValue i used c l → Lowers i used c [l]
  | takenApart {members : List Member} {ls : List Lowering} :
    c.value.kind = .objectExpression →
    members? i.source (c.value.start + 1) (c.value.childrenIn .property) = some members →
    List.Forall₂ (LowersMember i used (join "." c.path) (writtenBySiblings members)) members ls →
    Lowers i used c ls

section Mono

variable {i : ExportInput} {used more : List String} {c : Candidate}

/-- A name that is fresh among more names is fresh among fewer. -/
theorem LowersValue.mono (hsubset : used ⊆ more) {l : Lowering} (h : LowersValue i more c l) :
    LowersValue i used c l := by
  cases h with
  | declared hdeclares => exact .declared hdeclares
  | existing hdeclares hname hdeclared => exact .existing hdeclares hname hdeclared
  | fresh hdeclares hname hfree => exact .fresh hdeclares hname fun hmem => hfree (hsubset hmem)

theorem LowersMember.mono (hsubset : used ⊆ more) {space : String} {written : List String}
    {m : Member} {l : Lowering} (h : LowersMember i more space written m l) :
    LowersMember i used space written m l := by
  cases h with
  | lifted hfunction hfree => exact .lifted hfunction fun hmem => hfree (hsubset hmem)
  | fresh hfunction hfree => exact .fresh hfunction fun hmem => hfree (hsubset hmem)

theorem Lowers.mono (hsubset : used ⊆ more) {ls : List Lowering} (h : Lowers i more c ls) :
    Lowers i used c ls := by
  cases h with
  | value h => exact .value (h.mono hsubset)
  | takenApart hkind hmembers h =>
    exact .takenApart hkind hmembers (h.imp fun _ _ h => h.mono hsubset)

end Mono

/-! ## What an export takes into use -/

/-- The exports take new names into use and enter their local names. -/
structure Registers (e e' : Exports) (ls : List Lowering) : Prop where
  used : e'.used = e.used ++ newNames ls
  free : ∀ name ∈ newNames ls, name ∉ e.used
  nodup : (newNames ls).Nodup
  localNames : e'.localNames = Table.setAll e.localNames (ls.map fun l => (l.path, l.localName))

theorem Registers.nil (e : Exports) : Registers e e [] :=
  ⟨by simp [newNames], by simp [newNames], .nil, rfl⟩

/-- What is registered in two steps is registered together. -/
theorem Registers.append {e e' e'' : Exports} {ls ms : List Lowering} (h : Registers e e' ls)
    (h' : Registers e' e'' ms) : Registers e e'' (ls ++ ms) where
  used := by rw [h'.used, h.used, newNames_append, List.append_assoc]
  free name hname hmem := by
    rw [newNames_append, List.mem_append] at hname
    rcases hname with hname | hname
    · exact h.free name hname hmem
    · exact h'.free name hname (h.used ▸ List.mem_append_left _ hmem)
  nodup := by
    rw [newNames_append]
    refine List.nodup_append.2 ⟨h.nodup, h'.nodup, ?_⟩
    rintro a ha b hb rfl
    exact h'.free a hb (h.used ▸ List.mem_append_right _ ha)
  localNames := by
    rw [h'.localNames, h.localNames, List.map_append, Table.setAll, Table.setAll, Table.setAll,
      List.foldl_append]

theorem Registers.subset {e e' : Exports} {ls : List Lowering} (h : Registers e e' ls) :
    e.used ⊆ e'.used := by
  rw [h.used]
  exact List.subset_append_left _ _

/-- The local name of an export is new. -/
theorem chooseLocal_spec (name : String) (e : Exports) :
    (e.chooseLocal name).1 ∉ e.used ∧
      (e.chooseLocal name).2.used = e.used ++ [(e.chooseLocal name).1] := by
  unfold Exports.chooseLocal
  split_ifs with hused
  · exact ⟨Identifier.findAvailable_not_mem name e.used, Identifier.allocate_snd name e.used⟩
  · exact ⟨fun hmem => hused (List.contains_iff_mem.2 hmem), rfl⟩

@[simp] theorem localNames_chooseLocal (name : String) (e : Exports) :
    (e.chooseLocal name).2.localNames = e.localNames := by
  rw [chooseLocal_snd]

/-! ## Candidates -/

section Candidates

variable {i : ExportInput} {c : Candidate} {e : Exports}

/-- A value is exported as one lowering, which is registered. -/
theorem exportValue_lowers (i : ExportInput) (c : Candidate) (e : Exports) :
    ∃ l, (exportValue i c e).1 = l.text i.source ∧ LowersValue i e.used c l ∧
      Registers e (exportValue i c e).2 [l] := by
  unfold exportValue
  dsimp only
  split
  · next kind localName hdeclares =>
    exact ⟨_, rfl, .declared hdeclares,
      ⟨(List.append_nil _).symm, by simp [newNames, Lowering.newName?], .nil, rfl⟩⟩
  · next localName hdeclares hname =>
    obtain ⟨hname, hdeclared⟩ := Option.filter_eq_some_iff.1 hname
    exact ⟨_, rfl, .existing hdeclares hname (List.contains_iff_mem.1 hdeclared),
      ⟨(List.append_nil _).symm, by simp [newNames, Lowering.newName?], .nil, rfl⟩⟩
  · next hdeclares hname =>
    have hother : ∀ other ∈ c.value.name?, other ∉ i.declared := fun other hother hmem => by
      rw [Option.mem_def.1 hother] at hname
      simp [Option.filter, hmem] at hname
    set name := (e.chooseName i (join "." c.path) (c.path.getLast?.getD "")).1
    set e₁ : Exports := { (e.chooseName i (join "." c.path) (c.path.getLast?.getD "")).2 with
      values := (e.chooseName i (join "." c.path) (c.path.getLast?.getD "")).2.values ++
        [join "." c.path] }
    obtain ⟨hfree, hused⟩ := chooseLocal_spec name e₁
    refine ⟨_, rfl, .fresh hdeclares hother hfree, ⟨hused, ?_, List.nodup_singleton _, ?_⟩⟩
    · intro other hother hmem
      obtain rfl := List.mem_singleton.1 hother
      exact hfree hmem
    · simp [Exports.record, Table.setAll, e₁, Exports.chooseName]

/-- A member is exported as one lowering, which is registered. -/
theorem exportMember_lowers (i : ExportInput) (space : String) (written : List String) (m : Member)
    (e : Exports) :
    ∃ l, (exportMember i space written m e).1 = l.text i.source ∧
      LowersMember i e.used space written m l ∧
      Registers e (exportMember i space written m e).2 [l] := by
  unfold exportMember
  dsimp only
  set name := (e.chooseName i (space ++ "." ++ m.key) m.key).1
  set e₁ := (e.chooseName i (space ++ "." ++ m.key) m.key).2
  obtain ⟨hfree, hused⟩ := chooseLocal_spec name e₁
  have hnew : ∀ other ∈ [(e₁.chooseLocal name).1], other ∉ e.used := fun other hother hmem =>
    hfree (List.mem_singleton.1 hother ▸ hmem)
  cases hfunction : m.value.kind.isPlainFunction with
  | true =>
    refine ⟨⟨_, name, _, .lifted m.value, m.comment⟩, rfl, .lifted hfunction hfree,
      ⟨hused, hnew, List.nodup_singleton _, ?_⟩⟩
    simp [Exports.record, Table.setAll, e₁, Exports.chooseName]
  | false =>
    refine ⟨⟨_, name, _, .fresh _ m.value, m.comment⟩, rfl, .fresh hfunction hfree,
      ⟨hused, hnew, List.nodup_singleton _, ?_⟩⟩
    simp [Exports.record, Table.setAll, e₁, Exports.chooseName]

/-- The members of a namespace are exported as one lowering each, in order. -/
theorem exportMembers_lowers (i : ExportInput) (space : String) (written : List String) :
    ∀ (members : List Member) (e : Exports),
      ∃ ls, (exportMembers i space written members e).1 = ls.map (·.text i.source) ∧
        List.Forall₂ (LowersMember i e.used space written) members ls ∧
        Registers e (exportMembers i space written members e).2 ls
  | [], e => ⟨[], rfl, .nil, .nil e⟩
  | m :: rest, e => by
    obtain ⟨l, htext, hlowers, hfirst⟩ := exportMember_lowers i space written m e
    obtain ⟨ls, htexts, hrest, hall⟩ :=
      exportMembers_lowers i space written rest (exportMember i space written m e).2
    refine ⟨l :: ls, ?_, .cons hlowers (hrest.imp fun _ _ h => h.mono hfirst.subset),
      hfirst.append hall⟩
    rw [exportMembers, List.map_cons, ← htext, ← htexts]

/-- The text that replaces a candidate is that of its exports. -/
theorem exportCandidate?_lowers {leading text : String} {e' : Exports}
    (h : exportCandidate? i c leading e = some (text, e')) :
    ∃ ls, text = join "\n\n" (ls.map (·.text i.source)) ∧ Lowers i e.used c ls ∧
      Registers e e' ls := by
  have hvalue (h : some (exportValue i c e) = some (text, e')) :
      ∃ ls, text = join "\n\n" (ls.map (·.text i.source)) ∧ Lowers i e.used c ls ∧
        Registers e e' ls := by
    obtain ⟨l, htext, hlowers, hregisters⟩ := exportValue_lowers i c e
    rw [Option.some.inj h] at htext hregisters
    exact ⟨[l], htext, .value hlowers, hregisters⟩
  unfold exportCandidate? at h
  dsimp only at h
  split_ifs at h with hstays hspace
  · rw [Bool.and_eq_true, beq_iff_eq, beq_iff_eq] at hspace
    cases hm : members? i.source (c.value.start + 1) (c.value.childrenIn .property) with
    | none =>
      simp only [exportNamespace?, hm, Option.bind_eq_bind, Option.bind_none, Option.getD_none] at h
      exact hvalue h
    | some members =>
      simp only [exportNamespace?, hm, Option.bind_eq_bind, Option.bind_some, Option.pure_def,
        Option.getD_some, Option.some.injEq, Prod.mk.injEq] at h
      obtain ⟨rfl, rfl⟩ := h
      obtain ⟨ls, htexts, hlowers, hregisters⟩ := exportMembers_lowers i (join "." c.path)
        (writtenBySiblings members) members e
      exact ⟨ls, congrArg (join "\n\n") htexts, .takenApart hspace.2 hm hlowers,
        ⟨hregisters.used, hregisters.free, hregisters.nodup, hregisters.localNames⟩⟩
  · exact hvalue h

end Candidates

/-! ## Programs -/

/-- What becomes of a statement. -/
inductive Change where
  | kept
  /-- It only makes sure of a namespace. -/
  | removed
  | lowered (ls : List Lowering)

namespace Change

/-- The exports in place of the statement. -/
def lowerings : Change → List Lowering
  | kept | removed => []
  | lowered ls => ls

/-- How the text of the statement is changed. -/
def edits (source : String) (s : Node) : Change → List Edit
  | kept => []
  | removed => [.delete (lineExtent source s.start s.stop).1 (lineExtent source s.start s.stop).2]
  | lowered ls => [.replace s.start s.stop (join "\n\n" (ls.map (·.text source)))]

end Change

/-- What can become of a statement. -/
inductive Converts (i : ExportInput) (used : List String) (s : Node) : Change → Prop
  | kept : initializedPath? i.settings.roots s = none → Converts i used s .kept
  | removed {path : List String} :
    initializedPath? i.settings.roots s = some path → Converts i used s .removed
  | lowered {c : Candidate} {ls : List Lowering} :
    initializedPath? i.settings.roots s = none → candidate? i.settings.roots s = some c →
    Lowers i used c ls → Converts i used s (.lowered ls)

/-- A change that is right for more used names is right for fewer. -/
theorem Converts.mono {i : ExportInput} {used more : List String} (hsubset : used ⊆ more) {s : Node}
    {change : Change} (h : Converts i more s change) : Converts i used s change := by
  cases h with
  | kept hpath => exact .kept hpath
  | removed hpath => exact .removed hpath
  | lowered hpath hc hlowers => exact .lowered hpath hc (hlowers.mono hsubset)

/-- Every statement has its change, and the edits are those of the changes. The induction is on the
statements, with the names that are used so far. -/
theorem exportStatements_converts (i : ExportInput) :
    ∀ (ss : List Node) (position : Nat) (e : Exports),
      ∃ changes, List.Forall₂ (Converts i e.used) ss changes ∧
        (exportStatements i position ss e).1 =
          (List.zipWith (Change.edits i.source) ss changes).flatten ∧
        Registers e (exportStatements i position ss e).2 (changes.flatMap Change.lowerings)
  | [], _, e => ⟨[], .nil, rfl, .nil e⟩
  | s :: rest, position, e => by
    -- What is done for the first statement, and then for the others from where that leads to.
    have hcons (change : Change) {e' : Exports} (hconverts : Converts i e.used s change)
        (hregisters : Registers e e' change.lowerings)
        (heq : exportStatements i position (s :: rest) e =
          (change.edits i.source s ++ (exportStatements i s.stop rest e').1,
            (exportStatements i s.stop rest e').2)) :
        ∃ changes, List.Forall₂ (Converts i e.used) (s :: rest) changes ∧
          (exportStatements i position (s :: rest) e).1 =
            (List.zipWith (Change.edits i.source) (s :: rest) changes).flatten ∧
          Registers e (exportStatements i position (s :: rest) e).2
            (changes.flatMap Change.lowerings) := by
      obtain ⟨changes, hchanges, hedits, hrest⟩ := exportStatements_converts i rest s.stop e'
      refine ⟨change :: changes,
        .cons hconverts (hchanges.imp fun _ _ h => h.mono hregisters.subset), ?_, ?_⟩
      · rw [heq, hedits]
        rfl
      · rw [heq]
        exact hregisters.append hrest
    cases hpath : initializedPath? i.settings.roots s with
    | some path =>
      refine hcons .removed (.removed hpath) ?_ (by simp only [exportStatements, hpath]; rfl)
      split_ifs
      · exact ⟨(List.append_nil _).symm, by simp [newNames, Change.lowerings], .nil, rfl⟩
      · exact .nil e
    | none =>
      cases hresult : (candidate? i.settings.roots s).bind fun c =>
          exportCandidate? i c (slice i.source position s.start) e with
      | none =>
        exact hcons .kept (.kept hpath) (.nil e) (by simp only [exportStatements, hpath, hresult]; rfl)
      | some result =>
        obtain ⟨c, hc, hexport⟩ := Option.bind_eq_some_iff.1 hresult
        obtain ⟨ls, htext, hlowers, hregisters⟩ := exportCandidate?_lowers hexport
        refine hcons (.lowered ls) (.lowered hpath hc hlowers) hregisters ?_
        simp only [exportStatements, hpath, hresult, htext]
        rfl

/-- What becomes of the statements of a program. -/
structure Plan (c : Context) (source : String) (program : Node) where
  changes : List Change
  converts : List.Forall₂ (Converts (exportInput c source program) program.usedNames)
    (statements program) changes
  edits_eq : (exportProgram c source program).1 =
    (List.zipWith (Change.edits source) (statements program) changes).flatten
  registers : Registers { used := program.usedNames } (exportProgram c source program).2
    (changes.flatMap Change.lowerings)

theorem recordNamespaces_eq (i : ExportInput) (e : Exports) :
    (recordNamespaces i e).used = e.used ∧ (recordNamespaces i e).localNames = e.localNames := by
  unfold recordNamespaces
  generalize e.initialized = spaces
  induction spaces generalizing e with
  | nil => exact ⟨rfl, rfl⟩
  | cons space spaces ih =>
    rw [List.foldl_cons]
    split_ifs
    · exact ih _
    · exact ih e

/-- For every program there is a plan of what becomes of its statements. -/
theorem exists_plan (c : Context) (source : String) (program : Node) :
    Nonempty (Plan c source program) := by
  obtain ⟨changes, hconverts, hedits, hregisters⟩ := exportStatements_converts
    (exportInput c source program) (statements program) 0 { used := program.usedNames }
  obtain ⟨hused, hnames⟩ := recordNamespaces_eq (exportInput c source program)
    (exportStatements (exportInput c source program) 0 (statements program)
      { used := program.usedNames }).2
  refine ⟨⟨changes, hconverts, hedits, ?_⟩⟩
  rw [exportProgram_snd]
  exact ⟨hused.trans hregisters.used, hregisters.free, hregisters.nodup,
    hnames.trans hregisters.localNames⟩

/-! ## What the exports carry -/

/-- The export carries the value: a variable is declared with the text of its range, or it is the name
that is exported, or it is a function that is declared with the texts of its parameters and its body. -/
inductive Carries (source : String) (value : Node) (l : Lowering) : Prop
  | variable {keyword : String} :
    l.declaration? source = some s!"{keyword} {l.localName} = {value.text source};" →
    Carries source value l
  | name : l.declaration? source = none → value.name? = some l.localName → Carries source value l
  | function : value.kind.isPlainFunction = true →
    l.declaration? source = some (functionText source l.localName value) → Carries source value l

/-- The lowering of a value carries the text of the value. -/
theorem LowersValue.carries {i : ExportInput} {used : List String} {c : Candidate} {l : Lowering}
    (h : LowersValue i used c l) :
    l.path = join "." c.path ∧ l.comment = "" ∧ Carries i.source c.value l := by
  cases h with
  | declared => exact ⟨rfl, rfl, .variable rfl⟩
  | existing _ hname => exact ⟨rfl, rfl, .name rfl hname⟩
  | fresh => exact ⟨rfl, rfl, .variable rfl⟩

/-- The lowering of a member carries the text of its value, and its comment. -/
theorem LowersMember.carries {i : ExportInput} {used : List String} {space : String}
    {written : List String} {m : Member} {l : Lowering} (h : LowersMember i used space written m l) :
    l.path = space ++ "." ++ m.key ∧ l.comment = m.comment ∧ Carries i.source m.value l := by
  cases h with
  | lifted hfunction => exact ⟨rfl, rfl, .function hfunction rfl⟩
  | fresh => exact ⟨rfl, rfl, .variable rfl⟩

/-- The text is a comma with white space in front of it. Behind it stands a comment, with white space
around it, or nothing else. -/
def IsComma (text : String) (comment : List Char) : Prop :=
  ∃ blank front back : List Char, text.toList = blank ++ ',' :: (front ++ comment ++ back) ∧
    (∀ ch ∈ blank ++ front ++ back, isBlank ch = true) ∧
    ∀ ch, comment.head? = some ch ∨ comment.getLast? = some ch → isBlank ch = false ∧ ch ≠ ','

/-- The export carries a property of a namespace, with what stands between it and `position`. If nothing
but white space stands in front of the comma, this is what stands behind it. -/
structure CarriesProperty (source space : String) (position : Nat) (property : Node) (l : Lowering) :
    Prop where
  path : ∃ key, memberKey? property = some key ∧ l.path = space ++ "." ++ key
  comment : l.comment = commentBetween source position property.start
  behindComma : ∀ comment, IsComma (slice source position property.start) comment →
    l.comment = String.ofList comment
  value : ∃ value, property.child? .value = some value ∧ Carries source value l

/-- Without the white space at its ends, such a text is the comma and what stands behind it up to the end
of the comment. -/
theorem IsComma.exists_toList_trim {text : String} {comment : List Char} (h : IsComma text comment) :
    ∃ front : List Char, (∀ ch ∈ front, isBlank ch = true) ∧
      (trim text).toList = ',' :: (front ++ comment) := by
  obtain ⟨blank, front, back, h, hblank, hends⟩ := h
  obtain ⟨hleft, hback⟩ := List.forall_mem_append.1 hblank
  obtain ⟨hblank, hfront⟩ := List.forall_mem_append.1 hleft
  have hcomma : isBlank ',' = false := by decide
  rw [trim, trimBoth, String.toList_ofList, h]
  by_cases hempty : comment = []
  · subst hempty
    refine ⟨[], by simp, ?_⟩
    simpa using @dropEndWhile_dropWhile isBlank isBlank blank [','] (front ++ back) hblank
      (List.forall_mem_append.2 ⟨hfront, hback⟩) (by simp [hcomma]) (by simp [hcomma])
  · refine ⟨front, hfront, ?_⟩
    have hlast : ∀ ch ∈ (',' :: front ++ comment).getLast?, isBlank ch = false := by
      rw [List.getLast?_append_of_ne_nil _ hempty]
      exact fun ch hch => (hends ch (.inr hch)).1
    simpa using @dropEndWhile_dropWhile isBlank isBlank blank (',' :: front ++ comment) back hblank
      hback (by simp [hcomma]) hlast

/-- Where nothing but white space stands in front of the comma, what is taken for the comment of a
property is what stands behind the comma. -/
theorem IsComma.commentBetween_eq {source : String} {position start : Nat} {comment : List Char}
    (h : IsComma (slice source position start) comment) :
    commentBetween source position start = String.ofList comment := by
  obtain ⟨front, hfront, htrim⟩ := h.exists_toList_trim
  obtain ⟨-, -, -, -, -, hends⟩ := h
  have hcomma : (front ++ comment).dropWhile (· == ',') = front ++ comment := by
    refine List.dropWhile_eq_self_iff.2 fun hne => ?_
    cases front with
    | nil => simpa using (hends _ (.inl (List.head?_eq_getElem? ▸ List.getElem?_eq_getElem hne))).2
    | cons ch rest =>
      have hch := hfront ch List.mem_cons_self
      simp only [List.cons_append, List.getElem_cons_zero, beq_iff_eq]
      rintro rfl
      exact absurd hch (by decide)
  have hkept : dropEndWhile isBlank ((front ++ (comment ++ [])).dropWhile isBlank) = comment :=
    dropEndWhile_dropWhile hfront (by simp) (fun ch hch => (hends ch (.inl hch)).1)
      fun ch hch => (hends ch (.inr hch)).1
  rw [List.append_nil] at hkept
  rw [commentBetween, trim, trimBoth, trimStart, htrim, List.dropWhile_cons_of_pos (by decide),
    hcomma, String.toList_ofList, hkept]

/-- Every property of an object that is taken apart becomes an export, in order. -/
theorem carriesProperty_of_members? {i : ExportInput} {used : List String} {space : String}
    {written : List String} :
    ∀ {properties : List Node} {position : Nat} {members : List Member} {ls : List Lowering},
      members? i.source position properties = some members →
      List.Forall₂ (LowersMember i used space written) members ls →
      List.Forall₂ (fun p l => CarriesProperty i.source space p.1 p.2 l)
        ((position :: properties.map (·.stop)).zip properties) ls
  | [], position, members, ls, hmembers, hls => by
    obtain rfl : [] = members := Option.some.inj hmembers
    cases hls
    exact .nil
  | p :: rest, position, members, ls, hmembers, hls => by
    simp only [members?, Option.bind_eq_bind, Option.bind_eq_some_iff, Option.pure_def,
      Option.some.injEq] at hmembers
    obtain ⟨key, hkey, value, hvalue, others, hothers, rfl⟩ := hmembers
    obtain ⟨l, ls, hl, hrest, rfl⟩ := List.forall₂_cons_left_iff.1 hls
    obtain ⟨hpath, hcomment, hcarries⟩ := hl.carries
    refine .cons ⟨⟨key, hkey, hpath⟩, hcomment, fun comment hcomma => ?_, value, hvalue, hcarries⟩
      (carriesProperty_of_members? hothers hrest)
    rw [hcomment, hcomma.commentBetween_eq]

/-- The properties of an object, each with the end of what stands in front of it. -/
def placedProperties (object : Node) : List (Nat × Node) :=
  ((object.start + 1) :: (object.childrenIn .property).map (·.stop)).zip
    (object.childrenIn .property)

/-- A variable that is exported under its own name is read as it is meant, if its value is one
expression where the export has it: the export is a program that declares the name with this
expression. -/
def Lowering.IsReadable (source : String) (l : Lowering) : Prop :=
  ∀ (keyword : String) (value v : Node),
    l.declaration? source = some s!"{keyword} {l.localName} = {value.text source};" →
    keyword = "let" ∨ keyword = "const" → l.localName = l.name →
    Identifier.isNameShaped l.name.toList = true → l.name ∉ Identifier.reservedWords →
    expressionAt? (keyword.length + l.name.length + 11) (value.text source) = some v →
    ∃ program, parse (l.exported source) = .ok program ∧ ExportsValue program l.name v

theorem Lowering.isReadable (source : String) (l : Lowering) : l.IsReadable source := by
  intro keyword value v hdeclaration hkeyword hname hshaped hfree hvalue
  rw [exported, hdeclaration]
  dsimp only
  rw [exportDeclaration, if_pos hname, hname]
  exact Grammar.exists_parse_initialized hkeyword hshaped hfree hvalue

/-- Every statement that is converted is replaced by the exports of its value, or of the properties of
an object that is taken apart, in order and each behind its comment. An export carries the text of the
range of its value, or the name that its value is, or a function with the texts of its parameters and of
its body. Where the text of a value is one expression, the export is read with this expression. -/
theorem exportProgram_carries (c : Context) (source : String) (program : Node) :
    ∃ plan : Plan c source program,
      ∀ s ls, (s, Change.lowered ls) ∈ (statements program).zip plan.changes →
        (∀ l ∈ ls, l.IsReadable source) ∧
        ∃ candidate, candidate? c.settings.roots s = some candidate ∧
          ((∃ l, ls = [l] ∧ l.path = join "." candidate.path ∧ l.comment = "" ∧
              Carries source candidate.value l) ∨
            candidate.value.kind = .objectExpression ∧
              List.Forall₂ (fun p l => CarriesProperty source (join "." candidate.path) p.1 p.2 l)
                (placedProperties candidate.value) ls) := by
  obtain ⟨plan⟩ := exists_plan c source program
  refine ⟨plan, fun s ls hmem => ⟨fun l _ => l.isReadable source, ?_⟩⟩
  cases List.forall₂_iff_zip.1 plan.converts |>.2 hmem with
  | @lowered candidate _ _ hcandidate hlowers =>
    refine ⟨candidate, hcandidate, ?_⟩
    cases hlowers with
    | @value l hvalue => exact .inl ⟨l, rfl, hvalue.carries⟩
    | takenApart hkind hmembers hls =>
      exact .inr ⟨hkind, carriesProperty_of_members? hmembers hls⟩

/-- A context with two tracked namespaces. -/
def loweringContext : Context where
  file := { url := "a.html", contents := "" }
  moduleUrl := "./a.js"
  settings := { namespaces := ["P", "P.A"] }

/-- The program of the source is replaced by a text that is no program. -/
def ReplacedByNone (source : String) : Prop :=
  ∃ program text, parse source = .ok program ∧
    (exportProgram loweringContext source program).1 = [.replace 0 source.length text] ∧
    ∀ result, parse text ≠ .ok result

/-- The test of a program shows that its one statement is replaced by a text that is no program. -/
theorem replacedByNone {source : String} (h : (parse source).toOption.any (fun program =>
    match (exportProgram loweringContext source program).1 with
    | [e] => e.start == 0 && e.stop == source.length && !(parse e.text).toBool
    | _ => false) = true) : ReplacedByNone source := by
  obtain ⟨program, hparse, hprogram⟩ := exists_parse h
  split at hprogram
  · next e hedits =>
    simp only [Bool.and_eq_true, beq_iff_eq, Bool.not_eq_true'] at hprogram
    obtain ⟨⟨hstart, hstop⟩, hnone⟩ := hprogram
    refine ⟨program, e.text, hparse, ?_, fun result hresult => ?_⟩
    · rw [hedits, Edit.replace, ← hstop]
      simp [← hstart]
    · rw [hresult] at hnone
      cases hnone
  · cases hprogram

/-- The text that replaces a list of values, or a member with a comment in front of a comma, cannot be
read. -/
theorem exists_export_not_parsed :
    ReplacedByNone "P.a = (1, 2);" ∧
      ReplacedByNone "P.A = \x7ba: 1 /* first */, b: 2\x7d;" := by
  refine ⟨replacedByNone ?_, replacedByNone ?_⟩ <;> decide +kernel

end HtmlModules.Pass
