import HtmlModules.Proofs.Capture
import HtmlModules.Proofs.Combine

/-!
# Names in a function that is lifted

A function that is a member of a namespace becomes a declaration with the same parameters and the
same body (`Pass.Declares`). What a tree binds does not depend on its ranges
(`Script.Node.namesFor_congr`), so at every place of the declaration the parameters and the locals
are bound as they were in the function (`Pass.Declares.correspond`). But the declaration has a new
name, and the name of a function expression is dropped: a function that names itself has this name
as a free name (`Pass.lifted_binds`, `Pass.exists_freesName`).
-/

namespace HtmlModules

open Text Script

namespace Script.Node

/-! ## Trees up to their ranges -/

/-- The ranges of a row are forgotten node by node. -/
theorem unplacedAll_eq_map (ns : List Node) : unplacedAll ns = ns.map unplaced := by
  induction ns with
  | nil => rfl
  | cons n ns ih => rw [unplacedAll, ih, List.map_cons]

@[simp] theorem role_unplaced (n : Node) : n.unplaced.role = n.role := by
  cases n
  rfl

@[simp] theorem kind_unplaced (n : Node) : n.unplaced.kind = n.kind := by
  cases n
  rfl

@[simp] theorem children_unplaced (n : Node) : n.unplaced.children = n.children.map unplaced := by
  cases n
  exact unplacedAll_eq_map _

@[simp] theorem name?_unplaced (n : Node) : n.unplaced.name? = n.name? := by
  rw [name?, name?, kind_unplaced]

@[simp] theorem childrenIn_unplaced (n : Node) (r : Role) :
    n.unplaced.childrenIn r = (n.childrenIn r).map unplaced := by
  rw [childrenIn, childrenIn, children_unplaced, List.filter_map]
  simp only [Function.comp_def, role_unplaced]

@[simp] theorem child?_unplaced (n : Node) (r : Role) :
    n.unplaced.child? r = (n.child? r).map unplaced := by
  rw [child?, child?, children_unplaced, List.find?_map]
  simp only [Function.comp_def, role_unplaced]

mutual

/-- The names of a pattern do not depend on where it stands. -/
@[simp] theorem patternNames_unplaced : ∀ n : Node, patternNames n.unplaced = patternNames n
  | mk r k s cs => by
    rw [unplaced]
    cases k <;> simp only [patternNames, patternNamesIn_unplacedAll _ cs]

theorem patternNamesIn_unplacedAll (r : Role) :
    ∀ ns : List Node, patternNamesIn r (unplacedAll ns) = patternNamesIn r ns
  | [] => rfl
  | n :: ns => by
    rw [unplacedAll, patternNamesIn, patternNamesIn, role_unplaced, patternNames_unplaced n,
      patternNamesIn_unplacedAll r ns]

end

theorem flatMap_patternNames_unplaced (ns : List Node) :
    (ns.map unplaced).flatMap patternNames = ns.flatMap patternNames := by
  simp [List.flatMap_map]

/-- The names a node has inside itself do not depend on where it stands. -/
@[simp] theorem ownNames_unplaced (n : Node) : n.unplaced.ownNames = n.ownNames := by
  simp [ownNames, Option.bind_map]

@[simp] theorem isVar_unplaced (n : Node) : n.unplaced.isVar = n.isVar := by
  simp [isVar]

/-- The names that a statement binds do not depend on where it stands. -/
@[simp] theorem boundNames_unplaced (n : Node) : n.unplaced.boundNames = n.boundNames := by
  unfold boundNames
  rw [kind_unplaced]
  split
  · rw [childrenIn_unplaced, List.filter_map, List.flatMap_map]
    simp [Function.comp_def, flatMap_patternNames_unplaced]
  all_goals simp

/-- The names that a block declares do not depend on where it stands. -/
@[simp] theorem blockNames_unplaced (ss : List Node) :
    blockNames (ss.map unplaced) = blockNames ss := by
  simp [blockNames, List.flatMap_map]

mutual

/-- The outline of a tree without ranges is the outline without ranges. -/
theorem map_outline_unplaced {enter : Node → Bool} (henter : ∀ n, enter n.unplaced = enter n) :
    ∀ (n : Node) (parent parent' : Option Node),
      (n.unplaced.outline enter parent).map Prod.snd =
        ((n.outline enter parent').map Prod.snd).map unplaced
  | mk r k s cs, parent, parent' => by
    have h := henter (mk r k s cs)
    rw [unplaced] at h ⊢
    rw [outline, outline, h]
    split_ifs
    · simp only [List.map_cons, unplaced,
        map_outlineAll_unplaced henter cs _ (some (mk r k s cs))]
    · rfl

theorem map_outlineAll_unplaced {enter : Node → Bool} (henter : ∀ n, enter n.unplaced = enter n) :
    ∀ (ns : List Node) (parent parent' : Option Node),
      (outlineAll enter parent (unplacedAll ns)).map Prod.snd =
        ((outlineAll enter parent' ns).map Prod.snd).map unplaced
  | [], _, _ => rfl
  | n :: ns, parent, parent' => by
    rw [unplacedAll, outlineAll, outlineAll, List.map_append, List.map_append, List.map_append,
      map_outline_unplaced henter n parent parent',
      map_outlineAll_unplaced henter ns parent parent']

end

@[simp] theorem varNames_unplaced (ss : List Node) :
    varNames (ss.map unplaced) = varNames ss := by
  have hvars (ss : List Node) : varNames ss = ((outlineAll
      (fun m => !(m.kind.isFunction || m.kind.isClass)) none ss).map Prod.snd).flatMap fun m =>
        if m.isVar then m.boundNames else [] := by
    rw [List.flatMap_map]
    rfl
  rw [hvars, hvars, ← unplacedAll_eq_map, map_outlineAll_unplaced (by simp) ss none none,
    List.flatMap_map]
  simp only [isVar_unplaced, boundNames_unplaced]

/-- The statements of functions with the same bodies are the same. -/
theorem ownStatements_congr {f d : Node}
    (hbody : (d.child? .body).map unplaced = (f.child? .body).map unplaced) :
    d.ownStatements.map unplaced = f.ownStatements.map unplaced := by
  have hstatements (n : Node) : n.ownStatements.map unplaced =
      (((n.child? .body).map unplaced).filter (·.kind == .blockStatement)).elim []
        (·.childrenIn .body) := by
    unfold ownStatements
    cases n.child? .body with
    | none => rfl
    | some body =>
      simp only [Option.map_some, Option.filter, kind_unplaced]
      split_ifs <;> simp
  rw [hstatements, hstatements, hbody]

/-- The name of a function expression, which is bound in the function only. -/
def selfNames (f : Node) : List String :=
  if f.kind matches .functionExpression _ then f.ownNames else []

/-- Functions with the same parameters and the same body bind the same names, apart from those of
function expressions. -/
theorem functionNames_congr {f d : Node}
    (hparams : (d.childrenIn .param).map unplaced = (f.childrenIn .param).map unplaced)
    (hbody : (d.child? .body).map unplaced = (f.child? .body).map unplaced) (r : Role) :
    ∃ names, d.functionNames r = d.selfNames ++ names ∧
      f.functionNames r = f.selfNames ++ names := by
  have hpatterns : (d.childrenIn .param).flatMap patternNames =
      (f.childrenIn .param).flatMap patternNames := by
    rw [← flatMap_patternNames_unplaced, hparams, flatMap_patternNames_unplaced]
  have hstatements := ownStatements_congr hbody
  have hblock : blockNames d.ownStatements = blockNames f.ownStatements := by
    rw [← blockNames_unplaced, hstatements, blockNames_unplaced]
  have hvar : varNames d.ownStatements = varNames f.ownStatements := by
    rw [← varNames_unplaced, hstatements, varNames_unplaced]
  refine ⟨(f.childrenIn .param).flatMap patternNames ++
    if r = .body then blockNames f.ownStatements ++ varNames f.ownStatements else [], ?_, ?_⟩
  · rw [functionNames, hpatterns, hblock, hvar, List.append_assoc]
    rfl
  · rw [functionNames, List.append_assoc]
    rfl

/-- Nodes that are the same up to their ranges bind the same names. -/
theorem namesFor_congr {n m : Node} (h : n.unplaced = m.unplaced) (r : Role) :
    n.namesFor r = m.namesFor r := by
  have hkind : n.kind = m.kind := by rw [← kind_unplaced, h, kind_unplaced]
  have hown : n.ownNames = m.ownNames := by rw [← ownNames_unplaced, h, ownNames_unplaced]
  have hchildren (r : Role) : (n.childrenIn r).map unplaced = (m.childrenIn r).map unplaced := by
    rw [← childrenIn_unplaced, h, childrenIn_unplaced]
  have hchild (r : Role) : (n.child? r).map unplaced = (m.child? r).map unplaced := by
    rw [← child?_unplaced, h, child?_unplaced]
  have hfunction : n.functionNames r = m.functionNames r := by
    obtain ⟨names, hn, hm⟩ := functionNames_congr (hchildren .param) (hchild .body) r
    rw [hn, hm, selfNames, selfNames, hkind, hown]
  have hblock {ss ss' : List Node} (hss : ss.map unplaced = ss'.map unplaced) :
      blockNames ss = blockNames ss' := by
    rw [← blockNames_unplaced, hss, blockNames_unplaced]
  have hclauses (n : Node) :
      ((n.childrenIn .clause).flatMap (·.childrenIn .consequent)).map unplaced =
        ((n.childrenIn .clause).map unplaced).flatMap (·.childrenIn .consequent) := by
    simp [List.map_flatMap, List.flatMap_map]
  unfold namesFor
  rw [hkind]
  split
  · exact hfunction
  · exact hfunction
  · exact hfunction
  · exact hown
  · rw [← flatMap_patternNames_unplaced, hchildren, flatMap_patternNames_unplaced]
  · exact hblock (hchildren .body)
  · have hconsequents : ((n.childrenIn .clause).flatMap (·.childrenIn .consequent)).map unplaced =
        ((m.childrenIn .clause).flatMap (·.childrenIn .consequent)).map unplaced := by
      rw [hclauses, hclauses, hchildren]
    rw [hblock hconsequents]
  all_goals first
    | rfl
    | exact hblock (by rw [List.map_append, List.map_append, hchildren, hchildren])

/-! ## Places in functions -/

/-- The places in the parameters and in the body of a function. -/
def innerOccurrences (f : Node) : List Occurrence :=
  occurrencesIn (fun _ => true) [] f (f.childrenIn .param ++ (f.child? .body).toList)

/-- The node at the place is a name that stands for a binding. -/
def Occurrence.Uses (o : Occurrence) (name : String) : Prop :=
  o.node.name? = some name ∧ isBindingName o.parent o.node = true

/-- The name is used in the function and bound outside of it. -/
def FreeIn (f : Node) (name : String) : Prop :=
  ∃ o ∈ f.innerOccurrences, o.Uses name ∧ name ∉ o.names

/-- The function expression names itself: its name is used where no other scope in it binds it. -/
def NamesItself (f : Node) (name : String) : Prop :=
  name ∈ f.selfNames ∧ ∃ o ∈ f.innerOccurrences, o.Uses name ∧
    ∃ names, o.names = f.selfNames ++ names ∧ name ∉ names

instance (o : Occurrence) (name : String) : Decidable (o.Uses name) :=
  inferInstanceAs (Decidable (_ ∧ _))

instance (f : Node) (name : String) : Decidable (FreeIn f name) :=
  inferInstanceAs (Decidable (∃ o ∈ f.innerOccurrences, o.Uses name ∧ name ∉ o.names))

/-- The same place in two trees, with the names `own` bound around the first one only. -/
structure Corresponds (own : List String) (o o' : Occurrence) : Prop where
  node : o.node.unplaced = o'.node.unplaced
  isBindingName : isBindingName o.parent o.node = isBindingName o'.parent o'.node
  names : o.names = own ++ o'.names

theorem Corresponds.uses_iff {own : List String} {o o' : Occurrence} (h : Corresponds own o o')
    {name : String} : o.Uses name ↔ o'.Uses name := by
  rw [Occurrence.Uses, Occurrence.Uses, h.isBindingName, ← name?_unplaced, h.node, name?_unplaced]

/-- Whether a name is bound at a place depends on the kind of its parent and on its role. -/
theorem isBindingName_congr {p q n m : Node} (hkind : p.kind = q.kind) (hrole : n.role = m.role) :
    isBindingName (some p) n = isBindingName (some q) m := by
  obtain ⟨_, k, _, _⟩ := p
  obtain ⟨_, k', _, _⟩ := q
  obtain ⟨r, _, _, _⟩ := n
  obtain ⟨r', _, _, _⟩ := m
  obtain rfl : k = k' := hkind
  obtain rfl : r = r' := hrole
  rfl

/-- The children of a function are at places that bind. -/
theorem isBindingName_of_isPlainFunction {f : Node} (hf : f.kind.isPlainFunction = true)
    (n : Node) : isBindingName (some f) n = true := by
  unfold Kind.isPlainFunction at hf
  split at hf
  · next hkind => simp [isBindingName, hkind]
  · next hkind => simp [isBindingName, hkind]
  · cases hf

mutual

/-- The places in trees that are the same up to their ranges correspond. -/
theorem occurrences_correspond {own : List String} :
    ∀ {n m : Node} {names names' : List String} {parent parent' : Option Node},
      n.unplaced = m.unplaced → isBindingName parent n = isBindingName parent' m →
      names = own ++ names' →
      List.Forall₂ (Corresponds own) (n.occurrences (fun _ => true) names parent)
        (m.occurrences (fun _ => true) names' parent')
  | mk r k s cs, mk r' k' s' cs', names, names', parent, parent', h, hbinding, hnames => by
    have hsame := h
    rw [unplaced, unplaced, mk.injEq] at hsame
    obtain ⟨-, hkind, -, hchildren⟩ := hsame
    rw [occurrences, occurrences, if_pos rfl, if_pos rfl]
    refine .cons ⟨h, hbinding, hnames⟩ (occurrencesIn_correspond hchildren
      (fun n m hrole => isBindingName_congr hkind hrole) fun role => ?_)
    rw [hnames, namesFor_congr h, List.append_assoc]

/-- Rows that are equal up to ranges have corresponding occurrences if the names around them
correspond. -/
theorem occurrencesIn_correspond {own : List String} {names names' : List String} {p q : Node} :
    ∀ {ns ms : List Node}, unplacedAll ns = unplacedAll ms →
      (∀ n m : Node, n.role = m.role → isBindingName (some p) n = isBindingName (some q) m) →
      (∀ r, names ++ p.namesFor r = own ++ (names' ++ q.namesFor r)) →
      List.Forall₂ (Corresponds own) (occurrencesIn (fun _ => true) names p ns)
        (occurrencesIn (fun _ => true) names' q ms)
  | [], [], _, _, _ => .nil
  | n :: ns, m :: ms, h, hbinding, hnames => by
    rw [unplacedAll, unplacedAll] at h
    obtain ⟨hhead, htail⟩ := List.cons.inj h
    have hrole : n.role = m.role := by rw [← role_unplaced, hhead, role_unplaced]
    rw [occurrencesIn, occurrencesIn]
    exact List.rel_append
      (occurrences_correspond hhead (hbinding n m hrole) (hrole ▸ hnames m.role))
      (occurrencesIn_correspond htail hbinding hnames)

end

end Script.Node

namespace Pass

open Node

/-- The declaration has the name, and up to ranges the marks, the parameters and the body of the
function. -/
structure Declares (name : String) (f d : Node) : Prop where
  kind : d.kind = .functionDeclaration (functionMarks f)
  name : d.ownNames = [name]
  params : (d.childrenIn .param).map unplaced = (f.childrenIn .param).map unplaced
  body : (d.child? .body).map unplaced = (f.child? .body).map unplaced

instance (name : String) (f d : Node) : Decidable (Declares name f d) :=
  decidable_of_iff (d.kind = .functionDeclaration (functionMarks f) ∧ d.ownNames = [name] ∧
      (d.childrenIn .param).map unplaced = (f.childrenIn .param).map unplaced ∧
      (d.child? .body).map unplaced = (f.child? .body).map unplaced)
    ⟨fun ⟨hkind, hname, hparams, hbody⟩ => ⟨hkind, hname, hparams, hbody⟩,
      fun h => ⟨h.kind, h.name, h.params, h.body⟩⟩

variable {f d : Node} {name : String}

/-- A declaration binds at every place what the function binds there, apart from the name of a
function expression. -/
theorem Declares.correspond (h : Declares name f d) (hf : f.kind.isPlainFunction = true) :
    List.Forall₂ (Corresponds f.selfNames) f.innerOccurrences d.innerOccurrences := by
  have hd : d.kind.isPlainFunction = true := by
    rw [h.kind]
    rfl
  have hnames {n : Node} (hn : n.kind.isPlainFunction = true) (r : Role) :
      n.namesFor r = n.functionNames r := by
    unfold Kind.isPlainFunction at hn
    unfold namesFor
    split at hn
    · next hkind => rw [hkind]
    · next hkind => rw [hkind]
    · cases hn
  refine occurrencesIn_correspond ?_ (fun n m _ => ?_) fun r => ?_
  · rw [unplacedAll_eq_map, unplacedAll_eq_map, List.map_append, List.map_append, h.params,
      ← Option.toList_map, ← Option.toList_map, h.body]
  · rw [isBindingName_of_isPlainFunction hf, isBindingName_of_isPlainFunction hd]
  · obtain ⟨names, hd', hf'⟩ := functionNames_congr h.params h.body r
    have hself : d.selfNames = [] := by
      rw [selfNames, h.kind]
      rfl
    rw [hnames hf, hnames hd, hf', hd', hself]
    rfl

/-- The free names of the declaration are those of the function, and the name by which a function
expression names itself. -/
theorem freeIn_iff
    (h : List.Forall₂ (Corresponds f.selfNames) f.innerOccurrences d.innerOccurrences)
    (x : String) : FreeIn d x ↔ FreeIn f x ∨ NamesItself f x := by
  constructor
  · rintro ⟨o', ho', huses, hx⟩
    obtain ⟨o, ho, hsame⟩ := exists_of_forall₂_left h.flip ho'
    by_cases hself : x ∈ f.selfNames
    · exact Or.inr ⟨hself, o, ho, hsame.uses_iff.2 huses, o'.names, hsame.names, hx⟩
    · refine Or.inl ⟨o, ho, hsame.uses_iff.2 huses, ?_⟩
      rw [hsame.names]
      exact fun hmem => (List.mem_append.1 hmem).elim hself hx
  · rintro (⟨o, ho, huses, hx⟩ | ⟨-, o, ho, huses, names, hnames, hx⟩)
    · obtain ⟨o', ho', hsame⟩ := exists_of_forall₂_left h ho
      exact ⟨o', ho', hsame.uses_iff.1 huses, fun hmem =>
        hx (hsame.names ▸ List.mem_append_right _ hmem)⟩
    · obtain ⟨o', ho', hsame⟩ := exists_of_forall₂_left h ho
      refine ⟨o', ho', hsame.uses_iff.1 huses, ?_⟩
      rwa [← List.append_cancel_left (hnames.symm.trans hsame.names)]

/-! ## Functions in namespaces -/

/-- The value of a member is the value of a property. -/
theorem exists_property_of_mem {source : String} {m : Member} :
    ∀ {properties : List Node} {position : Nat} {members : List Member},
      members? source position properties = some members → m ∈ members →
      ∃ p ∈ properties, p.child? .value = some m.value
  | [], _, members, h, hm => by
    obtain rfl : [] = members := Option.some.inj h
    cases hm
  | p :: rest, position, members, h, hm => by
    simp only [members?, Option.bind_eq_bind, Option.bind_eq_some_iff, Option.pure_def,
      Option.some.injEq] at h
    obtain ⟨key, -, value, hvalue, others, hothers, rfl⟩ := h
    rcases List.mem_cons.1 hm with rfl | hm
    · exact ⟨p, List.mem_cons_self, hvalue⟩
    · obtain ⟨q, hq, hvalue⟩ := exists_property_of_mem hothers hm
      exact ⟨q, List.mem_cons_of_mem p hq, hvalue⟩

/-- The value of a candidate is a node of the program. -/
theorem value_mem_walk {roots : List String} {program s : Node} {candidate : Candidate}
    (hs : s ∈ statements program) (hcandidate : candidate? roots s = some candidate) :
    candidate.value ∈ program.walk := by
  obtain ⟨own, left, hown, hsides, -, -⟩ := candidate?_eq_some hcandidate
  have hwalk := assignmentIn?_mem_walk
    (mem_walk_of_mem_children (self_mem_walk program) (List.mem_of_mem_filter hs)) hown
  unfold plainAssignment? at hsides
  split at hsides
  · simp only [Option.bind_eq_bind, Option.bind_eq_some_iff] at hsides
    obtain ⟨_, -, value, hvalue, heq⟩ := hsides
    obtain rfl := (Prod.mk.inj (Option.some.inj heq)).2
    exact mem_walk_of_child? hwalk hvalue
  · cases hsides

/-- A function that is lifted is a function of the program. -/
theorem lifted_mem_walk {i : ExportInput} {used : List String} {program s f : Node}
    {ls : List Lowering} {l : Lowering} (hs : s ∈ statements program)
    (hconverts : Converts i used s (.lowered ls)) (hl : l ∈ ls) (hf : l.binding = .lifted f) :
    f ∈ program.walk ∧ f.kind.isPlainFunction = true := by
  cases hconverts with
  | lowered _ hcandidate hlowers =>
    cases hlowers with
    | value hvalue =>
      obtain rfl := List.mem_singleton.1 hl
      cases hvalue <;> cases hf
    | takenApart _ hmembers hls =>
      obtain ⟨m, hm, hlowers⟩ := exists_of_forall₂_left hls.flip hl
      cases hlowers with
      | lifted hfunction =>
        obtain rfl : m.value = f := Binding.lifted.inj hf
        obtain ⟨p, hp, hvalue⟩ := exists_property_of_mem hmembers hm
        have hp := mem_walk_of_mem_children (value_mem_walk hs hcandidate)
          (List.mem_of_mem_filter hp)
        exact ⟨mem_walk_of_child? hp hvalue, hfunction⟩
      | fresh => cases hf

/-- The name of a function expression is a name of the program. -/
theorem selfNames_subset {program : Node} (hf : f ∈ program.walk)
    (hfunction : f.kind.isPlainFunction = true) : f.selfNames ⊆ program.usedNames := by
  rw [selfNames]
  split_ifs
  · exact ownNames_subset hf fun n => isBindingName_of_isPlainFunction hfunction n
  · exact List.nil_subset _

/-- A function that was a member of a namespace is declared under a new name. In the declaration,
every parameter and every local is bound where it was bound in the function. The name of a function
expression is not bound there: if the function names itself, this name is free. No other name gets
free. -/
theorem lifted_binds (c : Context) (source : String) (program : Node) :
    ∃ plan : Plan c source program,
      ∀ s ls, (s, Change.lowered ls) ∈ (statements program).zip plan.changes →
        ∀ l ∈ ls, ∀ f, l.binding = .lifted f →
          l.declaration? source = some (functionText source l.localName f) ∧
          l.localName ∉ f.selfNames ∧
          ∀ d, Declares l.localName f d →
            List.Forall₂ (Corresponds f.selfNames) f.innerOccurrences d.innerOccurrences ∧
            ∀ x, FreeIn d x ↔ FreeIn f x ∨ NamesItself f x := by
  obtain ⟨plan⟩ := exists_plan c source program
  refine ⟨plan, fun s ls hmem l hl f hf => ?_⟩
  obtain ⟨hwalk, hfunction⟩ := lifted_mem_walk (List.of_mem_zip hmem).1
    (List.forall₂_iff_zip.1 plan.converts |>.2 hmem) hl hf
  have hnew : l.localName ∈ newNames (plan.changes.flatMap Change.lowerings) := by
    refine List.mem_filterMap.2 ⟨l, List.mem_flatMap.2 ⟨_, (List.of_mem_zip hmem).2, hl⟩, ?_⟩
    rw [Lowering.newName?, hf]
  refine ⟨by rw [Lowering.declaration?, hf], fun hself => ?_, fun d hd => ?_⟩
  · exact plan.registers.free _ hnew (selfNames_subset hwalk hfunction hself)
  · exact ⟨hd.correspond hfunction, freeIn_iff (hd.correspond hfunction)⟩

/-- An asynchronous method and a generator, with parameters of some forms. -/
def functionForms : String :=
  "P.A = \x7b async f(x, ...y) \x7b\x7d, g: function*([z] = []) \x7b\x7d \x7d;"

-- What is read from the text are declarations with the marks, parameters and bodies.
example : (parse functionForms).toOption.any (fun before =>
    ((applyEdits functionForms (exportProgram loweringContext functionForms before).1).toOption.bind
      fun text => (parse text).toOption).any fun after =>
        decide (∀ f ∈ before.walk, f.kind.isPlainFunction = true →
          ∃ d ∈ after.walk, ∃ name ∈ d.ownNames, Declares name f d)) = true := by
  decide +kernel

/-- The stages declare a function of the source, and a name that is not free in the function is free
in the declaration. The program that they give does not declare the name elsewhere. -/
def FreesName (source name : String) : Prop :=
  ∃ before after, Turns exportStages source before after ∧ name ∉ scopeNames (statements after) ∧
    ∃ localName ∈ exportedAs source, ∃ f ∈ before.walk, ∃ d ∈ after.walk,
      Declares localName f d ∧ ¬FreeIn f name ∧ FreeIn d name

/-- The test of a run shows that a name of a function is free behind it. -/
theorem freesName {source name : String} (h : (parse source).toOption.any (fun before =>
    (parse ((exportStages.run loweringContext source).text source)).toOption.any fun after =>
      (exportStages.run loweringContext source).failure.isNone &&
        decide (name ∉ scopeNames (statements after) ∧
          ∃ localName ∈ exportedAs source, ∃ f ∈ before.walk, ∃ d ∈ after.walk,
            Declares localName f d ∧ ¬FreeIn f name ∧ FreeIn d name)) = true) :
    FreesName source name := by
  obtain ⟨before, after, hturns, h⟩ := exists_turns h
  exact ⟨before, after, hturns, of_decide_eq_true h⟩

/-- A function calls itself by its name, which is another one than that of the member, or the same.
-/
theorem exists_freesName :
    FreesName "P.A = \x7b f: function g(x) \x7b return g(x); \x7d \x7d;" "g" ∧
      FreesName "P.A = \x7b f: async function f(x) \x7b return f(x); \x7d \x7d;" "f" := by
  refine ⟨freesName ?_, freesName ?_⟩ <;> decide +kernel

end Pass

end HtmlModules
