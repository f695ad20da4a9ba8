import HtmlModules.Proofs.Lifting
import HtmlModules.Proofs.Round

/-!
# Names in wrappers that are opened

When a wrapper is opened, the statements of its body become statements of the program, and what they
declare is declared by the program. Only the name of the wrapped function is gone: a function expression
binds it in itself, and it is not among the names on account of which a wrapper stays. So a name at a
place that stays in a round is bound after the round if it was before, unless it is the own name of the
function (`Pass.survivors_unbind`). This holds for all rounds together, as long as the statements that a
round leaves are the statements of the next program (`Pass.unwrapAll_staysBound`). A function that uses
its own name loses it (`Pass.exists_dangles`).

Names are bound as in strict code, where a function in a block belongs to the block.
-/

namespace HtmlModules

open Text Script

namespace Script.Node

/-! ## Names at the top level -/

/-- The names that an import or an export binds. -/
def linkedNames (s : Node) : List String :=
  match s.kind with
  | .importDeclaration =>
    (s.childrenIn .specifier).flatMap fun c => ((c.child? .localName).bind name?).toList
  | .exportNamedDeclaration | .exportDefaultDeclaration =>
    ((s.child? .declaration).map boundNames).getD []
  | _ => []

/-- The names that a statement binds for all of the program or the function that it is a statement of.
-/
def levelNames (s : Node) : List String :=
  (if s.isVar then [] else s.boundNames) ++ varNames [s] ++ s.linkedNames

/-- The names that a statement declares do not depend on where it stands. -/
@[simp] theorem levelNames_unplaced (s : Node) : s.unplaced.levelNames = s.levelNames := by
  have hlinked : s.unplaced.linkedNames = s.linkedNames := by
    unfold linkedNames
    rw [kind_unplaced]
    split <;> simp [List.flatMap_map, Option.bind_map, Function.comp_def]
  have hvar := varNames_unplaced [s]
  rw [List.map_singleton] at hvar
  rw [levelNames, levelNames, hlinked, hvar, isVar_unplaced, boundNames_unplaced]

/-- Statements that are equal up to their ranges declare equal names. -/
theorem flatMap_levelNames_congr {ss ss' : List Node} (h : ss.map unplaced = ss'.map unplaced) :
    ss.flatMap levelNames = ss'.flatMap levelNames := by
  have hmap (ss : List Node) : ss.flatMap levelNames = (ss.map unplaced).flatMap levelNames := by
    simp [List.flatMap_map]
  rw [hmap, h, ← hmap]

/-- What the statements of a block or of a function bind there. -/
theorem scope_subset_levelNames (ss : List Node) :
    blockNames ss ++ varNames ss ⊆ ss.flatMap levelNames := by
  have hvar : varNames ss = ss.flatMap fun s => varNames [s] := by
    simp only [varNames, outlineAll_eq_flatMap, List.flatMap_assoc, List.flatMap_singleton]
  rw [hvar]
  refine List.append_subset.2 ⟨fun name hname => ?_, fun name hname => ?_⟩
  all_goals
    obtain ⟨s, hs, hname⟩ := List.mem_flatMap.1 hname
    exact List.mem_flatMap.2 ⟨s, hs, by simp [levelNames, hname]⟩

/-- No expression among statements declares a variable, but in the functions and classes in it. -/
def Plain (ss : List Node) : Prop :=
  ∀ s ∈ ss, ∀ n ∈ s.walk, n.kind = .expressionStatement → varNames [n] = []

instance (ss : List Node) : Decidable (Plain ss) := inferInstanceAs (Decidable (∀ s ∈ ss, _))

/-- An expression without hoisted variables declares nothing. -/
theorem levelNames_eq_nil {s : Node} (hkind : s.kind = .expressionStatement)
    (hvar : varNames [s] = []) : s.levelNames = [] := by
  simp [levelNames, boundNames, linkedNames, isVar, hkind, hvar]

theorem walk_unplaced (n : Node) : n.unplaced.walk = n.walk.map unplaced :=
  map_outline_unplaced (fun _ => rfl) n none none

/-- To be plain does not depend on where the statements stand. -/
theorem Plain.congr {ss ss' : List Node} (h : Plain ss) (hsame : ss'.map unplaced = ss.map unplaced) :
    Plain ss' := by
  intro s' hs' n' hn' hkind
  obtain ⟨s, hs, hs'⟩ := List.mem_map.1 (hsame ▸ List.mem_map_of_mem hs')
  have hn : n'.unplaced ∈ s.walk.map unplaced := by
    rw [← walk_unplaced, hs', walk_unplaced]
    exact List.mem_map_of_mem hn'
  obtain ⟨n, hn, hsame⟩ := List.mem_map.1 hn
  have hvar : varNames [n'] = varNames [n] := by
    rw [← varNames_unplaced, List.map_singleton, ← hsame, ← List.map_singleton, varNames_unplaced]
  rw [hvar]
  exact h s hs n hn (by rw [← kind_unplaced, hsame, kind_unplaced, hkind])

/-! ## Places below a node -/

/-- The place, with names around it that are declared further out. -/
def Occurrence.within (names : List String) (o : Occurrence) : Occurrence :=
  { o with names := names ++ o.names }

mutual

/-- Names that are bound around a tree are bound around each of its occurrences. -/
theorem occurrences_append (enter : Node → Bool) :
    ∀ (n : Node) (names names' : List String) (parent : Option Node),
      n.occurrences enter (names ++ names') parent =
        (n.occurrences enter names' parent).map (.within names)
  | mk r k s cs, names, names', parent => by
    rw [occurrences, occurrences, List.map_cons]
    split_ifs
    · rw [occurrencesIn_append enter cs names names' (mk r k s cs)]
      rfl
    · rfl

theorem occurrencesIn_append (enter : Node → Bool) :
    ∀ (ns : List Node) (names names' : List String) (parent : Node),
      occurrencesIn enter (names ++ names') parent ns =
        (occurrencesIn enter names' parent ns).map (.within names)
  | [], _, _, _ => rfl
  | n :: ns, names, names', parent => by
    rw [occurrencesIn, occurrencesIn, List.map_append, List.append_assoc,
      occurrences_append enter n, occurrencesIn_append enter ns names names' parent]

end

/-- The occurrences in a tree for any names around it are those for none, with the names added. -/
theorem occurrences_eq_map (enter : Node → Bool) (n : Node) (names : List String)
    (parent : Option Node) :
    n.occurrences enter names parent = (n.occurrences enter [] parent).map (.within names) := by
  rw [← occurrences_append, List.append_nil]

/-- The occurrences in a row of children are those in each child. -/
theorem occurrencesIn_eq_flatMap (enter : Node → Bool) (names : List String) (p : Node)
    (ns : List Node) : occurrencesIn enter names p ns =
      ns.flatMap fun n => n.occurrences enter (names ++ p.namesFor n.role) (some p) := by
  induction ns with
  | nil => rfl
  | cons n ns ih => rw [occurrencesIn, List.flatMap_cons, ih]

/-- The places in children are places in the node. -/
theorem occurrences_children_sublist {p : Node} {ns : List Node} (h : ns.Sublist p.children)
    (names : List String) (parent : Option Node) :
    (ns.flatMap fun n => n.occurrences (fun _ => true) (names ++ p.namesFor n.role) (some p)).Sublist
      (p.occurrences (fun _ => true) names parent) := by
  obtain ⟨r, k, s, cs⟩ := p
  rw [occurrences, if_pos rfl, occurrencesIn_eq_flatMap]
  exact (h.flatMap _).cons _

/-- The occurrences in a child are among those in its parent. -/
theorem occurrences_child_sublist {p c : Node} (h : c ∈ p.children) (names : List String)
    (parent : Option Node) :
    (c.occurrences (fun _ => true) (names ++ p.namesFor c.role) (some p)).Sublist
      (p.occurrences (fun _ => true) names parent) := by
  simpa using occurrences_children_sublist (List.singleton_sublist.2 h) names parent

end Script.Node

namespace Pass

open Node

variable {source : String} {program next : Node}

/-! ## Wrappers -/

/-- Nodes between a wrapper and its function bind no names. -/
theorem namesFor_of_leadsToFunction {n : Node} (h : leadsToFunction n.kind = true) (r : Role) :
    n.namesFor r = [] := by
  unfold leadsToFunction at h
  unfold namesFor
  split at h <;> simp_all

/-- The places in the function of a wrapper are places in the wrapper, with the same names around
them. -/
theorem Leads.occurrences_sublist {p n : Node} (h : Leads p n) (names : List String)
    (parent : Option Node) : ∃ parent', (n.occurrences (fun _ => true) names parent').Sublist
      (p.occurrences (fun _ => true) names parent) := by
  induction h generalizing parent with
  | refl n => exact ⟨parent, .refl _⟩
  | @step p c n hkind hc _ ih =>
    obtain ⟨parent', hn⟩ := ih (some p)
    have hchild := occurrences_child_sublist hc names parent
    rw [namesFor_of_leadsToFunction hkind, List.append_nil] at hchild
    exact ⟨parent', hn.trans hchild⟩

theorem Leads.mem_walk {p n root : Node} (h : Leads p n) (hp : p ∈ root.walk) : n ∈ root.walk := by
  induction h with
  | refl => exact hp
  | step _ hc _ ih => exact ih (mem_walk_of_mem_children hp hc)

/-- The body of a bare function. -/
theorem exists_block {f : Node} (h : f.isBareFunction = true) :
    ∃ body, f.child? .body = some body ∧ body.kind = .blockStatement ∧
      f.bodyStatements = body.childrenIn .body := by
  obtain ⟨body, hbody⟩ := exists_body h
  simp only [isBareFunction, hbody, Bool.and_eq_true, Option.map_some] at h
  exact ⟨body, hbody, by simpa using h.2, by rw [bodyStatements, hbody]; rfl⟩

/-- A statement in the body of a wrapper is a node below the wrapper. -/
theorem mem_walk_of_mem_bodyStatements {s f n : Node} (h : removableWrapper? s = some f)
    (hn : n ∈ f.bodyStatements) : n ∈ s.walk := by
  obtain ⟨-, hbare, hleads⟩ := leads_of_removableWrapper? h
  obtain ⟨body, hbody, -, hstatements⟩ := exists_block hbare
  have hblock := mem_walk_of_child? (hleads.mem_walk (self_mem_walk s)) hbody
  exact mem_walk_of_mem_children hblock (List.mem_of_mem_filter (hstatements ▸ hn))

/-- The names that are bound for the statements of the body of a function. -/
def bodyNames (f : Node) : List String :=
  f.namesFor .body ++ ((f.child? .body).map (·.namesFor .body)).getD []

/-- A bare function binds its own name, if it is an expression, and what its statements declare. -/
theorem bodyNames_eq {f : Node} (h : f.isBareFunction = true) :
    bodyNames f = f.selfNames ++ (blockNames f.bodyStatements ++ varNames f.bodyStatements) ++
      blockNames f.bodyStatements := by
  obtain ⟨body, hbody, hblock, hstatements⟩ := exists_block h
  have hown : f.ownStatements = f.bodyStatements := by
    rw [ownStatements, hbody, Option.filter_some, hblock, hstatements]
    rfl
  have hfunction : f.namesFor .body = f.functionNames .body := by
    simp only [isBareFunction, Bool.and_eq_true] at h
    have hkind := h.1.1
    unfold Kind.isFunction at hkind
    unfold namesFor
    split at hkind <;> simp_all
  have hparams : f.childrenIn .param = [] := by
    simp only [isBareFunction, Bool.and_eq_true] at h
    exact List.isEmpty_iff.1 h.1.2
  have hnames : body.namesFor .body = blockNames f.bodyStatements := by
    rw [namesFor, hblock, hstatements]
  rw [bodyNames, hfunction, hbody, Option.map_some, Option.getD_some, hnames, functionNames, hown,
    hparams, if_pos rfl, List.flatMap_nil, List.append_nil]
  rfl

/-- A name of the body of a wrapper is the wrapper's own, or a statement of the body declares it. -/
theorem selfNames_or_of_mem_bodyNames {f : Node} (h : f.isBareFunction = true) {name : String}
    (hname : name ∈ bodyNames f) :
    name ∈ f.selfNames ∨ name ∈ f.bodyStatements.flatMap levelNames := by
  have hscope := scope_subset_levelNames f.bodyStatements
  rw [bodyNames_eq h, List.mem_append, List.mem_append] at hname
  rcases hname with (hself | hname) | hname
  · exact .inl hself
  · exact .inr (hscope hname)
  · exact .inr (hscope (List.mem_append_left _ hname))

/-! ## Places that stay -/

/-- The names that a program binds for all of it. -/
def programNames (program : Node) : List String := (statements program).flatMap levelNames

/-- The places in the statements of a program, each with the names that the scopes around it and the
program declare. -/
def programPlaces (program : Node) : List Occurrence :=
  (statements program).flatMap fun s => s.occurrences (fun _ => true) (programNames program) none

namespace Fate

/-- The block that the statements which stand for a statement come from, if they are moved. -/
def block? : Fate → Option Node
  | .opened f => f.child? .body
  | .dropped | .kept => none

/-- The names that the scopes of a wrapper declare for the statements in it. -/
def scope : Fate → List String
  | .opened f => bodyNames f
  | .dropped | .kept => []

/-- The name of the function of a wrapper that is opened, if it is an expression. -/
def selfNames : Fate → List String
  | .opened f => f.selfNames
  | .dropped | .kept => []

end Fate

/-- The statements that are left, each with what is done with the statement that it stands for. -/
def standing (program : Node) : List (Fate × Node) :=
  (fates program).flatMap fun x => (x.2.nodes x.1).map (Prod.mk x.2)

/-- The places in a program that stay in a round, each with what is done with its statement. -/
def survivors (program : Node) : List (Fate × Occurrence) :=
  (standing program).flatMap fun x =>
    (x.2.occurrences (fun _ => true) (programNames program ++ x.1.scope) x.1.block?).map
      (Prod.mk x.1)

/-- The statements that stand, without what happened to them, are those that remain. -/
theorem map_snd_standing (program : Node) : (standing program).map Prod.snd = remaining program := by
  simp [standing, remaining, List.map_flatMap, Function.comp_def]

/-- The places that survive are places of the program, in order. -/
theorem survivors_sublist (program : Node) :
    ((survivors program).map Prod.snd).Sublist (programPlaces program) := by
  have hplaces : programPlaces program = (fates program).flatMap fun x =>
      x.1.occurrences (fun _ => true) (programNames program) none := by
    have hstatements : statements program = (fates program).map Prod.fst :=
      (map_fst_fatesFrom _ _ _).symm
    conv_lhs => rw [programPlaces, hstatements, List.flatMap_map]
  rw [hplaces, survivors, List.map_flatMap, standing, List.flatMap_assoc]
  refine List.Sublist.flatMap_right _ fun x hx => ?_
  obtain ⟨s, fate⟩ := x
  simp only [List.flatMap_map, List.map_map, Function.comp_def, List.map_id']
  cases fate with
  | dropped => exact List.nil_sublist _
  | kept => simp [Fate.nodes, Fate.scope, Fate.block?]
  | opened f =>
    obtain ⟨-, hbare, hleads⟩ := leads_of_removableWrapper? (removableWrapper?_of_mem_fates hx)
    obtain ⟨body, hbody, -, hstatements⟩ := exists_block hbare
    obtain ⟨parent, hfunction⟩ := hleads.occurrences_sublist (programNames program) none
    have hnodes : ((Fate.opened f).nodes s).Sublist (body.childrenIn .body) :=
      hstatements ▸ List.filter_sublist
    have hnames (n : Node) (hn : n ∈ (Fate.opened f).nodes s) :
        programNames program ++ (Fate.opened f).scope =
          programNames program ++ f.namesFor body.role ++ body.namesFor n.role := by
      have hrole : n.role = .body := by simpa using (List.mem_filter.1 (hnodes.subset hn)).2
      have hrole' : body.role = .body := by simpa using List.find?_some hbody
      rw [hrole, hrole', Fate.scope, bodyNames, hbody, List.append_assoc]
      rfl
    rw [Fate.block?, hbody, List.flatMap_congr fun n hn => by rw [hnames n hn]]
    exact (occurrences_children_sublist (hnodes.trans List.filter_sublist) _ (some f)).trans
      ((occurrences_child_sublist (List.mem_of_find?_eq_some hbody) _ parent).trans hfunction)

/-! ## Names that stay bound -/

/-- The same place in two programs. -/
structure SamePlace (o o' : Occurrence) : Prop where
  node : o.node.unplaced = o'.node.unplaced
  isBindingName : isBindingName o.parent o.node = isBindingName o'.parent o'.node

/-- At the place, the names that have been bound before and are not any more are among `own`, and those
of `own` have been bound. -/
structure Unbinds (own : List String) (o o' : Occurrence) : Prop extends SamePlace o o' where
  names : ∀ name ∉ o'.names, (name ∈ o.names ↔ name ∈ own)

theorem isUseStrict_of_dropped {s : Node} (h : (s, Fate.dropped) ∈ fates program) :
    s.isUseStrict = true := by
  obtain ⟨taken, htaken⟩ := exists_of_mem_fatesFrom h
  dsimp only at htaken
  unfold Fate.of at htaken
  split_ifs at htaken with hstrict
  · exact hstrict
  · split at htaken
    · cases htaken
    · split_ifs at htaken

theorem kind_of_isUseStrict {s : Node} (h : s.isUseStrict = true) :
    s.kind = .expressionStatement := by
  simp only [isUseStrict, Bool.and_eq_true, beq_iff_eq] at h
  exact h.1

/-- What the program binds for all of it is bound by the statements that are left. -/
theorem programNames_subset_remaining (hplain : Plain (statements program)) :
    programNames program ⊆ (remaining program).flatMap levelNames := by
  intro name hname
  obtain ⟨s, hs, hname⟩ := List.mem_flatMap.1 hname
  have hnone : s.kind ≠ .expressionStatement := fun hkind => by
    rw [levelNames_eq_nil hkind (hplain s hs s (self_mem_walk s) hkind)] at hname
    cases hname
  obtain ⟨⟨s, fate⟩, hx, rfl⟩ := List.mem_map.1 (map_fst_fatesFrom (statements program) [] [] ▸ hs)
  cases fate with
  | dropped => exact absurd (kind_of_isUseStrict (isUseStrict_of_dropped hx)) hnone
  | opened f =>
    exact absurd (leads_of_removableWrapper? (removableWrapper?_of_mem_fates hx)).1 hnone
  | kept =>
    exact List.mem_flatMap.2 ⟨s, List.mem_flatMap.2 ⟨_, hx, List.mem_singleton_self s⟩, hname⟩

/-- What the body of a wrapper declares is bound by the statements that are left. -/
theorem body_subset_remaining (hplain : Plain (statements program)) {s f : Node}
    (hx : (s, Fate.opened f) ∈ fates program) :
    f.bodyStatements.flatMap levelNames ⊆ (remaining program).flatMap levelNames := by
  intro name hname
  obtain ⟨n, hn, hname⟩ := List.mem_flatMap.1 hname
  have hwalk := mem_walk_of_mem_bodyStatements (removableWrapper?_of_mem_fates hx) hn
  have hstrict : n.isUseStrict = false := by
    by_contra hstrict
    have hkind := kind_of_isUseStrict (Bool.of_not_eq_false hstrict)
    rw [levelNames_eq_nil hkind
      (hplain s (mem_statements_of_mem_fates hx) n hwalk hkind)] at hname
    cases hname
  refine List.mem_flatMap.2 ⟨n, List.mem_flatMap.2 ⟨_, hx, List.mem_filter.2 ⟨hn, ?_⟩⟩, hname⟩
  rw [hstrict]
  rfl

/-- A statement that stands comes from a statement of the program. -/
theorem mem_fates_of_mem_standing {x : Fate × Node} (hx : x ∈ standing program) :
    ∃ s, (s, x.1) ∈ fates program ∧ x.2 ∈ x.1.nodes s := by
  obtain ⟨⟨s, fate⟩, hs, hx⟩ := List.mem_flatMap.1 hx
  obtain ⟨n, hn, rfl⟩ := List.mem_map.1 hx
  exact ⟨s, hs, hn⟩

/-- At a place in a statement that is left, the names around the statement that get unbound are the own
names of its wrapper. -/
theorem mem_scope_iff (hplain : Plain (statements program)) {x : Fate × Node}
    (hx : x ∈ standing program) {name : String}
    (hname : name ∉ (remaining program).flatMap levelNames) :
    name ∈ programNames program ++ x.1.scope ↔ name ∈ x.1.selfNames := by
  obtain ⟨s, hs, -⟩ := mem_fates_of_mem_standing hx
  obtain ⟨fate, n⟩ := x
  rw [List.mem_append, or_iff_right fun h => hname (programNames_subset_remaining hplain h)]
  cases fate with
  | dropped | kept => rfl
  | opened f =>
    have hbare := (leads_of_removableWrapper? (removableWrapper?_of_mem_fates hs)).2.1
    refine ⟨fun h => (selfNames_or_of_mem_bodyNames hbare h).resolve_right fun h =>
      hname (body_subset_remaining hplain hs h), fun h => ?_⟩
    rw [Fate.scope, bodyNames_eq hbare]
    exact List.mem_append_left _ (List.mem_append_left _ h)

/-- A statement that stands is no name that is bound by what was around it. -/
theorem isBindingName_of_mem_standing {x : Fate × Node} (hx : x ∈ standing program) :
    isBindingName x.1.block? x.2 = true := by
  obtain ⟨s, hs, -⟩ := mem_fates_of_mem_standing hx
  obtain ⟨fate, n⟩ := x
  cases fate with
  | dropped | kept => rfl
  | opened f =>
    have hbare := (leads_of_removableWrapper? (removableWrapper?_of_mem_fates hs)).2.1
    obtain ⟨body, hbody, hblock, -⟩ := exists_block hbare
    simp [Fate.block?, hbody, isBindingName, hblock]

/-- A round moves the places that stay into the next program, if the statements of that are those that
are left. At each place, the names that have been bound before and are not any more are own names of the
function of the wrapper. -/
theorem survivors_unbind (hplain : Plain (statements program))
    (hsame : (statements next).map unplaced = (remaining program).map unplaced) :
    List.Forall₂ (fun x o => Unbinds x.1.selfNames x.2 o) (survivors program)
      (programPlaces next) := by
  have hpairs : List.Forall₂ (fun x m => x ∈ standing program ∧ x.2.unplaced = m.unplaced)
      (standing program) (statements next) := by
    have hequal : List.Forall₂ Eq ((standing program).map fun x => x.2.unplaced)
        ((statements next).map unplaced) := by
      rw [List.forall₂_eq_eq_eq, hsame, ← map_snd_standing, List.map_map]
      rfl
    rw [List.forall₂_and_left]
    exact ⟨fun x hx => hx, List.forall₂_map_right_iff.1 (List.forall₂_map_left_iff.1 hequal)⟩
  have hnames : programNames next = (remaining program).flatMap levelNames :=
    flatMap_levelNames_congr hsame
  refine List.rel_flatMap hpairs fun x m ⟨hx, hxm⟩ => ?_
  have hplaces : List.Forall₂ (Corresponds []) (x.2.occurrences (fun _ => true) [] x.1.block?)
      (m.occurrences (fun _ => true) [] none) :=
    occurrences_correspond hxm (isBindingName_of_mem_standing hx) rfl
  rw [List.forall₂_map_left_iff, occurrences_eq_map, occurrences_eq_map _ m,
    List.forall₂_map_left_iff, List.forall₂_map_right_iff]
  refine hplaces.imp fun o o' h => ⟨⟨h.node, h.isBindingName⟩, fun name hname => ?_⟩
  simp only [Occurrence.within, List.mem_append, not_or] at hname
  have hinner : name ∉ o.names := by
    rw [h.names]
    exact hname.2
  rw [Occurrence.within, List.mem_append, or_iff_left hinner]
  exact mem_scope_iff hplain hx (hnames ▸ hname.1)

/-! ## All rounds -/

/-- A round opens a function expression of the name. -/
def OpensNamed (source name : String) : Prop :=
  ∃ reached program s f, Relation.ReflTransGen Advances source reached ∧
    Script.parse reached = .ok program ∧ (s, Fate.opened f) ∈ fates program ∧ name ∈ f.selfNames

/-- The place is the same, and each name that was bound there still is, or a round has opened a function
expression of that name. -/
structure StaysBound (source : String) (o' o : Occurrence) : Prop extends SamePlace o o' where
  names : ∀ name ∈ o.names, name ∈ o'.names ∨ OpensNamed source name

instance (source : String) : Std.Refl (StaysBound source) :=
  ⟨fun _ => ⟨⟨rfl, rfl⟩, fun _ => .inl⟩⟩

instance (source : String) : IsTrans Occurrence (StaysBound source) :=
  ⟨fun _ _ _ h h' => ⟨⟨h'.node.trans h.node, h'.isBindingName.trans h.isBindingName⟩,
    fun name hname => (h'.names name hname).elim (h.names name) .inr⟩⟩

theorem plain_remaining (hplain : Plain (statements program)) : Plain (remaining program) := by
  intro n hn m hm hkind
  obtain ⟨⟨s, fate⟩, hx, hn⟩ := List.mem_flatMap.1 hn
  have hwalk : n ∈ s.walk := by
    cases fate with
    | dropped => cases hn
    | kept => exact List.mem_singleton.1 hn ▸ self_mem_walk s
    | opened f =>
      exact mem_walk_of_mem_bodyStatements (removableWrapper?_of_mem_fates hx)
        (List.mem_of_mem_filter hn)
  obtain ⟨y, hy, rfl⟩ := List.mem_map.1 hm
  exact hplain s (mem_statements_of_mem_fates hx) _ (outline_mem_walk hwalk hy) hkind

/-- After a round the program is the one that remains, up to ranges. -/
theorem KeepsRemaining.of_advances {next : String} (h : KeepsRemaining source)
    (hparse : Script.parse source = .ok program) (hadvances : Advances source next) :
    ∃ after, Script.parse next = .ok after ∧
      (statements after).map unplaced = (remaining program).map unplaced := by
  obtain ⟨_, hparse', -, hnext⟩ := hadvances
  obtain rfl := Except.ok.inj (hparse'.symm.trans hparse)
  obtain ⟨text, after, htext, hafter, hsame⟩ := h _ hparse
  obtain rfl : text = next := Except.ok.inj (htext.symm.trans hnext)
  exact ⟨after, hafter, hsame⟩

/-- A place of a survivor that is bound by the name of its wrapper tells that a named wrapper was
opened. -/
theorem opensNamed_of_mem_survivors {reached : String}
    (hreached : Relation.ReflTransGen Advances source reached)
    (hparse : Script.parse reached = .ok program) {x : Fate × Occurrence} (hx : x ∈ survivors program)
    {name : String} (hname : name ∈ x.1.selfNames) : OpensNamed source name := by
  obtain ⟨y, hy, hx⟩ := List.mem_flatMap.1 hx
  obtain ⟨o, -, rfl⟩ := List.mem_map.1 hx
  obtain ⟨s, hs, -⟩ := mem_fates_of_mem_standing hy
  cases hfate : y.1 with
  | dropped | kept =>
    rw [hfate] at hname
    cases hname
  | opened f =>
    rw [hfate] at hs hname
    exact ⟨reached, program, s, f, hreached, hparse, hs, hname⟩

section Rounds

variable (hparse : Script.parse source = .ok program) (hplain : Plain (statements program))
variable (hkeeps : ∀ reached, Relation.ReflTransGen Advances source reached →
  KeepsRemaining reached)
include hparse hkeeps

/-- Unwrapping succeeds, if no round runs statements together. -/
theorem exists_unwrapAll_ok (c : Context) (f : Findings) :
    ∃ text g, unwrapAll source c f = .ok text g ∧ Relation.ReflTransGen Advances source text := by
  induction hn : source.length using Nat.strongRecOn generalizing source program f with
  | _ n ih =>
    by_cases hnone : (unwrapRound source program).edits = []
    · obtain ⟨g, hself⟩ := exists_unwrapAll_eq_self hparse hnone c f
      exact ⟨source, g, hself, .refl⟩
    · obtain ⟨next, -, hnext, -, -⟩ := hkeeps source .refl program hparse
      have hadvances : Advances source next := ⟨program, hparse, hnone, hnext⟩
      obtain ⟨after, hafter, -⟩ := (hkeeps source .refl).of_advances hparse hadvances
      obtain ⟨g, hgoes⟩ := hadvances.exists_unwrapAll_eq c f
      rw [hgoes]
      split_ifs with hlt
      · obtain ⟨text, g', hend, htext⟩ := ih next.length (hn ▸ hlt) hafter
          (fun reached hreached => hkeeps reached (.head hadvances hreached)) g rfl
        exact ⟨text, g', hend, .head hadvances htext⟩
      · exact ⟨next, g, rfl, .single hadvances⟩

include hplain

/-- What rounds come to is a program, in which no expression declares a variable. -/
theorem exists_parse_of_reached {reached : String}
    (hreached : Relation.ReflTransGen Advances source reached) :
    ∃ last, Script.parse reached = .ok last ∧ Plain (statements last) := by
  induction hreached with
  | refl => exact ⟨program, hparse, hplain⟩
  | @tail reached next hreached hadvances ih =>
    obtain ⟨before, hbefore, hplain⟩ := ih
    obtain ⟨after, hafter, hsame⟩ := (hkeeps reached hreached).of_advances hbefore hadvances
    exact ⟨after, hafter, (plain_remaining hplain).congr hsame⟩

/-- A round unbinds own names of the wrappers that it opens, and no other names. -/
theorem exists_survivors_unbind {reached next : String}
    (hreached : Relation.ReflTransGen Advances source reached) (hadvances : Advances reached next) :
    ∃ before after, Script.parse reached = .ok before ∧ Script.parse next = .ok after ∧
      ((survivors before).map Prod.snd).Sublist (programPlaces before) ∧
      List.Forall₂ (fun x o => Unbinds x.1.selfNames x.2 o) (survivors before)
        (programPlaces after) := by
  obtain ⟨before, hbefore, hplain⟩ := exists_parse_of_reached hparse hplain hkeeps hreached
  obtain ⟨after, hafter, hsame⟩ := (hkeeps reached hreached).of_advances hbefore hadvances
  exact ⟨before, after, hbefore, hafter, survivors_sublist before, survivors_unbind hplain hsame⟩

/-- In whatever program the rounds reach, each place comes from a place of the first program and
stays bound as it was. The induction is on the rounds, and each of them is one step of the list. -/
theorem sublist_of_reached {reached : String}
    (hreached : Relation.ReflTransGen Advances source reached) :
    ∃ last, Script.parse reached = .ok last ∧
      List.SublistForall₂ (StaysBound source) (programPlaces last) (programPlaces program) := by
  induction hreached with
  | refl => exact ⟨program, hparse, refl _⟩
  | @tail reached next hreached hadvances ih =>
    obtain ⟨before, hbefore, hsub⟩ := ih
    obtain ⟨before', after, hbefore', hafter, hsurvive, hunbind⟩ :=
      exists_survivors_unbind hparse hplain hkeeps hreached hadvances
    obtain rfl : before = before' := Except.ok.inj (hbefore.symm.trans hbefore')
    refine ⟨after, hafter, List.SublistForall₂.is_trans.trans _ _ _ ?_ hsub⟩
    refine List.sublistForall₂_iff.2 ⟨_, List.forall₂_map_right_iff.2 ?_, hsurvive⟩
    have hsame : List.Forall₂ (fun x o => x ∈ survivors before ∧ Unbinds x.1.selfNames x.2 o)
        (survivors before) (programPlaces after) :=
      (List.forall₂_and_left _ _).2 ⟨fun x hx => hx, hunbind⟩
    refine List.Forall₂.flip (hsame.imp fun x o ⟨hx, h⟩ => ?_)
    refine ⟨h.toSamePlace, fun name hname => or_iff_not_imp_left.2 fun hlost => ?_⟩
    exact opensNamed_of_mem_survivors hreached hbefore hx ((h.names name hlost).1 hname)

end Rounds

/-- Unwrapping leaves no name dangling but own names of functions, if no round runs statements together.
The places in a program that stay in a round are the places in the next program. At such a place, a name
that has been bound is bound, but for the own name of the function of an opened wrapper, if nothing else
binds it there. So each name that is bound somewhere in the source is bound there in the text that is
given in the end, or a round has opened a function expression of that name. -/
theorem unwrapAll_staysBound (hparse : Script.parse source = .ok program)
    (hplain : Plain (statements program))
    (hkeeps : ∀ reached, Relation.ReflTransGen Advances source reached → KeepsRemaining reached)
    (c : Context) (f : Findings) :
    (∀ reached next, Relation.ReflTransGen Advances source reached → Advances reached next →
      ∃ before after, Script.parse reached = .ok before ∧ Script.parse next = .ok after ∧
        ((survivors before).map Prod.snd).Sublist (programPlaces before) ∧
        List.Forall₂ (fun x o => Unbinds x.1.selfNames x.2 o) (survivors before)
          (programPlaces after)) ∧
      ∃ text g last, unwrapAll source c f = .ok text g ∧
        Relation.ReflTransGen Advances source text ∧ Script.parse text = .ok last ∧
        List.SublistForall₂ (StaysBound source) (programPlaces last) (programPlaces program) := by
  refine ⟨fun reached next => exists_survivors_unbind hparse hplain hkeeps, ?_⟩
  obtain ⟨text, g, hends, hreached⟩ := exists_unwrapAll_ok hparse hkeeps c f
  obtain ⟨last, hlast, hstays⟩ := sublist_of_reached hparse hplain hkeeps hreached
  exact ⟨text, g, last, hends, hreached, hlast, hstays⟩

/-- A round makes the second text of the first one, and the test holds for the programs in them. -/
def roundGives (source next : String) (test : Node → Node → Bool) : Bool :=
  (Script.parse source).toOption.any fun before =>
    decide (applyEdits source (unwrapRound source before).edits = .ok next) &&
      (Script.parse next).toOption.any fun after => test before after

/-- A test that holds of a round gives the program, the source after the round and its program. -/
theorem exists_of_roundGives {next : String} {test : Node → Node → Bool}
    (h : roundGives source next test = true) :
    ∃ before after, Script.parse source = .ok before ∧
      applyEdits source (unwrapRound source before).edits = .ok next ∧
      Script.parse next = .ok after ∧ test before after = true := by
  obtain ⟨before, hbefore, h⟩ := exists_parse h
  obtain ⟨htext, h⟩ := Bool.and_eq_true_iff.1 h
  obtain ⟨after, hafter, h⟩ := exists_parse h
  exact ⟨before, after, hbefore, of_decide_eq_true htext, hafter, h⟩

/-- A round that leaves the remaining statements up to ranges is shown by running it. -/
theorem keepsRemaining_of_roundGives {next : String} (h : roundGives source next (fun before after =>
    decide ((statements after).map unplaced = (remaining before).map unplaced)) = true) :
    KeepsRemaining source := by
  obtain ⟨before, after, hbefore, htext, hafter, h⟩ := exists_of_roundGives h
  intro program hparse
  obtain rfl : before = program := Except.ok.inj (hbefore.symm.trans hparse)
  exact ⟨next, after, htext, hafter, of_decide_eq_true h⟩

/-- A wrapper in a wrapper, whose function uses its own name and a local name of the outer one. -/
def namedWrapper : String :=
  "(function() \x7b var a; (function g() \x7b g(a); \x7d)(); \x7d)();"

/-- What the first round makes of it. -/
def openedOnce : String := " var a; (function g() \x7b g(a); \x7d)(); "

/-- What the second round makes of it. -/
def openedTwice : String := " var a;  g(a);  "

theorem namedRounds_closed : ClosedUnderRounds [namedWrapper, openedOnce, openedTwice] := by
  decide +kernel

theorem namedRounds_keep : ∀ text ∈ [namedWrapper, openedOnce, openedTwice],
    KeepsRemaining text := by
  simp only [List.forall_mem_cons, List.not_mem_nil, false_implies, implies_true, and_true]
  exact ⟨@keepsRemaining_of_roundGives namedWrapper openedOnce (by decide +kernel),
    @keepsRemaining_of_roundGives openedOnce openedTwice (by decide +kernel),
    @keepsRemaining_of_roundGives openedTwice openedTwice (by decide +kernel)⟩

theorem unwrapAll_staysBound_namedWrapper : ∃ program text g last,
    Script.parse namedWrapper = .ok program ∧
      unwrapAll namedWrapper loweringContext (.start namedWrapper) = .ok text g ∧
      Script.parse text = .ok last ∧
      List.SublistForall₂ (StaysBound namedWrapper) (programPlaces last) (programPlaces program) ∧
      ∃ next before after, Advances namedWrapper next ∧ Script.parse namedWrapper = .ok before ∧
        Script.parse next = .ok after ∧
        List.Forall₂ (fun x o => Unbinds x.1.selfNames x.2 o) (survivors before)
          (programPlaces after) := by
  obtain ⟨program, hparse, hprogram⟩ := @exists_parse namedWrapper (fun program =>
    decide (Plain (statements program) ∧ (unwrapRound namedWrapper program).edits ≠ []))
    (by decide +kernel)
  obtain ⟨hplain, hsome⟩ := of_decide_eq_true hprogram
  have hkeeps (reached : String) (hreached : Relation.ReflTransGen Advances namedWrapper reached) :
      KeepsRemaining reached :=
    namedRounds_keep reached (namedRounds_closed.mem List.mem_cons_self hreached)
  obtain ⟨next, -, hnext, -, -⟩ := hkeeps namedWrapper .refl program hparse
  have hadvances : Advances namedWrapper next := ⟨program, hparse, hsome, hnext⟩
  obtain ⟨hrounds, text, g, last, hend, -, hlast, hstays⟩ :=
    unwrapAll_staysBound hparse hplain hkeeps loweringContext (.start namedWrapper)
  obtain ⟨before, after, hbefore, hafter, -, hunbind⟩ := hrounds namedWrapper next .refl hadvances
  exact ⟨program, text, g, last, hparse, hend, hlast, hstays, next, before, after, hadvances,
    hbefore, hafter, hunbind⟩

/-! ## Names that dangle -/

/-- A round over the program runs no statements together, and at a place that stays it unbinds the name
that is used there. -/
def Dangles (source name : String) : Prop :=
  ∃ before text after, Script.parse source = .ok before ∧
    applyEdits source (unwrapRound source before).edits = .ok text ∧
    Script.parse text = .ok after ∧
    (statements after).map unplaced = (remaining before).map unplaced ∧
    ∃ x ∈ (survivors before).zip (programPlaces after),
      (x.1.2.Uses name ∧ name ∈ x.1.2.names) ∧ x.2.Uses name ∧ name ∉ x.2.names

/-- The test of a round shows that a bound name is left without its binding. -/
theorem dangles {source text name : String} (h : roundGives source text (fun before after =>
    decide ((statements after).map unplaced = (remaining before).map unplaced ∧
      ∃ x ∈ (survivors before).zip (programPlaces after),
        (x.1.2.Uses name ∧ name ∈ x.1.2.names) ∧ x.2.Uses name ∧ name ∉ x.2.names)) = true) :
    Dangles source name := by
  obtain ⟨before, after, hbefore, htext, hafter, h⟩ := exists_of_roundGives h
  exact ⟨before, text, after, hbefore, htext, hafter, of_decide_eq_true h⟩

/-- The name of a function expression is not bound any more when the function is opened, whatever the
wrapper is. -/
theorem exists_dangles :
    Dangles "(function f() \x7b f(); \x7d)();" "f" ∧
      Dangles "!function f() \x7b f(); \x7d.call(this);" "f" ∧
      Dangles "HTMLImports.whenReady(function f() \x7b g(f); \x7d);" "f" := by
  refine ⟨@dangles _ " f(); " _ ?_, @dangles _ " f(); " _ ?_, @dangles _ " g(f); " _ ?_⟩ <;>
    decide +kernel

end Pass

end HtmlModules
