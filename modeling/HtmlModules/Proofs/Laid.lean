import HtmlModules.Proofs.Edit
import HtmlModules.Script.Reference
import Mathlib.Data.List.Forall2

/-!
# Ranges in a syntax tree

In the tree of a script a node takes the text of its children and more, and no text belongs to two
children (`Node.Laid`). There are two exceptions: a shorthand property says its key and its value at
once, and so does an import or an export with its two names. A list of parameters without an arrow has
no range; its text is that of what is in it (`Node.parts`). What a walk changes in such a tree, node by
node, are ranges that do not overlap, as long as the changes for each node stay in its territory
(`Node.Laid.outline_apart`).
-/

namespace HtmlModules.Script.Node

open Text

/-! ## The order of ranges -/

/-- A name and nothing else. -/
def IsName (n : Node) : Prop := n.name?.isSome = true ∧ n.children = []

mutual

/-- The nodes that take the text of a node: the node itself if it has a range. -/
def parts : Node → List Node
  | mk r k s cs => if k.hasRange then [mk r k s cs] else partsOf cs

/-- The nodes that take the text of nodes. -/
def partsOf : List Node → List Node
  | [] => []
  | n :: ns => parts n ++ partsOf ns

end

theorem parts_of_hasRange {n : Node} (h : n.kind.hasRange = true) : n.parts = [n] := by
  obtain ⟨r, k, s, cs⟩ := n
  rw [parts]
  exact if_pos h

/-- A node without a range has the parts of its children. -/
theorem parts_of_not_hasRange {n : Node} (h : n.kind.hasRange = false) :
    n.parts = partsOf n.children := by
  obtain ⟨r, k, s, cs⟩ := n
  rw [parts]
  exact if_neg (Bool.not_eq_true _ ▸ h)

theorem partsOf_eq_flatMap (ns : List Node) : partsOf ns = ns.flatMap parts := by
  induction ns with
  | nil => rfl
  | cons n ns ih => rw [partsOf, ih, List.flatMap_cons]

theorem parts_subset_partsOf {n : Node} {ns : List Node} (h : n ∈ ns) : n.parts ⊆ partsOf ns := by
  intro m hm
  rw [partsOf_eq_flatMap]
  exact List.mem_flatMap.2 ⟨n, h, hm⟩

/-- No text belongs to both nodes. -/
def Beside (a b : Node) : Prop := a.stop ≤ b.start ∨ b.stop ≤ a.start

/-- The nodes come one behind the other. -/
structure InOrder (ns : List Node) : Prop where
  hasRange : ∀ n ∈ ns, n.kind.hasRange = true
  ordered : ns.Pairwise fun a b => a.stop ≤ b.start

theorem partsOf_of_hasRange {ns : List Node} (h : ∀ n ∈ ns, n.kind.hasRange = true) :
    partsOf ns = ns := by
  rw [partsOf_eq_flatMap, List.flatMap_congr fun n hn => parts_of_hasRange (h n hn),
    List.flatMap_singleton']

/-- The parts of nodes in order lie beside each other. -/
theorem InOrder.beside {ns : List Node} (h : InOrder ns) : (partsOf ns).Pairwise Beside := by
  rw [partsOf_of_hasRange h.hasRange]
  exact h.ordered.imp Or.inl

/-- A property says its key and its value at once: the value is a name, or a name with a default that
stands behind the key. -/
structure Shorthand (key value : Node) : Prop where
  keyHasRange : key.kind.hasRange = true
  valueRole : value.role = .value
  plainValue : value.IsName ∨ value.kind = .assignmentPattern ∧
    ∃ left right, value.children = [left, right] ∧ left.IsName ∧ InOrder [key, right]

/-- How the children of a node of some kind lie. -/
def Arranged (kind : Kind) (span : Span) (children : List Node) : Prop :=
  match kind with
  | .identifier _ | .thisExpression => children = []
  | .importSpecifier => ∀ c ∈ children, c.IsName ∧ (c.role = .imported ∨ c.role = .localName)
  | .exportSpecifier => ∀ c ∈ children, c.IsName ∧ (c.role = .localName ∨ c.role = .exported)
  | .property _ _ _ true => ∃ key value,
    (children = [key, value] ∨ children = [value, key]) ∧ key.role = .key ∧ Shorthand key value
  | .assignmentExpression _ => ∃ left right, children = [left, right] ∧ left.role = .left ∧
    right.role = .right ∧ InOrder [left, right]
  | .blockStatement => InOrder children ∧
    ∀ c ∈ children, span.start + 1 ≤ c.start ∧ c.stop + 1 ≤ span.stop
  | .program => InOrder children
  | _ => (partsOf children).Pairwise Beside

/-- The node has no range, or it takes some text, and that holds the texts of its children. -/
structure Encloses (kind : Kind) (span : Span) (children : List Node) : Prop where
  proper : kind.hasRange = true → span.start < span.stop
  inside : kind.hasRange = true →
    ∀ m ∈ partsOf children, span.start ≤ m.start ∧ m.stop ≤ span.stop
  empty : kind.hasRange = false → span = ⟨0, 0⟩

/-- Every node of the tree encloses its children and has them arranged. -/
inductive Laid : Node → Prop
  | mk {role : Role} {kind : Kind} {span : Span} {children : List Node} :
    Encloses kind span children → Arranged kind span children → (∀ c ∈ children, Laid c) →
    Laid (.mk role kind span children)

namespace Laid

variable {n c : Node}

/-- The range of a node encloses its children as its kind wants it. -/
theorem encloses (h : n.Laid) : Encloses n.kind n.span n.children := by
  cases h
  assumption

theorem start_lt_stop (h : n.Laid) (hn : n.kind.hasRange = true) : n.start < n.stop :=
  h.encloses.proper hn

/-- The parts of a child lie inside the range of its parent. -/
theorem inside (h : n.Laid) (hn : n.kind.hasRange = true) (hc : c ∈ n.children) {m : Node}
    (hm : m ∈ c.parts) : n.start ≤ m.start ∧ m.stop ≤ n.stop :=
  h.encloses.inside hn m (parts_subset_partsOf hc hm)

/-- A child of a node that is laid out is laid out. -/
theorem child (h : n.Laid) (hc : c ∈ n.children) : c.Laid := by
  cases h with
  | mk _ _ hbelow => exact hbelow c hc

/-- The children of a node are arranged as its kind wants it. -/
theorem arranged (h : n.Laid) : Arranged n.kind n.span n.children := by
  cases h
  assumption

end Laid

/-! ## Checking ranges -/

instance : DecidablePred IsName := fun n =>
  decidable_of_iff (n.name?.isSome = true ∧ n.children.isEmpty = true) (by simp [IsName])

instance (ns : List Node) : Decidable (InOrder ns) :=
  decidable_of_iff ((∀ n ∈ ns, n.kind.hasRange = true) ∧ ns.Pairwise fun a b => a.stop ≤ b.start)
    ⟨fun h => ⟨h.1, h.2⟩, fun h => ⟨h.1, h.2⟩⟩

instance (a b : Node) : Decidable (a.Beside b) := inferInstanceAs (Decidable (_ ∨ _))

instance (ns : List Node) (p : Node → Node → Prop) [∀ a b, Decidable (p a b)] :
    Decidable (∃ a b, ns = [a, b] ∧ p a b) :=
  match ns with
  | [a, b] => decidable_of_iff (p a b) (by simp)
  | [] | [_] | _ :: _ :: _ :: _ => isFalse (by simp)

instance (key value : Node) : Decidable (Shorthand key value) :=
  decidable_of_iff (key.kind.hasRange = true ∧ value.role = .value ∧
      (value.IsName ∨ value.kind = .assignmentPattern ∧
        ∃ left right, value.children = [left, right] ∧ left.IsName ∧ InOrder [key, right]))
    ⟨fun h => ⟨h.1, h.2.1, h.2.2⟩, fun h => ⟨h.1, h.2, h.3⟩⟩

/-- The key of a shorthand property may be the first or the second child. -/
theorem shorthand_iff {children : List Node} :
    (∃ a b, children = [a, b] ∧
        (a.role = .key ∧ Shorthand a b ∨ b.role = .key ∧ Shorthand b a)) ↔
      ∃ key value, (children = [key, value] ∨ children = [value, key]) ∧ key.role = .key ∧
        Shorthand key value := by
  constructor
  · rintro ⟨a, b, hchildren, h | h⟩
    · exact ⟨a, b, Or.inl hchildren, h⟩
    · exact ⟨b, a, Or.inr hchildren, h⟩
  · rintro ⟨key, value, hchildren | hchildren, h⟩
    · exact ⟨key, value, hchildren, Or.inl h⟩
    · exact ⟨value, key, hchildren, Or.inr h⟩

instance (kind : Kind) (span : Span) (children : List Node) :
    Decidable (Arranged kind span children) := by
  have hnil : Decidable (children = []) := decidable_of_iff _ List.isEmpty_iff
  unfold Arranged
  split
  case h_5 => exact decidable_of_iff _ shorthand_iff
  all_goals infer_instance

instance (kind : Kind) (span : Span) (children : List Node) :
    Decidable (Encloses kind span children) :=
  decidable_of_iff ((kind.hasRange = true → span.start < span.stop) ∧
      (kind.hasRange = true →
        ∀ m ∈ partsOf children, span.start ≤ m.start ∧ m.stop ≤ span.stop) ∧
      (kind.hasRange = false → span = ⟨0, 0⟩))
    ⟨fun h => ⟨h.1, h.2.1, h.2.2⟩, fun h => ⟨h.1, h.2, h.3⟩⟩

mutual

/-- A tree is checked node by node. -/
def decLaid : (n : Node) → Decidable n.Laid
  | mk _ k s cs =>
    match (inferInstance : Decidable (Encloses k s cs ∧ Arranged k s cs)), decLaidAll cs with
    | isTrue h, isTrue hs => isTrue (.mk h.1 h.2 hs)
    | isFalse h, _ => isFalse fun hn => h ⟨hn.encloses, hn.arranged⟩
    | _, isFalse hs => isFalse fun hn => hs fun _ hc => hn.child hc

/-- A row of trees is checked tree by tree. -/
def decLaidAll : (ns : List Node) → Decidable (∀ n ∈ ns, n.Laid)
  | [] => isTrue (by simp)
  | n :: ns =>
    match decLaid n, decLaidAll ns with
    | isTrue h, isTrue hs => isTrue (List.forall_mem_cons.2 ⟨h, hs⟩)
    | isFalse h, _ => isFalse fun hall => h (List.forall_mem_cons.1 hall).1
    | _, isFalse hs => isFalse fun hall => hs (List.forall_mem_cons.1 hall).2

end

instance : DecidablePred Laid := decLaid

/-- The node is laid out and takes a part of the range of another one. -/
structure LiesIn (n outer : Node) : Prop where
  laid : n.Laid
  inside : ∀ m ∈ n.parts, outer.start ≤ m.start ∧ m.stop ≤ outer.stop

namespace LiesIn

variable {n c outer : Node} {role : Role}

theorem refl (h : n.Laid) (hn : n.kind.hasRange = true) : n.LiesIn n := by
  refine ⟨h, fun m hm => ?_⟩
  rw [parts_of_hasRange hn, List.mem_singleton] at hm
  subst hm
  exact ⟨Nat.le_refl _, Nat.le_refl _⟩

/-- What lies in a node with a range lies between its ends. -/
theorem bounds (h : n.LiesIn outer) (hn : n.kind.hasRange = true) :
    outer.start ≤ n.start ∧ n.stop ≤ outer.stop :=
  h.inside n (by rw [parts_of_hasRange hn]; exact List.mem_singleton_self n)

theorem of_mem (h : n.LiesIn outer) (hc : c ∈ n.children) : c.LiesIn outer := by
  refine ⟨h.laid.child hc, fun m hm => ?_⟩
  cases hn : n.kind.hasRange with
  | true =>
    have := h.laid.inside hn hc hm
    have := h.bounds hn
    omega
  | false => exact h.inside m (parts_of_not_hasRange hn ▸ parts_subset_partsOf hc hm)

theorem child? (h : n.LiesIn outer) (hc : n.child? role = some c) : c.LiesIn outer :=
  h.of_mem (List.mem_of_find?_eq_some hc)

theorem childrenIn (h : n.LiesIn outer) (hc : c ∈ n.childrenIn role) : c.LiesIn outer :=
  h.of_mem (List.mem_of_mem_filter hc)

end LiesIn

/-! ## Territories -/

/-- The edit changes a part of the node; of the left side of an assignment, a part of the assignment
beside its right side. -/
def Territory (parent : Option Node) (n : Node) (e : Edit) : Prop :=
  e.start ≤ e.stop ∧
    (n.start ≤ e.start ∧ e.stop ≤ n.stop ∨
      ∃ p right operator, parent = some p ∧ p.kind = .assignmentExpression operator ∧
        p.children = [n, right] ∧ p.start ≤ e.start ∧ e.stop ≤ p.stop ∧
        (e.stop ≤ right.start ∨ right.stop ≤ e.start))

/-- These edits may be made for a node on a walk that enters the nodes `enter`: they stay in its
territory, and there are none if the walk goes on below the node, or if the node is the name of
something else than a binding. -/
structure Permitted (enter : Node → Bool) (parent : Option Node) (n : Node) (edits : List Edit) :
    Prop where
  territory : ∀ e ∈ edits, Territory parent n e
  apart : edits.Pairwise Edit.Apart
  ranged : n.kind.hasRange = false → edits = []
  entered : enter n = true → n.children ≠ [] → edits = []
  name : n.IsName → n.isReference parent = false → edits = []

/-- The node is not the left side of an assignment. -/
theorem Territory.within {p n : Node} {e : Edit} (h : Territory (some p) n e)
    (hp : ∀ operator, p.kind ≠ .assignmentExpression operator) :
    n.start ≤ e.start ∧ e.stop ≤ n.stop := by
  rcases h.2 with h | ⟨q, right, operator, hq, hkind, -⟩
  · exact h
  · obtain rfl := Option.some.inj hq
    exact absurd hkind (hp operator)

/-- What lies in the territory of a part of a child lies in the territory of a part of the parent. -/
theorem Territory.parent {p n m : Node} {e : Edit} (hm : m ∈ n.parts) (h : Territory (some p) m e)
    (hp : p.Laid) (hn : n ∈ p.children) (q : Option Node) : ∃ m' ∈ p.parts, Territory q m' e := by
  cases hrange : p.kind.hasRange with
  | true =>
    rw [parts_of_hasRange hrange]
    refine ⟨p, List.mem_singleton_self p, h.1, Or.inl ?_⟩
    rcases h.2 with h | ⟨p', right, operator, hp', -, -, hstart, hstop, -⟩
    · have := hp.inside hrange hn hm
      omega
    · obtain rfl := Option.some.inj hp'
      exact ⟨hstart, hstop⟩
  | false =>
    rw [parts_of_not_hasRange hrange]
    exact ⟨m, parts_subset_partsOf hn hm, h.1, Or.inl (h.within fun operator hkind => by
      rw [hkind] at hrange
      cases hrange)⟩

/-- The outline of a row is made of the outlines of its nodes. -/
theorem outlineAll_eq_flatMap (enter : Node → Bool) (parent : Option Node) (ns : List Node) :
    outlineAll enter parent ns = ns.flatMap (outline enter parent) := by
  induction ns with
  | nil => rfl
  | cons n ns ih => rw [outlineAll, ih, List.flatMap_cons]

theorem outline_of_children_eq_nil {n : Node} (h : n.children = []) (enter : Node → Bool)
    (parent : Option Node) : n.outline enter parent = [(parent, n)] := by
  obtain ⟨r, k, s, cs⟩ := n
  obtain rfl : cs = [] := h
  simp [outline, outlineAll]

/-! ## Walks -/

/-- What a walk below a node changes. -/
structure Changes (parent : Option Node) (n : Node) (edits : List Edit) : Prop where
  territory : ∀ e ∈ edits, ∃ m ∈ n.parts, Territory parent m e
  apart : edits.Pairwise Edit.Apart
  /-- A name that has a default is not changed. -/
  default : n.kind = .assignmentPattern → ∀ left right, n.children = [left, right] → left.IsName →
    ∀ e ∈ edits, ∃ m ∈ right.parts, m.start ≤ e.start ∧ e.stop ≤ m.stop

/-- The members of a list that is made of parts correspond part by part. -/
theorem exists_of_forall₂_flatMap {α β γ : Type} {R : β → γ → Prop} {f : α → List β} :
    ∀ {l : List α} {cs : List γ}, List.Forall₂ R (l.flatMap f) cs →
      ∃ parts, List.Forall₂ (fun a part => List.Forall₂ R (f a) part) l parts ∧
        parts.flatten = cs
  | [], cs, h => by
    cases h
    exact ⟨[], .nil, rfl⟩
  | a :: l, cs, h => by
    rw [List.flatMap_cons] at h
    have hpart := (List.forall₂_take_append cs (f a) (l.flatMap f) h.flip).flip
    have hrest := (List.forall₂_drop_append cs (f a) (l.flatMap f) h.flip).flip
    obtain ⟨parts, hparts, hflatten⟩ := exists_of_forall₂_flatMap hrest
    refine ⟨cs.take (f a).length :: parts, .cons hpart hparts, ?_⟩
    rw [List.flatten_cons, hflatten, List.take_append_drop]

/-- The edits change parts of the node, and do not overlap. -/
structure Within (n : Node) (edits : List Edit) : Prop where
  inside : ∀ e ∈ edits, e.start ≤ e.stop ∧ ∃ m ∈ n.parts, m.start ≤ e.start ∧ e.stop ≤ m.stop
  apart : edits.Pairwise Edit.Apart

theorem Within.nil {n : Node} : Within n [] := ⟨by simp, .nil⟩

theorem Within.bounds {n : Node} {edits : List Edit} (h : Within n edits)
    (hn : n.kind.hasRange = true) {e : Edit} (he : e ∈ edits) :
    e.start ≤ e.stop ∧ n.start ≤ e.start ∧ e.stop ≤ n.stop := by
  obtain ⟨hle, m, hm, hinside⟩ := h.inside e he
  rw [parts_of_hasRange hn, List.mem_singleton] at hm
  subst hm
  exact ⟨hle, hinside⟩

/-- What is changed in nodes beside each other does not overlap. -/
theorem row_apart {ns : List Node} {batches : List (List Edit)}
    (h : List.Forall₂ Within ns batches) (hrow : (partsOf ns).Pairwise Beside) :
    batches.flatten.Pairwise Edit.Apart := by
  rw [partsOf_eq_flatMap, List.pairwise_flatMap] at hrow
  refine pairwise_flatten_of_forall₂ (fun _ _ hn => hn.apart) ?_ h hrow.2
  intro a first b second hbeside ha hb e he f hf
  obtain ⟨-, m, hm, _, _⟩ := ha.inside e he
  obtain ⟨-, m', hm', _, _⟩ := hb.inside f hf
  rcases hbeside m hm m' hm' with _ | _
  · left
    omega
  · right
    omega

/-- A walk changes parts of the node it starts at, unless this is the left side of an assignment. -/
theorem Changes.within {parent : Option Node} {n : Node} {edits : List Edit}
    (h : Changes parent n edits)
    (hparent : ∀ p ∈ parent, ∀ operator, p.kind ≠ .assignmentExpression operator) :
    Within n edits where
  inside e he := by
    obtain ⟨m, hm, hterritory⟩ := h.territory e he
    refine ⟨hterritory.1, m, hm, ?_⟩
    cases parent with
    | none => exact hterritory.2.resolve_right fun ⟨p, _, _, hp, _⟩ => by cases hp
    | some p => exact hterritory.within (hparent p rfl)
  apart := h.apart

/-- The changes of a node with a range stay in its territory. -/
theorem Changes.territory_of_hasRange {parent : Option Node} {n : Node} {edits : List Edit}
    (h : Changes parent n edits) (hn : n.kind.hasRange = true) {e : Edit} (he : e ∈ edits) :
    Territory parent n e := by
  obtain ⟨m, hm, hterritory⟩ := h.territory e he
  rw [parts_of_hasRange hn, List.mem_singleton] at hm
  exact hm ▸ hterritory

/-- A name that does not stand for a binding is not changed. -/
theorem IsName.flatten_eq_nil {enter : Node → Bool} {parent : Option Node} {n : Node}
    (hn : n.IsName) (href : n.isReference parent = false) {batches : List (List Edit)}
    (h : List.Forall₂ (fun x es => Permitted enter x.1 x.2 es) (n.outline enter parent) batches) :
    batches.flatten = [] := by
  rw [outline_of_children_eq_nil hn.2] at h
  cases h with
  | cons hfirst hrest =>
    cases hrest
    rw [hfirst.name hn href]
    rfl

/-- Of a name with a default, only the default is changed. -/
theorem default_changes {enter : Node → Bool} {parent : Option Node} {n left right : Node}
    (hkind : n.kind = .assignmentPattern) (hchildren : n.children = [left, right])
    (hleft : left.IsName) (henter : enter n = true) {batches : List (List Edit)}
    (hright : ∀ {batches : List (List Edit)}, List.Forall₂ (fun x es => Permitted enter x.1 x.2 es)
      (right.outline enter (some n)) batches → Changes (some n) right batches.flatten)
    (h : List.Forall₂ (fun x es => Permitted enter x.1 x.2 es) (n.outline enter parent) batches) :
    ∀ e ∈ batches.flatten, ∃ m ∈ right.parts, m.start ≤ e.start ∧ e.stop ≤ m.stop := by
  obtain ⟨r, k, s, cs⟩ := n
  obtain rfl : cs = [left, right] := hchildren
  rw [outline, if_pos henter, outlineAll_eq_flatMap] at h
  obtain ⟨edits, rest, hown, hrest, rfl⟩ := List.forall₂_cons_left_iff.1 h
  obtain ⟨parts, hparts, rfl⟩ := exists_of_forall₂_flatMap hrest
  rcases hparts with _ | ⟨hfirst, _ | ⟨hsecond, _ | _⟩⟩
  have hempty : edits = [] := hown.entered henter (by simp [children])
  have href : left.isReference (some (mk r k s [left, right])) = false := by
    rw [isReference, hkind]
  intro e he
  have hfirst := hleft.flatten_eq_nil href hfirst
  rw [hempty] at he
  simp only [List.flatten_cons, List.flatten_nil, List.append_nil, List.nil_append,
    List.flatten_append, hfirst] at he
  obtain ⟨m, hm, hterritory⟩ := (hright hsecond).territory e he
  refine ⟨m, hm, hterritory.within fun operator => ?_⟩
  rw [hkind]
  simp

/-- The walks below the children of a node. -/
abbrev Walks (enter : Node → Bool) (parent : Option Node) (ns : List Node)
    (parts : List (List (List Edit))) : Prop :=
  List.Forall₂ (fun c part => List.Forall₂ (fun x es => Permitted enter x.1 x.2 es)
    (c.outline enter parent) part) ns parts

/-- In the key and the value of a shorthand property, changes are apart: of a value it is the default
that is changed. -/
theorem Shorthand.apart {enter : Node → Bool} {kind : PropertyKind} {computed method : Bool}
    {p key value : Node} (h : Shorthand key value) (hp : p.kind = .property kind computed method true)
    {edits : List Edit} {part : List (List Edit)} (hkey : Changes (some p) key edits)
    (hwalk : List.Forall₂ (fun x es => Permitted enter x.1 x.2 es) (value.outline enter (some p)) part)
    (hvalue : Changes (some p) value part.flatten) :
    ∀ e ∈ edits, ∀ f ∈ part.flatten, e.Apart f := by
  intro e he f hf
  rcases h.plainValue with hname | ⟨hpattern, left, right, hchildren, hleft, horder⟩
  · have href : value.isReference (some p) = false := by
      rw [isReference, hp]
      simp [h.valueRole]
    rw [hname.flatten_eq_nil href hwalk] at hf
    cases hf
  · obtain ⟨m, hm, hright⟩ := hvalue.default hpattern left right hchildren hleft f hf
    rw [parts_of_hasRange (horder.hasRange right (by simp)), List.mem_singleton] at hm
    subst hm
    have hinside := (hkey.territory_of_hasRange h.keyHasRange he).within fun operator => by
      rw [hp]
      simp
    have := List.rel_of_pairwise_cons horder.ordered (List.mem_singleton_self m)
    left
    omega

/-- What is changed on the two sides of an assignment is apart: the territory of the left side ends
where the right side begins, and goes on where it ends. -/
theorem assignment_apart {p left right : Node} (hchildren : p.children = [left, right])
    (hproper : left.start < left.stop) (horder : InOrder [left, right]) {first second : List Edit}
    (hleft : Changes (some p) left first) (hright : Changes (some p) right second) :
    ∀ e ∈ first, ∀ f ∈ second, e.Apart f := by
  have hpair {n other : Node} (h : p.children = [n, other]) : n = left ∧ other = right := by
    rw [hchildren] at h
    simpa [eq_comm] using h
  intro e he f hf
  have hle : left.stop ≤ right.start :=
    List.rel_of_pairwise_cons horder.ordered (List.mem_singleton_self right)
  have hbehind : right.start ≤ f.start ∧ f.stop ≤ right.stop := by
    rcases (hright.territory_of_hasRange (horder.hasRange right (by simp)) hf).2 with h | ⟨q, other, _, hq, -, hother, -, -, -⟩
    · exact h
    · obtain rfl := Option.some.inj hq
      obtain rfl := (hpair hother).1
      omega
  rcases (hleft.territory_of_hasRange (horder.hasRange left (by simp)) he).2 with
    h | ⟨q, other, _, hq, -, hother, -, -, h⟩
  · left
    omega
  · obtain rfl := Option.some.inj hq
    obtain rfl := (hpair hother).2
    rcases h with h | h
    · left
      omega
    · right
      omega

/-- Nothing is changed for children that are names of something else than bindings. -/
theorem Walks.flatten_eq_nil {enter : Node → Bool} {p : Node} {ns : List Node}
    {parts : List (List (List Edit))} (hwalks : Walks enter (some p) ns parts)
    (hnames : ∀ c ∈ ns, c.IsName ∧ c.isReference (some p) = false) :
    (parts.map List.flatten).flatten = [] := by
  refine List.flatten_eq_nil_iff.2 fun edits hedits => ?_
  obtain ⟨part, hpart, rfl⟩ := List.mem_map.1 hedits
  obtain ⟨c, hc, hwalk⟩ := exists_of_forall₂_left hwalks.flip hpart
  exact (hnames c hc).1.flatten_eq_nil (hnames c hc).2 hwalk

/-- What is changed for two children is apart if the changes for one are apart from those for the
other. -/
theorem pair_apart {parent : Option Node} {a b : Node} {first second : List (List Edit)}
    (ha : Changes parent a first.flatten) (hb : Changes parent b second.flatten)
    (h : ∀ e ∈ first.flatten, ∀ f ∈ second.flatten, e.Apart f) :
    ([first, second].map List.flatten).flatten.Pairwise Edit.Apart := by
  simp only [List.map_cons, List.map_nil, List.flatten_cons, List.flatten_nil, List.append_nil,
    List.pairwise_append]
  exact ⟨ha.apart, hb.apart, h⟩

/-- What a walk changes below the children of a node is apart. -/
theorem Laid.children_apart {enter : Node → Bool} {n : Node} (hn : n.Laid)
    {parts : List (List (List Edit))} (hwalks : Walks enter (some n) n.children parts)
    (hchanges : List.Forall₂ (fun c part => Changes (some n) c part.flatten) n.children parts) :
    (parts.map List.flatten).flatten.Pairwise Edit.Apart := by
  have hrow (hrow : (partsOf n.children).Pairwise Beside)
      (hkind : ∀ operator, n.kind ≠ .assignmentExpression operator) :
      (parts.map List.flatten).flatten.Pairwise Edit.Apart := by
    have hchanges : List.Forall₂ (Changes (some n)) n.children (parts.map List.flatten) :=
      List.forall₂_map_right_iff.2 hchanges
    exact row_apart (hchanges.imp fun _ _ h => h.within fun p hp => Option.some.inj hp ▸ hkind) hrow
  have harranged := hn.arranged
  unfold Arranged at harranged
  split at harranged
  -- A name and `this` have no children.
  case h_1 | h_2 =>
    rw [harranged] at hchanges
    cases hchanges
    exact .nil
  -- The names of an import or an export specifier are no references.
  case h_3 hkind | h_4 hkind =>
    rw [hwalks.flatten_eq_nil fun c hc => ⟨(harranged c hc).1, by rw [isReference, hkind]⟩]
    exact .nil
  -- A shorthand property
  case h_5 hkind =>
    obtain ⟨key, value, hchildren | hchildren, -, hshorthand⟩ := harranged
    all_goals
      rw [hchildren] at hwalks hchanges
      rcases hwalks with _ | ⟨hwalk, _ | ⟨hwalk', _ | _⟩⟩
      rcases hchanges with _ | ⟨hfirst, _ | ⟨hsecond, _ | _⟩⟩
    · exact pair_apart hfirst hsecond (hshorthand.apart hkind hfirst hwalk' hsecond)
    · exact pair_apart hfirst hsecond fun e he f hf =>
        (hshorthand.apart hkind hsecond hwalk hfirst f hf e he).symm
  -- An assignment
  case h_6 =>
    obtain ⟨left, right, hchildren, -, -, horder⟩ := harranged
    have hproper := (hn.child (c := left) (by simp [hchildren])).start_lt_stop
      (horder.hasRange left (by simp))
    rw [hchildren] at hchanges
    rcases hchanges with _ | ⟨hfirst, _ | ⟨hsecond, _ | _⟩⟩
    exact pair_apart hfirst hsecond (assignment_apart hchildren hproper horder hfirst hsecond)
  case h_7 hkind => exact hrow harranged.1.beside fun operator => by simp [hkind]
  case h_8 hkind => exact hrow harranged.beside fun operator => by simp [hkind]
  case h_9 _ _ _ _ _ hkind _ _ => exact hrow harranged hkind

/-- What is changed below the children of a laid out node stays in its territory. -/
theorem Laid.children_territory {n : Node} (hn : n.Laid) {parts : List (List (List Edit))}
    (hchanges : List.Forall₂ (fun c part => Changes (some n) c part.flatten) n.children parts)
    (parent : Option Node) :
    ∀ e ∈ (parts.map List.flatten).flatten, ∃ m ∈ n.parts, Territory parent m e := by
  intro e he
  obtain ⟨batch, hbatch, he⟩ := List.mem_flatten.1 he
  obtain ⟨part, hpart, rfl⟩ := List.mem_map.1 hbatch
  obtain ⟨c, hc, hchange⟩ := exists_of_forall₂_left hchanges.flip hpart
  obtain ⟨m, hm, hterritory⟩ := hchange.territory e he
  exact hterritory.parent hm hn hc parent

/-- What is permitted for a node stays in its territory; there is nothing if it has no range. -/
theorem Permitted.parts_territory {enter : Node → Bool} {parent : Option Node} {n : Node}
    {edits : List Edit} (h : Permitted enter parent n edits) :
    ∀ e ∈ edits, ∃ m ∈ n.parts, Territory parent m e := by
  intro e he
  cases hrange : n.kind.hasRange with
  | true => exact ⟨n, by simp [parts_of_hasRange hrange], h.territory e he⟩
  | false =>
    rw [h.ranged hrange] at he
    cases he

/-- What a walk changes node by node, as is permitted, stays in the territory of the node it starts
at and does not overlap. -/
theorem Laid.outline_apart {enter : Node → Bool}
    (henter : ∀ n, n.kind = .assignmentPattern → enter n = true) {n : Node} (hn : n.Laid) :
    ∀ {parent : Option Node} {batches : List (List Edit)},
      List.Forall₂ (fun x es => Permitted enter x.1 x.2 es) (n.outline enter parent) batches →
      Changes parent n batches.flatten := by
  induction hn with
  | @mk r k s cs hencloses harranged hbelow ih =>
    intro parent batches h
    have hn : Laid (Node.mk r k s cs) := .mk hencloses harranged hbelow
    set n := Node.mk r k s cs with hndef
    have hdefault (hkind : n.kind = .assignmentPattern) (left right : Node)
        (hchildren : n.children = [left, right]) (hleft : left.IsName) :
        ∀ e ∈ batches.flatten, ∃ m ∈ right.parts, m.start ≤ e.start ∧ e.stop ≤ m.stop :=
      default_changes hkind hchildren hleft (henter n hkind)
        (ih right (by rw [show cs = [left, right] from hchildren]; simp)) h
    by_cases hin : enter n = true
    · rw [hndef, outline, ← hndef, if_pos hin, outlineAll_eq_flatMap] at h
      obtain ⟨edits, rest, hown, hrest, rfl⟩ := List.forall₂_cons_left_iff.1 h
      obtain ⟨parts, hwalks, rfl⟩ := exists_of_forall₂_flatMap hrest
      by_cases hcs : cs = []
      · subst hcs
        cases hwalks
        refine ⟨?_, ?_, hdefault⟩
        · simpa using hown.parts_territory
        · simpa using hown.apart
      · -- The walk goes on below the node, so the node itself is not changed.
        obtain rfl : edits = [] := hown.entered hin hcs
        have hchanges : List.Forall₂ (fun c part => Changes (some n) c part.flatten) cs parts :=
          forall₂_imp_of_mem hwalks fun c hc _ hwalk => ih c hc hwalk
        have hbelow : ([] :: parts.flatten).flatten = (parts.map List.flatten).flatten := by
          rw [List.flatten_cons, List.nil_append, List.flatten_flatten]
        refine ⟨?_, ?_, hdefault⟩
        · rw [hbelow]
          exact hn.children_territory hchanges parent
        · rw [hbelow]
          exact hn.children_apart hwalks hchanges
    · rw [hndef, outline, ← hndef, if_neg hin] at h
      rcases h with _ | ⟨hown, _ | _⟩
      refine ⟨?_, ?_, hdefault⟩
      · simpa using hown.parts_territory
      · simpa using hown.apart

end HtmlModules.Script.Node
