import HtmlModules.Pass.Pipeline
import HtmlModules.Proofs.Resolution

/-!
# Assignments that become calls of setters

An assignment to an export of another module is not possible there, but if that module exports a setter,
it can become a call. Two edits do that: one replaces what stands in the assignment in front of its
value, and the other what stands behind it. What is done for the places around the assignment is beside
it (`Pass.beside_assignment`), and what is done for those in the value stays in the value
(`Pass.inside_value`). So the call has the text of the value between its parentheses, with what is
collected there (`Pass.collectReferences_calls_setters`). The range of a value leaves out the parentheses
around it. A list of values that stood in parentheses becomes a list of arguments
(`Pass.exists_value_taken_apart`).
-/

namespace HtmlModules

open Text Script

namespace Script.Node

/-! ## Walks that stop at a node -/

/-- The nodes to enter, apart from one node. -/
def without (enter : Node → Bool) (p n : Node) : Bool := enter n && decide (n ≠ p)

mutual

/-- A walk goes the same way as one that does not enter some node, and then below that node. -/
theorem outline_eq_flatMap (enter : Node → Bool) (p : Node) :
    ∀ (n : Node) (parent : Option Node), n.outline enter parent =
      (n.outline (without enter p) parent).flatMap fun x =>
        if x.2 = p then x.2.outline enter x.1 else [x]
  | mk r k s cs, parent => by
    by_cases hp : mk r k s cs = p
    · subst hp
      simp [outline, without]
    · simp only [outline, without, hp, ne_eq, not_false_eq_true, decide_true, Bool.and_true,
        List.flatMap_cons, if_false, List.singleton_append]
      split_ifs
      · rw [← outlineAll_eq_flatMap' enter p cs]
      · rfl

theorem outlineAll_eq_flatMap' (enter : Node → Bool) (p : Node) :
    ∀ (ns : List Node) (parent : Option Node), outlineAll enter parent ns =
      (outlineAll (without enter p) parent ns).flatMap fun x =>
        if x.2 = p then x.2.outline enter x.1 else [x]
  | [], _ => rfl
  | n :: ns, parent => by
    rw [outlineAll, outlineAll, List.flatMap_append, ← outline_eq_flatMap enter p n,
      ← outlineAll_eq_flatMap' enter p ns]

end

mutual

/-- On a walk, each node but the first one is a child of another node of the walk. -/
theorem parent_mem_outline {enter : Node → Bool} {x : Option Node × Node} :
    ∀ {n : Node} {parent : Option Node}, x ∈ n.outline enter parent →
      x = (parent, n) ∨
        ∃ y ∈ n.outline enter parent, x.1 = some y.2 ∧ x.2 ∈ y.2.children
  | mk r k s cs, parent, hx => by
    rw [outline] at hx ⊢
    rcases List.mem_cons.1 hx with hx | hx
    · exact Or.inl hx
    · split_ifs at hx ⊢
      · rcases parent_mem_outlineAll hx with ⟨hparent, hchild⟩ | ⟨y, hy, hx⟩
        · exact Or.inr ⟨_, List.mem_cons_self, hparent, hchild⟩
        · exact Or.inr ⟨y, List.mem_cons_of_mem _ hy, hx⟩
      · cases hx

theorem parent_mem_outlineAll {enter : Node → Bool} {x : Option Node × Node} :
    ∀ {ns : List Node} {parent : Option Node}, x ∈ outlineAll enter parent ns →
      (x.1 = parent ∧ x.2 ∈ ns) ∨
        ∃ y ∈ outlineAll enter parent ns, x.1 = some y.2 ∧ x.2 ∈ y.2.children
  | n :: ns, parent, hx => by
    rw [outlineAll] at hx ⊢
    rcases List.mem_append.1 hx with hx | hx
    · rcases parent_mem_outline hx with rfl | ⟨y, hy, hx⟩
      · exact Or.inl ⟨rfl, List.mem_cons_self⟩
      · exact Or.inr ⟨y, List.mem_append_left _ hy, hx⟩
    · rcases parent_mem_outlineAll hx with ⟨hparent, hchild⟩ | ⟨y, hy, hx⟩
      · exact Or.inl ⟨hparent, List.mem_cons_of_mem _ hchild⟩
      · exact Or.inr ⟨y, List.mem_append_right _ hy, hx⟩

end

/-- A walk that stops at a node goes as far as that node where the other walk does. -/
theorem mem_outline_without {enter : Node → Bool} {p n : Node} {parent q : Option Node}
    (h : (q, p) ∈ n.outline enter parent) :
    ∃ q', (q', p) ∈ n.outline (without enter p) parent := by
  rw [outline_eq_flatMap enter p] at h
  obtain ⟨x, hx, h⟩ := List.mem_flatMap.1 h
  split_ifs at h with hxp
  · exact ⟨x.1, hxp ▸ hx⟩
  · exact absurd (congrArg Prod.snd (List.mem_singleton.1 h)).symm hxp

theorem mem_outline_of_without {enter : Node → Bool} {p n : Node} {parent : Option Node}
    {x : Option Node × Node} (hx : x ∈ n.outline (without enter p) parent) (hne : x.2 ≠ p) :
    x ∈ n.outline enter parent := by
  rw [outline_eq_flatMap enter p]
  exact List.mem_flatMap.2 ⟨x, hx, by simp [hne]⟩

theorem Permitted.without {enter : Node → Bool} {p n : Node} {parent : Option Node}
    {edits : List Edit} (h : Permitted enter parent n edits) :
    Permitted (without enter p) parent n edits :=
  { h with entered := fun henter => h.entered (Bool.and_eq_true_iff.1 henter).1 }

end Script.Node

namespace Pass

open Node

variable {c : Context} {source : String} {program p left value : Node} {s : Site}

/-! ## Places around an assignment and in its value -/

/-- The places of a tree below a node. -/
def placesIn (parent : Option Node) (n : Node) : List Site :=
  (n.outline (fun _ => true) parent).filterMap fun x => Site.whole? x.1 x.2

/-- In a place there is no other place. -/
theorem placesIn_of_whole? {parent : Option Node} {n : Node} (hn : n.Formed)
    (h : Site.whole? parent n = some s) : placesIn parent n = [s] := by
  obtain ⟨r, k, span, cs⟩ := n
  have hbelow : (outlineAll (fun _ => true) (some (mk r k span cs)) cs).filterMap
      (fun x => Site.whole? x.1 x.2) = [] := by
    have h' := h
    unfold Site.whole? at h'
    cases k with
    | memberExpression computed =>
      simp only [kind] at h'
      split_ifs at h'
      obtain ⟨path, hpath, -⟩ := Option.map_eq_some_iff.1 h'
      refine List.filterMap_eq_nil_iff.2 fun x hx => ?_
      obtain ⟨q, hq, hchain⟩ := hn.below_chain hpath x hx
      rw [hq, Site.whole?_of_parent hchain]
    | identifier name =>
      obtain rfl : cs = [] := hn.children_eq_nil rfl
      rfl
    | _ =>
      simp only [kind] at h'
      split_ifs at h'
  rw [placesIn, outline, if_pos rfl, List.filterMap_cons, hbelow]
  simp only [h]

/-- The places of an assignment to a place are this place and those of the value. -/
theorem placesIn_assignment (hp : p.Laid) (hformed : p.Formed)
    (hsides : p.plainAssignment? = some (left, value))
    (hs : Site.whole? (some p) left = some s) (parent : Option Node) :
    placesIn parent p = s :: placesIn (some p) value := by
  obtain ⟨hkind, hchildren, -⟩ := hp.sides hsides
  have hleft := placesIn_of_whole? (hformed.child (c := left) (by simp [hchildren])) hs
  obtain ⟨r, k, span, cs⟩ := p
  obtain rfl : cs = [left, value] := hchildren
  have hnone : Site.whole? parent (mk r k span [left, value]) = none := by
    unfold Site.whole?
    rw [hkind]
    split_ifs <;> rfl
  rw [placesIn, outline, if_pos rfl, List.filterMap_cons]
  simp only [hnone, outlineAll, List.append_nil, List.filterMap_append]
  change placesIn _ left ++ placesIn _ value = _
  rw [hleft, List.singleton_append]

/-- The walk of the collection comes to every assignment to a place. -/
theorem mem_outline_of_assignment (hformed : program.Formed) (hp : p ∈ program.walk)
    (hleft : left ∈ p.children) (hs : Site.whole? (some p) left = some s) :
    ∃ q, (q, p) ∈ program.outline holdsReferences none := by
  have hplace : s ∈ places program := by
    obtain ⟨y, hy, rfl⟩ := List.mem_map.1 hp
    exact List.mem_filterMap.2 ⟨_, child_mem_outline hleft rfl hy, hs⟩
  rw [places_eq hformed] at hplace
  obtain ⟨x, hx, hwhole⟩ := List.mem_filterMap.1 hplace
  have hparent : x.1 = some p :=
    (Site.whole?_eq_some hwhole).1.symm.trans (Site.whole?_eq_some hs).1
  rcases parent_mem_outline hx with rfl | ⟨y, hy, hxy, -⟩
  · cases hparent
  · obtain rfl := Option.some.inj (hparent.symm.trans hxy)
    exact ⟨y.1, hy⟩

/-- What is done for the places on a walk is permitted there. -/
theorem exists_permitted (hlaid : program.LaidIn source) {walk : List (Option Node × Node)}
    (hwalk : ∀ x ∈ walk, x ∈ program.outline holdsReferences none) {rows : List (List Edit)}
    (h : List.Forall₂ Site.Changed (walk.filterMap fun x => Site.whole? x.1 x.2) rows) :
    ∃ parts, List.Forall₂ (fun x edits => Permitted holdsReferences x.1 x.2 edits) walk parts ∧
      parts.flatten = rows.flatten := by
  obtain ⟨parts, hparts, hflatten⟩ := exists_of_forall₂_filterMap h
  refine ⟨parts, forall₂_imp_of_mem hparts fun x hx edits hedits => ?_, hflatten⟩
  obtain ⟨parent, n⟩ := x
  rcases hedits with ⟨s, hs, hchanged⟩ | rfl
  · obtain ⟨rfl, rfl, hplace⟩ := Site.whole?_eq_some hs
    exact hchanged.permitted hlaid (hwalk _ hx) hplace
  · exact .nil

section Around

variable {operator : String} {q : Option Node} {front back : List (Option Node × Node)}

theorem enters_without (hkind : p.kind = .assignmentExpression operator) (n : Node)
    (hn : n.kind = .assignmentPattern) : without holdsReferences p n = true := by
  have hne : n ≠ p := fun h => by
    rw [h, hkind] at hn
    cases hn
  rw [without, holdsReferences, memberPath?_of_kind fun computed => by simp [hn]]
  simpa using hne

/-- On a walk that does not enter an assignment, that may be replaced as a whole. -/
theorem permitted_whole (hp : p.Laid) (hkind : p.kind = .assignmentExpression operator) :
    Permitted (without holdsReferences p) q p [.replace p.start p.stop ""] := by
  have hrange : p.kind.hasRange = true := by
    rw [hkind]
    rfl
  refine .replace hrange (.refl hp hrange) hrange (fun henter => ?_) (fun hname => ?_) ""
  · simp [without] at henter
  · simpa [name?, hkind] using hname.1

/-- An assignment comes once on a walk. -/
theorem ne_of_outline_eq (hlaid : program.LaidIn source) (hp : p.Laid)
    (hkind : p.kind = .assignmentExpression operator)
    (h : program.outline (without holdsReferences p) none = front ++ (q, p) :: back) :
    ∀ x ∈ front ++ back, x.2 ≠ p := by
  -- Two places of the same assignment would be replaced apart from each other.
  let whole (x : Option Node × Node) : List Edit :=
    if x.2 = p then [.replace p.start p.stop ""] else []
  have hapart : AllApart source.length
      ((program.outline (without holdsReferences p) none).flatMap whole) := by
    refine hlaid.flatMap_apart (enters_without hkind) fun x _ => ?_
    simp only [whole]
    split_ifs with hx
    · rw [hx]
      exact permitted_whole hp hkind
    · exact .nil
  have hproper := hp.start_lt_stop (by rw [hkind]; rfl)
  have hwhole {x : Option Node × Node} {l : List (Option Node × Node)} (hx : x ∈ l)
      (hxp : x.2 = p) : Edit.replace p.start p.stop "" ∈ l.flatMap whole :=
    List.mem_flatMap.2 ⟨x, hx, by simp [whole, hxp]⟩
  have hpairwise := hapart.apart
  rw [h, List.flatMap_append, List.flatMap_cons, List.pairwise_append] at hpairwise
  obtain ⟨-, hback, hbetween⟩ := hpairwise
  intro x hx hxp
  have hself : Edit.Apart (.replace p.start p.stop "") (.replace p.start p.stop "") := by
    rcases List.mem_append.1 hx with hx | hx
    · exact hbetween _ (hwhole hx hxp) _ (List.mem_append_left _ (by simp [whole]))
    · exact (List.pairwise_append.1 hback).2.2 _ (by simp [whole]) _ (hwhole hx hxp)
  simp only [Edit.Apart, Edit.replace] at hself
  omega

/-- What is done for the places around an assignment is beside it. -/
theorem beside_assignment (hlaid : program.LaidIn source) (hp : p.Laid)
    (hkind : p.kind = .assignmentExpression operator)
    (h : program.outline (without holdsReferences p) none = front ++ (q, p) :: back)
    {first second : List (List Edit)}
    (hfirst : List.Forall₂ Site.Changed (front.filterMap fun x => Site.whole? x.1 x.2) first)
    (hsecond : List.Forall₂ Site.Changed (back.filterMap fun x => Site.whole? x.1 x.2) second) :
    ∀ e ∈ first.flatten ++ second.flatten, e.stop ≤ p.start ∨ p.stop ≤ e.start := by
  have hwalk : ∀ x ∈ front ++ back, x ∈ program.outline holdsReferences none := fun x hx => by
    refine mem_outline_of_without ?_ (ne_of_outline_eq hlaid hp hkind h x hx)
    rw [h]
    rcases List.mem_append.1 hx with hx | hx
    · exact List.mem_append_left _ hx
    · exact List.mem_append_right _ (List.mem_cons_of_mem _ hx)
  obtain ⟨parts, hparts, hflatten⟩ :=
    exists_permitted hlaid (fun x hx => hwalk x (List.mem_append_left _ hx)) hfirst
  obtain ⟨parts', hparts', hflatten'⟩ :=
    exists_permitted hlaid (fun x hx => hwalk x (List.mem_append_right _ hx)) hsecond
  have hpermitted : List.Forall₂
      (fun x edits => Permitted (without holdsReferences p) x.1 x.2 edits)
      (program.outline (without holdsReferences p) none)
      (parts ++ [.replace p.start p.stop ""] :: parts') := by
    rw [h]
    exact List.rel_append (hparts.imp fun _ _ h => h.without)
      (.cons (permitted_whole hp hkind) (hparts'.imp fun _ _ h => h.without))
  have hapart := (hlaid.walk_apart (enters_without hkind) hpermitted).apart
  rw [List.flatten_append, List.flatten_cons, hflatten, hflatten', List.pairwise_append] at hapart
  obtain ⟨-, hback, hbetween⟩ := hapart
  intro e he
  rcases List.mem_append.1 he with he | he
  · simpa [Edit.Apart, Edit.replace] using
      hbetween e he _ (List.mem_append_left _ (List.mem_singleton_self _))
  · have := List.rel_of_pairwise_cons hback he
    simpa [Edit.Apart, Edit.replace, or_comm] using this

end Around

/-- What is done for the places in the value of an assignment stays in the value. -/
theorem inside_value (hp : p.Laid) (hsides : p.plainAssignment? = some (left, value))
    {rows : List (List Edit)}
    (hrows : List.Forall₂ Site.Changed (placesIn (some p) value) rows) :
    ∀ e ∈ rows.flatten, (value.start : Int) ≤ e.start ∧ e.start ≤ e.stop ∧ e.stop ≤ value.stop := by
  obtain ⟨hkind, hchildren, -, hright, horder⟩ := hp.sides hsides
  have hvalue : value ∈ p.children := by simp [hchildren]
  have hlies : value.LiesIn value :=
    .refl (hp.child hvalue) (horder.hasRange value (by simp))
  intro e he
  obtain ⟨row, hrow, he⟩ := List.mem_flatten.1 he
  obtain ⟨s, hs, hchanged⟩ := exists_of_forall₂_left hrows.flip hrow
  obtain ⟨x, hx, hwhole⟩ := List.mem_filterMap.1 hs
  obtain ⟨hparent, hnode, hplace⟩ := Site.whole?_eq_some hwhole
  have hin : x.2.LiesIn value := (hlies.mem_outline hx).1
  have hchain : x.2.IsChain := isChain_of_place hplace
  rcases hchanged with rfl | ⟨k, text, rfl⟩ | ⟨hassigned, p', left', value', text, hp', hsides', rfl⟩
  · cases he
  · obtain rfl := List.mem_singleton.1 he
    rw [hnode]
    have hrange := (hchain.chainBase hin.laid k).hasRange
    have hpart := hin.chainBase k
    have := hpart.bounds hrange
    have := hpart.laid.start_lt_stop hrange
    simp only [Edit.replace]
    omega
  · rw [hp'] at hparent
    rcases parent_mem_outline hx with rfl | ⟨y, hy, hxy, -⟩
    · -- The value itself is not assigned to.
      obtain rfl := Option.some.inj hparent
      rw [Site.isAssigned, hp', hnode] at hassigned
      simp [Node.isAssigned, hkind, hright] at hassigned
    · obtain rfl := Option.some.inj (hparent.trans hxy)
      have hin : y.2.LiesIn value := (hlies.mem_outline hy).1
      have hrange : y.2.kind.hasRange = true := by
        rw [(hin.laid.sides hsides').1]
        rfl
      have := hin.bounds hrange
      obtain ⟨hle, hstart, hstop, -⟩ := bounds_setterEdits hin.laid hsides' he
      omega

/-! ## Text -/

/-- An edit that replaces nothing closes a call. -/
theorem text_of_insert (hlaid : program.LaidIn source) {rows : List (List Edit)}
    (hrows : List.Forall₂ Site.Changed (places program) rows) {e : Edit} (he : e ∈ rows.flatten)
    (hempty : e.start = e.stop) : e.text = ")" := by
  obtain ⟨row, hrow, he⟩ := List.mem_flatten.1 he
  obtain ⟨s, hs, hchanged⟩ := exists_of_forall₂_left hrows.flip hrow
  obtain ⟨x, hx, hwhole⟩ := List.mem_filterMap.1 hs
  obtain ⟨hparent, hnode, hplace⟩ := Site.whole?_eq_some hwhole
  have hchain : x.2.IsChain := isChain_of_place hplace
  obtain ⟨hx, q, hq, hlaid, -⟩ := hlaid.laid_of_isChain hx hchain
  rcases hchanged with rfl | ⟨k, text, rfl⟩ | ⟨-, p, left, value, text, hp, hsides, rfl⟩
  · cases he
  · obtain rfl := List.mem_singleton.1 he
    have := ((LiesIn.refl hx hchain.hasRange).chainBase k).laid.start_lt_stop
      (hchain.chainBase hx k).hasRange
    simp only [Edit.replace, hnode] at hempty
    omega
  · obtain rfl := Option.some.inj ((hp.symm.trans hparent).trans hq)
    have := hlaid.sides_ordered hsides
    rcases List.mem_pair.1 he with rfl | rfl
    · simp only [Edit.replace] at hempty
      omega
    · rfl

/-- Edits of one range are the same. -/
theorem eq_of_sameRange (hlaid : program.LaidIn source) (hformed : program.Formed)
    {rows : List (List Edit)} (hrows : List.Forall₂ Site.Changed (places program) rows) :
    ∀ e ∈ rows.flatten, ∀ f ∈ rows.flatten, e.SameRange f → e = f := by
  intro e he f hf hsame
  by_contra hne
  have hapart := places_apart hlaid hformed hrows
  have : Std.Symm Edit.Apart := ⟨fun _ _ => Edit.Apart.symm⟩
  have hbeside : e.stop ≤ f.start ∨ f.stop ≤ e.start := hapart.apart.forall he hf hne
  have hle := (Edit.fits_iff.1 (hapart.fits e he)).2.2
  obtain ⟨hstart, hstop⟩ := hsame
  have htext : e.text = f.text := by
    rw [text_of_insert hlaid hrows he (by omega), text_of_insert hlaid hrows hf (by omega)]
  refine hne ?_
  cases e
  cases f
  simp_all

/-- Rows for a list are rows for its parts. -/
theorem exists_forall₂_append {α β : Type} {R : α → β → Prop} {as as' : List α} {bs : List β}
    (h : List.Forall₂ R (as ++ as') bs) :
    ∃ cs cs', bs = cs ++ cs' ∧ List.Forall₂ R as cs ∧ List.Forall₂ R as' cs' :=
  ⟨bs.take as.length, bs.drop as.length, (List.take_append_drop _ _).symm,
    (List.forall₂_take_append bs as as' h.flip).flip,
    (List.forall₂_drop_append bs as as' h.flip).flip⟩

/-- An assignment to a place on a walk is laid out. -/
theorem laid_of_assignment (hlaid : program.LaidIn source) (hp : p ∈ program.walk)
    (hsides : p.plainAssignment? = some (left, value)) : p.Laid := by
  obtain ⟨y, hy, rfl⟩ := List.mem_map.1 hp
  rcases hlaid.mem_outline hy with rfl | ⟨hp, -⟩
  · rw [plainAssignment?, hlaid.isProgram] at hsides
    cases hsides
  · exact hp

/-- The places of a program are those around an assignment, the place that it sets, and those in its
value. -/
theorem exists_places_around (hlaid : program.LaidIn source) (hformed : program.Formed)
    (hp : p ∈ program.walk) (hsides : p.plainAssignment? = some (left, value))
    (hs : Site.whole? (some p) left = some s) :
    ∃ q front back,
      program.outline (without holdsReferences p) none = front ++ (q, p) :: back ∧
      places program = (front.filterMap fun x => Site.whole? x.1 x.2) ++
        (s :: placesIn (some p) value ++ back.filterMap fun x => Site.whole? x.1 x.2) := by
  have hlaidp := laid_of_assignment hlaid hp hsides
  obtain ⟨hkind, hchildren, -⟩ := hlaidp.sides hsides
  obtain ⟨q, hq⟩ := mem_outline_of_assignment hformed hp (by simp [hchildren]) hs
  obtain ⟨q, hq⟩ := mem_outline_without hq
  obtain ⟨front, back, hsplit⟩ := List.append_of_mem hq
  have hne := ne_of_outline_eq hlaid hlaidp hkind hsplit
  have hsame {l : List (Option Node × Node)} (hl : ∀ x ∈ l, x.2 ≠ p) :
      (l.flatMap fun x => if x.2 = p then x.2.outline holdsReferences x.1 else [x]) = l := by
    rw [List.flatMap_congr fun x hx => if_neg (hl x hx), List.flatMap_singleton']
  have hparent : q.any (·.chain?.isSome) = false := by
    rcases entered_of_mem_outline hq with rfl | ⟨p', rfl, henter⟩
    · rfl
    · have henter := (Bool.and_eq_true_iff.1 henter).1
      rw [holdsReferences_eq, Option.isNone_iff_eq_none] at henter
      simp [henter]
  refine ⟨q, front, back, hsplit, ?_⟩
  rw [places_eq hformed, outline_eq_flatMap holdsReferences p, hsplit, List.flatMap_append,
    List.flatMap_cons, if_pos rfl, hsame fun x hx => hne x (List.mem_append_left _ hx),
    hsame fun x hx => hne x (List.mem_append_right _ hx), List.filterMap_append,
    List.filterMap_append, ← filterMap_whole? (hformed.of_mem_walk hp) hparent]
  change _ ++ (placesIn q p ++ _) = _
  rw [placesIn_assignment hlaidp (hformed.of_mem_walk hp) hsides hs]

/-- If the place that an assignment sets becomes a call, the text is that of the call: what stands
between its parentheses is the text of the value, with what becomes of the places in it. -/
theorem exists_call {R : Site → List Edit → Prop} (hR : ∀ s edits, R s edits → s.Changed edits)
    (hlaid : program.LaidIn source) (hformed : program.Formed) {rows : List (List Edit)}
    (hrows : List.Forall₂ R (places program) rows) {text : String}
    (htext : applyEdits source rows.flatten = .ok text) (hp : p ∈ program.walk)
    (hsides : p.plainAssignment? = some (left, value)) (hs : Site.whole? (some p) left = some s) :
    ∃ edits inner, R s edits ∧ List.Forall₂ R (placesIn (some p) value) inner ∧
      ∀ placeholder, edits = setterEdits p value placeholder →
        ∃ front argument back before behind,
          text.toList =
            front ++ (placeholder ++ "(").toList ++ (argument ++ ")".toList ++ back) ∧
          Spliced 0 (source.toList.take p.start) before front ∧
          Spliced value.start (value.text source).toList (orderEdits inner.flatten) argument ∧
          Spliced p.stop (source.toList.drop p.stop) behind back := by
  have hlaidp := laid_of_assignment hlaid hp hsides
  obtain ⟨hkind, -⟩ := hlaidp.sides hsides
  have hordered := hlaidp.sides_ordered hsides
  obtain ⟨q, front, back, hsplit, hplaces⟩ := exists_places_around hlaid hformed hp hsides hs
  have hchanged : List.Forall₂ Site.Changed (places program) rows := hrows.imp hR
  have hsame := eq_of_sameRange hlaid hformed hchanged
  have hfits := (places_apart hlaid hformed hchanged).fits
  rw [hplaces] at hrows
  obtain ⟨first, rest, rfl, hfirst, hrest⟩ := exists_forall₂_append hrows
  obtain ⟨middle, second, rfl, hmiddle, hsecond⟩ := exists_forall₂_append hrest
  obtain ⟨edits, inner, hedits, hinner, rfl⟩ := List.forall₂_cons_left_iff.1 hmiddle
  refine ⟨edits, inner, hedits, hinner, fun placeholder hcall => ?_⟩
  subst hcall
  have houter := beside_assignment hlaid hlaidp hkind hsplit (hfirst.imp hR) (hsecond.imp hR)
  have hperm : (first ++ (setterEdits p value placeholder :: inner ++ second)).flatten.Perm
      (.replace p.start value.start (placeholder ++ "(") :: .replace value.stop p.stop ")" ::
        (inner.flatten ++ (first.flatten ++ second.flatten))) := by
    rw [List.perm_iff_count]
    intro e
    simp only [List.flatten_append, List.flatten_cons, setterEdits, List.count_append,
      List.count_cons, List.count_nil]
    omega
  have hproper : ∀ e ∈ first.flatten ++ second.flatten, e.start ≤ e.stop := fun e he =>
    (Edit.fits_iff.1 (hfits e (hperm.mem_iff.2 (List.mem_cons_of_mem _ (List.mem_cons_of_mem _
      (List.mem_append_right _ he)))))).2.2
  obtain ⟨text₁, argument, text₂, before, behind, htext, hfront, hargument, hback⟩ :=
    applyEdits_between hordered.1 hordered.2.1.le hordered.2.2 hperm
      (inside_value hlaidp hsides (hinner.imp hR)) (fun e he => ⟨hproper e he, houter e he⟩) hsame
      htext
  refine ⟨text₁, argument, text₂, before, behind, htext, hfront, ?_, hback⟩
  rwa [Node.text, slice, String.toList_ofList, List.drop_take]

/-! ## Setters -/

/-- An assignment to an export of another module becomes a call, if another module exports the setter.
-/
def Site.Calls (c : Context) (g : Findings) (s : Site) (edits : List Edit) : Prop :=
  ∀ p left value record setter, s.parent = some p → p.plainAssignment? = some (left, value) →
    s.isAssigned = true → c.settings.isRedirected (join "." s.path) = false →
    c.registry.lookup (join "." s.path) = some record → record.module ≠ c.moduleUrl →
    c.setter? s.path = some setter →
      ∃ placeholder, (placeholder, setter) ∈ g.references ∧ edits = setterEdits p value placeholder

theorem Site.Calls.mono {g h : Findings} {edits : List Edit} (hsubset : g.references ⊆ h.references)
    (hcalls : s.Calls c g edits) : s.Calls c h edits := by
  intro p left value record setter hp hsides hassigned hdirect hlookup hforeign hsetter
  obtain ⟨placeholder, hmem, hedits⟩ :=
    hcalls p left value record setter hp hsides hassigned hdirect hlookup hforeign hsetter
  exact ⟨placeholder, hsubset hmem, hedits⟩

/-- A path that is registered as a whole is resolved as a whole. -/
theorem resolve_whole {path : List String} {record : ExportRecord} (hpath : path ≠ [])
    (hdirect : c.settings.isRedirected (join "." path) = false)
    (hlookup : c.registry.lookup (join "." path) = some record)
    (hforeign : record.module ≠ c.moduleUrl) :
    c.resolve path path.length = .exported record path.length := by
  have hbeginning : beginning path path.length = join "." path := by
    rw [beginning, List.take_length]
  refine resolve_eq_exported.2 ⟨⟨⟨List.length_pos_iff.2 hpath, le_rfl, Or.inr ?_⟩,
    fun k hk => hk.2.1⟩, ?_, ?_, hforeign⟩
  · rw [hbeginning, hlookup]
    rfl
  · rw [hbeginning, hdirect]
  · rw [hbeginning, hlookup]

theorem collectSite_calls {f g : Findings} {edits : List Edit} (hf : f.Tracks c)
    (h : collectSite source s c f = .ok edits g) : s.Calls c g edits := by
  intro p left value record setter hp hsides hassigned hdirect hlookup hforeign hsetter
  obtain ⟨hsome, hother⟩ := Option.filter_eq_some_iff.1 hsetter
  obtain ⟨name, hname, hregistered⟩ := Option.bind_eq_some_iff.1 hsome
  have hpath : s.path ≠ [] := fun hnil => by
    rw [hnil] at hname
    cases hname
  unfold collectSite at h
  rw [bind_read, resolve_whole hpath hdirect hlookup hforeign] at h
  simp only [hassigned, beq_self_eq_true, Bool.and_self, if_true] at h
  unfold setExport at h
  rw [bind_read] at h
  simp only [hp, hsides, hsetter, Option.bind_some, Option.map_some] at h
  obtain ⟨placeholder, g', hplaceholder, hreturn⟩ := bind_eq_ok.1 h
  cases hreturn
  cases hplaceholder
  exact ⟨_, (placeholderFor_spec hf hregistered (bne_iff_ne.1 hother)).2.2, rfl⟩

/-- What becomes of the places of a program: the longest known part of the path decides, and assignments
to exports that have a setter become calls. -/
theorem collectReferences_rows {f : Findings} (hparse : parse source = .ok program)
    (hlaid : program.LaidIn source) (hformed : program.Formed) (hf : f.Tracks c) :
    ∃ rows text g, collectReferences source c f = .ok text g ∧
      applyEdits source rows.flatten = .ok text ∧
      List.Forall₂ (fun s edits => (Resolves c g s edits ∧ s.Calls c g edits) ∧ s.Changed edits)
        (places program) rows := by
  have hspelled : ∀ s ∈ referenceSites program, s.Spelled := fun s hs => by
    rw [referenceSites_eq hformed] at hs
    exact spelled_of_mem_places hformed (List.mem_of_mem_filter hs)
  obtain ⟨siteRows, g, hcollect, -, -, hsites⟩ := mapM_collectSite
    (R := fun g s edits => (Resolves c g s edits ∧ s.Calls c g edits) ∧ s.Changed edits)
    (fun _ _ _ _ hsubset h => ⟨⟨h.1.1.mono hsubset, h.1.2.mono hsubset⟩, h.2⟩)
    (fun s f hf hs => by
      obtain ⟨edits, g, hok, hg, hsubset, hresolves⟩ := collectSite_settled source hf hs
      exact ⟨edits, g, hok, hg, hsubset, ⟨hresolves, collectSite_calls hf hok⟩,
        collectSite_ok hok⟩) hf hspelled
  -- The window alone has no path, so nothing is known of it and it has no setter.
  have hwindow (s : Site) (hs : decide (s.path ≠ []) = false) :
      (Resolves c g s [] ∧ s.Calls c g []) ∧ s.Changed [] := by
    have hpath : s.path = [] := by simpa using hs
    refine ⟨⟨⟨fun k record hk => ?_, fun _ => rfl⟩,
      fun p left value record setter _ _ _ _ _ _ hsetter => ?_⟩, Or.inl rfl⟩
    · obtain ⟨⟨hpos, hle, -⟩, -⟩ := hk
      rw [hpath, List.length_nil] at hle
      omega
    · rw [hpath] at hsetter
      cases hsetter
  rw [referenceSites_eq hformed] at hsites
  obtain ⟨rows, hrows, hflatten⟩ := exists_forall₂_of_filter hwindow hsites
  obtain ⟨text, htext⟩ := (places_apart hlaid hformed (hrows.imp fun _ _ h => h.2)).applyEdits
  refine ⟨rows, text, g, ?_, htext, hrows⟩
  unfold collectReferences
  rw [bind_of_ok (readProgram_eq_ok.2 ⟨hparse, rfl⟩), bind_of_ok hcollect, ← hflatten]
  exact edit_eq_ok.2 ⟨htext, rfl⟩

/-- The assignment has become a call of the placeholder of the setter. Between the parentheses of the
call stands the text of the range of the value, and of that only what is collected in the value is
changed. The texts in front of the assignment and behind it are changed apart from it. -/
def BecomesCall (c : Context) (g : Findings) (source text : String) (p value : Node)
    (setter : ExportRecord) : Prop :=
  ∃ placeholder inner front argument back before behind,
    (placeholder, setter) ∈ g.references ∧
    List.Forall₂ (fun s edits => Resolves c g s edits ∧ s.Calls c g edits)
      (placesIn (some p) value) inner ∧
    text.toList = front ++ (placeholder ++ "(").toList ++ (argument ++ ")".toList ++ back) ∧
    Spliced 0 (source.toList.take p.start) before front ∧
    Spliced value.start (value.text source).toList (orderEdits inner.flatten) argument ∧
    Spliced p.stop (source.toList.drop p.stop) behind back

/-- The collection of references comes through every program. Every assignment to an export of another
module becomes a call of its setter, if another module exports that. The parentheses around a value are
not in its range, so the call is one with the text of the value and without them. -/
theorem collectReferences_calls_setters {f : Findings} (hparse : parse source = .ok program)
    (hlaid : program.LaidIn source) (hformed : program.Formed) (hf : f.Tracks c) :
    ∃ text g, collectReferences source c f = .ok text g ∧
      ∀ p ∈ program.walk, ∀ left value s record setter,
        p.plainAssignment? = some (left, value) → Site.whole? (some p) left = some s →
        c.settings.isRedirected (join "." s.path) = false →
        c.registry.lookup (join "." s.path) = some record → record.module ≠ c.moduleUrl →
        c.setter? s.path = some setter → BecomesCall c g source text p value setter := by
  obtain ⟨rows, text, g, hcollect, htext, hrows⟩ := collectReferences_rows hparse hlaid hformed hf
  refine ⟨text, g, hcollect, fun p hp left value s record setter hsides hs hdirect hlookup hforeign
    hsetter => ?_⟩
  obtain ⟨edits, inner, ⟨⟨-, hcalls⟩, -⟩, hinner, hcall⟩ :=
    exists_call (fun _ _ h => h.2) hlaid hformed hrows htext hp hsides hs
  obtain ⟨hparent, hnode, -⟩ := Site.whole?_eq_some hs
  have hassigned : s.isAssigned = true := by
    obtain ⟨hkind, -, hleft, -⟩ := (laid_of_assignment hlaid hp hsides).sides hsides
    simp [Site.isAssigned, Node.isAssigned, hparent, hnode, hkind, hleft]
  obtain ⟨placeholder, hmem, hedits⟩ :=
    hcalls p left value record setter hparent hsides hassigned hdirect hlookup hforeign hsetter
  obtain ⟨front, argument, back, before, behind, htext, hspliced⟩ := hcall placeholder hedits
  exact ⟨placeholder, inner, front, argument, back, before, behind, hmem,
    hinner.imp fun _ _ h => h.1, htext, hspliced⟩

/-- Another module exports a member and its setter. -/
def setterContext : Context where
  file := { url := "foo.html", contents := "" }
  moduleUrl := "./foo.js"
  settings := { namespaces := ["Polymer"] }
  registry := [⟨"Polymer.a", "./b.js", "a"⟩, ⟨"Polymer.setA", "./b.js", "setA"⟩]

theorem collectReferences_calls_setters_nested :
    ∃ program, parse "x = Polymer.a = f(Polymer.a);" = .ok program ∧
      (program.walk.any fun p => p.plainAssignment?.any fun sides =>
        (Site.whole? (some p) sides.1).any fun s =>
          s.path == ["Polymer", "a"] && (setterContext.setter? s.path).isSome) = true ∧
      ∃ text g,
        collectReferences "x = Polymer.a = f(Polymer.a);" setterContext
          (Findings.start "x = Polymer.a = f(Polymer.a);") = .ok text g ∧
        ∀ p ∈ program.walk, ∀ left value s record setter,
          p.plainAssignment? = some (left, value) → Site.whole? (some p) left = some s →
          setterContext.settings.isRedirected (join "." s.path) = false →
          setterContext.registry.lookup (join "." s.path) = some record →
          record.module ≠ setterContext.moduleUrl → setterContext.setter? s.path = some setter →
            BecomesCall setterContext g "x = Polymer.a = f(Polymer.a);" text p value setter := by
  obtain ⟨program, hparse, hprogram⟩ :=
    @exists_parse "x = Polymer.a = f(Polymer.a);" (fun program =>
      decide (program.LaidIn "x = Polymer.a = f(Polymer.a);" ∧ program.Formed) &&
        program.walk.any fun p => p.plainAssignment?.any fun sides =>
          (Site.whole? (some p) sides.1).any fun s =>
            s.path == ["Polymer", "a"] && (setterContext.setter? s.path).isSome)
      (by decide +kernel)
  obtain ⟨hranges, hsets⟩ := Bool.and_eq_true_iff.1 hprogram
  obtain ⟨hlaid, hformed⟩ := of_decide_eq_true hranges
  exact ⟨program, hparse, hsets,
    collectReferences_calls_setters hparse hlaid hformed (.start _ _)⟩

/-- The numbers of the arguments in the calls of a name. -/
def argumentCounts (program : Node) (name : String) : List Nat :=
  (program.walk.filter fun n =>
    n.kind == .callExpression && (n.child? .callee).any (·.name? == some name)).map
      fun n => (n.childrenIn .argument).length

/-- The program has an assignment to the export, and the collection of references makes of it a call of
the setter with this many arguments. -/
def CallsSetterWith (source : String) (count : Nat) : Prop :=
  ∃ before after placeholder, parse source = .ok before ∧
    (before.walk.any fun p => p.plainAssignment?.any fun sides =>
      sides.1.path? == some ["Polymer", "a"]) = true ∧
    (Pipeline.run [.collectReferences] setterContext source).failure = none ∧
    parse ((Pipeline.run [.collectReferences] setterContext source).text source) = .ok after ∧
    (placeholder, ⟨"Polymer.setA", "./b.js", "setA"⟩) ∈
      (Pipeline.run [.collectReferences] setterContext source).findings.references ∧
    argumentCounts after placeholder = [count]

/-- An assigned list of values loses its parentheses, so the setter is called with each of its values.
-/
theorem exists_value_taken_apart : CallsSetterWith "Polymer.a = (1, 2);" 2 := by
  obtain ⟨before, hbefore, h⟩ := @exists_parse "Polymer.a = (1, 2);" (fun before =>
    (before.walk.any fun p => p.plainAssignment?.any fun sides =>
        sides.1.path? == some ["Polymer", "a"]) &&
      (Pipeline.run [.collectReferences] setterContext "Polymer.a = (1, 2);").failure.isNone &&
      decide (("__modulizerref0__", ⟨"Polymer.setA", "./b.js", "setA"⟩) ∈
        (Pipeline.run [.collectReferences] setterContext
          "Polymer.a = (1, 2);").findings.references) &&
      (parse ((Pipeline.run [.collectReferences] setterContext
        "Polymer.a = (1, 2);").text "Polymer.a = (1, 2);")).toOption.any fun after =>
          argumentCounts after "__modulizerref0__" == [2]) (by decide +kernel)
  simp only [Bool.and_eq_true, Option.isNone_iff_eq_none, decide_eq_true_eq] at h
  obtain ⟨⟨⟨hsets, hfinished⟩, hmem⟩, h⟩ := h
  obtain ⟨after, hafter, hcount⟩ := exists_parse h
  exact ⟨before, after, "__modulizerref0__", hbefore, hsets, hfinished, hafter, hmem,
    beq_iff_eq.1 hcount⟩

end Pass

end HtmlModules
