import HtmlModules.Proofs.Placement
import HtmlModules.Proofs.Selection

/-!
# Source without some of its elements

The ranges that are cut out of a node are those of the outermost excluded elements below it. They
stand in order and apart from each other (`Node.Sound.inOrder_cuts`), and together they hold what lies
in any excluded element (`Node.Sound.isCovered_cuts_iff`). So one sweep over the text leaves the
characters of the node that lie in no excluded element below it (`Document.sourceWithout_select`).
-/

namespace HtmlModules.Markup

open Text

variable {exclude : List Element → Element → Bool} {around : List Element} {i : Nat}

/-! ## Ranges in order -/

/-- Ranges that stand one behind the other between two offsets. -/
def RangesInOrder (a b : Nat) : List (Nat × Nat) → Prop
  | [] => a ≤ b
  | (start, stop) :: ranges => a ≤ start ∧ start ≤ stop ∧ RangesInOrder stop b ranges

/-- The offset lies in one of the ranges. -/
def IsCovered (ranges : List (Nat × Nat)) (i : Nat) : Prop := ∃ r ∈ ranges, r.1 ≤ i ∧ i < r.2

instance (ranges : List (Nat × Nat)) (i : Nat) : Decidable (IsCovered ranges i) :=
  inferInstanceAs (Decidable (∃ r ∈ ranges, _))

theorem isCovered_nil : ¬IsCovered [] i := by simp [IsCovered]

/-- A place is covered by the first range or by one of the rest. -/
theorem isCovered_cons {r : Nat × Nat} {ranges : List (Nat × Nat)} :
    IsCovered (r :: ranges) i ↔ (r.1 ≤ i ∧ i < r.2) ∨ IsCovered ranges i := by
  simp [IsCovered]

theorem isCovered_append {ranges others : List (Nat × Nat)} :
    IsCovered (ranges ++ others) i ↔ IsCovered ranges i ∨ IsCovered others i := by
  simp [IsCovered, or_and_right, exists_or]

namespace RangesInOrder

/-- Ranges in order go up from their lower bound to their upper one. -/
theorem le : ∀ {ranges : List (Nat × Nat)} {a b : Nat}, RangesInOrder a b ranges → a ≤ b
  | [], _, _, h => h
  | _ :: _, _, _, ⟨ha, hr, h⟩ => Nat.le_trans ha (Nat.le_trans hr h.le)

/-- Ranges in order behind ranges in order are in order. -/
theorem append {b c : Nat} {others : List (Nat × Nat)} (h' : RangesInOrder b c others) :
    ∀ {ranges : List (Nat × Nat)} {a : Nat}, RangesInOrder a b ranges →
      RangesInOrder a c (ranges ++ others)
  | [], _, h => by
    cases others with
    | nil => exact Nat.le_trans h h'
    | cons r others => exact ⟨Nat.le_trans h h'.1, h'.2⟩
  | _ :: _, _, ⟨ha, hr, h⟩ => ⟨ha, hr, append h' h⟩

/-- Ranges in order are in order between wider bounds. -/
theorem mono {a b c d : Nat} {ranges : List (Nat × Nat)} (h : RangesInOrder b c ranges)
    (hab : a ≤ b) (hcd : c ≤ d) : RangesInOrder a d ranges := by
  have hc : RangesInOrder c d [] := hcd
  have hb : RangesInOrder a b [] := hab
  have hranges := append (append hc h) hb
  rwa [List.append_nil, List.nil_append] at hranges

theorem le_of_isCovered : ∀ {ranges : List (Nat × Nat)} {a b : Nat}, RangesInOrder a b ranges →
    IsCovered ranges i → a ≤ i
  | [], _, _, _, hi => absurd hi isCovered_nil
  | _ :: _, _, _, ⟨ha, hr, h⟩, hi => by
    rcases isCovered_cons.1 hi with hi | hi
    · exact Nat.le_trans ha hi.1
    · exact Nat.le_trans ha (Nat.le_trans hr (h.le_of_isCovered hi))

end RangesInOrder

/-- Cutting ranges out of a text leaves the characters that lie in none of them. -/
theorem cutOut_eq_select {contents : String} {stop : Nat} (hstop : stop ≤ contents.length) :
    ∀ {ranges : List (Nat × Nat)} {position : Nat}, RangesInOrder position stop ranges →
      (cutOut contents stop position ranges).toList =
        select (fun i => ¬IsCovered ranges i) position (slice contents position stop).toList
  | [], position, _ => by
    rw [cutOut, select_of_forall fun i _ _ => isCovered_nil]
  | (first, last) :: ranges, position, ⟨hfirst, hlast, h⟩ => by
    have hle := h.le
    have hgap : select (fun i => ¬IsCovered ((first, last) :: ranges) i) position
        (slice contents position first).toList = (slice contents position first).toList := by
      refine select_of_forall fun i _ hi => ?_
      have hi := lt_of_lt_add_length_slice ‹_› hi
      rw [isCovered_cons, not_or]
      refine ⟨fun hr => ?_, fun hr => ?_⟩
      · exact absurd hr.1 (Nat.not_le.2 hi)
      · have := h.le_of_isCovered hr
        omega
    have hcut : select (fun i => ¬IsCovered ((first, last) :: ranges) i) first
        (slice contents first last).toList = [] := by
      refine select_of_forall_not fun i hi hi' => ?_
      rw [Classical.not_not, isCovered_cons]
      exact Or.inl ⟨hi, lt_of_lt_add_length_slice hi hi'⟩
    have hrest : select (fun i => ¬IsCovered ((first, last) :: ranges) i) last
        (slice contents last stop).toList =
          select (fun i => ¬IsCovered ranges i) last (slice contents last stop).toList := by
      refine select_congr fun i hi _ => ?_
      rw [isCovered_cons]
      simp only [Nat.not_lt.2 hi, and_false, false_or]
    rw [cutOut, String.toList_append, cutOut_eq_select hstop h,
      ← slice_append_slice contents hfirst (hlast.trans hle), ← slice_append_slice contents hlast hle,
      String.toList_append, String.toList_append, select_append, select_append,
      add_length_slice hfirst (by omega), add_length_slice hlast (by omega), hgap, hcut, hrest,
      List.nil_append]

/-! ## Elements below a node -/

/-- The offset lies in the element. -/
def Element.Spans (e : Element) (i : Nat) : Prop := e.start ≤ i ∧ i < e.stop

instance (e : Element) (i : Nat) : Decidable (e.Spans i) := inferInstanceAs (Decidable (_ ∧ _))

/-- The elements below a node, in document order. -/
def Node.elementsBelow (around : List Element) : Node → List PlacedElement
  | .element e cs => elementsOf (outlineAll (e :: around) cs)
  | _ => []

/-- One of the elements is excluded and holds the offset. -/
def LiesInExcluded (exclude : List Element → Element → Bool) (ps : List PlacedElement) (i : Nat) :
    Prop :=
  ∃ p ∈ ps, exclude p.around p.element = true ∧ p.element.Spans i

instance (ps : List PlacedElement) (i : Nat) : Decidable (LiesInExcluded exclude ps i) :=
  inferInstanceAs (Decidable (∃ p ∈ ps, _))

theorem liesInExcluded_append {ps qs : List PlacedElement} :
    LiesInExcluded exclude (ps ++ qs) i ↔
      LiesInExcluded exclude ps i ∨ LiesInExcluded exclude qs i := by
  simp [LiesInExcluded, or_and_right, exists_or]

theorem liesInExcluded_cons {p : PlacedElement} {ps : List PlacedElement} :
    LiesInExcluded exclude (p :: ps) i ↔
      (exclude p.around p.element = true ∧ p.element.Spans i) ∨ LiesInExcluded exclude ps i := by
  simp [LiesInExcluded]

/-- The elements of a row are the first one, those below it, and those of the rest. -/
theorem elementsOf_outlineAll_cons (around : List Element) (e : Element) (cs ns : List Node) :
    elementsOf (Node.outlineAll around (.element e cs :: ns)) =
      ⟨around, e, cs⟩ :: ((Node.element e cs).elementsBelow around ++
        elementsOf (Node.outlineAll around ns)) := by
  simp [elementsOf, Node.outlineAll, Node.outline, Node.elementsBelow]

theorem elementsOf_outlineAll_cons_of_element?_eq_none {n : Node} (h : n.element? = none)
    (around : List Element) (ns : List Node) :
    elementsOf (Node.outlineAll around (n :: ns)) = elementsOf (Node.outlineAll around ns) := by
  cases n <;> simp_all [elementsOf, Node.outlineAll, Node.outline, Node.element?]

/-- What is below an element lies in it. -/
theorem Node.Sound.spans_of_mem {e : Element} {cs : List Node} {p : PlacedElement}
    (h : (Node.element e cs).Sound) (hp : p ∈ (Node.element e cs).elementsBelow around)
    (hi : p.element.Spans i) : e.Spans i := by
  obtain ⟨hstart, hcs, hstop, -⟩ := h
  obtain ⟨hle, hge⟩ := hcs.bounds_outlineAll (mem_elementsOf.1 hp)
  exact ⟨Nat.le_trans (Nat.le_of_lt hstart) (Nat.le_trans hle hi.1),
    Nat.lt_of_lt_of_le hi.2 (Nat.le_trans hge hstop)⟩

mutual

/-- The ranges that are cut out of a node stand in order in it. -/
theorem Node.Sound.inOrder_cuts : ∀ {n : Node} {around : List Element}, n.Sound →
    RangesInOrder n.start n.stop (n.cuts exclude around)
  | .element e cs, around, ⟨hstart, hcs, hstop, _⟩ => by
    rw [Node.cuts]
    exact hcs.inOrder_cutsOf.mono (Nat.le_of_lt hstart) hstop
  | .text .., _, h | .comment .., _, h | .declaration .., _, h => h

/-- What is cut out of a row of nodes is in order, between the bounds of the row. -/
theorem InOrder.inOrder_cutsOf : ∀ {ns : List Node} {a b : Nat} {around : List Element},
    InOrder a b ns → RangesInOrder a b (cutsOf exclude around ns)
  | [], _, _, _, h => h
  | n :: ns, a, b, around, ⟨ha, hn, hns⟩ => by
    have hrest : RangesInOrder n.stop b (cutsOf exclude around ns) := hns.inOrder_cutsOf
    rw [cutsOf]
    split
    · next e he =>
      obtain ⟨cs, rfl⟩ : ∃ cs, n = .element e cs := by
        cases n <;> simp_all [Node.element?]
      split_ifs
      · exact ⟨ha, hn.start_le, hrest⟩
      · exact RangesInOrder.append hrest (hn.inOrder_cuts.mono ha (Nat.le_refl _))
    · exact hrest.mono (Nat.le_trans ha hn.start_le) (Nat.le_refl _)

end

mutual

/-- The ranges that are cut out of a node hold what lies in an excluded element below it: such an
element is cut out itself, or it is inside one that is. -/
theorem Node.Sound.isCovered_cuts_iff : ∀ {n : Node} {around : List Element}, n.Sound →
    (IsCovered (n.cuts exclude around) i ↔ LiesInExcluded exclude (n.elementsBelow around) i)
  | .element e cs, around, ⟨_, hcs, _, _⟩ => by
    rw [Node.cuts]
    exact hcs.isCovered_cutsOf_iff
  | .text .., _, _ | .comment .., _, _ | .declaration .., _, _ => by
    simp [Node.cuts, Node.elementsBelow, IsCovered, LiesInExcluded]

/-- What is cut out of a row of nodes is what lies in an excluded element of it. An element that is
excluded is cut out with all that is in it, so the induction goes on only into those that stay. -/
theorem InOrder.isCovered_cutsOf_iff : ∀ {ns : List Node} {a b : Nat} {around : List Element},
    InOrder a b ns → (IsCovered (cutsOf exclude around ns) i ↔
      LiesInExcluded exclude (elementsOf (Node.outlineAll around ns)) i)
  | [], _, _, _, _ => by
    simp [cutsOf, elementsOf, Node.outlineAll, IsCovered, LiesInExcluded]
  | n :: ns, a, b, around, ⟨ha, hn, hns⟩ => by
    rw [cutsOf, isCovered_append, hns.isCovered_cutsOf_iff]
    split
    · next e he =>
      obtain ⟨cs, rfl⟩ : ∃ cs, n = .element e cs := by
        cases n <;> simp_all [Node.element?]
      rw [elementsOf_outlineAll_cons, liesInExcluded_cons, liesInExcluded_append, ← or_assoc]
      refine or_congr_left ?_
      split_ifs with hexclude
      · have hbelow (h : LiesInExcluded exclude ((Node.element e cs).elementsBelow around) i) :
            e.Spans i := by
          obtain ⟨p, hp, -, hi⟩ := h
          exact hn.spans_of_mem hp hi
        simp only [isCovered_cons, isCovered_nil, or_false, hexclude, true_and]
        exact ⟨Or.inl, fun h => h.elim id hbelow⟩
      · rw [hn.isCovered_cuts_iff]
        simp [hexclude]
    · next hnone =>
      rw [elementsOf_outlineAll_cons_of_element?_eq_none hnone]
      simp [isCovered_nil]

end

/-! ## Documents -/

namespace Document

variable {contents : String} {d : Document}

/-- The offset lies in the node, and in no excluded element below it. -/
def Stays (exclude : List Element → Element → Bool) (around : List Element) (n : Node) (i : Nat) :
    Prop :=
  n.start ≤ i ∧ i < n.stop ∧ ¬LiesInExcluded exclude (n.elementsBelow around) i

instance (n : Node) : DecidablePred (Stays exclude around n) :=
  fun _ => inferInstanceAs (Decidable (_ ∧ _))

/-- The source of a node without the excluded elements is made of the places that stay. -/
theorem sourceWithout_eq_select {n : Node} (hn : n.Sound) (hstop : n.stop ≤ d.contents.length) :
    (d.sourceWithout exclude around n).toList =
      select (Stays exclude around n) 0 d.contents.toList := by
  have hinside : ∀ i, Stays exclude around n i → n.start ≤ i ∧ i < n.stop := fun i hi =>
    ⟨hi.1, hi.2.1⟩
  calc (d.sourceWithout exclude around n).toList
      = select (fun i => ¬IsCovered (n.cuts exclude around) i) n.start
          (slice d.contents n.start n.stop).toList := cutOut_eq_select hstop hn.inOrder_cuts
    _ = select (Stays exclude around n) n.start (slice d.contents n.start n.stop).toList := by
        refine select_congr fun i hi hi' => ?_
        rw [hn.isCovered_cuts_iff]
        exact ⟨fun h => ⟨hi, lt_of_lt_add_length_slice hi hi', h⟩, fun h => h.2.2⟩
    _ = select (Stays exclude around n) 0 (slice d.contents 0 d.contents.length).toList :=
        (select_slice (Nat.zero_le _) hstop (Nat.le_refl _) hinside).symm
    _ = select (Stays exclude around n) 0 d.contents.toList := by rw [slice_zero_length]

/-- No two elements of a document start at one offset, so every choice among them can be made by
looking at an element without its children. -/
theorem exists_exclude (h : parse contents = .ok d) (choice : PlacedElement → Bool) :
    ∃ exclude : List Element → Element → Bool,
      ∀ p ∈ d.elements, exclude p.around p.element = choice p := by
  refine ⟨fun _ e => d.elements.any fun q => q.element.start == e.start && choice q, fun p hp => ?_⟩
  rw [Bool.eq_iff_iff, List.any_eq_true]
  constructor
  · rintro ⟨q, hq, hchoice⟩
    rw [Bool.and_eq_true, beq_iff_eq] at hchoice
    obtain rfl := eq_of_start_eq h hq hp hchoice.1
    exact hchoice.2
  · exact fun hchoice => ⟨p, hp, by simp [hchoice]⟩

/-- The source of a node without the elements below it that are chosen: whatever is chosen among the
elements of the document, the characters of the node stay that lie in no chosen element below it, in
their order. -/
theorem sourceWithout_select (h : parse contents = .ok d) {n : Node}
    (hn : (around, n) ∈ d.outline) :
    d.contents = contents ∧
      (∀ exclude, (d.sourceWithout exclude around n).toList =
        select (Stays exclude around n) 0 contents.toList) ∧
      ∀ choice : PlacedElement → Bool, ∃ exclude : List Element → Element → Bool,
        ∀ p ∈ d.elements, exclude p.around p.element = choice p := by
  obtain ⟨hcontents, horder⟩ := parse_ok h
  have hsound : n.Sound := horder.sound_of_mem_outlineAll hn
  have hstop : n.stop ≤ contents.length := (horder.bounds_outlineAll hn).2
  subst hcontents
  exact ⟨rfl, fun exclude => sourceWithout_eq_select hsound hstop, exists_exclude h⟩

/-- An excluded element inside an excluded one, another one behind it, and an element that stays. -/
def nestedCuts : String := "<div><b>x<script>y</script></b>z<script>u</script><i>k</i></div>"

theorem sourceWithout_select_nested :
    ∃ d n, parse nestedCuts = .ok d ∧ ([], n) ∈ d.outline ∧
      d.sourceWithout (fun _ e => ["b", "script"].contains e.tag) [] n = "<div>z<i>k</i></div>" ∧
      ∀ exclude, (d.sourceWithout exclude [] n).toList =
        select (Stays exclude [] n) 0 nestedCuts.toList := by
  have hread : (parse nestedCuts).toBool = true := by decide +kernel
  have hparse := Failing.eq_ok_getD hread ⟨"", []⟩
  obtain ⟨n, hn, hsource⟩ : ∃ n, ((parse nestedCuts).toOption.getD ⟨"", []⟩).nodes.head? = some n ∧
      ((parse nestedCuts).toOption.getD ⟨"", []⟩).sourceWithout
        (fun _ e => ["b", "script"].contains e.tag) [] n = "<div>z<i>k</i></div>" :=
    ⟨_, Option.eq_some_of_isSome (by decide +kernel), by decide +kernel⟩
  have hroot := mem_outline_root_iff.2 (List.mem_of_head? hn)
  exact ⟨_, n, hparse, hroot, hsource, (sourceWithout_select hparse hroot).2.1⟩

end Document

end HtmlModules.Markup
