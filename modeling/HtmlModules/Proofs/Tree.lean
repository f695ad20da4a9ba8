import HtmlModules.Markup.Document
import HtmlModules.Proofs.Event
import Mathlib.Data.List.Basic
import Mathlib.Data.List.Pairwise

/-!
# Ranges in the tree of a document

The nodes of a document stand one behind the other, and the children of an element stand between its
tags, also where end tags are missing (`inOrder_nodesOf`). So of two elements the later one begins
behind the earlier one or lies between its tags (`pairwise_elements`), and every element lies in the
text (`inside_elements`). Between the tags of raw and of void elements there is nothing but text.
-/

namespace HtmlModules.Markup

/-! ## Nodes in order -/

/-- The tags of elements that hold no other elements. -/
def leafTags : List String := rawTags ++ Builder.voidTags

mutual

/-- The node does not end before it starts; if it is an element, its start tag is not empty and its
children stand between its tags, all of them texts if it is a leaf. -/
def Node.Sound : Node → Prop
  | .element e cs =>
    e.start < e.innerStart ∧ InOrder e.innerStart e.innerStop cs ∧ e.innerStop ≤ e.stop ∧
      (e.tag ∈ leafTags → ∀ n ∈ cs, ∃ a b s, n = .text a b s)
  | .text a b _ | .comment a b _ | .declaration a b => a ≤ b

/-- The nodes stand one behind the other between two offsets. -/
def InOrder (a b : Nat) : List Node → Prop
  | [] => a ≤ b
  | n :: ns => a ≤ n.start ∧ n.Sound ∧ InOrder n.stop b ns

end

/-- The nodes, the last one first, stand one behind the other between two offsets. -/
def InReverse (a b : Nat) : List Node → Prop
  | [] => a ≤ b
  | n :: ns => n.stop ≤ b ∧ n.Sound ∧ InReverse a n.start ns

mutual

/-- A sound node does not end in front of its start. -/
theorem Node.Sound.start_le : ∀ {n : Node}, n.Sound → n.start ≤ n.stop
  | .element .., ⟨hstart, hcs, hstop, _⟩ =>
    Nat.le_trans (Nat.le_of_lt hstart) (Nat.le_trans hcs.le hstop)
  | .text .., h | .comment .., h | .declaration .., h => h

/-- Nodes in order go up from their lower bound to their upper one. -/
theorem InOrder.le : ∀ {a b : Nat} {ns : List Node}, InOrder a b ns → a ≤ b
  | _, _, [], h => h
  | _, _, _ :: _, ⟨ha, hn, hns⟩ => Nat.le_trans ha (Nat.le_trans hn.start_le hns.le)

end

/-- Nodes in reverse order are so below a higher bound. -/
theorem InReverse.mono {a b b' : Nat} (hb : b ≤ b') :
    ∀ {ns : List Node}, InReverse a b ns → InReverse a b' ns
  | [], h => Nat.le_trans h hb
  | _ :: _, ⟨hstop, hn, hns⟩ => ⟨Nat.le_trans hstop hb, hn, hns⟩

/-- A node behind nodes in order is in order with them. -/
theorem InOrder.concat {n : Node} {b : Nat} (hn : n.Sound) (hb : n.stop ≤ b) :
    ∀ {ns : List Node} {a : Nat}, InOrder a n.start ns → InOrder a b (ns ++ [n])
  | [], _, h => ⟨h, hn, hb⟩
  | _ :: _, _, ⟨ha, hm, hns⟩ => ⟨ha, hm, hns.concat hn hb⟩

/-- Nodes in reverse order are in order when they are reversed. -/
theorem InReverse.reverse : ∀ {a b : Nat} {ns : List Node}, InReverse a b ns →
    InOrder a b ns.reverse
  | _, _, [], h => h
  | _, _, _ :: _, ⟨hb, hn, hns⟩ => by
    rw [List.reverse_cons]
    exact hns.reverse.concat hn hb

/-- A node may stand behind others, also if it continues the last of them. -/
theorem InReverse.push {n : Node} (hn : n.Sound) :
    ∀ {a : Nat} {ns : List Node}, InReverse a n.start ns → InReverse a n.stop (push n ns) := by
  intro a ns h
  unfold Markup.push
  split
  · next b s c d t rest =>
    obtain ⟨hd, hm, hrest⟩ := h
    split_ifs with hcontinued
    · exact ⟨Nat.le_refl _, Nat.le_trans hm.start_le (Nat.le_trans hd hn), hrest⟩
    · exact ⟨Nat.le_refl _, hn, hd, hm, hrest⟩
  · exact ⟨Nat.le_refl _, hn, h⟩

/-! ## Building the tree -/

/-- An open element whose children stand in order behind its start tag and in front of an offset; it
is not a leaf. -/
structure OpenElement.Sound (offset : Nat) (o : OpenElement) : Prop where
  start_lt : o.start < o.innerStart
  children : InReverse o.innerStart offset o.children
  not_leaf : o.tag ∉ leafTags

/-- The open elements and the closed roots stand in order in front of an offset, each element behind
those that are before it. -/
def Stacked (roots : List Node) : Nat → List OpenElement → Prop
  | offset, [] => InReverse 0 offset roots
  | offset, o :: opened => o.Sound offset ∧ Stacked roots o.start opened

/-- Children can be added to an open element. -/
theorem OpenElement.Sound.push {o : OpenElement} {n : Node} (ho : o.Sound n.start) (hn : n.Sound) :
    ({ o with children := Markup.push n o.children } : OpenElement).Sound n.stop :=
  ⟨ho.start_lt, ho.children.push hn, ho.not_leaf⟩

theorem OpenElement.Sound.mono {o : OpenElement} {offset offset' : Nat} (ho : o.Sound offset)
    (hle : offset ≤ offset') : o.Sound offset' :=
  { ho with children := ho.children.mono hle }

/-- An open element can be closed behind its children. -/
theorem OpenElement.Sound.close {o : OpenElement} {start stop : Nat} (ho : o.Sound start)
    (hle : start ≤ stop) : (o.close start stop).Sound :=
  ⟨ho.start_lt, ho.children.reverse, hle, fun hleaf => absurd hleaf ho.not_leaf⟩

/-- A sound element can be closed where its children end. -/
theorem OpenElement.Sound.closeHere {o : OpenElement} {offset : Nat} (ho : o.Sound offset) :
    o.closeHere.Sound ∧ o.closeHere.stop ≤ offset := by
  have hchildren := ho.children
  unfold OpenElement.closeHere
  cases hcs : o.children with
  | nil =>
    rw [hcs] at hchildren
    refine ⟨close { ho with children := ?_ } (Nat.le_refl _), hchildren⟩
    rw [hcs]
    exact Nat.le_refl _
  | cons n ns =>
    rw [hcs] at hchildren
    refine ⟨close { ho with children := ?_ } (Nat.le_refl _), hchildren.1⟩
    rw [hcs]
    exact ⟨Nat.le_refl _, hchildren.2⟩

namespace Stacked

variable {roots : List Node} {opened : List OpenElement} {o : OpenElement} {offset limit : Nat}

/-- What is open stays stacked as scanning goes on. -/
theorem mono {offset' : Nat} (hle : offset ≤ offset') :
    ∀ {opened : List OpenElement}, Stacked roots offset opened → Stacked roots offset' opened
  | [], h => InReverse.mono hle h
  | _ :: _, ⟨ho, hopened⟩ => ⟨ho.mono hle, hopened⟩

/-- A node behind the offset can be added. -/
theorem add {n : Node} (hn : n.Sound) (h : Stacked roots n.start opened) :
    Stacked (Builder.add ⟨roots, opened⟩ n).roots n.stop (Builder.add ⟨roots, opened⟩ n).opened := by
  cases opened with
  | nil => exact InReverse.push hn h
  | cons o opened => exact ⟨h.1.push hn, h.2⟩

/-- An open element can be closed behind its last child, and becomes a child of the next one. -/
theorem fold {p : OpenElement} (h : Stacked roots offset (o :: p :: opened)) :
    Stacked roots offset ({ p with children := push o.closeHere p.children } :: opened) := by
  obtain ⟨ho, hp, hopened⟩ := h
  obtain ⟨hsound, hstop⟩ := ho.closeHere
  exact ⟨(OpenElement.Sound.push (n := o.closeHere) hp hsound).mono hstop, hopened⟩

/-- An end tag leaves what is open stacked, whether it closes something or not. -/
theorem closeTag {tag : String} {start stop : Nat} (hle : start ≤ stop) :
    ∀ {opened : List OpenElement}, Stacked roots start opened →
      Stacked (Builder.closeTag tag start stop roots opened).roots stop
        (Builder.closeTag tag start stop roots opened).opened
  | [], h => by
    rw [Builder.closeTag]
    exact InReverse.mono hle h
  | [o], h => by
    obtain ⟨ho, hroots⟩ := h
    rw [Builder.closeTag]
    split_ifs
    · exact add (ho.close hle) hroots
    · obtain ⟨hsound, hstop⟩ := ho.closeHere
      exact (add hsound hroots).mono (Nat.le_trans hstop hle)
  | o :: p :: rest, h => by
    rw [Builder.closeTag]
    split_ifs
    · exact add (h.1.close hle) h.2
    · exact closeTag hle h.fold
termination_by opened => opened.length

/-- An event that begins at the offset can be taken in. -/
theorem step {b : Builder} {e : Event} (h : Stacked b.roots offset b.opened)
    (he : e.Covers offset limit) : Stacked (b.step e).roots e.stop (b.step e).opened := by
  obtain ⟨rfl, hlt, -, hinside⟩ := he
  have hle := Nat.le_of_lt hlt
  unfold Builder.step
  cases hkind : e.kind with
  | text s => exact add (n := .text e.start e.stop s) hle h
  | comment data => exact add (n := .comment e.start e.stop data) hle h
  | declaration => exact add (n := .declaration e.start e.stop) hle h
  | startTag tag attributes selfClosing =>
    rw [hkind] at hinside
    dsimp only
    split_ifs with hchildless
    · exact add (n := .element ⟨e.start, e.stop, tag, _, e.stop, e.stop⟩ [])
        ⟨hlt, Nat.le_refl _, Nat.le_refl _, fun _ _ hn => absurd hn List.not_mem_nil⟩ h
    · have hleaf : tag ∉ leafTags := fun hmem =>
        (List.mem_append.1 hmem).elim hinside fun hvoid =>
          hchildless (Bool.or_eq_true_iff.2 (.inr (List.contains_iff_mem.2 hvoid)))
      exact ⟨⟨hlt, Nat.le_refl _, hleaf⟩, h⟩
  | endTag tag =>
    dsimp only
    split_ifs
    · exact closeTag hle h
    · exact h.mono hle
  | rawElement tag attributes innerStart innerStop text =>
    rw [hkind] at hinside
    obtain ⟨hinner, hcontents, hstop⟩ := hinside
    dsimp only
    refine add (n := .element ⟨e.start, e.stop, tag, _, innerStart, innerStop⟩ _)
      ⟨hinner, ?_, hstop, ?_⟩ h
    · split_ifs
      · exact hcontents
      · exact ⟨Nat.le_refl _, hcontents, Nat.le_refl _⟩
    · rintro - n hn
      split_ifs at hn
      · cases hn
      · exact ⟨_, _, _, List.mem_singleton.1 hn⟩

/-- Events that tile the text leave what is open stacked, by induction on the events. -/
theorem foldl_step :
    ∀ {events : List Event} {b : Builder} {offset : Nat}, Stacked b.roots offset b.opened →
      Tiles limit offset events →
      Stacked (events.foldl Builder.step b).roots limit (events.foldl Builder.step b).opened
  | [], _, _, h, hlimit => h.mono hlimit
  | e :: _, b, _, h, ⟨he, hevents⟩ => foldl_step (b := b.step e) (h.step he) hevents

/-- To close what is still open puts the roots in order. -/
theorem finish : ∀ {opened : List OpenElement}, Stacked roots limit opened →
    InOrder 0 limit (Builder.finish roots opened)
  | [], h => by
    rw [Builder.finish]
    exact InReverse.reverse h
  | [o], ⟨ho, hroots⟩ => by
    obtain ⟨hsound, hstop⟩ := ho.closeHere
    rw [Builder.finish]
    exact ((InReverse.push hsound hroots).mono hstop).reverse
  | o :: p :: rest, h => by
    rw [Builder.finish]
    exact finish h.fold
termination_by opened => opened.length

end Stacked

/-- The nodes that events spell stand in order. -/
theorem inOrder_nodesOf {limit : Nat} {events : List Event} (h : Tiles limit 0 events) :
    InOrder 0 limit (nodesOf events) :=
  (Stacked.foldl_step (b := {}) (Nat.le_refl 0) h).finish

/-! ## Elements in document order -/

namespace Element

/-- The element lies between two offsets, and its parts follow each other. -/
structure Inside (a b : Nat) (e : Element) : Prop where
  le_start : a ≤ e.start
  start_lt : e.start < e.innerStart
  inner_le : e.innerStart ≤ e.innerStop
  innerStop_le : e.innerStop ≤ e.stop
  stop_le : e.stop ≤ b

theorem Inside.mono {a b a' b' : Nat} {e : Element} (h : e.Inside a b) (ha : a' ≤ a)
    (hb : b ≤ b') : e.Inside a' b' :=
  { h with le_start := Nat.le_trans ha h.le_start, stop_le := Nat.le_trans h.stop_le hb }

/-- The second element stands between the tags of the first one, which is no leaf. -/
def Holds (e f : Element) : Prop :=
  e.tag ∉ leafTags ∧ e.innerStart ≤ f.start ∧ f.stop ≤ e.innerStop

instance (e f : Element) : Decidable (e.Holds f) := inferInstanceAs (Decidable (_ ∧ _))

/-- The second element stands behind the first one or between its tags. -/
def Precedes (e f : Element) : Prop := e.stop ≤ f.start ∨ e.Holds f

theorem Precedes.start_lt {a b : Nat} {e f : Element} (h : e.Precedes f) (he : e.Inside a b) :
    e.start < f.start := by
  rcases h with hstop | ⟨-, hinner, -⟩
  · exact Nat.lt_of_lt_of_le he.start_lt
      (Nat.le_trans he.inner_le (Nat.le_trans he.innerStop_le hstop))
  · exact Nat.lt_of_lt_of_le he.start_lt hinner

end Element

/-- The elements of nodes in document order. -/
def elementsIn (around : List Element) (ns : List Node) : List Element :=
  (elementsOf (Node.outlineAll around ns)).map (·.element)

/-- The elements of a row are the first one, those in it and those of the rest. -/
theorem elementsIn_cons_element (around : List Element) (e : Element) (cs ns : List Node) :
    elementsIn around (.element e cs :: ns) =
      e :: (elementsIn (e :: around) cs ++ elementsIn around ns) := by
  simp [elementsIn, elementsOf, Node.outlineAll, Node.outline]

theorem elementsIn_cons_of_element?_eq_none {n : Node} (h : n.element? = none)
    (around : List Element) (ns : List Node) :
    elementsIn around (n :: ns) = elementsIn around ns := by
  cases n <;> simp_all [elementsIn, elementsOf, Node.outlineAll, Node.outline, Node.element?]

theorem elementsIn_eq_nil (around : List Element) :
    ∀ {ns : List Node}, (∀ n ∈ ns, n.element? = none) → elementsIn around ns = []
  | [], _ => rfl
  | n :: ns, h => by
    rw [elementsIn_cons_of_element?_eq_none (h n (by simp))]
    exact elementsIn_eq_nil around fun m hm => h m (List.mem_cons_of_mem n hm)

/-- The elements of nodes in order lie between the same offsets. -/
theorem InOrder.inside : ∀ {ns : List Node} {a b : Nat}, InOrder a b ns →
    ∀ (around : List Element), ∀ e ∈ elementsIn around ns, e.Inside a b
  | [], _, _, _, _, _, he => by simp [elementsIn, elementsOf, Node.outlineAll] at he
  | n :: ns, a, b, ⟨ha, hn, hns⟩, around, e, he => by
    have hle := hn.start_le
    cases hne : n.element? with
    | none =>
      rw [elementsIn_cons_of_element?_eq_none hne] at he
      exact (hns.inside around e he).mono (Nat.le_trans ha hle) (Nat.le_refl _)
    | some f =>
      cases n with
      | element f cs =>
        obtain ⟨hstart, hcs, hstop, -⟩ := hn
        rw [elementsIn_cons_element] at he
        rcases List.mem_cons.1 he with rfl | he
        · exact ⟨ha, hstart, hcs.le, hstop, hns.le⟩
        · rcases List.mem_append.1 he with he | he
          · exact (hcs.inside _ e he).mono (Nat.le_trans ha (Nat.le_of_lt hstart))
              (Nat.le_trans hstop hns.le)
          · exact (hns.inside around e he).mono (Nat.le_trans ha hle) (Nat.le_refl _)
      | _ => cases hne

/-- Of nodes in order, later elements stand behind earlier ones or between their tags. -/
theorem InOrder.pairwise : ∀ {ns : List Node} {a b : Nat}, InOrder a b ns →
    ∀ around : List Element, (elementsIn around ns).Pairwise Element.Precedes
  | [], _, _, _, _ => .nil
  | n :: ns, a, b, ⟨ha, hn, hns⟩, around => by
    cases hne : n.element? with
    | none =>
      rw [elementsIn_cons_of_element?_eq_none hne]
      exact hns.pairwise around
    | some f =>
      cases n with
      | element f cs =>
        obtain ⟨hstart, hcs, hstop, htexts⟩ := hn
        rw [elementsIn_cons_element]
        refine List.pairwise_cons.2 ⟨fun e he => ?_, ?_⟩
        · rcases List.mem_append.1 he with he | he
          · have hinside := hcs.inside _ e he
            refine Or.inr ⟨fun hleaf => ?_, hinside.le_start, hinside.stop_le⟩
            have hnone : ∀ n ∈ cs, n.element? = none := fun n hn => by
              obtain ⟨a, b, s, rfl⟩ := htexts hleaf n hn
              rfl
            rw [elementsIn_eq_nil _ hnone] at he
            cases he
          · exact Or.inl (hns.inside around e he).le_start
        · refine List.pairwise_append.2 ⟨hcs.pairwise _, hns.pairwise around, fun x hx y hy => ?_⟩
          exact Or.inl (Nat.le_trans (hcs.inside _ x hx).stop_le
            (Nat.le_trans hstop (hns.inside around y hy).le_start))
      | _ => cases hne

/-! ## Elements below others -/

mutual

/-- What stands below an element of an outline is in the outline. -/
theorem Node.outline_below {around' : List Element} {e : Element} {cs : List Node} :
    ∀ {n : Node} {around : List Element}, (around', .element e cs) ∈ n.outline around →
      ∀ x ∈ outlineAll (e :: around') cs, x ∈ n.outline around
  | .element f ds, around, h, x, hx => by
    rw [Node.outline] at h ⊢
    rcases List.mem_cons.1 h with heq | h
    · cases heq
      exact List.mem_cons_of_mem _ hx
    · exact List.mem_cons_of_mem _ (Node.outlineAll_below h x hx)
  | .text .., _, h, _, _ | .comment .., _, h, _, _ | .declaration .., _, h, _, _ => by
    cases List.mem_singleton.1 h

/-- What is below an element of an outline is in the outline. -/
theorem Node.outlineAll_below {around' : List Element} {e : Element} {cs : List Node} :
    ∀ {ns : List Node} {around : List Element}, (around', .element e cs) ∈ outlineAll around ns →
      ∀ x ∈ outlineAll (e :: around') cs, x ∈ outlineAll around ns
  | [], _, h, _, _ => by cases h
  | _ :: _, _, h, x, hx => by
    rw [Node.outlineAll] at h ⊢
    rcases List.mem_append.1 h with h | h
    · exact List.mem_append_left _ (Node.outline_below h x hx)
    · exact List.mem_append_right _ (Node.outlineAll_below h x hx)

end

/-- The placed elements are the elements of the outline. -/
theorem mem_elementsOf {outline : List (List Element × Node)} {p : PlacedElement} :
    p ∈ elementsOf outline ↔ (p.around, .element p.element p.children) ∈ outline := by
  unfold elementsOf
  rw [List.mem_filterMap]
  refine ⟨fun ⟨⟨around, n⟩, hmem, hp⟩ => ?_, fun h => ⟨_, h, rfl⟩⟩
  cases n with
  | element e cs =>
    obtain rfl := Option.some.inj hp
    exact hmem
  | _ => cases hp

/-- A child of a node is in the outline of its children. -/
theorem Node.mem_outlineAll_of_mem {around : List Element} {n : Node} :
    ∀ {ns : List Node}, n ∈ ns → (around, n) ∈ outlineAll around ns
  | m :: ns, h => by
    rw [Node.outlineAll]
    rcases List.mem_cons.1 h with rfl | h
    · refine List.mem_append_left _ ?_
      cases n <;> simp [Node.outline]
    · exact List.mem_append_right _ (Node.mem_outlineAll_of_mem h)

/-! ## Documents -/

namespace Document

variable {contents : String} {d : Document}

/-- A parsed document has the text, and its nodes are in order. -/
theorem parse_ok (h : parse contents = .ok d) :
    d.contents = contents ∧ InOrder 0 contents.length d.nodes := by
  unfold parse at h
  split at h
  · next events hscan =>
    split_ifs at h
    obtain rfl := Except.ok.inj h
    exact ⟨rfl, inOrder_nodesOf (tiles_scan hscan)⟩
  · cases h

/-- Every element of a document lies in its text. -/
theorem inside_elements (h : parse contents = .ok d) :
    ∀ p ∈ d.elements, p.element.Inside 0 contents.length :=
  fun _ hp => (parse_ok h).2.inside [] _ (List.mem_map_of_mem hp)

/-- In document order, an element stands behind each one before it or between the tags of that. -/
theorem pairwise_elements (h : parse contents = .ok d) :
    d.elements.Pairwise fun p q => p.element.Precedes q.element :=
  List.pairwise_map.1 ((parse_ok h).2.pairwise [])

/-- In document order, an element starts behind each one before it. -/
theorem pairwise_start_lt (h : parse contents = .ok d) :
    d.elements.Pairwise fun p q => p.element.start < q.element.start :=
  (pairwise_elements h).imp_of_mem fun hp _ hpq => hpq.start_lt (inside_elements h _ hp)

/-- Of two elements of a document, one precedes the other. -/
theorem precedes_or_precedes (h : parse contents = .ok d) {p q : PlacedElement}
    (hp : p ∈ d.elements) (hq : q ∈ d.elements) :
    p = q ∨ p.element.Precedes q.element ∨ q.element.Precedes p.element := by
  have hpairwise := pairwise_elements h
  exact List.Pairwise.forall_of_forall_of_flip
    (R := fun p q => p = q ∨ p.element.Precedes q.element ∨ q.element.Precedes p.element)
    (fun _ _ => Or.inl rfl) (hpairwise.imp fun hpq => Or.inr (Or.inl hpq))
    (hpairwise.imp fun hpq => Or.inr (Or.inr hpq)) hp hq

/-- Elements of a document that start at one offset are the same. -/
theorem eq_of_start_eq (h : parse contents = .ok d) {p q : PlacedElement} (hp : p ∈ d.elements)
    (hq : q ∈ d.elements) (hstart : p.element.start = q.element.start) : p = q := by
  rcases precedes_or_precedes h hp hq with heq | hpq | hqp
  · exact heq
  · exact absurd hstart (Nat.ne_of_lt (hpq.start_lt (inside_elements h p hp)))
  · exact absurd hstart (Nat.ne_of_gt (hqp.start_lt (inside_elements h q hq)))

/-- What is below an element of a document is one of its elements. -/
theorem mem_elements_of_below {p q : PlacedElement} (hp : p ∈ d.elements)
    (hq : q ∈ elementsOf (Node.outlineAll (p.element :: p.around) p.children)) :
    q ∈ d.elements :=
  mem_elementsOf.2 (Node.outlineAll_below (mem_elementsOf.1 hp) _ (mem_elementsOf.1 hq))

/-- A child of an element of the document is one of its elements. -/
theorem mem_elements_of_child {p q : PlacedElement} (hp : p ∈ d.elements)
    (hq : q ∈ p.childElements) : q ∈ d.elements := by
  refine mem_elements_of_below hp (mem_elementsOf.2 ?_)
  obtain ⟨n, hn, hchild⟩ := List.mem_filterMap.1 hq
  cases n with
  | element e cs =>
    obtain rfl := Option.some.inj hchild
    exact Node.mem_outlineAll_of_mem hn
  | _ => cases hchild

end Document

end HtmlModules.Markup
