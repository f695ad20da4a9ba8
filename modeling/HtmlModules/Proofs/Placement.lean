import HtmlModules.Proofs.Spelling
import HtmlModules.Proofs.Tree
import Mathlib.Data.List.Chain

/-!
# The tree of a document as its text spells it

No node of a document is empty, its texts and comments are what stands at their ranges, and texts
that touch are one (`faithful_nodesOf`). With the order of the nodes this gives where everything in a
tree is (`Document.parse_placed`): the parts of an element follow each other, its children stand in
order between its tags and have it as their parent.
-/

namespace HtmlModules.Markup

open Text

variable {source : String}

/-! ## Nodes -/

/-- Two texts of which the second begins where the first ends. -/
def Node.Touches : Node → Node → Prop
  | .text _ b _, .text c _ _ => b = c
  | _, _ => False

/-- No text touches the one behind it. -/
def Spaced (ns : List Node) : Prop := ns.IsChain fun m n => ¬ m.Touches n

/-- The node by itself is not empty and spells what stands in the source; its children are
spaced. -/
def Node.IsFaithful (source : String) : Node → Prop
  | .text a b s => a < b ∧ s = slice source a b
  | .comment a b data => a < b ∧ slice source a b = "<!--" ++ data ++ "-->"
  | .declaration a b => a < b
  | .element _ cs => Spaced cs

/-- The node and all that is below it are faithful to the source. -/
inductive Node.Faithful (source : String) : Node → Prop
  | childless {n : Node} : n.element? = none → n.IsFaithful source → Faithful source n
  | element {e : Element} {cs : List Node} : Spaced cs → (∀ n ∈ cs, Faithful source n) →
      Faithful source (.element e cs)

theorem Node.Faithful.isFaithful {n : Node} (h : n.Faithful source) : n.IsFaithful source := by
  cases h with
  | childless _ hn => exact hn
  | element hspaced _ => exact hspaced

theorem Node.Faithful.of_mem {n : Node} {e : Element} {cs : List Node}
    (h : (Node.element e cs).Faithful source) (hn : n ∈ cs) : n.Faithful source := by
  cases h with
  | childless hnone _ => cases hnone
  | element _ hcs => exact hcs n hn

theorem Node.mem_outlineAll_iff {x : List Element × Node} {around : List Element} :
    ∀ {ns : List Node}, x ∈ outlineAll around ns ↔ ∃ n ∈ ns, x ∈ n.outline around
  | [] => by simp [outlineAll]
  | n :: ns => by simp [outlineAll, Node.mem_outlineAll_iff]

theorem Node.Faithful.of_mem_outline {n : Node} {x : List Element × Node} {around : List Element}
    (h : n.Faithful source) (hx : x ∈ n.outline around) : x.2.IsFaithful source := by
  induction h generalizing around with
  | @childless n hnone hn =>
    cases n with
    | element => cases hnone
    | _ =>
      obtain rfl := List.mem_singleton.1 hx
      exact hn
  | element hspaced _ ih =>
    rcases List.mem_cons.1 hx with rfl | hx
    · exact hspaced
    · obtain ⟨n, hn, hx⟩ := Node.mem_outlineAll_iff.1 hx
      exact ih n hn hx

/-! ## Rows of siblings -/

/-- Siblings, the last one first, are faithful and spaced. -/
structure FaithfulRow (source : String) (ns : List Node) : Prop where
  faithful : ∀ n ∈ ns, n.Faithful source
  spaced : ns.IsChain fun n m => ¬ m.Touches n

namespace FaithfulRow

theorem nil : FaithfulRow source [] := ⟨by simp, .nil⟩

/-- A faithful row becomes a faithful element when it is closed. -/
theorem close {o : OpenElement} {innerStop stop : Nat} (h : FaithfulRow source o.children) :
    (o.close innerStop stop).Faithful source := by
  refine .element ?_ fun n hn => h.faithful n (List.mem_reverse.1 hn)
  exact List.isChain_reverse.2 h.spaced

/-- A faithful node that is no text beside another text may be put in front. -/
theorem cons {n : Node} {ns : List Node} (h : FaithfulRow source ns) (hn : n.Faithful source)
    (hapart : ∀ m ∈ ns.head?, ¬ m.Touches n) : FaithfulRow source (n :: ns) := by
  refine ⟨fun m hm => ?_, h.spaced.cons hapart⟩
  rcases List.mem_cons.1 hm with rfl | hm
  · exact hn
  · exact h.faithful m hm

/-- A node can be added; a text that touches the last one continues it. -/
theorem push {n : Node} {ns : List Node} (h : FaithfulRow source ns) (hn : n.Faithful source) :
    FaithfulRow source (push n ns) := by
  unfold Markup.push
  split
  · next a b s c d t rest =>
    obtain ⟨hab, hs⟩ := hn.isFaithful
    obtain ⟨hcd, ht⟩ := (h.faithful _ List.mem_cons_self).isFaithful
    split_ifs with htouch
    · subst htouch
      have hjoined : (Node.text c b (t ++ s)).IsFaithful source := by
        refine ⟨Nat.lt_trans hcd hab, ?_⟩
        rw [hs, ht, slice_append_slice source (Nat.le_of_lt hcd) (Nat.le_of_lt hab)]
      have hrest : FaithfulRow source rest :=
        ⟨fun m hm => h.faithful m (List.mem_cons_of_mem _ hm), h.spaced.tail⟩
      refine hrest.cons (.childless rfl hjoined) fun m hm => ?_
      have hapart := (List.isChain_cons.1 h.spaced).1 m hm
      cases m <;> exact hapart
    · refine h.cons hn fun m hm => ?_
      obtain rfl := Option.some.inj hm
      exact htouch
  · next hother =>
    refine h.cons hn fun m hm => ?_
    cases ns with
    | nil => cases hm
    | cons m' rest =>
      obtain rfl := Option.some.inj hm
      cases n with
      | text a b s =>
        cases m' with
        | text c d t => exact absurd rfl (hother a b s c d t rest rfl)
        | _ => exact id
      | _ => cases m' <;> exact id

end FaithfulRow

/-! ## Building the tree -/

namespace Builder

/-- What holds of a builder and stays true when its innermost element is closed behind its last child
leads, where an element with the tag is open, to what then holds when that one is closed. -/
theorem closeTag_keeps {tag : String} {start stop : Nat} {roots : List Node} {I J : Builder → Prop}
    (fold : ∀ {o : OpenElement} {rest : List OpenElement}, I ⟨roots, o :: rest⟩ →
      I (add ⟨roots, rest⟩ o.closeHere))
    (close : ∀ {o : OpenElement} {rest : List OpenElement}, I ⟨roots, o :: rest⟩ →
      J (add ⟨roots, rest⟩ (o.close start stop))) :
    ∀ {opened : List OpenElement}, opened.any (·.tag == tag) = true → I ⟨roots, opened⟩ →
      J (closeTag tag start stop roots opened)
  | [], hany, _ => by simp at hany
  | [o], hany, h => by
    have htag : (o.tag == tag) = true := by simpa using hany
    rw [closeTag, if_pos htag]
    exact close h
  | o :: p :: rest, hany, h => by
    rw [closeTag]
    split_ifs with htag
    · exact close h
    · rw [List.any_cons, Bool.eq_false_iff.2 htag, Bool.false_or] at hany
      exact closeTag_keeps fold close hany (fold h)
termination_by opened => opened.length

/-- What holds of a builder and stays true when its innermost element is closed behind its last child
holds when all are closed. -/
theorem finish_keeps {roots : List Node} {I : Builder → Prop}
    (fold : ∀ {o : OpenElement} {rest : List OpenElement}, I ⟨roots, o :: rest⟩ →
      I (add ⟨roots, rest⟩ o.closeHere)) :
    ∀ {opened : List OpenElement}, I ⟨roots, opened⟩ →
      ∃ ns, I ⟨ns, []⟩ ∧ finish roots opened = ns.reverse
  | [], h => ⟨roots, h, by rw [finish]⟩
  | [o], h => ⟨push o.closeHere roots, fold h, by rw [finish]⟩
  | o :: p :: rest, h => by
    rw [finish]
    exact finish_keeps fold (fold h)
termination_by opened => opened.length

/-- The rows of a builder are faithful. -/
structure Faithful (source : String) (b : Builder) : Prop where
  roots : FaithfulRow source b.roots
  opened : ∀ o ∈ b.opened, FaithfulRow source o.children

namespace Faithful

variable {b : Builder} {o : OpenElement} {rest : List OpenElement}

/-- To add a faithful node keeps the builder faithful. -/
theorem add {n : Node} (h : b.Faithful source) (hn : n.Faithful source) :
    (b.add n).Faithful source := by
  obtain ⟨roots, opened⟩ := b
  cases opened with
  | nil => exact ⟨h.roots.push hn, nofun⟩
  | cons o rest =>
    refine ⟨h.roots, fun p hp => ?_⟩
    rcases List.mem_cons.1 hp with rfl | hp
    · exact (h.opened o List.mem_cons_self).push hn
    · exact h.opened p (List.mem_cons_of_mem _ hp)

/-- The innermost element can be closed. -/
theorem close {roots : List Node} {innerStop stop : Nat}
    (h : Faithful source ⟨roots, o :: rest⟩) :
    (Builder.add ⟨roots, rest⟩ (o.close innerStop stop)).Faithful source :=
  add ⟨h.roots, fun p hp => h.opened p (List.mem_cons_of_mem _ hp)⟩
    (h.opened o List.mem_cons_self).close

/-- An event that covers and spells its text keeps the builder faithful. -/
theorem step {e : Event} {start limit : Nat} (h : b.Faithful source)
    (hcovers : e.Covers start limit) (hspells : e.kind.Spells source start e.stop) :
    (b.step e).Faithful source := by
  obtain ⟨rfl, hlt, hle, hinside⟩ := hcovers
  unfold Builder.step
  cases hkind : e.kind with
  | text s =>
    rw [hkind] at hspells
    exact h.add (n := .text e.start e.stop s) (.childless rfl ⟨hlt, hspells⟩)
  | comment data =>
    rw [hkind] at hspells
    exact h.add (n := .comment e.start e.stop data) (.childless rfl ⟨hlt, hspells⟩)
  | declaration =>
    exact h.add (n := .declaration e.start e.stop) (.childless rfl hlt)
  | startTag tag attributes selfClosing =>
    dsimp only
    split_ifs
    · exact h.add (.element .nil nofun)
    · refine ⟨h.roots, fun p hp => ?_⟩
      rcases List.mem_cons.1 hp with rfl | hp
      · exact .nil
      · exact h.opened p hp
  | endTag tag =>
    dsimp only
    split_ifs with hopen
    · exact closeTag_keeps (I := Faithful source) close close hopen h
    · exact h
  | rawElement tag attributes innerStart innerStop text =>
    rw [hkind] at hspells hinside
    obtain ⟨-, hinner, hstop⟩ := hinside
    dsimp only
    refine h.add (.element ?_ fun n hn => ?_)
    · split_ifs
      · exact .nil
      · exact .singleton _
    · split_ifs at hn with hempty
      · cases hn
      · obtain rfl := List.mem_singleton.1 hn
        refine .childless rfl ⟨Nat.lt_of_le_of_ne hinner fun heq => hempty ?_, hspells⟩
        rw [hspells, heq, slice_self]

/-- Events that join up keep the builder faithful, by induction on the events. -/
theorem foldl_step {limit : Nat} :
    ∀ {events : List Event} {b : Builder} {start : Nat}, b.Faithful source →
      Joined source limit start events → (events.foldl Builder.step b).Faithful source
  | [], _, _, h, _ => h
  | e :: _, b, _, h, ⟨hcovers, hspells, hevents⟩ =>
    foldl_step (b := b.step e) (h.step hcovers hspells) hevents

end Faithful

end Builder

/-- The nodes that events spell are faithful and spaced. -/
theorem faithful_nodesOf {events : List Event} (h : Joined source source.length 0 events) :
    (∀ n ∈ nodesOf events, n.Faithful source) ∧ Spaced (nodesOf events) := by
  have hbuilt := Builder.Faithful.foldl_step (b := {}) ⟨.nil, nofun⟩ h
  obtain ⟨ns, hns, hfinish⟩ := Builder.finish_keeps Builder.Faithful.close hbuilt
  rw [nodesOf, hfinish]
  exact ⟨fun n hn => hns.roots.faithful n (List.mem_reverse.1 hn),
    List.isChain_reverse.2 hns.roots.spaced⟩

/-! ## Parents -/

mutual

/-- A node of an outline is the node itself, or the nearest element around it has it as a child. -/
theorem Node.outline_parent {x : List Element × Node} :
    ∀ {n : Node} {around : List Element}, x ∈ n.outline around → x = (around, n) ∨
      ∃ e rest cs, x.1 = e :: rest ∧ (rest, .element e cs) ∈ n.outline around ∧ x.2 ∈ cs
  | .element e cs, around, h => by
    rw [Node.outline] at h ⊢
    rcases List.mem_cons.1 h with rfl | h
    · exact Or.inl rfl
    · right
      rcases Node.outlineAll_parent h with ⟨hx, hmem⟩ | ⟨f, rest, ds, hx, hparent, hmem⟩
      · exact ⟨e, around, cs, hx, List.mem_cons_self, hmem⟩
      · exact ⟨f, rest, ds, hx, List.mem_cons_of_mem _ hparent, hmem⟩
  | .text .., _, h | .comment .., _, h | .declaration .., _, h => Or.inl (List.mem_singleton.1 h)

/-- What is in an outline is in the row itself, or is a child of an element in the outline. -/
theorem Node.outlineAll_parent {x : List Element × Node} :
    ∀ {ns : List Node} {around : List Element}, x ∈ outlineAll around ns →
      (x.1 = around ∧ x.2 ∈ ns) ∨
        ∃ e rest cs, x.1 = e :: rest ∧ (rest, .element e cs) ∈ outlineAll around ns ∧ x.2 ∈ cs
  | [], _, h => by cases h
  | n :: ns, around, h => by
    rw [Node.outlineAll] at h ⊢
    rcases List.mem_append.1 h with h | h
    · rcases Node.outline_parent h with rfl | ⟨e, rest, cs, hx, hparent, hmem⟩
      · exact Or.inl ⟨rfl, List.mem_cons_self⟩
      · exact Or.inr ⟨e, rest, cs, hx, List.mem_append_left _ hparent, hmem⟩
    · rcases Node.outlineAll_parent h with ⟨hx, hmem⟩ | ⟨e, rest, cs, hx, hparent, hmem⟩
      · exact Or.inl ⟨hx, List.mem_cons_of_mem _ hmem⟩
      · exact Or.inr ⟨e, rest, cs, hx, List.mem_append_right _ hparent, hmem⟩

end

namespace Document

variable {contents : String} {d : Document}

/-- The nodes of a document without an element around them are its roots. -/
theorem mem_outline_root_iff {n : Node} : ([], n) ∈ d.outline ↔ n ∈ d.nodes := by
  refine ⟨fun h => ?_, fun h => Node.mem_outlineAll_of_mem h⟩
  rcases Node.outlineAll_parent h with ⟨-, hmem⟩ | ⟨e, rest, cs, hx, -⟩
  · exact hmem
  · cases hx

/-- The nearest element around a node is the one that has it as a child. -/
theorem mem_outline_child_iff {e : Element} {around : List Element} {n : Node} :
    (e :: around, n) ∈ d.outline ↔ ∃ cs, (around, .element e cs) ∈ d.outline ∧ n ∈ cs := by
  constructor
  · intro h
    rcases Node.outlineAll_parent h with ⟨hx, -⟩ | ⟨f, rest, cs, hx, hparent, hmem⟩
    · cases hx
    · obtain ⟨rfl, rfl⟩ := List.cons.inj hx
      exact ⟨cs, hparent, hmem⟩
  · rintro ⟨cs, hparent, hmem⟩
    exact Node.outlineAll_below hparent _ (Node.mem_outlineAll_of_mem hmem)

end Document

/-! ## Rows in order -/

/-- The nodes stand in order between two offsets. None of them is empty, none overlaps another, and
no text touches the one behind it. -/
structure Row (a b : Nat) (ns : List Node) : Prop where
  inside : ∀ n ∈ ns, a ≤ n.start ∧ n.start < n.stop ∧ n.stop ≤ b
  ordered : ns.Pairwise fun m n => m.stop ≤ n.start
  spaced : Spaced ns

theorem Node.Sound.start_lt {n : Node} (h : n.Sound) (hn : n.IsFaithful source) :
    n.start < n.stop := by
  cases n with
  | element e cs =>
    obtain ⟨hstart, hcs, hstop, -⟩ := h
    exact Nat.lt_of_lt_of_le hstart (Nat.le_trans hcs.le hstop)
  | text | comment => exact hn.1
  | declaration => exact hn

/-- Nodes in order lie between the same offsets. -/
theorem InOrder.bounds : ∀ {ns : List Node} {a b : Nat}, InOrder a b ns →
    ∀ n ∈ ns, a ≤ n.start ∧ n.Sound ∧ n.stop ≤ b
  | m :: ns, a, b, ⟨ha, hm, hns⟩, n, hn => by
    rcases List.mem_cons.1 hn with rfl | hn
    · exact ⟨ha, hm, hns.le⟩
    · obtain ⟨hstart, hsound, hstop⟩ := hns.bounds n hn
      exact ⟨Nat.le_trans ha (Nat.le_trans hm.start_le hstart), hsound, hstop⟩

/-- Of nodes in order each one ends where or before the next one starts. -/
theorem InOrder.ordered : ∀ {ns : List Node} {a b : Nat}, InOrder a b ns →
    ns.Pairwise fun m n => m.stop ≤ n.start
  | [], _, _, _ => .nil
  | _ :: _, _, _, ⟨_, _, hns⟩ => .cons (fun n hn => (hns.bounds n hn).1) hns.ordered

theorem InOrder.row {a b : Nat} {ns : List Node} (h : InOrder a b ns)
    (hns : ∀ n ∈ ns, n.IsFaithful source) (hspaced : Spaced ns) : Row a b ns where
  inside n hn :=
    have hbounds := h.bounds n hn
    ⟨hbounds.1, hbounds.2.1.start_lt (hns n hn), hbounds.2.2⟩
  ordered := h.ordered
  spaced := hspaced

mutual

/-- Everything below a node is as sound as the node. -/
theorem Node.Sound.of_mem_outline {x : List Element × Node} :
    ∀ {n : Node} {around : List Element}, n.Sound → x ∈ n.outline around → x.2.Sound
  | .element e cs, around, h, hx => by
    rw [Node.outline] at hx
    rcases List.mem_cons.1 hx with rfl | hx
    · exact h
    · exact h.2.1.sound_of_mem_outlineAll hx
  | .text .., _, h, hx | .comment .., _, h, hx | .declaration .., _, h, hx => by
    obtain rfl := List.mem_singleton.1 hx
    exact h

theorem InOrder.sound_of_mem_outlineAll {x : List Element × Node} :
    ∀ {ns : List Node} {a b : Nat} {around : List Element}, InOrder a b ns →
      x ∈ Node.outlineAll around ns → x.2.Sound
  | [], _, _, _, _, hx => by cases hx
  | n :: ns, _, _, around, ⟨_, hn, hns⟩, hx => by
    rw [Node.outlineAll] at hx
    rcases List.mem_append.1 hx with hx | hx
    · exact hn.of_mem_outline hx
    · exact hns.sound_of_mem_outlineAll hx

end

mutual

/-- Everything below a node lies in its range. -/
theorem Node.Sound.bounds_outline {x : List Element × Node} :
    ∀ {n : Node} {around : List Element}, n.Sound → x ∈ n.outline around →
      n.start ≤ x.2.start ∧ x.2.stop ≤ n.stop
  | .element e cs, around, ⟨hstart, hcs, hstop, _⟩, hx => by
    rcases List.mem_cons.1 hx with rfl | hx
    · exact ⟨Nat.le_refl _, Nat.le_refl _⟩
    · obtain ⟨hle, hge⟩ := hcs.bounds_outlineAll hx
      exact ⟨Nat.le_trans (Nat.le_of_lt hstart) hle, Nat.le_trans hge hstop⟩
  | .text .., _, _, hx | .comment .., _, _, hx | .declaration .., _, _, hx => by
    obtain rfl := List.mem_singleton.1 hx
    exact ⟨Nat.le_refl _, Nat.le_refl _⟩

/-- Whatever is in nodes in order lies between the bounds of the row. -/
theorem InOrder.bounds_outlineAll {x : List Element × Node} :
    ∀ {ns : List Node} {a b : Nat} {around : List Element}, InOrder a b ns →
      x ∈ Node.outlineAll around ns → a ≤ x.2.start ∧ x.2.stop ≤ b
  | [], _, _, _, _, hx => by cases hx
  | n :: ns, _, _, around, ⟨ha, hn, hns⟩, hx => by
    rw [Node.outlineAll] at hx
    rcases List.mem_append.1 hx with hx | hx
    · obtain ⟨hle, hge⟩ := hn.bounds_outline hx
      exact ⟨Nat.le_trans ha hle, Nat.le_trans hge hns.le⟩
    · obtain ⟨hle, hge⟩ := hns.bounds_outlineAll hx
      exact ⟨Nat.le_trans ha (Nat.le_trans hn.start_le hle), hge⟩

end

/-! ## Documents -/

namespace Document

variable {contents : String} {d : Document}

/-- Everything in the tree is where the text has it. -/
structure Placed (d : Document) : Prop where
  roots : Row 0 d.contents.length d.nodes
  rootless : ∀ n ∈ d.nodes, ([], n) ∈ d.outline
  /-- The start tag, the children and the end tag of an element follow each other in the text. -/
  elements : ∀ p ∈ d.elements, p.element.Inside 0 d.contents.length
  children : ∀ p ∈ d.elements, Row p.element.innerStart p.element.innerStop p.children
  parents : ∀ p ∈ d.elements, ∀ n ∈ p.children, (p.element :: p.around, n) ∈ d.outline
  texts : ∀ {around a b s}, (around, .text a b s) ∈ d.outline → s = slice d.contents a b
  comments : ∀ {around a b data}, (around, .comment a b data) ∈ d.outline →
    slice d.contents a b = "<!--" ++ data ++ "-->"

/-- What is read of a text is faithful to it. -/
theorem parse_faithful (h : parse contents = .ok d) :
    (∀ n ∈ d.nodes, n.Faithful contents) ∧ Spaced d.nodes := by
  unfold parse at h
  split at h
  · next events hscan =>
    split_ifs at h
    obtain rfl := Except.ok.inj h
    exact faithful_nodesOf (joined_scan hscan)
  · cases h

/-- Every node of a parsed document is faithful to the text. -/
theorem isFaithful_of_mem_outline (h : parse contents = .ok d) {x : List Element × Node}
    (hx : x ∈ d.outline) : x.2.IsFaithful contents := by
  obtain ⟨n, hn, hx⟩ := Node.mem_outlineAll_iff.1 hx
  exact ((parse_faithful h).1 n hn).of_mem_outline hx

/-- Whatever stands in a text that can be read, the tree has every part of it in its place. -/
theorem parse_placed (h : parse contents = .ok d) : d.contents = contents ∧ d.Placed := by
  obtain ⟨hcontents, horder⟩ := parse_ok h
  obtain ⟨hfaithful, hspaced⟩ := parse_faithful h
  have hoffsets := inside_elements h
  have hmem : ∀ x ∈ d.outline, x.2.IsFaithful contents := fun _ => isFaithful_of_mem_outline h
  subst hcontents
  refine ⟨rfl, ?_⟩
  exact {
    roots := horder.row (fun n hn => (hfaithful n hn).isFaithful) hspaced
    rootless := fun n hn => mem_outline_root_iff.2 hn
    elements := hoffsets
    children := fun p hp => by
      have hplaced := mem_elementsOf.1 hp
      obtain ⟨-, hcs, -⟩ : (Node.element p.element p.children).Sound :=
        horder.sound_of_mem_outlineAll hplaced
      have hchildren : ∀ n ∈ p.children, n.IsFaithful d.contents := fun n hn =>
        hmem _ (mem_outline_child_iff.2 ⟨_, hplaced, hn⟩)
      exact hcs.row hchildren (hmem _ hplaced)
    parents := fun p hp n hn => mem_outline_child_iff.2 ⟨_, mem_elementsOf.1 hp, hn⟩
    texts := fun hx => (hmem _ hx).2
    comments := fun hx => (hmem _ hx).2 }

/-- Tags that cross, stay unclosed or were never opened, and texts that touch. -/
theorem parse_placed_crossed : ∃ d, parse "<div>a<<b><p>x</div>y</b>z<!--c--><br>" = .ok d ∧
    d.contents = "<div>a<<b><p>x</div>y</b>z<!--c--><br>" ∧ d.Placed := by
  have hread : (parse "<div>a<<b><p>x</div>y</b>z<!--c--><br>").toBool = true := by decide +kernel
  have hparse := Failing.eq_ok_getD hread ⟨"", []⟩
  exact ⟨_, hparse, parse_placed hparse⟩

end Document

end HtmlModules.Markup
