import HtmlModules.Proofs.Placement
import Mathlib.Algebra.GroupWithZero.Nat
import Mathlib.Data.List.Flatten
import Mathlib.Data.List.Sort

/-!
# Reading loses nothing

The pieces of a tree are its texts, comments and declarations and the start and end tags of its
elements. Together with the end tags that were skipped, since nothing with their name was open, they
take every offset of the text exactly once, and put in order they spell the text
(`Document.parse_lossless`). Each event adds its own range to what the tree under construction covers
and takes nothing away (`Builder.coverage_step`).
-/

namespace HtmlModules.Markup

open Text

variable {source : String} {i : Nat}

/-! ## Pieces -/

/-- A part of a text and what it spells. -/
structure Piece where
  start : Nat
  stop : Nat
  text : String
deriving DecidableEq, Repr

namespace Piece

/-- What stands in a text at a range. -/
def of (source : String) (start stop : Nat) : Piece := ⟨start, stop, slice source start stop⟩

/-- The offset lies in the piece. -/
def covers (i : Nat) (p : Piece) : Bool := p.start ≤ i && i < p.stop

/-- The first piece does not begin behind the second one. -/
def le (p q : Piece) : Bool := p.start ≤ q.start

theorem le_trans (p q r : Piece) (hpq : p.le q = true) (hqr : q.le r = true) : p.le r = true :=
  decide_eq_true (Nat.le_trans (of_decide_eq_true hpq) (of_decide_eq_true hqr))

theorem le_total (p q : Piece) : (p.le q || q.le p) = true := by
  simp [le, Nat.le_total]

/-- The piece spells what stands at its range, and that is not nothing. -/
structure IsPart (source : String) (p : Piece) : Prop where
  start_lt : p.start < p.stop
  spells : p.text = slice source p.start p.stop

/-- The number of pieces that the offset lies in. -/
def coverage (i : Nat) (ps : List Piece) : Nat := ps.countP (covers i)

@[simp] theorem coverage_nil : coverage i [] = 0 := rfl

/-- The pieces of two lists cover a place as often as those of each. -/
@[simp] theorem coverage_append (ps qs : List Piece) :
    coverage i (ps ++ qs) = coverage i ps + coverage i qs := List.countP_append

/-- One for the offsets of a range, and zero for others. -/
def within (a b i : Nat) : Nat := if a ≤ i ∧ i < b then 1 else 0

theorem within_self (a : Nat) : within a a i = 0 := by
  rw [within, if_neg (by omega)]

/-- A range that is cut in two holds a place if one of the parts does. -/
theorem within_add {a b c : Nat} (hab : a ≤ b) (hbc : b ≤ c) :
    within a b i + within b c i = within a c i := by
  unfold within
  split_ifs <;> omega

/-- The first piece covers a place if it is inside. -/
@[simp] theorem coverage_cons (p : Piece) (ps : List Piece) :
    coverage i (p :: ps) = within p.start p.stop i + coverage i ps := by
  simp [coverage, covers, within, List.countP_cons, Nat.add_comm]

end Piece

open Piece

mutual

/-- The pieces of a node in document order; an element that is not closed by a tag has no end tag. -/
def Node.pieces (source : String) : Node → List Piece
  | .text a b s => [⟨a, b, s⟩]
  | .comment a b data => [⟨a, b, "<!--" ++ data ++ "-->"⟩]
  | .declaration a b => [.of source a b]
  | .element e cs =>
    .of source e.start e.innerStart :: (piecesOf source cs ++
      if e.innerStop < e.stop then [.of source e.innerStop e.stop] else [])

/-- The pieces of nodes, one after the other. -/
def piecesOf (source : String) : List Node → List Piece
  | [] => []
  | n :: ns => n.pieces source ++ piecesOf source ns

end

/-- The event is an end tag with whose name no element is open. -/
def Builder.skips (b : Builder) (e : Event) : Bool :=
  match e.kind with
  | .endTag tag => !b.opened.any (·.tag == tag)
  | _ => false

/-- The end tags that are skipped while events are taken in. -/
def strayTags (b : Builder) : List Event → List Event
  | [] => []
  | e :: events => if b.skips e then e :: strayTags (b.step e) events else strayTags (b.step e) events

/-- The pieces that events are. -/
def piecesAt (source : String) (events : List Event) : List Piece :=
  events.map fun e => .of source e.start e.stop

/-- What the pieces of a document spell, with those of skipped end tags put back in their places. -/
def Document.rebuilt (d : Document) (strays : List Event) : String :=
  String.join
    (((piecesOf d.contents d.nodes).merge (piecesAt d.contents strays) Piece.le).map (·.text))

/-! ## What a tree covers -/

@[simp] theorem piecesOf_nil : piecesOf source [] = [] := rfl

@[simp] theorem piecesOf_cons (n : Node) (ns : List Node) :
    piecesOf source (n :: ns) = n.pieces source ++ piecesOf source ns := rfl

/-- In which order nodes stand does not matter for what they cover. -/
theorem coverage_piecesOf_reverse (ns : List Node) :
    coverage i (piecesOf source ns.reverse) = coverage i (piecesOf source ns) := by
  have happend : ∀ ms ns : List Node,
      piecesOf source (ms ++ ns) = piecesOf source ms ++ piecesOf source ns := fun ms ns => by
    induction ms with
    | nil => rfl
    | cons m ms ih => simp [ih]
  induction ns with
  | nil => rfl
  | cons n ns ih => simp [happend, ih, Nat.add_comm]

/-- An element covers its tags and what its children cover. -/
theorem coverage_element {e : Element} {cs : List Node} :
    coverage i ((Node.element e cs).pieces source) = within e.start e.innerStart i +
      coverage i (piecesOf source cs) + within e.innerStop e.stop i := by
  rw [Node.pieces]
  split_ifs with htag
  · simp [Piece.of, Nat.add_assoc]
  · have hnone : within e.innerStop e.stop i = 0 := if_neg (by omega)
    simp [Piece.of, hnone]

/-- A node that is added covers what it covers alone, also if it continues a text. -/
theorem coverage_push {n : Node} {ns : List Node} (hn : n.IsFaithful source)
    (hns : ∀ m ∈ ns, m.IsFaithful source) :
    coverage i (piecesOf source (push n ns)) =
      coverage i (n.pieces source) + coverage i (piecesOf source ns) := by
  unfold push
  split
  · next a b s c d t rest =>
    split_ifs with htouch
    · subst htouch
      have hcd : c < d := (hns _ List.mem_cons_self).1
      have hadd := within_add (i := i) (Nat.le_of_lt hcd) (Nat.le_of_lt hn.1)
      simp only [piecesOf_cons, Node.pieces, coverage_append, coverage_cons, coverage_nil]
      omega
    · rw [piecesOf_cons, coverage_append]
  · rw [piecesOf_cons, coverage_append]

/-! ## What a tree under construction covers -/

/-- The open element covers its start tag and what its children cover. -/
def OpenElement.coverage (source : String) (i : Nat) (o : OpenElement) : Nat :=
  within o.start o.innerStart i + Piece.coverage i (piecesOf source o.children)

/-- To close an element adds its end tag to what it covers. -/
theorem coverage_close (o : OpenElement) (innerStop stop : Nat) :
    coverage i ((o.close innerStop stop).pieces source) =
      o.coverage source i + within innerStop stop i := by
  rw [OpenElement.close, coverage_element, coverage_piecesOf_reverse, OpenElement.coverage]

namespace Builder

/-- The closed roots and the open elements cover what each of them covers. -/
def coverage (source : String) (i : Nat) (b : Builder) : Nat :=
  Piece.coverage i (piecesOf source b.roots) + (b.opened.map (OpenElement.coverage source i)).sum

variable {b : Builder} {o : OpenElement} {rest : List OpenElement} {roots : List Node}

theorem coverage_add {n : Node} (hb : b.Faithful source) (hn : n.IsFaithful source) :
    (b.add n).coverage source i = b.coverage source i + Piece.coverage i (n.pieces source) := by
  obtain ⟨roots, opened⟩ := b
  cases opened with
  | nil =>
    have hpush := coverage_push (i := i) hn fun m hm => (hb.roots.faithful m hm).isFaithful
    simp only [coverage, add, hpush, List.map_nil, List.sum_nil]
    omega
  | cons o rest =>
    have hpush := coverage_push (i := i) hn fun m hm =>
      ((hb.opened o List.mem_cons_self).faithful m hm).isFaithful
    simp only [coverage, add, OpenElement.coverage, hpush, List.map_cons, List.sum_cons]
    omega

/-- The innermost element can be closed, which adds what its end tag covers. -/
theorem coverage_add_close {innerStop stop : Nat} (hb : Faithful source ⟨roots, o :: rest⟩) :
    (add ⟨roots, rest⟩ (o.close innerStop stop)).coverage source i =
      coverage source i ⟨roots, o :: rest⟩ + within innerStop stop i := by
  have hrest : Faithful source ⟨roots, rest⟩ :=
    ⟨hb.roots, fun p hp => hb.opened p (List.mem_cons_of_mem _ hp)⟩
  have hclosed : (o.close innerStop stop).Faithful source :=
    (hb.opened o List.mem_cons_self).close
  rw [coverage_add hrest hclosed.isFaithful, coverage_close]
  simp only [coverage, List.map_cons, List.sum_cons]
  omega

/-- An element that is closed behind its last child covers no more than before. -/
theorem coverage_add_closeHere (hb : Faithful source ⟨roots, o :: rest⟩) :
    (add ⟨roots, rest⟩ o.closeHere).coverage source i = coverage source i ⟨roots, o :: rest⟩ := by
  rw [OpenElement.closeHere, coverage_add_close hb, within_self, Nat.add_zero]

/-- An end tag that closes something is covered once. -/
theorem coverage_closeTag {tag : String} {start stop : Nat} (hb : b.Faithful source)
    (hopen : b.opened.any (·.tag == tag) = true) :
    (closeTag tag start stop b.roots b.opened).coverage source i =
      b.coverage source i + within start stop i :=
  closeTag_keeps
    (I := fun b' => b'.Faithful source ∧ b'.coverage source i = b.coverage source i)
    (J := fun b' => b'.coverage source i = b.coverage source i + within start stop i)
    (fun h => ⟨h.1.close, (coverage_add_closeHere h.1).trans h.2⟩)
    (fun h => (coverage_add_close h.1).trans (congrArg (· + within start stop i) h.2))
    hopen ⟨hb, rfl⟩

/-- The contents of a raw element are text, unless there are none. -/
theorem coverage_rawElement {e : Element} {text : String} (hstart : e.start ≤ e.innerStart)
    (hinner : e.innerStart ≤ e.innerStop) (hstop : e.innerStop ≤ e.stop)
    (hlimit : e.stop ≤ source.length) (htext : text = slice source e.innerStart e.innerStop) :
    Piece.coverage i ((Node.element e
      (if text = "" then [] else [.text e.innerStart e.innerStop text])).pieces source) =
      within e.start e.stop i := by
  have hleft := within_add (i := i) hstart hinner
  have hall := within_add (i := i) (Nat.le_trans hstart hinner) hstop
  rw [coverage_element]
  split_ifs with hempty
  · have hlength := length_slice (a := e.innerStart) (Nat.le_trans hstop hlimit)
    rw [← htext, hempty, String.length_empty] at hlength
    have hnone : within e.innerStart e.innerStop i = 0 := if_neg (by omega)
    simp only [piecesOf_nil, coverage_nil]
    omega
  · simp only [piecesOf_cons, piecesOf_nil, Node.pieces, coverage_append, coverage_cons,
      coverage_nil]
    omega

/-- An event adds its range to what is covered, unless it is skipped. -/
theorem coverage_step {e : Event} {start : Nat} (hb : b.Faithful source)
    (hcovers : e.Covers start source.length) (hspells : e.kind.Spells source start e.stop) :
    (b.step e).coverage source i + (if b.skips e then within e.start e.stop i else 0) =
      b.coverage source i + within e.start e.stop i := by
  obtain ⟨rfl, hlt, hle, hinside⟩ := hcovers
  unfold step skips
  cases hkind : e.kind with
  | text s =>
    rw [hkind] at hspells
    have hn : (Node.text e.start e.stop s).IsFaithful source := ⟨hlt, hspells⟩
    simp [coverage_add hb hn, Node.pieces]
  | comment data =>
    rw [hkind] at hspells
    have hn : (Node.comment e.start e.stop data).IsFaithful source := ⟨hlt, hspells⟩
    simp [coverage_add hb hn, Node.pieces]
  | declaration =>
    have hn : (Node.declaration e.start e.stop).IsFaithful source := hlt
    simp [coverage_add hb hn, Node.pieces, Piece.of]
  | startTag tag attributes selfClosing =>
    dsimp only
    by_cases hleaf : (selfClosing || voidTags.contains tag) = true
    · rw [if_pos hleaf]
      have hn : (Node.element ⟨e.start, e.stop, tag, attributes.map (·.unescaped), e.stop,
          e.stop⟩ []).IsFaithful source := List.IsChain.nil
      simp [coverage_add hb hn, coverage_element, within_self]
    · rw [if_neg hleaf]
      simp [coverage, OpenElement.coverage]
      omega
  | endTag tag =>
    dsimp only
    by_cases hopen : b.opened.any (·.tag == tag) = true
    · simp [hopen, coverage_closeTag hb hopen]
    · simp [hopen]
  | rawElement tag attributes innerStart innerStop text =>
    rw [hkind] at hspells hinside
    obtain ⟨hstart, hinner, hstop⟩ := hinside
    have hn : (Node.element ⟨e.start, e.stop, tag, attributes.map (·.unescaped), innerStart,
        innerStop⟩ (if text = "" then [] else [.text innerStart innerStop text])).IsFaithful
          source := by
      split_ifs
      · exact .nil
      · exact .singleton _
    have hraw := coverage_rawElement (i := i)
      (e := ⟨e.start, e.stop, tag, attributes.map (·.unescaped), innerStart, innerStop⟩)
      (Nat.le_of_lt hstart) hinner hstop hle hspells
    simp [coverage_add hb hn, hraw]

/-- Events that follow each other add all that is between their ends, less what is skipped. -/
theorem coverage_foldl_step :
    ∀ {events : List Event} {b : Builder} {start : Nat}, b.Faithful source →
      Joined source source.length start events →
      (events.foldl step b).coverage source i +
          Piece.coverage i (piecesAt source (strayTags b events)) =
        b.coverage source i + within start source.length i
  | [], b, start, _, h => by
    obtain rfl : start = source.length := h
    simp [strayTags, piecesAt, within_self]
  | e :: events, b, start, hb, ⟨hcovers, hspells, hevents⟩ => by
    have hstep := coverage_step (i := i) hb hcovers hspells
    have ih := coverage_foldl_step (b := b.step e) (hb.step hcovers hspells) hevents
    obtain ⟨rfl, hlt, hle, -⟩ := hcovers
    have hadd := within_add (i := i) (Nat.le_of_lt hlt) hle
    rw [strayTags, List.foldl_cons]
    split_ifs at hstep ⊢
    · rw [piecesAt, List.map_cons, coverage_cons, ← piecesAt]
      dsimp only [Piece.of]
      omega
    · omega

end Builder

/-- The tree of events covers every offset once that no skipped end tag covers. -/
theorem coverage_nodesOf {events : List Event} (h : Joined source source.length 0 events) :
    coverage i (piecesOf source (nodesOf events)) +
        coverage i (piecesAt source (strayTags {} events)) =
      within 0 source.length i := by
  have hbuilt : (events.foldl Builder.step {}).Faithful source :=
    Builder.Faithful.foldl_step (b := {}) ⟨.nil, nofun⟩ h
  have hcovered := Builder.coverage_foldl_step (i := i) (b := {}) ⟨.nil, nofun⟩ h
  obtain ⟨ns, ⟨-, hns⟩, hfinish⟩ := Builder.finish_keeps
    (I := fun b => b.Faithful source ∧
      b.coverage source i = (events.foldl Builder.step {}).coverage source i)
    (fun h => ⟨h.1.close, (Builder.coverage_add_closeHere h.1).trans h.2⟩) ⟨hbuilt, rfl⟩
  rw [nodesOf, hfinish, coverage_piecesOf_reverse]
  simp only [Builder.coverage, List.map_nil, List.sum_nil, piecesOf_nil, coverage_nil] at hns hcovered
  omega

/-! ## Pieces in order -/

namespace Piece

/-- The pieces spell what stands at their ranges, one behind the other between two offsets. -/
structure Ordered (source : String) (a b : Nat) (ps : List Piece) : Prop where
  le : a ≤ b
  parts : ∀ p ∈ ps, p.IsPart source
  inside : ∀ p ∈ ps, a ≤ p.start ∧ p.stop ≤ b
  pairwise : ps.Pairwise fun p q => p.stop ≤ q.start

namespace Ordered

variable {a b c : Nat} {p : Piece} {ps qs : List Piece}

theorem nil (h : a ≤ b) : Ordered source a b [] := ⟨h, nofun, nofun, .nil⟩

theorem single (hp : p.IsPart source) : Ordered source p.start p.stop [p] where
  le := Nat.le_of_lt hp.start_lt
  parts q hq := by
    obtain rfl := List.mem_singleton.1 hq
    exact hp
  inside q hq := by
    obtain rfl := List.mem_singleton.1 hq
    exact ⟨Nat.le_refl _, Nat.le_refl _⟩
  pairwise := List.pairwise_singleton _ _

/-- Ordered pieces behind ordered pieces are ordered. -/
theorem append (hps : Ordered source a b ps) (hqs : Ordered source b c qs) :
    Ordered source a c (ps ++ qs) where
  le := Nat.le_trans hps.le hqs.le
  parts p hp := (List.mem_append.1 hp).elim (hps.parts p) (hqs.parts p)
  inside p hp := by
    rcases List.mem_append.1 hp with hp | hp
    · exact ⟨(hps.inside p hp).1, Nat.le_trans (hps.inside p hp).2 hqs.le⟩
    · exact ⟨Nat.le_trans hps.le (hqs.inside p hp).1, (hqs.inside p hp).2⟩
  pairwise := List.pairwise_append.2 ⟨hps.pairwise, hqs.pairwise, fun p hp q hq =>
    Nat.le_trans (hps.inside p hp).2 (hqs.inside q hq).1⟩

/-- Ordered pieces are ordered between wider bounds. -/
theorem mono {a' b' : Nat} (h : Ordered source a b ps) (ha : a' ≤ a) (hb : b ≤ b') :
    Ordered source a' b' ps where
  le := Nat.le_trans ha (Nat.le_trans h.le hb)
  parts := h.parts
  inside p hp := ⟨Nat.le_trans ha (h.inside p hp).1, Nat.le_trans (h.inside p hp).2 hb⟩
  pairwise := h.pairwise

theorem sublist (h : Ordered source a b ps) (hsub : qs.Sublist ps) : Ordered source a b qs where
  le := h.le
  parts p hp := h.parts p (hsub.subset hp)
  inside p hp := h.inside p (hsub.subset hp)
  pairwise := h.pairwise.sublist hsub

theorem pairwise_le (h : Ordered source a b ps) : ps.Pairwise fun p q => p.le q = true :=
  h.pairwise.imp_of_mem fun hp _ hpq =>
    decide_eq_true (Nat.le_trans (Nat.le_of_lt (h.parts _ hp).start_lt) hpq)

end Ordered

theorem isPart_of {a b : Nat} (h : a < b) : (Piece.of source a b).IsPart source := ⟨h, rfl⟩

end Piece

mutual

/-- The pieces of a node follow each other in its range. -/
theorem Node.Sound.ordered : ∀ {n : Node}, n.Sound → n.Faithful source →
    Ordered source n.start n.stop (n.pieces source)
  | .element e cs, ⟨hstart, hcs, hstop, _⟩, h => by
    have hpieces := hcs.ordered_pieces fun n hn => h.of_mem hn
    have hstartTag : Ordered source e.start e.innerStart [.of source e.start e.innerStart] :=
      .single (isPart_of hstart)
    rw [Node.pieces]
    refine hstartTag.append (hpieces.append ?_)
    split_ifs with htag
    · exact .single (isPart_of htag)
    · exact .nil hstop
  | .text a b s, _, h => Ordered.single (p := ⟨a, b, s⟩) ⟨h.isFaithful.1, h.isFaithful.2⟩
  | .comment a b data, _, h =>
    Ordered.single (p := ⟨a, b, _⟩) ⟨h.isFaithful.1, h.isFaithful.2.symm⟩
  | .declaration a b, _, h => Ordered.single (p := Piece.of source a b) (isPart_of h.isFaithful)

theorem InOrder.ordered_pieces : ∀ {ns : List Node} {a b : Nat}, InOrder a b ns →
    (∀ n ∈ ns, n.Faithful source) → Ordered source a b (piecesOf source ns)
  | [], _, _, hle, _ => .nil hle
  | n :: _, _, _, ⟨ha, hn, hns⟩, h =>
    ((hn.ordered (h n List.mem_cons_self)).mono ha (Nat.le_refl _)).append
      (hns.ordered_pieces fun m hm => h m (List.mem_cons_of_mem _ hm))

end

/-- The pieces of events follow each other. -/
theorem Joined.ordered : ∀ {events : List Event} {start stop : Nat},
    Joined source stop start events → Ordered source start stop (piecesAt source events)
  | [], _, _, h => .nil (Nat.le_of_eq h)
  | e :: events, start, stop, ⟨hcovers, _, hevents⟩ => by
    obtain ⟨rfl, hlt, -, -⟩ := hcovers
    exact (Ordered.single (isPart_of hlt)).append hevents.ordered

/-- The end tags that close nothing are events, in order. -/
theorem strayTags_sublist : ∀ {events : List Event} {b : Builder},
    (strayTags b events).Sublist events
  | [], _ => .slnil
  | e :: events, b => by
    rw [strayTags]
    split_ifs
    · exact strayTags_sublist.cons_cons e
    · exact strayTags_sublist.cons e

/-! ## Pieces without gaps -/

namespace Piece

/-- Each piece begins where the one before it ends, the first one at one offset, and the last one ends
at another. -/
def Consecutive (stop : Nat) : Nat → List Piece → Prop
  | offset, [] => offset = stop
  | offset, p :: ps => p.start = offset ∧ p.stop ≤ stop ∧ Consecutive stop p.stop ps

/-- Pieces that start behind a place do not cover it. -/
theorem coverage_eq_zero {ps : List Piece} (h : ∀ p ∈ ps, i < p.start) : coverage i ps = 0 :=
  List.countP_eq_zero.2 fun p hp => by
    have := h p hp
    simp only [covers, Bool.and_eq_true, decide_eq_true_eq]
    omega

/-- Pieces in order that cover each offset of a range once, and no other, leave no gaps in it. -/
theorem consecutive_of_coverage {stop : Nat} :
    ∀ {ps : List Piece} {offset : Nat}, offset ≤ stop → (∀ p ∈ ps, p.start < p.stop) →
      (ps.Pairwise fun p q => p.start ≤ q.start) →
      (∀ i, coverage i ps = within offset stop i) → Consecutive stop offset ps
  | [], offset, hle, _, _, hcoverage => by
    have hcovered := hcoverage offset
    rw [coverage_nil, within] at hcovered
    split_ifs at hcovered
    exact Nat.le_antisymm hle (by omega)
  | p :: ps, offset, hle, hlt, hsorted, hcoverage => by
    have hp := hlt p List.mem_cons_self
    obtain ⟨hfirst, hrest⟩ := List.pairwise_cons.1 hsorted
    have hinside : ∀ i, p.start ≤ i → i < p.stop → offset ≤ i ∧ i < stop := fun i ha hb => by
      by_contra hout
      have hcovered := hcoverage i
      rw [coverage_cons, within, within, if_pos ⟨ha, hb⟩, if_neg hout] at hcovered
      omega
    have hstart : p.start = offset := by
      obtain ⟨hge, hlt⟩ := hinside p.start (Nat.le_refl _) hp
      by_contra hne
      -- Then nothing would cover the first offset.
      have hcovered := hcoverage offset
      rw [coverage_cons, coverage_eq_zero fun q hq => by have := hfirst q hq; omega,
        within, within, if_neg (by omega), if_pos (by omega)] at hcovered
      omega
    have hstop : p.stop ≤ stop := by
      have := (hinside (p.stop - 1) (by omega) (by omega)).2
      omega
    refine ⟨hstart, hstop, consecutive_of_coverage hstop
      (fun q hq => hlt q (List.mem_cons_of_mem _ hq)) hrest fun i => ?_⟩
    have hcovered := hcoverage i
    have hadd := within_add (i := i) (Nat.le_of_lt hp) hstop
    rw [coverage_cons, hstart] at hcovered
    rw [hstart] at hadd
    omega

/-- Pieces without gaps spell what stands in their whole range. -/
theorem join_of_consecutive {stop : Nat} :
    ∀ {ps : List Piece} {offset : Nat}, Consecutive stop offset ps →
      (∀ p ∈ ps, p.IsPart source) →
      String.join (ps.map (·.text)) = slice source offset stop
  | [], offset, h, _ => by
    obtain rfl : offset = stop := h
    rw [slice_self]
    rfl
  | p :: ps, _, ⟨hstart, hstop, hps⟩, hparts => by
    subst hstart
    have hp := hparts p List.mem_cons_self
    rw [List.map_cons, String.join_cons, hp.spells,
      join_of_consecutive hps fun q hq => hparts q (List.mem_cons_of_mem _ hq),
      slice_append_slice source (Nat.le_of_lt hp.start_lt) hstop]

/-- Pieces in order, put into one row by where they begin, spell the whole text if they cover every
offset once. -/
theorem join_merge {a b : Nat} {ps qs : List Piece} (hps : Ordered source a b ps)
    (hqs : Ordered source a b qs) (hcoverage : ∀ i, coverage i (ps ++ qs) = within a b i) :
    String.join ((ps.merge qs Piece.le).map (·.text)) = slice source a b := by
  have hperm : (ps.merge qs Piece.le).Perm (ps ++ qs) := List.merge_perm_append Piece.le
  have hparts : ∀ p ∈ ps.merge qs Piece.le, p.IsPart source := fun p hp =>
    (List.mem_append.1 (hperm.subset hp)).elim (hps.parts p) (hqs.parts p)
  have hsorted : (ps.merge qs Piece.le).Pairwise fun p q => p.le q = true :=
    List.pairwise_merge Piece.le_trans Piece.le_total ps qs hps.pairwise_le hqs.pairwise_le
  have hconsecutive : Consecutive b a (ps.merge qs Piece.le) :=
    consecutive_of_coverage hps.le (fun p hp => (hparts p hp).start_lt)
      (hsorted.imp of_decide_eq_true) fun i =>
        (hperm.countP_eq (covers i)).trans (hcoverage i)
  exact join_of_consecutive hconsecutive hparts

end Piece

/-! ## Documents -/

namespace Document

variable {contents : String} {d : Document}

/-- The events of a text that can be read tile it. Every offset of the text lies in exactly one
piece of the tree or skipped end tag, and both together, put in order, give the text again. -/
theorem parse_lossless (h : parse contents = .ok d) :
    ∃ events, scan contents = .ok events ∧ d.nodes = nodesOf events ∧
      Joined contents contents.length 0 events ∧
      (∀ i, coverage i (piecesOf contents d.nodes ++ piecesAt contents (strayTags {} events)) =
        if i < contents.length then 1 else 0) ∧
      d.rebuilt (strayTags {} events) = contents := by
  obtain ⟨hcontents, horder⟩ := parse_ok h
  obtain ⟨hfaithful, -⟩ := parse_faithful h
  obtain ⟨events, hscan, hnodes⟩ : ∃ events, scan contents = .ok events ∧
      d.nodes = nodesOf events := by
    unfold parse at h
    split at h
    · next events hscan =>
      split_ifs at h
      obtain rfl := Except.ok.inj h
      exact ⟨events, hscan, rfl⟩
    · cases h
  have hjoined := joined_scan hscan
  have hcoverage : ∀ i, coverage i (piecesOf contents d.nodes ++
      piecesAt contents (strayTags {} events)) = within 0 contents.length i := fun i => by
    rw [coverage_append, hnodes]
    exact coverage_nodesOf hjoined
  refine ⟨events, hscan, hnodes, hjoined, fun i => ?_, ?_⟩
  · rw [hcoverage, within]
    simp
  · have hpieces := horder.ordered_pieces hfaithful
    have hstrays : Ordered contents 0 contents.length (piecesAt contents (strayTags {} events)) :=
      hjoined.ordered.sublist (strayTags_sublist.map _)
    rw [rebuilt, hcontents, join_merge hpieces hstrays hcoverage, slice_zero_length]

/-- Tags that cross, texts that touch, a raw element and two end tags that are skipped. -/
theorem parse_lossless_crossed :
    ∃ d events, parse "<p>a<<b></q>x</p>y</b><script>z</script >" = .ok d ∧
      scan "<p>a<<b></q>x</p>y</b><script>z</script >" = .ok events ∧
      (strayTags {} events).map (·.start) = [8, 18] ∧
      d.rebuilt (strayTags {} events) = "<p>a<<b></q>x</p>y</b><script>z</script >" := by
  have hread : (parse "<p>a<<b></q>x</p>y</b><script>z</script >").toBool = true := by
    decide +kernel
  have hparse := Failing.eq_ok_getD hread ⟨"", []⟩
  obtain ⟨events, hscan, -, -, -, hrebuilt⟩ := parse_lossless hparse
  refine ⟨_, events, hparse, hscan, ?_, hrebuilt⟩
  have hstrays : ((scan "<p>a<<b></q>x</p>y</b><script>z</script >").map fun events =>
      (strayTags {} events).map (·.start)) = .ok [8, 18] := by decide +kernel
  rw [hscan] at hstrays
  exact Except.ok.inj hstrays

end Document

end HtmlModules.Markup
