import HtmlModules.Proofs.Attribute
import HtmlModules.Proofs.Placement

/-!
# Documents of one element

A node that is read first and is no text stays the first one, whatever follows
(`exists_nodesOf_cons`). A text that is one event is a document of one node (`readsAs_of_single`).
-/

namespace HtmlModules.Markup

open Text

variable {tag : String} {attributes : List Attribute}

/-! ## The first node -/

variable {n m : Node} {ns : List Node} {b : Builder} {e : Event} {events : List Event}

/-- A node that is no text stays the first one, whatever is read behind it. -/
theorem suffix_push (hn : ∀ a b s, n ≠ .text a b s) (h : [n] <:+ ns) : [n] <:+ push m ns := by
  unfold push
  split
  · next c d t rest =>
    have hrest : [n] <:+ rest := by
      rcases List.suffix_cons_iff.1 h with heq | hrest
      · exact absurd (List.cons.inj heq).1 (hn c d t)
      · exact hrest
    split_ifs
    · exact hrest.trans (List.suffix_cons _ _)
    · exact h.trans (List.suffix_cons _ _)
  · exact h.trans (List.suffix_cons _ _)

theorem suffix_add (hn : ∀ a b s, n ≠ .text a b s) (h : [n] <:+ b.roots) :
    [n] <:+ (b.add m).roots := by
  obtain ⟨roots, opened⟩ := b
  cases opened with
  | nil => exact suffix_push hn h
  | cons o rest => exact h

theorem suffix_step (hn : ∀ a b s, n ≠ .text a b s) (h : [n] <:+ b.roots) :
    [n] <:+ (b.step e).roots := by
  unfold Builder.step
  split
  · exact suffix_add hn h
  · exact suffix_add hn h
  · exact suffix_add hn h
  · exact suffix_add hn h
  · dsimp only
    split_ifs
    · exact suffix_add hn h
    · exact h
  · split_ifs with hopen
    · exact Builder.closeTag_keeps (I := fun b => [n] <:+ b.roots) (J := fun b => [n] <:+ b.roots)
        (fun h => suffix_add hn h) (fun h => suffix_add hn h) hopen h
    · exact h

theorem suffix_foldl_step (hn : ∀ a b s, n ≠ .text a b s) (h : [n] <:+ b.roots) :
    [n] <:+ (events.foldl Builder.step b).roots := by
  induction events generalizing b with
  | nil => exact h
  | cons e events ih => exact ih (suffix_step hn h)

/-- If the first event is a whole node that is no text, then this node is the first one of the
document. -/
theorem exists_nodesOf_cons (hn : ∀ a b s, n ≠ .text a b s)
    (h : (({} : Builder).step e).roots = [n]) : ∃ ms, nodesOf (e :: events) = n :: ms := by
  have hbuilt : [n] <:+ (events.foldl Builder.step (({} : Builder).step e)).roots :=
    suffix_foldl_step hn (h ▸ List.suffix_rfl)
  obtain ⟨ns, ⟨ms, hns⟩, hfinish⟩ :=
    Builder.finish_keeps (I := fun b => [n] <:+ b.roots) (fun h => suffix_add hn h) hbuilt
  dsimp only at hns
  refine ⟨ms.reverse, ?_⟩
  rw [nodesOf, List.foldl_cons, hfinish, ← hns, List.reverse_append, List.reverse_singleton,
    List.singleton_append]

/-! ## Documents of one element -/

/-- The text is read as one element with this tag, these attributes and these contents. -/
def ReadsAs (text tag : String) (attributes : List Attribute) (inner : String) : Prop :=
  ∃ d e cs, Document.parse text = .ok d ∧ d.nodes = [.element e cs] ∧ e.tag = tag ∧
    e.attributes = attributes ∧ d.innerSource e = inner

theorem map_unescaped_escaped (attributes : List Attribute) :
    (attributes.map Attribute.escaped).map (·.unescaped) = attributes := by
  rw [List.map_map]
  exact List.map_id'' (fun a => a.unescaped_escaped) attributes

theorem hasLongNumber_of_escaped (h : e.kind.attributes = attributes.map Attribute.escaped) :
    e.hasLongNumber = false := by
  rw [Event.hasLongNumber, h, List.any_map, List.any_eq_false]
  rintro ⟨name, value⟩ -
  cases value with
  | none => simp [Attribute.escaped]
  | some v => simp [Attribute.escaped, toList_escapeValue, holdsLongNumber_escaped]

/-- Reading a text that is not empty begins with one event. -/
theorem exists_scan_eq {text : String} (htext : 0 < text.length) :
    ∃ fuel, scan text = scanEvent 0 text.toList >>= fun e =>
      scanFrom fuel e.stop (text.toList.drop e.stop) >>= fun events => .ok (e :: events) := by
  obtain ⟨fuel, hfuel⟩ := Nat.exists_eq_succ_of_ne_zero (Nat.ne_zero_of_lt htext)
  have hnonempty : text.toList.isEmpty = false := by
    rw [List.isEmpty_eq_false_iff_exists_mem]
    exact List.exists_mem_of_length_pos (by rwa [String.length_toList])
  refine ⟨fuel, ?_⟩
  rw [scan, hfuel, scanFrom, hnonempty]
  rfl

/-- A text that is one event. -/
theorem parse_of_scanEvent {text : String} (hevent : scanEvent 0 text.toList = .ok e)
    (hstop : e.stop = text.length) (htext : 0 < text.length) (hlong : e.hasLongNumber = false) :
    Document.parse text = .ok ⟨text, nodesOf [e]⟩ := by
  have hscan : scan text = .ok [e] := by
    obtain ⟨fuel, hscan⟩ := exists_scan_eq htext
    have hend : scanFrom fuel e.stop (text.toList.drop e.stop) = .ok [] := by
      rw [hstop, ← String.length_toList, List.drop_length]
      cases fuel <;> rfl
    exact hscan.trans (Failing.bind_eq_ok.2 ⟨e, hevent, Failing.bind_eq_ok.2 ⟨[], hend, rfl⟩⟩)
  simp [Document.parse, hscan, hlong]

/-- What is read of a text begins with its first event. -/
theorem exists_scanEvent_of_parse {text : String} {d : Document} (h : Document.parse text = .ok d)
    (htext : 0 < text.length) :
    ∃ e events, scanEvent 0 text.toList = .ok e ∧ d = ⟨text, nodesOf (e :: events)⟩ := by
  unfold Document.parse at h
  split at h
  · next events hscan =>
    split_ifs at h
    obtain rfl := Except.ok.inj h
    obtain ⟨fuel, hfuel⟩ := exists_scan_eq htext
    obtain ⟨e, he, hrest⟩ := Failing.bind_eq_ok.1 (hfuel.symm.trans hscan)
    obtain ⟨rest, -, hevents⟩ := Failing.bind_eq_ok.1 hrest
    exact ⟨e, rest, he, by rw [← Except.ok.inj hevents]⟩
  · cases h

theorem readsAs_of_single {text inner : String} {element : Element} {children : List Node}
    (hevent : scanEvent 0 text.toList = .ok e) (hstop : e.stop = text.length)
    (htext : 0 < text.length) (hlong : e.hasLongNumber = false)
    (hnodes : nodesOf [e] = [.element element children])
    (hinner : slice text element.innerStart element.innerStop = inner) :
    ReadsAs text element.tag element.attributes inner :=
  ⟨_, element, children, parse_of_scanEvent hevent hstop htext hlong, hnodes, rfl, rfl, hinner⟩

theorem step_rawElement (b : Builder) {start stop innerStart innerStop : Nat} {text : String} :
    b.step ⟨start, stop,
        .rawElement tag (attributes.map Attribute.escaped) innerStart innerStop text⟩ =
      b.add (.element ⟨start, stop, tag, attributes, innerStart, innerStop⟩
        (if text = "" then [] else [.text innerStart innerStop text])) := by
  rw [Builder.step]
  dsimp only
  rw [map_unescaped_escaped]

theorem nodesOf_rawElement {start stop innerStart innerStop : Nat} {text : String} :
    nodesOf [⟨start, stop,
        .rawElement tag (attributes.map Attribute.escaped) innerStart innerStop text⟩] =
      [.element ⟨start, stop, tag, attributes, innerStart, innerStop⟩
        (if text = "" then [] else [.text innerStart innerStop text])] := by
  rw [nodesOf, List.foldl_cons, List.foldl_nil, step_rawElement]
  simp [Builder.add, push, Builder.finish]

/-- A raw element that is read first is the first node. -/
theorem exists_nodesOf_rawElement (tag : String) (attributes : List Attribute)
    {start stop innerStart innerStop : Nat} {text : String} :
    ∃ ms, nodesOf (⟨start, stop,
        .rawElement tag (attributes.map Attribute.escaped) innerStart innerStop text⟩ :: events) =
      .element ⟨start, stop, tag, attributes, innerStart, innerStop⟩
        (if text = "" then [] else [.text innerStart innerStop text]) :: ms := by
  refine exists_nodesOf_cons (fun _ _ _ => Node.noConfusion) ?_
  rw [step_rawElement]
  rfl

theorem nodesOf_startTag {start stop : Nat} :
    nodesOf [⟨start, stop, .startTag tag (attributes.map Attribute.escaped) false⟩] =
      [.element ⟨start, stop, tag, attributes, stop, stop⟩ []] := by
  rw [nodesOf, List.foldl_cons, List.foldl_nil, Builder.step]
  dsimp only
  rw [map_unescaped_escaped]
  split_ifs
  · simp [Builder.add, push, Builder.finish]
  · simp [push, Builder.finish, OpenElement.closeHere, OpenElement.close]

end HtmlModules.Markup
