import HtmlModules.Proofs.Cutting
import HtmlModules.Proofs.Initializer
import HtmlModules.Proofs.Inlining

/-!
# Which markup is put into the page

The content of a document is put into the page but for base, link, meta and script elements and the
blocks that were claimed (`Pass.insertedElements_eq`). An element brings what is below it, without what
has no place in the page or was claimed there. Inside a template nothing is left out: a claimed block
is gone (`Pass.isAbsent_of_not_isSheltered`) unless it is sheltered so, and then it is in the page and
in the program as well (`Pass.isWhole_of_isSheltered`).

`Pipeline.markup_conserved` says what becomes of all markup of a document from its reading to here.
Two things keep a document from having its markup once (`Pipeline.exists_not_conserved`): a tag that
is declared more than once, and a block in a template.
-/

namespace HtmlModules

namespace Markup

/-! ## Elements below others -/

/-- The element as a node. -/
def PlacedElement.node (p : PlacedElement) : Node := .element p.element p.children

/-- The elements below an element, in document order. -/
def PlacedElement.below (p : PlacedElement) : List PlacedElement := p.node.elementsBelow p.around

mutual

/-- What is around a node stays around everything below it. -/
theorem Node.suffix_of_mem_outline {x : List Element × Node} :
    ∀ {n : Node} {around : List Element}, x ∈ n.outline around → around <:+ x.1
  | .element e cs, around, h => by
    rw [Node.outline] at h
    rcases List.mem_cons.1 h with rfl | h
    · exact List.suffix_rfl
    · exact (List.suffix_cons e around).trans (Node.suffix_of_mem_outlineAll h)
  | .text .., _, h | .comment .., _, h | .declaration .., _, h => by
    obtain rfl := List.mem_singleton.1 h
    exact List.suffix_rfl

/-- The elements around a row stay around all that is in it. -/
theorem Node.suffix_of_mem_outlineAll {x : List Element × Node} :
    ∀ {ns : List Node} {around : List Element}, x ∈ outlineAll around ns → around <:+ x.1
  | [], _, h => by cases h
  | n :: ns, around, h => by
    rw [Node.outlineAll] at h
    rcases List.mem_append.1 h with h | h
    · exact Node.suffix_of_mem_outline h
    · exact Node.suffix_of_mem_outlineAll h

end

/-- What is below an element has it around, and all that is around it. -/
theorem PlacedElement.suffix_of_mem_below {p q : PlacedElement} (h : q ∈ p.below) :
    p.element :: p.around <:+ q.around :=
  Node.suffix_of_mem_outlineAll (mem_elementsOf.1 h)

/-- What lies below an element lies inside whatever the element lies inside. -/
theorem isInside_of_mem_below {p q : PlacedElement} {tag : String} (h : q ∈ p.below)
    (hp : isInside p.around tag = true) : isInside q.around tag = true := by
  obtain ⟨e, he, htag⟩ := List.any_eq_true.1 hp
  exact List.any_eq_true.2
    ⟨e, (PlacedElement.suffix_of_mem_below h).subset (List.mem_cons_of_mem _ he), htag⟩

/-- Of elements in document order, a later one stands behind an earlier one or below it. -/
theorem InOrder.pairwise_below : ∀ {ns : List Node} {a b : Nat}, InOrder a b ns →
    ∀ around : List Element, (elementsOf (Node.outlineAll around ns)).Pairwise
      fun p q => p.element.stop ≤ q.element.start ∨ q ∈ p.below
  | [], _, _, _, _ => .nil
  | n :: ns, a, b, ⟨ha, hn, hns⟩, around => by
    cases hne : n.element? with
    | none =>
      rw [elementsOf_outlineAll_cons_of_element?_eq_none hne]
      exact hns.pairwise_below around
    | some f =>
      cases n with
      | element f cs =>
        obtain ⟨hstart, hcs, hstop, -⟩ := hn
        have hbehind : ∀ q ∈ elementsOf (Node.outlineAll around ns), f.stop ≤ q.element.start :=
          fun q hq => (hns.inside around _ (List.mem_map_of_mem hq)).le_start
        rw [elementsOf_outlineAll_cons]
        refine .cons (fun q hq => ?_) (List.pairwise_append.2
          ⟨hcs.pairwise_below _, hns.pairwise_below around, fun p hp q hq => Or.inl ?_⟩)
        · exact (List.mem_append.1 hq).elim Or.inr fun hq => Or.inl (hbehind q hq)
        · exact ((hcs.inside _ _ (List.mem_map_of_mem hp)).stop_le.trans hstop).trans (hbehind q hq)
      | _ => cases hne

namespace Document

variable {contents : String} {d : Document}

/-- Two elements that hold one offset are the same, or one is below the other. -/
theorem below_or_below (h : parse contents = .ok d) {p q : PlacedElement} (hp : p ∈ d.elements)
    (hq : q ∈ d.elements) {i : Nat} (hpi : p.element.Spans i) (hqi : q.element.Spans i) :
    p = q ∨ q ∈ p.below ∨ p ∈ q.below := by
  have hpairwise := (parse_ok h).2.pairwise_below []
  have hnested : p = q ∨ (p.element.stop ≤ q.element.start ∨ q ∈ p.below) ∨
      (q.element.stop ≤ p.element.start ∨ p ∈ q.below) :=
    List.Pairwise.forall_of_forall_of_flip
      (R := fun p q => p = q ∨ (p.element.stop ≤ q.element.start ∨ q ∈ p.below) ∨
        (q.element.stop ≤ p.element.start ∨ p ∈ q.below))
      (fun _ _ => Or.inl rfl) (hpairwise.imp fun hpq => Or.inr (Or.inl hpq))
      (hpairwise.imp fun hpq => Or.inr (Or.inr hpq)) hp hq
  unfold Element.Spans at hpi hqi
  rcases hnested with heq | (hstop | hbelow) | (hstop | hbelow)
  · exact Or.inl heq
  · omega
  · exact Or.inr (Or.inl hbelow)
  · omega
  · exact Or.inr (Or.inr hbelow)

end Document

/-! ## Content -/

/-- The element gives a document no shape, and only elements that do are around it. -/
def PlacedElement.isContent (p : PlacedElement) : Bool :=
  !wrapperTags.contains p.element.tag && p.around.all fun f => wrapperTags.contains f.tag

/-- What is below an element that is no wrapper is no content. -/
theorem not_isContent_of_mem_below {p q : PlacedElement} (h : q ∈ p.below)
    (hp : p.element.tag ∉ wrapperTags) : ¬q.isContent = true := by
  intro hq
  rw [PlacedElement.isContent, Bool.and_eq_true, List.all_eq_true] at hq
  have haround := (PlacedElement.suffix_of_mem_below h).subset List.mem_cons_self
  exact hp (List.contains_iff_mem.1 (hq.2 _ haround))

/-- Inside wrappers, what carries content is what is content. -/
theorem contentsOf_eq_filter : ∀ {ns : List Node} {around : List Element},
    (∀ f ∈ around, f.tag ∈ wrapperTags) → contentsOf around ns =
      (elementsOf (Node.outlineAll around ns)).filter PlacedElement.isContent
  | [], _, _ => rfl
  | n :: ns, around, haround => by
    have ih : contentsOf around ns = _ := contentsOf_eq_filter haround
    cases n with
    | element e cs =>
      rw [contentsOf, Node.contents, elementsOf_outlineAll_cons, List.filter_cons,
        List.filter_append, ih]
      by_cases htag : e.tag ∈ wrapperTags
      · have hinner : contentsOf (e :: around) cs = _ :=
          contentsOf_eq_filter (List.forall_mem_cons.2 ⟨htag, haround⟩)
        simp [PlacedElement.isContent, htag, hinner, Node.elementsBelow]
      · have hnone : ((Node.element e cs).elementsBelow around).filter PlacedElement.isContent = [] :=
          List.filter_eq_nil_iff.2 fun q hq =>
            not_isContent_of_mem_below (p := ⟨around, e, cs⟩) hq htag
        have hself : PlacedElement.isContent ⟨around, e, cs⟩ = true := by
          simpa [PlacedElement.isContent, htag] using haround
        simp [htag, hnone, hself]
    | _ => simpa [contentsOf, Node.contents, elementsOf, Node.outlineAll, Node.outline] using ih

/-- The elements of a document that carry content are those that are content, in document order. -/
theorem Document.contentElements_eq (d : Document) :
    d.contentElements = d.elements.filter PlacedElement.isContent :=
  contentsOf_eq_filter (by simp)

end Markup

namespace Pass

open Text Markup

variable {d : Document} {claimed : List Nat} {p q : PlacedElement} {contents : String} {i : Nat}

/-! ## Elements of the page -/

/-- Outside of templates an element is left out for its tag or because it was claimed. -/
theorem isLeftOut_of_outside {around : List Element} (h : isInside around "template" = false)
    (e : Element) :
    isLeftOut claimed around e = true ↔ e.tag ∈ unplacedTags ∨ e.start ∈ claimed := by
  simp [isLeftOut, h]

theorem isInside_of_isContent (h : p.isContent = true) : isInside p.around "template" = false := by
  rw [PlacedElement.isContent, Bool.and_eq_true, List.all_eq_true] at h
  refine List.any_eq_false.2 fun f hf htag => ?_
  have hwrapper := h.2 f hf
  rw [beq_iff_eq.1 htag] at hwrapper
  exact absurd hwrapper (by decide)

/-- What is content is put into the page unless it has no place there or was claimed. -/
theorem insertedElements_eq (d : Document) (claimed : List Nat) :
    insertedElements d claimed = d.elements.filter fun p =>
      p.isContent && !unplacedTags.contains p.element.tag && !claimed.contains p.element.start := by
  rw [insertedElements, d.contentElements_eq, List.filter_filter]
  refine List.filter_congr fun p _ => ?_
  cases hp : p.isContent with
  | false => simp
  | true => simp [isLeftOut, isInside_of_isContent hp]

/-- What an element of the content brings into the page. -/
def insertedSource (d : Document) (claimed : List Nat) (p : PlacedElement) : String :=
  d.sourceWithout (isLeftOut claimed) p.around p.node

/-- Nothing that the second element holds stays in what the first one brings into the page. -/
def IsAbsent (claimed : List Nat) (p q : PlacedElement) : Prop :=
  ∀ i, q.element.Spans i → ¬Document.Stays (isLeftOut claimed) p.around p.node i

/-- All that the second element holds stays in what the first one brings into the page. -/
def IsWhole (claimed : List Nat) (p q : PlacedElement) : Prop :=
  ∀ i, q.element.Spans i → Document.Stays (isLeftOut claimed) p.around p.node i

/-- The second element is in a template, and nothing between the two is left out. -/
def IsSheltered (claimed : List Nat) (p q : PlacedElement) : Prop :=
  isInside q.around "template" = true ∧
    ∀ m ∈ p.below, q ∈ m.below → isLeftOut claimed m.around m.element = false

/-- An element of a document that is parsed is sound. -/
theorem sound_of_mem (h : Document.parse contents = .ok d) (hp : p ∈ d.elements) : p.node.Sound :=
  (Document.parse_ok h).2.sound_of_mem_outlineAll (mem_elementsOf.1 hp)

/-- What is left out goes with all that is below it. -/
theorem isAbsent_of_isLeftOut (h : Document.parse contents = .ok d) (hp : p ∈ d.elements)
    {m : PlacedElement} (hm : m ∈ p.below) (hleft : isLeftOut claimed m.around m.element = true)
    (hq : q = m ∨ q ∈ m.below) : IsAbsent claimed p q := by
  rintro i hqi ⟨-, -, hstays⟩
  refine hstays ⟨m, hm, hleft, ?_⟩
  rcases hq with rfl | hq
  · exact hqi
  · exact (sound_of_mem h (Document.mem_elements_of_below hp hm)).spans_of_mem hq hqi

/-- What is sheltered by a template stays whole. -/
theorem isWhole_of_isSheltered (h : Document.parse contents = .ok d) (hp : p ∈ d.elements)
    (hq : q ∈ p.below) (hsheltered : IsSheltered claimed p q) : IsWhole claimed p q := by
  intro i hqi
  obtain ⟨hstart, hstop⟩ := (sound_of_mem h hp).spans_of_mem hq hqi
  refine ⟨hstart, hstop, fun ⟨m, hm, hleft, hmi⟩ => ?_⟩
  have hinside {m : PlacedElement} (hm : isInside m.around "template" = true) :
      isLeftOut claimed m.around m.element = false := by simp [isLeftOut, hm]
  -- What holds the offset is the element itself, below it, or between the two.
  rcases Document.below_or_below h (Document.mem_elements_of_below hp hq)
    (Document.mem_elements_of_below hp hm) hqi hmi with rfl | hmq | hqm
  · rw [hinside hsheltered.1] at hleft
    cases hleft
  · rw [hinside (isInside_of_mem_below hmq hsheltered.1)] at hleft
    cases hleft
  · rw [hsheltered.2 m hm hqm] at hleft
    cases hleft

/-- A claimed block that no template shelters is gone. -/
theorem isAbsent_of_not_isSheltered (h : Document.parse contents = .ok d) (hp : p ∈ d.elements)
    (hq : q ∈ p.below) (hclaimed : q.element.start ∈ claimed) (hout : ¬IsSheltered claimed p q) :
    IsAbsent claimed p q := by
  by_cases hinside : isInside q.around "template" = true
  · obtain ⟨m, hm, hqm, hleft⟩ : ∃ m ∈ p.below, q ∈ m.below ∧
        isLeftOut claimed m.around m.element = true := by
      simpa [IsSheltered, hinside] using hout
    exact isAbsent_of_isLeftOut h hp hm hleft (Or.inr hqm)
  · have hleft : isLeftOut claimed q.around q.element = true :=
      (isLeftOut_of_outside (Bool.not_eq_true _ ▸ hinside) q.element).2 (Or.inr hclaimed)
    exact isAbsent_of_isLeftOut h hp hq hleft (Or.inl rfl)

/-! ## The pass -/

/-- What the insertion of markup makes of a program: it puts in statements that bring these elements
into the page, if there are any. -/
structure Inserts (d : Document) (claimed : List Nat) (source text : String) : Prop where
  /-- They are the content of the document, in its order, but for what has no place in the page or was
  claimed. -/
  placed : insertedElements d claimed = d.elements.filter fun p =>
    p.isContent && !unplacedTags.contains p.element.tag && !claimed.contains p.element.start
  /-- An element brings its source but for what is left out of it. -/
  sources : ∀ p ∈ insertedElements d claimed, (insertedSource d claimed p).toList =
    select (Document.Stays (isLeftOut claimed) p.around p.node) 0 d.contents.toList
  /-- A claimed block in one of them is gone unless a template shelters it: then it is whole. -/
  nested : ∀ p ∈ insertedElements d claimed, ∀ q ∈ p.below, q.element.start ∈ claimed →
    (IsSheltered claimed p q → IsWhole claimed p q) ∧
      (¬IsSheltered claimed p q → IsAbsent claimed p q)
  statements : if insertedElements d claimed = [] then text = source else
    ∃ program, Script.parse source = .ok program ∧ applyEdits source [insertionEdit program
      (insertionStatements
        (join "\n" ((insertedElements d claimed).map (insertedSource d claimed)))
        (Identifier.findAvailable containerName program.usedNames))] = .ok text

/-- The stage that inserts markup puts one statement in front of the program, or none if no element
is left. -/
theorem insertMarkup_ok {c : Context} {f g : Findings} {source text : String}
    (hmarkup : c.file.markup = some d) (h : insertMarkup source c f = .ok text g) :
    if insertedElements d f.claimed = [] then text = source else
      ∃ program, Script.parse source = .ok program ∧ applyEdits source [insertionEdit program
        (insertionStatements
          (join "\n" ((insertedElements d f.claimed).map (insertedSource d f.claimed)))
          (Identifier.findAvailable containerName program.usedNames))] = .ok text := by
  obtain ⟨c', f₁, hread, hrest⟩ := bind_eq_ok.1 h
  cases hread
  rw [hmarkup] at hrest
  obtain ⟨f₂, f₃, hget, hmore⟩ := bind_eq_ok.1 hrest
  cases hget
  dsimp only at hmore
  simp only [List.isEmpty_iff] at hmore
  split_ifs at hmore ⊢ with hempty
  · cases hmore
    rfl
  · obtain ⟨program, f₄, hprogram, hedit⟩ := bind_eq_ok.1 hmore
    obtain ⟨hparse, rfl⟩ := readProgram_eq_ok.1 hprogram
    exact ⟨program, hparse, (edit_eq_ok.1 hedit).1⟩

/-- Where it succeeds, the stage that inserts markup inserts as specified. -/
theorem inserts_of_ok (hparse : Document.parse contents = .ok d) {c : Context} {f g : Findings}
    {source text : String} (hmarkup : c.file.markup = some d)
    (h : insertMarkup source c f = .ok text g) : Inserts d f.claimed source text := by
  have hmem {p : PlacedElement} (hp : p ∈ insertedElements d f.claimed) : p ∈ d.elements := by
    rw [insertedElements_eq] at hp
    exact List.mem_of_mem_filter hp
  refine ⟨insertedElements_eq d f.claimed, fun p hp => ?_, fun p hp q hq hclaimed => ?_,
    insertMarkup_ok hmarkup h⟩
  · have hsound := sound_of_mem hparse (hmem hp)
    obtain ⟨hcontents, horder⟩ := Document.parse_ok hparse
    refine Document.sourceWithout_eq_select hsound ?_
    rw [hcontents]
    exact (horder.bounds_outlineAll (mem_elementsOf.1 (hmem hp))).2
  · exact ⟨isWhole_of_isSheltered hparse (hmem hp) hq,
      isAbsent_of_not_isSheltered hparse (hmem hp) hq hclaimed⟩

end Pass

namespace Pipeline

open Text Markup Pass

variable {c : Context} {source text : String}

/-- The stages of a conversion in front of the insertion of markup. -/
def beforeInsertion : List Stage :=
  [.globalThis, .unwrap] ++ .inlineTemplates ::
    [.collectReferences, .exportNamespaces, .namespaceThis, .substitutePaths]

/-- The stages for a module are those up to the insertion, the insertion and the rest. -/
theorem run_forModule : forModule.run c source = runFrom c (.start source) source
    (beforeInsertion ++ .insertMarkup :: [.bindImports, .reportHazards, .finish]) := by
  rw [run, forModule_order]
  rfl

/-! ## Documents without other files -/

/-- The context in which a document without other files is converted. -/
def documentContext (contents : String) : Context where
  file := ((({ files := [] } : SourceRoot).readDocument "a.html" contents).toOption.getD
    ({ url := "a.html", contents }, [])).1
  moduleUrl := "./a.js"
  settings := { namespaces := ["Polymer"] }

/-- The blocks that are claimed when a document is converted. -/
def claimedBy (contents source : String) : List Nat :=
  (forModule.run (documentContext contents) source).findings.claimed

/-- The blocks that are claimed are those of the stages up to the inlining. -/
theorem claimedBy_eq (contents source : String) :
    claimedBy contents source = (runFrom (documentContext contents) (.start source) source
      [.globalThis, .unwrap, .inlineTemplates]).findings.claimed := by
  rw [claimedBy, run_forModule]
  change (runFrom _ _ _ ([.globalThis, .unwrap, .inlineTemplates] ++ _)).findings.claimed = _
  exact runFrom_append_claimed (by decide) _ _

/-- The conversion of a document comes to the insertion of markup. The source is the code of its only
script, and the program is what it is unwrapped to. -/
structure Converts (contents source : String) (d : Document) (program : Script.Node) : Prop where
  read : ∃ warnings, ({ files := [] } : SourceRoot).readDocument "a.html" contents =
    .ok ((documentContext contents).file, warnings)
  markup : (documentContext contents).file.markup = some d
  code : (documentContext contents).file.scripts.map (·.code) = [source]
  unwrapped : ∃ text, (Stage.unwrap, text) ∈ (forModule.run (documentContext contents) source).texts ∧
    Script.parse text = .ok program
  inserted : ∃ text,
    (Stage.insertMarkup, text) ∈ (forModule.run (documentContext contents) source).texts

theorem exists_converts {contents source : String} {p : Document → Script.Node → Bool}
    (h : ((({ files := [] } : SourceRoot).readDocument "a.html" contents).toBool &&
      (documentContext contents).file.scripts.map (·.code) == [source] &&
      (forModule.run (documentContext contents) source).texts.any (·.1 == .insertMarkup) &&
      (documentContext contents).file.markup.any fun d =>
        (forModule.run (documentContext contents) source).texts.any fun x =>
          x.1 == .unwrap && (Script.parse x.2).toOption.any fun program => p d program) = true) :
    ∃ d program, Converts contents source d program ∧ p d program = true := by
  simp only [Bool.and_eq_true, List.any_eq_true, beq_iff_eq] at h
  obtain ⟨⟨⟨hread, hcode⟩, ⟨stage, text⟩, htext, rfl⟩, hany⟩ := h
  obtain ⟨d, hd, hunwrapped⟩ := (Option.any_eq_true _ _).1 hany
  obtain ⟨⟨stage, unwrapped⟩, hmem, hprogram⟩ := List.any_eq_true.1 hunwrapped
  obtain ⟨hstage, hprogram⟩ := Bool.and_eq_true_iff.1 hprogram
  obtain rfl := beq_iff_eq.1 hstage
  obtain ⟨program, hparse, hp⟩ := exists_parse hprogram
  exact ⟨d, program, ⟨⟨_, Failing.eq_ok_getD hread ({ url := "a.html", contents }, [])⟩, hd, hcode,
    ⟨unwrapped, hmem, hparse⟩, text, htext⟩, hp⟩

/-- A script that declares the tag of a block twice. -/
def twiceScript : String := "Polymer(\x7bis:'x'\x7d);Polymer(\x7bis:'x'\x7d)"

/-- A document with the script, and a block that has a template for it. -/
def twiceDocument : String :=
  "<dom-module id=x><template></template></dom-module><script>" ++ twiceScript ++ "</script>"

/-- The script that goes with a block in a template. -/
def nestedScript : String := "Polymer(\x7bis:'x'\x7d)"

/-- A document with the script, and a block for it that stands in a template. -/
def nestedDocument : String :=
  "<template><dom-module id=x></dom-module></template><script>" ++ nestedScript ++ "</script>"

theorem converts_twice : ∃ d program, Converts twiceDocument twiceScript d program ∧
    (d.elements.any (fun b => (claimedBy twiceDocument twiceScript).contains b.element.start &&
        b.element.attribute? "id" == some "x" && b.template?.isSome) &&
      program.elementDeclarations.map (·.tag) == ["x", "x"] &&
      (received (moves program.elementDeclarations
        (documentContext twiceDocument).file.elements) 0).length == 2) = true := by
  rw [claimedBy_eq]
  exact exists_converts (by decide +kernel)

theorem converts_nested : ∃ d program, Converts nestedDocument nestedScript d program ∧
    (insertedElements d (claimedBy nestedDocument nestedScript)).any (fun p => p.below.any fun q =>
      (claimedBy nestedDocument nestedScript).contains q.element.start &&
        decide (Document.Stays (isLeftOut (claimedBy nestedDocument nestedScript)) p.around p.node
          q.element.start) && decide (q.element.start < q.element.stop)) = true := by
  rw [claimedBy_eq]
  exact exists_converts (by decide +kernel)

/-! ## Conservation -/

/-- If the conversion of a document comes to the insertion of markup, then the templates have moved
into the program that the scripts are unwrapped to, and what was claimed for that is what the insertion
leaves out. -/
theorem markup_conserved {r : SourceRoot} {url contents : String} {warnings : Diagnostics}
    (hread : r.readDocument url contents = .ok (c.file, warnings))
    (hrun : (Stage.insertMarkup, text) ∈ (forModule.run c source).texts) :
    ∃ d program unwrapped inlined before,
      c.file.markup = some d ∧ d.contents = contents ∧
      (Stage.unwrap, unwrapped) ∈ (forModule.run c source).texts ∧
      (Stage.inlineTemplates, inlined) ∈ (forModule.run c source).texts ∧
      (Stage.substitutePaths, before) ∈ (forModule.run c source).texts ∧
      Inlines c d (forModule.run c source).findings.claimed program unwrapped inlined ∧
      Inserts d (forModule.run c source).findings.claimed before text := by
  obtain ⟨d, hparse, hfrom⟩ := SourceRoot.readDocument_ok hread
  rw [run_forModule] at hrun ⊢
  obtain ⟨hfirst, g, hinsert, hsplit⟩ := exists_run_of_mem_texts (by decide) (by decide) hrun
  obtain ⟨inlined, hmem⟩ := exists_text_of_mem (s := .inlineTemplates) hfirst (by decide)
  obtain ⟨hhead, f, hinline, hfirstSplit⟩ :=
    exists_run_of_mem_texts (by decide) (by decide) hmem
  set head := runFrom c (.start source) source [.globalThis, .unwrap]
  set first := runFrom c (.start source) source beforeInsertion
  change first = _ at hfirstSplit
  -- The claims are those that the inlining of templates makes.
  have hclaimed : first.findings.claimed = f.claimed := by
    rw [hfirstSplit]
    exact runFrom_claimed (by decide) f inlined
  obtain ⟨program, hinlines⟩ := inlines_of_ok hparse hfrom.markup hread
    (runFrom_claimed (by decide) _ _) hinline
  have hinserts := inserts_of_ok hparse hfrom.markup hinsert
  have hheadText : (Stage.unwrap, head.text source) ∈ head.texts :=
    mem_texts_last rfl hhead
  have hfirstText : (Stage.substitutePaths, first.text source) ∈ first.texts :=
    mem_texts_last rfl hfirst
  rw [runFrom_append_claimed (by decide), hclaimed, hsplit]
  rw [hclaimed] at hinserts
  refine ⟨d, program, head.text source, inlined, first.text source, hfrom.markup,
    (Document.parse_ok hparse).1, ?_, ?_, ?_, hinlines, hinserts⟩
  · refine List.mem_append_left _ ?_
    rw [hfirstSplit]
    exact List.mem_append_left _ hheadText
  · exact List.mem_append_left _ hmem
  · exact List.mem_append_left _ hfirstText

theorem markup_conserved_twice :
    ∃ d program unwrapped inlined before text,
      d.contents = twiceDocument ∧ Script.parse unwrapped = .ok program ∧
      (Stage.unwrap, unwrapped) ∈ (forModule.run (documentContext twiceDocument) twiceScript).texts ∧
      Inlines (documentContext twiceDocument) d (claimedBy twiceDocument twiceScript) program unwrapped
        inlined ∧
      Inserts d (claimedBy twiceDocument twiceScript) before text := by
  rw [claimedBy]
  obtain ⟨d, program, hconverts, -⟩ := converts_twice
  obtain ⟨warnings, hread⟩ := hconverts.read
  obtain ⟨text, htext⟩ := hconverts.inserted
  obtain ⟨d', program', unwrapped, inlined, before, -, hcontents, hunwrapped, -, -, hinlines,
    hinserts⟩ := markup_conserved hread htext
  exact ⟨d', program', unwrapped, inlined, before, text, hcontents, hinlines.parses, hunwrapped,
    hinlines, hinserts⟩

/-- A block is claimed of which one declaration of its tag receives the template twice and another one
does not, and one that stays in the page, in a template. -/
theorem exists_not_conserved :
    (∃ d program, Converts twiceDocument twiceScript d program ∧
      ∃ b ∈ d.elements, b.element.start ∈ claimedBy twiceDocument twiceScript ∧
        b.element.attribute? "id" = some "x" ∧ ∃ template, b.template? = some template ∧
          ¬EachOnce program.elementDeclarations (documentContext twiceDocument).file.elements "x"
            template) ∧
    ∃ d program, Converts nestedDocument nestedScript d program ∧
      ∃ p ∈ insertedElements d (claimedBy nestedDocument nestedScript), ∃ q ∈ p.below,
        q.element.start ∈ claimedBy nestedDocument nestedScript ∧
          ¬IsAbsent (claimedBy nestedDocument nestedScript) p q := by
  refine ⟨?_, ?_⟩
  · obtain ⟨d, program, hconverts, h⟩ := converts_twice
    simp only [Bool.and_eq_true, List.any_eq_true, List.contains_iff_mem, beq_iff_eq] at h
    obtain ⟨⟨⟨b, hb, ⟨hclaimed, hid⟩, htemplate⟩, htags⟩, htwice⟩ := h
    obtain ⟨template, htemplate⟩ := Option.isSome_iff_exists.1 htemplate
    refine ⟨d, program, hconverts, b, hb, hclaimed, hid, template, htemplate, fun honce => ?_⟩
    obtain ⟨x, hx, htag⟩ : ∃ x, program.elementDeclarations[0]? = some x ∧ x.tag = "x" := by
      have hfirst := congrArg (·[0]?) htags
      simpa using hfirst
    rw [honce 0 x hx htag] at htwice
    cases htwice
  · obtain ⟨d, program, hconverts, h⟩ := converts_nested
    simp only [Bool.and_eq_true, List.any_eq_true, List.contains_iff_mem, decide_eq_true_eq] at h
    obtain ⟨p, hp, q, hq, ⟨hclaimed, hstays⟩, hlt⟩ := h
    exact ⟨d, program, hconverts, p, hp, q, hq, hclaimed,
      fun habsent => habsent q.element.start ⟨Nat.le_refl _, hlt⟩ hstays⟩

end Pipeline

end HtmlModules
