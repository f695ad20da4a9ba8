import HtmlModules.Proofs.Conflict
import HtmlModules.Proofs.Feature
import HtmlModules.Proofs.Pipeline
import HtmlModules.Proofs.Table

/-!
# Which declaration receives which template

A template moves into the first declaration of its tag, once for every element of the document that
brings it (`Pass.received_first`); other declarations of the tag receive nothing (`Pass.received_other`).
So every declaration of a tag receives the template once if and only if the scripts of the document and
the program both declare the tag once (`Pass.eachOnce_iff`).
-/

namespace HtmlModules

open Text Markup

/-! ## Markup blocks -/

namespace SourceRoot

/-- A markup block with its name. -/
def namedBlock? (p : PlacedElement) : Option (String × PlacedElement) :=
  ((p.element.attribute? "id").filter (· ≠ "")).map (·, p)

/-- The block of a name is an element of the document with this name. -/
theorem of_get?_markupBlocks {d : Document} {name : String} {b : PlacedElement}
    (h : Table.get? (markupBlocks d) name = some b) :
    b ∈ d.elements ∧ b.element.tag = "dom-module" ∧ b.element.attribute? "id" = some name := by
  have hblocks : markupBlocks d =
      ((d.elements.filter (·.element.tag == "dom-module")).filterMap namedBlock?).foldl
        (fun t p => Table.addNew t p.1 (id p.2)) [] := by
    rw [List.foldl_filterMap]
    refine congrArg (List.foldl · [] _) (funext₂ fun t p => ?_)
    unfold namedBlock?
    cases (p.element.attribute? "id").filter (· ≠ "") <;> rfl
  rw [hblocks, Table.get?_foldl_addNew, Option.map_id] at h
  obtain ⟨p, hp, hnamed⟩ := List.mem_filterMap.1 (Table.mem_of_get? h)
  obtain ⟨id, hid, heq⟩ := Option.map_eq_some_iff.1 hnamed
  obtain ⟨rfl, rfl⟩ := Prod.mk.inj heq
  obtain ⟨hmem, htag⟩ := List.mem_filter.1 hp
  exact ⟨hmem, beq_iff_eq.1 htag, (Option.filter_eq_some_iff.1 hid).1⟩

/-- An element of the document is no declared element. -/
theorem feature?_ne_element {r : SourceRoot} {url : String} {d : Document} {p : PlacedElement}
    {e : DeclaredElement} (h : r.feature? url d p = some (.element e)) : False := by
  unfold feature? at h
  dsimp only at h
  split at h
  · split_ifs at h
    obtain ⟨l, -, hlink⟩ := Option.map_eq_some_iff.1 h
    cases hlink
  · split at h
    · cases h
    · split_ifs at h
      obtain ⟨l, -, hlink⟩ := Option.map_eq_some_iff.1 h
      cases hlink
  · split_ifs at h
    cases h
  · cases h

/-- The block of a declared element is the one that has its tag as a name. -/
theorem block_eq {r : SourceRoot} {url contents : String} {file : SourceFile}
    {warnings : Diagnostics} {d : Document} (hmarkup : file.markup = some d)
    (h : r.readDocument url contents = .ok (file, warnings)) {e : DeclaredElement}
    (he : e ∈ file.elements) : e.block = Table.get? (markupBlocks d) e.tag := by
  unfold readDocument at h
  obtain ⟨d', -, h⟩ := Failing.bind_eq_ok.1 h
  obtain ⟨codes, -, h⟩ := Failing.bind_eq_ok.1 h
  obtain ⟨rfl, -⟩ := Prod.mk.inj (Except.ok.inj h)
  obtain rfl := Option.some.inj hmarkup
  obtain ⟨f, hf, hfeature⟩ := List.mem_filterMap.1 he
  cases f with
  | element e' =>
    obtain rfl := Option.some.inj hfeature
    rcases List.mem_append.1 ((sortBy_perm _ _).mem_iff.1 hf) with hf | hf
    · obtain ⟨p, -, hp⟩ := List.mem_filterMap.1 hf
      exact (feature?_ne_element hp).elim
    · obtain ⟨e, hdeclared, heq⟩ := List.mem_map.1 hf
      obtain rfl := Feature.element.inj heq
      obtain ⟨x, hx, hdeclared⟩ := List.mem_flatMap.1 hdeclared
      obtain ⟨code, -, rfl⟩ := List.mem_map.1 hx
      unfold declaredElements at hdeclared
      split at hdeclared
      · cases hdeclared
      · obtain ⟨x, -, rfl⟩ := List.mem_map.1 hdeclared
        rfl
  | _ => cases hfeature

end SourceRoot

/-- The template of a markup block. -/
def Markup.PlacedElement.template? (b : PlacedElement) : Option PlacedElement :=
  b.childElements.find? (·.element.tag == "template")

namespace Pass

open Script

/-! ## Templates that move -/

/-- The template in the markup block of an element, if the block can be inlined. -/
def template? (e : DeclaredElement) : Option PlacedElement :=
  (e.block.filter (·.isInlinable)).bind PlacedElement.template?

/-- The template that an element moves, with the place of the declaration that receives it among those
of the program. -/
def move? (declarations : List ElementDeclaration) (e : DeclaredElement) :
    Option (Nat × PlacedElement) := do
  let template ← template? e
  let i ← declarations.findIdx? (·.tag == e.tag)
  return (i, template)

/-- The templates that move, each with the place of the declaration that receives it. -/
def moves (declarations : List ElementDeclaration) (elements : List DeclaredElement) :
    List (Nat × PlacedElement) :=
  elements.filterMap (move? declarations)

/-- The edit that moves a template. -/
def moveEdit? (d : Document) (tag : String) (declarations : List ElementDeclaration)
    (m : Nat × PlacedElement) : Option Edit :=
  declarations[m.1]?.map (templateEdit tag (templateLiteral (d.innerSource m.2.element)))

/-- The templates that the declaration at a place receives, in order. -/
def received (moves : List (Nat × PlacedElement)) (i : Nat) : List PlacedElement :=
  (moves.filter (·.1 == i)).map Prod.snd

/-- Each declaration of the tag receives the template once, and nothing else. -/
def EachOnce (declarations : List ElementDeclaration) (elements : List DeclaredElement)
    (tag : String) (template : PlacedElement) : Prop :=
  ∀ i d, declarations[i]? = some d → d.tag = tag →
    received (moves declarations elements) i = [template]

/-! ## Receiving once -/

section

variable {declarations : List ElementDeclaration} {elements : List DeclaredElement} {tag : String}
  {template : PlacedElement} {i : Nat}

/-- One declaration is the first one of its own tag only. -/
theorem tag_eq_of_findIdx? {other : String} (h : declarations.findIdx? (·.tag == tag) = some i)
    (hother : declarations.findIdx? (·.tag == other) = some i) : other = tag := by
  obtain ⟨hlt, htag, -⟩ := List.findIdx?_eq_some_iff_getElem.1 h
  obtain ⟨_, htag', -⟩ := List.findIdx?_eq_some_iff_getElem.1 hother
  exact (beq_iff_eq.1 htag').symm.trans (beq_iff_eq.1 htag)

/-- A markup block is moved to the first declaration of its tag. -/
theorem move?_eq_some_iff {e : DeclaredElement} {m : Nat × PlacedElement} :
    move? declarations e = some m ↔
      template? e = some m.2 ∧ declarations.findIdx? (·.tag == e.tag) = some m.1 := by
  unfold move?
  cases template? e <;> cases declarations.findIdx? (·.tag == e.tag) <;> simp [Prod.ext_iff, and_comm]

/-- The first declaration of a tag receives the template as often as the document declares the tag. -/
theorem received_first (hi : declarations.findIdx? (·.tag == tag) = some i) :
    ∀ {elements : List DeclaredElement},
      (∀ e ∈ elements, e.tag = tag → template? e = some template) →
      received (moves declarations elements) i =
        List.replicate (elements.countP (·.tag == tag)) template
  | [], _ => rfl
  | e :: elements, h => by
    obtain ⟨he, helements⟩ := List.forall_mem_cons.1 h
    have ih := received_first hi helements
    by_cases htag : e.tag = tag
    · have hmove : move? declarations e = some (i, template) :=
        move?_eq_some_iff.2 ⟨he htag, by rwa [htag]⟩
      rw [List.countP_cons_of_pos (by simpa using htag), List.replicate_succ, ← ih]
      simp [received, moves, hmove]
    · rw [List.countP_cons_of_neg (by simpa using htag), ← ih]
      cases hm : move? declarations e with
      | none => simp [received, moves, hm]
      | some m =>
        have hne : m.1 ≠ i := by
          rintro rfl
          exact htag (tag_eq_of_findIdx? hi (move?_eq_some_iff.1 hm).2)
        simp [received, moves, hm, hne]

/-- A declaration that is not the first one of its tag receives nothing. -/
theorem received_other {x : ElementDeclaration} (hx : declarations[i]? = some x)
    (hi : declarations.findIdx? (·.tag == x.tag) ≠ some i) :
    received (moves declarations elements) i = [] := by
  rw [received, List.map_eq_nil_iff, List.filter_eq_nil_iff]
  intro m hm heq
  obtain ⟨e, -, hmove⟩ := List.mem_filterMap.1 hm
  obtain ⟨-, hplace⟩ := move?_eq_some_iff.1 hmove
  rw [beq_iff_eq.1 heq] at hplace
  obtain ⟨hlt, htag, -⟩ := List.findIdx?_eq_some_iff_getElem.1 hplace
  rw [List.getElem?_eq_getElem hlt] at hx
  rw [Option.some.inj hx] at htag
  exact hi (by rwa [beq_iff_eq.1 htag])

/-- If the document declares a tag, and the program as well, then every declaration of the program
receives the template once if and only if there is one, and the document declares the tag once. -/
theorem eachOnce_iff (hdeclared : ∃ x ∈ declarations, x.tag = tag)
    (htemplate : ∀ e ∈ elements, e.tag = tag → template? e = some template) :
    EachOnce declarations elements tag template ↔
      elements.countP (·.tag == tag) = 1 ∧ declarations.countP (·.tag == tag) = 1 := by
  obtain ⟨i, hi⟩ : ∃ i, declarations.findIdx? (·.tag == tag) = some i := by
    rw [← Option.isSome_iff_exists, List.findIdx?_isSome, List.any_eq_true]
    simpa using hdeclared
  have hfirst := received_first hi htemplate
  rw [countP_eq_one_iff hi]
  constructor
  · intro hall
    refine ⟨?_, fun j x hx htag => ?_⟩
    · obtain ⟨hlt, htag, -⟩ := List.findIdx?_eq_some_iff_getElem.1 hi
      have honce := hall i _ (List.getElem?_eq_getElem hlt) (beq_iff_eq.1 htag)
      rw [hfirst] at honce
      simpa using congrArg List.length honce
    · obtain rfl := beq_iff_eq.1 htag
      have honce := hall j x hx rfl
      -- Another declaration of the tag would receive nothing.
      by_contra hne
      rw [received_other hx fun hj => hne (Option.some.inj (hj.symm.trans hi))] at honce
      cases honce
  · rintro ⟨hcount, honly⟩ j x hx rfl
    obtain rfl := honly j x hx (beq_self_eq_true _)
    rw [hfirst, hcount, List.replicate_one]

end

/-! ## The pass -/

/-- The block of the element can be inlined, and has no template or a declaration to receive it. -/
def Claims (program : Script.Node) (e : DeclaredElement) (b : PlacedElement) : Prop :=
  e.block = some b ∧ b.isInlinable = true ∧
    (b.template? = none ∨ ∃ x ∈ program.elementDeclarations, x.tag = e.tag)

section

variable {d : Document} {tag : String} {program : Script.Node} {e : DeclaredElement}

/-- The table has the first declaration of each tag. -/
theorem get?_firstDeclarations (program : Script.Node) (tag : String) :
    Table.get? (firstDeclarations program) tag =
      program.elementDeclarations.find? (·.tag == tag) := by
  have hfirst : firstDeclarations program =
      (program.elementDeclarations.map fun x => (x.tag, x)).foldl
        (fun t p => Table.addNew t p.1 (id p.2)) [] := by
    rw [List.foldl_map]
    rfl
  rw [hfirst, Table.get?_foldl_addNew, Option.map_id]
  induction program.elementDeclarations with
  | nil => rfl
  | cons x xs ih =>
    have ih : Table.get? (xs.map fun x => (x.tag, x)) tag = xs.find? (·.tag == tag) := by
      simpa using ih
    by_cases htag : x.tag = tag
    · simp [Table.get?_cons, htag]
    · simp [Table.get?_cons, htag, Ne.symm htag, ih]

/-- What is claimed is the block that the declaration takes. -/
theorem claimed?_eq_some_iff {start : Nat} :
    (inlining d tag (firstDeclarations program) e).claimed? = some start ↔
      ∃ b, Claims program e b ∧ b.element.start = start := by
  unfold inlining Claims
  rw [get?_firstDeclarations]
  cases hblock : e.block.filter (·.isInlinable) with
  | none =>
    simp only [Inlining.claimed?, reduceCtorEq, false_iff]
    rintro ⟨b, ⟨hb, hinlinable, -⟩, -⟩
    simp [hb, hinlinable] at hblock
  | some b =>
    obtain ⟨hb, hinlinable⟩ := Option.filter_eq_some_iff.1 hblock
    have hfold : b.childElements.find? (·.element.tag == "template") = b.template? := rfl
    simp only [hfold]
    cases htemplate : b.template? with
    | none => simp [Inlining.claimed?, hb, hinlinable, htemplate]
    | some t =>
      cases hfind : program.elementDeclarations.find? (·.tag == e.tag) with
      | none =>
        have hnone : ¬∃ x ∈ program.elementDeclarations, x.tag = e.tag := by simpa using hfind
        simp [Inlining.claimed?, hb, htemplate, hnone]
      | some x =>
        have hdeclared : ∃ x ∈ program.elementDeclarations, x.tag = e.tag :=
          ⟨x, List.mem_of_find?_eq_some hfind, by simpa using List.find?_some hfind⟩
        simp [Inlining.claimed?, hb, hinlinable, hdeclared]

/-- The edits of the pass are those that move templates. -/
theorem edit?_inlining :
    (inlining d tag (firstDeclarations program) e).edit? =
      (move? program.elementDeclarations e).bind (moveEdit? d tag program.elementDeclarations) := by
  unfold inlining move? template? PlacedElement.template?
  rw [get?_firstDeclarations, List.find?_eq_bind_findIdx?_getElem?]
  cases e.block.filter (·.isInlinable) with
  | none => rfl
  | some b =>
    cases htemplate : b.childElements.find? (·.element.tag == "template") with
    | none => simp [Inlining.edit?, htemplate]
    | some t =>
      cases hi : program.elementDeclarations.findIdx? (·.tag == e.tag) with
      | none => simp [Inlining.edit?, htemplate]
      | some i =>
        cases hx : program.elementDeclarations[i]? with
        | none => simp [Inlining.edit?, htemplate, hx, moveEdit?]
        | some x => simp [Inlining.edit?, htemplate, hx, moveEdit?]

end

/-- The edits that move the templates of a document into a program. -/
def moveEdits (c : Context) (d : Document) (program : Script.Node) : List Edit :=
  (moves program.elementDeclarations c.file.elements).filterMap
    (moveEdit? d (c.settings.templateTag.getD "") program.elementDeclarations)

/-- Every declared element of the document is inlined against the first declarations. -/
theorem inlinings_eq {c : Context} {d : Document} (hmarkup : c.file.markup = some d)
    (declarations : Table ElementDeclaration) :
    inlinings c declarations =
      c.file.elements.map (inlining d (c.settings.templateTag.getD "") declarations) := by
  rw [inlinings, hmarkup]

/-- The inlining of templates, if it succeeds, claims blocks and moves their templates. -/
theorem inlineTemplates_ok {c : Context} {f g : Findings} {source text : String} {d : Document}
    (hmarkup : c.file.markup = some d) (h : inlineTemplates source c f = .ok text g) :
    ∃ program paths, Script.parse source = .ok program ∧
      (∀ start, start ∈ g.claimed ↔ start ∈ f.claimed ∨
        ∃ e ∈ c.file.elements, ∃ b, Claims program e b ∧ b.element.start = start) ∧
      (∀ edit ∈ paths, ∃ url x, edit = importPathEdit url x) ∧
      applyEdits source (paths ++ moveEdits c d program) = .ok text := by
  obtain ⟨c', f₁, hread, hrest⟩ := bind_eq_ok.1 h
  cases hread
  obtain ⟨program, f₂, hprogram, hmore⟩ := bind_eq_ok.1 hrest
  obtain ⟨hparse, rfl⟩ := readProgram_eq_ok.1 hprogram
  obtain ⟨_, f₃, hmodify, hwarn⟩ := bind_eq_ok.1 hmore
  cases hmodify
  obtain ⟨_, f₄, hwarnings, hurls⟩ := bind_eq_ok.1 hwarn
  obtain ⟨paths, f₅, hpaths, hedit⟩ := bind_eq_ok.1 hurls
  obtain ⟨happlied, rfl⟩ := edit_eq_ok.1 hedit
  -- The warnings and the urls come behind the claims and leave them as they are.
  have hclaimed : g.claimed = f₂.claimed ++
      (inlinings c (firstDeclarations program)).filterMap Inlining.claimed? :=
    (((frame_sameClaims c).keeps_importPathEdits _).ok hpaths).trans
      (((frame_sameClaims c).keeps_warnUndeclared _).ok hwarnings)
  rw [inlinings_eq hmarkup] at hclaimed happlied
  refine ⟨program, paths, hparse, fun start => ?_, fun edit he => ?_, ?_⟩
  · rw [hclaimed, List.mem_append, List.filterMap_map, List.mem_filterMap]
    refine or_congr_right (exists_congr fun e => and_congr_right fun _ => ?_)
    rw [Function.comp_apply, claimed?_eq_some_iff]
  · obtain ⟨p, -, url, rfl⟩ := importPathEdits_ok hpaths he
    exact ⟨url, p.2, rfl⟩
  · rw [moveEdits, moves, List.filterMap_filterMap]
    rw [List.filterMap_map] at happlied
    simpa only [Function.comp_def, edit?_inlining] using happlied

/-! ## Documents -/

/-- What becomes of the markup blocks of a document when templates move into a program. -/
structure Inlines (c : Context) (d : Document) (claimed : List Nat) (program : Script.Node)
    (source text : String) : Prop where
  parses : Script.parse source = .ok program
  /-- What is claimed is a markup block of a declared element. -/
  block : ∀ start ∈ claimed, ∃ b ∈ d.elements, b.element.tag = "dom-module" ∧ b.element.start = start
  claimed_iff : ∀ b ∈ d.elements,
    b.element.start ∈ claimed ↔ ∃ e ∈ c.file.elements, Claims program e b
  /-- The text has the templates where the moves say, and maybe the urls of the elements. -/
  moved : ∃ paths, (∀ edit ∈ paths, ∃ url x, edit = importPathEdit url x) ∧
    applyEdits source (paths ++ moveEdits c d program) = .ok text
  /-- The first declaration of a tag receives the template of a claimed block as often as the scripts
  of the document declare the tag, and the others receive nothing. -/
  received : ∀ b ∈ d.elements, b.element.start ∈ claimed →
    ∀ tag template, b.element.attribute? "id" = some tag → b.template? = some template →
      (∀ i x, program.elementDeclarations[i]? = some x → x.tag = tag →
        Pass.received (moves program.elementDeclarations c.file.elements) i =
          if program.elementDeclarations.findIdx? (·.tag == tag) = some i then
            List.replicate (c.file.elements.countP (·.tag == tag)) template
          else []) ∧
      (EachOnce program.elementDeclarations c.file.elements tag template ↔
        c.file.elements.countP (·.tag == tag) = 1 ∧
          program.elementDeclarations.countP (·.tag == tag) = 1)

section

variable {r : SourceRoot} {url contents : String} {warnings : Diagnostics} {c : Context}
  {d : Document} {program : Script.Node} {e : DeclaredElement} {b template : PlacedElement}

/-- All elements with the tag of a claimed block have that block, so they bring its template. -/
theorem template?_of_tag (hmarkup : c.file.markup = some d)
    (hread : r.readDocument url contents = .ok (c.file, warnings)) (he : e ∈ c.file.elements)
    (hclaims : Claims program e b) (htemplate : b.template? = some template) :
    ∀ e' ∈ c.file.elements, e'.tag = e.tag → template? e' = some template := by
  intro e' he' htag
  have hblock : e'.block = some b := by
    rw [SourceRoot.block_eq hmarkup hread he', htag, ← SourceRoot.block_eq hmarkup hread he,
      hclaims.1]
  rw [template?, hblock, Option.filter_some, if_pos hclaims.2.1, Option.bind_some, htemplate]

/-- The stage that inlines templates, where it succeeds, claims blocks and edits the source as
specified. -/
theorem inlines_of_ok (hparse : Document.parse contents = .ok d) (hmarkup : c.file.markup = some d)
    (hread : r.readDocument url contents = .ok (c.file, warnings)) {f g : Findings}
    {source text : String} (hstart : f.claimed = [])
    (h : inlineTemplates source c f = .ok text g) :
    ∃ program, Inlines c d g.claimed program source text := by
  obtain ⟨program, paths, hprogram, hclaims, hpaths, happlied⟩ := inlineTemplates_ok hmarkup h
  have hblock {e : DeclaredElement} (he : e ∈ c.file.elements) {b : PlacedElement}
      (hb : e.block = some b) : b ∈ d.elements ∧ b.element.tag = "dom-module" ∧
        b.element.attribute? "id" = some e.tag :=
    SourceRoot.of_get?_markupBlocks (SourceRoot.block_eq hmarkup hread he ▸ hb)
  have hclaimed (b : PlacedElement) (hb : b ∈ d.elements) :
      b.element.start ∈ g.claimed ↔ ∃ e ∈ c.file.elements, Claims program e b := by
    rw [hclaims, hstart]
    constructor
    · rintro (h | ⟨e, he, b', hb', heq⟩)
      · cases h
      · obtain rfl := Document.eq_of_start_eq hparse (hblock he hb'.1).1 hb heq
        exact ⟨e, he, hb'⟩
    · rintro ⟨e, he, hb⟩
      exact Or.inr ⟨e, he, b, hb, rfl⟩
  refine ⟨program, hprogram, fun start hmem => ?_, hclaimed, ⟨paths, hpaths, happlied⟩,
    fun b hb hmem tag template htag htemplate => ?_⟩
  · rw [hclaims, hstart] at hmem
    obtain h | ⟨e, he, b, hb, rfl⟩ := hmem
    · cases h
    · exact ⟨b, (hblock he hb.1).1, (hblock he hb.1).2.1, rfl⟩
  · obtain ⟨e, he, hb⟩ := (hclaimed b hb).1 hmem
    obtain rfl := Option.some.inj (htag.symm.trans (hblock he hb.1).2.2)
    have hall := template?_of_tag hmarkup hread he hb htemplate
    have hdeclared : ∃ x ∈ program.elementDeclarations, x.tag = e.tag :=
      hb.2.2.resolve_left (by simp [htemplate])
    refine ⟨fun i x hx hxtag => ?_, eachOnce_iff hdeclared hall⟩
    split_ifs with hi
    · exact received_first hi hall
    · exact received_other hx (hxtag ▸ hi)

end

end Pass

end HtmlModules
