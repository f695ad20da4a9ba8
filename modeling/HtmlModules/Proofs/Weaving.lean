import HtmlModules.Proofs.Combine
import HtmlModules.Proofs.Feature
import HtmlModules.Proofs.Placement

/-!
# Comments and scripts in their places

A document contributes the comments outside templates and the scripts to its program
(`Document.contributions`). They stand one behind the other: nothing but text is below a script, so
no comment and no other script lies in it (`InOrder.pairwise_outlineAll`). So the range between two
scripts holds the comments between them and no others (`InPlace.commentsBetween_eq_pieces`), and the
program is what the document contributes, each once and in its order
(`Conversion.exists_contributions`).
-/

namespace HtmlModules

open Text Markup

/-! ## Nodes apart -/

namespace Markup

/-- The node is no text, and nothing but text is below it. -/
def Node.IsWhole : Node → Prop
  | .comment .. => True
  | .element e _ => e.tag ∈ leafTags
  | .text .. | .declaration .. => False

/-- Of two nodes that are whole, the second one stands behind the first one. -/
def StandsBefore (x y : List Element × Node) : Prop :=
  x.2.IsWhole → y.2.IsWhole → x.2.stop ≤ y.2.start

theorem not_isWhole_of_mem_outlineAll {around : List Element} {x : List Element × Node} :
    ∀ {ns : List Node}, (∀ n ∈ ns, ∃ a b s, n = .text a b s) → x ∈ Node.outlineAll around ns →
      ¬x.2.IsWhole := by
  intro ns h hx
  obtain ⟨n, hn, hx⟩ := Node.mem_outlineAll_iff.1 hx
  obtain ⟨a, b, s, rfl⟩ := h n hn
  rw [List.mem_singleton.1 hx]
  exact id

mutual

/-- Of two whole nodes of a sound tree one stands before the other. -/
theorem Node.Sound.pairwise_outline :
    ∀ {n : Node} {around : List Element}, n.Sound → (n.outline around).Pairwise StandsBefore
  | .element e cs, around, ⟨_, hcs, _, htexts⟩ => by
    rw [Node.outline]
    refine List.pairwise_cons.2 ⟨fun y hy hleaf hwhole => ?_, hcs.pairwise_outlineAll⟩
    exact absurd hwhole (not_isWhole_of_mem_outlineAll (htexts hleaf) hy)
  | .text .., _, _ | .comment .., _, _ | .declaration .., _, _ => List.pairwise_singleton _ _

/-- Of nodes in order, those that are whole stand one behind the other. -/
theorem InOrder.pairwise_outlineAll :
    ∀ {ns : List Node} {a b : Nat} {around : List Element}, InOrder a b ns →
      (Node.outlineAll around ns).Pairwise StandsBefore
  | [], _, _, _, _ => .nil
  | n :: ns, _, _, around, ⟨_, hn, hns⟩ => by
    rw [Node.outlineAll]
    refine List.pairwise_append.2 ⟨hn.pairwise_outline, hns.pairwise_outlineAll, ?_⟩
    exact fun x hx y hy _ _ =>
      Nat.le_trans (hn.bounds_outline hx).2 (hns.bounds_outlineAll hy).1

end

end Markup

/-! ## Contributions -/

/-- What a document contributes to its program: a comment with its range, or a script. -/
inductive Contribution where
  | comment (start stop : Nat) (data : String)
  | script (unit : ScriptUnit)

namespace Contribution

/-- Where the contribution starts. -/
def start : Contribution → Nat
  | comment start _ _ => start
  | script unit => unit.start

/-- Where the contribution ends. -/
def stop : Contribution → Nat
  | comment _ stop _ => stop
  | script unit => unit.stop

/-- The comment with its range. -/
def comment? : Contribution → Option (Nat × Nat × String)
  | comment start stop data => some (start, stop, data)
  | script _ => none

/-- The script. -/
def script? : Contribution → Option ScriptUnit
  | comment .. => none
  | script unit => some unit

/-- The piece of the program: a block comment, or the code of a script unless that is empty. -/
def piece? : Contribution → Option String
  | comment _ _ data => some (Script.blockComment data)
  | script unit => if terminated unit.code = "" then none else some (terminated unit.code)

/-- The piece of a comment that lies between two offsets. -/
def pieceWithin? (start stop : Nat) : Contribution → Option String
  | comment a b data => if start ≤ a && b ≤ stop then some (Script.blockComment data) else none
  | script _ => none

variable {m : Contribution} {a b : Nat}

/-- A node that ends in front of a gap has no piece in it. -/
theorem pieceWithin?_of_stop_le (hm : m.start < m.stop) (h : m.stop ≤ a) :
    m.pieceWithin? a b = none := by
  cases m with
  | comment start stop data =>
    have hnot : ¬a ≤ start := Nat.not_le.2 (Nat.lt_of_lt_of_le hm h)
    simp [pieceWithin?, hnot]
  | script unit => rfl

/-- A node that starts behind a gap has no piece in it. -/
theorem pieceWithin?_of_le_start (hm : m.start < m.stop) (h : b ≤ m.start) :
    m.pieceWithin? a b = none := by
  cases m with
  | comment start stop data =>
    have hnot : ¬stop ≤ b := Nat.not_le.2 (Nat.lt_of_le_of_lt h hm)
    simp [pieceWithin?, hnot]
  | script unit => rfl

theorem pieceWithin?_of_inside (hcomment : m.script? = none) (ha : a ≤ m.start)
    (hb : m.stop ≤ b) : m.pieceWithin? a b = m.piece? := by
  cases m with
  | comment start stop data =>
    have ha : a ≤ start := ha
    have hb : stop ≤ b := hb
    simp [pieceWithin?, piece?, ha, hb]
  | script unit => cases hcomment

end Contribution

/-- What a node contributes: a comment that is not in a template, or an element with a script. -/
def contributionOf? (unit? : PlacedElement → Option ScriptUnit) :
    List Element × Node → Option Contribution
  | (around, .comment start stop data) =>
    if isInside around "template" then none else some (.comment start stop data)
  | (around, .element e cs) => (unit? ⟨around, e, cs⟩).map .script
  | _ => none

/-- The comments outside templates and the scripts of a document, in document order. -/
def Markup.Document.contributions (d : Document) (unit? : PlacedElement → Option ScriptUnit) :
    List Contribution :=
  d.outline.filterMap (contributionOf? unit?)

section

variable (d : Document) (unit? : PlacedElement → Option ScriptUnit)

/-- The scripts among the contributions are those of the elements. -/
theorem filterMap_script?_contributions :
    (d.contributions unit?).filterMap Contribution.script? = d.elements.filterMap unit? := by
  rw [Document.contributions, Document.elements, elementsOf, List.filterMap_filterMap,
    List.filterMap_filterMap]
  refine List.filterMap_congr fun x _ => ?_
  obtain ⟨around, n⟩ := x
  cases n with
  | element e cs =>
    cases h : unit? ⟨around, e, cs⟩ <;> simp [contributionOf?, h, Contribution.script?]
  | comment => simp [contributionOf?, Contribution.script?]
  | _ => rfl

/-- The comments among the contributions are those outside of templates. -/
theorem filterMap_comment?_contributions :
    (d.contributions unit?).filterMap Contribution.comment? =
      (d.comments.filter fun x => !isInside x.1 "template").map Prod.snd := by
  rw [Document.contributions, Document.comments, ← List.filterMap_eq_map, List.filterMap_filter,
    List.filterMap_filterMap, List.filterMap_filterMap]
  refine List.filterMap_congr fun x _ => ?_
  obtain ⟨around, n⟩ := x
  cases n with
  | element e cs =>
    cases h : unit? ⟨around, e, cs⟩ <;> simp [contributionOf?, h, Contribution.comment?]
  | comment a b data =>
    by_cases h : isInside around "template" = true <;>
      simp [contributionOf?, Contribution.comment?, h]
  | _ => rfl

/-- The comments of a range are those among the contributions. -/
theorem commentsBetween_eq (start stop : Nat) : commentsBetween d start stop =
    (d.contributions unit?).filterMap (Contribution.pieceWithin? start stop) := by
  rw [commentsBetween, Document.comments, Document.contributions, List.filterMap_filterMap,
    List.filterMap_filterMap]
  refine List.filterMap_congr fun x _ => ?_
  obtain ⟨around, n⟩ := x
  cases n with
  | element e cs =>
    cases h : unit? ⟨around, e, cs⟩ <;> simp [contributionOf?, h, Contribution.pieceWithin?]
  | comment a b data =>
    by_cases h : isInside around "template" = true <;>
      simp [contributionOf?, Contribution.pieceWithin?, h]
  | _ => rfl

end

/-! ## Programs -/

/-- The contributions of a document stand one behind the other in its text, none of them is empty,
and they have all its comments. -/
structure InPlace (d : Document) (all : List Contribution) : Prop where
  ordered : all.Pairwise fun m n => m.stop ≤ n.start
  inside : ∀ m ∈ all, m.start < m.stop ∧ m.stop ≤ d.contents.length
  comments : ∀ start stop, commentsBetween d start stop =
    all.filterMap (Contribution.pieceWithin? start stop)

namespace InPlace

variable {d : Document} {all before between after : List Contribution} {a b : Nat}

/-- The comments of a range are the contributions in it, if no script is among them. -/
theorem commentsBetween_eq_pieces (h : InPlace d (before ++ (between ++ after)))
    (hbefore : ∀ m ∈ before, m.stop ≤ a)
    (hbetween : ∀ m ∈ between, m.script? = none ∧ a ≤ m.start ∧ m.stop ≤ b)
    (hafter : ∀ m ∈ after, b ≤ m.start) :
    commentsBetween d a b = between.filterMap Contribution.piece? := by
  have hin := h.inside
  rw [List.forall_mem_append, List.forall_mem_append] at hin
  obtain ⟨hbeforeIn, hbetweenIn, hafterIn⟩ := hin
  have hnone : before.filterMap (Contribution.pieceWithin? a b) = [] :=
    List.filterMap_eq_nil_iff.2 fun m hm =>
      Contribution.pieceWithin?_of_stop_le (hbeforeIn m hm).1 (hbefore m hm)
  have hnone' : after.filterMap (Contribution.pieceWithin? a b) = [] :=
    List.filterMap_eq_nil_iff.2 fun m hm =>
      Contribution.pieceWithin?_of_le_start (hafterIn m hm).1 (hafter m hm)
  rw [h.comments, List.filterMap_append, List.filterMap_append, hnone, hnone', List.nil_append,
    List.append_nil]
  refine List.filterMap_congr fun m hm => ?_
  obtain ⟨hcomment, ha, hb⟩ := hbetween m hm
  exact Contribution.pieceWithin?_of_inside hcomment ha hb

/-- From an offset between two contributions on, the pieces of the program are those of the
contributions behind it. -/
theorem programPieces_eq {done rest : List Contribution} {position : Nat}
    (h : InPlace d (done ++ rest)) (hdone : ∀ m ∈ done, m.stop ≤ position)
    (hrest : ∀ m ∈ rest, position ≤ m.start) :
    programPieces d position (rest.filterMap Contribution.script?) =
      rest.filterMap Contribution.piece? := by
  induction hunits : rest.filterMap Contribution.script? generalizing done rest position with
  | nil =>
    have hcomments := List.filterMap_eq_nil_iff.1 hunits
    rw [← List.append_nil rest] at h
    refine h.commentsBetween_eq_pieces hdone (fun m hm => ⟨hcomments m hm, hrest m hm, ?_⟩) nofun
    exact (h.inside m (by simp [hm])).2
  | cons u units ih =>
    obtain ⟨between, m, after, rfl, hcomments, hm, hothers⟩ := List.filterMap_eq_cons_iff.1 hunits
    cases m with
    | comment => cases hm
    | script unit =>
      obtain rfl := Option.some.inj hm
      obtain ⟨hscript, -⟩ := h.inside (.script unit) (by simp)
      have hle : unit.start ≤ unit.stop := Nat.le_of_lt hscript
      have hordered := (List.pairwise_append.1 h.ordered).2.1
      obtain ⟨-, hafter, hbetween⟩ := List.pairwise_append.1 hordered
      have hbefore : ∀ m ∈ between, m.stop ≤ unit.start := fun m hm =>
        hbetween m hm (.script unit) List.mem_cons_self
      have hbehind : ∀ m ∈ after, unit.stop ≤ m.start := (List.pairwise_cons.1 hafter).1
      have hposition : position ≤ unit.start := hrest (.script unit) (by simp)
      have hwindow : commentsBetween d position unit.start =
          between.filterMap Contribution.piece? := by
        refine h.commentsBetween_eq_pieces hdone (fun m hm => ⟨hcomments m hm, ?_, hbefore m hm⟩) ?_
        · exact hrest m (List.mem_append_left _ hm)
        · exact List.forall_mem_cons.2
            ⟨Nat.le_refl _, fun m hm => Nat.le_trans hle (hbehind m hm)⟩
      have hnext : InPlace d ((done ++ (between ++ [.script unit])) ++ after) := by simpa using h
      have hpassed : ∀ m ∈ done ++ (between ++ [.script unit]), m.stop ≤ unit.stop := by
        rw [List.forall_mem_append, List.forall_mem_append]
        refine ⟨fun m hm => ?_, fun m hm => ?_, ?_⟩
        · exact Nat.le_trans (hdone m hm) (Nat.le_trans hposition hle)
        · exact Nat.le_trans (hbefore m hm) hle
        · simp [Contribution.stop]
      rw [programPieces, hwindow, ih hnext hpassed hbehind hothers, List.filterMap_append,
        List.filterMap_cons, List.append_assoc]
      dsimp only [Contribution.piece?]
      split_ifs <;> rfl

end InPlace

/-! ## Documents -/

section

variable {r : SourceRoot} {url contents : String} {file : SourceFile} {warnings : Diagnostics}
  {d : Document} {c : Conversion} {moduleUrl : String}

/-- The script that an element adds to the program of a document. -/
def unitOf? (r : SourceRoot) (url : String) (d : Document) (c : Conversion) (moduleUrl : String)
    (p : PlacedElement) : Option ScriptUnit :=
  (r.feature? url d p).bind (c.scriptUnit? moduleUrl)

theorem scriptUnit?_range {f : Feature} {unit : ScriptUnit}
    (h : c.scriptUnit? moduleUrl f = some unit) : unit.start = f.start ∧ unit.stop = f.stop := by
  cases f with
  | script s =>
    rw [Conversion.scriptUnit?] at h
    split_ifs at h
    cases h
    exact ⟨rfl, rfl⟩
  | link l =>
    rw [Conversion.scriptUnit?] at h
    split_ifs at h
    obtain ⟨script, -, rfl⟩ := Option.map_eq_some_iff.1 h
    exact ⟨rfl, rfl⟩
  | _ => cases h

/-- A script of the program is a script element. -/
theorem unitOf?_eq_some {p : PlacedElement} {unit : ScriptUnit}
    (h : unitOf? r url d c moduleUrl p = some unit) :
    p.element.tag = "script" ∧ unit.start = p.element.start ∧ unit.stop = p.element.stop := by
  obtain ⟨f, hf, hunit⟩ := Option.bind_eq_some_iff.1 h
  obtain ⟨hstart, hstop⟩ := SourceRoot.feature?_range hf
  rw [← hstart, ← hstop]
  refine ⟨?_, scriptUnit?_range hunit⟩
  cases f with
  | script s => exact (SourceRoot.feature?_eq_script hf).2.1
  | link l =>
    rcases (SourceRoot.feature?_eq_link hf).2 with ⟨hdocument, -⟩ | ⟨-, hscript⟩
    · rw [Conversion.scriptUnit?] at hunit
      simp [Conversion.isFolded, Conversion.isFoldable, hdocument] at hunit
    · exact hscript.1
  | _ => cases hunit

/-- A contribution stands where its node does. -/
theorem contributionOf?_eq_some {x : List Element × Node} {m : Contribution}
    (h : contributionOf? (unitOf? r url d c moduleUrl) x = some m) :
    x.2.IsWhole ∧ m.start = x.2.start ∧ m.stop = x.2.stop := by
  obtain ⟨around, n⟩ := x
  cases n with
  | comment start stop data =>
    dsimp only [contributionOf?] at h
    split_ifs at h
    cases h
    exact ⟨trivial, rfl, rfl⟩
  | element e cs =>
    obtain ⟨unit, hunit, rfl⟩ := Option.map_eq_some_iff.1 h
    obtain ⟨htag, hstart, hstop⟩ := unitOf?_eq_some hunit
    have hleaf : e.tag ∈ leafTags := by
      rw [show e.tag = "script" from htag]
      decide
    exact ⟨hleaf, hstart, hstop⟩
  | _ => cases h

/-- The contributions of a parsed document are in its order. -/
theorem inPlace_contributions (hparse : Document.parse contents = .ok d) :
    InPlace d (d.contributions (unitOf? r url d c moduleUrl)) := by
  obtain ⟨hcontents, horder⟩ := Document.parse_ok hparse
  refine ⟨?_, fun m hm => ?_, commentsBetween_eq d _⟩
  · refine List.pairwise_filterMap.2 (horder.pairwise_outlineAll.imp ?_)
    intro x y hxy m hm n hn
    obtain ⟨hwhole, -, hstop⟩ := contributionOf?_eq_some hm
    obtain ⟨hwhole', hstart, -⟩ := contributionOf?_eq_some hn
    rw [hstop, hstart]
    exact hxy hwhole hwhole'
  · obtain ⟨x, hx, hm⟩ := List.mem_filterMap.1 hm
    obtain ⟨-, hstart, hstop⟩ := contributionOf?_eq_some hm
    rw [hstart, hstop, hcontents]
    exact ⟨(horder.sound_of_mem_outlineAll hx).start_lt
      (Document.isFaithful_of_mem_outline hparse hx), (horder.bounds_outlineAll hx).2⟩

/-- Whatever document can be parsed, its program has the comments outside templates and the codes of
its scripts, all of them, each once, in the order in which they stand. -/
theorem Conversion.exists_contributions (c : Conversion) (moduleUrl : String)
    (hparse : Document.parse contents = .ok d) :
    (r.HasTexts → ∃ read, r.readDocument url contents = .ok read) ∧
    ∀ file warnings, r.readDocument url contents = .ok (file, warnings) →
      ∃ all : List Contribution,
        all.Pairwise (fun m n => m.stop ≤ n.start) ∧ (∀ m ∈ all, m.start < m.stop) ∧
        all.filterMap Contribution.comment? =
          (d.comments.filter fun x => !isInside x.1 "template").map Prod.snd ∧
        all.filterMap Contribution.script? = file.features.filterMap (c.scriptUnit? moduleUrl) ∧
        programPieces d 0 (file.features.filterMap (c.scriptUnit? moduleUrl)) =
          all.filterMap Contribution.piece? ∧
        c.programOf moduleUrl file = join "\n\n" (all.filterMap Contribution.piece?) := by
  refine ⟨fun htexts => htexts.exists_readDocument url hparse, fun file warnings hread => ?_⟩
  have hplace : InPlace d (d.contributions (unitOf? r url d c moduleUrl)) :=
    inPlace_contributions hparse
  have hcomments := filterMap_comment?_contributions d (unitOf? r url d c moduleUrl)
  have hunits : (d.contributions (unitOf? r url d c moduleUrl)).filterMap Contribution.script? =
      file.features.filterMap (c.scriptUnit? moduleUrl) := by
    rw [filterMap_script?_contributions,
      SourceRoot.filterMap_features (fun _ => rfl) hparse hread]
    rfl
  generalize d.contributions (unitOf? r url d c moduleUrl) = all at *
  have hnothing : InPlace d ([] ++ all) := hplace
  have hpieces : programPieces d 0 (all.filterMap Contribution.script?) =
      all.filterMap Contribution.piece? :=
    hnothing.programPieces_eq nofun fun _ _ => Nat.zero_le _
  rw [hunits] at hpieces
  refine ⟨all, hplace.ordered, fun m hm => (hplace.inside m hm).1, hcomments, hunits, hpieces, ?_⟩
  obtain ⟨d', hparse', hfrom⟩ := SourceRoot.readDocument_ok hread
  obtain rfl := Except.ok.inj (hparse'.symm.trans hparse)
  rw [programOf, hfrom.markup]
  exact congrArg (join "\n\n") hpieces

/-- A document with comments and scripts in a template and outside. -/
def wovenText : String :=
  "<!--a--><script>x</script><template><!--b--><script>y</script></template>" ++
    "<script src=s.js></script><script> </script><!--c-->"

/-- The document with the script that it links. -/
def wovenRoot : SourceRoot where
  files := [("a.html", .ok wovenText), ("s.js", .ok "z;")]

theorem Conversion.exists_contributions_woven :
    ∃ d, Document.parse wovenText = .ok d ∧
    ∃ file warnings, wovenRoot.readDocument "a.html" wovenText = .ok (file, warnings) ∧
    ∃ all : List Contribution,
      all.filterMap Contribution.comment? =
        (d.comments.filter fun x => !isInside x.1 "template").map Prod.snd ∧
      join "\n\n" (all.filterMap Contribution.piece?) = "/*a*/\n\nx;\n\nz;\n\n/*c*/" := by
  have hread : (Document.parse wovenText).toBool = true := by decide +kernel
  have hparse := Failing.eq_ok_getD hread ⟨"", []⟩
  have hdocument : (wovenRoot.readDocument "a.html" wovenText).toBool = true := by decide +kernel
  obtain ⟨⟨file, warnings⟩, hfile, hprogram⟩ :
      ∃ read, wovenRoot.readDocument "a.html" wovenText = .ok read ∧
        (wovenRoot.package ["a.html", "s.js"]).programOf "./a.js" read.1 =
          "/*a*/\n\nx;\n\nz;\n\n/*c*/" :=
    ⟨_, Failing.eq_ok_getD hdocument (⟨"", "", none, []⟩, []), by decide +kernel⟩
  obtain ⟨all, -, -, hcomments, -, -, hwoven⟩ := (Conversion.exists_contributions
    (wovenRoot.package ["a.html", "s.js"]) "./a.js" hparse).2 file warnings hfile
  exact ⟨_, hparse, file, warnings, hfile, all, hcomments, hwoven.symm.trans hprogram⟩

end

end HtmlModules
