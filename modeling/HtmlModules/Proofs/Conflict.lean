import HtmlModules.Proofs.Batch
import HtmlModules.Proofs.Table
import Mathlib.Data.List.Flatten
import Mathlib.Data.List.TakeWhile

/-!
# No stage runs into a conflict

The edits that a stage makes at once lie in the source and do not overlap, since each of them stays
within the range of one node and the ranges of siblings are apart (`Builds.apart`). What a setter call
puts around the assigned value goes with the edits within the value, and a deletion that takes its
line along ends where the next statement begins. So the edits of a batch can always be applied
(`applyEdits_of_builds`).
-/

namespace HtmlModules

open Text Script

namespace Script.Node

variable {source : String} {program n : Node}

/-- No text belongs to two statements of a body. -/
theorem Laid.beside_body (h : n.Laid) : (partsOf (n.childrenIn .body)).Pairwise Beside := by
  have harranged := h.arranged
  unfold Arranged at harranged
  have hnone (hroles : ∀ c ∈ n.children, c.role ≠ .body) :
      (partsOf (n.childrenIn .body)).Pairwise Beside := by
    have hempty : n.childrenIn .body = [] := List.filter_eq_nil_iff.2 fun c hc => by
      simpa using hroles c hc
    rw [hempty]
    exact .nil
  have hall (hbeside : (partsOf n.children).Pairwise Beside) :
      (partsOf (n.childrenIn .body)).Pairwise Beside := by
    rw [partsOf_eq_flatMap, List.flatMap_def] at hbeside ⊢
    exact hbeside.sublist (List.filter_sublist.map parts).flatten
  split at harranged
  case h_1 | h_2 => exact hnone fun c hc => by simp [harranged] at hc
  case h_3 | h_4 =>
    refine hnone fun c hc => ?_
    rcases (harranged c hc).2 with hrole | hrole <;> simp [hrole]
  case h_5 =>
    obtain ⟨key, value, hchildren, hkey, hshorthand⟩ := harranged
    refine hnone fun c hc => ?_
    have hc : c = key ∨ c = value := by
      rcases hchildren with hchildren | hchildren <;> rw [hchildren] at hc <;>
        rcases List.mem_pair.1 hc with hc | hc <;> simp [hc]
    rcases hc with rfl | rfl
    · simp [hkey]
    · simp [hshorthand.valueRole]
  case h_6 =>
    obtain ⟨left, right, hchildren, hleft, hright, -⟩ := harranged
    refine hnone fun c hc => ?_
    rw [hchildren] at hc
    rcases List.mem_pair.1 hc with rfl | rfl
    · simp [hleft]
    · simp [hright]
  case h_7 => exact hall harranged.1.beside
  case h_8 => exact hall harranged.beside
  case h_9 => exact hall harranged

/-- A statement stands behind another one, which does not end with a blank, and begins with a
character that is no white space. -/
structure Spread (source : String) (a b : Node) : Prop where
  proper : a.start < a.stop
  proper' : b.start < b.stop
  stop_le : a.stop ≤ b.start
  begins : ∀ ch, source.toList[b.start]? = some ch → Pass.isIndent ch = false ∧ ch ≠ '\n'
  ends : ∀ ch, source.toList[a.stop - 1]? = some ch → Pass.isIndent ch = false

namespace LaidIn

/-- The statements of a program lie one behind the other. -/
theorem statements_inOrder (h : program.LaidIn source) : InOrder (Pass.statements program) := by
  rcases h.laid with hempty | hlaid
  · rw [Pass.statements, childrenIn, hempty]
    exact ⟨by simp, .nil⟩
  · have harranged := hlaid.arranged
    rw [h.isProgram] at harranged
    exact ⟨fun s hs => harranged.hasRange s (List.mem_of_mem_filter hs), harranged.ordered.filter _⟩

/-- A statement of the program is laid out, has a range, and ends inside the source. -/
theorem of_mem_statements (h : program.LaidIn source) {s : Node}
    (hs : s ∈ Pass.statements program) :
    s.Laid ∧ s.kind.hasRange = true ∧ s.stop ≤ source.length := by
  have hrange := h.statements_inOrder.hasRange s hs
  have hs : s ∈ program.children := List.mem_of_mem_filter hs
  rcases h.laid with hempty | hlaid
  · rw [hempty] at hs
    cases hs
  · have := hlaid.inside h.hasRange hs (by rw [parts_of_hasRange hrange]; exact List.mem_singleton_self s)
    have := h.bounds
    exact ⟨hlaid.child hs, hrange, by omega⟩

theorem start_lt_stop_of_mem_statements (h : program.LaidIn source) {s : Node}
    (hs : s ∈ Pass.statements program) : s.start < s.stop :=
  (h.of_mem_statements hs).1.start_lt_stop (h.of_mem_statements hs).2.1

/-- Of two statements one stands behind the other, and neither begins or ends with a blank. -/
theorem statements_spread (h : program.LaidIn source) :
    (Pass.statements program).Pairwise (Spread source) := by
  refine (h.statements_inOrder.ordered.and (h.ends.filter _)).imp_of_mem fun ha hb hab => ?_
  exact ⟨h.start_lt_stop_of_mem_statements ha, h.start_lt_stop_of_mem_statements hb, hab.1,
    h.begins _ (List.mem_of_mem_filter hb), hab.2⟩

/-- What is changed in single statements does not overlap. -/
theorem row_apart (h : program.LaidIn source) {batches : List (List Edit)}
    (hbatches : List.Forall₂ (fun s edits => s.Laid → s.kind.hasRange = true → Within s edits)
      (Pass.statements program) batches) : AllApart source.length batches.flatten := by
  have hwithin : List.Forall₂ Within (Pass.statements program) batches :=
    forall₂_imp_of_mem hbatches fun s hs _ hedits =>
      hedits (h.of_mem_statements hs).1 (h.of_mem_statements hs).2.1
  refine ⟨fun e he => Edit.fits_iff.2 ?_, Node.row_apart hwithin h.statements_inOrder.beside⟩
  obtain ⟨batch, hbatch, he⟩ := List.mem_flatten.1 he
  obtain ⟨s, hs, hedits⟩ := exists_of_forall₂_left hwithin.flip hbatch
  obtain ⟨-, hrange, _⟩ := h.of_mem_statements hs
  have := hedits.bounds hrange he
  omega

end LaidIn

end Script.Node

namespace Pass

open Node

variable {source : String} {program : Node}

/-! ## Statements -/

/-- The whole of the statement is replaced, or nothing of it. -/
def ReplacesWhole (s : Node) (edits : List Edit) : Prop :=
  edits = [] ∨ ∃ text, edits = [.replace s.start s.stop text]

/-- What replaces a node as a whole stays within it. -/
theorem ReplacesWhole.within {s : Node} {edits : List Edit} (h : ReplacesWhole s edits)
    (hs : s.Laid) (hrange : s.kind.hasRange = true) : Within s edits := by
  rcases h with rfl | ⟨text, rfl⟩
  · exact .nil
  · refine ⟨fun e he => ?_, List.pairwise_singleton _ _⟩
    obtain rfl := List.mem_singleton.1 he
    have := hs.start_lt_stop hrange
    simp only [Edit.replace]
    exact ⟨by omega, s, by simp [parts_of_hasRange hrange], by omega, by omega⟩

/-- To look at one statement adds at most one edit, which replaces the statement. -/
theorem unwrapRound_take_edits (r : UnwrapRound) (source : String) (others : List String)
    (s : Node) : ∃ edits, (r.take source others s).edits = r.edits ++ edits ∧
      ReplacesWhole s edits := by
  unfold UnwrapRound.take
  split_ifs
  · exact ⟨_, rfl, Or.inr ⟨"", rfl⟩⟩
  · split
    · exact ⟨[], by simp, Or.inl rfl⟩
    · dsimp only
      split_ifs
      · exact ⟨_, rfl, Or.inr ⟨_, rfl⟩⟩
      · exact ⟨[], by simp, Or.inl rfl⟩

/-- A round replaces statements. -/
theorem unwrapFrom_edits (source : String) :
    ∀ (statements : List Node) (before : List String) (r : UnwrapRound),
      ∃ batches, (unwrapFrom source before r statements).edits = r.edits ++ batches.flatten ∧
        List.Forall₂ ReplacesWhole statements batches
  | [], before, r => ⟨[], by simp [unwrapFrom], .nil⟩
  | s :: rest, before, r => by
    rw [unwrapFrom]
    obtain ⟨edits, htake, hedits⟩ := unwrapRound_take_edits r source
      (before ++ rest.flatMap (·.statementNames)) s
    obtain ⟨batches, hrest, hbatches⟩ := unwrapFrom_edits source rest (before ++ s.statementNames)
      (r.take source (before ++ rest.flatMap (·.statementNames)) s)
    exact ⟨edits :: batches, by rw [hrest, htake, List.flatten_cons, List.append_assoc],
      .cons hedits hbatches⟩

/-- The edits of one round of unwrapping are apart. -/
theorem unwrapRound_apart (h : program.LaidIn source) :
    AllApart source.length (unwrapRound source program).edits := by
  obtain ⟨batches, hedits, hbatches⟩ := unwrapFrom_edits source (statements program) [] {}
  rw [unwrapRound, hedits]
  exact h.row_apart (hbatches.imp fun s edits hedits hlaid hrange => hedits.within hlaid hrange)

/-- A receiver in a function is replaced, or it stays. -/
theorem receiverEdit_ok {space name : String} {receiver : Option Node × Node} {c : Context}
    {f g : Findings} {edits : List Edit}
    (h : receiverEdit source space name receiver c f = .ok edits g) :
    ReplacesWhole receiver.2 edits := by
  unfold receiverEdit at h
  obtain ⟨f₁, f', hget, h⟩ := bind_eq_ok.1 h
  split_ifs at h
  · cases h
    exact Or.inr ⟨_, rfl⟩
  · obtain ⟨-, g', -, hreturn⟩ := bind_eq_ok.1 h
    cases hreturn
    exact Or.inl rfl

/-- A function that a statement declares lies in the statement. -/
theorem declaredFunction?_eq_some {s function : Node} {name : String}
    (h : declaredFunction? s = some (name, function)) (hs : s.Laid)
    (hrange : s.kind.hasRange = true) : function.LiesIn s ∧ function.kind.hasRange = true := by
  unfold declaredFunction? at h
  dsimp only at h
  split at h
  · next marks hkind =>
    obtain ⟨_, -, hpair⟩ := Option.map_eq_some_iff.1 h
    obtain ⟨-, rfl⟩ := Prod.mk.inj hpair
    refine ⟨?_, by rw [hkind]; rfl⟩
    split
    · cases hd : s.child? .declaration with
      | none => exact .refl hs hrange
      | some d => exact (LiesIn.refl hs hrange).child? hd
    · exact .refl hs hrange
  · cases h

/-- No text belongs to two statements in the body of a function, and they lie in the function. -/
theorem bodyStatements_beside {function : Node} (h : function.Laid)
    (hrange : function.kind.hasRange = true) :
    (partsOf function.bodyStatements).Pairwise Beside ∧
      ∀ s ∈ function.bodyStatements, s.LiesIn function := by
  unfold bodyStatements
  cases hbody : function.child? .body with
  | none => exact ⟨.nil, by simp⟩
  | some body =>
    have hbody := (LiesIn.refl h hrange).child? hbody
    exact ⟨hbody.laid.beside_body, fun s hs => hbody.childrenIn hs⟩

/-- To replace a `this` in the body of a function stays within its node. -/
theorem permitted_receiver {function : Node} (hf : function.Laid)
    (hrange : function.kind.hasRange = true) {x : Option Node × Node}
    (hx : x ∈ outlineAll sharesThis none function.bodyStatements) {edits : List Edit}
    (hthis : x.2.kind = .thisExpression) (hedits : ReplacesWhole x.2 edits) :
    Permitted sharesThis x.1 x.2 edits := by
  rw [outlineAll_eq_flatMap] at hx
  obtain ⟨s, hs, hx⟩ := List.mem_flatMap.1 hx
  have hlaid := (((bodyStatements_beside hf hrange).2 s hs).mem_outline hx).1.laid
  rcases hedits with rfl | ⟨text, rfl⟩
  · exact .nil
  · have harranged := hlaid.arranged
    rw [hthis] at harranged
    have hreceiver : x.2.kind.hasRange = true := by rw [hthis]; rfl
    refine .replace hreceiver (.refl hlaid hreceiver) hreceiver (fun _ => harranged)
      (fun hname => ?_) _
    have := hname.1
    simp [name?, hthis] at this

/-- The edits for the receiver of a function stay within the function. -/
theorem functionReceiverEdits_within {space name : String} {function : Node} (hf : function.Laid)
    (hrange : function.kind.hasRange = true) {c : Context} {f g : Findings} {edits : List Edit}
    (h : functionReceiverEdits source (space, name, function) c f = .ok edits g) :
    Within function edits := by
  obtain ⟨batches, g', hbatches, hreturn⟩ := bind_eq_ok.1 h
  cases hreturn
  obtain ⟨hbeside, hbody⟩ := bodyStatements_beside hf hrange
  have hwalk := forall₂_of_mapM hbatches
  rw [receivers, ← List.filterMap_eq_filter] at hwalk
  obtain ⟨parts, hparts, hflatten⟩ := exists_of_forall₂_filterMap hwalk
  rw [← hflatten]
  have hpermitted : List.Forall₂ (fun x edits => Permitted sharesThis x.1 x.2 edits)
      (outlineAll sharesThis none function.bodyStatements) parts := by
    refine forall₂_imp_of_mem hparts fun x hx edits hedits => ?_
    rcases hedits with ⟨y, hy, f', g', hok⟩ | rfl
    · obtain ⟨rfl, hthis⟩ := Option.guard_eq_some_iff.1 hy
      exact permitted_receiver hf hrange hx (by simpa using hthis) (receiverEdit_ok hok)
    · exact .nil
  rw [outlineAll_eq_flatMap] at hpermitted
  obtain ⟨rows, hrows, rfl⟩ := exists_of_forall₂_flatMap hpermitted
  have hwithin : List.Forall₂ Within function.bodyStatements (rows.map List.flatten) := by
    rw [List.forall₂_map_right_iff]
    refine forall₂_imp_of_mem hrows fun s hs row hrow => ?_
    exact ((hbody s hs).laid.outline_apart (fun n hn => by rw [sharesThis, hn]; rfl) hrow).within
      (by simp)
  rw [List.flatten_flatten]
  refine ⟨fun e he => ?_, row_apart hwithin hbeside⟩
  obtain ⟨batch, hbatch, he⟩ := List.mem_flatten.1 he
  obtain ⟨s, hs, hedits⟩ := exists_of_forall₂_left hwithin.flip hbatch
  obtain ⟨hle, m, hm, hstart, hstop⟩ := hedits.inside e he
  have := (hbody s hs).inside m hm
  exact ⟨hle, function, by simp [parts_of_hasRange hrange], by omega, by omega⟩

/-- The edits for the receivers of all functions of namespaces are apart. -/
theorem namespaceThis_apart (h : program.LaidIn source) {functions : Table String} {c : Context}
    {f g : Findings} {batches : List (List Edit)}
    (hok : (namespaceFunctionsIn functions program).mapM (functionReceiverEdits source) c f =
      .ok batches g) : AllApart source.length batches.flatten := by
  obtain ⟨parts, hparts, hflatten⟩ := exists_of_forall₂_filterMap (forall₂_of_mapM hok)
  rw [← hflatten]
  refine h.row_apart (hparts.imp fun s edits hedits hs hrange => ?_)
  rcases hedits with ⟨⟨space, name, function⟩, hfunction, f', g', hok⟩ | rfl
  · obtain ⟨⟨name', function'⟩, hdeclared, hspace⟩ := Option.bind_eq_some_iff.1 hfunction
    obtain ⟨space', -, hpair⟩ := Option.bind_eq_some_iff.1 hspace
    obtain ⟨rfl, rfl, rfl⟩ : space' = space ∧ name' = name ∧ function' = function := by
      simpa using hpair
    obtain ⟨hlies, hfunction⟩ := declaredFunction?_eq_some hdeclared hs hrange
    have hwithin := functionReceiverEdits_within hlies.laid hfunction hok
    refine ⟨fun e he => ?_, hwithin.apart⟩
    have := hwithin.bounds hfunction he
    have := hlies.bounds hfunction
    exact ⟨by omega, s, by simp [parts_of_hasRange hrange], by omega, by omega⟩
  · exact .nil

/-! ## Inserts -/

/-- An insertion fits wherever its place is in the source. -/
theorem fits_insert {offset length : Nat} (h : offset ≤ length) (text : String) :
    (Edit.insert offset text).fits length = true := by
  rw [Edit.fits_iff]
  simp only [Edit.insert]
  omega

/-- Texts that are put into another one do not overlap. -/
theorem allApart_inserts {length : Nat} {edits : List Edit}
    (h : ∀ e ∈ edits, ∃ offset text, offset ≤ length ∧ e = .insert offset text) :
    AllApart length edits := by
  refine ⟨fun e he => ?_, List.pairwise_of_forall_mem_list fun e he f hf => ?_⟩
  · obtain ⟨offset, text, hle, rfl⟩ := h e he
    exact fits_insert hle text
  · obtain ⟨a, text, -, rfl⟩ := h e he
    obtain ⟨b, text', -, rfl⟩ := h f hf
    simp only [Edit.Apart, Edit.insert]
    omega

/-- The one edit that inserts the markup fits the program. -/
theorem insertionEdit_apart (h : program.LaidIn source) (text : String) :
    AllApart source.length [insertionEdit program text] := by
  refine allApart_inserts fun e he => ?_
  obtain rfl := List.mem_singleton.1 he
  have hle : importsEnd (statements program) ≤ source.length := by
    rw [importsEnd]
    cases hlast : ((statements program).takeWhile (·.kind == .importDeclaration)).getLast? with
    | none => exact Nat.zero_le _
    | some s =>
      have hs := (List.takeWhile_prefix _).subset (List.mem_of_getLast? hlast)
      exact (h.of_mem_statements hs).2.2
  unfold insertionEdit
  dsimp only
  split_ifs with hzero
  · exact ⟨0, _, Nat.zero_le _, rfl⟩
  · exact ⟨_, _, hle, rfl⟩

/-- The call that declares an element is a node of the program. -/
theorem mem_walk_of_mem_elementDeclarations {d : ElementDeclaration}
    (h : d ∈ program.elementDeclarations) : d.node ∈ program.walk := by
  unfold elementDeclarations at h
  rw [(sortBy_perm _ _).mem_iff] at h
  obtain ⟨n, hn, hd⟩ := List.mem_filterMap.1 h
  split_ifs at hd
  all_goals
    obtain ⟨tag, -, rfl⟩ := Option.map_eq_some_iff.1 hd
    exact hn

/-- A first declaration of a name is a declaration of the program. -/
theorem mem_firstDeclarations {p : String × ElementDeclaration}
    (h : p ∈ firstDeclarations program) : p.2 ∈ program.elementDeclarations := by
  rcases Table.mem_foldl_addNew ElementDeclaration.tag id h with h | ⟨d, hd, rfl⟩
  · cases h
  · exact hd

/-- The members of an element begin in the source. -/
theorem membersStart_le (h : program.LaidIn source) {d : ElementDeclaration}
    (hd : d ∈ program.elementDeclarations) : membersStart d ≤ source.length := by
  have hnode := mem_walk_of_mem_elementDeclarations hd
  have hchild (role : Role) : ((d.node.child? role).map (·.start + 1)).getD 0 ≤ source.length := by
    cases hc : d.node.child? role with
    | none => exact Nat.zero_le _
    | some c =>
      have := h.start_lt_of_mem_children hnode (List.mem_of_find?_eq_some hc)
      simp only [Option.map_some, Option.getD_some]
      omega
  unfold membersStart
  split
  · exact hchild _
  · exact hchild _

/-- A template goes in front of the members of its element. -/
theorem inlining_edit? {markup : Markup.Document} {tag : String}
    {declarations : Table ElementDeclaration} {e : DeclaredElement} {edit : Edit}
    (h : (inlining markup tag declarations e).edit? = some edit) :
    ∃ d text, (e.tag, d) ∈ declarations ∧ edit = .insert (membersStart d) text := by
  unfold inlining at h
  split at h
  · cases h
  · split at h
    · cases h
    · split at h
      · cases h
      · next d hd =>
        cases h
        exact ⟨d, _, Table.mem_of_get? hd, rfl⟩

/-- The import path of an element is replaced by one edit. -/
theorem deferImportPath_ok {d : ElementDeclaration} {c : Context} {f g : Findings} {e : Edit}
    (h : deferImportPath d c f = .ok e g) : ∃ url, e = importPathEdit url d := by
  obtain ⟨url, g', -, hreturn⟩ := bind_eq_ok.1 h
  cases hreturn
  exact ⟨url, rfl⟩

/-- Every edit of an import path belongs to one of the declarations. -/
theorem importPathEdits_ok {declarations : Table ElementDeclaration} {c c' : Context}
    {f g : Findings} {paths : List Edit} (h : importPathEdits c declarations c' f = .ok paths g)
    {e : Edit} (he : e ∈ paths) : ∃ p ∈ declarations, ∃ url, e = importPathEdit url p.2 := by
  unfold importPathEdits at h
  split_ifs at h
  · obtain ⟨d, hd, f', g', hd'⟩ := exists_of_forall₂_left (forall₂_of_mapM h).flip he
    obtain ⟨p, hp, rfl⟩ := List.mem_map.1 hd
    exact ⟨p, hp, deferImportPath_ok hd'⟩
  · cases h
    cases he

/-- The edits that inline templates and those that set import paths are apart. -/
theorem inlineTemplates_apart (h : program.LaidIn source) {c c' : Context} {f g : Findings}
    {paths : List Edit}
    (hok : importPathEdits c (firstDeclarations program) c' f = .ok paths g) :
    AllApart source.length (paths ++
      (inlinings c (firstDeclarations program)).filterMap Inlining.edit?) := by
  have hfirst {p : String × ElementDeclaration} (hp : p ∈ firstDeclarations program) :
      membersStart p.2 ≤ source.length :=
    membersStart_le h (mem_firstDeclarations hp)
  refine allApart_inserts fun e he => ?_
  rcases List.mem_append.1 he with he | he
  · obtain ⟨p, hp, url, rfl⟩ := importPathEdits_ok hok he
    exact ⟨_, _, hfirst hp, rfl⟩
  · obtain ⟨i, hi, hedit⟩ := List.mem_filterMap.1 he
    unfold inlinings at hi
    split at hi
    · cases hi
    · obtain ⟨element, -, rfl⟩ := List.mem_map.1 hi
      obtain ⟨d, text, hd, rfl⟩ := inlining_edit? hedit
      exact ⟨_, text, hfirst hd, rfl⟩

/-! ## Whole lines -/

/-- What stands in the part that `takeWhile` takes satisfies the predicate. -/
theorem of_lt_length_takeWhile {α : Type} {p : α → Bool} {l : List α} {k : Nat} {a : α}
    (ha : l[k]? = some a) (hk : k < (l.takeWhile p).length) : p a = true := by
  have hprefix := List.takeWhile_prefix (l := l) p
  have hmem : a ∈ l.takeWhile p := by
    obtain ⟨hlt, rfl⟩ := List.getElem?_eq_some_iff.1 ha
    rw [← hprefix.getElem hk]
    exact List.getElem_mem hk
  exact List.mem_takeWhile_imp hmem

/-- In front of an offset, as far back as the blanks go, all is blank. -/
theorem isIndent_before {cs : List Char} {start k : Nat} {ch : Char} (hstart : start ≤ cs.length)
    (hk : start - ((cs.take start).reverse.takeWhile isIndent).length ≤ k) (hlt : k < start)
    (hch : cs[k]? = some ch) : isIndent ch = true := by
  have hlength : (cs.take start).length = start := by
    rw [List.length_take]
    omega
  have hback : (cs.take start).length - 1 - (start - 1 - k) = k := by omega
  refine of_lt_length_takeWhile (l := (cs.take start).reverse) (k := start - 1 - k) ?_ (by omega)
  rw [List.getElem?_reverse (by omega), hback, List.getElem?_take, if_pos hlt, hch]

/-- Behind an offset, as far as the blanks go, all is blank. -/
theorem isIndent_behind {cs : List Char} {stop k : Nat} {ch : Char} (hk : stop ≤ k)
    (hlt : k < stop + ((cs.drop stop).takeWhile isIndent).length) (hch : cs[k]? = some ch) :
    isIndent ch = true := by
  refine of_lt_length_takeWhile (l := cs.drop stop) (k := k - stop) ?_ (by omega)
  rw [List.getElem?_drop, Nat.add_sub_cancel' hk, hch]

/-- The range is that of a part of the source, or the part with the rest of its lines, which are
blank. -/
structure Widened (source : String) (start stop : Nat) (range : Nat × Nat) : Prop where
  le_start : range.1 ≤ start
  stop_le : stop ≤ range.2
  le_length : range.2 ≤ source.length
  before : ∀ k, range.1 ≤ k → k < start → ∀ ch, source.toList[k]? = some ch → isIndent ch = true
  behind : ∀ k, stop ≤ k → k < range.2 → ∀ ch, source.toList[k]? = some ch →
    isIndent ch = true ∨ ch = '\n'
  ends : range.2 = stop ∨ range.2 = source.length ∨ source.toList[range.2 - 1]? = some '\n'

theorem widened_self {start stop : Nat} (h : stop ≤ source.length) :
    Widened source start stop (start, stop) where
  le_start := Nat.le_refl _
  stop_le := Nat.le_refl _
  le_length := h
  before _ hle hlt := absurd hlt (Nat.not_lt.2 hle)
  behind _ hle hlt := absurd hlt (Nat.not_lt.2 hle)
  ends := Or.inl rfl

/-- The lines around a range widen it only by blanks. -/
theorem widened_lineExtent {start stop : Nat} (hle : start ≤ stop) (h : stop ≤ source.length) :
    Widened source start stop (lineExtent source start stop) := by
  unfold lineExtent
  dsimp only
  set cs := source.toList
  have hcs : cs.length = source.length := String.length_toList
  set indent := ((cs.take start).reverse.takeWhile isIndent).length
  set gap := ((cs.drop stop).takeWhile isIndent).length
  have hstop : stop + gap ≤ cs.length := by
    have := (List.takeWhile_prefix (l := cs.drop stop) isIndent).length_le
    rw [List.length_drop] at this
    omega
  split_ifs with hlines
  · -- The lines end with the text, or with a line end behind the blanks.
    obtain ⟨-, hend⟩ := Bool.and_eq_true_iff.1 hlines
    have hends : stop + gap = cs.length ∨ cs[stop + gap]? = some '\n' :=
      (Bool.or_eq_true_iff.1 hend).imp (fun hwhole => hstop.antisymm (of_decide_eq_true hwhole))
        fun hnewline => by simpa using hnewline
    refine ⟨Nat.sub_le _ _, by dsimp only; omega, by dsimp only; omega, fun k hk hlt ch hch =>
      isIndent_before (by omega) hk hlt hch, fun k hk hlt ch hch => ?_, ?_⟩
    · by_cases hgapk : k < stop + gap
      · exact Or.inl (isIndent_behind hk hgapk hch)
      · dsimp only at hlt
        obtain rfl : k = stop + gap := by omega
        refine Or.inr ?_
        rcases hends with hwhole | hnewline
        · omega
        · exact Option.some.inj (hch.symm.trans hnewline)
    · refine Or.inr (hends.imp (fun hwhole => by dsimp only; omega) fun hnewline => ?_)
      obtain ⟨hlt, -⟩ := List.getElem?_eq_some_iff.1 hnewline
      rwa [Nat.min_eq_left (by omega), Nat.add_sub_cancel]
  · exact widened_self h

/-- Widened ranges of statements one behind the other do not overlap. -/
theorem Widened.stop_le_start {a b : Node} {range range' : Nat × Nat}
    (ha : Widened source a.start a.stop range) (hb : Widened source b.start b.stop range')
    (hab : Spread source a b) : range.2 ≤ range'.1 := by
  obtain ⟨hproper, hproper', hle, hbegins, hends⟩ := hab
  have hlength := ha.le_length
  have hlength' := hb.le_length
  have hstop := ha.stop_le
  have hstart := hb.le_start
  have hstop' := hb.stop_le
  have hcs : source.toList.length = source.length := String.length_toList
  have hchar (k : Nat) (hk : k < source.length) : ∃ ch, source.toList[k]? = some ch :=
    ⟨source.toList[k], List.getElem?_eq_getElem (by omega)⟩
  by_contra hlt
  -- The first range ends in front of the second statement, the second one begins behind the first.
  have hfirst : range.2 ≤ b.start := by
    by_contra hover
    obtain ⟨ch, hch⟩ := hchar b.start (by omega)
    obtain ⟨hindent, hnewline⟩ := hbegins ch hch
    rcases ha.behind b.start hle (by omega) ch hch with h | h
    · rw [hindent] at h
      cases h
    · exact hnewline h
  have hsecond : a.stop ≤ range'.1 := by
    by_contra hover
    obtain ⟨ch, hch⟩ := hchar (a.stop - 1) (by omega)
    have hindent := hb.before (a.stop - 1) (by omega) (by omega) ch hch
    rw [hends ch hch] at hindent
    cases hindent
  -- So the first range ends with a line end, which is no blank in front of the second statement.
  rcases ha.ends with hsame | hwhole | hnewline
  · omega
  · omega
  · have hindent := hb.before (range.2 - 1) (by omega) (by omega) _ hnewline
    exact absurd hindent (by decide)

/-- Of a statement its range is replaced, or that with the rest of its lines. -/
def ReplacesWidened (source : String) (s : Node) (edits : List Edit) : Prop :=
  edits = [] ∨ ∃ range text, (range = (s.start, s.stop) ∨ range = lineExtent source s.start s.stop) ∧
    edits = [.replace range.1 range.2 text]

/-- The edits for exports are made statement by statement, each inside the widened range of its
statement. -/
theorem exportStatements_edits (i : ExportInput) :
    ∀ (statements : List Node) (position : Nat) (e : Exports),
      ∃ batches, (exportStatements i position statements e).1 = batches.flatten ∧
        List.Forall₂ (ReplacesWidened i.source) statements batches
  | [], _, _ => ⟨[], rfl, .nil⟩
  | s :: rest, position, e => by
    rw [exportStatements]
    dsimp only
    split
    · obtain ⟨batches, hrest, hbatches⟩ := exportStatements_edits i rest s.stop _
      refine ⟨_ :: batches, ?_, .cons (Or.inr ⟨_, "", Or.inr rfl, rfl⟩) hbatches⟩
      rw [List.flatten_cons, ← hrest]
      rfl
    · split
      · next text e' _ =>
        obtain ⟨batches, hrest, hbatches⟩ := exportStatements_edits i rest s.stop e'
        refine ⟨_ :: batches, ?_, .cons (Or.inr ⟨_, text, Or.inl rfl, rfl⟩) hbatches⟩
        rw [List.flatten_cons, ← hrest]
      · obtain ⟨batches, hrest, hbatches⟩ := exportStatements_edits i rest s.stop e
        exact ⟨[] :: batches, by rw [hrest]; rfl, .cons (Or.inl rfl) hbatches⟩

/-- The edits for exports are apart, although a deletion may take the white space around its
statement. -/
theorem exportProgram_apart (h : program.LaidIn source) (c : Context) :
    AllApart source.length (exportProgram c source program).1 := by
  set i : ExportInput := {
    source, settings := c.settings, registry := c.registry, moduleUrl := c.moduleUrl
    declared := Node.scopeNames (statements program), writes := writtenPaths program }
  obtain ⟨batches, hedits, hbatches⟩ :=
    exportStatements_edits i (statements program) 0 { used := program.usedNames }
  rw [show (exportProgram c source program).1 = batches.flatten from hedits]
  have hwidened : List.Forall₂ (fun s edits => edits = [] ∨ ∃ range text,
      Widened source s.start s.stop range ∧ edits = [.replace range.1 range.2 text])
      (statements program) batches := by
    refine forall₂_imp_of_mem hbatches fun s hs edits hedits => hedits.imp_right ?_
    rintro ⟨range, text, hwide, rfl⟩
    obtain ⟨hlaid, hrange, hlength⟩ := h.of_mem_statements hs
    refine ⟨range, text, ?_, rfl⟩
    rcases hwide with rfl | rfl
    · exact widened_self hlength
    · exact widened_lineExtent (Nat.le_of_lt (hlaid.start_lt_stop hrange)) hlength
  refine ⟨fun e he => ?_, pairwise_flatten_of_forall₂ ?_ ?_ hwidened h.statements_spread⟩
  · obtain ⟨batch, hbatch, he⟩ := List.mem_flatten.1 he
    obtain ⟨s, hs, rfl | ⟨range, text, hrange, rfl⟩⟩ := exists_of_forall₂_left hwidened.flip hbatch
    · cases he
    · obtain rfl := List.mem_singleton.1 he
      have := h.start_lt_stop_of_mem_statements hs
      have := hrange.le_start
      have := hrange.stop_le
      have := hrange.le_length
      rw [Edit.fits_iff]
      simp only [Edit.replace]
      omega
  · rintro s edits (rfl | ⟨range, text, -, rfl⟩)
    · exact .nil
    · exact List.pairwise_singleton _ _
  · rintro a first b second hab (rfl | ⟨range, text, ha, rfl⟩) (rfl | ⟨range', text', hb, rfl⟩) e he f hf
    · cases he
    · cases he
    · cases hf
    · obtain rfl := List.mem_singleton.1 he
      obtain rfl := List.mem_singleton.1 hf
      have := ha.stop_le_start hb hab
      left
      simp only [Edit.replace]
      omega

/-! ## Bodies of wrappers -/

/-- Nodes of this kind stand between a wrapper statement and its function. -/
def leadsToFunction : Kind → Bool
  | .expressionStatement | .unaryExpression _ | .callExpression | .memberExpression _ => true
  | _ => false

/-- The second node is found in the first one, through nodes of a wrapper only. -/
inductive Leads : Node → Node → Prop
  | refl (n : Node) : Leads n n
  | step {p c n : Node} : leadsToFunction p.kind = true → c ∈ p.children → Leads c n → Leads p n

theorem Leads.child? {p c n : Node} {r : Role} (hkind : leadsToFunction p.kind = true)
    (hc : p.child? r = some c) (h : Leads c n) : Leads p n :=
  .step hkind (List.mem_of_find?_eq_some hc) h

theorem Leads.liesIn {p n outer : Node} (h : Leads p n) (hp : p.LiesIn outer) : n.LiesIn outer := by
  induction h with
  | refl => exact hp
  | step _ hc _ ih => exact ih (hp.of_mem hc)

/-- A call leads to the function that it runs at once. -/
theorem leads_of_calledFunction? {n f : Node} (h : n.calledFunction? = some f) :
    f.isBareFunction = true ∧ Leads n f := by
  unfold calledFunction? at h
  split at h
  · next callee hkind hcallee =>
    have hcall : leadsToFunction n.kind = true := by rw [hkind]; rfl
    dsimp only at h
    split_ifs at h with hdirect
    · obtain rfl := Option.some.inj h
      exact ⟨((Bool.and_eq_true _ _).mp hdirect).1, .child? hcall hcallee (.refl _)⟩
    · split at h
      · next object _ hmember hobject _ =>
        split_ifs at h with hword
        obtain rfl := Option.some.inj h
        simp only [Bool.and_eq_true] at hword
        have hmember : leadsToFunction callee.kind = true := by rw [hmember]; rfl
        exact ⟨hword.1.1.2, .child? hcall hcallee (.child? hmember hobject (.refl _))⟩
      · cases h
  · cases h

/-- A call leads to the function that runs when the page is ready. -/
theorem leads_of_readyFunction? {n f : Node} (h : n.readyFunction? = some f) :
    f.isBareFunction = true ∧ Leads n f := by
  unfold readyFunction? at h
  split at h
  · next hkind _ =>
    have hargument {g : Node} (hg : g ∈ n.childrenIn .argument) : Leads n g :=
      .step (by rw [hkind]; rfl) (List.mem_of_mem_filter hg) (.refl g)
    split at h
    · next g _ hargs =>
      split_ifs at h with hbare
      obtain rfl := Option.some.inj h
      exact ⟨hbare, hargument (by simp [hargs])⟩
    · next _ _ g _ hargs =>
      split_ifs at h with hready
      obtain rfl := Option.some.inj h
      simp only [Bool.and_eq_true] at hready
      exact ⟨hready.2, hargument (by simp [hargs])⟩
    · cases h
  · cases h

/-- A wrapper is an expression and leads to its function. -/
theorem leads_of_removableWrapper? {s f : Node} (h : removableWrapper? s = some f) :
    s.kind = .expressionStatement ∧ f.isBareFunction = true ∧ Leads s f := by
  have h := (Option.filter_eq_some_iff.1 h).1
  unfold wrappedFunction? at h
  split at h
  · next e hkind he =>
    refine ⟨hkind, ?_⟩
    suffices f.isBareFunction = true ∧ Leads e f from
      this.imp_right (.child? (by rw [hkind]; rfl) he)
    rw [Option.orElse_eq_orElse, Option.orElse_eq_or] at h
    rcases Option.or_eq_some_iff.1 h with h | ⟨-, h⟩
    · unfold immediateFunction? at h
      split at h
      · next hunary =>
        split_ifs at h
        · obtain ⟨argument, hargument, h⟩ := Option.bind_eq_some_iff.1 h
          exact (leads_of_calledFunction? h).imp_right
            (.child? (by rw [hunary]; rfl) hargument)
        · exact leads_of_calledFunction? h
      · exact leads_of_calledFunction? h
    · exact leads_of_readyFunction? h
  · cases h

/-- The function of a wrapper lies in the statement. -/
theorem removableWrapper?_eq_some {s f : Node} (h : removableWrapper? s = some f)
    (hs : s.Laid) (hrange : s.kind.hasRange = true) : f.isBareFunction = true ∧ f.LiesIn s := by
  obtain ⟨-, hbare, hleads⟩ := leads_of_removableWrapper? h
  exact ⟨hbare, hleads.liesIn (.refl hs hrange)⟩

theorem hasRange_of_isBareFunction {f : Node} (h : f.isBareFunction = true) :
    f.kind.hasRange = true := by
  simp only [isBareFunction, Bool.and_eq_true] at h
  unfold Kind.isFunction at h
  unfold Kind.hasRange
  split <;> simp_all

/-- The statements of a bare function lie between the braces of its body, one behind the other. -/
theorem bodyStatements_inOrder {f body : Node} (hbare : f.isBareFunction = true) (hf : f.Laid)
    (hbody : f.child? .body = some body) :
    f.start ≤ body.start ∧ body.stop ≤ f.stop ∧ InOrder f.bodyStatements ∧
      ∀ s ∈ f.bodyStatements,
        s.start < s.stop ∧ body.start + 1 ≤ s.start ∧ s.stop + 1 ≤ body.stop := by
  have hlies := (LiesIn.refl hf (hasRange_of_isBareFunction hbare)).child? hbody
  have hblock : body.kind = .blockStatement := by
    simp only [isBareFunction, hbody, Bool.and_eq_true, Option.map_some] at hbare
    simpa using hbare.2
  have hbounds := hlies.bounds (by rw [hblock]; rfl)
  have harranged := hlies.laid.arranged
  rw [hblock] at harranged
  obtain ⟨horder, hinside⟩ := harranged
  have hstatements : f.bodyStatements = body.childrenIn .body := by
    rw [bodyStatements, hbody]
    rfl
  rw [hstatements]
  refine ⟨hbounds.1, hbounds.2, ⟨fun s hs => horder.hasRange s (List.mem_of_mem_filter hs),
    horder.ordered.filter _⟩, fun s hs => ?_⟩
  have hs := List.mem_of_mem_filter hs
  exact ⟨(hlies.laid.child hs).start_lt_stop (horder.hasRange s hs), hinside s hs⟩

/-- The directives of a wrapper lie between the braces of its body and do not overlap. -/
theorem directiveCuts_apart {f body : Node} (hbare : f.isBareFunction = true) (hf : f.Laid)
    (hbody : f.child? .body = some body) (hlength : f.stop ≤ source.length) :
    AllApart (slice source (body.start + 1) (body.stop - 1)).length
      (directiveCuts (body.start + 1) f.bodyStatements) := by
  obtain ⟨-, hstop, horder, hcut⟩ := bodyStatements_inOrder hbare hf hbody
  have hslice : (slice source (body.start + 1) (body.stop - 1)).length =
      body.stop - 1 - (body.start + 1) := by
    rw [slice, String.length_ofList, List.length_drop, List.length_take, String.length_toList]
    omega
  have hrow := horder.ordered.filter fun s => s.isUseStrict
  rw [directiveCuts]
  refine ⟨fun e he => ?_, List.pairwise_map.2 (hrow.imp_of_mem fun {a b} ha hb hab => ?_)⟩
  · obtain ⟨s, hs, rfl⟩ := List.mem_map.1 he
    obtain ⟨hproper, hstart, hstop⟩ := hcut s (List.mem_of_mem_filter hs)
    rw [Edit.fits_iff, hslice]
    simp only [Edit.delete]
    omega
  · obtain ⟨-, hstart, -⟩ := hcut a (List.mem_of_mem_filter ha)
    obtain ⟨-, hstart', -⟩ := hcut b (List.mem_of_mem_filter hb)
    left
    simp only [Edit.delete]
    omega

/-! ## Batches -/

/-- The edits that a stage makes at once in a program that is read, with the findings it has. -/
inductive Builds (c : Context) (source : String) (program : Node) : Stage → List Edit → Prop
  | globalThis : Builds c source program .globalThis (globalThisEdits program)
  /-- One round of the unwrapping. -/
  | unwrap : Builds c source program .unwrap (unwrapRound source program).edits
  | inlineTemplates {f g : Findings} {paths : List Edit} :
    importPathEdits c (firstDeclarations program) c f = .ok paths g →
    Builds c source program .inlineTemplates
      (paths ++ (inlinings c (firstDeclarations program)).filterMap Inlining.edit?)
  | collectReferences {f g : Findings} {batches : List (List Edit)} :
    (referenceSites program).mapM (collectSite source) c f = .ok batches g →
    Builds c source program .collectReferences batches.flatten
  | exportNamespaces :
    Builds c source program .exportNamespaces (exportProgram c source program).1
  | namespaceThis {f g : Findings} {batches : List (List Edit)} :
    (namespaceFunctionsIn f.namespaceFunctions program).mapM (functionReceiverEdits source) c f =
      .ok batches g →
    Builds c source program .namespaceThis batches.flatten
  | substitutePaths (f : Findings) :
    Builds c source program .substitutePaths (substitutionEdits c.settings f.localNames program)
  | insertMarkup (text : String) :
    Builds c source program .insertMarkup [insertionEdit program text]

/-- No stage makes edits that overlap. -/
theorem Builds.apart {c : Context} {stage : Stage} {edits : List Edit}
    (hedits : Builds c source program stage edits) (h : program.LaidIn source) :
    AllApart source.length edits := by
  cases hedits with
  | globalThis => exact globalThisEdits_apart h
  | unwrap => exact unwrapRound_apart h
  | inlineTemplates hok => exact inlineTemplates_apart h hok
  | collectReferences hok => exact collectReferences_apart h hok
  | exportNamespaces => exact exportProgram_apart h c
  | namespaceThis hok => exact namespaceThis_apart h hok
  | substitutePaths f => exact substitutionEdits_apart h c.settings f.localNames
  | insertMarkup text => exact insertionEdit_apart h text

/-- Every batch that a stage builds lies in the source, without overlaps, and can be applied. -/
theorem applyEdits_of_builds {c : Context} {stage : Stage} {edits : List Edit}
    (h : program.LaidIn source) (hedits : Builds c source program stage edits) :
    AllApart source.length edits ∧ ∃ text, applyEdits source edits = .ok text :=
  ⟨hedits.apart h, (hedits.apart h).applyEdits⟩

/-- Other modules export two members with their setters and one without. -/
def foreignContext : Context where
  file := { url := "foo.html", contents := "" }
  moduleUrl := "./foo.js"
  settings := { namespaces := ["Polymer"] }
  registry := [⟨"Polymer.a", "./b.js", "a"⟩, ⟨"Polymer.setA", "./b.js", "setA"⟩,
    ⟨"Polymer.b", "./b.js", "b"⟩, ⟨"Polymer.setB", "./b.js", "setB"⟩,
    ⟨"Polymer.c", "./c.js", "c"⟩]

/-- A call with an assignment among its arguments, whose value is assigned once more. -/
def nestedCalls : String :=
  "f(Polymer.c, x = Polymer.a = Polymer.b = g(Polymer.c, Polymer.a));"

/-- An initializer on a line of its own, with exports on the lines below it. -/
def emptiedLine : String :=
  "  Polymer.Foo = Polymer.Foo || {};\nPolymer.x = 1;\nPolymer.Foo = { bar: 1 };\n"

/-- Two calls of setters are made one in the other, among references that are their neighbours, and a
line is deleted right in front of what is exported next. -/
theorem applyEdits_of_builds_neighbours :
    (∃ program batches g, parse nestedCalls = .ok program ∧
      (referenceSites program).mapM (collectSite nestedCalls) foreignContext
        (Findings.start nestedCalls) = .ok batches g ∧
      batches.flatten.map (fun e => (e.start, e.stop)) =
        [(2, 11), (17, 29), (64, 64), (29, 41), (64, 64), (43, 52), (54, 63)] ∧
      AllApart nestedCalls.length batches.flatten ∧
      ∃ text, applyEdits nestedCalls batches.flatten = .ok text) ∧
    ∃ program, parse emptiedLine = .ok program ∧
      (exportProgram foreignContext emptiedLine program).1.map (fun e => (e.start, e.stop)) =
        [(0, 35), (35, 49), (50, 75)] ∧
      AllApart emptiedLine.length (exportProgram foreignContext emptiedLine program).1 ∧
      ∃ text, applyEdits emptiedLine (exportProgram foreignContext emptiedLine program).1 =
        .ok text := by
  constructor
  · obtain ⟨program, hparse, hprogram⟩ := @exists_parse nestedCalls (fun program =>
      decide (program.LaidIn nestedCalls) &&
        match (referenceSites program).mapM (collectSite nestedCalls) foreignContext
          (Findings.start nestedCalls) with
        | .ok batches _ => batches.flatten.map (fun e => (e.start, e.stop)) ==
            [(2, 11), (17, 29), (64, 64), (29, 41), (64, 64), (43, 52), (54, 63)]
        | .error .. => false) (by decide +kernel)
    obtain ⟨hlaid, hbatches⟩ := Bool.and_eq_true_iff.1 hprogram
    split at hbatches
    next batches g hrun =>
      exact ⟨program, batches, g, hparse, hrun, beq_iff_eq.1 hbatches,
        applyEdits_of_builds (of_decide_eq_true hlaid) (.collectReferences hrun)⟩
    · cases hbatches
  · obtain ⟨program, hparse, hprogram⟩ := @exists_parse emptiedLine (fun program =>
      decide (program.LaidIn emptiedLine) &&
        (exportProgram foreignContext emptiedLine program).1.map (fun e => (e.start, e.stop)) ==
          [(0, 35), (35, 49), (50, 75)]) (by decide +kernel)
    obtain ⟨hlaid, hedits⟩ := Bool.and_eq_true_iff.1 hprogram
    exact ⟨program, hparse, beq_iff_eq.1 hedits,
      applyEdits_of_builds (of_decide_eq_true hlaid) .exportNamespaces⟩

end Pass

end HtmlModules
