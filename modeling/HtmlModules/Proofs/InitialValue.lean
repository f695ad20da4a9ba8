import HtmlModules.Proofs.Declaring

/-!
# Initial values

Any expression can stand behind `throw`. A text that is read there as one expression
(`Script.expressionAt?`) is read as the same expression where a declaration has its initial value: the
reader comes to it in the same state, so it also goes on in the same state. A module that exports the
declaration declares the name with this expression (`Script.Grammar.exists_parse_initialized`).
-/

namespace HtmlModules.Script

open Node

/-- A module that throws what the text is, which begins at the offset `start`. -/
def throwing (start : Nat) (text : String) : String :=
  String.ofList (List.replicate (start - 6) ' ') ++ "throw " ++ text ++ ";"

theorem length_throwing (start : Nat) (text : String) :
    (throwing (start + 6) text).length = start + text.length + 7 := by
  simp only [throwing, ← String.length_toList, String.toList_append, String.toList_ofList,
    List.length_append, List.length_replicate, show "throw ".toList.length = 6 from rfl,
    show ";".toList.length = 1 from rfl]
  omega

/-- The expression that the text is in a module, from the offset `start` on, if it is one and not several
of them. -/
def expressionAt? (start : Nat) (text : String) : Option Node :=
  let program? := (parseAs true (throwing start text)).toOption.filter (·.children.length == 1)
  let thrown? := program?.bind fun program => program.children.head?.bind (·.child? .argument)
  thrown?.filter (·.kind != .sequenceExpression)

theorem exists_of_expressionAt? {start : Nat} {text : String} {v : Node}
    (h : expressionAt? start text = some v) :
    ∃ program s, parseAs true (throwing start text) = .ok program ∧ program.children = [s] ∧
      s.child? .argument = some v ∧ v.kind ≠ .sequenceExpression := by
  obtain ⟨hthrown, hkind⟩ := Option.filter_eq_some_iff.1 h
  obtain ⟨program, hprogram, hthrown⟩ := Option.bind_eq_some_iff.1 hthrown
  obtain ⟨hparse, hlength⟩ := Option.filter_eq_some_iff.1 hprogram
  obtain ⟨s, hs⟩ := List.length_eq_one_iff.1 (beq_iff_eq.1 hlength)
  rw [hs] at hthrown
  refine ⟨program, s, ?_, hs, hthrown, bne_iff_ne.1 hkind⟩
  cases hresult : parseAs true (throwing start text) with
  | error e =>
    rw [hresult] at hparse
    cases hparse
  | ok n =>
    rw [hresult] at hparse
    rw [Option.some.inj hparse]

-- Several expressions are refused where an initial value is expected, but not behind `throw`.
example : (expressionAt? 19 "a + b").map (·.kind) = some (.binaryExpression "+") ∧
    expressionAt? 19 "a, b" = none := by
  decide +kernel

/-- The program is one export, of a declaration of the name with the initial value. -/
def ExportsValue (program : Node) (name : String) (v : Node) : Prop :=
  ∃ e d b kind, program.children = [e] ∧ e.kind = .exportNamedDeclaration ∧ e.children = [d] ∧
    d.kind = .variableDeclaration kind ∧ d.children = [b] ∧
    (b.child? .id).bind name? = some name ∧ b.child? .initial = some (v.withRole .initial)

namespace Grammar

open Failing Identifier

variable {α : Type} {s s' t u : ReadState} {context : Context} {bound : List Token}
  {name w : String} {self inner : Rule} {e n m : Node} {token : Token}

/-! ## The same place -/

theorem scanned_eq_ok {r : Except SyntaxError α} {a : α} (h : Reads (scanned r) s a t) :
    r = .ok a ∧ t = s := by
  cases r with
  | error e => cases h
  | ok b =>
    cases h
    exact ⟨rfl, rfl⟩

/-- Which state is next depends on where the lookahead ends, on its line and on the surroundings. -/
theorem Reads.advance_of_eq (h : Reads advance s token t) (hcursor : s'.cursor = s.cursor)
    (hline : s'.lookahead.line = s.lookahead.line) (hcontext : s'.context = s.context)
    (hbound : s'.bound = s.bound) : Reads advance s' s'.lookahead t := by
  obtain ⟨_, _, hget, h⟩ := run_bind_eq_ok.1 h
  cases hget
  obtain ⟨front, _, hread, h⟩ := run_bind_eq_ok.1 h
  obtain ⟨hfront, rfl⟩ := scanned_eq_ok hread
  obtain ⟨⟨next, cursor⟩, _, hread, h⟩ := run_bind_eq_ok.1 h
  obtain ⟨hnext, rfl⟩ := scanned_eq_ok hread
  cases h
  refine reads_get_bind (.bind (a := front) (t := s') ?_ (.bind (a := (next, cursor)) (t := s') ?_ ?_))
  · rw [hcursor, hfront]
    exact reads_pure front s'
  · rw [hnext]
    exact reads_pure (next, cursor) s'
  · rw [← hcontext, ← hbound, ← hline, ← hcursor]
    rfl

theorem Reads.lookahead (h : Reads advance s token t) : Reads advance s s.lookahead t :=
  h.advance_of_eq rfl rfl rfl rfl

/-! ## What has been read -/

/-- A reader reads one thing only. -/
theorem Reads.unique {r : Reader α} {a b : α} (h : Reads r s a t) (h' : Reads r s b u) :
    a = b ∧ t = u := by
  cases h.symm.trans h'
  exact ⟨rfl, rfl⟩

theorem exists_of_reads_collectWith {step : Reader (Option α)} {fuel : Nat} {l : List α}
    (h : Reads (collectWith step (fuel + 1)) s l t) :
    l = [] ∧ Reads step s none t ∨
      ∃ a l' u, l = a :: l' ∧ Reads step s (some a) u ∧ Reads (collectWith step fuel) u l' t := by
  obtain ⟨o, u, hstep, h⟩ := run_bind_eq_ok.1 h
  cases o with
  | none =>
    cases h
    exact .inl ⟨rfl, hstep⟩
  | some a =>
    obtain ⟨l', v, hl, h⟩ := run_bind_eq_ok.1 h
    cases h
    exact .inr ⟨a, l', u, rfl, hstep, hl⟩

/-- A list of one item comes of a step that yields it and of one that yields nothing. -/
theorem exists_of_reads_collect {step : Reader (Option α)} {a : α}
    (h : Reads (collect step) s [a] t) : ∃ u, Reads step s (some a) u ∧ Reads step u none t := by
  obtain ⟨_, _, hget, h⟩ := run_bind_eq_ok.1 h
  cases hget
  rcases exists_of_reads_collectWith h with ⟨hnil, -⟩ | ⟨b, l, u, hl, hfirst, hrest⟩
  · cases hnil
  obtain ⟨rfl, rfl⟩ := List.cons.inj hl
  rcases exists_of_reads_collectWith hrest with ⟨-, hlast⟩ | ⟨c, l, v, hl, -⟩
  · exact ⟨u, hfirst, hlast⟩
  · cases hl

theorem of_reads_programStep {rule : Rule} {o : Option Node}
    (h : Reads (programStep rule) s o t) :
    o = none ∧ s.lookahead.kind = .endOfInput ∧ t = s ∨
      ∃ d, o = some d ∧ Reads (rule .item) s d t := by
  obtain ⟨_, _, hget, h⟩ := run_bind_eq_ok.1 h
  cases hget
  split at h
  next hend =>
    cases h
    exact .inl ⟨rfl, beq_iff_eq.1 hend, rfl⟩
  · obtain ⟨d, u, hd, h⟩ := run_bind_eq_ok.1 h
    cases h
    exact .inr ⟨d, rfl, hd⟩

/-- A program of one statement has read this, and then come to the end. -/
theorem exists_of_reads_program {rule : Rule} (hkind : s.lookahead.kind ≠ .string)
    (h : Reads (program rule) s n t) (hchildren : n.children = [m]) :
    ∃ d, Reads (rule .item) s d t ∧ m = d.withRole .body ∧ t.lookahead.kind = .endOfInput := by
  obtain ⟨start, _, hstart, h⟩ := run_bind_eq_ok.1 h
  cases hstart
  obtain ⟨first, _, hfirst, h⟩ := run_bind_eq_ok.1 h
  obtain ⟨rfl, rfl⟩ := Reads.unique hfirst (reads_directives hkind)
  obtain ⟨rest, _, hrest, h⟩ := run_bind_eq_ok.1 h
  cases h
  have hone : rest.length = 1 := by
    have hlength := congrArg List.length hchildren
    simpa [ofChildren, Node.children, (sortBy_perm _ _).length_eq, each] using hlength
  obtain ⟨d, rfl⟩ := List.length_eq_one_iff.1 hone
  obtain ⟨u, hitem, hlast⟩ := exists_of_reads_collect hrest
  rcases of_reads_programStep hitem with ⟨hnone, -⟩ | ⟨d', hd, hitem⟩
  · cases hnone
  obtain rfl := Option.some.inj hd
  rcases of_reads_programStep hlast with ⟨-, hend, rfl⟩ | ⟨d', hd, -⟩
  · exact ⟨d, hitem, (List.singleton_inj.1 hchildren).symm, hend⟩
  · cases hd

/-! ## Behind `throw` -/

theorem item_of_throw (h : At s .keyword "throw") :
    item self s = throwStatement self (s.placed s.context.ofItem s.bound) := by
  obtain ⟨front, cursor, ⟨kind, value, start, stop, line⟩, lineBreak, last, context, bound⟩ := s
  obtain ⟨rfl, rfl⟩ := h
  rfl

/-- Behind `throw` an expression is read, and then the end of the statement. -/
theorem exists_of_reads_throwStatement (h : Reads (throwStatement self) s n t) :
    ∃ e u v, Reads advance s s.lookahead u ∧ Reads (expression self) u e v ∧
      Reads consumeSemicolon v () t ∧
      n = .ofChildren .throwStatement ⟨s.lookahead.start, t.last.offset⟩ [e.withRole .argument] := by
  obtain ⟨start, _, hstart, h⟩ := run_bind_eq_ok.1 h
  cases hstart
  obtain ⟨⟨⟩, u, hword, h⟩ := run_bind_eq_ok.1 h
  obtain ⟨token, _, hadvance, hword⟩ := run_bind_eq_ok.1 hword
  split at hword
  · cases hword
  cases hword
  obtain ⟨_, _, hget, h⟩ := run_bind_eq_ok.1 h
  cases hget
  split at h
  · cases h
  obtain ⟨e, v, he, h⟩ := run_bind_eq_ok.1 h
  obtain ⟨⟨⟩, _, hsemicolon, h⟩ := run_bind_eq_ok.1 h
  cases h
  exact ⟨e, _, v, Reads.lookahead hadvance, he, hsemicolon, rfl⟩

/-- What is not several expressions is one, and no comma follows. -/
theorem Reads.of_expression (h : Reads (expression self) s e t) (hkind : e.kind ≠ .sequenceExpression) :
    Reads (isolated (self .assignment)) s e t ∧ Reads (skipIf ",") t false t := by
  obtain ⟨start, _, hstart, h⟩ := run_bind_eq_ok.1 h
  cases hstart
  obtain ⟨first, u, hfirst, h⟩ := run_bind_eq_ok.1 h
  obtain ⟨b, _, hsees, h⟩ := run_bind_eq_ok.1 h
  have hstay := hsees
  cases hsees
  split at h
  · obtain ⟨rest, v, hrest, h⟩ := run_bind_eq_ok.1 h
    cases h
    exact (hkind rfl).elim
  next hother =>
    cases h
    rw [Bool.not_eq_true] at hother
    exact ⟨hfirst, .unless (hother ▸ hstay) (reads_pure false _)⟩

/-! ## Behind a name -/

theorem At.seesWord {kind : TokenKind} {value : String} (h : At s kind value) (w : String) :
    Reads (seesWord w) s (kind == .identifier && value == w) s := by
  rw [← h.kind_eq, ← h.value_eq]
  rfl

theorem At.expect {p : String} (h : At s .punctuator p) (hadvance : Reads advance s s.lookahead t) :
    Reads (expect p) s () t := by
  refine hadvance.bind ?_
  rw [h.kind_eq, h.value_eq, bne_self_eq_false, bne_self_eq_false]
  exact reads_pure () t

/-- The declarator of a name with an initial value. -/
def initializedNode (name : String) (whole span : Span) (value : Node) : Node :=
  .ofChildren .variableDeclarator whole
    [(nameNode name span).withRole .id, value.withRole .initial]

variable {v : ReadState} {kind : VariableKind}

/-- A name in front of an equals sign and an expression is a declarator with this initial value. -/
theorem reads_initializedDeclarator (hself : ∀ kind, self (.pattern kind) = pattern inner kind)
    (h : At s .identifier name) (hfree : name ∉ reservedWords) (hnext : Moves s t)
    (ht : At t .punctuator "=")
    (hadvance : Reads advance (t.placed context bound) t.lookahead u)
    (hvalue : Reads (isolated (self .assignment)) u e v)
    (hkind : kind = .letBinding ∨ kind = .const) :
    Reads (lexicalDeclarator self kind false) (s.placed context bound)
      (initializedNode name ⟨s.lookahead.start, v.last.offset⟩
        ⟨s.lookahead.start, t.last.offset⟩ e) v := by
  have hskip : Reads (skipIf "=") (t.placed context bound) true u :=
    .when (ht.placed.sees "=") (.bind hadvance (reads_pure true u))
  refine reads_here_bind ?_
  rw [hself]
  refine (reads_binding (reads_pattern h hfree hnext _)).bind (.bind (reads_checkBound hfree _ _ _) ?_)
  rcases hkind with rfl | rfl
  · exact (ht.placed.sees "=").bind ((ht.placed.expect hadvance).bind (hvalue.bind rfl))
  · exact (ht.placed.seesKeyword "in").bind ((ht.placed.seesWord "of").bind
      (.when hskip (hvalue.bind rfl)))

/-- Behind a blank an equals sign is the next token, if a blank follows. -/
theorem exists_moves_equals {more : List Char} (hrest : s.cursor.rest = ' ' :: '=' :: ' ' :: more) :
    ∃ t, Moves s t ∧ At t .punctuator "=" ∧ t.cursor = s.cursor.skip 2 ∧
      t.cursor.rest = ' ' :: more ∧ t.lookahead.line = t.cursor.line := by
  have hskip : (s.cursor.skip 1).rest = '=' :: ' ' :: more := by
    rw [rest_skip, hrest]
    rfl
  have hscan : scanToken (s.cursor.skip 1) =
      .ok (((s.cursor.skip 1).skip 1).token (s.cursor.skip 1).offset .punctuator "=",
        (s.cursor.skip 1).skip 1) := by
    have hmark : scanToken (s.cursor.skip 1) = scanPunctuator (s.cursor.skip 1) := by
      rw [scanToken, hskip]
      rfl
    rw [hmark, scanPunctuator, hskip]
    rfl
  refine ⟨_, moves_of_scan (trimmed_blanks (n := 1) (by decide) hrest) hscan rfl, ⟨rfl, rfl⟩,
    skip_skip 1 1 _, ?_, rfl⟩
  rw [rest_skip, hskip]
  rfl

/-- Two places in modules are the same if as much stands in front of them and the same behind them. -/
theorem skip_ofModule_eq {a b : String} {n : Nat} (ha : a ≠ "") (hb : b ≠ "")
    (hrest : ((Cursor.ofModule a).skip n).rest = ((Cursor.ofModule b).skip n).rest) :
    (Cursor.ofModule a).skip n = (Cursor.ofModule b).skip n := by
  simp only [Cursor.skip, Cursor.ofModule, Cursor.ofText, Cursor.mk.injEq, true_and, and_true] at hrest ⊢
  refine ⟨hrest, ?_⟩
  simp [ha, hb]

/-! ## The value -/

/-- Behind the cursor the expression is read, and then the end of its statement and of the module. The
reader is in front of the expression in the state `s`, and behind it in the state `t`. -/
structure ReadsValue (fuel : Nat) (c : Cursor) (e : Node) (s t u : ReadState) : Prop where
  advance : ∀ r : ReadState, r.cursor = c → r.lookahead.line = c.line →
    r.context = Context.ofItem { isModule := true, strict := true } → r.bound = [] →
    Reads advance r r.lookahead s
  value : Reads (isolated (readGoal fuel .assignment)) s e t
  comma : Reads (skipIf ",") t false t
  semicolon : Reads consumeSemicolon t () u
  atEnd : u.lookahead.kind = .endOfInput

/-- What is thrown is read behind `throw`. -/
theorem exists_readsValue {start : Nat} {text : String} {v : Node}
    (h : expressionAt? (start + 6) text = some v) :
    ∃ e s t u, v = e.withRole .argument ∧
      ((Cursor.ofModule (throwing (start + 6) text)).skip (start + 5)).rest =
        ' ' :: (text.toList ++ [';']) ∧
      ReadsValue (8 * (throwing (start + 6) text).length + 15)
        ((Cursor.ofModule (throwing (start + 6) text)).skip (start + 5)) e s t u := by
  obtain ⟨program, statement, hparse, hchildren, hargument, hone⟩ := exists_of_expressionAt? h
  have hsource : (throwing (start + 6) text).toList = List.replicate start ' ' ++
      ("throw".toList ++ (' ' :: (text.toList ++ [';']))) := by
    simp [throwing]
  obtain ⟨r, hinitial, hthrow, hcursor, hrest, hline, hcontext, hbound⟩ :=
    exists_initialState (by decide) (endsWord_blank _) hsource
  obtain ⟨_, hinitial', hrun⟩ := bind_eq_ok.1 hparse
  obtain rfl := Except.ok.inj (hinitial.symm.trans hinitial')
  split at hrun <;> cases hrun
  next u hrun =>
    have hnotString : r.lookahead.kind ≠ .string := by
      rw [hthrow.kind_eq]
      decide
    obtain ⟨d, hitem, rfl, hend⟩ := exists_of_reads_program hnotString hrun hchildren
    have hitem : Reads (item (readGoal (8 * (throwing (start + 6) text).length + 15))) r d u := hitem
    rw [Reads, item_of_throw hthrow] at hitem
    obtain ⟨e, s, t, hadvance, he, hsemicolon, rfl⟩ := exists_of_reads_throwStatement hitem
    obtain ⟨role, kind, span, children⟩ := e
    obtain rfl := Option.some.inj hargument
    obtain ⟨he, hcomma⟩ := he.of_expression hone
    rw [hcursor] at hrest hline
    refine ⟨_, s, t, u, rfl, hrest, fun r' hr hrline hrcontext hrbound => ?_, he, hcomma, hsemicolon,
      hend⟩
    exact hadvance.advance_of_eq (hr.trans hcursor.symm) (hrline.trans hline.symm)
      (hrcontext.trans (by rw [ReadState.placed, hcontext])) (hrbound.trans hbound.symm)

/-! ## The declaration -/

/-- The children of a declarator are told apart by their roles, in whichever order they stand. -/
theorem child?_initializedNode (name : String) (whole span : Span) (value : Node) :
    (initializedNode name whole span value).child? .id = some ((nameNode name span).withRole .id) ∧
      (initializedNode name whole span value).child? .initial = some (value.withRole .initial) := by
  obtain ⟨role, kind, place, children⟩ := value
  simp only [initializedNode, nameNode, ofChildren, withRole, child?, Node.children, sortBy,
    insertInOrder]
  split_ifs <;> exact ⟨rfl, rfl⟩

/-- If the value is an expression where it stands behind the name, then a module that exports the
declaration of the name declares and exports it with this expression for its initial value. -/
theorem exists_parse_initialized {keyword value : String} {v : Node}
    (hkeyword : keyword = "let" ∨ keyword = "const") (hname : isNameShaped name.toList = true)
    (hfree : name ∉ reservedWords)
    (hvalue : expressionAt? (keyword.length + name.length + 11) value = some v) :
    ∃ program, parse ("export " ++ s!"{keyword} {name} = {value};") = .ok program ∧
      ExportsValue program name v := by
  let source := "export " ++ s!"{keyword} {name} = {value};"
  have hsource : source.toList = "export".toList ++ (' ' :: keyword.toList ++
      (' ' :: name.toList ++ (' ' :: '=' :: ' ' :: (value.toList ++ [';'])))) := by
    simp [source, toString]
  obtain ⟨e, s, t, u, rfl, hthrown, hread⟩ := exists_readsValue hvalue
  set thrown := throwing (keyword.length + name.length + 5 + 6) value
  have hlength : thrown.length = source.length := by
    rw [length_throwing, ← @String.length_toList source, hsource]
    simp only [List.length_append, List.length_cons, List.length_nil, String.length_toList,
      show "export".length = 6 from rfl]
    omega
  obtain ⟨s₀, s₁, s₂, hinitial, hexporting, hnext, hs₂, hcursor, hrest, hcontext, hbound⟩ :=
    exists_exporting hkeyword hname hfree (endsWord_blank _) hsource
  obtain ⟨s₃, hnext', hs₃, hcursor', hrest', hline⟩ := exists_moves_equals hrest
  have hplace : s₃.cursor =
      (Cursor.ofModule thrown).skip (keyword.length + name.length + 5 + 5) := by
    rw [hcursor, skip_skip] at hcursor'
    rw [hcursor'] at hrest' ⊢
    exact skip_ofModule_eq (by simp [source]) (by simp [thrown, throwing]) (hrest'.trans hthrown.symm)
  have hadvance := hread.advance (s₃.placed s₀.context.ofItem s₀.bound) hplace
    (hline.trans (congrArg Cursor.line hplace)) (by rw [hcontext]; rfl) hbound
  have hkind : lexicalKind s₁.lookahead = .letBinding ∨ lexicalKind s₁.lookahead = .const :=
    (ite_eq_or_eq _ _ _).symm
  have hisolated : Reads (isolated (readGoal (8 * source.length + 15) .assignment)) s e t :=
    hlength ▸ hread.value
  have hdeclarator := reads_initializedDeclarator (fun _ => rfl) hs₂ hfree hnext' hs₃ hadvance
    hisolated hkind
  have hdeclaration := reads_lexicalDeclaration hnext hdeclarator hread.comma hread.semicolon
  have hprogram := hexporting.reads_program (by rw [hcontext]) (by rw [hcontext]) hdeclaration
    hread.atEnd
  refine ⟨_, parse_of_reads hinitial hprogram, _, _, _, _, rfl, rfl, rfl, rfl, rfl, ?_⟩
  obtain ⟨hid, hchild⟩ := child?_initializedNode name ⟨s₂.lookahead.start, t.last.offset⟩
    ⟨s₂.lookahead.start, s₃.last.offset⟩ e
  obtain ⟨role, kind, span, children⟩ := e
  exact ⟨congrArg (Option.bind · name?) hid, hchild⟩

end Grammar

end HtmlModules.Script
