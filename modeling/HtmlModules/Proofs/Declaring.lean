import HtmlModules.Proofs.Word
import HtmlModules.Script.Program

/-!
# A name is declared and exported

The grammar is followed token by token. A reader that gives a result goes on from a new state (`Reads`),
and what the next token is does not depend on the surroundings (`Moves`). So each rule on the way from a
name to the program has its own lemma, up to the whole script: a module that exports the declaration of
a name that is not reserved declares and exports this name (`exists_parse_export`).
-/

namespace HtmlModules.Script.Grammar

open Failing Identifier

variable {α β : Type} {s t u : ReadState} {context : Context} {bound : List Token} {name : String}

/-! ## Names that are not reserved -/

theorem beq_eq_false_of_notMem (hfree : name ∉ reservedWords) {w : String} (hw : w ∈ reservedWords) :
    (name == w) = false :=
  beq_eq_false_iff_ne.2 fun he => hfree (he ▸ hw)

theorem contains_eq_false_of_notMem (hfree : name ∉ reservedWords) {ws : List String}
    (hws : ∀ w ∈ ws, w ∈ reservedWords) : ws.contains name = false := by
  rw [Bool.eq_false_iff, Ne, List.contains_iff_mem]
  exact fun hmem => hfree (hws name hmem)

/-- A name that is not reserved is an identifier, also in strict code, and strict code may bind it. -/
theorem wordKind_of_notMem (hfree : name ∉ reservedWords) :
    wordKind name = .identifier ∧ isStrictReserved name = false ∧ isRestricted name = false := by
  refine ⟨?_, contains_eq_false_of_notMem hfree (by decide), ?_⟩
  · rw [wordKind, contains_eq_false_of_notMem hfree (by decide),
      beq_eq_false_of_notMem hfree (w := "null") (by decide),
      beq_eq_false_of_notMem hfree (w := "true") (by decide),
      beq_eq_false_of_notMem hfree (w := "false") (by decide)]
    exact ite_self _
  · rw [isRestricted, beq_eq_false_of_notMem hfree (w := "eval") (by decide),
      beq_eq_false_of_notMem hfree (w := "arguments") (by decide), Bool.or_false]

/-! ## Reading step by step -/

/-- The reader gives a result and goes on from a new state. -/
def Reads (r : Reader α) (s : ReadState) (a : α) (t : ReadState) : Prop :=
  r s = .ok a t

theorem reads_pure (a : α) (s : ReadState) : Reads (pure a) s a s :=
  rfl

/-- Two computations one after the other read what the first and then the second reads. -/
theorem Reads.bind {r : Reader α} {k : α → Reader β} {a : α} {b : β} (h : Reads r s a t)
    (hk : Reads (k a) t b u) : Reads (r >>= k) s b u :=
  run_bind_eq_ok.2 ⟨a, t, h, hk⟩

/-- If the test reads true, the first branch is read. -/
theorem Reads.when {test : Reader Bool} {p q : Reader α} {a : α} (h : Reads test s true t)
    (hp : Reads p t a u) : Reads (test >>= fun b => if b = true then p else q) s a u :=
  h.bind hp

/-- If the test reads false, the second branch is read. -/
theorem Reads.unless {test : Reader Bool} {p q : Reader α} {a : α} (h : Reads test s false t)
    (hq : Reads q t a u) : Reads (test >>= fun b => if b = true then p else q) s a u :=
  h.bind hq

/-- What goes on from the state goes on from the one it starts in. -/
theorem reads_get_bind {k : ReadState → Reader α} {a : α} (h : Reads (k s) s a t) :
    Reads (get >>= k) s a t :=
  h

theorem reads_here_bind {k : Nat → Reader α} {a : α} (h : Reads (k s.lookahead.start) s a t) :
    Reads (here >>= k) s a t :=
  h

/-- The list ends where the step yields nothing. -/
theorem reads_collect_nil {step : Reader (Option α)} (h : Reads step s none t) :
    Reads (collect step) s [] t :=
  reads_get_bind (h.bind (reads_pure [] t))

/-- A list of one item, if the step yields nothing behind it. -/
theorem reads_collect_singleton {step : Reader (Option α)} {a : α} (h : Reads step s (some a) t)
    (hend : Reads step t none u) : Reads (collect step) s [a] u :=
  reads_get_bind (h.bind ((hend.bind (reads_pure [] u)).bind (reads_pure [a] u)))

/-- A result that the step does not extend stays. -/
theorem reads_extend_nil {step : α → Reader (Option α)} {a : α} (h : Reads (step a) s none t) :
    Reads (extend step a) s a t :=
  reads_get_bind (h.bind (reads_pure a t))

/-! ## The lookahead -/

/-- The kind and the value of the lookahead. -/
structure At (s : ReadState) (kind : TokenKind) (value : String) : Prop where
  kind_eq : s.lookahead.kind = kind
  value_eq : s.lookahead.value = value

/-- The state in other surroundings. -/
def ReadState.placed (s : ReadState) (context : Context) (bound : List Token) : ReadState :=
  { s with context, bound }

/-- The names that a pattern notes do not stay. -/
theorem reads_binding {r : Reader α} {a : α} (h : Reads r (s.placed context []) a t) :
    Reads (binding r) (s.placed context bound) (a, t.bound.reverse)
      (t.placed t.context bound) :=
  reads_get_bind (.bind (a := ()) (t := s.placed context []) rfl
    (h.bind (reads_get_bind (.bind (a := ()) (t := t.placed t.context bound) rfl rfl))))

variable {kind : TokenKind} {value p w : String}

/-- The context does not change which token is ahead. -/
theorem At.placed (h : At s kind value) : At (s.placed context bound) kind value :=
  ⟨h.kind_eq, h.value_eq⟩

theorem At.sees (h : At s kind value) (p : String) :
    Reads (sees p) s (kind == .punctuator && value == p) s := by
  rw [← h.kind_eq, ← h.value_eq]
  rfl

theorem At.seesKeyword (h : At s kind value) (w : String) :
    Reads (seesKeyword w) s (kind == .keyword && value == w) s := by
  rw [← h.kind_eq, ← h.value_eq]
  rfl

theorem At.skipIf_false (h : At s kind value) (hp : (kind == .punctuator && value == p) = false) :
    Reads (skipIf p) s false s :=
  .unless (hp ▸ h.sees p) (reads_pure false s)

/-- Whatever the surroundings are, the next token is the one behind the lookahead. -/
def Moves (s t : ReadState) : Prop :=
  ∀ context bound, Reads advance (s.placed context bound) s.lookahead (t.placed context bound)

theorem At.skipIf_true (h : At s .punctuator p) (hnext : Moves s t) :
    Reads (skipIf p) (s.placed context bound) true (t.placed context bound) := by
  have hsees := h.placed.sees (s := s.placed context bound) p
  rw [beq_self_eq_true, beq_self_eq_true] at hsees
  exact .when hsees ((hnext context bound).bind (reads_pure true _))

theorem At.expectKeyword (h : At s .keyword w) (hnext : Moves s t) :
    Reads (expectKeyword w) (s.placed context bound) () (t.placed context bound) := by
  refine (hnext context bound).bind ?_
  rw [h.kind_eq, h.value_eq, bne_self_eq_false, bne_self_eq_false]
  exact reads_pure () _

/-! ## Reading a declaration -/

/-- A name where it stands. -/
def nameNode (name : String) (span : Span) : Node := .ofChildren (.identifier name) span []

variable {self inner : Rule}

/-- A name that is not reserved is read as a variable. -/
theorem reads_variableName (h : At s .identifier name) (hfree : name ∉ reservedWords)
    (hnext : Moves s t) (kind : Option VariableKind) :
    Reads (variableName kind) (s.placed context bound)
      (nameNode name ⟨s.lookahead.start, t.last.offset⟩) (t.placed context bound) := by
  have hawait : (name == "await") = false := beq_eq_false_of_notMem hfree (by decide)
  refine reads_here_bind ((hnext context bound).bind (reads_get_bind ?_))
  simp only [h.kind_eq, h.value_eq, hawait, Bool.and_false]
  exact reads_pure _ _

/-- A name that is not reserved is a pattern, which binds it. -/
theorem reads_pattern (h : At s .identifier name) (hfree : name ∉ reservedWords)
    (hnext : Moves s t) (kind : Option VariableKind) :
    Reads (pattern self kind) (s.placed context bound)
      (nameNode name ⟨s.lookahead.start, t.last.offset⟩)
      (t.placed context (s.lookahead :: bound)) := by
  refine .unless (h.placed.sees _) (.unless (h.placed.sees _) (reads_get_bind
    ((h.placed.seesKeyword "let").bind ?_)))
  exact .bind (a := ()) (t := s.placed context (s.lookahead :: bound)) rfl
    (reads_variableName h hfree hnext kind)

theorem reads_checkBound (hfree : name ∉ reservedWords) (span : Span) (fault : Fault)
    (s : ReadState) : Reads (checkBound (nameNode name span) fault) s () s := by
  obtain ⟨-, -, hrestricted⟩ := wordKind_of_notMem hfree
  have hprotected : isProtected s.context.strict (nameNode name span) = false := by
    change (s.context.strict && isRestricted name) = false
    rw [hrestricted, Bool.and_false]
  refine reads_get_bind ?_
  rw [hprotected]
  exact reads_pure () s

/-- The declarator of a name without a value. -/
def declaratorNode (name : String) (span : Span) : Node :=
  .ofChildren .variableDeclarator span [(nameNode name span).withRole .id]

/-- A name in front of a semicolon is a declarator without a value. -/
theorem reads_lexicalDeclarator (hself : ∀ kind, self (.pattern kind) = pattern inner kind)
    (h : At s .identifier name) (hfree : name ∉ reservedWords) (hnext : Moves s t)
    (ht : At t .punctuator ";") :
    Reads (lexicalDeclarator self .letBinding false) (s.placed context bound)
      (declaratorNode name ⟨s.lookahead.start, t.last.offset⟩) (t.placed context bound) := by
  refine reads_here_bind ?_
  rw [hself]
  refine (reads_binding (reads_pattern h hfree hnext _)).bind ?_
  exact .bind (reads_checkBound hfree _ _ _) ((ht.placed.sees "=").bind rfl)

/-- A declaration of one declarator. -/
def declarationNode (kind : VariableKind) (span : Span) (declarator : Node) : Node :=
  .ofChildren (.variableDeclaration kind) span [declarator.withRole .declaration]

variable {n d : Node} {v : ReadState}

/-- A word and a declarator are a declaration, if no comma follows. -/
theorem reads_lexicalDeclaration (hnext : Moves s t)
    (hdeclarator : Reads (lexicalDeclarator self (lexicalKind s.lookahead) false)
      (t.placed context bound) n u)
    (hcomma : Reads (skipIf ",") u false u) (hsemicolon : Reads consumeSemicolon u () v) :
    Reads (lexicalDeclaration self) (s.placed context bound)
      (declarationNode (lexicalKind s.lookahead) ⟨s.lookahead.start, v.last.offset⟩ n) v := by
  refine reads_here_bind ((hnext context bound).bind ?_)
  refine .bind (hdeclarator.bind (.bind (reads_collect_nil (.unless hcomma (reads_pure none _)))
    (reads_pure [n] u))) ?_
  exact hsemicolon.bind rfl

/-! ## Reading an export -/

/-- The export of a declaration. -/
def exportNode (span : Span) (declaration : Node) : Node :=
  .ofChildren .exportNamedDeclaration span [declaration.withRole .declaration]

/-- What surrounds an item of a body. -/
def Context.ofItem (context : Context) : Context :=
  { context with isAssignmentTarget := true, isBindingElement := true }

/-- The reader is in front of `export`, and behind it in front of a word that declares names. -/
structure Exporting (s t : ReadState) (w : String) : Prop where
  atExport : At s .keyword "export"
  afterExport : Moves s t
  atWord : At t .keyword w
  declares : w = "let" ∨ w = "const"

/-- The word `export` in front of a declaration makes it an export. -/
theorem Exporting.reads_exportDeclaration (h : Exporting s t w)
    (hcontext : context.inFunction = false)
    (hd : Reads (lexicalDeclaration self) (t.placed context bound) d u) :
    Reads (exportDeclaration self) (s.placed context bound)
      (exportNode ⟨s.lookahead.start, u.last.offset⟩ d) u := by
  have hallowed : ¬(s.placed context bound).context.inFunction = true := by
    rw [ReadState.placed, hcontext]
    exact Bool.false_ne_true
  have hkeyword : ((t.placed context bound).lookahead.kind == .keyword) = true :=
    beq_iff_eq.2 h.atWord.kind_eq
  have hword : ((t.placed context bound).lookahead.value == "let" ||
      (t.placed context bound).lookahead.value == "const") = true := by
    rw [Bool.or_eq_true_iff, beq_iff_eq, beq_iff_eq, h.atWord.placed.value_eq]
    exact h.declares
  have hdefault : Reads (seesKeyword "default") (t.placed context bound) false
      (t.placed context bound) := by
    have hother : (TokenKind.keyword == .keyword && w == "default") = false := by
      rcases h.declares with rfl | rfl <;> rfl
    exact hother ▸ h.atWord.placed.seesKeyword "default"
  refine reads_get_bind ?_
  rw [if_neg hallowed]
  refine reads_here_bind ((h.atExport.expectKeyword h.afterExport).bind (reads_get_bind ?_))
  refine .unless hdefault (.unless (h.atWord.placed.skipIf_false rfl) ?_)
  rw [if_pos hkeyword, if_pos hword]
  exact hd.bind rfl

theorem Exporting.reads_item (h : Exporting s t w) (hmodule : context.isModule = true)
    (hcontext : context.inFunction = false)
    (hd : Reads (lexicalDeclaration self) (t.placed context.ofItem bound) d u) :
    Reads (item self) (s.placed context bound)
      (exportNode ⟨s.lookahead.start, u.last.offset⟩ d) u := by
  have hkeyword : ((s.placed context.ofItem bound).lookahead.kind == .keyword) = true :=
    beq_iff_eq.2 h.atExport.kind_eq
  have hvalue : (s.placed context.ofItem bound).lookahead.value = "export" := h.atExport.value_eq
  have hallowed : ¬(!(s.placed context.ofItem bound).context.isModule) = true := by
    change ¬(!context.isModule) = true
    rw [hmodule]
    exact Bool.false_ne_true
  refine .bind (a := ()) (t := s.placed context.ofItem bound) rfl (reads_get_bind ?_)
  rw [if_pos hkeyword, hvalue]
  dsimp only
  rw [if_neg hallowed]
  exact h.reads_exportDeclaration hcontext hd

/-- Where no string is ahead there are no directives. -/
theorem reads_directives (h : s.lookahead.kind ≠ .string) : Reads (directives self) s [] s := by
  have hother : (!true || s.lookahead.kind != .string) = true := bne_iff_ne.2 h
  refine .bind (reads_extend_nil (reads_get_bind ?_)) (reads_pure [] s)
  rw [if_pos hother]
  exact reads_pure none s

/-- Reads the next item of a program, unless the script ends. -/
def programStep (rule : Rule) : Reader (Option Node) := do
  if (← get).lookahead.kind == .endOfInput then return none else return some (← rule .item)

theorem reads_programStep_none {rule : Rule} (h : s.lookahead.kind = .endOfInput) :
    Reads (programStep rule) s none s := by
  refine reads_get_bind ?_
  rw [if_pos (beq_iff_eq.2 h)]
  exact reads_pure none s

theorem reads_programStep_some {rule : Rule} (h : s.lookahead.kind = .keyword)
    (hitem : Reads (rule .item) s n t) : Reads (programStep rule) s (some n) t := by
  have hother : ¬(s.lookahead.kind == .endOfInput) = true := by
    rw [h]
    decide
  refine reads_get_bind ?_
  rw [if_neg hother]
  exact hitem.bind (reads_pure _ t)

/-- A script of one item that begins with a keyword. -/
theorem reads_program {rule : Rule} (h : s.lookahead.kind = .keyword)
    (hitem : Reads (rule .item) s n t) (hend : t.lookahead.kind = .endOfInput) :
    Reads (program rule) s
      (.ofChildren .program ⟨s.lookahead.start, t.last.offset⟩ [n.withRole .body]) t := by
  have hnotString : s.lookahead.kind ≠ .string := by
    rw [h]
    decide
  exact reads_here_bind ((reads_directives hnotString).bind
    (.bind (reads_collect_singleton (reads_programStep_some h hitem) (reads_programStep_none hend))
      rfl))

/-- A script that exports a declaration, and nothing more. -/
theorem Exporting.reads_program (h : Exporting s t w) (hmodule : s.context.isModule = true)
    (hcontext : s.context.inFunction = false) {fuel : Nat}
    (hd : Reads (lexicalDeclaration (readGoal fuel)) (t.placed s.context.ofItem s.bound) d u)
    (hend : u.lookahead.kind = .endOfInput) :
    Reads (program (readGoal (fuel + 1))) s
      (.ofChildren .program ⟨s.lookahead.start, u.last.offset⟩
        [(exportNode ⟨s.lookahead.start, u.last.offset⟩ d).withRole .body]) u :=
  Grammar.reads_program h.atExport.kind_eq (h.reads_item hmodule hcontext hd) hend

/-! ## The tokens -/

/-- To consume the token ahead moves to the next one that is scanned. -/
theorem moves_of_scan {front cursor : Cursor} {next : Token} (hfront : s.cursor.trimmed = .ok front)
    (hnext : scanToken front = .ok (next, cursor))
    (hfree : (next.kind == .identifier && isStrictReserved next.value) = false) :
    Moves s { s with
      front, cursor, lookahead := next, lineBreak := s.lookahead.line != next.line
      last := markOf s.cursor } := by
  intro context bound
  have hkept (strict : Bool) :
      (strict && next.kind == .identifier && isStrictReserved next.value) = false := by
    rw [Bool.and_assoc, hfree, Bool.and_false]
  refine reads_get_bind (.bind (a := front) (t := s.placed context bound) ?_
    (.bind (a := (next, cursor)) (t := s.placed context bound) ?_ ?_))
  · change scanned s.cursor.trimmed _ = _
    rw [hfront]
    rfl
  · change scanned (scanToken front) _ = _
    rw [hnext]
    rfl
  · simp only [hkept]
    rfl

variable {word more : List Char}

/-- Behind a blank a word is the next token. -/
theorem exists_moves_word (hword : isNameShaped word = true) (hmore : EndsWord more)
    (hrest : s.cursor.rest = ' ' :: word ++ more)
    (hfree : (wordKind (String.ofList word) == .identifier &&
      isStrictReserved (String.ofList word)) = false) :
    ∃ t, Moves s t ∧ At t (wordKind (String.ofList word)) (String.ofList word) ∧
      t.cursor = s.cursor.skip (1 + word.length) ∧ t.cursor.rest = more := by
  have hskip : (s.cursor.skip 1).rest = word ++ more := by
    rw [rest_skip, hrest]
    rfl
  refine ⟨_, moves_of_scan (trimmed_blanks_word (n := 1) hword hrest)
    (scanToken_word hword hmore hskip) hfree, ⟨rfl, rfl⟩, skip_skip _ _ _, ?_⟩
  rw [rest_skip, hskip, List.drop_left]

/-- What stands in front of a semicolon is at most a line end. -/
theorem exists_trimmed_gap {c : Cursor} {gap : List Char} (hgap : gap = [] ∨ gap = ['\n'])
    (hrest : c.rest = gap ++ ';' :: more) :
    ∃ front, c.trimmed = .ok front ∧ front.rest = ';' :: more := by
  rcases hgap with rfl | rfl
  · refine ⟨c, ?_, hrest⟩
    rw [Cursor.trimmed, skipTrivia, hrest]
    rfl
  · have hskip : (c.skip 1).rest = ';' :: more := by
      rw [rest_skip, hrest]
      rfl
    have hline : ((c.skip 1).finishLine '\n').rest = ';' :: more := by
      rw [(finishLine_single fun h => absurd h.1 (by decide)).1, hskip]
    have hlength : c.rest.length = more.length + 1 + 1 := by
      rw [hrest]
      rfl
    refine ⟨(c.skip 1).finishLine '\n', ?_, hline⟩
    rw [Cursor.trimmed, hlength, skipTrivia, hrest]
    change skipTrivia (more.length + 1 + 1) true ((c.skip 1).finishLine '\n') = _
    rw [skipTrivia, hline]
    rfl

theorem scanToken_semicolon {c : Cursor} (hrest : c.rest = ';' :: more) :
    scanToken c = .ok ((c.skip 1).token c.offset .punctuator ";", c.skip 1) := by
  have hmark : scanToken c = scanPunctuator c := by
    rw [scanToken, hrest]
    rfl
  rw [hmark, scanPunctuator, hrest]
  rfl

/-- A semicolon is the next token, also behind a line end. -/
theorem exists_moves_semicolon {gap : List Char} (hgap : gap = [] ∨ gap = ['\n'])
    (hrest : s.cursor.rest = gap ++ ';' :: more) :
    ∃ t, Moves s t ∧ At t .punctuator ";" ∧ t.cursor.rest = more := by
  obtain ⟨front, hfront, hfrontRest⟩ := exists_trimmed_gap hgap hrest
  refine ⟨_, moves_of_scan hfront (scanToken_semicolon hfrontRest) rfl, ⟨rfl, rfl⟩, ?_⟩
  rw [rest_skip, hfrontRest]
  rfl

/-- Behind the last token the script ends. -/
theorem exists_moves_end (hrest : s.cursor.rest = []) : ∃ t, Moves s t ∧ At t .endOfInput "" := by
  have hfront : s.cursor.trimmed = .ok s.cursor := by
    rw [Cursor.trimmed, skipTrivia, hrest]
  have hscan : scanToken s.cursor = .ok (s.cursor.token s.cursor.offset .endOfInput "", s.cursor) := by
    rw [scanToken, hrest]
  exact ⟨_, moves_of_scan hfront hscan rfl, rfl, rfl⟩

/-- The beginning of a module. -/
def Cursor.ofModule (source : String) : Cursor :=
  { Cursor.ofText source with markupComments := false }

/-- A module stands in front of its first word. -/
theorem exists_initialState {source : String} {n : Nat} (hword : isNameShaped word = true)
    (hmore : EndsWord more) (hsource : source.toList = List.replicate n ' ' ++ (word ++ more)) :
    ∃ s, initialState source true = .ok s ∧
      At s (wordKind (String.ofList word)) (String.ofList word) ∧
      s.cursor = (Cursor.ofModule source).skip (n + word.length) ∧ s.cursor.rest = more ∧
      s.lookahead.line = s.cursor.line ∧ s.context = { isModule := true, strict := true } ∧
      s.bound = [] := by
  have hrest : (Cursor.ofText source).rest = List.replicate n ' ' ++ (word ++ more) := hsource
  have hskip : ((Cursor.ofText source).skip n).rest = word ++ more := by
    rw [rest_skip, hrest, List.drop_left' (List.length_replicate)]
  have hscan := scanToken_word hword hmore hskip
  rw [skip_skip] at hscan
  refine ⟨_, bind_eq_ok.2 ⟨_, trimmed_blanks_word hword hrest, bind_eq_ok.2 ⟨_, hscan, rfl⟩⟩,
    ⟨rfl, rfl⟩, rfl, ?_, rfl, rfl, rfl⟩
  change ((Cursor.ofText source).skip (n + word.length)).rest = more
  rw [← skip_skip, rest_skip, hskip, List.drop_left]

theorem parse_of_reads {source : String} {n : Node} (hinitial : initialState source true = .ok s)
    (hread : Reads (program (readGoal (8 * source.length + 16))) s n t) :
    parse source = .ok n := by
  have hmodule : parseAs true source = .ok n := by
    refine bind_eq_ok.2 ⟨s, hinitial, ?_⟩
    rw [hread]
  rw [parse, hmodule]

theorem endsWord_blank (cs : List Char) : EndsWord (' ' :: cs) := fun d hd => by
  obtain rfl := Option.some.inj hd
  decide

/-- In a module that begins with `export`, a word that declares names and a name, the reader comes from
one to the next. -/
theorem exists_exporting {source : String} (hw : w = "let" ∨ w = "const")
    (hname : isNameShaped name.toList = true) (hfree : name ∉ reservedWords) (hmore : EndsWord more)
    (hsource : source.toList =
      "export".toList ++ (' ' :: w.toList ++ (' ' :: name.toList ++ more))) :
    ∃ s t u, initialState source true = .ok s ∧ Exporting s t w ∧ Moves t u ∧
      At u .identifier name ∧
      u.cursor = (Cursor.ofModule source).skip (w.length + name.length + 8) ∧
      u.cursor.rest = more ∧ s.context = { isModule := true, strict := true } ∧ s.bound = [] := by
  obtain ⟨hkind, hstrict, -⟩ := wordKind_of_notMem hfree
  have hwordShaped : isNameShaped w.toList = true := by rcases hw with rfl | rfl <;> decide
  have hwordKind : wordKind w = .keyword := by rcases hw with rfl | rfl <;> decide
  have hbegins : source.toList = List.replicate 0 ' ' ++
      ("export".toList ++ (' ' :: w.toList ++ (' ' :: name.toList ++ more))) := hsource
  obtain ⟨s, hinitial, hs, hcursor, hrest, -, hcontext, hbound⟩ :=
    exists_initialState (by decide) (endsWord_blank _) hbegins
  obtain ⟨t, hnext, ht, htCursor, htRest⟩ := exists_moves_word hwordShaped (endsWord_blank _) hrest
    (by rw [String.ofList_toList, hwordKind]; rfl)
  obtain ⟨u, hnext', hu, huCursor, huRest⟩ := exists_moves_word hname hmore htRest
    (by rw [String.ofList_toList, hstrict, Bool.and_false])
  rw [String.ofList_toList, hwordKind] at ht
  rw [String.ofList_toList, hkind] at hu
  have hoffset : 0 + "export".toList.length + (1 + w.toList.length + (1 + name.toList.length)) =
      w.length + name.length + 8 := by
    simp only [String.length_toList, show "export".length = 6 from rfl]
    omega
  rw [htCursor, hcursor, skip_skip, skip_skip, hoffset] at huCursor
  exact ⟨s, t, u, hinitial, ⟨hs, hnext, ht, hw⟩, hnext', hu, huCursor, huRest, hcontext, hbound⟩

/-- A module that exports the declaration of a name that is not reserved declares and exports this name,
and a line end behind the name is none of it. -/
theorem exists_parse_export (hname : isNameShaped name.toList = true) (hfree : name ∉ reservedWords)
    (gap : String) (hgap : gap.toList = [] ∨ gap.toList = ['\n']) :
    ∃ program, parse ("export let " ++ name ++ gap ++ ";") = .ok program ∧
      (program.childrenIn .body).map (fun n => (n.kind, n.statementNames)) =
        [(.exportNamedDeclaration, [name])] := by
  let source := "export let " ++ name ++ gap ++ ";"
  have hsource : source.toList = "export".toList ++ (' ' :: "let".toList ++
      (' ' :: name.toList ++ (gap.toList ++ [';']))) := by
    simp [source]
  have hend : EndsWord (gap.toList ++ [';']) := fun d hd => by
    rcases hgap with hgap | hgap <;> rw [hgap] at hd <;> obtain rfl := Option.some.inj hd <;> decide
  obtain ⟨s, t, u, hinitial, hexporting, hnext, hu, -, hrest, hcontext, -⟩ :=
    exists_exporting (.inl rfl) hname hfree hend hsource
  obtain ⟨v, hnext', hv, hrest'⟩ := exists_moves_semicolon hgap hrest
  obtain ⟨last, hnext'', hlast⟩ := exists_moves_end hrest'
  have hletKind : lexicalKind t.lookahead = .letBinding := by
    rw [lexicalKind, hexporting.atWord.value_eq]
    rfl
  have hdeclarator : Reads (lexicalDeclarator (readGoal (8 * source.length + 15))
      (lexicalKind t.lookahead) false) (u.placed s.context.ofItem s.bound) _ _ :=
    hletKind ▸ reads_lexicalDeclarator (fun _ => rfl) hu hfree hnext' hv
  have hdeclaration := reads_lexicalDeclaration hnext hdeclarator (hv.placed.skipIf_false rfl)
    (.when (hv.skipIf_true hnext'') (reads_pure () _))
  have hread := hexporting.reads_program (by rw [hcontext]) (by rw [hcontext]) hdeclaration
    hlast.kind_eq
  rw [hletKind] at hread
  exact ⟨_, parse_of_reads hinitial hread, rfl⟩

end HtmlModules.Script.Grammar
