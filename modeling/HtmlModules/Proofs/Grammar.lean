import Mathlib
import HtmlModules.Proofs.Reading

/-!
# What the grammar yields

Each rule of the grammar yields grammatical trees if the rules that it is written against do
(`Script.Grammar.SoundRule`). A lemma says so for each of them: it follows the rule to the nodes that the
rule makes, and what is left is that these admit their children. The knot is tied by induction on the
number of nested steps (`Script.Grammar.soundRule_readGoal`), so whatever is parsed is grammatical
(`Script.grammatical_of_parse`).
-/

set_option mvcgen.warning false

namespace HtmlModules.Script

namespace Grammar

open Std.Do Node

/-! ## Rules -/

/-- Whatever goal the rule reads, it yields a grammatical tree. -/
class SoundRule (rule : Rule) : Prop where
  yields : ∀ goal, ⦃⌜True⌝⦄ rule goal ⦃⇓? n => ⌜Sound n⌝⦄

@[spec] theorem goal_spec {self : Rule} [SoundRule self] (goal : Goal) :
    ⦃⌜True⌝⦄ self goal ⦃⇓? n => ⌜Sound n⌝⦄ :=
  SoundRule.yields goal

variable {self : Rule} [SoundRule self]

/-! ## Patterns -/

@[spec] theorem expression_spec : ⦃⌜True⌝⦄ expression self ⦃⇓? n => ⌜Sound n⌝⦄ := by
  mvcgen [expression]
  all_goals simp_all

@[spec] theorem propertyKey_spec : ⦃⌜True⌝⦄ propertyKey self ⦃⇓? n => ⌜Sound n⌝⦄ := by
  mvcgen [propertyKey]
  all_goals simp_all

@[spec] theorem property_spec {start : ℕ} {kind : PropertyKind} {computed method shorthand : Bool}
    {key value : Node} (hkey : Sound key) (hvalue : Sound value) :
    ⦃⌜True⌝⦄ property start kind computed method shorthand key value ⦃⇓? n => ⌜Sound n⌝⦄ := by
  mvcgen [property]
  all_goals simp_all

@[spec] theorem patternWithDefault_spec (kind : Option VariableKind) :
    ⦃⌜True⌝⦄ patternWithDefault self kind ⦃⇓? n => ⌜Sound n⌝⦄ := by
  mvcgen [patternWithDefault]
  all_goals simp_all

@[spec] theorem arrayPattern_spec (kind : Option VariableKind) :
    ⦃⌜True⌝⦄ arrayPattern self kind ⦃⇓? n => ⌜Sound n⌝⦄ := by
  mvcgen [arrayPattern]
  all_goals simp_all

@[spec] theorem propertyPattern_spec (kind : Option VariableKind) :
    ⦃⌜True⌝⦄ propertyPattern self kind ⦃⇓? n => ⌜Sound n⌝⦄ := by
  mvcgen [propertyPattern]
  all_goals simp_all

@[spec] theorem restProperty_spec : ⦃⌜True⌝⦄ restProperty self ⦃⇓? n => ⌜Sound n⌝⦄ := by
  mvcgen [restProperty]
  all_goals simp_all

@[spec] theorem objectPattern_spec (kind : Option VariableKind) :
    ⦃⌜True⌝⦄ objectPattern self kind ⦃⇓? n => ⌜Sound n⌝⦄ := by
  mvcgen [objectPattern]
  all_goals simp_all

@[spec] theorem pattern_spec (kind : Option VariableKind) :
    ⦃⌜True⌝⦄ pattern self kind ⦃⇓? n => ⌜Sound n⌝⦄ := by
  mvcgen [pattern]

@[spec] theorem restParameter_spec : ⦃⌜True⌝⦄ restParameter self ⦃⇓? n => ⌜Sound n⌝⦄ := by
  mvcgen [restParameter]
  all_goals simp_all

/-! ## Functions and classes -/

@[spec] theorem formalParameter_spec (p : Parameters) (hp : Sound p) :
    ⦃⌜True⌝⦄ formalParameter self p ⦃⇓? n => ⌜Sound n⌝⦄ := by
  mvcgen [formalParameter]
  all_goals simp_all +zetaDelta

@[spec] theorem formalParameters_spec (restricted : Option Token) :
    ⦃⌜True⌝⦄ formalParameters self restricted ⦃⇓? n => ⌜Sound n⌝⦄ := by
  mvcgen [formalParameters]
  all_goals simp_all +zetaDelta

@[spec] theorem directive_spec : ⦃⌜True⌝⦄ directive self ⦃⇓? n => ⌜Sound n⌝⦄ := by
  mvcgen [directive]
  all_goals simp_all

@[spec] theorem directives_spec : ⦃⌜True⌝⦄ directives self ⦃⇓? n => ⌜Sound n⌝⦄ := by
  mvcgen [directives]
  all_goals simp_all

@[spec] theorem functionBody_spec : ⦃⌜True⌝⦄ functionBody self ⦃⇓? n => ⌜Sound n⌝⦄ := by
  mvcgen [functionBody]
  all_goals simp_all

@[spec] theorem methodBody_spec (p : Parameters) : ⦃⌜True⌝⦄ methodBody self p ⦃⇓? n => ⌜Sound n⌝⦄ := by
  mvcgen [methodBody]

@[spec] theorem methodFunction_spec : ⦃⌜True⌝⦄ methodFunction self ⦃⇓? n => ⌜Sound n⌝⦄ := by
  mvcgen [methodFunction]
  all_goals simp_all

@[spec] theorem asyncMethodFunction_spec : ⦃⌜True⌝⦄ asyncMethodFunction self ⦃⇓? n => ⌜Sound n⌝⦄ := by
  mvcgen [asyncMethodFunction]
  all_goals simp_all

@[spec] theorem generatorMethodFunction_spec :
    ⦃⌜True⌝⦄ generatorMethodFunction self ⦃⇓? n => ⌜Sound n⌝⦄ := by
  mvcgen [generatorMethodFunction]
  all_goals simp_all

@[spec] theorem getterFunction_spec : ⦃⌜True⌝⦄ getterFunction self ⦃⇓? n => ⌜Sound n⌝⦄ := by
  mvcgen [getterFunction]
  all_goals simp_all

@[spec] theorem setterFunction_spec : ⦃⌜True⌝⦄ setterFunction self ⦃⇓? n => ⌜Sound n⌝⦄ := by
  mvcgen [setterFunction]
  all_goals simp_all

@[spec] theorem functionRest_spec (offence : Option (Token × Fault)) :
    ⦃⌜True⌝⦄ functionRest self offence ⦃⇓? n => ⌜Sound n⌝⦄ := by
  mvcgen [functionRest]
  all_goals simp_all

@[spec] theorem functionDeclaration_spec (anonymous : Bool) :
    ⦃⌜True⌝⦄ functionDeclaration self anonymous ⦃⇓? n => ⌜Sound n⌝⦄ := by
  mvcgen [functionDeclaration]
  all_goals simp_all

@[spec] theorem functionExpression_spec : ⦃⌜True⌝⦄ functionExpression self ⦃⇓? n => ⌜Sound n⌝⦄ := by
  mvcgen [functionExpression]
  all_goals simp_all

@[spec] theorem elementHead_spec : ⦃⌜True⌝⦄ elementHead self ⦃⇓? n => ⌜Sound n⌝⦄ := by
  mvcgen [elementHead]
  all_goals simp_all

@[spec] theorem elementBody_spec (h : ElementHead) (hh : Sound h) :
    ⦃⌜True⌝⦄ elementBody self h ⦃⇓? n => ⌜Sound n⌝⦄ := by
  mvcgen [elementBody]
  all_goals simp_all

@[spec] theorem classElement_spec (hasConstructor : Bool) :
    ⦃⌜True⌝⦄ classElement self hasConstructor ⦃⇓? n => ⌜Sound n⌝⦄ := by
  mvcgen [classElement]
  all_goals simp_all

@[spec] theorem classBody_spec : ⦃⌜True⌝⦄ classBody self ⦃⇓? n => ⌜Sound n⌝⦄ := by
  mvcgen [classBody]
  all_goals simp_all

@[spec] theorem classWith_spec {kind : Kind} {name : Reader (Option Node)}
    (hkind : ∀ cs, kind.Admits cs) (hname : ⦃⌜True⌝⦄ name ⦃⇓? n => ⌜Sound n⌝⦄) :
    ⦃⌜True⌝⦄ classWith self kind name ⦃⇓? n => ⌜Sound n⌝⦄ := by
  mvcgen [classWith, hname]
  all_goals simp_all

@[spec] theorem classDeclaration_spec (anonymous : Bool) :
    ⦃⌜True⌝⦄ classDeclaration self anonymous ⦃⇓? n => ⌜Sound n⌝⦄ := by
  mvcgen [classDeclaration]
  all_goals simp_all

@[spec] theorem classExpression_spec : ⦃⌜True⌝⦄ classExpression self ⦃⇓? n => ⌜Sound n⌝⦄ := by
  mvcgen [classExpression]
  all_goals simp_all

/-! ## Primary expressions -/

@[spec] theorem templatePart_spec : ⦃⌜True⌝⦄ templatePart ⦃⇓? n => ⌜Sound n⌝⦄ := by
  mvcgen [templatePart]
  all_goals simp_all

@[spec] theorem templateLiteral_spec : ⦃⌜True⌝⦄ templateLiteral self ⦃⇓? n => ⌜Sound n⌝⦄ := by
  mvcgen [templateLiteral]
  all_goals simp_all

@[spec] theorem spreadElement_spec : ⦃⌜True⌝⦄ spreadElement self ⦃⇓? n => ⌜Sound n⌝⦄ := by
  mvcgen [spreadElement]
  all_goals simp_all

@[spec] theorem arrayLiteral_spec : ⦃⌜True⌝⦄ arrayLiteral self ⦃⇓? n => ⌜Sound n⌝⦄ := by
  mvcgen [arrayLiteral]
  all_goals simp_all

@[spec] theorem propertyRest_spec (start : ℕ) (t : Token) (key : Node) (hkey : Sound key)
    (computed isAsync hasProto : Bool) :
    ⦃⌜True⌝⦄ propertyRest self start t key computed isAsync hasProto ⦃⇓? n => ⌜Sound n⌝⦄ := by
  mvcgen [propertyRest]
  all_goals simp_all

@[spec] theorem objectProperty_spec (hasProto : Bool) :
    ⦃⌜True⌝⦄ objectProperty self hasProto ⦃⇓? n => ⌜Sound n⌝⦄ := by
  mvcgen [objectProperty]
  all_goals simp_all

@[spec] theorem objectLiteral_spec : ⦃⌜True⌝⦄ objectLiteral self ⦃⇓? n => ⌜Sound n⌝⦄ := by
  mvcgen [objectLiteral]
  all_goals simp_all

@[spec] theorem closeGroup_spec (e : Node) (he : Sound e) :
    ⦃⌜True⌝⦄ closeGroup e ⦃⇓? n => ⌜Sound n⌝⦄ := by
  mvcgen [closeGroup]
  all_goals simp_all

@[spec] theorem groupRest_spec (first : Node) (hfirst : Sound first) :
    ⦃⌜True⌝⦄ groupRest self first ⦃⇓? n => ⌜Sound n⌝⦄ := by
  mvcgen [groupRest]
  all_goals simp_all

@[spec] theorem group_spec : ⦃⌜True⌝⦄ group self ⦃⇓? n => ⌜Sound n⌝⦄ := by
  mvcgen [group]
  all_goals simp_all

@[spec] theorem regexLiteral_spec : ⦃⌜True⌝⦄ regexLiteral ⦃⇓? n => ⌜Sound n⌝⦄ := by
  mvcgen [regexLiteral]
  all_goals simp_all

@[spec] theorem keywordExpression_spec : ⦃⌜True⌝⦄ keywordExpression self ⦃⇓? n => ⌜Sound n⌝⦄ := by
  mvcgen [keywordExpression]
  all_goals simp_all

@[spec] theorem primary_spec : ⦃⌜True⌝⦄ primary self ⦃⇓? n => ⌜Sound n⌝⦄ := by
  mvcgen [primary]
  all_goals simp_all

/-! ## Operators -/

@[spec] theorem argumentsWith_spec {item : Reader Node} (hitem : ⦃⌜True⌝⦄ item ⦃⇓? n => ⌜Sound n⌝⦄) :
    ⦃⌜True⌝⦄ argumentsWith self item ⦃⇓? n => ⌜Sound n⌝⦄ := by
  mvcgen [argumentsWith, hitem]
  all_goals simp_all

@[spec] theorem callArguments_spec : ⦃⌜True⌝⦄ callArguments self ⦃⇓? n => ⌜Sound n⌝⦄ := by
  mvcgen [callArguments]

@[spec] theorem asyncArguments_spec : ⦃⌜True⌝⦄ asyncArguments self ⦃⇓? n => ⌜Sound n⌝⦄ := by
  mvcgen [asyncArguments]

@[spec] theorem memberStep_spec (start : ℕ) (e : Node) (he : Sound e) :
    ⦃⌜True⌝⦄ memberStep self start e ⦃⇓? n => ⌜Sound n⌝⦄ := by
  mvcgen [memberStep]
  all_goals simp_all

@[spec] theorem newExpression_spec : ⦃⌜True⌝⦄ newExpression self ⦃⇓? n => ⌜Sound n⌝⦄ := by
  mvcgen [newExpression]
  all_goals simp_all

@[spec] theorem chainHead_spec : ⦃⌜True⌝⦄ chainHead self ⦃⇓? n => ⌜Sound n⌝⦄ := by
  mvcgen [chainHead]

@[spec] theorem superKeyword_spec (next : List String) :
    ⦃⌜True⌝⦄ superKeyword next ⦃⇓? n => ⌜Sound n⌝⦄ := by
  mvcgen [superKeyword]
  all_goals simp_all

@[spec] theorem callee_spec : ⦃⌜True⌝⦄ callee self ⦃⇓? n => ⌜Sound n⌝⦄ := by
  mvcgen [callee]
  all_goals simp_all

@[spec] theorem callStep_spec (first : Token) (e : Node) (he : Sound e) :
    ⦃⌜True⌝⦄ callStep self first e ⦃⇓? n => ⌜Sound n⌝⦄ := by
  mvcgen [callStep]
  all_goals simp_all

@[spec] theorem call_spec : ⦃⌜True⌝⦄ call self ⦃⇓? n => ⌜Sound n⌝⦄ := by
  mvcgen [call]
  all_goals simp_all

@[spec] theorem update_spec : ⦃⌜True⌝⦄ update self ⦃⇓? n => ⌜Sound n⌝⦄ := by
  mvcgen [update]
  all_goals simp_all

@[spec] theorem unary_spec : ⦃⌜True⌝⦄ unary self ⦃⇓? n => ⌜Sound n⌝⦄ := by
  mvcgen [unary]
  all_goals simp_all

@[spec] theorem exponentiation_spec : ⦃⌜True⌝⦄ exponentiation self ⦃⇓? n => ⌜Sound n⌝⦄ := by
  mvcgen [exponentiation]
  all_goals simp_all

@[spec] theorem operand_spec {p : Reader Node} (hp : ⦃⌜True⌝⦄ p ⦃⇓? n => ⌜Sound n⌝⦄) :
    ⦃⌜True⌝⦄ operand p ⦃⇓? n => ⌜Sound n⌝⦄ := by
  mvcgen [operand, hp]

theorem Sound.combine {a b : Operand} (ha : Sound a) (hb : Sound b) (operator : String) :
    Sound (a.combine operator b) :=
  sound_ofChildren.2 ⟨admits_binaryKind, by simp_all⟩

theorem Sound.reduce (least : ℕ) :
    ∀ {waiting : List (Operand × String × ℕ)} {right : Operand},
      Sound waiting → Sound right → Sound (reduce least waiting right)
  | [], _, _, hright => by simpa [Grammar.reduce] using hright
  | (left, operator, p) :: waiting, right, hwaiting, hright => by
    obtain ⟨hleft, hwaiting⟩ := sound_cons.1 hwaiting
    rw [Grammar.reduce]
    split_ifs
    · exact Sound.reduce least hwaiting ((sound_prod.1 hleft).1.combine hright operator)
    · exact sound_prod.2 ⟨sound_cons.2 ⟨hleft, hwaiting⟩, hright⟩

theorem Sound.associate :
    ∀ {rest : List (String × ℕ × Operand)} {waiting : List (Operand × String × ℕ)} {left : Operand},
      Sound waiting → Sound left → Sound rest → Sound (associate waiting left rest)
  | [], _, _, hwaiting, hleft, _ => (sound_prod.1 (Sound.reduce 0 hwaiting hleft)).2
  | (operator, p, right) :: rest, waiting, left, hwaiting, hleft, hrest => by
    obtain ⟨hright, hrest⟩ := sound_cons.1 hrest
    obtain ⟨hwaiting, hleft⟩ := sound_prod.1 (Sound.reduce p hwaiting hleft)
    rw [Grammar.associate]
    exact Sound.associate (by simp_all) (by simp_all) hrest

@[spec] theorem binary_spec : ⦃⌜True⌝⦄ binary self ⦃⇓? n => ⌜Sound n⌝⦄ := by
  mvcgen [binary]
  all_goals simp_all
  next first _ rest _ hfirst hrest => exact Sound.associate sound_nil hfirst hrest

@[spec] theorem conditional_spec : ⦃⌜True⌝⦄ conditional self ⦃⇓? n => ⌜Sound n⌝⦄ := by
  mvcgen [conditional]
  all_goals simp_all

@[spec] theorem arrowHead_spec (e : Node) (he : Sound e) :
    ⦃⌜True⌝⦄ arrowHead e ⦃⇓? p => ⌜Sound p⌝⦄ := by
  -- The parameters that were looked at are sound. They are the expression itself or its children.
  mvcgen [arrowHead] invariants
  · ⇓? x => ⌜Sound x.2⌝
  case vc1.h_1 => simp
  all_goals
    have hfound := ‹(_ : Option (List Node × Bool)) = some (_, _)›
    have hparams := sound_option.1 (by dsimp +zetaDelta only; split <;> simp [he]) _ hfound
    simp_all +zetaDelta

@[spec] theorem arrowRest_spec (start : ℕ) (isAsync : Bool) (p : Parameters) (hp : Sound p) :
    ⦃⌜True⌝⦄ arrowRest self start isAsync p ⦃⇓? n => ⌜Sound n⌝⦄ := by
  mvcgen [arrowRest]
  all_goals simp_all

@[spec] theorem yieldExpression_spec : ⦃⌜True⌝⦄ yieldExpression self ⦃⇓? n => ⌜Sound n⌝⦄ := by
  mvcgen [yieldExpression]
  all_goals simp_all

@[spec] theorem assignment_spec : ⦃⌜True⌝⦄ assignment self ⦃⇓? n => ⌜Sound n⌝⦄ := by
  mvcgen [assignment]
  all_goals simp_all

/-! ## Statements -/

/-- The node is grammatical, and it is of a kind that is asked for. -/
def SoundOf (p : Kind → Bool) (n : Node) : Prop := Sound n ∧ p n.kind = true

@[spec] theorem declarator_spec (start : ℕ) (target : Node) (value : Option Node)
    (htarget : Sound target) (hvalue : Sound value) :
    ⦃⌜True⌝⦄ declarator start target value
    ⦃⇓? n => ⌜SoundOf (· == .variableDeclarator) n⌝⦄ := by
  mvcgen [declarator]
  all_goals simp_all [SoundOf]

@[spec] theorem varDeclarator_spec (inFor : Bool) :
    ⦃⌜True⌝⦄ varDeclarator self inFor ⦃⇓? n => ⌜SoundOf (· == .variableDeclarator) n⌝⦄ := by
  mvcgen [varDeclarator]
  all_goals simp_all

@[spec] theorem lexicalDeclarator_spec (kind : VariableKind) (inFor : Bool) :
    ⦃⌜True⌝⦄ lexicalDeclarator self kind inFor ⦃⇓? n => ⌜SoundOf (· == .variableDeclarator) n⌝⦄ := by
  mvcgen [lexicalDeclarator]
  all_goals simp_all

/-- What holds of each item holds of all in the list. -/
theorem commaList_forall {P : Node → Prop} {item : Reader Node}
    (h : ⦃⌜True⌝⦄ item ⦃⇓? n => ⌜P n⌝⦄) : ⦃⌜True⌝⦄ commaList item ⦃⇓? ns => ⌜∀ n ∈ ns, P n⌝⦄ := by
  have hrest : ⦃⌜True⌝⦄ collect (do if ← skipIf "," then return some (← item) else return none)
      ⦃⇓? ns => ⌜∀ n ∈ ns, P n⌝⦄ := by
    apply collect_forall
    mvcgen [h]
    all_goals simp_all
  -- `collect_spec` would only say that the rest is sound.
  mvcgen [commaList, h, hrest, -collect_spec]
  all_goals simp_all

@[spec] theorem variableDeclaration_spec (start : ℕ) (kind : VariableKind) (declarators : List Node)
    (h : ∀ n ∈ declarators, SoundOf (· == .variableDeclarator) n) :
    ⦃⌜True⌝⦄ variableDeclaration start kind declarators ⦃⇓? n => ⌜Sound n⌝⦄ := by
  mvcgen [variableDeclaration]
  all_goals simp_all [each, sound_list, SoundOf]

@[spec] theorem varStatement_spec : ⦃⌜True⌝⦄ varStatement self ⦃⇓? n => ⌜Sound n⌝⦄ := by
  have hdeclarators : ⦃⌜True⌝⦄ commaList (varDeclarator self false)
      ⦃⇓? ns => ⌜∀ n ∈ ns, SoundOf (· == .variableDeclarator) n⌝⦄ :=
    commaList_forall (varDeclarator_spec false)
  mvcgen [varStatement, hdeclarators]
  all_goals simp_all

@[spec] theorem lexicalDeclaration_spec :
    ⦃⌜True⌝⦄ lexicalDeclaration self ⦃⇓? n => ⌜Sound n⌝⦄ := by
  have hdeclarators (kind : VariableKind) : ⦃⌜True⌝⦄ commaList (lexicalDeclarator self kind false)
      ⦃⇓? ns => ⌜∀ n ∈ ns, SoundOf (· == .variableDeclarator) n⌝⦄ :=
    commaList_forall (lexicalDeclarator_spec kind false)
  mvcgen [lexicalDeclaration, hdeclarators]
  all_goals simp_all

@[spec] theorem block_spec : ⦃⌜True⌝⦄ block self ⦃⇓? n => ⌜Sound n⌝⦄ := by
  mvcgen [block]
  all_goals simp_all

@[spec] theorem condition_spec : ⦃⌜True⌝⦄ condition self ⦃⇓? n => ⌜Sound n⌝⦄ := by
  mvcgen [condition]

@[spec] theorem ifBranch_spec : ⦃⌜True⌝⦄ ifBranch self ⦃⇓? n => ⌜Sound n⌝⦄ := by
  mvcgen [ifBranch]

@[spec] theorem ifStatement_spec : ⦃⌜True⌝⦄ ifStatement self ⦃⇓? n => ⌜Sound n⌝⦄ := by
  mvcgen [ifStatement]
  all_goals simp_all

@[spec] theorem switchClause_spec : ⦃⌜True⌝⦄ switchClause self ⦃⇓? n => ⌜Sound n⌝⦄ := by
  mvcgen [switchClause]
  all_goals simp_all

@[spec] theorem switchStatement_spec : ⦃⌜True⌝⦄ switchStatement self ⦃⇓? n => ⌜Sound n⌝⦄ := by
  mvcgen [switchStatement]
  all_goals simp_all

@[spec] theorem doStatement_spec : ⦃⌜True⌝⦄ doStatement self ⦃⇓? n => ⌜Sound n⌝⦄ := by
  mvcgen [doStatement]
  all_goals simp_all

@[spec] theorem whileStatement_spec : ⦃⌜True⌝⦄ whileStatement self ⦃⇓? n => ⌜Sound n⌝⦄ := by
  mvcgen [whileStatement]
  all_goals simp_all

/-- What a `for` runs over and what it starts with are grammatical, and its loop may have any
children. -/
def ForHead.Fits : ForHead → Prop
  | .over kind left right => (∀ cs, kind.Admits cs) ∧ Sound left ∧ Sound right
  | .from initial => Sound initial

@[simp] theorem fits_over {kind : Kind} {left right : Node} :
    (ForHead.over kind left right).Fits ↔ (∀ cs, kind.Admits cs) ∧ Sound left ∧ Sound right :=
  Iff.rfl

@[simp] theorem fits_from {initial : Option Node} :
    (ForHead.from initial).Fits ↔ Sound initial :=
  Iff.rfl

@[spec] theorem overKeys_spec (left : Node) (hleft : Sound left) :
    ⦃⌜True⌝⦄ overKeys self left ⦃⇓? h => ⌜h.Fits⌝⦄ := by
  mvcgen [overKeys]
  all_goals simp_all

@[spec] theorem overValues_spec (left : Node) (hleft : Sound left) :
    ⦃⌜True⌝⦄ overValues self left ⦃⇓? h => ⌜h.Fits⌝⦄ := by
  mvcgen [overValues]
  all_goals simp_all

@[spec] theorem forVar_spec : ⦃⌜True⌝⦄ forVar self ⦃⇓? h => ⌜h.Fits⌝⦄ := by
  have hdeclarators : ⦃⌜True⌝⦄ withIn false (commaList (varDeclarator self true))
      ⦃⇓? ns => ⌜∀ n ∈ ns, SoundOf (· == .variableDeclarator) n⌝⦄ :=
    within_forall (commaList_forall (varDeclarator_spec true))
  -- `withIn` stays folded, since the declarators are known by it.
  mvcgen [forVar, hdeclarators, -withIn]
  all_goals simp_all

@[spec] theorem forLexical_spec : ⦃⌜True⌝⦄ forLexical self ⦃⇓? h => ⌜h.Fits⌝⦄ := by
  have hdeclarators (kind : VariableKind) :
      ⦃⌜True⌝⦄ withIn false (commaList (lexicalDeclarator self kind true))
        ⦃⇓? ns => ⌜∀ n ∈ ns, SoundOf (· == .variableDeclarator) n⌝⦄ :=
    within_forall (commaList_forall (lexicalDeclarator_spec kind true))
  mvcgen [forLexical, hdeclarators, -withIn]
  all_goals simp_all

@[spec] theorem forExpression_spec : ⦃⌜True⌝⦄ forExpression self ⦃⇓? h => ⌜h.Fits⌝⦄ := by
  mvcgen [forExpression]
  all_goals simp_all

@[spec] theorem forStatement_spec : ⦃⌜True⌝⦄ forStatement self ⦃⇓? n => ⌜Sound n⌝⦄ := by
  mvcgen [forStatement]
  all_goals simp_all

@[spec] theorem jumpLabel_spec : ⦃⌜True⌝⦄ jumpLabel ⦃⇓? n => ⌜Sound n⌝⦄ := by
  mvcgen [jumpLabel]
  all_goals simp_all

@[spec] theorem continueStatement_spec : ⦃⌜True⌝⦄ continueStatement ⦃⇓? n => ⌜Sound n⌝⦄ := by
  mvcgen [continueStatement]
  all_goals simp_all

@[spec] theorem breakStatement_spec : ⦃⌜True⌝⦄ breakStatement ⦃⇓? n => ⌜Sound n⌝⦄ := by
  mvcgen [breakStatement]
  all_goals simp_all

@[spec] theorem returnStatement_spec : ⦃⌜True⌝⦄ returnStatement self ⦃⇓? n => ⌜Sound n⌝⦄ := by
  mvcgen [returnStatement]
  all_goals simp_all

@[spec] theorem throwStatement_spec : ⦃⌜True⌝⦄ throwStatement self ⦃⇓? n => ⌜Sound n⌝⦄ := by
  mvcgen [throwStatement]
  all_goals simp_all

@[spec] theorem catchClause_spec : ⦃⌜True⌝⦄ catchClause self ⦃⇓? n => ⌜Sound n⌝⦄ := by
  mvcgen [catchClause]
  all_goals simp_all

@[spec] theorem tryStatement_spec : ⦃⌜True⌝⦄ tryStatement self ⦃⇓? n => ⌜Sound n⌝⦄ := by
  mvcgen [tryStatement]
  all_goals simp_all

@[spec] theorem withStatement_spec : ⦃⌜True⌝⦄ withStatement self ⦃⇓? n => ⌜Sound n⌝⦄ := by
  mvcgen [withStatement]
  all_goals simp_all

@[spec] theorem debuggerStatement_spec : ⦃⌜True⌝⦄ debuggerStatement ⦃⇓? n => ⌜Sound n⌝⦄ := by
  mvcgen [debuggerStatement]
  all_goals simp_all

@[spec] theorem expressionStatement_spec : ⦃⌜True⌝⦄ expressionStatement self ⦃⇓? n => ⌜Sound n⌝⦄ := by
  mvcgen [expressionStatement]
  all_goals simp_all

@[spec] theorem labeledBody_spec : ⦃⌜True⌝⦄ labeledBody self ⦃⇓? n => ⌜Sound n⌝⦄ := by
  mvcgen [labeledBody]
  all_goals simp_all

@[spec] theorem labeledStatement_spec : ⦃⌜True⌝⦄ labeledStatement self ⦃⇓? n => ⌜Sound n⌝⦄ := by
  mvcgen [labeledStatement]
  all_goals simp_all

@[spec] theorem keywordStatement_spec (word : String) :
    ⦃⌜True⌝⦄ keywordStatement self word ⦃⇓? n => ⌜Sound n⌝⦄ := by
  mvcgen [keywordStatement]

@[spec] theorem statement_spec : ⦃⌜True⌝⦄ statement self ⦃⇓? n => ⌜Sound n⌝⦄ := by
  mvcgen [statement]
  all_goals simp_all

/-! ## Modules -/

@[spec] theorem moduleSpecifier_spec : ⦃⌜True⌝⦄ moduleSpecifier ⦃⇓? n => ⌜Sound n⌝⦄ := by
  mvcgen [moduleSpecifier]
  all_goals simp_all

@[spec] theorem fromClause_spec : ⦃⌜True⌝⦄ fromClause ⦃⇓? n => ⌜Sound n⌝⦄ := by
  mvcgen [fromClause]

@[spec] theorem renamed_spec {name default : Reader Node}
    (hname : ⦃⌜True⌝⦄ name ⦃⇓? n => ⌜Sound n⌝⦄)
    (hdefault : ⦃⌜True⌝⦄ default ⦃⇓? n => ⌜Sound n⌝⦄) :
    ⦃⌜True⌝⦄ renamed name default ⦃⇓? n => ⌜Sound n⌝⦄ := by
  mvcgen [renamed, hname, hdefault]

@[spec] theorem importSpecifier_spec :
    ⦃⌜True⌝⦄ importSpecifier ⦃⇓? n => ⌜SoundOf Kind.isImported n⌝⦄ := by
  mvcgen [importSpecifier]
  all_goals simp_all [SoundOf, Kind.isImported]

@[spec] theorem namedImports_spec :
    ⦃⌜True⌝⦄ namedImports ⦃⇓? ns => ⌜∀ n ∈ ns, SoundOf Kind.isImported n⌝⦄ := by
  have hnames : ⦃⌜True⌝⦄ collect (do
      if ← sees "\x7d" then return none
      else
        let s ← importSpecifier
        if !(← sees "\x7d") then expect ","
        return some s) ⦃⇓? ns => ⌜∀ n ∈ ns, SoundOf Kind.isImported n⌝⦄ := by
    apply collect_forall
    mvcgen
    all_goals simp_all
  mvcgen [namedImports, hnames, -collect_spec]

@[spec] theorem namespaceImport_spec :
    ⦃⌜True⌝⦄ namespaceImport ⦃⇓? n => ⌜SoundOf Kind.isImported n⌝⦄ := by
  mvcgen [namespaceImport]
  all_goals simp_all [SoundOf, Kind.isImported]

@[spec] theorem defaultImport_spec : ⦃⌜True⌝⦄ defaultImport ⦃⇓? n => ⌜SoundOf Kind.isImported n⌝⦄ := by
  mvcgen [defaultImport]
  all_goals simp_all [SoundOf, Kind.isImported]

@[spec] theorem importSpecifiers_spec :
    ⦃⌜True⌝⦄ importSpecifiers ⦃⇓? ns => ⌜∀ n ∈ ns, SoundOf Kind.isImported n⌝⦄ := by
  mvcgen [importSpecifiers]
  all_goals simp_all

@[spec] theorem importDeclaration_spec : ⦃⌜True⌝⦄ importDeclaration ⦃⇓? n => ⌜Sound n⌝⦄ := by
  mvcgen [importDeclaration]
  all_goals simp_all [each, sound_list, SoundOf, or_imp, forall_and]

@[spec] theorem exportSpecifier_spec : ⦃⌜True⌝⦄ exportSpecifier ⦃⇓? n => ⌜Sound n⌝⦄ := by
  mvcgen [exportSpecifier]
  all_goals simp_all

@[spec] theorem namedExports_spec : ⦃⌜True⌝⦄ namedExports ⦃⇓? n => ⌜Sound n⌝⦄ := by
  mvcgen [namedExports]
  all_goals simp_all

@[spec] theorem exportSpecifiers_spec : ⦃⌜True⌝⦄ exportSpecifiers ⦃⇓? n => ⌜Sound n⌝⦄ := by
  mvcgen [exportSpecifiers]
  all_goals simp_all

@[spec] theorem defaultExport_spec : ⦃⌜True⌝⦄ defaultExport self ⦃⇓? n => ⌜Sound n⌝⦄ := by
  mvcgen [defaultExport]

@[spec] theorem exportDeclaration_spec : ⦃⌜True⌝⦄ exportDeclaration self ⦃⇓? n => ⌜Sound n⌝⦄ := by
  mvcgen [exportDeclaration]
  all_goals simp_all

@[spec] theorem item_spec : ⦃⌜True⌝⦄ item self ⦃⇓? n => ⌜Sound n⌝⦄ := by
  mvcgen [item]

/-! ## Programs -/

/-- The induction is on the number of steps that may be nested. -/
instance soundRule_readGoal (fuel : ℕ) : SoundRule (readGoal fuel) := by
  induction fuel with
  | zero =>
    -- Nothing is read without a step; `goal_spec` would ask for what is shown here.
    refine ⟨fun goal => ?_⟩
    mvcgen [readGoal, -goal_spec]
  | succ fuel ih =>
    refine ⟨fun goal => ?_⟩
    cases goal with
    | assignment => exact assignment_spec
    | unary => exact unary_spec
    | exponentiation => exact exponentiation_spec
    | call => exact call_spec
    | callee => exact callee_spec
    | pattern kind => exact pattern_spec kind
    | statement => exact statement_spec
    | item => exact item_spec

@[spec] theorem program_spec : ⦃⌜True⌝⦄ program self ⦃⇓? n => ⌜Sound n⌝⦄ := by
  mvcgen [program]
  all_goals simp_all

end Grammar

open Grammar

theorem grammatical_of_parseAs {isModule : Bool} {source : String} {n : Node}
    (h : parseAs isModule source = .ok n) : n.Grammatical := by
  obtain ⟨state, -, h⟩ := Failing.bind_eq_ok.1 h
  split at h
  · cases h
    exact sound_node.1 (of_run_eq_ok program_spec ‹_›)
  · cases h

/-- Whatever is parsed is grammatical. -/
theorem grammatical_of_parse {source : String} {n : Node} (h : parse source = .ok n) :
    n.Grammatical := by
  unfold parse at h
  split at h
  · cases h
    exact grammatical_of_parseAs ‹_›
  · split at h
    · cases h
      exact grammatical_of_parseAs ‹_›
    · cases h

end HtmlModules.Script
