import Mathlib
import HtmlModules.Proofs.Grammatical

/-!
# What readers yield

The trees in a value that a reader yields are grammatical (`Script.Grammar.Sound`). A reader that refuses
yields nothing, and one that only moves or looks ahead yields no trees. Repetition and a change of the
context keep what a step yields (`Script.Grammar.collect_spec`, `Script.Grammar.extend_spec`,
`Script.Grammar.within_spec`), and a node is sound if it admits its children, which are sound
(`Script.Grammar.finish_spec`).
-/

set_option mvcgen.warning false

namespace HtmlModules.Script.Grammar

open Std.Do Node

/-! ## Sound values -/

/-- The trees in a value; there are none but for the types below. -/
class HasTrees (α : Type) where
  trees : α → List Node

export HasTrees (trees)

instance (priority := low) noTrees {α : Type} : HasTrees α := ⟨fun _ => []⟩

instance : HasTrees Node := ⟨fun n => [n]⟩

instance {α : Type} [HasTrees α] : HasTrees (List α) := ⟨fun l => l.flatMap trees⟩

instance {α : Type} [HasTrees α] : HasTrees (Option α) := ⟨fun o => trees o.toList⟩

instance {α β : Type} [HasTrees α] [HasTrees β] : HasTrees (α × β) :=
  ⟨fun p => trees p.1 ++ trees p.2⟩

instance : HasTrees Parameters := ⟨fun p => p.params⟩

instance : HasTrees ElementHead := ⟨fun h => h.key.toList⟩

instance : HasTrees Operand := ⟨fun o => [o.node]⟩

section Values

variable {α β : Type} [HasTrees α] [HasTrees β]

/-- All trees in the value are grammatical. -/
def Sound (a : α) : Prop := ∀ n ∈ trees a, n.Grammatical

theorem sound_node {n : Node} : Sound n ↔ n.Grammatical := List.forall_mem_singleton

theorem sound_list {l : List α} : Sound l ↔ ∀ a ∈ l, Sound a := by
  simp only [Sound, trees, List.mem_flatMap]
  exact ⟨fun h a ha n hn => h n ⟨a, ha, hn⟩, fun h n ⟨a, ha, hn⟩ => h a ha n hn⟩

theorem sound_nodes {ns : List Node} : Sound ns ↔ ∀ n ∈ ns, n.Grammatical := by
  simp only [sound_list, sound_node]

theorem sound_option {o : Option α} : Sound o ↔ ∀ a ∈ o, Sound a := by
  rw [show Sound o ↔ Sound o.toList from Iff.rfl, sound_list]
  simp only [Option.mem_toList, Option.mem_def]

@[simp] theorem sound_nil : Sound ([] : List α) := sound_list.2 nofun

@[simp] theorem sound_cons {a : α} {l : List α} : Sound (a :: l) ↔ Sound a ∧ Sound l := by
  simp only [sound_list, List.forall_mem_cons]

@[simp] theorem sound_append {l m : List α} : Sound (l ++ m) ↔ Sound l ∧ Sound m := by
  simp only [sound_list, List.forall_mem_append]

@[simp] theorem sound_flatten {l : List (List α)} : Sound l.flatten ↔ Sound l := by
  simp only [sound_list, List.mem_flatten]
  exact ⟨fun h m hm a ha => h a ⟨m, hm, ha⟩, fun h a ⟨m, hm, ha⟩ => h m hm a ha⟩

@[simp] theorem sound_none : Sound (none : Option α) := sound_option.2 nofun

@[simp] theorem sound_some {a : α} : Sound (some a) ↔ Sound a := by
  simp only [sound_option, Option.mem_some_iff, forall_eq']

@[simp] theorem sound_prod {p : α × β} : Sound p ↔ Sound p.1 ∧ Sound p.2 := List.forall_mem_append

@[simp] theorem sound_noTrees {α : Type} {a : α} : @Sound α noTrees a := nofun

@[simp] theorem sound_absent {a : Option Token} : Sound a := by cases a <;> simp

end Values

/-! ## Sound parts of nodes -/

section Parts

variable {n body : Node} {ns ps : List Node} {r : Role} {id : Option Node}

@[simp] theorem sound_withRole : Sound (n.withRole r) ↔ Sound n := by
  rw [sound_node, sound_node, grammatical_withRole]

@[simp] theorem sound_each : Sound (each r ns) ↔ Sound ns := by
  simp only [each, sound_list, List.forall_mem_map, sound_withRole]

@[simp] theorem sound_maybe : Sound (maybe r id) ↔ Sound id := by
  cases id <;> simp [maybe]

@[simp] theorem sound_functionParts :
    Sound (functionParts id ps body) ↔ Sound id ∧ Sound ps ∧ Sound body := by
  simp only [functionParts, sound_append, sound_cons, sound_maybe, sound_each, sound_withRole,
    sound_nil, and_true, and_assoc]

@[simp] theorem Sound.children (h : Sound n) : Sound n.children :=
  sound_nodes.2 (sound_node.1 h).children

@[simp] theorem Sound.toPattern (h : Sound n) : Sound (toPattern n) :=
  sound_node.2 (sound_node.1 h).toPattern

@[simp] theorem Sound.map_toPattern (h : Sound ns) : Sound (ns.map Grammar.toPattern) :=
  sound_list.2 (List.forall_mem_map.2 fun n hn => (sound_list.1 h n hn).toPattern)

@[simp] theorem Sound.plainDefault (h : Sound n) : Sound (plainDefault n) :=
  sound_node.2 (sound_node.1 h).plainDefault

/-- A node that is made is sound if its kind admits the children and they are sound. -/
theorem sound_ofChildren {k : Kind} {s : Span} :
    Sound (Node.ofChildren k s ns) ↔ k.Admits ns ∧ Sound ns := by
  rw [sound_node, sound_nodes, grammatical_ofChildren]

@[simp] theorem sound_arrowParameters {isAsync : Bool} :
    Sound (arrowParameters ps isAsync) ↔ Sound ps := by
  rw [arrowParameters, sound_ofChildren, sound_each]
  exact and_iff_right trivial

@[simp] theorem admits_literalOf {t : Token} : (literalOf t).Admits ns := trivial

@[simp] theorem admits_binaryKind {operator : String} : (binaryKind operator).Admits ns := by
  unfold binaryKind
  split_ifs <;> trivial

@[simp] theorem sound_parameters {p : Parameters} : Sound p ↔ Sound p.params := sound_nodes.symm

@[simp] theorem sound_elementHead {h : ElementHead} : Sound h ↔ Sound h.key := by
  rw [show Sound h ↔ ∀ n ∈ h.key.toList, n.Grammatical from Iff.rfl, ← sound_nodes]
  rfl

@[simp] theorem sound_operand {o : Operand} : Sound o ↔ Sound o.node := Iff.rfl

/-- Taking note of a name leaves the parameters as they are. -/
@[simp] theorem params_note (strict : Bool) (p : Parameters) (t : Option Token) (name : String) :
    (p.note strict t name).params = p.params := by
  unfold Parameters.note
  dsimp only
  split_ifs <;> rfl

@[simp] theorem params_foldl_note {β : Type} {strict : Bool} {token : β → Option Token}
    {name : β → String} :
    ∀ {l : List β} {p : Parameters},
      (l.foldl (fun p b => p.note strict (token b) (name b)) p).params = p.params
  | [], _ => rfl
  | _ :: l, _ => by rw [List.foldl_cons, params_foldl_note, params_note]

end Parts

/-! ## Readers that yield no trees -/

section Readers

variable {α : Type}

/-- What a reader yields may be left open. -/
theorem anything (p : Reader α) : ⦃⌜True⌝⦄ p ⦃⇓? _ => ⌜True⌝⦄ := by
  intro s _
  simp only [wp, PredTrans.apply]
  split <;> trivial

/-- What holds of all that a reader may yield holds of what it yields in a run. -/
theorem of_run_eq_ok {P : α → Prop} {p : Reader α} (h : ⦃⌜True⌝⦄ p ⦃⇓? a => ⌜P a⌝⦄)
    {s t : ReadState} {a : α} (hp : p s = .ok a t) : P a := by
  have hrun := h s trivial
  simp only [wp, PredTrans.apply] at hrun
  rw [show EStateM.run p s = _ from hp] at hrun
  exact hrun

/-! What these yield holds no trees, so it is left open. -/

@[spec] theorem bool_spec (p : Reader Bool) : ⦃⌜True⌝⦄ p ⦃⇓? _ => ⌜True⌝⦄ := anything p

@[spec] theorem unit_spec (p : Reader Unit) : ⦃⌜True⌝⦄ p ⦃⇓? _ => ⌜True⌝⦄ := anything p

@[spec] theorem nat_spec (p : Reader ℕ) : ⦃⌜True⌝⦄ p ⦃⇓? _ => ⌜True⌝⦄ := anything p

@[spec] theorem token_spec (p : Reader Token) : ⦃⌜True⌝⦄ p ⦃⇓? _ => ⌜True⌝⦄ := anything p

@[spec] theorem scanned_spec (r : Except SyntaxError α) :
    ⦃⌜True⌝⦄ (scanned r : Reader α) ⦃⇓? _ => ⌜True⌝⦄ :=
  anything _

@[spec] theorem noteDirective_spec (earlier : Option Token) (t : Token) :
    ⦃⌜True⌝⦄ noteDirective earlier t ⦃⇓? _ => ⌜True⌝⦄ :=
  anything _

@[spec] theorem functionName_spec (t : Token) : ⦃⌜True⌝⦄ functionName t ⦃⇓? _ => ⌜True⌝⦄ :=
  anything _

@[spec] theorem functionMarks_spec : ⦃⌜True⌝⦄ functionMarks ⦃⇓? _ => ⌜True⌝⦄ := anything _

/-! These yield nothing. -/

@[spec] theorem refuse_spec (f : Fault) : ⦃⌜True⌝⦄ (refuse f : Reader α) ⦃⇓? _ => ⌜False⌝⦄ := by
  mvcgen [refuse]

@[spec] theorem refuseAt_spec (t : Token) (f : Fault) :
    ⦃⌜True⌝⦄ (refuseAt t f : Reader α) ⦃⇓? _ => ⌜False⌝⦄ := by
  mvcgen [refuseAt]

@[spec] theorem unexpected_spec (t : Token) :
    ⦃⌜True⌝⦄ (unexpected t : Reader α) ⦃⇓? _ => ⌜False⌝⦄ := by
  mvcgen [unexpected]

@[spec] theorem unexpectedNext_spec : ⦃⌜True⌝⦄ (unexpectedNext : Reader α) ⦃⇓? _ => ⌜False⌝⦄ := by
  mvcgen [unexpectedNext]

end Readers

/-! ## Repetition -/

section Repetition

variable {α : Type} {P : α → Prop}

/-- What holds of all that a step yields holds of all in the list. The induction is on the number of
steps. -/
theorem collectWith_forall {step : Reader (Option α)}
    (h : ⦃⌜True⌝⦄ step ⦃⇓? o => ⌜∀ a ∈ o, P a⌝⦄) (fuel : ℕ) :
    ⦃⌜True⌝⦄ collectWith step fuel ⦃⇓? l => ⌜∀ a ∈ l, P a⌝⦄ := by
  induction fuel with
  | zero => mvcgen [collectWith]
  | succ fuel ih =>
    mvcgen [collectWith, h, ih]
    all_goals simp_all

/-- What a step yields holds of everything that is collected from it. -/
theorem collect_forall {step : Reader (Option α)}
    (h : ⦃⌜True⌝⦄ step ⦃⇓? o => ⌜∀ a ∈ o, P a⌝⦄) :
    ⦃⌜True⌝⦄ collect step ⦃⇓? l => ⌜∀ a ∈ l, P a⌝⦄ := by
  have hwith := collectWith_forall h
  mvcgen [collect, hwith]

/-- What holds of a value and is kept by a step holds in the end. -/
theorem extendWith_forall {step : α → Reader (Option α)}
    (h : ∀ a, P a → ⦃⌜True⌝⦄ step a ⦃⇓? o => ⌜∀ b ∈ o, P b⌝⦄) (fuel : ℕ) :
    ∀ a, P a → ⦃⌜True⌝⦄ extendWith step fuel a ⦃⇓? b => ⌜P b⌝⦄ := by
  induction fuel with
  | zero =>
    intro a _
    mvcgen [extendWith]
  | succ fuel ih =>
    intro a ha
    have hstep := h a ha
    mvcgen [extendWith, hstep, ih]
    all_goals simp_all

variable [HasTrees α]

@[spec] theorem collect_spec {step : Reader (Option α)}
    (h : ⦃⌜True⌝⦄ step ⦃⇓? o => ⌜Sound o⌝⦄) : ⦃⌜True⌝⦄ collect step ⦃⇓? l => ⌜Sound l⌝⦄ := by
  simp only [sound_option, sound_list] at h ⊢
  exact collect_forall h

/-- What a step preserves holds of what is extended by it. -/
@[spec] theorem extend_spec {step : α → Reader (Option α)}
    (h : ∀ a, Sound a → ⦃⌜True⌝⦄ step a ⦃⇓? o => ⌜Sound o⌝⦄) (a : α) (ha : Sound a) :
    ⦃⌜True⌝⦄ extend step a ⦃⇓? b => ⌜Sound b⌝⦄ := by
  simp only [sound_option] at h
  have hwith := fun fuel => extendWith_forall h fuel a ha
  mvcgen [extend, hwith]

end Repetition

/-! ## Context -/

section Context

variable {α : Type} {p : Reader α}

/-- What holds of all that a reader may yield holds of it in a changed context. -/
theorem within_forall {P : α → Prop} {enter : Context → Context} {leave : Context → Context → Context}
    (h : ⦃⌜True⌝⦄ p ⦃⇓? a => ⌜P a⌝⦄) : ⦃⌜True⌝⦄ within enter leave p ⦃⇓? a => ⌜P a⌝⦄ := by
  mvcgen [within, h]

variable [HasTrees α]

/-- A change of context changes nothing about what is yielded. -/
@[spec] theorem within_spec {enter : Context → Context} {leave : Context → Context → Context}
    (h : ⦃⌜True⌝⦄ p ⦃⇓? a => ⌜Sound a⌝⦄) : ⦃⌜True⌝⦄ within enter leave p ⦃⇓? a => ⌜Sound a⌝⦄ :=
  within_forall h

@[spec] theorem binding_spec (h : ⦃⌜True⌝⦄ p ⦃⇓? a => ⌜Sound a⌝⦄) :
    ⦃⌜True⌝⦄ binding p ⦃⇓? a => ⌜Sound a.1⌝⦄ := by
  mvcgen [binding, h]

-- These are `within` with a change of their own.
attribute [spec] isolated inherited withIn withYield withAwait withIteration withStrictness

end Context

/-! ## Nodes -/

/-- A node over sound children, which its kind admits, is sound. -/
@[spec] theorem finish_spec {start : ℕ} {k : Kind} {cs : List Node} (hk : k.Admits cs)
    (h : Sound cs) : ⦃⌜True⌝⦄ finish start k cs ⦃⇓? n => ⌜Sound n ∧ n.kind = k⌝⦄ := by
  mvcgen [finish]
  exact ⟨sound_ofChildren.2 ⟨hk, h⟩, rfl⟩

@[spec] theorem identifierName_spec : ⦃⌜True⌝⦄ identifierName ⦃⇓? n => ⌜Sound n⌝⦄ := by
  mvcgen [identifierName]
  all_goals simp_all

@[spec] theorem variableName_spec (k : Option VariableKind) :
    ⦃⌜True⌝⦄ variableName k ⦃⇓? n => ⌜Sound n⌝⦄ := by
  mvcgen [variableName]
  all_goals simp_all

end HtmlModules.Script.Grammar
