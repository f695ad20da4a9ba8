import HtmlModules.Proofs.Inert
import HtmlModules.Proofs.Listing
import HtmlModules.Script.Program

/-!
# Declarations and imports in a tree

What a declaration of variables declares are declarators, and what an import brings in are its names
(`Script.Kind.Admits`). A tree is grammatical if that holds everywhere in it. It stays so in another role
(`Script.Node.grammatical_withRole`), below a node that admits it (`Script.Node.grammatical_ofChildren`),
and where an expression turns out to be a pattern (`Script.Node.Grammatical.toPattern`).
-/

namespace HtmlModules.Script

/-- The kinds of the names that an import brings in. -/
def Kind.isImported : Kind → Bool
  | .importSpecifier | .importDefaultSpecifier | .importNamespaceSpecifier => true
  | _ => false

/-- A node of this kind may have these children. -/
def Kind.Admits (k : Kind) (cs : List Node) : Prop :=
  match k with
  | .variableDeclaration _ => ∀ c ∈ cs, c.role = .declaration → c.kind = .variableDeclarator
  | .importDeclaration => ∀ c ∈ cs, c.role = .specifier → c.kind.isImported = true
  | _ => True

@[simp] theorem Kind.admits_variableDeclaration {v : VariableKind} {cs : List Node} :
    (variableDeclaration v).Admits cs ↔
      ∀ c ∈ cs, c.role = .declaration → c.kind = .variableDeclarator :=
  Iff.rfl

@[simp] theorem Kind.admits_importDeclaration {cs : List Node} :
    importDeclaration.Admits cs ↔ ∀ c ∈ cs, c.role = .specifier → c.kind.isImported = true :=
  Iff.rfl

/-- All other nodes may have any children. -/
@[simp] theorem Kind.admits_of_ne {k : Kind} {cs : List Node} (hv : ∀ v, k ≠ .variableDeclaration v)
    (hi : k ≠ .importDeclaration) : k.Admits cs := by
  unfold Kind.Admits
  split
  · exact absurd rfl (hv _)
  · exact absurd rfl hi
  · trivial

instance (k : Kind) (cs : List Node) : Decidable (k.Admits cs) := by
  unfold Kind.Admits
  split <;> infer_instance

namespace Node

variable {r : Role} {k : Kind} {s : Span} {cs : List Node} {n : Node}

@[simp] theorem kind_withRole : (n.withRole r).kind = n.kind := by
  cases n
  rfl

@[simp] theorem role_withRole : (n.withRole r).role = r := by
  cases n
  rfl

/-- All nodes of the tree have children that they may have. -/
def Grammatical (n : Node) : Prop := ∀ m ∈ n.walk, m.kind.Admits m.children

instance : DecidablePred Grammatical := fun n =>
  inferInstanceAs (Decidable (∀ m ∈ n.walk, m.kind.Admits m.children))

theorem walk_mk : (mk r k s cs).walk = mk r k s cs :: cs.flatMap walk := by
  have hbelow (c : Node) (parent : Option Node) :
      (c.outline (fun _ => true) parent).map Prod.snd = c.walk := by
    cases c
    rfl
  rw [walk, family, outline, if_pos rfl, outlineAll_eq_flatMap, List.map_cons, List.map_flatMap]
  simp only [hbelow]

theorem grammatical_mk : (mk r k s cs).Grammatical ↔ k.Admits cs ∧ ∀ c ∈ cs, c.Grammatical := by
  simp only [Grammatical, walk_mk, List.forall_mem_cons, List.mem_flatMap]
  exact and_congr_right fun _ =>
    ⟨fun h c hc m hm => h m ⟨c, hc, hm⟩, fun h m ⟨c, hc, hm⟩ => h c hc m hm⟩

/-- The children of a grammatical node are grammatical. -/
theorem Grammatical.children (h : n.Grammatical) : ∀ c ∈ n.children, c.Grammatical := by
  cases n
  exact (grammatical_mk.1 h).2

@[simp] theorem grammatical_withRole : (n.withRole r).Grammatical ↔ n.Grammatical := by
  cases n
  rw [withRole, grammatical_mk, grammatical_mk]

/-- The order of the children does not matter. -/
theorem grammatical_ofChildren :
    (ofChildren k s cs).Grammatical ↔ k.Admits cs ∧ ∀ c ∈ cs, c.Grammatical := by
  have hmem {c : Node} : c ∈ sortBy (fun a b => a.start ≤ b.start) cs ↔ c ∈ cs :=
    (sortBy_perm _ cs).mem_iff
  rw [ofChildren, grammatical_mk]
  unfold Kind.Admits
  split <;> simp only [hmem]

mutual

/-- The pattern that an expression spells has the nodes of the expression, but no declarations are made. -/
theorem Grammatical.toPattern : ∀ {n : Node}, n.Grammatical → (Grammar.toPattern n).Grammatical
  | mk r k s cs, h => by
    have hbelow (role : Role) : ∀ c ∈ Grammar.toPatternsIn role cs, c.Grammatical :=
      Grammatical.toPatternsIn (grammatical_mk.1 h).2
    unfold Grammar.toPattern
    split
    · exact grammatical_mk.2 ⟨trivial, hbelow .argument⟩
    · exact grammatical_mk.2 ⟨trivial, hbelow .element⟩
    · exact grammatical_mk.2 ⟨trivial, hbelow .property⟩
    · exact grammatical_mk.2 ⟨trivial, hbelow .value⟩
    · exact grammatical_mk.2 ⟨trivial, hbelow .left⟩
    · exact h

/-- Grammatical children stay grammatical when those in a role are read as patterns. -/
theorem Grammatical.toPatternsIn {role : Role} :
    ∀ {ns : List Node}, (∀ n ∈ ns, n.Grammatical) →
      ∀ n ∈ Grammar.toPatternsIn role ns, n.Grammatical
  | [], _ => by simp [Grammar.toPatternsIn]
  | n :: ns, h => by
    obtain ⟨hn, hns⟩ := List.forall_mem_cons.1 h
    rw [Grammar.toPatternsIn]
    refine List.forall_mem_cons.2 ⟨?_, Grammatical.toPatternsIn hns⟩
    split_ifs
    · exact hn.toPattern
    · exact hn

end

/-- A default that is a plain `yield` turns out to be a name. -/
theorem Grammatical.plainDefault (h : n.Grammatical) : (Grammar.plainDefault n).Grammatical := by
  unfold Grammar.plainDefault
  split
  · refine grammatical_mk.2 ⟨trivial, List.forall_mem_map.2 fun c hc => ?_⟩
    unfold Grammar.plainYield
    split
    · exact grammatical_mk.2 ⟨trivial, by simp⟩
    · exact (grammatical_mk.1 h).2 c hc
  · exact h

end Node

end HtmlModules.Script
