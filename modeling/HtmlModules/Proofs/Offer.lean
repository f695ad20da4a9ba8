import HtmlModules.Pass.Export
import Mathlib.Data.List.Nodup

/-!
# What a program exports, names apart

Whether a statement is converted depends on the paths that were exported before it, not on the
names that were chosen for them. `offers` goes through the statements of a program with the paths
alone.

A value is only offered if its path is new (`pairwise_newValue_offers`). The members of an object
that is taken apart are offered in any case.
-/

namespace HtmlModules.Pass

open Text Script

/-! ## Offers -/

/-- How a path comes to be exported. -/
inductive OfferKind where
  /-- A statement assigns to it. -/
  | value
  /-- It is a member of an object that is taken apart. -/
  | member
  /-- It is a namespace, and the module as a whole stands for it. -/
  | whole
deriving DecidableEq, Repr

/-- A path that a program exports. -/
structure Offer where
  path : String
  kind : OfferKind
deriving DecidableEq, Repr

/-- The path stands for one export and not for the module as a whole. -/
def Offer.IsSingle (o : Offer) : Prop := o.kind ≠ .whole

/-- The members of the candidate if it is a namespace that is taken apart. -/
def takenMembers? (i : ExportInput) (c : Candidate) (leading : String) : Option (List Member) :=
  if declarationKind i c leading == .namespace && c.value.kind == .objectExpression then
    members? i.source (c.value.start + 1) (c.value.childrenIn .property)
  else none

/-- What the candidate offers if it is converted. -/
def candidateOffers (i : ExportInput) (c : Candidate) (leading : String) : List Offer :=
  let space := join "." c.path
  match takenMembers? i c leading with
  | some members => members.map (fun m => ⟨space ++ "." ++ m.key, .member⟩) ++ [⟨space, .whole⟩]
  | none => [⟨space, .value⟩]

/-- The candidate stays as it is, given what was offered before. -/
def staysUnoffered (i : ExportInput) (c : Candidate) (offers : List Offer) : Bool :=
  let path := join "." c.path
  offers.any (·.path == path) || (pathPrefixes c.path).any i.settings.isRedirected ||
    ((i.registry.lookup path).map fun r => r.module != i.moduleUrl).getD false ||
    ((pathPrefixes c.path).drop 1).dropLast.any fun p => offers.contains ⟨p, .value⟩

/-- The offers after one more statement. -/
def offerStatement (i : ExportInput) (leading : String) (s : Node) (offers : List Offer) :
    List Offer :=
  if (initializedPath? i.settings.roots s).isSome then offers
  else match candidate? i.settings.roots s with
    | none => offers
    | some c =>
      if declarationKind i c leading == .ignore || staysUnoffered i c offers then offers
      else offers ++ candidateOffers i c leading

/-- The offers after more statements, `position` being the end of the one before. -/
def offerStatements (i : ExportInput) : Nat → List Node → List Offer → List Offer
  | _, [], offers => offers
  | position, s :: rest, offers =>
    offerStatements i s.stop rest (offerStatement i (slice i.source position s.start) s offers)

/-- The namespaces that statements make sure of. -/
def initializedSpaces (roots : List String) (statements : List Node) : List String :=
  statements.filterMap fun s =>
    ((initializedPath? roots s).filter (1 < ·.length)).map (join ".")

/-- The offers with the namespaces of which something is offered. -/
def offerNamespaces (spaces : List String) (offers : List Offer) : List Offer :=
  spaces.foldl (fun offers space =>
    if offers.any fun o => startsWith o.path (space ++ ".") then offers ++ [⟨space, .whole⟩]
    else offers) offers

/-- What the conversion of the statements of a program reads. -/
def exportInput (c : Context) (source : String) (program : Node) : ExportInput where
  source := source
  settings := c.settings
  registry := c.registry
  moduleUrl := c.moduleUrl
  declared := Node.scopeNames (statements program)
  writes := writtenPaths program

/-- What a program offers. -/
def offers (c : Context) (source : String) (program : Node) : List Offer :=
  offerNamespaces (initializedSpaces c.settings.roots (statements program))
    (offerStatements (exportInput c source program) 0 (statements program) [])

/-! ## Values are new -/

/-- If the second offer is a value, the first one is of another path. -/
def NewValue (o p : Offer) : Prop := p.kind = .value → o.path ≠ p.path

/-- Offers that are no values do not take a path from one that is. -/
theorem pairwise_newValue_append {os news : List Offer} (hos : os.Pairwise NewValue)
    (hnews : ∀ p ∈ news, p.kind ≠ .value) : (os ++ news).Pairwise NewValue := by
  refine List.pairwise_append.2 ⟨hos, ?_, fun o _ p hp hv => absurd hv (hnews p hp)⟩
  exact List.pairwise_of_forall_mem_list fun o _ p hp hv => absurd hv (hnews p hp)

/-- The offers of a candidate take no path that was offered. -/
theorem pairwise_newValue_candidate {i : ExportInput} {c : Candidate} {leading : String}
    {os : List Offer} (hos : os.Pairwise NewValue) (hstays : staysUnoffered i c os = false) :
    (os ++ candidateOffers i c leading).Pairwise NewValue := by
  unfold candidateOffers
  dsimp only
  split
  · refine pairwise_newValue_append hos fun p hp => ?_
    rcases List.mem_append.1 hp with hp | hp
    · obtain ⟨m, -, rfl⟩ := List.mem_map.1 hp
      exact OfferKind.noConfusion
    · rw [List.mem_singleton.1 hp]
      exact OfferKind.noConfusion
  · refine List.pairwise_append.2 ⟨hos, List.pairwise_singleton _ _, ?_⟩
    intro o ho p hp _
    rw [List.mem_singleton.1 hp]
    intro he
    simp only [staysUnoffered, Bool.or_eq_false_iff, List.any_eq_false, beq_iff_eq] at hstays
    exact hstays.1.1.1 o ho he

/-- The offers of a statement take no path that was offered. -/
theorem pairwise_newValue_statement {i : ExportInput} (leading : String) (s : Node)
    {os : List Offer} (hos : os.Pairwise NewValue) :
    (offerStatement i leading s os).Pairwise NewValue := by
  unfold offerStatement
  split_ifs
  · exact hos
  · split
    · exact hos
    · split_ifs with hstays
      · exact hos
      · rw [Bool.not_eq_true, Bool.or_eq_false_iff] at hstays
        exact pairwise_newValue_candidate hos hstays.2

/-- No statement offers the path of an earlier value again. -/
theorem pairwise_newValue_statements {i : ExportInput} :
    ∀ (ss : List Node) (position : Nat) {os : List Offer}, os.Pairwise NewValue →
      (offerStatements i position ss os).Pairwise NewValue
  | [], _, _, hos => hos
  | s :: rest, _, _, hos =>
    pairwise_newValue_statements rest s.stop (pairwise_newValue_statement _ s hos)

theorem pairwise_newValue_namespaces :
    ∀ (spaces : List String) {os : List Offer}, os.Pairwise NewValue →
      (offerNamespaces spaces os).Pairwise NewValue
  | [], _, hos => hos
  | space :: more, os, hos => by
    rw [offerNamespaces, List.foldl_cons, ← offerNamespaces]
    split_ifs
    · exact pairwise_newValue_namespaces more (pairwise_newValue_append hos (by simp))
    · exact pairwise_newValue_namespaces more hos

/-- A value is only offered if its path is new. -/
theorem pairwise_newValue_offers (c : Context) (source : String) (program : Node) :
    (offers c source program).Pairwise NewValue :=
  pairwise_newValue_namespaces _ (pairwise_newValue_statements _ _ .nil)

end HtmlModules.Pass
