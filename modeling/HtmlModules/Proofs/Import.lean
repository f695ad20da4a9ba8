import HtmlModules.Import
import HtmlModules.Proofs.Naming
import HtmlModules.Proofs.Table

/-!
# The imports of one module

The references to one module are bound one after the other while the names in use grow.
`ModuleImport.Serves` is what holds after each of them: every reference so far has one local name,
what its record names is brought in under this name, no name is brought in twice, and none was in
use before. `serves_ofReferences` is the whole list of references. The declarations of the module
as lines of the program are `lines`; each reference is provided by one of them (`exists_line`).
-/

namespace HtmlModules

open Text

/-! ## Declarations -/

/-- What an import declaration brings in. -/
inductive ImportedNames where
  /-- The module as a whole. -/
  | whole (name : String)
  /-- Exports, with their local names. -/
  | single (names : Table String)
  /-- Nothing; the module only runs. -/
  | nothing

/-- An import declaration. -/
structure ImportDeclaration where
  /-- The url of the module. -/
  module : String
  /-- How the program names the module. -/
  specifier : String
  names : ImportedNames

namespace ImportDeclaration

/-- The exports that are brought in, with their local names. -/
def bindings (l : ImportDeclaration) : Table String :=
  match l.names with
  | .whole name => [(ExportRecord.wholeModule, name)]
  | .single names => names
  | .nothing => []

/-- The declaration brings in what the record names under a local name. -/
def Provides (l : ImportDeclaration) (r : ExportRecord) (name : String) : Prop :=
  if r.isNamespace then l.names = .whole name
  else ∃ names, l.names = .single names ∧ (r.name, name) ∈ names

/-- The declaration as a line of the program. -/
def text (l : ImportDeclaration) : String :=
  let source := ModuleImport.quoteSpecifier l.specifier
  match l.names with
  | .whole name => s!"import * as {name} from {source};"
  | .single names =>
    "import \x7b " ++ join ", " (names.map ModuleImport.nameText) ++ " \x7d from " ++ source ++ ";"
  | .nothing => s!"import {source};"

end ImportDeclaration

namespace ModuleImport

/-- The exports that are brought in, with their local names. -/
def bindings (m : ModuleImport) : Table String :=
  m.wholeName.toList.map (ExportRecord.wholeModule, ·) ++ m.names

/-- The declarations for one module. -/
def lines (m : ModuleImport) (module specifier : String) : List ImportDeclaration :=
  let whole := m.wholeName.toList.map fun name => ⟨module, specifier, .whole name⟩
  if !m.names.isEmpty then whole ++ [⟨module, specifier, .single m.names⟩]
  else if m.wholeName.isSome then whole
  else [⟨module, specifier, .nothing⟩]

/-- The declarations of an import are the texts of its lines. -/
theorem declarations_eq (m : ModuleImport) (module specifier : String) :
    m.declarations specifier = (m.lines module specifier).map (·.text) := by
  unfold declarations lines
  split_ifs <;> simp [ImportDeclaration.text, Function.comp_def]

theorem lines_ne_nil (m : ModuleImport) (module specifier : String) :
    m.lines module specifier ≠ [] := by
  unfold lines
  split_ifs with h₁ h₂
  · simp
  · obtain ⟨name, hname⟩ := Option.isSome_iff_exists.1 h₂
    simp [hname]
  · simp

theorem of_mem_lines {m : ModuleImport} {module specifier : String} {l : ImportDeclaration}
    (h : l ∈ m.lines module specifier) : l.module = module ∧ l.specifier = specifier := by
  have hl : (∃ name, l = ⟨module, specifier, .whole name⟩) ∨
      l = ⟨module, specifier, .single m.names⟩ ∨ l = ⟨module, specifier, .nothing⟩ := by
    unfold lines at h
    split_ifs at h <;> simp at h <;> grind
  rcases hl with ⟨name, rfl⟩ | rfl | rfl <;> exact ⟨rfl, rfl⟩

/-- The lines of an import bind what it binds, in order. -/
theorem flatMap_lines (m : ModuleImport) (module specifier : String) :
    (m.lines module specifier).flatMap (·.bindings) = m.bindings := by
  unfold lines bindings
  split_ifs with h₁ h₂
  · cases m.wholeName <;> simp [ImportDeclaration.bindings]
  · cases m.wholeName <;> simp_all [ImportDeclaration.bindings]
  · cases h : m.wholeName <;> simp_all [ImportDeclaration.bindings]

/-! ## The references to one module -/

/-- What holds of the imports of one module once `references` are bound, `base` being the names in
use before: each reference has one local name, under which what its record names is brought in; no
export and no local name occurs twice, and every local name is new. -/
structure Serves (base : List String) (references : Table ExportRecord) (m : ModuleImport) :
    Prop where
  assigned : Table.keys m.assigned = Table.keys references
  bound : ∀ p r, (p, r) ∈ references →
    ∃ name, (p, name) ∈ m.assigned ∧ (r.name, name) ∈ m.bindings
  single : ExportRecord.wholeModule ∉ Table.keys m.names
  exports : (Table.keys m.bindings).Nodup
  locals : (Table.values m.bindings).Nodup
  fresh : ∀ name ∈ Table.values m.bindings, name ∉ base ∧ name ∉ Identifier.reservedWords
  used : ∀ name, name ∈ m.used ↔ name ∈ base ∨ name ∈ Table.values m.bindings

namespace Serves

variable {base : List String} {references : Table ExportRecord} {m : ModuleImport}
  {p name : String} {r : ExportRecord}

/-- At the start no reference is served and the names of the program are used. -/
theorem start (base : List String) : Serves base [] { used := base } where
  assigned := rfl
  bound := by simp
  single := by simp [Table.keys]
  exports := by simp [bindings, Table.keys]
  locals := by simp [bindings, Table.values]
  fresh := by simp [bindings, Table.values]
  used := by simp [bindings, Table.values]

/-- A new placeholder is assigned behind the others. -/
theorem assigned_set (h : Serves base references m) (hp : p ∉ Table.keys references)
    (name : String) : Table.set p name m.assigned = m.assigned ++ [(p, name)] :=
  Table.set_of_not_mem name (h.assigned ▸ hp)

/-- A placeholder may share a name that is brought in already. -/
theorem reuse (h : Serves base references m) (hp : p ∉ Table.keys references)
    (hname : (r.name, name) ∈ m.bindings) :
    Serves base (references ++ [(p, r)])
      { m with assigned := Table.set p name m.assigned } where
  assigned := by
    rw [h.assigned_set hp]
    simp only [Table.keys, List.map_append]
    rw [← Table.keys, h.assigned, Table.keys]
    rfl
  bound := by
    rw [h.assigned_set hp]
    intro q s hq
    rcases List.mem_append.1 hq with hq | hq
    · obtain ⟨n, hn, hb⟩ := h.bound q s hq
      exact ⟨n, List.mem_append_left _ hn, hb⟩
    · obtain ⟨rfl, rfl⟩ := Prod.mk.inj (List.mem_singleton.1 hq)
      exact ⟨name, by simp, hname⟩
  single := h.single
  exports := h.exports
  locals := h.locals
  fresh := h.fresh
  used := h.used

/-- A new name for a new export is added to those that are brought in. -/
theorem extend (h : Serves base references m) (m' : ModuleImport) (exported requested : String)
    (hnew : exported ∉ Table.keys m.bindings)
    (hsingle : ExportRecord.wholeModule ∉ Table.keys m'.names)
    (hb : m'.bindings.Perm
      ((exported, Identifier.findAvailable requested m.used) :: m.bindings))
    (hu : m'.used = (Identifier.allocate requested m.used).2) (ha : m'.assigned = m.assigned) :
    Serves base references m' := by
  set name := Identifier.findAvailable requested m.used with hname
  have hfree : name ∉ m.used := Identifier.findAvailable_not_mem requested m.used
  have hmem : name ∉ base ∧ name ∉ Table.values m.bindings := by
    simpa [h.used] using hfree
  have hv : (Table.values m'.bindings).Perm (name :: Table.values m.bindings) := hb.map _
  have hk : (Table.keys m'.bindings).Perm (exported :: Table.keys m.bindings) := hb.map _
  refine ⟨ha ▸ h.assigned, ?_, hsingle, ?_, ?_, ?_, ?_⟩
  · intro q s hq
    obtain ⟨n, hn, hs⟩ := h.bound q s hq
    exact ⟨n, ha ▸ hn, hb.mem_iff.2 (List.mem_cons_of_mem _ hs)⟩
  · exact hk.nodup_iff.2 (List.nodup_cons.2 ⟨hnew, h.exports⟩)
  · exact hv.nodup_iff.2 (List.nodup_cons.2 ⟨hmem.2, h.locals⟩)
  · intro n hn
    rcases List.mem_cons.1 (hv.mem_iff.1 hn) with rfl | hn
    · exact ⟨hmem.1, Identifier.findAvailable_not_reserved requested m.used⟩
    · exact h.fresh n hn
  · intro n
    rw [hu, Identifier.allocate_snd, ← hname, List.mem_append, h.used, List.mem_singleton,
      hv.mem_iff, List.mem_cons]
    tauto

/-- A reference to the module as a whole. -/
theorem bindWhole (h : Serves base references m) (module : String)
    (hp : p ∉ Table.keys references) (hr : r.isNamespace = true) :
    Serves base (references ++ [(p, r)]) (m.bindWhole module p) := by
  have hstar : r.name = ExportRecord.wholeModule := beq_iff_eq.1 hr
  unfold ModuleImport.bindWhole
  cases hw : m.wholeName with
  | some name =>
    have hname : (r.name, name) ∈ m.bindings := by simp [bindings, hw, hstar]
    simpa only [hw] using h.reuse hp hname
  | none =>
    have hnew : ExportRecord.wholeModule ∉ Table.keys m.bindings := by
      simpa [bindings, hw, Table.keys] using h.single
    refine (h.extend { m with
      wholeName := some (Identifier.findAvailable (Identifier.moduleName module) m.used)
      used := (Identifier.allocate (Identifier.moduleName module) m.used).2 }
      _ _ hnew h.single ?_ rfl rfl).reuse hp ?_
    · simp [bindings, hw]
    · simp [bindings, hstar]

/-- A reference to one export. -/
theorem bindName (h : Serves base references m) (hp : p ∉ Table.keys references)
    (hr : r.isNamespace = false) : Serves base (references ++ [(p, r)]) (m.bindName p r.name) := by
  have hstar : r.name ≠ ExportRecord.wholeModule := beq_eq_false_iff_ne.1 hr
  unfold ModuleImport.bindName
  cases hn : Table.get? m.names r.name with
  | some name => exact h.reuse hp (by simp [bindings, Table.mem_of_get? hn])
  | none =>
    have hnames : r.name ∉ Table.keys m.names := Table.get?_eq_none_iff.1 hn
    have hset := Table.set_of_not_mem (Identifier.findAvailable r.name m.used) hnames
    have hwhole : r.name ∉ Table.keys (m.wholeName.toList.map (ExportRecord.wholeModule, ·)) := by
      cases m.wholeName <;> simp [Table.keys, hstar]
    have hnew : r.name ∉ Table.keys m.bindings := by
      rw [bindings, Table.keys, List.map_append, List.mem_append]
      exact not_or.2 ⟨hwhole, hnames⟩
    have hsingle : ExportRecord.wholeModule ∉
        Table.keys (Table.set r.name (Identifier.findAvailable r.name m.used) m.names) := by
      rw [hset]
      simpa [Table.keys, Ne.symm hstar] using h.single
    refine (h.extend { m with
      names := Table.set r.name (Identifier.findAvailable r.name m.used) m.names
      used := (Identifier.allocate r.name m.used).2 } _ _ hnew hsingle ?_ rfl rfl).reuse hp ?_
    · rw [bindings, hset, ← List.append_assoc]
      exact List.perm_append_singleton _ _
    · simp [bindings, hset]

/-- What one more reference changes. -/
theorem bind (h : Serves base references m) (module : String) (hp : p ∉ Table.keys references) :
    Serves base (references ++ [(p, r)]) (m.bind module (p, r)) := by
  unfold ModuleImport.bind
  split_ifs with hr
  · exact h.bindWhole module hp hr
  · exact h.bindName hp (Bool.eq_false_iff.2 hr)

end Serves

/-- All references to a module are bound. -/
theorem serves_ofReferences (module : String) (base : List String) (references : Table ExportRecord)
    (hd : (Table.keys references).Nodup) :
    Serves base references (ofReferences module references base) := by
  induction references using List.reverseRecOn with
  | nil => exact .start base
  | append_singleton references p ih =>
    simp only [Table.keys, List.map_append, List.nodup_append] at hd
    have hp : p.1 ∉ Table.keys references := fun hmem => hd.2.2 _ hmem _ (by simp) rfl
    rw [ofReferences, List.foldl_append, List.foldl_cons, List.foldl_nil]
    exact (ih hd.1).bind module hp

/-- The name that a reference is bound to is provided by one of the lines. -/
theorem Serves.exists_line {base : List String} {references : Table ExportRecord}
    {m : ModuleImport} (h : Serves base references m) {p : String} {r : ExportRecord}
    (hp : (p, r) ∈ references) (module specifier : String) :
    ∃ l ∈ m.lines module specifier, ∃ name, (p, name) ∈ m.assigned ∧ l.Provides r name := by
  obtain ⟨name, hname, hb⟩ := h.bound p r hp
  by_cases hr : r.isNamespace = true
  · have hstar : r.name = ExportRecord.wholeModule := beq_iff_eq.1 hr
    have hnames : (r.name, name) ∉ m.names := fun hmem =>
      h.single (hstar ▸ Table.mem_keys.2 ⟨name, hmem⟩)
    have hw : m.wholeName = some name := by
      simpa [bindings, hstar, hstar ▸ hnames] using hb
    refine ⟨⟨module, specifier, .whole name⟩, ?_, name, hname, by
      simp [ImportDeclaration.Provides, hr]⟩
    unfold lines
    split_ifs <;> simp_all
  · have hstar : r.name ≠ ExportRecord.wholeModule := fun he => hr (beq_iff_eq.2 he)
    have hnames : (r.name, name) ∈ m.names := by
      simpa [bindings, Ne.symm hstar] using hb
    refine ⟨⟨module, specifier, .single m.names⟩, ?_, name, hname, by
      simp [ImportDeclaration.Provides, hr, hnames]⟩
    unfold lines
    rw [if_pos (by simpa using List.ne_nil_of_mem hnames)]
    simp

end ModuleImport

end HtmlModules
