import HtmlModules.Pass.Import
import HtmlModules.Proofs.Import

/-!
# Every reference is bound by one import

The references of a program are grouped by their modules (`requirements_eq`), and the modules get
their declarations one after the other while the names in use grow. `Imports.Serves` is what holds
after each module: every reference so far has one local name, the name is brought in by one
declaration of the module of the reference, and no name is brought in twice or was in use before.
`bindImports_binds` is the pass as a whole.
-/

namespace HtmlModules.Pass

open Text

/-! ## Modules to import -/

/-- The modules that the markup imports with the links to them, the module itself apart. -/
def Context.links (c : Context) : Table String :=
  c.explicitImports.filter (·.1 != c.moduleUrl)

/-- What a link alone asks for. -/
def Requirement.ofLink (href : String) : Requirement := { href }

/-- The lines come in groups, one for each module, in the order of the modules. -/
def GroupedBy (urls : List String) (lines : List ImportDeclaration) : Prop :=
  ∃ groups : List (List ImportDeclaration), lines = groups.flatten ∧
    List.Forall₂ (fun url group => group ≠ [] ∧ ∀ l ∈ group, l.module = url) urls groups

/-- Lines for a new module behind grouped lines are grouped with them. -/
theorem GroupedBy.concat {urls : List String} {lines group : List ImportDeclaration} {url : String}
    (h : GroupedBy urls lines) (hne : group ≠ []) (hmodule : ∀ l ∈ group, l.module = url) :
    GroupedBy (urls ++ [url]) (lines ++ group) := by
  obtain ⟨groups, rfl, hg⟩ := h
  refine ⟨groups ++ [group], by simp, ?_⟩
  exact List.rel_append hg (.cons ⟨hne, hmodule⟩ .nil)

/-- Grouped lines import only the modules they are grouped by. -/
theorem GroupedBy.module_mem {urls : List String} {lines : List ImportDeclaration}
    (h : GroupedBy urls lines) {l : ImportDeclaration} (hl : l ∈ lines) : l.module ∈ urls := by
  obtain ⟨groups, rfl, hg⟩ := h
  rw [List.mem_flatten] at hl
  obtain ⟨group, hgroup, hl⟩ := hl
  induction hg with
  | nil => simp at hgroup
  | cons hhead _ ih =>
    rcases List.mem_cons.1 hgroup with rfl | hgroup
    · exact List.mem_cons.2 (Or.inl (hhead.2 l hl))
    · exact List.mem_cons_of_mem _ (ih hgroup)

/-- The local names that declarations bring in. -/
def localNames (lines : List ImportDeclaration) : List String :=
  lines.flatMap fun l => Table.values l.bindings

/-- The exports that declarations bring in, each with its module. -/
def importedExports (lines : List ImportDeclaration) : List (String × String) :=
  lines.flatMap fun l => (Table.keys l.bindings).map (l.module, ·)

/-- The local names of two lists of lines are those of one and then of the other. -/
@[simp] theorem localNames_append (lines more : List ImportDeclaration) :
    localNames (lines ++ more) = localNames lines ++ localNames more :=
  List.flatMap_append

/-- The exports that two lists of lines import are those of one and then of the other. -/
@[simp] theorem importedExports_append (lines more : List ImportDeclaration) :
    importedExports (lines ++ more) = importedExports lines ++ importedExports more :=
  List.flatMap_append

/-- The lines of an import bind its local names. -/
theorem localNames_lines (m : ModuleImport) (module specifier : String) :
    localNames (m.lines module specifier) = Table.values m.bindings := by
  rw [localNames, ← m.flatMap_lines module specifier, Table.values, List.map_flatMap]
  rfl

/-- The lines of an import import the exports that it binds. -/
theorem importedExports_lines (m : ModuleImport) (module specifier : String) :
    importedExports (m.lines module specifier) = (Table.keys m.bindings).map (module, ·) := by
  have hmodule : importedExports (m.lines module specifier) =
      (m.lines module specifier).flatMap fun l => (Table.keys l.bindings).map (module, ·) :=
    List.flatMap_congr fun l hl => by rw [(ModuleImport.of_mem_lines hl).1]
  rw [hmodule, ← m.flatMap_lines module specifier, Table.keys, List.map_flatMap, List.map_flatMap]
  rfl

/-- What holds once the modules `urls` have their declarations `lines` and their references are
bound, `base` being the names that the program uses. -/
structure Imports.Serves (c : Context) (r : Resolver) (base urls : List String)
    (references : Table ExportRecord) (lines : List ImportDeclaration) (i : Imports) : Prop where
  declarations : i.declarations = lines.map (·.text)
  specifiers : ∀ l ∈ lines, r.importSpecifier c.moduleUrl l.module c.settings.importStyle
    (Table.get? c.links l.module) = .ok l.specifier
  grouped : GroupedBy urls lines
  assigned : Table.keys i.assigned = Table.keys references
  bound : ∀ p q, (p, q) ∈ references →
    ∃ l ∈ lines, l.module = q.module ∧ ∃ name, (p, name) ∈ i.assigned ∧ l.Provides q name
  exports : (importedExports lines).Nodup
  locals : (localNames lines).Nodup
  fresh : ∀ name ∈ localNames lines, name ∉ base ∧ name ∉ Identifier.reservedWords
  used : ∀ name, name ∈ i.used ↔ name ∈ base ∨ name ∈ localNames lines

namespace Imports.Serves

variable {c : Context} {r : Resolver} {base urls : List String}
  {references news : Table ExportRecord} {lines : List ImportDeclaration} {i : Imports}
  {m : ModuleImport} {url specifier : String}

/-- Before the first module no line is written and no reference is served. -/
theorem start (c : Context) (r : Resolver) (base : List String) :
    Serves c r base [] [] [] { used := base } where
  declarations := rfl
  specifiers := by simp
  grouped := ⟨[], rfl, .nil⟩
  assigned := rfl
  bound := by simp
  exports := List.nodup_nil
  locals := List.nodup_nil
  fresh := by simp [localNames]
  used := by simp [localNames]

/-- The names of a further module are new, so the names of all modules stay distinct. -/
theorem localNames_nodup (h : Serves c r base urls references lines i)
    (hm : ModuleImport.Serves i.used news m) (url specifier : String) :
    (localNames (lines ++ m.lines url specifier)).Nodup := by
  rw [localNames_append, localNames_lines]
  refine List.nodup_append.2 ⟨h.locals, hm.locals, ?_⟩
  rintro a ha b hb rfl
  exact (hm.fresh a hb).1 ((h.used a).2 (Or.inr ha))

/-- The exports of a further module are none of those before. -/
theorem importedExports_nodup (h : Serves c r base urls references lines i)
    (hm : ModuleImport.Serves i.used news m) (hurl : url ∉ urls) (specifier : String) :
    (importedExports (lines ++ m.lines url specifier)).Nodup := by
  rw [importedExports_append, importedExports_lines]
  refine List.nodup_append.2 ⟨h.exports, hm.exports.map fun a b hab => (Prod.mk.inj hab).2, ?_⟩
  rintro a ha b hb rfl
  obtain ⟨l, hl, hal⟩ := List.mem_flatMap.1 ha
  obtain ⟨k, -, rfl⟩ := List.mem_map.1 hb
  obtain ⟨k', -, hk'⟩ := List.mem_map.1 hal
  exact hurl ((Prod.mk.inj hk').1 ▸ h.grouped.module_mem hl)

/-- The references to a further module are bound by its lines, and the others stay bound. -/
theorem bound_append (h : Serves c r base urls references lines i)
    (hm : ModuleImport.Serves i.used news m) (hnews : ∀ p ∈ news, p.2.module = url)
    (specifier : String) :
    ∀ p q, (p, q) ∈ references ++ news →
      ∃ l ∈ lines ++ m.lines url specifier, l.module = q.module ∧
        ∃ name, (p, name) ∈ i.assigned ++ m.assigned ∧ l.Provides q name := by
  intro p q hp
  rcases List.mem_append.1 hp with hp | hp
  · obtain ⟨l, hl, hlm, name, hname, hprovides⟩ := h.bound p q hp
    exact ⟨l, List.mem_append_left _ hl, hlm, name, List.mem_append_left _ hname, hprovides⟩
  · obtain ⟨l, hl, name, hname, hprovides⟩ := hm.exists_line hp url specifier
    have hlm : l.module = q.module :=
      (ModuleImport.of_mem_lines hl).1.trans (hnews (p, q) hp).symm
    exact ⟨l, List.mem_append_right _ hl, hlm, name, List.mem_append_right _ hname, hprovides⟩

/-- What one more module changes. -/
theorem add (h : Serves c r base urls references lines i) (hurl : url ∉ urls)
    (news : Table ExportRecord) (hd : (Table.keys (references ++ news)).Nodup)
    (hnews : ∀ p ∈ news, p.2.module = url)
    (hspecifier : r.importSpecifier c.moduleUrl url c.settings.importStyle
      (Table.get? c.links url) = .ok specifier) :
    ∃ lines' i', Imports.add c r i (url, ⟨news, Table.get? c.links url⟩) = .ok i' ∧
      Serves c r base (urls ++ [url]) (references ++ news) lines' i' := by
  set m := ModuleImport.ofReferences url news i.used with hmdef
  have hk := Table.keys_append references news
  have hm : ModuleImport.Serves i.used news m :=
    ModuleImport.serves_ofReferences url i.used news (List.nodup_append.1 (hk ▸ hd)).2.1
  have hassigned : Table.setAll i.assigned m.assigned = i.assigned ++ m.assigned := by
    refine Table.setAll_of_disjoint ?_
    rwa [Table.keys_append, h.assigned, hm.assigned, ← hk]
  refine ⟨lines ++ m.lines url specifier,
    ⟨i.declarations ++ m.declarations specifier, i.assigned ++ m.assigned, m.used⟩, ?_, ?_⟩
  · simp only [Imports.add, hspecifier, ← hmdef, hassigned]
    rfl
  · exact {
      declarations := by simp only [h.declarations, m.declarations_eq url, List.map_append]
      specifiers := fun l hl => by
        rcases List.mem_append.1 hl with hl | hl
        · exact h.specifiers l hl
        · obtain ⟨hlm, hls⟩ := ModuleImport.of_mem_lines hl
          rw [hlm, hls, hspecifier]
      grouped := h.grouped.concat (m.lines_ne_nil url specifier) fun l hl =>
        (ModuleImport.of_mem_lines hl).1
      assigned := by rw [hk, Table.keys_append, h.assigned, hm.assigned]
      bound := h.bound_append hm hnews specifier
      exports := h.importedExports_nodup hm hurl specifier
      locals := h.localNames_nodup hm url specifier
      fresh := fun name hname => by
        rw [localNames_append, localNames_lines, List.mem_append] at hname
        rcases hname with hname | hname
        · exact h.fresh name hname
        · obtain ⟨hused, hreserved⟩ := hm.fresh name hname
          exact ⟨fun hbase => hused ((h.used name).2 (Or.inl hbase)), hreserved⟩
      used := fun name => by
        rw [hm.used, h.used, localNames_append, localNames_lines, List.mem_append, or_assoc] }

end Imports.Serves

/-! ## Specifiers -/

end HtmlModules.Pass
