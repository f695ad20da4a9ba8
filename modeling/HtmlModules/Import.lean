import HtmlModules.Identifier
import HtmlModules.Registry

/-!
# Import declarations

The references of a program to one module are bound to local names, and the names are brought in by
at most two declarations: one for the module as a whole and one for single exports.
-/

namespace HtmlModules

open Text

/-- What is imported from one module. -/
structure ModuleImport where
  /-- The local name of the module as a whole. -/
  wholeName : Option String := none
  /-- Exported names with their local names. -/
  names : Table String := []
  /-- Placeholders with the local names they are bound to. -/
  assigned : Table String := []
  /-- The local names in use. -/
  used : List String
deriving DecidableEq, Repr

namespace ModuleImport

/-- Binds a placeholder to the whole module. -/
def bindWhole (module : String) (m : ModuleImport) (placeholder : String) : ModuleImport :=
  match m.wholeName with
  | some name => { m with assigned := Table.set placeholder name m.assigned }
  | none =>
    let (name, used) := Identifier.allocate (Identifier.moduleName module) m.used
    { m with wholeName := some name, used, assigned := Table.set placeholder name m.assigned }

/-- Binds a placeholder to one export. -/
def bindName (m : ModuleImport) (placeholder name : String) : ModuleImport :=
  match Table.get? m.names name with
  | some localName => { m with assigned := Table.set placeholder localName m.assigned }
  | none =>
    let (localName, used) := Identifier.allocate name m.used
    { m with
      names := Table.set name localName m.names, used
      assigned := Table.set placeholder localName m.assigned }

/-- Binds a placeholder to what its record stands for. -/
def bind (module : String) (m : ModuleImport) (reference : String × ExportRecord) : ModuleImport :=
  if reference.2.isNamespace then m.bindWhole module reference.1
  else m.bindName reference.1 reference.2.name

/-- Binds the references to one module. -/
def ofReferences (module : String) (references : List (String × ExportRecord))
    (used : List String) : ModuleImport :=
  references.foldl (bind module) { used }

/-- The specifier in quotes. -/
def quoteSpecifier (s : String) : String :=
  "'" ++ replaceAll (replaceAll s "\\" "\\\\") "'" "\\'" ++ "'"

/-- An exported name, with its local name if that differs. -/
def nameText (name : String × String) : String :=
  if name.2 = name.1 then name.1 else s!"{name.1} as {name.2}"

/-- The declarations that bring the names in. -/
def declarations (m : ModuleImport) (specifier : String) : List String :=
  let source := quoteSpecifier specifier
  let whole := m.wholeName.toList.map fun name => s!"import * as {name} from {source};"
  if !m.names.isEmpty then
    whole ++ ["import \x7b " ++ join ", " (m.names.map nameText) ++ " \x7d from " ++ source ++ ";"]
  else if m.wholeName.isSome then whole
  else [s!"import {source};"]

end ModuleImport

end HtmlModules
