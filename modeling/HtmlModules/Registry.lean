import HtmlModules.Failure
import HtmlModules.Table

/-!
# The registry of exports

Where a path of the old namespaces lives after the conversion: in which module and under which
name. Records are collected by a `RegistryBuilder`, which keeps the first record of a path, and are
read from a sealed `Registry`.
-/

namespace HtmlModules

/-- The module and the name that stand for a path. -/
structure ExportRecord where
  path : String
  module : String
  name : String
deriving DecidableEq, Repr

namespace ExportRecord

/-- The name that stands for a module as a whole. -/
def wholeModule : String := "*"

/-- The module as a whole stands for the path. -/
def isNamespace (r : ExportRecord) : Bool := r.name == wholeModule

/-- The record as text. -/
def text (r : ExportRecord) : String := s!"{r.path} → {r.module}#{r.name}"

end ExportRecord

/-- The records of all paths, each path once, in the order of registration. -/
abbrev Registry := List ExportRecord

namespace Registry

/-- The record of a path. -/
def lookup (r : Registry) (path : String) : Option ExportRecord := r.find? (·.path == path)

/-- The records of a module. -/
def forModule (r : Registry) (url : String) : List ExportRecord := r.filter (·.module == url)

/-- Adds the records whose paths are new; the second part are those that were added. -/
def addNew (r : Registry) : List ExportRecord → Registry × List ExportRecord
  | [] => (r, [])
  | record :: rest =>
    if (r.lookup record.path).isSome then r.addNew rest
    else
      let (result, accepted) := Registry.addNew (r ++ [record]) rest
      (result, record :: accepted)

end Registry

/-- Collects records until it is sealed. -/
structure RegistryBuilder where
  records : Registry := []
  isSealed : Bool := false
deriving DecidableEq, Repr

namespace RegistryBuilder

/-- Adds the records whose paths are new, and tells which they were. -/
def register (b : RegistryBuilder) (records : List ExportRecord) :
    Except Failure (RegistryBuilder × List ExportRecord) :=
  if b.isSealed then .error .registrySealed
  else
    let (result, accepted) := b.records.addNew records
    .ok ({ b with records := result }, accepted)

/-- The record of a path. -/
def lookup (b : RegistryBuilder) (path : String) : Option ExportRecord := b.records.lookup path

/-- Ends the collection. -/
def freeze (b : RegistryBuilder) : RegistryBuilder × Registry :=
  ({ b with isSealed := true }, b.records)

end RegistryBuilder

end HtmlModules
