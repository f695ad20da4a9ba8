import HtmlModules.Failure
import HtmlModules.Json.Display
import HtmlModules.Json.Key
import HtmlModules.Diagnostic

/-!
# Names of dependencies

A table from the old names of packages to their new names and the versions that are asked for. A table
that is read from JSON may hold other values than texts: they are passed on as they are, and only
a name that has to stand in a url must be a text. A name that is not in the table is reported when
it is looked up for the first time.
-/

namespace HtmlModules

open Text

/-- The new name of a package and the versions that will do. -/
structure Dependency where
  name : Json
  version : Json
deriving Repr

/-- The entry of texts. -/
def Dependency.ofTexts (name version : String) : Dependency := ⟨.string name, .string version⟩

/-- Old names with what replaces them. -/
abbrev Dependencies := Table Dependency

namespace Dependencies

/-! ## Reading -/

/-- An entry of the form `old,new,version`. -/
def parseMapping (value : String) : Except Failure (String × Dependency) :=
  match (split ',' value).map trim with
  | [old, new, version] =>
    if old = "" || new = "" || version = "" then .error (.badMapping value)
    else .ok (old, .ofTexts new version)
  | _ => .error (.badMapping value)

/-- The entries of the mappings, a later one in place of an earlier one. -/
def parseMappings (values : List String) : Except Failure Dependencies :=
  values.foldlM (fun t value => do
    let (old, d) ← parseMapping value
    return Table.set old d t) []

/-- One entry of a table in JSON. -/
def entryOfJson (v : Json) : Except Failure Dependency :=
  match v with
  | .object fields =>
    match Table.get? fields "npm", Table.get? fields "semver" with
    | some name, some version => .ok ⟨name, version⟩
    | _, _ => .error .missingField
  | _ => .error .notAnEntry

/-- The table that an object in JSON spells. -/
def ofJson (v : Json) : Except Failure Dependencies :=
  match v with
  | .object fields => fields.mapM fun (old, v) => return (old, ← entryOfJson v)
  | _ => .error .notATable

/-! ## Looking up -/

/-- What replaces a package, whose name may be anything that can be a key. -/
def lookUp? (t : Dependencies) (old : Json) : Except Failure (Option Dependency) :=
  match old with
  | .string name => .ok (Table.get? t name)
  | .array _ | .object _ => .error .notAKey
  | _ => .ok none

/-- The new name of a package; a package that is not in the table keeps its name. -/
def newName (t : Dependencies) (old : String) : Json :=
  ((Table.get? t old).map (·.name)).getD (.string old)

/-- The new name of a package for a url; one that is no text cannot stand there. -/
def segmentFor (t : Dependencies) (old : String) : String := (t.newName old).string?.getD old

/-- The first old name that a new name replaces. -/
def oldName? (t : Dependencies) (new : Json) : Option String :=
  (t.find? fun (_, d) => d.name.key?.isSome && d.name.key? = new.key?).map Prod.fst

/-! ## Reporting -/

/-- The warning about a package that is not in the table. -/
def missingWarning (old : Json) : Diagnostic :=
  { code := some "W0101", message := s!"bower->npm mapping for \"{old.plain}\" not found" }

/-- The warnings that looking up a name gives rise to. -/
def warnings (t : Dependencies) (old : String) : Diagnostics :=
  if Table.has t old then [] else [missingWarning (.string old)]

/-- The warning about a name that was looked up in vain, if it is the first time, and the names that
have been since. -/
def miss (old : Json) (misses : List Json.Key) : Diagnostics × List Json.Key :=
  match old.key? with
  | none => ([], misses)
  | some key => if misses.contains key then ([], misses) else ([missingWarning old], key :: misses)

end Dependencies

end HtmlModules
