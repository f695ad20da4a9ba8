import HtmlModules.Dependency.Basic
import HtmlModules.Json.Printer
import HtmlModules.Url.Module

/-!
# The description of the converted package

`PackageJson.generate` makes the description of the converted package from the old one and from a
description of the new kind that may exist already. What exists wins, except for name, version and
flatness, and for dependencies and resolutions, which are merged.
-/

namespace HtmlModules

open Text

namespace PackageJson

/-- A text, or the only item of an array if it is one. -/
def single? : Json → Option String
  | .string s => some s
  | .array [.string s] => some s
  | _ => none

/-- More than one value is given. -/
def isSeveral : Json → Bool
  | .array (_ :: _ :: _) => true
  | _ => false

/-- The characters of a text as texts; a surrogate is one of them. -/
def charactersOf (s : String) : List Json :=
  (Surrogate.points s).map fun n => .string (String.ofList (pointChars n))

/-- What running over a value gives: the names of the fields of an object, the items of an array and
the characters of a text. -/
def membersOf (v : Json) : Except Failure (List Json) :=
  match v with
  | .object fields => .ok ((Table.keys fields).map .string)
  | .array items => .ok items
  | .string s => .ok (charactersOf s)
  | _ => .error .notAList

/-- A key and its value, which an array, a text or the names of an object can give. -/
def pairOf (v : Json) : Except Failure (Json × Json) := do
  match ← membersOf v with
  | [key, value] => if key.key?.isSome then return (key, value) else throw .notAKey
  | _ => throw .notAPair

/-- The entries that a value can be read as: the fields of an object, or members that are pairs. -/
def entriesOf (v : Json) : Except Failure Json.Entries :=
  match v with
  | .object fields => .ok (.ofFields fields)
  | v => do return Json.Entries.setAll [] (← (← membersOf v).mapM pairOf)

/-! ## Authors -/

/-- One author. -/
def authorOf (v : Json) : Except Failure Json :=
  match v with
  | .string s => .ok (.string s)
  | .object fields =>
    let parts := [("name", "name"), ("email", "email"), ("url", "homepage")]
    .ok (.object (parts.filterMap fun (new, old) =>
      ((Table.get? fields old).filter fun v => !v.isNull).map fun v => (new, v)))
  | _ => .error .badAuthor

/-- The authors of the old description. -/
def authors (old : Json.Fields) : Except Failure (List Json) := do
  let given := Json.present? (Table.get? old "authors") <|> Json.present? (Table.get? old "author")
  let list ← match given with
    | none => pure []
    | some (.array items) => pure items
    | some (.string s) => pure [Json.string s]
    | some (.object fields) => pure [Json.object fields]
    | some _ => throw .notAList
  list.mapM authorOf

/-! ## Generation -/

/-- The versions that every converted package is pinned to. -/
def pinnedResolutions : Json.Fields :=
  [("inherits", .string "2.0.3"), ("samsam", .string "1.1.3"),
    ("supports-color", .string "3.1.2"), ("type-detect", .string "1.0.0")]

/-- A warning about the description of a package. -/
def warning (package : String) (text : String) : Diagnostic :=
  { code := some "W0501", message := s!"{package}: {text}" }

/-- A description under way: its fields, the warnings about them, and the names that have been looked
up in vain. -/
structure Draft where
  fields : Json.Entries
  warnings : Diagnostics := []
  misses : List Json.Key := []

/-- Adds a field. -/
def Draft.set (name : String) (v : Json) (d : Draft) : Draft :=
  { d with fields := d.fields.set (.string name) v }

/-- Adds warnings. -/
def Draft.warn (ws : Diagnostics) (d : Draft) : Draft :=
  { d with warnings := d.warnings.reportAll ws }

/-- The field is present. -/
def Draft.has (d : Draft) (name : String) : Bool :=
  (Json.present? (d.fields.get? name)).isSome

/-- The document that the package starts from, as a module. -/
def addMain (old : Json.Fields) (package : String) (d : Draft) : Draft :=
  if d.has "main" then d
  else
    let given := (Table.get? old "main").getD .null
    let d := if isSeveral given then d.warn [warning package
        "Found multiple mains in bower.json, but package.json must have only one."] else d
    match (single? given).filter (endsWith · Url.htmlExtension) with
    | some main => d.set "main" (.string (Url.replaceHtmlExtension main))
    | none => d.warn [warning package
        "Could not automatically find main. Please manually set your package.json main."]

/-- One author, or several contributors. -/
def addAuthors (old : Json.Fields) (d : Draft) : Except Failure Draft := do
  if d.has "author" || d.has "contributors" then return d
  else match ← authors old with
    | [] => return d
    | [author] => return d.set "author" author
    | several => return d.set "contributors" (.array several)

/-- The license. -/
def addLicense (old : Json.Fields) (package : String) (d : Draft) : Draft :=
  if d.has "license" then d
  else
    let given := (Table.get? old "license").getD .null
    let d := if isSeveral given then d.warn [warning package
        "Found multiple licenses in bower.json, but package.json must have only one."] else d
    match (single? given).filter (· ≠ "") with
    | some license =>
      d.set "license" (.string
        (if contains license "polymer.github.io/LICENSE" then "BSD-3-Clause" else license))
    | none => d.warn [warning package
        ("Could not automatically find appropriate license. " ++
          "Please manually set your package.json license.")]

/-- Adds what replaces a dependency to the entries. -/
def addDependency (table : Dependencies) (state : Draft × Json.Entries) (old : Json) :
    Except Failure (Draft × Json.Entries) := do
  let (d, t) := state
  match ← table.lookUp? old with
  | some new =>
    if new.name.key?.isSome then return (d, t.set new.name new.version) else throw .notAKey
  | none =>
    let (warnings, misses) := Dependencies.miss old d.misses
    return ({ d.warn warnings with misses }, t)

/-- The dependencies of a kind under their new names, added to those that exist. -/
def addDependencies (old : Json.Fields) (table : Dependencies) (kind : String) (d : Draft) :
    Except Failure Draft := do
  let existing ← (Json.present? (d.fields.get? kind)).elim (.ok []) entriesOf
  let names ← (Json.present? (Table.get? old kind)).elim (.ok []) membersOf
  let (d, t) ← names.foldlM (addDependency table) (d, existing)
  return d.set kind (.object t.toFields)

/-- The fields that are taken over as they are. -/
def copiedFields : List String := ["description", "keywords", "repository", "homepage"]

/-- A finished description. -/
structure Description where
  fields : Json.Fields
  warnings : Diagnostics
  /-- The names that have been looked up in vain, now or before. -/
  misses : List Json.Key

/-- The description of the converted package; `misses` are the names that have been looked up in vain
before. -/
def generate (old : Json.Fields) (name version : Json) (table : Dependencies)
    (existing : Json) (misses : List Json.Key := []) : Except Failure Description := do
  let package := ((Table.get? old "name").getD name).plain
  let existing ← if existing.isPresent then entriesOf existing else pure []
  let start := copiedFields.map fun f => (Json.string f, (Table.get? old f).getD .null)
  let fields := Json.Entries.setAll (Json.Entries.setAll start existing)
    [(.string "name", name), (.string "version", version), (.string "flat", .bool true)]
  let d : Draft := { fields := fields.erase "private", misses }
  let resolutions ← (Json.present? (d.fields.get? "resolutions")).elim (.ok []) entriesOf
  let d := d.set "resolutions"
    (.object (Json.Entries.setAll resolutions (.ofFields pinnedResolutions)).toFields)
  let d ← addAuthors old (addMain old package d)
  let d ← addDependencies old table "dependencies" (addLicense old package d)
  let d ← addDependencies old table "devDependencies" d
  return {
    fields := Json.Entries.toFields (d.fields.filter fun p => !p.2.isNull)
    warnings := d.warnings
    misses := d.misses }

/-- The description as the text of a file. -/
def text (fields : Json.Fields) : String := Json.pretty (.object fields)

end PackageJson

end HtmlModules
