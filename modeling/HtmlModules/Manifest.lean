import HtmlModules.Json.Basic
import HtmlModules.Registry
import HtmlModules.Url.Module

/-!
# Results of a scan and the manifest

What a scan learned about each document, and its form in JSON, by which a later run takes it over:
each file with the url it gets and the names it exports, or null for a file that is deleted.
-/

namespace HtmlModules

open Text

/-- What a document becomes. -/
inductive OutputKind where
  | module
  | document
deriving DecidableEq, Repr

/-- The name of a kind of output. -/
def OutputKind.name : OutputKind → String
  | .module => "js-module"
  | .document => "html-document"

/-- What the scan learned about a document that has a successor. -/
structure ScanResult where
  legacyUrl : String
  converted : String
  outputPath : String
  kind : OutputKind
  exports : List ExportRecord := []
deriving DecidableEq, Repr

/-- What is known about a document: its successor, or that it has none. -/
inductive ScannedFile where
  | kept (result : ScanResult)
  | deleted (url : String)
deriving DecidableEq, Repr

namespace ScannedFile

/-- The url of the document. -/
def url : ScannedFile → String
  | kept r => r.legacyUrl
  | deleted u => u

/-- The records that the document registers. -/
def exports : ScannedFile → List ExportRecord
  | kept r => r.exports
  | deleted _ => []

/-- The entry of the document in a manifest. -/
def toJson : ScannedFile → Json
  | deleted _ => .null
  | kept r => .object [
      ("url", .string (Url.dropAnchor r.converted)),
      ("exports", .array (r.exports.map fun e =>
        .object [("id", .string e.path), ("name", .string e.name)]))]

end ScannedFile

namespace Manifest

/-- The manifest of scanned files, in the order of their urls. -/
def toJson (files : List ScannedFile) : Json :=
  let ordered := sortBy (fun a b => le a.url b.url) files
  let fields := ordered.foldl (fun (t : Json.Fields) f => Table.set f.url f.toJson t) []
  .object [("files", .object fields)]

/-- One export of an entry: its path and its name. -/
def exportOfJson? (v : Json) : Option (String × String) := do
  let path ← (v.field? "id").bind Json.string?
  let name ← (v.field? "name").bind Json.string?
  return (path, name)

/-- The exports of an entry; none if they are not given. -/
def exportsOfJson? (v : Json) : Option (List (String × String)) :=
  match v.field? "exports" with
  | none => some []
  | some list => list.array?.bind (·.mapM exportOfJson?)

/-- The file that an entry describes, with the prefixes put in front of its paths. -/
def entryOfJson (legacyPrefix convertedPrefix : String) (name : String) (v : Json) :
    Except Failure ScannedFile :=
  let legacyUrl := legacyPrefix ++ name
  if v.isNull then .ok (.deleted legacyUrl)
  else match (v.field? "url").bind Json.string? with
    | none => .error (.badManifestEntry name)
    | some url =>
      match exportsOfJson? v with
      | none => .error (.badManifestExports name)
      | some exports =>
        let converted := convertedPrefix ++ url
        .ok (.kept {
          legacyUrl, converted
          outputPath := legacyPrefix ++ url
          kind := if endsWith url Url.htmlExtension then .document else .module
          exports := exports.map fun (path, name) => ⟨path, converted, name⟩ })

/-- The files that a manifest describes, in its order. The prefixes move its paths below the
directory of a dependency. -/
def ofJson (data : Json) (legacyPrefix convertedPrefix : String) :
    Except Failure (List ScannedFile) :=
  match (data.field? "files").bind Json.object? with
  | none => .error .notAManifest
  | some fields =>
    fields.mapM fun (name, v) => entryOfJson legacyPrefix convertedPrefix name v

end Manifest

end HtmlModules
