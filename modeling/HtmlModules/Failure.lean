import HtmlModules.Script.Token
import HtmlModules.Text.Basic
import HtmlModules.Text.Edit
import HtmlModules.Text.Location
import HtmlModules.Text.Quoted
import HtmlModules.Text.Utf8

/-!
# Failures

The reasons for which a step of a conversion gives no result, with their wording. Those that name a
place in a script carry it as a location.
-/

namespace HtmlModules

open Text

/-- Why a step gives no result. -/
inductive Failure where
  /-- A dependency mapping does not have three parts. -/
  | badMapping (value : String)
  /-- A declaration option does not name a path and a kind. -/
  | badDeclaration (value : String)
  /-- A file that should be JSON is not. -/
  | notJson (path reason : String)
  /-- A file holds JSON, but no object. -/
  | notAnObject (path : String)
  | noPackageName
  | noPackageVersion (name : String)
  | noInputDirectory (path : String)
  | noWorkspaceDirectory (path : String)
  | noRepositories (path : String) (names : List String)
  | notAManifest
  | badManifestEntry (url : String)
  | badManifestExports (url : String)
  /-- A url is not anchored at the root of the package. -/
  | notAnchored (source target : String)
  /-- A document has a url of the converted form. -/
  | notLegacyUrl (url : String)
  | registrySealed
  | noResolver (document : String)
  | script (error : Script.SyntaxError) (file : String)
  /-- A document cannot be read: the line and column where. -/
  | markup (line column : Nat)
  /-- A document holds a character reference by a number that is too long to be read. -/
  | longReference
  | conflict (edits : EditConflict)
  | manifestAfterScan
  | scanEnded
  | convertBeforeScan
  /-- A word is not one of those that are allowed there. -/
  | unknownWord
  /-- An option that needs a value has been given none. -/
  | noValue
  /-- An option whose value is to be taken apart has been given none. -/
  | noParts
  /-- The dependency table is no object. -/
  | notATable
  /-- An entry of the dependency table is no object. -/
  | notAnEntry
  /-- An entry of the dependency table lacks a field. -/
  | missingField
  /-- A segment of a url, counted from zero, would be a value of another kind than a text. -/
  | notASegment (index : Nat) (kind : String)
  /-- A path without segments. -/
  | emptyPath
  /-- An author is neither a text nor an object. -/
  | badAuthor
  /-- A value that should be a list or an object is not. -/
  | notAList
  /-- What should be a key and its value has other members. -/
  | notAPair
  /-- A list or an object stands where a key should. -/
  | notAKey
  | missingFile
  /-- A path holds a character that no path can hold. -/
  | badPath
  /-- A directory stands where a file should. -/
  | isADirectory
  /-- A file stands where a directory should. -/
  | notADirectory
  /-- A directory cannot be made where a file is. -/
  | alreadyExists
  /-- A part of a package cannot be copied. -/
  | notCopied
  /-- A text holds a surrogate and has no octets. -/
  | notEncodable
  /-- Some stages can never run, as each waits for another. -/
  | noOrder
  /-- A file holds an integer with too many digits. -/
  | longInteger (reason : String)
  /-- A file that has to be JSON is not. -/
  | unreadableJson (reason : String)
  | notUtf8 (error : Utf8.DecodeError)
deriving DecidableEq, Repr

namespace Failure

/-- The place of a syntax error in a file; a column of zero counts as the first. -/
def placeIn (e : Script.SyntaxError) (file : String) : Option Location :=
  e.place.map fun (line, column) =>
    { file, line, column := if column = 0 then 1 else column }

/-- The place that a failure names. -/
def location : Failure → Option Location
  | .script e file => placeIn e file
  | _ => none

/-- The wording of a failure. -/
def message : Failure → String
  | .badMapping value =>
    "--dependency-mapping expects 'bower-name,npm-name,semver-range', got " ++ quoted value
  | .badDeclaration value =>
    "--declaration expects 'dotted.path=namespace|value|ignore', got " ++ quoted value
  | .notJson path reason => s!"{path}: not valid JSON ({reason})"
  | .notAnObject path => s!"{path}: expected a JSON object"
  | .noPackageName => "bower.json has no name; pass --npm-name"
  | .noPackageVersion name => s!"no version for {name}; pass --npm-version"
  | .noInputDirectory path => s!"input directory {path} does not exist"
  | .noWorkspaceDirectory path => s!"workspace directory {path} does not exist"
  | .noRepositories path names => s!"repos not found in {path}: " ++ join ", " names
  | .notAManifest => "conversion manifest must be an object with a 'files' object"
  | .badManifestEntry url =>
    s!"manifest entry for {quoted url} must be null or an object with a 'url' string"
  | .badManifestExports url =>
    s!"exports of manifest entry {quoted url} must be objects with 'id' and 'name' strings"
  | .notAnchored source target =>
    s!"paths relative to package root expected (actual: from=\"{source}\", to=\"{target}\")"
  | .notLegacyUrl url => "original document url expected, got " ++ quoted url
  | .registrySealed => "cannot register exports after the scan phase has ended"
  | .noResolver document => s!"{document}: no url resolver to format import specifiers"
  | .script e _ => "Parse error: " ++ e.text
  | .markup line column => s!"Parse error at line {line}, column {column}"
  | .longReference => "character reference with too many digits"
  | .conflict edits => edits.message
  | .manifestAfterScan => "manifest loaded after the scan phase ended"
  | .scanEnded => "scan phase already ended"
  | .convertBeforeScan => "documents must not be converted before the scan phase ends"
  | .unknownWord => "unknown word"
  | .noValue => "no value"
  | .noParts => "no value to take apart"
  | .notATable => "not a table"
  | .notAnEntry => "not an entry"
  | .missingField => "missing field"
  | .notASegment index kind => s!"sequence item {index}: expected str instance, {kind} found"
  | .emptyPath => "empty path"
  | .badAuthor => "author is neither a text nor an object"
  | .notAList => "not a list"
  | .notAPair => "not a pair"
  | .notAKey => "not a key"
  | .missingFile => "file not found"
  | .badPath => "embedded null byte"
  | .isADirectory => "is a directory"
  | .notADirectory => "not a directory"
  | .alreadyExists => "file exists"
  | .notCopied => "not copied"
  | .notEncodable => "surrogates not allowed"
  | .noOrder => "Circular dependency detected in passes"
  | .longInteger reason => reason
  | .unreadableJson reason => reason
  | .notUtf8 error => error.message

/-- The failure is one of the setup of a run and not of the run itself. -/
def isSetup : Failure → Bool
  | .badMapping _ | .badDeclaration _ | .notJson .. | .notAnObject _ | .noPackageName
  | .noPackageVersion _ | .noInputDirectory _ | .noWorkspaceDirectory _ | .noRepositories ..
  | .notAManifest | .badManifestEntry _ | .badManifestExports _ => true
  | _ => false

/-- The number of a failure that points at a defect of the converter itself. -/
def defectCode : Failure → Option String
  | .conflict _ => some "E9001"
  | .manifestAfterScan | .scanEnded | .convertBeforeScan => some "E9999"
  | _ => none

/-- The wording with its number in front or its place behind. -/
def text (f : Failure) : String :=
  match f.defectCode, f.location with
  | some code, _ => s!"[{code}] {f.message}"
  | none, some l => s!"{f.message}\n --> {l.text}"
  | none, none => f.message

end Failure

end HtmlModules
