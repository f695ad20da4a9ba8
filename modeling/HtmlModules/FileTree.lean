import HtmlModules.Failure
import HtmlModules.Json.Reader
import HtmlModules.Settings
import HtmlModules.Table
import HtmlModules.Text.Glob
import HtmlModules.Url.Path

/-!
# File trees

A tree of files as a value: absolute paths with their octets, and the directories that may be empty.
A path is walked from the root, so what stands in front of a `..` has to be a directory.
-/

namespace HtmlModules

open Text

/-- Files by their absolute paths, and directories. -/
structure FileTree where
  files : Table ByteArray := []
  directories : List String := []

namespace FileTree

/-! ## Paths -/

/-- The absolute form of a path that is read from a directory. -/
def resolve (dir path : String) : String :=
  "/" ++ Url.ofSegments (Url.resolveSegments true (Url.segments (Url.joinPath dir path)))

/-- The segments of a path without those that stay where they are. -/
def steps (path : String) : List String :=
  (Url.segments path).filter fun s => s ≠ "" && s ≠ "."

/-- A path that is read from a directory, with its `..` kept. -/
def spelled (dir path : String) : String := "/" ++ Url.ofSegments (steps (Url.joinPath dir path))

/-- The path of segments that are in reverse order. -/
def pathOf (done : List String) : String := "/" ++ Url.ofSegments done.reverse

/-- The segments one step on; they are in reverse order. -/
def step (done : List String) (s : String) : List String :=
  if s = ".." then done.drop 1 else s :: done

/-- What the paths of everything below a directory begin with. -/
def start (dir : String) : String := if endsWith dir "/" then dir else dir ++ "/"

/-- A path, unless it holds a null character, which no path can hold. -/
def checked (path : String) : Except Failure String :=
  if path.toList.contains '\x00' then .error .badPath else .ok path

/-- The path begins in this way; a path that is too short is not even looked at. -/
def isBelow (start path : String) : Bool :=
  decide (start.utf8ByteSize ≤ path.utf8ByteSize) && startsWith path start

/-! ## What is there -/

/-- What is at a path. -/
inductive Place where
  | file
  | directory
  | nothing
deriving DecidableEq, Repr

/-- What is at a resolved path; a directory is known, or something is in it. -/
def placeAt (t : FileTree) (path : String) : Place :=
  let start := start path
  if Table.has t.files path then .file
  else if path == "/" || t.directories.contains path ||
      (Table.keys t.files ++ t.directories).any (isBelow start) then .directory
  else .nothing

/-- The segments that steps lead to, in reverse order; each is taken in a directory. -/
def walk (t : FileTree) (done : List String) : List String → Except Failure (List String)
  | [] => .ok done
  | s :: rest =>
    match t.placeAt (pathOf done) with
    | .directory => t.walk (step done s) rest
    | .file => .error .notADirectory
    | .nothing => .error .missingFile

/-- The resolved form of a path. -/
def locate (t : FileTree) (path : String) : Except Failure String := do
  return pathOf (← t.walk [] (steps (← checked path)))

/-- What a path leads to. -/
def placeOf (t : FileTree) (path : String) : Place :=
  match t.locate path with
  | .ok path => t.placeAt path
  | .error _ => .nothing

/-- The file exists. -/
def isFile (t : FileTree) (path : String) : Bool := t.placeOf path = .file

/-- The directory exists. -/
def isDirectory (t : FileTree) (path : String) : Bool := t.placeOf path = .directory

/-- The files below a directory, by their paths in it. -/
def below (t : FileTree) (dir : String) : Table ByteArray :=
  t.files.filterMap fun (path, bytes) => (afterStart? path (start dir)).map (·, bytes)

/-- The names of what is in a directory. The order is that of the tree; a disk has one of its own. -/
def namesIn (t : FileTree) (dir : String) : List String :=
  let start := start dir
  let below := ((Table.keys t.files ++ t.directories).filter (isBelow start)).map
    (dropFirst start.length)
  List.eraseDups ((below.map (before '/')).filter (· ≠ ""))

/-- The paths in the order of their segments. -/
def sortPaths (paths : List String) : List String :=
  sortBy (fun a b => !List.lex (Url.segments b) (Url.segments a) fun x y => !Text.le y x) paths

/-- The files below a directory that match one of the patterns, by their paths in it. -/
def matching (t : FileTree) (dir : String) (patterns : List String) : List String :=
  (sortPaths (Table.keys (t.below dir))).filter fun path =>
    patterns.any fun pattern => globMatches pattern path

/-! ## Reading -/

/-- The text of octets. -/
def textOf (bytes : ByteArray) : Except Failure String :=
  match Utf8.decodeFile bytes with
  | .ok text => .ok text
  | .error e => .error (.notUtf8 e)

/-- The text of a file. -/
def readText (t : FileTree) (path : String) : Except Failure String := do
  let path ← t.locate path
  match Table.get? t.files path, t.placeAt path with
  | some bytes, _ => textOf bytes
  | none, .directory => throw .isADirectory
  | none, _ => throw .missingFile

/-- The JSON value in a file. -/
def readJson (t : FileTree) (path : String) : Except Failure Json := do
  let text ← t.readText path
  match Json.parse text with
  | .ok v => return v
  | .error e => throw (match e.fault with
    | .longInteger _ => .longInteger (e.message text)
    | _ => .unreadableJson (e.message text))

/-- The texts of the files below a directory, by their paths in it. -/
def texts (t : FileTree) (dir : String) : Table (Except Failure String) :=
  (t.below dir).map fun (path, bytes) => (path, textOf bytes)

/-! ## Writing -/

/-- The tree with a file written to a resolved path. -/
def write (t : FileTree) (path : String) (bytes : ByteArray) : FileTree :=
  { t with files := Table.set path bytes t.files }

/-- Makes the directories that steps lead through, and gives the segments they lead to. -/
def makeDirectories (t : FileTree) (done : List String) :
    List String → Except Failure (FileTree × List String)
  | [] =>
    match t.placeAt (pathOf done) with
    | .directory => .ok (t, done)
    | .file => .error .alreadyExists
    | .nothing => .ok ({ t with directories := t.directories ++ [pathOf done] }, done)
  | s :: rest =>
    match t.placeAt (pathOf done) with
    | .directory => t.makeDirectories (step done s) rest
    | .file => .error .notADirectory
    | .nothing =>
      makeDirectories { t with directories := t.directories ++ [pathOf done] } (step done s) rest

/-- The tree with a directory at a path, and with those that it is in. -/
def makeDirectory (t : FileTree) (path : String) : Except Failure FileTree := do
  return (← t.makeDirectories [] (steps (← checked path))).1

/-- The tree without a file; the directory that it was in stays. -/
def remove (t : FileTree) (path : String) : FileTree where
  files := Table.erase t.files path
  directories :=
    let dir := Url.dirName path
    if t.directories.contains dir then t.directories else t.directories ++ [dir]

/-- The files that are in `new` and not, or not the same, in `t`. -/
def written (t new : FileTree) : Table ByteArray :=
  new.files.filter fun (path, bytes) => Table.get? t.files path != some bytes

/-- The files that are in `t` and not in `new`. -/
def removed (t new : FileTree) : List String :=
  (Table.keys t.files).filter fun path => !Table.has new.files path

end FileTree

end HtmlModules
