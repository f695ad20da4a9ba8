import HtmlModules.Text.Basic

/-!
# Slash-separated paths

Paths are texts; their segments are the parts between slashes. `normalize` drops empty segments and
`.` and lets `..` take back the segment before it. `relativePath` leads from one directory to a
path, both read from the same base directory.
-/

namespace HtmlModules.Url

open Text

/-- The segments of a path. -/
def segments (path : String) : List String := split '/' path

/-- The path made of the segments. -/
def ofSegments (parts : List String) : String := join "/" parts

/-- Adds one segment to the segments already read, which are in reverse order. In an absolute path
`..` does not climb above the root. -/
def pushSegment (absolute : Bool) (done : List String) (s : String) : List String :=
  if s = "" ∨ s = "." then done
  else if s ≠ ".." then s :: done
  else match done with
    | [] => if absolute then [] else [".."]
    | ".." :: rest => ".." :: ".." :: rest
    | _ :: rest => rest

/-- The segments that remain once empty ones, `.` and `..` are resolved. -/
def resolveSegments (absolute : Bool) (parts : List String) : List String :=
  (parts.foldl (pushSegment absolute) []).reverse

/-- The slashes that an absolute path keeps at its beginning: two stay two, any other number becomes
one. -/
def rootSlashes (path : String) : String :=
  if !startsWith path "/" then ""
  else if startsWith path "//" && !startsWith path "///" then "//" else "/"

/-- The normal form of a path; an empty one is `.`. -/
def normalize (path : String) : String :=
  let root := rootSlashes path
  let result := root ++ ofSegments (resolveSegments (root ≠ "") (segments path))
  if result = "" then "." else result

/-- `path` read from the directory `dir`. -/
def joinPath (dir path : String) : String :=
  if startsWith path "/" then path
  else if dir = "" || endsWith dir "/" then dir ++ path
  else dir ++ "/" ++ path

/-- The characters of a path up to and including its last slash. -/
def headChars (path : String) : List Char :=
  dropEndWhile (· ≠ '/') path.toList

/-- The directory of a path: what precedes the last slash, without trailing slashes. -/
def dirName (path : String) : String :=
  let head := headChars path
  if head.all (· == '/') then String.ofList head else String.ofList (dropEndWhile (· == '/') head)

/-- The last segment of a path. -/
def baseName (path : String) : String := String.ofList (path.toList.drop (headChars path).length)

/-- The segments of a path read from the directory `base` below the root. -/
def absoluteSegments (base : List String) (path : String) : List String :=
  if startsWith path "/" then resolveSegments true (segments path)
  else resolveSegments true (base ++ segments path)

/-- The way from the segments of a directory to those of a path. -/
def climb : List String → List String → List String
  | a :: start, b :: path =>
    if a = b then climb start path else (a :: start).map (fun _ => "..") ++ b :: path
  | start, path => start.map (fun _ => "..") ++ path

/-- A directory `n` levels below the root, whose name no path contains. -/
def nestedBase (n : Nat) : List String := List.replicate n "/"

/-- The path that leads from the directory `start` to `path`, both read from `base`. -/
def relativePath (base : List String) (path start : String) : String :=
  match climb (absoluteSegments base start) (absoluteSegments base path) with
  | [] => "."
  | parts => ofSegments parts

end HtmlModules.Url
