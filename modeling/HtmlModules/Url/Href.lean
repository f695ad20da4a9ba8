import HtmlModules.Url.Path

/-!
# Links of documents

A link is read from the directory of the document it stands in. One that climbs out of the root
leads to the directory of the dependencies, where the siblings of the package are installed.
-/

namespace HtmlModules.Url

open Text

/-- What a link to another place than this package begins with. -/
def remoteStarts : List String := ["http:", "https:", "//", "data:", "mailto:", "javascript:"]

/-- The link leads to a file of this package or of its siblings. -/
def isLocal (href : String) : Bool := href ≠ "" && !remoteStarts.any (startsWith href)

/-- The link without its fragment and its query. -/
def pathPart (href : String) : String := before '?' (before '#' href)

/-- The path without the steps at its beginning that lead upwards. -/
def dropClimbs : Nat → String → String
  | 0, path => path
  | fuel + 1, path =>
    match afterStart? path "../" with
    | some rest => dropClimbs fuel rest
    | none => path

/-- The path below the root that a link of a document leads to. -/
def resolveHref (document href : String) (dependencyDir : Option String) : Option String :=
  let path := pathPart href
  if !isLocal href || path = "" then none
  else
    let joined := if startsWith path "/" then trimStart (· == '/') path
      else joinPath (dirName document) path
    let normal := normalize joined
    if startsWith normal "../" then
      dependencyDir.map fun dir => joinPath dir (dropClimbs normal.length normal)
    else some normal

end HtmlModules.Url
