import HtmlModules.Failure
import HtmlModules.Url.Path

/-!
# Urls of documents and of modules

A document is named by its path below the root, a converted one by the same path behind `./`, with
`.js` for `.html`. `relativeUrl` leads from one converted url to another.
-/

namespace HtmlModules.Url

open Text

/-- The extension of documents. -/
def htmlExtension : String := ".html"

/-- The extension of modules. -/
def jsExtension : String := ".js"

/-- The url of the module that replaces a document; any other url stays. -/
def replaceHtmlExtension (url : String) : String :=
  match beforeEnd? url htmlExtension with
  | some stem => stem ++ jsExtension
  | none => url

/-- Starts at the root of the converted package. -/
def isAnchored (url : String) : Bool := startsWith url "./"

/-- Names a document before its conversion: a plain path below the root. -/
def isLegacy (url : String) : Bool :=
  !(startsWith url "./" || startsWith url "../" || startsWith url "/")

/-- Documents that are replaced by modules maintained by hand, with those modules. -/
def entrypointRemaps : List (String × String) :=
  [("shadycss/apply-shim.html", "shadycss/entrypoints/apply-shim.js"),
    ("shadycss/custom-style-interface.html", "shadycss/entrypoints/custom-style-interface.js")]

/-- Points a document that is replaced by hand at its module. -/
def remapEntrypoint (url : String) : String :=
  (entrypointRemaps.findSome? fun (document, module) =>
    (beforeEnd? url document).map (· ++ module)).getD url

/-- The url of a module that is maintained by hand. -/
def isProtected (url : String) : Bool := entrypointRemaps.any fun (_, module) => endsWith url module

/-- The url without `./` in front of it. -/
def dropAnchor (url : String) : String := (afterStart? url "./").getD url

/-- The url of one module as seen from another; both must be anchored. -/
def relativeUrl (source target : String) : Except Failure String :=
  if !isAnchored source || !isAnchored target then .error (.notAnchored source target)
  else
    -- so deep that neither url climbs above the root
    let base := nestedBase ((segments source).length + (segments target).length)
    let path := relativePath base target (dirName source)
    .ok (if startsWith path "." || startsWith path "/" then path else "./" ++ path)

end HtmlModules.Url
