import HtmlModules.Markup.Event
import HtmlModules.Script.Template

/-!
# Writing markup

Start tags, script elements that hold modules, and the statements that put markup into the page when
a module runs.
-/

namespace HtmlModules.Markup

open Text

/-- The value of an attribute between double quotes. -/
def escapeValue (value : String) : String :=
  replaceAll (replaceAll value "&" "&amp;") "\"" "&quot;"

/-- An attribute behind a blank. -/
def Attribute.text (a : Attribute) : String :=
  match a.value with
  | none => " " ++ a.name
  | some v => s!" {a.name}=\"{escapeValue v}\""

/-- A start tag. -/
def startTag (tag : String) (attributes : List Attribute) : String :=
  "<" ++ tag ++ join "" (attributes.map Attribute.text) ++ ">"

/-- A script element that holds a module. -/
def moduleScript (code : String) : String :=
  startTag "script" [⟨"type", some "module"⟩] ++ "\n" ++ trimEnd (· == '\n') code ++ "\n</script>"

/-- A script element that loads a module. -/
def moduleLink (url : String) : String :=
  startTag "script" [⟨"type", some "module"⟩, ⟨"src", some url⟩] ++ "</script>"

/-- The name of the container of inserted markup. -/
def containerName : String := "$_documentContainer"

/-- Statements that read markup into a container and put it into the head or the body. -/
def insertionStatements (markup : String) (container : String := containerName)
    (inBody : Bool := false) : String :=
  let hide := if inBody then [] else [s!"{container}.setAttribute('style', 'display: none;');"]
  let place := if inBody then "body" else "head"
  join "\n" ([s!"const {container} = document.createElement('div');"] ++ hide ++
    [s!"{container}.innerHTML = {Script.templateLiteral markup false};",
      s!"document.{place}.appendChild({container});"])

end HtmlModules.Markup
