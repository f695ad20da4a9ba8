import HtmlModules.Conversion.Basic
import HtmlModules.Manifest

/-!
# Documents that become modules

The scan of a document finds out what it will export; its conversion runs all passes over its
program.
-/

namespace HtmlModules

/-- What a document was converted to. -/
structure Converted where
  legacyUrl : String
  url : String
  outputPath : String
  kind : OutputKind
  text : String
  exports : List ExportRecord := []
deriving DecidableEq, Repr

/-- The output takes the place of the document under another path. -/
def Converted.replaces (r : Converted) : Bool := r.kind == .module

namespace Conversion

/-- Finds out what a document that becomes a module exports. -/
def scanModule (c : Conversion) (file : SourceFile) : Reporting ScanResult := do
  let p ← c.prepare file
  let (_, findings) ← Pipeline.forScan.convert (c.context p []) p.source
  return {
    legacyUrl := file.url, converted := p.moduleUrl, outputPath := Resolver.outputPath file.url
    kind := .module, exports := findings.exports }

/-- A document that stays a document exports nothing. -/
def scanDocument (c : Conversion) (file : SourceFile) : Reporting ScanResult := do
  let _ ← c.prepare file
  lookUp c.resolver file.url
  return {
    legacyUrl := file.url, converted := c.resolver.convertUrl file.url, outputPath := file.url
    kind := .document }

/-- Converts a document to a module. -/
def convertModule (c : Conversion) (registry : Registry) (file : SourceFile) :
    Reporting Converted := do
  let p ← c.prepare file
  let (text, findings) ← Pipeline.forModule.convert (c.context p registry) p.source
  return {
    legacyUrl := file.url, url := p.moduleUrl, outputPath := Resolver.outputPath file.url
    kind := .module, text, exports := findings.exports }

end Conversion

end HtmlModules
