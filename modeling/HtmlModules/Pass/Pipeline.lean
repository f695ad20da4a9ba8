import HtmlModules.Pass.Export
import HtmlModules.Pass.Finish
import HtmlModules.Pass.GlobalThis
import HtmlModules.Pass.Hazard
import HtmlModules.Pass.Import
import HtmlModules.Pass.Inline
import HtmlModules.Pass.Insertion
import HtmlModules.Pass.Order
import HtmlModules.Pass.Receiver
import HtmlModules.Pass.Reference
import HtmlModules.Pass.Substitution
import HtmlModules.Pass.Unwrap

/-!
# Pipelines

A pipeline is a list of stages, each of which is a pass. They run in the order that their
requirements ask for; a requirement that is not in the list is ignored.

The scan of a document leaves out most stages, and with them the requirements that would make the
exports wait for the unwrapping: it sees the exports outside of wrappers.
-/

namespace HtmlModules

/-- The stages of a conversion. -/
inductive Stage where
  | globalThis
  | unwrap
  | inlineTemplates
  | collectReferences
  | exportNamespaces
  | namespaceThis
  | substitutePaths
  | insertMarkup
  | bindImports
  | reportHazards
  | finish
deriving DecidableEq, Repr

namespace Stage

/-- The stages that a stage builds on. -/
def requires : Stage → List Stage
  | .globalThis => []
  | .unwrap => [.globalThis]
  | .inlineTemplates => [.unwrap]
  | .collectReferences => [.unwrap, .inlineTemplates]
  | .exportNamespaces => [.collectReferences]
  | .namespaceThis => [.exportNamespaces]
  | .substitutePaths => [.namespaceThis]
  | .insertMarkup => [.inlineTemplates, .substitutePaths]
  | .bindImports => [.substitutePaths, .insertMarkup]
  | .reportHazards => [.bindImports]
  | .finish => [.reportHazards]

/-- The pass of a stage. -/
def run : Stage → String → Pass.Step String
  | .globalThis => Pass.globalThis
  | .unwrap => Pass.unwrap
  | .inlineTemplates => Pass.inlineTemplates
  | .collectReferences => Pass.collectReferences
  | .exportNamespaces => Pass.exportNamespaces
  | .namespaceThis => Pass.namespaceThis
  | .substitutePaths => Pass.substitutePaths
  | .insertMarkup => Pass.insertMarkup
  | .bindImports => Pass.bindImports
  | .reportHazards => Pass.reportHazards
  | .finish => Pass.finish

end Stage

/-- A list of stages. -/
abbrev Pipeline := List Stage

namespace Pipeline

/-- The stages that turn a document into a module. -/
def forModule : Pipeline :=
  [.globalThis, .unwrap, .inlineTemplates, .collectReferences, .exportNamespaces, .namespaceThis,
    .substitutePaths, .insertMarkup, .bindImports, .reportHazards, .finish]

/-- The stages that turn an inline script into a module. -/
def forInlineScript : Pipeline :=
  [.globalThis, .unwrap, .collectReferences, .exportNamespaces, .namespaceThis, .substitutePaths,
    .bindImports, .reportHazards, .finish]

/-- The stages that find out what a document will export. -/
def forScan : Pipeline := [.globalThis, .unwrap, .inlineTemplates, .exportNamespaces]

/-- The stages in the order in which they run, if there is one. -/
def ordered? (p : Pipeline) : Option (List Stage) := Pass.readyOrder? Stage.requires p

/-- What a run leaves behind: the text after each stage that finished, the findings, and
why the run ended early, if it did. -/
structure Run where
  texts : List (Stage × String)
  findings : Pass.Findings
  failure : Option Failure := none

/-- Runs stages one after the other on a text. -/
def runFrom (c : Pass.Context) (findings : Pass.Findings) (source : String) : List Stage → Run
  | [] => { texts := [], findings }
  | p :: rest =>
    match p.run source c findings with
    | .ok text findings =>
      let later := runFrom c findings text rest
      { later with texts := (p, text) :: later.texts }
    | .error failure findings => { texts := [], findings, failure := some failure }

/-- Runs a pipeline on a program. -/
def run (p : Pipeline) (c : Pass.Context) (source : String) : Run :=
  match p.ordered? with
  | some stages => runFrom c (.start source) source stages
  | none => { texts := [], findings := .start source, failure := some .noOrder }

/-- The text after the last stage that finished. -/
def Run.text (r : Run) (source : String) : String :=
  (r.texts.getLast?.map Prod.snd).getD source

end Pipeline

end HtmlModules
