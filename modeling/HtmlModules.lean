import HtmlModules.Analysis.Basic
import HtmlModules.Analysis.Feature
import HtmlModules.Command.Basic
import HtmlModules.Command.Option
import HtmlModules.Conversion.Basic
import HtmlModules.Conversion.Module
import HtmlModules.Conversion.Page
import HtmlModules.Dependency.Basic
import HtmlModules.Dependency.Bundled
import HtmlModules.Diagnostic
import HtmlModules.Failure
import HtmlModules.Feature
import HtmlModules.FileTree
import HtmlModules.Filing
import HtmlModules.Identifier
import HtmlModules.Import
import HtmlModules.Json.Basic
import HtmlModules.Json.Decimal
import HtmlModules.Json.Display
import HtmlModules.Json.Key
import HtmlModules.Json.Printer
import HtmlModules.Json.Reader
import HtmlModules.Layout
import HtmlModules.Main
import HtmlModules.Manifest
import HtmlModules.Markup.Document
import HtmlModules.Markup.Entity
import HtmlModules.Markup.EntityNames
import HtmlModules.Markup.Event
import HtmlModules.Markup.Node
import HtmlModules.Markup.Printer
import HtmlModules.Package
import HtmlModules.PackageJson
import HtmlModules.Pass.Basic
import HtmlModules.Pass.Export
import HtmlModules.Pass.Finish
import HtmlModules.Pass.GlobalThis
import HtmlModules.Pass.Hazard
import HtmlModules.Pass.Import
import HtmlModules.Pass.Inline
import HtmlModules.Pass.Insertion
import HtmlModules.Pass.Order
import HtmlModules.Pass.Pipeline
import HtmlModules.Pass.Receiver
import HtmlModules.Pass.Reference
import HtmlModules.Pass.Substitution
import HtmlModules.Pass.Unwrap
import HtmlModules.Project
import HtmlModules.Proofs.Allocation
import HtmlModules.Proofs.Analysis
import HtmlModules.Proofs.Attribute
import HtmlModules.Proofs.Batch
import HtmlModules.Proofs.Binding
import HtmlModules.Proofs.Call
import HtmlModules.Proofs.Capture
import HtmlModules.Proofs.Combine
import HtmlModules.Proofs.Comment
import HtmlModules.Proofs.Conflict
import HtmlModules.Proofs.Constant
import HtmlModules.Proofs.Copying
import HtmlModules.Proofs.Cutting
import HtmlModules.Proofs.Dangling
import HtmlModules.Proofs.Declaring
import HtmlModules.Proofs.Diagnostic
import HtmlModules.Proofs.Directory
import HtmlModules.Proofs.Discovery
import HtmlModules.Proofs.Edit
import HtmlModules.Proofs.Embedding
import HtmlModules.Proofs.Emission
import HtmlModules.Proofs.Event
import HtmlModules.Proofs.Exclusion
import HtmlModules.Proofs.Export
import HtmlModules.Proofs.Failing
import HtmlModules.Proofs.Feature
import HtmlModules.Proofs.Filing
import HtmlModules.Proofs.Freshness
import HtmlModules.Proofs.Generation
import HtmlModules.Proofs.Grammar
import HtmlModules.Proofs.Grammatical
import HtmlModules.Proofs.Href
import HtmlModules.Proofs.Import
import HtmlModules.Proofs.Importing
import HtmlModules.Proofs.Inert
import HtmlModules.Proofs.Initializer
import HtmlModules.Proofs.Inlining
import HtmlModules.Proofs.Insertion
import HtmlModules.Proofs.Installed
import HtmlModules.Proofs.Isolation
import HtmlModules.Proofs.Laid
import HtmlModules.Proofs.Lifting
import HtmlModules.Proofs.Linking
import HtmlModules.Proofs.Listing
import HtmlModules.Proofs.Location
import HtmlModules.Proofs.Lookup
import HtmlModules.Proofs.Lossless
import HtmlModules.Proofs.Lowering
import HtmlModules.Proofs.Manifest
import HtmlModules.Proofs.Merging
import HtmlModules.Proofs.Mirroring
import HtmlModules.Proofs.Naming
import HtmlModules.Proofs.Nesting
import HtmlModules.Proofs.Offer
import HtmlModules.Proofs.Order
import HtmlModules.Proofs.Output
import HtmlModules.Proofs.Overriding
import HtmlModules.Proofs.Patch
import HtmlModules.Proofs.Path
import HtmlModules.Proofs.Phase
import HtmlModules.Proofs.Pipeline
import HtmlModules.Proofs.Placeholder
import HtmlModules.Proofs.Placement
import HtmlModules.Proofs.Project
import HtmlModules.Proofs.RawElement
import HtmlModules.Proofs.Reading
import HtmlModules.Proofs.Registry
import HtmlModules.Proofs.Relative
import HtmlModules.Proofs.Removal
import HtmlModules.Proofs.Reporting
import HtmlModules.Proofs.Resolution
import HtmlModules.Proofs.Resume
import HtmlModules.Proofs.Round
import HtmlModules.Proofs.Scanning
import HtmlModules.Proofs.Schedule
import HtmlModules.Proofs.Sealing
import HtmlModules.Proofs.Selection
import HtmlModules.Proofs.Setter
import HtmlModules.Proofs.Single
import HtmlModules.Proofs.Specifier
import HtmlModules.Proofs.Spelling
import HtmlModules.Proofs.Splicing
import HtmlModules.Proofs.StartTag
import HtmlModules.Proofs.Step
import HtmlModules.Proofs.Table
import HtmlModules.Proofs.Template
import HtmlModules.Proofs.Tree
import HtmlModules.Proofs.Untouched
import HtmlModules.Proofs.Unwrapping
import HtmlModules.Proofs.Validity
import HtmlModules.Proofs.Weaving
import HtmlModules.Proofs.Word
import HtmlModules.Registry
import HtmlModules.Script.Binding
import HtmlModules.Script.Comment
import HtmlModules.Script.Element
import HtmlModules.Script.Grammar.Basic
import HtmlModules.Script.Grammar.Function
import HtmlModules.Script.Grammar.Module
import HtmlModules.Script.Grammar.Operator
import HtmlModules.Script.Grammar.Pattern
import HtmlModules.Script.Grammar.Primary
import HtmlModules.Script.Grammar.Statement
import HtmlModules.Script.Lexer
import HtmlModules.Script.Node
import HtmlModules.Script.Program
import HtmlModules.Script.Reference
import HtmlModules.Script.Regex
import HtmlModules.Script.Regex.Escape
import HtmlModules.Script.Regex.Symbol
import HtmlModules.Script.Template
import HtmlModules.Script.Token
import HtmlModules.Script.Wrapper
import HtmlModules.Settings
import HtmlModules.Sorting
import HtmlModules.Table
import HtmlModules.Text.Alphabet
import HtmlModules.Text.Basic
import HtmlModules.Text.Blank
import HtmlModules.Text.CaseContext
import HtmlModules.Text.CharacterName
import HtmlModules.Text.CharacterName.Table
import HtmlModules.Text.CodeRange
import HtmlModules.Text.Edit
import HtmlModules.Text.Glob
import HtmlModules.Text.LetterCase
import HtmlModules.Text.Location
import HtmlModules.Text.Printable
import HtmlModules.Text.Quoted
import HtmlModules.Text.Surrogate
import HtmlModules.Text.Utf8
import HtmlModules.Url.Href
import HtmlModules.Url.Module
import HtmlModules.Url.Path
import HtmlModules.Workspace
