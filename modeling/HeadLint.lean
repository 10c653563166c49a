import HeadLint.Calendar
import HeadLint.Check.Census
import HeadLint.Check.Charset
import HeadLint.Check.DefaultStyle
import HeadLint.Check.Policy
import HeadLint.Check.Pragma
import HeadLint.Check.Preload
import HeadLint.Check.Problem
import HeadLint.Check.Viewport
import HeadLint.Config
import HeadLint.Decimal.Binary64
import HeadLint.Decimal.Fixed
import HeadLint.Decimal.Literal
import HeadLint.Decimal.Shortest
import HeadLint.Decimal.Whole
import HeadLint.Element.Basic
import HeadLint.Element.Kinds
import HeadLint.Entries
import HeadLint.Json.Display
import HeadLint.Json.Equality
import HeadLint.Json.Reader
import HeadLint.Json.Value
import HeadLint.Lint.Batch
import HeadLint.Lint.Catalog
import HeadLint.Lint.Diagnostic
import HeadLint.Lint.Edit
import HeadLint.Lint.Fixing
import HeadLint.Lint.Linter
import HeadLint.Lint.Rule
import HeadLint.Lint.Rules.Loading
import HeadLint.Lint.Rules.Settings
import HeadLint.Lint.Rules.Structure
import HeadLint.Lint.Rules.Trial
import HeadLint.Lint.Template
import HeadLint.Lint.Template.Fault
import HeadLint.Lint.Template.Path
import HeadLint.Lint.Template.Render
import HeadLint.Lint.Template.Spec
import HeadLint.LoadOrder.Category
import HeadLint.LoadOrder.Inversion
import HeadLint.Logging
import HeadLint.Markup.Document
import HeadLint.Markup.Locate
import HeadLint.Markup.NamedReferences
import HeadLint.Markup.Node
import HeadLint.Markup.Reference
import HeadLint.Markup.StartTag
import HeadLint.Markup.Token
import HeadLint.Preset
import HeadLint.Proofs.Entries
import HeadLint.Proofs.Lint.Provenance
import HeadLint.Proofs.Lint.Removal
import HeadLint.Proofs.Lint.Replacement
import HeadLint.Proofs.Markup.Building
import HeadLint.Proofs.Markup.Document
import HeadLint.Proofs.Markup.Enclosure
import HeadLint.Proofs.Markup.Extent
import HeadLint.Proofs.Markup.Forest
import HeadLint.Proofs.Markup.ForestExtent
import HeadLint.Proofs.Markup.Outline
import HeadLint.Proofs.Markup.Position
import HeadLint.Proofs.Markup.Progress
import HeadLint.Proofs.Markup.Reading
import HeadLint.Proofs.Markup.Revision
import HeadLint.Proofs.Markup.RoundTrip
import HeadLint.Proofs.Markup.Siblings
import HeadLint.Proofs.Markup.Slot
import HeadLint.Proofs.Text.Case
import HeadLint.Proofs.Text.Runs
import HeadLint.Proofs.Trial.Encoding
import HeadLint.Proofs.Trial.RoundTrip
import HeadLint.Schema
import HeadLint.Span
import HeadLint.Text.Base64
import HeadLint.Text.Blank
import HeadLint.Text.CaseData
import HeadLint.Text.Digit
import HeadLint.Text.Hidden
import HeadLint.Text.Lower
import HeadLint.Text.SameLetter
import HeadLint.Text.Search
import HeadLint.Text.Utf8
import HeadLint.Timestamp
import HeadLint.Trial.Token
import HeadLint.Trial.Verdict
import HeadLint.Url.Basic
import HeadLint.Url.Host
import HeadLint.Url.Origin
import HeadLint.Url.Resolve
import HeadLint.Proofs.Lint.Relocation
import HeadLint.Proofs.Markup.ByteOrderMark
import HeadLint.Proofs.Markup.Nesting
import HeadLint.Proofs.Lint.ByteOrderMark
import HeadLint.Proofs.Json.Overflow
import HeadLint.Proofs.Trial.Overflow
import HeadLint.Proofs.Markup.Agreement
import HeadLint.Proofs.Markup.LineTable
import HeadLint.Proofs.Lint.Signature
import HeadLint.Proofs.Lint.Independence
import HeadLint.Proofs.Lint.AutomaticEdits
import HeadLint.Proofs.Lint.Bookkeeping
import HeadLint.Proofs.Lint.LetterCase
import HeadLint.Proofs.Text.Pieces
import HeadLint.Proofs.Lint.Registration
import HeadLint.Proofs.Check.Viewport
import HeadLint.Proofs.Lint.Declarations
import HeadLint.Proofs.Lint.Mending
import HeadLint.Proofs.Url.Origin
import HeadLint.Proofs.Element
import HeadLint.Proofs.Check.Directives
import HeadLint.Proofs.Check.Charset
import HeadLint.Proofs.Calendar
import HeadLint.Proofs.Timestamp
import HeadLint.Proofs.Trial.Verdict
import HeadLint.Proofs.Lint.WholeLines
import HeadLint.Proofs.LoadOrder.Overlap
import HeadLint.Proofs.Check.Preload
import HeadLint.Proofs.Check.Census
import HeadLint.Proofs.Lint.Counting
import HeadLint.Proofs.LoadOrder.Kinds
import HeadLint.Proofs.LoadOrder.Arrangement
import HeadLint.Proofs.Check.Policy
import HeadLint.Proofs.Lint.Coverage
import HeadLint.Proofs.Check.CharsetRange
import HeadLint.Proofs.Lint.Configuration
import HeadLint.Proofs.Lint.Filling
import HeadLint.Proofs.Url.Reference
import HeadLint.Proofs.Url.Spelling
