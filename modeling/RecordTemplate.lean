import RecordTemplate.Cache.Md5
import RecordTemplate.Cache.Output
import RecordTemplate.Cache.Payload
import RecordTemplate.Calendar.Date
import RecordTemplate.Calendar.DateTime
import RecordTemplate.Calendar.Distance
import RecordTemplate.Calendar.Format
import RecordTemplate.Calendar.FreeForm
import RecordTemplate.Calendar.IsoReader
import RecordTemplate.Calendar.Locale
import RecordTemplate.Calendar.Timestamp
import RecordTemplate.Failure
import RecordTemplate.Filter.Basic
import RecordTemplate.Filter.Date
import RecordTemplate.Filter.List
import RecordTemplate.Filter.Number
import RecordTemplate.Filter.Registry
import RecordTemplate.Filter.Text
import RecordTemplate.Journal
import RecordTemplate.Number.Binary64
import RecordTemplate.Number.Decimal
import RecordTemplate.Number.Digits
import RecordTemplate.Number.Grouped
import RecordTemplate.Number.Integer
import RecordTemplate.Number.Reader
import RecordTemplate.Number.Shortest
import RecordTemplate.Proofs.Cache.Contents
import RecordTemplate.Proofs.Cache.Freshness
import RecordTemplate.Proofs.Cache.Keys
import RecordTemplate.Proofs.Cache.Payload
import RecordTemplate.Proofs.Calendar.Instants
import RecordTemplate.Proofs.Calendar.LargestUnit
import RecordTemplate.Proofs.Calendar.Limits
import RecordTemplate.Proofs.Calendar.Months
import RecordTemplate.Proofs.Calendar.Ordinals
import RecordTemplate.Proofs.Calendar.Seconds
import RecordTemplate.Proofs.Calendar.Written
import RecordTemplate.Proofs.Conditional.Blocks
import RecordTemplate.Proofs.Conditional.Counting
import RecordTemplate.Proofs.Conditional.FirstBlock
import RecordTemplate.Proofs.Conditional.Fragments
import RecordTemplate.Proofs.Conditional.Markers
import RecordTemplate.Proofs.Conditional.Matching
import RecordTemplate.Proofs.Conditional.NormalForm
import RecordTemplate.Proofs.Conditional.PairCount
import RecordTemplate.Proofs.Conditional.Refinement
import RecordTemplate.Proofs.Conditional.Seams
import RecordTemplate.Proofs.Conditional.Soundness
import RecordTemplate.Proofs.Conditional.Spelling
import RecordTemplate.Proofs.Conditional.Steps
import RecordTemplate.Proofs.Conditional.Tree
import RecordTemplate.Proofs.Failing
import RecordTemplate.Proofs.Filter.Chains
import RecordTemplate.Proofs.Filter.Context
import RecordTemplate.Proofs.Filter.Discretion
import RecordTemplate.Proofs.Filter.Failures
import RecordTemplate.Proofs.Filter.Items
import RecordTemplate.Proofs.Filter.Money
import RecordTemplate.Proofs.Filter.RelativeDate
import RecordTemplate.Proofs.Mirroring
import RecordTemplate.Proofs.Number.Denoted
import RecordTemplate.Proofs.Number.Exact
import RecordTemplate.Proofs.Number.Grouped
import RecordTemplate.Proofs.Number.Nearest
import RecordTemplate.Proofs.Number.Range
import RecordTemplate.Proofs.Number.Reader
import RecordTemplate.Proofs.Number.Rounding
import RecordTemplate.Proofs.Outcome
import RecordTemplate.Proofs.Pass.Accounting
import RecordTemplate.Proofs.Pass.Books
import RecordTemplate.Proofs.Pass.Checked
import RecordTemplate.Proofs.Pass.Clock
import RecordTemplate.Proofs.Pass.Completion
import RecordTemplate.Proofs.Pass.Events
import RecordTemplate.Proofs.Pass.Fallbacks
import RecordTemplate.Proofs.Pass.Fetching
import RecordTemplate.Proofs.Pass.Independence
import RecordTemplate.Proofs.Pass.Inertness
import RecordTemplate.Proofs.Pass.Lookup
import RecordTemplate.Proofs.Pass.Nesting
import RecordTemplate.Proofs.Pass.Outline
import RecordTemplate.Proofs.Pass.Plain
import RecordTemplate.Proofs.Pass.Privacy
import RecordTemplate.Proofs.Pass.Properties
import RecordTemplate.Proofs.Pass.Reductions
import RecordTemplate.Proofs.Pass.Transparency
import RecordTemplate.Proofs.Scan
import RecordTemplate.Proofs.Sequential
import RecordTemplate.Proofs.Source.Listing
import RecordTemplate.Proofs.Source.Unknown
import RecordTemplate.Proofs.Template.Absence
import RecordTemplate.Proofs.Template.Acceptance
import RecordTemplate.Proofs.Template.Agreement
import RecordTemplate.Proofs.Template.Conditions
import RecordTemplate.Proofs.Template.Grammar
import RecordTemplate.Proofs.Template.Printing
import RecordTemplate.Proofs.Template.Reread
import RecordTemplate.Proofs.Template.Split
import RecordTemplate.Proofs.Template.Splitting
import RecordTemplate.Proofs.Template.Tiling
import RecordTemplate.Proofs.Template.TopLevel
import RecordTemplate.Proofs.Text.Search
import RecordTemplate.Proofs.Value.Formatted
import RecordTemplate.Proofs.Value.Moments
import RecordTemplate.Proofs.Value.PublicView
import RecordTemplate.Proofs.Value.Reading
import RecordTemplate.Proofs.Widget.Caching
import RecordTemplate.Render.Diagnostic
import RecordTemplate.Render.Event
import RecordTemplate.Render.Pass
import RecordTemplate.Render.Reduction
import RecordTemplate.Render.Renderer
import RecordTemplate.Render.Resolver
import RecordTemplate.Render.Substitution
import RecordTemplate.Settings
import RecordTemplate.Source.Attachment
import RecordTemplate.Source.DataSource
import RecordTemplate.Source.FileText
import RecordTemplate.Template.Block
import RecordTemplate.Template.Chain
import RecordTemplate.Template.Condition
import RecordTemplate.Template.Fallback
import RecordTemplate.Template.Lint
import RecordTemplate.Template.Marker
import RecordTemplate.Template.Recogniser
import RecordTemplate.Template.Tag
import RecordTemplate.Template.Token
import RecordTemplate.Text.Case
import RecordTemplate.Text.CaseTable
import RecordTemplate.Text.CharClass
import RecordTemplate.Text.Charset.Big5Table
import RecordTemplate.Text.Charset.Chinese
import RecordTemplate.Text.Charset.Gb2312Table
import RecordTemplate.Text.Charset.GbkTable
import RecordTemplate.Text.Charset.HongKongTable
import RecordTemplate.Text.Charset.Iso2022
import RecordTemplate.Text.Charset.Japanese
import RecordTemplate.Text.Charset.JapaneseVendorTable
import RecordTemplate.Text.Charset.JisX0208Table
import RecordTemplate.Text.Charset.JisX0212Table
import RecordTemplate.Text.Charset.JisX0213Table
import RecordTemplate.Text.Charset.Korean
import RecordTemplate.Text.Charset.KsX1001Table
import RecordTemplate.Text.Charset.Reading
import RecordTemplate.Text.Charset.Run
import RecordTemplate.Text.Charset.SingleByte
import RecordTemplate.Text.Charset.SingleByteTable
import RecordTemplate.Text.Charset.Traditional
import RecordTemplate.Text.Encoding
import RecordTemplate.Text.Escaped
import RecordTemplate.Text.Html
import RecordTemplate.Text.LetterTable
import RecordTemplate.Text.PrintableTable
import RecordTemplate.Text.Punycode
import RecordTemplate.Text.Quoted
import RecordTemplate.Text.Search
import RecordTemplate.Text.Utf16
import RecordTemplate.Text.Utf7
import RecordTemplate.Text.Utf8
import RecordTemplate.Value.Attribute
import RecordTemplate.Value.Basic
import RecordTemplate.Value.Key
import RecordTemplate.Value.Literal
import RecordTemplate.Value.Reading
import RecordTemplate.Value.TermList
import RecordTemplate.Value.Text
import RecordTemplate.Widget
import RecordTemplate.Proofs.Filter.Stripping
import RecordTemplate.Proofs.Journal
import RecordTemplate.Proofs.Filter.Registrations
import RecordTemplate.Proofs.Source.FileText
