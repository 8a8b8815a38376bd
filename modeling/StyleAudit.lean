import StyleAudit.Binary64.Basic
import StyleAudit.Binary64.Literal
import StyleAudit.Binary64.Shortest
import StyleAudit.Catalog.All
import StyleAudit.Catalog.Blinking
import StyleAudit.Catalog.ColorPairs
import StyleAudit.Catalog.ContainerWidth
import StyleAudit.Catalog.FontSize
import StyleAudit.Catalog.Justification
import StyleAudit.Catalog.LineSpacing
import StyleAudit.Catalog.TextAlignment
import StyleAudit.Catalog.TextStyling
import StyleAudit.Command.Argument
import StyleAudit.Command.Basic
import StyleAudit.Command.Execution
import StyleAudit.Css.Color
import StyleAudit.Css.Component
import StyleAudit.Css.InlineStyle
import StyleAudit.Css.Property
import StyleAudit.Css.Token
import StyleAudit.Css.Written
import StyleAudit.Failure
import StyleAudit.Html.Document
import StyleAudit.Html.Reference
import StyleAudit.Html.Tags
import StyleAudit.Html.Token
import StyleAudit.Json.Basic
import StyleAudit.Json.Printer
import StyleAudit.Json.Reader
import StyleAudit.Json.Record
import StyleAudit.Json.Token
import StyleAudit.Keyed
import StyleAudit.Listing
import StyleAudit.Main
import StyleAudit.Page.Basic
import StyleAudit.Page.ElementMap
import StyleAudit.Page.Html
import StyleAudit.Page.Json
import StyleAudit.Page.Mapping
import StyleAudit.Page.Markup
import StyleAudit.Page.Order
import StyleAudit.Page.Tree
import StyleAudit.Proofs.Catalog.Alignment
import StyleAudit.Proofs.Catalog.Blinking
import StyleAudit.Proofs.Catalog.Combination
import StyleAudit.Proofs.Catalog.Evidence
import StyleAudit.Proofs.Catalog.Justification
import StyleAudit.Proofs.Catalog.Shortcut
import StyleAudit.Proofs.Catalog.View
import StyleAudit.Proofs.ColorPairs.Ancestry
import StyleAudit.Proofs.ColorPairs.Evidence
import StyleAudit.Proofs.ColorPairs.Fault
import StyleAudit.Proofs.ColorPairs.Pairing
import StyleAudit.Proofs.ColorPairs.Search
import StyleAudit.Proofs.History
import StyleAudit.Proofs.Html.Building
import StyleAudit.Proofs.Html.Closing
import StyleAudit.Proofs.Html.LineBreaks
import StyleAudit.Proofs.Html.Opening
import StyleAudit.Proofs.Html.Reference
import StyleAudit.Proofs.Html.Reading
import StyleAudit.Proofs.Html.Token
import StyleAudit.Proofs.Isolation
import StyleAudit.Proofs.Json.Divided
import StyleAudit.Proofs.Json.Enclosed
import StyleAudit.Proofs.Json.Faults
import StyleAudit.Proofs.Json.Fields
import StyleAudit.Proofs.Json.Nulls
import StyleAudit.Proofs.Json.Numeral
import StyleAudit.Proofs.Json.Reading
import StyleAudit.Proofs.Json.Record
import StyleAudit.Proofs.Json.Settled
import StyleAudit.Proofs.Json.Written
import StyleAudit.Proofs.Keyed
import StyleAudit.Proofs.Ledger
import StyleAudit.Proofs.Nesting
import StyleAudit.Proofs.Page.Descent
import StyleAudit.Proofs.Page.ElementMap
import StyleAudit.Proofs.Page.Forest
import StyleAudit.Proofs.Page.Listing
import StyleAudit.Proofs.Page.Marked
import StyleAudit.Proofs.Page.Number
import StyleAudit.Proofs.Page.Numbered
import StyleAudit.Proofs.Page.Outline
import StyleAudit.Proofs.Page.Place
import StyleAudit.Proofs.Page.Rendering
import StyleAudit.Proofs.Page.RoundTrip
import StyleAudit.Proofs.Page.Twins
import StyleAudit.Proofs.Report.BrokenEvidence
import StyleAudit.Proofs.Report.Fairness
import StyleAudit.Proofs.Report.Flagged
import StyleAudit.Proofs.Report.LastLine
import StyleAudit.Proofs.Report.Levels
import StyleAudit.Proofs.Report.Log
import StyleAudit.Proofs.Report.Regions
import StyleAudit.Proofs.Report.RoundTrip
import StyleAudit.Proofs.Report.Superseded
import StyleAudit.Proofs.Report.Totals
import StyleAudit.Proofs.Roster
import StyleAudit.Proofs.Schedule.Invariant
import StyleAudit.Proofs.Schedule.Machine
import StyleAudit.Proofs.Schedule.Runs
import StyleAudit.Proofs.Selection.Filter
import StyleAudit.Proofs.Selection.Merging
import StyleAudit.Proofs.Selection.Naming
import StyleAudit.Proofs.Selection.Spelling
import StyleAudit.Proofs.Selector.Plain
import StyleAudit.Proofs.Stylesheet.Forms
import StyleAudit.Proofs.Stylesheet.Loading
import StyleAudit.Proofs.Stylesheet.Nulls
import StyleAudit.Proofs.Stylesheet.Order
import StyleAudit.Proofs.Stylesheet.Siblings
import StyleAudit.Proofs.Stylesheet.Spoiled
import StyleAudit.Proofs.Stylesheet.Visits
import StyleAudit.Proofs.Technique.Bookkeeping
import StyleAudit.Proofs.Technique.Evidence
import StyleAudit.Proofs.Technique.Json
import StyleAudit.Proofs.Text.Lines
import StyleAudit.Proofs.Text.Spelling
import StyleAudit.Proofs.Text.Words
import StyleAudit.Proofs.Verdicts
import StyleAudit.Report.Basic
import StyleAudit.Report.Format
import StyleAudit.Report.Json
import StyleAudit.Report.Sarif
import StyleAudit.Report.Text
import StyleAudit.Roster
import StyleAudit.Run
import StyleAudit.Selection.Basic
import StyleAudit.Selection.File
import StyleAudit.Selector.Basic
import StyleAudit.Selector.Matching
import StyleAudit.Selector.Positions
import StyleAudit.Selector.Reader
import StyleAudit.Stylesheet.Basic
import StyleAudit.Stylesheet.Reader
import StyleAudit.Stylesheet.Visitor
import StyleAudit.Stylesheet.Walk
import StyleAudit.Technique.Basic
import StyleAudit.Technique.Descriptor
import StyleAudit.Technique.Finding
import StyleAudit.Technique.Json
import StyleAudit.Technique.Ledger
import StyleAudit.Technique.Verdict
import StyleAudit.Text.Blank
import StyleAudit.Text.CaseTables
import StyleAudit.Text.CasedRanges
import StyleAudit.Text.Casing
import StyleAudit.Text.HiddenRanges
import StyleAudit.Text.Quoted
import StyleAudit.Text.Search
import StyleAudit.Toml.Reader
import StyleAudit.Toml.Scalar
import StyleAudit.Toml.Table
import StyleAudit.Yaml.Node
import StyleAudit.Yaml.Scalar
import StyleAudit.Yaml.Token
import StyleAudit.Proofs.Page.Escaping
import StyleAudit.Proofs.Page.Repeats
import StyleAudit.Proofs.Stylesheet.Rendering
import StyleAudit.Proofs.Binary64.Literal
import StyleAudit.Proofs.Catalog.LineSpacing
