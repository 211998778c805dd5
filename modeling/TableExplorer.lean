import TableExplorer.Numeral.Significant
import TableExplorer.Numeral.Fixed
import TableExplorer.Binary64.CompensatedSum
import TableExplorer.Text.Blank
import TableExplorer.Text.DecimalDigit
import TableExplorer.Text.Fold
import TableExplorer.Amount.Style
import TableExplorer.Amount.Writing
import TableExplorer.Identifier
import TableExplorer.Dataset.Affinity
import TableExplorer.Grouping
import TableExplorer.Dataset.Store
import TableExplorer.Catalogue
import TableExplorer.View.Search
import TableExplorer.View.Page
import TableExplorer.Histogram
import TableExplorer.Dashboard.TableSummary
import TableExplorer.Dashboard.Aggregate
import TableExplorer.Export.Basic
import TableExplorer.Json.Basic
import TableExplorer.Json.Number
import TableExplorer.Json.Quoted
import TableExplorer.Json.Reader
import TableExplorer.Json.Writer
import TableExplorer.Json.Decoder
import TableExplorer.Interchange.Configuration
import TableExplorer.Interchange.Requests
import TableExplorer.Interchange.Answers
import TableExplorer.Explorer
import TableExplorer.Cli.Outcome
import TableExplorer.Storage.File
import TableExplorer.Main
import TableExplorer.Proofs.Text.Folding
import TableExplorer.Proofs.Dataset.Wildcards
import TableExplorer.Proofs.Dataset.Names
import TableExplorer.Proofs.View.FoldedSearch
import TableExplorer.Proofs.Sorting
import TableExplorer.Proofs.Binary64.Grid
import TableExplorer.Proofs.Binary64.Nearest
import TableExplorer.Proofs.Dataset.CellOrder
import TableExplorer.Proofs.View.Reading
import TableExplorer.Proofs.View.Pagination
import TableExplorer.Proofs.View.SortedView
import TableExplorer.Proofs.Dashboard.Axis
import TableExplorer.Proofs.Dashboard.MergedCounts
import TableExplorer.Proofs.Grouping
import TableExplorer.Proofs.Text.Bytes
import TableExplorer.Proofs.Dashboard.Groups
import TableExplorer.Proofs.Dashboard.TypeCounts
import TableExplorer.Proofs.Dashboard.Calendar
import TableExplorer.Proofs.Dashboard.Months
import TableExplorer.Proofs.Dashboard.Coverage
import TableExplorer.Proofs.Dashboard.Summary
import TableExplorer.Proofs.Dashboard.Exactness
import TableExplorer.Proofs.Statement.Tokens
import TableExplorer.Proofs.Statement.SearchClause
import TableExplorer.Proofs.Amount.Grouped
import TableExplorer.Proofs.Amount.RoundTrip
import TableExplorer.Proofs.Numeral.ReadBack
import TableExplorer.Proofs.Export.Numbers
import TableExplorer.Proofs.Dashboard.MergeOrder
import TableExplorer.Proofs.LargestItems
import TableExplorer.Proofs.Dashboard.TopAmounts
import TableExplorer.Proofs.Dataset.Relations
import TableExplorer.Proofs.View.UnseenRecords
import TableExplorer.Proofs.Dashboard.SingleTables
import TableExplorer.Proofs.Dashboard.UnseenRecords
import TableExplorer.Proofs.Dashboard.BrowsedTables
import TableExplorer.Proofs.Text.FoldedPieces
import TableExplorer.Proofs.Numeral.FifteenDigits
import TableExplorer.Proofs.Numeral.WrittenDigits
import TableExplorer.Proofs.Numeral.CastText
import TableExplorer.Proofs.View.ShownText
import TableExplorer.Proofs.Dashboard.AwardeeCounts
import TableExplorer.Proofs.Dashboard.MergedAwardees
import TableExplorer.Proofs.Dashboard.Labels
import TableExplorer.Proofs.Amount.Parts
import TableExplorer.Proofs.Amount.Detection
import TableExplorer.Proofs.Export.Records
import TableExplorer.Proofs.Text.ByteOrder
import TableExplorer.Proofs.Catalogue.TableNames
import TableExplorer.Proofs.Text.LowercaseSuffix
import TableExplorer.Proofs.Catalogue.AttachmentTables
import TableExplorer.Proofs.Amount.Cents
import TableExplorer.Proofs.Histogram.Buckets
import TableExplorer.Proofs.Histogram.Conservation
import TableExplorer.Proofs.Histogram.Labels
import TableExplorer.Proofs.Binary64.ExactSums
import TableExplorer.Proofs.Dashboard.MonthlySums
import TableExplorer.Proofs.Dashboard.TableAwardees
import TableExplorer.Proofs.Amount.Spellings
import TableExplorer.Proofs.View.SampledStyles
import TableExplorer.Proofs.SizeLimits
import TableExplorer.Proofs.Amount.Renderings
import TableExplorer.Proofs.View.PageArithmetic
import TableExplorer.Proofs.Text.FoldedForm
import TableExplorer.Proofs.View.VerbatimSearch
import TableExplorer.Proofs.Failures
import TableExplorer.Proofs.Amount.EuroNumerals
import TableExplorer.Proofs.Cli.ExportFiles
import TableExplorer.Proofs.Interchange.Overlay
import TableExplorer.Proofs.Interchange.Values
import TableExplorer.Proofs.ClippedStatements
