import StatsQuery.Main
import StatsQuery.Proofs.Fetch.Attempts
import StatsQuery.Proofs.Collection.Walk
import StatsQuery.Proofs.Collection.Honest
import StatsQuery.Proofs.Numeric.Rounding
import StatsQuery.Proofs.Json.Preorder
import StatsQuery.Proofs.Sort.Insertion
import StatsQuery.Proofs.Sort.Lexicographic
import StatsQuery.Proofs.View.Restriction
import StatsQuery.Proofs.Shaping.FilterFirst
import StatsQuery.Proofs.Calendar.Reading
import StatsQuery.Proofs.Expression.Reader
import StatsQuery.Proofs.Expression.Injective
import StatsQuery.Proofs.Report.Validation
import StatsQuery.Proofs.Report.Information
import StatsQuery.Proofs.Report.SinglePage
import StatsQuery.Proofs.Retry.Layers
import StatsQuery.Proofs.Text.Utf8
import StatsQuery.Proofs.Url.Decoding
import StatsQuery.Proofs.Url.Marks
import StatsQuery.Proofs.Url.Parts
import StatsQuery.Proofs.Url.Normal
import StatsQuery.Proofs.Report.Parameters
import StatsQuery.Proofs.Fetch.Success
import StatsQuery.Proofs.Collection.Bound
import StatsQuery.Proofs.Report.Origin
import StatsQuery.Proofs.Filter.Numbers
import StatsQuery.Proofs.Filter.Members
import StatsQuery.Proofs.Filter.Pairs
import StatsQuery.Proofs.Filter.AnyOf
import StatsQuery.Proofs.Shaping.Total
import StatsQuery.Proofs.View.Agreement
import StatsQuery.Proofs.Expression.Grammar
import StatsQuery.Proofs.Expression.Threshold
import StatsQuery.Proofs.Url.Slash
import StatsQuery.Proofs.Url.Blank
import StatsQuery.Proofs.Url.Outline
import StatsQuery.Proofs.Report.Endpoint
import StatsQuery.Proofs.Filter.Partition
import StatsQuery.Proofs.Sort.Mirror
import StatsQuery.Proofs.View.Composition
import StatsQuery.Proofs.Shaping.Idempotent
import StatsQuery.Proofs.Retry.Backoff
import StatsQuery.Proofs.Sort.Summary
import StatsQuery.Proofs.Json.Reading
import StatsQuery.Proofs.Sort.Parameter
import StatsQuery.Proofs.CommandLine.Reading
import StatsQuery.Proofs.CommandLine.Thresholds
import StatsQuery.Proofs.Calendar.Days
import StatsQuery.Proofs.Expression.Dates
import StatsQuery.Proofs.Expression.Quoted
import StatsQuery.Proofs.View.Selection
import StatsQuery.Proofs.Json.Tokens
import StatsQuery.Proofs.Json.Grammar
import StatsQuery.Proofs.Filter.Texts
import StatsQuery.Proofs.View.Gaps
import StatsQuery.Proofs.Json.Inverse
import StatsQuery.Proofs.Json.Records
import StatsQuery.Proofs.Report.Requests
import StatsQuery.Proofs.Report.Refusal
import StatsQuery.Proofs.Report.FirstPage
import StatsQuery.Proofs.Report.PageSize
