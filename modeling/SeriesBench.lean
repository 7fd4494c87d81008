import SeriesBench.CommandLine.Command
import SeriesBench.CommandLine.Directory
import SeriesBench.CommandLine.EnvFile
import SeriesBench.CommandLine.Job
import SeriesBench.CommandLine.LogFilter
import SeriesBench.CommandLine.Options
import SeriesBench.CommandLine.Session
import SeriesBench.Decimal.Shortest
import SeriesBench.Fleet.Catalog
import SeriesBench.Fleet.Host
import SeriesBench.Fleet.Simulator
import SeriesBench.Fleet.Writing
import SeriesBench.Json.Basic
import SeriesBench.Json.Token
import SeriesBench.Main
import SeriesBench.Pattern.Bracket
import SeriesBench.Pattern.Cursor
import SeriesBench.Pattern.Escape
import SeriesBench.Pattern.Fault
import SeriesBench.Pattern.Meaning
import SeriesBench.Pattern.Reader
import SeriesBench.Pattern.Span
import SeriesBench.Pattern.Tree
import SeriesBench.Plan.Accumulator
import SeriesBench.Plan.Basic
import SeriesBench.Plan.Planner
import SeriesBench.Plan.Statement
import SeriesBench.Plan.Text
import SeriesBench.PlanError
import SeriesBench.Point.Basic
import SeriesBench.Point.BulkRow
import SeriesBench.Point.LineProtocol
import SeriesBench.Point.Value
import SeriesBench.Point.Writing
import SeriesBench.Proofs.CommandLine.PlanRun
import SeriesBench.Proofs.CommandLine.QueryLines
import SeriesBench.Proofs.Failure
import SeriesBench.Proofs.Fleet.Catalog
import SeriesBench.Proofs.Fleet.Coverage
import SeriesBench.Proofs.Fleet.Hosts
import SeriesBench.Proofs.Fleet.Loading
import SeriesBench.Proofs.Fleet.Rounds
import SeriesBench.Proofs.Fleet.Tiling
import SeriesBench.Proofs.Json.Units
import SeriesBench.Proofs.Json.Values
import SeriesBench.Proofs.Plan.Attribution
import SeriesBench.Proofs.Plan.Defects
import SeriesBench.Proofs.Plan.Fold
import SeriesBench.Proofs.Plan.NewestFirst
import SeriesBench.Proofs.Plan.Run
import SeriesBench.Proofs.Plan.Scan
import SeriesBench.Proofs.Plan.Shapes
import SeriesBench.Proofs.Point.Decoding
import SeriesBench.Proofs.Point.Entries
import SeriesBench.Proofs.Point.Framing
import SeriesBench.Proofs.Point.LineDecoding
import SeriesBench.Proofs.Point.LineReader
import SeriesBench.Proofs.Point.Partition
import SeriesBench.Proofs.Point.Timestamps
import SeriesBench.Proofs.Point.Writing
import SeriesBench.Proofs.Query.Encoding
import SeriesBench.Proofs.Random.Distinct
import SeriesBench.Proofs.Random.Draws
import SeriesBench.Proofs.Series.IdText
import SeriesBench.Proofs.Series.Lookup
import SeriesBench.Proofs.StringMap
import SeriesBench.Proofs.Success
import SeriesBench.Proofs.Text.ByteLines
import SeriesBench.Proofs.Text.Bytes
import SeriesBench.Proofs.Text.Digits
import SeriesBench.Proofs.Text.Utf8
import SeriesBench.Proofs.Text.Words
import SeriesBench.Proofs.Time.Calendar
import SeriesBench.Proofs.Time.DateText
import SeriesBench.Proofs.Time.DurationText
import SeriesBench.Proofs.Time.Grid
import SeriesBench.Proofs.Time.InstantText
import SeriesBench.Proofs.Time.Overlap
import SeriesBench.Proofs.Time.Steady
import SeriesBench.Proofs.Workload.Asked
import SeriesBench.Proofs.Workload.History
import SeriesBench.Proofs.Workload.Opening
import SeriesBench.Proofs.Workload.Planned
import SeriesBench.Proofs.Workload.Reading
import SeriesBench.Proofs.Workload.Refusals
import SeriesBench.Proofs.Workload.Runs
import SeriesBench.Proofs.Workload.Sampler
import SeriesBench.Proofs.Workload.Windows
import SeriesBench.Query.Basic
import SeriesBench.Query.Encoding
import SeriesBench.Query.ForEvery
import SeriesBench.Query.Span
import SeriesBench.Query.TagFilter
import SeriesBench.Query.Text
import SeriesBench.Random.Generator
import SeriesBench.Random.Sample
import SeriesBench.Random.Uniform
import SeriesBench.Series.Basic
import SeriesBench.Series.Id
import SeriesBench.Series.Index
import SeriesBench.StringMap
import SeriesBench.Text.Alphabetic
import SeriesBench.Text.Alphanumeric
import SeriesBench.Text.Blank
import SeriesBench.Text.Number
import SeriesBench.Text.Quoted
import SeriesBench.Text.Split
import SeriesBench.Text.Unprintable
import SeriesBench.Text.Utf8
import SeriesBench.Time.Bucket
import SeriesBench.Time.Date
import SeriesBench.Time.Duration
import SeriesBench.Time.Instant
import SeriesBench.Time.Interval
import SeriesBench.Time.Rfc3339
import SeriesBench.Workload.Cassandra
import SeriesBench.Workload.QueryType
import SeriesBench.Workload.Registry
import SeriesBench.Workload.Sampler
import SeriesBench.Workload.UseCase
import SeriesBench.WorkloadError
import SeriesBench.Proofs.Time.LeapSeconds
import SeriesBench.Proofs.Workload.Room
import SeriesBench.Proofs.Workload.Hours
import SeriesBench.Proofs.Query.TagFilters
import SeriesBench.Proofs.Fleet.Growth
import SeriesBench.Proofs.Point.Clearing
import SeriesBench.Proofs.Query.ForEvery
import SeriesBench.Proofs.Text.Numerals
