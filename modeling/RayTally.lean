import RayTally.Collector
import RayTally.Counter
import RayTally.Expectation
import RayTally.Files.Access
import RayTally.Files.Load
import RayTally.Files.Path
import RayTally.Files.Resolution
import RayTally.Files.System
import RayTally.Gate
import RayTally.Host
import RayTally.Json.Reader
import RayTally.Json.Value
import RayTally.Log.Record
import RayTally.Mismatch
import RayTally.Number.Binary64
import RayTally.Number.Fixed
import RayTally.Number.Scientific
import RayTally.Number.Shortest
import RayTally.Operation
import RayTally.Proofs.Acts
import RayTally.Proofs.Cleanup
import RayTally.Proofs.Counting
import RayTally.Proofs.Delivery
import RayTally.Proofs.Documents
import RayTally.Proofs.Files.Contents
import RayTally.Proofs.Files.Growth
import RayTally.Proofs.Files.Reloading
import RayTally.Proofs.Files.Resolution
import RayTally.Proofs.Files.Saving
import RayTally.Proofs.Installation
import RayTally.Proofs.Json.RoundTrip
import RayTally.Proofs.Json.Shapes
import RayTally.Proofs.Lifecycle
import RayTally.Proofs.Logging
import RayTally.Proofs.Number.Rounding
import RayTally.Proofs.Outputs
import RayTally.Proofs.Report.Acceptance
import RayTally.Proofs.Report.Faults
import RayTally.Proofs.Report.Layout
import RayTally.Proofs.Report.Limits
import RayTally.Proofs.Report.Line
import RayTally.Proofs.Report.Ratios
import RayTally.Proofs.Report.Rejection
import RayTally.Proofs.Report.RoundTrip
import RayTally.Proofs.Report.Truncation
import RayTally.Proofs.Sharing
import RayTally.Proofs.Stream.Buffering
import RayTally.Proofs.Stream.Lines
import RayTally.Proofs.Stream.Writing
import RayTally.Proofs.Text.Encoding
import RayTally.Proofs.Text.Field
import RayTally.Proofs.Workers.Balance
import RayTally.Proofs.Workers.Crew
import RayTally.Proofs.Workers.Snapshots
import RayTally.Proofs.Workers.Sums
import RayTally.Proofs.Yaml.Blocks
import RayTally.Proofs.Yaml.Lines
import RayTally.Proofs.Yaml.Mappings
import RayTally.Proofs.Yaml.Scalars
import RayTally.Proofs.Yaml.Tokens
import RayTally.Recorder
import RayTally.Report.Balance
import RayTally.Report.Efficiency
import RayTally.Report.Export
import RayTally.Report.Import
import RayTally.Report.Output
import RayTally.Report.Storage
import RayTally.Report.Summary
import RayTally.Session
import RayTally.Settings.Basic
import RayTally.Settings.Json
import RayTally.Settings.Storage
import RayTally.Settings.Yaml
import RayTally.Stream.Buffer
import RayTally.Stream.Failure
import RayTally.Stream.Sink
import RayTally.Stream.Source
import RayTally.Table
import RayTally.Tally
import RayTally.Tally.Json
import RayTally.Text.Blank
import RayTally.Text.Decimal
import RayTally.Text.Property
import RayTally.Text.Quoted
import RayTally.Text.Utf8
import RayTally.Update
import RayTally.Workers
import RayTally.Yaml.Character
import RayTally.Yaml.Node
import RayTally.Yaml.Plain
import RayTally.Yaml.Printer
import RayTally.Yaml.Scalar
import RayTally.Yaml.Token
