import RecordQuery.Calendar
import RecordQuery.Json.Decode
import RecordQuery.Json.Encode
import RecordQuery.Matching.Condition
import RecordQuery.Matching.Prepared
import RecordQuery.Matching.Reached
import RecordQuery.Number.Binary64
import RecordQuery.Number.Shortest
import RecordQuery.Parameters
import RecordQuery.Pattern.Search
import RecordQuery.Proofs.Query.Connectives
import RecordQuery.Proofs.Query.Locality
import RecordQuery.Proofs.Query.Precedence
import RecordQuery.Proofs.Query.Projection
import RecordQuery.Proofs.Query.RoundTrip
import RecordQuery.Query.Processing
import RecordQuery.Query.Store
import RecordQuery.Query.Tree
import RecordQuery.Records.Page
import RecordQuery.Records.Projection
import RecordQuery.Records.Sorting
import RecordQuery.Settings.Loading
import RecordQuery.Snapshot
import RecordQuery.Text.Blank
import RecordQuery.Text.Casing
import RecordQuery.Text.Digit
import RecordQuery.Text.Printable
import RecordQuery.Text.Word
import RecordQuery.Proofs.Query.Atomicity
import RecordQuery.Proofs.Query.Sharing
import RecordQuery.Proofs.Log.Following
import RecordQuery.Proofs.Records.Pipeline
import RecordQuery.Proofs.Query.Evaluation
import RecordQuery.Proofs.Filter.Occurring
import RecordQuery.Proofs.Json.Reordering
import RecordQuery.Proofs.Matching.Agreement
import RecordQuery.Proofs.Query.Equality
import RecordQuery.Proofs.Matching.Footprint
import RecordQuery.Proofs.Settings.Layers
import RecordQuery.Proofs.Query.Transport
import RecordQuery.Proofs.Records.RecordOrder
import RecordQuery.Proofs.Session.LoggerSettings
import RecordQuery.Proofs.Log.Routing
import RecordQuery.Proofs.Query.Refusals
import RecordQuery.Proofs.Matching.Failures
import RecordQuery.Proofs.Query.Failures
import RecordQuery.Proofs.Query.Shorthand
import RecordQuery.Proofs.Matching.Slashed
import RecordQuery.Proofs.Matching.Patterns
import RecordQuery.Proofs.Query.Patterns
import RecordQuery.Proofs.Tree.Targets
import RecordQuery.Proofs.Store.Roots
import RecordQuery.Proofs.Query.Overwriting
import RecordQuery.Proofs.Query.Operands
import RecordQuery.Proofs.Query.Mentions
import RecordQuery.Proofs.Query.Cutting
import RecordQuery.Proofs.Filter.Report
import RecordQuery.Proofs.Query.Reports
import RecordQuery.Proofs.Tree.Entrywise
import RecordQuery.Proofs.Store.Entrywise
import RecordQuery.Proofs.Matching.Inside
import RecordQuery.Proofs.Matching.Measures
import RecordQuery.Proofs.Query.Measures
import RecordQuery.Proofs.Query.Support
import RecordQuery.Proofs.Settings.Faults
import RecordQuery.Proofs.Session.Readings
import RecordQuery.Proofs.Log.Restoring
import RecordQuery.Proofs.Log.Enclosing
import RecordQuery.Proofs.Log.Lines
import RecordQuery.Proofs.Log.History
import RecordQuery.Proofs.Query.Numbers
