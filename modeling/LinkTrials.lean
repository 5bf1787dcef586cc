import LinkTrials.Binary64.Basic
import LinkTrials.Coded
import LinkTrials.CommandLine.Arguments
import LinkTrials.CommandLine.Guide
import LinkTrials.CommandLine.Options
import LinkTrials.Decimal.Notation
import LinkTrials.Decimal.Shortest
import LinkTrials.Environment.Basic
import LinkTrials.Environment.Dotfile
import LinkTrials.Environment.Panic
import LinkTrials.Evaluation
import LinkTrials.Fault
import LinkTrials.Fault.Cause
import LinkTrials.Folder
import LinkTrials.Instant
import LinkTrials.Json.Decode
import LinkTrials.Json.Fields
import LinkTrials.Json.Reading
import LinkTrials.Json.Schema
import LinkTrials.Json.Value
import LinkTrials.Log.Entry
import LinkTrials.Log.Level
import LinkTrials.Log.Logger
import LinkTrials.Log.Run
import LinkTrials.Main
import LinkTrials.Measured
import LinkTrials.Medium
import LinkTrials.Percentile
import LinkTrials.Proofs.Binary64.Arithmetic
import LinkTrials.Proofs.Binary64.Nearest
import LinkTrials.Proofs.Binary64.Order
import LinkTrials.Proofs.Coded.Reading
import LinkTrials.Proofs.Decimal.Interval
import LinkTrials.Proofs.Decimal.Notation
import LinkTrials.Proofs.Decimal.Shortest
import LinkTrials.Proofs.Environment.Assignments
import LinkTrials.Proofs.Environment.Plain
import LinkTrials.Proofs.Evaluation.Amounts
import LinkTrials.Proofs.Evaluation.Improvement
import LinkTrials.Proofs.Evaluation.Locality
import LinkTrials.Proofs.Evaluation.Relaxation
import LinkTrials.Proofs.Evaluation.Reordering
import LinkTrials.Proofs.Evaluation.Shape
import LinkTrials.Proofs.Evaluation.Share
import LinkTrials.Proofs.Evaluation.Threshold
import LinkTrials.Proofs.Evaluation.Timeouts
import LinkTrials.Proofs.Evaluation.Totals
import LinkTrials.Proofs.Evaluation.Verdict
import LinkTrials.Proofs.Fault.Context
import LinkTrials.Proofs.Json.Finite
import LinkTrials.Proofs.Json.Members
import LinkTrials.Proofs.Json.Numbers
import LinkTrials.Proofs.Json.Places
import LinkTrials.Proofs.Json.Records
import LinkTrials.Proofs.Json.Rendering
import LinkTrials.Proofs.Json.Reread
import LinkTrials.Proofs.Json.Respelling
import LinkTrials.Proofs.Json.Scaled
import LinkTrials.Proofs.Json.Strings
import LinkTrials.Proofs.Log.Changes
import LinkTrials.Proofs.Log.Rereading
import LinkTrials.Proofs.Percentile.Bracket
import LinkTrials.Proofs.Percentile.Interpolation
import LinkTrials.Proofs.Percentile.Monotone
import LinkTrials.Proofs.Percentile.Ordered
import LinkTrials.Proofs.Percentile.Ranks
import LinkTrials.Proofs.Report.Figures
import LinkTrials.Proofs.Report.Lines
import LinkTrials.Proofs.Report.Rereading
import LinkTrials.Proofs.Report.RoundTrip
import LinkTrials.Proofs.Run.Ending
import LinkTrials.Proofs.Run.Secrecy
import LinkTrials.Proofs.Samples.Bounded
import LinkTrials.Proofs.Samples.History
import LinkTrials.Proofs.Samples.Latency
import LinkTrials.Proofs.Samples.Measured
import LinkTrials.Proofs.Samples.Unmeasured
import LinkTrials.Proofs.Settings.Amounts
import LinkTrials.Proofs.Settings.Content
import LinkTrials.Proofs.Settings.Layers
import LinkTrials.Proofs.Settings.Limits
import LinkTrials.Proofs.Settings.Merge
import LinkTrials.Proofs.Settings.Spelling
import LinkTrials.Proofs.Settings.Veil
import LinkTrials.Proofs.Text.Digits
import LinkTrials.Proofs.Text.Instants
import LinkTrials.Proofs.Text.Parts
import LinkTrials.Proofs.Trial.Summary
import LinkTrials.Report.Basic
import LinkTrials.Report.Record
import LinkTrials.Report.Rendering
import LinkTrials.Run.Basic
import LinkTrials.Run.Program
import LinkTrials.Samples
import LinkTrials.Series
import LinkTrials.Settings.Basic
import LinkTrials.Settings.Concern
import LinkTrials.Settings.Guide
import LinkTrials.Settings.Record
import LinkTrials.Settings.Sources
import LinkTrials.Settings.Variable
import LinkTrials.Setup
import LinkTrials.Span
import LinkTrials.SystemFault
import LinkTrials.Terminal
import LinkTrials.Text.Alphanumeric
import LinkTrials.Text.Blank
import LinkTrials.Text.Numeral
import LinkTrials.Text.Quoted
import LinkTrials.Text.UpperCase
import LinkTrials.Timeouts
import LinkTrials.Trial
