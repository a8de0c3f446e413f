import ThreatScan.Assess.Blend
import ThreatScan.Assess.Malware
import ThreatScan.Assess.Quality
import ThreatScan.Assess.Scorer
import ThreatScan.Catalog.Basic
import ThreatScan.Catalog.Code
import ThreatScan.Catalog.Indicators
import ThreatScan.Catalog.Malware
import ThreatScan.Catalog.Signature
import ThreatScan.Command.Line
import ThreatScan.Command.Run
import ThreatScan.Console.Report
import ThreatScan.Console.Table
import ThreatScan.Console.Wrap
import ThreatScan.Data.Decode
import ThreatScan.Data.Numeral
import ThreatScan.Data.Records
import ThreatScan.Engine.Basic
import ThreatScan.Engine.Session
import ThreatScan.Engine.Setup
import ThreatScan.Failure
import ThreatScan.Finding
import ThreatScan.Json.Basic
import ThreatScan.Json.Parser
import ThreatScan.Json.Printer
import ThreatScan.Level
import ThreatScan.Log.Event
import ThreatScan.Log.Record
import ThreatScan.Log.Redaction
import ThreatScan.Log.Template
import ThreatScan.Log.Traced
import ThreatScan.Main
import ThreatScan.Number.Binary64
import ThreatScan.Number.BinaryLog
import ThreatScan.Number.Decimal
import ThreatScan.Pattern.Basic
import ThreatScan.Pattern.CharClass
import ThreatScan.Pattern.Occurrence
import ThreatScan.Pattern.Start
import ThreatScan.Report.Advice
import ThreatScan.Report.Assembly
import ThreatScan.Report.Basic
import ThreatScan.Report.Document
import ThreatScan.Report.Nature
import ThreatScan.Report.Timestamp
import ThreatScan.Scan.Digest
import ThreatScan.Scan.Entropy
import ThreatScan.Scan.Indication
import ThreatScan.Scan.Matching
import ThreatScan.Scan.Sampler
import ThreatScan.Scan.Twister
import ThreatScan.Scan.Verdict
import ThreatScan.Service
import ThreatScan.Settings.Basic
import ThreatScan.Settings.EnvFile
import ThreatScan.Settings.Load
import ThreatScan.Text.Basic
import ThreatScan.Text.Blank
import ThreatScan.Text.Case
import ThreatScan.Text.CaseTable
import ThreatScan.Text.CellTable
import ThreatScan.Text.Cells
import ThreatScan.Text.HiddenTable
import ThreatScan.Text.Quoted
import ThreatScan.Text.Utf8
import ThreatScan.Text.WordTable
import ThreatScan.Version
import ThreatScan.Violation
import ThreatScan.Workspace.Basic
import ThreatScan.Workspace.Path
import ThreatScan.Proofs.Assess.Answer
import ThreatScan.Proofs.Assess.Evidence
import ThreatScan.Proofs.Assess.Growth
import ThreatScan.Proofs.Assess.Malware
import ThreatScan.Proofs.Assess.Quality
import ThreatScan.Proofs.Assess.Surroundings
import ThreatScan.Proofs.Catalog.Case
import ThreatScan.Proofs.Catalog.Code
import ThreatScan.Proofs.Catalog.Flow
import ThreatScan.Proofs.Catalog.Layout
import ThreatScan.Proofs.Catalog.Malware
import ThreatScan.Proofs.Command.Run
import ThreatScan.Proofs.Data.Decode
import ThreatScan.Proofs.Data.RoundTrip
import ThreatScan.Proofs.Engine.Accounts
import ThreatScan.Proofs.Engine.Agreement
import ThreatScan.Proofs.Engine.Answer
import ThreatScan.Proofs.Engine.Audit
import ThreatScan.Proofs.Engine.Case
import ThreatScan.Proofs.Engine.Clean
import ThreatScan.Proofs.Engine.Code
import ThreatScan.Proofs.Engine.Consistency
import ThreatScan.Proofs.Engine.Errors
import ThreatScan.Proofs.Engine.File
import ThreatScan.Proofs.Engine.Findings
import ThreatScan.Proofs.Engine.Growth
import ThreatScan.Proofs.Engine.Interleaving
import ThreatScan.Proofs.Engine.Layout
import ThreatScan.Proofs.Engine.Outcome
import ThreatScan.Proofs.Engine.Padding
import ThreatScan.Proofs.Engine.Quality
import ThreatScan.Proofs.Engine.Secondary
import ThreatScan.Proofs.Engine.Session
import ThreatScan.Proofs.Json.Number
import ThreatScan.Proofs.Json.RoundTrip
import ThreatScan.Proofs.Json.Written
import ThreatScan.Proofs.Log.Assignment
import ThreatScan.Proofs.Log.Bearer
import ThreatScan.Proofs.Log.Record
import ThreatScan.Proofs.Log.Redaction
import ThreatScan.Proofs.Log.Rewriting
import ThreatScan.Proofs.Log.Template
import ThreatScan.Proofs.Number.Bounds
import ThreatScan.Proofs.Number.Counting
import ThreatScan.Proofs.Number.Exact
import ThreatScan.Proofs.Number.Numerals
import ThreatScan.Proofs.Number.Order
import ThreatScan.Proofs.Number.Rising
import ThreatScan.Proofs.Number.Rounding
import ThreatScan.Proofs.Number.Shortest
import ThreatScan.Proofs.Pattern.Alternatives
import ThreatScan.Proofs.Pattern.Ends
import ThreatScan.Proofs.Pattern.Extension
import ThreatScan.Proofs.Pattern.Image
import ThreatScan.Proofs.Pattern.Language
import ThreatScan.Proofs.Pattern.Margin
import ThreatScan.Proofs.Pattern.Occurrence
import ThreatScan.Proofs.Pattern.Packing
import ThreatScan.Proofs.Pattern.Places
import ThreatScan.Proofs.Pattern.Respaced
import ThreatScan.Proofs.Pattern.Runs
import ThreatScan.Proofs.Pattern.Sturdy
import ThreatScan.Proofs.Pattern.Surroundings
import ThreatScan.Proofs.Pattern.Words
import ThreatScan.Proofs.Report.Assembly
import ThreatScan.Proofs.Report.RoundTrip
import ThreatScan.Proofs.Report.Summary
import ThreatScan.Proofs.Report.Timestamp
import ThreatScan.Proofs.Scan.Entropy
import ThreatScan.Proofs.Scan.Findings
import ThreatScan.Proofs.Scan.Frequencies
import ThreatScan.Proofs.Scan.Indication
import ThreatScan.Proofs.Scan.Lines
import ThreatScan.Proofs.Scan.Matching
import ThreatScan.Proofs.Scan.Obfuscation
import ThreatScan.Proofs.Scan.Sampler
import ThreatScan.Proofs.Scan.Verdict
import ThreatScan.Proofs.Scan.Words
import ThreatScan.Proofs.Service.Routes
import ThreatScan.Proofs.Text.Basic
import ThreatScan.Proofs.Text.Blank
import ThreatScan.Proofs.Text.Capitals
import ThreatScan.Proofs.Text.Case
import ThreatScan.Proofs.Text.Decoding
import ThreatScan.Proofs.Text.Lines
import ThreatScan.Proofs.Text.Spelling
import ThreatScan.Proofs.Text.Utf8
