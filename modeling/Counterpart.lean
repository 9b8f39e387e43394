import Counterpart.Argument.Value
import Counterpart.Binary.Double
import Counterpart.Binary.Format
import Counterpart.Binary.Numeral
import Counterpart.Binary.Shortest
import Counterpart.Case
import Counterpart.Command.Cases
import Counterpart.Command.Dispatch
import Counterpart.Command.Error
import Counterpart.Command.Host
import Counterpart.Command.Line
import Counterpart.Command.Options
import Counterpart.Command.Records
import Counterpart.Command.Run
import Counterpart.Command.Settings
import Counterpart.Comparison.Compare
import Counterpart.Comparison.Verdict
import Counterpart.Config
import Counterpart.Corpus.Error
import Counterpart.Corpus.Manifest
import Counterpart.Corpus.Registry
import Counterpart.Document
import Counterpart.Exchange.Driver
import Counterpart.Exchange.Encode
import Counterpart.Exchange.Error
import Counterpart.Exchange.Report
import Counterpart.Execution
import Counterpart.FileTree
import Counterpart.Generate.Basic
import Counterpart.Generate.Boundary
import Counterpart.Generate.Explicit
import Counterpart.Generate.Random
import Counterpart.Generate.Sets
import Counterpart.Harness.Case
import Counterpart.Harness.Pool
import Counterpart.Harness.Run
import Counterpart.Header.Definition
import Counterpart.Header.Expression
import Counterpart.Header.Library
import Counterpart.Header.Text
import Counterpart.History.Address
import Counterpart.History.Basic
import Counterpart.History.Database
import Counterpart.History.File
import Counterpart.History.Store
import Counterpart.History.Table
import Counterpart.Json.Basic
import Counterpart.Json.Read
import Counterpart.Json.Write
import Counterpart.Length.Expr
import Counterpart.Length.Read
import Counterpart.Length.Token
import Counterpart.Machine
import Counterpart.Main
import Counterpart.Path
import Counterpart.Power
import Counterpart.Proofs.Argument.Conforming
import Counterpart.Proofs.Argument.Elements
import Counterpart.Proofs.Argument.Readable
import Counterpart.Proofs.Binary.Infinity
import Counterpart.Proofs.Binary.NaN
import Counterpart.Proofs.Check
import Counterpart.Proofs.Comparison.Classified
import Counterpart.Proofs.Comparison.Equivalence
import Counterpart.Proofs.Comparison.Infinite
import Counterpart.Proofs.Comparison.Memory
import Counterpart.Proofs.Config.Layering
import Counterpart.Proofs.Corpus.Directory
import Counterpart.Proofs.Corpus.Loading
import Counterpart.Proofs.Corpus.Pairing
import Counterpart.Proofs.Corpus.Registration
import Counterpart.Proofs.Counting
import Counterpart.Proofs.Except
import Counterpart.Proofs.Exchange.Agreement
import Counterpart.Proofs.Exchange.Decoding
import Counterpart.Proofs.Exchange.DriverLines
import Counterpart.Proofs.Exchange.DriverReads
import Counterpart.Proofs.Exchange.DriverReports
import Counterpart.Proofs.Exchange.Groups
import Counterpart.Proofs.Exchange.Printing
import Counterpart.Proofs.Exchange.Reader
import Counterpart.Proofs.Exchange.Refusal
import Counterpart.Proofs.Exchange.ReportFits
import Counterpart.Proofs.Exchange.ReturnForms
import Counterpart.Proofs.Exchange.RoundTrip
import Counterpart.Proofs.Forall
import Counterpart.Proofs.Generate.Conform
import Counterpart.Proofs.Generate.Dimensions
import Counterpart.Proofs.Generate.Given
import Counterpart.Proofs.Generate.Lengths
import Counterpart.Proofs.Generate.Numbering
import Counterpart.Proofs.Generate.Ranges
import Counterpart.Proofs.Generate.Sample
import Counterpart.Proofs.Generate.Stable
import Counterpart.Proofs.Generate.Unbroken
import Counterpart.Proofs.Generate.Written
import Counterpart.Proofs.Harness.Interleaving
import Counterpart.Proofs.Harness.Keys
import Counterpart.Proofs.Harness.Misbehaviour
import Counterpart.Proofs.Harness.RunOrder
import Counterpart.Proofs.Header.Emitted
import Counterpart.Proofs.Header.Evaluation
import Counterpart.Proofs.Header.Line
import Counterpart.Proofs.Header.Meaning
import Counterpart.Proofs.Header.Reading
import Counterpart.Proofs.History.Baseline
import Counterpart.Proofs.History.Log
import Counterpart.Proofs.History.Migration
import Counterpart.Proofs.History.Opening
import Counterpart.Proofs.History.Regressions
import Counterpart.Proofs.History.Row
import Counterpart.Proofs.Json.RoundTrip
import Counterpart.Proofs.Length.Accepted
import Counterpart.Proofs.Length.Association
import Counterpart.Proofs.Length.Descent
import Counterpart.Proofs.Length.Expr
import Counterpart.Proofs.Length.Grammar
import Counterpart.Proofs.Length.Overflow
import Counterpart.Proofs.Length.Printing
import Counterpart.Proofs.Length.Token
import Counterpart.Proofs.Path.Follow
import Counterpart.Proofs.Path.Join
import Counterpart.Proofs.Pool.Account
import Counterpart.Proofs.Pool.Outcome
import Counterpart.Proofs.Pool.Progress
import Counterpart.Proofs.Pool.Schedule
import Counterpart.Proofs.Random.Draw
import Counterpart.Proofs.Record.RoundTrip
import Counterpart.Proofs.Rehearsal.Dependable
import Counterpart.Proofs.Report.CaseRows
import Counterpart.Proofs.Report.Conservation
import Counterpart.Proofs.Scalar.Integer
import Counterpart.Proofs.Scalar.Representation
import Counterpart.Proofs.Scalar.Value
import Counterpart.Proofs.Signature.Rules
import Counterpart.Proofs.Signature.Valid
import Counterpart.Proofs.Text.Blank
import Counterpart.Proofs.Text.Identifier
import Counterpart.Proofs.Text.Numeral
import Counterpart.Proofs.Text.Occurrence
import Counterpart.Proofs.Text.Padding
import Counterpart.Proofs.Text.Replace
import Counterpart.Proofs.Text.Utf8
import Counterpart.Proofs.Text.Words
import Counterpart.Proofs.Trial.Dependable
import Counterpart.Proofs.Trial.Diagnosis
import Counterpart.Proofs.Trial.Masking
import Counterpart.Proofs.Trial.Snapshots
import Counterpart.Proofs.ValueType.Accepted
import Counterpart.Proofs.ValueType.Grammar
import Counterpart.Proofs.ValueType.Printing
import Counterpart.Proofs.Word
import Counterpart.Proofs.Word.Splitting
import Counterpart.Proofs.Word.Widening
import Counterpart.Random.Digest
import Counterpart.Random.Draw
import Counterpart.Random.Stream
import Counterpart.Record.Basic
import Counterpart.Record.Execution
import Counterpart.Record.Report
import Counterpart.Record.Run
import Counterpart.Record.Signature
import Counterpart.Rehearsal.Bench
import Counterpart.Rehearsal.Script
import Counterpart.Rehearsal.World
import Counterpart.Report.Basic
import Counterpart.Report.Text
import Counterpart.Scalar.Type
import Counterpart.Scalar.Value
import Counterpart.Scalar.Vocabulary
import Counterpart.Signature.Basic
import Counterpart.Signature.Validate
import Counterpart.Text.Blank
import Counterpart.Text.Hex
import Counterpart.Text.Identifier
import Counterpart.Text.Lines
import Counterpart.Text.Numeral
import Counterpart.Text.Property
import Counterpart.Text.Quoted
import Counterpart.Text.Utf8
import Counterpart.Toolchain.Basic
import Counterpart.Toolchain.Compiler
import Counterpart.Trial.Bench
import Counterpart.Trial.Build
import Counterpart.Trial.Error
import Counterpart.Trial.Observe
import Counterpart.Trial.Run
import Counterpart.ValueType.Basic
import Counterpart.ValueType.Read
import Counterpart.Word
import Counterpart.Yaml.Layout
import Counterpart.Yaml.Node
import Counterpart.Yaml.Plain
import Counterpart.Yaml.Scalar
import Counterpart.Yaml.Token
