import Tabular.Axis
import Tabular.Cell.Basic
import Tabular.Cell.Order
import Tabular.CommandLine.Arguments
import Tabular.CommandLine.Run
import Tabular.Csv.Reader
import Tabular.Csv.Table
import Tabular.Csv.Writer
import Tabular.Double.Basic
import Tabular.Double.Decimal
import Tabular.Double.Notation
import Tabular.Double.Power
import Tabular.Double.Rounding
import Tabular.Grid.Arrange
import Tabular.Grid.Basic
import Tabular.Grid.Combine
import Tabular.Grid.Edit
import Tabular.Grid.Error
import Tabular.Grid.Labels
import Tabular.Grid.Lines
import Tabular.Grid.Search
import Tabular.Grid.Summary
import Tabular.Json.Basic
import Tabular.Json.Lexeme
import Tabular.Json.Numeral
import Tabular.Json.Reader
import Tabular.Json.Snapshot
import Tabular.Json.Table
import Tabular.Json.Writer
import Tabular.Query.Basic
import Tabular.Query.Binding
import Tabular.Query.Error
import Tabular.Query.Operator
import Tabular.Query.Postfix
import Tabular.Query.Selector
import Tabular.Query.SetOperator
import Tabular.Query.Token
import Tabular.Store.Access
import Tabular.Store.Basic
import Tabular.Store.Edit
import Tabular.Store.Sources
import Tabular.Text.Blank
import Tabular.Text.CaseTable
import Tabular.Text.Lowercase
import Tabular.Text.Numeral
import Tabular.Text.Occurrence
import Tabular.Main
import Tabular.Proofs.Query.Expression
import Tabular.Proofs.Query.Reading
import Tabular.Proofs.Query.Precedence
import Tabular.Proofs.Query.Shape
import Tabular.Proofs.Query.Written
import Tabular.Proofs.Grid.UniqueLabels
import Tabular.Proofs.Grid.WellFormed
import Tabular.Proofs.Query.RoundTrip
import Tabular.Proofs.Grid.Preservation
import Tabular.Proofs.Grid.Reachable
import Tabular.Proofs.Query.Evaluation
import Tabular.Proofs.Query.Composition
import Tabular.Proofs.Csv.Encoding
import Tabular.Proofs.Csv.Records
import Tabular.Proofs.Grid.Labelling
import Tabular.Proofs.Csv.RoundTrip
import Tabular.Proofs.Json.RoundTrip
import Tabular.Proofs.Json.Snapshot
import Tabular.Proofs.Grid.Transpose
import Tabular.Proofs.Grid.Mirror
import Tabular.Proofs.Grid.LabelledCells
import Tabular.Proofs.Json.Level
import Tabular.Proofs.Json.Export
import Tabular.Proofs.Json.Placing
import Tabular.Proofs.Json.Import
import Tabular.Proofs.Cell.Order
import Tabular.Proofs.Query.Agreement
import Tabular.Proofs.Grid.Picking
import Tabular.Proofs.Grid.Searching
import Tabular.Proofs.Grid.MirroredSearch
import Tabular.Proofs.Grid.Sorting
import Tabular.Proofs.CommandLine.Rerun
import Tabular.Proofs.Double.Integer
import Tabular.Proofs.Grid.StableSort
import Tabular.Proofs.Grid.Failure
import Tabular.Proofs.Double.Decimal
import Tabular.Proofs.Text.Numeral
import Tabular.Proofs.Query.Rendering
import Tabular.Proofs.Query.Literal
import Tabular.Proofs.Text.Grammar
import Tabular.Proofs.Cell.Inference
import Tabular.Proofs.Text.Saturation
import Tabular.Proofs.Query.Brackets
import Tabular.Proofs.Query.Ordering
import Tabular.Proofs.Query.Separation
import Tabular.Proofs.Query.Conversion
import Tabular.Proofs.Grid.UnknownField
import Tabular.Proofs.Query.Unquoted
import Tabular.Proofs.Query.Truncation
import Tabular.Proofs.Grid.WholeLines
import Tabular.Proofs.Grid.Inserting
import Tabular.Proofs.Grid.Moving
import Tabular.Proofs.Grid.Merging
import Tabular.Proofs.Grid.KeptLines
import Tabular.Proofs.Grid.Discarding
import Tabular.Proofs.Grid.EmptyLines
import Tabular.Proofs.Grid.Assembling
import Tabular.Proofs.Json.DistinctKeys
import Tabular.Proofs.Json.Alignment
import Tabular.Proofs.Grid.Summary
import Tabular.Proofs.Query.CursorRun
import Tabular.Proofs.Store.Access
import Tabular.Proofs.Store.Aligned
import Tabular.Proofs.Store.Changing
import Tabular.Proofs.Store.Lines
import Tabular.Proofs.Store.Simulation
import Tabular.Proofs.Store.Reachable
