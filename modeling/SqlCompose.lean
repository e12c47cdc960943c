import SqlCompose.Blueprint
import SqlCompose.Builder
import SqlCompose.Column
import SqlCompose.Column.Definition
import SqlCompose.Comparison
import SqlCompose.CompileError
import SqlCompose.Config
import SqlCompose.Config.Reader
import SqlCompose.Decimal.Integer
import SqlCompose.Decimal.Layout
import SqlCompose.Decimal.Shortest
import SqlCompose.Dialect
import SqlCompose.Dialect.MySql
import SqlCompose.Dialect.SqlServer
import SqlCompose.Error
import SqlCompose.Executor
import SqlCompose.Json
import SqlCompose.Json.Reader
import SqlCompose.Json.Record
import SqlCompose.Manager
import SqlCompose.Predicate
import SqlCompose.Proofs.Blueprint.Faults
import SqlCompose.Proofs.Blueprint.Independence
import SqlCompose.Proofs.Blueprint.Portable
import SqlCompose.Proofs.Blueprint.Positions
import SqlCompose.Proofs.Column.Containment
import SqlCompose.Proofs.Column.Defaults
import SqlCompose.Proofs.Column.Modifiers
import SqlCompose.Proofs.Column.Parts
import SqlCompose.Proofs.Column.Unambiguous
import SqlCompose.Proofs.Comparison.Spelling
import SqlCompose.Proofs.Condition.Append
import SqlCompose.Proofs.Condition.Unambiguous
import SqlCompose.Proofs.Config.CharacterSet
import SqlCompose.Proofs.Config.DataSource
import SqlCompose.Proofs.Config.Decoding
import SqlCompose.Proofs.Decimal.Nearest
import SqlCompose.Proofs.Decimal.Shortest
import SqlCompose.Proofs.Decimal.Written
import SqlCompose.Proofs.Dialect.DefaultLiteral
import SqlCompose.Proofs.Dialect.MySqlType
import SqlCompose.Proofs.Dialect.Pagination
import SqlCompose.Proofs.Dialect.ReadBack
import SqlCompose.Proofs.Dialect.Reading
import SqlCompose.Proofs.Execution.CountAnswer
import SqlCompose.Proofs.Execution.Discipline
import SqlCompose.Proofs.Execution.FirstRow
import SqlCompose.Proofs.Execution.JsonOutput
import SqlCompose.Proofs.Execution.Recording
import SqlCompose.Proofs.Json.Documents
import SqlCompose.Proofs.Json.Grammar
import SqlCompose.Proofs.Json.Objects
import SqlCompose.Proofs.Json.Writing
import SqlCompose.Proofs.Manager.FailedConnect
import SqlCompose.Proofs.Manager.History
import SqlCompose.Proofs.Outcome
import SqlCompose.Proofs.Query.Alignment
import SqlCompose.Proofs.Query.CountRewrite
import SqlCompose.Proofs.Query.Counting
import SqlCompose.Proofs.Query.FirstDefect
import SqlCompose.Proofs.Query.Independence
import SqlCompose.Proofs.Query.Layout
import SqlCompose.Proofs.Query.NamedColumns
import SqlCompose.Proofs.Query.Portable
import SqlCompose.Proofs.Query.Rectangular
import SqlCompose.Proofs.Query.Respelling
import SqlCompose.Proofs.Query.Server
import SqlCompose.Proofs.Query.ValueFree
import SqlCompose.Proofs.Query.Vocabulary
import SqlCompose.Proofs.Row.Insertion
import SqlCompose.Proofs.Schema.Existence
import SqlCompose.Proofs.Schema.Pattern
import SqlCompose.Proofs.Text.Boundary
import SqlCompose.Proofs.Text.Quoting
import SqlCompose.Proofs.Text.Scanning
import SqlCompose.Proofs.Value.Integer
import SqlCompose.Query
import SqlCompose.Query.Inspect
import SqlCompose.Query.Select
import SqlCompose.Query.Write
import SqlCompose.Row
import SqlCompose.Schema
import SqlCompose.Statement
import SqlCompose.Text.Blank
import SqlCompose.Text.CharRun
import SqlCompose.Text.Extending
import SqlCompose.Text.Hidden
import SqlCompose.Text.Literal
import SqlCompose.Text.Upper
import SqlCompose.Text.Visible
import SqlCompose.Value
import SqlCompose.Value.Inspect
