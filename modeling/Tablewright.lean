import Tablewright.Batch.Failure
import Tablewright.Batch.Generator
import Tablewright.Batch.Log
import Tablewright.Code.Expression
import Tablewright.Code.Identifier
import Tablewright.Code.Lexeme
import Tablewright.Code.Peek
import Tablewright.Code.Quoted
import Tablewright.Code.Token
import Tablewright.Code.TypeExpr
import Tablewright.Config
import Tablewright.Constraint
import Tablewright.Contract.Basic
import Tablewright.Contract.Building
import Tablewright.Contract.Convention
import Tablewright.Declaration
import Tablewright.Entity.Basic
import Tablewright.Entity.Field
import Tablewright.Entity.Group
import Tablewright.Entity.View
import Tablewright.Json.Basic
import Tablewright.Json.Batch
import Tablewright.Json.Number
import Tablewright.Json.Quoted
import Tablewright.Json.Record
import Tablewright.Json.Value
import Tablewright.Proofs.Query.Occurrence
import Tablewright.Proofs.Query.Split
import Tablewright.Proofs.Query.Phrase
import Tablewright.Query.MethodName
import Tablewright.Query.Splitting
import Tablewright.Query.Suffix
import Tablewright.Relation.Basic
import Tablewright.Relation.Code
import Tablewright.Relation.Link
import Tablewright.Repository.Body
import Tablewright.Repository.Function
import Tablewright.Repository.Implementation
import Tablewright.Repository.Settings
import Tablewright.Schema.Basic
import Tablewright.Schema.ColumnType
import Tablewright.Schema.Table
import Tablewright.Sql.Condition
import Tablewright.Sql.Operator
import Tablewright.Sql.Quoted
import Tablewright.Sql.Statement
import Tablewright.Tag.Action
import Tablewright.Tag.Reading
import Tablewright.Tag.Segment
import Tablewright.Tag.Token
import Tablewright.Text.Affix
import Tablewright.Text.Blank
import Tablewright.Text.CaseMap
import Tablewright.Text.CaseRun
import Tablewright.Text.CasedContext
import Tablewright.Text.Casing
import Tablewright.Text.Cluster
import Tablewright.Text.Edges
import Tablewright.Text.IdentifierChar
import Tablewright.Text.Mark
import Tablewright.Text.Numeral
import Tablewright.Text.Printable
import Tablewright.Toml.Basic
import Tablewright.Toml.Document
import Tablewright.Toml.Moment
import Tablewright.Toml.Quoted
import Tablewright.Toml.Scalar
import Tablewright.Toml.Table
import Tablewright.Proofs.Query.TermReading
import Tablewright.Proofs.Query.Parts
import Tablewright.Proofs.Contract.Acceptance
import Tablewright.Proofs.Query.Conditionless
import Tablewright.Proofs.Query.PhraseReading
import Tablewright.Proofs.Repository.Emission
import Tablewright.Proofs.Contract.Lookup
import Tablewright.Proofs.Repository.Selection
import Tablewright.Proofs.Query.Numbering
import Tablewright.Proofs.Repository.Numbering
import Tablewright.Proofs.Repository.BindCall
import Tablewright.Proofs.Repository.Agreement
import Tablewright.Proofs.Tag.Splitting
import Tablewright.Proofs.Tag.Regular
import Tablewright.Proofs.Tag.Cutting
import Tablewright.Proofs.Tag.Written
import Tablewright.Proofs.Tag.RoundTrip
import Tablewright.Proofs.Tag.Run
import Tablewright.Proofs.Tag.Part
import Tablewright.Proofs.Tag.Weight
import Tablewright.Proofs.Tag.Stated
import Tablewright.Proofs.Tag.Swallowed
import Tablewright.Proofs.Tag.Normal
import Tablewright.Proofs.Entity.Partition
import Tablewright.Proofs.Entity.Group
import Tablewright.Proofs.Entity.Valid
import Tablewright.Proofs.Relation.ForeignKey
import Tablewright.Proofs.Schema.PrimaryKey
import Tablewright.Proofs.Repository.Key
import Tablewright.Proofs.Relation.Key
import Tablewright.Proofs.Schema.WholeNumber
import Tablewright.Proofs.Code.Name
import Tablewright.Proofs.Contract.Names
import Tablewright.Proofs.Repository.Spelled
import Tablewright.Proofs.Relation.Spelled
import Tablewright.Proofs.Relation.Names
import Tablewright.Proofs.Text.Slice
import Tablewright.Proofs.Query.Slicing
import Tablewright.Proofs.Batch.Names
import Tablewright.Proofs.Tag.Slicing
import Tablewright.Proofs.Batch.Totality
import Tablewright.Proofs.Entity.Outline
import Tablewright.Proofs.Repository.Outline
import Tablewright.Proofs.Relation.Outline
import Tablewright.Proofs.Batch.Outline
import Tablewright.Proofs.Batch.Hidden
import Tablewright.Proofs.Batch.Account
import Tablewright.Proofs.Batch.Isolation
import Tablewright.Proofs.Batch.Order
import Tablewright.Proofs.Batch.Log
import Tablewright.Proofs.Repository.Completeness
import Tablewright.Proofs.Schema.IndexName
import Tablewright.Proofs.Query.Conjunction
import Tablewright.Proofs.Repository.PlainLookup
import Tablewright.Proofs.Text.Caseless
import Tablewright.Proofs.Text.Tie
import Tablewright.Proofs.Text.Cluster
import Tablewright.Proofs.Text.Word
import Tablewright.Proofs.Repository.DistinctColumns
import Tablewright.Proofs.Query.ShapeWord
import Tablewright.Proofs.Repository.ResultType
import Tablewright.Proofs.Repository.BoundField
import Tablewright.Proofs.Repository.ChangedColumns
import Tablewright.Proofs.Schema.UniqueConstraint
import Tablewright.Proofs.Schema.GroupColumn
import Tablewright.Proofs.Schema.Wrapper
import Tablewright.Proofs.Schema.Nullable
import Tablewright.Proofs.Query.RowLimit
import Tablewright.Proofs.Relation.Coverage
import Tablewright.Proofs.Relation.ReadBack
import Tablewright.Proofs.Relation.Role
import Tablewright.Proofs.Relation.ResultName
import Tablewright.Proofs.Sql.Token
import Tablewright.Proofs.Schema.Quoting
import Tablewright.Proofs.Text.Uniform
import Tablewright.Proofs.Text.SnakeWord
import Tablewright.Proofs.Text.RoundTrip
import Tablewright.Proofs.Repository.FunctionName
import Tablewright.Proofs.Repository.ColumnLookup
import Tablewright.Proofs.Tag.Kind
import Tablewright.Proofs.Query.LongestEnding
import Tablewright.Proofs.Entity.Defect
