import PlanCompiler.Calendar.Date
import PlanCompiler.Calendar.Printer
import PlanCompiler.Calendar.Reader
import PlanCompiler.Calendar.Time
import PlanCompiler.CommandLine.Invocation
import PlanCompiler.CommandLine.Option
import PlanCompiler.CommandLine.Run
import PlanCompiler.Compile.Assembly
import PlanCompiler.Compile.Call
import PlanCompiler.Compile.Condition
import PlanCompiler.Compile.Draft
import PlanCompiler.Compile.Environment
import PlanCompiler.Compile.Error
import PlanCompiler.Compile.Expression
import PlanCompiler.Compile.Fold
import PlanCompiler.Compile.Method
import PlanCompiler.Compile.Normalize
import PlanCompiler.Compile.Order
import PlanCompiler.Compile.Page
import PlanCompiler.Compile.Projection
import PlanCompiler.Compile.Reduce
import PlanCompiler.Compile.Statement
import PlanCompiler.Configuration.Basic
import PlanCompiler.Configuration.Directory
import PlanCompiler.Configuration.Layout
import PlanCompiler.Configuration.PoolSettings
import PlanCompiler.Configuration.Schema
import PlanCompiler.Configuration.Secret
import PlanCompiler.Connection.Address
import PlanCompiler.Connection.Direction
import PlanCompiler.Connection.Domain
import PlanCompiler.Connection.Escape
import PlanCompiler.Connection.Host
import PlanCompiler.Connection.Joining
import PlanCompiler.Connection.Pool
import PlanCompiler.Connection.Spelling
import PlanCompiler.Decimal.Binary
import PlanCompiler.Decimal.Shortest
import PlanCompiler.Dictionary
import PlanCompiler.Direction
import PlanCompiler.Execute.Fetch
import PlanCompiler.Execute.Metrics
import PlanCompiler.Execute.Placeholder
import PlanCompiler.Execute.Run
import PlanCompiler.Files.Access
import PlanCompiler.Files.Path
import PlanCompiler.Files.Tree
import PlanCompiler.Json.Basic
import PlanCompiler.Json.Layout
import PlanCompiler.Json.Number
import PlanCompiler.Json.Printer
import PlanCompiler.Json.Reader
import PlanCompiler.Json.Record
import PlanCompiler.Literal.Basic
import PlanCompiler.Literal.DatePart
import PlanCompiler.Literal.Evaluate
import PlanCompiler.Literal.Json
import PlanCompiler.Literal.Order
import PlanCompiler.Literal.Text
import PlanCompiler.Literal.Wide
import PlanCompiler.Main
import PlanCompiler.NativeQuery.Basic
import PlanCompiler.NativeQuery.Command
import PlanCompiler.NativeQuery.Field
import PlanCompiler.NativeQuery.Mapping
import PlanCompiler.Operator
import PlanCompiler.Plan.Json
import PlanCompiler.Plan.Operation
import PlanCompiler.Plan.Query
import PlanCompiler.Predicate.Basic
import PlanCompiler.Predicate.Json
import PlanCompiler.Predicate.Term
import PlanCompiler.Proofs.Binding
import PlanCompiler.Proofs.CalculatedValues
import PlanCompiler.Proofs.ClosedPool
import PlanCompiler.Proofs.ComparedLiterals
import PlanCompiler.Proofs.CompiledSteps
import PlanCompiler.Proofs.ConfigurationText
import PlanCompiler.Proofs.ConfinedWriting
import PlanCompiler.Proofs.Counting
import PlanCompiler.Proofs.CoveredExpressions
import PlanCompiler.Proofs.DraftMeaning
import PlanCompiler.Proofs.ExactIntegers
import PlanCompiler.Proofs.ExposedColumns
import PlanCompiler.Proofs.ExpressionMeaning
import PlanCompiler.Proofs.FilterMeaning
import PlanCompiler.Proofs.FoldedIntegers
import PlanCompiler.Proofs.FoldedTerms
import PlanCompiler.Proofs.FreshAliases
import PlanCompiler.Proofs.GeneratedExpression
import PlanCompiler.Proofs.Grouping
import PlanCompiler.Proofs.GuardedFields
import PlanCompiler.Proofs.HiddenConstants
import PlanCompiler.Proofs.JoinedFilters
import PlanCompiler.Proofs.JsonRecord
import PlanCompiler.Proofs.JsonScalar
import PlanCompiler.Proofs.JsonText
import PlanCompiler.Proofs.Lexeme
import PlanCompiler.Proofs.LiteralMeaning
import PlanCompiler.Proofs.LivePunctuation
import PlanCompiler.Proofs.LoweredText
import PlanCompiler.Proofs.NarrowedConditions
import PlanCompiler.Proofs.NarrowedDrafts
import PlanCompiler.Proofs.NormalForms
import PlanCompiler.Proofs.NullGuards
import PlanCompiler.Proofs.ParameterNames
import PlanCompiler.Proofs.ParameterNumbering
import PlanCompiler.Proofs.PassingPieces
import PlanCompiler.Proofs.PathNames
import PlanCompiler.Proofs.PlanText
import PlanCompiler.Proofs.PredicateMeaning
import PlanCompiler.Proofs.Reader
import PlanCompiler.Proofs.Reading
import PlanCompiler.Proofs.ReducedDrafts
import PlanCompiler.Proofs.RefinedPlans
import PlanCompiler.Proofs.RefusedPlans
import PlanCompiler.Proofs.RefusedWriting
import PlanCompiler.Proofs.RelatedOutcomes
import PlanCompiler.Proofs.RenamedColumns
import PlanCompiler.Proofs.RenamedFields
import PlanCompiler.Proofs.Results
import PlanCompiler.Proofs.Rewriting
import PlanCompiler.Proofs.RowMutators
import PlanCompiler.Proofs.RowValue
import PlanCompiler.Proofs.Sameness
import PlanCompiler.Proofs.ScalarText
import PlanCompiler.Proofs.ScannedText
import PlanCompiler.Proofs.Scanning
import PlanCompiler.Proofs.SelectedColumns
import PlanCompiler.Proofs.SelectedRows
import PlanCompiler.Proofs.SimplifiedValue
import PlanCompiler.Proofs.SortKeys
import PlanCompiler.Proofs.SortedRows
import PlanCompiler.Proofs.StableSorting
import PlanCompiler.Proofs.Stretch
import PlanCompiler.Proofs.TermValue
import PlanCompiler.Proofs.TextPattern
import PlanCompiler.Proofs.TextSources
import PlanCompiler.Proofs.TextTests
import PlanCompiler.Proofs.TreeOperations
import PlanCompiler.Proofs.WrittenConfiguration
import PlanCompiler.Proofs.WrittenPages
import PlanCompiler.Proofs.WrittenPieces
import PlanCompiler.ScalarType
import PlanCompiler.Sql.Alias
import PlanCompiler.Sql.Clause
import PlanCompiler.Sql.Expression
import PlanCompiler.Sql.Piece
import PlanCompiler.Text.Blank
import PlanCompiler.Text.CaseClass
import PlanCompiler.Text.CaseMap
import PlanCompiler.Text.Caseless
import PlanCompiler.Text.Casing
import PlanCompiler.Text.CombiningClass
import PlanCompiler.Text.Composed
import PlanCompiler.Text.Composition
import PlanCompiler.Text.Mark
import PlanCompiler.Text.Printable
import PlanCompiler.Text.Punycode
import PlanCompiler.Text.Quoted
import PlanCompiler.Text.Ranges
import PlanCompiler.Text.Search
import PlanCompiler.Text.Split
import PlanCompiler.Uuid
