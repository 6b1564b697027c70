import SchemaCompiler.Text.Blank
import SchemaCompiler.Text.Distance
import SchemaCompiler.Text.Quoted
import SchemaCompiler.Text.Escaped
import SchemaCompiler.Json.Writer
import SchemaCompiler.Json.Reader
import SchemaCompiler.Json.Decode
import SchemaCompiler.Support
import SchemaCompiler.SchemaError
import SchemaCompiler.Schema.Dependency
import SchemaCompiler.Schema.Resolution
import SchemaCompiler.Literal
import SchemaCompiler.Sql.CreateTable
import SchemaCompiler.Sql.Insert
import SchemaCompiler.Query.Action
import SchemaCompiler.Sql.Select
import SchemaCompiler.Validation.Database
import SchemaCompiler.Validation.Query
import SchemaCompiler.Generation.Statements
import SchemaCompiler.Generation.Execution
import SchemaCompiler.Migration.Adaptation
import SchemaCompiler.Migration.Normalization
import SchemaCompiler.Migration.Difference
import SchemaCompiler.Codec.Schema
import SchemaCompiler.Codec.Query
import SchemaCompiler.Codec.Options
import SchemaCompiler.Codec.Generation
import SchemaCompiler.Settings
import SchemaCompiler.CommandLine.Workspace
import SchemaCompiler.CommandLine.Run
import SchemaCompiler.Main
import SchemaCompiler.Proofs.FirstOccurrences
import SchemaCompiler.Proofs.Dependency.Order
import SchemaCompiler.Proofs.Dependency.Search
import SchemaCompiler.Proofs.Validation.Errors
import SchemaCompiler.Proofs.Generation.CreateText
import SchemaCompiler.Proofs.Validation.Names
import SchemaCompiler.Proofs.Dependency.Targets
import SchemaCompiler.Proofs.Generation.WrittenOrder
import SchemaCompiler.Proofs.Literal.DefaultGrammar
import SchemaCompiler.Proofs.Migration.Adaptation
import SchemaCompiler.Proofs.Migration.ValidAdaptation
import SchemaCompiler.Proofs.Generation.WrittenAlike
import SchemaCompiler.Proofs.Migration.TypeNames
import SchemaCompiler.Proofs.Migration.SameText
import SchemaCompiler.Proofs.Query.JoinScope
import SchemaCompiler.Proofs.Query.Coverage
import SchemaCompiler.Proofs.Query.MirroredJoins
import SchemaCompiler.Proofs.Lexical.Scan
import SchemaCompiler.Proofs.Lexical.Inert
import SchemaCompiler.Proofs.Lexical.Numeral
import SchemaCompiler.Proofs.Lexical.Select
import SchemaCompiler.Proofs.Lexical.CreateTable
import SchemaCompiler.Proofs.Lexical.Tuples
import SchemaCompiler.Proofs.Lexical.Insert
import SchemaCompiler.Proofs.Dependency.Circle
import SchemaCompiler.Proofs.Dependency.Marks
import SchemaCompiler.Proofs.Generation.Outcomes
import SchemaCompiler.Proofs.Generation.Warnings
import SchemaCompiler.Proofs.Generation.RowOrder
import SchemaCompiler.Proofs.Dependency.LeastOrder
import SchemaCompiler.Proofs.Dependency.Countdown
import SchemaCompiler.Proofs.Migration.Partners
import SchemaCompiler.Proofs.Validation.Legality
import SchemaCompiler.Proofs.Validation.Messages
import SchemaCompiler.Proofs.Migration.Duality
import SchemaCompiler.Proofs.Codec.Arrangement
import SchemaCompiler.Proofs.Codec.Records
import SchemaCompiler.Proofs.Codec.RoundTrip
import SchemaCompiler.Proofs.Migration.InPlace
import SchemaCompiler.Proofs.Migration.Losses
import SchemaCompiler.Proofs.Migration.CanonicalForm
import SchemaCompiler.Proofs.Migration.CanonicalAdaptation
import SchemaCompiler.Proofs.Migration.Fitting
import SchemaCompiler.Proofs.Renaming.Ids
import SchemaCompiler.Proofs.Renaming.OpaqueIds
import SchemaCompiler.Proofs.Query.Editing
import SchemaCompiler.Proofs.Query.Deselection
import SchemaCompiler.Proofs.Generation.Isolation
import SchemaCompiler.Proofs.Generation.TableText
import SchemaCompiler.Proofs.Generation.Constraints
import SchemaCompiler.Proofs.Generation.Relationships
import SchemaCompiler.Proofs.Query.OutputNames
import SchemaCompiler.Proofs.Lexical.Naming
import SchemaCompiler.Proofs.Validation.Trimming
import SchemaCompiler.Proofs.Generation.PrintedNames
import SchemaCompiler.Proofs.Validation.QueryNames
import SchemaCompiler.Proofs.Literal.Quoting
import SchemaCompiler.Proofs.Lexical.Occurrence
import SchemaCompiler.Proofs.Lexical.ListItems
import SchemaCompiler.Proofs.Query.EmptyLists
import SchemaCompiler.Proofs.Lexical.SelectParts
import SchemaCompiler.Proofs.Lexical.SelectNames
import SchemaCompiler.Proofs.Literal.WrittenDefaults
import SchemaCompiler.Proofs.Generation.PrimaryKey
import SchemaCompiler.Proofs.Generation.NumberedRows
import SchemaCompiler.Proofs.Generation.ConstraintNames
import SchemaCompiler.Proofs.Lexical.QuotedNames
import SchemaCompiler.Proofs.Lexical.StringValues
import SchemaCompiler.Proofs.Literal.NumberReaders
import SchemaCompiler.Proofs.Literal.QuotedTexts
