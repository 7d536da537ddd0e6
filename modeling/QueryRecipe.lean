import QueryRecipe.Binary64
import QueryRecipe.Binary64.Layout
import QueryRecipe.Binary64.Shortest
import QueryRecipe.CommandLine.Files
import QueryRecipe.CommandLine.Run
import QueryRecipe.CommandLine.Usage
import QueryRecipe.Compile
import QueryRecipe.Config
import QueryRecipe.Dialect
import QueryRecipe.Dialect.Quoting
import QueryRecipe.Expr
import QueryRecipe.Json.Basic
import QueryRecipe.Json.Number
import QueryRecipe.Json.Printer
import QueryRecipe.Json.Reader
import QueryRecipe.Json.Record
import QueryRecipe.Literal
import QueryRecipe.Main
import QueryRecipe.NameMap
import QueryRecipe.Query
import QueryRecipe.Query.Edit
import QueryRecipe.Recipe
import QueryRecipe.Recipe.Document
import QueryRecipe.Rejection
import QueryRecipe.Screening
import QueryRecipe.Sql
import QueryRecipe.Statement
import QueryRecipe.Statement.OfQuery
import QueryRecipe.Statement.TrailingName
import QueryRecipe.Step
import QueryRecipe.Step.Encoding
import QueryRecipe.Step.Handle
import QueryRecipe.Text.Blank
import QueryRecipe.Text.CaseMap
import QueryRecipe.Text.CaseMap.Table
import QueryRecipe.Text.Cased
import QueryRecipe.Text.Digits
import QueryRecipe.Text.Ranges
import QueryRecipe.Text.Search
import QueryRecipe.Text.Word
import QueryRecipe.Toml.Reader
import QueryRecipe.Toml.Scalar
import QueryRecipe.Toml.Table
import QueryRecipe.Word
import QueryRecipe.Proofs.Compile.Acceptance
import QueryRecipe.Proofs.Compile.Confinement
import QueryRecipe.Proofs.Compile.Transforms
import QueryRecipe.Proofs.Lexer
import QueryRecipe.Proofs.Lexer.Closed
import QueryRecipe.Proofs.Lexer.Numeral
import QueryRecipe.Proofs.Lexer.Quoting
import QueryRecipe.Proofs.Query.Edit
import QueryRecipe.Proofs.Query.Within
import QueryRecipe.Proofs.Results
import QueryRecipe.Proofs.Screening.Containment
import QueryRecipe.Proofs.Sql.Phrase
import QueryRecipe.Proofs.Statement.Fits
import QueryRecipe.Proofs.Step.Edits
import QueryRecipe.Proofs.Step.Handle
import QueryRecipe.Proofs.Step.Resolve
import QueryRecipe.Proofs.Step.WellFormed
import QueryRecipe.Proofs.Step.Within
import QueryRecipe.Proofs.Step.BrokenOff
import QueryRecipe.Proofs.Text.Blank
import QueryRecipe.Proofs.Query.Sound
import QueryRecipe.Proofs.Step.Reachable
import QueryRecipe.Proofs.Lexer.Scope
import QueryRecipe.Proofs.Sql.Scope
import QueryRecipe.Proofs.Statement.Scope
import QueryRecipe.Proofs.Compile.Scope
import QueryRecipe.Proofs.Sql.Lists
import QueryRecipe.Proofs.Statement.Lists
import QueryRecipe.Proofs.Compile.Lists
import QueryRecipe.Proofs.Binary64.Finite
import QueryRecipe.Proofs.Json.Legal
import QueryRecipe.Proofs.Json.Numerals
import QueryRecipe.Proofs.Json.RoundTrip
import QueryRecipe.Proofs.Json.Visible
import QueryRecipe.Proofs.Recipe.Encoding
import QueryRecipe.Proofs.Recipe.Nesting
import QueryRecipe.Proofs.Recipe.RoundTrip
import QueryRecipe.Proofs.Lexer.Nesting
import QueryRecipe.Proofs.Sql.Nesting
import QueryRecipe.Proofs.Statement.Nesting
import QueryRecipe.Proofs.Compile.Unions
import QueryRecipe.Proofs.Text.Search
import QueryRecipe.Proofs.Sql.Mask
import QueryRecipe.Proofs.Statement.TrailingName
import QueryRecipe.Proofs.Statement.Mask
import QueryRecipe.Proofs.Expr
import QueryRecipe.Proofs.Statement.Lead
import QueryRecipe.Proofs.Query.History
import QueryRecipe.Proofs.Query.Entries
import QueryRecipe.Proofs.Query.Mask
import QueryRecipe.Proofs.Query.Naming
import QueryRecipe.Proofs.Query.Shadowing
import QueryRecipe.Proofs.Step.Mask
import QueryRecipe.Proofs.Compile.Masking
import QueryRecipe.Proofs.Step.Footprint
import QueryRecipe.Proofs.Compile.Commuting
import QueryRecipe.Proofs.Compile.Aliases
import QueryRecipe.Proofs.Query.Dropped
import QueryRecipe.Proofs.Compile.Dropping
import QueryRecipe.Proofs.Lexer.Blocks
import QueryRecipe.Proofs.Sql.Blocks
import QueryRecipe.Proofs.Statement.Blocks
import QueryRecipe.Proofs.Compile.Filters
import QueryRecipe.Proofs.Step.Padding
import QueryRecipe.Proofs.Compile.Padding
import QueryRecipe.Proofs.Statement.Common
import QueryRecipe.Proofs.Compile.Common
import QueryRecipe.Proofs.Text.LetterCase
import QueryRecipe.Proofs.Screening.Language
import QueryRecipe.Proofs.Query.Leading
import QueryRecipe.Proofs.Query.Arrangement
import QueryRecipe.Proofs.Query.TrailingName
import QueryRecipe.Proofs.Compile.SortDirection
import QueryRecipe.Proofs.Compile.Reordering
import QueryRecipe.Proofs.Statement.Window
import QueryRecipe.Proofs.Compile.Paging
import QueryRecipe.Proofs.Compile.Expansion
import QueryRecipe.Proofs.Statement.Grouping
import QueryRecipe.Proofs.Query.Grouping
import QueryRecipe.Proofs.Word
import QueryRecipe.Proofs.Json.Kept
import QueryRecipe.Proofs.Json.Record
import QueryRecipe.Proofs.Step.Presentation
import QueryRecipe.Proofs.Json.Skipping
import QueryRecipe.Proofs.Recipe.Stored
import QueryRecipe.Proofs.Lexer.Next
import QueryRecipe.Proofs.Sql.Quoting
