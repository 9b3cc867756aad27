import RelationalQuery.Adapter.Basic
import RelationalQuery.Adapter.Connection
import RelationalQuery.Adapter.Error
import RelationalQuery.Adapter.Flavour
import RelationalQuery.Adapter.ResultSet
import RelationalQuery.Base64
import RelationalQuery.Calendar.Moment
import RelationalQuery.Calendar.Reader
import RelationalQuery.Compile.Context
import RelationalQuery.Compile.Error
import RelationalQuery.Compile.Filter
import RelationalQuery.Compile.FreshName
import RelationalQuery.Compile.Include
import RelationalQuery.Compile.Mutation
import RelationalQuery.Compile.Plan
import RelationalQuery.Compile.Read
import RelationalQuery.Compile.Write
import RelationalQuery.Compiler
import RelationalQuery.Decimal.Format
import RelationalQuery.Decimal.Reader
import RelationalQuery.Decimal.Shortest
import RelationalQuery.Dict
import RelationalQuery.Execute.Coercion
import RelationalQuery.Execute.Error
import RelationalQuery.Execute.FieldName
import RelationalQuery.Execute.Operation
import RelationalQuery.Execute.Record
import RelationalQuery.Execute.Session
import RelationalQuery.Execute.Transaction
import RelationalQuery.Json.Basic
import RelationalQuery.Json.Reader
import RelationalQuery.Json.Shape
import RelationalQuery.Json.Text
import RelationalQuery.Query.Arguments
import RelationalQuery.Query.Basic
import RelationalQuery.Query.Error
import RelationalQuery.Query.Filter
import RelationalQuery.Query.Operator
import RelationalQuery.Query.Ordering
import RelationalQuery.Query.Reader.Arguments
import RelationalQuery.Query.Reader.Filter
import RelationalQuery.Query.Reader.Query
import RelationalQuery.Schema.Basic
import RelationalQuery.Schema.Document
import RelationalQuery.Schema.Model
import RelationalQuery.Sql.Condition
import RelationalQuery.Sql.Dialect
import RelationalQuery.Sql.Fragment
import RelationalQuery.Sql.Select
import RelationalQuery.Sql.Statement
import RelationalQuery.Sql.Write
import RelationalQuery.Text.Blank
import RelationalQuery.Text.Cased
import RelationalQuery.Text.CharRange
import RelationalQuery.Text.Lowercase
import RelationalQuery.Text.Quoted
import RelationalQuery.Text.Unprintable
import RelationalQuery.Text.Words
import RelationalQuery.Value.Basic
import RelationalQuery.Value.Conversion
import RelationalQuery.Value.Document
import RelationalQuery.Proofs.Blank.Filter
import RelationalQuery.Proofs.Blank.Mutation
import RelationalQuery.Proofs.Blank.Query
import RelationalQuery.Proofs.Blank.Read
import RelationalQuery.Proofs.Blank.Statement
import RelationalQuery.Proofs.Blank.Tree
import RelationalQuery.Proofs.Blank.Value
import RelationalQuery.Proofs.Blank.Write
import RelationalQuery.Proofs.Calendar.Formats
import RelationalQuery.Proofs.Calendar.Scanning
import RelationalQuery.Proofs.Calendar.Timestamp
import RelationalQuery.Proofs.Compile.Accepted
import RelationalQuery.Proofs.Compile.AcceptedQuery
import RelationalQuery.Proofs.Compile.Aggregated
import RelationalQuery.Proofs.Compile.Allocation
import RelationalQuery.Proofs.Compile.Bound
import RelationalQuery.Proofs.Compile.BreadthFirst
import RelationalQuery.Proofs.Compile.Capture
import RelationalQuery.Proofs.Compile.Carried
import RelationalQuery.Proofs.Compile.Conditions
import RelationalQuery.Proofs.Compile.Conflicts
import RelationalQuery.Proofs.Compile.Connected
import RelationalQuery.Proofs.Compile.Dialects
import RelationalQuery.Proofs.Compile.Distinct
import RelationalQuery.Proofs.Compile.FilterTruth
import RelationalQuery.Proofs.Compile.Generated
import RelationalQuery.Proofs.Compile.Idle
import RelationalQuery.Proofs.Compile.Inserts
import RelationalQuery.Proofs.Compile.JoinScopes
import RelationalQuery.Proofs.Compile.Joins
import RelationalQuery.Proofs.Compile.Names
import RelationalQuery.Proofs.Compile.Nulls
import RelationalQuery.Proofs.Compile.Paging
import RelationalQuery.Proofs.Compile.Plan
import RelationalQuery.Proofs.Compile.Resolved
import RelationalQuery.Proofs.Compile.Scopes
import RelationalQuery.Proofs.Compile.Search
import RelationalQuery.Proofs.Compile.Selected
import RelationalQuery.Proofs.Compile.Sides
import RelationalQuery.Proofs.Compile.Standard
import RelationalQuery.Proofs.Compile.Strict
import RelationalQuery.Proofs.Compile.Subqueries
import RelationalQuery.Proofs.Compile.Ties
import RelationalQuery.Proofs.Compile.Vetted
import RelationalQuery.Proofs.Compile.Where
import RelationalQuery.Proofs.Compile.WrittenId
import RelationalQuery.Proofs.Execute.Coerced
import RelationalQuery.Proofs.Execute.Columns
import RelationalQuery.Proofs.Execute.Counting
import RelationalQuery.Proofs.Execute.Effects
import RelationalQuery.Proofs.Execute.FieldName
import RelationalQuery.Proofs.Execute.Folding
import RelationalQuery.Proofs.Execute.Grouping
import RelationalQuery.Proofs.Execute.Identity
import RelationalQuery.Proofs.Execute.Joined
import RelationalQuery.Proofs.Execute.Layout
import RelationalQuery.Proofs.Execute.Protocol
import RelationalQuery.Proofs.Execute.Runs
import RelationalQuery.Proofs.Execute.Transactions
import RelationalQuery.Proofs.Execute.Unmatched
import RelationalQuery.Proofs.Meaning.Evaluation
import RelationalQuery.Proofs.Meaning.FilterMeaning
import RelationalQuery.Proofs.Meaning.Like
import RelationalQuery.Proofs.Meaning.Truth
import RelationalQuery.Proofs.Query.Asked
import RelationalQuery.Proofs.Query.Keys
import RelationalQuery.Proofs.Query.Spelling
import RelationalQuery.Proofs.Query.WellFormed
import RelationalQuery.Proofs.Result
import RelationalQuery.Proofs.Schema.Inverse
import RelationalQuery.Proofs.Sql.Binding
import RelationalQuery.Proofs.Sql.Embedding
import RelationalQuery.Proofs.Sql.Inscribed
import RelationalQuery.Proofs.Sql.Numbering
import RelationalQuery.Proofs.Sql.Outside
import RelationalQuery.Proofs.Sql.Params
import RelationalQuery.Proofs.Sql.Phrase
import RelationalQuery.Proofs.Sql.Placeholders
import RelationalQuery.Proofs.Sql.Quoting
import RelationalQuery.Proofs.Sql.Rendering
import RelationalQuery.Proofs.Sql.Scan
import RelationalQuery.Proofs.Sql.Sorting
import RelationalQuery.Proofs.Sql.Spaced
import RelationalQuery.Proofs.Sql.Tokens
import RelationalQuery.Proofs.Sql.Unlimited
import RelationalQuery.Proofs.Sql.Written
import RelationalQuery.Proofs.Text.Numeral
import RelationalQuery.Proofs.Text.Words
import RelationalQuery.Proofs.Value.Decimal
import RelationalQuery.Proofs.Value.Plain
