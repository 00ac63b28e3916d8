import FileQuery.Aggregate.Accumulator
import FileQuery.Catalog.Basic
import FileQuery.Catalog.Index
import FileQuery.Catalog.Listing
import FileQuery.Catalog.Name
import FileQuery.Catalog.Standard
import FileQuery.Command.Arguments
import FileQuery.Command.Execute
import FileQuery.Evaluate.Expr
import FileQuery.Evaluate.Operator
import FileQuery.Function.Scalar
import FileQuery.Function.SizeText
import FileQuery.Main
import FileQuery.MediaType
import FileQuery.Number.Binary64
import FileQuery.Number.Decimal
import FileQuery.Number.FloatText
import FileQuery.Number.Rounding
import FileQuery.Number.Shortest
import FileQuery.Pattern.Automaton
import FileQuery.Pattern.Basic
import FileQuery.Pattern.Cache
import FileQuery.Pattern.CharSet
import FileQuery.Pattern.Class
import FileQuery.Pattern.Fault
import FileQuery.Pattern.Folding
import FileQuery.Pattern.Parser
import FileQuery.Pattern.Shape
import FileQuery.Pattern.Written
import FileQuery.Query.Basic
import FileQuery.Query.Cursor
import FileQuery.Query.Expr
import FileQuery.Query.ExprParser
import FileQuery.Query.Operator
import FileQuery.Query.ParseError
import FileQuery.Query.Parser
import FileQuery.Query.Scanner
import FileQuery.Query.Token
import FileQuery.Result.Json
import FileQuery.Result.Table
import FileQuery.Row
import FileQuery.Run.Query
import FileQuery.Run.Report
import FileQuery.Run.Summary
import FileQuery.Text.Alphabetic
import FileQuery.Text.CaseMap
import FileQuery.Text.CaseTables
import FileQuery.Text.Cased
import FileQuery.Text.Numeric
import FileQuery.Text.Printable
import FileQuery.Text.Quoted
import FileQuery.Text.RangeTable
import FileQuery.Text.Utf8
import FileQuery.Text.WhiteSpace
import FileQuery.Time.Calendar
import FileQuery.Time.Format
import FileQuery.Time.Instant
import FileQuery.Time.Literal
import FileQuery.Tree.Access
import FileQuery.Tree.Listing
import FileQuery.Tree.Node
import FileQuery.Tree.Path
import FileQuery.Tree.Walk
import FileQuery.Value.Basic
import FileQuery.Value.Order
import FileQuery.Proofs.Value.NumberOrder
import FileQuery.Proofs.Run.Outcome
import FileQuery.Proofs.Run.Selection
import FileQuery.Proofs.Run.Limit
import FileQuery.Proofs.Value.SortOrder
import FileQuery.Proofs.Value.Comparisons
import FileQuery.Proofs.Aggregate.Merging
import FileQuery.Proofs.Run.Grouping
import FileQuery.Proofs.Query.Grammar
import FileQuery.Proofs.Query.Places
import FileQuery.Proofs.Query.Reading
import FileQuery.Proofs.Query.Legality
import FileQuery.Proofs.Query.Soundness
import FileQuery.Proofs.Query.Completeness
import FileQuery.Proofs.Query.Clauses
import FileQuery.Proofs.Query.Recognition
import FileQuery.Proofs.Query.Resolution
import FileQuery.Proofs.Catalog.Standard
import FileQuery.Proofs.Catalog.NameIndex
import FileQuery.Proofs.Query.Scanning
import FileQuery.Proofs.Query.Printing
import FileQuery.Proofs.Query.Layout
import FileQuery.Proofs.Query.RoundTrip
import FileQuery.Proofs.Query.Chaining
import FileQuery.Proofs.Run.Ordering
import FileQuery.Proofs.Evaluate.Substitution
import FileQuery.Proofs.Evaluate.ExactIntegers
import FileQuery.Proofs.Evaluate.NullPropagation
import FileQuery.Proofs.Run.Events
import FileQuery.Proofs.Run.Totals
import FileQuery.Proofs.Run.Attributes
import FileQuery.Proofs.Aggregate.Splitting
import FileQuery.Proofs.Aggregate.Extremes
import FileQuery.Proofs.Aggregate.ExactTotals
import FileQuery.Proofs.Tree.Location
import FileQuery.Proofs.Tree.PathOrder
import FileQuery.Proofs.Tree.Preorder
import FileQuery.Proofs.Tree.Filtering
import FileQuery.Proofs.Run.Filters
import FileQuery.Proofs.Run.GroupedRun
import FileQuery.Proofs.Run.Aggregates
import FileQuery.Proofs.Run.Strictness
import FileQuery.Proofs.Text.AsciiCase
import FileQuery.Proofs.Query.Spelling
import FileQuery.Proofs.Query.Tiling
import FileQuery.Proofs.Query.Alike
import FileQuery.Proofs.Query.Lockstep
import FileQuery.Proofs.Query.Spacing
import FileQuery.Proofs.Query.Recasing
import FileQuery.Proofs.Query.Restoring
import FileQuery.Proofs.Query.InPlace
import FileQuery.Proofs.Query.Answers
import FileQuery.Proofs.Number.Neighbourhoods
import FileQuery.Proofs.Number.ShortestDigits
import FileQuery.Proofs.Number.Numerals
import FileQuery.Proofs.Query.FloatLiterals
import FileQuery.Proofs.Query.ErrorPlaces
import FileQuery.Proofs.Query.LexemeEnds
import FileQuery.Proofs.Pattern.Requests
import FileQuery.Proofs.Result.Lines
import FileQuery.Proofs.Run.TableShape
import FileQuery.Proofs.Number.Quotients
import FileQuery.Proofs.Aggregate.IntegerTotals
import FileQuery.Proofs.Query.SourcePaths
import FileQuery.Proofs.Tree.Joining
import FileQuery.Proofs.Time.CivilDates
import FileQuery.Proofs.Time.DisplayedTimes
import FileQuery.Proofs.Number.RoundedQuotients
import FileQuery.Proofs.Number.WholeNumbers
import FileQuery.Proofs.Number.ShownNumerals
import FileQuery.Proofs.Function.Sizes
import FileQuery.Proofs.Function.WholeRounding
