import RecordListing.CommandLine
import RecordListing.Failure
import RecordListing.Json.Basic
import RecordListing.Json.OfValue
import RecordListing.Json.Reader
import RecordListing.Log.Event
import RecordListing.Log.Line
import RecordListing.Log.Setup
import RecordListing.Log.Template
import RecordListing.Main
import RecordListing.Metrics
import RecordListing.Number.Binary64
import RecordListing.Number.Decimal
import RecordListing.Number.Power
import RecordListing.Number.Shortest
import RecordListing.Number.Wide
import RecordListing.Query.Coercion
import RecordListing.Query.Condition
import RecordListing.Query.Filter
import RecordListing.Query.FilterTerm
import RecordListing.Query.JoinPlan
import RecordListing.Query.Journal
import RecordListing.Query.Listing
import RecordListing.Query.Page
import RecordListing.Query.Path
import RecordListing.Query.Search
import RecordListing.Query.Sorting
import RecordListing.Query.Sql
import RecordListing.Raised
import RecordListing.Records.Access
import RecordListing.Records.Insertion
import RecordListing.Records.Journal
import RecordListing.Records.Listed
import RecordListing.Records.Session
import RecordListing.Records.Show
import RecordListing.Records.Tree
import RecordListing.Schema.Column
import RecordListing.Schema.Entity
import RecordListing.Schema.Retail
import RecordListing.Schema.Sample
import RecordListing.Settings.Address
import RecordListing.Settings.Basic
import RecordListing.Settings.Engine
import RecordListing.Settings.Field
import RecordListing.Store.Cell
import RecordListing.Store.Codec
import RecordListing.Store.Database
import RecordListing.Store.Day
import RecordListing.Store.Execution
import RecordListing.Store.Matching
import RecordListing.Store.Numeral
import RecordListing.Store.Statement
import RecordListing.Text.Blank
import RecordListing.Text.Case
import RecordListing.Text.Digit
import RecordListing.Text.Like
import RecordListing.Text.Pieces
import RecordListing.Text.Printable
import RecordListing.Text.Quoted
import RecordListing.Text.Range
import RecordListing.Text.Word
import RecordListing.Time.Calendar
import RecordListing.Time.Iso
import RecordListing.Time.Timestamp
import RecordListing.Uuid
import RecordListing.Value.Basic
import RecordListing.Value.Shown
import RecordListing.Web.Http
import RecordListing.Web.Message
import RecordListing.Web.Origin
import RecordListing.Web.QueryString
import RecordListing.Web.Redaction
import RecordListing.Web.Resource
import RecordListing.Web.Status
import RecordListing.Proofs.Outcome
import RecordListing.Proofs.Query.Bounds
import RecordListing.Proofs.Query.Columns
import RecordListing.Proofs.Query.Compilation
import RecordListing.Proofs.Query.Congruence
import RecordListing.Proofs.Query.Coverage
import RecordListing.Proofs.Query.Demands
import RecordListing.Proofs.Query.DistinctParameters
import RecordListing.Proofs.Query.EnforcedFilters
import RecordListing.Proofs.Query.Enforcement
import RecordListing.Proofs.Query.FilterKeys
import RecordListing.Proofs.Query.FilterMeaning
import RecordListing.Proofs.Query.GroupMeaning
import RecordListing.Proofs.Query.JoinPlan
import RecordListing.Proofs.Query.MoreFilters
import RecordListing.Proofs.Query.NoMissingJoin
import RecordListing.Proofs.Query.ParameterNames
import RecordListing.Proofs.Query.Path
import RecordListing.Proofs.Query.RefusedTexts
import RecordListing.Proofs.Query.SearchMeaning
import RecordListing.Proofs.Query.SqlText
import RecordListing.Proofs.Query.StatementText
import RecordListing.Proofs.Query.Unnamed
import RecordListing.Proofs.Query.ValueShape
import RecordListing.Proofs.Query.WholeDays
import RecordListing.Proofs.Records.Keys
import RecordListing.Proofs.Records.Times
import RecordListing.Proofs.Store.Assignment
import RecordListing.Proofs.Store.CellOrder
import RecordListing.Proofs.Store.GroupUnion
import RecordListing.Proofs.Store.Grouping
import RecordListing.Proofs.Store.Loading
import RecordListing.Proofs.Store.Meaning
import RecordListing.Proofs.Store.Narrowing
import RecordListing.Proofs.Store.OtherPlans
import RecordListing.Proofs.Store.SearchUnion
import RecordListing.Proofs.Store.StoredTimes
import RecordListing.Proofs.Text.Padded
import RecordListing.Proofs.Text.Pieces
import RecordListing.Proofs.Records.Changes
import RecordListing.Proofs.Records.Calls
import RecordListing.Proofs.Records.Lookup
import RecordListing.Proofs.Records.Pages
import RecordListing.Proofs.Records.Visibility
import RecordListing.Proofs.Records.Accounts
import RecordListing.Proofs.Records.SoftDeletion
import RecordListing.Proofs.Records.Removal
import RecordListing.Proofs.Records.RelationTrees
import RecordListing.Proofs.Records.ShownRelations
import RecordListing.Proofs.Web.BracketKeys
import RecordListing.Proofs.Web.Brackets
import RecordListing.Proofs.Web.Commits
import RecordListing.Proofs.Web.Leaves
import RecordListing.Proofs.Web.Nesting
import RecordListing.Proofs.Web.Signs
import RecordListing.Proofs.Web.Redaction
import RecordListing.Proofs.Web.Traffic
import RecordListing.Proofs.Store.DayOrder
import RecordListing.Proofs.Query.Aliases
import RecordListing.Proofs.Query.AnyOf
import RecordListing.Proofs.Query.CalendarDays
import RecordListing.Proofs.Query.JoinOrder
import RecordListing.Proofs.Query.Partition
import RecordListing.Proofs.Number.Literals
import RecordListing.Proofs.Query.CanonicalTexts
import RecordListing.Proofs.Query.LiteralSearch
import RecordListing.Proofs.Query.SoughtValues
import RecordListing.Proofs.Text.Digits
import RecordListing.Proofs.Text.Identifiers
import RecordListing.Proofs.Text.Languages
import RecordListing.Proofs.Text.Patterns
import RecordListing.Proofs.Time.Written
import RecordListing.Proofs.Web.GroupOrder
import RecordListing.Proofs.Entries
import RecordListing.Proofs.Json.Strings
import RecordListing.Proofs.Json.Documents
import RecordListing.Proofs.Json.Values
import RecordListing.Proofs.Log.Lines
import RecordListing.Proofs.Number.LiteralValues
import RecordListing.Proofs.Query.AskedWindows
import RecordListing.Proofs.Time.DayNumbers
import RecordListing.Proofs.Time.Calendar
