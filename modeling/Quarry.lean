import Quarry.Client.Session
import Quarry.Sample.Person
import Quarry.Proofs.Sql.Lexeme
import Quarry.Proofs.Sql.Outcome
import Quarry.Proofs.Sql.Reader
import Quarry.Proofs.Sql.Predicate
import Quarry.Proofs.Sql.CriteriaText
import Quarry.Proofs.Sql.Grouping
import Quarry.Proofs.Sql.Parentheses
import Quarry.Proofs.Sql.Sentence
import Quarry.Proofs.Sql.ClauseText
import Quarry.Proofs.Sql.StatementText
import Quarry.Proofs.Sql.Alike
import Quarry.Proofs.Sql.Truth
import Quarry.Proofs.Statement.Distinct
import Quarry.Proofs.Statement.Assignments
import Quarry.Proofs.Update.Key
import Quarry.Proofs.Sql.Readable
import Quarry.Proofs.Update.Chain
import Quarry.Proofs.Update.Where
import Quarry.Proofs.Statement.Calls
import Quarry.Proofs.Statement.Request
import Quarry.Proofs.Client.Response
import Quarry.Proofs.Client.Reading
import Quarry.Proofs.Client.Accounts
import Quarry.Proofs.Client.Polling
import Quarry.Proofs.Client.Streaming
import Quarry.Proofs.Client.Cardinality
import Quarry.Proofs.Client.Terminal
import Quarry.Proofs.Client.Consumer
import Quarry.Proofs.Client.Traffic
import Quarry.Proofs.Client.Isolation
import Quarry.Proofs.Text.Casing
import Quarry.Proofs.Row.Insertion
import Quarry.Proofs.Row.Columns
import Quarry.Proofs.Row.Lookup
import Quarry.Proofs.Row.Scan
import Quarry.Proofs.Client.Classification
import Quarry.Proofs.Client.Lingering
import Quarry.Proofs.Calendar.Day
import Quarry.Proofs.Calendar.Instant
import Quarry.Proofs.Number.Decimal
import Quarry.Proofs.Row.Reading
import Quarry.Proofs.Value.Timestamps
import Quarry.Proofs.Statement.Pages
import Quarry.Proofs.Client.Counting
import Quarry.Proofs.Sql.Writing
import Quarry.Proofs.Sql.Composition
import Quarry.Proofs.Text.Abbreviated
import Quarry.Proofs.Text.Separated
import Quarry.Proofs.Sql.Quoting
import Quarry.Proofs.Sql.Resolution
import Quarry.Proofs.Client.Uptake
