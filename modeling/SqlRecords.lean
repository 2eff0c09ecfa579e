import SqlRecords.Config.Environment
import SqlRecords.Json.Reader
import SqlRecords.Model.Path
import SqlRecords.Model.Fetch
import SqlRecords.Model.Link
import SqlRecords.Model.Persistence
import SqlRecords.Pool.Scripted
import SqlRecords.Query.OnePass
import SqlRecords.Remote.Pool
import SqlRecords.Session.Edit
import SqlRecords.Session.Memory
import SqlRecords.Session.Batch
import SqlRecords.SqlServer.Call
import SqlRecords.SqlServer.Cell
import SqlRecords.Proofs.Query.Clauses
import SqlRecords.Proofs.Query.Nesting
import SqlRecords.Proofs.Query.Bound
import SqlRecords.Proofs.Query.Substitution
import SqlRecords.Proofs.Query.Slots
import SqlRecords.Proofs.Query.Drafts
import SqlRecords.Proofs.Query.Parameters
import SqlRecords.Proofs.Query.OnePass
import SqlRecords.Proofs.Query.Numbering
import SqlRecords.Proofs.Model.Answers
import SqlRecords.Proofs.Model.EagerLoading
import SqlRecords.Proofs.Query.Connectors
import SqlRecords.Proofs.Query.Precedence
import SqlRecords.Proofs.Model.BatchScope
import SqlRecords.Proofs.Session.Recording
import SqlRecords.Proofs.Session.Mirroring
import SqlRecords.Proofs.Model.Levels
import SqlRecords.Proofs.Model.Settled
import SqlRecords.Proofs.Model.BatchStatements
import SqlRecords.Proofs.Model.FailedLoading
import SqlRecords.Proofs.SqlServer.Call
import SqlRecords.Proofs.SqlServer.Ordering
import SqlRecords.Proofs.MySql.StringLiteral
import SqlRecords.Proofs.Query.Counting
import SqlRecords.Proofs.Query.Pages
import SqlRecords.Proofs.Query.Ranking
import SqlRecords.Proofs.Query.InsertedRows
import SqlRecords.Proofs.Model.SaveStatements
import SqlRecords.Proofs.Model.Saving
import SqlRecords.Proofs.Dialect.Quoting
import SqlRecords.Proofs.Dialect.Slices
import SqlRecords.Proofs.Query.Partition
import SqlRecords.Proofs.Query.Completeness
import SqlRecords.Proofs.Row.RepeatedNames
import SqlRecords.Proofs.Model.ReportedKeys
import SqlRecords.Proofs.Session.Batches
import SqlRecords.Proofs.Session.Pools
import SqlRecords.Proofs.Session.Languages
import SqlRecords.Proofs.Session.Closing
import SqlRecords.Proofs.Session.Interleaving
import SqlRecords.Proofs.Session.Races
import SqlRecords.Proofs.Session.Executions
import SqlRecords.Proofs.Session.Turns
import SqlRecords.Proofs.Session.Isolation
import SqlRecords.Proofs.Model.LinkRows
import SqlRecords.Proofs.Model.GeneratedKeys
import SqlRecords.Proofs.Model.LazyLoading
import SqlRecords.Proofs.Model.Resolution
import SqlRecords.Proofs.Model.Hydration
import SqlRecords.Proofs.Model.Keyless
import SqlRecords.Proofs.Query.AddedColumns
import SqlRecords.Proofs.Model.AliasedColumns
import SqlRecords.Proofs.Query.Trimming
import SqlRecords.Proofs.Session.NamedFailures
import SqlRecords.Proofs.Model.DeclaredKeys
import SqlRecords.Proofs.Text.Words
import SqlRecords.Proofs.Dialect.References
import SqlRecords.Proofs.Dialect.Escaping
import SqlRecords.Proofs.Query.Spelling
import SqlRecords.Proofs.Query.Grammar
import SqlRecords.Proofs.Text.Agreement
import SqlRecords.Proofs.Dialect.Agreement
import SqlRecords.Proofs.Sql.Agreement
import SqlRecords.Proofs.Query.Endings
import SqlRecords.Proofs.Query.InDialect
import SqlRecords.Proofs.Query.Bodies
import SqlRecords.Proofs.Query.OneDialect
import SqlRecords.Proofs.Model.KeyIndex
import SqlRecords.Proofs.Config.Variables
