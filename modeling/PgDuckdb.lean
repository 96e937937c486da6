import PgDuckdb.SchemaName
import PgDuckdb.Xact.TempTables
import PgDuckdb.Xact.FalseErrors
import PgDuckdb.Tables.Tracking
import PgDuckdb.Scan.Query
import PgDuckdb.Sync.Complete
import PgDuckdb.Sync.Rounds
import PgDuckdb.Scan.LifeCycle
import PgDuckdb.Scan.Literals
import PgDuckdb.Cache.Secrets
import PgDuckdb.Cache.Invalidation
import PgDuckdb.Cache.Recovery
import PgDuckdb.Cache.ValidationRuns
import PgDuckdb.Xact.Nesting
import PgDuckdb.Tables.Marker
import PgDuckdb.Xact.Savepoints
import PgDuckdb.Worker.SessionHint
import PgDuckdb.Manager.Extensions
import PgDuckdb.Manager.TimeZone
import PgDuckdb.Types.ConvertNumeric
import PgDuckdb.Types.SpecialNumeric
import PgDuckdb.Types.Uuid
import PgDuckdb.Types.Timestamps
import PgDuckdb.Arrays.Construct
import PgDuckdb.Chunks.ReadBack
import PgDuckdb.Chunks.Insert
import PgDuckdb.Scalars.Parameters
import PgDuckdb.Scalars.SameReading
import PgDuckdb.Chunks.Cardinality
import PgDuckdb.Scan.Parallel
import PgDuckdb.Queries.Views
import PgDuckdb.Detoast.Datum
import PgDuckdb.Copy.Permissions
import PgDuckdb.Copy.Reading
import PgDuckdb.Deparse.Like
import PgDuckdb.Deparse.Stars
import PgDuckdb.Deparse.Subscripts
import PgDuckdb.Deparse.AlterSplit
import PgDuckdb.Worker.ExitHook
import PgDuckdb.Scan.Waiting
import PgDuckdb.Text.Uri
import PgDuckdb.Cache.SecretQueries
import PgDuckdb.Worker.WakeUp
import PgDuckdb.Node.Runs
import PgDuckdb.Errors.Exceptions
import PgDuckdb.Deparse.TableReading
import PgDuckdb.Tables.Agreement
import PgDuckdb.Scalars.ToPostgres
import PgDuckdb.Arrays.RoundTrip
import PgDuckdb.Storage.References
