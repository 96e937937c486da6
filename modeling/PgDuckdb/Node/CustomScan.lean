import PgDuckdb.Basic

/-!
# The custom scan node

The node that stands on top of a plan when DuckDB runs the query (`pgduckdb_node.cpp`). The first call of
`Duckdb_ExecCustomScan` binds the parameters and executes the prepared statement; every call hands out one
row, from a chunk that is fetched when the one before it is used up. An exception on the way leaves the
state cleaned up.

What DuckDB does is a parameter: the tasks of a pending query with what each of them answers, and the
chunks of a result.
-/

namespace PgDuckdb.Node

/-! ## DuckDB's part -/

/-- How far a pending execution has got. -/
inductive PendingExecutionResult
  | RESULT_READY
  | RESULT_NOT_READY
  | EXECUTION_ERROR
  | BLOCKED
  | NO_TASKS_AVAILABLE
  | EXECUTION_FINISHED
  deriving DecidableEq, Repr

/-- What `QueryResult::Fetch` gives, a chunk of rows or an exception, one for each call. Behind the end of
the list it is the null pointer. -/
abbrev Chunks (V : Type) := List (Except String (List (List (Option V))))

/-- A result: chunks of rows, and how many columns each has. -/
structure QueryResult (V : Type) where
  chunks : Chunks V
  ColumnCount : ℕ

/-- A pending query. -/
structure PendingQueryResult (V : Type) where
  /-- What `ExecuteTask` answers, call for call, and whether `QueryCancelPending` is set then. -/
  tasks : List (PendingExecutionResult × Bool)
  /-- What `ThrowError` throws. -/
  error : String
  Execute : QueryResult V

/-- A prepared statement over parameters of the type `W`. -/
structure PreparedStatement (W V : Type) where
  named_param_map : List String
  PendingQuery : List (String × Option W) → Bool → Except String (PendingQueryResult V)

/-- `ParamExternData`, as `paramFetch` or the array gives it. -/
structure ParamExternData (D : Type) where
  value : D
  isnull : Bool
  ptype : Oid
  deriving DecidableEq, Repr

/-! ## The state -/

/-- The state of a scan. -/
structure DuckdbScanState (D W V : Type) where
  params : List (ParamExternData D)
  /-- The query contains a Postgres table. -/
  ContainsPostgresTable : Bool
  prepared_statement : Option (PreparedStatement W V)
  is_executed : Bool
  fetch_next : Bool
  query_results : Option (Chunks V)
  column_count : ℕ
  current_data_chunk : Option (List (List (Option V)))
  current_row : ℕ

/-- What the scan raises, and where it leaves no defined state. -/
inductive ScanError
  /-- An exception of DuckDB, or of a conversion. -/
  | exception (message : String)
  /-- `parameter 'i' has an invalid type`. -/
  | invalidParameterType (i : ℕ) (ptype : Oid)
  /-- `Query cancelled`. -/
  | cancelled
  /-- `Value conversion failed`. -/
  | conversionFailed
  /-- A `unique_ptr` that is null is followed, which it throws for itself. -/
  | nullPointer
  /-- Memory that is not there is read: a raw pointer that is null is followed, or a row behind a chunk is taken. That
  is no exception, and nothing catches it. -/
  | undefined
  deriving DecidableEq, Repr

/-- What is in the slot: nothing, or a row. -/
abbrev Slot (D : Type) := Option (List (Option D))

section
variable {D W V : Type}

/-- `CleanupDuckdbScanState`. -/
def CleanupDuckdbScanState (state : DuckdbScanState D W V) : DuckdbScanState D W V :=
  { state with query_results := none, current_data_chunk := none, prepared_statement := none }

/-- The assignments at the end of `Duckdb_BeginCustomScan`. -/
def Duckdb_BeginCustomScan (ContainsPostgresTable : Bool) (prepared_query : PreparedStatement W V)
    (params : List (ParamExternData D)) : DuckdbScanState D W V where
  params := params
  ContainsPostgresTable := ContainsPostgresTable
  prepared_statement := some prepared_query
  is_executed := false
  fetch_next := true
  query_results := none
  column_count := 0
  current_data_chunk := none
  current_row := 0

variable (ConvertPostgresParameterToDuckValue : D → Oid → Except String W)
variable (ConvertDuckToPostgresValue : ℕ → V → Except String (Option D))
variable (IsResultReady : PendingExecutionResult → Bool)

/-! ## Execution -/

/-- The loop of `ExecuteQuery` over the parameters, from the one with this index on. -/
def namedValues (named_param_map : List String) :
    ℕ → List (ParamExternData D) → Except ScanError (List (String × Option W))
  | _, [] => .ok []
  | i, pg_param :: params =>
    if toString (i + 1) ∉ named_param_map then namedValues named_param_map (i + 1) params
    else if pg_param.isnull then do
      let rest ← namedValues named_param_map (i + 1) params
      .ok ((toString (i + 1), none) :: rest)
    else if pg_param.ptype ≠ 0 then
      match ConvertPostgresParameterToDuckValue pg_param.value pg_param.ptype with
      | .error message => .error (.exception message)
      | .ok duckdb_param => do
        let rest ← namedValues named_param_map (i + 1) params
        .ok ((toString (i + 1), some duckdb_param) :: rest)
    else .error (.invalidParameterType i pg_param.ptype)

/-- The loop of `ExecuteQuery` over the tasks. It ends when the result is ready, or when a cancel is
pending after a task that has not made it ready: the tasks are interrupted then, `ProcessInterrupts` finds
the cancel held off (`HOLD_CANCEL_INTERRUPTS`), and the loop throws itself. With no answer left it has not
ended. -/
def executeTasks : List (PendingExecutionResult × Bool) → Option (Except ScanError PendingExecutionResult)
  | [] => none
  | (execution_result, QueryCancelPending) :: tasks =>
    if IsResultReady execution_result then some (.ok execution_result)
    else if QueryCancelPending then some (.error .cancelled)
    else executeTasks tasks

/-- `ExecuteQuery`, if it comes to an end. The pointer to the statement is a raw one. -/
def ExecuteQuery (state : DuckdbScanState D W V) : Option (Except ScanError (DuckdbScanState D W V)) :=
  match state.prepared_statement with
  | none => some (.error .undefined)
  | some prepared =>
    match namedValues ConvertPostgresParameterToDuckValue prepared.named_param_map 0 state.params with
    | .error e => some (.error e)
    | .ok named_values =>
      let allow_stream_result := !state.ContainsPostgresTable
      match prepared.PendingQuery named_values allow_stream_result with
      | .error message => some (.error (.exception message))
      | .ok pending =>
        (executeTasks IsResultReady pending.tasks).map fun
          | .error e => .error e
          | .ok .EXECUTION_ERROR => .error (.exception pending.error)
          | .ok _ => .ok { state with
              query_results := some pending.Execute.chunks
              column_count := pending.Execute.ColumnCount
              is_executed := true }

/-! ## Rows -/

/-- The loop of `Duckdb_ExecCustomScan` over the columns of a row. -/
def storeRow (column_count : ℕ) (row : List (Option V)) : Except ScanError (List (Option D)) :=
  (List.range column_count).mapM fun col =>
    match row.getD col none with
    | none => .ok none
    | some value =>
      match ConvertDuckToPostgresValue col value with
      | .error message => .error (.exception message)
      | .ok none => .error .conversionFailed
      | .ok (some datum) => .ok (some datum)

/-- The part of `Duckdb_ExecCustomScan` that takes a row from the current chunk: the slot or an exception,
and the state afterwards. `GetValue` does not check the row. -/
def nextRow (state : DuckdbScanState D W V) : Except ScanError (Slot D) × DuckdbScanState D W V :=
  match state.current_data_chunk with
  | none => (.error .nullPointer, state)
  | some chunk =>
    match chunk[state.current_row]? with
    | none => (.error .undefined, state)
    | some row =>
      match storeRow ConvertDuckToPostgresValue state.column_count row with
      | .error e => (.error e, state)
      | .ok slot =>
        let state := { state with current_row := state.current_row + 1 }
        if state.current_row ≥ chunk.length then
          (.ok (some slot), { state with current_data_chunk := none, fetch_next := true })
        else (.ok (some slot), state)

/-- The part of `Duckdb_ExecCustomScan` after the execution. -/
def fetchRow (state : DuckdbScanState D W V) : Except ScanError (Slot D) × DuckdbScanState D W V :=
  if state.fetch_next then
    match state.query_results with
    | none => (.error .nullPointer, state)
    | some (.error message :: chunks) =>
      (.error (.exception message), { state with query_results := some chunks })
    | some [] =>
      (.ok none, { state with current_data_chunk := none, current_row := 0, fetch_next := false })
    | some (.ok chunk :: chunks) =>
      let state := { state with
        query_results := some chunks
        current_data_chunk := some chunk
        current_row := 0
        fetch_next := false }
      if chunk.length = 0 then (.ok none, state) else nextRow ConvertDuckToPostgresValue state
  else nextRow ConvertDuckToPostgresValue state

/-- The `catch` of `Duckdb_ExecCustomScan`. -/
def cleanupOnError : Except ScanError (Slot D) × DuckdbScanState D W V →
    Except ScanError (Slot D) × DuckdbScanState D W V
  | (.error .undefined, state) => (.error .undefined, state)
  | (.error e, state) => (.error e, CleanupDuckdbScanState state)
  | (.ok slot, state) => (.ok slot, state)

/-- `Duckdb_ExecCustomScan`, if it comes to an end: the slot or an exception, and the state afterwards. -/
def Duckdb_ExecCustomScan (is_explain_query : Bool) (state : DuckdbScanState D W V) :
    Option (Except ScanError (Slot D) × DuckdbScanState D W V) :=
  if is_explain_query then some (.ok none, state)
  else if state.is_executed then some (cleanupOnError (fetchRow ConvertDuckToPostgresValue state))
  else
    (ExecuteQuery ConvertPostgresParameterToDuckValue IsResultReady state).map fun
      | .error e => cleanupOnError (.error e, state)
      | .ok state => cleanupOnError (fetchRow ConvertDuckToPostgresValue state)

/-- `Duckdb_ReScanCustomScan`. -/
def Duckdb_ReScanCustomScan (state : DuckdbScanState D W V) : DuckdbScanState D W V := state

end

end PgDuckdb.Node
