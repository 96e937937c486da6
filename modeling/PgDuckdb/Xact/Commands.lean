import PgDuckdb.Xact.Backend

/-!
# Commands

What a user command does to the transaction state: the planner, executor and utility hooks, the
event triggers and the table access method, each as the program of `BackendM` that its source
function is, down to the calls into `pgduckdb_xact.cpp`. What Postgres does in between is the
number of command ids it uses, which a command carries as a parameter.

A command stands for a statement that passes the checks that have nothing to do with the
transaction (privileges, unsupported clauses, catalog tables).
-/

namespace PgDuckdb

/-- `if (c) ereport(ERROR, e)`. -/
def ereportIf (c : Prop) [Decidable c] (e : PgError) : BackendM Unit :=
  if c then throw e else pure ()

/-- `if (c) p`. -/
def onlyIf (c : Prop) [Decidable c] (p : BackendM Unit) : BackendM Unit :=
  if c then p else pure ()

/-! ## Hooks of queries -/

/-- The error of DuckDB execution below another query. -/
def executionInsideFunctions : PgError where
  errmsg := "DuckDB execution is not supported inside functions"

/-- `IsAllowedStatement` with `throw_error`. -/
def IsAllowedStatement (isSelect : Bool) : BackendM Unit := do
  let s ← get
  ereportIf (isSelect = false ∧ s.DidDisallowedMixedWrites = true) mixedWrites
  ereportIf (s.executor_nest_level > 0 ∧ s.unsafe_allow_execution_inside_functions = false)
    executionInsideFunctions

/-- `DuckdbPlannerHook_Cpp`, for a query that DuckDB or Postgres will execute. DuckDB prepares the
query to get its types. -/
def DuckdbPlannerHook_Cpp (isDuckdbPlan isSelect : Bool) : BackendM Unit := do
  if isDuckdbPlan then
    IsAllowedStatement isSelect
    GetConnection false
  else
    ereportIf (isSelect = false ∧ (← get).AllowWrites = false) mixedWrites
    MarkStatementNotTopLevel

/-- `DuckdbExecutorStartHook`. Postgres's own `ExecutorStart` marks the command id as used for a
query that modifies or locks rows, and begins the scan of a DuckDB plan, which takes the
connection. -/
def DuckdbExecutorStartHook (isDuckdbPlan isSelect usesCommandId : Bool) : BackendM Unit := do
  modify fun s => { s with executor_nest_level := s.executor_nest_level + 1 }
  let _ ← GetCurrentCommandId usesCommandId
  if isDuckdbPlan then
    GetConnection false
    onlyIf (isSelect = false) (ClaimCurrentCommandId false)
  else MarkStatementNotTopLevel

/-- `DuckdbExecutorFinishHook`. -/
def DuckdbExecutorFinishHook (isDuckdbPlan : Bool) : BackendM Unit := do
  modify fun s => { s with executor_nest_level := s.executor_nest_level - 1 }
  onlyIf (isDuckdbPlan = true ∧ (← get).ddbDidWrites = true) (ClaimCurrentCommandId false)

/-- What the planner hook sees of a query: a cached plan is not planned again, and a data-modifying
`WITH` of a `SELECT` is planned as a `SELECT`. -/
inductive Planning
  | planned
  | cached
  | modifyingCte
  deriving DecidableEq

/-- A query that Postgres executes. -/
def executePostgres (planning : Planning) (isSelect usesCommandId : Bool) : BackendM Unit := do
  onlyIf (planning ≠ .cached) (DuckdbPlannerHook_Cpp false (isSelect || planning = .modifyingCte))
  DuckdbExecutorStartHook false isSelect usesCommandId
  DuckdbExecutorFinishHook false
  CommandCounterIncrement

/-- A query that DuckDB executes, and whether it writes. -/
def executeDuckdb (planned isSelect writes : Bool) : BackendM Unit := do
  onlyIf (planned = true) (DuckdbPlannerHook_Cpp true isSelect)
  DuckdbExecutorStartHook true isSelect (!isSelect)
  onlyIf (writes = true) duckdbWrite
  DuckdbExecutorFinishHook true
  CommandCounterIncrement

/-- `DuckDBQueryOrThrow` of a statement, on the cached connection. -/
def DuckDBQueryOrThrow (writes : Bool) : BackendM Unit := do
  GetConnection false
  onlyIf (writes = true) duckdbWrite

/-! ## Utility statements -/

/-- Postgres uses a number of command ids, one for each catalog change it makes visible. -/
def useCommandIds : Nat → BackendM Unit
  | 0 => pure ()
  | n + 1 => do
    let _ ← GetCurrentCommandId true
    CommandCounterIncrement
    useCommandIds n

/-- `DuckdbUtilityHook_Cpp` around `DuckdbHandleDDLPre` and Postgres's own processing of the
statement, which fires the event triggers. -/
def DuckdbUtilityHook_Cpp (isTopLevel : Bool) (pre process : BackendM Unit) : BackendM Unit := do
  let prev_top_level_ddl := (← get).top_level_statement
  SetStatementTopLevel isTopLevel
  pre
  process
  SetStatementTopLevel prev_top_level_ddl
  CommandCounterIncrement

/-- The end of the create and alter triggers: claim what Postgres did for the statement, and run it
in DuckDB in a transaction. -/
def claimAndForward : BackendM Unit := do
  ClaimCurrentCommandId true
  GetConnection true
  duckdbWrite

/-- `CREATE TABLE` or `CREATE TABLE AS` with the duckdb access method. -/
structure CreateTable where
  relid : Oid
  temporary : Bool
  asSelect : Bool
  /-- Not so if the table exists and the statement says `IF NOT EXISTS`. -/
  created : Bool
  /-- Command ids of the catalog changes before the event trigger, and of the change of owner. -/
  catalogIds : Nat
  ownerIds : Nat

/-- The errors of the creation. -/
def oneTablePerStatement : PgError where
  errmsg := "Only one DuckDB table can be created in a single statement"

/-- The error about a CREATE TABLE of another form. -/
def cannotCreateThisWay : PgError where
  errmsg := "Cannot create a DuckDB table this way, use CREATE TABLE or CREATE TABLE ... AS"

/-- The error about a permanent table. -/
def onlyTempTables : PgError where
  errmsg := "Only TEMP tables are supported in DuckDB if MotherDuck support is not enabled"

/-- `DuckdbHandleDDLPre` of a `CREATE TABLE`; the query of a `CREATE TABLE AS` is planned here. -/
def DuckdbHandleDDLPre_createTable (stmt : CreateTable) : BackendM Unit := do
  ereportIf ((← get).top_level_duckdb_ddl_type ≠ .NONE) oneTablePerStatement
  modify fun s => { s with top_level_duckdb_ddl_type := .CREATE_TABLE }
  ClaimCurrentCommandId false
  onlyIf (stmt.asSelect = true) (GetConnection false)

/-- A write to `duckdb.tables`, the only write to Postgres that an event trigger makes. -/
def writeDuckdbTables : BackendM Unit := do
  SetForceAllowWrites true
  executePostgres .planned false true
  SetForceAllowWrites false

/-- The part of the create trigger that tracks the table, in the set of temporary tables or in
`duckdb.tables`. -/
def trackTable (stmt : CreateTable) : BackendM Unit :=
  if stmt.temporary then RegisterDuckdbTempTable stmt.relid
  else do
    ereportIf ((← get).motherduck_enabled = false) onlyTempTables
    DuckDBManagerGet
    writeDuckdbTables
    useCommandIds stmt.ownerIds

/-- `duckdb_create_table_trigger`. -/
def duckdb_create_table_trigger (stmt : CreateTable) : BackendM Unit := do
  let original_ddl_type := (← get).top_level_duckdb_ddl_type
  modify fun s => { s with top_level_duckdb_ddl_type := .NONE }
  executePostgres .planned true false
  onlyIf (stmt.created = true) do
    ereportIf (original_ddl_type ≠ .CREATE_TABLE) cannotCreateThisWay
    trackTable stmt
    onlyIf ((← get).doing_motherduck_sync = false) claimAndForward

/-- The forms of `ALTER TABLE`. -/
inductive AlterKind
  | alter
  | renameTable
  | renameColumn
  deriving DecidableEq

/-- The error of a rename inside another statement. -/
def oneRenamePerStatement (noun : String) : PgError where
  errmsg := "Only one DuckDB " ++ noun ++ " can be renamed in a single statement"

/-- The error of a table altered by another statement. -/
def cannotAlterThisWay : PgError where
  errmsg := "Cannot ALTER a DuckDB table this way, please use ALTER TABLE"

/-- `DuckdbHandleDDLPre` of an `ALTER TABLE` on a DuckDB table. Inside another DuckDB statement a
rename fails here, another change only in the trigger. -/
def DuckdbHandleDDLPre_alterTable (kind : AlterKind) : BackendM Unit := do
  if (← get).top_level_duckdb_ddl_type = .NONE then
    modify fun s => { s with top_level_duckdb_ddl_type := .ALTER_TABLE }
    ClaimCurrentCommandId false
  else
    match kind with
    | .alter => pure ()
    | .renameTable => throw (oneRenamePerStatement "table")
    | .renameColumn => throw (oneRenamePerStatement "column")

/-- `duckdb_alter_table_trigger`, for a DuckDB table. -/
def duckdb_alter_table_trigger : BackendM Unit := do
  let original_ddl_type := (← get).top_level_duckdb_ddl_type
  modify fun s => { s with top_level_duckdb_ddl_type := .NONE }
  executePostgres .planned true false
  onlyIf ((← get).doing_motherduck_sync = false) do
    ereportIf (original_ddl_type ≠ .ALTER_TABLE) cannotAlterThisWay
    claimAndForward

/-! ## Drops -/

/-- An object that a statement drops, directly or by cascade. -/
inductive DroppedObject
  /-- A table or view with a row in `duckdb.tables`. -/
  | recorded
  /-- A table of `pg_temp`. -/
  | temporary (relid : Oid)
  /-- Another table or view. -/
  | relation
  /-- A `ddb$` schema. -/
  | ddbSchema
  /-- An object of a type that the trigger counts (a schema, a function, a column, ...). -/
  | counted
  /-- An object of a type that it does not count (a type, sequence, table constraint, index,
  default value, trigger, toast table or rule). It is part of a dropped DuckDB relation, or an
  object of its own. -/
  | uncounted (own : Bool)
  deriving DecidableEq

/-- A table or view. -/
def DroppedObject.isRelation : DroppedObject → Bool
  | .recorded | .temporary _ | .relation => true
  | _ => false

/-- An object that the trigger counts. -/
def DroppedObject.isCounted : DroppedObject → Bool
  | .uncounted _ => false
  | _ => true

/-- The statement that drops. `DROP TABLE` and `DROP VIEW` carry, for each relation they name and
find, whether it is a DuckDB table (a MotherDuck view). -/
inductive DropKind
  | tables (names : List Bool)
  | views (names : List Bool)
  | other
  deriving DecidableEq

/-- A drop, the objects it reaches, and how many command ids beyond one Postgres uses for them. -/
structure Drop where
  kind : DropKind
  objects : List DroppedObject
  ids : Nat

/-- The loop of the pre-checks: the first DuckDB relation claims the command id. -/
def dropPreCheckLoop (dropping_duckdb dropping_postgres : Bool) :
    List Bool → BackendM (Bool × Bool)
  | [] => pure (dropping_duckdb, dropping_postgres)
  | true :: names => do
    onlyIf (dropping_duckdb = false) (ClaimCurrentCommandId false)
    dropPreCheckLoop true dropping_postgres names
  | false :: names => dropPreCheckLoop dropping_duckdb true names

/-- The body that `DropTablePreCheck` and `DropViewPreCheck` share. -/
def dropPreCheck (mixed : PgError) (names : List Bool) : BackendM Unit := do
  let dropping ← dropPreCheckLoop false false names
  ereportIf ((← get).MixedWritesAllowed = false ∧ dropping.1 = true ∧ dropping.2 = true) mixed

/-- The errors of a drop of both kinds. -/
def dropsBothTables : PgError where
  errmsg := "Dropping both DuckDB and non-DuckDB tables in the same transaction is not supported"

/-- The error about dropping views of both kinds. -/
def dropsBothViews : PgError where
  errmsg := "Dropping both DuckDB and non-DuckDB views in the same transaction is not supported"

/-- The error about dropping relations of both kinds. -/
def dropsBothRelations : PgError where
  errmsg := "Dropping both DuckDB and non-DuckDB relations in the same transaction is not supported"

/-- The error about dropping objects of both kinds. -/
def dropsBothObjects : PgError where
  errmsg := "Dropping both DuckDB relations and non-DuckDB objects in the same transaction is not supported"

/-- The error about dropping a ddb$ schema. -/
def dropsDdbSchema : PgError where
  errmsg := "Currently it's not possible to drop ddb$ schemas"

/-- `DropTablePreCheck`. -/
def DropTablePreCheck (names : List Bool) : BackendM Unit := dropPreCheck dropsBothTables names

/-- `DropViewPreCheck`. -/
def DropViewPreCheck (names : List Bool) : BackendM Unit := dropPreCheck dropsBothViews names

/-- `DuckdbHandleDDLPre` of a drop. -/
def DuckdbHandleDDLPre_drop : DropKind → BackendM Unit
  | .tables names => DropTablePreCheck names
  | .views names => DropViewPreCheck names
  | .other => pure ()

/-- A `DROP` that is forwarded to DuckDB. The connection is created for the first one. -/
def forwardDrop (deleted_duckdb_relations : Nat) : BackendM Unit := do
  onlyIf (deleted_duckdb_relations = 0) (GetConnection true)
  duckdbWrite

/-- The loop over the rows deleted from `duckdb.tables`; it returns the new count. -/
def dropRecorded (deleted_duckdb_relations : Nat) : List DroppedObject → BackendM Nat
  | [] => pure deleted_duckdb_relations
  | .recorded :: objects => do
    forwardDrop deleted_duckdb_relations
    dropRecorded (deleted_duckdb_relations + 1) objects
  | _ :: objects => dropRecorded deleted_duckdb_relations objects

/-- The loop over the dropped tables of `pg_temp`. -/
def dropTemporary (deleted_duckdb_relations : Nat) : List DroppedObject → BackendM Nat
  | [] => pure deleted_duckdb_relations
  | .temporary relid :: objects => do
    if (← get).IsDuckdbTempTable relid then
      forwardDrop deleted_duckdb_relations
      UnregisterDuckdbTempTable relid
      dropTemporary (deleted_duckdb_relations + 1) objects
    else dropTemporary deleted_duckdb_relations objects
  | _ :: objects => dropTemporary deleted_duckdb_relations objects

/-- The drops are forwarded only with MotherDuck enabled and outside its sync. -/
def dropRecordedIfEnabled (objects : List DroppedObject) : BackendM Nat := do
  let s ← get
  if s.motherduck_enabled && !s.doing_motherduck_sync then dropRecorded 0 objects else pure 0

/-- The part of `duckdb_drop_trigger` that forwards the drops. -/
def forwardDrops (objects : List DroppedObject) : BackendM Nat := do
  let recorded ← dropRecordedIfEnabled objects
  executePostgres .planned true false
  dropTemporary recorded objects

/-- The counters of `duckdb_drop_trigger`. -/
def checkDropped (deleted_duckdb_relations deleted_relations total_deleted : Nat) :
    BackendM Unit := do
  onlyIf ((← get).MixedWritesAllowed = false ∧ deleted_duckdb_relations > 0) do
    ereportIf (deleted_duckdb_relations < deleted_relations) dropsBothRelations
    ereportIf (deleted_duckdb_relations < total_deleted) dropsBothObjects

/-- `duckdb_drop_trigger`. -/
def duckdb_drop_trigger (objects : List DroppedObject) : BackendM Unit := do
  let is_top_level := (← get).top_level_statement
  executePostgres .planned true false
  ereportIf ((← get).doing_motherduck_sync = false ∧ .ddbSchema ∈ objects) dropsDdbSchema
  let total_deleted := objects.countP DroppedObject.isCounted
  let deleted_relations := objects.countP DroppedObject.isRelation
  onlyIf (deleted_relations ≠ 0) do
    writeDuckdbTables
    let deleted_duckdb_relations ← forwardDrops objects
    SetStatementTopLevel is_top_level
    checkDropped deleted_duckdb_relations deleted_relations total_deleted
    onlyIf (deleted_duckdb_relations > 0) (ClaimCurrentCommandId true)

/-- Postgres deletes the objects and fires the trigger, unless there is nothing to drop. -/
def processDrop (stmt : Drop) : BackendM Unit := do
  onlyIf (stmt.objects ≠ []) do
    useCommandIds (stmt.ids + 1)
    duckdb_drop_trigger stmt.objects

/-! ## Commands -/

/-- A command of a transaction. -/
inductive Command
  /-- A query that only reads Postgres tables; `locking` if it locks rows (`FOR UPDATE`). -/
  | pgSelect (locking : Bool)
  /-- An `INSERT`, `UPDATE` or `DELETE` on a Postgres table. -/
  | pgDml (planning : Planning)
  /-- A utility statement that writes to Postgres only (DDL, `COPY FROM`), and how many command ids
  beyond one it uses. -/
  | pgUtility (ids : Nat)
  /-- A query that DuckDB executes; `writes` if a function in it does. -/
  | duckdbSelect (planned writes : Bool)
  /-- An `INSERT`, `UPDATE` or `DELETE` on a DuckDB table. -/
  | duckdbDml (planned : Bool)
  /-- A call of `duckdb.raw_query`. -/
  | rawQuery (writes : Bool)
  | createTable (stmt : CreateTable)
  /-- `ALTER TABLE` on a DuckDB table, and the command ids of the change. -/
  | alterTable (kind : AlterKind) (ids : Nat)
  | drop (stmt : Drop)
  /-- `COPY FROM` into a DuckDB table. -/
  | copyFrom
  /-- `TRUNCATE` of a DuckDB table. Postgres changes its catalog for it, unless the table was
  created or truncated in the same transaction. -/
  | truncate (ids : Nat)

/-- Where the commands of a transaction run. -/
inductive Mode
  | explicitBlock
  /-- In the body of a function that one top-level query calls; `modifying` if that query is itself an
  `INSERT`, `UPDATE` or `DELETE` on a Postgres table. -/
  | function (modifying : Bool)
  /-- In the body of a top-level `DO` or `CALL`, with no query around it. -/
  | body
  deriving DecidableEq

/-- The program of a command. -/
def Command.run (mode : Mode) : Command → BackendM Unit
  | .pgSelect locking => executePostgres .planned true locking
  | .pgDml planning => executePostgres planning false true
  | .pgUtility ids =>
    DuckdbUtilityHook_Cpp (mode = .explicitBlock) (pure ()) (useCommandIds (ids + 1))
  | .duckdbSelect planned writes => executeDuckdb planned true writes
  | .duckdbDml planned => executeDuckdb planned false true
  | .rawQuery writes => do
    DuckdbPlannerHook_Cpp false true
    DuckdbExecutorStartHook false true false
    DuckDBQueryOrThrow writes
    DuckdbExecutorFinishHook false
    CommandCounterIncrement
  | .createTable stmt =>
    DuckdbUtilityHook_Cpp (mode = .explicitBlock) (DuckdbHandleDDLPre_createTable stmt) do
      useCommandIds (if stmt.created then stmt.catalogIds else 0)
      duckdb_create_table_trigger stmt
  | .alterTable kind ids =>
    DuckdbUtilityHook_Cpp (mode = .explicitBlock) (DuckdbHandleDDLPre_alterTable kind) do
      useCommandIds ids
      duckdb_alter_table_trigger
  | .drop stmt =>
    DuckdbUtilityHook_Cpp (mode = .explicitBlock) (DuckdbHandleDDLPre_drop stmt.kind)
      (processDrop stmt)
  | .copyFrom => do
    DuckDBQueryOrThrow true
    CommandCounterIncrement
  | .truncate ids =>
    DuckdbUtilityHook_Cpp (mode = .explicitBlock) (pure ()) do
      DuckDBQueryOrThrow true
      useCommandIds ids

end PgDuckdb
