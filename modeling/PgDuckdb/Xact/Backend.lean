import PgDuckdb.Basic

/-!
# Transaction state of one backend

The globals of `pgduckdb_xact.cpp`, with what they are compared with: the command counter and the
transaction block of Postgres, and the cached DuckDB connection. Every function of that file is a
program of `BackendM`; a program that throws keeps the state it had changed by then, as the
globals do.

Each program has one lemma that says what running it does (`ClaimCurrentCommandId_run`,
`DuckdbXactCallback_abort_run`, ...); the modules above use those and never unfold a program.
-/

namespace PgDuckdb

/-- `DDLType`: the DuckDB DDL statement being executed. -/
inductive DDLType
  | NONE | CREATE_TABLE | ALTER_TABLE | REFRESH_MATERIALIZED_VIEW | RENAME_VIEW
  deriving DecidableEq, Repr

/-- `XactEvent`, the transaction events Postgres reports. -/
inductive XactEvent
  | COMMIT | PARALLEL_COMMIT | ABORT | PARALLEL_ABORT | PREPARE | PRE_COMMIT
  | PARALLEL_PRE_COMMIT | PRE_PREPARE
  deriving DecidableEq, Repr

/-- The state of one backend. -/
structure Backend where
  /-- Postgres: the command counter, and whether the current command id was used. -/
  currentCommandId : Nat
  currentCommandIdUsed : Bool
  /-- Postgres: inside a transaction block, explicit or implicit (`blockState`). -/
  transactionBlock : Bool
  /-- Postgres: the number of open subtransactions. -/
  subTransactions : Nat
  /-- Settings. -/
  unsafe_allow_mixed_transactions : Bool
  unsafe_allow_execution_inside_functions : Bool
  motherduck_enabled : Bool
  /-- `pgduckdb_xact.cpp`. -/
  next_expected_command_id : Nat
  top_level_statement : Bool
  force_allow_writes : Bool
  modified_temporary_duckdb_tables : Bool
  temporary_duckdb_tables : Finset Oid
  temporary_duckdb_tables_old : Finset Oid
  /-- The globals of the other files that the transaction callback resets or that decide
  whether writes may mix. -/
  top_level_duckdb_ddl_type : DDLType
  executor_nest_level : Nat
  doing_motherduck_sync : Bool
  /-- `DuckDBManager`: whether there is a database, whether the cached connection has an active
  transaction, and whether that transaction has modified a database. -/
  initialized : Bool
  hasActiveTransaction : Bool
  modifiedDatabase : Bool
  deriving DecidableEq

/-- `FirstCommandId`. -/
def FirstCommandId : Nat := 0

/-- Programs of the backend. -/
abbrev BackendM := EStateM PgError Backend

/-- The state a program leaves, whether or not it throws. -/
def stateAfter {α : Type} (p : BackendM α) (s : Backend) : Backend :=
  match p.run s with
  | .ok _ s' => s'
  | .error _ s' => s'

/-! ## Postgres -/

/-- `GetCurrentCommandId`. -/
def GetCurrentCommandId (used : Bool) : BackendM Nat := do
  if used then modify fun s => { s with currentCommandIdUsed := true }
  return (← get).currentCommandId

/-- `CommandCounterIncrement`, which does nothing unless the current command id was used. -/
def CommandCounterIncrement : BackendM Unit := do
  if (← get).currentCommandIdUsed then
    modify fun s =>
      { s with currentCommandId := s.currentCommandId + 1, currentCommandIdUsed := false }

/-- Postgres's `IsInTransactionBlock(isTopLevel)`. -/
def Backend.isInTransactionBlock (s : Backend) (isTopLevel : Bool) : Bool :=
  s.transactionBlock || s.subTransactions > 0 || !isTopLevel

/-! ## `pgduckdb_xact.cpp` -/

/-- The error of a transaction that writes to both systems. -/
def mixedWrites : PgError where
  errmsg := "Writing to DuckDB and Postgres tables in the same transaction block is not supported"

namespace Backend
variable (s : Backend)

/-- `pg::IsInTransactionBlock()`. -/
def pgIsInTransactionBlock : Bool := s.isInTransactionBlock s.top_level_statement

/-- `pg::DidWrites`. -/
def pgDidWrites : Bool := s.currentCommandId > s.next_expected_command_id

/-- `ddb::DidWrites`. -/
def ddbDidWrites : Bool := s.initialized && s.hasActiveTransaction && s.modifiedDatabase

/-- `MixedWritesAllowed`. -/
def MixedWritesAllowed : Bool :=
  !s.pgIsInTransactionBlock || s.unsafe_allow_mixed_transactions || s.force_allow_writes ||
    s.doing_motherduck_sync

/-- `pg::AllowWrites`. -/
def AllowWrites : Bool := s.MixedWritesAllowed || !s.ddbDidWrites

/-- `DidDisallowedMixedWrites`. -/
def DidDisallowedMixedWrites : Bool := !s.MixedWritesAllowed && s.pgDidWrites && s.ddbDidWrites

/-- `IsDuckdbTempTable`. -/
def IsDuckdbTempTable (relid : Oid) : Bool := relid ∈ s.temporary_duckdb_tables

end Backend

/-- `CheckForDisallowedMixedWrites`. -/
def CheckForDisallowedMixedWrites : BackendM Unit := do
  if (← get).DidDisallowedMixedWrites then throw mixedWrites

/-- `ClaimCurrentCommandId`. -/
def ClaimCurrentCommandId (force : Bool) : BackendM Unit := do
  let new_command_id ← GetCurrentCommandId true
  let s ← get
  if new_command_id ≠ s.next_expected_command_id ∧ s.MixedWritesAllowed = false ∧ force = false then
    throw mixedWrites
  CommandCounterIncrement
  modify fun s => { s with next_expected_command_id := s.currentCommandId }

/-- `MarkStatementNotTopLevel`. -/
def MarkStatementNotTopLevel : BackendM Unit :=
  modify fun s => { s with top_level_statement := false }

/-- `SetStatementTopLevel`. -/
def SetStatementTopLevel (top_level : Bool) : BackendM Unit :=
  modify fun s => { s with top_level_statement := top_level }

/-- `pg::SetForceAllowWrites`. -/
def SetForceAllowWrites (force : Bool) : BackendM Unit :=
  modify fun s => { s with force_allow_writes := force }

/-- Keeps a copy of the temporary tables at their first change in the transaction. -/
def Backend.saveTemporaryTables (s : Backend) : Backend :=
  if s.modified_temporary_duckdb_tables then s
  else { s with modified_temporary_duckdb_tables := true
                temporary_duckdb_tables_old := s.temporary_duckdb_tables }

/-- `RegisterDuckdbTempTable`. -/
def RegisterDuckdbTempTable (relid : Oid) : BackendM Unit := do
  modify Backend.saveTemporaryTables
  modify fun s => { s with temporary_duckdb_tables := insert relid s.temporary_duckdb_tables }

/-- `UnregisterDuckdbTempTable`. -/
def UnregisterDuckdbTempTable (relid : Oid) : BackendM Unit := do
  modify Backend.saveTemporaryTables
  modify fun s => { s with temporary_duckdb_tables := s.temporary_duckdb_tables.erase relid }

/-- The error of a DuckDB commit that fails, standing for whatever DuckDB reports. -/
def duckdbCommitFailed : PgError where
  errmsg := "Failed to commit"

/-- The error for a transaction that is prepared while DuckDB has one open. -/
def preparedTransactions : PgError where
  errmsg := "Prepared transactions are not implemented in DuckDB."

/-- The globals the callback resets at every event, whatever the state of DuckDB. -/
def Backend.endStatement (s : Backend) : Backend :=
  { s with top_level_statement := true, top_level_duckdb_ddl_type := .NONE
           executor_nest_level := 0 }

/-- `DuckdbXactCallback_Cpp`. Whether DuckDB's own commit succeeds is the parameter `commits`;
DuckDB ends its transaction either way. -/
def DuckdbXactCallback_Cpp (commits : Bool) (event : XactEvent) : BackendM Unit := do
  modify Backend.endStatement
  if (← get).initialized then
    match event with
    | .PRE_COMMIT | .PARALLEL_PRE_COMMIT =>
      CheckForDisallowedMixedWrites
      modify fun s => { s with next_expected_command_id := FirstCommandId
                               force_allow_writes := false }
      if (← get).modified_temporary_duckdb_tables then
        modify fun s => { s with modified_temporary_duckdb_tables := false
                                 temporary_duckdb_tables_old := ∅ }
      if (← get).hasActiveTransaction then
        modify fun s => { s with hasActiveTransaction := false, modifiedDatabase := false }
        if commits = false then throw duckdbCommitFailed
    | .ABORT | .PARALLEL_ABORT =>
      modify fun s => { s with next_expected_command_id := FirstCommandId
                               force_allow_writes := false }
      if (← get).modified_temporary_duckdb_tables then
        modify fun s => { s with modified_temporary_duckdb_tables := false
                                 temporary_duckdb_tables := s.temporary_duckdb_tables_old
                                 temporary_duckdb_tables_old := ∅ }
      if (← get).hasActiveTransaction then
        modify fun s => { s with hasActiveTransaction := false, modifiedDatabase := false }
    | .PREPARE | .PRE_PREPARE =>
      if (← get).hasActiveTransaction then throw preparedTransactions
    | .COMMIT | .PARALLEL_COMMIT => pure ()

/-! ## `DuckDBManager`, as far as the transaction goes -/

/-- The error of a DuckDB transaction that would start inside a subtransaction. -/
def subtransactionsNotSupported : PgError where
  errmsg := "SAVEPOINT and subtransactions are not supported in DuckDB"

/-- The error of a subtransaction that would start inside a DuckDB transaction. -/
def savepointNotSupported : PgError where
  errmsg := "SAVEPOINT is not supported in DuckDB"

/-- The backend with a DuckDB instance, a new one unless it has one already. -/
def Backend.opened (s : Backend) : Backend :=
  if s.initialized then s
  else { s with initialized := true, hasActiveTransaction := false, modifiedDatabase := false }

/-- `DuckDBManager::Get`, for an initialisation that succeeds. -/
def DuckDBManagerGet : BackendM Unit := modify Backend.opened

/-- `DuckDBManager::GetConnection`, up to the refresh of secrets and extensions. -/
def GetConnection (force_transaction : Bool) : BackendM Unit := do
  DuckDBManagerGet
  let s ← get
  if s.hasActiveTransaction = false then
    if s.subTransactions > 0 then throw subtransactionsNotSupported
    if force_transaction || s.pgIsInTransactionBlock then
      modify fun s => { s with hasActiveTransaction := true, modifiedDatabase := false }

/-- A statement that DuckDB executes on the cached connection and that modifies a database. It
commits at once unless the connection has a transaction open. -/
def duckdbWrite : BackendM Unit :=
  modify fun s => { s with modifiedDatabase := s.modifiedDatabase || s.hasActiveTransaction }

/-- `DuckdbTruncateTable`, which Postgres calls through the table access method. -/
def DuckdbTruncateTable : BackendM Unit := do
  GetConnection false
  duckdbWrite

/-- `DuckDBManager::Reset`. -/
def DuckDBManagerReset : BackendM Unit :=
  modify fun s => { s with initialized := false, hasActiveTransaction := false
                           modifiedDatabase := false }

/-- `DuckdbSubXactCallback_Cpp` at the start of a subtransaction; it does nothing at the other
subtransaction events. -/
def DuckdbSubXactCallback_start : BackendM Unit := do
  let s ← get
  if s.initialized && s.hasActiveTransaction then throw savepointNotSupported

/-! ## What the programs do -/

section
variable (s : Backend)

/-- The state after a claim. -/
def Backend.claimed (s : Backend) : Backend :=
  { s with currentCommandId := s.currentCommandId + 1, currentCommandIdUsed := false
           next_expected_command_id := s.currentCommandId + 1 }

/-- A claim fails when another command id was used since the last one and neither the setting nor
`force` lets that pass; otherwise it consumes the current command id and expects the next. -/
theorem ClaimCurrentCommandId_run (force : Bool) :
    (ClaimCurrentCommandId force).run s =
      if s.currentCommandId ≠ s.next_expected_command_id ∧ s.MixedWritesAllowed = false ∧
          force = false then
        .error mixedWrites { s with currentCommandIdUsed := true }
      else .ok () s.claimed := by
  have hmixed : Backend.MixedWritesAllowed { s with currentCommandIdUsed := true } =
      s.MixedWritesAllowed := rfl
  simp only [ClaimCurrentCommandId, GetCurrentCommandId, CommandCounterIncrement, if_true,
    EStateM.run_bind, EStateM.run_modify, EStateM.run_get, EStateM.run_pure, hmixed]
  split
  · rfl
  · rfl

/-- Opening an instance changes nothing but the instance. -/
theorem Backend.opened_eq :
    s.opened = { s with initialized := true
                        hasActiveTransaction := s.initialized && s.hasActiveTransaction
                        modifiedDatabase := s.initialized && s.modifiedDatabase } := by
  obtain ⟨⟩ := s
  unfold Backend.opened
  split
  · next hi => simp only at hi; simp [hi]
  · next hi => simp only at hi; simp [hi]

/-- A connection starts a DuckDB transaction in a transaction block, and fails in a
subtransaction unless the DuckDB transaction is open already. -/
theorem GetConnection_run (force_transaction : Bool) :
    (GetConnection force_transaction).run s =
      if s.opened.hasActiveTransaction then .ok () s.opened
      else if s.subTransactions > 0 then .error subtransactionsNotSupported s.opened
      else if force_transaction || s.pgIsInTransactionBlock then
        .ok () { s.opened with hasActiveTransaction := true, modifiedDatabase := false }
      else .ok () s.opened := by
  have hsub : s.opened.subTransactions = s.subTransactions := by rw [Backend.opened_eq]
  have hblock : s.opened.pgIsInTransactionBlock = s.pgIsInTransactionBlock := by
    rw [Backend.opened_eq]; rfl
  simp only [GetConnection, DuckDBManagerGet, EStateM.run_bind, EStateM.run_modify,
    EStateM.run_get, hsub, hblock]
  cases s.opened.hasActiveTransaction with
  | true => rfl
  | false =>
    by_cases h : s.subTransactions > 0
    · simp [h]
    · cases force_transaction || s.pgIsInTransactionBlock <;> simp [h, hsub]

/-- The state after a connection that has a DuckDB transaction, a new one unless it was open. -/
def Backend.connected (s : Backend) : Backend :=
  { s with initialized := true, hasActiveTransaction := true, modifiedDatabase := s.ddbDidWrites }

/-- Outside subtransactions, a connection in a transaction block has a DuckDB transaction. -/
theorem GetConnection_connected {s : Backend} {force_transaction : Bool}
    (hsub : s.subTransactions = 0)
    (hblock : (force_transaction || s.pgIsInTransactionBlock) = true) :
    (GetConnection force_transaction).run s = .ok () s.connected := by
  rw [GetConnection_run, Backend.opened_eq, hblock]
  cases hi : s.initialized <;> cases ha : s.hasActiveTransaction <;>
    simp [Backend.connected, Backend.ddbDidWrites, hi, ha, hsub]

@[simp] theorem Backend.endStatement_initialized :
    s.endStatement.initialized = s.initialized := rfl
@[simp] theorem Backend.endStatement_hasActiveTransaction :
    s.endStatement.hasActiveTransaction = s.hasActiveTransaction := rfl
@[simp] theorem Backend.endStatement_modified :
    s.endStatement.modified_temporary_duckdb_tables = s.modified_temporary_duckdb_tables := rfl
@[simp] theorem Backend.endStatement_temporary_duckdb_tables :
    s.endStatement.temporary_duckdb_tables = s.temporary_duckdb_tables := rfl
@[simp] theorem Backend.endStatement_temporary_duckdb_tables_old :
    s.endStatement.temporary_duckdb_tables_old = s.temporary_duckdb_tables_old := rfl
@[simp] theorem Backend.endStatement_modifiedDatabase :
    s.endStatement.modifiedDatabase = s.modifiedDatabase := rfl

/-- Without a DuckDB instance the callback stops before it looks at the event. -/
theorem DuckdbXactCallback_uninitialized_run (h : s.initialized = false) (commits : Bool)
    (event : XactEvent) :
    (DuckdbXactCallback_Cpp commits event).run s = .ok () s.endStatement := by
  simp [DuckdbXactCallback_Cpp, h]

/-- The state after a transaction of an initialised backend has ended: the transaction's
variables are reset, `tables` are the temporary tables, and DuckDB has no transaction. -/
def Backend.afterEnd (s : Backend) (tables : Finset Oid) : Backend :=
  { s.endStatement with
    next_expected_command_id := FirstCommandId
    force_allow_writes := false
    modified_temporary_duckdb_tables := false
    temporary_duckdb_tables := tables
    temporary_duckdb_tables_old :=
      if s.modified_temporary_duckdb_tables then ∅ else s.temporary_duckdb_tables_old
    hasActiveTransaction := false
    modifiedDatabase := if s.hasActiveTransaction then false else s.modifiedDatabase }

/-- An abort resets the transaction's variables and restores the temporary tables. -/
theorem DuckdbXactCallback_abort_run (h : s.initialized = true) (commits : Bool) :
    (DuckdbXactCallback_Cpp commits .ABORT).run s =
      .ok () (s.afterEnd (if s.modified_temporary_duckdb_tables
        then s.temporary_duckdb_tables_old else s.temporary_duckdb_tables)) := by
  cases hm : s.modified_temporary_duckdb_tables <;> cases ha : s.hasActiveTransaction <;>
    simp [DuckdbXactCallback_Cpp, Backend.afterEnd, h, hm, ha]

/-- A commit of an initialised backend fails on mixed writes, with the transaction's variables
untouched. Otherwise it resets the variables and keeps the temporary tables, and then DuckDB's
own commit may still fail. -/
theorem DuckdbXactCallback_preCommit_run (h : s.initialized = true) (commits : Bool) :
    (DuckdbXactCallback_Cpp commits .PRE_COMMIT).run s =
      if s.endStatement.DidDisallowedMixedWrites then .error mixedWrites s.endStatement
      else if s.hasActiveTransaction && !commits then
        .error duckdbCommitFailed (s.afterEnd s.temporary_duckdb_tables)
      else .ok () (s.afterEnd s.temporary_duckdb_tables) := by
  cases hd : s.endStatement.DidDisallowedMixedWrites with
  | true => simp [DuckdbXactCallback_Cpp, CheckForDisallowedMixedWrites, h, hd]
  | false =>
    cases hm : s.modified_temporary_duckdb_tables <;> cases ha : s.hasActiveTransaction <;>
      cases commits <;>
      simp [DuckdbXactCallback_Cpp, CheckForDisallowedMixedWrites, Backend.afterEnd, h, hd, hm,
        ha]

end

end PgDuckdb
