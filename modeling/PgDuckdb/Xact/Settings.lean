import PgDuckdb.Lib.Program
import PgDuckdb.Xact.Commands

/-!
# What no command changes

The settings, the transaction block and its subtransactions are set around commands and only read by them.
There is one lemma for each program, up to `KeepsAround.command`.
-/

namespace PgDuckdb

open Lib

/-- The settings, and Postgres's transaction block and subtransactions. -/
def Backend.surroundings (s : Backend) : Bool × Bool × Bool × Bool × Bool × Nat :=
  (s.unsafe_allow_mixed_transactions, s.unsafe_allow_execution_inside_functions, s.motherduck_enabled,
    s.doing_motherduck_sync, s.transactionBlock, s.subTransactions)

/-- A program that leaves them alone. -/
abbrev KeepsAround {α : Type} (p : BackendM α) : Prop := Frame Backend.surroundings p

namespace KeepsAround

/-! ## Calls -/

/-- An error that is raised under a condition. -/
theorem ereportIf (c : Prop) [Decidable c] (e : PgError) : KeepsAround (ereportIf c e) :=
  .ite (.throw e) (.pure ())

/-- A program that runs under a condition. -/
theorem onlyIf (c : Prop) [Decidable c] {p : BackendM Unit} (h : KeepsAround p) : KeepsAround (onlyIf c p) :=
  .ite h (.pure ())

/-- Using a command id. -/
theorem GetCurrentCommandId (used : Bool) : KeepsAround (GetCurrentCommandId used) := by
  refine .intro fun s => ?_
  cases used <;> rfl

/-- The next command id. -/
theorem CommandCounterIncrement : KeepsAround CommandCounterIncrement :=
  .bind .get fun _ => .ite (.modify fun _ => rfl) (.pure ())

/-- Claiming one. -/
theorem ClaimCurrentCommandId (force : Bool) : KeepsAround (ClaimCurrentCommandId force) := by
  refine .intro fun s => ?_
  rw [Ensures, ClaimCurrentCommandId_run]
  by_cases h : s.currentCommandId ≠ s.next_expected_command_id ∧ s.MixedWritesAllowed = false ∧ force = false
  · rw [if_pos h]
    rfl
  · rw [if_neg h]
    rfl

/-- The connection, with a transaction in DuckDB or without. -/
theorem GetConnection (force_transaction : Bool) : KeepsAround (GetConnection force_transaction) := by
  refine .intro fun s => ?_
  rw [Ensures, GetConnection_run, Backend.opened_eq]
  cases s.initialized && s.hasActiveTransaction with
  | true => rfl
  | false =>
    rw [if_neg Bool.false_ne_true]
    by_cases hsub : s.subTransactions > 0
    · rw [if_pos hsub]
      rfl
    · rw [if_neg hsub]
      cases force_transaction || s.pgIsInTransactionBlock <;> rfl

/-- Opening DuckDB. -/
theorem opened : KeepsAround DuckDBManagerGet := by
  refine .modify fun s => ?_
  rw [Backend.opened_eq]
  rfl

/-- A write in DuckDB. -/
theorem duckdbWrite : KeepsAround duckdbWrite := .modify fun _ => rfl

/-- A statement that is not at the top level. -/
theorem MarkStatementNotTopLevel : KeepsAround MarkStatementNotTopLevel := .modify fun _ => rfl

/-- The level of a statement. -/
theorem SetStatementTopLevel (top_level : Bool) : KeepsAround (SetStatementTopLevel top_level) :=
  .modify fun _ => rfl

/-- The switch for mixed writes. -/
theorem SetForceAllowWrites (force : Bool) : KeepsAround (SetForceAllowWrites force) := .modify fun _ => rfl

/-- Remembering the temporary tables. -/
theorem saveTemporaryTables : KeepsAround (modify Backend.saveTemporaryTables) := by
  refine .modify fun s => ?_
  unfold Backend.saveTemporaryTables
  split <;> rfl

/-- A temporary table that is new. -/
theorem RegisterDuckdbTempTable (relid : Oid) : KeepsAround (RegisterDuckdbTempTable relid) :=
  .bind saveTemporaryTables fun _ => .modify fun _ => rfl

/-- A temporary table that is gone. -/
theorem UnregisterDuckdbTempTable (relid : Oid) : KeepsAround (UnregisterDuckdbTempTable relid) :=
  .bind saveTemporaryTables fun _ => .modify fun _ => rfl

/-- Using command ids. -/
theorem useCommandIds (n : Nat) : KeepsAround (useCommandIds n) := by
  induction n with
  | zero => exact .pure ()
  | succ n ih => exact .bind (GetCurrentCommandId true) fun _ => .bind CommandCounterIncrement fun _ => ih

/-! ## Queries -/

/-- The check for statements that DuckDB does not take. -/
theorem IsAllowedStatement (isSelect : Bool) : KeepsAround (IsAllowedStatement isSelect) :=
  .bind .get fun _ => .bind (ereportIf _ _) fun _ => ereportIf _ _

/-- The planner hook. -/
theorem DuckdbPlannerHook_Cpp (isDuckdbPlan isSelect : Bool) :
    KeepsAround (DuckdbPlannerHook_Cpp isDuckdbPlan isSelect) :=
  .ite (.bind (IsAllowedStatement isSelect) fun _ => GetConnection false)
    (.bind .get fun _ => .bind (ereportIf _ _) fun _ => MarkStatementNotTopLevel)

/-- The hook at the start of the executor. -/
theorem DuckdbExecutorStartHook (isDuckdbPlan isSelect usesCommandId : Bool) :
    KeepsAround (DuckdbExecutorStartHook isDuckdbPlan isSelect usesCommandId) :=
  .bind (.modify fun _ => rfl) fun _ => .bind (GetCurrentCommandId usesCommandId) fun _ =>
    .ite (.bind (GetConnection false) fun _ => onlyIf _ (ClaimCurrentCommandId false)) MarkStatementNotTopLevel

/-- The hook at its end. -/
theorem DuckdbExecutorFinishHook (isDuckdbPlan : Bool) :
    KeepsAround (DuckdbExecutorFinishHook isDuckdbPlan) :=
  .bind (.modify fun _ => rfl) fun _ => .bind .get fun _ => onlyIf _ (ClaimCurrentCommandId false)

/-- A statement that Postgres executes. -/
theorem executePostgres (planning : Planning) (isSelect usesCommandId : Bool) :
    KeepsAround (executePostgres planning isSelect usesCommandId) :=
  .bind (onlyIf _ (DuckdbPlannerHook_Cpp _ _)) fun _ => .bind (DuckdbExecutorStartHook _ _ _) fun _ =>
    .bind (DuckdbExecutorFinishHook _) fun _ => CommandCounterIncrement

/-- A statement that DuckDB executes. -/
theorem executeDuckdb (planned isSelect writes : Bool) : KeepsAround (executeDuckdb planned isSelect writes) :=
  .bind (onlyIf _ (DuckdbPlannerHook_Cpp _ _)) fun _ => .bind (DuckdbExecutorStartHook _ _ _) fun _ =>
    .bind (onlyIf _ duckdbWrite) fun _ => .bind (DuckdbExecutorFinishHook _) fun _ => CommandCounterIncrement

/-- A query that is sent to DuckDB. -/
theorem DuckDBQueryOrThrow (writes : Bool) : KeepsAround (DuckDBQueryOrThrow writes) :=
  .bind (GetConnection false) fun _ => onlyIf _ duckdbWrite

/-! ## Utility statements -/

/-- The utility hook around two programs. -/
theorem DuckdbUtilityHook_Cpp (isTopLevel : Bool) {pre process : BackendM Unit} (hpre : KeepsAround pre)
    (hprocess : KeepsAround process) : KeepsAround (DuckdbUtilityHook_Cpp isTopLevel pre process) :=
  .bind .get fun _ => .bind (SetStatementTopLevel _) fun _ => .bind hpre fun _ => .bind hprocess fun _ =>
    .bind (SetStatementTopLevel _) fun _ => CommandCounterIncrement

/-- Claiming a command id and sending the statement on. -/
theorem claimAndForward : KeepsAround claimAndForward :=
  .bind (ClaimCurrentCommandId true) fun _ => .bind (GetConnection true) fun _ => duckdbWrite

/-- Writing the tables of DuckDB. -/
theorem writeDuckdbTables : KeepsAround writeDuckdbTables :=
  .bind (SetForceAllowWrites true) fun _ => .bind (executePostgres _ _ _) fun _ => SetForceAllowWrites false

/-- The hook before `CREATE TABLE`. -/
theorem DuckdbHandleDDLPre_createTable (stmt : CreateTable) :
    KeepsAround (DuckdbHandleDDLPre_createTable stmt) :=
  .bind .get fun _ => .bind (ereportIf _ _) fun _ => .bind (.modify fun _ => rfl) fun _ =>
    .bind (ClaimCurrentCommandId false) fun _ => onlyIf _ (GetConnection false)

/-- Remembering a table. -/
theorem trackTable (stmt : CreateTable) : KeepsAround (trackTable stmt) :=
  .ite (RegisterDuckdbTempTable _) (.bind .get fun _ => .bind (ereportIf _ _) fun _ => .bind opened fun _ =>
    .bind writeDuckdbTables fun _ => useCommandIds _)

/-- The trigger of `CREATE TABLE`. -/
theorem duckdb_create_table_trigger (stmt : CreateTable) : KeepsAround (duckdb_create_table_trigger stmt) :=
  .bind .get fun _ => .bind (.modify fun _ => rfl) fun _ => .bind (executePostgres _ _ _) fun _ =>
    onlyIf _ (.bind (ereportIf _ _) fun _ => .bind (trackTable stmt) fun _ => .bind .get fun _ =>
      onlyIf _ claimAndForward)

/-- The hook before `ALTER TABLE`. -/
theorem DuckdbHandleDDLPre_alterTable (kind : AlterKind) :
    KeepsAround (DuckdbHandleDDLPre_alterTable kind) := by
  refine .bind .get fun _ => .ite (.bind (.modify fun _ => rfl) fun _ => ClaimCurrentCommandId false) ?_
  cases kind with
  | alter => exact .pure ()
  | renameTable => exact .throw _
  | renameColumn => exact .throw _

/-- The trigger of `ALTER TABLE`. -/
theorem duckdb_alter_table_trigger : KeepsAround duckdb_alter_table_trigger :=
  .bind .get fun _ => .bind (.modify fun _ => rfl) fun _ => .bind (executePostgres _ _ _) fun _ =>
    .bind .get fun _ => onlyIf _ (.bind (ereportIf _ _) fun _ => claimAndForward)

/-! ## Drops -/

/-- The loop over the names that are dropped. -/
theorem dropPreCheckLoop (dropping_duckdb dropping_postgres : Bool) (names : List Bool) :
    KeepsAround (dropPreCheckLoop dropping_duckdb dropping_postgres names) := by
  induction names generalizing dropping_duckdb dropping_postgres with
  | nil => exact .pure _
  | cons name names ih =>
    cases name with
    | true => exact .bind (onlyIf _ (ClaimCurrentCommandId false)) fun _ => ih _ _
    | false => exact ih _ _

/-- The check of the names that are dropped. -/
theorem dropPreCheck (mixed : PgError) (names : List Bool) : KeepsAround (dropPreCheck mixed names) :=
  .bind (dropPreCheckLoop _ _ _) fun _ => .bind .get fun _ => ereportIf _ _

/-- The hook before `DROP`. -/
theorem DuckdbHandleDDLPre_drop (kind : DropKind) : KeepsAround (DuckdbHandleDDLPre_drop kind) := by
  cases kind with
  | tables names => exact dropPreCheck _ _
  | views names => exact dropPreCheck _ _
  | other => exact .pure ()

/-- A table that is dropped in DuckDB. -/
theorem forwardDrop (deleted : Nat) : KeepsAround (forwardDrop deleted) :=
  .bind (onlyIf _ (GetConnection true)) fun _ => duckdbWrite

/-- The objects that are recorded. -/
theorem dropRecorded (deleted : Nat) (objects : List DroppedObject) :
    KeepsAround (dropRecorded deleted objects) := by
  induction objects generalizing deleted with
  | nil => exact .pure _
  | cons object objects ih =>
    cases object with
    | recorded => exact .bind (forwardDrop deleted) fun _ => ih _
    | _ => exact ih _

/-- The temporary ones. -/
theorem dropTemporary (deleted : Nat) (objects : List DroppedObject) :
    KeepsAround (dropTemporary deleted objects) := by
  induction objects generalizing deleted with
  | nil => exact .pure _
  | cons object objects ih =>
    cases object with
    | temporary relid =>
      exact .bind .get fun _ => .ite (.bind (forwardDrop deleted) fun _ =>
        .bind (UnregisterDuckdbTempTable relid) fun _ => ih _) (ih _)
    | _ => exact ih _

/-- Sending all of them on. -/
theorem forwardDrops (objects : List DroppedObject) : KeepsAround (forwardDrops objects) :=
  .bind (.bind .get fun _ => .ite (dropRecorded _ _) (.pure 0)) fun _ =>
    .bind (executePostgres _ _ _) fun _ => dropTemporary _ _

/-- The check that all of them are DuckDB's. -/
theorem checkDropped (deleted relations total : Nat) : KeepsAround (checkDropped deleted relations total) :=
  .bind .get fun _ => onlyIf _ (.bind (ereportIf _ _) fun _ => ereportIf _ _)

/-- The trigger of `DROP`. -/
theorem duckdb_drop_trigger (objects : List DroppedObject) : KeepsAround (duckdb_drop_trigger objects) :=
  .bind .get fun _ => .bind (executePostgres _ _ _) fun _ => .bind .get fun _ => .bind (ereportIf _ _) fun _ =>
    onlyIf _ (.bind writeDuckdbTables fun _ => .bind (forwardDrops objects) fun _ =>
      .bind (SetStatementTopLevel _) fun _ => .bind (checkDropped _ _ _) fun _ =>
        onlyIf _ (ClaimCurrentCommandId true))

/-- `DROP` as a whole. -/
theorem processDrop (stmt : Drop) : KeepsAround (processDrop stmt) :=
  onlyIf _ (.bind (useCommandIds _) fun _ => duckdb_drop_trigger _)

/-- No command changes what is around it, whether it succeeds or not. -/
theorem command (mode : Mode) (c : Command) : KeepsAround (c.run mode) := by
  cases c with
  | pgSelect locking => exact executePostgres _ _ _
  | pgDml planning => exact executePostgres _ _ _
  | pgUtility ids => exact DuckdbUtilityHook_Cpp _ (.pure ()) (useCommandIds _)
  | duckdbSelect planned writes => exact executeDuckdb _ _ _
  | duckdbDml planned => exact executeDuckdb _ _ _
  | rawQuery writes =>
    exact .bind (DuckdbPlannerHook_Cpp _ _) fun _ => .bind (DuckdbExecutorStartHook _ _ _) fun _ =>
      .bind (DuckDBQueryOrThrow _) fun _ => .bind (DuckdbExecutorFinishHook _) fun _ =>
        CommandCounterIncrement
  | createTable stmt =>
    exact DuckdbUtilityHook_Cpp _ (DuckdbHandleDDLPre_createTable _)
      (.bind (useCommandIds _) fun _ => duckdb_create_table_trigger _)
  | alterTable kind ids =>
    exact DuckdbUtilityHook_Cpp _ (DuckdbHandleDDLPre_alterTable _)
      (.bind (useCommandIds _) fun _ => duckdb_alter_table_trigger)
  | drop stmt => exact DuckdbUtilityHook_Cpp _ (DuckdbHandleDDLPre_drop _) (processDrop _)
  | copyFrom => exact .bind (DuckDBQueryOrThrow _) fun _ => CommandCounterIncrement
  | truncate ids =>
    exact DuckdbUtilityHook_Cpp _ (.pure ()) (.bind (DuckDBQueryOrThrow _) fun _ => useCommandIds _)

end KeepsAround

end PgDuckdb
