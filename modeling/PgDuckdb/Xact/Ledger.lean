import PgDuckdb.Xact.Commands

/-!
# What a command does to the ledger
-/

namespace PgDuckdb

section
variable (s : Backend)

/-- The state after Postgres has used a number of command ids. -/
def Backend.usedIds (s : Backend) (n : Nat) : Backend :=
  { s with currentCommandId := s.currentCommandId + n
           currentCommandIdUsed := if n = 0 then s.currentCommandIdUsed else false }

/-- What using command ids leaves behind. -/
theorem useCommandIds_run (n : Nat) : (useCommandIds n).run s = .ok () (s.usedIds n) := by
  unfold Backend.usedIds
  induction n generalizing s with
  | zero => rfl
  | succ n ih =>
    simp only [useCommandIds, GetCurrentCommandId, CommandCounterIncrement, if_true,
      EStateM.run_bind, EStateM.run_modify, EStateM.run_get, EStateM.run_pure, ih]
    simp only [Nat.add_assoc, Nat.add_comm 1 n, if_neg (Nat.succ_ne_zero n)]
    split <;> rfl

/-- The planner hook of a Postgres query refuses a write after a write of DuckDB. -/
theorem DuckdbPlannerHook_postgres_run (isSelect : Bool) :
    (DuckdbPlannerHook_Cpp false isSelect).run s =
      if isSelect = false ∧ s.AllowWrites = false then .error mixedWrites s
      else .ok () { s with top_level_statement := false } := by
  simp only [DuckdbPlannerHook_Cpp, MarkStatementNotTopLevel, ereportIf]
  by_cases h : isSelect = false ∧ s.AllowWrites = false
  · simp [h]
  · simp [h]

/-- The state after the execution of a Postgres query. -/
def Backend.executed (s : Backend) (usesCommandId : Bool) : Backend :=
  { s with
    top_level_statement := false
    currentCommandId :=
      if s.currentCommandIdUsed || usesCommandId then s.currentCommandId + 1
      else s.currentCommandId
    currentCommandIdUsed := false }

/-- The run of a statement that Postgres executes itself. -/
theorem executePlan_run (isSelect usesCommandId : Bool) :
    (do DuckdbExecutorStartHook false isSelect usesCommandId
        DuckdbExecutorFinishHook false
        CommandCounterIncrement : BackendM Unit).run s =
      .ok () (s.executed usesCommandId) := by
  cases hu : s.currentCommandIdUsed <;> cases usesCommandId <;>
    simp [DuckdbExecutorStartHook, DuckdbExecutorFinishHook, CommandCounterIncrement, onlyIf,
      GetCurrentCommandId, MarkStatementNotTopLevel, Backend.executed, hu]

/-- A Postgres query marks the statement as nested and uses a command id if it modifies rows; only
a planned write is refused. -/
theorem executePostgres_run (planning : Planning) (isSelect usesCommandId : Bool) :
    (executePostgres planning isSelect usesCommandId).run s =
      if planning = .planned ∧ isSelect = false ∧ s.AllowWrites = false then .error mixedWrites s
      else .ok () (s.executed usesCommandId) := by
  have hmarked : ∀ s : Backend, Backend.executed { s with top_level_statement := false }
    usesCommandId = s.executed usesCommandId := fun _ => rfl
  cases planning with
  | planned =>
    simp only [executePostgres, onlyIf, ne_eq, reduceCtorEq, not_false_eq_true, if_true,
      decide_false, Bool.or_false, EStateM.run_bind, DuckdbPlannerHook_postgres_run, true_and]
    by_cases h : isSelect = false ∧ s.AllowWrites = false
    · simp only [if_pos h]
    · simp only [if_neg h, ← EStateM.run_bind, executePlan_run, hmarked]
  | cached => exact executePlan_run s isSelect usesCommandId
  | modifyingCte =>
    simp only [executePostgres, onlyIf, ne_eq, reduceCtorEq, not_false_eq_true, if_true,
      decide_true, Bool.or_true, EStateM.run_bind, DuckdbPlannerHook_postgres_run]
    simp only [← EStateM.run_bind, false_and, if_false, executePlan_run, hmarked]

end

/-! ## Steady states -/

/-- The nesting of executors around a command. -/
def Mode.nestLevel : Mode → Nat
  | .explicitBlock | .body => 0
  | .function _ => 1

/-- A transaction that may not mix writes: outside a block, one whose statement is not at the top level. -/
structure Guarded (mode : Mode) (s : Backend) : Prop where
  mixed : s.unsafe_allow_mixed_transactions = false
  force : s.force_allow_writes = false
  sync : s.doing_motherduck_sync = false
  sub : s.subTransactions = 0
  ids : s.next_expected_command_id ≤ s.currentCommandId
  block : s.transactionBlock = decide (mode = .explicitBlock)
  top : mode ≠ .explicitBlock → s.top_level_statement = false

/-- The state between two commands. -/
structure Steady (mode : Mode) (s : Backend) : Prop extends Guarded mode s where
  used : s.currentCommandIdUsed = false
  nest : s.executor_nest_level = mode.nestLevel
  ddl : s.top_level_duckdb_ddl_type = .NONE

section
variable {mode : Mode} {s : Backend}

/-- A guarded backend is in a transaction block. -/
theorem Guarded.inBlock (h : Guarded mode s) : s.pgIsInTransactionBlock = true := by
  by_cases hmode : mode = .explicitBlock
  · simp [Backend.pgIsInTransactionBlock, Backend.isInTransactionBlock, h.block, hmode]
  · simp [Backend.pgIsInTransactionBlock, Backend.isInTransactionBlock, h.top hmode]

/-- In a guarded backend no mixed writes are allowed. -/
theorem Guarded.notAllowed (h : Guarded mode s) : s.MixedWritesAllowed = false := by
  simp [Backend.MixedWritesAllowed, h.inBlock, h.mixed, h.force, h.sync]

/-- In a guarded backend DuckDB may write while it has not yet. -/
theorem Guarded.AllowWrites_eq (h : Guarded mode s) : s.AllowWrites = !s.ddbDidWrites := by
  simp [Backend.AllowWrites, h.notAllowed]

/-- In a guarded backend writes on both sides are always disallowed. -/
theorem Guarded.DidDisallowedMixedWrites_eq (h : Guarded mode s) :
    s.DidDisallowedMixedWrites = (s.pgDidWrites && s.ddbDidWrites) := by
  simp [Backend.DidDisallowedMixedWrites, h.notAllowed]

/-- There are unclaimed command ids exactly if the current one is not the expected one. -/
theorem Guarded.pgDidWrites_iff (h : Guarded mode s) :
    s.pgDidWrites = true ↔ s.currentCommandId ≠ s.next_expected_command_id := by
  have := h.ids
  simp only [Backend.pgDidWrites, decide_eq_true_eq]
  omega

/-- An unforced claim fails on unclaimed command ids. -/
theorem Guarded.claim (h : Guarded mode s) :
    (ClaimCurrentCommandId false).run s =
      if s.pgDidWrites then .error mixedWrites { s with currentCommandIdUsed := true }
      else .ok () s.claimed := by
  rw [ClaimCurrentCommandId_run, h.notAllowed]
  simp only [← h.pgDidWrites_iff, and_true]

/-- The first id of the transaction is taken once. -/
theorem claim_forced (s : Backend) : (ClaimCurrentCommandId true).run s = .ok () s.claimed := by
  rw [ClaimCurrentCommandId_run]
  simp

/-- A guarded backend connects without an error. -/
theorem Guarded.connect (h : Guarded mode s) (force_transaction : Bool) :
    (GetConnection force_transaction).run s = .ok () s.connected :=
  GetConnection_connected h.sub (by simp [h.inBlock])

/-- The state after a write of DuckDB on the cached connection. -/
def Backend.written (s : Backend) : Backend := { s.connected with modifiedDatabase := true }

/-- A guarded backend queries without an error and keeps its word about writes. -/
theorem Guarded.query (h : Guarded mode s) (writes : Bool) :
    (DuckDBQueryOrThrow writes).run s = .ok () (if writes then s.written else s.connected) := by
  simp only [DuckDBQueryOrThrow, onlyIf, EStateM.run_bind, h.connect]
  cases writes with
  | true => simp [duckdbWrite, Backend.written, Backend.connected]
  | false => rfl

/-! ## The states programs pass through -/

/-- The state with another level of the statement. -/
def Backend.withTop (s : Backend) (top_level : Bool) : Backend :=
  { s with top_level_statement := top_level }

/-- The state with another DDL type. -/
def Backend.withDdl (s : Backend) (ddl_type : DDLType) : Backend :=
  { s with top_level_duckdb_ddl_type := ddl_type }

/-- The state after a temporary table has been registered. -/
def Backend.registered (s : Backend) (relid : Oid) : Backend :=
  { s.saveTemporaryTables with
    temporary_duckdb_tables := insert relid s.saveTemporaryTables.temporary_duckdb_tables }

/-- The state after a temporary table has been unregistered. -/
def Backend.unregistered (s : Backend) (relid : Oid) : Backend :=
  { s.saveTemporaryTables with
    temporary_duckdb_tables := s.saveTemporaryTables.temporary_duckdb_tables.erase relid }

/-- Taking an id keeps the guard. -/
theorem Guarded.claimed (h : Guarded mode s) : Guarded mode s.claimed :=
  ⟨h.mixed, h.force, h.sync, h.sub, le_rfl, h.block, h.top⟩

/-- Connecting keeps the guard. -/
theorem Guarded.connected (h : Guarded mode s) : Guarded mode s.connected :=
  ⟨h.mixed, h.force, h.sync, h.sub, h.ids, h.block, h.top⟩

/-- A write keeps the guard. -/
theorem Guarded.written (h : Guarded mode s) : Guarded mode s.written :=
  ⟨h.mixed, h.force, h.sync, h.sub, h.ids, h.block, h.top⟩

/-- A DDL marker keeps the guard. -/
theorem Guarded.withDdl (h : Guarded mode s) (ddl_type : DDLType) :
    Guarded mode (s.withDdl ddl_type) :=
  ⟨h.mixed, h.force, h.sync, h.sub, h.ids, h.block, h.top⟩

/-- The mark of a top-level statement keeps the guard. -/
theorem Guarded.withTop (h : Guarded mode s) {top_level : Bool}
    (htop : mode ≠ .explicitBlock → top_level = false) : Guarded mode (s.withTop top_level) :=
  ⟨h.mixed, h.force, h.sync, h.sub, h.ids, h.block, htop⟩

/-- Execution keeps the guard. -/
theorem Guarded.executed (h : Guarded mode s) (usesCommandId : Bool) :
    Guarded mode (s.executed usesCommandId) := by
  refine ⟨h.mixed, h.force, h.sync, h.sub, ?_, h.block, fun _ => rfl⟩
  have := h.ids
  simp only [Backend.executed]
  split <;> omega

/-- Taking ids keeps the guard. -/
theorem Guarded.usedIds (h : Guarded mode s) (n : Nat) : Guarded mode (s.usedIds n) :=
  ⟨h.mixed, h.force, h.sync, h.sub, le_trans h.ids (Nat.le_add_right _ n), h.block, h.top⟩

/-- The set is saved once a transaction. -/
theorem saveTemporaryTables_eq (s : Backend) :
    s.saveTemporaryTables = { s with
      modified_temporary_duckdb_tables := true
      temporary_duckdb_tables_old := if s.modified_temporary_duckdb_tables
        then s.temporary_duckdb_tables_old else s.temporary_duckdb_tables } := by
  obtain ⟨⟩ := s
  unfold Backend.saveTemporaryTables
  split
  · next h => simp only at h; simp [h]
  · simp_all

/-- Saving the temporary tables keeps the guard. -/
theorem Guarded.saved (h : Guarded mode s) (tables : Finset Oid) :
    Guarded mode { s.saveTemporaryTables with temporary_duckdb_tables := tables } := by
  rw [saveTemporaryTables_eq]
  exact ⟨h.mixed, h.force, h.sync, h.sub, h.ids, h.block, h.top⟩

@[simp] theorem claimed_pgDidWrites : s.claimed.pgDidWrites = false := by
  simp [Backend.pgDidWrites, Backend.claimed]

@[simp] theorem claimed_ddbDidWrites : s.claimed.ddbDidWrites = s.ddbDidWrites := rfl

@[simp] theorem connected_pgDidWrites : s.connected.pgDidWrites = s.pgDidWrites := rfl

@[simp] theorem connected_ddbDidWrites : s.connected.ddbDidWrites = s.ddbDidWrites := by
  simp [Backend.ddbDidWrites, Backend.connected]

@[simp] theorem written_pgDidWrites : s.written.pgDidWrites = s.pgDidWrites := rfl

@[simp] theorem written_ddbDidWrites : s.written.ddbDidWrites = true := rfl

@[simp] theorem withDdl_pgDidWrites (ddl_type : DDLType) :
    (s.withDdl ddl_type).pgDidWrites = s.pgDidWrites := rfl

@[simp] theorem withDdl_ddbDidWrites (ddl_type : DDLType) :
    (s.withDdl ddl_type).ddbDidWrites = s.ddbDidWrites := rfl

@[simp] theorem withTop_pgDidWrites (top_level : Bool) :
    (s.withTop top_level).pgDidWrites = s.pgDidWrites := rfl

@[simp] theorem withTop_ddbDidWrites (top_level : Bool) :
    (s.withTop top_level).ddbDidWrites = s.ddbDidWrites := rfl

@[simp] theorem executed_ddbDidWrites (usesCommandId : Bool) :
    (s.executed usesCommandId).ddbDidWrites = s.ddbDidWrites := rfl

@[simp] theorem usedIds_ddbDidWrites (n : Nat) : (s.usedIds n).ddbDidWrites = s.ddbDidWrites := rfl

/-- A query that uses a command id leaves it unclaimed. -/
theorem Guarded.executed_pgDidWrites (h : Guarded mode s) (hused : s.currentCommandIdUsed = false)
    (usesCommandId : Bool) :
    (s.executed usesCommandId).pgDidWrites = (s.pgDidWrites || usesCommandId) := by
  have := h.ids
  cases usesCommandId with
  | false => simp [Backend.pgDidWrites, Backend.executed, hused]
  | true =>
    simp only [Backend.pgDidWrites, Backend.executed, hused, if_true, Bool.or_true,
      decide_eq_true_eq]
    omega

/-- Ids that were taken are writes of Postgres. -/
theorem Guarded.usedIds_pgDidWrites (h : Guarded mode s) (n : Nat) :
    (s.usedIds n).pgDidWrites = (s.pgDidWrites || decide (0 < n)) := by
  have := h.ids
  have hdef : (s.usedIds n).pgDidWrites =
    decide (s.currentCommandId + n > s.next_expected_command_id) := rfl
  rw [hdef, Bool.eq_iff_iff]
  simp only [Backend.pgDidWrites, decide_eq_true_eq, Bool.or_eq_true]
  omega

/-! ## Outcomes -/

/-- The outcome of a command as the ledger sees it: an error, or whether command ids are unclaimed
after it and whether DuckDB has written. -/
abbrev Outcome := Except PgError (Bool × Bool)

/-- `Meets P p s o`: run in `s`, the program `p` has the outcome `o`, and if it succeeds it leaves a state
with `P`. -/
def Meets (P : Backend → Prop) (p : BackendM Unit) (s : Backend) (o : Outcome) : Prop :=
  match p.run s with
  | .ok _ s' => o = .ok (s'.pgDidWrites, s'.ddbDidWrites) ∧ P s'
  | .error e _ => o = .error e

variable {P : Backend → Prop}

/-- A run that succeeds meets its outcome. -/
theorem Meets.of_ok {p : BackendM Unit} {s' : Backend} {o : Outcome} (h : p.run s = .ok () s')
    (hs : P s') (ho : o = .ok (s'.pgDidWrites, s'.ddbDidWrites)) : Meets P p s o := by
  rw [Meets, h]
  exact ⟨ho, hs⟩

/-- A run that raises meets its outcome. -/
theorem Meets.of_error {p : BackendM Unit} {s' : Backend} {e : PgError}
    (h : p.run s = .error e s') : Meets P p s (.error e) := by
  rw [Meets, h]

/-- What holds at the end may be weakened. -/
theorem Meets.mono {Q : Backend → Prop} {p : BackendM Unit} {o : Outcome} (h : Meets P p s o)
    (hPQ : ∀ s', P s' → Q s') : Meets Q p s o := by
  unfold Meets at h ⊢
  split at h
  · exact ⟨h.1, hPQ _ h.2⟩
  · exact h

/-- A first part that succeeds passes its state on. -/
theorem Meets.step {α : Type} {p : BackendM α} {q : α → BackendM Unit} {a : α} {s' : Backend}
    {o : Outcome} (h : p.run s = .ok a s') (hq : Meets P (q a) s' o) :
    Meets P (p >>= q) s o := by
  unfold Meets at hq ⊢
  rw [EStateM.run_bind, h]
  exact hq

/-- A first part that fails decides the outcome. -/
theorem Meets.fail {α : Type} {p : BackendM α} {q : α → BackendM Unit} {e : PgError} {s' : Backend}
    (h : p.run s = .error e s') : Meets P (p >>= q) s (.error e) := by
  rw [Meets, EStateM.run_bind, h]

/-- A utility statement has the outcome of its own processing: the hook restores the level of the
statement. -/
theorem utility_meets {pre process : BackendM Unit} {o : Outcome}
    (h : Meets (Steady mode) (do pre; process) (s.withTop (mode = .explicitBlock)) o) :
    Meets (fun s' => ∃ s₁, Steady mode s₁ ∧ s' = s₁.withTop s.top_level_statement)
      (DuckdbUtilityHook_Cpp (mode = .explicitBlock) pre process) s o := by
  refine Meets.step rfl (Meets.step rfl ?_)
  change Meets _ (pre >>= fun _ => process >>= fun _ => _) (s.withTop (mode = .explicitBlock)) o
  rw [← bind_assoc]
  unfold Meets at h
  split at h
  · next s' hrun =>
    obtain ⟨ho, hs'⟩ := h
    have hrestore : (do SetStatementTopLevel s.top_level_statement; CommandCounterIncrement).run s' =
        .ok () (s'.withTop s.top_level_statement) := by
      simp [SetStatementTopLevel, CommandCounterIncrement, hs'.used, Backend.withTop]
    exact Meets.step hrun (Meets.of_ok hrestore ⟨s', hs', rfl⟩ ho)
  · next hrun =>
    rw [h]
    exact Meets.fail hrun

/-- It leaves a steady state steady. -/
theorem Steady.utility (hs : Steady mode s) {pre process : BackendM Unit} {o : Outcome}
    (h : Meets (Steady mode) (do pre; process) (s.withTop (mode = .explicitBlock)) o) :
    Meets (Steady mode) (DuckdbUtilityHook_Cpp (mode = .explicitBlock) pre process) s o := by
  refine (utility_meets h).mono ?_
  rintro _ ⟨s₁, hs₁, rfl⟩
  exact ⟨hs₁.withTop hs.top, hs₁.used, hs₁.nest, hs₁.ddl⟩

end

end PgDuckdb
