import Mathlib.Logic.Function.Iterate
import PgDuckdb.Lib.Run
import PgDuckdb.Xact.Backend

/-!
# Histories of transactions

A transaction of a backend is a sequence of calls into `pgduckdb_xact.cpp` and `DuckDBManager`,
in any order and cut off anywhere, followed by its end. A statement that fails is one whose later
calls are missing, so every history of statements and errors is among these histories.

The transaction callback resets the variables of the transaction (`Fresh`), but not when DuckDB
has no instance and not when the transaction is prepared. `fresh_of_history` is what is left:
the variables are fresh at the start of every transaction if each transaction before it ended with
a DuckDB instance or left the variables alone (`LeavesFresh`).
-/

namespace PgDuckdb

open Lib

/-- A call that a statement makes. -/
inductive XactCall
  | getCurrentCommandId (used : Bool)
  | commandCounterIncrement
  | claimCurrentCommandId (force : Bool)
  | setForceAllowWrites (force : Bool)
  | setStatementTopLevel (top_level : Bool)
  | setUnsafeAllowMixedTransactions (value : Bool)
  | setDoingMotherduckSync (value : Bool)
  | registerDuckdbTempTable (relid : Oid)
  | unregisterDuckdbTempTable (relid : Oid)
  | getConnection (force_transaction : Bool)
  | duckdbWrite
  | reset
  | startSubTransaction
  | releaseSubTransaction
  | rollbackSubTransaction
  deriving DecidableEq

/-- The program of a call. -/
def XactCall.run : XactCall → BackendM Unit
  | .getCurrentCommandId used => do let _ ← GetCurrentCommandId used
  | .commandCounterIncrement => CommandCounterIncrement
  | .claimCurrentCommandId force => ClaimCurrentCommandId force
  | .setForceAllowWrites force => SetForceAllowWrites force
  | .setStatementTopLevel top_level => SetStatementTopLevel top_level
  | .setUnsafeAllowMixedTransactions value =>
    modify fun s => { s with unsafe_allow_mixed_transactions := value }
  | .setDoingMotherduckSync value => modify fun s => { s with doing_motherduck_sync := value }
  | .registerDuckdbTempTable relid => RegisterDuckdbTempTable relid
  | .unregisterDuckdbTempTable relid => UnregisterDuckdbTempTable relid
  | .getConnection force_transaction => GetConnection force_transaction
  | .duckdbWrite => PgDuckdb.duckdbWrite
  | .reset => DuckDBManagerReset
  | .startSubTransaction => do
    modify fun s => { s with subTransactions := s.subTransactions + 1 }
    DuckdbSubXactCallback_start
  | .releaseSubTransaction | .rollbackSubTransaction =>
    modify fun s => { s with subTransactions := s.subTransactions - 1 }

/-- The state after a call, whether or not it threw. -/
def XactCall.exec (s : Backend) (c : XactCall) : Backend := stateAfter c.run s

/-- How a transaction ends. -/
inductive Ending
  /-- A commit: `commits` is whether DuckDB's own commit succeeds in `PRE_COMMIT`. After that Postgres
  truncates the `ON COMMIT DELETE ROWS` tables of DuckDB, and it may still abort, because of one of these
  or another callback or a serialization failure. -/
  | commit (commits : Bool) (truncations : Nat) (completes : Bool)
  | abort
  | prepare
  deriving DecidableEq

/-- A transaction, in a transaction block or not. -/
structure Transaction where
  block : Bool
  calls : List XactCall
  ending : Ending

/-- Postgres starts a transaction. -/
def Backend.startTransaction (s : Backend) (block : Bool) : Backend :=
  { s with currentCommandId := FirstCommandId, currentCommandIdUsed := false
           transactionBlock := block, subTransactions := 0 }

/-- Postgres fires an event, and aborts the transaction if the callback throws; the flag says
whether it did not. -/
def fireOrAbort (commits : Bool) (event : XactEvent) (s : Backend) : Backend × Bool :=
  match (DuckdbXactCallback_Cpp commits event).run s with
  | .ok _ s' => (s', true)
  | .error _ s' => (stateAfter (DuckdbXactCallback_Cpp true .ABORT) s', false)

/-- Postgres leaves the open subtransactions of a transaction that ends. -/
def Backend.leaveSubTransactions (s : Backend) : Backend := { s with subTransactions := 0 }

/-- `PreCommit_on_commit_actions`, and the end of a commit after it. -/
def Backend.completeCommit (s : Backend) (truncations : Nat) (completes : Bool) : Backend × Bool :=
  let s' := (stateAfter DuckdbTruncateTable)^[truncations] s
  if completes then (stateAfter (DuckdbXactCallback_Cpp true .COMMIT) s', true)
  else (stateAfter (DuckdbXactCallback_Cpp true .ABORT) s', false)

/-- Postgres ends a transaction, its open subtransactions first. The flag says whether it
committed (or was prepared). -/
def Backend.endTransaction (s : Backend) : Ending → Backend × Bool
  | .commit commits truncations completes =>
    let (s', ok) := fireOrAbort commits .PRE_COMMIT s.leaveSubTransactions
    if ok then s'.completeCommit truncations completes else (s', false)
  | .abort => (stateAfter (DuckdbXactCallback_Cpp true .ABORT) s.leaveSubTransactions, false)
  | .prepare =>
    let (s', ok) := fireOrAbort true .PRE_PREPARE s.leaveSubTransactions
    if ok then fireOrAbort true .PREPARE s' else (s', false)

/-- The state when the transaction is about to end. -/
def Transaction.atEnd (t : Transaction) (s : Backend) : Backend :=
  t.calls.foldl XactCall.exec (s.startTransaction t.block)

/-- The state after a transaction, and whether it committed. -/
def Transaction.finish (t : Transaction) (s : Backend) : Backend × Bool :=
  (t.atEnd s).endTransaction t.ending

/-- One transaction as a step of the backend. -/
def runTransaction (s : Backend) (t : Transaction) : Backend := (t.finish s).1

/-- A backend that has just started. -/
def Backend.initial : Backend where
  currentCommandId := FirstCommandId
  currentCommandIdUsed := false
  transactionBlock := false
  subTransactions := 0
  unsafe_allow_mixed_transactions := false
  unsafe_allow_execution_inside_functions := false
  motherduck_enabled := false
  next_expected_command_id := FirstCommandId
  top_level_statement := true
  force_allow_writes := false
  modified_temporary_duckdb_tables := false
  temporary_duckdb_tables := ∅
  temporary_duckdb_tables_old := ∅
  top_level_duckdb_ddl_type := .NONE
  executor_nest_level := 0
  doing_motherduck_sync := false
  initialized := false
  hasActiveTransaction := false
  modifiedDatabase := false

/-! ## What a call can change -/

/-- The state behind a program that succeeds. -/
theorem stateAfter_ok {p : BackendM Unit} {s s' : Backend} (h : p.run s = .ok () s') :
    stateAfter p s = s' := by
  rw [stateAfter, h]

/-- What every state a connection may leave has in common. -/
theorem stateAfter_GetConnection (force_transaction : Bool) (s : Backend) :
    ∃ a m, stateAfter (GetConnection force_transaction) s =
      { s with initialized := true, hasActiveTransaction := a, modifiedDatabase := m } := by
  rw [stateAfter, GetConnection_run, Backend.opened_eq]
  cases hactive : (s.initialized && s.hasActiveTransaction) with
  | true => exact ⟨true, s.initialized && s.modifiedDatabase, rfl⟩
  | false =>
    rw [if_neg (by simp)]
    by_cases hsub : s.subTransactions > 0
    · rw [if_pos hsub]
      exact ⟨false, s.initialized && s.modifiedDatabase, rfl⟩
    · rw [if_neg hsub]
      cases force_transaction || s.pgIsInTransactionBlock with
      | true => exact ⟨true, false, rfl⟩
      | false => exact ⟨false, s.initialized && s.modifiedDatabase, rfl⟩

/-- A truncation changes what a connection changes. -/
theorem stateAfter_DuckdbTruncateTable (s : Backend) :
    ∃ a m, stateAfter DuckdbTruncateTable s =
      { s with initialized := true, hasActiveTransaction := a, modifiedDatabase := m } := by
  obtain ⟨a, m, hconnect⟩ := stateAfter_GetConnection false s
  rw [stateAfter] at hconnect
  rw [stateAfter, DuckdbTruncateTable, EStateM.run_bind]
  cases hrun : (GetConnection false).run s with
  | ok _ s' =>
    rw [hrun] at hconnect
    have hs' : s' = { s with initialized := true, hasActiveTransaction := a, modifiedDatabase := m } := hconnect
    exact ⟨a, m || a, by rw [hs']; rfl⟩
  | error _ s' =>
    rw [hrun] at hconnect
    exact ⟨a, m, hconnect⟩

/-- The value of `force_allow_writes` after a call. -/
def XactCall.forceAfter (force : Bool) : XactCall → Bool
  | .setForceAllowWrites b => b
  | _ => force

/-- Whether DuckDB has an instance after a call. -/
def XactCall.initializedAfter (initialized : Bool) : XactCall → Bool
  | .getConnection _ => true
  | .reset => false
  | _ => initialized

/-- A call that changes the temporary tables. -/
def XactCall.changesTables : XactCall → Bool
  | .registerDuckdbTempTable _ | .unregisterDuckdbTempTable _ => true
  | _ => false

/-- A call that claims a command id. -/
def XactCall.claims : XactCall → Bool
  | .claimCurrentCommandId _ => true
  | _ => false

/-- What the call `c` leaves alone between the states `s` and `s'`. -/
structure XactCall.Frame (c : XactCall) (s s' : Backend) : Prop where
  initialized : s'.initialized = c.initializedAfter s.initialized
  force_allow_writes : s'.force_allow_writes = c.forceAfter s.force_allow_writes
  next_expected_command_id : c.claims = false →
    s'.next_expected_command_id = s.next_expected_command_id
  tables : c.changesTables = false →
    s'.modified_temporary_duckdb_tables = s.modified_temporary_duckdb_tables ∧
    s'.temporary_duckdb_tables = s.temporary_duckdb_tables ∧
    s'.temporary_duckdb_tables_old = s.temporary_duckdb_tables_old
  active : (s.hasActiveTransaction = true → s.initialized = true) →
    s'.hasActiveTransaction = true → s'.initialized = true

/-- Only a connection opens an instance and only a reset drops it; only a claim moves the expected
command id; only a registration changes the temporary tables. -/
theorem XactCall.exec_frame (c : XactCall) (s : Backend) : c.Frame s (c.exec s) := by
  cases c with
  | getCurrentCommandId used =>
    cases used <;> exact ⟨rfl, rfl, fun _ => rfl, fun _ => ⟨rfl, rfl, rfl⟩, fun h => h⟩
  | commandCounterIncrement =>
    have hexec : XactCall.exec s .commandCounterIncrement = s ∨
        XactCall.exec s .commandCounterIncrement =
          { s with currentCommandId := s.currentCommandId + 1, currentCommandIdUsed := false } := by
      cases hu : s.currentCommandIdUsed <;>
        simp [XactCall.exec, stateAfter, XactCall.run, CommandCounterIncrement, hu]
    rcases hexec with h | h <;> rw [h] <;>
      exact ⟨rfl, rfl, fun _ => rfl, fun _ => ⟨rfl, rfl, rfl⟩, fun h => h⟩
  | claimCurrentCommandId force =>
    rw [XactCall.exec, XactCall.run, stateAfter, ClaimCurrentCommandId_run]
    split
    · next h =>
      split at h <;> cases h
      exact ⟨rfl, rfl, fun h => (by cases h), fun _ => ⟨rfl, rfl, rfl⟩, fun h => h⟩
    · next h =>
      split at h <;> cases h
      exact ⟨rfl, rfl, fun _ => rfl, fun _ => ⟨rfl, rfl, rfl⟩, fun h => h⟩
  | registerDuckdbTempTable relid | unregisterDuckdbTempTable relid =>
    have hsave : s.saveTemporaryTables = s ∨ s.saveTemporaryTables =
        { s with modified_temporary_duckdb_tables := true
                 temporary_duckdb_tables_old := s.temporary_duckdb_tables } := by
      cases hm : s.modified_temporary_duckdb_tables <;> simp [Backend.saveTemporaryTables, hm]
    rcases hsave with h | h <;>
      simp only [XactCall.exec, stateAfter, XactCall.run, RegisterDuckdbTempTable,
        UnregisterDuckdbTempTable, EStateM.run_bind, EStateM.run_modify, h] <;>
      exact ⟨rfl, rfl, fun _ => rfl, fun h => (by cases h), fun h => h⟩
  | getConnection force =>
    obtain ⟨a, m, h⟩ := stateAfter_GetConnection force s
    rw [XactCall.exec, XactCall.run, h]
    exact ⟨rfl, rfl, fun _ => rfl, fun _ => ⟨rfl, rfl, rfl⟩, fun _ _ => rfl⟩
  | startSubTransaction =>
    have hexec : XactCall.exec s .startSubTransaction =
        { s with subTransactions := s.subTransactions + 1 } := by
      cases hi : s.initialized <;> cases ha : s.hasActiveTransaction <;>
        simp [XactCall.exec, stateAfter, XactCall.run, DuckdbSubXactCallback_start, hi, ha]
    rw [hexec]
    exact ⟨rfl, rfl, fun _ => rfl, fun _ => ⟨rfl, rfl, rfl⟩, fun h => h⟩
  | reset => exact ⟨rfl, rfl, fun _ => rfl, fun _ => ⟨rfl, rfl, rfl⟩, fun _ h => by cases h⟩
  | _ => exact ⟨rfl, rfl, fun _ => rfl, fun _ => ⟨rfl, rfl, rfl⟩, fun h => h⟩

/-- Whether DuckDB has an instance after some calls. -/
theorem foldl_exec_initialized (calls : List XactCall) (s : Backend) :
    (calls.foldl XactCall.exec s).initialized =
      calls.foldl XactCall.initializedAfter s.initialized := by
  induction calls generalizing s with
  | nil => rfl
  | cons c calls ih => rw [List.foldl_cons, ih, (c.exec_frame s).initialized, List.foldl_cons]

/-! ## The variables of the transaction -/

/-- The variables of the transaction have the values they start with. -/
structure Fresh (s : Backend) : Prop where
  next_expected_command_id : s.next_expected_command_id = FirstCommandId
  force_allow_writes : s.force_allow_writes = false
  modified_temporary_duckdb_tables : s.modified_temporary_duckdb_tables = false

/-- `LeavesFresh s t`: started in `s`, the transaction `t` commits or aborts with a DuckDB
instance, or it neither claims a command id nor changes the temporary tables, and
`force_allow_writes` is off again at the end. -/
def LeavesFresh (s : Backend) (t : Transaction) : Prop :=
  (t.calls.foldl XactCall.initializedAfter s.initialized = true ∧ t.ending ≠ .prepare) ∨
    ((∀ c ∈ t.calls, c.claims = false ∧ c.changesTables = false) ∧
      t.calls.foldl XactCall.forceAfter false = false)

/-- Calls that claim nothing and change no table keep the variables, up to the last value given
to `force_allow_writes`. -/
theorem fresh_foldl_exec {calls : List XactCall}
    (hcalls : ∀ c ∈ calls, c.claims = false ∧ c.changesTables = false) {s : Backend}
    (hid : s.next_expected_command_id = FirstCommandId)
    (hmodified : s.modified_temporary_duckdb_tables = false)
    (hforce : calls.foldl XactCall.forceAfter s.force_allow_writes = false) :
    Fresh (calls.foldl XactCall.exec s) := by
  induction calls generalizing s with
  | nil => exact ⟨hid, hforce, hmodified⟩
  | cons c calls ih =>
    obtain ⟨hclaims, htables⟩ := hcalls c (by simp)
    have hframe := c.exec_frame s
    refine ih (fun c hc => hcalls c (by simp [hc]))
      ((hframe.next_expected_command_id hclaims).trans hid)
      ((hframe.tables htables).1.trans hmodified) ?_
    rw [hframe.force_allow_writes]
    exact hforce

/-- The end of an initialised transaction resets the variables. -/
theorem fresh_afterEnd (s : Backend) (tables : Finset Oid) : Fresh (s.afterEnd tables) :=
  ⟨rfl, rfl, rfl⟩

/-- The callback leaves the variables alone or resets them, and it restores the temporary tables
only from a copy. -/
theorem stateAfter_callback (s : Backend) (commits : Bool) (event : XactEvent) :
    stateAfter (DuckdbXactCallback_Cpp commits event) s = s.endStatement ∨
      ∃ tables, (s.modified_temporary_duckdb_tables = false → tables = s.temporary_duckdb_tables) ∧
        stateAfter (DuckdbXactCallback_Cpp commits event) s = s.afterEnd tables := by
  cases hi : s.initialized with
  | false => exact .inl (stateAfter_ok (DuckdbXactCallback_uninitialized_run s hi commits event))
  | true =>
    cases event with
    | ABORT | PARALLEL_ABORT =>
      refine .inr ⟨_, fun hm => ?_, stateAfter_ok (DuckdbXactCallback_abort_run s hi commits)⟩
      rw [hm]
      rfl
    | PRE_COMMIT | PARALLEL_PRE_COMMIT =>
      have hrun := DuckdbXactCallback_preCommit_run s hi commits
      cases hd : s.endStatement.DidDisallowedMixedWrites with
      | true =>
        rw [hd, if_pos rfl] at hrun
        exact .inl (by rw [stateAfter]; erw [hrun])
      | false =>
        rw [hd, if_neg (by simp)] at hrun
        refine .inr ⟨s.temporary_duckdb_tables, fun _ => rfl, ?_⟩
        rw [stateAfter]
        erw [hrun]
        cases s.hasActiveTransaction && !commits <;> rfl
    | PREPARE | PRE_PREPARE =>
      cases ha : s.hasActiveTransaction <;>
        exact .inl (by simp [stateAfter, DuckdbXactCallback_Cpp, hi, ha])
    | COMMIT | PARALLEL_COMMIT => exact .inl (by simp [stateAfter, DuckdbXactCallback_Cpp])

/-- After the commit there is nothing left to do. -/
theorem stateAfter_COMMIT (s : Backend) (commits : Bool) :
    stateAfter (DuckdbXactCallback_Cpp commits .COMMIT) s = s.endStatement := by
  simp [stateAfter, DuckdbXactCallback_Cpp]

/-- What the truncations keep is kept by all of them. -/
theorem truncations_iterate {P : Backend → Prop} (htruncate : ∀ s, P s → P (stateAfter DuckdbTruncateTable s))
    {s : Backend} (h : P s) (n : Nat) : P ((stateAfter DuckdbTruncateTable)^[n] s) := by
  induction n generalizing s with
  | zero => exact h
  | succ n ih => exact ih (htruncate s h)

/-- What the callback keeps at every event, and the truncations after `PRE_COMMIT` keep, is kept by the end
of a transaction. -/
theorem endTransaction_of_callback {P : Backend → Prop}
    (hcallback : ∀ s commits event, P s → P (stateAfter (DuckdbXactCallback_Cpp commits event) s))
    (htruncate : ∀ s, P s → P (stateAfter DuckdbTruncateTable s))
    {s : Backend} (h : P s.leaveSubTransactions) (ending : Ending) :
    P (s.endTransaction ending).1 := by
  have hfire : ∀ s commits event, P s → P (fireOrAbort commits event s).1 := by
    intro s commits event h
    have h' := hcallback s commits event h
    unfold stateAfter at h'
    unfold fireOrAbort
    split
    · next heq => rw [heq] at h'; exact h'
    · next heq => rw [heq] at h'; exact hcallback _ true .ABORT h'
  cases ending with
  | commit commits truncations completes =>
    have h₁ := hfire _ commits .PRE_COMMIT h
    simp only [Backend.endTransaction]
    split
    · have h₂ := truncations_iterate htruncate h₁ truncations
      unfold Backend.completeCommit
      cases completes with
      | true => exact hcallback _ true .COMMIT h₂
      | false => exact hcallback _ true .ABORT h₂
    · exact h₁
  | abort => exact hcallback _ true .ABORT h
  | prepare =>
    have h₁ := hfire _ true .PRE_PREPARE h
    simp only [Backend.endTransaction]
    split
    · exact hfire _ true .PREPARE h₁
    · exact h₁

/-- A callback keeps a backend fresh. -/
theorem fresh_callback {s : Backend} (h : Fresh s) (commits : Bool) (event : XactEvent) :
    Fresh (stateAfter (DuckdbXactCallback_Cpp commits event) s) := by
  rcases stateAfter_callback s commits event with heq | ⟨tables, -, heq⟩
  · rw [heq]
    exact ⟨h.1, h.2, h.3⟩
  · rw [heq]
    exact fresh_afterEnd s tables

/-- A truncation keeps a backend fresh. -/
theorem fresh_truncate {s : Backend} (h : Fresh s) : Fresh (stateAfter DuckdbTruncateTable s) := by
  obtain ⟨a, m, heq⟩ := stateAfter_DuckdbTruncateTable s
  rw [heq]
  exact ⟨h.1, h.2, h.3⟩

/-- After a `PRE_COMMIT` that has reset the variables nothing sets them again. -/
theorem fresh_completeCommit {s : Backend} (h : Fresh s) (truncations : Nat) (completes : Bool) :
    Fresh (s.completeCommit truncations completes).1 := by
  have htruncated := truncations_iterate (P := Fresh) (fun _ hs => fresh_truncate hs) h truncations
  unfold Backend.completeCommit
  cases completes with
  | true => exact fresh_callback htruncated true .COMMIT
  | false => exact fresh_callback htruncated true .ABORT

/-- An abort with a DuckDB instance resets the variables. -/
theorem fresh_abort {s : Backend} (h : s.initialized = true) :
    Fresh (stateAfter (DuckdbXactCallback_Cpp true .ABORT) s) := by
  rw [stateAfter_ok (DuckdbXactCallback_abort_run s h true)]
  exact fresh_afterEnd s _

/-- A commit with a DuckDB instance resets the variables, whether or not it goes through: when it
fails on mixed writes, the abort that follows does it. -/
theorem fresh_fireOrAbort_preCommit {s : Backend} (h : s.initialized = true) (commits : Bool) :
    Fresh (fireOrAbort commits .PRE_COMMIT s).1 := by
  unfold fireOrAbort
  rw [DuckdbXactCallback_preCommit_run s h commits]
  cases s.endStatement.DidDisallowedMixedWrites with
  | true => exact fresh_abort h
  | false =>
    rw [if_neg (by simp)]
    cases s.hasActiveTransaction && !commits with
    | true => exact fresh_callback (fresh_afterEnd s _) true .ABORT
    | false => exact fresh_afterEnd s _

/-- The end of a transaction leaves the variables fresh if they are fresh already, or if it is a
commit or an abort with a DuckDB instance. -/
theorem fresh_endTransaction {s : Backend} {ending : Ending}
    (h : Fresh s ∨ s.initialized = true ∧ ending ≠ .prepare) :
    Fresh (s.endTransaction ending).1 := by
  rcases h with h | ⟨hi, hne⟩
  · have hleft : Fresh s.leaveSubTransactions := ⟨h.1, h.2, h.3⟩
    exact endTransaction_of_callback (P := Fresh)
      (fun _ commits event h => fresh_callback h commits event) (fun _ h => fresh_truncate h) hleft ending
  · have hleft : s.leaveSubTransactions.initialized = true := hi
    cases ending with
    | commit commits truncations completes =>
      have hfire := fresh_fireOrAbort_preCommit hleft commits
      simp only [Backend.endTransaction]
      split
      · exact fresh_completeCommit hfire truncations completes
      · exact hfire
    | abort => exact fresh_abort hleft
    | prepare => exact absurd rfl hne

/-- One transaction keeps the variables fresh. -/
theorem fresh_runTransaction {s : Backend} {t : Transaction} (h : Fresh s)
    (hok : LeavesFresh s t) : Fresh (runTransaction s t) := by
  refine fresh_endTransaction ?_
  rcases hok with ⟨hi, hne⟩ | ⟨hneutral, hforce⟩
  · exact .inr ⟨(foldl_exec_initialized t.calls (s.startTransaction t.block)).trans hi, hne⟩
  · refine .inl (fresh_foldl_exec hneutral h.1 h.3 ?_)
    rw [show (s.startTransaction t.block).force_allow_writes = false from h.2]
    exact hforce

/-- At the first command of every transaction the variables are fresh, provided that every
transaction before it left them so. -/
theorem fresh_of_history (history : List Transaction) (block : Bool)
    (h : StepsOk runTransaction LeavesFresh Backend.initial history) :
    Fresh ((history.foldl runTransaction Backend.initial).startTransaction block) := by
  have hfresh : Fresh (history.foldl runTransaction Backend.initial) :=
    h.invariant ⟨rfl, rfl, rfl⟩ fun _ _ hs hok => fresh_runTransaction hs hok
  exact ⟨hfresh.1, hfresh.2, hfresh.3⟩

/-- A transaction that creates a temporary DuckDB table, and one that fails without DuckDB. -/
theorem fresh_of_history_at :
    Fresh ([⟨true, [.claimCurrentCommandId false, .registerDuckdbTempTable 16384,
        .claimCurrentCommandId true, .getConnection true, .duckdbWrite], .commit true 1 true⟩,
      ⟨false, [.setForceAllowWrites true, .setForceAllowWrites false], .abort⟩].foldl
        runTransaction Backend.initial |>.startTransaction true) :=
  fresh_of_history _ true ⟨.inl ⟨rfl, by decide⟩, .inr ⟨by decide, rfl⟩, trivial⟩

/-- The first statement of a backend is a `CREATE TEMP TABLE ... USING duckdb` that fails after
its event trigger has registered the table and before DuckDB has an instance, because of an
`ON COMMIT` clause that DuckDB does not support. The abort finds no instance, and both the
expected command id and the flag leak into the next transaction. -/
theorem not_fresh_of_history :
    ¬ ∀ (history : List Transaction) (block : Bool),
      Fresh ((history.foldl runTransaction Backend.initial).startTransaction block) := by
  intro h
  have hfresh := h [⟨false, [.setStatementTopLevel true, .claimCurrentCommandId false,
    .getCurrentCommandId true, .commandCounterIncrement, .setStatementTopLevel false,
    .registerDuckdbTempTable 16384, .claimCurrentCommandId true], .abort⟩] true
  exact absurd hfresh.modified_temporary_duckdb_tables (by decide)

/-! ## The rest of the state between transactions -/

/-- No statement is under way. -/
structure Idle (s : Backend) : Prop where
  top : s.top_level_statement = true
  ddl : s.top_level_duckdb_ddl_type = .NONE
  nest : s.executor_nest_level = 0

/-- Every event leaves the backend idle. -/
theorem idle_callback (s : Backend) (commits : Bool) (event : XactEvent) :
    Idle (stateAfter (DuckdbXactCallback_Cpp commits event) s) := by
  rcases stateAfter_callback s commits event with heq | ⟨tables, -, heq⟩
  · rw [heq]
    exact ⟨rfl, rfl, rfl⟩
  · rw [heq]
    exact ⟨rfl, rfl, rfl⟩

/-- Whatever the end, its last event has been the callback. -/
theorem idle_endTransaction (s : Backend) (ending : Ending) : Idle (s.endTransaction ending).1 := by
  have hfire : ∀ s commits event, Idle (fireOrAbort commits event s).1 := by
    intro s commits event
    have h := idle_callback s commits event
    unfold stateAfter at h
    unfold fireOrAbort
    split
    · next heq => rw [heq] at h; exact h
    · exact idle_callback _ true .ABORT
  cases ending with
  | commit commits truncations completes =>
    simp only [Backend.endTransaction]
    split
    · unfold Backend.completeCommit
      cases completes with
      | true => exact idle_callback _ true .COMMIT
      | false => exact idle_callback _ true .ABORT
    · exact hfire _ commits .PRE_COMMIT
  | abort => exact idle_callback _ true .ABORT
  | prepare =>
    simp only [Backend.endTransaction]
    split
    · exact hfire _ true .PREPARE
    · exact hfire _ true .PRE_PREPARE

/-- Every transaction ends with no statement under way. -/
theorem idle_of_history (history : List Transaction) :
    Idle (history.foldl runTransaction Backend.initial) := by
  rcases List.eq_nil_or_concat' history with rfl | ⟨before, t, rfl⟩
  · exact ⟨rfl, rfl, rfl⟩
  · rw [List.foldl_append]
    exact idle_endTransaction _ t.ending

/-- Only an instance has a transaction. -/
def ActiveInstance (s : Backend) : Prop := s.hasActiveTransaction = true → s.initialized = true

/-- Without an instance DuckDB has no active transaction. -/
theorem ActiveInstance.active_eq_false {s : Backend} (h : ActiveInstance s)
    (hi : s.initialized = false) : s.hasActiveTransaction = false := by
  cases ha : s.hasActiveTransaction with
  | false => rfl
  | true =>
    rw [h ha] at hi
    cases hi

/-- A callback keeps the transaction to an instance. -/
theorem activeInstance_callback {s : Backend} (h : ActiveInstance s) (commits : Bool) (event : XactEvent) :
    ActiveInstance (stateAfter (DuckdbXactCallback_Cpp commits event) s) := by
  rcases stateAfter_callback s commits event with heq | ⟨tables, -, heq⟩
  · rw [heq]
    exact h
  · rw [heq]
    exact fun ha => by cases ha

/-- The end of a transaction may leave a DuckDB transaction open, that of a truncation in a transaction
block, but only in an instance. -/
theorem activeInstance_endTransaction {s : Backend} (h : ActiveInstance s) (ending : Ending) :
    ActiveInstance (s.endTransaction ending).1 := by
  refine endTransaction_of_callback (P := ActiveInstance)
    (fun _ commits event h => activeInstance_callback h commits event) (fun s _ => ?_) h ending
  obtain ⟨a, m, heq⟩ := stateAfter_DuckdbTruncateTable s
  rw [heq]
  exact fun _ => rfl

/-- An abort ends the DuckDB transaction. -/
theorem active_abort {s : Backend} (h : ActiveInstance s) :
    (stateAfter (DuckdbXactCallback_Cpp true .ABORT) s).hasActiveTransaction = false := by
  cases hi : s.initialized with
  | false =>
    rw [stateAfter_ok (DuckdbXactCallback_uninitialized_run s hi true .ABORT)]
    exact h.active_eq_false hi
  | true =>
    rw [stateAfter_ok (DuckdbXactCallback_abort_run s hi true)]
    rfl

/-- A block that empties an `ON COMMIT DELETE ROWS` table as it commits leaves the DuckDB transaction of
that truncation open for the next one. -/
example :
    (runTransaction Backend.initial ⟨true, [], .commit true 1 true⟩).ddbDidWrites = true := by decide

end PgDuckdb
