import PgDuckdb.Lib.Savepoint
import PgDuckdb.Xact.History

/-!
# The set of temporary tables

`temporary_duckdb_tables` should be transactional (`TransactionalTables`): a transaction that
aborts puts it back, one that commits applies the calls of its surviving subtransactions. The code
keeps one copy of the set, taken at the first call of the transaction and discarded in `PRE_COMMIT`.
That copy covers the end of the whole transaction with a DuckDB instance; it does not cover a rollback
to a savepoint, a commit that DuckDB refuses or that Postgres gives up after the copy was discarded, or
an end without an instance. `transactionalTables_of_history` is the rest.
-/

namespace PgDuckdb

open Lib

/-- A change to the set of temporary tables. -/
inductive TempCall
  | register (relid : Oid)
  | unregister (relid : Oid)
  deriving DecidableEq

/-- The set after a change. -/
def TempCall.apply (tables : Finset Oid) : TempCall → Finset Oid
  | .register relid => insert relid tables
  | .unregister relid => tables.erase relid

/-- What a call means for the set of temporary tables. -/
def XactCall.nested : XactCall → Option (Nested TempCall)
  | .registerDuckdbTempTable relid => some (.call (.register relid))
  | .unregisterDuckdbTempTable relid => some (.call (.unregister relid))
  | .startSubTransaction => some .start
  | .releaseSubTransaction => some .release
  | .rollbackSubTransaction => some .rollback
  | _ => none

/-- The changes of a transaction, with its subtransactions. -/
def Transaction.nested (t : Transaction) : List (Nested TempCall) :=
  t.calls.filterMap XactCall.nested

/-- The set is transactional across `t`, started in `s`. -/
def TransactionalTables (s : Backend) (t : Transaction) : Prop :=
  (t.finish s).1.temporary_duckdb_tables =
    if (t.finish s).2 then (surviving t.nested).foldl TempCall.apply s.temporary_duckdb_tables
    else s.temporary_duckdb_tables

/-- The check for mixed writes lets the commit pass, so that the copy is discarded, and then DuckDB
refuses to commit its transaction or Postgres aborts all the same. -/
def LosesCopy (s : Backend) (t : Transaction) : Prop :=
  ∃ commits truncations completes, t.ending = .commit commits truncations completes ∧
    (t.atEnd s).leaveSubTransactions.endStatement.DidDisallowedMixedWrites = false ∧
    (commits = false ∧ (t.atEnd s).hasActiveTransaction = true ∨ completes = false)

/-- `KeepsTables s t`: the transaction `t`, started in `s`, does not change the set, or it ends
with a DuckDB instance, is not prepared, does not abort after its copy was discarded, and no
subtransaction that changed the set is rolled back before a commit. -/
def KeepsTables (s : Backend) (t : Transaction) : Prop :=
  calls t.nested = [] ∨
    (t.calls.foldl XactCall.initializedAfter s.initialized = true ∧ t.ending ≠ .prepare ∧
      ¬ LosesCopy s t ∧ (t.ending ≠ .abort → NothingUndone ⟨[], []⟩ t.nested))

/-! ## The set during a transaction -/

/-- The set and its copy, `cs` being the changes since the transaction started with the set
`tables`. -/
def TablesAfter (tables : Finset Oid) (cs : List TempCall) (s : Backend) : Prop :=
  s.temporary_duckdb_tables = cs.foldl TempCall.apply tables ∧
    s.modified_temporary_duckdb_tables = !cs.isEmpty ∧
    (cs ≠ [] → s.temporary_duckdb_tables_old = tables)

/-- One change: the copy is taken at the first of them. -/
theorem tablesAfter_change {tables : Finset Oid} {cs : List TempCall} {s : Backend}
    (h : TablesAfter tables cs s) (tc : TempCall) :
    TablesAfter tables (cs ++ [tc]) { s.saveTemporaryTables with
      temporary_duckdb_tables := tc.apply s.saveTemporaryTables.temporary_duckdb_tables } := by
  obtain ⟨hset, hmodified, hold⟩ := h
  cases cs with
  | nil => simp [TablesAfter, Backend.saveTemporaryTables, hmodified, hset]
  | cons tc' cs => simp [TablesAfter, Backend.saveTemporaryTables, hmodified, hset, hold]

/-- One call: the set follows the changes. -/
theorem tablesAfter_exec {tables : Finset Oid} {cs : List TempCall} {s : Backend}
    (h : TablesAfter tables cs s) (c : XactCall) :
    TablesAfter tables (cs ++ calls c.nested.toList) (c.exec s) := by
  have hframe : c.changesTables = false → TablesAfter tables cs (c.exec s) := by
    intro hc
    obtain ⟨h₁, h₂, h₃⟩ := (c.exec_frame s).tables hc
    exact ⟨h₂.trans h.1, h₁.trans h.2.1, fun hne => h₃.trans (h.2.2 hne)⟩
  cases c with
  | registerDuckdbTempTable relid => exact tablesAfter_change h (.register relid)
  | unregisterDuckdbTempTable relid => exact tablesAfter_change h (.unregister relid)
  | _ => simpa [XactCall.nested, calls] using hframe rfl

/-- A run of calls. -/
theorem tablesAfter_foldl {tables : Finset Oid} {cs : List TempCall} {s : Backend}
    (h : TablesAfter tables cs s) (l : List XactCall) :
    TablesAfter tables (cs ++ calls (l.filterMap XactCall.nested)) (l.foldl XactCall.exec s) := by
  induction l generalizing cs s with
  | nil => simpa [calls] using h
  | cons c l ih =>
    have hcalls : calls ((c :: l).filterMap XactCall.nested) =
        calls c.nested.toList ++ calls (l.filterMap XactCall.nested) := by
      cases hc : c.nested with
      | none => simp [hc, calls]
      | some e => rw [List.filterMap_cons_some hc, calls_cons, Option.toList_some]
    rw [hcalls, ← List.append_assoc]
    exact ih (tablesAfter_exec h c)

/-- The set and its copy when the transaction is about to end. -/
theorem tablesAfter_atEnd {s : Backend}
    (h : s.modified_temporary_duckdb_tables = false) (t : Transaction) :
    TablesAfter s.temporary_duckdb_tables (calls t.nested) (t.atEnd s) := by
  have hstart : TablesAfter s.temporary_duckdb_tables [] (s.startTransaction t.block) :=
    ⟨rfl, h, fun hne => absurd rfl hne⟩
  exact tablesAfter_foldl hstart t.calls

/-! ## The set at the end of a transaction -/

/-- A transaction that has not changed the set ends with the set it started with. -/
theorem unchanged_endTransaction {tables : Finset Oid} {s : Backend}
    (hm : s.modified_temporary_duckdb_tables = false) (ht : s.temporary_duckdb_tables = tables)
    (ending : Ending) :
    (s.endTransaction ending).1.modified_temporary_duckdb_tables = false ∧
      (s.endTransaction ending).1.temporary_duckdb_tables = tables := by
  refine endTransaction_of_callback (P := fun s => s.modified_temporary_duckdb_tables = false ∧
    s.temporary_duckdb_tables = tables) ?_ ?_ ⟨hm, ht⟩ ending
  · rintro s commits event ⟨hm, ht⟩
    rcases stateAfter_callback s commits event with heq | ⟨tables', htables, heq⟩
    · rw [heq]
      exact ⟨hm, ht⟩
    · rw [heq]
      exact ⟨rfl, (htables hm).trans ht⟩
  · rintro s ⟨hm, ht⟩
    obtain ⟨a, m, heq⟩ := stateAfter_DuckdbTruncateTable s
    rw [heq]
    exact ⟨hm, ht⟩

/-- An abort with a DuckDB instance restores the set. -/
theorem tablesAfter_abort {tables : Finset Oid} {cs : List TempCall} {s : Backend}
    (hi : s.initialized = true) (h : TablesAfter tables cs s) :
    (stateAfter (DuckdbXactCallback_Cpp true .ABORT) s).temporary_duckdb_tables = tables := by
  rw [stateAfter_ok (DuckdbXactCallback_abort_run s hi true)]
  obtain ⟨hset, hmodified, hold⟩ := h
  cases cs with
  | nil =>
    rw [hmodified]
    exact hset
  | cons tc cs =>
    rw [hmodified]
    exact hold (by simp)

/-- The truncations after `PRE_COMMIT` do not touch the set. -/
theorem tables_truncations (s : Backend) (n : Nat) :
    ((stateAfter DuckdbTruncateTable)^[n] s).temporary_duckdb_tables = s.temporary_duckdb_tables := by
  refine truncations_iterate (P := fun s' => s'.temporary_duckdb_tables = s.temporary_duckdb_tables)
    (fun s' hs' => ?_) rfl n
  obtain ⟨a, m, heq⟩ := stateAfter_DuckdbTruncateTable s'
  rw [heq]
  exact hs'

/-- A commit that goes through keeps the set; one that fails on mixed writes restores it. -/
theorem tablesAfter_commit {tables : Finset Oid} {cs : List TempCall} {s : Backend} {commits completes : Bool}
    {truncations : Nat} (hi : s.initialized = true) (h : TablesAfter tables cs s)
    (hkept : s.leaveSubTransactions.endStatement.DidDisallowedMixedWrites = true ∨
      (s.hasActiveTransaction && !commits) = false ∧ completes = true) :
    (s.endTransaction (.commit commits truncations completes)).1.temporary_duckdb_tables =
      if (s.endTransaction (.commit commits truncations completes)).2 then cs.foldl TempCall.apply tables
      else tables := by
  have hrun := DuckdbXactCallback_preCommit_run s.leaveSubTransactions hi commits
  cases hd : s.leaveSubTransactions.endStatement.DidDisallowedMixedWrites with
  | true =>
    rw [hd, if_pos rfl] at hrun
    have hfire : fireOrAbort commits .PRE_COMMIT s.leaveSubTransactions =
        (stateAfter (DuckdbXactCallback_Cpp true .ABORT) s.leaveSubTransactions.endStatement,
          false) := by
      rw [fireOrAbort, hrun]
    simp only [Backend.endTransaction, hfire]
    exact tablesAfter_abort hi ⟨h.1, h.2.1, h.2.2⟩
  | false =>
    obtain ⟨hrefused, rfl⟩ := hkept.resolve_left (by rw [hd]; exact Bool.false_ne_true)
    rw [hd, if_neg (by simp), if_neg (by rw [← Bool.not_eq_true] at hrefused; exact hrefused)] at hrun
    have hfire : fireOrAbort commits .PRE_COMMIT s.leaveSubTransactions =
        (s.leaveSubTransactions.afterEnd s.temporary_duckdb_tables, true) := by
      rw [fireOrAbort, hrun]
      rfl
    simp only [Backend.endTransaction, hfire, Backend.completeCommit, if_true]
    rw [stateAfter_COMMIT]
    exact (tables_truncations _ truncations).trans h.1

/-- One transaction: where the condition holds, the set is transactional and the next transaction
starts without a copy. -/
theorem transactionalTables_runTransaction {s : Backend} {t : Transaction}
    (hs : s.modified_temporary_duckdb_tables = false) (hok : KeepsTables s t) :
    (runTransaction s t).modified_temporary_duckdb_tables = false ∧ TransactionalTables s t := by
  have hend := tablesAfter_atEnd hs t
  rcases hok with hnil | ⟨hi, hprepare, hlost, hundone⟩
  · have hsurviving : surviving t.nested = [] := by
      rw [surviving_eq_calls (nothingUndone_of_calls_eq_nil hnil rfl (by simp)), hnil]
    rw [hnil] at hend
    obtain ⟨hm, ht⟩ := unchanged_endTransaction hend.2.1 hend.1 t.ending
    refine ⟨hm, ht.trans ?_⟩
    rw [hsurviving]
    split <;> rfl
  · have hinit : (t.atEnd s).initialized = true :=
      (foldl_exec_initialized t.calls (s.startTransaction t.block)).trans hi
    refine ⟨(fresh_endTransaction (.inr ⟨hinit, hprepare⟩)).3, ?_⟩
    unfold TransactionalTables Transaction.finish
    cases hending : t.ending with
    | commit commits truncations completes =>
      have hkept : (t.atEnd s).leaveSubTransactions.endStatement.DidDisallowedMixedWrites = true ∨
          ((t.atEnd s).hasActiveTransaction && !commits) = false ∧ completes = true := by
        by_contra hno
        obtain ⟨hpasses, hgivenUp⟩ := not_or.1 hno
        refine hlost ⟨commits, truncations, completes, hending, Bool.eq_false_iff.2 hpasses, ?_⟩
        cases commits <;> cases completes <;> simp_all
      rw [surviving_eq_calls (hundone (by simp [hending]))]
      exact tablesAfter_commit hinit hend hkept
    | abort =>
      have hleft : TablesAfter s.temporary_duckdb_tables (calls t.nested)
        (t.atEnd s).leaveSubTransactions := hend
      exact tablesAfter_abort hinit hleft
    | prepare => exact absurd hending hprepare

/-- The set of temporary tables is transactional across every transaction of a history whose
transactions all meet the condition. -/
theorem transactionalTables_of_history (history : List Transaction)
    (h : StepsOk runTransaction KeepsTables Backend.initial history) :
    StepsOk runTransaction TransactionalTables Backend.initial history :=
  h.imp (I := fun s => s.modified_temporary_duckdb_tables = false) rfl
    (fun _ _ hs hok => (transactionalTables_runTransaction hs hok).1)
    (fun _ _ hs hok => (transactionalTables_runTransaction hs hok).2)

/-- A temporary table is created around a savepoint that is released; a later transaction drops
it, rolls back to a savepoint at which nothing changed, and aborts. -/
theorem transactionalTables_of_history_at :
    StepsOk runTransaction TransactionalTables Backend.initial
      [⟨true, [.startSubTransaction, .registerDuckdbTempTable 16384, .releaseSubTransaction,
          .getConnection true, .duckdbWrite], .commit true 0 true⟩,
       ⟨true, [.unregisterDuckdbTempTable 16384, .startSubTransaction, .rollbackSubTransaction],
          .abort⟩] :=
  transactionalTables_of_history _
    ⟨.inr ⟨rfl, by decide, fun ⟨_, _, _, hending, _, hlost⟩ => (by cases hending; simp at hlost),
        fun _ => by decide⟩,
      .inr ⟨rfl, by decide, fun ⟨_, _, _, hending, _⟩ => (by cases hending), fun h => absurd rfl h⟩, trivial⟩

/-- The transaction of a `CREATE TEMP TABLE ... USING duckdb` registers the table; then DuckDB
refuses its own commit. The callback has discarded the copy by then, so the abort that follows has
nothing to restore and the set keeps a table that does not exist. -/
theorem not_transactionalTables_of_history :
    ¬ ∀ history : List Transaction,
      StepsOk runTransaction TransactionalTables Backend.initial history := by
  intro h
  have htables := (h [⟨false, [.claimCurrentCommandId false, .getCurrentCommandId true,
    .commandCounterIncrement, .registerDuckdbTempTable 16384, .claimCurrentCommandId true,
    .getConnection true, .duckdbWrite], .commit false 0 true⟩]).1
  unfold TransactionalTables at htables
  revert htables
  decide

end PgDuckdb
