import PgDuckdb.Lib.Savepoint
import PgDuckdb.Xact.History

/-!
# DuckDB transactions and subtransactions

DuckDB has no subtransactions, and two places keep them away from its transactions: `GetConnection`
refuses to begin one inside a subtransaction, and the callback of `pgduckdb_xact.cpp` refuses a
subtransaction that starts while one is active. A run is any sequence of what the transactions of a
backend do, each with the state that the source's functions leave.

A scan gets its connection when it begins, and DuckDB executes its query at the first fetch. Mostly both
are one step, but a cursor is opened at one point and fetched at another. Outside a transaction block the
connection begins no transaction, so that DuckDB begins its own at the fetch, and there nothing looks for
a subtransaction (`not_separated_of_run`). `separated_of_run` is the rest: where no cursor is first fetched
inside a subtransaction, no DuckDB transaction is ever active there, and what a subtransaction undoes never
was work of DuckDB.
-/

namespace PgDuckdb.Savepoints

open Lib (Levels)

/-! ## The subtransaction callback -/

/-- `SubXactEvent`. -/
inductive SubXactEvent
  | START_SUB | COMMIT_SUB | ABORT_SUB | PRE_COMMIT_SUB
  deriving DecidableEq, Repr

/-- `DuckdbSubXactCallback_Cpp`. -/
def DuckdbSubXactCallback_Cpp (event : SubXactEvent) : BackendM Unit := do
  let s ← get
  if s.initialized then
    if s.hasActiveTransaction then
      if event = .START_SUB then throw savepointNotSupported

/-- The callback changes nothing. -/
theorem DuckdbSubXactCallback_run (event : SubXactEvent) (s : Backend) :
    (DuckdbSubXactCallback_Cpp event).run s =
      if s.initialized = true ∧ s.hasActiveTransaction = true ∧ event = .START_SUB then
        .error savepointNotSupported s
      else .ok () s := by
  cases hi : s.initialized <;> cases ha : s.hasActiveTransaction <;> cases event <;>
    simp [DuckdbSubXactCallback_Cpp, hi, ha]

/-- It throws at no event but the start. -/
theorem DuckdbSubXactCallback_run_of_ne {event : SubXactEvent} (h : event ≠ .START_SUB)
    (s : Backend) : (DuckdbSubXactCallback_Cpp event).run s = .ok () s := by
  rw [DuckdbSubXactCallback_run, if_neg fun h' => h h'.2.2]

/-! ## The system -/

/-- The system that does the work of a statement. -/
inductive System
  | postgres | duckdb
  deriving DecidableEq, Repr

/-- A transaction that runs a body, with the levels of subtransactions it is in. -/
structure State where
  backend : Backend
  /-- An error has aborted the transaction or the innermost subtransaction, and Postgres refuses
  every statement until it is rolled back. -/
  aborted : Bool
  /-- A result of the cached connection is open whose transaction DuckDB began by itself. -/
  openResult : Bool
  /-- The cursors over scans that have begun and have not been fetched from: for each the number of
  subtransactions it was opened in. -/
  cursors : List Nat
  /-- The work of the transaction and of each open subtransaction. -/
  work : Levels System
  /-- All the work that an undone subtransaction had done. -/
  undone : List System
  /-- The subtransaction callback threw while an error was being handled. -/
  panicked : Bool
  deriving DecidableEq

/-- A backend that has just started. -/
def State.initial : State where
  backend := Backend.initial
  aborted := false
  openResult := false
  cursors := []
  work := ⟨[], []⟩
  undone := []
  panicked := false

/-- A statement that DuckDB executes on the cached connection. -/
structure Statement where
  force_transaction : Bool
  /-- Its result is still open after the step. -/
  streams : Bool
  writes : Bool
  /-- It fails after it has got its connection. -/
  fails : Bool
  deriving DecidableEq

/-- An action of the client, of Postgres, or of an executor. -/
inductive Action
  /-- `BEGIN`, for the transaction that is under way. -/
  | beginBlock
  /-- `SAVEPOINT`, or the start of a block with an exception handler. -/
  | startSubTransaction
  /-- `RELEASE SAVEPOINT`, for the savepoint with `n` later ones, or the end of a block. -/
  | release (n : Nat)
  /-- `ROLLBACK TO SAVEPOINT`. -/
  | rollbackTo (n : Nat)
  /-- An exception handler is entered. -/
  | handleError
  | duckdbStatement (stmt : Statement)
  /-- A cursor is opened on a query of DuckDB, up to `Duckdb_BeginCustomScan`. -/
  | openCursor (force_transaction : Bool)
  /-- The first fetch from the `i`-th cursor: `ExecuteQuery`. -/
  | fetch (i : Nat) (stmt : Statement)
  | closeResult
  | postgresStatement
  | error
  /-- `DuckDBManager::Initialize` raises, before or after there is a database. -/
  | initializeFails (database : Bool)
  /-- What else a statement calls. -/
  | call (c : XactCall)
  /-- The transaction ends, and another begins. -/
  | finish (ending : Ending) (block : Bool)
  deriving DecidableEq

/-- The calls that are no steps of their own. -/
def isOther : XactCall → Bool
  | .getConnection _ | .duckdbWrite | .startSubTransaction | .releaseSubTransaction
  | .rollbackSubTransaction => false
  | _ => true

namespace State
variable (s : State)

/-- An event of the subtransaction at which nothing may throw. -/
def fireQuietly (event : SubXactEvent) : State :=
  match (DuckdbSubXactCallback_Cpp event).run s.backend with
  | .ok _ b => { s with backend := b }
  | .error _ b => { s with backend := b, panicked := true }

/-- An error aborts the transaction, or undoes the innermost subtransaction, which stays open. -/
def fail : State :=
  if s.aborted then s
  else if s.backend.subTransactions = 0 then
    { s with backend := stateAfter (DuckdbXactCallback_Cpp true .ABORT) s.backend
             aborted := true, openResult := false, cursors := [], work := ⟨[], []⟩ }
  else
    { s.fireQuietly .ABORT_SUB with
      aborted := true, cursors := s.cursors.filter (· < s.backend.subTransactions)
      work := ⟨[], s.work.below⟩, undone := s.undone ++ s.work.top }

/-- Postgres enters a subtransaction. -/
def enter : State :=
  { s with backend := { s.backend with subTransactions := s.backend.subTransactions + 1 } }

/-- Postgres leaves a subtransaction. -/
def leave : State :=
  { s with backend := { s.backend with subTransactions := s.backend.subTransactions - 1 } }

/-- A subtransaction starts. If the callback throws, it is aborted again and the error goes on in the
one around it. -/
def start : State :=
  match (DuckdbSubXactCallback_Cpp .START_SUB).run s.enter.backend with
  | .ok _ b => { s with backend := b, work := s.work.step .start }
  | .error _ b => ({ s with backend := b }.fireQuietly .ABORT_SUB).leave.fail

/-- The innermost subtransaction is released, and its cursors go to the one around it. -/
def releaseOne : State :=
  { ((s.fireQuietly .PRE_COMMIT_SUB).fireQuietly .COMMIT_SUB).leave with
    cursors := s.cursors.map (min (s.backend.subTransactions - 1))
    work := s.work.step .release }

/-- The innermost subtransaction is undone and left, with its cursors. -/
def rollbackOne : State :=
  { (s.fireQuietly .ABORT_SUB).leave with
    cursors := s.cursors.filter (· < s.backend.subTransactions)
    work := s.work.step .rollback, undone := s.undone ++ s.work.top }

/-- DuckDB executes a statement on the cached connection, whose state is in `b`. If `GetConnection` began no
transaction, the statement has one of its own, that ends with its result; a result that was open before is
closed. -/
def execute (b : Backend) (stmt : Statement) : State :=
  let begun := b.hasActiveTransaction && !s.openResult
  let active := begun || stmt.streams
  { s with
    backend :=
      { b with hasActiveTransaction := active
               modifiedDatabase := (begun && b.modifiedDatabase) || (active && stmt.writes) }
    openResult := !begun && stmt.streams
    work := s.work.step (.call .duckdb) }

/-- Another call has left the backend in `b`. Without an instance there is no cached connection, with its
results and its prepared queries. -/
def setBackend (b : Backend) : State :=
  { s with backend := b, openResult := s.openResult && b.hasActiveTransaction
           cursors := if b.initialized then s.cursors else [] }

end State

/-- A step. Postgres refuses statements after an error, and the names of savepoints there are not. -/
def step (s : State) : Action → State
  | .beginBlock =>
    if s.aborted then s else { s with backend := { s.backend with transactionBlock := true } }
  | .startSubTransaction => if s.aborted then s else s.start
  | .release n =>
    if s.aborted then s
    else if n < s.backend.subTransactions then State.releaseOne^[n + 1] s
    else s.fail
  | .rollbackTo n =>
    if n < s.backend.subTransactions then
      { State.rollbackOne^[n + 1] s with aborted := false }.start
    else s.fail
  | .handleError =>
    if s.backend.subTransactions = 0 then s else { s.rollbackOne with aborted := false }
  | .duckdbStatement stmt =>
    if s.aborted then s
    else
      match (GetConnection stmt.force_transaction).run s.backend with
      | .ok _ b => if stmt.fails then (s.execute b stmt).fail else s.execute b stmt
      | .error _ b => { s with backend := b }.fail
  | .openCursor force_transaction =>
    if s.aborted then s
    else
      match (GetConnection force_transaction).run s.backend with
      | .ok _ b => { s with backend := b, cursors := b.subTransactions :: s.cursors }
      | .error _ b => { s with backend := b }.fail
  | .fetch i stmt =>
    if s.aborted then s
    else if i < s.cursors.length then
      let s' := { s.execute s.backend stmt with cursors := s.cursors.eraseIdx i }
      if stmt.fails then s'.fail else s'
    else s.fail
  | .closeResult =>
    if s.openResult then
      { s with backend := { s.backend with hasActiveTransaction := false, modifiedDatabase := false }
               openResult := false }
    else s
  | .postgresStatement =>
    if s.aborted then s else { s with work := s.work.step (.call .postgres) }
  | .error => s.fail
  | .initializeFails database =>
    if s.aborted || s.backend.initialized then s
    else { s with backend := { s.backend with initialized := database } }.fail
  | .call c =>
    if s.aborted || !isOther c then s
    else
      match c.run.run s.backend with
      | .ok _ b => s.setBackend b
      | .error _ b => (s.setBackend b).fail
  | .finish ending block =>
    let b :=
      if s.aborted then
        if s.backend.subTransactions = 0 then s.backend else (s.backend.endTransaction .abort).1
      else (s.backend.endTransaction ending).1
    { s with backend := b.startTransaction block
             aborted := false, openResult := false, cursors := [], work := ⟨[], []⟩ }

/-! ## What the steps do -/

section
variable (s : State)

@[simp] theorem State.fireQuietly_eq {event : SubXactEvent} (h : event ≠ .START_SUB) :
    s.fireQuietly event = s := by
  rw [State.fireQuietly, DuckdbSubXactCallback_run_of_ne h]

@[simp] theorem State.leave_enter : s.enter.leave = s := rfl

/-- A level that is released hands its cursors and its work to the one below it. -/
theorem State.releaseOne_eq : s.releaseOne =
    { s.leave with cursors := s.cursors.map (min (s.backend.subTransactions - 1))
                   work := s.work.step .release } := by
  simp [State.releaseOne]

/-- A level that is rolled back loses its cursors, and its work is undone. -/
theorem State.rollbackOne_eq : s.rollbackOne =
    { s.leave with cursors := s.cursors.filter (· < s.backend.subTransactions)
                   work := s.work.step .rollback, undone := s.undone ++ s.work.top } := by
  simp [State.rollbackOne]

/-- A subtransaction starts unless a DuckDB transaction is active; otherwise the error is that of the
state before. -/
theorem State.start_eq : s.start =
    if s.backend.initialized = true ∧ s.backend.hasActiveTransaction = true then s.fail
    else { s.enter with work := s.work.step .start } := by
  unfold State.start
  rw [DuckdbSubXactCallback_run]
  by_cases h : s.backend.initialized = true ∧ s.backend.hasActiveTransaction = true
  · rw [if_pos ⟨h.1, h.2, rfl⟩, if_pos h]
    show (s.enter.fireQuietly .ABORT_SUB).leave.fail = s.fail
    rw [State.fireQuietly_eq _ (by decide), State.leave_enter]
  · rw [if_neg fun h' => h ⟨h'.1, h'.2.1⟩, if_neg h]
    rfl

end

/-- What another call leaves of the DuckDB transaction and the subtransactions. -/
theorem exec_of_isOther {c : XactCall} (hc : isOther c = true) (b : Backend) :
    (c.exec b).subTransactions = b.subTransactions ∧
      ((c.exec b).hasActiveTransaction = true → b.hasActiveTransaction = true) := by
  cases c with
  | getConnection | duckdbWrite | startSubTransaction | releaseSubTransaction
  | rollbackSubTransaction => cases hc
  | getCurrentCommandId used => cases used <;> exact ⟨rfl, fun h => h⟩
  | commandCounterIncrement =>
    cases hu : b.currentCommandIdUsed <;>
      simp [XactCall.exec, stateAfter, XactCall.run, CommandCounterIncrement, hu]
  | claimCurrentCommandId force =>
    rw [XactCall.exec, XactCall.run, stateAfter, ClaimCurrentCommandId_run]
    split
    · next h =>
      split at h <;> cases h
      exact ⟨rfl, fun h => h⟩
    · next h =>
      split at h <;> cases h
      exact ⟨rfl, fun h => h⟩
  | registerDuckdbTempTable relid | unregisterDuckdbTempTable relid =>
    cases hm : b.modified_temporary_duckdb_tables <;>
      simp [XactCall.exec, stateAfter, XactCall.run, RegisterDuckdbTempTable,
        UnregisterDuckdbTempTable, Backend.saveTemporaryTables, hm]
  | reset => exact ⟨rfl, fun h => by cases h⟩
  | _ => exact ⟨rfl, fun h => h⟩

/-! ## The invariant -/

/-- No open subtransaction has done work of DuckDB, nor has one that was undone. -/
structure Separated (s : State) : Prop where
  active : s.backend.hasActiveTransaction = true → s.backend.subTransactions = 0
  activeInstance : ActiveInstance s.backend
  /-- A cursor is over a query that is prepared on the cached connection. -/
  cursors : s.cursors ≠ [] → s.backend.initialized = true
  aborted : s.aborted = true → s.backend.hasActiveTransaction = false
  /-- The levels of the work are those of Postgres. -/
  depth : s.work.below.length = s.backend.subTransactions
  /-- No open subtransaction has done work of DuckDB. -/
  inner : System.duckdb ∉ s.work.inner
  undone : System.duckdb ∉ s.undone
  panicked : s.panicked = false

/-- Nothing is open at the start. -/
theorem separated_initial : Separated State.initial where
  active h := by cases h
  activeInstance h := by cases h
  cursors h := absurd rfl h
  aborted h := by cases h
  depth := rfl
  inner := by decide
  undone := by decide
  panicked := rfl

section
variable {s : State}

/-- A change of the backend that opens no subtransaction and activates no transaction. -/
theorem Separated.setBackend (h : Separated s) {b : Backend} {aborted openResult : Bool}
    {cursors : List Nat} (hsub : b.subTransactions = s.backend.subTransactions)
    (hactive : b.hasActiveTransaction = true → s.backend.hasActiveTransaction = true)
    (hinstance : ActiveInstance b) (hcursors : cursors ≠ [] → b.initialized = true)
    (haborted : aborted = true → s.aborted = true) :
    Separated { s with backend := b, aborted := aborted, openResult := openResult, cursors := cursors } where
  active ha := hsub.trans (h.active (hactive ha))
  activeInstance := hinstance
  cursors := hcursors
  aborted hab := by
    have hidle := h.aborted (haborted hab)
    cases ha : b.hasActiveTransaction with
    | false => rfl
    | true => exact absurd (hidle.symm.trans (hactive ha)) Bool.false_ne_true
  depth := h.depth.trans hsub.symm
  inner := h.inner
  undone := h.undone
  panicked := h.panicked

/-- In a subtransaction there is a level below the innermost one. -/
theorem Separated.below_ne_nil (h : Separated s) (hsub : s.backend.subTransactions ≠ 0) :
    s.work.below ≠ [] := by
  intro hb
  rw [← h.depth, hb] at hsub
  exact hsub rfl

/-- In a subtransaction the innermost level has no work of DuckDB. -/
theorem Separated.top (h : Separated s) (hsub : s.backend.subTransactions ≠ 0) :
    System.duckdb ∉ s.work.top :=
  fun hmem => h.inner (Levels.top_subset_inner (h.below_ne_nil hsub) hmem)

/-- In a subtransaction DuckDB has no transaction. -/
theorem Separated.inactive (h : Separated s) (hsub : s.backend.subTransactions ≠ 0) :
    s.backend.hasActiveTransaction = false := by
  cases ha : s.backend.hasActiveTransaction with
  | false => rfl
  | true => exact absurd (h.active ha) hsub

/-- What the innermost subtransaction has done may be undone. -/
theorem Separated.undone_append (h : Separated s) (hsub : s.backend.subTransactions ≠ 0) :
    System.duckdb ∉ s.undone ++ s.work.top := by
  rw [List.mem_append]
  exact fun hmem => hmem.elim h.undone (h.top hsub)

/-- A level that is rolled back had no work of DuckDB. -/
theorem Separated.inner_undo (h : Separated s) (hsub : s.backend.subTransactions ≠ 0) :
    System.duckdb ∉ (Levels.mk [] s.work.below).inner := by
  obtain ⟨b, bs, hb⟩ := List.exists_cons_of_ne_nil (h.below_ne_nil hsub)
  intro hmem
  refine h.inner ?_
  rw [Levels.inner_of_below_eq_cons hb, List.mem_append]
  rw [Levels.inner_of_below_eq_cons (l := ⟨[], s.work.below⟩) hb] at hmem
  exact .inr hmem

/-- Outside a subtransaction all the work is that of the transaction. -/
theorem Separated.inner_work (h : Separated s) (hsub : s.backend.subTransactions = 0)
    (top : List System) : System.duckdb ∉ (Levels.mk top s.work.below).inner := by
  have hb : s.work.below = [] := List.length_eq_zero_iff.1 (h.depth.trans hsub)
  rw [Levels.inner_of_below_eq_nil (l := ⟨top, s.work.below⟩) hb]
  exact List.not_mem_nil

/-- The callback of an abort leaves the number of subtransactions. -/
theorem subTransactions_abort (b : Backend) :
    (stateAfter (DuckdbXactCallback_Cpp true .ABORT) b).subTransactions = b.subTransactions := by
  rcases stateAfter_callback b true .ABORT with heq | ⟨tables, -, heq⟩ <;> rw [heq] <;> rfl

/-- The cursors of the subtransactions around the innermost one. -/
theorem Separated.cursors_filter (h : Separated s) {q : Nat → Bool} (hne : s.cursors.filter q ≠ []) :
    s.backend.initialized = true := by
  refine h.cursors fun hnil => hne ?_
  rw [hnil, List.filter_nil]

/-- An error keeps the work apart. -/
theorem Separated.fail (h : Separated s) : Separated s.fail := by
  unfold State.fail
  split
  · exact h
  · split
    · next hsub =>
      have hidle := active_abort h.activeInstance
      exact
        { active ha := absurd (hidle.symm.trans ha) Bool.false_ne_true
          activeInstance ha := absurd (hidle.symm.trans ha) Bool.false_ne_true
          cursors hne := absurd rfl hne
          aborted _ := hidle
          depth := ((subTransactions_abort _).trans hsub).symm
          inner := List.not_mem_nil
          undone := h.undone
          panicked := h.panicked }
    · next hsub =>
      rw [State.fireQuietly_eq s (by decide)]
      exact
        { active := h.active
          activeInstance := h.activeInstance
          cursors := h.cursors_filter
          aborted _ := h.inactive hsub
          depth := h.depth
          inner := h.inner_undo hsub
          undone := h.undone_append hsub
          panicked := h.panicked }

/-- A level that starts keeps the work apart. -/
theorem Separated.start (h : Separated s) : Separated s.start := by
  rw [State.start_eq]
  split
  · exact h.fail
  · next hactive =>
    exact
      { active ha := absurd ⟨h.activeInstance ha, ha⟩ hactive
        activeInstance := h.activeInstance
        cursors := h.cursors
        aborted := h.aborted
        depth := congrArg (· + 1) h.depth
        inner hmem := h.inner (by simpa [Lib.calls] using Levels.inner_step_subset _ _ hmem)
        undone := h.undone
        panicked := h.panicked }

/-- A level that is released keeps the work apart. -/
theorem Separated.releaseOne (h : Separated s) : Separated s.releaseOne := by
  rw [State.releaseOne_eq]
  exact
    { active ha := by rw [State.leave, h.active ha]
      activeInstance := h.activeInstance
      cursors hne := h.cursors fun hnil => hne (by rw [hnil, List.map_nil])
      aborted := h.aborted
      depth := by
        show (s.work.step .release).below.length = s.backend.subTransactions - 1
        rw [← h.depth]
        cases hb : s.work.below <;> simp [Levels.step, hb]
      inner hmem := h.inner (by simpa [Lib.calls] using Levels.inner_step_subset _ _ hmem)
      undone := h.undone
      panicked := h.panicked }

/-- Levels that are released keep the work apart. -/
theorem Separated.releaseOne_iterate (h : Separated s) (n : Nat) :
    Separated (State.releaseOne^[n] s) := by
  induction n generalizing s with
  | zero => exact h
  | succ n ih => exact ih h.releaseOne

/-- A level that is rolled back keeps the work apart. -/
theorem Separated.rollbackOne (h : Separated s) (hsub : s.backend.subTransactions ≠ 0) :
    Separated s.rollbackOne := by
  rw [State.rollbackOne_eq]
  exact
    { active ha := absurd (h.active ha) hsub
      activeInstance := h.activeInstance
      cursors := h.cursors_filter
      aborted := h.aborted
      depth := by
        show (s.work.step .rollback).below.length = s.backend.subTransactions - 1
        rw [← h.depth]
        cases hb : s.work.below <;> simp [Levels.step, hb]
      inner hmem := h.inner (by simpa [Lib.calls] using Levels.inner_step_subset _ _ hmem)
      undone := h.undone_append hsub
      panicked := h.panicked }

/-- `n` subtransactions are undone, when there are so many. -/
theorem Separated.rollbackOne_iterate (h : Separated s) {n : Nat}
    (hn : n ≤ s.backend.subTransactions) : Separated (State.rollbackOne^[n] s) := by
  induction n generalizing s with
  | zero => exact h
  | succ n ih =>
    refine ih (h.rollbackOne (by omega)) ?_
    rw [State.rollbackOne_eq]
    exact Nat.le_sub_one_of_lt hn

/-- A statement is executed outside subtransactions. -/
theorem Separated.execute (h : Separated s) {b : Backend} (stmt : Statement)
    (haborted : s.aborted = false) (hinit : b.initialized = true) (hsub : b.subTransactions = 0)
    (heq : s.backend.subTransactions = 0) : Separated (s.execute b stmt) where
  active _ := hsub
  activeInstance _ := hinit
  cursors _ := hinit
  aborted hab := absurd (haborted.symm.trans hab) Bool.false_ne_true
  depth := h.depth.trans (heq.trans hsub.symm)
  inner := h.inner_work heq _
  undone := h.undone
  panicked := h.panicked

/-- Work of Postgres. -/
theorem Separated.postgres (h : Separated s) :
    Separated { s with work := s.work.step (.call .postgres) } where
  active := h.active
  activeInstance := h.activeInstance
  cursors := h.cursors
  aborted := h.aborted
  depth := h.depth
  inner hmem := h.inner (by simpa [Lib.calls] using Levels.inner_step_subset _ _ hmem)
  undone := h.undone
  panicked := h.panicked

/-- Another call, whether or not it throws. -/
theorem Separated.call (h : Separated s) {c : XactCall} (hc : isOther c = true) :
    Separated (s.setBackend (c.exec s.backend)) := by
  refine h.setBackend (exec_of_isOther hc _).1 (exec_of_isOther hc _).2
    ((c.exec_frame s.backend).active h.activeInstance) (fun hne => ?_) fun hab => hab
  by_contra hinit
  exact hne (if_neg hinit)

/-- After the end of a transaction there is no subtransaction, but a DuckDB transaction perhaps that a
truncation has left open. -/
theorem Separated.finish (h : Separated s) (ending : Ending) (block : Bool) :
    Separated (step s (.finish ending block)) := by
  have hinstance : ActiveInstance (step s (.finish ending block)).backend := by
    simp only [step, Backend.startTransaction]
    split
    · split
      · exact h.activeInstance
      · exact activeInstance_endTransaction h.activeInstance .abort
    · exact activeInstance_endTransaction h.activeInstance ending
  exact
    { active _ := rfl
      activeInstance := hinstance
      cursors hne := absurd rfl hne
      aborted hab := by cases hab
      depth := rfl
      inner := List.not_mem_nil
      undone := h.undone
      panicked := h.panicked }

/-- A connection that succeeds is outside subtransactions. -/
theorem GetConnection_ok {b b' : Backend} {force : Bool}
    (hb : b.hasActiveTransaction = true → b.subTransactions = 0)
    (hrun : (GetConnection force).run b = .ok () b') :
    b'.initialized = true ∧ b'.subTransactions = 0 ∧ b.subTransactions = 0 := by
  rw [GetConnection_run, Backend.opened_eq] at hrun
  split at hrun
  · next h =>
    have h0 := hb (by simpa using (Bool.and_eq_true_iff.1 h).2)
    cases hrun
    exact ⟨rfl, h0, h0⟩
  · split at hrun
    · cases hrun
    · next hsub =>
      have h0 : b.subTransactions = 0 := by omega
      split at hrun <;> cases hrun <;> exact ⟨rfl, h0, h0⟩

/-- A connection that fails has begun no transaction. -/
theorem GetConnection_error {b b' : Backend} {force : Bool} {e : PgError}
    (hrun : (GetConnection force).run b = .error e b') :
    b'.initialized = true ∧ b'.subTransactions = b.subTransactions ∧
      b'.hasActiveTransaction = false := by
  rw [GetConnection_run, Backend.opened_eq] at hrun
  split at hrun
  · cases hrun
  · next h =>
    split at hrun
    · cases hrun
      exact ⟨rfl, rfl, by simpa using h⟩
    · split at hrun <;> cases hrun

/-- Without a connection a statement fails. -/
theorem Separated.noConnection (h : Separated s) {b : Backend} {force : Bool} {e : PgError}
    (hrun : (GetConnection force).run s.backend = .error e b) : Separated { s with backend := b }.fail := by
  obtain ⟨hinit, hsub, hactive⟩ := GetConnection_error hrun
  exact (h.setBackend hsub (fun ha => absurd (hactive.symm.trans ha) Bool.false_ne_true)
    (fun _ => hinit) (fun _ => hinit) fun hab => hab).fail

/-- A statement of DuckDB runs where it gets a connection, and fails where it gets none. -/
theorem Separated.duckdbStatement (h : Separated s) (stmt : Statement) :
    Separated (step s (.duckdbStatement stmt)) := by
  simp only [step]
  split
  · exact h
  · next hab =>
    cases hrun : (GetConnection stmt.force_transaction).run s.backend with
    | ok u b =>
      obtain ⟨hinit, hsub, hsub'⟩ := GetConnection_ok h.active hrun
      have hexecute := h.execute stmt (by simpa using hab) hinit hsub hsub'
      cases stmt.fails with
      | true => exact hexecute.fail
      | false => exact hexecute
    | error e b => exact h.noConnection hrun

/-- A cursor is opened outside subtransactions, and executes nothing. -/
theorem Separated.openCursor (h : Separated s) (force : Bool) : Separated (step s (.openCursor force)) := by
  simp only [step]
  split
  · exact h
  · next hab =>
    cases hrun : (GetConnection force).run s.backend with
    | ok u b =>
      obtain ⟨hinit, hsub, hsub'⟩ := GetConnection_ok h.active hrun
      exact
        { active _ := hsub
          activeInstance _ := hinit
          cursors _ := hinit
          aborted hab' := absurd hab' hab
          depth := h.depth.trans (hsub'.trans hsub.symm)
          inner := h.inner
          undone := h.undone
          panicked := h.panicked }
    | error e b => exact h.noConnection hrun

/-- Fetched outside subtransactions, the query of a cursor is executed there. -/
theorem Separated.fetch (h : Separated s) (i : Nat) (stmt : Statement)
    (hsub : s.backend.subTransactions = 0) : Separated (step s (.fetch i stmt)) := by
  simp only [step]
  split
  · exact h
  · next hab =>
    split
    · next hi =>
      have hinit := h.cursors (List.ne_nil_of_length_pos (by omega))
      have hexecute := h.execute stmt (by simpa using hab) hinit hsub hsub
      have hfetched : Separated { s.execute s.backend stmt with cursors := s.cursors.eraseIdx i } :=
        { hexecute with cursors _ := hinit }
      split
      · exact hfetched.fail
      · exact hfetched
    · exact h.fail

/-- An initialisation that fails leaves no DuckDB transaction behind. -/
theorem Separated.initializeFails (h : Separated s) (database : Bool) :
    Separated (step s (.initializeFails database)) := by
  simp only [step]
  split
  · exact h
  · next hno =>
    have hinit : s.backend.initialized = false := by
      cases hi : s.backend.initialized with
      | false => rfl
      | true => simp [hi] at hno
    have hidle := h.activeInstance.active_eq_false hinit
    have hset : Separated { s with backend := { s.backend with initialized := database } } :=
      h.setBackend rfl (fun ha => ha) (fun ha => absurd (hidle.symm.trans ha) Bool.false_ne_true)
        (fun hne => by rw [h.cursors hne] at hinit; cases hinit) fun hab => hab
    exact hset.fail

/-- A call outside every subtransaction keeps the work apart. -/
theorem Separated.otherCall (h : Separated s) (c : XactCall) : Separated (step s (.call c)) := by
  simp only [step]
  split
  · exact h
  · next hno =>
    have hc : isOther c = true := by
      cases hc : isOther c with
      | true => rfl
      | false => simp [hc] at hno
    cases hrun : c.run.run s.backend with
    | ok u b =>
      have hb : c.exec s.backend = b := by rw [XactCall.exec, stateAfter, hrun]
      exact hb ▸ h.call hc
    | error e b =>
      have hb : c.exec s.backend = b := by rw [XactCall.exec, stateAfter, hrun]
      exact (hb ▸ h.call hc).fail

end

/-- No cursor is first fetched inside a subtransaction. -/
def FetchesOutside (s : State) : Action → Prop
  | .fetch _ _ => s.backend.subTransactions = 0
  | _ => True

/-- Every such step keeps a DuckDB transaction and subtransactions apart. -/
theorem separated_step {s : State} (h : Separated s) {a : Action} (hok : FetchesOutside s a) :
    Separated (step s a) := by
  cases a with
  | beginBlock =>
    simp only [step]
    split
    · exact h
    · exact h.setBackend rfl (fun ha => ha) h.activeInstance h.cursors fun hab => hab
  | startSubTransaction =>
    simp only [step]
    split
    · exact h
    · exact h.start
  | release n =>
    simp only [step]
    split
    · exact h
    · split
      · exact h.releaseOne_iterate (n + 1)
      · exact h.fail
  | rollbackTo n =>
    simp only [step]
    split
    · next hn =>
      have hback := h.rollbackOne_iterate (n := n + 1) hn
      exact (hback.setBackend rfl (fun ha => ha) hback.activeInstance hback.cursors
        fun hab => by cases hab).start
    · exact h.fail
  | handleError =>
    simp only [step]
    split
    · exact h
    · next hsub =>
      have hback := h.rollbackOne hsub
      exact hback.setBackend rfl (fun ha => ha) hback.activeInstance hback.cursors fun hab => by cases hab
  | duckdbStatement stmt => exact h.duckdbStatement stmt
  | openCursor force => exact h.openCursor force
  | fetch i stmt => exact h.fetch i stmt hok
  | closeResult =>
    simp only [step]
    split
    · exact h.setBackend rfl (fun ha => by cases ha) (fun ha => by cases ha) h.cursors fun hab => hab
    · exact h
  | postgresStatement =>
    simp only [step]
    split
    · exact h
    · exact h.postgres
  | error => exact h.fail
  | initializeFails database => exact h.initializeFails database
  | call c => exact h.otherCall c
  | finish ending block => exact h.finish ending block

/-- Whatever the transactions of a backend do, as long as they first fetch from cursors outside
subtransactions: while DuckDB has an active transaction, Postgres has no open subtransaction, and no
subtransaction that was undone had done work of DuckDB. Nor does the callback throw while Postgres handles an
error. -/
theorem separated_of_run (actions : List Action)
    (h : Lib.StepsOk step FetchesOutside State.initial actions) :
    ((actions.foldl step State.initial).backend.hasActiveTransaction = true →
        (actions.foldl step State.initial).backend.subTransactions = 0) ∧
      System.duckdb ∉ (actions.foldl step State.initial).undone ∧
      (actions.foldl step State.initial).panicked = false := by
  have hrun : Separated (actions.foldl step State.initial) :=
    h.invariant separated_initial fun _ _ hs hok => separated_step hs hok
  exact ⟨hrun.active, hrun.undone, hrun.panicked⟩

/-- The subtransaction of a block is undone with what Postgres did in it. Then a statement begins a
DuckDB transaction, in which no savepoint can be made. -/
theorem separated_of_run_at :
    let s := [Action.beginBlock, .startSubTransaction, .postgresStatement, .error, .handleError,
      .duckdbStatement ⟨false, false, true, false⟩].foldl step State.initial
    (s.backend.hasActiveTransaction = true → s.backend.subTransactions = 0) ∧ System.duckdb ∉ s.undone ∧
      s.panicked = false :=
  separated_of_run _ ⟨trivial, trivial, trivial, trivial, trivial, trivial, trivial⟩

/-- A block opens a cursor on a DuckDB table and fetches from it inside an exception block: DuckDB's
transaction is active in a subtransaction. -/
theorem not_separated_of_run :
    ¬ ∀ actions : List Action,
      ((actions.foldl step State.initial).backend.hasActiveTransaction = true →
        (actions.foldl step State.initial).backend.subTransactions = 0) ∧
      System.duckdb ∉ (actions.foldl step State.initial).undone := by
  intro h
  have hopen := (h [.openCursor false, .startSubTransaction, .fetch 0 ⟨false, true, false, false⟩]).1
  exact absurd (hopen (by decide)) (by decide)

end PgDuckdb.Savepoints
