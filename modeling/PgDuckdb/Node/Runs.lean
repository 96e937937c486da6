import PgDuckdb.Lib.Except
import PgDuckdb.Node.CustomScan

/-!
# A whole scan

Every call of `Duckdb_ExecCustomScan` gives one answer: the next row of the result, the empty slot behind the
last row, or an exception. `answers` lists them for a result, with nothing about chunks that are half read or
flags that ask for the next one, and a scan gives these answers in this order, each of them once, whatever
is rescanned in between (`rows_of_calls`). A call after the empty slot or after an exception finds nothing to
read any more: it is the last of the answers, and given again and again.
-/

namespace PgDuckdb.Node

open Lib

section
variable {D W V : Type}

/-! ## What a scan answers -/

/-- The answers of a list up to the first exception, behind which the scan is cleaned up, and where there is none the
others behind them. -/
def untilError {α : Type} : List (Except ScanError α) → List (Except ScanError α) → List (Except ScanError α)
  | [], rest => rest
  | .error e :: _, _ => [.error e, .error .nullPointer]
  | .ok a :: as, rest => .ok a :: untilError as rest

variable (ConvertPostgresParameterToDuckValue : D → Oid → Except String W)
variable (ConvertDuckToPostgresValue : ℕ → V → Except String (Option D))
variable (IsResultReady : PendingExecutionResult → Bool)

/-- The answers for some rows. -/
def rowAnswers (column_count : ℕ) (rows : List (List (Option V))) : List (Except ScanError (Slot D)) :=
  rows.map fun row => (storeRow ConvertDuckToPostgresValue column_count row).map some

/-- The answers for a result: the rows of its chunks one after the other, and an empty slot behind them. A
chunk without rows ends the result as the null pointer does, but a call behind it takes a row of that chunk. -/
def answers (column_count : ℕ) : Chunks V → List (Except ScanError (Slot D))
  | [] => [.ok none, .error .nullPointer]
  | .error message :: _ => [.error (.exception message), .error .nullPointer]
  | .ok [] :: _ => [.ok none, .error .undefined]
  | .ok (row :: rows) :: chunks =>
    untilError (rowAnswers ConvertDuckToPostgresValue column_count (row :: rows)) (answers column_count chunks)

/-- The answers of a scan that has not been executed, given how its execution ends. Without a result the statement is
gone. -/
def answersOf : Except ScanError (DuckdbScanState D W V) → List (Except ScanError (Slot D))
  | .error e => [.error e, .error .undefined]
  | .ok state => answers ConvertDuckToPostgresValue state.column_count (state.query_results.getD [])

/-- The answer to the call with this number, counted from 0. The last one is the answer to all further calls. -/
def answerAt : List (Except ScanError (Slot D)) → ℕ → Except ScanError (Slot D)
  | [], _ => .error .undefined
  | [a], _ => a
  | a :: _ :: _, 0 => a
  | _ :: b :: l, n + 1 => answerAt (b :: l) n

/-- The first call gets the first answer. -/
theorem answerAt_zero (a : Except ScanError (Slot D)) (l : List (Except ScanError (Slot D))) :
    answerAt (a :: l) 0 = a := by
  cases l <;> rfl

/-- A later call gets an answer of the rest. -/
theorem answerAt_succ (a : Except ScanError (Slot D)) {l : List (Except ScanError (Slot D))} (hne : l ≠ []) (n : ℕ) :
    answerAt (a :: l) (n + 1) = answerAt l n := by
  cases l with
  | nil => exact absurd rfl hne
  | cons b l => rfl

/-- Up to an error there is an answer. -/
theorem untilError_ne_nil {α : Type} (a : Except ScanError α) (l rest : List (Except ScanError α)) :
    untilError (a :: l) rest ≠ [] := by
  cases a <;> exact List.cons_ne_nil _ _

/-- A result has an answer, if only that it is at its end. -/
theorem answers_ne_nil (column_count : ℕ) (chunks : Chunks V) :
    answers ConvertDuckToPostgresValue column_count chunks ≠ [] := by
  cases chunks with
  | nil => exact List.cons_ne_nil _ _
  | cons chunk chunks =>
    cases chunk with
    | error message => exact List.cons_ne_nil _ _
    | ok chunk =>
      cases chunk with
      | nil => exact List.cons_ne_nil _ _
      | cons row rows => exact untilError_ne_nil _ _ _

/-- When all rows of a result convert, the answers are these rows in their order and one empty slot. -/
theorem answers_of_rows {column_count : ℕ} {chunks : List (List (List (Option V)))}
    {slots : List (List (List (Option D)))} (hne : ∀ chunk ∈ chunks, chunk ≠ [])
    (hrows : List.Forall₂ (List.Forall₂ fun row slot =>
      storeRow ConvertDuckToPostgresValue column_count row = .ok slot) chunks slots) :
    answers ConvertDuckToPostgresValue column_count (chunks.map .ok) =
      slots.flatten.map (fun slot => .ok (some slot)) ++ [.ok none, .error .nullPointer] := by
  have hchunk : ∀ {rows : List (List (Option V))} {slots : List (List (Option D))}
      (rest : List (Except ScanError (Slot D))),
      List.Forall₂ (fun row slot => storeRow ConvertDuckToPostgresValue column_count row = .ok slot)
        rows slots →
      untilError (rowAnswers ConvertDuckToPostgresValue column_count rows) rest =
        slots.map (fun slot => .ok (some slot)) ++ rest := by
    intro rows slots rest h
    induction h with
    | nil => rfl
    | cons hrow _ ih =>
      rw [rowAnswers, List.map_cons, hrow]
      exact congrArg _ ih
  induction hrows with
  | nil => rfl
  | @cons chunk slot chunks slots h _ ih =>
    have hrest := ih fun c hc => hne c (List.mem_cons_of_mem _ hc)
    cases chunk with
    | nil => exact absurd rfl (hne [] List.mem_cons_self)
    | cons row rows =>
      rw [List.map_cons, answers, hchunk _ h, hrest, List.flatten_cons, List.map_append,
        List.append_assoc]

/-! ## One call -/

/-- An execution that succeeds leaves a result to fetch from. -/
theorem executed_of_ok {ConvertPostgresParameterToDuckValue : D → Oid → Except String W}
    {IsResultReady : PendingExecutionResult → Bool} {state executed : DuckdbScanState D W V}
    (h : ExecuteQuery ConvertPostgresParameterToDuckValue IsResultReady state = some (.ok executed)) :
    ∃ chunks, executed.is_executed = true ∧ executed.query_results = some chunks ∧
      executed.fetch_next = state.fetch_next := by
  unfold ExecuteQuery at h
  split at h
  · cases h
  split at h
  · cases h
  simp only at h
  split at h
  · cases h
  · obtain ⟨result, -, hresult⟩ := Option.map_eq_some_iff.1 h
    split at hresult
    · cases hresult
    · cases hresult
    · cases hresult
      exact ⟨_, rfl, rfl, rfl⟩

/-- There is nothing left to read, and that is what every call gives. -/
inductive Ended : DuckdbScanState D W V → ScanError → Prop
  | result {state} (hexec : state.is_executed = true) (hfetch : state.fetch_next = true)
    (hnone : state.query_results = none) : Ended state .nullPointer
  | chunk {state} (hexec : state.is_executed = true) (hfetch : state.fetch_next = false)
    (hnone : state.current_data_chunk = none) : Ended state .nullPointer
  | emptyChunk {state} (hexec : state.is_executed = true) (hfetch : state.fetch_next = false)
    (hempty : state.current_data_chunk = some []) : Ended state .undefined
  | statement {state} (hexec : state.is_executed = false) (hnone : state.prepared_statement = none) :
    Ended state .undefined

/-- The answers that a scan has still to give. -/
inductive Yields : DuckdbScanState D W V → List (Except ScanError (Slot D)) → Prop
  | begin {state result} (hexec : state.is_executed = false) (hfetch : state.fetch_next = true)
    (hresult : ExecuteQuery ConvertPostgresParameterToDuckValue IsResultReady state = some result) :
    Yields state (answersOf ConvertDuckToPostgresValue result)
  | fetch {state chunks} (hexec : state.is_executed = true) (hfetch : state.fetch_next = true)
    (hchunks : state.query_results = some chunks) :
    Yields state (answers ConvertDuckToPostgresValue state.column_count chunks)
  | row {state chunk chunks} (hexec : state.is_executed = true) (hfetch : state.fetch_next = false)
    (hchunk : state.current_data_chunk = some chunk) (hchunks : state.query_results = some chunks)
    (hrow : state.current_row < chunk.length) :
    Yields state (untilError
      (rowAnswers ConvertDuckToPostgresValue state.column_count (chunk.drop state.current_row))
      (answers ConvertDuckToPostgresValue state.column_count chunks))
  | ended {state e} (h : Ended state e) : Yields state [.error e]

/-- A call gives the first of the answers, and leaves the others to give. -/
def Gives (r : Except ScanError (Slot D) × DuckdbScanState D W V) (l : List (Except ScanError (Slot D))) :
    Prop :=
  answerAt l 0 = r.1 ∧ ∃ rest, (∀ n, answerAt l (n + 1) = answerAt rest n) ∧
    Yields ConvertPostgresParameterToDuckValue ConvertDuckToPostgresValue IsResultReady r.2 rest

variable {ConvertPostgresParameterToDuckValue ConvertDuckToPostgresValue IsResultReady}

/-- A scan has some answer. -/
theorem yields_ne_nil {state : DuckdbScanState D W V} {l : List (Except ScanError (Slot D))}
    (h : Yields ConvertPostgresParameterToDuckValue ConvertDuckToPostgresValue IsResultReady state l) : l ≠ [] := by
  cases h with
  | «begin» hexec hfetch hresult =>
    rename_i result
    cases result with
    | error e => exact List.cons_ne_nil _ _
    | ok executed => exact answers_ne_nil _ _ _
  | fetch hexec hfetch hchunks => exact answers_ne_nil _ _ _
  | row hexec hfetch hchunk hchunks hrow =>
    rw [List.drop_eq_getElem_cons hrow, rowAnswers, List.map_cons]
    exact untilError_ne_nil _ _ _
  | ended h => exact List.cons_ne_nil _ _

/-- A call that gives an answer, with those that it leaves. -/
theorem gives_cons {a : Except ScanError (Slot D)} {state : DuckdbScanState D W V}
    {rest : List (Except ScanError (Slot D))}
    (h : Yields ConvertPostgresParameterToDuckValue ConvertDuckToPostgresValue IsResultReady state rest) :
    Gives ConvertPostgresParameterToDuckValue ConvertDuckToPostgresValue IsResultReady (a, state) (a :: rest) :=
  ⟨answerAt_zero a rest, rest, answerAt_succ a (yields_ne_nil h), h⟩

/-- A scan that has been cleaned up has nothing left. -/
theorem ended_cleanup {state : DuckdbScanState D W V} (hexec : state.is_executed = true) :
    Ended (CleanupDuckdbScanState state) .nullPointer := by
  cases hfetch : state.fetch_next with
  | true => exact .result hexec hfetch rfl
  | false => exact .chunk hexec hfetch rfl

/-- An error that is caught cleans up the scan. -/
theorem cleanupOnError_error {e : ScanError} (he : e ≠ .undefined) (state : DuckdbScanState D W V) :
    cleanupOnError (D := D) (.error e, state) = (.error e, CleanupDuckdbScanState state) := by
  cases e with
  | undefined => exact absurd rfl he
  | _ => rfl

/-- Behind an exception of a call that reads there is nothing. -/
theorem gives_error {e : ScanError} (he : e ≠ .undefined) {state : DuckdbScanState D W V}
    (hexec : state.is_executed = true) :
    Gives ConvertPostgresParameterToDuckValue ConvertDuckToPostgresValue IsResultReady
      (cleanupOnError (.error e, state)) [.error e, .error .nullPointer] := by
  rw [cleanupOnError_error he]
  exact gives_cons (.ended (ended_cleanup hexec))

/-- What is wrong with a row is thrown. -/
theorem storeRow_ne_undefined {column_count : ℕ} {row : List (Option V)} {e : ScanError}
    (h : storeRow ConvertDuckToPostgresValue column_count row = .error e) : e ≠ .undefined := by
  unfold storeRow at h
  obtain ⟨col, -, hcol⟩ := exists_of_mapM_error h
  split at hcol
  · cases hcol
  · split at hcol <;> cases hcol <;> exact ScanError.noConfusion

/-- A row of the current chunk. -/
theorem gives_nextRow {state : DuckdbScanState D W V} {chunk : List (List (Option V))} {chunks : Chunks V}
    (hexec : state.is_executed = true) (hfetch : state.fetch_next = false)
    (hchunk : state.current_data_chunk = some chunk) (hchunks : state.query_results = some chunks)
    (hrow : state.current_row < chunk.length) :
    Gives ConvertPostgresParameterToDuckValue ConvertDuckToPostgresValue IsResultReady
      (cleanupOnError (nextRow ConvertDuckToPostgresValue state))
      (untilError (rowAnswers ConvertDuckToPostgresValue state.column_count (chunk.drop state.current_row))
        (answers ConvertDuckToPostgresValue state.column_count chunks)) := by
  have hget : chunk[state.current_row]? = some chunk[state.current_row] := List.getElem?_eq_getElem hrow
  rw [List.drop_eq_getElem_cons hrow, rowAnswers, List.map_cons]
  unfold nextRow
  simp only [hchunk, hget]
  cases hstore : storeRow ConvertDuckToPostgresValue state.column_count chunk[state.current_row] with
  | error e => exact gives_error (storeRow_ne_undefined hstore) hexec
  | ok slot =>
    by_cases hlast : state.current_row + 1 ≥ chunk.length
    · -- The last row of the chunk: the next call fetches.
      simp only [if_pos hlast]
      rw [List.drop_eq_nil_of_le hlast]
      exact gives_cons (.fetch hexec rfl hchunks)
    · simp only [if_neg hlast]
      exact gives_cons (.row hexec hfetch rfl hchunks (Nat.lt_of_not_le hlast))

/-- A call that fetches a chunk first. -/
theorem gives_fetchRow {state : DuckdbScanState D W V} {chunks : Chunks V}
    (hexec : state.is_executed = true) (hfetch : state.fetch_next = true)
    (hchunks : state.query_results = some chunks) :
    Gives ConvertPostgresParameterToDuckValue ConvertDuckToPostgresValue IsResultReady
      (cleanupOnError (fetchRow ConvertDuckToPostgresValue state))
      (answers ConvertDuckToPostgresValue state.column_count chunks) := by
  unfold fetchRow
  rw [if_pos hfetch]
  simp only [hchunks]
  cases chunks with
  | nil => exact gives_cons (.ended (.chunk hexec rfl rfl))
  | cons chunk chunks =>
    cases chunk with
    | error message => exact gives_error ScanError.noConfusion hexec
    | ok chunk =>
      cases chunk with
      | nil => exact gives_cons (.ended (.emptyChunk hexec rfl rfl))
      | cons row rows =>
        simp only [List.length_cons, Nat.add_one_ne_zero, if_false]
        exact gives_nextRow hexec rfl rfl rfl (Nat.succ_pos _)

/-- What is wrong with a parameter is thrown. -/
theorem namedValues_ne_undefined {named_param_map : List String} {i : ℕ} {params : List (ParamExternData D)}
    {e : ScanError} (h : namedValues ConvertPostgresParameterToDuckValue named_param_map i params = .error e) :
    e ≠ .undefined := by
  induction params generalizing i with
  | nil => cases h
  | cons pg_param params ih =>
    unfold namedValues at h
    split at h
    · exact ih h
    split at h
    · obtain he | ⟨rest, -, hrest⟩ := bind_eq_error.1 h
      · exact ih he
      · cases hrest
    split at h
    · split at h
      · cases h
        exact ScanError.noConfusion
      · obtain he | ⟨rest, -, hrest⟩ := bind_eq_error.1 h
        · exact ih he
        · cases hrest
    · cases h
      exact ScanError.noConfusion

/-- Tasks never leave the state undefined. -/
theorem executeTasks_ne_undefined {tasks : List (PendingExecutionResult × Bool)} {e : ScanError}
    (h : executeTasks IsResultReady tasks = some (.error e)) : e ≠ .undefined := by
  induction tasks with
  | nil => cases h
  | cons task tasks ih =>
    unfold executeTasks at h
    split at h
    · cases h
    split at h
    · cases h
      exact ScanError.noConfusion
    · exact ih h

/-- Memory that is not there is read only where the statement is gone. -/
theorem ExecuteQuery_undefined {state : DuckdbScanState D W V}
    (h : ExecuteQuery ConvertPostgresParameterToDuckValue IsResultReady state = some (.error .undefined)) :
    state.prepared_statement = none := by
  unfold ExecuteQuery at h
  split at h
  next hnone => exact hnone
  next =>
    split at h
    next hvalues =>
      cases h
      exact absurd rfl (namedValues_ne_undefined hvalues)
    next =>
      dsimp only at h
      split at h
      · cases h
      · obtain ⟨result, htasks, hresult⟩ := Option.map_eq_some_iff.1 h
        split at hresult
        · cases hresult
          exact absurd rfl (executeTasks_ne_undefined htasks)
        · cases hresult
        · cases hresult

/-- An execution that fails leaves no statement. -/
theorem gives_executeError {state : DuckdbScanState D W V} {e : ScanError} (hexec : state.is_executed = false)
    (h : ExecuteQuery ConvertPostgresParameterToDuckValue IsResultReady state = some (.error e)) :
    Gives ConvertPostgresParameterToDuckValue ConvertDuckToPostgresValue IsResultReady
      (cleanupOnError (.error e, state)) [.error e, .error .undefined] := by
  by_cases he : e = .undefined
  · subst he
    exact gives_cons (.ended (.statement hexec (ExecuteQuery_undefined h)))
  · rw [cleanupOnError_error he]
    exact gives_cons (.ended (.statement hexec rfl))

/-- A call of a scan that has nothing left. -/
theorem exec_of_ended {state : DuckdbScanState D W V} {e : ScanError} (h : Ended state e) :
    ∃ state', Duckdb_ExecCustomScan ConvertPostgresParameterToDuckValue ConvertDuckToPostgresValue
        IsResultReady false state = some (.error e, state') ∧ Ended state' e := by
  unfold Duckdb_ExecCustomScan
  cases h with
  | result hexec hfetch hnone =>
    refine ⟨_, ?_, ended_cleanup hexec⟩
    simp [hexec, fetchRow, hfetch, hnone, cleanupOnError]
  | chunk hexec hfetch hnone =>
    refine ⟨_, ?_, ended_cleanup hexec⟩
    simp [hexec, fetchRow, hfetch, nextRow, hnone, cleanupOnError]
  | emptyChunk hexec hfetch hempty =>
    refine ⟨state, ?_, .emptyChunk hexec hfetch hempty⟩
    simp [hexec, fetchRow, hfetch, nextRow, hempty, cleanupOnError]
  | statement hexec hnone =>
    refine ⟨state, ?_, .statement hexec hnone⟩
    simp [hexec, ExecuteQuery, hnone, cleanupOnError]

/-- A call gives the first of the answers that a scan has still to give. -/
theorem exec_of_yields {state : DuckdbScanState D W V} {l : List (Except ScanError (Slot D))}
    (h : Yields ConvertPostgresParameterToDuckValue ConvertDuckToPostgresValue IsResultReady state l) :
    ∃ r, Duckdb_ExecCustomScan ConvertPostgresParameterToDuckValue ConvertDuckToPostgresValue
        IsResultReady false state = some r ∧
      Gives ConvertPostgresParameterToDuckValue ConvertDuckToPostgresValue IsResultReady r l := by
  cases h with
  | «begin» hexec hfetch hresult =>
    rename_i result
    unfold Duckdb_ExecCustomScan
    simp only [hexec, hresult, Option.map_some]
    cases result with
    | error e => exact ⟨_, rfl, gives_executeError hexec hresult⟩
    | ok executed =>
      obtain ⟨chunks, hexecuted, hchunks, hfetch'⟩ := executed_of_ok hresult
      refine ⟨_, rfl, ?_⟩
      rw [answersOf, hchunks]
      exact gives_fetchRow hexecuted (hfetch'.trans hfetch) hchunks
  | fetch hexec hfetch hchunks =>
    unfold Duckdb_ExecCustomScan
    simp only [hexec]
    exact ⟨_, rfl, gives_fetchRow hexec hfetch hchunks⟩
  | row hexec hfetch hchunk hchunks hrow =>
    unfold Duckdb_ExecCustomScan
    simp only [hexec, fetchRow, hfetch]
    exact ⟨_, rfl, gives_nextRow hexec hfetch hchunk hchunks hrow⟩
  | ended h =>
    obtain ⟨state', hrun, hended⟩ := exec_of_ended h
    exact ⟨_, hrun, rfl, _, fun _ => rfl, .ended hended⟩

/-! ## All calls -/

/-- What the executor of Postgres calls between the begin and the end of a scan. -/
inductive Call
  | ExecCustomScan
  | ReScanCustomScan
  deriving DecidableEq, Repr

variable (ConvertPostgresParameterToDuckValue ConvertDuckToPostgresValue IsResultReady)

/-- The answers of some calls, one after the other, and the state afterwards, if they come to an end. -/
def runCalls : DuckdbScanState D W V → List Call →
    Option (List (Except ScanError (Slot D)) × DuckdbScanState D W V)
  | state, [] => some ([], state)
  | state, .ReScanCustomScan :: cs => runCalls (Duckdb_ReScanCustomScan state) cs
  | state, .ExecCustomScan :: cs =>
    (Duckdb_ExecCustomScan ConvertPostgresParameterToDuckValue ConvertDuckToPostgresValue IsResultReady false
      state).bind fun r => (runCalls r.2 cs).map fun s => (r.1 :: s.1, s.2)

variable {ConvertPostgresParameterToDuckValue ConvertDuckToPostgresValue IsResultReady}

/-- The calls take the answers from the front. -/
theorem runCalls_of_yields {state : DuckdbScanState D W V} {l : List (Except ScanError (Slot D))}
    (h : Yields ConvertPostgresParameterToDuckValue ConvertDuckToPostgresValue IsResultReady state l)
    (cs : List Call) :
    ∃ state', runCalls ConvertPostgresParameterToDuckValue ConvertDuckToPostgresValue IsResultReady state cs =
      some ((List.range (cs.count .ExecCustomScan)).map (answerAt l), state') := by
  induction cs generalizing state l with
  | nil => exact ⟨state, rfl⟩
  | cons c cs ih =>
    cases c with
    | ReScanCustomScan =>
      -- `ReScan` does nothing, and the scan goes on where it is.
      obtain ⟨state', hrun⟩ := ih h
      refine ⟨state', ?_⟩
      rw [runCalls, Duckdb_ReScanCustomScan, hrun, List.count_cons_of_ne (by decide)]
    | ExecCustomScan =>
      obtain ⟨r, hexec, hfirst, rest, hlater, hyields⟩ := exec_of_yields h
      obtain ⟨state', hrun⟩ := ih hyields
      refine ⟨state', ?_⟩
      rw [runCalls, hexec, Option.bind_some, hrun, List.count_cons_self, List.range_succ_eq_map, List.map_cons,
        List.map_map, hfirst]
      refine congrArg (fun answers => some (r.1 :: answers, state')) (List.map_congr_left fun n _ => ?_)
      exact (hlater n).symm

/-- A scan whose execution comes to an end gives, whatever is executed and rescanned in which order, every
row of the result once and in the order of the result, then one empty slot, or else an exception in the place
of a row that cannot be had; and every call behind these finds nothing to read. -/
theorem rows_of_calls {ContainsPostgresTable : Bool} {prepared_query : PreparedStatement W V}
    {params : List (ParamExternData D)} {result : Except ScanError (DuckdbScanState D W V)}
    (hresult : ExecuteQuery ConvertPostgresParameterToDuckValue IsResultReady
      (Duckdb_BeginCustomScan ContainsPostgresTable prepared_query params) = some result)
    (cs : List Call) :
    ∃ state', runCalls ConvertPostgresParameterToDuckValue ConvertDuckToPostgresValue IsResultReady
        (Duckdb_BeginCustomScan ContainsPostgresTable prepared_query params) cs =
      some ((List.range (cs.count .ExecCustomScan)).map
        (answerAt (answersOf ConvertDuckToPostgresValue result)), state') :=
  runCalls_of_yields (.begin rfl rfl hresult) cs

end

/-- A statement with one parameter, executed with two tasks, whose result has two chunks. -/
def twoChunks : PreparedStatement ℕ ℕ where
  named_param_map := ["1"]
  PendingQuery named_values _ := .ok {
    tasks := [(.RESULT_NOT_READY, false), (.RESULT_READY, false)]
    error := ""
    Execute := { chunks := [.ok [[named_values.head?.bind (·.2)], [none]], .ok [[some 3]]], ColumnCount := 1 } }

/-- The execution of the example. -/
theorem twoChunks_executes :
    (ExecuteQuery (V := ℕ) (fun d _ => .ok d) (· == .RESULT_READY)
      (Duckdb_BeginCustomScan false twoChunks [⟨7, false, 23⟩])).isSome = true := by
  decide +kernel

/-- The calls of the example, and what they give. -/
theorem rows_of_calls_twoChunks :
    ∃ state', runCalls (fun d _ => .ok d) (fun _ v => .ok (some v)) (· == .RESULT_READY)
        (Duckdb_BeginCustomScan false twoChunks [⟨7, false, 23⟩])
        [.ExecCustomScan, .ReScanCustomScan, .ExecCustomScan, .ExecCustomScan, .ExecCustomScan,
          .ExecCustomScan] =
      some ([.ok (some [some 7]), .ok (some [none]), .ok (some [some 3]), .ok none, .error .nullPointer],
        state') :=
  rows_of_calls (Option.some_get twoChunks_executes).symm _

end PgDuckdb.Node
