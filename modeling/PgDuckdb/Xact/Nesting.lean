import Mathlib.Data.List.Basic
import Mathlib.Data.List.Count
import PgDuckdb.Lib.Run

/-!
# The nesting of executors

`executor_nest_level` is incremented when an executor starts and decremented when it finishes
(`pgduckdb_hooks.cpp`), and `IsAllowedStatement` takes a statement that is planned at a positive level to
be inside a function. Not every executor that starts is finished: one that `EXPLAIN` starts is not, nor
one that an error ends, and that of a cursor is later (`not_tracked`). And an `AFTER` trigger is called
when its executor is finished already (`accepted_in_trigger`). `tracked_iff` says that there is nothing
else.

A transaction is a run of what happens to its executors, with the calls in progress on a stack.
-/

namespace PgDuckdb.Nesting

open Lib (AllowedRun)

/-! ## Executors -/

/-- What an executor is started for. -/
inductive Kind
  | query
  /-- `EXPLAIN` without `ANALYZE`. -/
  | explain
  | cursor
  /-- `PostgresTableReader`. -/
  | reader
  deriving DecidableEq, Repr

/-- What has become of an executor. -/
inductive Status
  | started
  | finished
  /-- After it was finished. -/
  | ended
  /-- It was ended without being finished. -/
  | explained
  /-- It was dropped by an error before it was finished. -/
  | aborted
  deriving DecidableEq, Repr

/-- An executor and where it stands. -/
structure Executor where
  kind : Kind
  status : Status
  /-- The subtransactions it is in. -/
  subxacts : Nat
  deriving DecidableEq, Repr

/-- `ExecutorFinish` was never called for it. -/
def Executor.unfinished (e : Executor) : Bool :=
  match e.status with
  | .started | .explained | .aborted => true
  | .finished | .ended => false

/-- It is dropped by an error. -/
def Executor.abort (e : Executor) : Executor :=
  { e with
    status :=
      match e.status with
      | .started => .aborted
      | .finished => .ended
      | status => status }

/-- A call in progress. -/
inductive Frame
  /-- A statement of the client. -/
  | statement
  /-- A block with an exception handler, and the subtransactions it is in. -/
  | block (subxacts : Nat)
  | start (i : Nat)
  | run (i : Nat)
  | finish (i : Nat)
  deriving DecidableEq, Repr

/-- The executor of a call. -/
def Frame.executor : Frame → Option Nat
  | .start i | .run i | .finish i => some i
  | .statement | .block _ => none

/-- A block with an exception handler. -/
def Frame.isBlock : Frame → Bool
  | .block _ => true
  | _ => false

/-- A transaction. -/
structure Transaction where
  executor_nest_level : Int
  /-- The setting `duckdb.unsafe_allow_execution_inside_functions`. -/
  unsafe_allow_execution_inside_functions : Bool
  /-- All executors that were started in it. -/
  executors : List Executor
  stack : List Frame
  subxacts : Nat
  /-- It is to be rolled back to a savepoint. -/
  failed : Bool
  deriving DecidableEq, Repr

namespace Transaction

/-- A transaction that begins. -/
def init (unsafe_allow : Bool) : Transaction := ⟨0, unsafe_allow, [], [], 0, false⟩

/-- There is a call for the executor. -/
def active (frames : List Frame) (i : Nat) : Bool := frames.any (·.executor = some i)

/-- A call of an executor is in progress. -/
def inExecutor (s : Transaction) : Bool := s.stack.any (·.executor.isSome)

end Transaction

/-! ## `IsAllowedStatement` -/

/-- What is checked of a query. -/
structure Query where
  hasModifyingCTE : Bool
  isSelect : Bool
  /-- Whether the table that is written is one of DuckDB, if there are tables. -/
  resultIsDuckdbTable : Option Bool
  containsCatalogTable : Bool
  deriving DecidableEq, Repr

/-- The message about DuckDB inside functions. -/
def insideFunctions : String := "DuckDB execution is not supported inside functions"

/-- `IsAllowedStatement`: the message of a refusal, if it is refused. -/
def IsAllowedStatement (s : Transaction) (didDisallowedMixedWrites : Bool) (query : Query) :
    Option String :=
  if query.hasModifyingCTE then some "DuckDB does not support modifying CTEs"
  else if !query.isSelect && query.resultIsDuckdbTable = some false then
    some "DuckDB does not support modififying Postgres tables"
  else if !query.isSelect && didDisallowedMixedWrites then
    some "Writing to DuckDB and Postgres tables in the same transaction block is not supported"
  else if s.executor_nest_level > 0 && !s.unsafe_allow_execution_inside_functions then
    some insideFunctions
  else if query.containsCatalogTable then some "DuckDB does not support querying PG catalog tables"
  else none

/-! ## Steps -/

/-- What happens next. -/
inductive Action
  /-- A statement of the client is planned. -/
  | beginStatement
  | endStatement
  /-- A statement is planned within another. -/
  | plan
  | ExecutorStart (kind : Kind)
  | ExecutorRun (i : Nat)
  | ExecutorFinish (i : Nat)
  | ExecutorEnd (i : Nat)
  /-- The call of an executor comes to its end. -/
  | leave
  | savepoint
  /-- The savepoint that is in so many subtransactions is released. -/
  | release (subxacts : Nat)
  | rollbackTo (subxacts : Nat)
  | enterBlock
  | leaveBlock
  /-- An error is raised. -/
  | error
  deriving DecidableEq, Repr

namespace Transaction

/-- The subtransactions above a number are committed. -/
def merge (s : Transaction) (subxacts : Nat) : List Executor :=
  s.executors.map fun e => { e with subxacts := min e.subxacts subxacts }

/-- The subtransactions above a number are aborted, and some calls given up. Executors that are called
below are not touched. -/
def abort (s : Transaction) (subxacts : Nat) (unwound below : List Frame) : List Executor :=
  s.executors.mapIdx fun i e =>
    if !active below i && (active unwound i || subxacts < e.subxacts) then e.abort else e

/-- An error goes to the innermost block. Without one it fails the innermost savepoint; without that
either, the transaction is over. -/
def raise (s : Transaction) : Option Transaction :=
  let unwound := s.stack.takeWhile (!·.isBlock)
  match s.stack.dropWhile (!·.isBlock) with
  | .block subxacts :: below =>
    some { s with
      executors := s.abort subxacts unwound below
      stack := below
      subxacts := subxacts }
  | _ =>
    if s.subxacts = 0 then none
    else
      some { s with
        executors := s.abort (s.subxacts - 1) unwound []
        stack := []
        failed := true }

/-- `DuckdbExecutorStartHook`, and what Postgres keeps of the executor. -/
def start (s : Transaction) (kind : Kind) : Transaction :=
  { s with
    executor_nest_level := s.executor_nest_level + 1
    executors := s.executors ++ [⟨kind, .started, s.subxacts⟩]
    stack := .start s.executors.length :: s.stack }

/-- `DuckdbExecutorFinishHook`. The level is decremented before triggers are called. -/
def finish (s : Transaction) (i : Nat) (e : Executor) : Transaction :=
  { s with
    executor_nest_level := s.executor_nest_level - 1
    executors := s.executors.set i { e with status := .finished }
    stack := .finish i :: s.stack }

/-- An executor that no call is in progress for. -/
def idle? (s : Transaction) (i : Nat) : Option Executor :=
  if s.stack = [] ∨ active s.stack i = true then none else s.executors[i]?

/-- What is left of a statement when it ends: cursors, with their readers. -/
def statementEnds (s : Transaction) : Bool :=
  s.executors.all fun e =>
    match e.status with
    | .started => e.kind = .cursor ∨ e.kind = .reader
    | .finished => false
    | .ended | .explained | .aborted => true

/-- A step of the transaction. -/
def step (s : Transaction) : Action → Option Transaction
  | .beginStatement =>
    if s.stack = [] ∧ s.failed = false then some { s with stack := [.statement] } else none
  | .endStatement =>
    if s.stack = [.statement] ∧ s.statementEnds = true then some { s with stack := [] } else none
  | .plan => if s.stack = [] then none else some s
  | .ExecutorStart kind => if s.stack = [] then none else some (s.start kind)
  | .ExecutorRun i =>
    match s.idle? i with
    | some e =>
      if e.status = .started ∧ (e.kind = .query ∨ e.kind = .cursor) then
        some { s with stack := .run i :: s.stack }
      else none
    | none => none
  | .ExecutorFinish i =>
    match s.idle? i with
    | some e => if e.status = .started ∧ e.kind ≠ .explain then some (s.finish i e) else none
    | none => none
  | .ExecutorEnd i =>
    match s.idle? i with
    | some e =>
      if e.status = .finished then
        some { s with executors := s.executors.set i { e with status := .ended } }
      else if e.status = .started ∧ e.kind = .explain then
        some { s with executors := s.executors.set i { e with status := .explained } }
      else none
    | none => none
  | .leave =>
    match s.stack with
    | f :: rest => if f.executor.isSome then some { s with stack := rest } else none
    | [] => none
  | .savepoint =>
    if s.stack = [] ∧ s.failed = false then some { s with subxacts := s.subxacts + 1 } else none
  | .release subxacts =>
    if s.stack = [] ∧ s.failed = false ∧ subxacts < s.subxacts then
      some { s with subxacts := subxacts, executors := s.merge subxacts }
    else none
  | .rollbackTo subxacts =>
    if s.stack = [] ∧ subxacts < s.subxacts then
      some { s with
        subxacts := subxacts + 1
        executors := s.abort subxacts [] []
        failed := false }
    else none
  | .enterBlock =>
    if s.stack = [] then none
    else some { s with stack := .block s.subxacts :: s.stack, subxacts := s.subxacts + 1 }
  | .leaveBlock =>
    match s.stack with
    | .block subxacts :: rest =>
      some { s with subxacts := subxacts, executors := s.merge subxacts, stack := rest }
    | _ => none
  | .error => if s.stack = [] then none else s.raise

end Transaction

/-! ## What is expected -/

/-- The level is 0 when a statement of the client is planned, and positive within an executor. -/
def Tracked (s : Transaction) (a : Action) : Prop :=
  (s.step a).isSome = true →
    match a with
    | .beginStatement => s.executor_nest_level = 0 ∧
        ∀ mixed query, IsAllowedStatement s mixed query ≠ some insideFunctions
    | .plan => s.inExecutor = true → 0 < s.executor_nest_level ∧
        (s.unsafe_allow_execution_inside_functions = false →
          ∀ mixed query, IsAllowedStatement s mixed query ≠ none)
    | _ => True

/-- Every executor was finished when a statement of the client is planned: none was only explained, or
aborted, or is that of a cursor. And within an executor one is started, or run, or at least not
finished. -/
def Finished (s : Transaction) (a : Action) : Prop :=
  (s.step a).isSome = true →
    match a with
    | .beginStatement => ∀ e ∈ s.executors, e.unfinished = false
    | .plan => s.inExecutor = true →
        (∃ i, Frame.start i ∈ s.stack ∨ Frame.run i ∈ s.stack) ∨ ∃ e ∈ s.executors, e.unfinished = true
    | _ => True

/-! ## The invariant -/

/-- The executor of a call that is not finished yet. -/
def Frame.runs : Frame → Option Nat
  | .start i | .run i => some i
  | .finish _ | .statement | .block _ => none

/-- The level counts the executors that were never finished, and those that are called have been
started. -/
structure Inv (s : Transaction) : Prop where
  level : s.executor_nest_level = (s.executors.countP Executor.unfinished : Nat)
  running : ∀ f ∈ s.stack, ∀ i, f.runs = some i → ∃ e, s.executors[i]? = some e ∧ e.status = .started

section
variable {s s' : Transaction} {i : Nat} {e : Executor}

/-- The invariant holds at the start. -/
theorem Inv.init (unsafe_allow : Bool) : Inv (.init unsafe_allow) := ⟨rfl, nofun⟩

@[simp] theorem Executor.unfinished_abort (e : Executor) : e.abort.unfinished = e.unfinished := by
  obtain ⟨kind, status, subxacts⟩ := e
  cases status <;> rfl

/-- An executor that started is not finished. -/
theorem Executor.unfinished_of_started (h : e.status = .started) : e.unfinished = true := by
  unfold Executor.unfinished
  rw [h]

/-- Replacing elements by others that count the same. -/
theorem countP_mapIdx {p : Executor → Bool} {f : Nat → Executor → Executor}
    (h : ∀ i e, p (f i e) = p e) (l : List Executor) : (l.mapIdx f).countP p = l.countP p := by
  induction l generalizing f with
  | nil => rfl
  | cons e l ih =>
    rw [List.mapIdx_cons, List.countP_cons, List.countP_cons, h, ih fun i e => h (i + 1) e]

/-- An abort leaves as many executors unfinished as there were. -/
theorem countP_abort (subxacts : Nat) (unwound below : List Frame) :
    (s.abort subxacts unwound below).countP Executor.unfinished =
      s.executors.countP Executor.unfinished := by
  refine countP_mapIdx (fun i e => ?_) s.executors
  split
  · exact e.unfinished_abort
  · rfl

/-- The end of a subtransaction leaves as many executors unfinished as there were. -/
theorem countP_merge (subxacts : Nat) :
    (s.merge subxacts).countP Executor.unfinished = s.executors.countP Executor.unfinished := by
  unfold Transaction.merge
  rw [List.countP_map]
  rfl

/-- The number of unfinished executors after one of them has changed. -/
theorem countP_set (h : s.executors[i]? = some e) (e' : Executor) :
    (s.executors.set i e').countP Executor.unfinished + (if e.unfinished then 1 else 0) =
      s.executors.countP Executor.unfinished + if e'.unfinished then 1 else 0 := by
  obtain ⟨hlt, hget⟩ := List.getElem?_eq_some_iff.1 h
  have hpos : e.unfinished = true → 0 < s.executors.countP Executor.unfinished := fun hunfinished =>
    List.countP_pos_iff.2 ⟨e, List.mem_of_getElem? h, hunfinished⟩
  rw [List.countP_set hlt, hget]
  cases hunfinished : e.unfinished with
  | false => simp
  | true =>
    have := hpos hunfinished
    simp only [if_true]
    omega

/-- The executor of a frame that runs one. -/
theorem Frame.executor_of_runs {f : Frame} (h : f.runs = some i) : f.executor = some i := by
  cases f <;> first | exact h | cases h

/-- A frame that runs an executor makes it active. -/
theorem active_of_runs {frames : List Frame} {f : Frame} (hf : f ∈ frames) (h : f.runs = some i) :
    Transaction.active frames i = true :=
  List.any_eq_true.2 ⟨f, hf, decide_eq_true (Frame.executor_of_runs h)⟩

/-- An idle executor is in its list and in no frame. -/
theorem idle?_eq_some (h : s.idle? i = some e) :
    Transaction.active s.stack i = false ∧ s.executors[i]? = some e := by
  unfold Transaction.idle? at h
  split at h
  · cases h
  · rename_i hnot
    exact ⟨Bool.eq_false_iff.2 fun hactive => hnot (.inr hactive), h⟩

/-! ## The steps keep it -/

/-- Executors that are called below, or further calls. -/
theorem Inv.of_stack (h : Inv s) (hlevel : s'.executor_nest_level = s.executor_nest_level)
    (hexecutors : s'.executors = s.executors) (hstack : ∀ f ∈ s'.stack, f ∈ s.stack ∨ f.runs = none) :
    Inv s' := by
  refine ⟨by rw [hlevel, hexecutors, h.level], fun f hf j hj => ?_⟩
  rw [hexecutors]
  obtain hf | hnone := hstack f hf
  · exact h.running f hf j hj
  · rw [hnone] at hj
    cases hj

/-- An executor that starts keeps the invariant. -/
theorem Inv.start (h : Inv s) (kind : Kind) : Inv (s.start kind) := by
  refine ⟨?_, fun f hf j hj => ?_⟩
  · unfold Transaction.start
    dsimp only
    rw [h.level, List.countP_append]
    rfl
  · cases hf with
    | head =>
      cases hj
      exact ⟨_, List.getElem?_concat_length, rfl⟩
    | tail _ hf =>
      obtain ⟨e, hget, hstatus⟩ := h.running f hf j hj
      have hlt := (List.getElem?_eq_some_iff.1 hget).1
      exact ⟨e, (List.getElem?_append_left hlt).trans hget, hstatus⟩

/-- An executor that is not called changes. -/
theorem running_set (h : Inv s) (hidle : Transaction.active s.stack i = false) (e' : Executor)
    {f : Frame} (hf : f ∈ s.stack) {j : Nat} (hj : f.runs = some j) :
    ∃ e, (s.executors.set i e')[j]? = some e ∧ e.status = .started := by
  obtain ⟨e, hget, hstatus⟩ := h.running f hf j hj
  have hne : i ≠ j := by
    rintro rfl
    rw [active_of_runs hf hj] at hidle
    cases hidle
  exact ⟨e, (List.getElem?_set_ne hne).trans hget, hstatus⟩

/-- An executor that finishes keeps the invariant. -/
theorem Inv.finish (h : Inv s) (hidle : Transaction.active s.stack i = false)
    (hget : s.executors[i]? = some e) (hstatus : e.status = .started) : Inv (s.finish i e) := by
  refine ⟨?_, fun f hf j hj => ?_⟩
  · have hcount := countP_set hget { e with status := .finished }
    rw [Executor.unfinished_of_started hstatus] at hcount
    have hlevel := h.level
    unfold Transaction.finish
    simp only [Executor.unfinished, if_true] at hcount ⊢
    simp only [Bool.false_eq_true, if_false] at hcount
    omega
  · cases hf with
    | head => cases hj
    | tail _ hf => exact running_set h hidle _ hf hj

/-- An executor that ends keeps the invariant. -/
theorem Inv.end (h : Inv s) (hidle : Transaction.active s.stack i = false)
    (hget : s.executors[i]? = some e) {e' : Executor} (hunfinished : e'.unfinished = e.unfinished) :
    Inv { s with executors := s.executors.set i e' } := by
  refine ⟨?_, fun f hf j hj => running_set h hidle _ hf hj⟩
  have hcount := countP_set hget e'
  have hlevel := h.level
  rw [hunfinished] at hcount
  dsimp only
  omega

/-- A subtransaction that ends well keeps the invariant. -/
theorem Inv.merge (h : Inv s) (subxacts : Nat) (hexecutors : s'.executors = s.merge subxacts)
    (hlevel : s'.executor_nest_level = s.executor_nest_level) (hstack : ∀ f ∈ s'.stack, f ∈ s.stack) :
    Inv s' := by
  refine ⟨by rw [hlevel, hexecutors, countP_merge, h.level], fun f hf j hj => ?_⟩
  obtain ⟨e, hget, hstatus⟩ := h.running f (hstack f hf) j hj
  refine ⟨{ e with subxacts := min e.subxacts subxacts }, ?_, hstatus⟩
  rw [hexecutors]
  unfold Transaction.merge
  rw [List.getElem?_map, hget]
  rfl

/-- An abort keeps the invariant. -/
theorem Inv.abort (h : Inv s) (subxacts : Nat) (unwound : List Frame)
    (hexecutors : s'.executors = s.abort subxacts unwound s'.stack)
    (hlevel : s'.executor_nest_level = s.executor_nest_level) (hstack : ∀ f ∈ s'.stack, f ∈ s.stack) :
    Inv s' := by
  refine ⟨by rw [hlevel, hexecutors, countP_abort, h.level], fun f hf j hj => ?_⟩
  obtain ⟨e, hget, hstatus⟩ := h.running f (hstack f hf) j hj
  refine ⟨e, ?_, hstatus⟩
  rw [hexecutors]
  unfold Transaction.abort
  rw [List.getElem?_mapIdx, hget, active_of_runs hf hj]
  rfl

/-- An error keeps the invariant. -/
theorem Inv.raise (h : Inv s) (hraise : s.raise = some s') : Inv s' := by
  have hsuffix : ∀ f ∈ s.stack.dropWhile (!·.isBlock), f ∈ s.stack := fun f hf =>
    List.dropWhile_sublist _ |>.subset hf
  unfold Transaction.raise at hraise
  dsimp only at hraise
  split at hraise
  · rename_i subxacts below hblock
    cases hraise
    refine h.abort subxacts _ rfl rfl fun f hf => hsuffix f ?_
    rw [hblock]
    exact List.mem_cons_of_mem _ hf
  · split at hraise
    · cases hraise
    · cases hraise
      exact h.abort _ _ rfl rfl nofun

/-- An executor that no call is in progress for, and what a step does to it. -/
theorem inv_of_idle {f : Executor → Option Transaction}
    (hstep : (match s.idle? i with | some e => f e | none => none) = some s')
    (hf : ∀ e, Transaction.active s.stack i = false → s.executors[i]? = some e → f e = some s' →
      Inv s') : Inv s' := by
  cases hidle : s.idle? i with
  | none =>
    rw [hidle] at hstep
    cases hstep
  | some e =>
    rw [hidle] at hstep
    obtain ⟨hactive, hget⟩ := idle?_eq_some hidle
    exact hf e hactive hget hstep

/-- A step keeps the invariant. -/
theorem Inv.step {a : Action} (h : Inv s) (hstep : s.step a = some s') : Inv s' := by
  cases a with
  | beginStatement =>
    obtain ⟨-, hs⟩ := Option.ite_none_right_eq_some.1 hstep
    cases hs
    exact h.of_stack rfl rfl (by simp [Frame.runs])
  | endStatement =>
    obtain ⟨-, hs⟩ := Option.ite_none_right_eq_some.1 hstep
    cases hs
    exact h.of_stack rfl rfl nofun
  | plan =>
    obtain ⟨-, hs⟩ := Option.ite_none_left_eq_some.1 hstep
    cases hs
    exact h
  | ExecutorStart kind =>
    obtain ⟨-, hs⟩ := Option.ite_none_left_eq_some.1 hstep
    cases hs
    exact h.start kind
  | ExecutorRun j =>
    refine inv_of_idle hstep fun e _ hget hs => ?_
    obtain ⟨⟨hstatus, -⟩, hs⟩ := Option.ite_none_right_eq_some.1 hs
    cases hs
    refine ⟨h.level, fun f hf k hk => ?_⟩
    cases hf with
    | head =>
      cases hk
      exact ⟨e, hget, hstatus⟩
    | tail _ hf => exact h.running f hf k hk
  | ExecutorFinish j =>
    refine inv_of_idle hstep fun e hactive hget hs => ?_
    obtain ⟨⟨hstatus, -⟩, hs⟩ := Option.ite_none_right_eq_some.1 hs
    cases hs
    exact h.finish hactive hget hstatus
  | ExecutorEnd j =>
    refine inv_of_idle hstep fun e hactive hget hs => ?_
    split at hs
    · rename_i hstatus
      cases hs
      exact h.end hactive hget (by simp [Executor.unfinished, hstatus])
    · obtain ⟨⟨hstatus, -⟩, hs⟩ := Option.ite_none_right_eq_some.1 hs
      cases hs
      exact h.end hactive hget (by simp [Executor.unfinished, hstatus])
  | leave =>
    rw [Transaction.step] at hstep
    split at hstep
    · rename_i f rest hstack
      obtain ⟨-, hs⟩ := Option.ite_none_right_eq_some.1 hstep
      cases hs
      exact h.of_stack rfl rfl fun f hf => .inl (hstack ▸ List.mem_cons_of_mem _ hf)
    · cases hstep
  | savepoint =>
    obtain ⟨-, hs⟩ := Option.ite_none_right_eq_some.1 hstep
    cases hs
    exact h.of_stack rfl rfl fun f hf => .inl hf
  | release subxacts =>
    obtain ⟨-, hs⟩ := Option.ite_none_right_eq_some.1 hstep
    cases hs
    exact h.merge subxacts rfl rfl fun f hf => hf
  | rollbackTo subxacts =>
    obtain ⟨⟨hstack, -⟩, hs⟩ := Option.ite_none_right_eq_some.1 hstep
    cases hs
    refine h.abort subxacts [] ?_ rfl fun f hf => hf
    dsimp only
    rw [hstack]
  | enterBlock =>
    obtain ⟨-, hs⟩ := Option.ite_none_left_eq_some.1 hstep
    cases hs
    refine h.of_stack rfl rfl fun f hf => ?_
    cases hf with
    | head => exact .inr rfl
    | tail _ hf => exact .inl hf
  | leaveBlock =>
    rw [Transaction.step] at hstep
    split at hstep
    · rename_i subxacts rest hstack
      cases hstep
      exact h.merge subxacts rfl rfl fun f hf => hstack ▸ List.mem_cons_of_mem _ hf
    · cases hstep
  | error =>
    obtain ⟨-, hs⟩ := Option.ite_none_left_eq_some.1 hstep
    exact h.raise hs

/-! ## When it holds -/

/-- The nest level is positive just while an executor is unfinished. -/
theorem Inv.level_pos_iff (h : Inv s) :
    0 < s.executor_nest_level ↔ ∃ e ∈ s.executors, e.unfinished = true := by
  rw [h.level, Int.natCast_pos, List.countP_pos_iff]

/-- The nest level is zero just while every executor has finished. -/
theorem Inv.level_eq_zero_iff (h : Inv s) :
    s.executor_nest_level = 0 ↔ ∀ e ∈ s.executors, e.unfinished = false := by
  rw [h.level, Int.natCast_eq_zero, List.countP_eq_zero]
  exact forall₂_congr fun e _ => iff_of_eq (Bool.not_eq_true _)

/-- At level 0 a statement is not refused for being inside a function. -/
theorem IsAllowedStatement_ne_insideFunctions (h : s.executor_nest_level = 0) (mixed : Bool)
    (query : Query) : IsAllowedStatement s mixed query ≠ some insideFunctions := by
  unfold IsAllowedStatement
  simp only [h, gt_iff_lt, Int.lt_irrefl, decide_false, Bool.false_and, Bool.false_eq_true, if_false]
  repeat' split
  all_goals decide

/-- At a positive level it is not accepted. -/
theorem IsAllowedStatement_ne_none (h : 0 < s.executor_nest_level)
    (hsetting : s.unsafe_allow_execution_inside_functions = false) (mixed : Bool) (query : Query) :
    IsAllowedStatement s mixed query ≠ none := by
  unfold IsAllowedStatement
  rw [hsetting, decide_eq_true h]
  repeat' split
  all_goals first | exact Option.some_ne_none _ | contradiction

/-- An executor that is started or run has not been finished. -/
theorem Inv.unfinished_of_runs (h : Inv s)
    (hruns : ∃ i, Frame.start i ∈ s.stack ∨ Frame.run i ∈ s.stack) :
    ∃ e ∈ s.executors, e.unfinished = true := by
  obtain ⟨i, hstart | hrun⟩ := hruns
  · obtain ⟨e, hget, hstatus⟩ := h.running _ hstart i rfl
    exact ⟨e, List.mem_of_getElem? hget, Executor.unfinished_of_started hstatus⟩
  · obtain ⟨e, hget, hstatus⟩ := h.running _ hrun i rfl
    exact ⟨e, List.mem_of_getElem? hget, Executor.unfinished_of_started hstatus⟩

/-- A trigger that the only unfinished executor calls when it finishes is not refused. -/
theorem accepted_in_trigger (h : Inv s) (hidle : s.idle? i = some e) (hstatus : e.status = .started)
    (hothers : ∀ j e', j ≠ i → s.executors[j]? = some e' → e'.unfinished = false) (mixed : Bool)
    (query : Query) : IsAllowedStatement (s.finish i e) mixed query ≠ some insideFunctions := by
  obtain ⟨hactive, hget⟩ := idle?_eq_some hidle
  have hinv : Inv (s.finish i e) := h.finish hactive hget hstatus
  refine IsAllowedStatement_ne_insideFunctions (hinv.level_eq_zero_iff.2 fun e' he' => ?_) mixed query
  obtain ⟨j, hj⟩ := List.mem_iff_getElem?.1 he'
  have hj : (s.executors.set i { e with status := .finished })[j]? = some e' := hj
  by_cases hij : i = j
  · rw [← hij, List.getElem?_set_self (List.getElem?_eq_some_iff.1 hget).1] at hj
    cases hj
    rfl
  · rw [List.getElem?_set_ne hij] at hj
    exact hothers j e' (Ne.symm hij) hj

/-- The variables track exactly the executors that finished. -/
theorem Inv.tracked_iff_finished (h : Inv s) (a : Action) : Tracked s a ↔ Finished s a := by
  unfold Tracked Finished
  refine imp_congr_right fun _ => ?_
  cases a with
  | beginStatement =>
    dsimp only
    rw [← h.level_eq_zero_iff]
    exact ⟨fun htracked => htracked.1,
      fun hlevel => ⟨hlevel, IsAllowedStatement_ne_insideFunctions hlevel⟩⟩
  | plan =>
    refine imp_congr_right fun _ => ?_
    constructor
    · intro htracked
      exact .inr (h.level_pos_iff.1 htracked.1)
    · intro hfinished
      have hlevel : 0 < s.executor_nest_level :=
        h.level_pos_iff.2 (hfinished.elim h.unfinished_of_runs id)
      exact ⟨hlevel, IsAllowedStatement_ne_none hlevel⟩
  | _ => exact Iff.rfl

end

/-- In a run of a transaction the level is what it is expected to be at every statement that is planned, if
and only if every executor was finished when a statement of the client is planned, and none is planned by
a trigger of an executor that is finished already, with no other. -/
theorem tracked_iff (unsafe_allow : Bool) (actions : List Action) :
    AllowedRun Transaction.step Tracked (.init unsafe_allow) actions ↔
      AllowedRun Transaction.step Finished (.init unsafe_allow) actions := by
  constructor
  · intro h
    exact h.imp (Inv.init unsafe_allow) (fun _ _ _ hinv _ hstep => hinv.step hstep)
      fun s a hinv htracked => (hinv.tracked_iff_finished a).1 htracked
  · intro h
    exact h.imp (Inv.init unsafe_allow) (fun _ _ _ hinv _ hstep => hinv.step hstep)
      fun s a hinv hfinished => (hinv.tracked_iff_finished a).2 hfinished

/-- `BEGIN; EXPLAIN SELECT ...` and then another statement. -/
theorem not_tracked :
    ¬AllowedRun Transaction.step Tracked (.init false)
      [.beginStatement, .ExecutorStart .explain, .leave, .ExecutorEnd 0, .endStatement,
        .beginStatement] := by
  rintro ⟨-, h⟩
  obtain ⟨-, h⟩ := h _ rfl
  obtain ⟨-, h⟩ := h _ rfl
  obtain ⟨-, h⟩ := h _ rfl
  obtain ⟨-, h⟩ := h _ rfl
  obtain ⟨htracked, -⟩ := h _ rfl
  exact absurd (htracked rfl).1 (by decide)

end PgDuckdb.Nesting
