import Mathlib.Logic.Function.Basic
import PgDuckdb.Basic
import PgDuckdb.Lib.History
import PgDuckdb.Lib.Run

/-!
# The activity of the background worker

A backend that plans a DuckDB query tells the background worker of its database so
(`TriggerActivity`): under the lock it counts the activity up in the entry of the database in shared
memory, and sets the latch of the worker. The worker reads the count in every round of its loop, and runs
a query on its connection when the count is not the one of the round before (`BackgroundWorkerCheck`).

Any number of workers of any number of databases may be started, end, fail or be terminated at any time,
and every step here is one that the processes cannot see the middle of: a section under the lock, or code
that only the process itself looks at. A worker that ends with an error removes its entry
(`PG_FINALLY`); one that is terminated does not, and a backend may go on to count up the entry it has
left behind.
-/

namespace PgDuckdb.Activity

/-! ## The processes -/

/-- The entry of a database in `BackgroundWorkerShmemStruct::statePerDB`. -/
structure BgwStatePerDB (L : Type) where
  /-- An `int64` in the source, which nobody counts to the end of. -/
  activity_count : Int
  bgw_session_hint_is_reused : Bool
  latch : L
  deriving DecidableEq, Repr

/-- A latch, as Postgres keeps one for each process slot. -/
structure Latch (P : Type) where
  is_set : Bool
  /-- The worker that has the slot. -/
  owner : Option P

/-- Where a worker is in its code. -/
inductive Pc
  /-- In `pgduckdb_background_worker_main`, before `CanTakeBgwLockForDatabase`. -/
  | main
  /-- Before `SetBackgroundWorkerState`. -/
  | locked
  /-- At the head of the loop of `BgwMainLoop`. -/
  | loop
  /-- In `BackgroundWorkerCheck`, before the section under the lock. -/
  | check
  /-- Before the query that the activity asks for. -/
  | activity
  /-- Before `SyncMotherDuckCatalogsWithPg_Cpp`. -/
  | sync
  /-- Behind `RunOneCheck`, that got to read the count or not. -/
  | commit (counted : Bool)
  /-- In `WaitLatch`. -/
  | wait (counted : Bool)
  /-- Before `ResetLatch`. -/
  | reset
  /-- Before the `PG_FINALLY` block of `pgduckdb_background_worker_main`. -/
  | pgFinally
  | exit
  deriving DecidableEq, Repr

/-- The worker has got the lock on the file of its database. -/
def Pc.hasLock : Pc → Bool
  | .main | .exit => false
  | _ => true

/-- The worker is between `SetBackgroundWorkerState` and the removal of its entry. -/
def Pc.entered : Pc → Bool
  | .main | .locked | .exit => false
  | _ => true

/-- The worker is in the `while` loop. -/
def Pc.inLoop : Pc → Bool
  | .main | .locked | .pgFinally | .exit => false
  | _ => true

/-- The variables of one worker. -/
structure Worker (L : Type) where
  /-- `main_arg`, and `MyDatabaseId` from then on. -/
  database_oid : Oid
  MyLatch : L
  pc : Pc
  /-- There is a `ddb_connection`. -/
  ddb_connection : Bool
  last_activity_count : Int
  deriving DecidableEq

/-- The workers, the latches, the lock files and the shared memory. -/
structure State (P L : Type) where
  workers : P → Option (Worker L)
  latches : L → Latch P
  /-- The process that has the lock on `pgduckdb_worker.<database_oid>`. -/
  lockFile : Oid → Option P
  statePerDB : Oid → Option (BgwStatePerDB L)

/-- What `RunOneCheck` finds out about the world. -/
structure Answers where
  IsMotherDuckEnabled : Bool
  IsExtensionRegistered : Bool
  /-- `CreateConnection` does not throw. -/
  CreateConnection : Bool
  deriving DecidableEq

section
variable {P L : Type}

/-- `RunOneCheck`, up to `BackgroundWorkerCheck`. Where it says that the worker should exit, the loop is
left. -/
def RunOneCheck (answers : Answers) (w : Worker L) : Worker L :=
  if !answers.IsMotherDuckEnabled then { w with pc := .pgFinally }
  else if !answers.IsExtensionRegistered then { w with pc := .commit false }
  else if !w.ddb_connection && !answers.CreateConnection then { w with pc := .pgFinally }
  else { w with ddb_connection := true, pc := .check }

/-- The section of `BackgroundWorkerCheck` under the lock and the comparison behind it. Without an entry
`GetState` raises an error. -/
def BackgroundWorkerCheck (state : Option (BgwStatePerDB L)) (w : Worker L) : Worker L :=
  match state with
  | none => { w with pc := .pgFinally }
  | some state =>
    if w.last_activity_count ≠ state.activity_count then
      { w with last_activity_count := state.activity_count, pc := .activity }
    else { w with pc := .sync }

variable [DecidableEq P] [DecidableEq L]

/-! ## What the processes share -/

/-- Nothing has happened yet. -/
def State.initial : State P L where
  workers _ := none
  latches _ := { is_set := false, owner := none }
  lockFile _ := none
  statePerDB _ := none

/-- Sets the state of a worker. -/
def State.setWorker (s : State P L) (p : P) (w : Worker L) : State P L :=
  { s with workers := Function.update s.workers p (some w) }

/-- Sets a latch, or resets it. -/
def State.setLatch (s : State P L) (l : L) (is_set : Bool) : State P L :=
  { s with latches := Function.update s.latches l { s.latches l with is_set := is_set } }

/-- Sets the entry of a database, or removes it. -/
def State.setEntry (s : State P L) (database_oid : Oid) (entry : Option (BgwStatePerDB L)) : State P L :=
  { s with statePerDB := Function.update s.statePerDB database_oid entry }

/-- A process ends: its slot and its locks are free again. -/
def State.release (s : State P L) (p : P) (w : Worker L) : State P L where
  workers := Function.update s.workers p none
  latches := Function.update s.latches w.MyLatch { s.latches w.MyLatch with owner := none }
  lockFile :=
    if s.lockFile w.database_oid = some p then Function.update s.lockFile w.database_oid none
    else s.lockFile
  statePerDB := s.statePerDB

/-- `SetBackgroundWorkerState` in a worker with this latch. -/
def SetBackgroundWorkerState (MyLatch : L) : BgwStatePerDB L where
  activity_count := 0
  bgw_session_hint_is_reused := false
  latch := MyLatch

/-- `TriggerActivity` in a backend of the database, when MotherDuck is enabled. -/
def TriggerActivity (s : State P L) (database_oid : Oid) : State P L :=
  match s.statePerDB database_oid with
  | none => s
  | some state =>
    (s.setEntry database_oid (some { state with activity_count := state.activity_count + 1 })).setLatch
      state.latch true

/-! ## The steps -/

/-- The steps in which a worker changes only its own variables. -/
inductive LocalAction
  | RunOneCheck (answers : Answers)
  | BackgroundWorkerCheck
  /-- The query that the activity asks for, which may fail. -/
  | query (succeeds : Bool)
  | SyncMotherDuckCatalogsWithPg
  | CommitTransactionCommand
  /-- `WaitLatch` returns: the latch is set, or a second is over. -/
  | WaitLatch
  /-- Anything in the loop raises an error. -/
  | error
  deriving DecidableEq

/-- The worker takes the step where it has got so far, with this entry of its database. -/
def localStep (state : Option (BgwStatePerDB L)) (w : Worker L) : LocalAction → Option (Worker L)
  | .RunOneCheck answers => if w.pc = .loop then some (RunOneCheck answers w) else none
  | .BackgroundWorkerCheck => if w.pc = .check then some (BackgroundWorkerCheck state w) else none
  | .query succeeds =>
    if w.pc = .activity then some { w with pc := if succeeds then .sync else .pgFinally } else none
  | .SyncMotherDuckCatalogsWithPg =>
    if w.pc = .sync then some { w with pc := .commit true } else none
  | .CommitTransactionCommand =>
    match w.pc with
    | .commit counted => some { w with pc := .wait counted }
    | _ => none
  | .WaitLatch =>
    match w.pc with
    | .wait _ => some { w with pc := .reset }
    | _ => none
  | .error => if w.pc.inLoop then some { w with pc := .pgFinally } else none

/-- A step of a worker, of a backend, or of Postgres. -/
inductive Action (P L : Type)
  /-- Postgres starts a worker in a free slot. -/
  | start (p : P) (database_oid : Oid) (slot : L)
  | CanTakeBgwLockForDatabase (p : P)
  | SetBackgroundWorkerState (p : P)
  | run (p : P) (action : LocalAction)
  | ResetLatch (p : P)
  /-- `die`, at whichever point the worker looks: nothing of its own runs any more. -/
  | terminate (p : P)
  | pgFinally (p : P)
  | exit (p : P)
  | TriggerActivity (database_oid : Oid)
  /-- Postgres sets a latch, for a reason of its own. -/
  | setLatch (slot : L)
  /-- A latch is reset outside the loop: by another process that has the slot, or by a wait inside the
  queries of the worker. -/
  | resetLatch (slot : L)
  deriving DecidableEq

/-- The worker `p`, if it is there and at this point of its code. -/
def State.at (s : State P L) (p : P) (pc : Pc) : Option (Worker L) :=
  (s.workers p).filter fun w => w.pc = pc

/-- A step of the system. -/
def step (s : State P L) : Action P L → Option (State P L)
  | .start p database_oid slot =>
    if s.workers p = none ∧ (s.latches slot).owner = none then
      some { s with
        workers := Function.update s.workers p
          (some ⟨database_oid, slot, .main, false, -1⟩)
        latches := Function.update s.latches slot { is_set := true, owner := some p } }
    else none
  | .CanTakeBgwLockForDatabase p =>
    (s.at p .main).map fun w =>
      if s.lockFile w.database_oid = none then
        { s.setWorker p { w with pc := .locked } with
          lockFile := Function.update s.lockFile w.database_oid (some p) }
      else s.setWorker p { w with pc := .exit }
  | .SetBackgroundWorkerState p =>
    (s.at p .locked).map fun w =>
      (s.setWorker p { w with pc := .loop, last_activity_count := -1 }).setEntry w.database_oid
        (some (SetBackgroundWorkerState w.MyLatch))
  | .run p action =>
    (s.workers p).bind fun w =>
      (localStep (s.statePerDB w.database_oid) w action).map fun w' => s.setWorker p w'
  | .ResetLatch p =>
    (s.at p .reset).map fun w => (s.setWorker p { w with pc := .loop }).setLatch w.MyLatch false
  | .terminate p => (s.workers p).map fun w => s.release p w
  | .pgFinally p =>
    (s.at p .pgFinally).map fun w => (s.setWorker p { w with pc := .exit }).setEntry w.database_oid none
  | .exit p => (s.at p .exit).map fun w => s.release p w
  | .TriggerActivity database_oid => some (TriggerActivity s database_oid)
  | .setLatch slot => some (s.setLatch slot true)
  | .resetLatch slot => some (s.setLatch slot false)

/-! ## What happens in a run -/

/-- What is logged of a step. -/
inductive Event
  | triggered (database_oid : Oid)
  /-- The worker has read the count. -/
  | read (database_oid : Oid)
  /-- The query that the activity asks for has succeeded. -/
  | queried (database_oid : Oid)
  /-- The worker goes on to the sync. -/
  | checked (database_oid : Oid)
  deriving DecidableEq, Repr

/-- The event of a worker's own step. -/
def localEvent (w : Worker L) : LocalAction → Option Event
  | .BackgroundWorkerCheck => some (.read w.database_oid)
  | .query succeeds => if succeeds then some (.queried w.database_oid) else none
  | .SyncMotherDuckCatalogsWithPg => some (.checked w.database_oid)
  | .RunOneCheck _ | .CommitTransactionCommand | .WaitLatch | .error => none

/-- The event of a step. -/
def event (s : State P L) : Action P L → Option Event
  | .TriggerActivity database_oid => some (.triggered database_oid)
  | .run p action => (s.workers p).bind fun w => localEvent w action
  | _ => none

/-! ## What a worker does on its own -/

omit [DecidableEq P] [DecidableEq L] in
/-- A worker that stands somewhere. -/
theorem State.at_eq_some {s : State P L} {p : P} {pc : Pc} {w : Worker L} :
    s.at p pc = some w ↔ s.workers p = some w ∧ w.pc = pc := by
  simp [State.at, Option.filter_eq_some_iff]

omit [DecidableEq L] in
/-- The workers after one is set. -/
theorem State.setWorker_eq_some {s : State P L} {p q : P} {w v : Worker L} :
    (s.setWorker p w).workers q = some v ↔ (q = p ∧ v = w) ∨ (q ≠ p ∧ s.workers q = some v) := by
  by_cases h : q = p
  · simp [State.setWorker, h, eq_comm]
  · simp [State.setWorker, h]

/-- What all the steps of a worker on its own have in common. -/
structure Frame (state : Option (BgwStatePerDB L)) (w w' : Worker L) : Prop where
  database : w'.database_oid = w.database_oid
  latch : w'.MyLatch = w.MyLatch
  inLoop : w.pc.inLoop = true
  entered : w'.pc.entered = true
  count : w'.last_activity_count = w.last_activity_count ∨
    w'.last_activity_count ∈ state.map (·.activity_count)

omit [DecidableEq P] [DecidableEq L] in
/-- A step that only moves the worker on in its code. -/
theorem Frame.of_pc {state : Option (BgwStatePerDB L)} {w : Worker L} {pc : Pc}
    (h : w.pc.inLoop = true) (hpc : pc.entered = true) : Frame state w { w with pc := pc } :=
  ⟨rfl, rfl, h, hpc, .inl rfl⟩

omit [DecidableEq P] [DecidableEq L] in
/-- A worker's own step changes what the frame says, and no more. -/
theorem frame_of_localStep {state : Option (BgwStatePerDB L)} {w w' : Worker L} {action : LocalAction}
    (h : localStep state w action = some w') : Frame state w w' := by
  cases action with
  | RunOneCheck answers =>
    obtain ⟨hpc, rfl⟩ : w.pc = .loop ∧ RunOneCheck answers w = w' := by simpa [localStep] using h
    have hin : w.pc.inLoop = true := by rw [hpc]; rfl
    unfold RunOneCheck
    split
    · exact .of_pc hin rfl
    split
    · exact .of_pc hin rfl
    split
    · exact .of_pc hin rfl
    · exact ⟨rfl, rfl, hin, rfl, .inl rfl⟩
  | BackgroundWorkerCheck =>
    obtain ⟨hpc, rfl⟩ : w.pc = .check ∧ BackgroundWorkerCheck state w = w' := by
      simpa [localStep] using h
    have hin : w.pc.inLoop = true := by rw [hpc]; rfl
    unfold BackgroundWorkerCheck
    split
    · exact .of_pc hin rfl
    split
    · exact ⟨rfl, rfl, hin, rfl, .inr rfl⟩
    · exact .of_pc hin rfl
  | query succeeds =>
    obtain ⟨hpc, rfl⟩ : w.pc = .activity ∧
        { w with pc := if succeeds then .sync else .pgFinally } = w' := by simpa [localStep] using h
    have hin : w.pc.inLoop = true := by rw [hpc]; rfl
    cases succeeds <;> exact .of_pc hin rfl
  | SyncMotherDuckCatalogsWithPg =>
    obtain ⟨hpc, rfl⟩ : w.pc = .sync ∧ { w with pc := .commit true } = w' := by
      simpa [localStep] using h
    exact .of_pc (by rw [hpc]; rfl) rfl
  | CommitTransactionCommand =>
    simp only [localStep] at h
    split at h
    · next hpc =>
      cases h
      exact .of_pc (by rw [hpc]; rfl) rfl
    · cases h
  | WaitLatch =>
    simp only [localStep] at h
    split at h
    · next hpc =>
      cases h
      exact .of_pc (by rw [hpc]; rfl) rfl
    · cases h
  | error =>
    obtain ⟨hpc, rfl⟩ : w.pc.inLoop = true ∧ { w with pc := .pgFinally } = w' := by
      simpa [localStep] using h
    exact .of_pc hpc rfl

/-! ## Small facts about the shared state -/

/-- The workers after one has left. -/
theorem State.release_eq_some {s : State P L} {p q : P} {w v : Worker L} :
    (s.release p w).workers q = some v ↔ q ≠ p ∧ s.workers q = some v := by
  by_cases h : q = p
  · simp [State.release, h]
  · simp [State.release, h]

omit [DecidableEq L] in
@[simp]
theorem State.setWorker_statePerDB (s : State P L) (p : P) (w : Worker L) :
    (s.setWorker p w).statePerDB = s.statePerDB := rfl

omit [DecidableEq P] in
@[simp]
theorem State.setLatch_workers (s : State P L) (l : L) (b : Bool) :
    (s.setLatch l b).workers = s.workers := rfl

omit [DecidableEq P] in
@[simp]
theorem State.setLatch_lockFile (s : State P L) (l : L) (b : Bool) :
    (s.setLatch l b).lockFile = s.lockFile := rfl

omit [DecidableEq P] in
@[simp]
theorem State.setLatch_statePerDB (s : State P L) (l : L) (b : Bool) :
    (s.setLatch l b).statePerDB = s.statePerDB := rfl

omit [DecidableEq P] in
@[simp]
theorem State.setLatch_owner (s : State P L) (l m : L) (b : Bool) :
    ((s.setLatch l b).latches m).owner = (s.latches m).owner := by
  by_cases h : m = l
  · simp [State.setLatch, h]
  · simp [State.setLatch, h]

omit [DecidableEq P] in
/-- Whether a latch is set after one was. -/
theorem State.setLatch_is_set (s : State P L) (l m : L) (b : Bool) :
    ((s.setLatch l b).latches m).is_set = if m = l then b else (s.latches m).is_set := by
  by_cases h : m = l
  · simp [State.setLatch, h]
  · simp [State.setLatch, h]

/-- A worker that leaves sets no latch. -/
theorem State.release_is_set (s : State P L) (p : P) (w : Worker L) (l : L) :
    ((s.release p w).latches l).is_set = (s.latches l).is_set := by
  by_cases h : l = w.MyLatch
  · simp [State.release, h]
  · simp [State.release, h]

omit [DecidableEq P] in
@[simp]
theorem TriggerActivity_workers (s : State P L) (database_oid : Oid) :
    (TriggerActivity s database_oid).workers = s.workers := by
  unfold TriggerActivity
  split <;> rfl

omit [DecidableEq P] in
@[simp]
theorem TriggerActivity_lockFile (s : State P L) (database_oid : Oid) :
    (TriggerActivity s database_oid).lockFile = s.lockFile := by
  unfold TriggerActivity
  split <;> rfl

omit [DecidableEq P] in
@[simp]
theorem TriggerActivity_owner (s : State P L) (database_oid : Oid) (l : L) :
    ((TriggerActivity s database_oid).latches l).owner = (s.latches l).owner := by
  unfold TriggerActivity
  split
  · rfl
  · rw [State.setLatch_owner]
    rfl

omit [DecidableEq P] in
/-- A trigger counts the entry of its database up, and no other. -/
theorem TriggerActivity_statePerDB (s : State P L) (database_oid other : Oid) :
    (TriggerActivity s database_oid).statePerDB other =
      if other = database_oid then
        (s.statePerDB other).map fun state =>
          { state with activity_count := state.activity_count + 1 }
      else s.statePerDB other := by
  unfold TriggerActivity
  by_cases h : other = database_oid
  · subst h
    split
    · next hnone => simp [hnone]
    · next state hsome => simp [hsome, State.setEntry]
  · split
    · simp [h]
    · simp [h, State.setEntry]

omit [DecidableEq P] in
/-- It sets the latch in the entry, and leaves every other latch alone. -/
theorem TriggerActivity_is_set (s : State P L) (database_oid : Oid) (l : L) :
    ((TriggerActivity s database_oid).latches l).is_set =
      ((s.latches l).is_set || ((s.statePerDB database_oid).map (·.latch) == some l)) := by
  unfold TriggerActivity
  split
  · next hnone => simp [hnone]
  · next state hsome =>
    rw [State.setLatch_is_set, hsome]
    by_cases h : l = state.latch
    · simp [h]
    · simp [h, Ne.symm h, State.setEntry]

end

end PgDuckdb.Activity
