import Mathlib.Logic.Function.Iterate
import PgDuckdb.Lib.Run

/-!
# The session hint of the background worker

One ordinary backend of a database at a time shares the MotherDuck session of the background worker.
That it does is a boolean of its process, that somebody does is a flag in the worker's entry in shared
memory, and the two are set and cleared together (`PossiblyReuseBgwSessionHint`,
`UnclaimBgwSessionHint`). But `SetBackgroundWorkerState` clears the flag of a new worker whatever the
processes say. So the hint has one borrower exactly in the runs in which no worker starts while a
backend holds it (`oneBorrower_iff`).

The processes take their steps in any order; each call is one step.
-/

namespace PgDuckdb.SessionHint

open Lib (StepsOk)

/-! ## The functions -/

/-- The globals of one process. -/
structure Process where
  reused_bgw_session_hint : Bool
  /-- Nothing ever sets it. -/
  set_up_unclaim_session_hint_hook : Bool
  /-- How often `before_shmem_exit` has registered `UnclaimBgwSessionHint`. -/
  exitHooks : Nat
  deriving DecidableEq, Repr

/-- A backend before it asks for the hint. -/
def Process.initial : Process where
  reused_bgw_session_hint := false
  set_up_unclaim_session_hint_hook := false
  exitHooks := 0

/-- The entry of the database in shared memory, `FindState()` when there is one. -/
structure BgwStatePerDB where
  bgw_session_hint_is_reused : Bool
  deriving DecidableEq, Repr

/-- What a process sees: its globals and the shared entry. -/
structure View where
  process : Process
  entry : Option BgwStatePerDB
  deriving DecidableEq, Repr

/-- `SetBackgroundWorkerState`, which finds the entry of the database or makes one. -/
def SetBackgroundWorkerState (_entry : Option BgwStatePerDB) : Option BgwStatePerDB :=
  some { bgw_session_hint_is_reused := false }

/-- The part of `PossiblyReuseBgwSessionHint` under the lock: the process claims a hint that is not
reused. -/
def View.claim (v : View) : View :=
  match v.entry with
  | some state =>
    if state.bgw_session_hint_is_reused = false then
      { process := { v.process with reused_bgw_session_hint := true }
        entry := some { state with bgw_session_hint_is_reused := true } }
    else v
  | none => v

/-- `PossiblyReuseBgwSessionHint`, with the hint it returns. -/
def PossiblyReuseBgwSessionHint (is_background_worker : Bool) (bgw_session_hint : String)
    (v : View) : String × View :=
  if is_background_worker || v.process.reused_bgw_session_hint then (bgw_session_hint, v)
  else
    let v := v.claim
    let result := if v.process.reused_bgw_session_hint then bgw_session_hint else ""
    if v.process.reused_bgw_session_hint && !v.process.set_up_unclaim_session_hint_hook then
      (result, { v with process := { v.process with exitHooks := v.process.exitHooks + 1 } })
    else (result, v)

/-- `UnclaimBgwSessionHint`. -/
def UnclaimBgwSessionHint (v : View) : View :=
  if v.process.reused_bgw_session_hint = false then v
  else
    { process := { v.process with reused_bgw_session_hint := false }
      entry := v.entry.map fun state => { state with bgw_session_hint_is_reused := false } }

/-- The end of a process: the hooks run, and its globals are gone. -/
def View.exit (v : View) : View :=
  { UnclaimBgwSessionHint^[v.process.exitHooks] v with process := .initial }

/-! ## The backends and the worker -/

/-- The processes of one database. -/
structure State (β : Type) where
  backends : β → Process
  worker : Process
  entry : Option BgwStatePerDB

/-- An action of a backend or of a worker. -/
inductive Action (β : Type)
  /-- A backend connects to MotherDuck. -/
  | possiblyReuse (p : β)
  /-- A backend resets DuckDB. -/
  | unclaim (p : β)
  | exit (p : β)
  /-- A worker starts, the first one or the next. -/
  | workerStart
  | workerReuse
  | workerUnclaim
  /-- The worker's main loop is left and the entry removed. A worker that is terminated does not get
  there, and needs no step. -/
  | workerExit
  deriving DecidableEq

section
variable {β : Type} [DecidableEq β]

/-- Nothing has been asked for yet. -/
def State.initial : State β where
  backends _ := .initial
  worker := .initial
  entry := none

/-- The backend `p` runs a function. -/
def State.run (s : State β) (p : β) (f : View → View) : State β :=
  let v := f ⟨s.backends p, s.entry⟩
  { s with backends := Function.update s.backends p v.process, entry := v.entry }

/-- The worker runs a function. -/
def State.runWorker (s : State β) (f : View → View) : State β :=
  let v := f ⟨s.worker, s.entry⟩
  { s with worker := v.process, entry := v.entry }

variable (bgw_session_hint : String)

/-- A step of the system. -/
def step (s : State β) : Action β → State β
  | .possiblyReuse p => s.run p fun v => (PossiblyReuseBgwSessionHint false bgw_session_hint v).2
  | .unclaim p => s.run p UnclaimBgwSessionHint
  | .exit p => s.run p View.exit
  | .workerStart => { s with worker := .initial, entry := SetBackgroundWorkerState s.entry }
  | .workerReuse => s.runWorker fun v => (PossiblyReuseBgwSessionHint true bgw_session_hint v).2
  | .workerUnclaim => s.runWorker UnclaimBgwSessionHint
  | .workerExit => { s with entry := none }

end

/-! ## What the functions do -/

section
variable (bgw_session_hint : String)

/-- A process that holds the hint has no reason to ask the shared entry. -/
theorem PossiblyReuse_of_reused {v : View} (h : v.process.reused_bgw_session_hint = true) :
    (PossiblyReuseBgwSessionHint false bgw_session_hint v).2 = v := by
  simp [PossiblyReuseBgwSessionHint, h]

/-- One that does not hold it leaves everything alone, or it claims a hint that is not reused. -/
theorem PossiblyReuse_cases {v : View} (h : v.process.reused_bgw_session_hint = false) :
    (PossiblyReuseBgwSessionHint false bgw_session_hint v).2 = v ∨
      v.entry = some ⟨false⟩ ∧
        (PossiblyReuseBgwSessionHint false bgw_session_hint v).2.entry = some ⟨true⟩ := by
  obtain ⟨process, entry⟩ := v
  obtain ⟨reused, hook, hooks⟩ := process
  obtain rfl : reused = false := h
  cases entry with
  | none => exact .inl rfl
  | some state =>
    obtain ⟨flag⟩ := state
    cases flag with
    | true => exact .inl rfl
    | false => cases hook <;> exact .inr ⟨rfl, rfl⟩

/-- The hint is returned to the worker and to the backend that holds it afterwards. -/
theorem PossiblyReuse_result (is_background_worker : Bool) (v : View) :
    (PossiblyReuseBgwSessionHint is_background_worker bgw_session_hint v).1 =
      if is_background_worker ||
          (PossiblyReuseBgwSessionHint is_background_worker bgw_session_hint
            v).2.process.reused_bgw_session_hint then bgw_session_hint
      else "" := by
  unfold PossiblyReuseBgwSessionHint
  cases is_background_worker with
  | true => rfl
  | false =>
    cases h : v.process.reused_bgw_session_hint with
    | true => simp [h]
    | false =>
      cases hclaim : v.claim.process.reused_bgw_session_hint <;>
        cases hhook : v.claim.process.set_up_unclaim_session_hint_hook <;> simp [hclaim, hhook]

end

/-- Only a process that holds the hint changes anything when it gives it up. -/
theorem UnclaimBgwSessionHint_of_not_reused {v : View}
    (h : v.process.reused_bgw_session_hint = false) : UnclaimBgwSessionHint v = v := by
  rw [UnclaimBgwSessionHint, if_pos h]

/-- Afterwards it does not hold the hint. -/
theorem UnclaimBgwSessionHint_reused (v : View) :
    (UnclaimBgwSessionHint v).process.reused_bgw_session_hint = false := by
  unfold UnclaimBgwSessionHint
  split
  · assumption
  · rfl

/-- A process that ends leaves the entry as it was, or it gives up the hint. -/
theorem View.exit_cases (v : View) : v.exit = { v with process := .initial } ∨
    v.process.reused_bgw_session_hint = true ∧
      v.exit = { UnclaimBgwSessionHint v with process := .initial } := by
  unfold View.exit
  cases hr : v.process.reused_bgw_session_hint with
  | false =>
    refine .inl ?_
    rw [Function.iterate_fixed (UnclaimBgwSessionHint_of_not_reused hr)]
  | true =>
    cases v.process.exitHooks with
    | zero => exact .inl rfl
    | succ n =>
      refine .inr ⟨rfl, ?_⟩
      rw [Function.iterate_succ_apply,
        Function.iterate_fixed (UnclaimBgwSessionHint_of_not_reused (UnclaimBgwSessionHint_reused v))]

/-! ## One borrower -/

section
variable {β : Type} [DecidableEq β]

/-- The backend holds the hint. -/
def State.Holds (s : State β) (p : β) : Prop := (s.backends p).reused_bgw_session_hint = true

/-- No two backends hold the hint, and the entry knows of one that does. -/
structure OneBorrower (s : State β) : Prop where
  unique : ∀ p q, s.Holds p → s.Holds q → p = q
  flag : ∀ state, s.entry = some state → ∀ p, s.Holds p → state.bgw_session_hint_is_reused = true

/-- What a backend may do to what it sees, from `v` to `v'`: claim a hint that is not reused, give up
one that it holds, or neither. -/
def Moves (v v' : View) : Prop :=
  (v.entry = some ⟨false⟩ ∧ v'.entry = some ⟨true⟩) ∨
    (v.process.reused_bgw_session_hint = true ∧ v'.process.reused_bgw_session_hint = false) ∨
    (v'.entry = v.entry ∧
      (v'.process.reused_bgw_session_hint = true → v.process.reused_bgw_session_hint = true))

/-- A backend that asks for the hint claims a free one or nothing. -/
theorem moves_possiblyReuse (bgw_session_hint : String) (v : View) :
    Moves v (PossiblyReuseBgwSessionHint false bgw_session_hint v).2 := by
  cases hr : v.process.reused_bgw_session_hint with
  | true =>
    rw [PossiblyReuse_of_reused bgw_session_hint hr]
    exact .inr (.inr ⟨rfl, fun h => h⟩)
  | false =>
    rcases PossiblyReuse_cases bgw_session_hint hr with heq | hclaim
    · rw [heq]
      exact .inr (.inr ⟨rfl, fun h => h⟩)
    · exact .inl hclaim

/-- A backend that gives up the hint gives up its own. -/
theorem moves_unclaim (v : View) : Moves v (UnclaimBgwSessionHint v) := by
  cases hr : v.process.reused_bgw_session_hint with
  | true => exact .inr (.inl ⟨hr, UnclaimBgwSessionHint_reused v⟩)
  | false =>
    rw [UnclaimBgwSessionHint_of_not_reused hr]
    exact .inr (.inr ⟨rfl, fun h => h⟩)

/-- A backend that exits gives up its own hint. -/
theorem moves_exit (v : View) : Moves v v.exit := by
  rcases v.exit_cases with heq | ⟨hr, heq⟩ <;> rw [heq]
  · exact .inr (.inr ⟨rfl, fun h => by cases h⟩)
  · exact .inr (.inl ⟨hr, rfl⟩)

/-- Whether the backend that ran holds the hint. -/
theorem holds_run_self (s : State β) (p : β) (f : View → View) :
    (s.run p f).Holds p ↔ (f ⟨s.backends p, s.entry⟩).process.reused_bgw_session_hint = true := by
  simp [State.Holds, State.run]

/-- A step of one backend leaves the others what they hold. -/
theorem holds_run_of_ne (s : State β) {p q : β} (h : q ≠ p) (f : View → View) :
    (s.run p f).Holds q ↔ s.Holds q := by
  simp [State.Holds, State.run, h]

/-- A backend that claims, gives up or keeps leaves the hint with one borrower. -/
theorem OneBorrower.run {s : State β} (h : OneBorrower s) (p : β) (f : View → View)
    (hf : Moves ⟨s.backends p, s.entry⟩ (f ⟨s.backends p, s.entry⟩)) :
    OneBorrower (s.run p f) := by
  have hentry : (s.run p f).entry = (f ⟨s.backends p, s.entry⟩).entry := rfl
  rcases hf with ⟨hfree, hclaimed⟩ | ⟨hheld, hgiven⟩ | ⟨hsame, hreused⟩
  · -- Nobody else held it, or the flag would have been set.
    have hnone : ∀ q, ¬ s.Holds q := fun q hq => absurd (h.flag _ hfree q hq) Bool.false_ne_true
    have honly : ∀ q, (s.run p f).Holds q → q = p := by
      intro q hq
      by_contra hne
      exact hnone q ((holds_run_of_ne s hne f).1 hq)
    refine ⟨fun q r hq hr => (honly q hq).trans (honly r hr).symm, fun state hstate q _ => ?_⟩
    rw [hentry, hclaimed] at hstate
    cases hstate
    rfl
  · have hnone : ∀ q, ¬ (s.run p f).Holds q := by
      intro q hq
      by_cases hqp : q = p
      · subst hqp
        exact absurd (hgiven.symm.trans ((holds_run_self s q f).1 hq)) Bool.false_ne_true
      · exact hqp (h.unique q p ((holds_run_of_ne s hqp f).1 hq) hheld)
    exact ⟨fun q _ hq => absurd hq (hnone q), fun _ _ q hq => absurd hq (hnone q)⟩
  · have hback : ∀ q, (s.run p f).Holds q → s.Holds q := by
      intro q hq
      by_cases hqp : q = p
      · subst hqp
        exact hreused ((holds_run_self s q f).1 hq)
      · exact (holds_run_of_ne s hqp f).1 hq
    refine ⟨fun q r hq hr => h.unique q r (hback q hq) (hback r hr), fun state hstate q hq => ?_⟩
    rw [hentry, hsame] at hstate
    exact h.flag state hstate q (hback q hq)

/-- No backend holds the hint when a worker starts. -/
def StartsFree (s : State β) (a : Action β) : Prop := a = .workerStart → ∀ p, ¬ s.Holds p

variable (bgw_session_hint : String)

/-- A step that meets the condition leaves the hint with one borrower. -/
theorem OneBorrower.step {s : State β} (h : OneBorrower s)
    (hworker : s.worker.reused_bgw_session_hint = false) {a : Action β} (ha : StartsFree s a) :
    OneBorrower (step bgw_session_hint s a) ∧
      (step bgw_session_hint s a).worker.reused_bgw_session_hint = false := by
  cases a with
  | possiblyReuse p =>
    exact ⟨h.run p (fun v => (PossiblyReuseBgwSessionHint false bgw_session_hint v).2)
      (moves_possiblyReuse bgw_session_hint _), hworker⟩
  | unclaim p => exact ⟨h.run p _ (moves_unclaim _), hworker⟩
  | exit p => exact ⟨h.run p _ (moves_exit _), hworker⟩
  | workerStart =>
    have hnone := ha rfl
    exact ⟨⟨fun p _ hp => absurd hp (hnone p), fun _ _ p hp => absurd hp (hnone p)⟩, rfl⟩
  | workerReuse => exact ⟨h, hworker⟩
  | workerUnclaim =>
    have hsame : SessionHint.step bgw_session_hint s .workerUnclaim = s := by
      rw [SessionHint.step, State.runWorker, UnclaimBgwSessionHint_of_not_reused (by exact hworker)]
    rw [hsame]
    exact ⟨h, hworker⟩
  | workerExit => exact ⟨⟨h.unique, fun _ hstate => by cases hstate⟩, hworker⟩

omit [DecidableEq β] in
/-- Nobody holds the hint at the start. -/
theorem oneBorrower_initial : OneBorrower (State.initial : State β) where
  unique p q hp := by cases hp
  flag state hstate := by cases hstate

/-- In a run of any number of backends and of the worker, the hint has one borrower after every step,
of whom the shared entry knows, if and only if no worker starts while a backend holds the hint. -/
theorem oneBorrower_iff (actions : List (Action β)) :
    StepsOk (step bgw_session_hint) (fun s a => OneBorrower (step bgw_session_hint s a))
        State.initial actions ↔
      StepsOk (step bgw_session_hint) StartsFree State.initial actions := by
  constructor
  · intro h
    refine h.imp (I := fun _ => True) trivial (fun _ _ _ _ => trivial) fun s a _ hok ha p hp => ?_
    subst ha
    exact absurd (hok.flag _ rfl p hp) Bool.false_ne_true
  · intro h
    refine h.imp
      (I := fun s => OneBorrower s ∧ s.worker.reused_bgw_session_hint = false)
      ⟨oneBorrower_initial, rfl⟩ ?_ ?_
    · exact fun s a hs ha => hs.1.step bgw_session_hint hs.2 ha
    · exact fun s a hs ha => (hs.1.step bgw_session_hint hs.2 ha).1

end

/-- A backend claims the hint; the worker ends and another one starts, whose entry does not know of the
claim; then a second backend claims the hint too. -/
theorem not_oneBorrower :
    ¬ ∀ (bgw_session_hint : String) (actions : List (Action Nat)),
      OneBorrower (actions.foldl (step bgw_session_hint) State.initial) := by
  intro h
  have hone := h "0f8fad5b-d9cb-469f-a165-70867728950e"
    [.workerStart, .possiblyReuse 1, .workerExit, .workerStart, .possiblyReuse 2]
  exact absurd (hone.unique 1 2 rfl rfl) (by decide)

end PgDuckdb.SessionHint
