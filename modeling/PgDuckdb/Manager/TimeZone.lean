import PgDuckdb.Manager.Initialize

/-!
# The time zone of Postgres and of DuckDB

Postgres calls `DuckAssignTimezone` whenever it gives `TimeZone` a value, be it by `SET`, by `RESET`, by
the configuration file or because a transaction ends. It lets Postgres switch its zone first; then, if the
extension is registered and DuckDB initialised, it has DuckDB switch too. So the zones part when DuckDB
rejects the zone (`rejected`), and when the registration cannot be told, as at the end of a transaction
whose invalidations were processed (`unnoticed`). `inStep_of_run` is that they stay in step otherwise.

What Postgres and DuckDB make of the name of a zone is a parameter. The settings of a transaction are
saved and restored as in Postgres's `guc.c`, for one level of transactions.
-/

namespace PgDuckdb.Manager

open Lib (Ensures StepsOk)

namespace TimeZone

/-- Time zones, for Postgres and for DuckDB. -/
structure Zones (Zone : Type) where
  /-- `check_timezone`: the zone that a setting stands for. -/
  check_timezone : List Char → Option Zone
  /-- `pg_get_timezone_name`. -/
  pg_get_timezone_name : Zone → List Char
  /-- The zone that DuckDB understands by a name, if it does not reject it. -/
  duckdb : List Char → Option Zone

section
variable {Zone : Type}

/-! ## The setting -/

/-- A value of `TimeZone`, with the zone that the check hook found. -/
structure Value (Zone : Type) where
  newval : List Char
  extra : Zone
  /-- The address of the string. -/
  ptr : Nat
  /-- It was set in the session, by `SET`. -/
  session : Bool

/-- What has been done to the setting in the transaction (`GucStackState`). -/
inductive StackState (Zone : Type)
  | GUC_SET
  | GUC_LOCAL
  | GUC_SET_LOCAL (masked : Value Zone)

/-- `GucStack`. -/
structure GucStack (Zone : Type) where
  state : StackState Zone
  prior : Value Zone

/-- Where the transaction stands. -/
inductive XactState
  | idle
  | inProgress
  /-- An error has been raised, and the transaction is to be aborted. -/
  | failing
  /-- It has been aborted, and the end of its block is waited for. -/
  | aborted
  deriving DecidableEq

/-- What the settings and the connection of a backend hold. -/
structure State (Zone : Type) where
  /-- `session_timezone`. -/
  session_timezone : Zone
  /-- `TimeZone`. -/
  timezone_string : Value Zone
  reset_val : Value Zone
  stack : Option (GucStack Zone)
  nextPtr : Nat
  xact : XactState
  /-- `cache.valid`, of a database in which the extension is created. -/
  cacheValid : Bool
  manager : DuckDBManager

/-- Programs of the backend. -/
abbrev ZoneM (Zone : Type) := EStateM PgError (State Zone)

/-- The surroundings of a call. -/
inductive Context
  /-- Outside a transaction, or while one ends. -/
  | noTransaction
  /-- In an aborted transaction block. -/
  | aborted
  /-- In a transaction, without a snapshot or a portal. -/
  | noSnapshot
  | portal
  deriving DecidableEq

/-- What `IsExtensionRegistered` says of an extension that is created. -/
def State.registered (s : State Zone) (ctx : Context) : Bool :=
  s.cacheValid || ctx = .noSnapshot || ctx = .portal

/-- `IsExtensionRegistered`: it fills the cache where it can. -/
def IsExtensionRegistered (ctx : Context) : ZoneM Zone Bool := do
  let s ← get
  if ctx = .portal then modify fun s => { s with cacheValid := true }
  return s.registered ctx

variable (z : Zones Zone)

/-- DuckDB's error for a zone that it does not know. -/
def unknownTimeZone : PgError where
  errmsg := "Not implemented Error: Unknown TimeZone"

/-- `DuckAssignTimezone_Cpp`. -/
def DuckAssignTimezone_Cpp (ctx : Context) (tz : List Char) : ZoneM Zone Unit := do
  let registered ← IsExtensionRegistered ctx
  if registered then
    if (← get).manager.IsInitialized then
      if (z.duckdb tz).isNone then throw unknownTimeZone
      modify fun s => { s with manager := s.manager.onInstance fun i => { i with timeZone := tz } }

/-- `DuckAssignTimezone`, whose first act is Postgres's own hook. -/
def DuckAssignTimezone (ctx : Context) (v : Value Zone) : ZoneM Zone Unit := do
  modify fun s => { s with session_timezone := v.extra }
  DuckAssignTimezone_Cpp z ctx (z.pg_get_timezone_name v.extra)

/-- Postgres assigns a value: the hook, and then the variable. -/
def assign (ctx : Context) (v : Value Zone) : ZoneM Zone Unit := do
  DuckAssignTimezone z ctx v
  modify fun s => { s with timezone_string := v }

/-! ## What Postgres does with it -/

/-- The stack after `push_old_value`. -/
def State.pushed (s : State Zone) (is_local : Bool) : GucStack Zone :=
  match s.stack with
  | none => ⟨if is_local then .GUC_LOCAL else .GUC_SET, s.timezone_string⟩
  | some stack =>
    if is_local then
      match stack.state with
      | .GUC_SET => { stack with state := .GUC_SET_LOCAL s.timezone_string }
      | _ => stack
    else { stack with state := .GUC_SET }

/-- `push_old_value`. -/
def push_old_value (is_local : Bool) : ZoneM Zone Unit :=
  modify fun s => { s with stack := some (s.pushed is_local) }

/-- The error for a setting that is no time zone. -/
def invalidValue : PgError where
  errmsg := "invalid value for parameter \"TimeZone\""

/-- A new value, if the check hook accepts it. -/
def newValue (newval : List Char) (session : Bool) : ZoneM Zone (Value Zone) := do
  match z.check_timezone newval with
  | some extra =>
    let ptr := (← get).nextPtr
    modify fun s => { s with nextPtr := s.nextPtr + 1 }
    return ⟨newval, extra, ptr, session⟩
  | none => throw invalidValue

/-- `SET TimeZone` and `SET LOCAL TimeZone`. -/
def setTimeZone (newval : List Char) (is_local : Bool) : ZoneM Zone Unit := do
  let v ← newValue z newval true
  push_old_value is_local
  assign z .portal v

/-- `RESET TimeZone`. -/
def resetTimeZone : ZoneM Zone Unit := do
  push_old_value false
  assign z .portal (← get).reset_val

/-- The value of a setting that was not made in the session. -/
def Value.replaceUnlessSession (old v : Value Zone) : Value Zone := if old.session then old else v

/-- `TimeZone` of the configuration file, after it has been changed. -/
def reload (ctx : Context) (newval : List Char) : ZoneM Zone Unit := do
  let v ← newValue z newval false
  if (← get).timezone_string.session = false then assign z ctx v
  modify fun s =>
    { s with
      reset_val := v
      stack := s.stack.map fun stack => { stack with prior := stack.prior.replaceUnlessSession v } }

/-- The value that `AtEOXact_GUC` restores. -/
def GucStack.restored (stack : GucStack Zone) (isCommit : Bool) : Option (Value Zone) :=
  if isCommit then
    match stack.state with
    | .GUC_SET => none
    | .GUC_LOCAL => some stack.prior
    | .GUC_SET_LOCAL masked => some masked
  else some stack.prior

/-- The value that the end of the transaction assigns: the one it restores, unless the variable has it. -/
def State.reverted (s : State Zone) (isCommit : Bool) : Option (Value Zone) :=
  match s.stack with
  | none => none
  | some stack => (stack.restored isCommit).filter fun v => v.ptr ≠ s.timezone_string.ptr

/-- `AtEOXact_GUC`. -/
def AtEOXact_GUC (isCommit : Bool) : ZoneM Zone Unit := do
  if let some v := (← get).reverted isCommit then assign z .noTransaction v
  modify fun s => { s with stack := none }

/-! ## The runs of a backend -/

/-- An action of the client or of the configuration. -/
inductive Action
  | startTransaction
  | set (newval : List Char) (is_local : Bool)
  | resetSetting
  /-- The configuration file is reloaded with a new `TimeZone`. -/
  | reload (newval : List Char)
  | commit
  /-- `ROLLBACK`, or the abort after an error. -/
  | rollback
  | endBlock
  | invalidate
  /-- A statement asks whether the extension is registered. -/
  | fillCache
  /-- A statement uses DuckDB. -/
  | get (env : Environment)
  | resetManager

/-- It gives `TimeZone` a value. -/
def Action.assigns : Action → Bool
  | .set _ _ | .resetSetting | .reload _ | .commit | .rollback => true
  | _ => false

/-- The state after a program, and whether it has completed. -/
def run (p : ZoneM Zone Unit) (s : State Zone) : State Zone × Bool :=
  match p.run s with
  | .ok _ s' => (s', true)
  | .error _ s' => (s', false)

/-- What an initialisation meets: `GetConfigOption("TimeZone")`, and DuckDB's answer to it. -/
def State.environment (s : State Zone) (env : Environment) : Environment :=
  { env with
    pg_time_zone := s.timezone_string.newval
    query := fun q =>
      if q = setTimeZoneQuery s.timezone_string.newval ∧ (z.duckdb s.timezone_string.newval).isNone
      then some unknownTimeZone
      else env.query q }

/-- Where the configuration file is reloaded between two commands. -/
def State.reloadContext (s : State Zone) : Option Context :=
  match s.xact with
  | .idle => some .noTransaction
  | .inProgress => some .noSnapshot
  | .failing => none
  | .aborted => some .aborted

/-- A statement fails with the error of its assignment. -/
def failing (r : State Zone × Bool) : State Zone × Bool :=
  if r.2 then r else ({ r.1 with xact := .failing }, false)

/-- The state after a step, and whether it has completed. What is not possible does nothing. -/
def step (s : State Zone) : Action → State Zone × Bool
  | .startTransaction => if s.xact = .idle then ({ s with xact := .inProgress }, true) else (s, true)
  | .set newval is_local =>
    if s.xact = .inProgress then failing (run (setTimeZone z newval is_local) s) else (s, true)
  | .resetSetting => if s.xact = .inProgress then failing (run (resetTimeZone z) s) else (s, true)
  | .reload newval =>
    match s.reloadContext with
    | some ctx => run (TimeZone.reload z ctx newval) s
    | none => (s, true)
  | .commit =>
    if s.xact = .inProgress then run (AtEOXact_GUC z true) { s with xact := .idle } else (s, true)
  | .rollback =>
    if s.xact = .inProgress then run (AtEOXact_GUC z false) { s with xact := .idle }
    else if s.xact = .failing then run (AtEOXact_GUC z false) { s with xact := .aborted }
    else (s, true)
  | .endBlock => if s.xact = .aborted then ({ s with xact := .idle }, true) else (s, true)
  | .invalidate => ({ s with cacheValid := false }, true)
  | .fillCache => if s.xact = .inProgress then ({ s with cacheValid := true }, true) else (s, true)
  | .get env =>
    if s.xact = .inProgress then
      match (Get (s.environment z env)).run s.manager with
      | .ok _ m => ({ s with manager := m }, true)
      | .error _ m => ({ s with manager := m, xact := .failing }, false)
    else (s, true)
  | .resetManager => ({ s with manager := stateAfter Reset s.manager }, true)

/-- A backend that has just started, with the value of `TimeZone` that it starts with. -/
def State.initial (newval : List Char) (extra : Zone) : State Zone where
  session_timezone := extra
  timezone_string := ⟨newval, extra, 0, false⟩
  reset_val := ⟨newval, extra, 0, false⟩
  stack := none
  nextPtr := 1
  xact := .idle
  cacheValid := false
  manager := .initial

/-- Postgres's zone, the setting and DuckDB's zone are the same. -/
structure InStep (s : State Zone) : Prop where
  setting : z.check_timezone s.timezone_string.newval = some s.session_timezone
  duckdb : ∀ i, s.manager.database = some i → z.duckdb i.timeZone = some s.session_timezone

/-- The three are as they were. -/
structure Unchanged (s s' : State Zone) : Prop where
  session_timezone : s'.session_timezone = s.session_timezone
  setting : s'.timezone_string = s.timezone_string
  duckdb : s'.manager.database.map (·.timeZone) = s.manager.database.map (·.timeZone)

/-- After a step that completes the zones are in step, and an assignment that ends in an error has
changed nothing. -/
def KeepsStep (s : State Zone) (a : Action) : Prop :=
  ((step z s a).2 = true → InStep z (step z s a).1) ∧
    ((step z s a).2 = false → a.assigns = true → Unchanged s (step z s a).1)

/-- DuckDB, if there is an instance, is told of the zone and understands it. -/
def Follows (s : State Zone) (ctx : Context) (extra : Zone) : Prop :=
  s.manager.IsInitialized = true →
    s.registered ctx = true ∧ z.duckdb (z.pg_get_timezone_name extra) = some extra

/-- An initialisation makes no instance, or gives it the zone of the setting. -/
def TakesZone (s : State Zone) (env : Environment) : Prop :=
  env.prepare ≠ none ∨ (∃ e, env.open_database = .error e) ∨
    (env.register = none ∧ env.connect = none ∧ env.default_database = none ∧
      env.query (setTimeZoneQuery s.timezone_string.newval) = none ∧
      z.duckdb s.timezone_string.newval = some s.session_timezone)

/-- The condition of a step: DuckDB follows every zone that is assigned in it, and takes the zone when
it is initialised. -/
def DuckdbFollows (s : State Zone) : Action → Prop
  | .set newval _ => s.xact = .inProgress → ∀ extra, z.check_timezone newval = some extra →
      Follows z s .portal extra
  | .resetSetting => s.xact = .inProgress → Follows z s .portal s.reset_val.extra
  | .reload newval => s.timezone_string.session = false → ∀ ctx, s.reloadContext = some ctx →
      ∀ extra, z.check_timezone newval = some extra → Follows z s ctx extra
  | .commit => s.xact = .inProgress → ∀ v, s.reverted true = some v →
      Follows z s .noTransaction v.extra
  | .rollback => s.xact = .inProgress ∨ s.xact = .failing → ∀ v, s.reverted false = some v →
      Follows z s .noTransaction v.extra
  | .get env => s.xact = .inProgress → s.manager.IsInitialized = false → TakesZone z s env
  | _ => True

/-! ## What the programs do -/

section
variable {z} {s : State Zone}

/-- The state after an assignment that DuckDB follows. -/
def State.assigned (z : Zones Zone) (s : State Zone) (ctx : Context) (v : Value Zone) : State Zone :=
  { s with
    session_timezone := v.extra
    timezone_string := v
    cacheValid := s.cacheValid || ctx = .portal
    manager := s.manager.onInstance fun i => { i with timeZone := z.pg_get_timezone_name v.extra } }

/-- The run of the test for the extension. -/
theorem IsExtensionRegistered_run (ctx : Context) :
    (IsExtensionRegistered ctx).run s =
      .ok (s.registered ctx) { s with cacheValid := s.cacheValid || ctx = .portal } := by
  obtain ⟨_, _, _, _, _, _, cacheValid, _⟩ := s
  cases ctx <;> cases cacheValid <;> rfl

/-- The assign hook, where DuckDB follows. -/
theorem assign_run {ctx : Context} {v : Value Zone} (h : Follows z s ctx v.extra) :
    (assign z ctx v).run s = .ok () (s.assigned z ctx v) := by
  have hregistered : ∀ tz : Zone,
      State.registered { s with session_timezone := tz } ctx = s.registered ctx := fun _ => rfl
  cases hi : s.manager.IsInitialized with
  | false =>
    cases hr : s.registered ctx <;>
      simp [assign, DuckAssignTimezone, DuckAssignTimezone_Cpp, IsExtensionRegistered_run,
        hregistered, hr, hi, State.assigned, DuckDBManager.onInstance_of_not_initialized hi]
  | true =>
    obtain ⟨hr, hduckdb⟩ := h hi
    simp [assign, DuckAssignTimezone, DuckAssignTimezone_Cpp, IsExtensionRegistered_run,
      hregistered, hr, hi, hduckdb, State.assigned]

/-- A new value that passes the check. -/
theorem newValue_run {newval : List Char} {extra : Zone} (h : z.check_timezone newval = some extra)
    (session : Bool) :
    (newValue z newval session).run s =
      .ok ⟨newval, extra, s.nextPtr, session⟩ { s with nextPtr := s.nextPtr + 1 } := by
  simp only [newValue, h]
  rfl

/-- A new value that the check refuses. -/
theorem newValue_run_of_none {newval : List Char} (h : z.check_timezone newval = none)
    (session : Bool) : (newValue z newval session).run s = .error invalidValue s := by
  simp only [newValue, h]
  rfl

/-- The end of a transaction that changed nothing. -/
theorem AtEOXact_GUC_run_of_none {isCommit : Bool} (h : s.reverted isCommit = none) :
    (AtEOXact_GUC z isCommit).run s = .ok () { s with stack := none } := by
  simp [AtEOXact_GUC, h]

/-- The end of a transaction, where DuckDB follows. -/
theorem AtEOXact_GUC_run {isCommit : Bool} {v : Value Zone} (h : s.reverted isCommit = some v)
    (hv : Follows z s .noTransaction v.extra) :
    (AtEOXact_GUC z isCommit).run s =
      .ok () { s.assigned z .noTransaction v with stack := none } := by
  simp [AtEOXact_GUC, h, assign_run hv]

/-! ## The invariant -/

/-- The check hook has found the zone of the value. -/
def Value.Checked (z : Zones Zone) (v : Value Zone) : Prop := z.check_timezone v.newval = some v.extra

/-- So it has for the values that are saved. -/
structure GucStack.Checked (z : Zones Zone) (stack : GucStack Zone) : Prop where
  prior : stack.prior.Checked z
  masked : ∀ masked, stack.state = .GUC_SET_LOCAL masked → masked.Checked z

/-- What every state of the backend has. -/
structure Inv (z : Zones Zone) (s : State Zone) : Prop where
  zone : s.timezone_string.extra = s.session_timezone
  setting : s.timezone_string.Checked z
  reset_val : s.reset_val.Checked z
  stack : ∀ stack, s.stack = some stack → stack.Checked z
  duckdb : ∀ i, s.manager.database = some i → z.duckdb i.timeZone = some s.session_timezone

/-- Under the invariant the two sides are in step. -/
theorem Inv.inStep (h : Inv z s) : InStep z s where
  setting := by rw [← h.zone]; exact h.setting
  duckdb := h.duckdb

/-- The invariant holds at the start. -/
theorem inv_initial {newval : List Char} {extra : Zone} (h : z.check_timezone newval = some extra) :
    Inv z (State.initial newval extra) where
  zone := rfl
  setting := h
  reset_val := h
  stack _ hstack := nomatch hstack
  duckdb _ hi := nomatch hi

/-- Changes of the rest of the state. -/
theorem Inv.frame (h : Inv z s) {s' : State Zone} (hzone : s'.session_timezone = s.session_timezone)
    (hsetting : s'.timezone_string = s.timezone_string) (hreset : s'.reset_val = s.reset_val)
    (hstack : ∀ stack, s'.stack = some stack → stack.Checked z) (hmanager : s'.manager = s.manager) :
    Inv z s' where
  zone := by rw [hsetting, hzone]; exact h.zone
  setting := by rw [hsetting]; exact h.setting
  reset_val := by rw [hreset]; exact h.reset_val
  stack := hstack
  duckdb := by rw [hmanager, hzone]; exact h.duckdb

/-- An assignment that DuckDB follows. -/
theorem Inv.assigned (h : Inv z s) {ctx : Context} {v : Value Zone} (hv : v.Checked z)
    (hfollows : Follows z s ctx v.extra) : Inv z (s.assigned z ctx v) where
  zone := rfl
  setting := hv
  reset_val := h.reset_val
  stack := h.stack
  duckdb i hi := by
    obtain ⟨i', hi', rfl⟩ := Option.map_eq_some_iff.1 hi
    exact (hfollows (by rw [DuckDBManager.IsInitialized, hi']; rfl)).2

/-- The value that is put aside has been checked. -/
theorem Inv.pushed (h : Inv z s) (is_local : Bool) : (s.pushed is_local).Checked z := by
  unfold State.pushed
  cases hstack : s.stack with
  | none =>
    refine ⟨h.setting, fun masked hmasked => ?_⟩
    cases is_local <;> cases hmasked
  | some stack =>
    have hchecked := h.stack stack hstack
    obtain ⟨state, prior⟩ := stack
    cases is_local with
    | false => exact ⟨hchecked.prior, fun masked hmasked => nomatch hmasked⟩
    | true =>
      cases state with
      | GUC_SET =>
        refine ⟨hchecked.prior, fun masked hmasked => ?_⟩
        cases hmasked
        exact h.setting
      | GUC_LOCAL => exact ⟨hchecked.prior, fun masked hmasked => nomatch hmasked⟩
      | GUC_SET_LOCAL masked' => exact ⟨hchecked.prior, hchecked.masked⟩

/-- What the end of a transaction restores has been checked. -/
theorem Inv.reverted (h : Inv z s) {isCommit : Bool} {v : Value Zone}
    (hv : s.reverted isCommit = some v) : v.Checked z := by
  unfold State.reverted at hv
  cases hstack : s.stack with
  | none =>
    rw [hstack] at hv
    cases hv
  | some stack =>
    rw [hstack] at hv
    have hchecked := h.stack stack hstack
    obtain ⟨hrestored, -⟩ := Option.filter_eq_some_iff.1 hv
    unfold GucStack.restored at hrestored
    cases isCommit with
    | false =>
      cases hrestored
      exact hchecked.prior
    | true =>
      cases hstate : stack.state with
      | GUC_SET =>
        rw [hstate] at hrestored
        cases hrestored
      | GUC_LOCAL =>
        rw [hstate] at hrestored
        cases hrestored
        exact hchecked.prior
      | GUC_SET_LOCAL masked =>
        rw [hstate] at hrestored
        cases hrestored
        exact hchecked.masked _ hstate

/-! ## The steps -/

/-- What a step has to show: it keeps the invariant, and it completes, or it ends in an error and has
changed nothing if it was an assignment. -/
def Fine (z : Zones Zone) (s : State Zone) (assigns : Bool) (r : State Zone × Bool) : Prop :=
  Inv z r.1 ∧ (r.2 = false → assigns = true → Unchanged s r.1)

/-- A step that completes. -/
theorem Fine.done {s' : State Zone} (h : Inv z s') (assigns : Bool) : Fine z s assigns (s', true) :=
  ⟨h, fun hfalse => absurd hfalse.symm Bool.false_ne_true⟩

/-- A call that changes nothing is fine. -/
theorem Fine.refl (h : Inv z s) (assigns : Bool) : Fine z s assigns (s, true) := .done h assigns

/-- A step that is no assignment. -/
theorem Fine.other {s' : State Zone} (h : Inv z s') (ok : Bool) : Fine z s false (s', ok) :=
  ⟨h, fun _ hfalse => absurd hfalse Bool.false_ne_true⟩

/-- A program that returns. -/
theorem Fine.of_run {p : ZoneM Zone Unit} {s₀ s' : State Zone} (hrun : p.run s₀ = .ok () s')
    (h : Inv z s') (assigns : Bool) : Fine z s assigns (run p s₀) := by
  rw [run, hrun]
  exact .done h assigns

/-- An error is fine where assigning is. -/
theorem Fine.failing {r : State Zone × Bool} (h : Fine z s true r) : Fine z s true (failing r) := by
  obtain ⟨s', ok⟩ := r
  cases ok with
  | true => exact h
  | false =>
    have hsame := h.2 rfl rfl
    exact ⟨h.1.frame rfl rfl rfl h.1.stack rfl, fun _ _ => ⟨hsame.1, hsame.2, hsame.3⟩⟩

/-- SET is fine, where DuckDB follows. -/
theorem fine_set (h : Inv z s) (newval : List Char) (is_local : Bool)
    (hok : ∀ extra, z.check_timezone newval = some extra → Follows z s .portal extra) :
    Fine z s true (run (setTimeZone z newval is_local) s) := by
  cases hcheck : z.check_timezone newval with
  | none =>
    have hrun : (setTimeZone z newval is_local).run s = .error invalidValue s := by
      rw [setTimeZone, EStateM.run_bind, newValue_run_of_none hcheck]
    rw [run, hrun]
    exact ⟨h, fun _ _ => ⟨rfl, rfl, rfl⟩⟩
  | some extra =>
    have hnew : Inv z { s with nextPtr := s.nextPtr + 1 } := h.frame rfl rfl rfl h.stack rfl
    let s₁ : State Zone :=
      { s with
        nextPtr := s.nextPtr + 1
        stack := some (State.pushed { s with nextPtr := s.nextPtr + 1 } is_local) }
    have hpushed : Inv z s₁ := by
      refine hnew.frame rfl rfl rfl (fun stack hstack => ?_) rfl
      cases hstack
      exact hnew.pushed is_local
    have hrun : (setTimeZone z newval is_local).run s =
        .ok () (s₁.assigned z .portal ⟨newval, extra, s.nextPtr, true⟩) := by
      rw [setTimeZone, EStateM.run_bind, newValue_run hcheck]
      exact assign_run (s := s₁) (v := ⟨newval, extra, s.nextPtr, true⟩) (hok extra hcheck)
    exact Fine.of_run hrun (hpushed.assigned hcheck (hok extra hcheck)) true

/-- RESET is fine, where DuckDB follows. -/
theorem fine_reset (h : Inv z s) (hok : Follows z s .portal s.reset_val.extra) :
    Fine z s true (run (resetTimeZone z) s) := by
  let s₁ : State Zone := { s with stack := some (s.pushed false) }
  have hpushed : Inv z s₁ := by
    refine h.frame rfl rfl rfl (fun stack hstack => ?_) rfl
    cases hstack
    exact h.pushed false
  have hrun : (resetTimeZone z).run s = .ok () (s₁.assigned z .portal s.reset_val) :=
    assign_run (s := s₁) hok
  exact Fine.of_run hrun (hpushed.assigned h.reset_val hok) true

/-- The configuration file has replaced the values that it may. -/
theorem Inv.reloaded (h : Inv z s) {v : Value Zone} (hv : v.Checked z) :
    Inv z { s with
      reset_val := v
      stack := s.stack.map fun stack => { stack with prior := stack.prior.replaceUnlessSession v } } where
  zone := h.zone
  setting := h.setting
  reset_val := hv
  stack stack hstack := by
    obtain ⟨stack', hstack', rfl⟩ := Option.map_eq_some_iff.1 hstack
    have hchecked := h.stack stack' hstack'
    refine ⟨?_, hchecked.masked⟩
    unfold Value.replaceUnlessSession
    split
    · exact hchecked.prior
    · exact hv
  duckdb := h.duckdb

/-- A reload is fine, where DuckDB follows. -/
theorem fine_reload (h : Inv z s) (ctx : Context) (newval : List Char)
    (hok : s.timezone_string.session = false → ∀ extra, z.check_timezone newval = some extra →
      Follows z s ctx extra) : Fine z s true (run (TimeZone.reload z ctx newval) s) := by
  cases hcheck : z.check_timezone newval with
  | none =>
    have hrun : (TimeZone.reload z ctx newval).run s = .error invalidValue s := by
      rw [TimeZone.reload, EStateM.run_bind, newValue_run_of_none hcheck]
    rw [run, hrun]
    exact ⟨h, fun _ _ => ⟨rfl, rfl, rfl⟩⟩
  | some extra =>
    let v : Value Zone := ⟨newval, extra, s.nextPtr, false⟩
    let s₁ : State Zone := { s with nextPtr := s.nextPtr + 1 }
    have hnew : Inv z s₁ := h.frame rfl rfl rfl h.stack rfl
    cases hsession : s.timezone_string.session with
    | true =>
      have hrun : (TimeZone.reload z ctx newval).run s = .ok () { s₁ with
          reset_val := v
          stack := s₁.stack.map fun stack =>
            { stack with prior := stack.prior.replaceUnlessSession v } } := by
        simp only [TimeZone.reload, EStateM.run_bind, newValue_run hcheck, EStateM.run_get, hsession]
        rfl
      exact Fine.of_run hrun (hnew.reloaded hcheck) true
    | false =>
      have hfollows : Follows z s₁ ctx v.extra := hok hsession extra hcheck
      have hrun : (TimeZone.reload z ctx newval).run s = .ok () { s₁.assigned z ctx v with
          reset_val := v
          stack := s₁.stack.map fun stack =>
            { stack with prior := stack.prior.replaceUnlessSession v } } := by
        simp only [TimeZone.reload, EStateM.run_bind, newValue_run hcheck, EStateM.run_get, hsession,
          if_true]
        rw [show (assign z ctx v).run s₁ = _ from assign_run hfollows]
        rfl
      exact Fine.of_run hrun ((hnew.assigned (v := v) hcheck hfollows).reloaded hcheck) true

/-- The end of a transaction is fine, where DuckDB follows. -/
theorem fine_end {s' : State Zone} (h' : Inv z s') (isCommit : Bool)
    (hok : ∀ v, s'.reverted isCommit = some v → Follows z s' .noTransaction v.extra) :
    Fine z s true (run (AtEOXact_GUC z isCommit) s') := by
  cases hv : s'.reverted isCommit with
  | none =>
    exact Fine.of_run (AtEOXact_GUC_run_of_none hv)
      (h'.frame rfl rfl rfl (fun _ hstack => nomatch hstack) rfl) true
  | some v =>
    have hassigned := h'.assigned (h'.reverted hv) (hok v hv)
    exact Fine.of_run (AtEOXact_GUC_run hv (hok v hv))
      (hassigned.frame rfl rfl rfl (fun _ hstack => nomatch hstack) rfl) true

/-- An initialisation that takes the zone of the setting, if it makes an instance. -/
theorem fine_get (h : Inv z s) (env : Environment)
    (hok : s.manager.IsInitialized = false → TakesZone z s env) :
    let zone := fun m : DuckDBManager => ∀ i, m.database = some i →
      z.duckdb i.timeZone = some s.session_timezone
    Ensures (Get (s.environment z env)) s.manager (fun _ => zone) zone := by
  intro zone
  have hstart : zone s.manager := h.duckdb
  rw [Ensures, Get_run]
  cases hinit : s.manager.IsInitialized with
  | true => exact hstart
  | false =>
    have hnone : s.manager.database = none := by
      simpa [DuckDBManager.IsInitialized] using hinit
    rw [if_neg Bool.false_ne_true]
    rcases hok hinit with hprepare | hopen | ⟨hregister, hconnect, hdefault, hquery, hduckdb⟩
    · obtain ⟨e, hrun⟩ : ∃ e, (Initialize (s.environment z env)).run s.manager
          = .error e s.manager :=
        Initialize_run_early (.inl hprepare)
      rw [hrun]
      exact hstart
    · obtain ⟨e, hrun⟩ : ∃ e, (Initialize (s.environment z env)).run s.manager
          = .error e s.manager :=
        Initialize_run_early (.inr hopen)
      rw [hrun]
      exact hstart
    · have hzone : ∀ m, HasTimeZone s.timezone_string.newval m → zone m := by
        rintro m ⟨i, hi, htz⟩ i' hi'
        cases hi.symm.trans hi'
        rw [htz]
        exact hduckdb
      have hquery' : (s.environment z env).query
          (setTimeZoneQuery (s.environment z env).pg_time_zone) = none := by
        simp [State.environment, hduckdb, hquery]
      have hrun : Ensures (Initialize (s.environment z env)) s.manager
          (fun _ => HasTimeZone s.timezone_string.newval)
          fun m' => m'.database = none ∨ HasTimeZone s.timezone_string.newval m' :=
        Initialize_timeZone hregister hconnect hdefault hquery' hnone
      refine hrun.mono (fun _ => hzone) fun m hm => ?_
      rcases hm with hm | hm
      · intro i hi
        cases hm.symm.trans hi
      · exact hzone m hm

/-- A step is fine, where DuckDB follows. -/
theorem fine_step (h : Inv z s) {a : Action} (hok : DuckdbFollows z s a) :
    Fine z s a.assigns (step z s a) := by
  cases a with
  | startTransaction =>
    simp only [step]
    split
    · refine Fine.done ?_ _
      exact h.frame rfl rfl rfl h.stack rfl
    · exact Fine.refl h _
  | set newval is_local =>
    simp only [step]
    split
    · next hx => exact (fine_set h newval is_local (hok hx)).failing
    · exact Fine.refl h _
  | resetSetting =>
    simp only [step]
    split
    · next hx => exact (fine_reset h (hok hx)).failing
    · exact Fine.refl h _
  | reload newval =>
    simp only [step]
    cases hctx : s.reloadContext with
    | some ctx => exact fine_reload h ctx newval fun hsession => hok hsession ctx hctx
    | none => exact Fine.refl h _
  | commit =>
    simp only [step]
    split
    · next hx =>
      have hidle : Inv z { s with xact := .idle } := h.frame rfl rfl rfl h.stack rfl
      exact fine_end hidle true (hok hx)
    · exact Fine.refl h _
  | rollback =>
    simp only [step]
    split
    · next hx =>
      have hidle : Inv z { s with xact := .idle } := h.frame rfl rfl rfl h.stack rfl
      exact fine_end hidle false (hok (.inl hx))
    · split
      · next hx =>
        have haborted : Inv z { s with xact := .aborted } := h.frame rfl rfl rfl h.stack rfl
        exact fine_end haborted false (hok (.inr hx))
      · exact Fine.refl h _
  | endBlock =>
    simp only [step]
    split
    · refine Fine.done ?_ _
      exact h.frame rfl rfl rfl h.stack rfl
    · exact Fine.refl h _
  | invalidate =>
    refine Fine.done ?_ _
    exact h.frame rfl rfl rfl h.stack rfl
  | fillCache =>
    simp only [step]
    split
    · refine Fine.done ?_ _
      exact h.frame rfl rfl rfl h.stack rfl
    · exact Fine.refl h _
  | get env =>
    simp only [step]
    split
    · next hx =>
      have hget := fine_get h env (hok hx)
      cases hrun : (Get (s.environment z env)).run s.manager with
      | ok u m =>
        refine Fine.other ?_ true
        exact ⟨h.zone, h.setting, h.reset_val, h.stack, hget.ok hrun⟩
      | error e m =>
        rw [Ensures, hrun] at hget
        refine Fine.other ?_ false
        exact ⟨h.zone, h.setting, h.reset_val, h.stack, hget⟩
    · exact Fine.refl h _
  | resetManager =>
    refine Fine.done ?_ _
    refine ⟨h.zone, h.setting, h.reset_val, h.stack, fun i hi => ?_⟩
    cases hi

end

/-- In a run in which DuckDB follows every zone that is assigned, the zones are in step after every step
that completes, and an assignment that ends in an error has changed none of them. -/
theorem inStep_of_run (newval : List Char) (extra : Zone) (hcheck : z.check_timezone newval = some extra)
    (actions : List Action)
    (h : StepsOk (fun s a => (step z s a).1) (DuckdbFollows z) (State.initial newval extra) actions) :
    StepsOk (fun s a => (step z s a).1) (KeepsStep z) (State.initial newval extra) actions :=
  h.imp (I := Inv z) (inv_initial hcheck) (fun _ _ hs hok => (fine_step hs hok).1)
    fun _ _ hs hok => ⟨fun _ => (fine_step hs hok).1.inStep, (fine_step hs hok).2⟩

end

/-- Zones that are their names, of which DuckDB does not know `FOO+5`. -/
def namedZones : Zones (List Char) where
  check_timezone newval := if newval = [] then none else some newval
  pg_get_timezone_name zone := zone
  duckdb name := if name = "FOO+5".toList then none else some name

/-- DuckDB is initialised; a zone is set locally, and the end of the transaction takes it back. -/
theorem inStep_of_run_at :
    StepsOk (fun s a => (step namedZones s a).1) (KeepsStep namedZones)
      (State.initial "Europe/Berlin".toList "Europe/Berlin".toList)
      [.startTransaction, .fillCache, .get quietEnvironment, .set "UTC".toList true, .commit] :=
  inStep_of_run namedZones "Europe/Berlin".toList "Europe/Berlin".toList (by decide) _
    ⟨trivial, trivial, (fun _ _ => .inr (.inr ⟨rfl, rfl, rfl, rfl, by decide⟩)),
      (fun _ extra hextra _ => by
        obtain rfl : "UTC".toList = extra := by simpa [namedZones] using hextra
        decide),
      (fun _ v hv _ => by cases hv; decide), trivial⟩

/-- DuckDB rejects a zone of which Postgres's own hook has made the active one already. The statement
fails, and the setting stays what it was. -/
theorem rejected :
    ¬ ∀ (Zone : Type) (z : Zones Zone) (newval : List Char) (extra : Zone) (actions : List Action),
      z.check_timezone newval = some extra →
        StepsOk (fun s a => (step z s a).1) (KeepsStep z) (State.initial newval extra) actions := by
  intro h
  obtain ⟨-, -, hset, -⟩ := h _ namedZones "UTC".toList "UTC".toList
    [.startTransaction, .get quietEnvironment, .set "FOO+5".toList false] (by decide)
  exact absurd (hset.2 (by decide) rfl).session_timezone (by decide)

/-- A transaction whose end takes a zone back, after the cache has been invalidated: the commit
completes, and DuckDB keeps the zone of the transaction. -/
theorem unnoticed :
    ¬ StepsOk (fun s a => (step namedZones s a).1) (KeepsStep namedZones)
      (State.initial "Europe/Berlin".toList "Europe/Berlin".toList)
      [.startTransaction, .get quietEnvironment, .set "UTC".toList true, .invalidate, .commit] := by
  intro h
  obtain ⟨-, -, -, -, hcommit, -⟩ := h
  exact absurd ((hcommit.1 (by decide)).duckdb _ rfl) (by decide)

end TimeZone

end PgDuckdb.Manager
