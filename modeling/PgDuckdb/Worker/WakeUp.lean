import PgDuckdb.Worker.Activity

/-!
# No activity is lost

The lock file keeps the workers of one database apart, so the entry of a database is the one of its
worker for as long as that worker is in its loop (`Owned`). The count that the worker has read last is
then never above the count of the entry, and a trigger takes the two apart until the worker has run its
query (`Heeded`). Finally, the trigger sets the latch after it has counted, and the worker resets the
latch before it reads the count: a worker does not fall asleep over a trigger (`Awake`).
-/

namespace PgDuckdb.Activity

open Lib (Recorded Since since_append not_since_nil StepsOk AllowedRun)

section
variable {P L : Type} [DecidableEq P] [DecidableEq L]

/-! ## One worker for an entry -/

/-- What a worker owns: the latch of its slot, the lock of its database and, once it has entered, the entry. -/
structure Owned (s : State P L) : Prop where
  slot : ∀ p w, s.workers p = some w → (s.latches w.MyLatch).owner = some p
  lock : ∀ p w, s.workers p = some w → w.pc.hasLock = true →
    s.lockFile w.database_oid = some p
  entry : ∀ p w, s.workers p = some w → w.pc.entered = true →
    ∃ state, s.statePerDB w.database_oid = some state ∧ state.latch = w.MyLatch ∧
      0 ≤ state.activity_count ∧ w.last_activity_count ≤ state.activity_count

/-- A worker that has entered has the lock. -/
theorem hasLock_of_entered {pc : Pc} (h : pc.entered = true) : pc.hasLock = true := by
  cases pc <;> first | rfl | cases h

/-- A worker in its loop has entered. -/
theorem entered_of_inLoop {pc : Pc} (h : pc.inLoop = true) : pc.entered = true := by
  cases pc <;> first | rfl | cases h

omit [DecidableEq P] [DecidableEq L] in
/-- Two workers of one database do not both have its lock. -/
theorem Owned.unique {s : State P L} (h : Owned s) {p q : P} {w v : Worker L}
    (hw : s.workers p = some w) (hv : s.workers q = some v) (hdb : w.database_oid = v.database_oid)
    (hp : w.pc.hasLock = true) (hq : v.pc.hasLock = true) : p = q := by
  have hlock := h.lock p w hw hp
  rw [hdb, h.lock q v hv hq] at hlock
  exact (Option.some.inj hlock).symm

omit [DecidableEq P] [DecidableEq L] in
/-- Another worker in its loop is one of another database. -/
theorem Owned.other_database {s : State P L} (h : Owned s) {p q : P} {w v : Worker L}
    (hw : s.workers p = some w) (hlock : w.pc.hasLock = true) (hv : s.workers q = some v)
    (hin : v.pc.inLoop = true) (hne : q ≠ p) : v.database_oid ≠ w.database_oid :=
  fun hdb => hne (h.unique hv hw hdb (hasLock_of_entered (entered_of_inLoop hin)) hlock)

omit [DecidableEq P] [DecidableEq L] in
/-- Two workers do not have one latch. -/
theorem Owned.latch_unique {s : State P L} (h : Owned s) {p q : P} {w v : Worker L}
    (hw : s.workers p = some w) (hv : s.workers q = some v) (hl : w.MyLatch = v.MyLatch) : p = q := by
  have hslot := h.slot p w hw
  rw [hl, h.slot q v hv] at hslot
  exact (Option.some.inj hslot).symm

omit [DecidableEq P] [DecidableEq L] in
/-- Nothing is owned at the start. -/
theorem owned_initial : Owned (State.initial : State P L) where
  slot p w h := by cases h
  lock p w h := by cases h
  entry p w h := by cases h

omit [DecidableEq L] in
/-- A worker that takes a step of its own keeps what it owns. -/
theorem Owned.setWorker {s : State P L} (h : Owned s) {p : P} {w : Worker L}
    (hw : s.workers p = some w) (w' : Worker L) (hdb : w'.database_oid = w.database_oid)
    (hlatch : w'.MyLatch = w.MyLatch) (hlock : w'.pc.hasLock = true → w.pc.hasLock = true)
    (hentry : w'.pc.entered = true → w.pc.entered = true ∧
      ∀ state, s.statePerDB w.database_oid = some state →
        w.last_activity_count ≤ state.activity_count →
        w'.last_activity_count ≤ state.activity_count) : Owned (s.setWorker p w') where
  slot q v hv := by
    rcases State.setWorker_eq_some.1 hv with ⟨rfl, rfl⟩ | ⟨-, hv⟩
    · rw [hlatch]
      exact h.slot q w hw
    · exact h.slot q v hv
  lock q v hv hq := by
    rcases State.setWorker_eq_some.1 hv with ⟨rfl, rfl⟩ | ⟨-, hv⟩
    · rw [hdb]
      exact h.lock q w hw (hlock hq)
    · exact h.lock q v hv hq
  entry q v hv hq := by
    rcases State.setWorker_eq_some.1 hv with ⟨rfl, rfl⟩ | ⟨-, hv⟩
    · obtain ⟨hentered, hcount⟩ := hentry hq
      obtain ⟨state, hstate, hl, hpos, hle⟩ := h.entry q w hw hentered
      rw [hdb, hlatch]
      exact ⟨state, hstate, hl, hpos, hcount state hstate hle⟩
    · exact h.entry q v hv hq

omit [DecidableEq P] in
/-- Setting a latch keeps the owners. -/
theorem Owned.setLatch {s : State P L} (h : Owned s) (l : L) (b : Bool) : Owned (s.setLatch l b) where
  slot p w hw := by
    rw [State.setLatch_owner]
    exact h.slot p w hw
  lock := h.lock
  entry := h.entry

/-- A worker that leaves takes nothing from the others. -/
theorem Owned.release {s : State P L} (h : Owned s) {p : P} {w : Worker L}
    (hw : s.workers p = some w) : Owned (s.release p w) := by
  refine ⟨fun q v hv => ?_, fun q v hv hq => ?_, fun q v hv hq => ?_⟩
  · obtain ⟨hne, hv⟩ := State.release_eq_some.1 hv
    have hl : v.MyLatch ≠ w.MyLatch := fun hl => hne (h.latch_unique hv hw hl)
    simpa [State.release, hl] using h.slot q v hv
  · obtain ⟨hne, hv⟩ := State.release_eq_some.1 hv
    have hlock := h.lock q v hv hq
    simp only [State.release]
    split
    · next hp =>
      have hdb : v.database_oid ≠ w.database_oid := by
        intro hdb
        rw [hdb, hp] at hlock
        exact hne (Option.some.inj hlock).symm
      simpa [hdb] using hlock
    · exact hlock
  · obtain ⟨-, hv⟩ := State.release_eq_some.1 hv
    exact h.entry q v hv hq

omit [DecidableEq P] in
/-- A trigger sets a latch and keeps the owners. -/
theorem Owned.trigger {s : State P L} (h : Owned s) (database_oid : Oid) :
    Owned (TriggerActivity s database_oid) where
  slot p w hw := by
    rw [TriggerActivity_workers] at hw
    rw [TriggerActivity_owner]
    exact h.slot p w hw
  lock p w hw hp := by
    rw [TriggerActivity_workers] at hw
    rw [TriggerActivity_lockFile]
    exact h.lock p w hw hp
  entry p w hw hp := by
    rw [TriggerActivity_workers] at hw
    obtain ⟨state, hstate, hl, hpos, hle⟩ := h.entry p w hw hp
    rw [TriggerActivity_statePerDB, hstate]
    split
    · exact ⟨_, rfl, hl, by simp only; omega, by simp only; omega⟩
    · exact ⟨state, rfl, hl, hpos, hle⟩

/-- A worker that starts in a free slot has no lock yet. -/
theorem Owned.start {s : State P L} (h : Owned s) {p : P} {slot : L} (database_oid : Oid)
    (hslot : (s.latches slot).owner = none) :
    Owned { s with
      workers := Function.update s.workers p (some ⟨database_oid, slot, .main, false, -1⟩)
      latches := Function.update s.latches slot { is_set := true, owner := some p } } := by
  have hcases : ∀ q v, Function.update s.workers p
      (some (⟨database_oid, slot, .main, false, -1⟩ : Worker L)) q = some v →
      (q = p ∧ v = ⟨database_oid, slot, .main, false, -1⟩) ∨ (q ≠ p ∧ s.workers q = some v) :=
    fun q v hv => State.setWorker_eq_some.1 hv
  refine ⟨fun q v hv => ?_, fun q v hv hq => ?_, fun q v hv hq => ?_⟩
  · rcases hcases q v hv with ⟨rfl, rfl⟩ | ⟨-, hv⟩
    · simp
    · have hl : v.MyLatch ≠ slot := by
        intro hl
        rw [← hl, h.slot q v hv] at hslot
        cases hslot
      simpa [hl] using h.slot q v hv
  · rcases hcases q v hv with ⟨rfl, rfl⟩ | ⟨-, hv⟩
    · cases hq
    · exact h.lock q v hv hq
  · rcases hcases q v hv with ⟨rfl, rfl⟩ | ⟨-, hv⟩
    · cases hq
    · exact h.entry q v hv hq

omit [DecidableEq L] in
/-- A worker that takes a lock which nobody has is the only one that has it. -/
theorem Owned.takeLock {s : State P L} (h : Owned s) {p : P} {w : Worker L}
    (hw : s.workers p = some w) (hfree : s.lockFile w.database_oid = none) :
    Owned { s.setWorker p { w with pc := .locked } with
      lockFile := Function.update s.lockFile w.database_oid (some p) } := by
  refine ⟨fun q v hv => ?_, fun q v hv hq => ?_, fun q v hv hq => ?_⟩
  · rcases State.setWorker_eq_some.1 hv with ⟨rfl, rfl⟩ | ⟨-, hv⟩
    · exact h.slot q w hw
    · exact h.slot q v hv
  · rcases State.setWorker_eq_some.1 hv with ⟨rfl, rfl⟩ | ⟨-, hv⟩
    · simp
    · have hlock := h.lock q v hv hq
      have hdb : v.database_oid ≠ w.database_oid := by
        intro hdb
        rw [hdb, hfree] at hlock
        cases hlock
      simpa [hdb] using hlock
  · rcases State.setWorker_eq_some.1 hv with ⟨rfl, rfl⟩ | ⟨-, hv⟩
    · cases hq
    · exact h.entry q v hv hq

omit [DecidableEq L] in
/-- A worker that has the lock changes the entry of its database, and no other worker looks at that. -/
theorem Owned.setEntry {s : State P L} (h : Owned s) {p : P} {w : Worker L}
    (hw : s.workers p = some w) (hlock : w.pc.hasLock = true) (w' : Worker L)
    (hdb : w'.database_oid = w.database_oid) (hlatch : w'.MyLatch = w.MyLatch)
    (entry : Option (BgwStatePerDB L))
    (hentry : w'.pc.entered = true → ∃ state, entry = some state ∧ state.latch = w.MyLatch ∧
      0 ≤ state.activity_count ∧ w'.last_activity_count ≤ state.activity_count) :
    Owned ((s.setWorker p w').setEntry w.database_oid entry) := by
  refine ⟨fun q v hv => ?_, fun q v hv hq => ?_, fun q v hv hq => ?_⟩
  · rcases State.setWorker_eq_some.1 hv with ⟨rfl, rfl⟩ | ⟨-, hv⟩
    · rw [hlatch]
      exact h.slot q w hw
    · exact h.slot q v hv
  · rcases State.setWorker_eq_some.1 hv with ⟨rfl, rfl⟩ | ⟨-, hv⟩
    · rw [hdb]
      exact h.lock q w hw hlock
    · exact h.lock q v hv hq
  · rcases State.setWorker_eq_some.1 hv with ⟨rfl, rfl⟩ | ⟨hne, hv⟩
    · obtain ⟨state, rfl, hrest⟩ := hentry hq
      rw [hdb, hlatch]
      exact ⟨state, by simp [State.setEntry], hrest⟩
    · have hne' : v.database_oid ≠ w.database_oid :=
        fun hdb => hne (h.unique hv hw hdb (hasLock_of_entered hq) hlock)
      obtain ⟨state, hstate, hrest⟩ := h.entry q v hv hq
      exact ⟨state, by simpa [State.setEntry, hne'] using hstate, hrest⟩

/-- Every step keeps the workers apart. -/
theorem Owned.step {s s' : State P L} {a : Action P L} (h : Owned s) (hs : step s a = some s') :
    Owned s' := by
  cases a with
  | start p database_oid slot =>
    simp only [Activity.step] at hs
    split at hs
    · next hfree =>
      cases hs
      exact h.start database_oid hfree.2
    · cases hs
  | CanTakeBgwLockForDatabase p =>
    simp only [Activity.step, Option.map_eq_some_iff, State.at_eq_some] at hs
    obtain ⟨w, ⟨hw, hpc⟩, hs⟩ := hs
    split at hs
    · next hfree =>
      subst hs
      exact h.takeLock hw hfree
    · subst hs
      exact h.setWorker hw _ rfl rfl (fun hl => by cases hl) fun hl => by cases hl
  | SetBackgroundWorkerState p =>
    simp only [Activity.step, Option.map_eq_some_iff, State.at_eq_some] at hs
    obtain ⟨w, ⟨hw, hpc⟩, rfl⟩ := hs
    refine h.setEntry hw (by rw [hpc]; rfl) { w with pc := .loop, last_activity_count := -1 } rfl rfl _
      fun _ => ⟨SetBackgroundWorkerState w.MyLatch, rfl, rfl, Int.le_refl 0, ?_⟩
    simp [SetBackgroundWorkerState]
  | run p action =>
    simp only [Activity.step, Option.bind_eq_some_iff, Option.map_eq_some_iff] at hs
    obtain ⟨w, hw, w', hw', rfl⟩ := hs
    have hframe := frame_of_localStep hw'
    have hentered := entered_of_inLoop hframe.inLoop
    refine h.setWorker hw w' hframe.database hframe.latch (fun _ => hasLock_of_entered hentered)
      fun _ => ⟨hentered, fun state hstate hle => ?_⟩
    rcases hframe.count with hcount | hcount
    · rwa [hcount]
    · rw [hstate] at hcount
      exact (Option.some.inj hcount).symm.le
  | ResetLatch p =>
    simp only [Activity.step, Option.map_eq_some_iff, State.at_eq_some] at hs
    obtain ⟨w, ⟨hw, hpc⟩, rfl⟩ := hs
    have hmoved : Owned (s.setWorker p { w with pc := .loop }) := by
      refine h.setWorker hw _ rfl rfl (fun _ => ?_) fun _ => ⟨?_, fun _ _ hle => hle⟩
      · rw [hpc]
        rfl
      · rw [hpc]
        rfl
    exact hmoved.setLatch _ _
  | terminate p =>
    simp only [Activity.step, Option.map_eq_some_iff] at hs
    obtain ⟨w, hw, rfl⟩ := hs
    exact h.release hw
  | pgFinally p =>
    simp only [Activity.step, Option.map_eq_some_iff, State.at_eq_some] at hs
    obtain ⟨w, ⟨hw, hpc⟩, rfl⟩ := hs
    refine h.setEntry hw (by rw [hpc]; rfl) { w with pc := .exit } rfl rfl none fun hentered => ?_
    exact absurd hentered Bool.false_ne_true
  | exit p =>
    simp only [Activity.step, Option.map_eq_some_iff, State.at_eq_some] at hs
    obtain ⟨w, ⟨hw, -⟩, rfl⟩ := hs
    exact h.release hw
  | TriggerActivity database_oid =>
    cases hs
    exact h.trigger database_oid
  | setLatch slot =>
    cases hs
    exact h.setLatch slot true
  | resetLatch slot =>
    cases hs
    exact h.setLatch slot false

/-! ## Every trigger is answered -/

/-- There was a trigger for the database, and no query since. -/
def Unanswered (database_oid : Oid) : List Event → Prop :=
  Since (fun _ e => e = .triggered database_oid) (· = .queried database_oid)

/-- There was a trigger for the database, a worker has read the count after it, and there was no query
since. -/
def Overdue (database_oid : Oid) : List Event → Prop :=
  Since (fun log e => Unanswered database_oid log ∧ e = .read database_oid)
    (· = .queried database_oid)

/-- A trigger is unanswered until the next query of its database. -/
theorem unanswered_append {database_oid : Oid} {log : List Event} {e : Event} :
    Unanswered database_oid (log ++ [e]) ↔
      e = .triggered database_oid ∨ (Unanswered database_oid log ∧ e ≠ .queried database_oid) :=
  since_append

/-- A read with a trigger unanswered is overdue until the next query. -/
theorem overdue_append {database_oid : Oid} {log : List Event} {e : Event} :
    Overdue database_oid (log ++ [e]) ↔
      (Unanswered database_oid log ∧ e = .read database_oid) ∨
        (Overdue database_oid log ∧ e ≠ .queried database_oid) :=
  since_append

/-- What is overdue is unanswered. -/
theorem unanswered_of_overdue {database_oid : Oid} {log : List Event}
    (h : Overdue database_oid log) : Unanswered database_oid log := by
  obtain ⟨before, e, after, rfl, ⟨⟨b, t, a, rfl, ht, ha⟩, rfl⟩, hafter⟩ := h
  refine ⟨b, t, a ++ .read database_oid :: after, by simp, ht, fun x hx => ?_⟩
  rcases List.mem_append.1 hx with hx | hx
  · exact ha x hx
  rcases List.mem_cons.1 hx with rfl | hx
  · intro h
    cases h
  · exact hafter x hx

/-- The database that an event is about. -/
def Event.database : Event → Oid
  | .triggered o | .read o | .queried o | .checked o => o

/-- What happens to one database is not told of another. -/
theorem unanswered_other {database_oid : Oid} {log : List Event} {e : Event}
    (h : e.database ≠ database_oid) :
    Unanswered database_oid (log ++ [e]) ↔ Unanswered database_oid log := by
  rw [unanswered_append]
  constructor
  · rintro (rfl | ⟨hlog, -⟩)
    · exact absurd rfl h
    · exact hlog
  · exact fun hlog => .inr ⟨hlog, fun he => h (he ▸ rfl)⟩

/-- An event of another database changes nothing here. -/
theorem overdue_other {database_oid : Oid} {log : List Event} {e : Event}
    (h : e.database ≠ database_oid) :
    Overdue database_oid (log ++ [e]) ↔ Overdue database_oid log := by
  rw [overdue_append]
  constructor
  · rintro (⟨-, rfl⟩ | ⟨hlog, -⟩)
    · exact absurd rfl h
    · exact hlog
  · exact fun hlog => .inr ⟨hlog, fun he => h (he ▸ rfl)⟩

/-- What a worker in its loop knows of the triggers. -/
structure Heeds (log : List Event) (state : BgwStatePerDB L) (w : Worker L) : Prop where
  unanswered : Unanswered w.database_oid log →
    w.pc = .activity ∨ w.last_activity_count ≠ state.activity_count
  overdue : w.pc = .sync → ¬ Overdue w.database_oid log

omit [DecidableEq L] in
/-- A worker that leaves the reading alone heeds as before. -/
theorem Heeds.of_pc {log : List Event} {state : BgwStatePerDB L} {w : Worker L} {pc : Pc}
    (h : Heeds log state w) (ha : w.pc ≠ .activity) (hs : pc ≠ .sync) :
    Heeds log state { w with pc := pc } where
  unanswered hu := .inr ((h.unanswered hu).resolve_left ha)
  overdue hpc := absurd hpc hs

omit [DecidableEq L] in
/-- An event of another database does not concern the worker. -/
theorem Heeds.other {log : List Event} {state : BgwStatePerDB L} {w : Worker L} (h : Heeds log state w)
    (e : Option Event) (he : ∀ x ∈ e, x.database ≠ w.database_oid) :
    Heeds (log ++ e.toList) state w := by
  cases e with
  | none => simpa using h
  | some x =>
    have hne := he x rfl
    exact ⟨fun hu => h.unanswered ((unanswered_other hne).1 hu),
      fun hpc ho => h.overdue hpc ((overdue_other hne).1 ho)⟩

omit [DecidableEq L] in
/-- The worker reads the count: if it has it already then there is no trigger to answer, and the read
makes nothing overdue. -/
theorem Heeds.check {log : List Event} {state : BgwStatePerDB L} {w : Worker L} (h : Heeds log state w)
    (hpc : w.pc = .check) :
    Heeds (log ++ [.read w.database_oid]) state (BackgroundWorkerCheck (some state) w) := by
  unfold BackgroundWorkerCheck
  by_cases hcount : w.last_activity_count = state.activity_count
  · have hnone : ¬ Unanswered w.database_oid log := by
      intro hu
      rcases h.unanswered hu with ha | hne
      · rw [hpc] at ha
        cases ha
      · exact hne hcount
    simp only [hcount, ne_eq, not_true_eq_false, if_false]
    refine ⟨fun hu => ?_, fun _ ho => ?_⟩
    · rcases unanswered_append.1 hu with he | ⟨hu, -⟩
      · cases he
      · exact absurd hu hnone
    · rcases overdue_append.1 ho with ⟨hu, -⟩ | ⟨ho, -⟩
      · exact hnone hu
      · exact hnone (unanswered_of_overdue ho)
  · simp only [ne_eq, hcount, not_false_eq_true, if_true]
    exact ⟨fun _ => .inl rfl, fun hpc => by cases hpc⟩

omit [DecidableEq L] in
/-- After the query there is no trigger to answer. -/
theorem Heeds.query {log : List Event} {state : BgwStatePerDB L} {w : Worker L} :
    Heeds (log ++ [.queried w.database_oid]) state { w with pc := .sync } where
  unanswered hu := by
    rcases unanswered_append.1 hu with he | ⟨-, hne⟩
    · cases he
    · exact absurd rfl hne
  overdue _ ho := by
    rcases overdue_append.1 ho with ⟨-, he⟩ | ⟨-, hne⟩
    · cases he
    · exact hne rfl

omit [DecidableEq L] in
/-- A step of the worker itself keeps what it heeds. -/
theorem Heeds.localStep {log : List Event} {state : BgwStatePerDB L} {w w' : Worker L}
    {action : LocalAction} (h : Heeds log state w)
    (hs : Activity.localStep (some state) w action = some w') (hin : w'.pc.inLoop = true) :
    Heeds (log ++ (localEvent w action).toList) state w' := by
  cases action with
  | RunOneCheck answers =>
    obtain ⟨hpc, rfl⟩ : w.pc = .loop ∧ RunOneCheck answers w = w' := by
      simpa [Activity.localStep] using hs
    have ha : w.pc ≠ .activity := by simp [hpc]
    simp only [localEvent, Option.toList_none, List.append_nil]
    unfold RunOneCheck
    split
    · exact h.of_pc ha (by simp)
    split
    · exact h.of_pc ha (by simp)
    split
    · exact h.of_pc ha (by simp)
    · exact ⟨fun hu => .inr ((h.unanswered hu).resolve_left ha), fun hpc => by cases hpc⟩
  | BackgroundWorkerCheck =>
    obtain ⟨hpc, rfl⟩ : w.pc = .check ∧ BackgroundWorkerCheck (some state) w = w' := by
      simpa [Activity.localStep] using hs
    exact h.check hpc
  | query succeeds =>
    obtain ⟨hpc, rfl⟩ : w.pc = .activity ∧
        { w with pc := if succeeds then .sync else .pgFinally } = w' := by
      simpa [Activity.localStep] using hs
    cases succeeds with
    | false => cases hin
    | true => exact .query
  | SyncMotherDuckCatalogsWithPg =>
    obtain ⟨hpc, rfl⟩ : w.pc = .sync ∧ { w with pc := .commit true } = w' := by
      simpa [Activity.localStep] using hs
    refine ⟨fun hu => ?_, fun hpc => by cases hpc⟩
    rcases unanswered_append.1 hu with he | ⟨hu, -⟩
    · cases he
    · exact .inr ((h.unanswered hu).resolve_left (by simp [hpc]))
  | CommitTransactionCommand =>
    simp only [Activity.localStep] at hs
    split at hs
    · next hpc =>
      cases hs
      simp only [localEvent, Option.toList_none, List.append_nil]
      exact h.of_pc (by simp [hpc]) (by simp)
    · cases hs
  | WaitLatch =>
    simp only [Activity.localStep] at hs
    split at hs
    · next hpc =>
      cases hs
      simp only [localEvent, Option.toList_none, List.append_nil]
      exact h.of_pc (by simp [hpc]) (by simp)
    · cases hs
  | error =>
    obtain ⟨hpc, rfl⟩ : w.pc.inLoop = true ∧ { w with pc := .pgFinally } = w' := by
      simpa [Activity.localStep] using hs
    cases hin

/-- What every worker in its loop knows, and that the workers are apart. -/
structure Heeded (r : Recorded (State P L) Event) : Prop where
  owned : Owned r.state
  heeds : ∀ p w state, r.state.workers p = some w → w.pc.inLoop = true →
    r.state.statePerDB w.database_oid = some state → Heeds r.log state w

omit [DecidableEq P] [DecidableEq L] in
/-- An event comes from the database of the worker that takes the step, or from the backend that
triggers. -/
theorem localEvent_database {w : Worker L} {action : LocalAction} {e : Event}
    (h : e ∈ localEvent w action) : e.database = w.database_oid := by
  cases action with
  | query succeeds =>
    cases succeeds with
    | false => cases h
    | true =>
      cases h
      rfl
  | BackgroundWorkerCheck =>
    cases h
    rfl
  | SyncMotherDuckCatalogsWithPg =>
    cases h
    rfl
  | RunOneCheck answers => cases h
  | CommitTransactionCommand => cases h
  | WaitLatch => cases h
  | error => cases h

omit [DecidableEq P] [DecidableEq L] in
/-- Nothing has happened that a worker would have to know, and no worker of the loop is new. -/
theorem Heeded.of_workers {r r' : Recorded (State P L) Event} (h : Heeded r) (howned : Owned r'.state)
    (hlog : r'.log = r.log)
    (hworkers : ∀ p w, r'.state.workers p = some w → w.pc.inLoop = true → r.state.workers p = some w)
    (hentries : ∀ p w, r.state.workers p = some w → w.pc.inLoop = true →
      r'.state.statePerDB w.database_oid = r.state.statePerDB w.database_oid) : Heeded r' where
  owned := howned
  heeds p w state hw hin hstate := by
    rw [hlog]
    have hw' := hworkers p w hw hin
    rw [hentries p w hw' hin] at hstate
    exact h.heeds p w state hw' hin hstate

/-- A step of the system keeps what every worker heeds. -/
theorem Heeded.step {r r' : Recorded (State P L) Event} {a : Action P L} (h : Heeded r)
    (hs : r.next step event a = some r') : Heeded r' := by
  obtain ⟨hs, hlog⟩ := Recorded.next_eq_some.1 hs
  have howned := h.owned.step hs
  obtain ⟨s', log'⟩ := r'
  simp only at hs hlog
  cases a with
  | start p database_oid slot =>
    simp only [Activity.step] at hs
    split at hs
    · cases hs
      refine h.of_workers howned (by simpa [event] using hlog) (fun q w hw hin => ?_) fun _ _ _ _ => rfl
      rcases State.setWorker_eq_some.1 hw with ⟨-, rfl⟩ | ⟨-, hw⟩
      · cases hin
      · exact hw
    · cases hs
  | CanTakeBgwLockForDatabase p =>
    simp only [Activity.step, Option.map_eq_some_iff, State.at_eq_some] at hs
    obtain ⟨w, ⟨hw, hpc⟩, hs⟩ := hs
    refine h.of_workers howned (by simpa [event] using hlog) (fun q v hv hin => ?_) fun _ _ _ _ => ?_
    · split at hs
      all_goals
        subst hs
        rcases State.setWorker_eq_some.1 hv with ⟨-, rfl⟩ | ⟨-, hv⟩
        · cases hin
        · exact hv
    · split at hs <;> subst hs <;> rfl
  | SetBackgroundWorkerState p =>
    simp only [Activity.step, Option.map_eq_some_iff, State.at_eq_some] at hs
    obtain ⟨w, ⟨hw, hpc⟩, rfl⟩ := hs
    have hlog' : log' = r.log := by simpa [event] using hlog
    subst hlog'
    refine ⟨howned, fun q v state hv hin hstate => ?_⟩
    rcases State.setWorker_eq_some.1 hv with ⟨-, rfl⟩ | ⟨hne, hv⟩
    · -- The count is 0 and the worker has -1.
      simp only [State.setEntry, Function.update_self, Option.some.injEq] at hstate
      subst hstate
      exact ⟨fun _ => .inr (by simp [SetBackgroundWorkerState]), fun hpc => by cases hpc⟩
    · have hdb := h.owned.other_database hw (by rw [hpc]; rfl) hv hin hne
      refine h.heeds q v state hv hin ?_
      simpa [State.setEntry, hdb] using hstate
  | run p action =>
    simp only [Activity.step, Option.bind_eq_some_iff, Option.map_eq_some_iff] at hs
    obtain ⟨w, hw, w', hw', rfl⟩ := hs
    have hframe := frame_of_localStep hw'
    have hev : event r.state (.run p action) = localEvent w action := by simp [event, hw]
    rw [hev] at hlog
    subst hlog
    refine ⟨howned, fun q v state hv hin hstate => ?_⟩
    rcases State.setWorker_eq_some.1 hv with ⟨-, rfl⟩ | ⟨hne, hv⟩
    · rw [State.setWorker_statePerDB, hframe.database] at hstate
      have hheeds := h.heeds p w state hw hframe.inLoop hstate
      rw [hstate] at hw'
      exact hheeds.localStep hw' hin
    · -- Another worker is one of another database.
      refine (h.heeds q v state hv hin hstate).other _ fun x hx hdb => ?_
      rw [localEvent_database hx] at hdb
      have hlock := hasLock_of_entered (entered_of_inLoop hframe.inLoop)
      exact h.owned.other_database hw hlock hv hin hne hdb.symm
  | ResetLatch p =>
    simp only [Activity.step, Option.map_eq_some_iff, State.at_eq_some] at hs
    obtain ⟨w, ⟨hw, hpc⟩, rfl⟩ := hs
    have hlog' : log' = r.log := by simpa [event] using hlog
    subst hlog'
    refine ⟨howned, fun q v state hv hin hstate => ?_⟩
    rcases State.setWorker_eq_some.1 hv with ⟨-, rfl⟩ | ⟨-, hv⟩
    · exact (h.heeds p w state hw (by rw [hpc]; rfl) hstate).of_pc (by simp [hpc]) (by simp)
    · exact h.heeds q v state hv hin hstate
  | terminate p =>
    simp only [Activity.step, Option.map_eq_some_iff] at hs
    obtain ⟨w, hw, rfl⟩ := hs
    refine h.of_workers howned (by simpa [event] using hlog) (fun q v hv _ => ?_) fun _ _ _ _ => rfl
    exact (State.release_eq_some.1 hv).2
  | pgFinally p =>
    simp only [Activity.step, Option.map_eq_some_iff, State.at_eq_some] at hs
    obtain ⟨w, ⟨hw, hpc⟩, rfl⟩ := hs
    have hlog' : log' = r.log := by simpa [event] using hlog
    subst hlog'
    refine ⟨howned, fun q v state hv hin hstate => ?_⟩
    rcases State.setWorker_eq_some.1 hv with ⟨-, rfl⟩ | ⟨hne, hv⟩
    · cases hin
    · have hdb := h.owned.other_database hw (by rw [hpc]; rfl) hv hin hne
      refine h.heeds q v state hv hin ?_
      simpa [State.setEntry, hdb] using hstate
  | exit p =>
    simp only [Activity.step, Option.map_eq_some_iff, State.at_eq_some] at hs
    obtain ⟨w, ⟨hw, -⟩, rfl⟩ := hs
    refine h.of_workers howned (by simpa [event] using hlog) (fun q v hv _ => ?_) fun _ _ _ _ => rfl
    exact (State.release_eq_some.1 hv).2
  | TriggerActivity database_oid =>
    cases hs
    subst hlog
    refine ⟨howned, fun q v state hv hin hstate => ?_⟩
    rw [TriggerActivity_workers] at hv
    rw [TriggerActivity_statePerDB] at hstate
    by_cases hdb : v.database_oid = database_oid
    · -- The count goes past the one that the worker has read.
      obtain ⟨old, hold, -, -, hle⟩ := h.owned.entry q v hv (entered_of_inLoop hin)
      rw [if_pos hdb, hold] at hstate
      cases hstate
      refine ⟨fun _ => .inr ?_, fun hpc ho => ?_⟩
      · simp only
        omega
      · rcases overdue_append.1 ho with ⟨-, he⟩ | ⟨ho, -⟩
        · cases he
        · exact (h.heeds q v old hv hin hold).overdue hpc ho
    · rw [if_neg hdb] at hstate
      refine (h.heeds q v state hv hin hstate).other _ fun x hx => ?_
      cases hx
      exact fun he => hdb he.symm
  | setLatch slot =>
    cases hs
    exact h.of_workers howned (by simpa [event] using hlog) (fun _ _ hw _ => hw) fun _ _ _ _ => rfl
  | resetLatch slot =>
    cases hs
    exact h.of_workers howned (by simpa [event] using hlog) (fun _ _ hw _ => hw) fun _ _ _ _ => rfl

/-! ## No worker sleeps over a trigger -/

/-- The worker has read the count since it has reset its latch. -/
def Pc.counted : Pc → Bool
  | .activity | .sync | .commit true | .wait true => true
  | _ => false

/-- A worker whose entry counts is in the loop. -/
theorem inLoop_of_counted {pc : Pc} (h : pc.counted = true) : pc.inLoop = true := by
  cases pc <;> first | rfl | cases h

/-- A count that has gone up since the worker has read it comes with a set latch. -/
def Awake (s : State P L) : Prop :=
  ∀ p w state, s.workers p = some w → w.pc.counted = true →
    s.statePerDB w.database_oid = some state →
      w.last_activity_count = state.activity_count ∨ (s.latches w.MyLatch).is_set = true

omit [DecidableEq P] [DecidableEq L] in
/-- A worker that has read the count has just read it, or it had read it before the step. -/
theorem count_of_localStep {state : BgwStatePerDB L} {w w' : Worker L} {action : LocalAction}
    (hs : localStep (some state) w action = some w') (hpc' : w'.pc.counted = true) :
    w'.last_activity_count = state.activity_count ∨
      (w.pc.counted = true ∧ w'.last_activity_count = w.last_activity_count) := by
  cases action with
  | RunOneCheck answers =>
    obtain ⟨hpc, rfl⟩ : w.pc = .loop ∧ RunOneCheck answers w = w' := by simpa [localStep] using hs
    unfold RunOneCheck at hpc'
    split at hpc'
    · cases hpc'
    split at hpc'
    · cases hpc'
    split at hpc' <;> cases hpc'
  | BackgroundWorkerCheck =>
    obtain ⟨hpc, rfl⟩ : w.pc = .check ∧ BackgroundWorkerCheck (some state) w = w' := by
      simpa [localStep] using hs
    unfold BackgroundWorkerCheck
    by_cases h : w.last_activity_count = state.activity_count
    · simp [h]
    · simp [h]
  | query succeeds =>
    obtain ⟨hpc, rfl⟩ : w.pc = .activity ∧
        { w with pc := if succeeds then .sync else .pgFinally } = w' := by simpa [localStep] using hs
    exact .inr ⟨by rw [hpc]; rfl, rfl⟩
  | SyncMotherDuckCatalogsWithPg =>
    obtain ⟨hpc, rfl⟩ : w.pc = .sync ∧ { w with pc := .commit true } = w' := by
      simpa [localStep] using hs
    exact .inr ⟨by rw [hpc]; rfl, rfl⟩
  | CommitTransactionCommand =>
    simp only [localStep] at hs
    split at hs
    · next counted hpc =>
      cases hs
      cases counted with
      | false => cases hpc'
      | true => exact .inr ⟨by rw [hpc]; rfl, rfl⟩
    · cases hs
  | WaitLatch =>
    simp only [localStep] at hs
    split at hs
    · cases hs
      cases hpc'
    · cases hs
  | error =>
    obtain ⟨hpc, rfl⟩ : w.pc.inLoop = true ∧ { w with pc := .pgFinally } = w' := by
      simpa [localStep] using hs
    cases hpc'

/-- The latch of a worker is reset in its loop only. -/
def ResetInLoop (s : State P L) : Action P L → Prop
  | .resetLatch slot => (s.latches slot).owner = none
  | _ => True

/-- Whether a step resets a latch in the loop is decided by the step. -/
instance (s : State P L) (a : Action P L) : Decidable (ResetInLoop s a) := by
  cases a <;> unfold ResetInLoop <;> infer_instance

omit [DecidableEq P] [DecidableEq L] in
/-- No worker gets on in its loop, no latch of a worker is reset, and the entries stay. -/
theorem Awake.of_workers {s s' : State P L} (h : Awake s)
    (hworkers : ∀ p w, s'.workers p = some w → w.pc.counted = true → s.workers p = some w)
    (hentries : ∀ p w, s.workers p = some w → w.pc.counted = true →
      s'.statePerDB w.database_oid = s.statePerDB w.database_oid)
    (hlatches : ∀ p w, s.workers p = some w → w.pc.counted = true →
      (s.latches w.MyLatch).is_set = true → (s'.latches w.MyLatch).is_set = true) : Awake s' := by
  intro p w state hw hpc hstate
  have hw' := hworkers p w hw hpc
  rw [hentries p w hw' hpc] at hstate
  exact (h p w state hw' hpc hstate).imp_right (hlatches p w hw' hpc)

/-- A step that resets no latch in the loop keeps every waiting worker awake. -/
theorem Awake.step {s s' : State P L} {a : Action P L} (h : Awake s) (howned : Owned s)
    (ha : ResetInLoop s a) (hs : step s a = some s') : Awake s' := by
  cases a with
  | start p database_oid slot =>
    simp only [Activity.step] at hs
    split at hs
    · cases hs
      refine h.of_workers (fun q w hw hpc => ?_) (fun _ _ _ _ => rfl) fun q w _ _ hset => ?_
      · rcases State.setWorker_eq_some.1 hw with ⟨-, rfl⟩ | ⟨-, hw⟩
        · cases hpc
        · exact hw
      · by_cases hl : w.MyLatch = slot
        · simp [hl]
        · simpa [hl] using hset
    · cases hs
  | CanTakeBgwLockForDatabase p =>
    simp only [Activity.step, Option.map_eq_some_iff, State.at_eq_some] at hs
    obtain ⟨w, ⟨hw, hpc⟩, hs⟩ := hs
    refine h.of_workers (fun q v hv hpc => ?_) (fun _ _ _ _ => ?_) fun _ _ _ _ hset => ?_
    · split at hs
      all_goals
        subst hs
        rcases State.setWorker_eq_some.1 hv with ⟨-, rfl⟩ | ⟨-, hv⟩
        · cases hpc
        · exact hv
    · split at hs <;> subst hs <;> rfl
    · split at hs <;> subst hs <;> exact hset
  | SetBackgroundWorkerState p =>
    simp only [Activity.step, Option.map_eq_some_iff, State.at_eq_some] at hs
    obtain ⟨w, ⟨hw, hpc⟩, rfl⟩ := hs
    intro q v state hv hpc' hstate
    rcases State.setWorker_eq_some.1 hv with ⟨-, rfl⟩ | ⟨hne, hv⟩
    · cases hpc'
    · have hdb := howned.other_database hw (by rw [hpc]; rfl) hv (inLoop_of_counted hpc') hne
      refine h q v state hv hpc' ?_
      simpa [State.setEntry, hdb] using hstate
  | run p action =>
    simp only [Activity.step, Option.bind_eq_some_iff, Option.map_eq_some_iff] at hs
    obtain ⟨w, hw, w', hw', rfl⟩ := hs
    have hframe := frame_of_localStep hw'
    intro q v state hv hpc hstate
    rcases State.setWorker_eq_some.1 hv with ⟨-, rfl⟩ | ⟨-, hv⟩
    · rw [State.setWorker_statePerDB, hframe.database] at hstate
      rw [hstate] at hw'
      rcases count_of_localStep hw' hpc with hcount | ⟨hpc', hcount⟩
      · exact .inl hcount
      · rw [hcount, hframe.latch]
        exact h p w state hw hpc' hstate
    · exact h q v state hv hpc hstate
  | ResetLatch p =>
    simp only [Activity.step, Option.map_eq_some_iff, State.at_eq_some] at hs
    obtain ⟨w, ⟨hw, hpc⟩, rfl⟩ := hs
    intro q v state hv hpc' hstate
    rcases State.setWorker_eq_some.1 hv with ⟨-, rfl⟩ | ⟨hne, hv⟩
    · cases hpc'
    · have hl : v.MyLatch ≠ w.MyLatch := fun hl => hne (howned.latch_unique hv hw hl)
      rw [State.setLatch_is_set, if_neg hl]
      exact h q v state hv hpc' hstate
  | terminate p =>
    simp only [Activity.step, Option.map_eq_some_iff] at hs
    obtain ⟨w, hw, rfl⟩ := hs
    exact h.of_workers (fun q v hv _ => (State.release_eq_some.1 hv).2) (fun _ _ _ _ => rfl)
      fun q v _ _ hset => by rwa [State.release_is_set]
  | pgFinally p =>
    simp only [Activity.step, Option.map_eq_some_iff, State.at_eq_some] at hs
    obtain ⟨w, ⟨hw, hpc⟩, rfl⟩ := hs
    intro q v state hv hpc' hstate
    rcases State.setWorker_eq_some.1 hv with ⟨-, rfl⟩ | ⟨hne, hv⟩
    · cases hpc'
    · have hdb := howned.other_database hw (by rw [hpc]; rfl) hv (inLoop_of_counted hpc') hne
      refine h q v state hv hpc' ?_
      simpa [State.setEntry, hdb] using hstate
  | exit p =>
    simp only [Activity.step, Option.map_eq_some_iff, State.at_eq_some] at hs
    obtain ⟨w, ⟨hw, -⟩, rfl⟩ := hs
    exact h.of_workers (fun q v hv _ => (State.release_eq_some.1 hv).2) (fun _ _ _ _ => rfl)
      fun q v _ _ hset => by rwa [State.release_is_set]
  | TriggerActivity database_oid =>
    cases hs
    intro q v state hv hpc hstate
    rw [TriggerActivity_workers] at hv
    rw [TriggerActivity_statePerDB] at hstate
    rw [TriggerActivity_is_set]
    by_cases hdb : v.database_oid = database_oid
    · -- The latch in the entry is the one of the worker.
      obtain ⟨old, hold, hl, -⟩ := howned.entry q v hv (entered_of_inLoop (inLoop_of_counted hpc))
      rw [← hdb, hold]
      exact .inr (by simp [hl])
    · rw [if_neg hdb] at hstate
      exact (h q v state hv hpc hstate).imp_right fun hset => by rw [hset, Bool.true_or]
  | setLatch slot =>
    cases hs
    refine h.of_workers (fun _ _ hw _ => hw) (fun _ _ _ _ => rfl) fun q v _ _ hset => ?_
    rw [State.setLatch_is_set]
    split
    · rfl
    · exact hset
  | resetLatch slot =>
    cases hs
    refine h.of_workers (fun _ _ hw _ => hw) (fun _ _ _ _ => rfl) fun q v hv _ hset => ?_
    have hl : v.MyLatch ≠ slot := by
      rintro rfl
      have hnone := howned.slot q v hv
      rw [show (s.latches v.MyLatch).owner = none from ha] at hnone
      cases hnone
    rwa [State.setLatch_is_set, if_neg hl]

/-! ## Whole runs -/

omit [DecidableEq P] [DecidableEq L] in
/-- Every worker heeds at the start. -/
theorem heeded_initial : Heeded (⟨State.initial, []⟩ : Recorded (State P L) Event) where
  owned := owned_initial
  heeds p w state h := by cases h

/-- Every worker heeds after every run. -/
theorem Heeded.run {r r' : Recorded (State P L) Event} {actions : List (Action P L)} (h : Heeded r)
    (hrun : actions.foldlM (Recorded.next Activity.step event) r = some r') : Heeded r' :=
  (AllowedRun.of_true r actions).invariant h (fun _ _ _ hr _ hs => hr.step hs) hrun

/-- However the workers and the backends of any number of databases take their steps: a database has at
most one worker behind the lock; and a worker between `SetBackgroundWorkerState` and the removal of its
entry finds that entry (so `GetState` raises no error), with its own latch in it (so `TriggerActivity`
wakes nobody else) and a count that has not gone below the one it has read. -/
theorem entry_of_worker {actions : List (Action P L)} {s : State P L}
    (hrun : actions.foldlM step State.initial = some s) :
    (∀ p q w v, s.workers p = some w → s.workers q = some v → w.database_oid = v.database_oid →
      w.pc.hasLock = true → v.pc.hasLock = true → p = q) ∧
    ∀ p w, s.workers p = some w → w.pc.entered = true →
      ∃ state, s.statePerDB w.database_oid = some state ∧ state.latch = w.MyLatch ∧
        0 ≤ state.activity_count ∧ w.last_activity_count ≤ state.activity_count := by
  have howned : Owned s :=
    (AllowedRun.of_true State.initial actions).invariant owned_initial
      (fun _ _ _ h _ hs => h.step hs) hrun
  exact ⟨fun p q w v hw hv hdb hp hq => howned.unique hw hv hdb hp hq, howned.entry⟩

/-- A worker takes the entry of database 5, a second one does not get the lock, the first one is
terminated and leaves its entry behind, and a third one takes the entry over with its own latch. -/
def takeOver : List (Action Nat Nat) :=
  [.start 1 5 10, .start 2 5 11, .CanTakeBgwLockForDatabase 1, .SetBackgroundWorkerState 1,
    .CanTakeBgwLockForDatabase 2, .exit 2, .terminate 1, .TriggerActivity 5, .start 3 5 12,
    .CanTakeBgwLockForDatabase 3, .SetBackgroundWorkerState 3, .TriggerActivity 5]

/-- The run of the example succeeds. -/
theorem takeOver_succeeds : (takeOver.foldlM step State.initial).isSome = true := by decide

/-- The entry of the example is that of the third worker. -/
theorem entry_of_worker_takeOver :
    ∃ state, ((takeOver.foldlM step State.initial).get takeOver_succeeds).statePerDB 5 = some state ∧
      state.latch = 12 ∧ 0 ≤ state.activity_count ∧ -1 ≤ state.activity_count :=
  (entry_of_worker (Option.some_get takeOver_succeeds).symm).2 3 ⟨5, 12, .loop, false, -1⟩ rfl rfl

/-- No trigger is lost: when a worker has read the count after a trigger for its database, and goes on to
its sync, then since the trigger the query that the activity asks for has been run, by that worker or by
one that has ended since. -/
theorem queried_of_checked {actions : List (Action P L)} {r : Recorded (State P L) Event}
    (hrun : actions.foldlM (Recorded.next step event) ⟨State.initial, []⟩ = some r)
    {database_oid : Oid} {a b c d : List Event}
    (hlog : r.log = a ++ .triggered database_oid :: b ++ .read database_oid :: c ++
      .checked database_oid :: d) : .queried database_oid ∈ b ++ c := by
  obtain ⟨js, action, s, s', hjs, hs, hev⟩ := Recorded.emitted hrun hlog (Nat.zero_le _)
  have hheeded : Heeded ⟨s, _⟩ := heeded_initial.run hjs
  by_contra hnone
  have hoverdue : Overdue database_oid
      (a ++ .triggered database_oid :: b ++ .read database_oid :: c) := by
    refine ⟨_, _, c, rfl, ⟨⟨a, _, b, rfl, rfl, ?_⟩, rfl⟩, ?_⟩
    · rintro x hx rfl
      exact hnone (List.mem_append_left _ hx)
    · rintro x hx rfl
      exact hnone (List.mem_append_right _ hx)
  -- The step was that of a worker before its sync, to whom nothing is overdue.
  cases action with
  | run p action =>
    simp only [step, Option.bind_eq_some_iff, Option.map_eq_some_iff] at hs
    obtain ⟨w, hw, w', hw', -⟩ := hs
    have hev' : localEvent w action = some (.checked database_oid) := by simpa [event, hw] using hev
    cases action with
    | SyncMotherDuckCatalogsWithPg =>
      cases hev'
      obtain ⟨hpc, -⟩ : w.pc = .sync ∧ { w with pc := .commit true } = w' := by
        simpa [localStep] using hw'
      have hin : w.pc.inLoop = true := by rw [hpc]; rfl
      obtain ⟨state, hstate, -⟩ := hheeded.owned.entry p w hw (entered_of_inLoop hin)
      exact (hheeded.heeds p w state hw hin hstate).overdue hpc hoverdue
    | query succeeds => cases succeeds <;> cases hev'
    | _ => cases hev'
  | _ => cases hev

/-- No worker sleeps over a trigger: while a worker waits, having read the count in this round, and its
latch is not set, every trigger for its database has been answered by a query, provided that the latches
of workers are reset in the loop only. -/
theorem answered_of_asleep {actions : List (Action P L)} {r : Recorded (State P L) Event}
    (hreset : AllowedRun (Recorded.next step event) (fun r a => ResetInLoop r.state a)
      ⟨State.initial, []⟩ actions)
    (hrun : actions.foldlM (Recorded.next step event) ⟨State.initial, []⟩ = some r)
    {p : P} {w : Worker L} (hw : r.state.workers p = some w) (hpc : w.pc = .wait true)
    (hlatch : (r.state.latches w.MyLatch).is_set = false)
    {a b : List Event} (hlog : r.log = a ++ .triggered w.database_oid :: b) :
    .queried w.database_oid ∈ b := by
  have hinv : Heeded r ∧ Awake r.state := by
    refine hreset.invariant (I := fun r => Heeded r ∧ Awake r.state)
      ⟨heeded_initial, fun p w state h => by cases h⟩ (fun r i r' hr hok hs => ?_) hrun
    exact ⟨hr.1.step hs, hr.2.step hr.1.owned hok (Recorded.next_eq_some.1 hs).1⟩
  have hin : w.pc.inLoop = true := by rw [hpc]; rfl
  obtain ⟨state, hstate, -⟩ := hinv.1.owned.entry p w hw (entered_of_inLoop hin)
  have hcount : w.last_activity_count = state.activity_count := by
    refine (hinv.2 p w state hw (by rw [hpc]; rfl) hstate).resolve_right ?_
    rw [hlatch]
    exact Bool.false_ne_true
  by_contra hnone
  have hunanswered : Unanswered w.database_oid r.log := by
    refine ⟨a, _, b, hlog, rfl, ?_⟩
    rintro x hx rfl
    exact hnone hx
  rcases (hinv.1.heeds p w state hw hin hstate).unanswered hunanswered with ha | hne
  · rw [hpc] at ha
    cases ha
  · exact hne hcount

end

/-- A worker of database 5 runs the query of its first round, is triggered while it syncs, and sleeps
again after the query of its second round. -/
def secondRound : List (Action Nat Nat) :=
  [.start 1 5 10, .CanTakeBgwLockForDatabase 1, .SetBackgroundWorkerState 1,
    .run 1 (.RunOneCheck ⟨true, true, true⟩), .run 1 .BackgroundWorkerCheck, .run 1 (.query true),
    .TriggerActivity 5, .run 1 .SyncMotherDuckCatalogsWithPg, .run 1 .CommitTransactionCommand,
    .run 1 .WaitLatch, .ResetLatch 1, .run 1 (.RunOneCheck ⟨true, true, true⟩),
    .run 1 .BackgroundWorkerCheck, .run 1 (.query true), .run 1 .SyncMotherDuckCatalogsWithPg,
    .run 1 .CommitTransactionCommand]

/-- The second round of the example succeeds. -/
theorem secondRound_succeeds :
    (secondRound.foldlM (Recorded.next step event) ⟨State.initial, []⟩).isSome = true := by decide

/-- Between the two checks of the example the query has been run. -/
theorem queried_of_checked_secondRound : Event.queried 5 ∈ [Event.checked 5] ++ [.queried 5] :=
  queried_of_checked (a := [.read 5, .queried 5]) (b := [.checked 5]) (d := [])
    (Option.some_get secondRound_succeeds).symm rfl

/-- The worker of the example has run the query before it sleeps. -/
theorem answered_of_asleep_secondRound :
    Event.queried 5 ∈ [Event.checked 5, .read 5, .queried 5, .checked 5] :=
  answered_of_asleep (w := ⟨5, 10, .wait true, true, 1⟩) (p := 1) (a := [.read 5, .queried 5])
    (by decide : AllowedRun (Recorded.next step event) (fun r a => ResetInLoop r.state a)
      ⟨State.initial, []⟩ secondRound)
    (Option.some_get secondRound_succeeds).symm rfl rfl rfl rfl

end PgDuckdb.Activity
