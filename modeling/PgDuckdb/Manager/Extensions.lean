import PgDuckdb.Manager.Initialize

/-!
# Changes of `duckdb.extensions`

A trigger advances `duckdb.extensions_table_seq` at every change of the table, and a connection is
refreshed by loading the extensions again when the sequence is ahead of the value that was recorded last.
The sequence is not transactional but the rows are: a value that counts a change may be recorded before
the change can be seen, and then it is never loaded (`update_lost`). `delivered_of_run` has the
conditions under which that does not happen; they are on what is recorded, on what commits, and on an
initialisation, which loads the extensions too but records nothing.

The backend `A` writes the table and the backend `B` has the DuckDB instance. What they do is interleaved
in any order, with a refresh in three steps.
-/

namespace PgDuckdb.Manager

open Lib (Ensures StepsOk)

namespace Extensions

/-! ## The two backends -/

/-- The open transaction of `A`. -/
structure Writer where
  /-- The table as it sees it. -/
  rows : List DuckdbExtension
  /-- The value to which the trigger of its last change has advanced the sequence, once it has. -/
  last : Option Int
  deriving DecidableEq

/-- How far `RefreshConnectionState` has got. -/
inductive Refresh
  /-- The sequence, of which this value was read, is ahead, and the extensions are loaded next. -/
  | load (extensions_table_last_seq : Int)
  /-- `UpdateExtensionsSeq` is next. -/
  | record (extensions_table_last_seq : Int)
  /-- The secrets are next. -/
  | rest
  deriving DecidableEq

/-- The table of extensions, its sequence, and what a backend knows of them. -/
structure State where
  committed : List DuckdbExtension
  /-- `pg_sequence_last_value` of `extensions_table_seq`. -/
  seq : Int
  writer : Option Writer
  /-- The transactions that have committed, and the value to which the last one advanced the sequence. -/
  commits : Nat
  lastCommit : Int
  /-- The active snapshot of `B`, and the transactions it shows. -/
  snapshot : List DuckdbExtension
  snapshotCommits : Nat
  manager : DuckDBManager
  refresh : Option Refresh
  /-- The transactions that the snapshot of a successful refresh has shown. -/
  refreshed : Nat

/-- A table that has been changed `n` times, and a backend that has just started. -/
def State.initial (committed : List DuckdbExtension) (n : Nat) : State where
  committed := committed
  seq := n + 1
  writer := none
  commits := 1
  lastCommit := n + 1
  snapshot := []
  snapshotCommits := 0
  manager := .initial
  refresh := none
  refreshed := 0

/-- A step of the writer or of the backend. -/
inductive Action
  /-- A statement of `A` changes the table. -/
  | write (rows : List DuckdbExtension)
  /-- The trigger of the change. -/
  | trigger
  | commit
  | rollback
  | snapshot
  /-- `B` calls `Get`. -/
  | get (env : Environment)
  | reset
  /-- `B` refreshes its connection: it reads the sequence. -/
  | refreshStart
  | refreshLoad (env : Environment)
  | refreshRecord
  /-- The rest of the refresh. -/
  | refreshEnd (succeeds : Bool)

/-- `ReadDuckdbExtensions` reads the rows of the active snapshot. -/
def reading (env : Environment) (rows : List DuckdbExtension) : Environment :=
  { env with extensions := env.extensions.map fun _ => rows }

/-- A step; one that is not possible in the state does nothing. -/
def step (s : State) : Action → State
  | .write rows => { s with writer := some { rows := rows, last := none } }
  | .trigger =>
    match s.writer with
    | some w => { s with seq := s.seq + 1, writer := some { w with last := some (s.seq + 1) } }
    | none => s
  | .commit =>
    match s.writer with
    | some { rows, last := some last } =>
      { s with committed := rows, writer := none, commits := s.commits + 1, lastCommit := last }
    | _ => s
  | .rollback => { s with writer := none }
  | .snapshot =>
    if s.refresh = none then { s with snapshot := s.committed, snapshotCommits := s.commits } else s
  | .get env =>
    if s.refresh = none then
      { s with manager := stateAfter (Get (reading env s.snapshot)) s.manager }
    else s
  | .reset => if s.refresh = none then { s with manager := stateAfter Reset s.manager } else s
  | .refreshStart =>
    if s.refresh = none ∧ s.manager.IsInitialized = true then
      if s.manager.extensions_table_current_seq < s.seq then { s with refresh := some (.load s.seq) }
      else { s with refresh := some .rest }
    else s
  | .refreshLoad env =>
    match s.refresh with
    | some (.load v) =>
      match (LoadExtensions (reading env s.snapshot)).run s.manager with
      | .ok _ m => { s with manager := m, refresh := some (.record v) }
      | .error _ m => { s with manager := m, refresh := none }
    | _ => s
  | .refreshRecord =>
    match s.refresh with
    | some (.record v) =>
      { s with
        manager := { s.manager with extensions_table_current_seq := v }, refresh := some .rest }
    | _ => s
  | .refreshEnd succeeds =>
    match s.refresh with
    | some .rest =>
      { s with refresh := none, refreshed := if succeeds then s.snapshotCommits else s.refreshed }
    | _ => s

/-- The extension is loaded in the current instance. -/
def Loaded (m : DuckDBManager) (name : List Char) : Prop :=
  ∃ i, m.database = some i ∧ name ∈ i.loaded

/-- A successful refresh, if it is the first one whose snapshot shows some transaction, leaves every
row of the snapshot with `autoload` loaded. -/
def Delivers (s : State) (a : Action) : Prop :=
  a = .refreshEnd true → s.refresh = some .rest → s.refreshed < s.snapshotCommits →
    ∀ name ∈ autoloadNames s.snapshot, Loaded s.manager name

/-- The recorded value is not behind the sequence, so that a refresh loads nothing. -/
def UpToDate (s : State) : Prop := ¬ s.manager.extensions_table_current_seq < s.seq

/-- The conditions. No value is recorded that counts a transaction which committed after the snapshot was
taken; no transaction commits that is counted already by the value that `B`, with an instance, has
recorded; and an initialisation of a manager that is up to date fails before there is a database, or it
loads everything from a snapshot that shows every transaction. -/
def CountsWhatItShows (s : State) : Action → Prop
  | .refreshRecord => ∀ v, s.refresh = some (.record v) → s.snapshotCommits = s.commits ∨ v < s.lastCommit
  | .commit => ∀ w last, s.writer = some w → w.last = some last → s.manager.IsInitialized = true →
      s.manager.extensions_table_current_seq < last
  | .get env => s.manager.IsInitialized = false → UpToDate s →
      (reading env s.snapshot).AllOrNothing ∧ s.snapshotCommits = s.commits
  | _ => True

/-! ## What the functions do to the manager -/

section
variable {env : Environment} {m : DuckDBManager} {rows : List DuckdbExtension}

/-- A reading that raises no error has the rows that were there. -/
theorem reading_extensionList (h : ∀ e, env.extensions ≠ .error e) :
    (reading env rows).extensionList = rows := by
  unfold reading Environment.extensionList
  cases hextensions : env.extensions with
  | ok extensions => rfl
  | error e => exact absurd hextensions (h e)

/-- What is read is read. -/
theorem reading_extensionList_of_ok
    (h : (reading env rows).extensions = .ok (reading env rows).extensionList) :
    (reading env rows).extensionList = rows := by
  refine reading_extensionList fun e he => ?_
  rw [reading, he] at h
  cases h

/-- `LoadExtensions` keeps the recorded value, and loads every extension if it returns. -/
theorem LoadExtensions_ensures (hm : m.IsInitialized = true) :
    Ensures (LoadExtensions (reading env rows)) m
      (fun _ m' => Opened m m' ∧ ∀ name ∈ autoloadNames rows, Loaded m' name) (Opened m) := by
  have hlate : Late (LoadExtensions (reading env rows)) m _ := Late.loadExtensions hm
  have hrun : ∀ u m', (LoadExtensions (reading env rows)).run m = .ok u m' →
      ∀ name ∈ autoloadNames rows, Loaded m' name := by
    intro u m' hrun name hname
    obtain ⟨-, hextensions, hqueries⟩ := hlate.ok hrun
    have hrows := reading_extensionList_of_ok hextensions
    have hload := LoadExtensions_run (m := m) hextensions fun name hname => by
      obtain ⟨extension, hmem, rfl⟩ := List.mem_map.1 hname
      obtain ⟨hextension, hautoload⟩ := List.mem_filter.1 hmem
      exact hqueries extension hextension hautoload
    cases hload.symm.trans hrun
    obtain ⟨i, hi⟩ := Option.isSome_iff_exists.1 hm
    refine ⟨_, by rw [DuckDBManager.load, DuckDBManager.onInstance, hi]; rfl, ?_⟩
    rw [hrows]
    exact List.mem_append_right _ hname
  unfold Ensures
  cases hres : (LoadExtensions (reading env rows)).run m with
  | ok u m' => exact ⟨(hlate.ok hres).1, hrun u m' hres⟩
  | error e m' =>
    rw [Late, Ensures, hres] at hlate
    exact hlate

/-- `Get` keeps the recorded value. -/
theorem stateAfter_Get_seq :
    (stateAfter (Get env) m).extensions_table_current_seq = m.extensions_table_current_seq := by
  rw [stateAfter, Get_run]
  cases m.IsInitialized with
  | true => rfl
  | false =>
    rw [if_neg Bool.false_ne_true]
    rcases Initialize_cases env m with ⟨-, e, hrun⟩ | ⟨-, i, hrun⟩ | ⟨-, e, m', hrun, hopened⟩
    · rw [hrun]
    · rw [hrun]
      rfl
    · rw [hrun]
      exact hopened.seq

/-- An initialisation that is all or nothing leaves no instance, or one with every extension. -/
theorem stateAfter_Get_loaded (h : (reading env rows).AllOrNothing)
    (hm : m.IsInitialized = false) :
    (stateAfter (Get (reading env rows)) m).IsInitialized = false ∨
      ∀ name ∈ autoloadNames rows, Loaded (stateAfter (Get (reading env rows)) m) name := by
  rw [stateAfter, Get_run, hm, if_neg Bool.false_ne_true]
  rcases Initialize_cases (reading env rows) m with ⟨-, e, hrun⟩ | ⟨hlate, i, hrun⟩ | ⟨hnot, -⟩
  · rw [hrun]
    exact .inl hm
  · rw [hrun]
    refine .inr fun name hname => ⟨_, rfl, List.mem_append_right _ ?_⟩
    rwa [reading_extensionList_of_ok hlate.extensions]
  · exact absurd h hnot

end

/-! ## The invariant -/

/-- What holds while a refresh is under way. -/
def RefreshInv (s : State) : Prop :=
  match s.refresh with
  | none => True
  | some (.load v) =>
    s.manager.IsInitialized = true ∧ v ≤ s.seq ∧ s.manager.extensions_table_current_seq < v
  | some (.record v) =>
    s.manager.IsInitialized = true ∧ v ≤ s.seq ∧ s.manager.extensions_table_current_seq < v ∧
      ∀ name ∈ autoloadNames s.snapshot, Loaded s.manager name
  | some .rest => ∀ name ∈ autoloadNames s.snapshot, Loaded s.manager name

/-- What every state of the two has. -/
structure Inv (s : State) : Prop where
  seq : s.manager.extensions_table_current_seq ≤ s.seq
  lastCommit : s.lastCommit ≤ s.seq
  writer : ∀ w last, s.writer = some w → w.last = some last → last ≤ s.seq
  snapshotCommits : s.snapshotCommits ≤ s.commits
  snapshot : s.snapshotCommits = s.commits → s.snapshot = s.committed
  /-- An instance that will not load again shows every transaction, and has all that it shows. -/
  upToDate : s.manager.IsInitialized = true → UpToDate s →
    s.snapshotCommits = s.commits ∧ ∀ name ∈ autoloadNames s.snapshot, Loaded s.manager name
  refresh : RefreshInv s

/-- The invariant holds at the start. -/
theorem inv_initial (rows : List DuckdbExtension) (n : Nat) : Inv (State.initial rows n) where
  seq := by simp only [State.initial, DuckDBManager.initial]; omega
  lastCommit := le_refl _
  writer _ _ hw := nomatch hw
  snapshotCommits := Nat.zero_le 1
  snapshot h := nomatch h
  upToDate h := nomatch h
  refresh := trivial

section
variable {s : State}

/-- A change of the table keeps the invariant. -/
theorem inv_write (h : Inv s) (rows : List DuckdbExtension) : Inv (step s (.write rows)) where
  seq := h.seq
  lastCommit := h.lastCommit
  writer w last hw hlast := by cases hw; cases hlast
  snapshotCommits := h.snapshotCommits
  snapshot := h.snapshot
  upToDate := h.upToDate
  refresh := h.refresh

/-- A longer sequence keeps what holds of a refresh. -/
theorem RefreshInv.mono (h : RefreshInv s) {s' : State} (hrefresh : s'.refresh = s.refresh)
    (hmanager : s'.manager = s.manager) (hsnapshot : s'.snapshot = s.snapshot)
    (hseq : s.seq ≤ s'.seq) : RefreshInv s' := by
  unfold RefreshInv at h ⊢
  rw [hrefresh, hmanager, hsnapshot]
  cases hphase : s.refresh with
  | none => trivial
  | some phase =>
    rw [hphase] at h
    cases phase with
    | load v => exact ⟨h.1, h.2.1.trans hseq, h.2.2⟩
    | record v => exact ⟨h.1, h.2.1.trans hseq, h.2.2⟩
    | rest => exact h

/-- The trigger keeps the invariant. -/
theorem inv_trigger (h : Inv s) : Inv (step s .trigger) := by
  simp only [step]
  cases hw : s.writer with
  | none => exact h
  | some w =>
    have hseq : s.seq ≤ s.seq + 1 := by omega
    exact
      { seq := h.seq.trans hseq
        lastCommit := h.lastCommit.trans hseq
        writer w' last hw' hlast := by cases hw'; cases hlast; exact le_refl _
        snapshotCommits := h.snapshotCommits
        snapshot := h.snapshot
        upToDate _ hup := absurd (Int.lt_add_one_of_le h.seq) hup
        refresh := h.refresh.mono rfl rfl rfl hseq }

/-- A commit keeps the invariant, where the trigger has counted it. -/
theorem inv_commit (h : Inv s) (hok : CountsWhatItShows s .commit) : Inv (step s .commit) := by
  simp only [step]
  cases hw : s.writer with
  | none => exact h
  | some w =>
    obtain ⟨rows, counted⟩ := w
    cases counted with
    | none => exact h
    | some last =>
      have hlast := h.writer _ _ hw rfl
      have hle := h.snapshotCommits
      exact
        { seq := h.seq
          lastCommit := hlast
          writer _ _ hw' := nomatch hw'
          snapshotCommits := by show s.snapshotCommits ≤ s.commits + 1; omega
          snapshot heq := by
            have heq' : s.snapshotCommits = s.commits + 1 := heq
            omega
          upToDate hi hup := absurd ((hok _ _ hw rfl hi).trans_le hlast) hup
          refresh := h.refresh.mono rfl rfl rfl (le_refl _) }

/-- A rollback keeps the invariant. -/
theorem inv_rollback (h : Inv s) : Inv (step s .rollback) where
  seq := h.seq
  lastCommit := h.lastCommit
  writer _ _ hw := nomatch hw
  snapshotCommits := h.snapshotCommits
  snapshot := h.snapshot
  upToDate := h.upToDate
  refresh := h.refresh.mono rfl rfl rfl (le_refl _)

/-- A new snapshot keeps the invariant. -/
theorem inv_snapshot (h : Inv s) : Inv (step s .snapshot) := by
  simp only [step]
  split
  · next hnone =>
    exact
      { seq := h.seq
        lastCommit := h.lastCommit
        writer := h.writer
        snapshotCommits := le_refl _
        snapshot _ := rfl
        upToDate hi hup := by
          obtain ⟨hcommits, hloaded⟩ := h.upToDate hi hup
          rw [h.snapshot hcommits] at hloaded
          exact ⟨rfl, hloaded⟩
        refresh := by
          unfold RefreshInv
          rw [hnone]
          trivial }
  · exact h

/-- A connection that is asked for keeps the invariant, where it counts what it shows. -/
theorem inv_get (h : Inv s) {env : Environment} (hok : CountsWhatItShows s (.get env)) :
    Inv (step s (.get env)) := by
  simp only [step]
  split
  · next hnone =>
    have hseq : (stateAfter (Get (reading env s.snapshot)) s.manager).extensions_table_current_seq
        = s.manager.extensions_table_current_seq := stateAfter_Get_seq
    exact
      { seq := hseq.le.trans h.seq
        lastCommit := h.lastCommit
        writer := h.writer
        snapshotCommits := h.snapshotCommits
        snapshot := h.snapshot
        upToDate hi hup := by
          have hup' : UpToDate s := fun hlt => hup (hseq.trans_lt hlt)
          cases hinit : s.manager.IsInitialized with
          | true =>
            have hsame : stateAfter (Get (reading env s.snapshot)) s.manager = s.manager := by
              rw [stateAfter, Get_run, hinit, if_pos rfl]
            show _ ∧ ∀ name ∈ _, Loaded (stateAfter (Get (reading env s.snapshot)) s.manager) name
            rw [hsame]
            exact h.upToDate hinit hup'
          | false =>
            obtain ⟨hall, hcommits⟩ := hok hinit hup'
            refine ⟨hcommits, (stateAfter_Get_loaded hall hinit).resolve_left fun hno => ?_⟩
            exact absurd (hno.symm.trans hi) Bool.false_ne_true
        refresh := by
          unfold RefreshInv
          rw [hnone]
          trivial }
  · exact h

/-- A reset keeps the invariant. -/
theorem inv_reset (h : Inv s) : Inv (step s .reset) := by
  simp only [step]
  split
  · next hnone =>
    exact
      { seq := h.seq
        lastCommit := h.lastCommit
        writer := h.writer
        snapshotCommits := h.snapshotCommits
        snapshot := h.snapshot
        upToDate hi := nomatch hi
        refresh := by
          unfold RefreshInv
          rw [hnone]
          trivial }
  · exact h

/-- The start of a refresh keeps the invariant. -/
theorem inv_refreshStart (h : Inv s) : Inv (step s .refreshStart) := by
  simp only [step]
  split
  · next hstart =>
    split
    · next hlt =>
      exact
        { seq := h.seq
          lastCommit := h.lastCommit
          writer := h.writer
          snapshotCommits := h.snapshotCommits
          snapshot := h.snapshot
          upToDate := h.upToDate
          refresh := ⟨hstart.2, le_refl _, hlt⟩ }
    · next hup =>
      exact
        { seq := h.seq
          lastCommit := h.lastCommit
          writer := h.writer
          snapshotCommits := h.snapshotCommits
          snapshot := h.snapshot
          upToDate := h.upToDate
          refresh := (h.upToDate hstart.2 hup).2 }
  · exact h

/-- The load of a refresh keeps the invariant. -/
theorem inv_refreshLoad (h : Inv s) (env : Environment) : Inv (step s (.refreshLoad env)) := by
  simp only [step]
  cases hphase : s.refresh with
  | none => exact h
  | some phase =>
    cases phase with
    | record v => exact h
    | rest => exact h
    | load v =>
      have hrefresh := h.refresh
      unfold RefreshInv at hrefresh
      rw [hphase] at hrefresh
      obtain ⟨hinit, hle, hlt⟩ := hrefresh
      have hload : Ensures (LoadExtensions (reading env s.snapshot)) s.manager _ _ :=
        LoadExtensions_ensures hinit
      -- Whether or not it loads everything, the recorded value stays behind the sequence.
      have hbehind : ∀ m', Opened s.manager m' → m'.extensions_table_current_seq < s.seq :=
        fun m' hm' => hm'.seq.trans_lt (hlt.trans_le hle)
      cases hres : (LoadExtensions (reading env s.snapshot)).run s.manager with
      | ok u m' =>
        obtain ⟨hopened, hloaded⟩ := hload.ok hres
        exact
          { seq := hopened.seq.le.trans h.seq
            lastCommit := h.lastCommit
            writer := h.writer
            snapshotCommits := h.snapshotCommits
            snapshot := h.snapshot
            upToDate _ hup := absurd (hbehind m' hopened) hup
            refresh := ⟨hopened.initialized, hle, hopened.seq.trans_lt hlt, hloaded⟩ }
      | error e m' =>
        rw [Ensures, hres] at hload
        exact
          { seq := hload.seq.le.trans h.seq
            lastCommit := h.lastCommit
            writer := h.writer
            snapshotCommits := h.snapshotCommits
            snapshot := h.snapshot
            upToDate _ hup := absurd (hbehind m' hload) hup
            refresh := trivial }

/-- The record of a refresh keeps the invariant, where it counts what it shows. -/
theorem inv_refreshRecord (h : Inv s) (hok : CountsWhatItShows s .refreshRecord) :
    Inv (step s .refreshRecord) := by
  simp only [step]
  cases hphase : s.refresh with
  | none => exact h
  | some phase =>
    cases phase with
    | load v => exact h
    | rest => exact h
    | record v =>
      have hrefresh := h.refresh
      unfold RefreshInv at hrefresh
      rw [hphase] at hrefresh
      obtain ⟨-, hle, -, hloaded⟩ := hrefresh
      exact
        { seq := hle
          lastCommit := h.lastCommit
          writer := h.writer
          snapshotCommits := h.snapshotCommits
          snapshot := h.snapshot
          upToDate _ hup := by
            refine ⟨(hok v hphase).resolve_right fun hlt => ?_, hloaded⟩
            exact hup (hlt.trans_le h.lastCommit)
          refresh := hloaded }

/-- The end of a refresh keeps the invariant. -/
theorem inv_refreshEnd (h : Inv s) (succeeds : Bool) : Inv (step s (.refreshEnd succeeds)) := by
  simp only [step]
  cases hphase : s.refresh with
  | none => exact h
  | some phase =>
    cases phase with
    | load v => exact h
    | record v => exact h
    | rest =>
      exact
        { seq := h.seq
          lastCommit := h.lastCommit
          writer := h.writer
          snapshotCommits := h.snapshotCommits
          snapshot := h.snapshot
          upToDate := h.upToDate
          refresh := trivial }

/-- A step keeps the invariant, where what it shows is counted. -/
theorem inv_step (h : Inv s) {a : Action} (hok : CountsWhatItShows s a) : Inv (step s a) := by
  cases a with
  | write rows => exact inv_write h rows
  | trigger => exact inv_trigger h
  | commit => exact inv_commit h hok
  | rollback => exact inv_rollback h
  | snapshot => exact inv_snapshot h
  | get env => exact inv_get h hok
  | reset => exact inv_reset h
  | refreshStart => exact inv_refreshStart h
  | refreshLoad env => exact inv_refreshLoad h env
  | refreshRecord => exact inv_refreshRecord h hok
  | refreshEnd succeeds => exact inv_refreshEnd h succeeds

/-- A refresh that has come to its end has loaded every row of its snapshot. -/
theorem Inv.delivers (h : Inv s) (a : Action) : Delivers s a := by
  intro _ hphase _
  have hrefresh := h.refresh
  unfold RefreshInv at hrefresh
  rw [hphase] at hrefresh
  exact hrefresh

end

/-- In a run that meets the conditions, whatever the table held before, the first successful refresh
whose snapshot shows a transaction leaves every row of it that is to be loaded automatically loaded. -/
theorem delivered_of_run (rows : List DuckdbExtension) (n : Nat) (actions : List Action)
    (h : StepsOk step CountsWhatItShows (State.initial rows n) actions) :
    StepsOk step Delivers (State.initial rows n) actions :=
  h.imp (I := Inv) (inv_initial rows n) (fun _ _ hs hok => inv_step hs hok)
    fun _ a hs _ => hs.delivers a

/-- The `iceberg` extension. -/
def iceberg : DuckdbExtension := ⟨"iceberg".toList, true, "core".toList⟩

/-- `A` installs an extension and commits; `B` initialises DuckDB and is refreshed. -/
theorem delivered_of_run_at :
    StepsOk step Delivers (State.initial [] 0)
      [.write [iceberg], .trigger, .commit, .snapshot, .get quietEnvironment, .refreshStart,
        .refreshLoad quietEnvironment, .refreshRecord, .refreshEnd true] :=
  delivered_of_run [] 0 _
    ⟨trivial, trivial, (fun _ _ _ _ hi => (nomatch hi)), trivial, (fun _ hup => absurd (by decide) hup),
      trivial, trivial, (fun _ _ => .inl rfl), trivial, trivial⟩

/-- `B` is refreshed after the trigger of `A`'s change and before its commit. It records the value that
counts the change, without having seen it, and no later refresh loads the extension. -/
theorem update_lost :
    ¬ ∀ (rows : List DuckdbExtension) (n : Nat) (actions : List Action),
      StepsOk step Delivers (State.initial rows n) actions := by
  intro h
  obtain ⟨-, -, -, -, -, -, -, -, -, -, -, hlast, -⟩ := h [] 0
    [.write [iceberg], .trigger, .snapshot, .get quietEnvironment, .refreshStart,
      .refreshLoad quietEnvironment, .refreshRecord, .refreshEnd true, .commit, .snapshot,
      .refreshStart, .refreshEnd true]
  obtain ⟨i, hi, hmem⟩ := hlast rfl rfl (by decide) iceberg.name (by decide)
  cases hi
  exact absurd hmem (by decide)

end Extensions

end PgDuckdb.Manager
