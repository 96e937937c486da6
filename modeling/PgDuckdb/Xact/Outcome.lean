import PgDuckdb.Xact.Ledger

/-!
# The outcome of every command

`Command.outcome` is the abstract view of a command: from whether command ids are unclaimed and
whether DuckDB has written, it computes the error or the same two facts after the command.
`Command.meets` says that the program of the command does exactly that.
-/

namespace PgDuckdb

section
variable {mode : Mode} {s : Backend}

/-! ## Queries -/

/-- A guarded backend plans for DuckDB without an error, or is refused for mixed writes. -/
theorem Guarded.planDuckdb (h : Guarded mode s) (isSelect : Bool) :
    (DuckdbPlannerHook_Cpp true isSelect).run s =
      if isSelect = false ∧ (s.pgDidWrites && s.ddbDidWrites) = true then .error mixedWrites s
      else if s.executor_nest_level > 0 ∧ s.unsafe_allow_execution_inside_functions = false then
        .error executionInsideFunctions s
      else .ok () s.connected := by
  simp only [DuckdbPlannerHook_Cpp, IsAllowedStatement, ereportIf, if_true, EStateM.run_bind,
    EStateM.run_get, h.DidDisallowedMixedWrites_eq]
  by_cases hmixed : isSelect = false ∧ (s.pgDidWrites && s.ddbDidWrites) = true
  · simp only [if_pos hmixed]
    rfl
  · by_cases hnest : s.executor_nest_level > 0 ∧ s.unsafe_allow_execution_inside_functions = false
    · simp only [if_neg hmixed, if_pos hnest]
      rfl
    · simp only [if_neg hmixed, if_neg hnest, EStateM.run_pure, h.connect]

/-- Connecting keeps the state between two commands. -/
theorem Steady.connected (h : Steady mode s) : Steady mode s.connected :=
  ⟨h.toGuarded.connected, h.used, h.nest, h.ddl⟩

/-- A write keeps the state between two commands. -/
theorem Steady.written (h : Steady mode s) : Steady mode s.written :=
  ⟨h.toGuarded.written, h.used, h.nest, h.ddl⟩

/-- Taking an id keeps the state between two commands. -/
theorem Steady.claimed (h : Steady mode s) : Steady mode s.claimed :=
  ⟨h.toGuarded.claimed, rfl, h.nest, h.ddl⟩

/-- The state inside one more executor. -/
def Backend.nested (s : Backend) : Backend :=
  { s with executor_nest_level := s.executor_nest_level + 1 }

/-- The end of a DuckDB query claims for the writes that DuckDB has done. -/
theorem Steady.finish (h : Steady mode s) :
    Meets (Steady mode) (do DuckdbExecutorFinishHook true; CommandCounterIncrement) s.nested
      (if s.pgDidWrites && s.ddbDidWrites then .error mixedWrites
        else .ok (s.pgDidWrites, s.ddbDidWrites)) := by
  have hfinish : (DuckdbExecutorFinishHook true).run s.nested =
      if s.ddbDidWrites then (ClaimCurrentCommandId false).run s else .ok () s := by
    cases hd : s.ddbDidWrites with
    | true => simp [DuckdbExecutorFinishHook, onlyIf, Backend.nested, hd]
    | false => simp [DuckdbExecutorFinishHook, onlyIf, Backend.nested, hd]
  have hincrement : ∀ {s : Backend}, s.currentCommandIdUsed = false →
      CommandCounterIncrement.run s = .ok () s := by
    intro s hused
    simp [CommandCounterIncrement, hused]
  cases hd : s.ddbDidWrites with
  | false =>
    rw [hd, if_neg (by simp)] at hfinish
    refine Meets.step hfinish (Meets.of_ok (hincrement h.used) h ?_)
    simp [hd]
  | true =>
    rw [hd, if_pos rfl, h.claim] at hfinish
    cases hu : s.pgDidWrites with
    | true =>
      rw [hu, if_pos rfl] at hfinish
      exact Meets.fail hfinish
    | false =>
      rw [hu, if_neg (by simp)] at hfinish
      refine Meets.step hfinish (Meets.of_ok (hincrement rfl) h.claimed ?_)
      simp [hd]

/-- The execution of a DuckDB query that modifies no table. -/
theorem Steady.executeSelect (h : Steady mode s) (writes : Bool) :
    Meets (Steady mode) (do
        DuckdbExecutorStartHook true true false
        onlyIf (writes = true) duckdbWrite
        DuckdbExecutorFinishHook true
        CommandCounterIncrement) s
      (if s.pgDidWrites && (s.ddbDidWrites || writes) then .error mixedWrites
        else .ok (s.pgDidWrites, s.ddbDidWrites || writes)) := by
  have hg : Guarded mode s.nested := ⟨h.mixed, h.force, h.sync, h.sub, h.ids, h.block, h.top⟩
  have hstart : (DuckdbExecutorStartHook true true false).run s = .ok () s.connected.nested := by
    have hconnect := hg.connect false
    simp [DuckdbExecutorStartHook, GetCurrentCommandId, onlyIf, Backend.nested] at hconnect ⊢
    rw [hconnect]
    rfl
  refine Meets.step hstart ?_
  cases writes with
  | false =>
    refine Meets.step rfl ?_
    simpa using h.connected.finish
  | true =>
    have hwrite : duckdbWrite.run s.connected.nested = .ok () s.written.nested := by
      simp [duckdbWrite, Backend.nested, Backend.written, Backend.connected]
    refine Meets.step hwrite ?_
    simpa using h.written.finish

/-- The execution of an `INSERT`, `UPDATE` or `DELETE` on a DuckDB table. -/
theorem Steady.executeDml (h : Steady mode s) :
    Meets (Steady mode) (do
        DuckdbExecutorStartHook true false true
        onlyIf (true = true) duckdbWrite
        DuckdbExecutorFinishHook true
        CommandCounterIncrement) s
      (if s.pgDidWrites then .error mixedWrites else .ok (false, true)) := by
  have hg : Guarded mode { s.nested with currentCommandIdUsed := true } :=
    ⟨h.mixed, h.force, h.sync, h.sub, h.ids, h.block, h.top⟩
  have hstart : (DuckdbExecutorStartHook true false true).run s =
      (ClaimCurrentCommandId false).run
        (Backend.connected { s.nested with currentCommandIdUsed := true }) := by
    have hconnect := hg.connect false
    simp [DuckdbExecutorStartHook, GetCurrentCommandId, onlyIf, Backend.nested] at hconnect ⊢
    rw [hconnect]
  rw [hg.connected.claim] at hstart
  have hpg : (Backend.connected { s.nested with currentCommandIdUsed := true }).pgDidWrites = s.pgDidWrites := rfl
  rw [hpg] at hstart
  cases hu : s.pgDidWrites with
  | true =>
    rw [hu, if_pos rfl] at hstart
    exact Meets.fail hstart
  | false =>
    rw [hu, if_neg (by simp)] at hstart
    have hwrite : duckdbWrite.run
        (Backend.connected { s.nested with currentCommandIdUsed := true }).claimed =
          .ok () s.claimed.written.nested := by
      simp [duckdbWrite, Backend.nested, Backend.written, Backend.connected, Backend.claimed]
    refine Meets.step hstart (Meets.step hwrite ?_)
    simpa using h.claimed.written.finish

/-! ## Utility statements -/

/-- The level that the utility hook sets is steady. -/
theorem Steady.withTop (h : Steady mode s) :
    Steady mode (s.withTop (mode = .explicitBlock)) := by
  refine ⟨h.toGuarded.withTop ?_, h.used, h.nest, h.ddl⟩
  exact fun hmode => decide_eq_false hmode

/-- Ids that have been used leave no id in use. -/
theorem usedIds_used (hused : s.currentCommandIdUsed = false) (n : Nat) :
    (s.usedIds n).currentCommandIdUsed = false := by
  simp [Backend.usedIds, hused]

/-- A SELECT of Postgres executes and changes nothing. -/
theorem executePostgres_select_run (s : Backend) :
    (executePostgres .planned true false).run s = .ok () (s.executed false) := by
  rw [executePostgres_run, if_neg (by simp)]

/-- A `CREATE TABLE` claims the command id before Postgres creates the table. -/
theorem createTable_pre_run (h : Steady mode s) (stmt : CreateTable) :
    (DuckdbHandleDDLPre_createTable stmt).run s =
      if s.pgDidWrites then
        .error mixedWrites { s.withDdl .CREATE_TABLE with currentCommandIdUsed := true }
      else .ok () (if stmt.asSelect then (s.withDdl .CREATE_TABLE).claimed.connected
        else (s.withDdl .CREATE_TABLE).claimed) := by
  have hclaim := (h.withDdl .CREATE_TABLE).claim
  have hconnect := (h.withDdl .CREATE_TABLE).claimed.connect false
  rw [withDdl_pgDidWrites] at hclaim
  unfold Backend.withDdl at hclaim hconnect ⊢
  simp only [DuckdbHandleDDLPre_createTable, ereportIf, onlyIf, h.ddl, ne_eq, not_true, if_false,
    EStateM.run_bind, EStateM.run_get, EStateM.run_pure, EStateM.run_modify, hclaim]
  cases s.pgDidWrites with
  | true => rfl
  | false =>
    cases stmt.asSelect with
    | true => exact hconnect
    | false => rfl

/-- The forced claim leaves no command id unclaimed. -/
theorem Guarded.forward (h : Guarded mode s) (hnest : s.executor_nest_level = mode.nestLevel)
    (hddl : s.top_level_duckdb_ddl_type = .NONE) :
    Meets (Steady mode) claimAndForward s (.ok (false, true)) := by
  refine Meets.step (claim_forced s) (Meets.step (h.claimed.connect true) ?_)
  have hwrite : duckdbWrite.run s.claimed.connected = .ok () s.claimed.written := by
    simp [duckdbWrite, Backend.written, Backend.connected]
  exact Meets.of_ok hwrite ⟨h.claimed.written, rfl, hnest, hddl⟩ (by simp)

/-- The row of a permanent table in `duckdb.tables` is written with writes allowed. -/
theorem Guarded.writeDuckdbTables (h : Guarded mode s) :
    writeDuckdbTables.run s = .ok () (s.executed true) := by
  have hallow : Backend.AllowWrites { s with force_allow_writes := true } = true := by
    simp [Backend.AllowWrites, Backend.MixedWritesAllowed]
  simp [PgDuckdb.writeDuckdbTables, SetForceAllowWrites, executePostgres_run, hallow,
    Backend.executed, h.force]

/-- What the create trigger does with the table before it forwards the statement. -/
theorem Guarded.track (h : Guarded mode s) (hddl : s.top_level_duckdb_ddl_type = .NONE)
    (hnest : s.executor_nest_level = mode.nestLevel) (stmt : CreateTable) :
    (∃ s', (trackTable stmt).run s = .ok () s' ∧ Guarded mode s' ∧
        s'.top_level_duckdb_ddl_type = .NONE ∧ s'.executor_nest_level = mode.nestLevel ∧
        ¬ (stmt.temporary = false ∧ s.motherduck_enabled = false)) ∨
      ((trackTable stmt).run s = .error onlyTempTables s ∧
        stmt.temporary = false ∧ s.motherduck_enabled = false) := by
  unfold trackTable
  cases ht : stmt.temporary with
  | true =>
    refine .inl ⟨_, rfl, h.saved _, ?_, ?_, by simp⟩
    · rw [saveTemporaryTables_eq]
      exact hddl
    · rw [saveTemporaryTables_eq]
      exact hnest
  | false =>
    rw [if_neg (by simp)]
    cases hm : s.motherduck_enabled with
    | false => exact .inr ⟨by simp [ereportIf, hm], rfl, rfl⟩
    | true =>
      have hopened : Guarded mode s.opened := by
        rw [Backend.opened_eq]
        exact ⟨h.mixed, h.force, h.sync, h.sub, h.ids, h.block, h.top⟩
      refine .inl ⟨(s.opened.executed true).usedIds stmt.ownerIds, ?_,
        (hopened.executed true).usedIds _, ?_, ?_, by simp⟩
      · simp [ereportIf, hm, DuckDBManagerGet, hopened.writeDuckdbTables, useCommandIds_run]
      · rw [Backend.opened_eq]
        exact hddl
      · rw [Backend.opened_eq]
        exact hnest

/-- The outcome of the create trigger. -/
def createTableOutcome (s : Backend) (stmt : CreateTable) : Outcome :=
  if stmt.created = false then .ok (s.pgDidWrites, s.ddbDidWrites)
  else if stmt.temporary = false ∧ s.motherduck_enabled = false then .error onlyTempTables
  else .ok (false, true)

/-- The create trigger claims what Postgres has used, and then forwards the statement. -/
theorem Guarded.createTable_trigger (h : Guarded mode s) (hused : s.currentCommandIdUsed = false)
    (hnest : s.executor_nest_level = mode.nestLevel)
    (hddl : s.top_level_duckdb_ddl_type = .CREATE_TABLE) (stmt : CreateTable) :
    Meets (Steady mode) (duckdb_create_table_trigger stmt) s (createTableOutcome s stmt) := by
  have hg := (h.withDdl .NONE).executed false
  refine Meets.step rfl (Meets.step rfl (Meets.step (executePostgres_select_run _) ?_))
  change Meets (Steady mode) _ ((s.withDdl .NONE).executed false) _
  unfold createTableOutcome
  cases hc : stmt.created with
  | false =>
    refine Meets.of_ok rfl ⟨hg, rfl, hnest, rfl⟩ ?_
    rw [if_pos rfl, (h.withDdl .NONE).executed_pgDidWrites hused]
    simp
  | true =>
    rw [if_neg Bool.true_eq_false.mp, onlyIf, if_pos rfl, ereportIf, if_neg (by simp [hddl])]
    refine Meets.step rfl ?_
    rcases hg.track rfl hnest stmt with ⟨s', hrun, hg', hddl', hnest', hallowed⟩ | ⟨hrun, hm⟩
    · have hallowed' : ¬ (stmt.temporary = false ∧ s.motherduck_enabled = false) := hallowed
      rw [if_neg hallowed']
      refine Meets.step hrun (Meets.step rfl ?_)
      rw [onlyIf, if_pos hg'.sync]
      exact hg'.forward hnest' hddl'
    · have hm' : stmt.temporary = false ∧ s.motherduck_enabled = false := hm
      rw [if_pos hm']
      exact Meets.fail hrun

/-- The whole of a `CREATE TABLE`. -/
theorem Steady.createTable (h : Steady mode s) (stmt : CreateTable) :
    Meets (Steady mode) (do
        DuckdbHandleDDLPre_createTable stmt
        useCommandIds (if stmt.created then stmt.catalogIds else 0)
        duckdb_create_table_trigger stmt) s
      (if s.pgDidWrites then .error mixedWrites else createTableOutcome s stmt) := by
  have hpre := createTable_pre_run h stmt
  cases hu : s.pgDidWrites with
  | true =>
    rw [hu, if_pos rfl] at hpre
    exact Meets.fail hpre
  | false =>
    simp only [hu, Bool.false_eq_true, if_false] at hpre ⊢
    generalize hs' : (if stmt.asSelect then (s.withDdl .CREATE_TABLE).claimed.connected
      else (s.withDdl .CREATE_TABLE).claimed) = s' at hpre
    have hclaimed := (h.withDdl .CREATE_TABLE).claimed
    obtain ⟨hg, hused, hnest, hddl, hpg, hddb, hmd⟩ : Guarded mode s' ∧
        s'.currentCommandIdUsed = false ∧ s'.executor_nest_level = mode.nestLevel ∧
        s'.top_level_duckdb_ddl_type = .CREATE_TABLE ∧ s'.pgDidWrites = false ∧
        s'.ddbDidWrites = s.ddbDidWrites ∧ s'.motherduck_enabled = s.motherduck_enabled := by
      subst hs'
      cases stmt.asSelect with
      | true => exact ⟨hclaimed.connected, rfl, h.nest, rfl, by simp, by simp, rfl⟩
      | false => exact ⟨hclaimed, rfl, h.nest, rfl, by simp, by simp, rfl⟩
    refine Meets.step hpre (Meets.step (useCommandIds_run _ _) ?_)
    have htrigger := (hg.usedIds (if stmt.created then stmt.catalogIds else 0)).createTable_trigger
      (usedIds_used hused _) hnest hddl stmt
    have houtcome : createTableOutcome
        (s'.usedIds (if stmt.created then stmt.catalogIds else 0)) stmt =
        createTableOutcome s stmt := by
      have hmd' : (s'.usedIds (if stmt.created then stmt.catalogIds else 0)).motherduck_enabled =
        s.motherduck_enabled := hmd
      simp only [createTableOutcome, hg.usedIds_pgDidWrites, usedIds_ddbDidWrites, hpg, hddb, hmd',
        hu]
      cases stmt.created <;> simp
    rw [← houtcome]
    exact htrigger

/-! ### `ALTER TABLE` -/

/-- The alter trigger claims what Postgres has used, and then forwards the statement. -/
theorem Guarded.alterTable_trigger (h : Guarded mode s)
    (hnest : s.executor_nest_level = mode.nestLevel)
    (hddl : s.top_level_duckdb_ddl_type = .ALTER_TABLE) :
    Meets (Steady mode) duckdb_alter_table_trigger s (.ok (false, true)) := by
  have hg := (h.withDdl .NONE).executed false
  refine Meets.step rfl (Meets.step rfl (Meets.step (executePostgres_select_run _)
    (Meets.step rfl ?_)))
  change Meets (Steady mode) (onlyIf (((s.withDdl .NONE).executed false).doing_motherduck_sync = false) _)
    ((s.withDdl .NONE).executed false) _
  rw [onlyIf, if_pos hg.sync, ereportIf, if_neg (by simp [hddl])]
  exact Meets.step rfl (hg.forward hnest rfl)

/-- The whole of an `ALTER TABLE`. -/
theorem Steady.alterTable (h : Steady mode s) (kind : AlterKind) (ids : Nat) :
    Meets (Steady mode) (do
        DuckdbHandleDDLPre_alterTable kind
        useCommandIds ids
        duckdb_alter_table_trigger) s
      (if s.pgDidWrites then .error mixedWrites else .ok (false, true)) := by
  have hclaim := (h.withDdl .ALTER_TABLE).claim
  have hpre : (DuckdbHandleDDLPre_alterTable kind).run s =
      (ClaimCurrentCommandId false).run (s.withDdl .ALTER_TABLE) := by
    simp [DuckdbHandleDDLPre_alterTable, h.ddl, Backend.withDdl]
  rw [hclaim, withDdl_pgDidWrites] at hpre
  cases hu : s.pgDidWrites with
  | true =>
    rw [hu, if_pos rfl] at hpre
    exact Meets.fail hpre
  | false =>
    simp only [hu, Bool.false_eq_true, if_false] at hpre ⊢
    have hg := (h.withDdl .ALTER_TABLE).claimed.usedIds ids
    exact Meets.step hpre (Meets.step (useCommandIds_run _ _)
      (hg.alterTable_trigger h.nest rfl))

/-! ### Drops -/

/-- The walk over the dropped names, from true on. -/
theorem dropPreCheckLoop_true_run (s : Backend) (dropping_postgres : Bool) (names : List Bool) :
    (dropPreCheckLoop true dropping_postgres names).run s =
      .ok (true, dropping_postgres || decide (false ∈ names)) s := by
  induction names generalizing dropping_postgres with
  | nil => simp [dropPreCheckLoop]
  | cons name names ih =>
    cases name with
    | true => simpa [dropPreCheckLoop, onlyIf] using ih dropping_postgres
    | false => simpa [dropPreCheckLoop] using ih true

/-- The pre-check claims once if it meets a DuckDB relation. -/
theorem Guarded.dropPreCheckLoop_run (h : Guarded mode s) (dropping_postgres : Bool)
    (names : List Bool) :
    (dropPreCheckLoop false dropping_postgres names).run s =
      if true ∈ names then
        if s.pgDidWrites then .error mixedWrites { s with currentCommandIdUsed := true }
        else .ok (true, dropping_postgres || decide (false ∈ names)) s.claimed
      else .ok (false, dropping_postgres || decide (false ∈ names)) s := by
  induction names generalizing dropping_postgres with
  | nil => simp [dropPreCheckLoop]
  | cons name names ih =>
    cases name with
    | true =>
      simp only [dropPreCheckLoop, onlyIf, if_true, EStateM.run_bind, h.claim]
      cases s.pgDidWrites with
      | true => simp
      | false => simp [dropPreCheckLoop_true_run]
    | false => simpa [dropPreCheckLoop] using ih true

/-- The relations that the pre-check looks at. -/
def DropKind.names : DropKind → List Bool
  | .tables names | .views names => names
  | .other => []

/-- The error of a statement that names relations of both kinds. -/
def DropKind.mixed : DropKind → PgError
  | .views _ => dropsBothViews
  | _ => dropsBothTables

/-- The outcome of a DROP in a guarded backend. -/
theorem Guarded.dropPre_run (h : Guarded mode s) (kind : DropKind) :
    (DuckdbHandleDDLPre_drop kind).run s =
      if true ∈ kind.names then
        if s.pgDidWrites then .error mixedWrites { s with currentCommandIdUsed := true }
        else if false ∈ kind.names then .error kind.mixed s.claimed
        else .ok () s.claimed
      else .ok () s := by
  have hcheck : ∀ (mixed : PgError) (names : List Bool), (dropPreCheck mixed names).run s =
      if true ∈ names then
        if s.pgDidWrites then .error mixedWrites { s with currentCommandIdUsed := true }
        else if false ∈ names then .error mixed s.claimed
        else .ok () s.claimed
      else .ok () s := by
    intro mixed names
    simp only [dropPreCheck, EStateM.run_bind, h.dropPreCheckLoop_run, Bool.false_or]
    by_cases hd : true ∈ names
    · cases s.pgDidWrites with
      | true => simp [hd]
      | false =>
        by_cases hp : false ∈ names
        · simp [hd, hp, ereportIf, h.claimed.notAllowed]
        · simp [hd, hp, ereportIf]
    · simp [hd, ereportIf]
  cases kind with
  | tables names => exact hcheck _ names
  | views names => exact hcheck _ names
  | other => simp [DuckdbHandleDDLPre_drop, DropKind.names]

/-- `Kept mode s s'`: the drops forwarded between `s` and `s'` change nothing but DuckDB and the
set of temporary tables. -/
structure Kept (mode : Mode) (s s' : Backend) : Prop where
  guarded : Guarded mode s'
  used : s'.currentCommandIdUsed = s.currentCommandIdUsed
  nest : s'.executor_nest_level = s.executor_nest_level
  ddl : s'.top_level_duckdb_ddl_type = s.top_level_duckdb_ddl_type
  pg : s'.pgDidWrites = s.pgDidWrites
  md : s'.motherduck_enabled = s.motherduck_enabled

/-- Drops one after the other change no more than those they forward. -/
theorem Kept.trans {s' s'' : Backend} (h : Kept mode s s') (h' : Kept mode s' s'') :
    Kept mode s s'' :=
  ⟨h'.guarded, h'.used.trans h.used, h'.nest.trans h.nest, h'.ddl.trans h.ddl, h'.pg.trans h.pg,
    h'.md.trans h.md⟩

/-- A forwarded drop writes in the transaction of the connection, which is there from the first
drop on. -/
theorem Guarded.forwardDrop (h : Guarded mode s) {n : Nat} (hn : n ≠ 0 → s.ddbDidWrites = true) :
    ∃ s', (forwardDrop n).run s = .ok () s' ∧ Kept mode s s' ∧ s'.ddbDidWrites = true ∧
      s'.temporary_duckdb_tables = s.temporary_duckdb_tables := by
  by_cases h0 : n = 0
  · refine ⟨s.written, ?_, ⟨h.written, rfl, rfl, rfl, rfl, rfl⟩, rfl, rfl⟩
    simp [PgDuckdb.forwardDrop, onlyIf, h0, h.connect, duckdbWrite, Backend.written,
      Backend.connected]
  · refine ⟨{ s with modifiedDatabase := s.modifiedDatabase || s.hasActiveTransaction }, ?_,
      ⟨⟨h.mixed, h.force, h.sync, h.sub, h.ids, h.block, h.top⟩, rfl, rfl, rfl, rfl, rfl⟩, ?_, rfl⟩
    · simp [PgDuckdb.forwardDrop, onlyIf, h0, duckdbWrite]
    · have hd := hn h0
      simp only [Backend.ddbDidWrites, Bool.and_eq_true] at hd ⊢
      simp [hd]

/-- The rows deleted from `duckdb.tables`. -/
theorem Guarded.dropRecorded (objects : List DroppedObject) {s : Backend} (h : Guarded mode s)
    {n : Nat} (hn : n ≠ 0 → s.ddbDidWrites = true) :
    ∃ s', (dropRecorded n objects).run s = .ok (n + objects.count .recorded) s' ∧
      Kept mode s s' ∧ s'.temporary_duckdb_tables = s.temporary_duckdb_tables ∧
      s'.ddbDidWrites = (s.ddbDidWrites || decide (objects.count .recorded ≠ 0)) := by
  induction objects generalizing n s with
  | nil => exact ⟨s, rfl, ⟨h, rfl, rfl, rfl, rfl, rfl⟩, rfl, by simp⟩
  | cons object objects ih =>
    by_cases hobject : object = .recorded
    · subst hobject
      obtain ⟨s₁, hrun₁, hkept₁, hddb₁, htables₁⟩ := h.forwardDrop hn
      obtain ⟨s₂, hrun₂, hkept₂, htables₂, hddb₂⟩ :=
        ih hkept₁.guarded (n := n + 1) fun _ => hddb₁
      refine ⟨s₂, ?_, hkept₁.trans hkept₂, htables₂.trans htables₁, ?_⟩
      · simp [PgDuckdb.dropRecorded, hrun₁, hrun₂]
        omega
      · simp [hddb₂, hddb₁]
    · obtain ⟨s₁, hrun₁, hkept₁, htables₁, hddb₁⟩ := ih h hn
      have hcount : (object :: objects).count .recorded = objects.count .recorded :=
        List.count_cons_of_ne hobject
      refine ⟨s₁, ?_, hkept₁, htables₁, hcount ▸ hddb₁⟩
      rw [hcount, ← hrun₁]
      cases object <;> first | rfl | exact absurd rfl hobject

/-- How many of the dropped tables of `pg_temp` are registered. -/
def registeredCount (tables : Finset Oid) : List DroppedObject → Nat
  | [] => 0
  | .temporary relid :: objects =>
    if relid ∈ tables then 1 + registeredCount (tables.erase relid) objects
    else registeredCount tables objects
  | _ :: objects => registeredCount tables objects

/-- The dropped tables of `pg_temp`. -/
theorem Guarded.dropTemporary (objects : List DroppedObject) {s : Backend} (h : Guarded mode s)
    {n : Nat} (hn : n ≠ 0 → s.ddbDidWrites = true) :
    ∃ s', (dropTemporary n objects).run s =
        .ok (n + registeredCount s.temporary_duckdb_tables objects) s' ∧ Kept mode s s' ∧
      s'.ddbDidWrites =
        (s.ddbDidWrites || decide (registeredCount s.temporary_duckdb_tables objects ≠ 0)) := by
  induction objects generalizing n s with
  | nil => exact ⟨s, rfl, ⟨h, rfl, rfl, rfl, rfl, rfl⟩, by simp [registeredCount]⟩
  | cons object objects ih =>
    cases object with
    | temporary relid =>
      by_cases hmem : relid ∈ s.temporary_duckdb_tables
      · obtain ⟨s₁, hrun₁, hkept₁, hddb₁, htables₁⟩ := h.forwardDrop hn
        have hkept₂ : Kept mode s₁ (s₁.unregistered relid) := by
          unfold Backend.unregistered
          refine ⟨hkept₁.guarded.saved _, ?_, ?_, ?_, ?_, ?_⟩
          · rw [saveTemporaryTables_eq]
          · rw [saveTemporaryTables_eq]
          · rw [saveTemporaryTables_eq]
          · rw [saveTemporaryTables_eq]
            rfl
          · rw [saveTemporaryTables_eq]
        have hddb₂ : (s₁.unregistered relid).ddbDidWrites = true := by
          unfold Backend.unregistered
          rw [saveTemporaryTables_eq]
          exact hddb₁
        have htables₂ : (s₁.unregistered relid).temporary_duckdb_tables =
            s.temporary_duckdb_tables.erase relid := by
          unfold Backend.unregistered
          rw [saveTemporaryTables_eq, htables₁]
        obtain ⟨s₃, hrun₃, hkept₃, hddb₃⟩ := ih hkept₂.guarded (n := n + 1) fun _ => hddb₂
        refine ⟨s₃, ?_, (hkept₁.trans hkept₂).trans hkept₃, ?_⟩
        · have hunregister : (UnregisterDuckdbTempTable relid).run s₁ =
            .ok () (s₁.unregistered relid) := rfl
          simp [PgDuckdb.dropTemporary, Backend.IsDuckdbTempTable, hmem, hrun₁, hunregister, hrun₃,
            registeredCount, htables₂]
          omega
        · simp [hddb₃, hddb₂, registeredCount, hmem]
      · obtain ⟨s₁, hrun₁, hkept₁, hddb₁⟩ := ih h hn
        refine ⟨s₁, ?_, hkept₁, ?_⟩
        · simp [PgDuckdb.dropTemporary, Backend.IsDuckdbTempTable, hmem, hrun₁, registeredCount]
        · simp [hddb₁, registeredCount, hmem]
    | _ => exact ih h hn

/-- The DuckDB relations that a drop forwards to DuckDB. -/
def forwardedCount (s : Backend) (objects : List DroppedObject) : Nat :=
  (if s.motherduck_enabled then objects.count .recorded else 0) +
    registeredCount s.temporary_duckdb_tables objects

/-- Forwarding the drops of a guarded backend succeeds. -/
theorem Guarded.forwardDrops (h : Guarded mode s) (hused : s.currentCommandIdUsed = false)
    (objects : List DroppedObject) :
    ∃ s', (forwardDrops objects).run s = .ok (forwardedCount s objects) s' ∧ Kept mode s s' ∧
      s'.ddbDidWrites = (s.ddbDidWrites || decide (forwardedCount s objects ≠ 0)) := by
  obtain ⟨s₁, hrun₁, hkept₁, htables₁, hddb₁⟩ : ∃ s₁,
      (dropRecordedIfEnabled objects).run s =
        .ok (if s.motherduck_enabled then objects.count .recorded else 0) s₁ ∧ Kept mode s s₁ ∧
      s₁.temporary_duckdb_tables = s.temporary_duckdb_tables ∧
      s₁.ddbDidWrites = (s.ddbDidWrites ||
        decide ((if s.motherduck_enabled then objects.count .recorded else 0) ≠ 0)) := by
    cases hm : s.motherduck_enabled with
    | true =>
      obtain ⟨s₁, hrun₁, hkept₁, htables₁, hddb₁⟩ := h.dropRecorded objects (n := 0) (by simp)
      refine ⟨s₁, ?_, hkept₁, htables₁, hddb₁⟩
      simpa [dropRecordedIfEnabled, hm, h.sync] using hrun₁
    | false =>
      refine ⟨s, ?_, ⟨h, rfl, rfl, rfl, rfl, rfl⟩, rfl, by simp⟩
      simp [dropRecordedIfEnabled, hm]
  have hkept₂ : Kept mode s₁ (s₁.executed false) := by
    refine ⟨hkept₁.guarded.executed false, ?_, rfl, rfl, ?_, rfl⟩
    · rw [hkept₁.used, hused]
      rfl
    · rw [hkept₁.guarded.executed_pgDidWrites (hkept₁.used.trans hused), Bool.or_false]
  obtain ⟨s₃, hrun₃, hkept₃, hddb₃⟩ := hkept₂.guarded.dropTemporary objects
    (n := if s.motherduck_enabled then objects.count .recorded else 0)
    (fun hn => by rw [executed_ddbDidWrites, hddb₁]; simp [hn])
  have htables₂ : (s₁.executed false).temporary_duckdb_tables = s.temporary_duckdb_tables := htables₁
  rw [htables₂] at hrun₃ hddb₃
  refine ⟨s₃, ?_, (hkept₁.trans hkept₂).trans hkept₃, ?_⟩
  · simp only [PgDuckdb.forwardDrops, EStateM.run_bind, hrun₁, executePostgres_select_run, hrun₃]
    rfl
  · rw [hddb₃, executed_ddbDidWrites, hddb₁, Bool.or_assoc]
    congr 1
    rw [Bool.eq_iff_iff]
    simp only [forwardedCount, Bool.or_eq_true, decide_eq_true_eq, ne_eq, Nat.add_eq_zero_iff]
    rw [not_and_or]

/-- The outcome of the drop trigger in the state `s`, `pg` being whether command ids are
unclaimed when it fires. -/
def dropOutcome (pg : Bool) (s : Backend) (objects : List DroppedObject) : Outcome :=
  if .ddbSchema ∈ objects then .error dropsDdbSchema
  else if objects.countP DroppedObject.isRelation = 0 then .ok (pg, s.ddbDidWrites)
  else if forwardedCount s objects = 0 then .ok (true, s.ddbDidWrites)
  else if forwardedCount s objects < objects.countP DroppedObject.isRelation then
    .error dropsBothRelations
  else if forwardedCount s objects < objects.countP DroppedObject.isCounted then
    .error dropsBothObjects
  else .ok (false, true)

/-- The counters refuse a drop that reaches DuckDB and a counted object of Postgres. -/
theorem Guarded.checkDropped_run (h : Guarded mode s) (deleted relations total : Nat) :
    (checkDropped deleted relations total).run s =
      if deleted = 0 then .ok () s
      else if deleted < relations then .error dropsBothRelations s
      else if deleted < total then .error dropsBothObjects s
      else .ok () s := by
  simp only [checkDropped, onlyIf, EStateM.run_bind, EStateM.run_get, h.notAllowed, true_and,
    Nat.pos_iff_ne_zero, gt_iff_lt, ereportIf]
  by_cases h0 : deleted = 0
  · simp [h0]
  · by_cases h1 : deleted < relations
    · simp [h0, h1]
    · by_cases h2 : deleted < total <;> simp [h0, h1, h2]

/-- The drop trigger. -/
theorem Steady.drop_trigger (h : Steady mode s) (objects : List DroppedObject) :
    Meets (Steady mode) (duckdb_drop_trigger objects) s (dropOutcome s.pgDidWrites s objects) := by
  have hg := h.toGuarded.executed false
  refine Meets.step rfl (Meets.step (executePostgres_select_run _) (Meets.step rfl ?_))
  unfold dropOutcome
  by_cases hschema : .ddbSchema ∈ objects
  · rw [if_pos hschema, ereportIf, if_pos ⟨hg.sync, hschema⟩]
    exact Meets.fail rfl
  rw [if_neg hschema, ereportIf, if_neg (fun h => hschema h.2)]
  refine Meets.step rfl ?_
  by_cases hrelations : objects.countP DroppedObject.isRelation = 0
  · rw [if_pos hrelations, onlyIf, if_neg (fun h => h hrelations)]
    refine Meets.of_ok rfl ⟨hg, rfl, h.nest, h.ddl⟩ ?_
    rw [h.executed_pgDidWrites h.used]
    simp
  rw [if_neg hrelations, onlyIf, if_pos hrelations]
  refine Meets.step hg.writeDuckdbTables ?_
  obtain ⟨s₁, hrun₁, hkept₁, hddb₁⟩ := (hg.executed true).forwardDrops rfl objects
  have hcount : forwardedCount ((s.executed false).executed true) objects =
    forwardedCount s objects := rfl
  rw [hcount] at hrun₁ hddb₁
  refine Meets.step hrun₁ (Meets.step rfl ?_)
  have htop : Guarded mode (s₁.withTop s.top_level_statement) := hkept₁.guarded.withTop h.top
  have hcheck := htop.checkDropped_run (forwardedCount s objects)
    (objects.countP DroppedObject.isRelation) (objects.countP DroppedObject.isCounted)
  have hpg : s₁.pgDidWrites = true := by
    rw [hkept₁.pg, hg.executed_pgDidWrites rfl, Bool.or_true]
  by_cases h0 : forwardedCount s objects = 0
  · rw [if_pos h0] at hcheck ⊢
    refine Meets.step hcheck ?_
    rw [onlyIf, if_neg (by omega)]
    refine Meets.of_ok rfl ⟨htop, hkept₁.used, hkept₁.nest.trans h.nest, hkept₁.ddl.trans h.ddl⟩ ?_
    simp [hpg, hddb₁, h0]
  rw [if_neg h0] at hcheck ⊢
  by_cases h1 : forwardedCount s objects < objects.countP DroppedObject.isRelation
  · rw [if_pos h1] at hcheck ⊢
    exact Meets.fail hcheck
  rw [if_neg h1] at hcheck ⊢
  by_cases h2 : forwardedCount s objects < objects.countP DroppedObject.isCounted
  · rw [if_pos h2] at hcheck ⊢
    exact Meets.fail hcheck
  rw [if_neg h2] at hcheck ⊢
  refine Meets.step hcheck ?_
  rw [onlyIf, if_pos (by omega)]
  refine Meets.of_ok (claim_forced _)
    ⟨htop.claimed, rfl, hkept₁.nest.trans h.nest, hkept₁.ddl.trans h.ddl⟩ ?_
  simp [hddb₁, h0]

/-- Taking ids keeps the state between two commands. -/
theorem Steady.usedIds (h : Steady mode s) (n : Nat) : Steady mode (s.usedIds n) :=
  ⟨h.toGuarded.usedIds n, usedIds_used h.used n, h.nest, h.ddl⟩

/-- Postgres has unclaimed command ids when the drop trigger fires. -/
theorem Steady.processDrop (h : Steady mode s) (stmt : Drop) :
    Meets (Steady mode) (processDrop stmt) s
      (if stmt.objects = [] then .ok (s.pgDidWrites, s.ddbDidWrites)
        else dropOutcome true s stmt.objects) := by
  by_cases hobjects : stmt.objects = []
  · rw [if_pos hobjects, PgDuckdb.processDrop, onlyIf, if_neg (fun h => h hobjects)]
    exact Meets.of_ok rfl h rfl
  · rw [if_neg hobjects, PgDuckdb.processDrop, onlyIf, if_pos hobjects]
    refine Meets.step (useCommandIds_run s _) ?_
    have htrigger := (h.usedIds (stmt.ids + 1)).drop_trigger stmt.objects
    rw [h.usedIds_pgDidWrites, decide_eq_true (Nat.succ_pos stmt.ids), Bool.or_true] at htrigger
    exact htrigger

/-- The whole of a drop. -/
theorem Steady.drop (h : Steady mode s) (stmt : Drop) :
    Meets (Steady mode) (do DuckdbHandleDDLPre_drop stmt.kind; PgDuckdb.processDrop stmt) s
      (if true ∈ stmt.kind.names ∧ s.pgDidWrites = true then .error mixedWrites
        else if true ∈ stmt.kind.names ∧ false ∈ stmt.kind.names then .error stmt.kind.mixed
        else if stmt.objects = [] then .ok (s.pgDidWrites, s.ddbDidWrites)
        else dropOutcome true s stmt.objects) := by
  have hpre := h.toGuarded.dropPre_run stmt.kind
  by_cases hnamed : true ∈ stmt.kind.names
  · simp only [hnamed, true_and, if_true] at hpre ⊢
    cases hu : s.pgDidWrites with
    | true =>
      rw [hu, if_pos rfl] at hpre
      exact Meets.fail hpre
    | false =>
      simp only [hu, Bool.false_eq_true, if_false] at hpre ⊢
      by_cases hboth : false ∈ stmt.kind.names
      · rw [if_pos hboth] at hpre ⊢
        exact Meets.fail hpre
      · rw [if_neg hboth] at hpre ⊢
        have hprocess := h.claimed.processDrop stmt
        rw [claimed_pgDidWrites, claimed_ddbDidWrites] at hprocess
        exact Meets.step hpre hprocess
  · simp only [hnamed, false_and, if_false] at hpre ⊢
    exact Meets.step hpre (h.processDrop stmt)

/-! ## Commands -/

/-- A DuckDB query that is planned below another executor is refused, unless the setting allows
it. -/
def refusedInside (mode : Mode) (s : Backend) (planned : Bool) : Prop :=
  planned = true ∧ mode.nestLevel > 0 ∧ s.unsafe_allow_execution_inside_functions = false

/-- Whether a query is refused inside another is decided by the settings. -/
instance (mode : Mode) (s : Backend) (planned : Bool) : Decidable (refusedInside mode s planned) :=
  inferInstanceAs (Decidable (_ ∧ _ ∧ _))

/-- The outcome of a command in the state `s`. -/
def Command.outcome (mode : Mode) (s : Backend) : Command → Outcome
  | .pgSelect locking => .ok (s.pgDidWrites || locking, s.ddbDidWrites)
  | .pgDml planning =>
    if planning = .planned ∧ s.ddbDidWrites = true then .error mixedWrites
    else .ok (true, s.ddbDidWrites)
  | .pgUtility _ => .ok (true, s.ddbDidWrites)
  | .duckdbSelect planned writes =>
    if refusedInside mode s planned then .error executionInsideFunctions
    else if s.pgDidWrites && (s.ddbDidWrites || writes) then .error mixedWrites
    else .ok (s.pgDidWrites, s.ddbDidWrites || writes)
  | .duckdbDml planned =>
    if planned = true ∧ (s.pgDidWrites && s.ddbDidWrites) = true then .error mixedWrites
    else if refusedInside mode s planned then .error executionInsideFunctions
    else if s.pgDidWrites then .error mixedWrites
    else .ok (false, true)
  | .rawQuery writes => .ok (s.pgDidWrites, s.ddbDidWrites || writes)
  | .createTable stmt =>
    if s.pgDidWrites then .error mixedWrites else createTableOutcome s stmt
  | .alterTable _ _ => if s.pgDidWrites then .error mixedWrites else .ok (false, true)
  | .drop stmt =>
    if true ∈ stmt.kind.names ∧ s.pgDidWrites = true then .error mixedWrites
    else if true ∈ stmt.kind.names ∧ false ∈ stmt.kind.names then .error stmt.kind.mixed
    else if stmt.objects = [] then .ok (s.pgDidWrites, s.ddbDidWrites)
    else dropOutcome true s stmt.objects
  | .copyFrom => .ok (s.pgDidWrites, true)
  | .truncate ids => .ok (s.pgDidWrites || decide (0 < ids), true)

/-- An execution keeps the state between two commands. -/
theorem Steady.executed (h : Steady mode s) (usesCommandId : Bool) :
    Steady mode (s.executed usesCommandId) :=
  ⟨h.toGuarded.executed usesCommandId, rfl, h.nest, h.ddl⟩

/-- The planner hook of a DuckDB query, before whatever executes the query. -/
theorem Steady.plan (h : Steady mode s) (planned isSelect : Bool) {q : BackendM Unit} {o : Outcome}
    (hq : ∀ s', Steady mode s' → s'.pgDidWrites = s.pgDidWrites →
      s'.ddbDidWrites = s.ddbDidWrites → Meets (Steady mode) q s' o) :
    Meets (Steady mode) (do onlyIf (planned = true) (DuckdbPlannerHook_Cpp true isSelect); q) s
      (if planned = true ∧ isSelect = false ∧ (s.pgDidWrites && s.ddbDidWrites) = true then
          .error mixedWrites
        else if refusedInside mode s planned then .error executionInsideFunctions
        else o) := by
  cases planned with
  | false =>
    rw [if_neg (by simp), if_neg (by simp [refusedInside])]
    exact Meets.step rfl (hq s h rfl rfl)
  | true =>
    have hplan := h.toGuarded.planDuckdb isSelect
    rw [onlyIf, if_pos rfl]
    simp only [refusedInside, true_and, ← h.nest]
    by_cases hmixed : isSelect = false ∧ (s.pgDidWrites && s.ddbDidWrites) = true
    · rw [if_pos hmixed] at hplan ⊢
      exact Meets.fail hplan
    rw [if_neg hmixed] at hplan ⊢
    by_cases hnest : s.executor_nest_level > 0 ∧ s.unsafe_allow_execution_inside_functions = false
    · rw [if_pos hnest] at hplan ⊢
      exact Meets.fail hplan
    · rw [if_neg hnest] at hplan ⊢
      exact Meets.step hplan (hq _ h.connected (by simp) (by simp))

/-- Without an id in use the counter stays where it is. -/
theorem CommandCounterIncrement_unused (h : s.currentCommandIdUsed = false) :
    CommandCounterIncrement.run s = .ok () s := by
  simp [CommandCounterIncrement, h]

/-- A call of `duckdb.raw_query` writes without a claim. -/
theorem Steady.rawQuery (h : Steady mode s) (writes : Bool) :
    Meets (Steady mode) ((Command.rawQuery writes).run mode) s
      (.ok (s.pgDidWrites, s.ddbDidWrites || writes)) := by
  have hplan := DuckdbPlannerHook_postgres_run s true
  rw [if_neg (by simp)] at hplan
  have hg : Guarded mode (s.withTop false).nested :=
    ⟨h.mixed, h.force, h.sync, h.sub, h.ids, h.block, fun _ => rfl⟩
  have hstart : (DuckdbExecutorStartHook false true false).run (s.withTop false) =
    .ok () (s.withTop false).nested := rfl
  refine Meets.step hplan (Meets.step hstart (Meets.step (hg.query writes) ?_))
  have hs : Steady mode (s.withTop false) :=
    ⟨h.toGuarded.withTop fun _ => rfl, h.used, h.nest, h.ddl⟩
  cases writes with
  | true =>
    have hfinish : (DuckdbExecutorFinishHook false).run (s.withTop false).nested.written =
      .ok () (s.withTop false).written := rfl
    exact Meets.step hfinish
      (Meets.of_ok (CommandCounterIncrement_unused h.used) hs.written (by simp))
  | false =>
    have hfinish : (DuckdbExecutorFinishHook false).run (s.withTop false).nested.connected =
      .ok () (s.withTop false).connected := rfl
    exact Meets.step hfinish
      (Meets.of_ok (CommandCounterIncrement_unused h.used) hs.connected (by simp))

/-- Every command has the outcome the ledger says. -/
theorem Command.meets (h : Steady mode s) (c : Command) :
    Meets (Steady mode) (c.run mode) s (c.outcome mode s) := by
  cases c with
  | pgSelect locking =>
    have hrun := executePostgres_run s .planned true locking
    rw [if_neg (by simp)] at hrun
    refine Meets.of_ok hrun (h.executed locking) ?_
    rw [h.executed_pgDidWrites h.used]
    rfl
  | pgDml planning =>
    have hrun := executePostgres_run s planning false true
    simp only [h.AllowWrites_eq, true_and, Bool.not_eq_false'] at hrun
    rw [Command.outcome]
    by_cases hrefused : planning = .planned ∧ s.ddbDidWrites = true
    · rw [if_pos hrefused] at hrun ⊢
      exact Meets.of_error hrun
    · rw [if_neg hrefused] at hrun ⊢
      refine Meets.of_ok hrun (h.executed true) ?_
      rw [h.executed_pgDidWrites h.used, Bool.or_true]
      rfl
  | pgUtility ids =>
    refine h.utility (Meets.step rfl (Meets.of_ok (useCommandIds_run _ _)
      (h.withTop.usedIds (ids + 1)) ?_))
    rw [h.withTop.usedIds_pgDidWrites]
    simp [Command.outcome]
  | duckdbSelect planned writes =>
    have hplan := h.plan planned true fun s' hs' hpg hddb => by
      have hexecute := hs'.executeSelect writes
      rw [hpg, hddb] at hexecute
      exact hexecute
    rw [if_neg (by simp)] at hplan
    exact hplan
  | duckdbDml planned =>
    have hplan := h.plan planned false fun s' hs' hpg hddb => by
      have hexecute := hs'.executeDml
      rw [hpg] at hexecute
      exact hexecute
    simp only [true_and] at hplan
    exact hplan
  | rawQuery writes => exact h.rawQuery writes
  | createTable stmt => exact h.utility (h.withTop.createTable stmt)
  | alterTable kind ids => exact h.utility (h.withTop.alterTable kind ids)
  | drop stmt => exact h.utility (h.withTop.drop stmt)
  | copyFrom =>
    exact Meets.step (h.toGuarded.query true)
      (Meets.of_ok (CommandCounterIncrement_unused h.used) h.written rfl)
  | truncate ids =>
    have hpg := h.withTop.written.usedIds_pgDidWrites ids
    refine h.utility (Meets.step rfl (Meets.step (h.withTop.toGuarded.query true)
      (Meets.of_ok (useCommandIds_run _ _) (h.withTop.written.usedIds ids) ?_)))
    rw [if_pos rfl, hpg]
    rfl

end

end PgDuckdb
