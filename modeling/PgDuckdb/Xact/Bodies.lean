import PgDuckdb.Xact.Outcome

/-!
# Bodies of top-level statements

The commands of a top-level `DO` or `CALL` start out as parts of a statement that counts as a top-level
one: the utility hook says so, and nothing has been planned or executed around them. Until Postgres plans
or executes a query of the body, DuckDB commits each of its statements at once and mixed writes are
allowed (`TopLevel`); a utility statement of the body is below the top level, but leaves the level as it
was. `Command.outcomeAt` is what a command does at either level, and `Command.meetsAt` that its program
does that.
-/

namespace PgDuckdb

/-! ## At the top level -/

/-- A body in which Postgres has planned and executed no query so far. -/
structure TopLevel (s : Backend) : Prop where
  top : s.top_level_statement = true
  steady : Steady .body (s.withTop false)

/-- The state after a write of DuckDB, in the transaction that the connection has, if any. -/
def Backend.wrote (s : Backend) : Backend :=
  { s.opened with modifiedDatabase := s.opened.modifiedDatabase || s.opened.hasActiveTransaction }

/-- Outside blocks and subtransactions a connection begins no DuckDB transaction. -/
theorem GetConnection_autocommit {s : Backend} (hsub : s.subTransactions = 0)
    (hblock : s.pgIsInTransactionBlock = false) : (GetConnection false).run s = .ok () s.opened := by
  rw [GetConnection_run, hblock]
  split
  · rfl
  · simp [hsub]

@[simp] theorem opened_pgDidWrites (s : Backend) : s.opened.pgDidWrites = s.pgDidWrites := by
  rw [Backend.opened_eq]
  rfl

@[simp] theorem opened_ddbDidWrites (s : Backend) : s.opened.ddbDidWrites = s.ddbDidWrites := by
  rw [Backend.opened_eq]
  cases hi : s.initialized <;> simp [Backend.ddbDidWrites, hi]

@[simp] theorem wrote_pgDidWrites (s : Backend) : s.wrote.pgDidWrites = s.pgDidWrites :=
  opened_pgDidWrites s

/-- A write is one of the transaction exactly where there is a transaction. -/
@[simp] theorem wrote_ddbDidWrites (s : Backend) :
    s.wrote.ddbDidWrites = (s.initialized && s.hasActiveTransaction) := by
  unfold Backend.wrote
  rw [Backend.opened_eq]
  cases hi : s.initialized <;> cases ha : s.hasActiveTransaction <;> simp [Backend.ddbDidWrites]

namespace TopLevel
variable {s : Backend}

/-- At the top level there is no transaction block. -/
theorem notInBlock (h : TopLevel s) : s.pgIsInTransactionBlock = false := by
  have hblock : s.transactionBlock = false := h.steady.block
  have hsub : s.subTransactions = 0 := h.steady.sub
  simp [Backend.pgIsInTransactionBlock, Backend.isInTransactionBlock, hblock, hsub, h.top]

/-- At the top level mixed writes are allowed. -/
theorem MixedWritesAllowed (h : TopLevel s) : s.MixedWritesAllowed = true := by
  simp [Backend.MixedWritesAllowed, h.notInBlock]

/-- At the top level a claim of an id is never refused. -/
theorem claim (h : TopLevel s) (force : Bool) :
    (ClaimCurrentCommandId force).run s = .ok () s.claimed := by
  rw [ClaimCurrentCommandId_run, h.MixedWritesAllowed]
  simp

/-- At the top level a connection only opens DuckDB. -/
theorem connect (h : TopLevel s) : (GetConnection false).run s = .ok () s.opened :=
  GetConnection_autocommit h.steady.sub h.notInBlock

/-- Opening DuckDB keeps the body at the top level. -/
theorem opened (h : TopLevel s) : TopLevel s.opened := by
  have hs := h.steady
  rw [Backend.opened_eq]
  exact ⟨h.top, ⟨⟨hs.mixed, hs.force, hs.sync, hs.sub, hs.ids, hs.block, hs.toGuarded.top⟩, hs.used, hs.nest,
    hs.ddl⟩⟩

/-- A claim keeps the body at the top level. -/
theorem claimed (h : TopLevel s) : TopLevel s.claimed := ⟨h.top, h.steady.claimed⟩

/-- A write keeps the body at the top level. -/
theorem wrote (h : TopLevel s) : TopLevel s.wrote := by
  have hs := h.opened.steady
  exact ⟨h.opened.top, ⟨⟨hs.mixed, hs.force, hs.sync, hs.sub, hs.ids, hs.block, hs.toGuarded.top⟩, hs.used,
    hs.nest, hs.ddl⟩⟩

/-! ### DuckDB queries -/

/-- Neither check of the planner hook applies. -/
theorem planDuckdb (h : TopLevel s) (isSelect : Bool) :
    (DuckdbPlannerHook_Cpp true isSelect).run s = .ok () s.opened := by
  have hnest : s.executor_nest_level = 0 := h.steady.nest
  have hmixed : s.DidDisallowedMixedWrites = false := by
    simp [Backend.DidDisallowedMixedWrites, h.MixedWritesAllowed]
  simp only [DuckdbPlannerHook_Cpp, IsAllowedStatement, ereportIf, if_true, EStateM.run_bind,
    EStateM.run_get, hmixed, hnest, Bool.false_eq_true, and_false, if_false, gt_iff_lt, Nat.lt_irrefl,
    false_and, EStateM.run_pure, h.connect]

/-- The end of a DuckDB query claims whatever else has been written. -/
theorem finish (h : TopLevel s) :
    Meets TopLevel (do DuckdbExecutorFinishHook true; CommandCounterIncrement) s.nested
      (.ok (!s.ddbDidWrites && s.pgDidWrites, s.ddbDidWrites)) := by
  have hfinish : (DuckdbExecutorFinishHook true).run s.nested =
      if s.ddbDidWrites then (ClaimCurrentCommandId false).run s else .ok () s := by
    cases hd : s.ddbDidWrites with
    | true => simp [DuckdbExecutorFinishHook, onlyIf, Backend.nested, hd]
    | false => simp [DuckdbExecutorFinishHook, onlyIf, Backend.nested, hd]
  cases hd : s.ddbDidWrites with
  | false =>
    rw [hd, if_neg (by simp)] at hfinish
    refine Meets.step hfinish (Meets.of_ok (CommandCounterIncrement_unused h.steady.used) h ?_)
    simp [hd]
  | true =>
    rw [hd, if_pos rfl, h.claim] at hfinish
    refine Meets.step hfinish (Meets.of_ok (CommandCounterIncrement_unused rfl) h.claimed ?_)
    simp [hd]

/-- A SELECT at the top level. -/
theorem executeSelect (h : TopLevel s) (writes : Bool) :
    Meets TopLevel (do
        DuckdbExecutorStartHook true true false
        onlyIf (writes = true) duckdbWrite
        DuckdbExecutorFinishHook true
        CommandCounterIncrement) s
      (if writes then
          .ok (!(s.initialized && s.hasActiveTransaction) && s.pgDidWrites,
            s.initialized && s.hasActiveTransaction)
        else .ok (!s.ddbDidWrites && s.pgDidWrites, s.ddbDidWrites)) := by
  have hconnect : (GetConnection false).run s.nested = .ok () s.nested.opened :=
    GetConnection_autocommit h.steady.sub h.notInBlock
  have hnested : s.nested.opened = s.opened.nested := by
    rw [Backend.opened_eq, Backend.opened_eq]
    rfl
  have hstart : (DuckdbExecutorStartHook true true false).run s = .ok () s.opened.nested := by
    simp [DuckdbExecutorStartHook, GetCurrentCommandId, onlyIf, Backend.nested] at hconnect hnested ⊢
    rw [hconnect, hnested]
  refine Meets.step hstart ?_
  cases writes with
  | false =>
    refine Meets.step rfl ?_
    simpa using h.opened.finish
  | true =>
    have hwrite : duckdbWrite.run s.opened.nested = .ok () s.wrote.nested := rfl
    refine Meets.step hwrite ?_
    simpa using h.wrote.finish

/-- A statement that writes at the top level. -/
theorem executeDml (h : TopLevel s) :
    Meets TopLevel (do
        DuckdbExecutorStartHook true false true
        onlyIf (true = true) duckdbWrite
        DuckdbExecutorFinishHook true
        CommandCounterIncrement) s
      (.ok (false, s.initialized && s.hasActiveTransaction)) := by
  have hconnect : (GetConnection false).run { s.nested with currentCommandIdUsed := true } =
      .ok () (Backend.opened { s.nested with currentCommandIdUsed := true }) :=
    GetConnection_autocommit h.steady.sub h.notInBlock
  have hclaim : (ClaimCurrentCommandId false).run
        (Backend.opened { s.nested with currentCommandIdUsed := true }) = .ok () s.claimed.opened.nested := by
    have hallowed : (Backend.opened { s.nested with currentCommandIdUsed := true }).MixedWritesAllowed = true := by
      rw [Backend.opened_eq]
      exact h.MixedWritesAllowed
    rw [ClaimCurrentCommandId_run, hallowed, if_neg (by simp), Backend.opened_eq, Backend.opened_eq]
    rfl
  have hstart : (DuckdbExecutorStartHook true false true).run s = .ok () s.claimed.opened.nested := by
    simp [DuckdbExecutorStartHook, GetCurrentCommandId, onlyIf, Backend.nested] at hconnect hclaim ⊢
    rw [hconnect]
    exact hclaim
  have hwrite : duckdbWrite.run s.claimed.opened.nested = .ok () s.claimed.wrote.nested := rfl
  refine Meets.step hstart (Meets.step hwrite ?_)
  have hfinish := h.claimed.wrote.finish
  simp only [wrote_pgDidWrites, claimed_pgDidWrites, Bool.and_false, wrote_ddbDidWrites] at hfinish
  exact hfinish

/-- The planner hook of a DuckDB query, before whatever executes the query. -/
theorem plan (h : TopLevel s) (planned isSelect : Bool) {q : BackendM Unit} {o : Outcome}
    (hq : ∀ s', TopLevel s' → s'.pgDidWrites = s.pgDidWrites → s'.ddbDidWrites = s.ddbDidWrites →
      (s'.initialized && s'.hasActiveTransaction) = (s.initialized && s.hasActiveTransaction) →
      Meets TopLevel q s' o) :
    Meets TopLevel (do onlyIf (planned = true) (DuckdbPlannerHook_Cpp true isSelect); q) s o := by
  cases planned with
  | false => exact Meets.step rfl (hq s h rfl rfl rfl)
  | true =>
    rw [onlyIf, if_pos rfl]
    refine Meets.step (h.planDuckdb isSelect) (hq _ h.opened (by simp) (by simp) ?_)
    rw [Backend.opened_eq]
    simp

end TopLevel

/-! ## Commands -/

/-- The outcome of a command of a body at the top level. Outside a transaction of DuckDB its writes are
committed at once, and a claim passes over the writes of Postgres. -/
def Command.outcomeTop (s : Backend) : Command → Outcome
  | .pgDml _ => .ok (true, s.ddbDidWrites)
  | .duckdbSelect _ writes =>
    if writes then
      .ok (!(s.initialized && s.hasActiveTransaction) && s.pgDidWrites,
        s.initialized && s.hasActiveTransaction)
    else .ok (!s.ddbDidWrites && s.pgDidWrites, s.ddbDidWrites)
  | .duckdbDml _ => .ok (false, s.initialized && s.hasActiveTransaction)
  | .copyFrom => .ok (s.pgDidWrites, s.initialized && s.hasActiveTransaction)
  | c => c.outcome .body s

/-- The state between two commands: a body is at the top level or below it. -/
def Rests (mode : Mode) (s : Backend) : Prop := Steady mode s ∨ mode = .body ∧ TopLevel s

/-- A query that Postgres plans or executes takes the body below the top level. -/
theorem TopLevel.executed {s : Backend} (h : TopLevel s) (usesCommandId : Bool) :
    Steady .body (s.executed usesCommandId) := h.steady.executed usesCommandId

/-- A utility statement of a body runs below the top level. -/
theorem TopLevel.utility {s : Backend} (h : TopLevel s) {pre process : BackendM Unit} {o : Outcome}
    (hmeets : Meets (Steady .body) (do pre; process) (s.withTop false) o) :
    Meets TopLevel (DuckdbUtilityHook_Cpp (Mode.body = .explicitBlock) pre process) s o := by
  refine (@utility_meets .body _ _ _ _ hmeets).mono ?_
  rintro _ ⟨s₁, hs₁, rfl⟩
  rw [h.top]
  exact ⟨rfl, hs₁.withTop⟩

/-- Every command of a body at the top level has the outcome the ledger says. -/
theorem Command.meetsTop {s : Backend} (h : TopLevel s) (c : Command) :
    Meets (Rests .body) (c.run .body) s (c.outcomeTop s) := by
  have htop {p : BackendM Unit} {o : Outcome} (hp : Meets TopLevel p s o) : Meets (Rests .body) p s o :=
    hp.mono fun _ hs => .inr ⟨rfl, hs⟩
  have hbelow {p : BackendM Unit} {o : Outcome} (hp : Meets (Steady .body) p s o) :
      Meets (Rests .body) p s o := hp.mono fun _ hs => .inl hs
  cases c with
  | pgSelect locking =>
    have hrun := executePostgres_run s .planned true locking
    rw [if_neg (by simp)] at hrun
    refine hbelow (Meets.of_ok hrun (h.executed locking) ?_)
    have hpg : (s.executed locking).pgDidWrites = (s.pgDidWrites || locking) :=
      h.steady.executed_pgDidWrites h.steady.used locking
    rw [hpg]
    rfl
  | pgDml planning =>
    have hallowed : s.AllowWrites = true := by simp [Backend.AllowWrites, h.MixedWritesAllowed]
    have hrun := executePostgres_run s planning false true
    rw [if_neg (by simp [hallowed])] at hrun
    refine hbelow (Meets.of_ok hrun (h.executed true) ?_)
    have hpg : (s.executed true).pgDidWrites = (s.pgDidWrites || true) :=
      h.steady.executed_pgDidWrites h.steady.used true
    rw [hpg, Bool.or_true]
    rfl
  | pgUtility ids =>
    refine htop (h.utility (Meets.step rfl (Meets.of_ok (useCommandIds_run _ _)
      (h.steady.usedIds (ids + 1)) ?_)))
    rw [h.steady.usedIds_pgDidWrites]
    simp [Command.outcomeTop, Command.outcome]
  | duckdbSelect planned writes =>
    refine htop (h.plan planned true fun s' hs' hpg hddb hactive => ?_)
    have hexecute := hs'.executeSelect writes
    rw [hpg, hddb, hactive] at hexecute
    exact hexecute
  | duckdbDml planned =>
    refine htop (h.plan planned false fun s' hs' _ _ hactive => ?_)
    have hexecute := hs'.executeDml
    rw [hactive] at hexecute
    exact hexecute
  | rawQuery writes => exact hbelow (h.steady.rawQuery writes)
  | createTable stmt => exact htop (h.utility (h.steady.createTable stmt))
  | alterTable kind ids => exact htop (h.utility (h.steady.alterTable kind ids))
  | drop stmt => exact htop (h.utility (h.steady.drop stmt))
  | copyFrom =>
    have hquery : (DuckDBQueryOrThrow true).run s = .ok () s.wrote := by
      simp only [DuckDBQueryOrThrow, onlyIf, EStateM.run_bind, h.connect]
      rfl
    exact htop (Meets.step hquery
      (Meets.of_ok (CommandCounterIncrement_unused h.wrote.steady.used) h.wrote
        (by simp [Command.outcomeTop])))
  | truncate ids =>
    have hpg := h.steady.written.usedIds_pgDidWrites ids
    refine htop (h.utility (Meets.step rfl (Meets.step (h.steady.toGuarded.query true)
      (Meets.of_ok (useCommandIds_run _ _) (h.steady.written.usedIds ids) ?_))))
    rw [if_pos rfl, hpg]
    rfl

/-- The outcome of a command at the level of the state. -/
def Command.outcomeAt (mode : Mode) (s : Backend) (c : Command) : Outcome :=
  if mode = .body ∧ s.top_level_statement = true then c.outcomeTop s else c.outcome mode s

/-- Every command has the outcome the ledger says. -/
theorem Command.meetsAt {mode : Mode} {s : Backend} (h : Rests mode s) (c : Command) :
    Meets (Rests mode) (c.run mode) s (c.outcomeAt mode s) := by
  rcases h with hs | ⟨rfl, hs⟩
  · rw [outcomeAt, if_neg]
    · exact (c.meets hs).mono fun _ hs' => .inl hs'
    · rintro ⟨rfl, htop⟩
      have := hs.top (by decide)
      rw [htop] at this
      cases this
  · rw [outcomeAt, if_pos ⟨rfl, hs.top⟩]
    exact c.meetsTop hs

end PgDuckdb
