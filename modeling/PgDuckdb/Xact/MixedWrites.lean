import PgDuckdb.Lib.Run
import PgDuckdb.Xact.Bodies
import PgDuckdb.Xact.History

/-!
# Transactions that write to both systems

The detector of mixed writes is one number: the command id that the next DuckDB write expects.
`not_mixed_of_commit` says what it detects, for every sequence of commands in an explicit block, in a
function, or in the body of a `DO` or `CALL`, that keeps to `Command.allowed`. The proof carries an
invariant (`Sound`) over the ledger of `Command.outcomeAt`: a write to Postgres stays an unclaimed
command id, and in a block a write to DuckDB stays in DuckDB's open transaction.
-/

namespace PgDuckdb

open Lib

/-! ## The start of a transaction -/

/-- The backend between transactions, with the settings that forbid mixed writes. A DuckDB transaction may
be open that the last transaction left behind. -/
structure Ready (s : Backend) : Prop extends Fresh s, Idle s where
  mixed : s.unsafe_allow_mixed_transactions = false
  sync : s.doing_motherduck_sync = false

/-- Where the variables of the transaction are fresh, only the settings are left to check. -/
theorem ready_of_history (history : List Transaction)
    (h : StepsOk runTransaction LeavesFresh Backend.initial history)
    (hmixed : (history.foldl runTransaction Backend.initial).unsafe_allow_mixed_transactions =
      false)
    (hsync : (history.foldl runTransaction Backend.initial).doing_motherduck_sync = false) :
    Ready (history.foldl runTransaction Backend.initial) :=
  ⟨h.invariant ⟨rfl, rfl, rfl⟩ fun _ _ hs hok => fresh_runTransaction hs hok,
    idle_of_history history, hmixed, hsync⟩

/-- The first command of a transaction: in a block after `BEGIN`, in a function after Postgres has
planned and started the query that calls it, in another body after the utility hook has seen the `DO` or
`CALL`. Before each command of a function Postgres makes visible what was written up to then. -/
def Backend.begin (s : Backend) : Mode → Backend
  | .explicitBlock => s.startTransaction true
  | .function modifying => stateAfter (do
      DuckdbPlannerHook_Cpp false !modifying
      DuckdbExecutorStartHook false (!modifying) modifying
      CommandCounterIncrement) (s.startTransaction false)
  | .body => stateAfter (SetStatementTopLevel true) (s.startTransaction false)

/-- The first command of a function finds it below the top level, and the write of a query that modifies a
table unclaimed. -/
theorem Ready.function {s : Backend} (h : Ready s) (modifying : Bool) :
    Steady (.function modifying) (s.begin (.function modifying)) ∧
      (s.begin (.function modifying)).pgDidWrites = modifying := by
  have hallowed : (s.startTransaction false).AllowWrites = true := by
    simp [Backend.AllowWrites, Backend.MixedWritesAllowed, Backend.pgIsInTransactionBlock,
      Backend.isInTransactionBlock, Backend.startTransaction, h.top]
  have hplan := DuckdbPlannerHook_postgres_run (s.startTransaction false) !modifying
  rw [if_neg (by simp [hallowed])] at hplan
  have hnest : s.executor_nest_level + 1 = (Mode.function modifying).nestLevel := congrArg (· + 1) h.nest
  have hid := h.next_expected_command_id
  cases modifying with
  | false =>
    have hbegin : s.begin (.function false) = { s.startTransaction false with
        top_level_statement := false, executor_nest_level := s.executor_nest_level + 1 } := by
      rw [Backend.begin, stateAfter, EStateM.run_bind, hplan]
      rfl
    rw [hbegin]
    refine ⟨⟨⟨h.mixed, h.force_allow_writes, h.sync, rfl, hid.le, rfl, fun _ => rfl⟩, rfl, hnest, h.ddl⟩, ?_⟩
    simp [Backend.pgDidWrites, Backend.startTransaction, FirstCommandId]
  | true =>
    have hbegin : s.begin (.function true) = { s.startTransaction false with
        top_level_statement := false, executor_nest_level := s.executor_nest_level + 1
        currentCommandId := FirstCommandId + 1 } := by
      rw [Backend.begin, stateAfter, EStateM.run_bind, hplan]
      rfl
    rw [hbegin]
    refine ⟨⟨⟨h.mixed, h.force_allow_writes, h.sync, rfl, hid.le.trans (Nat.zero_le _), rfl, fun _ => rfl⟩,
      rfl, hnest, h.ddl⟩, ?_⟩
    simp [Backend.pgDidWrites, Backend.startTransaction, hid, FirstCommandId]

/-- A transaction block starts between two commands. -/
theorem Ready.block {s : Backend} (h : Ready s) : Steady .explicitBlock (s.begin .explicitBlock) :=
  ⟨⟨h.mixed, h.force_allow_writes, h.sync, rfl, h.next_expected_command_id.le, rfl, fun hmode => absurd rfl hmode⟩,
    rfl, h.nest, h.ddl⟩

/-- A body starts between two commands. -/
theorem Ready.rests {s : Backend} (h : Ready s) (mode : Mode) : Rests mode (s.begin mode) := by
  cases mode with
  | explicitBlock => exact .inl h.block
  | function modifying => exact .inl (h.function modifying).1
  | body =>
    exact .inr ⟨rfl, rfl, ⟨h.mixed, h.force_allow_writes, h.sync, rfl, h.next_expected_command_id.le, rfl,
      fun _ => rfl⟩, rfl, h.nest, h.ddl⟩

/-! ## What a command writes -/

/-- A dropped object that is not part of DuckDB, `tables` being the temporary DuckDB tables. -/
def DroppedObject.isPostgres (tables : Finset Oid) : DroppedObject → Bool
  | .recorded => false
  | .temporary relid => relid ∉ tables
  | .relation | .ddbSchema | .counted => true
  | .uncounted own => own

/-- A command that writes to Postgres on behalf of the user. The rows of `duckdb.tables` and the
catalog changes for a DuckDB table are not such writes. -/
def Command.pgWrites (s : Backend) : Command → Bool
  | .pgDml _ | .pgUtility _ => true
  | .drop stmt => stmt.objects.any (DroppedObject.isPostgres s.temporary_duckdb_tables)
  | _ => false

/-- A command that writes to DuckDB. -/
def Command.ddbWrites (s : Backend) : Command → Bool
  | .duckdbSelect _ writes | .rawQuery writes => writes
  | .createTable stmt => stmt.created
  | .drop stmt => forwardedCount s stmt.objects > 0
  | .duckdbDml _ | .alterTable _ _ | .copyFrom | .truncate _ => true
  | .pgSelect _ | .pgDml _ | .pgUtility _ => false

/-- A transaction under way: the backend, and which systems it has written to. -/
structure Progress where
  backend : Backend
  pgWrote : Bool
  ddbWrote : Bool

/-- A transaction before its first command. The query around a function may have written already. -/
def Progress.start (mode : Mode) (s : Backend) : Progress :=
  ⟨s.begin mode, mode = .function true, false⟩

/-- One command; a command that fails ends the run. -/
def Progress.step (mode : Mode) (p : Progress) (c : Command) : Option Progress :=
  match (c.run mode).run p.backend with
  | .ok _ s => some ⟨s, p.pgWrote || c.pgWrites p.backend, p.ddbWrote || c.ddbWrites p.backend⟩
  | .error _ _ => none

/-! ## Drops -/

/-- Each counted object is forwarded or belongs to Postgres, never both. -/
theorem forwarded_add_postgres_le {tables tables' : Finset Oid} (hsub : tables' ⊆ tables)
    (objects : List DroppedObject) :
    objects.count .recorded + registeredCount tables' objects +
        objects.countP (fun o => o.isCounted && o.isPostgres tables) ≤
      objects.countP DroppedObject.isCounted := by
  induction objects generalizing tables' with
  | nil => simp [registeredCount]
  | cons object objects ih =>
    rw [List.countP_cons, List.countP_cons]
    have hih := ih hsub
    cases object with
    | recorded =>
      rw [List.count_cons_self]
      change _ + 1 + registeredCount tables' objects + (_ + 0) ≤ _ + 1
      omega
    | temporary relid =>
      rw [List.count_cons_of_ne (by simp)]
      change _ + registeredCount tables' (.temporary relid :: objects) +
        (_ + if decide (relid ∉ tables) = true then 1 else 0) ≤ _ + 1
      by_cases hmem : relid ∈ tables'
      · have herase := ih ((Finset.erase_subset relid tables').trans hsub)
        rw [registeredCount, if_pos hmem, if_neg (by simp [hsub hmem])]
        omega
      · rw [registeredCount, if_neg hmem]
        split <;> omega
    | relation | ddbSchema | counted =>
      rw [List.count_cons_of_ne (by simp)]
      change _ + registeredCount tables' objects + (_ + 1) ≤ _ + 1
      omega
    | uncounted own =>
      rw [List.count_cons_of_ne (by simp)]
      exact hih

/-- The drops of Postgres are those that were not forwarded. -/
theorem forwardedCount_le (s : Backend) (objects : List DroppedObject) :
    forwardedCount s objects + objects.countP
        (fun o => o.isCounted && o.isPostgres s.temporary_duckdb_tables) ≤
      objects.countP DroppedObject.isCounted := by
  have h := forwarded_add_postgres_le (Finset.Subset.refl s.temporary_duckdb_tables) objects
  unfold forwardedCount
  split <;> omega

/-- A drop that the counters let pass reaches no object of Postgres but uncounted ones. -/
theorem not_isPostgres_of_counted_le {s : Backend} {objects : List DroppedObject}
    (h : objects.countP DroppedObject.isCounted ≤ forwardedCount s objects)
    (hown : .uncounted true ∉ objects) :
    objects.any (DroppedObject.isPostgres s.temporary_duckdb_tables) = false := by
  have hle := forwardedCount_le s objects
  have hzero : objects.countP
      (fun o => o.isCounted && o.isPostgres s.temporary_duckdb_tables) = 0 := by omega
  rw [List.any_eq_false]
  intro o ho hpostgres
  have hcounted := List.countP_eq_zero.mp hzero o ho
  rw [hpostgres, Bool.and_true] at hcounted
  cases o with
  | uncounted own =>
    have hown' : own = true := hpostgres
    exact hown (hown' ▸ ho)
  | _ => exact hcounted rfl

/-- A drop without tables or views forwards nothing. -/
theorem forwardedCount_le_relations (s : Backend) (objects : List DroppedObject) :
    forwardedCount s objects ≤ objects.countP DroppedObject.isRelation := by
  have h : ∀ tables : Finset Oid, objects.count .recorded + registeredCount tables objects ≤
      objects.countP DroppedObject.isRelation := by
    induction objects with
    | nil => simp [registeredCount]
    | cons object objects ih =>
      intro tables
      rw [List.countP_cons]
      have hih := ih tables
      cases object with
      | recorded =>
        rw [List.count_cons_self]
        change _ + 1 + registeredCount tables objects ≤ _ + 1
        omega
      | temporary relid =>
        rw [List.count_cons_of_ne (by simp)]
        have herase := ih (tables.erase relid)
        change _ + registeredCount tables (.temporary relid :: objects) ≤ _ + 1
        rw [registeredCount]
        split <;> omega
      | relation =>
        rw [List.count_cons_of_ne (by simp)]
        exact Nat.le_succ_of_le hih
      | ddbSchema | counted | uncounted _ =>
        rw [List.count_cons_of_ne (by simp)]
        exact hih
  have hs := h s.temporary_duckdb_tables
  unfold forwardedCount
  split <;> omega

/-! ## Soundness -/

/-- What a command has to keep to, in the transaction `p`, for the detector to see it.

A drop that reaches DuckDB drops no uncounted object of Postgres with it, and either names a DuckDB
relation (so that it claims before it drops) or follows no write to Postgres. The rest is about functions
and other bodies, where the check at the commit does not apply. There a write to Postgres that no planner
hook checks follows no write to DuckDB: one that it does not see, one at the top level of a body, and one
after DuckDB writes that were committed at once. And a write to DuckDB that no claim checks follows no
write to Postgres: one that claims nothing, and one at the top level of a body. A DuckDB query that writes
nothing claims there too, for a DuckDB transaction that was left behind. -/
def Command.allowed (mode : Mode) (p : Progress) : Command → Prop
  | .drop stmt =>
    (forwardedCount p.backend stmt.objects ≠ 0 →
      .uncounted true ∉ stmt.objects ∧ (true ∈ stmt.kind.names ∨ p.pgWrote = false)) ∧
    (mode ≠ .explicitBlock → forwardedCount p.backend stmt.objects = 0 →
      (Command.drop stmt).pgWrites p.backend = true → p.ddbWrote = false)
  | .pgDml planning =>
    mode ≠ .explicitBlock →
      planning ≠ .planned ∨ p.backend.top_level_statement = true ∨ p.backend.ddbDidWrites = false →
      p.ddbWrote = false
  | .pgUtility _ => mode ≠ .explicitBlock → p.ddbWrote = false
  | .duckdbSelect _ writes =>
    mode = .body → p.backend.top_level_statement = true → (writes || p.backend.ddbDidWrites) = true →
      p.pgWrote = false
  | .duckdbDml _ => mode = .body → p.backend.top_level_statement = true → p.pgWrote = false
  | .rawQuery writes => mode ≠ .explicitBlock → writes = true → p.pgWrote = false
  | .copyFrom | .truncate _ => mode ≠ .explicitBlock → p.pgWrote = false
  | .pgSelect _ | .createTable _ | .alterTable _ _ => True

/-- The invariant: a write to Postgres is an unclaimed command id; in a block a write to DuckDB is in
DuckDB's open transaction, and a body has not done both. -/
structure Sound (mode : Mode) (p : Progress) : Prop where
  rests : Rests mode p.backend
  pg : p.pgWrote = true → p.backend.pgDidWrites = true
  ddb : mode = .explicitBlock → p.ddbWrote = true → p.backend.ddbDidWrites = true
  body : mode ≠ .explicitBlock → ¬ (p.pgWrote = true ∧ p.ddbWrote = true)

/-- A transaction without unclaimed command ids has not written to Postgres. -/
theorem Sound.pgWrote_false {mode : Mode} {p : Progress} (h : Sound mode p)
    (hpg : p.backend.pgDidWrites = false) : p.pgWrote = false := by
  cases hw : p.pgWrote with
  | false => rfl
  | true =>
    rw [h.pg hw] at hpg
    cases hpg

/-- What the invariant asks of the ledger `(pg, ddb)` after a command. -/
structure Balanced (mode : Mode) (p : Progress) (c : Command) (pg ddb : Bool) : Prop where
  pg : (p.pgWrote || c.pgWrites p.backend) = true → pg = true
  ddb : mode = .explicitBlock → (p.ddbWrote || c.ddbWrites p.backend) = true → ddb = true
  body : mode ≠ .explicitBlock → ¬ ((p.pgWrote || c.pgWrites p.backend) = true ∧
    (p.ddbWrote || c.ddbWrites p.backend) = true)

section
variable {mode : Mode} {p : Progress} {c : Command} {pg ddb : Bool}

/-- A command that does not write to DuckDB. -/
theorem Sound.balancedPg (h : Sound mode p) (hd : c.ddbWrites p.backend = false)
    (hpg : p.backend.pgDidWrites = true ∨ c.pgWrites p.backend = true → pg = true)
    (hbody : mode ≠ .explicitBlock → c.pgWrites p.backend = true → p.ddbWrote = false) :
    Balanced mode p c pg p.backend.ddbDidWrites where
  pg hw := hpg ((Bool.or_eq_true _ _ ▸ hw).imp_left h.pg)
  ddb hmode hw := by
    rw [hd, Bool.or_false] at hw
    exact h.ddb hmode hw
  body hmode hboth := by
    rw [hd, Bool.or_false] at hboth
    rcases Bool.or_eq_true _ _ ▸ hboth.1 with hw | hw
    · exact h.body hmode ⟨hw, hboth.2⟩
    · rw [hbody hmode hw] at hboth
      cases hboth.2

/-- A command that does not write to Postgres. -/
theorem Sound.balancedDdb (h : Sound mode p) (hp : c.pgWrites p.backend = false)
    (hpg : p.pgWrote = true → pg = true)
    (hddb : mode = .explicitBlock → p.backend.ddbDidWrites = true ∨ c.ddbWrites p.backend = true → ddb = true)
    (hbody : mode ≠ .explicitBlock → c.ddbWrites p.backend = true → p.pgWrote = false) :
    Balanced mode p c pg ddb where
  pg hw := by
    rw [hp, Bool.or_false] at hw
    exact hpg hw
  ddb hmode hw := hddb hmode ((Bool.or_eq_true _ _ ▸ hw).imp_left (h.ddb hmode))
  body hmode hboth := by
    rw [hp, Bool.or_false] at hboth
    rcases Bool.or_eq_true _ _ ▸ hboth.2 with hw | hw
    · exact h.body hmode ⟨hboth.1, hw⟩
    · rw [hbody hmode hw] at hboth
      cases hboth.1

/-- A command that claims, and does not write to Postgres. -/
theorem Sound.balancedClaimed (h : Sound mode p) (hu : ¬ p.backend.pgDidWrites = true)
    (hp : c.pgWrites p.backend = false)
    (hddb : p.backend.ddbDidWrites = true ∨ c.ddbWrites p.backend = true → ddb = true) :
    Balanced mode p c pg ddb := by
  have hnone : p.pgWrote = false := h.pgWrote_false (Bool.eq_false_iff.mpr hu)
  refine h.balancedDdb hp (fun hw => ?_) (fun _ => hddb) fun _ _ => hnone
  rw [hnone] at hw
  cases hw

/-- A command of a body at the top level that claims, after no write to Postgres. -/
theorem Sound.balancedTop (h : Sound .body p) (hnone : p.pgWrote = false)
    (hp : c.pgWrites p.backend = false) : Balanced .body p c pg ddb := by
  refine h.balancedDdb hp (fun hw => ?_) (fun hmode => by cases hmode) fun _ _ => hnone
  rw [hnone] at hw
  cases hw

/-- A drop. -/
theorem Sound.dropOutcome (h : Sound mode p) {stmt : Drop}
    (hallowed : (Command.drop stmt).allowed mode p)
    (hclaim : true ∈ stmt.kind.names → p.pgWrote = false)
    (hout : dropOutcome true p.backend stmt.objects = .ok (pg, ddb)) :
    Balanced mode p (.drop stmt) pg ddb := by
  -- where nothing is forwarded, the drop writes to Postgres at most
  have hpostgres (hzero : forwardedCount p.backend stmt.objects = 0) :
      Balanced mode p (.drop stmt) true p.backend.ddbDidWrites :=
    h.balancedPg (by simp [Command.ddbWrites, hzero]) (fun _ => rfl) fun hmode => hallowed.2 hmode hzero
  unfold PgDuckdb.dropOutcome at hout
  split at hout
  · cases hout
  split at hout
  · next hrelations =>
    cases hout
    exact hpostgres (Nat.le_zero.mp (hrelations ▸ forwardedCount_le_relations _ _))
  split at hout
  · next hzero =>
    cases hout
    exact hpostgres hzero
  next hzero =>
  split at hout
  · cases hout
  split at hout
  · cases hout
  next hcounted =>
  cases hout
  obtain ⟨hown, hbefore⟩ := hallowed.1 hzero
  have hw : p.pgWrote = false := hbefore.elim hclaim id
  have hwrites : (Command.drop stmt).pgWrites p.backend = false :=
    not_isPostgres_of_counted_le (not_lt.mp hcounted) hown
  refine h.balancedDdb hwrites (fun hpg => ?_) (fun _ _ => rfl) fun _ _ => hw
  rw [hw] at hpg
  cases hpg

/-- The step of the invariant, on the ledger: after a command with the outcome `(pg, ddb)`. -/
theorem Sound.outcome (h : Sound mode p) (hallowed : c.allowed mode p)
    (hout : c.outcome mode p.backend = .ok (pg, ddb)) : Balanced mode p c pg ddb := by
  cases c with
  | pgSelect locking =>
    cases hout
    refine h.balancedPg rfl (fun hor => ?_) fun _ hw => absurd hw Bool.false_ne_true
    rw [hor.resolve_right Bool.false_ne_true, Bool.true_or]
  | pgDml planning =>
    simp only [Command.outcome] at hout
    split at hout
    · cases hout
    next hplanned =>
    cases hout
    refine h.balancedPg rfl (fun _ => rfl) fun hmode _ => hallowed hmode ?_
    by_cases hp : planning = .planned
    · exact .inr (.inr (Bool.eq_false_iff.mpr fun hw => hplanned ⟨hp, hw⟩))
    · exact .inl hp
  | pgUtility ids =>
    cases hout
    exact h.balancedPg rfl (fun _ => rfl) fun hmode _ => hallowed hmode
  | duckdbSelect planned writes =>
    simp only [Command.outcome] at hout
    split at hout
    · cases hout
    split at hout
    · cases hout
    next hnot =>
    cases hout
    refine h.balancedDdb rfl h.pg (fun _ => (Bool.or_eq_true _ _).mpr) fun _ hwrites => ?_
    rw [Command.ddbWrites] at hwrites
    exact Bool.eq_false_iff.mpr fun hw => hnot (by simp [h.pg hw, hwrites])
  | rawQuery writes =>
    cases hout
    exact h.balancedDdb rfl h.pg (fun _ => (Bool.or_eq_true _ _).mpr) hallowed
  | duckdbDml planned =>
    simp only [Command.outcome] at hout
    split at hout
    · cases hout
    split at hout
    · cases hout
    split at hout
    · cases hout
    next hu =>
    cases hout
    exact h.balancedClaimed hu rfl fun _ => rfl
  | createTable stmt =>
    simp only [Command.outcome] at hout
    split at hout
    · cases hout
    next hu =>
    refine h.balancedClaimed hu rfl fun hor => ?_
    unfold createTableOutcome at hout
    split at hout
    · next hcreated =>
      cases hout
      rw [Command.ddbWrites, hcreated] at hor
      exact hor.resolve_right Bool.false_ne_true
    split at hout
    · cases hout
    · cases hout
      rfl
  | alterTable kind ids =>
    simp only [Command.outcome] at hout
    split at hout
    · cases hout
    next hu =>
    cases hout
    exact h.balancedClaimed hu rfl fun _ => rfl
  | drop stmt =>
    simp only [Command.outcome] at hout
    split at hout
    · cases hout
    next hclaim =>
    split at hout
    · cases hout
    split at hout
    · next hnil =>
      cases hout
      have hp : (Command.drop stmt).pgWrites p.backend = false := by simp [Command.pgWrites, hnil]
      have hd : (Command.drop stmt).ddbWrites p.backend = false := by
        simp [Command.ddbWrites, hnil, forwardedCount, registeredCount]
      refine h.balancedPg hd (fun hor => ?_) fun _ hw => ?_
      · rw [hp] at hor
        exact hor.resolve_right Bool.false_ne_true
      · rw [hp] at hw
        cases hw
    · refine h.dropOutcome hallowed (fun hnamed => h.pgWrote_false ?_) hout
      exact Bool.eq_false_iff.mpr fun hu => hclaim ⟨hnamed, hu⟩
  | copyFrom =>
    cases hout
    exact h.balancedDdb rfl h.pg (fun _ _ => rfl) fun hmode _ => hallowed hmode
  | truncate ids =>
    cases hout
    refine h.balancedDdb rfl (fun hw => ?_) (fun _ _ => rfl) fun hmode _ => hallowed hmode
    rw [h.pg hw, Bool.true_or]

/-- The same at the top level of a body. -/
theorem Sound.outcomeTop (h : Sound .body p) (htop : p.backend.top_level_statement = true)
    (hallowed : c.allowed .body p) (hout : c.outcomeTop p.backend = .ok (pg, ddb)) :
    Balanced .body p c pg ddb := by
  have hbody : Mode.body ≠ .explicitBlock := by decide
  cases c with
  | pgDml planning =>
    cases hout
    exact h.balancedPg rfl (fun _ => rfl) fun hmode _ => hallowed hmode (.inr (.inl htop))
  | duckdbSelect planned writes =>
    cases hw : writes || p.backend.ddbDidWrites with
    | true => exact h.balancedTop (hallowed rfl htop hw) rfl
    | false =>
      obtain ⟨rfl, hddb⟩ := Bool.or_eq_false_iff.1 hw
      simp only [Command.outcomeTop, hddb, Bool.not_false, Bool.true_and, Bool.false_eq_true, if_false] at hout
      cases hout
      exact h.balancedDdb rfl h.pg (fun hmode => absurd hmode hbody) fun _ hwrites => by cases hwrites
  | duckdbDml planned => exact h.balancedTop (hallowed rfl htop) rfl
  | copyFrom =>
    cases hout
    exact h.balancedDdb rfl h.pg (fun hmode => absurd hmode hbody) fun hmode _ => hallowed hmode
  | _ => exact h.outcome hallowed hout

end

/-- The step of the invariant. -/
theorem Sound.step {mode : Mode} {p p' : Progress} {c : Command} (h : Sound mode p)
    (hallowed : c.allowed mode p) (hstep : p.step mode c = some p') : Sound mode p' := by
  have hmeets := Command.meetsAt h.rests c
  unfold Meets at hmeets
  unfold Progress.step at hstep
  split at hstep
  · next s hrun =>
    rw [hrun] at hmeets
    cases hstep
    obtain ⟨hout, hrests⟩ := hmeets
    have hbalanced : Balanced mode p c s.pgDidWrites s.ddbDidWrites := by
      unfold Command.outcomeAt at hout
      split at hout
      · next htop =>
        obtain ⟨rfl, htop⟩ := htop
        exact h.outcomeTop htop hallowed hout
      · exact h.outcome hallowed hout
    exact ⟨hrests, hbalanced.pg, hbalanced.ddb, hbalanced.body⟩
  · cases hstep

/-- A block that has written to both systems does not commit: the callback still sees the block,
though it resets the level of the statement first. -/
theorem Sound.commit {mode : Mode} {p : Progress} (h : Sound mode p) {commits : Bool} {s' : Backend}
    (hcommit : (DuckdbXactCallback_Cpp commits .PRE_COMMIT).run p.backend = .ok () s') :
    ¬ (p.pgWrote = true ∧ p.ddbWrote = true) := by
  intro hboth
  by_cases hmode : mode = .explicitBlock
  · subst hmode
    have hddb := h.ddb rfl hboth.2
    have hinit : p.backend.initialized = true := by
      simp only [Backend.ddbDidWrites, Bool.and_eq_true] at hddb
      exact hddb.1.1
    have hg : Steady .explicitBlock p.backend := h.rests.resolve_right fun hbody => by cases hbody.1
    have hend : Guarded .explicitBlock p.backend.endStatement :=
      ⟨hg.mixed, hg.force, hg.sync, hg.sub, hg.ids, hg.block, fun hmode => absurd rfl hmode⟩
    have hmixed : p.backend.endStatement.DidDisallowedMixedWrites = true := by
      rw [hend.DidDisallowedMixedWrites_eq, Bool.and_eq_true]
      exact ⟨h.pg hboth.1, hddb⟩
    rw [DuckdbXactCallback_preCommit_run _ hinit, if_pos hmixed] at hcommit
    cases hcommit
  · exact h.body hmode hboth

/-- Mixed-write safety: a transaction whose commands keep to `Command.allowed` and that commits has
not written to both systems. -/
theorem not_mixed_of_commit (mode : Mode) {s s' : Backend} (hready : Ready s)
    (commands : List Command) {p : Progress} (commits : Bool)
    (hallowed : AllowedRun (Progress.step mode) (fun p c => c.allowed mode p)
      (Progress.start mode s) commands)
    (hrun : commands.foldlM (Progress.step mode) (Progress.start mode s) = some p)
    (hcommit : (DuckdbXactCallback_Cpp commits .PRE_COMMIT).run p.backend = .ok () s') :
    ¬ (p.pgWrote = true ∧ p.ddbWrote = true) := by
  have hstart : Sound mode (Progress.start mode s) := by
    refine ⟨hready.rests mode, fun hw => ?_, fun _ hw => (by cases hw), fun _ hw => (by cases hw.2)⟩
    have hmode : mode = .function true := of_decide_eq_true hw
    subst hmode
    exact (hready.function true).2
  have hend : Sound mode p :=
    hallowed.invariant hstart (fun _ _ _ h hok hstep => h.step hok hstep) hrun
  exact hend.commit hcommit

/-- A backend that has just started, with DuckDB execution allowed inside functions. -/
def Backend.initialInside : Backend :=
  { Backend.initial with unsafe_allow_execution_inside_functions := true }

/-- The example starts ready. -/
theorem ready_initialInside : Ready Backend.initialInside :=
  ⟨⟨rfl, rfl, rfl⟩, ⟨rfl, rfl, rfl⟩, rfl, rfl⟩

/-- A function body that writes to DuckDB twice and reads Postgres in between. -/
theorem not_mixed_of_commit_at : ∃ p : Progress,
    [.duckdbDml true, .pgSelect false, .copyFrom].foldlM (Progress.step (.function false))
      (Progress.start (.function false) Backend.initialInside) = some p ∧
    ¬ (p.pgWrote = true ∧ p.ddbWrote = true) := by
  have hallowed : AllowedRun (Progress.step (.function false)) (fun p c => c.allowed (.function false) p)
      (Progress.start (.function false) Backend.initialInside)
      [.duckdbDml true, .pgSelect false, .copyFrom] := by
    refine ⟨fun hmode => (by cases hmode), fun p₁ h₁ => ⟨trivial, fun p₂ h₂ =>
      ⟨fun _ => ?_, fun _ _ => trivial⟩⟩⟩
    cases h₁
    cases h₂
    rfl
  exact ⟨_, rfl, not_mixed_of_commit (.function false) ready_initialInside _ true hallowed rfl rfl⟩

/-- A function body that inserts into a DuckDB table and then creates a Postgres table commits both
writes: at the commit the statement counts as a top-level one again, so that mixed writes are
allowed. So does the body of a `DO` that inserts into a DuckDB table and then into a Postgres table. -/
theorem mixed_of_commit :
    (¬ ∀ (mode : Mode) (s s' : Backend) (commands : List Command) (p : Progress) (commits : Bool),
      Ready s →
      commands.foldlM (Progress.step mode) (Progress.start mode s) = some p →
      (DuckdbXactCallback_Cpp commits .PRE_COMMIT).run p.backend = .ok () s' →
      ¬ (p.pgWrote = true ∧ p.ddbWrote = true)) ∧
    ∃ p, [.duckdbDml true, .pgDml .planned].foldlM (Progress.step .body)
        (Progress.start .body Backend.initial) = some p ∧
      (∃ s', (DuckdbXactCallback_Cpp true .PRE_COMMIT).run p.backend = .ok () s') ∧
      p.pgWrote = true ∧ p.ddbWrote = true := by
  refine ⟨fun h => ?_, _, rfl, ⟨_, rfl⟩, rfl, rfl⟩
  exact h (.function false) Backend.initialInside _ [.duckdbDml true, .pgUtility 0] _ true
    ready_initialInside rfl rfl ⟨rfl, rfl⟩

end PgDuckdb
