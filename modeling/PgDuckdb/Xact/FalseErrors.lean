import PgDuckdb.Xact.MixedWrites
import PgDuckdb.Xact.Settings

/-!
# Blocks that are refused without a write to Postgres

A block whose user writes to DuckDB only should never fail for mixed writes. Postgres uses command
ids for such a block too, for the catalog changes of its DDL, and each statement has to claim them.
`noFalseError_iff` says for which blocks that works: no `DROP TABLE` is refused by its own counters
(`Drop.refusal`), and none of the statements leaves command ids unclaimed (`Command.leavesIds`), unless
nothing is written to DuckDB and nothing claims later.
-/

namespace PgDuckdb

open Lib

/-! ## The commands of such a block -/

/-- A `DROP TABLE` on DuckDB tables: the relations it names are DuckDB tables, and it reaches these
tables, tracked and each once, with what belongs to them. Of that the trigger counts some (policies,
statistics objects, publications) and not the rest. Unless all names are missing, it drops a table. -/
structure Drop.OfDuckdbTables (s : Backend) (stmt : Drop) : Prop where
  tables : ∃ names, stmt.kind = .tables names ∧ false ∉ names
  reaches : if true ∈ stmt.kind.names then ∃ o ∈ stmt.objects, o.isRelation = true
    else stmt.objects = []
  temporary : ∀ relid, .temporary relid ∈ stmt.objects → relid ∈ s.temporary_duckdb_tables
  once : ∀ relid, stmt.objects.count (.temporary relid) ≤ 1
  others : ∀ o ∈ stmt.objects, o.isRelation = false → o = .counted ∨ o = .uncounted false
  notOther : .relation ∉ stmt.objects

/-- A command of a block whose user writes to DuckDB only. -/
def Command.duckdbOnly (s : Backend) : Command → Prop
  | .pgDml _ | .pgUtility _ => False
  | .createTable stmt => stmt.temporary = true ∨ s.motherduck_enabled = true
  | .drop stmt => stmt.OfDuckdbTables s
  | _ => True

/-- A table of `pg_temp`. -/
def DroppedObject.isTemporary : DroppedObject → Bool
  | .temporary _ => true
  | _ => false

/-- How many of its tables such a drop forwards, `motherduck` being whether MotherDuck is enabled: without
it the tables of `duckdb.tables` are not forwarded. -/
def Drop.forwards (motherduck : Bool) (stmt : Drop) : Nat :=
  (if motherduck then stmt.objects.count .recorded else 0) +
    stmt.objects.countP DroppedObject.isTemporary

/-- What the counters of the trigger answer to such a drop. -/
def Drop.refusal (motherduck : Bool) (stmt : Drop) : Option PgError :=
  if stmt.forwards motherduck = 0 then none
  else if stmt.forwards motherduck < stmt.objects.countP DroppedObject.isRelation then
    some dropsBothRelations
  else if stmt.forwards motherduck < stmt.objects.countP DroppedObject.isCounted then
    some dropsBothObjects
  else none

/-- A command that the counters of the trigger refuse. -/
def Command.refusal (motherduck : Bool) : Command → Option PgError
  | .drop stmt => if true ∈ stmt.kind.names then stmt.refusal motherduck else none
  | _ => none

/-- A command that leaves command ids unclaimed: a query that locks rows, a `TRUNCATE` for which
Postgres changes its catalog, and a `DROP TABLE` that forwards nothing. -/
def Command.leavesIds (motherduck : Bool) : Command → Bool
  | .pgSelect locking => locking
  | .truncate ids => 0 < ids
  | .drop stmt => true ∈ stmt.kind.names ∧ stmt.forwards motherduck = 0
  | _ => false

/-- A command that writes to DuckDB. -/
def Command.writesDuckdb (motherduck : Bool) : Command → Bool
  | .duckdbSelect _ writes | .rawQuery writes => writes
  | .createTable stmt => stmt.created
  | .drop stmt => true ∈ stmt.kind.names ∧ stmt.forwards motherduck ≠ 0
  | .duckdbDml _ | .alterTable _ _ | .copyFrom | .truncate _ => true
  | .pgSelect _ | .pgDml _ | .pgUtility _ => false

/-- A command that claims but writes nothing: a `CREATE TABLE IF NOT EXISTS` of a table that exists, and a
`DROP TABLE` that forwards nothing. -/
def Command.isNoop (motherduck : Bool) : Command → Bool
  | .createTable stmt => !stmt.created
  | .drop stmt => true ∈ stmt.kind.names ∧ stmt.forwards motherduck = 0
  | _ => false

/-- A command that makes an unforced claim, `ddb` being whether DuckDB has written before. -/
def Command.claims (ddb : Bool) : Command → Bool
  | .duckdbSelect _ writes => ddb || writes
  | .duckdbDml _ | .createTable _ | .alterTable _ _ => true
  | .drop stmt => true ∈ stmt.kind.names
  | _ => false

/-- Tables of `pg_temp` that are registered, each once, are all found. -/
theorem registeredCount_of_registered {objects : List DroppedObject} {tables : Finset Oid}
    (htables : ∀ relid, .temporary relid ∈ objects → relid ∈ tables)
    (honce : ∀ relid, objects.count (.temporary relid) ≤ 1) :
    registeredCount tables objects = objects.countP DroppedObject.isTemporary := by
  induction objects generalizing tables with
  | nil => rfl
  | cons object objects ih =>
    have honce' : ∀ relid, objects.count (.temporary relid) ≤ 1 :=
      fun relid => List.count_le_count_cons.trans (honce relid)
    have htables' : ∀ relid, .temporary relid ∈ objects → relid ∈ tables :=
      fun relid h => htables relid (List.mem_cons_of_mem _ h)
    rw [List.countP_cons]
    cases object with
    | temporary relid =>
      have hnot : .temporary relid ∉ objects := by
        have := honce relid
        rw [List.count_cons_self] at this
        exact List.count_eq_zero.mp (by omega)
      have hleft : ∀ relid', .temporary relid' ∈ objects → relid' ∈ tables.erase relid :=
        fun relid' h' => Finset.mem_erase.mpr ⟨fun heq => hnot (heq ▸ h'), htables' relid' h'⟩
      have herase := ih hleft honce'
      rw [registeredCount, if_pos (htables relid (by simp)), herase, Nat.add_comm]
      rfl
    | _ => exact ih htables' honce'

/-- What such a drop forwards. -/
theorem Drop.OfDuckdbTables.forwarded {s : Backend} {stmt : Drop} (h : stmt.OfDuckdbTables s) :
    forwardedCount s stmt.objects = stmt.forwards s.motherduck_enabled := by
  rw [forwardedCount, registeredCount_of_registered h.temporary h.once, Drop.forwards]

/-- The outcome of such a drop. -/
theorem Drop.OfDuckdbTables.outcome {s : Backend} {stmt : Drop} (h : stmt.OfDuckdbTables s)
    (hne : true ∈ stmt.kind.names) :
    dropOutcome true s stmt.objects =
      match stmt.refusal s.motherduck_enabled with
      | some e => .error e
      | none => .ok (stmt.forwards s.motherduck_enabled = 0,
          s.ddbDidWrites || decide (stmt.forwards s.motherduck_enabled ≠ 0)) := by
  obtain ⟨o, ho, hrelation⟩ : ∃ o ∈ stmt.objects, o.isRelation = true := by
    simpa [hne] using h.reaches
  have hrelations : 0 < stmt.objects.countP DroppedObject.isRelation :=
    List.countP_pos_iff.mpr ⟨o, ho, hrelation⟩
  have hschema : .ddbSchema ∉ stmt.objects := fun hmem => by
    rcases h.others _ hmem rfl with hother | hother <;> cases hother
  rw [dropOutcome, if_neg hschema, if_neg hrelations.ne', h.forwarded, Drop.refusal]
  by_cases h0 : stmt.forwards s.motherduck_enabled = 0
  · simp [h0]
  · by_cases h1 : stmt.forwards s.motherduck_enabled < stmt.objects.countP DroppedObject.isRelation
    · simp [h0, h1]
    · by_cases h2 : stmt.forwards s.motherduck_enabled < stmt.objects.countP DroppedObject.isCounted
      · simp [h0, h1, h2]
      · simp [h0, h1, h2]

/-- The outcome of a command of such a block: a claim fails on unclaimed command ids, and a drop on the
counters of the trigger. -/
theorem Command.outcome_duckdbOnly {s : Backend} {c : Command} (h : c.duckdbOnly s) :
    c.outcome .explicitBlock s =
      if c.claims s.ddbDidWrites && s.pgDidWrites then .error mixedWrites
      else match c.refusal s.motherduck_enabled with
        | some e => .error e
        | none => .ok (s.pgDidWrites || c.leavesIds s.motherduck_enabled,
            s.ddbDidWrites || c.writesDuckdb s.motherduck_enabled) := by
  have hinside : ∀ planned, ¬ refusedInside .explicitBlock s planned := fun _ h => by cases h.2.1
  cases c with
  | pgDml _ | pgUtility _ => exact absurd h id
  | pgSelect locking => simp [outcome, claims, refusal, leavesIds, writesDuckdb]
  | duckdbSelect planned writes =>
    rw [outcome, if_neg (hinside planned), Bool.and_comm]
    simp [claims, refusal, leavesIds, writesDuckdb]
  | duckdbDml planned =>
    rw [outcome, if_neg (hinside planned)]
    cases hu : s.pgDidWrites <;> simp [claims, refusal, leavesIds, writesDuckdb]
  | rawQuery writes => simp [outcome, claims, refusal, leavesIds, writesDuckdb]
  | createTable stmt =>
    have hallowed : ¬ (stmt.temporary = false ∧ s.motherduck_enabled = false) := by
      rintro ⟨h₁, h₂⟩
      rcases h with h | h
      · rw [h₁] at h
        cases h
      · rw [h₂] at h
        cases h
    rw [outcome, createTableOutcome, if_neg hallowed]
    cases hu : s.pgDidWrites <;> cases hc : stmt.created <;>
      simp [claims, refusal, leavesIds, writesDuckdb, hc]
  | alterTable kind ids =>
    rw [outcome]
    cases hu : s.pgDidWrites <;> simp [claims, refusal, leavesIds, writesDuckdb]
  | drop stmt =>
    have hdrop : stmt.OfDuckdbTables s := h
    obtain ⟨names, hkind, hnames⟩ := hdrop.tables
    have hboth : ¬ (true ∈ stmt.kind.names ∧ false ∈ stmt.kind.names) := by
      rw [hkind]
      exact fun h => hnames h.2
    rw [outcome, if_neg hboth]
    by_cases hnamed : true ∈ stmt.kind.names
    · have hobjects : stmt.objects ≠ [] := by
        obtain ⟨o, ho, -⟩ : ∃ o ∈ stmt.objects, o.isRelation = true := by
          simpa [hnamed] using hdrop.reaches
        exact List.ne_nil_of_mem ho
      rw [if_neg hobjects, hdrop.outcome hnamed]
      cases hu : s.pgDidWrites <;> simp [claims, refusal, leavesIds, writesDuckdb, hnamed]
    · have hobjects : stmt.objects = [] := by simpa [hnamed] using hdrop.reaches
      simp [claims, refusal, leavesIds, writesDuckdb, hnamed, hobjects]
  | copyFrom => simp [outcome, claims, refusal, leavesIds, writesDuckdb]
  | truncate ids => simp [outcome, claims, refusal, leavesIds, writesDuckdb]

/-- The error a block ends with: that of the command that fails, or that of its commit. -/
def runBlock (s : Backend) : List Command → Option PgError
  | [] =>
    match (DuckdbXactCallback_Cpp true .PRE_COMMIT).run s with
    | .ok _ _ => none
    | .error e _ => some e
  | c :: cs =>
    match (c.run .explicitBlock).run s with
    | .ok _ s' => runBlock s' cs
    | .error e _ => some e

/-- An error about writes to both systems. -/
def isMixedError (e : PgError) : Prop :=
  e ∈ [mixedWrites, dropsBothTables, dropsBothViews, dropsBothRelations, dropsBothObjects]

/-- One command as a step that may fail. -/
def Command.exec (mode : Mode) (s : Backend) (c : Command) : Option Backend :=
  match (c.run mode).run s with
  | .ok _ s' => some s'
  | .error _ _ => none

/-- No claim, no drop and no commit fails, `pg` and `ddb` being the ledger before the commands. -/
def Unrefused (motherduck pg ddb : Bool) : List Command → Prop
  | [] => ¬ (pg = true ∧ ddb = true)
  | c :: cs => ¬ (c.claims ddb = true ∧ pg = true) ∧ c.refusal motherduck = none ∧
      Unrefused motherduck (pg || c.leavesIds motherduck) (ddb || c.writesDuckdb motherduck) cs

/-- The check at the commit of a block. -/
theorem runBlock_nil {s : Backend} (hs : Steady .explicitBlock s) :
    runBlock s [] = if s.pgDidWrites && s.ddbDidWrites then some mixedWrites else none := by
  unfold runBlock
  cases hi : s.initialized with
  | false =>
    have hddb : s.ddbDidWrites = false := by simp [Backend.ddbDidWrites, hi]
    rw [DuckdbXactCallback_uninitialized_run s hi, hddb, Bool.and_false]
    rfl
  | true =>
    have hend : Guarded .explicitBlock s.endStatement :=
      ⟨hs.mixed, hs.force, hs.sync, hs.sub, hs.ids, hs.block, fun hmode => absurd rfl hmode⟩
    have hmixed : s.endStatement.DidDisallowedMixedWrites = (s.pgDidWrites && s.ddbDidWrites) :=
      hend.DidDisallowedMixedWrites_eq
    rw [DuckdbXactCallback_preCommit_run s hi, hmixed]
    cases s.pgDidWrites && s.ddbDidWrites with
    | true => rfl
    | false => simp

/-- The error about mixed writes is one of them. -/
theorem isMixedError_mixedWrites : isMixedError mixedWrites := by simp [isMixedError]

/-- The counters refuse with an error about both systems. -/
theorem Command.isMixedError_of_refusal {c : Command} {motherduck : Bool} {e : PgError}
    (h : c.refusal motherduck = some e) : isMixedError e := by
  cases c with
  | drop stmt =>
    simp only [refusal, Drop.refusal] at h
    split at h
    · split at h
      · cases h
      · split at h
        · cases h
          simp [isMixedError]
        · split at h <;> cases h
          simp [isMixedError]
    · cases h
  | _ => cases h

/-- A block that writes to DuckDB only fails on a claim, on a drop or at its commit, or not at all. -/
theorem runBlock_eq {s : Backend} (hs : Steady .explicitBlock s) {commands : List Command}
    (honly : AllowedRun (Command.exec .explicitBlock) (fun s c => c.duckdbOnly s) s commands) :
    Unrefused s.motherduck_enabled s.pgDidWrites s.ddbDidWrites commands ∧ runBlock s commands = none ∨
      ¬ Unrefused s.motherduck_enabled s.pgDidWrites s.ddbDidWrites commands ∧
        ∃ e, runBlock s commands = some e ∧ isMixedError e := by
  induction commands generalizing s with
  | nil =>
    rw [runBlock_nil hs, Unrefused, ← Bool.and_eq_true]
    cases s.pgDidWrites && s.ddbDidWrites with
    | true => exact .inr ⟨fun h => h rfl, _, rfl, isMixedError_mixedWrites⟩
    | false => exact .inl ⟨by simp, rfl⟩
  | cons c commands ih =>
    have hmeets := c.meets hs
    rw [Command.outcome_duckdbOnly honly.1] at hmeets
    have herror {e : PgError} (he : Meets (Steady .explicitBlock) (c.run .explicitBlock) s (.error e)) :
        runBlock s (c :: commands) = some e := by
      unfold Meets at he
      rw [runBlock]
      cases hrun : (c.run .explicitBlock).run s with
      | ok _ s' =>
        rw [hrun] at he
        cases he.1
      | error e' s' =>
        rw [hrun] at he
        cases he
        rfl
    rw [Unrefused, ← Bool.and_eq_true]
    cases hclaim : c.claims s.ddbDidWrites && s.pgDidWrites with
    | true =>
      rw [hclaim, if_pos rfl] at hmeets
      exact .inr ⟨fun h => h.1 rfl, _, herror hmeets, isMixedError_mixedWrites⟩
    | false =>
      rw [hclaim, if_neg (by simp)] at hmeets
      cases hrefusal : c.refusal s.motherduck_enabled with
      | some e =>
        rw [hrefusal] at hmeets
        exact .inr ⟨fun h => (by cases h.2.1), e, herror hmeets, Command.isMixedError_of_refusal hrefusal⟩
      | none =>
        rw [hrefusal] at hmeets
        unfold Meets at hmeets
        rw [runBlock]
        cases hrun : (c.run .explicitBlock).run s with
        | ok _ s' =>
          rw [hrun] at hmeets
          obtain ⟨hout, hs'⟩ := hmeets
          have hexec : c.exec .explicitBlock s = some s' := by rw [Command.exec, hrun]
          have hsetting : s'.motherduck_enabled = s.motherduck_enabled :=
            congrArg (fun around => around.2.2.1) ((KeepsAround.command .explicitBlock c).ok hrun)
          have hrest := ih hs' (honly.2 s' hexec)
          simp only [Except.ok.injEq, Prod.mk.injEq] at hout
          rw [← hout.1, ← hout.2, hsetting] at hrest
          simpa using hrest
        | error e s' =>
          rw [hrun] at hmeets
          cases hmeets

/-- The condition under which a block that writes to DuckDB only is not refused, when it starts in the state
`s`: the counters refuse no drop; and no command leaves command ids unclaimed, or none writes to DuckDB, no
transaction is open that did, and no claim follows one that leaves ids. -/
def Separated (s : Backend) (commands : List Command) : Prop :=
  (∀ c ∈ commands, c.refusal s.motherduck_enabled = none) ∧
    ((∀ c ∈ commands, c.leavesIds s.motherduck_enabled = false) ∨
      s.ddbDidWrites = false ∧ (∀ c ∈ commands, c.writesDuckdb s.motherduck_enabled = false) ∧
        commands.Pairwise fun c c' =>
          c.leavesIds s.motherduck_enabled = true → c'.isNoop s.motherduck_enabled = false)

section
variable {c : Command} {motherduck ddb : Bool}

/-- A claim is made by a command that writes to DuckDB, after such a command, or in vain. -/
theorem Command.claims_of (h : c.claims ddb = true) :
    c.writesDuckdb motherduck = true ∨ c.isNoop motherduck = true ∨ ddb = true := by
  cases c with
  | duckdbSelect planned writes =>
    rcases Bool.or_eq_true _ _ ▸ h with h | h
    · exact .inr (.inr h)
    · exact .inl h
  | createTable stmt =>
    cases hc : stmt.created with
    | true => exact .inl hc
    | false => exact .inr (.inl (by simp [isNoop, hc]))
  | duckdbDml _ | alterTable _ _ => exact .inl rfl
  | drop stmt =>
    have hnamed : true ∈ stmt.kind.names := of_decide_eq_true h
    by_cases h0 : stmt.forwards motherduck = 0
    · exact .inr (.inl (decide_eq_true ⟨hnamed, h0⟩))
    · exact .inl (decide_eq_true ⟨hnamed, h0⟩)
  | _ => cases h

/-- A command that does nothing writes nowhere. -/
theorem Command.claims_of_isNoop (h : c.isNoop motherduck = true) (ddb : Bool) : c.claims ddb = true := by
  cases c with
  | createTable stmt => rfl
  | drop stmt => exact decide_eq_true (of_decide_eq_true h).1
  | _ => cases h

end

/-- The closed form of `Unrefused`. -/
theorem unrefused_iff (commands : List Command) (motherduck pg ddb : Bool) :
    Unrefused motherduck pg ddb commands ↔
      (∀ c ∈ commands, c.refusal motherduck = none) ∧
      ((pg = false ∧ ∀ c ∈ commands, c.leavesIds motherduck = false) ∨
      (ddb = false ∧ (∀ c ∈ commands, c.writesDuckdb motherduck = false) ∧
        (pg = true → ∀ c ∈ commands, c.isNoop motherduck = false) ∧
        commands.Pairwise fun c c' => c.leavesIds motherduck = true → c'.isNoop motherduck = false)) := by
  induction commands generalizing pg ddb with
  | nil => cases pg <;> cases ddb <;> simp [Unrefused]
  | cons c commands ih =>
    have hclaims (h : c.claims ddb = true) :
        c.writesDuckdb motherduck = true ∨ c.isNoop motherduck = true ∨ ddb = true := Command.claims_of h
    have hnoop (h : c.isNoop motherduck = true) : c.claims ddb = true := Command.claims_of_isNoop h ddb
    rw [Unrefused, ih]
    clear ih
    simp only [List.forall_mem_cons, List.pairwise_cons]
    -- what is left is propositional in the facts about the first command
    generalize c.claims ddb = claims, c.writesDuckdb motherduck = writes, c.isNoop motherduck = noop,
      c.leavesIds motherduck = leaves, c.refusal motherduck = refusal at hclaims hnoop ⊢
    generalize (∀ c ∈ commands, Command.refusal motherduck c = none) = unrefused
    cases pg <;> cases ddb <;> cases leaves <;> cases writes <;> cases noop <;> cases claims <;>
      simp_all [and_assoc]

/-- A block that writes to DuckDB only is refused for mixed writes exactly if the counters of the drop trigger
refuse one of its drops, or a command that leaves command ids unclaimed meets a write to DuckDB or a later
claim. -/
theorem noFalseError_iff {s : Backend} (hready : Ready s) (commands : List Command)
    (honly : AllowedRun (Command.exec .explicitBlock) (fun s c => c.duckdbOnly s)
      (s.begin .explicitBlock) commands) :
    (∀ e, runBlock (s.begin .explicitBlock) commands = some e → ¬ isMixedError e) ↔
      Separated s commands := by
  have hpg : (s.begin .explicitBlock).pgDidWrites = false := by
    simp [Backend.pgDidWrites, Backend.begin, Backend.startTransaction, FirstCommandId]
  have hddb : (s.begin .explicitBlock).ddbDidWrites = s.ddbDidWrites := rfl
  have hsetting : (s.begin .explicitBlock).motherduck_enabled = s.motherduck_enabled := rfl
  have hrun := runBlock_eq hready.block honly
  rw [hpg, hddb, hsetting, unrefused_iff] at hrun
  simp only [true_and, Bool.false_eq_true, false_implies] at hrun
  rcases hrun with ⟨hseparated, hnone⟩ | ⟨hnot, e, hsome, hmixed⟩
  · refine ⟨fun _ => hseparated, fun _ e he => ?_⟩
    rw [hnone] at he
    cases he
  · exact ⟨fun h => absurd hmixed (h e hsome), fun h => absurd h hnot⟩

/-- The example starts ready. -/
theorem ready_initial : Ready Backend.initial := ⟨⟨rfl, rfl, rfl⟩, ⟨rfl, rfl, rfl⟩, rfl, rfl⟩

/-- A block that creates a temporary DuckDB table, fills it, and drops it. -/
theorem noFalseError_at :
    ¬ ∃ e, runBlock (Backend.initial.begin .explicitBlock)
        [.createTable ⟨16384, true, true, true, 3, 0⟩, .duckdbDml true, .pgSelect false,
          .drop ⟨.tables [true], [.temporary 16384, .uncounted false], 2⟩] = some e ∧
      isMixedError e := by
  rintro ⟨e, herror, hmixed⟩
  refine (noFalseError_iff ready_initial _ ?_).mpr ⟨by decide, .inl (by decide)⟩ e herror hmixed
  refine ⟨.inl rfl, fun s₁ h₁ => ⟨trivial, fun s₂ h₂ => ⟨trivial, fun s₃ h₃ =>
    ⟨?_, fun _ _ => trivial⟩⟩⟩⟩
  cases h₁
  cases h₂
  cases h₃
  refine ⟨⟨_, rfl, by decide⟩, ?_, ?_, ?_, ?_, by simp⟩
  · rw [if_pos (by decide)]
    exact ⟨.temporary 16384, by simp, rfl⟩
  · intro relid hmem
    have hrelid : relid = 16384 := by simpa using hmem
    subst hrelid
    decide
  · intro relid
    by_cases hrelid : relid = 16384
    · subst hrelid
      decide
    · rw [List.count_eq_zero.mpr (by simp [hrelid])]
      exact Nat.zero_le 1
  · intro o ho hrelation
    simp only [List.mem_cons, List.not_mem_nil, or_false] at ho
    rcases ho with rfl | rfl
    · cases hrelation
    · exact .inr rfl

/-- A block that does nothing but truncate a DuckDB table fails at its commit: the new file locator
of the shell table uses a command id that nothing claims. -/
theorem falseError :
    ¬ ∀ (s : Backend) (commands : List Command), Ready s →
      AllowedRun (Command.exec .explicitBlock) (fun s c => c.duckdbOnly s)
        (s.begin .explicitBlock) commands →
      ∀ e, runBlock (s.begin .explicitBlock) commands = some e → ¬ isMixedError e := by
  intro h
  exact h Backend.initial [.truncate 1] ready_initial ⟨trivial, fun _ _ => trivial⟩ mixedWrites rfl
    isMixedError_mixedWrites

end PgDuckdb
