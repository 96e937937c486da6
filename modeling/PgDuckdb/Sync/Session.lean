import PgDuckdb.SchemaName
import PgDuckdb.Lib.Program

/-!
# The commands of the catalog sync

The sync shows the relations of MotherDuck in Postgres as shell tables and views. It makes them with
SQL commands that may fail, in internal subtransactions so that a failure undoes what it has to
(`pgduckdb_background_worker.cpp`). This module has the session that runs them, the commands, and
`CreateSchemaIfNotExists`, `CreateTable` and `CreateView`; `sync_ddl_atomic_iff` says how far each of
them is all or nothing.

Which commands fail, what a failing command has changed by then, and whether the DuckDB cache has
changed at a commit are the parameters of the session (`Env`). Log messages are left out, and so are
locks and the change of user around a command.

A `Char` of a name is a character of the text, not a byte of it. Lengths of names are compared in bytes, as the
source does: `strlen` gives each character the bytes that it has in UTF-8.
-/

namespace PgDuckdb.Sync

open Lib (Ensures)

/-! ## The Postgres catalog -/

/-- A row of `duckdb.tables`, less the relation id. -/
structure Row where
  duckdb_db : List Char
  motherduck_catalog_version : Option (List Char)
  default_database : List Char
  deriving DecidableEq, Repr

/-- `relkind`, as far as it matters. -/
inductive RelKind
  | table
  | view
  | other
  deriving DecidableEq, Repr

/-- A relation of Postgres. -/
structure PgRelation where
  schema : List Char
  name : List Char
  relkind : RelKind
  /-- `IsMotherDuckTable` or `IsMotherDuckView`. -/
  motherduck : Bool
  row : Option Row
  /-- The command that made it. -/
  definition : List Char
  deriving DecidableEq, Repr

/-- It has this schema and name. -/
def PgRelation.isAt (x : PgRelation) (schema name : List Char) : Bool :=
  x.schema = schema && x.name = name

/-- A schema of Postgres. -/
structure PgSchema where
  /-- The MotherDuck user may create in it. -/
  create_access : Bool
  /-- `duckdb.postgres_role` may use it. -/
  usage_access : Bool
  /-- It is dropped with the MotherDuck server. -/
  md_server_dependency : Bool
  deriving DecidableEq, Repr

/-- What the commands change. -/
structure Catalog where
  schemas : List Char → Option PgSchema
  relations : List PgRelation

namespace Catalog

/-- `SearchSysCache2(RELNAMENSP, ...)`. -/
def relation (c : Catalog) (schema name : List Char) : Option PgRelation :=
  c.relations.find? (·.isAt schema name)

/-- Replaces the row of a schema. -/
def setSchema (c : Catalog) (schema : List Char) (sc : PgSchema) : Catalog :=
  { c with schemas := fun n => if n = schema then some sc else c.schemas n }

/-- Removes every relation of the name from a schema. -/
def dropAt (c : Catalog) (schema name : List Char) : Catalog :=
  { c with relations := c.relations.filter fun x => !x.isAt schema name }

end Catalog

/-! ## The session -/

/-- The surroundings of a session. Commands and commits are counted. -/
structure Env where
  /-- The command with this number succeeds, if it can. -/
  ok : Nat → Bool
  /-- What it has made of the catalog by the time it fails. -/
  debris : Nat → Catalog → Catalog
  /-- The DuckDB cache has changed at the commit with this number. -/
  cacheVersionChanged : Nat → Bool
  is_background_worker : Bool
  default_db : List Char
  /-- `duckdb.postgres_role` is set, and not to the MotherDuck user. -/
  grantsUsage : Bool

/-- The state of a session. -/
structure Session where
  catalog : Catalog
  /-- The catalog of the last commit. -/
  committed : Catalog
  /-- The catalog at the begin of every open subtransaction, the innermost first. -/
  subtransactions : List Catalog
  clock : Nat
  current_motherduck_catalog_version : List Char
  last_known_motherduck_catalog_versions : List Char → List Char
  all_tables_synced_successfully : Bool
  /-- A schema, table or view of the current database was not synced. Nothing in the code knows it. -/
  missed : Bool
  /-- The databases that were synced as a whole, with the version. Nothing in the code knows it. -/
  complete : List (List Char × List Char)
  /-- The relations that clean-up has dropped. -/
  cleaned : List PgRelation

/-- A program of the session. -/
abbrev SyncM := EStateM PgError Session

section
variable (env : Env)

/-- Starts a subtransaction. -/
def BeginInternalSubTransaction : SyncM Unit :=
  modify fun s => { s with subtransactions := s.catalog :: s.subtransactions }

/-- Ends a subtransaction and keeps what it did. -/
def ReleaseCurrentSubTransaction : SyncM Unit :=
  modify fun s => { s with subtransactions := s.subtransactions.tail }

/-- Ends a subtransaction and takes back what it did. -/
def RollbackAndReleaseCurrentSubTransaction : SyncM Unit :=
  modify fun s => { s with
    catalog := s.subtransactions.headD s.catalog, subtransactions := s.subtransactions.tail }

/-- The error at a commit. -/
def cacheVersionChangedError : PgError where
  errmsg := "DuckDB cache version changed during sync, aborting sync, " ++
    if env.is_background_worker then "background worker will restart automatically"
    else "please try again"

/-- `SPI_commit_that_works_in_bgworker`. -/
def SPI_commit_that_works_in_bgworker : SyncM Unit := do
  let s ← get
  modify fun s => { s with committed := s.catalog, clock := s.clock + 1 }
  if env.cacheVersionChanged s.clock then throw (cacheVersionChangedError env) else pure ()

/-- The end of `SPI_run_utility_command`: roll back what a command that failed has done, or release the
subtransaction. -/
def finishCommand (number : Nat) : Option Catalog → SyncM Bool
  | none => do
    modify fun s => { s with catalog := env.debris number s.catalog }
    RollbackAndReleaseCurrentSubTransaction
    pure false
  | some catalog => do
    modify fun s => { s with catalog := catalog }
    ReleaseCurrentSubTransaction
    pure true

/-- `SPI_run_utility_command` of a command with this effect, which has none where it cannot succeed. -/
def SPI_run_utility_command (effect : Catalog → Option Catalog) : SyncM Bool := do
  BeginInternalSubTransaction
  let s ← get
  modify fun s => { s with clock := s.clock + 1 }
  finishCommand env s.clock (if env.ok s.clock then effect s.catalog else none)

/-! ## Schemas -/

/-- A name of Postgres is shorter than this, in bytes. -/
def NAMEDATALEN : Nat := 64

/-- `strlen`, which counts the bytes of a text in UTF-8. -/
def strlen : List Char → Nat
  | [] => 0
  | c :: text => c.utf8Size + strlen text

/-- `CREATE SCHEMA`. -/
def createSchema (schema : List Char) (c : Catalog) : Option Catalog :=
  match c.schemas schema with
  | none => some (c.setSchema schema ⟨false, false, false⟩)
  | some _ => none

/-- `GRANT` on a schema. -/
def grant (schema : List Char) (f : PgSchema → PgSchema) (c : Catalog) : Option Catalog :=
  (c.schemas schema).map fun sc => c.setSchema schema (f sc)

/-- Grants everything on a schema. -/
def grantAll (schema : List Char) : Catalog → Option Catalog :=
  grant schema fun sc => { sc with create_access := true }

/-- Grants the use of a schema. -/
def grantUsage (schema : List Char) : Catalog → Option Catalog :=
  grant schema fun sc => { sc with usage_access := true }

/-- `GrantAccessToSchema`. -/
def GrantAccessToSchema (postgres_schema_name : List Char) : SyncM Bool := do
  if ← SPI_run_utility_command env (grantAll postgres_schema_name) then
    if env.grantsUsage then SPI_run_utility_command env (grantUsage postgres_schema_name)
    else pure true
  else pure false

/-- `RecordDependencyOnMDServer`. -/
def RecordDependencyOnMDServer (schema : List Char) (sc : PgSchema) : SyncM Unit :=
  modify fun s =>
    { s with catalog := s.catalog.setSchema schema { sc with md_server_dependency := true } }

/-- The end of `CreateSchemaIfNotExists`: commit the new schema. -/
def commitSchema : SyncM Bool := do
  ReleaseCurrentSubTransaction
  SPI_commit_that_works_in_bgworker env
  pure true

/-- `CreateSchemaIfNotExists`, for a schema that does not exist. -/
def createNewSchema (postgres_schema_name : List Char) (is_default_db : Bool) : SyncM Bool := do
  BeginInternalSubTransaction
  if ← SPI_run_utility_command env (createSchema postgres_schema_name) then
    if ← GrantAccessToSchema env postgres_schema_name then
      if is_default_db then commitSchema env
      else
        match (← get).catalog.schemas postgres_schema_name with
        | none =>
          RollbackAndReleaseCurrentSubTransaction
          pure false
        | some sc =>
          RecordDependencyOnMDServer postgres_schema_name sc
          commitSchema env
    else
      RollbackAndReleaseCurrentSubTransaction
      pure false
  else
    RollbackAndReleaseCurrentSubTransaction
    pure false

/-- `CreateSchemaIfNotExists`. -/
def CreateSchemaIfNotExists (postgres_schema_name : List Char) (is_default_db : Bool) :
    SyncM Bool := do
  if strlen postgres_schema_name > NAMEDATALEN - 1 then pure false
  else
    match (← get).catalog.schemas postgres_schema_name with
    | some sc =>
      if sc.create_access then pure true
      else if is_default_db then pure false
      else GrantAccessToSchema env postgres_schema_name
    | none => createNewSchema env postgres_schema_name is_default_db

/-! ## Tables and views -/

/-- The error of `get_namespace_oid`. -/
def undefinedSchema : PgError where
  errmsg := "schema does not exist"

/-- The row that the triggers insert for a shell. -/
def shellRow (postgres_schema_name version : List Char) : Option Row :=
  match pgduckdb_db_and_schema ⟨true, env.default_db⟩ postgres_schema_name
    (some "duckdb".toList) with
  | .ok (duckdb_db, _) => some ⟨duckdb_db, some version, env.default_db⟩
  | .error _ => none

/-- `DROP TABLE` or `DROP VIEW`. A cascade takes along no shell: shells do not depend on each other. -/
def dropRelation (schema name : List Char) (c : Catalog) : Option Catalog :=
  (c.relation schema name).map fun _ => c.dropAt schema name

/-- `CREATE TABLE ... USING duckdb` or `CREATE VIEW` of a MotherDuck view, with its triggers. -/
def createRelation (relkind : RelKind) (schema name definition version : List Char) (c : Catalog) :
    Option Catalog :=
  match c.schemas schema, c.relation schema name, shellRow env schema version with
  | some _, none, some row =>
    some { c with relations := ⟨schema, name, relkind, true, some row, definition⟩ :: c.relations }
  | _, _, _ => none

/-- `DROP` of the old version of a relation, in a subtransaction: `none` if the sync of it is given up,
else whether there was one. -/
def dropOldVersion (postgres_schema_name name : List Char) : SyncM (Option Bool) := do
  match (← get).catalog.relation postgres_schema_name name with
  | none => pure (some false)
  | some postgres_relation =>
    if postgres_relation.motherduck then
      BeginInternalSubTransaction
      if ← SPI_run_utility_command env (dropRelation postgres_schema_name name) then
        pure (some true)
      else
        RollbackAndReleaseCurrentSubTransaction
        pure none
    else pure none

/-- `if (c) p`. -/
def onlyIf (c : Bool) (p : SyncM Unit) : SyncM Unit := if c then p else pure ()

/-- `CreateTable` and `CreateView`, which differ in their messages only. -/
def syncRelation (relkind : RelKind) (postgres_schema_name name create_query : List Char) :
    SyncM Bool := do
  if strlen name > NAMEDATALEN - 1 then pure false
  else
    let s ← get
    if (s.catalog.schemas postgres_schema_name).isNone then throw undefinedSchema
    else
      match ← dropOldVersion env postgres_schema_name name with
      | none => pure false
      | some did_delete_table =>
        if ← SPI_run_utility_command env (createRelation env relkind postgres_schema_name name
          create_query s.current_motherduck_catalog_version) then
          onlyIf did_delete_table ReleaseCurrentSubTransaction
          SPI_commit_that_works_in_bgworker env
          pure true
        else
          onlyIf did_delete_table RollbackAndReleaseCurrentSubTransaction
          pure false

/-- Syncs a table. -/
def CreateTable : List Char → List Char → List Char → SyncM Bool := syncRelation env .table

/-- Syncs a view. -/
def CreateView : List Char → List Char → List Char → SyncM Bool := syncRelation env .view

end

/-! ## What the commands do -/

section
variable {env : Env} {s : Session}

/-- The catalog after a command, if it succeeds. -/
def Env.attempt (env : Env) (s : Session) (effect : Catalog → Option Catalog) : Option Catalog :=
  if env.ok s.clock then effect s.catalog else none

/-- The session after a command. -/
def Session.after (s : Session) (catalog : Catalog) : Session :=
  { s with catalog := catalog, clock := s.clock + 1 }

@[simp] theorem Session.after_catalog (s : Session) (c : Catalog) : (s.after c).catalog = c := rfl
@[simp] theorem Session.after_clock (s : Session) (c : Catalog) :
    (s.after c).clock = s.clock + 1 := rfl
@[simp] theorem Session.after_subtransactions (s : Session) (c : Catalog) :
    (s.after c).subtransactions = s.subtransactions := rfl

/-- A command changes the catalog or nothing. -/
theorem SPI_run_utility_command_run {effect : Catalog → Option Catalog} :
    (SPI_run_utility_command env effect).run s =
      match env.attempt s effect with
      | some c => .ok true (s.after c)
      | none => .ok false (s.after s.catalog) := by
  have hrun : (SPI_run_utility_command env effect).run s =
      (finishCommand env s.clock (env.attempt s effect)).run
        { s with subtransactions := s.catalog :: s.subtransactions, clock := s.clock + 1 } := rfl
  rw [hrun]
  cases env.attempt s effect <;> rfl

/-- An attempt succeeds just when the command does and the catalog allows it. -/
theorem attempt_eq_some {effect : Catalog → Option Catalog} {c : Catalog} :
    env.attempt s effect = some c ↔ env.ok s.clock = true ∧ effect s.catalog = some c := by
  unfold Env.attempt
  split <;> simp_all

/-- A command succeeds or fails. -/
theorem command_ensures {effect : Catalog → Option Catalog} {Q : Bool → Session → Prop}
    {E : Session → Prop} (htrue : ∀ c, env.attempt s effect = some c → Q true (s.after c))
    (hfalse : env.attempt s effect = none → Q false (s.after s.catalog)) :
    Ensures (SPI_run_utility_command env effect) s Q E := by
  rw [Ensures, SPI_run_utility_command_run]
  cases hattempt : env.attempt s effect with
  | none => exact hfalse hattempt
  | some c => exact htrue c hattempt

/-- The session in a new subtransaction. -/
def Session.inSub (s : Session) : Session :=
  { s with subtransactions := s.catalog :: s.subtransactions }

/-- The session after a commit. -/
def Session.commit (s : Session) : Session :=
  { s with committed := s.catalog, clock := s.clock + 1 }

/-- A commit succeeds just when the version of the catalog is the same. -/
theorem SPI_commit_run : (SPI_commit_that_works_in_bgworker env).run s =
    if env.cacheVersionChanged s.clock then .error (cacheVersionChangedError env) s.commit
    else .ok () s.commit := by
  have hrun : (SPI_commit_that_works_in_bgworker env).run s =
      (if env.cacheVersionChanged s.clock then throw (cacheVersionChangedError env)
        else pure () : SyncM Unit).run s.commit := rfl
  rw [hrun]
  split <;> rfl

end

/-- What the commands for one object leave as it is. -/
structure Frame (s s' : Session) : Prop where
  subtransactions : s'.subtransactions = s.subtransactions
  version : s'.current_motherduck_catalog_version = s.current_motherduck_catalog_version
  lastKnown :
    s'.last_known_motherduck_catalog_versions = s.last_known_motherduck_catalog_versions
  flag : s'.all_tables_synced_successfully = s.all_tables_synced_successfully
  missed : s'.missed = s.missed
  complete : s'.complete = s.complete
  cleaned : s'.cleaned = s.cleaned

/-- A session keeps itself. -/
theorem Frame.refl (s : Session) : Frame s s := ⟨rfl, rfl, rfl, rfl, rfl, rfl, rfl⟩

/-- A session that got a new catalog keeps the rest. -/
theorem Frame.after (s : Session) (c : Catalog) : Frame s (s.after c) :=
  ⟨rfl, rfl, rfl, rfl, rfl, rfl, rfl⟩

/-- What is kept twice is kept. -/
theorem Frame.trans {s s' s'' : Session} (h : Frame s s') (h' : Frame s' s'') : Frame s s'' :=
  ⟨h'.1.trans h.1, h'.2.trans h.2, h'.3.trans h.3, h'.4.trans h.4, h'.5.trans h.5, h'.6.trans h.6,
    h'.7.trans h.7⟩

/-! ## Tables and views -/

/-- The catalog with a new version of the relation. -/
def Catalog.replace (c : Catalog) (relkind : RelKind) (schema name definition : List Char)
    (row : Row) : Catalog :=
  { c with relations :=
      ⟨schema, name, relkind, true, some row, definition⟩ :: (c.dropAt schema name).relations }

section
variable {env : Env} {s : Session} {E : Session → Prop} {relkind : RelKind}
  {schema name definition : List Char}

/-- Dropping a name that no relation has changes nothing. -/
theorem Catalog.dropAt_of_relation_eq_none {c : Catalog} (h : c.relation schema name = none) :
    (c.dropAt schema name).relations = c.relations := by
  rw [Catalog.relation, List.find?_eq_none] at h
  refine List.filter_eq_self.2 fun x hx => ?_
  simpa using h x hx

/-- After a drop no relation has the name. -/
theorem Catalog.relation_dropAt (c : Catalog) : (c.dropAt schema name).relation schema name = none := by
  rw [Catalog.relation, List.find?_eq_none]
  intro x hx
  have hmem := List.mem_filter.1 hx
  simpa using hmem.2

/-- A relation that is put in place drops the older one by itself. -/
theorem Catalog.replace_dropAt {c : Catalog} {row : Row} :
    (c.dropAt schema name).replace relkind schema name definition row =
      c.replace relkind schema name definition row := by
  simp [Catalog.replace, Catalog.dropAt]

/-- A relation that is created is put in place, with the row of its schema. -/
theorem createRelation_eq_some {version : List Char} {c c' : Catalog}
    (h : createRelation env relkind schema name definition version c = some c') :
    ∃ row, shellRow env schema version = some row ∧
      c' = c.replace relkind schema name definition row := by
  unfold createRelation at h
  split at h
  · rename_i row hschema hnone hrow
    cases h
    refine ⟨row, hrow, ?_⟩
    rw [Catalog.replace, Catalog.dropAt_of_relation_eq_none hnone]
  · cases h

/-- The old version is dropped in a subtransaction that stays open, or nothing is changed. -/
theorem dropOldVersion_ensures {Q : Option Bool → Session → Prop}
    (hnone : ∀ s', Frame s s' → s'.catalog = s.catalog → Q none s')
    (hfalse : Q (some false) s)
    (htrue : Q (some true) (s.inSub.after (s.catalog.dropAt schema name))) :
    Ensures (dropOldVersion env schema name) s Q E := by
  refine .bind (.get ?_)
  cases hold : s.catalog.relation schema name with
  | none => exact hfalse
  | some postgres_relation =>
    dsimp only
    cases postgres_relation.motherduck with
    | false => exact hnone s (.refl s) rfl
    | true =>
      refine .bind (.modify (.bind (command_ensures ?_ ?_)))
      · intro c hc
        obtain ⟨-, hdrop⟩ := attempt_eq_some.1 hc
        obtain ⟨x, -, rfl⟩ := Option.map_eq_some_iff.1 hdrop
        exact htrue
      · intro _
        refine .bind (.modify ?_)
        exact hnone _ ⟨rfl, rfl, rfl, rfl, rfl, rfl, rfl⟩ rfl

/-- A commit, after which the cache may turn out to have changed. -/
theorem commit_ensures {Q : Unit → Session → Prop} (h : Q () s.commit) (herror : E s.commit) :
    Ensures (SPI_commit_that_works_in_bgworker env) s Q E := by
  rw [Ensures, SPI_commit_run]
  split
  · rename_i _ _ heq
    split at heq
    · cases heq
    · cases heq
      exact h
  · rename_i _ _ heq
    split at heq
    · cases heq
      exact herror
    · cases heq

/-- A relation is replaced by its new version, or nothing is changed. -/
theorem syncRelation_ensures :
    Ensures (syncRelation env relkind schema name definition) s
      (fun b s' => Frame s s' ∧ (b = false → s'.catalog = s.catalog) ∧
        (b = true → ∃ row, shellRow env schema s.current_motherduck_catalog_version = some row ∧
          (s.catalog.schemas schema).isSome = true ∧
          s'.catalog = s.catalog.replace relkind schema name definition row))
      (Frame s) := by
  unfold syncRelation
  split
  · exact ⟨.refl s, fun _ => rfl, nofun⟩
  · refine .bind (.get ?_)
    split
    · exact .refl s
    · rename_i hsome
      rw [Bool.not_eq_true, Option.isNone_eq_false_iff] at hsome
      refine .bind (dropOldVersion_ensures ?_ ?_ ?_)
      · intro s' hframe hcatalog
        exact ⟨hframe, fun _ => hcatalog, nofun⟩
      · refine .bind (command_ensures ?_ ?_)
        · intro c hc
          obtain ⟨row, hrow, rfl⟩ := createRelation_eq_some (attempt_eq_some.1 hc).2
          refine Ensures.bind (Ensures.pure ?_)
          refine Ensures.bind (commit_ensures ?_ ?_)
          · exact ⟨⟨rfl, rfl, rfl, rfl, rfl, rfl, rfl⟩, nofun, fun _ => ⟨row, hrow, hsome, rfl⟩⟩
          · exact ⟨rfl, rfl, rfl, rfl, rfl, rfl, rfl⟩
        · intro _
          refine .bind (.pure ?_)
          exact ⟨.after s s.catalog, fun _ => rfl, nofun⟩
      · refine .bind (command_ensures ?_ ?_)
        · intro c hc
          obtain ⟨row, hrow, rfl⟩ := createRelation_eq_some (attempt_eq_some.1 hc).2
          refine Ensures.bind (Ensures.modify ?_)
          refine Ensures.bind (commit_ensures ?_ ?_)
          · refine ⟨⟨rfl, rfl, rfl, rfl, rfl, rfl, rfl⟩, nofun, fun _ => ⟨row, hrow, hsome, ?_⟩⟩
            exact Catalog.replace_dropAt
          · exact ⟨rfl, rfl, rfl, rfl, rfl, rfl, rfl⟩
        · intro _
          refine .bind (.modify ?_)
          exact ⟨⟨rfl, rfl, rfl, rfl, rfl, rfl, rfl⟩, fun _ => rfl, nofun⟩

end

/-! ## Schemas -/

section
variable {env : Env} {s : Session} {E : Session → Prop} {schema : List Char} {sc : PgSchema}

@[simp] theorem Catalog.setSchema_self (c : Catalog) :
    (c.setSchema schema sc).schemas schema = some sc := if_pos rfl

@[simp] theorem Catalog.setSchema_relations (c : Catalog) :
    (c.setSchema schema sc).relations = c.relations := rfl

@[simp] theorem Catalog.setSchema_setSchema {sc' : PgSchema} (c : Catalog) :
    (c.setSchema schema sc).setSchema schema sc' = c.setSchema schema sc' := by
  unfold Catalog.setSchema
  congr 1
  funext n
  dsimp only
  split <;> rfl

/-- The catalog differs in one schema, in which the MotherDuck user may create. -/
def Opened (schema : List Char) (c c' : Catalog) : Prop :=
  ∃ sc, c' = c.setSchema schema sc ∧ sc.create_access = true

/-- A grant that succeeds changes the schema's row. -/
theorem grant_attempt_some (hsc : s.catalog.schemas schema = some sc) {f : PgSchema → PgSchema}
    {c : Catalog} (h : env.attempt s (grant schema f) = some c) :
    env.ok s.clock = true ∧ c = s.catalog.setSchema schema (f sc) := by
  obtain ⟨hok, hgrant⟩ := attempt_eq_some.1 h
  rw [grant, hsc] at hgrant
  cases hgrant
  exact ⟨hok, rfl⟩

/-- A grant that fails is the command's failure. -/
theorem grant_attempt_none (hsc : s.catalog.schemas schema = some sc) {f : PgSchema → PgSchema}
    (h : env.attempt s (grant schema f) = none) : env.ok s.clock = false := by
  cases hok : env.ok s.clock with
  | false => rfl
  | true =>
    simp [Env.attempt, hok, grant, hsc] at h

/-- Both grants succeed, or one of them fails; then the first may stay. -/
theorem GrantAccessToSchema_ensures {Q : Bool → Session → Prop}
    (hsc : s.catalog.schemas schema = some sc)
    (hdenied : env.ok s.clock = false → Q false (s.after s.catalog))
    (hhalf : env.ok s.clock = true → env.grantsUsage = true → env.ok (s.clock + 1) = false →
      ∀ s', Frame s s' → s'.catalog = s.catalog.setSchema schema { sc with create_access := true } →
        Q false s')
    (hgranted : (env.grantsUsage = true → env.ok (s.clock + 1) = true) →
      ∀ s', Frame s s' → Opened schema s.catalog s'.catalog → Q true s') :
    Ensures (GrantAccessToSchema env schema) s Q E := by
  refine .bind (command_ensures ?_ ?_)
  · intro c hc
    obtain ⟨hok, rfl⟩ := grant_attempt_some hsc hc
    split
    · split
      · rename_i husage
        refine command_ensures ?_ ?_
        · intro c hc
          obtain ⟨hok', rfl⟩ := grant_attempt_some (Catalog.setSchema_self s.catalog) hc
          refine hgranted (fun _ => hok') _ ⟨rfl, rfl, rfl, rfl, rfl, rfl, rfl⟩ ⟨_, Catalog.setSchema_setSchema _, rfl⟩
        · intro hnone
          exact hhalf hok husage (grant_attempt_none (Catalog.setSchema_self s.catalog) hnone) _
            ⟨rfl, rfl, rfl, rfl, rfl, rfl, rfl⟩ rfl
      · rename_i husage
        exact hgranted (fun h => absurd h husage) _ (.after s _) ⟨_, rfl, rfl⟩
    · rename_i hfalse
      exact absurd rfl hfalse
  · intro hnone
    exact hdenied (grant_attempt_none hsc hnone)

/-- The MotherDuck user may create in the schema. -/
def Accessible (schema : List Char) (c : Catalog) : Prop :=
  ∃ sc, c.schemas schema = some sc ∧ sc.create_access = true

/-- A schema that was opened is accessible. -/
theorem Opened.accessible {c c' : Catalog} (h : Opened schema c c') : Accessible schema c' := by
  obtain ⟨sc, rfl, hsc⟩ := h
  exact ⟨sc, Catalog.setSchema_self c, hsc⟩

/-- The schema exists, but the MotherDuck user may not create in it and is not given the right. -/
def Refused (env : Env) (s : Session) (schema : List Char) (is_default_db : Bool) : Prop :=
  ∃ sc, s.catalog.schemas schema = some sc ∧ sc.create_access = false ∧
    (is_default_db = true ∨ env.ok s.clock = false ∨
      (env.grantsUsage = true ∧ env.ok (s.clock + 1) = false))

/-- In a `ddb$` schema that exists the first grant succeeds and the second one fails. -/
def HalfGranted (env : Env) (s : Session) (schema : List Char) (is_default_db : Bool) : Prop :=
  strlen schema < NAMEDATALEN ∧ is_default_db = false ∧
    (∃ sc, s.catalog.schemas schema = some sc ∧ sc.create_access = false) ∧
    env.ok s.clock = true ∧ env.grantsUsage = true ∧ env.ok (s.clock + 1) = false

/-- A schema that is new is made with its rights, or nothing is changed. -/
theorem createNewSchema_ensures {Q : Bool → Session → Prop} {is_default_db : Bool}
    (hfalse : ∀ s', Frame s s' → s'.catalog = s.catalog → Q false s')
    (htrue : ∀ s', Frame s s' → Opened schema s.catalog s'.catalog → Q true s')
    (herror : ∀ s', Frame s s' → Opened schema s.catalog s'.catalog → E s') :
    Ensures (createNewSchema env schema is_default_db) s Q E := by
  have hrollback : ∀ s₁ : Session, Frame s.inSub s₁ → Ensures (do
      RollbackAndReleaseCurrentSubTransaction
      pure false) s₁ Q E := by
    intro s₁ hframe
    refine .bind (.modify (hfalse _ ?_ ?_))
    · have htail : s₁.subtransactions.tail = s.subtransactions := by
        rw [hframe.subtransactions]
        rfl
      exact ⟨htail, hframe.2, hframe.3, hframe.4, hframe.5, hframe.6, hframe.7⟩
    · change s₁.subtransactions.headD s₁.catalog = s.catalog
      rw [hframe.subtransactions]
      rfl
  have hcommit : ∀ s₁ : Session, Frame s.inSub s₁ → Opened schema s.catalog s₁.catalog →
      Ensures (commitSchema env) s₁ Q E := by
    intro s₁ hframe hopened
    have htail : s₁.subtransactions.tail = s.subtransactions := by
      rw [hframe.subtransactions]
      rfl
    refine .bind (.modify (.bind (commit_ensures ?_ ?_)))
    · exact htrue _ ⟨htail, hframe.2, hframe.3, hframe.4, hframe.5, hframe.6, hframe.7⟩ hopened
    · exact herror _ ⟨htail, hframe.2, hframe.3, hframe.4, hframe.5, hframe.6, hframe.7⟩ hopened
  refine .bind (.modify (.bind (command_ensures ?_ ?_)))
  · intro c hc
    have hnew : c = s.catalog.setSchema schema ⟨false, false, false⟩ := by
      have hcreate := (attempt_eq_some.1 hc).2
      unfold createSchema at hcreate
      split at hcreate
      · cases hcreate
        rfl
      · cases hcreate
    subst hnew
    refine .bind (GrantAccessToSchema_ensures (Catalog.setSchema_self s.catalog) ?_ ?_ ?_)
    · intro _
      exact hrollback _ ⟨rfl, rfl, rfl, rfl, rfl, rfl, rfl⟩
    · intro _ _ _ s' hframe _
      exact hrollback s' ((Frame.after _ _).trans hframe)
    · intro _ s' hframe hopened
      have hframe' : Frame s.inSub s' := (Frame.after _ _).trans hframe
      obtain ⟨sc, hcatalog, hsc⟩ := hopened
      have hcatalog : s'.catalog = s.catalog.setSchema schema sc := by
        rw [hcatalog]
        exact Catalog.setSchema_setSchema _
      cases is_default_db with
      | true => exact hcommit s' hframe' ⟨sc, hcatalog, hsc⟩
      | false =>
        refine .bind (.get ?_)
        rw [hcatalog, Catalog.setSchema_self]
        refine .bind (.modify (hcommit _ ?_ ?_))
        · exact hframe'.trans ⟨rfl, rfl, rfl, rfl, rfl, rfl, rfl⟩
        · refine ⟨{ sc with md_server_dependency := true }, ?_, hsc⟩
          change s'.catalog.setSchema _ _ = _
          rw [hcatalog, Catalog.setSchema_setSchema]
  · intro _
    exact hrollback _ ⟨rfl, rfl, rfl, rfl, rfl, rfl, rfl⟩

/-- A name that is too long is turned away. -/
theorem strlen_lt_of_CreateSchemaIfNotExists {is_default_db : Bool} :
    Ensures (CreateSchemaIfNotExists env schema is_default_db) s
      (fun b _ => b = true → strlen schema < NAMEDATALEN) fun _ => True := by
  unfold CreateSchemaIfNotExists
  split
  · exact Ensures.pure nofun
  · rename_i hlength
    refine .const fun _ => ?_
    unfold NAMEDATALEN at hlength ⊢
    omega

/-- The schema is there afterwards and open to the MotherDuck user, or it was refused, or it did not
exist and nothing is changed. -/
theorem CreateSchemaIfNotExists_ensures {is_default_db : Bool} :
    Ensures (CreateSchemaIfNotExists env schema is_default_db) s
      (fun b s' => Frame s s' ∧ (s'.catalog = s.catalog ∨ Opened schema s.catalog s'.catalog) ∧
        (b = true → Accessible schema s'.catalog) ∧
        (b = false → (¬HalfGranted env s schema is_default_db → s'.catalog = s.catalog) ∧
          (NAMEDATALEN ≤ strlen schema ∨ s.catalog.schemas schema = none ∨
            Refused env s schema is_default_db)))
      (fun s' => Frame s s' ∧ Opened schema s.catalog s'.catalog) := by
  unfold CreateSchemaIfNotExists
  split
  · rename_i hlength
    refine ⟨.refl s, .inl rfl, nofun, fun _ => ⟨fun _ => rfl, .inl ?_⟩⟩
    unfold NAMEDATALEN at hlength ⊢
    omega
  · rename_i hlength
    refine .bind (.get ?_)
    cases hschema : s.catalog.schemas schema with
    | none =>
      refine createNewSchema_ensures ?_ ?_ ?_
      · intro s' hframe hcatalog
        exact ⟨hframe, .inl hcatalog, nofun, fun _ => ⟨fun _ => hcatalog, .inr (.inl rfl)⟩⟩
      · intro s' hframe hopened
        exact ⟨hframe, .inr hopened, fun _ => hopened.accessible, nofun⟩
      · intro s' hframe hopened
        exact ⟨hframe, hopened⟩
    | some sc =>
      dsimp only
      cases haccess : sc.create_access with
      | true => exact ⟨.refl s, .inl rfl, fun _ => ⟨sc, hschema, haccess⟩, nofun⟩
      | false =>
        cases is_default_db with
        | true =>
          exact ⟨.refl s, .inl rfl, nofun, fun _ => ⟨fun _ => rfl,
            .inr (.inr ⟨sc, hschema, haccess, .inl rfl⟩)⟩⟩
        | false =>
          refine GrantAccessToSchema_ensures hschema ?_ ?_ ?_
          · intro hdenied
            exact ⟨.after s _, .inl rfl, nofun, fun _ => ⟨fun _ => rfl,
              .inr (.inr ⟨sc, hschema, haccess, .inr (.inl hdenied)⟩)⟩⟩
          · intro hok husage hfail s' hframe hcatalog
            refine ⟨hframe, .inr ⟨_, hcatalog, rfl⟩, nofun, fun _ => ⟨fun hhalf => ?_,
              .inr (.inr ⟨sc, hschema, haccess, .inr (.inr ⟨husage, hfail⟩)⟩)⟩⟩
            refine absurd ⟨?_, rfl, ⟨sc, hschema, haccess⟩, hok, husage, hfail⟩ hhalf
            unfold NAMEDATALEN at hlength ⊢
            omega
          · intro _ s' hframe hopened
            exact ⟨hframe, .inr hopened, fun _ => hopened.accessible, nofun⟩

end

/-! ## All or nothing -/

/-- A program leaves the subtransactions as they are, leaves the catalog as it is when it returns
`false`, and has done what it is for when it returns `true`. -/
def Atomic (p : SyncM Bool) (done : Catalog → Prop) (s : Session) : Prop :=
  Ensures p s (fun b s' => s'.subtransactions = s.subtransactions ∧
    (b = false → s'.catalog = s.catalog) ∧ (b = true → done s'.catalog)) fun _ => True

/-- The relation is there with this definition, as a shell. -/
def InPlace (relkind : RelKind) (schema name definition : List Char) (c : Catalog) : Prop :=
  ∃ row, c.relation schema name = some ⟨schema, name, relkind, true, some row, definition⟩

section
variable {env : Env} {s : Session} {schema : List Char}

/-- A relation that is put in place is the one that is named. -/
theorem inPlace_replace {relkind : RelKind} {name definition : List Char} {c : Catalog} {row : Row} :
    InPlace relkind schema name definition (c.replace relkind schema name definition row) :=
  ⟨row, by simp [Catalog.relation, Catalog.replace, PgRelation.isAt]⟩

/-- The sync of a relation puts it in place as a whole or leaves the catalog as it was. -/
theorem syncRelation_atomic {relkind : RelKind} {name definition : List Char} :
    Atomic (syncRelation env relkind schema name definition)
      (InPlace relkind schema name definition) s := by
  refine syncRelation_ensures.mono ?_ fun _ _ => trivial
  rintro b s' ⟨hframe, hfalse, htrue⟩
  refine ⟨hframe.subtransactions, hfalse, fun hb => ?_⟩
  obtain ⟨row, -, -, hcatalog⟩ := htrue hb
  rw [hcatalog]
  exact inPlace_replace

/-- A schema that is half granted is the exception. -/
theorem createSchema_atomic_of_not_half {is_default_db : Bool}
    (hhalf : ¬HalfGranted env s schema is_default_db) :
    Atomic (CreateSchemaIfNotExists env schema is_default_db) (Accessible schema) s := by
  refine CreateSchemaIfNotExists_ensures.mono ?_ fun _ _ => trivial
  rintro b s' ⟨hframe, -, htrue, hfalse⟩
  exact ⟨hframe.subtransactions, fun hb => (hfalse hb).1 hhalf, htrue⟩

/-- What a half granted schema is left as. -/
theorem createSchema_of_half {is_default_db : Bool} (hhalf : HalfGranted env s schema is_default_db) :
    Ensures (CreateSchemaIfNotExists env schema is_default_db) s
      (fun b s' => b = false ∧ s'.catalog ≠ s.catalog) fun _ => False := by
  obtain ⟨hlength, rfl, ⟨sc, hschema, haccess⟩, hok, husage, hfail⟩ := hhalf
  unfold CreateSchemaIfNotExists
  rw [if_neg (by unfold NAMEDATALEN at hlength ⊢; omega)]
  refine .bind (.get ?_)
  rw [hschema]
  dsimp only
  rw [haccess]
  refine GrantAccessToSchema_ensures hschema ?_ ?_ ?_
  · intro hdenied
    rw [hok] at hdenied
    cases hdenied
  · intro _ _ _ s' _ hcatalog
    refine ⟨rfl, fun heq => ?_⟩
    have hsc : s'.catalog.schemas schema = some { sc with create_access := true } := by
      rw [hcatalog, Catalog.setSchema_self]
    rw [heq, hschema, Option.some.injEq] at hsc
    rw [hsc] at haccess
    cases haccess
  · intro hboth
    rw [hboth husage] at hfail
    cases hfail

end

/-- `CreateTable` and `CreateView` are all or nothing, and `CreateSchemaIfNotExists` is so except where
it has granted only the first of two rights on a schema that exists. -/
theorem sync_ddl_atomic_iff (env : Env) (s : Session) (schema : List Char) :
    (∀ name create_query,
      Atomic (CreateTable env schema name create_query) (InPlace .table schema name create_query) s ∧
      Atomic (CreateView env schema name create_query) (InPlace .view schema name create_query) s) ∧
    ∀ is_default_db,
      Atomic (CreateSchemaIfNotExists env schema is_default_db) (Accessible schema) s ↔
        ¬HalfGranted env s schema is_default_db := by
  refine ⟨fun name create_query => ⟨syncRelation_atomic, syncRelation_atomic⟩, fun is_default_db => ?_⟩
  refine ⟨fun hatomic hhalf => ?_, createSchema_atomic_of_not_half⟩
  refine ((createSchema_of_half hhalf).and hatomic).elim ?_ fun _ h => h.1
  rintro b s' ⟨⟨hb, hne⟩, -, hfalse, -⟩
  exact hne (hfalse hb)

/-- A catalog with one schema. -/
def oneSchema (schema : List Char) (sc : PgSchema) : Catalog where
  schemas n := if n = schema then some sc else none
  relations := []

/-- A session before a sync. -/
def Session.start (c : Catalog) : Session where
  catalog := c
  committed := c
  subtransactions := []
  clock := 0
  current_motherduck_catalog_version := []
  last_known_motherduck_catalog_versions _ := []
  all_tables_synced_successfully := true
  missed := false
  complete := []
  cleaned := []

/-- Every command succeeds but the second one. -/
def secondFails : Env where
  ok n := n != 1
  debris _ c := c
  cacheVersionChanged _ := false
  is_background_worker := true
  default_db := "my_db".toList
  grantsUsage := true

/-- `GRANT ALL` stays when `GRANT USAGE` fails. -/
theorem not_atomic_createSchema :
    ¬Atomic (CreateSchemaIfNotExists secondFails "ddb$other".toList false)
      (Accessible "ddb$other".toList)
      (.start (oneSchema "ddb$other".toList ⟨false, false, true⟩)) := by
  intro hatomic
  have hkept : oneSchema "ddb$other".toList ⟨false, false, true⟩ =
      (oneSchema "ddb$other".toList ⟨false, false, true⟩).setSchema "ddb$other".toList
        ⟨true, false, true⟩ := (hatomic.2.1 rfl).symm
  have hschema := congrArg (fun c => c.schemas "ddb$other".toList) hkept
  revert hschema
  decide

end PgDuckdb.Sync
