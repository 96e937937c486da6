import PgDuckdb.Xact.Commands

/-!
# Statements and the relations they leave

What a utility statement does to the relations of a database and to the two places where the
extension records its tables: the `duckdb.tables` catalog and the in-memory set
`temporary_duckdb_tables`. A statement goes through `DuckdbHandleDDLPre`, Postgres's own
processing, and the event triggers that the extension script declares for its command tag.

A statement stands for one that passes the checks that look at neither relations nor records
(privileges, unsupported columns, mixed writes of the named tables). A statement that runs inside
the query of another one is a statement of its own, with its own triggers.
-/

namespace PgDuckdb.Tables

/-! ## Relations -/

/-- A table access method. -/
inductive AccessMethod
  | duckdb
  | heap
  | other (am : Oid)
  deriving DecidableEq, Repr

/-- `pg_class.relkind`. -/
inductive RelKind
  | table
  | view
  | materializedView
  | foreignTable
  /-- Indexes, sequences and toast tables. -/
  | other
  deriving DecidableEq, Repr

/-- `pg_class.relpersistence`. -/
inductive RelPersistence
  | permanent
  | unlogged
  | temporary
  deriving DecidableEq, Repr

/-- `OnCommitAction`. -/
inductive OnCommitAction
  | NOOP
  | PRESERVE_ROWS
  | DELETE_ROWS
  | DROP
  deriving DecidableEq, Repr

/-- A relation: its row of `pg_class`, and what Postgres does to it at commit. A temporary one
belongs to the session. -/
structure Relation where
  relkind : RelKind
  relam : Option AccessMethod
  relpersistence : RelPersistence
  oncommit : OnCommitAction
  deriving DecidableEq, Repr

/-- `IsDuckdbTable`. -/
def IsDuckdbTable (rel : Relation) : Bool := rel.relam = some .duckdb

/-- The relations of the database, and what the extension records of them. -/
structure Catalog where
  pg_class : Oid → Option Relation
  duckdb_tables : Finset Oid
  temporary_duckdb_tables : Finset Oid
  top_level_duckdb_ddl_type : DDLType

namespace Catalog
variable (s : Catalog)

/-- No relation and no record, as after `CREATE EXTENSION`. -/
def empty : Catalog where
  pg_class := fun _ => none
  duckdb_tables := ∅
  temporary_duckdb_tables := ∅
  top_level_duckdb_ddl_type := .NONE

/-- Add or replace a relation. -/
def setRelation (relid : Oid) (rel : Relation) : Catalog :=
  { s with pg_class := fun oid => if oid = relid then some rel else s.pg_class oid }

/-- Keep the relations that satisfy a test. -/
def keepRelations (p : Oid → Relation → Bool) : Catalog :=
  { s with pg_class := fun oid => (s.pg_class oid).filter (p oid) }

end Catalog

/-- What the functions read of the session. -/
structure Session where
  default_table_access_method : AccessMethod
  motherduck_enabled : Bool
  doing_motherduck_sync : Bool
  /-- `MixedWritesAllowed`. -/
  mixed_writes_allowed : Bool

/-- `if (c) ereport(ERROR, e)`. -/
def raiseIf (c : Prop) [Decidable c] (e : PgError) : Except PgError Unit :=
  if c then .error e else .ok ()

/-! ## Event triggers -/

/-- The command tags that the triggers tell apart. -/
inductive CommandTag
  | CREATE_TABLE
  | CREATE_TABLE_AS
  | SELECT_INTO
  | CREATE_MATERIALIZED_VIEW
  | CREATE_SCHEMA
  | ALTER_TABLE
  | ALTER_MATERIALIZED_VIEW
  deriving DecidableEq, Repr

/-- The tags of `duckdb_create_table_trigger`. -/
def createTableTriggerTags : List CommandTag := [.CREATE_TABLE, .CREATE_TABLE_AS]

/-- The tags of `duckdb_alter_table_trigger`. -/
def alterTableTriggerTags : List CommandTag := [.ALTER_TABLE]

/-- A row of `pg_event_trigger_ddl_commands()` for a relation, whose `object_type` follows from the
kind of the relation. -/
structure DdlCommand where
  objid : Oid
  object_type : RelKind
  deriving DecidableEq

/-- What the triggers read of the parse tree of the statement. -/
inductive ParseTree
  /-- `CreateStmt` or `CreateTableAsStmt`. -/
  | create (oncommit : OnCommitAction)
  /-- `AlterTableStmt`, and whether `pgduckdb_get_alter_tabledef` knows all of its subcommands. -/
  | alter (supported : Bool)
  | createSchema

/-- The errors of the triggers. -/
def severalTables (n : Nat) : PgError where
  errmsg := "Expected single table to be created, but found " ++ toString n

/-- The error about a table that is recorded already. -/
def alreadyRecorded : PgError where
  errmsg := "duplicate key value violates unique constraint \"tables_pkey\""

/-- The error about ON COMMIT DROP. -/
def noOnCommitDrop : PgError where
  errmsg := "DuckDB does not support ON COMMIT DROP"

/-- The error about a parse tree of another kind. -/
def unexpectedParsetree : PgError where
  errmsg := "Unexpected parsetree type"

/-- The error about a persistence that DuckDB has not. -/
def noUnloggedTables : PgError where
  errmsg := "Only TEMP and non-UNLOGGED tables are supported in DuckDB"

/-- The error about a command of ALTER TABLE. -/
def unsupportedAlter : PgError where
  errmsg := "DuckDB does not support this ALTER TABLE command"

/-- `CheckOnCommitSupport`. -/
def CheckOnCommitSupport (oncommit : OnCommitAction) : Except PgError Unit :=
  raiseIf (oncommit = .DROP) noOnCommitDrop

/-- The query of the create trigger: the tables of the statement with the duckdb access method. -/
def createdDuckdbTables (s : Catalog) (cmds : List DdlCommand) : List (Oid × Relation) :=
  cmds.dedup.filterMap fun cmd =>
    match s.pg_class cmd.objid with
    | some rel =>
      if cmd.object_type = .table ∧ rel.relam = some .duckdb then some (cmd.objid, rel) else none
    | none => none

/-- The part of the create trigger that records the table. -/
def recordTable (env : Session) (s : Catalog) (relid : Oid) (rel : Relation) :
    Except PgError Catalog :=
  if rel.relpersistence = .temporary then
    .ok { s with temporary_duckdb_tables := insert relid s.temporary_duckdb_tables }
  else do
    raiseIf (env.motherduck_enabled = false) onlyTempTables
    raiseIf (relid ∈ s.duckdb_tables) alreadyRecorded
    .ok { s with duckdb_tables := insert relid s.duckdb_tables }

/-- The checks before the creation is forwarded to DuckDB, `pgduckdb_get_tabledef` included. -/
def checkForward (parsetree : ParseTree) (rel : Relation) : Except PgError Unit := do
  match parsetree with
  | .create oncommit => CheckOnCommitSupport oncommit
  | _ => .error unexpectedParsetree
  raiseIf (rel.relpersistence = .unlogged) noUnloggedTables

/-- `duckdb_create_table_trigger`. -/
def duckdb_create_table_trigger (env : Session) (parsetree : ParseTree) (cmds : List DdlCommand)
    (s : Catalog) : Except PgError Catalog := do
  let original_ddl_type := s.top_level_duckdb_ddl_type
  let s := { s with top_level_duckdb_ddl_type := .NONE }
  match createdDuckdbTables s cmds with
  | [] => .ok s
  | [(relid, rel)] => do
    raiseIf (original_ddl_type ≠ .CREATE_TABLE) cannotCreateThisWay
    let s ← recordTable env s relid rel
    if env.doing_motherduck_sync then .ok s
    else do
      checkForward parsetree rel
      .ok s
  | rows => .error (severalTables rows.length)

/-- The query of the alter trigger: the tables of the statement that are or were DuckDB tables, and
for a temporary one whether the set of temporary tables has to be asked. -/
def alteredDuckdbTables (s : Catalog) (cmds : List DdlCommand) : List (Oid × Bool) :=
  let tables := cmds.filter fun cmd => cmd.object_type = .table
  let tablesWith (p : Relation → Bool) : List DdlCommand :=
    tables.filter fun cmd => (s.pg_class cmd.objid).any p
  (tablesWith fun rel => rel.relam = some .duckdb).map (·.objid, false) ++
    (tables.filter fun cmd => cmd.objid ∈ s.duckdb_tables).map (·.objid, false) ++
    (tablesWith fun rel => rel.relam ≠ some .duckdb ∧ rel.relpersistence = .temporary).map
      (·.objid, true)

/-- `duckdb_alter_table_trigger`. -/
def duckdb_alter_table_trigger (env : Session) (parsetree : ParseTree) (cmds : List DdlCommand)
    (s : Catalog) : Except PgError Catalog :=
  let original_ddl_type := s.top_level_duckdb_ddl_type
  let s := { s with top_level_duckdb_ddl_type := .NONE }
  match alteredDuckdbTables s cmds with
  | [] => .ok s
  | (relid, needs_to_check_temporary_set) :: _ =>
    if env.doing_motherduck_sync then .ok s
    else if needs_to_check_temporary_set ∧ relid ∉ s.temporary_duckdb_tables then .ok s
    else do
      raiseIf (original_ddl_type ≠ .ALTER_TABLE) cannotAlterThisWay
      match parsetree with
      | .alter supported => raiseIf (supported = false) unsupportedAlter
      | _ => .error unexpectedParsetree
      .ok s

/-- The `ddl_command_end` triggers of a complete statement, filtered by its command tag. -/
def ddlCommandEnd (env : Session) (tag : CommandTag) (parsetree : ParseTree)
    (cmds : List DdlCommand) (s : Catalog) : Except PgError Catalog := do
  let s ← if tag ∈ alterTableTriggerTags then duckdb_alter_table_trigger env parsetree cmds s
    else .ok s
  if tag ∈ createTableTriggerTags then duckdb_create_table_trigger env parsetree cmds s else .ok s

/-- An object that a statement drops, as a row of `pg_event_trigger_dropped_objects()`. -/
inductive DroppedObject
  | relation (objid : Oid) (object_type : RelKind) (inPgTemp : Bool)
  | ddbSchema
  /-- An object of another type that the trigger counts. -/
  | counted
  deriving DecidableEq

/-- `object_type IN ('table', 'view')`. -/
def DroppedObject.isTableOrView : DroppedObject → Bool
  | .relation _ object_type _ => object_type = .table ∨ object_type = .view
  | _ => false

/-- An object that the trigger counts. Of the relations it leaves out indexes, sequences and toast
tables. -/
def DroppedObject.isCounted : DroppedObject → Bool
  | .relation _ object_type _ => object_type ≠ .other
  | _ => true

/-- The ids of the dropped tables and views. -/
def droppedTablesAndViews (objs : List DroppedObject) : List Oid :=
  (objs.filter DroppedObject.isTableOrView).filterMap fun
    | .relation objid _ _ => some objid
    | _ => none

/-- The ids of the dropped tables of `pg_temp`. -/
def droppedTempTables (objs : List DroppedObject) : List Oid :=
  objs.filterMap fun
    | .relation objid .table true => some objid
    | _ => none

/-- The loop over the dropped tables of `pg_temp`: the set of temporary tables, and the number of
DuckDB tables found in it. -/
def unregisterTempTables (tables : Finset Oid) (deleted_duckdb_relations : Nat) :
    List Oid → Finset Oid × Nat
  | [] => (tables, deleted_duckdb_relations)
  | relid :: relids =>
    if relid ∈ tables then
      unregisterTempTables (tables.erase relid) (deleted_duckdb_relations + 1) relids
    else unregisterTempTables tables deleted_duckdb_relations relids

/-- `duckdb_drop_trigger`. -/
def duckdb_drop_trigger (env : Session) (objs : List DroppedObject) (s : Catalog) :
    Except PgError Catalog := do
  raiseIf (env.doing_motherduck_sync = false ∧ .ddbSchema ∈ objs) dropsDdbSchema
  let total_deleted := objs.countP DroppedObject.isCounted
  let deleted_relations := objs.countP DroppedObject.isTableOrView
  if deleted_relations = 0 then .ok s
  else do
    let deleted := droppedTablesAndViews objs
    let deleted_rows := (deleted.filter (· ∈ s.duckdb_tables)).length
    -- The rows are deleted in any case, but forwarded and counted only with MotherDuck.
    let forwarded :=
      if env.motherduck_enabled && !env.doing_motherduck_sync then deleted_rows else 0
    let (temporary_duckdb_tables, deleted_duckdb_relations) :=
      unregisterTempTables s.temporary_duckdb_tables forwarded (droppedTempTables objs)
    let mixed : Bool := !env.mixed_writes_allowed && deleted_duckdb_relations > 0
    raiseIf (mixed ∧ deleted_duckdb_relations < deleted_relations) dropsBothRelations
    raiseIf (mixed ∧ deleted_duckdb_relations < total_deleted) dropsBothObjects
    .ok { s with duckdb_tables := s.duckdb_tables \ deleted.toFinset
                 temporary_duckdb_tables }

/-! ## Creation -/

/-- The table or materialized view of a statement that creates one. -/
structure NewTable where
  /-- The id that Postgres picks for it. -/
  relid : Oid
  /-- `IsDuckdbSchemaName` of the schema it is created in. -/
  inDdbSchema : Bool
  /-- The `USING` clause. -/
  accessMethod : Option AccessMethod
  relpersistence : RelPersistence
  oncommit : OnCommitAction
  /-- The name is taken and the statement says `IF NOT EXISTS`. -/
  alreadyExists : Bool
  deriving DecidableEq

/-- The access method Postgres creates the table with. -/
def NewTable.relam (env : Session) (stmt : NewTable) : AccessMethod :=
  stmt.accessMethod.getD env.default_table_access_method

/-- The errors of a creation. -/
def nonDuckdbInDdbSchema : PgError where
  errmsg := "Creating a non-DuckDB table in a ddb$ schema is not supported"

/-- The error about ON COMMIT of a permanent table. -/
def onCommitOfPermanent : PgError where
  errmsg := "ON COMMIT can only be used on temporary tables"

/-- The error about a number that is taken. -/
def oidInUse : PgError where
  errmsg := "duplicate key value violates unique constraint \"pg_class_oid_index\""

/-- The error about the name of a ddb$ schema. -/
def createsDdbSchema : PgError where
  errmsg := "Creating ddb$ schemas is currently not supported"

/-- The error about a callback that is missing. -/
def notImplemented (callback : String) : PgError where
  errmsg := "duckdb does not implement " ++ callback

/-- `DuckdbHandleDDLPre` defaults to the duckdb access method in a `ddb$` schema, and allows no
other there. -/
def defaultToDuckdb (stmt : NewTable) : Except PgError NewTable :=
  if stmt.inDdbSchema then
    match stmt.accessMethod with
    | none => .ok { stmt with accessMethod := some .duckdb }
    | some .duckdb => .ok stmt
    | some _ => .error nonDuckdbInDdbSchema
  else .ok stmt

/-- `DuckdbHandleDDLPre` of a `CreateStmt` or a `CreateTableAsStmt`: the statement it leaves to
Postgres, and the catalog with the type of the statement noted. -/
def DuckdbHandleDDLPre_create (env : Session) (stmt : NewTable) (s : Catalog) :
    Except PgError (NewTable × Catalog) := do
  let stmt ← defaultToDuckdb stmt
  if stmt.relam env = .duckdb then do
    raiseIf (s.top_level_duckdb_ddl_type ≠ .NONE) oneTablePerStatement
    .ok (stmt, { s with top_level_duckdb_ddl_type := .CREATE_TABLE })
  else .ok (stmt, s)

/-- Postgres creates the relation, under an id that no relation has. -/
def DefineRelation (env : Session) (relkind : RelKind) (stmt : NewTable) (s : Catalog) :
    Except PgError (Catalog × List DdlCommand) :=
  if stmt.alreadyExists then .ok (s, [])
  else do
    raiseIf (stmt.oncommit ≠ .NOOP ∧ stmt.relpersistence ≠ .temporary) onCommitOfPermanent
    raiseIf ((s.pg_class stmt.relid).isSome) oidInUse
    .ok (s.setRelation stmt.relid
          { relkind
            relam := some (stmt.relam env)
            relpersistence := stmt.relpersistence
            oncommit := stmt.oncommit },
      [{ objid := stmt.relid, object_type := relkind }])

/-- The statements that create one table or materialized view. -/
inductive Creation
  | createTable
  | createTableAs
  | selectInto
  | createMaterializedView
  deriving DecidableEq, Repr

namespace Creation

/-- The command tag of a creation. -/
def tag : Creation → CommandTag
  | .createTable => .CREATE_TABLE
  | .createTableAs => .CREATE_TABLE_AS
  | .selectInto => .SELECT_INTO
  | .createMaterializedView => .CREATE_MATERIALIZED_VIEW

/-- The kind of relation a creation makes. -/
def relkind : Creation → RelKind
  | .createMaterializedView => .materializedView
  | _ => .table

end Creation

/-- A statement that creates one relation: the hook, Postgres and the triggers. Postgres does not
execute the query of a `CREATE TABLE AS` for a DuckDB table (`skipData`), so no row reaches the
access method. -/
def runCreate (env : Session) (form : Creation) (stmt : NewTable) (s : Catalog) :
    Except PgError Catalog := do
  let (stmt, s) ← DuckdbHandleDDLPre_create env stmt s
  let (s, cmds) ← DefineRelation env form.relkind stmt s
  ddlCommandEnd env form.tag (.create stmt.oncommit) cmds s

/-- `EXPLAIN ANALYZE` of a statement that creates a relation from a query: Postgres creates it, but
the hook sees an `ExplainStmt` and there are no event triggers. Unless it says `WITH NO DATA` the
end of the creation calls `duckdb_finish_bulk_insert`. -/
def runExplainAnalyze (env : Session) (form : Creation) (stmt : NewTable) (withNoData : Bool)
    (s : Catalog) : Except PgError Catalog := do
  let (s', _) ← DefineRelation env form.relkind stmt s
  raiseIf (withNoData = false ∧ stmt.relam env = .duckdb ∧
    s.top_level_duckdb_ddl_type ≠ .ALTER_TABLE) (notImplemented "duckdb_finish_bulk_insert")
  .ok s'

/-- The `CREATE TABLE` elements of a `CREATE SCHEMA`. Each goes through the hook, as a subcommand;
the triggers fire only for the whole statement. -/
def createElements (env : Session) : List NewTable → Catalog → Except PgError Catalog
  | [], s => .ok s
  | stmt :: stmts, s => do
    let (stmt, s) ← DuckdbHandleDDLPre_create env stmt s
    let (s, _) ← DefineRelation env .table stmt s
    createElements env stmts s

/-- `CREATE SCHEMA` with its `CREATE TABLE` elements. -/
def runCreateSchema (env : Session) (ddbSchema : Bool) (elements : List NewTable) (s : Catalog) :
    Except PgError Catalog := do
  raiseIf (env.doing_motherduck_sync = false ∧ ddbSchema = true) createsDdbSchema
  let s ← createElements env elements s
  ddlCommandEnd env .CREATE_SCHEMA .createSchema [] s

/-- `CREATE VIEW`, and whether it is to be a MotherDuck view (`NeedsToBeMotherDuckView`, or any
view of the background worker). -/
structure NewView where
  relid : Oid
  isMotherDuckView : Bool
  relpersistence : RelPersistence
  /-- `CREATE OR REPLACE` of an existing view. -/
  replaces : Bool
  deriving DecidableEq

/-- The errors of a view. -/
def noTemporaryViews : PgError where
  errmsg := "TEMPORARY views are not supported in DuckDB"

/-- The error about a relation that is no view. -/
def notAView : PgError where
  errmsg := "not a view"

/-- The relation of a view. -/
def viewRelation (relpersistence : RelPersistence) : Relation where
  relkind := .view
  relam := none
  relpersistence
  oncommit := .NOOP

/-- Postgres creates a view under a new id, or replaces one. -/
def DefineView (stmt : NewView) (s : Catalog) : Except PgError Catalog := do
  raiseIf (s.pg_class stmt.relid ≠
    if stmt.replaces then some (viewRelation stmt.relpersistence) else none)
    (if stmt.replaces then notAView else oidInUse)
  .ok (s.setRelation stmt.relid (viewRelation stmt.relpersistence))

/-- `CREATE VIEW`. The post hook, not a trigger, records a MotherDuck view in `duckdb.tables`. -/
def runCreateView (stmt : NewView) (s : Catalog) : Except PgError Catalog := do
  raiseIf (stmt.isMotherDuckView = true ∧ stmt.relpersistence ≠ .permanent) noTemporaryViews
  let s ← DefineView stmt s
  if stmt.isMotherDuckView then
    .ok { s with duckdb_tables := insert stmt.relid s.duckdb_tables }
  else .ok s

/-! ## Change -/

/-- `ALTER TABLE` or `ALTER MATERIALIZED VIEW`. -/
structure AlterTable where
  relid : Oid
  /-- `ALTER MATERIALIZED VIEW`, which is the same parse node with another tag. -/
  ofMaterializedView : Bool
  /-- `SET ACCESS METHOD`. -/
  accessMethod : Option AccessMethod
  /-- The table has rows, if it is a Postgres table. -/
  hasRows : Bool
  /-- Some other subcommand is unknown to `pgduckdb_get_alter_tabledef`. -/
  otherUnsupported : Bool
  deriving DecidableEq

/-- The errors of a change. -/
def undefinedTable : PgError where
  errmsg := "relation does not exist"

/-- The error about a relation of another kind. -/
def wrongObjectType : PgError where
  errmsg := "ALTER action cannot be performed on relation"

/-- The error about a view of MotherDuck. -/
def altersMotherDuckView : PgError where
  errmsg := "Altering a MotherDuck view is not supported"

/-- `DuckdbHandleDDLPre` of an `AlterTableStmt`. -/
def DuckdbHandleDDLPre_alter (stmt : AlterTable) (rel : Relation) (s : Catalog) :
    Except PgError Catalog := do
  let s := if IsDuckdbTable rel ∧ s.top_level_duckdb_ddl_type = .NONE then
    { s with top_level_duckdb_ddl_type := .ALTER_TABLE } else s
  raiseIf (rel.relkind = .view ∧ stmt.relid ∈ s.duckdb_tables) altersMotherDuckView
  .ok s

/-- Postgres moves the rows to a new access method, through the callbacks of the duckdb one if it
is the old or the new. -/
def rewriteTable (ddl_type : DDLType) (hasRows : Bool) (old new : AccessMethod) :
    Except PgError Unit := do
  raiseIf (old = .duckdb ∧ ddl_type ≠ .ALTER_TABLE) (notImplemented "duckdb_scan_getnextslot")
  raiseIf (new = .duckdb ∧ hasRows = true) (notImplemented "duckdb_tuple_insert")
  raiseIf (new = .duckdb ∧ ddl_type ≠ .ALTER_TABLE) (notImplemented "duckdb_finish_bulk_insert")

/-- Postgres changes the relation. Only a table or a materialized view has an access method. -/
def processAlter (stmt : AlterTable) (rel : Relation) (s : Catalog) : Except PgError Catalog :=
  match stmt.accessMethod with
  | none => .ok s
  | some new =>
    match rel.relam with
    | none => .error wrongObjectType
    | some old => do
      raiseIf (rel.relkind ≠ .table ∧ rel.relkind ≠ .materializedView) wrongObjectType
      if old = new then .ok s
      else do
        rewriteTable s.top_level_duckdb_ddl_type stmt.hasRows old new
        .ok (s.setRelation stmt.relid { rel with relam := some new })

/-- `ALTER TABLE` or `ALTER MATERIALIZED VIEW`. Postgres takes the first for any relation, the
second for a materialized view only. -/
def runAlter (env : Session) (stmt : AlterTable) (s : Catalog) : Except PgError Catalog :=
  match s.pg_class stmt.relid with
  | none => .error undefinedTable
  | some rel => do
    let s ← DuckdbHandleDDLPre_alter stmt rel s
    raiseIf (stmt.ofMaterializedView = true ∧ rel.relkind ≠ .materializedView) wrongObjectType
    let s ← processAlter stmt rel s
    ddlCommandEnd env (if stmt.ofMaterializedView then .ALTER_MATERIALIZED_VIEW else .ALTER_TABLE)
      (.alter (stmt.accessMethod.isNone && !stmt.otherUnsupported))
      [{ objid := stmt.relid, object_type := rel.relkind }] s

/-! ## Drop -/

/-- A statement that drops relations and other objects, by name, by owner or by cascade. -/
structure Drop where
  relids : List Oid
  /-- A `ddb$` schema is among them. -/
  ddbSchema : Bool
  /-- The number of objects of other types that the trigger counts. -/
  counted : Nat
  deriving DecidableEq

/-- The objects that a drop reports. -/
def Drop.objects (stmt : Drop) (s : Catalog) : List DroppedObject :=
  (stmt.relids.filterMap fun relid => (s.pg_class relid).map fun rel =>
      .relation relid rel.relkind (rel.relpersistence = .temporary)) ++
    (if stmt.ddbSchema then [.ddbSchema] else []) ++ List.replicate stmt.counted .counted

/-- Postgres deletes the objects, and the `sql_drop` trigger of every tag follows. -/
def runDrop (env : Session) (stmt : Drop) (s : Catalog) : Except PgError Catalog :=
  duckdb_drop_trigger env (stmt.objects s) (s.keepRelations fun oid _ => oid ∉ stmt.relids)

/-! ## Statements -/

/-- A utility statement that may create, change or drop relations. -/
inductive Statement
  | create (form : Creation) (stmt : NewTable)
  | explainAnalyze (form : Creation) (stmt : NewTable) (withNoData : Bool)
  | createSchema (ddbSchema : Bool) (elements : List NewTable)
  | createView (stmt : NewView)
  | refreshMaterializedView
  | alter (stmt : AlterTable)
  | drop (stmt : Drop)
  /-- `DISCARD TEMP` or `DISCARD ALL`, for which there are no event triggers. -/
  | discardTemp
  /-- `COMMIT`, or the end of a statement outside a transaction block. -/
  | commit

/-- What a statement does. -/
def Statement.run (env : Session) (s : Catalog) : Statement → Except PgError Catalog
  | .create form stmt => runCreate env form stmt s
  | .explainAnalyze form stmt withNoData => runExplainAnalyze env form stmt withNoData s
  | .createSchema ddbSchema elements => runCreateSchema env ddbSchema elements s
  | .createView stmt => runCreateView stmt s
  | .refreshMaterializedView =>
    .ok { s with top_level_duckdb_ddl_type := .REFRESH_MATERIALIZED_VIEW }
  | .alter stmt => runAlter env stmt s
  | .drop stmt => runDrop env stmt s
  | .discardTemp => .ok (s.keepRelations fun _ rel => rel.relpersistence ≠ .temporary)
  | .commit =>
    .ok { s.keepRelations fun _ rel => rel.oncommit ≠ .DROP with
            top_level_duckdb_ddl_type := .NONE }

/-- One statement of a session whose settings may change in between; `none` if it fails. -/
def Catalog.step (s : Catalog) (i : Session × Statement) : Option Catalog :=
  (i.2.run i.1 s).toOption

end PgDuckdb.Tables
