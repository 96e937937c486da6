import PgDuckdb.Deparse.CreateTable
import PgDuckdb.Deparse.RelationStatements
import PgDuckdb.Lib.Run

/-!
# Shells and their relations in DuckDB

For each relation of DuckDB there is one in the catalog of PostgreSQL, its shell, and no more than their names tell
which belong together. What changes one of the catalogs has to change the other, and it is the hooks and the event
triggers that see to that (`pgduckdb_ddl.cpp`): each takes the name as it is in PostgreSQL and sends a statement with
the name in DuckDB.

A statement is all or nothing in both of them. What DuckDB does with the ones it is sent is in `DuckDB`; `Sent` has
their texts.
-/

namespace PgDuckdb.Shells

open Pg (Text)
open Copy (Backend)
open AlterTable (Deparsed)
open RelationStatements (RelationType RelationName Statement Sent RenameStmt ViewStmt ObjectType RELKIND_VIEW
  relationName)

/-! ## DuckDB -/

/-- A relation of DuckDB. -/
structure Entry where
  type : RelationType
  db_name : Text
  schema_name : Text
  relname : Text
  deriving DecidableEq, Repr

/-- What a statement does to the names of the relations. -/
inductive Change
  | createTable (name : RelationName)
  | createView (replace : Bool) (name : RelationName)
  | rename (type : RelationType) (name : RelationName) (newname : Text)
  | drop (type : RelationType) (if_exists : Bool) (name : RelationName)
  deriving DecidableEq, Repr

/-- What a statement that is sent does. `CREATE TABLE` has a text of its own. -/
def Change.ofStatement : Statement → Option Change
  | .createView replace name _ _ => some (.createView replace name)
  | .rename type name newname => some (.rename type name newname)
  | .drop type if_exists name => some (.drop type if_exists name)
  | .renameColumn .. | .truncate _ | .insert .. => none

/-- A relation under its name, in which capital letters may count for small ones. -/
def entry (fold : Text → Text) (type : RelationType) (name : RelationName) : Entry :=
  ⟨type, fold name.db_name, fold name.schema_name, fold name.relname⟩

/-- The name that `RENAME` gives. -/
def renamed (name : RelationName) (newname : Text) : RelationName := { name with relname := newname }

/-- What DuckDB does with statements that name a relation, each of which may fail. -/
structure DuckDB (σ : Type) where
  /-- Names are equal if they are when this is done to them. -/
  fold : Text → Text
  has : σ → Entry → Prop
  run : Change → σ → Option σ
  createTable {name : RelationName} {d d' : σ} : run (.createTable name) d = some d' →
    (∀ type, ¬has d (entry fold type name)) ∧ ∀ e, has d' e ↔ has d e ∨ e = entry fold .table name
  createView {replace : Bool} {name : RelationName} {d d' : σ} : run (.createView replace name) d = some d' →
    ¬has d (entry fold .table name) ∧ (replace = false → ¬has d (entry fold .view name)) ∧
      ∀ e, has d' e ↔ has d e ∨ e = entry fold .view name
  rename {type : RelationType} {name : RelationName} {newname : Text} {d d' : σ} :
    run (.rename type name newname) d = some d' → has d (entry fold type name) ∧
      (fold newname ≠ fold name.relname → ∀ type', ¬has d (entry fold type' (renamed name newname))) ∧
      ∀ e, has d' e ↔ has d e ∧ e ≠ entry fold type name ∨ e = entry fold type (renamed name newname)
  drop {type : RelationType} {if_exists : Bool} {name : RelationName} {d d' : σ} :
    run (.drop type if_exists name) d = some d' → ∀ e, has d' e ↔ has d e ∧ e ≠ entry fold type name

/-! ## The session -/

/-- A relation that is recorded, in `duckdb.tables` or as a temporary table. Only tables are temporary. -/
structure Shell where
  oid : Oid
  relnamespace : Oid
  relname : Text
  type : RelationType
  temporary : Bool
  temporary_table : temporary = true → type = .table

/-- The relations of a database, its schemas, and what DuckDB has. -/
structure State (σ : Type) where
  nspname : Oid → Text
  shells : List Shell
  duck : σ

/-- Who renames a relation: `ALTER TABLE` and `ALTER VIEW` do, and `ALTER INDEX` may. -/
inductive RenameTag
  | ALTER_TABLE
  | ALTER_VIEW
  | ALTER_INDEX
  deriving DecidableEq, Repr

/-- Statements that make, rename, move or drop a relation, or rename a schema. -/
inductive Command
  /-- `CREATE TABLE`, or with `AS`, with the access method of DuckDB. -/
  | createTable (relid relnamespace : Oid) (relname : Text) (temporary : Bool)
  /-- `CREATE VIEW`, of one that is to be in MotherDuck. -/
  | createView (relid relnamespace : Oid) (relname : Text) (stmt : ViewStmt) (duckdb_query_string : Deparsed)
  | rename (tag : RenameTag) (relid : Oid) (newname : Text)
  /-- `DROP`, of all the relations that the trigger finds. -/
  | drop (relids : List Oid)
  | renameSchema (relnamespace : Oid) (newname : Text)
  /-- `SET SCHEMA`, of one relation. -/
  | setSchema (relid relnamespace : Oid)

section
variable {σ : Type} (b : Backend) (duck : DuckDB σ)

/-- `get_namespace_name_or_temp` of the schema of a relation, which is also what the drop trigger finds. -/
def schemaName (s : State σ) (shell : Shell) : Text :=
  if shell.temporary then "pg_temp".toList else s.nspname shell.relnamespace

/-- The name in DuckDB. -/
def nameOf (s : State σ) (shell : Shell) : Option RelationName :=
  (relationName b (schemaName s shell) shell.relname).toOption

/-- The relation in DuckDB. -/
def entryOf (s : State σ) (shell : Shell) : Option Entry := (nameOf b s shell).map (entry duck.fold shell.type)

/-- A statement is sent. -/
def send (sent : Sent) (d : σ) : Option σ := do
  let statement ← (sent.statement b).toOption
  let change ← Change.ofStatement statement
  duck.run change d

/-- `CREATE TABLE`, forwarded by `duckdb_create_table_trigger`. The identifier is a new one. -/
def createTable (s : State σ) (relid relnamespace : Oid) (relname : Text) (temporary : Bool) : Option (State σ) :=
  if s.shells.any (·.oid = relid) then none
  else if temporary = false ∧ b.schemas.motherduckEnabled = false then none
  else do
    let shell : Shell := ⟨relid, relnamespace, relname, .table, temporary, fun _ => rfl⟩
    let name ← nameOf b s shell
    let d ← duck.run (.createTable name) s.duck
    return { s with shells := shell :: s.shells, duck := d }

/-- `CREATE VIEW`, forwarded by `DuckdbHandleViewStmtPre`. A view that is replaced and was recorded stays recorded; the
identifier is that of another view or a new one. -/
def createView (s : State σ) (relid relnamespace : Oid) (relname : Text) (stmt : ViewStmt)
    (duckdb_query_string : Deparsed) : Option (State σ) :=
  if b.schemas.motherduckEnabled = false then none
  else do
    let shell : Shell := ⟨relid, relnamespace, relname, .view, false, nofun⟩
    let d ← send b duck (.view stmt (schemaName s shell) relname duckdb_query_string) s.duck
    match s.shells.find? fun shell => shell.relnamespace = relnamespace ∧ shell.relname = relname with
    | some found => if stmt.replace ∧ found.type = .view then return { s with duck := d } else none
    | none =>
      if s.shells.any (·.oid = relid) then none else return { s with shells := shell :: s.shells, duck := d }

/-- With another name. -/
def Shell.withName (shell : Shell) (relname : Text) : Shell := { shell with relname := relname }

/-- In another schema. -/
def Shell.withNamespace (shell : Shell) (relnamespace : Oid) : Shell := { shell with relnamespace := relnamespace }

/-- A relation of PostgreSQL is changed. -/
def updateShell (relid : Oid) (f : Shell → Shell) (shells : List Shell) : List Shell :=
  shells.map fun shell => if shell.oid = relid then f shell else shell

/-- The kind of a shell. -/
def Shell.relkind (shell : Shell) : Char :=
  match shell.type with
  | .table => CreateTable.RELKIND_RELATION
  | .view => RELKIND_VIEW

/-- The statement, of a table or of a view. -/
def renameStmt (shell : Shell) (newname : Text) : RenameStmt where
  renameType := match shell.type with
    | .table => .OBJECT_TABLE
    | .view => .OBJECT_VIEW
  relname := shell.relname
  subname := none
  newname := newname

/-- `RENAME TO`. Of a table, `duckdb_alter_table_trigger` forwards it, whose tag is `ALTER TABLE`; of a view,
`DuckdbHandleRenameViewPre`. `DuckdbHandleDDLPre` does not look at `ALTER INDEX`, which PostgreSQL takes for any
relation. -/
def rename (s : State σ) (tag : RenameTag) (relid : Oid) (newname : Text) : Option (State σ) := do
  let shell ← s.shells.find? (·.oid = relid)
  match tag, shell.type with
  | .ALTER_INDEX, _ => return { s with shells := updateShell relid (·.withName newname) s.shells }
  | .ALTER_VIEW, .table => none
  | _, _ => do
    let d ← send b duck (.rename (schemaName s shell) shell.relkind (renameStmt shell newname)) s.duck
    return { s with shells := updateShell relid (·.withName newname) s.shells, duck := d }

/-- The `DROP` of a relation. -/
def drop_query (s : State σ) (shell : Shell) : Sent :=
  if shell.temporary then .dropTemp shell.relname else .drop shell.type (schemaName s shell) shell.relname

/-- One after the other. -/
def dropAll (s : State σ) : List Shell → σ → Option σ
  | [], d => some d
  | shell :: shells, d => do
    let d ← send b duck (drop_query s shell) d
    dropAll s shells d

/-- `duckdb_drop_trigger`. What is in `duckdb.tables` is dropped in DuckDB if MotherDuck is enabled, and temporary
tables are after that. -/
def drop (s : State σ) (relids : List Oid) : Option (State σ) := do
  let dropped := s.shells.filter fun shell => relids.contains shell.oid
  let permanent := if b.schemas.motherduckEnabled then dropped.filter (·.temporary = false) else []
  let d ← dropAll b duck s permanent s.duck
  let d ← dropAll b duck s (dropped.filter (·.temporary = true)) d
  return { s with shells := s.shells.filter fun shell => !relids.contains shell.oid, duck := d }

/-- `ALTER SCHEMA ... RENAME TO`. -/
def renameSchema (s : State σ) (relnamespace : Oid) (newname : Text) : Option (State σ) :=
  if IsDuckdbSchemaName (s.nspname relnamespace) ∨ IsDuckdbSchemaName newname then none
  else some { s with nspname := Function.update s.nspname relnamespace newname }

/-- `SET SCHEMA`. Only that of a table is refused. -/
def setSchema (s : State σ) (relid relnamespace : Oid) : Option (State σ) := do
  let shell ← s.shells.find? (·.oid = relid)
  match shell.type with
  | .table => none
  | .view => return { s with shells := updateShell relid (·.withNamespace relnamespace) s.shells }

/-- A statement that succeeds. -/
def step (s : State σ) : Command → Option (State σ)
  | .createTable relid relnamespace relname temporary => createTable b duck s relid relnamespace relname temporary
  | .createView relid relnamespace relname stmt duckdb_query_string =>
    createView b duck s relid relnamespace relname stmt duckdb_query_string
  | .rename tag relid newname => rename b duck s tag relid newname
  | .drop relids => drop b duck s relids
  | .renameSchema relnamespace newname => renameSchema s relnamespace newname
  | .setSchema relid relnamespace => setSchema s relid relnamespace

/-- A statement of the session; one that fails leaves everything as it is. -/
def execute (s : State σ) (command : Command) : State σ := (step b duck s command).getD s

/-! ## What is wanted -/

/-- The shells are those of the relations in DuckDB, each of another one. -/
structure Agree (s : State σ) : Prop where
  oids : (s.shells.map (·.oid)).Nodup
  named : ∀ shell ∈ s.shells, ∃ e, entryOf b duck s shell = some e
  distinct : ∀ shell ∈ s.shells, ∀ shell' ∈ s.shells, entryOf b duck s shell = entryOf b duck s shell' →
    shell = shell'
  has : ∀ e, duck.has s.duck e ↔ ∃ shell ∈ s.shells, entryOf b duck s shell = some e

/-- The names in DuckDB stay those of the shells: a view replaces no view of another shell, a relation is renamed or
moved only if its name in DuckDB is the same after that, and MotherDuck is enabled when one of its relations is
dropped. -/
def Keeps (s : State σ) : Command → Prop
  | .createTable .. => True
  | .createView relid relnamespace relname stmt _ => stmt.replace = true → ∀ shell ∈ s.shells,
      entryOf b duck s shell = entryOf b duck s ⟨relid, relnamespace, relname, .view, false, nofun⟩ →
        shell.relnamespace = relnamespace ∧ shell.relname = relname
  | .rename tag relid newname => tag = .ALTER_INDEX → ∀ shell ∈ s.shells, shell.oid = relid →
      duck.fold newname = duck.fold shell.relname
  | .drop relids => b.schemas.motherduckEnabled = false → ∀ shell ∈ s.shells, shell.oid ∈ relids →
      shell.temporary = true
  | .renameSchema relnamespace newname => ∀ shell ∈ s.shells, shell.relnamespace = relnamespace →
      entryOf b duck { s with nspname := Function.update s.nspname relnamespace newname } shell = entryOf b duck s shell
  | .setSchema relid relnamespace => ∀ shell ∈ s.shells, shell.oid = relid →
      entryOf b duck s (shell.withNamespace relnamespace) = entryOf b duck s shell

end

end PgDuckdb.Shells
