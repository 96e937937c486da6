import Mathlib.Logic.Relation
import PgDuckdb.Sync.Session

/-!
# A round of the catalog sync

The catalogs of MotherDuck as a round of the sync reads them, and `SyncMotherDuckCatalogsWithPg`: for
each database with a new version it makes the shells of every schema, and then drops the shells of
the database that this has not refreshed, unless one of them failed.

`Moves` says what the shells that a round makes can do to the catalog of Postgres, and
`syncSchema_ensures` what comes of the objects of a schema; the results about whole rounds are in the
modules above.
-/

namespace PgDuckdb.Sync

open Lib (Ensures)

/-! ## The catalogs of MotherDuck -/

/-- A column, with the Postgres type it is shown as, if that is supported. -/
structure MdColumn where
  name : List Char
  pgType : Option (List Char)
  deriving DecidableEq, Repr

/-- `CreateTableInfo`. -/
structure MdTable where
  name : List Char
  columns : List MdColumn
  deriving DecidableEq, Repr

/-- `CreateViewInfo`. -/
structure MdView where
  name : List Char
  aliases : List (List Char)
  columns : List MdColumn
  query : List Char
  deriving DecidableEq, Repr

/-- A schema of a MotherDuck database. -/
structure MdSchema where
  name : List Char
  tables : List MdTable
  views : List MdView
  deriving DecidableEq, Repr

/-- A row of `__md_local_databases_metadata()`, and the schemas of the database. -/
structure MdDatabase where
  motherduck_db : List Char
  server_catalog_version : List Char
  schemas : List MdSchema
  deriving DecidableEq, Repr

/-- `WriteQuoted`. -/
def WriteQuoted (text : List Char) (quote : Char) : List Char :=
  quote :: Text.escapeQuotes quote text ++ [quote]

/-- The name of a relation in a command. -/
def qualifiedName (schema name : List Char) : List Char :=
  WriteQuoted schema '"' ++ '.' :: WriteQuoted name '"'

/-- `CreatePgTableString`, empty if no column is supported. -/
def CreatePgTableString (postgres_schema_name : List Char) (info : MdTable) : List Char :=
  let columns := info.columns.filterMap fun column =>
    column.pgType.map fun type => WriteQuoted column.name '"' ++ ' ' :: type
  if columns.isEmpty then []
  else "CREATE TABLE ".toList ++ qualifiedName postgres_schema_name info.name ++ "(".toList ++
    ", ".toList.intercalate columns ++ ") USING duckdb;".toList

/-- `CreatePgViewString`, empty if no column is supported. -/
def CreatePgViewString (motherduck_db schema_name postgres_schema_name : List Char)
    (info : MdView) : List Char :=
  let columns := info.columns.filterMap fun column =>
    column.pgType.map fun type => "r[".toList ++ WriteQuoted column.name '\'' ++ "]::".toList ++ type ++
      " AS ".toList ++ WriteQuoted column.name '"'
  let aliases := if info.aliases.isEmpty then []
    else " (".toList ++ ", ".toList.intercalate (info.aliases.map (WriteQuoted · '"')) ++ ")".toList
  if columns.isEmpty then []
  else "CREATE VIEW ".toList ++ qualifiedName postgres_schema_name info.name ++ aliases ++
    " AS SELECT ".toList ++ ", ".toList.intercalate columns ++ " FROM duckdb.view(".toList ++
    WriteQuoted motherduck_db '\'' ++ ", ".toList ++ WriteQuoted schema_name '\'' ++ ", ".toList ++
    WriteQuoted info.name '\'' ++ ", ".toList ++ WriteQuoted info.query '\'' ++ ") r;".toList

section
variable (env : Env)

/-- The database that is the default one. -/
def MdDatabase.is_default_db (db : MdDatabase) : Bool := db.motherduck_db = env.default_db

/-- The schema is not shown in Postgres. -/
def MdDatabase.skips (db : MdDatabase) (schema_name : List Char) : Bool :=
  schema_name = "information_schema".toList || schema_name = "pg_catalog".toList ||
    (schema_name = "public".toList && db.is_default_db env)

/-- The name of the Postgres schema for a schema of the database. -/
def MdDatabase.pgSchema (db : MdDatabase) (schema_name : List Char) : List Char :=
  PgSchemaName db.motherduck_db schema_name (db.is_default_db env)

/-! ## The round -/

/-- The callbacks of the scans of a schema. -/
def syncEntry (relkind : RelKind) (postgres_schema_name name create_query : List Char) :
    SyncM Unit := do
  if create_query.isEmpty then pure ()
  else if ← syncRelation env relkind postgres_schema_name name create_query then pure ()
  else modify fun s => { s with all_tables_synced_successfully := false, missed := true }

/-- Syncs a table of the schema. -/
def syncTable (postgres_schema_name : List Char) (table : MdTable) : SyncM Unit :=
  syncEntry env .table postgres_schema_name table.name
    (CreatePgTableString postgres_schema_name table)

/-- Syncs a view of the schema. -/
def syncView (motherduck_db schema_name postgres_schema_name : List Char) (view : MdView) :
    SyncM Unit :=
  syncEntry env .view postgres_schema_name view.name
    (CreatePgViewString motherduck_db schema_name postgres_schema_name view)

/-- One schema of the loop over the schemas of a database. Where the schema fails, the loop just goes
on; only `missed` knows. -/
def syncSchema (db : MdDatabase) (schema : MdSchema) : SyncM Unit := do
  if db.skips env schema.name then pure ()
  else if ← CreateSchemaIfNotExists env (db.pgSchema env schema.name) (db.is_default_db env) then
    schema.tables.forM (syncTable env (db.pgSchema env schema.name))
    schema.views.forM (syncView env db.motherduck_db schema.name (db.pgSchema env schema.name))
  else modify fun s => { s with missed := true }

/-- The condition of the query for the shells that are gone. A version that is null is not different
from any. -/
def Row.stale (row : Row) (motherduck_db version default_db : List Char) : Bool :=
  row.duckdb_db = motherduck_db &&
    (row.motherduck_catalog_version.any (· ≠ version) || row.default_database ≠ default_db)

/-- A relation that an older version of the catalog left. -/
def PgRelation.stale (x : PgRelation) (motherduck_db version default_db : List Char) : Bool :=
  x.row.any (·.stale motherduck_db version default_db)

/-- `DropRelation`. -/
def DropRelation (x : PgRelation) : SyncM Unit := do
  if ← SPI_run_utility_command env (dropRelation x.schema x.name) then
    modify fun s => { s with cleaned := x :: s.cleaned }
  else pure ()

/-- The clean-up loop. -/
def cleanup (db : MdDatabase) : SyncM Unit := do
  let s ← get
  (s.catalog.relations.filter (·.stale db.motherduck_db db.server_catalog_version env.default_db)).forM
    (DropRelation env)
  SPI_commit_that_works_in_bgworker env

/-- The version is new: remember it, and start over. -/
def beginDatabase (db : MdDatabase) (s : Session) : Session :=
  { s with
    current_motherduck_catalog_version := db.server_catalog_version
    last_known_motherduck_catalog_versions := fun n =>
      if n = db.motherduck_db then db.server_catalog_version
      else s.last_known_motherduck_catalog_versions n
    all_tables_synced_successfully := true
    missed := false }

/-- All schemas are done. -/
def endSchemas (db : MdDatabase) (s : Session) : Session :=
  { s with complete :=
      if s.missed then s.complete else (db.motherduck_db, db.server_catalog_version) :: s.complete }

/-- One database of `SyncMotherDuckCatalogsWithPg_Cpp`. -/
def syncDatabase (db : MdDatabase) : SyncM Unit := do
  let s ← get
  if s.last_known_motherduck_catalog_versions db.motherduck_db = db.server_catalog_version then pure ()
  else
    modify (beginDatabase db)
    db.schemas.forM (syncSchema env db)
    modify (endSchemas db)
    if (← get).all_tables_synced_successfully then cleanup env db else pure ()

/-- `SyncMotherDuckCatalogsWithPg_Cpp`. -/
def SyncMotherDuckCatalogsWithPg (catalog : List MdDatabase) : SyncM Unit :=
  catalog.forM (syncDatabase env)

/-! ## What is shown -/

/-- A table or view of the schema is shown under this name. -/
def MdDatabase.ShowsIn (db : MdDatabase) (schema : MdSchema) (name : List Char) : Prop :=
  (∃ table ∈ schema.tables, table.name = name ∧
    CreatePgTableString (db.pgSchema env schema.name) table ≠ []) ∨
  ∃ view ∈ schema.views, view.name = name ∧ CreatePgViewString db.motherduck_db schema.name
    (db.pgSchema env schema.name) view ≠ []

/-- A relation of the database is shown there. -/
def MdDatabase.Shows (db : MdDatabase) (postgres_schema_name name : List Char) : Prop :=
  ∃ schema ∈ db.schemas, db.skips env schema.name = false ∧
    db.pgSchema env schema.name = postgres_schema_name ∧ db.ShowsIn env schema name

/-! ## What the loops do -/

/-- One change of the catalog: rights and schemas, or a new shell at a place. -/
inductive Move (version : List Char) (places : List Char → List Char → Prop) (c : Catalog) :
    Catalog → Prop
  | schemas {c' : Catalog} (relations : c'.relations = c.relations)
      (kept : ∀ schema, (c.schemas schema).isSome = true → (c'.schemas schema).isSome = true) :
      Move version places c c'
  | shell {relkind : RelKind} {schema name definition : List Char} {row : Row}
      (place : places schema name) (known : (c.schemas schema).isSome = true)
      (short : strlen schema < NAMEDATALEN) (row_eq : shellRow env schema version = some row) :
      Move version places c (c.replace relkind schema name definition row)

/-- Any number of changes. -/
def Moves (version : List Char) (places : List Char → List Char → Prop) :
    Catalog → Catalog → Prop :=
  Relation.ReflTransGen (Move env version places)

/-- What is at the place was made in this version. -/
def MadeAt (version : List Char) (c : Catalog) (schema name : List Char) : Prop :=
  ∀ x ∈ c.relations, x.schema = schema → x.name = name →
    ∃ row, x.row = some row ∧ shellRow env schema version = some row

end

section
variable {env : Env} {version : List Char} {places places' : List Char → List Char → Prop}
  {c c' : Catalog}

/-- The relations after one is put in place. -/
theorem mem_replace {relkind : RelKind} {schema name definition : List Char} {row : Row}
    {x : PgRelation} : x ∈ (c.replace relkind schema name definition row).relations ↔
      x = ⟨schema, name, relkind, true, some row, definition⟩ ∨
        x ∈ c.relations ∧ ¬(x.schema = schema ∧ x.name = name) := by
  simp [Catalog.replace, Catalog.dropAt, PgRelation.isAt, imp_iff_not_or]

/-- Moves at some names are moves at more. -/
theorem Moves.mono (h : Moves env version places c c')
    (hplaces : ∀ schema name, places schema name → places' schema name) :
    Moves env version places' c c' := by
  refine Relation.ReflTransGen.mono ?_ c c' h
  intro c c' hmove
  cases hmove with
  | schemas relations kept => exact .schemas relations kept
  | shell place known short row_eq => exact .shell (hplaces _ _ place) known short row_eq

/-- Moves one after the other. -/
theorem Moves.trans {places'' : List Char → List Char → Prop} {c'' : Catalog}
    (h : Moves env version places c c') (h' : Moves env version places' c' c'')
    (hplaces : ∀ schema name, places schema name → places'' schema name)
    (hplaces' : ∀ schema name, places' schema name → places'' schema name) :
    Moves env version places'' c c'' :=
  Relation.ReflTransGen.trans (h.mono hplaces) (h'.mono hplaces')

/-- A place keeps what was made in this version. -/
theorem MadeAt.moves {schema name : List Char} (h : MadeAt env version c schema name)
    (hmoves : Moves env version places c c') : MadeAt env version c' schema name := by
  induction hmoves with
  | refl => exact h
  | tail _ hmove ih =>
    intro x hx hschema hname
    cases hmove with
    | schemas relations kept => exact ih x (relations ▸ hx) hschema hname
    | @shell relkind schema' name' definition row place known short row_eq =>
      obtain rfl | ⟨hx, -⟩ := mem_replace.1 hx
      · cases hschema
        exact ⟨row, rfl, row_eq⟩
      · exact ih x hx hschema hname

/-- A relation that is put in place is made as the version says. -/
theorem madeAt_replace {relkind : RelKind} {schema name definition : List Char} {row : Row}
    (hrow : shellRow env schema version = some row) :
    MadeAt env version (c.replace relkind schema name definition row) schema name := by
  intro x hx hschema hname
  obtain rfl | ⟨-, hother⟩ := mem_replace.1 hx
  · exact ⟨row, rfl, hrow⟩
  · exact absurd ⟨hschema, hname⟩ hother

/-- What is at no place of a shell stays. -/
theorem Moves.mem_of_not (h : Moves env version places c c') {x : PgRelation} (hx : x ∈ c.relations)
    (hplace : ¬places x.schema x.name) : x ∈ c'.relations := by
  induction h with
  | refl => exact hx
  | tail _ hmove ih =>
    cases hmove with
    | schemas relations kept =>
      rw [relations]
      exact ih
    | shell place known short row_eq =>
      refine mem_replace.2 (.inr ⟨ih, fun hsame => hplace ?_⟩)
      rw [hsame.1, hsame.2]
      exact place

/-- A relation was there before, or it is a shell that was made. -/
theorem Moves.of_mem (h : Moves env version places c c') {x : PgRelation} (hx : x ∈ c'.relations) :
    x ∈ c.relations ∨ places x.schema x.name ∧
      ∃ row, x.row = some row ∧ shellRow env x.schema version = some row := by
  induction h with
  | refl => exact .inl hx
  | tail _ hmove ih =>
    cases hmove with
    | schemas relations kept => exact ih (relations ▸ hx)
    | @shell relkind schema name definition row place known short row_eq =>
      obtain rfl | ⟨hx, -⟩ := mem_replace.1 hx
      · exact .inr ⟨place, row, rfl, row_eq⟩
      · exact ih hx

end

/-- What the objects of a database leave as it is. The mark of a failure stays. -/
structure Stable (s s' : Session) : Prop where
  subtransactions : s'.subtransactions = s.subtransactions
  version : s'.current_motherduck_catalog_version = s.current_motherduck_catalog_version
  lastKnown :
    s'.last_known_motherduck_catalog_versions = s.last_known_motherduck_catalog_versions
  complete : s'.complete = s.complete
  cleaned : s'.cleaned = s.cleaned
  flag : s'.all_tables_synced_successfully = true → s.all_tables_synced_successfully = true

/-- What a frame keeps is stable. -/
theorem Frame.stable {s s' : Session} (h : Frame s s') : Stable s s' where
  subtransactions := h.subtransactions
  version := h.version
  lastKnown := h.lastKnown
  complete := h.complete
  cleaned := h.cleaned
  flag := fun hflag => h.flag ▸ hflag

/-- A session is stable from itself. -/
theorem Stable.refl (s : Session) : Stable s s := (Frame.refl s).stable

/-- Stability is transitive. -/
theorem Stable.trans {s s' s'' : Session} (h : Stable s s') (h' : Stable s' s'') : Stable s s'' where
  subtransactions := h'.subtransactions.trans h.subtransactions
  version := h'.version.trans h.version
  lastKnown := h'.lastKnown.trans h.lastKnown
  complete := h'.complete.trans h.complete
  cleaned := h'.cleaned.trans h.cleaned
  flag := fun hflag => h.flag (h'.flag hflag)

section
variable {env : Env} {s : Session} {E : Session → Prop}

/-- What a loop over objects of one Postgres schema does. -/
structure Progress (env : Env) (schema : List Char) (names : List Char → Prop) (s s' : Session) :
    Prop where
  stable : Stable s s'
  moves : Moves env s.current_motherduck_catalog_version (fun P n => P = schema ∧ names n)
    s.catalog s'.catalog
  made : s'.all_tables_synced_successfully = true → ∀ name, names name →
    MadeAt env s.current_motherduck_catalog_version s'.catalog schema name

/-- One part of the objects after the other. -/
theorem Progress.trans {schema : List Char} {names names' : List Char → Prop} {s s' s'' : Session}
    (h : Progress env schema names s s') (h' : Progress env schema names' s' s'') :
    Progress env schema (fun n => names n ∨ names' n) s s'' := by
  have hmoves' := h'.moves
  rw [h.stable.version] at hmoves'
  refine ⟨h.stable.trans h'.stable, ?_, ?_⟩
  · exact h.moves.trans hmoves' (fun _ _ hplace => ⟨hplace.1, .inl hplace.2⟩)
      fun _ _ hplace => ⟨hplace.1, .inr hplace.2⟩
  · rintro hflag name (hname | hname)
    · exact (h.made (h'.stable.flag hflag) name hname).moves hmoves'
    · rw [← h.stable.version]
      exact h'.made hflag name hname

/-- Progress is about the names alone. -/
theorem Progress.congr {schema : List Char} {names names' : List Char → Prop} {s s' : Session}
    (h : Progress env schema names s s') (hnames : ∀ n, names n ↔ names' n) :
    Progress env schema names' s s' := by
  rw [show names' = names from funext fun n => propext (hnames n).symm]
  exact h

/-- One object: it is made, or the failure is marked. -/
theorem syncEntry_ensures {relkind : RelKind} {schema name create_query : List Char}
    (hshort : strlen schema < NAMEDATALEN) :
    Ensures (syncEntry env relkind schema name create_query) s
      (fun _ => Progress env schema (fun n => n = name ∧ create_query ≠ []) s) (Stable s) := by
  unfold syncEntry
  split
  · rename_i hempty
    refine ⟨.refl s, .refl, fun _ n hn => ?_⟩
    exact absurd (List.isEmpty_iff.1 hempty) hn.2
  · rename_i hquery
    rw [List.isEmpty_iff] at hquery
    refine .bind (syncRelation_ensures.mono ?_ fun _ hframe => hframe.stable)
    rintro b s' ⟨hframe, hfalse, htrue⟩
    cases b with
    | true =>
      obtain ⟨row, hrow, hsome, hcatalog⟩ := htrue rfl
      refine ⟨hframe.stable, ?_, fun _ n hn => ?_⟩
      · rw [hcatalog]
        exact .single (.shell ⟨rfl, rfl, hquery⟩ hsome hshort hrow)
      · rw [hcatalog, hn.1]
        exact madeAt_replace hrow
    | false =>
      refine Ensures.modify ⟨⟨hframe.1, hframe.2, hframe.3, hframe.6, hframe.7, nofun⟩,
        ?_, nofun⟩
      rw [hfalse rfl]
      exact .refl

/-- The objects of one kind. -/
theorem syncEntries_ensures {γ : Type} {relkind : RelKind} {schema : List Char}
    {name create_query : γ → List Char} {f : γ → SyncM Unit}
    (hf : ∀ x, f x = syncEntry env relkind schema (name x) (create_query x))
    (hshort : strlen schema < NAMEDATALEN) (xs : List γ) :
    Ensures (xs.forM f) s
      (fun _ => Progress env schema (fun n => ∃ x ∈ xs, name x = n ∧ create_query x ≠ []) s)
      (Stable s) := by
  let I (done _ : List γ) : Session → Prop :=
    Progress env schema (fun n => ∃ x ∈ done, name x = n ∧ create_query x ≠ []) s
  have hstart : I [] xs s := ⟨.refl s, .refl, fun _ n hn => by simp at hn⟩
  refine Ensures.forM hstart fun done x todo s' hdone => ?_
  rw [hf]
  refine (syncEntry_ensures hshort).mono (fun _ s'' hx => ?_) fun _ h => hdone.stable.trans h
  refine (hdone.trans hx).congr fun n => ?_
  simp [or_and_right, exists_or, eq_comm]

/-- Why the sync of a schema is given up, in the state before it. -/
def Unopened (env : Env) (s : Session) (schema : List Char) (is_default_db : Bool) : Prop :=
  NAMEDATALEN ≤ strlen schema ∨ s.catalog.schemas schema = none ∨ Refused env s schema is_default_db

/-- A schema that is opened keeps every relation. -/
theorem Opened.relations {schema : List Char} {c c' : Catalog} (h : Opened schema c c') :
    c'.relations = c.relations := by
  obtain ⟨sc, rfl, -⟩ := h
  rfl

/-- A schema that is opened loses no other. -/
theorem Opened.kept {schema : List Char} {c c' : Catalog} (h : Opened schema c c') {P : List Char}
    (hP : (c.schemas P).isSome = true) : (c'.schemas P).isSome = true := by
  obtain ⟨sc, rfl, -⟩ := h
  unfold Catalog.setSchema
  dsimp only
  split
  · rfl
  · exact hP

/-- Opening a schema moves no relation. -/
theorem Moves.of_opened {version schema : List Char} {places : List Char → List Char → Prop}
    {c c' : Catalog} (h : c' = c ∨ Opened schema c c') : Moves env version places c c' := by
  obtain rfl | h := h
  · exact .refl
  · exact .single (.schemas h.relations fun P hP => h.kept hP)

/-- What one schema of a database does. -/
structure SchemaDone (env : Env) (db : MdDatabase) (schema : MdSchema) (s s' : Session) : Prop where
  stable : Stable s s'
  moves : Moves env s.current_motherduck_catalog_version
    (fun P n => db.skips env schema.name = false ∧ db.pgSchema env schema.name = P ∧
      db.ShowsIn env schema n) s.catalog s'.catalog
  made : s'.all_tables_synced_successfully = true → db.skips env schema.name = false →
    (∀ name, db.ShowsIn env schema name → MadeAt env s.current_motherduck_catalog_version s'.catalog
      (db.pgSchema env schema.name) name) ∨
    s'.catalog.relations = s.catalog.relations ∧
      Unopened env s (db.pgSchema env schema.name) (db.is_default_db env)

/-- A schema is skipped, or given up, or its objects are made. -/
theorem syncSchema_ensures {db : MdDatabase} {schema : MdSchema} :
    Ensures (syncSchema env db schema) s (fun _ => SchemaDone env db schema s) (Stable s) := by
  unfold syncSchema
  split
  · rename_i hskips
    exact ⟨.refl s, .refl, fun _ hshown => absurd hskips (by rw [hshown]; exact Bool.false_ne_true)⟩
  · rename_i hskips
    rw [Bool.not_eq_true] at hskips
    refine .bind ((CreateSchemaIfNotExists_ensures.and strlen_lt_of_CreateSchemaIfNotExists).mono ?_
      fun _ h => h.1.1.stable)
    rintro b s₁ ⟨⟨hframe, hopened, -, hfalse⟩, hshort⟩
    cases b with
    | false =>
      refine Ensures.modify ⟨⟨hframe.1, hframe.2, hframe.3, hframe.6, hframe.7, fun h => hframe.4 ▸ h⟩,
        .of_opened hopened, fun _ _ => .inr ⟨?_, (hfalse rfl).2⟩⟩
      obtain hsame | hopened := hopened
      · exact congrArg Catalog.relations hsame
      · exact hopened.relations
    | true =>
      refine Ensures.seq ((syncEntries_ensures (fun _ => rfl) (hshort rfl) schema.tables).mono
        (fun _ _ h => h) fun _ h => hframe.stable.trans h) fun _ s₂ htables => ?_
      refine (syncEntries_ensures (fun _ => rfl) (hshort rfl) schema.views).mono ?_
        fun _ h => (hframe.stable.trans htables.stable).trans h
      intro _ s₃ hviews
      have hall := htables.trans hviews
      refine ⟨hframe.stable.trans hall.stable, ?_, ?_⟩
      · refine Relation.ReflTransGen.trans (Moves.of_opened hopened) ?_
        have hrest := hall.moves
        rw [hframe.version] at hrest
        exact hrest.mono fun P n hplace => ⟨hskips, hplace.1.symm, hplace.2⟩
      · intro hflag _
        rw [← hframe.version]
        exact .inl fun name hname => hall.made hflag name hname

/-- The schemas done so far of a database. -/
structure Passing (env : Env) (db : MdDatabase) (s₁ : Session) (done todo : List MdSchema)
    (s : Session) : Prop where
  all : done ++ todo = db.schemas
  stable : Stable s₁ s
  moves : Moves env db.server_catalog_version (db.Shows env) s₁.catalog s.catalog

/-- No pass has been made at the start. -/
theorem Passing.refl {db : MdDatabase} : Passing env db s [] db.schemas s := ⟨rfl, .refl s, .refl⟩

/-- The changes that one schema more makes. -/
theorem Passing.version_moves {db : MdDatabase} {schema : MdSchema} {done todo : List MdSchema}
    {s₁ s' : Session}
    (hversion : s₁.current_motherduck_catalog_version = db.server_catalog_version)
    (h : Passing env db s₁ done todo s) (hdone : SchemaDone env db schema s s') :
    Moves env db.server_catalog_version (fun P n => db.skips env schema.name = false ∧
      db.pgSchema env schema.name = P ∧ db.ShowsIn env schema n) s.catalog s'.catalog := by
  have hmoves := hdone.moves
  rw [h.stable.version, hversion] at hmoves
  exact hmoves

/-- One schema after the others makes the pass longer. -/
theorem Passing.step {db : MdDatabase} {schema : MdSchema} {done todo : List MdSchema}
    {s₁ s' : Session}
    (hversion : s₁.current_motherduck_catalog_version = db.server_catalog_version)
    (h : Passing env db s₁ done (schema :: todo) s) (hdone : SchemaDone env db schema s s') :
    Passing env db s₁ (done ++ [schema]) todo s' := by
  have hschema : schema ∈ db.schemas := by
    rw [← h.all]
    simp
  refine ⟨by simp [h.all], h.stable.trans hdone.stable, ?_⟩
  refine h.moves.trans (h.version_moves hversion hdone) (fun _ _ hplace => hplace) fun P n hplace => ?_
  exact ⟨schema, hschema, hplace⟩

/-! ## Clean-up -/

/-- There is one relation at a place. -/
def Catalog.Unique (c : Catalog) : Prop :=
  ∀ x ∈ c.relations, ∀ y ∈ c.relations, x.schema = y.schema → x.name = y.name → x = y

/-- What dropping the relations of a list does. -/
structure Swept (env : Env) (dropped : List PgRelation) (s s' : Session) : Prop where
  lastKnown :
    s'.last_known_motherduck_catalog_versions = s.last_known_motherduck_catalog_versions
  complete : s'.complete = s.complete
  schemas : s'.catalog.schemas = s.catalog.schemas
  subset : ∀ x ∈ s'.catalog.relations, x ∈ s.catalog.relations
  cleaned : ∀ x ∈ s'.cleaned, x ∈ s.cleaned ∨ x ∈ dropped
  gone : (∀ n, env.ok n = true) → ∀ x ∈ s'.catalog.relations, x ∉ dropped
  kept : s.catalog.Unique → (∀ x ∈ dropped, x ∈ s.catalog.relations) →
    ∀ x ∈ s.catalog.relations, x ∉ dropped → x ∈ s'.catalog.relations

/-- The relations after one is dropped. -/
theorem mem_dropAt {schema name : List Char} {c : Catalog} {x : PgRelation} :
    x ∈ (c.dropAt schema name).relations ↔
      x ∈ c.relations ∧ ¬(x.schema = schema ∧ x.name = name) := by
  simp [Catalog.dropAt, PgRelation.isAt, imp_iff_not_or]

/-- One relation more is dropped. -/
theorem DropRelation_ensures {dropped : List PgRelation} {s₀ : Session} {x : PgRelation}
    (h : Swept env dropped s₀ s) :
    Ensures (DropRelation env x) s (fun _ => Swept env (dropped ++ [x]) s₀) E := by
  refine .bind (command_ensures ?_ ?_)
  · intro c hc
    obtain ⟨-, hdrop⟩ := attempt_eq_some.1 hc
    obtain ⟨_, -, rfl⟩ := Option.map_eq_some_iff.1 hdrop
    refine Ensures.modify ⟨h.lastKnown, h.complete, h.schemas, ?_, ?_, ?_, ?_⟩
    · intro y hy
      exact h.subset y (mem_dropAt.1 hy).1
    · intro y hy
      obtain rfl | hy := List.mem_cons.1 hy
      · exact .inr (by simp)
      · exact (h.cleaned y hy).imp_right fun hmem => List.mem_append_left _ hmem
    · intro hok y hy hmem
      obtain ⟨hy, hother⟩ := mem_dropAt.1 hy
      obtain hmem | hmem := List.mem_append.1 hmem
      · exact h.gone hok y hy hmem
      · cases List.mem_singleton.1 hmem
        exact hother ⟨rfl, rfl⟩
    · intro hunique hdropped y hy hnot
      rw [List.mem_append, not_or, List.mem_singleton] at hnot
      have hx := hdropped x (by simp)
      refine mem_dropAt.2 ⟨?_, fun hplace => hnot.2 (hunique y hy x hx hplace.1 hplace.2)⟩
      exact h.kept hunique (fun z hz => hdropped z (List.mem_append_left _ hz)) y hy hnot.1
  · intro hnone
    refine Ensures.pure ⟨h.lastKnown, h.complete, h.schemas, h.subset, ?_, ?_, ?_⟩
    · intro y hy
      exact (h.cleaned y hy).imp_right fun hmem => List.mem_append_left _ hmem
    · intro hok y hy hmem
      obtain hmem | hmem := List.mem_append.1 hmem
      · exact h.gone hok y hy hmem
      · cases List.mem_singleton.1 hmem
        unfold Env.attempt at hnone
        rw [if_pos (hok _), dropRelation, Option.map_eq_none_iff, Catalog.relation,
          List.find?_eq_none] at hnone
        exact hnone x hy (by simp [PgRelation.isAt])
    · intro hunique hdropped y hy hnot
      rw [List.mem_append, not_or] at hnot
      exact h.kept hunique (fun z hz => hdropped z (List.mem_append_left _ hz)) y hy hnot.1

/-- The relations that clean-up drops. -/
def staleRelations (env : Env) (db : MdDatabase) (s : Session) : List PgRelation :=
  s.catalog.relations.filter (·.stale db.motherduck_db db.server_catalog_version env.default_db)

/-- Clean-up drops what is stale. -/
theorem cleanup_ensures {db : MdDatabase} :
    Ensures (cleanup env db) s (fun _ => Swept env (staleRelations env db s) s)
      (Swept env (staleRelations env db s) s) := by
  refine .bind (.get ?_)
  have hstart : Swept env [] s s :=
    ⟨rfl, rfl, rfl, fun _ h => h, fun _ h => .inl h, nofun, fun _ _ _ hx _ => hx⟩
  refine Ensures.seq (Ensures.forM (I := fun done _ => Swept env done s) hstart ?_) ?_
  · intro done x todo s' hdone
    exact DropRelation_ensures hdone
  · intro _ s' hswept
    exact commit_ensures ⟨hswept.1, hswept.2, hswept.3, hswept.4, hswept.5, hswept.6, hswept.7⟩
      ⟨hswept.1, hswept.2, hswept.3, hswept.4, hswept.5, hswept.6, hswept.7⟩

end

end PgDuckdb.Sync
