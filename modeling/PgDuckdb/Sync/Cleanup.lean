import PgDuckdb.Sync.Catalog

/-!
# Clean-up and live shells

After the schemas of a database, a round drops the shells of the database that it has not refreshed.
This should take only shells whose relation is gone. It does so if no schema is refused that has such
shells of live relations (`cleanup_spares_live`): the loop goes on after a schema that it could not
open, but the flag that keeps clean-up off is not cleared there (`public_dropped`).

A round is followed by an invariant, `Sparing`, and the schemas of one database by `Freshening`.
-/

namespace PgDuckdb.Sync

open Lib (Ensures RoundsOk)

/-! ## Live shells -/

/-- Every relation lies in a schema, whose name is one of Postgres. -/
def Catalog.Wf (c : Catalog) : Prop :=
  ∀ x ∈ c.relations, (c.schemas x.schema).isSome = true ∧ strlen x.schema < NAMEDATALEN

section
variable (env : Env) (catalog : List MdDatabase) (s : Session)

/-- A round from this state scans the database. -/
def Scanned (db : MdDatabase) : Prop :=
  s.last_known_motherduck_catalog_versions db.motherduck_db ≠ db.server_catalog_version

/-- The relation of a shell is in the catalogs that the round scans. The shell of another default
database is a shell of another relation. -/
def Live (x : PgRelation) : Prop :=
  ∃ db ∈ catalog, Scanned s db ∧ db.Shows env x.schema x.name ∧ ∃ row, x.row = some row ∧
    (row.duckdb_db = db.motherduck_db ∨ row.default_database = env.default_db)

/-- The shells of live relations are recorded under their database. -/
def Filed (c : Catalog) : Prop :=
  ∀ x ∈ c.relations, ∀ db ∈ catalog, Scanned s db → db.Shows env x.schema x.name →
    ∀ row, x.row = some row → row.default_database = env.default_db →
      row.duckdb_db = db.motherduck_db

/-- The schemas of shells lead back to the database. -/
def Decodes : Prop :=
  ∀ db ∈ catalog, Scanned s db → ∀ P n, db.Shows env P n → ∀ duckdb_db schema,
    pgduckdb_db_and_schema ⟨true, env.default_db⟩ P (some "duckdb".toList) =
      .ok (duckdb_db, schema) → duckdb_db = db.motherduck_db

/-- The schema is refused, and a shell of a relation of it is taken to be gone. -/
def Stranded (db : MdDatabase) (schema : MdSchema) : Prop :=
  db.skips env schema.name = false ∧
    Refused env s (db.pgSchema env schema.name) (db.is_default_db env) ∧
    ∃ x ∈ s.catalog.relations, x.schema = db.pgSchema env schema.name ∧
      db.ShowsIn env schema x.name ∧
      x.stale db.motherduck_db db.server_catalog_version env.default_db = true

/-- No schema is stranded when the round comes to it. -/
def NoneStranded : Prop :=
  RoundsOk (syncDatabase env) (fun s db => Scanned s db →
    RoundsOk (syncSchema env db) (fun s schema => ¬Stranded env s db schema) (beginDatabase db s)
      db.schemas) s catalog

/-- What a round relies on. -/
structure Orderly : Prop where
  names : (catalog.map (·.motherduck_db)).Nodup
  wf : s.catalog.Wf
  filed : Filed env catalog s s.catalog
  decodes : Decodes env catalog s
  open_ : NoneStranded env catalog s

end

/-! ## One database -/

section
variable {env : Env} {version : List Char} {places : List Char → List Char → Prop} {c c' : Catalog}

/-- Moves keep the catalog well formed. -/
theorem Catalog.Wf.moves (h : c.Wf) (hmoves : Moves env version places c c') : c'.Wf := by
  induction hmoves with
  | refl => exact h
  | tail _ hmove ih =>
    intro x hx
    cases hmove with
    | schemas relations kept =>
      have hwf := ih x (relations ▸ hx)
      exact ⟨kept _ hwf.1, hwf.2⟩
    | shell place known short row_eq =>
      obtain rfl | ⟨hx, -⟩ := mem_replace.1 hx
      · exact ⟨known, short⟩
      · exact ih x hx

/-- Relations that go away keep the catalog well formed. -/
theorem Catalog.Wf.subset (h : c.Wf) (hschemas : c'.schemas = c.schemas)
    (hsubset : ∀ x ∈ c'.relations, x ∈ c.relations) : c'.Wf := by
  intro x hx
  rw [hschemas]
  exact h x (hsubset x hx)

/-- The row of a new shell. -/
theorem shellRow_eq_some {schema : List Char} {row : Row}
    (h : shellRow env schema version = some row) :
    row.motherduck_catalog_version = some version ∧ row.default_database = env.default_db ∧
      ∃ duckdb_schema, pgduckdb_db_and_schema ⟨true, env.default_db⟩ schema (some "duckdb".toList) =
        .ok (row.duckdb_db, duckdb_schema) := by
  unfold shellRow at h
  split at h
  · rename_i duckdb_db duckdb_schema hdecode
    cases h
    exact ⟨rfl, rfl, duckdb_schema, hdecode⟩
  · cases h

/-- A shell that was made in this version is not stale. -/
theorem not_stale_of_shellRow {schema motherduck_db : List Char} {x : PgRelation} {row : Row}
    (hx : x.row = some row) (h : shellRow env schema version = some row) :
    x.stale motherduck_db version env.default_db = false := by
  obtain ⟨hversion, hdefault, -⟩ := shellRow_eq_some h
  simp [PgRelation.stale, Row.stale, hx, hversion, hdefault]

/-- Nothing at the place is stale. -/
def FreshAt (env : Env) (db : MdDatabase) (c : Catalog) (schema name : List Char) : Prop :=
  ∀ x ∈ c.relations, x.schema = schema → x.name = name →
    x.stale db.motherduck_db db.server_catalog_version env.default_db = false

/-- What was made for a version is fresh for it. -/
theorem MadeAt.freshAt {db : MdDatabase} {schema name : List Char}
    (h : MadeAt env db.server_catalog_version c schema name) : FreshAt env db c schema name := by
  intro x hx hschema hname
  obtain ⟨row, hrow, hmade⟩ := h x hx hschema hname
  exact not_stale_of_shellRow hrow hmade

/-- What is fresh stays fresh under moves. -/
theorem FreshAt.moves {db : MdDatabase} {schema name : List Char} (h : FreshAt env db c schema name)
    (hmoves : Moves env db.server_catalog_version places c c') : FreshAt env db c' schema name := by
  intro x hx hschema hname
  obtain hx | ⟨-, row, hrow, hmade⟩ := hmoves.of_mem hx
  · exact h x hx hschema hname
  · exact not_stale_of_shellRow hrow hmade

end

section
variable {env : Env} {catalog : List MdDatabase} {s₀ s : Session} {db : MdDatabase}

/-- New shells are recorded under their database. -/
theorem Filed.moves {version : List Char} {places : List Char → List Char → Prop} {c c' : Catalog}
    (hdecodes : Decodes env catalog s₀) (h : Filed env catalog s₀ c)
    (hmoves : Moves env version places c c') : Filed env catalog s₀ c' := by
  intro x hx db hdb hscanned hshows row hrow hdefault
  obtain hx | ⟨-, row', hrow', hmade⟩ := hmoves.of_mem hx
  · exact h x hx db hdb hscanned hshows row hrow hdefault
  · rw [hrow, Option.some.injEq] at hrow'
    subst hrow'
    obtain ⟨-, -, duckdb_schema, hdecode⟩ := shellRow_eq_some hmade
    exact hdecodes db hdb hscanned _ _ hshows _ _ hdecode

/-- The schemas done so far of a database have nothing stale. -/
structure Freshening (env : Env) (db : MdDatabase) (s₁ : Session) (done todo : List MdSchema)
    (s : Session) : Prop extends Passing env db s₁ done todo s where
  fresh : s.all_tables_synced_successfully = true → ∀ schema ∈ done,
    db.skips env schema.name = false → ∀ name, db.ShowsIn env schema name →
      FreshAt env db s.catalog (db.pgSchema env schema.name) name

/-- A schema that was not opened has no shells, or it is refused. -/
theorem FreshAt.of_unopened {schema : MdSchema} (hwf : s.catalog.Wf)
    (hskips : db.skips env schema.name = false) (hstranded : ¬Stranded env s db schema)
    (h : Unopened env s (db.pgSchema env schema.name) (db.is_default_db env)) {name : List Char}
    (hname : db.ShowsIn env schema name) :
    FreshAt env db s.catalog (db.pgSchema env schema.name) name := by
  intro x hx hschema hx_name
  have hx_wf := hwf x hx
  rw [hschema] at hx_wf
  obtain hlong | hnone | hrefused := h
  · omega
  · rw [hnone] at hx_wf
    cases hx_wf.1
  · by_contra hstale
    rw [Bool.not_eq_false] at hstale
    exact hstranded ⟨hskips, hrefused, x, hx, hschema, hx_name ▸ hname, hstale⟩

/-- One schema more. -/
theorem Freshening.step {s₁ : Session} {done todo : List MdSchema} {schema : MdSchema}
    (hversion : s₁.current_motherduck_catalog_version = db.server_catalog_version)
    (hwf : s₁.catalog.Wf) (h : Freshening env db s₁ done (schema :: todo) s)
    (hstranded : ¬Stranded env s db schema) {s' : Session} (hdone : SchemaDone env db schema s s') :
    Freshening env db s₁ (done ++ [schema]) todo s' := by
  refine ⟨h.toPassing.step hversion hdone, ?_⟩
  intro hflag schema' hmem hskips name hname
  obtain hmem | hmem := List.mem_append.1 hmem
  · have hfresh := h.fresh (hdone.stable.flag hflag) schema' hmem hskips name hname
    exact hfresh.moves (h.version_moves hversion hdone)
  · cases List.mem_singleton.1 hmem
    obtain hmade | ⟨hrelations, hunopened⟩ := hdone.made hflag hskips
    · have hmade := hmade name hname
      rw [h.stable.version, hversion] at hmade
      exact hmade.freshAt
    · have hfresh := FreshAt.of_unopened (hwf.moves h.moves) hskips hstranded hunopened hname
      intro x hx
      rw [hrelations] at hx
      exact hfresh x hx

/-! ## The round -/

/-- The databases done so far of a round that began in `s₀`. -/
structure Sparing (env : Env) (catalog : List MdDatabase) (s₀ : Session)
    (done todo : List MdDatabase) (s : Session) : Prop where
  all : done ++ todo = catalog
  wf : s.catalog.Wf
  filed : Filed env catalog s₀ s.catalog
  known : ∀ db ∈ todo, s.last_known_motherduck_catalog_versions db.motherduck_db =
    s₀.last_known_motherduck_catalog_versions db.motherduck_db
  spared : ∀ x ∈ s.cleaned, ¬Live env catalog s₀ x

/-- Databases are told apart by their names. -/
theorem eq_of_motherduck_db_eq (hnames : (catalog.map (·.motherduck_db)).Nodup) {db' : MdDatabase}
    (hdb : db ∈ catalog) (hdb' : db' ∈ catalog) (h : db.motherduck_db = db'.motherduck_db) :
    db = db' :=
  List.inj_on_of_nodup_map hnames hdb hdb' h

/-- What is stale after the schemas are done is not live. -/
theorem Freshening.not_live {s₁ : Session} (hnames : (catalog.map (·.motherduck_db)).Nodup)
    (hdb : db ∈ catalog) (h : Freshening env db s₁ db.schemas [] s)
    (hfiled : Filed env catalog s₀ s.catalog) (hflag : s.all_tables_synced_successfully = true)
    {x : PgRelation} (hx : x ∈ staleRelations env db s) : ¬Live env catalog s₀ x := by
  rintro ⟨db', hdb', hscanned, hshows, row, hrow, hlive⟩
  obtain ⟨hx, hstale⟩ := List.mem_filter.1 hx
  -- The row is one of the database that shows the relation, so this is the database of the clean-up.
  have hrow_db' : row.duckdb_db = db'.motherduck_db := by
    obtain hrow_db' | hdefault := hlive
    · exact hrow_db'
    · exact hfiled x hx db' hdb' hscanned hshows row hrow hdefault
  have hrow_db : row.duckdb_db = db.motherduck_db := by
    simp only [PgRelation.stale, hrow, Option.any_some, Row.stale, Bool.and_eq_true,
      decide_eq_true_eq] at hstale
    exact hstale.1
  cases eq_of_motherduck_db_eq hnames hdb hdb' (hrow_db.symm.trans hrow_db')
  obtain ⟨schema, hschema, hskips, hP, hname⟩ := hshows
  have hfresh := h.fresh hflag schema hschema hskips x.name hname x hx hP.symm rfl
  rw [hstale] at hfresh
  cases hfresh

/-- One database more. -/
theorem syncDatabase_spares {done todo : List MdDatabase}
    (hnames : (catalog.map (·.motherduck_db)).Nodup) (hdecodes : Decodes env catalog s₀)
    (h : Sparing env catalog s₀ done (db :: todo) s)
    (hok : Scanned s db → RoundsOk (syncSchema env db) (fun s schema => ¬Stranded env s db schema)
      (beginDatabase db s) db.schemas) :
    Ensures (syncDatabase env db) s
      (fun _ => Sparing env catalog s₀ (done ++ [db]) todo)
      fun s' => ∀ x ∈ s'.cleaned, ¬Live env catalog s₀ x := by
  have hall : (done ++ [db]) ++ todo = catalog := by simp [h.all]
  have hdb : db ∈ catalog := by simp [← h.all]
  refine .bind (.get ?_)
  split
  · exact ⟨hall, h.wf, h.filed, fun db' hdb' => h.known db' (List.mem_cons_of_mem _ hdb'), h.spared⟩
  · rename_i hscanned
    refine Ensures.bind (Ensures.modify ?_)
    have hstart : Freshening env db (beginDatabase db s) [] db.schemas (beginDatabase db s) :=
      ⟨.refl, nofun⟩
    have hwf₁ : (beginDatabase db s).catalog.Wf := h.wf
    refine Ensures.seq (RoundsOk.forM (hok hscanned) hstart ?_) ?_
    · intro done schema todo s' hs' hstranded
      refine syncSchema_ensures.mono ?_ ?_
      · intro _ s'' hdone
        exact hs'.step rfl hwf₁ hstranded hdone
      · intro s'' hstable
        rw [hstable.cleaned, hs'.stable.cleaned]
        exact h.spared
    · intro _ s' hs'
      rw [List.nil_append] at hs'
      have hfiled : Filed env catalog s₀ s'.catalog := h.filed.moves hdecodes hs'.moves
      have hwf : s'.catalog.Wf := h.wf.moves hs'.moves
      have hspared : ∀ x ∈ s'.cleaned, ¬Live env catalog s₀ x := by
        rw [hs'.stable.cleaned]
        exact h.spared
      have hknown : ∀ db' ∈ todo, s'.last_known_motherduck_catalog_versions db'.motherduck_db =
          s₀.last_known_motherduck_catalog_versions db'.motherduck_db := by
        intro db' hdb'
        rw [hs'.stable.lastKnown]
        refine (if_neg ?_).trans (h.known db' (List.mem_cons_of_mem _ hdb'))
        intro heq
        rw [← h.all, List.map_append, List.map_cons] at hnames
        have hnot := (List.nodup_cons.1 (List.nodup_append.1 hnames).2.1).1
        exact hnot (heq ▸ List.mem_map_of_mem hdb')
      refine Ensures.bind (Ensures.modify (Ensures.bind (Ensures.get ?_)))
      split
      · rename_i hflag
        have hswept : ∀ s'', Swept env (staleRelations env db (endSchemas db s')) (endSchemas db s') s'' →
            ∀ x ∈ s''.cleaned, ¬Live env catalog s₀ x := by
          intro s'' hswept x hx
          obtain hx | hx := hswept.cleaned x hx
          · exact hspared x hx
          · exact hs'.not_live hnames hdb hfiled hflag hx
        refine cleanup_ensures.mono (fun _ s'' hs'' => ?_) hswept
        refine ⟨hall, hwf.subset hs''.schemas hs''.subset, ?_, ?_, hswept s'' hs''⟩
        · intro x hx
          exact hfiled x (hs''.subset x hx)
        · intro db' hdb'
          rw [hs''.lastKnown]
          exact hknown db' hdb'
      · exact ⟨hall, hwf, hfiled, hknown, hspared⟩

end

/-- Clean-up drops no shell of a live relation, unless a schema with such shells is refused. -/
theorem cleanup_spares_live (env : Env) (catalog : List MdDatabase) (s : Session)
    (horderly : Orderly env catalog s) (hcleaned : s.cleaned = []) :
    Ensures (SyncMotherDuckCatalogsWithPg env catalog) s
      (fun _ s' => ∀ x ∈ s'.cleaned, ¬Live env catalog s x)
      fun s' => ∀ x ∈ s'.cleaned, ¬Live env catalog s x := by
  have hstart : Sparing env catalog s [] catalog s :=
    ⟨rfl, horderly.wf, horderly.filed, fun _ _ => rfl, fun x hx => by simp [hcleaned] at hx⟩
  refine (RoundsOk.forM horderly.open_ hstart ?_).mono (fun _ s' hs' => hs'.spared) fun _ h => h
  intro done db todo s' hs' hok
  exact syncDatabase_spares horderly.names horderly.decodes hs' hok

/-- Every command succeeds. -/
def allSucceed : Env where
  ok _ := true
  debris _ c := c
  cacheVersionChanged _ := false
  is_background_worker := true
  default_db := "my_db".toList
  grantsUsage := false

/-- A shell in `public` of the default database. -/
def publicShell (name version : List Char) : PgRelation :=
  ⟨"public".toList, name, .table, true, some ⟨"my_db".toList, some version, "my_db".toList⟩, []⟩

/-- A Postgres with shells in `public`, which the MotherDuck user may create in or not. -/
def publicSession (create_access : Bool) (names : List (List Char)) : Session :=
  .start { oneSchema "public".toList ⟨create_access, false, false⟩ with
    relations := names.map (publicShell · "v1".toList) }

/-- The default database with one table. -/
def oneTable : MdDatabase :=
  ⟨"my_db".toList, "v2".toList,
    [⟨"main".toList, [⟨"t".toList, [⟨"id".toList, some "integer".toList⟩]⟩], []⟩]⟩

/-- The database of the example shows its table. -/
theorem oneTable_shows : oneTable.Shows allSucceed "public".toList "t".toList := by
  refine ⟨_, List.mem_singleton.2 rfl, by decide, by decide, .inl ⟨_, List.mem_singleton.2 rfl, rfl, ?_⟩⟩
  decide

/-- The database of the example is scanned. -/
theorem oneTable_scanned {create_access : Bool} {names : List (List Char)} :
    Scanned (publicSession create_access names) oneTable :=
  (by decide : [] ≠ oneTable.server_catalog_version)

/-- Only `public` is a place of the table. -/
theorem oneTable_shows_iff {P n : List Char} (h : oneTable.Shows allSucceed P n) :
    P = "public".toList ∧ n = "t".toList := by
  obtain ⟨schema, hschema, -, rfl, hshows⟩ := h
  cases List.mem_singleton.1 hschema
  refine ⟨by decide, ?_⟩
  obtain ⟨table, htable, rfl, -⟩ | ⟨view, hview, -⟩ := hshows
  · cases List.mem_singleton.1 htable
    rfl
  · cases hview

/-- The round of the example has what a round relies on. -/
theorem publicSession_orderly (names : List (List Char)) :
    Orderly allSucceed [oneTable] (publicSession true names) where
  names := by decide
  wf := by
    intro x hx
    obtain ⟨name, -, rfl⟩ := List.mem_map.1 hx
    exact ⟨rfl, (by decide : strlen "public".toList < NAMEDATALEN)⟩
  filed := by
    intro x hx db hdb _ _ row hrow _
    obtain ⟨name, -, rfl⟩ := List.mem_map.1 hx
    cases List.mem_singleton.1 hdb
    cases hrow
    rfl
  decodes := by
    intro db hdb _ P n hshows duckdb_db schema hdecode
    cases List.mem_singleton.1 hdb
    obtain ⟨rfl, rfl⟩ := oneTable_shows_iff hshows
    cases hdecode
    rfl
  open_ := by
    refine ⟨fun _ => ⟨?_, fun _ _ => trivial⟩, fun _ _ => trivial⟩
    rintro ⟨-, ⟨sc, hsc, haccess, -⟩, -⟩
    cases hsc
    cases haccess

/-- A round that drops one shell and refreshes the other. -/
theorem cleanup_spares_live_public :
    (∃ s', (SyncMotherDuckCatalogsWithPg allSucceed [oneTable]).run
      (publicSession true ["t".toList, "old".toList]) = .ok () s' ∧
      s'.cleaned = [publicShell "old".toList "v1".toList]) ∧
    Ensures (SyncMotherDuckCatalogsWithPg allSucceed [oneTable])
      (publicSession true ["t".toList, "old".toList])
      (fun _ s' => ∀ x ∈ s'.cleaned,
        ¬Live allSucceed [oneTable] (publicSession true ["t".toList, "old".toList]) x)
      fun s' => ∀ x ∈ s'.cleaned,
        ¬Live allSucceed [oneTable] (publicSession true ["t".toList, "old".toList]) x :=
  ⟨⟨_, rfl, rfl⟩, cleanup_spares_live _ _ _ (publicSession_orderly _) rfl⟩

/-- `public` is not open to the MotherDuck user, and its table is dropped. -/
theorem public_dropped : ¬Ensures (SyncMotherDuckCatalogsWithPg allSucceed [oneTable])
    (publicSession false ["t".toList])
    (fun _ s' => ∀ x ∈ s'.cleaned, ¬Live allSucceed [oneTable] (publicSession false ["t".toList]) x)
    fun s' => ∀ x ∈ s'.cleaned, ¬Live allSucceed [oneTable] (publicSession false ["t".toList]) x := by
  intro h
  have hcleaned : ∃ s', (SyncMotherDuckCatalogsWithPg allSucceed [oneTable]).run
      (publicSession false ["t".toList]) = .ok () s' ∧
      s'.cleaned = [publicShell "t".toList "v1".toList] := ⟨_, rfl, rfl⟩
  obtain ⟨s', hrun, hcleaned⟩ := hcleaned
  refine h.ok hrun (publicShell "t".toList "v1".toList) (by simp [hcleaned]) ?_
  exact ⟨oneTable, by simp, oneTable_scanned, oneTable_shows, _, rfl, .inl rfl⟩

end PgDuckdb.Sync
