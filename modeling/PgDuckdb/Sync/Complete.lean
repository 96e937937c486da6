import PgDuckdb.Sync.Cleanup
import PgDuckdb.Sync.Outcome

/-!
# What is left after a round

After a round for a database in which everything succeeded, the shells of the database should be those
of its relations. A shell that was made by the user has no version in `duckdb.tables`, and the query of
clean-up compares versions with `!=`, which a null never satisfies: such a shell stays when its relation
is gone (`userTable_stays`). And there is no clean-up at all where a relation can not be shown although every
command succeeds (`Blocked`). `sync_complete_iff` says which rows before the round decide it.
-/

namespace PgDuckdb.Sync

open Lib (Ensures)

/-! ## Shells that users make -/

section
variable (env : Env)

/-- The row of a shell that is made outside the sync. -/
def userRow (postgres_schema_name : List Char) : Option Row :=
  (shellRow env postgres_schema_name []).map fun row =>
    { row with motherduck_catalog_version := none }

/-- A user's `CREATE TABLE ... USING duckdb` or `CREATE VIEW`. -/
def createByUser (relkind : RelKind) (schema name definition : List Char) (c : Catalog) :
    Option Catalog :=
  match c.schemas schema, c.relation schema name, userRow env schema with
  | some _, none, some row =>
    some { c with relations := ⟨schema, name, relkind, true, some row, definition⟩ :: c.relations }
  | _, _, _ => none

/-! ## Relations of a database -/

variable (db : MdDatabase)

/-- A relation of the database, shown or not, has this name in Postgres. -/
def MdDatabase.Names (P n : List Char) : Prop :=
  ∃ schema ∈ db.schemas, db.skips env schema.name = false ∧ db.pgSchema env schema.name = P ∧
    ((∃ table ∈ schema.tables, table.name = n) ∨ ∃ view ∈ schema.views, view.name = n)

/-- A row of the database, for a relation in a schema of the database. -/
def Belongs (x : PgRelation) (row : Row) : Prop :=
  x.row = some row ∧ row.duckdb_db = db.motherduck_db ∧ ∃ schema_name, db.pgSchema env schema_name = x.schema

/-- Every row of the database names a relation of it. -/
def Complete (c : Catalog) : Prop :=
  ∀ x ∈ c.relations, ∀ row, Belongs env db x row → db.Names env x.schema x.name

/-- Clean-up passes over the row: it was made under this default database, and in this version or in
none. -/
def Row.Current (row : Row) : Prop :=
  row.default_database = env.default_db ∧ (row.motherduck_catalog_version = none ∨
    row.motherduck_catalog_version = some db.server_catalog_version)

/-! ## Rounds without clean-up -/

/-- A relation that is no shell of MotherDuck has this place. -/
def Taken (c : Catalog) (P n : List Char) : Prop :=
  ∃ x, c.relation P n = some x ∧ x.motherduck = false

/-- The schema is there, and the MotherDuck user is not let into it. -/
def Closed (c : Catalog) (P : List Char) : Prop :=
  db.is_default_db env = true ∧ ∃ sc, c.schemas P = some sc ∧ sc.create_access = false

/-- No shell can be made at the place, even if every command succeeds. -/
def Unshowable (c : Catalog) (P n : List Char) : Prop :=
  NAMEDATALEN ≤ strlen n ∨ shellRow env P db.server_catalog_version = none ∨ Taken c P n

/-- The schema is opened, and a relation of it can not be shown. -/
def BlockedIn (c : Catalog) (schema : MdSchema) : Prop :=
  db.skips env schema.name = false ∧ strlen (db.pgSchema env schema.name) < NAMEDATALEN ∧
    ¬Closed env db c (db.pgSchema env schema.name) ∧
    ∃ n, db.ShowsIn env schema n ∧ Unshowable env db c (db.pgSchema env schema.name) n

/-- A relation of the database can not be shown, so that a round does not clean up. -/
def Blocked (c : Catalog) : Prop := ∃ schema ∈ db.schemas, BlockedIn env db c schema

end

section
variable {env : Env} {db : MdDatabase} {s s' : Session}

/-- A name that a database shows is one that it has. -/
theorem MdDatabase.Shows.names {P n : List Char} (h : db.Shows env P n) : db.Names env P n := by
  obtain ⟨schema, hschema, hskips, hP, hshows⟩ := h
  refine ⟨schema, hschema, hskips, hP, ?_⟩
  obtain ⟨table, htable, hname, -⟩ | ⟨view, hview, hname, -⟩ := hshows
  · exact .inl ⟨table, htable, hname⟩
  · exact .inr ⟨view, hview, hname⟩

/-- A relation is not stale just when its row is of the current version. -/
theorem stale_eq_false_iff {x : PgRelation} {row : Row} (hx : x.row = some row)
    (hdb : row.duckdb_db = db.motherduck_db) :
    x.stale db.motherduck_db db.server_catalog_version env.default_db = false ↔
      row.Current env db := by
  unfold PgRelation.stale Row.stale Row.Current
  rw [hx]
  cases hversion : row.motherduck_catalog_version with
  | none => simp [hdb, hversion]
  | some version => simp [hdb, hversion, and_comm]

/-! ## The round -/

/-- Moves keep the names apart. -/
theorem Catalog.Unique.moves {version : List Char} {places : List Char → List Char → Prop}
    {c c' : Catalog} (h : c.Unique) (hmoves : Moves env version places c c') : c'.Unique := by
  induction hmoves with
  | refl => exact h
  | tail _ hmove ih =>
    intro x hx y hy hschema hname
    cases hmove with
    | schemas relations kept => exact ih x (relations ▸ hx) y (relations ▸ hy) hschema hname
    | shell place known short row_eq =>
      obtain rfl | ⟨hx, hx_other⟩ := mem_replace.1 hx
      · obtain rfl | ⟨-, hy_other⟩ := mem_replace.1 hy
        · rfl
        · exact absurd ⟨hschema.symm, hname.symm⟩ hy_other
      · obtain rfl | ⟨hy, -⟩ := mem_replace.1 hy
        · exact absurd ⟨hschema, hname⟩ hx_other
        · exact ih x hx y hy hschema hname

/-- What the objects of a database have no part in. -/
structure Alike (env : Env) (db : MdDatabase) (s₀ s : Session) : Prop where
  version : s.current_motherduck_catalog_version = s₀.current_motherduck_catalog_version
  taken : ∀ P n, Taken s.catalog P n ↔ Taken s₀.catalog P n
  closed : ∀ P, Closed env db s.catalog P ↔ Closed env db s₀.catalog P

/-- A session is alike to itself. -/
theorem Alike.refl (s : Session) : Alike env db s s := ⟨rfl, fun _ _ => Iff.rfl, fun _ => Iff.rfl⟩

/-- Sessions are alike through a third one. -/
theorem Alike.trans {s'' : Session} (h : Alike env db s s') (h' : Alike env db s' s'') : Alike env db s s'' :=
  ⟨h'.version.trans h.version, fun P n => (h'.taken P n).trans (h.taken P n),
    fun P => (h'.closed P).trans (h.closed P)⟩

/-- The relation at a name after one is put in place. -/
theorem relation_replace {relkind : RelKind} {schema name definition P n : List Char} {row : Row} {c : Catalog} :
    (c.replace relkind schema name definition row).relation P n =
      if schema = P ∧ name = n then some ⟨schema, name, relkind, true, some row, definition⟩
      else c.relation P n := by
  rw [Catalog.relation, Catalog.replace, Catalog.dropAt, List.find?_cons]
  by_cases hplace : schema = P ∧ name = n
  · obtain ⟨rfl, rfl⟩ := hplace
    simp [PgRelation.isAt]
  · rw [if_neg hplace]
    have hother : PgRelation.isAt ⟨schema, name, relkind, true, some row, definition⟩ P n = false := by
      simpa [PgRelation.isAt] using hplace
    rw [hother, Catalog.relation, List.find?_filter]
    refine congrArg (fun p => List.find? p c.relations) (funext fun x => ?_)
    -- What is at the one place is not at the other.
    rw [Bool.eq_iff_iff, decide_eq_true_eq, and_iff_right_iff_imp]
    intro hx
    simp only [PgRelation.isAt, Bool.and_eq_true, decide_eq_true_eq] at hx
    have hnot : ¬(x.schema = schema ∧ x.name = name) :=
      fun h => hplace ⟨h.1.symm.trans hx.1, h.2.symm.trans hx.2⟩
    simpa [PgRelation.isAt, imp_iff_not_or] using hnot

/-- A new shell takes the place of nothing else. -/
theorem taken_replace {relkind : RelKind} {schema name definition : List Char} {row : Row} {c : Catalog}
    (hfree : ¬Taken c schema name) (P n : List Char) :
    Taken (c.replace relkind schema name definition row) P n ↔ Taken c P n := by
  rw [Taken, relation_replace]
  split
  · rename_i hplace
    obtain ⟨rfl, rfl⟩ := hplace
    refine iff_of_false ?_ hfree
    rintro ⟨x, hx, hmotherduck⟩
    cases hx
    cases hmotherduck
  · exact Iff.rfl

/-- Where every command succeeds, a relation is made if it can be shown. -/
theorem makeable_iff (hok : ∀ n, env.ok n = true)
    (hversion : s.current_motherduck_catalog_version = db.server_catalog_version) {P n : List Char} :
    Makeable env s P n ↔ ¬Unshowable env db s.catalog P n := by
  have hshort : strlen n < NAMEDATALEN ↔ ¬NAMEDATALEN ≤ strlen n := not_le.symm
  have hrow : (shellRow env P db.server_catalog_version).isSome = true ↔
      ¬shellRow env P db.server_catalog_version = none := Option.isSome_iff_ne_none
  rw [Makeable, hversion, hshort, hrow, Unshowable, not_or, not_or]
  refine and_congr_right' (and_congr_right' ?_)
  cases hrelation : s.catalog.relation P n with
  | none => simp [hok, Taken, hrelation]
  | some x => simp [hok, Taken, hrelation]

/-- A schema is opened unless its name is too long or it is closed. -/
theorem openable_iff (hok : ∀ n, env.ok n = true) {P : List Char} :
    Openable env s P (db.is_default_db env) ↔ strlen P < NAMEDATALEN ∧ ¬Closed env db s.catalog P := by
  refine and_congr_right' ?_
  cases hschema : s.catalog.schemas P with
  | none => simp [hok, GrantsOk, Closed, hschema]
  | some sc =>
    cases haccess : sc.create_access <;> cases hdefault : db.is_default_db env <;>
      simp [hok, GrantsOk, Closed, hschema, haccess, hdefault]

/-- An object that can not be shown is marked. -/
theorem syncEntry_flag (hok : ∀ n, env.ok n = true)
    (hversion : s.current_motherduck_catalog_version = db.server_catalog_version)
    {relkind : RelKind} {P n create_query : List Char} :
    Ensures (syncEntry env relkind P n create_query) s
      (fun _ s' => Alike env db s s' ∧ (s'.all_tables_synced_successfully = true ↔
        s.all_tables_synced_successfully = true ∧
          (create_query ≠ [] → ¬Unshowable env db s.catalog P n)))
      fun _ => True := by
  unfold syncEntry
  split
  · rename_i hempty
    rw [List.isEmpty_iff] at hempty
    exact Ensures.pure ⟨.refl s, iff_self_and.2 fun _ hne => absurd hempty hne⟩
  · rename_i hquery
    rw [List.isEmpty_iff] at hquery
    refine .bind ((syncRelation_ensures.and syncRelation_outcome).mono ?_ fun _ _ => trivial)
    rintro b s' ⟨⟨hframe, hfalse, htrue⟩, hmakeable, -⟩
    rw [makeable_iff hok hversion] at hmakeable
    cases b with
    | true =>
      have hshowable := hmakeable.1 rfl
      obtain ⟨row, -, -, hcatalog⟩ := htrue rfl
      refine Ensures.pure ⟨⟨hframe.version, ?_, ?_⟩, ?_⟩
      · rw [hcatalog]
        exact taken_replace fun htaken => hshowable (.inr (.inr htaken))
      · rw [hcatalog]
        exact fun _ => Iff.rfl
      · rw [hframe.flag]
        exact iff_self_and.2 fun _ _ => hshowable
    | false =>
      refine Ensures.modify ⟨⟨hframe.version, ?_, ?_⟩, iff_of_false nofun fun h => ?_⟩
      · rw [hfalse rfl]
        exact fun _ _ => Iff.rfl
      · rw [hfalse rfl]
        exact fun _ => Iff.rfl
      · exact Bool.false_ne_true (hmakeable.2 (h.2 hquery))

/-- The objects of one kind. -/
theorem syncEntries_flag {γ : Type} {relkind : RelKind} {P : List Char} {name create_query : γ → List Char}
    {f : γ → SyncM Unit} {xs : List γ} (hok : ∀ n, env.ok n = true)
    (hversion : s.current_motherduck_catalog_version = db.server_catalog_version)
    (hf : ∀ x, f x = syncEntry env relkind P (name x) (create_query x)) :
    Ensures (xs.forM f) s
      (fun _ s' => Alike env db s s' ∧ (s'.all_tables_synced_successfully = true ↔
        s.all_tables_synced_successfully = true ∧
          ∀ x ∈ xs, create_query x ≠ [] → ¬Unshowable env db s.catalog P (name x)))
      fun _ => True := by
  refine Ensures.forM_iff (.refl s) fun x s₁ hs₁ => ?_
  rw [hf]
  refine (syncEntry_flag hok (hs₁.version.trans hversion)).mono ?_ fun _ h => h
  rintro _ s₂ ⟨halike, hflag⟩
  refine ⟨hs₁.trans halike, ?_⟩
  rw [hflag, Unshowable, Unshowable, hs₁.taken]

/-- In the default database a schema is opened only if it was not there. -/
theorem new_of_CreateSchemaIfNotExists {P : List Char} :
    Ensures (CreateSchemaIfNotExists env P true) s
      (fun _ s' => s'.catalog = s.catalog ∨ s.catalog.schemas P = none ∧ Opened P s.catalog s'.catalog)
      fun _ => True := by
  unfold CreateSchemaIfNotExists
  split
  · exact Ensures.pure (.inl rfl)
  · refine .bind (.get ?_)
    cases hschema : s.catalog.schemas P with
    | none =>
      exact createNewSchema_ensures (fun _ _ hsame => .inl hsame) (fun _ _ hopened => .inr ⟨rfl, hopened⟩)
        fun _ _ _ => trivial
    | some sc =>
      dsimp only
      split <;> exact Ensures.pure (.inl rfl)

/-- What is opened was not closed. -/
theorem closed_opened {c c' : Catalog} {P Q : List Char} (hnone : c.schemas P = none) (h : Opened P c c') :
    Closed env db c' Q ↔ Closed env db c Q := by
  obtain ⟨sc, rfl, haccess⟩ := h
  by_cases hQ : Q = P
  · subst hQ
    simp [Closed, hnone, haccess]
  · simp [Closed, Catalog.setSchema, hQ]

/-- What comes of a schema has no part in what can be shown. -/
theorem CreateSchemaIfNotExists_alike {P : List Char} :
    Ensures (CreateSchemaIfNotExists env P (db.is_default_db env)) s
      (fun _ s' => Alike env db s s' ∧ s'.all_tables_synced_successfully = s.all_tables_synced_successfully)
      fun _ => True := by
  have hclosed : Ensures (CreateSchemaIfNotExists env P (db.is_default_db env)) s
      (fun _ s' => ∀ Q, Closed env db s'.catalog Q ↔ Closed env db s.catalog Q) fun _ => True := by
    cases hdefault : db.is_default_db env with
    | false =>
      refine (Ensures.const fun _ => trivial).mono (fun _ s' _ Q => ?_) fun _ h => h
      simp [Closed, hdefault]
    | true =>
      refine new_of_CreateSchemaIfNotExists.mono ?_ fun _ h => h
      rintro _ s' (hsame | ⟨hnone, hopened⟩) Q
      · rw [hsame]
      · exact closed_opened hnone hopened
  refine (CreateSchemaIfNotExists_ensures.and hclosed).mono ?_ fun _ _ => trivial
  rintro b s' ⟨⟨hframe, hcatalog, -⟩, hclosed⟩
  have hrelations : s'.catalog.relations = s.catalog.relations :=
    hcatalog.elim (congrArg Catalog.relations) Opened.relations
  refine ⟨⟨hframe.version, fun P n => ?_, hclosed⟩, hframe.flag⟩
  rw [Taken, Taken, Catalog.relation, Catalog.relation, hrelations]

/-- One schema. -/
theorem syncSchema_flag {schema : MdSchema} (hok : ∀ n, env.ok n = true)
    (hversion : s.current_motherduck_catalog_version = db.server_catalog_version) :
    Ensures (syncSchema env db schema) s
      (fun _ s' => Alike env db s s' ∧ (s'.all_tables_synced_successfully = true ↔
        s.all_tables_synced_successfully = true ∧ ¬BlockedIn env db s.catalog schema))
      fun _ => True := by
  unfold syncSchema
  split
  · rename_i hskips
    refine Ensures.pure ⟨.refl s, iff_self_and.2 fun _ hblocked => ?_⟩
    rw [hblocked.1] at hskips
    cases hskips
  · rename_i hskips
    rw [Bool.not_eq_true] at hskips
    have hopened : Ensures (CreateSchemaIfNotExists env (db.pgSchema env schema.name) (db.is_default_db env)) s
        (fun b s' => (Alike env db s s' ∧ s'.all_tables_synced_successfully = s.all_tables_synced_successfully) ∧
          (b = true ↔ strlen (db.pgSchema env schema.name) < NAMEDATALEN ∧
            ¬Closed env db s.catalog (db.pgSchema env schema.name)))
        fun _ => True := by
      refine (CreateSchemaIfNotExists_alike.and CreateSchemaIfNotExists_outcome).mono ?_ fun _ _ => trivial
      rintro b s' ⟨halike, hopenable, -⟩
      exact ⟨halike, hopenable.trans (openable_iff hok)⟩
    refine Ensures.seq hopened ?_
    rintro b s₁ ⟨⟨halike, hflag⟩, hb⟩
    cases b with
    | false =>
      refine Ensures.modify ⟨⟨halike.version, halike.taken, halike.closed⟩, ?_⟩
      show s₁.all_tables_synced_successfully = true ↔ _
      rw [hflag]
      refine iff_self_and.2 fun _ hblocked => ?_
      exact Bool.false_ne_true (hb.2 ⟨hblocked.2.1, hblocked.2.2.1⟩)
    | true =>
      obtain ⟨hshort, hnot_closed⟩ := hb.1 rfl
      have hversion₁ := halike.version.trans hversion
      refine Ensures.seq ((syncEntries_flag hok hversion₁ fun _ => rfl).mono (fun _ _ h => h) fun _ h => h) ?_
      rintro _ s₂ ⟨halike₂, hflag₂⟩
      have hversion₂ := halike₂.version.trans hversion₁
      refine (syncEntries_flag hok hversion₂ fun _ => rfl).mono ?_ fun _ h => h
      rintro _ s₃ ⟨halike₃, hflag₃⟩
      refine ⟨(halike.trans halike₂).trans halike₃, ?_⟩
      have hblocked : BlockedIn env db s.catalog schema ↔
          ∃ n, db.ShowsIn env schema n ∧ Unshowable env db s.catalog (db.pgSchema env schema.name) n := by
        rw [BlockedIn, and_iff_right hskips, and_iff_right hshort, and_iff_right hnot_closed]
      rw [hflag₃, hflag₂, hflag, hblocked, and_assoc]
      refine and_congr_right' ?_
      simp only [Unshowable, halike₂.taken, halike.taken, MdDatabase.ShowsIn]
      constructor
      · rintro ⟨htables, hviews⟩ ⟨n, ⟨table, htable, rfl, hquery⟩ | ⟨view, hview, rfl, hquery⟩, hunshowable⟩
        · exact htables table htable hquery hunshowable
        · exact hviews view hview hquery hunshowable
      · intro hnone
        refine ⟨fun table htable hquery hunshowable => ?_, fun view hview hquery hunshowable => ?_⟩
        · exact hnone ⟨_, .inl ⟨table, htable, rfl, hquery⟩, hunshowable⟩
        · exact hnone ⟨_, .inr ⟨view, hview, rfl, hquery⟩, hunshowable⟩

/-- All schemas: the flag is cleared if and only if the database is blocked. -/
theorem syncSchemas_flag (hok : ∀ n, env.ok n = true) :
    Ensures (db.schemas.forM (syncSchema env db)) (beginDatabase db s)
      (fun _ s' => s'.all_tables_synced_successfully = true ↔ ¬Blocked env db s.catalog)
      fun _ => True := by
  have hloop : Ensures (db.schemas.forM (syncSchema env db)) (beginDatabase db s)
      (fun _ s' => Alike env db (beginDatabase db s) s' ∧ (s'.all_tables_synced_successfully = true ↔
        (beginDatabase db s).all_tables_synced_successfully = true ∧
          ∀ schema ∈ db.schemas, ¬BlockedIn env db s.catalog schema))
      fun _ => True := by
    refine Ensures.forM_iff (.refl _) fun schema s₁ hs₁ => ?_
    refine (syncSchema_flag hok hs₁.version).mono ?_ fun _ h => h
    rintro _ s₂ ⟨halike, hflag⟩
    refine ⟨hs₁.trans halike, hflag.trans (and_congr_right' (not_congr ?_))⟩
    simp only [BlockedIn, Unshowable, hs₁.taken, hs₁.closed]
    exact Iff.rfl
  refine hloop.mono (fun _ s' hs' => ?_) fun _ h => h
  rw [hs'.2, Blocked]
  simp [beginDatabase]

/-- A round makes shells, and then cleans up unless the database is blocked. -/
theorem syncDatabase_ensures (hok : ∀ n, env.ok n = true) (hscanned : Scanned s db) :
    Ensures (syncDatabase env db) s
      (fun _ s' => ∃ s₁, Moves env db.server_catalog_version (db.Shows env) s.catalog s₁.catalog ∧
        (¬Blocked env db s.catalog → Swept env (staleRelations env db s₁) s₁ s') ∧
        (Blocked env db s.catalog → s'.catalog = s₁.catalog))
      fun _ => True := by
  refine .bind (.get ?_)
  rw [if_neg hscanned]
  refine Ensures.bind (Ensures.modify ?_)
  have hloop : Ensures (db.schemas.forM (syncSchema env db)) (beginDatabase db s)
      (fun _ => Passing env db (beginDatabase db s) ([] ++ db.schemas) []) fun _ => True := by
    refine Ensures.forM (I := Passing env db (beginDatabase db s)) .refl ?_
    intro done schema todo s₁ hs₁
    exact syncSchema_ensures.mono (fun _ _ hdone => hs₁.step rfl hdone) fun _ _ => trivial
  refine Ensures.seq ((hloop.and (syncSchemas_flag hok)).mono (fun _ _ h => h) fun _ _ => trivial) ?_
  rintro _ s₁ ⟨hs₁, hflag⟩
  refine Ensures.bind (Ensures.modify (Ensures.bind (Ensures.get ?_)))
  split
  · rename_i hclean
    have hnot : ¬Blocked env db s.catalog := hflag.1 hclean
    refine cleanup_ensures.mono (fun _ s' hs' => ?_) fun _ _ => trivial
    exact ⟨endSchemas db s₁, hs₁.moves, fun _ => hs', fun hblocked => absurd hblocked hnot⟩
  · rename_i hclean
    refine Ensures.pure ⟨s₁, hs₁.moves, fun hnot => absurd (hflag.2 hnot) hclean, fun _ => rfl⟩

end

/-- After a round for a database in which every command succeeded, every row of the database names a relation of
it, if and only if the rows before do that are there to stay: those that clean-up passes over, and all of them
where a relation that can not be shown keeps clean-up from running. -/
theorem sync_complete_iff (env : Env) (db : MdDatabase) (s s' : Session)
    (hunique : s.catalog.Unique) (hscanned : Scanned s db)
    (hrun : (syncDatabase env db).run s = .ok () s') (hok : ∀ n, env.ok n = true) :
    Complete env db s'.catalog ↔
      ∀ x ∈ s.catalog.relations, ∀ row, Belongs env db x row →
        row.Current env db ∨ Blocked env db s.catalog → db.Names env x.schema x.name := by
  obtain ⟨s₁, hmoves, hswept, hblocked⟩ := (syncDatabase_ensures hok hscanned).ok hrun
  by_cases hclean : Blocked env db s.catalog
  · rw [hblocked hclean]
    simp only [hclean, or_true, true_imp_iff]
    refine ⟨fun hcomplete x hx row hrow => ?_, fun hbefore x hx row hrow => ?_⟩
    · by_contra hnot
      exact hnot (hcomplete x (hmoves.mem_of_not hx fun hshows => hnot hshows.names) row hrow)
    · obtain hx₀ | ⟨hshows, -⟩ := hmoves.of_mem hx
      · exact hbefore x hx₀ row hrow
      · exact hshows.names
  · simp only [hclean, or_false]
    have hswept := hswept hclean
    refine ⟨fun hcomplete x hx row hrow hcurrent => ?_, fun hbefore x hx row hrow => ?_⟩
    · -- A row that names nothing is at no place of a shell, and clean-up leaves it.
      by_contra hnot
      have hx₁ := hmoves.mem_of_not hx fun hshows => hnot hshows.names
      have hfresh := (stale_eq_false_iff hrow.1 hrow.2.1).2 hcurrent
      refine hnot (hcomplete x (hswept.kept (hunique.moves hmoves) ?_ x hx₁ ?_) row hrow)
      · intro y hy
        exact (List.mem_filter.1 hy).1
      · intro hstale
        rw [(List.mem_filter.1 hstale).2] at hfresh
        cases hfresh
    · have hx₁ := hswept.subset x hx
      have hfresh : x.stale db.motherduck_db db.server_catalog_version env.default_db = false := by
        by_contra hstale
        rw [Bool.not_eq_false] at hstale
        exact hswept.gone hok x hx (List.mem_filter.2 ⟨hx₁, hstale⟩)
      obtain hx₀ | ⟨hshows, -⟩ := hmoves.of_mem hx₁
      · exact hbefore x hx₀ row hrow ((stale_eq_false_iff hrow.1 hrow.2.1).1 hfresh)
      · exact hshows.names

/-- The default database without a table. -/
def noTable : MdDatabase :=
  ⟨"my_db".toList, "v2".toList, [⟨"main".toList, [], []⟩]⟩

/-- A user's table next to the shell of an earlier round. -/
def userTable : Catalog where
  schemas := (oneSchema "public".toList ⟨true, false, false⟩).schemas
  relations := [⟨"public".toList, "t".toList, .table, true,
    some ⟨"my_db".toList, none, "my_db".toList⟩, []⟩, publicShell "old".toList "v1".toList]

/-- The names of the example are apart. -/
theorem userTable_unique : userTable.Unique := by
  intro x hx y hy _ hname
  simp only [userTable, List.mem_cons, List.not_mem_nil, or_false] at hx hy
  obtain rfl | rfl := hx <;> obtain rfl | rfl := hy
  · rfl
  · revert hname
    decide
  · revert hname
    decide
  · rfl

/-- Nothing blocks the name of the example. -/
theorem userTable_not_blocked : ¬Blocked allSucceed oneTable userTable := by
  rintro ⟨schema, hschema, hskips, -, -, n, hshows, hunshowable⟩
  obtain ⟨hP, rfl⟩ := oneTable_shows_iff ⟨schema, hschema, hskips, rfl, hshows⟩
  rw [hP] at hunshowable
  obtain hlong | hnone | ⟨x, hx, hother⟩ := hunshowable
  · exact absurd hlong (by decide)
  · cases hnone
  · cases hx
    cases hother

/-- The table is still there, and the other shell is dropped. -/
theorem sync_complete_iff_userTable :
    ∃ s', (syncDatabase allSucceed oneTable).run (.start userTable) = .ok () s' ∧
      Complete allSucceed oneTable s'.catalog := by
  have hrun : ∃ s', (syncDatabase allSucceed oneTable).run (.start userTable) = .ok () s' := ⟨_, rfl⟩
  obtain ⟨s', hrun⟩ := hrun
  refine ⟨s', hrun, (sync_complete_iff _ _ _ _ userTable_unique ?_ hrun fun _ => rfl).2 ?_⟩
  · exact (by decide : [] ≠ oneTable.server_catalog_version)
  rintro x hx row hrow (hcurrent | hblocked)
  · simp only [Session.start, userTable, List.mem_cons, List.not_mem_nil, or_false] at hx
    obtain rfl | rfl := hx
    · exact oneTable_shows.names
    · cases hrow.1
      obtain ⟨-, hnone | hsame⟩ := hcurrent
      · cases hnone
      · exact absurd (Option.some.inj hsame) (by decide)
  · exact absurd hblocked userTable_not_blocked

/-- The user's table has no relation any more, and stays. -/
theorem userTable_stays :
    createByUser allSucceed .table "public".toList "t".toList []
      (publicSession true ["old".toList]).catalog = some userTable ∧
    ∃ s', (syncDatabase allSucceed noTable).run (.start userTable) = .ok () s' ∧
      (∀ n, allSucceed.ok n = true) ∧ ¬Complete allSucceed noTable s'.catalog := by
  refine ⟨rfl, _, rfl, fun _ => rfl, fun hcomplete => ?_⟩
  have hnames := hcomplete _ (List.mem_cons_self ..) _ ⟨rfl, rfl, "main".toList, rfl⟩
  obtain ⟨schema, hschema, -, -, ⟨table, htable, -⟩ | ⟨view, hview, -⟩⟩ := hnames
  · cases List.mem_singleton.1 hschema
    cases htable
  · cases List.mem_singleton.1 hschema
    cases hview

end PgDuckdb.Sync
