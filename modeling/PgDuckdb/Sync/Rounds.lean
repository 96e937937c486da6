import PgDuckdb.Lib.Visits
import PgDuckdb.Sync.Cleanup
import PgDuckdb.Sync.Outcome

/-!
# Rounds of one process

A process runs round after round, and skips a database whose version is the one it remembers. The version is
remembered before the objects of the database are synced, so that a database of which an object was missed
is skipped too when the next round comes to it at the same version (`table_lost`). `skips_only_complete_iff` says
in which sequences of rounds this never happens.

The rounds are an instance of a memory by version (`Lib.Visits`): `events` is what a sequence of rounds comes
to, and a database is whole if every schema of it can be opened and everything in these can be made. What can be
opened and made depends on the lengths of names in bytes (`strlen`).
-/

namespace PgDuckdb.Sync

open Lib (Ensures RoundsOk StepsOk)
open Lib.Visits (Memory Settled)

/-! ## Rounds -/

/-- A round, with what surrounds it. A version is never empty. -/
structure Round where
  env : Env
  /-- It is `force_motherduck_sync`, which forgets the versions first. -/
  forced : Bool
  /-- What others have made of the Postgres catalog since the last round. -/
  ddl : Catalog → Catalog
  catalog : List MdDatabase
  versions : ∀ db ∈ catalog, db.server_catalog_version ≠ []

/-- The process when a round begins. -/
def Round.begin (r : Round) (s : Session) : Session :=
  { s with
    catalog := r.ddl s.catalog
    committed := r.ddl s.catalog
    last_known_motherduck_catalog_versions :=
      if r.forced then fun _ => [] else s.last_known_motherduck_catalog_versions }

/-- An error takes back what is not committed; the process goes on. -/
def survive (s : Session) : Session :=
  { s with catalog := s.committed, subtransactions := [] }

/-- One round. -/
def Round.run (s : Session) (r : Round) : Session :=
  match (SyncMotherDuckCatalogsWithPg r.env r.catalog).run (r.begin s) with
  | .ok _ s' => s'
  | .error _ s' => survive s'

/-- A database is skipped only if some round has synced it as a whole in that version. -/
def SkipsComplete (s : Session) (db : MdDatabase) : Prop :=
  ¬Scanned s db → (db.motherduck_db, db.server_catalog_version) ∈ s.complete

/-- The round skips only such databases. -/
def Round.SkipsOnlyComplete (s : Session) (r : Round) : Prop :=
  RoundsOk (syncDatabase r.env) SkipsComplete (r.begin s) r.catalog

/-! ## What the rounds come to -/

section
variable (env : Env) (s : Session)

/-- Everything in the schema that is to be shown can be made. -/
def SyncsEntries (db : MdDatabase) (schema : MdSchema) : Prop :=
  RoundsOk (syncTable env (db.pgSchema env schema.name)) (fun s table =>
      CreatePgTableString (db.pgSchema env schema.name) table ≠ [] →
        Makes env s (db.pgSchema env schema.name) table.name) s schema.tables ∧
    ∀ u s', (schema.tables.forM (syncTable env (db.pgSchema env schema.name))).run s = .ok u s' →
      RoundsOk (syncView env db.motherduck_db schema.name (db.pgSchema env schema.name)) (fun s view =>
        CreatePgViewString db.motherduck_db schema.name (db.pgSchema env schema.name) view ≠ [] →
          Makes env s (db.pgSchema env schema.name) view.name) s' schema.views

/-- The schema can be opened, and everything in it can be made. -/
def SyncsSchema (db : MdDatabase) (schema : MdSchema) : Prop :=
  db.skips env schema.name = true ∨
    Opens env s (db.pgSchema env schema.name) (db.is_default_db env) ∧
    ∀ s', (CreateSchemaIfNotExists env (db.pgSchema env schema.name) (db.is_default_db env)).run s =
      .ok true s' → SyncsEntries env s' db schema

/-- Every schema of the database can be synced. -/
def SyncsWhole (db : MdDatabase) : Prop :=
  RoundsOk (syncSchema env db) (fun s => SyncsSchema env s db) (beginDatabase db s) db.schemas

end

/-- What happens to the memory of the process: versions are forgotten, or a database is come to. -/
abbrev Event : Type := Lib.Visits.Event (List Char) (List Char)

/-- The databases that a round comes to: an error ends it. -/
def databaseEvents (env : Env) : Session → List MdDatabase → List Event
  | _, [] => []
  | s, db :: dbs =>
    .visit db.motherduck_db db.server_catalog_version (SyncsWhole env s db) ::
      match (syncDatabase env db).run s with
      | .ok _ s' => databaseEvents env s' dbs
      | .error _ _ => []

/-- The events of a round. -/
def Round.events (s : Session) (r : Round) : List Event :=
  (if r.forced then [.forget] else []) ++ databaseEvents r.env (r.begin s) r.catalog

/-- The events of one round after the other. -/
def events : Session → List Round → List Event
  | _, [] => []
  | s, r :: rounds => r.events s ++ events (Round.run s r) rounds

/-! ## Databases that are synced as a whole -/

section
variable {env : Env} {s : Session} {E : Session → Prop} {db : MdDatabase}

/-- Nothing was missed yet. -/
def Unmissed (s : Session) : Prop := s.missed = false

/-- One object: nothing is missed if and only if it can be made. -/
theorem syncEntry_unmissed {relkind : RelKind} {schema name create_query : List Char} :
    Ensures (syncEntry env relkind schema name create_query) s
      (fun _ s' => Unmissed s' ↔ Unmissed s ∧ (create_query ≠ [] → Makes env s schema name))
      fun _ => ¬(create_query ≠ [] → Makes env s schema name) := by
  unfold syncEntry
  split
  · rename_i hempty
    rw [List.isEmpty_iff] at hempty
    exact Ensures.pure (iff_self_and.2 fun _ hne => absurd hempty hne)
  · rename_i hquery
    rw [List.isEmpty_iff] at hquery
    refine .bind ((syncRelation_ensures.and syncRelation_outcome).mono ?_ fun _ h hmakes => h.2 (hmakes hquery))
    rintro b s' ⟨⟨hframe, -⟩, hmakeable, hmakes⟩
    cases b with
    | true =>
      refine Ensures.pure ?_
      rw [Unmissed, Unmissed, hframe.missed]
      exact iff_self_and.2 fun _ _ => hmakes rfl
    | false =>
      refine Ensures.modify (iff_of_false nofun fun h => ?_)
      exact Bool.false_ne_true (hmakeable.2 (h.2 hquery).1)

/-- The objects of one kind. -/
theorem syncEntries_unmissed {γ : Type} {relkind : RelKind} {schema : List Char}
    {name create_query : γ → List Char} {f : γ → SyncM Unit} {xs : List γ}
    (hf : ∀ x, f x = syncEntry env relkind schema (name x) (create_query x)) :
    Ensures (xs.forM f) s
      (fun _ s' => Unmissed s' ↔ Unmissed s ∧
        RoundsOk f (fun s x => create_query x ≠ [] → Makes env s schema (name x)) s xs)
      fun _ => ¬RoundsOk f (fun s x => create_query x ≠ [] → Makes env s schema (name x)) s xs := by
  refine RoundsOk.forM_iff fun x s' => ?_
  rw [hf]
  exact syncEntry_unmissed

/-- The tables of a schema, and then its views. -/
theorem schemaEntries_unmissed {schema : MdSchema} :
    Ensures (do
      schema.tables.forM (syncTable env (db.pgSchema env schema.name))
      schema.views.forM (syncView env db.motherduck_db schema.name (db.pgSchema env schema.name))) s
      (fun _ s' => Unmissed s' ↔ Unmissed s ∧ SyncsEntries env s db schema)
      fun _ => ¬SyncsEntries env s db schema := by
  have htables := @syncEntries_unmissed env s MdTable .table (db.pgSchema env schema.name) (·.name)
    (CreatePgTableString (db.pgSchema env schema.name)) (syncTable env (db.pgSchema env schema.name))
    schema.tables fun _ => rfl
  have hviews := fun s' => @syncEntries_unmissed env s' MdView .view (db.pgSchema env schema.name) (·.name)
    (CreatePgViewString db.motherduck_db schema.name (db.pgSchema env schema.name))
    (syncView env db.motherduck_db schema.name (db.pgSchema env schema.name)) schema.views fun _ => rfl
  exact Ensures.seq_mark htables fun _ s' => hviews s'

/-- One schema. -/
theorem syncSchema_unmissed {schema : MdSchema} :
    Ensures (syncSchema env db schema) s
      (fun _ s' => Unmissed s' ↔ Unmissed s ∧ SyncsSchema env s db schema)
      fun _ => ¬SyncsSchema env s db schema := by
  unfold syncSchema
  split
  · rename_i hskips
    exact Ensures.pure (iff_self_and.2 fun _ => .inl hskips)
  · rename_i hskips
    refine Ensures.seq_run ((CreateSchemaIfNotExists_ensures.and CreateSchemaIfNotExists_outcome).mono
      (fun _ _ h => h) fun _ h hsyncs => h.2 (hsyncs.resolve_left hskips).1) ?_
    rintro b s₁ hrun ⟨⟨hframe, -⟩, hopenable, hopens⟩
    cases b with
    | false =>
      refine Ensures.modify (iff_of_false nofun fun h => ?_)
      exact Bool.false_ne_true (hopenable.2 (h.2.resolve_left hskips).1.1)
    | true =>
      have hsyncs : SyncsSchema env s db schema ↔ SyncsEntries env s₁ db schema := by
        rw [SyncsSchema, or_iff_right hskips, and_iff_right (hopens rfl)]
        refine ⟨fun h => h s₁ hrun, fun h s' hrun' => ?_⟩
        cases hrun.symm.trans hrun'
        exact h
      rw [hsyncs]
      refine schemaEntries_unmissed.mono (fun _ s' h => ?_) fun _ h => h
      have hsame : Unmissed s₁ ↔ Unmissed s := by rw [Unmissed, Unmissed, hframe.missed]
      exact h.trans (and_congr_left' hsame)

/-- What the schemas of a database leave as it is. -/
theorem syncSchemas_stable :
    Ensures (db.schemas.forM (syncSchema env db)) s (fun _ => Stable s) (Stable s) := by
  let I : List MdSchema → List MdSchema → Session → Prop := fun _ _ => Stable s
  have hstart : I [] db.schemas s := .refl s
  refine Ensures.forM hstart fun _ schema _ s' hs' => ?_
  exact syncSchema_ensures.mono (fun _ _ h => hs'.trans h.stable) fun _ h => hs'.trans h

/-! ## The memory of the process -/

/-- The process remembers the versions, and what was synced as a whole. -/
structure Matches (s : Session) (m : Memory (List Char) (List Char)) : Prop where
  known : ∀ name version, version ≠ [] →
    (m.known name = some version ↔ s.last_known_motherduck_catalog_versions name = version)
  done : ∀ name version, m.done name version ↔ (name, version) ∈ s.complete

variable {m : Memory (List Char) (List Char)}

/-- Only what the session knows of the versions decides whether the memory matches. -/
theorem Matches.congr {s' : Session} (h : Matches s m)
    (hlastKnown : s'.last_known_motherduck_catalog_versions =
      s.last_known_motherduck_catalog_versions) (hcomplete : s'.complete = s.complete) : Matches s' m := by
  refine ⟨fun name version => ?_, fun name version => ?_⟩
  · rw [hlastKnown]
    exact h.known name version
  · rw [hcomplete]
    exact h.done name version

/-- A database that was passed over. -/
theorem Matches.skipped (h : Matches s m) (hne : db.server_catalog_version ≠ []) (hskipped : ¬Scanned s db)
    (whole : Prop) : Matches s (m.step (.visit db.motherduck_db db.server_catalog_version whole)) := by
  have hknown := (h.known _ _ hne).2 (not_not.1 hskipped)
  refine ⟨fun name version hversion => ?_, fun name version => ?_⟩
  · rw [← h.known name version hversion, Memory.step, ← hknown, Function.update_eq_self]
  · rw [← h.done]
    simp [Memory.step, hknown]

/-- A database that was taken up, whether or not it was synced as a whole. -/
theorem Matches.scanned {s' : Session} {whole : Prop} (h : Matches s m)
    (hne : db.server_catalog_version ≠ []) (hscanned : Scanned s db)
    (hlastKnown : s'.last_known_motherduck_catalog_versions =
      (beginDatabase db s).last_known_motherduck_catalog_versions)
    (hcomplete : ∀ x, x ∈ s'.complete ↔
      x ∈ s.complete ∨ whole ∧ x = (db.motherduck_db, db.server_catalog_version)) :
    Matches s' (m.step (.visit db.motherduck_db db.server_catalog_version whole)) := by
  have hunknown : m.known db.motherduck_db ≠ some db.server_catalog_version :=
    fun hknown => hscanned ((h.known _ _ hne).1 hknown)
  refine ⟨fun name version hversion => ?_, fun name version => ?_⟩
  · rw [hlastKnown]
    dsimp only [Memory.step, beginDatabase]
    by_cases hname : name = db.motherduck_db
    · subst hname
      simp
    · rw [Function.update_of_ne hname, if_neg hname]
      exact h.known name version hversion
  · rw [hcomplete, ← h.done, Prod.mk.injEq]
    dsimp only [Memory.step]
    rw [and_iff_right hunknown]

/-- What clean-up leaves of it. -/
theorem Matches.swept {s' : Session} {dropped : List PgRelation} (h : Matches s m)
    (hswept : Swept env dropped s s') : Matches s' m :=
  h.congr hswept.lastKnown hswept.complete

/-- One database. -/
theorem syncDatabase_matches (h : Matches s m) (hne : db.server_catalog_version ≠ []) :
    Ensures (syncDatabase env db) s
      (fun _ s' => Matches s' (m.step (.visit db.motherduck_db db.server_catalog_version (SyncsWhole env s db))))
      fun s' => Matches s' (m.step (.visit db.motherduck_db db.server_catalog_version (SyncsWhole env s db))) := by
  refine .bind (.get ?_)
  split
  · rename_i hskipped
    exact Ensures.pure (h.skipped hne (not_not.2 hskipped) _)
  · rename_i hscanned
    refine Ensures.bind (Ensures.modify ?_)
    have hloop : Ensures (db.schemas.forM (syncSchema env db)) (beginDatabase db s)
        (fun _ s' => (Unmissed s' ↔ Unmissed (beginDatabase db s) ∧ SyncsWhole env s db) ∧
          Stable (beginDatabase db s) s')
        fun s' => ¬SyncsWhole env s db ∧ Stable (beginDatabase db s) s' :=
      (RoundsOk.forM_iff fun _ _ => syncSchema_unmissed).and syncSchemas_stable
    refine Ensures.seq (hloop.mono (fun _ _ h => h) fun s' hs' => ?_) fun _ s' hs' => ?_
    · refine h.scanned hne hscanned hs'.2.lastKnown fun x => ?_
      rw [hs'.2.complete, or_iff_left fun hx => hs'.1 hx.1]
      rfl
    · obtain ⟨hunmissed, hstable⟩ := hs'
      have hmatches : Matches (endSchemas db s')
          (m.step (.visit db.motherduck_db db.server_catalog_version (SyncsWhole env s db))) := by
        refine h.scanned hne hscanned hstable.lastKnown fun x => ?_
        have hwhole : s'.missed = false ↔ SyncsWhole env s db := hunmissed.trans (and_iff_right rfl)
        have hcomplete : s'.complete = s.complete := hstable.complete
        rw [← hwhole]
        dsimp only [endSchemas]
        rw [hcomplete]
        cases s'.missed with
        | true => simp
        | false => simp [or_comm]
      refine Ensures.bind (Ensures.modify (Ensures.bind (Ensures.get ?_)))
      split
      · exact cleanup_ensures.mono (fun _ _ hswept => hmatches.swept hswept) fun _ hswept => hmatches.swept hswept
      · exact Ensures.pure hmatches

/-- A database is skipped rightly if the memory is right about it. -/
theorem Matches.skipsComplete_iff (h : Matches s m) (hne : db.server_catalog_version ≠ []) (whole : Prop) :
    SkipsComplete s db ↔ m.Sound (.visit db.motherduck_db db.server_catalog_version whole) := by
  rw [SkipsComplete, Scanned, not_not, ← h.known _ _ hne, ← h.done]
  rfl

/-- The databases of a round. -/
theorem Matches.databases {dbs : List MdDatabase} (h : Matches s m)
    (hversions : ∀ db ∈ dbs, db.server_catalog_version ≠ []) :
    (RoundsOk (syncDatabase env) SkipsComplete s dbs ↔
      StepsOk Memory.step Memory.Sound m (databaseEvents env s dbs)) ∧
    Ensures (dbs.forM (syncDatabase env)) s
      (fun _ s' => Matches s' ((databaseEvents env s dbs).foldl Memory.step m))
      fun s' => Matches s' ((databaseEvents env s dbs).foldl Memory.step m) := by
  induction dbs generalizing s m with
  | nil => exact ⟨Iff.rfl, Ensures.pure h⟩
  | cons db dbs ih =>
    rw [List.forall_mem_cons] at hversions
    have hfirst := h.skipsComplete_iff hversions.1 (SyncsWhole env s db)
    have hdatabase := @syncDatabase_matches env s db m h hversions.1
    rw [databaseEvents, List.foldl_cons]
    cases hrun : (syncDatabase env db).run s with
    | ok u s' =>
      have hrest := ih (hdatabase.ok hrun) hversions.2
      refine ⟨and_congr hfirst ⟨fun hall => hrest.1.1 (hall s' hrun), fun hall s'' hrun'' => ?_⟩, ?_⟩
      · cases hrun.symm.trans hrun''
        exact hrest.1.2 hall
      · exact Ensures.bind (.of_run hrun hrest.2)
    | error e s' =>
      refine ⟨and_congr hfirst ⟨fun _ => trivial, fun _ s'' hrun'' => ?_⟩, ?_⟩
      · cases hrun.symm.trans hrun''
      · have hthrown := hdatabase
        unfold Ensures at hthrown
        rw [hrun] at hthrown
        refine Ensures.bind ?_
        unfold Ensures
        rw [hrun]
        exact hthrown

end

section
variable {s : Session} {m : Memory (List Char) (List Char)} {r : Round}

/-- The memory matches the session after a round began. -/
theorem Matches.begin (h : Matches s m) :
    Matches (r.begin s) ((if r.forced then [.forget] else []).foldl Memory.step m) := by
  unfold Round.begin
  cases r.forced with
  | false => exact h.congr rfl rfl
  | true =>
    refine ⟨fun name version hversion => ?_, h.done⟩
    exact iff_of_false nofun (Ne.symm hversion)

/-- One round. -/
theorem Matches.round (h : Matches s m) :
    (r.SkipsOnlyComplete s ↔ StepsOk Memory.step Memory.Sound m (r.events s)) ∧
      Matches (Round.run s r) ((r.events s).foldl Memory.step m) := by
  have hround := @Matches.databases r.env _ _ _ (h.begin (r := r)) r.versions
  rw [Round.events, Lib.stepsOk_append, List.foldl_append]
  constructor
  · refine hround.1.trans (and_iff_right ?_).symm
    split
    · exact ⟨trivial, trivial⟩
    · trivial
  · have hrun := hround.2
    unfold Round.run
    rw [SyncMotherDuckCatalogsWithPg]
    unfold Ensures at hrun
    cases hcase : (r.catalog.forM (syncDatabase r.env)).run (r.begin s) with
    | ok u s' =>
      rw [hcase] at hrun
      exact hrun
    | error e s' =>
      rw [hcase] at hrun
      exact hrun.congr rfl rfl

/-- A run of rounds skips completes only just when its memory is sound. -/
theorem Matches.rounds {rounds : List Round} (h : Matches s m) :
    StepsOk Round.run (fun s r => r.SkipsOnlyComplete s) s rounds ↔
      StepsOk Memory.step Memory.Sound m (events s rounds) := by
  induction rounds generalizing s m with
  | nil => exact Iff.rfl
  | cons r rounds ih =>
    have hround := h.round (r := r)
    rw [events, Lib.stepsOk_append]
    exact and_congr hround.1 (ih hround.2)

end

/-- In every sequence of rounds of a process, a database is skipped only if an earlier round synced it as a whole
in that version, if and only if the process never comes to a database at the version at which it came to it last,
with no forced sync since, unless at that version it could be synced as a whole before. -/
theorem skips_only_complete_iff (c : Catalog) (rounds : List Round) :
    StepsOk Round.run (fun s r => r.SkipsOnlyComplete s) (.start c) rounds ↔
      Settled (events (.start c) rounds) := by
  have hstart : Matches (.start c) .empty := by
    refine ⟨fun name version hversion => iff_of_false nofun (Ne.symm hversion), fun name version => ?_⟩
    exact iff_of_false id List.not_mem_nil
  exact hstart.rounds.trans Lib.Visits.sound_iff_settled

/-- A round over one database. -/
def oneTableRound (env : Env) : Round where
  env := env
  forced := false
  ddl := id
  catalog := [oneTable]
  versions := by decide

/-- A Postgres with an empty `public`. -/
def openPublic : Catalog := oneSchema "public".toList ⟨true, false, false⟩

/-- No command succeeds. -/
def allFail : Env := { allSucceed with ok := fun _ => false }

/-- The table is not made in the first round, and skipped in the second one. -/
theorem table_lost :
    ¬StepsOk Round.run (fun s r => r.SkipsOnlyComplete s) (.start openPublic)
      [oneTableRound allFail, oneTableRound allFail] := by
  rintro ⟨-, ⟨hskips, -⟩, -⟩
  have hcomplete := hskips fun hscanned => absurd rfl hscanned
  cases hcomplete

end PgDuckdb.Sync
