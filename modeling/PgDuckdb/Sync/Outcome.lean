import PgDuckdb.Sync.Catalog

/-!
# Which objects are synced

The state before an object decides what comes of it. `Openable` and `Makeable` say when
`CreateSchemaIfNotExists`, and `CreateTable` and `CreateView`, return `true` where they return. In the states
of `Opens` and `Makes` they return as well: a changed cache and a missing schema throw.
-/

namespace PgDuckdb.Sync

open Lib (Ensures)

section
variable (env : Env) (s : Session)

/-- The commands of `GrantAccessToSchema` succeed, from this one on. -/
def GrantsOk (number : Nat) : Prop :=
  env.ok number = true ∧ (env.grantsUsage = true → env.ok (number + 1) = true)

/-- `CreateSchemaIfNotExists` does not return `false`. -/
def Openable (schema : List Char) (is_default_db : Bool) : Prop :=
  strlen schema < NAMEDATALEN ∧
    match s.catalog.schemas schema with
    | some sc => sc.create_access = true ∨ is_default_db = false ∧ GrantsOk env s.clock
    | none => env.ok s.clock = true ∧ GrantsOk env (s.clock + 1)

/-- `CreateSchemaIfNotExists` returns `true`. -/
def Opens (schema : List Char) (is_default_db : Bool) : Prop :=
  Openable env s schema is_default_db ∧ (s.catalog.schemas schema = none →
    env.cacheVersionChanged (s.clock + if env.grantsUsage then 3 else 2) = false)

/-- `CreateTable` or `CreateView` does not return `false`. -/
def Makeable (schema name : List Char) : Prop :=
  strlen name < NAMEDATALEN ∧
    (shellRow env schema s.current_motherduck_catalog_version).isSome = true ∧
    match s.catalog.relation schema name with
    | none => env.ok s.clock = true
    | some x => x.motherduck = true ∧ env.ok s.clock = true ∧ env.ok (s.clock + 1) = true

/-- `CreateTable` or `CreateView` returns `true`. -/
def Makes (schema name : List Char) : Prop :=
  Makeable env s schema name ∧ (s.catalog.schemas schema).isSome = true ∧
    env.cacheVersionChanged (s.clock + if (s.catalog.relation schema name).isSome then 2 else 1) = false

end

/-! ## Tables and views -/

section
variable {env : Env} {s : Session} {E : Session → Prop} {relkind : RelKind}
  {schema name definition : List Char}

/-- A commit, with what decides it. -/
theorem commit_outcome {Q : Unit → Session → Prop}
    (hkept : env.cacheVersionChanged s.clock = false → Q () s.commit)
    (hchanged : env.cacheVersionChanged s.clock = true → E s.commit) :
    Ensures (SPI_commit_that_works_in_bgworker env) s Q E := by
  rw [Ensures, SPI_commit_run]
  cases h : env.cacheVersionChanged s.clock with
  | false => exact hkept h
  | true => exact hchanged h

/-- A command for which nothing speaks against it fails only by itself. -/
theorem not_ok_of_attempt {effect : Catalog → Option Catalog} (h : env.attempt s effect = none)
    (heffect : (effect s.catalog).isSome = true) : env.ok s.clock = false := by
  cases hok : env.ok s.clock with
  | false => rfl
  | true =>
    rw [Env.attempt, if_pos hok] at h
    rw [h] at heffect
    cases heffect

/-- A name that is free lets a relation be made in an existing schema. -/
theorem createRelation_isSome {version : List Char} {c : Catalog} (hschema : (c.schemas schema).isSome = true)
    (hrow : (shellRow env schema version).isSome = true) (hfree : c.relation schema name = none) :
    (createRelation env relkind schema name definition version c).isSome = true := by
  obtain ⟨sc, hsc⟩ := Option.isSome_iff_exists.1 hschema
  obtain ⟨row, hrow⟩ := Option.isSome_iff_exists.1 hrow
  rw [createRelation, hsc, hrow, hfree]
  rfl

/-- A relation that is made has a row. -/
theorem row_of_createRelation {version : List Char} {c c' : Catalog}
    (h : createRelation env relkind schema name definition version c = some c') :
    (shellRow env schema version).isSome = true := by
  obtain ⟨row, hrow, -⟩ := createRelation_eq_some h
  rw [hrow]
  rfl

/-- `DROP` of the relation that has the place succeeds, if there is one. -/
def Cleared (env : Env) (s : Session) (schema name : List Char) : Prop :=
  match s.catalog.relation schema name with
  | none => True
  | some x => x.motherduck = true ∧ env.ok s.clock = true

/-- The commands that it takes to clear the place. -/
def drops (s : Session) (schema name : List Char) : ℕ :=
  if (s.catalog.relation schema name).isSome then 1 else 0

/-- The session `s₁` in which the place is free, some commands after `s`. -/
structure Freed (s s₁ : Session) (schema name : List Char) : Prop where
  relation : s₁.catalog.relation schema name = none
  schemas : s₁.catalog.schemas schema = s.catalog.schemas schema
  clock : s₁.clock = s.clock + drops s schema name

/-- The place is cleared first, and the next command makes the relation. -/
theorem makeable_iff_cleared : Makeable env s schema name ↔ strlen name < NAMEDATALEN ∧ Cleared env s schema name ∧
    (shellRow env schema s.current_motherduck_catalog_version).isSome = true ∧
    env.ok (s.clock + drops s schema name) = true := by
  unfold Makeable Cleared drops
  cases s.catalog.relation schema name with
  | none => simp
  | some x => simp [and_assoc, and_left_comm]

/-- The commit comes after that. -/
theorem makes_iff_makeable : Makes env s schema name ↔ Makeable env s schema name ∧
    (s.catalog.schemas schema).isSome = true ∧
    env.cacheVersionChanged (s.clock + drops s schema name + 1) = false := by
  unfold Makes drops
  cases s.catalog.relation schema name with
  | none => simp
  | some x => simp

/-- What decides whether the place is cleared. -/
theorem dropOldVersion_outcome : Ensures (dropOldVersion env schema name) s
    (fun r s₁ => (r.isSome = true ↔ Cleared env s schema name) ∧ (r.isSome = true → Freed s s₁ schema name)) E := by
  refine .bind (.get ?_)
  unfold Cleared
  cases hrelation : s.catalog.relation schema name with
  | none =>
    have hclock : s.clock = s.clock + drops s schema name := by simp [drops, hrelation]
    exact Ensures.pure ⟨iff_of_true rfl trivial, fun _ => ⟨hrelation, rfl, hclock⟩⟩
  | some x =>
    dsimp only
    cases hmotherduck : x.motherduck with
    | false => exact Ensures.pure ⟨⟨nofun, nofun⟩, nofun⟩
    | true =>
      refine .bind (.modify (.bind (command_ensures ?_ ?_)))
      · intro c hc
        obtain ⟨hok, hdrop⟩ := attempt_eq_some.1 hc
        obtain ⟨_, -, rfl⟩ := Option.map_eq_some_iff.1 hdrop
        have hclock : s.clock + 1 = s.clock + drops s schema name := by simp [drops, hrelation]
        exact Ensures.pure ⟨iff_of_true rfl ⟨rfl, hok⟩, fun _ => ⟨Catalog.relation_dropAt s.catalog, rfl, hclock⟩⟩
      · intro hnone
        have hdrop : (dropRelation schema name s.catalog).isSome = true := by
          rw [dropRelation, hrelation]
          rfl
        have hfailed : env.ok s.clock = false := not_ok_of_attempt hnone hdrop
        refine Ensures.bind (Ensures.modify (Ensures.pure ⟨⟨nofun, fun h => ?_⟩, nofun⟩))
        rw [hfailed] at h
        exact absurd h.2 Bool.false_ne_true

/-- What decides whether a relation is made where its place is free. -/
theorem createRelation_outcome {version : List Char} (hfree : s.catalog.relation schema name = none)
    (hschema : (s.catalog.schemas schema).isSome = true) :
    Ensures (SPI_run_utility_command env (createRelation env relkind schema name definition version)) s
      (fun b s₁ => (b = true ↔ (shellRow env schema version).isSome = true ∧ env.ok s.clock = true) ∧
        s₁.clock = s.clock + 1) E := by
  refine command_ensures ?_ ?_
  · intro c hc
    obtain ⟨hok, hcreate⟩ := attempt_eq_some.1 hc
    exact ⟨iff_of_true rfl ⟨row_of_createRelation hcreate, hok⟩, rfl⟩
  · intro hnone
    refine ⟨⟨nofun, ?_⟩, rfl⟩
    rintro ⟨hrow, hok⟩
    rw [not_ok_of_attempt hnone (createRelation_isSome hschema hrow hfree)] at hok
    cases hok

/-- What takes no command takes none where it is left out either. -/
theorem onlyIf_clock {c : Bool} {p : SyncM Unit} (hp : Ensures p s (fun _ s₁ => s₁.clock = s.clock) E) :
    Ensures (onlyIf c p) s (fun _ s₁ => s₁.clock = s.clock) E := by
  cases c with
  | false => exact Ensures.pure rfl
  | true => exact hp

/-- What decides whether a table or view is made. -/
theorem syncRelation_outcome : Ensures (syncRelation env relkind schema name definition) s
    (fun b _ => (b = true ↔ Makeable env s schema name) ∧ (b = true → Makes env s schema name))
    fun _ => ¬Makes env s schema name := by
  have hgiven_up : ∀ s', ¬Makeable env s schema name →
      Ensures (pure false : SyncM Bool) s'
        (fun b _ => (b = true ↔ Makeable env s schema name) ∧ (b = true → Makes env s schema name))
        fun _ => ¬Makes env s schema name :=
    fun _ hnot => Ensures.pure ⟨⟨nofun, fun h => absurd h hnot⟩, nofun⟩
  unfold syncRelation
  split
  · rename_i hlength
    refine hgiven_up s fun h => ?_
    have hshort := h.1
    unfold NAMEDATALEN at hlength hshort
    omega
  · rename_i hlength
    have hshort : strlen name < NAMEDATALEN := by
      unfold NAMEDATALEN at hlength ⊢
      omega
    refine .bind (.get ?_)
    split
    · rename_i hnone
      rw [Option.isNone_iff_eq_none] at hnone
      intro h
      have hsome := h.2.1
      rw [hnone] at hsome
      cases hsome
    · rename_i hsome
      rw [Bool.not_eq_true, Option.isNone_eq_false_iff] at hsome
      refine dropOldVersion_outcome.seq ?_
      rintro (_ | did_delete_table) s₁ ⟨hcleared, hfreed⟩
      · exact hgiven_up s₁ fun h => Bool.false_ne_true (hcleared.2 (makeable_iff_cleared.1 h).2.1)
      · obtain ⟨hfree, hschemas, hclock⟩ := hfreed rfl
        have hmakeable : Makeable env s schema name ↔
            (shellRow env schema s.current_motherduck_catalog_version).isSome = true ∧ env.ok s₁.clock = true := by
          rw [makeable_iff_cleared, hclock, and_iff_right hshort, and_iff_right (hcleared.1 rfl)]
        refine (createRelation_outcome hfree (hschemas ▸ hsome)).seq ?_
        rintro (_ | _) s₂ ⟨hmade, hnumber⟩
        · rw [if_neg Bool.false_ne_true]
          refine (onlyIf_clock (.modify rfl)).seq fun _ s₃ _ => hgiven_up s₃ fun h => ?_
          exact Bool.false_ne_true (hmade.2 (hmakeable.1 h))
        · have hmakes : Makes env s schema name ↔ env.cacheVersionChanged s₂.clock = false := by
            rw [makes_iff_makeable, and_iff_right (hmakeable.2 (hmade.1 rfl)), and_iff_right hsome, hnumber, hclock]
          rw [if_pos rfl]
          refine (onlyIf_clock (.modify rfl)).seq fun _ s₃ hsame => ?_
          refine .bind (commit_outcome (fun hkept => ?_) fun hchanged h => ?_)
          · have hkept' := hmakes.2 (hsame ▸ hkept)
            exact Ensures.pure ⟨iff_of_true rfl hkept'.1, fun _ => hkept'⟩
          · exact Bool.false_ne_true ((hmakes.1 h).symm.trans (hsame ▸ hchanged))

end

/-! ## Schemas -/

section
variable {env : Env} {s : Session} {E : Session → Prop} {schema : List Char} {sc : PgSchema}

/-- What decides whether rights are granted, and how many commands it takes. -/
theorem GrantAccessToSchema_outcome (hsc : s.catalog.schemas schema = some sc) :
    Ensures (GrantAccessToSchema env schema) s (fun b s' => (b = true ↔ GrantsOk env s.clock) ∧
      (b = true → s'.clock = s.clock + (if env.grantsUsage then 2 else 1) ∧
        (s'.catalog.schemas schema).isSome = true)) E := by
  refine .bind (command_ensures ?_ ?_)
  · intro c hc
    obtain ⟨hok, rfl⟩ := grant_attempt_some hsc hc
    rw [if_pos rfl]
    cases husage : env.grantsUsage with
    | false =>
      refine Ensures.pure ⟨iff_of_true rfl ⟨hok, fun h => ?_⟩, fun _ => ⟨rfl, ?_⟩⟩
      · rw [husage] at h
        cases h
      · simp
    | true =>
      rw [if_pos rfl]
      refine command_ensures ?_ ?_
      · intro c hc
        obtain ⟨hok', rfl⟩ := grant_attempt_some (Catalog.setSchema_self s.catalog) hc
        refine ⟨iff_of_true rfl ⟨hok, fun _ => hok'⟩, fun _ => ⟨rfl, ?_⟩⟩
        simp
      · intro hnone
        have hfailed : env.ok (s.clock + 1) = false :=
          grant_attempt_none (Catalog.setSchema_self s.catalog) hnone
        refine ⟨⟨nofun, fun h => ?_⟩, nofun⟩
        rw [h.2 husage] at hfailed
        cases hfailed
  · intro hnone
    refine Ensures.pure ⟨⟨nofun, fun h => ?_⟩, nofun⟩
    have hfailed := grant_attempt_none hsc hnone
    rw [h.1] at hfailed
    cases hfailed

/-- What decides whether a schema that is new is made. -/
theorem createNewSchema_outcome {is_default_db : Bool} (hnone : s.catalog.schemas schema = none)
    (hlength : strlen schema < NAMEDATALEN) :
    Ensures (createNewSchema env schema is_default_db) s
      (fun b _ => (b = true ↔ Openable env s schema is_default_db) ∧
        (b = true → Opens env s schema is_default_db))
      fun _ => ¬Opens env s schema is_default_db := by
  have hopenable_iff : Openable env s schema is_default_db ↔
      env.ok s.clock = true ∧ GrantsOk env (s.clock + 1) := by
    rw [Openable, hnone, and_iff_right hlength]
  have hgiven_up : ∀ s', ¬Openable env s schema is_default_db → Ensures (do
      RollbackAndReleaseCurrentSubTransaction
      pure false) s' (fun b _ => (b = true ↔ Openable env s schema is_default_db) ∧
        (b = true → Opens env s schema is_default_db)) fun _ => ¬Opens env s schema is_default_db :=
    fun _ hnot => Ensures.bind (Ensures.modify ⟨⟨nofun, fun h => absurd h hnot⟩, nofun⟩)
  refine .bind (.modify (.bind (command_ensures ?_ ?_)))
  · intro c hc
    obtain ⟨hok, hcreate⟩ := attempt_eq_some.1 hc
    have hnew : s.catalog.setSchema schema ⟨false, false, false⟩ = c := by
      have hcreate : createSchema schema s.catalog = some c := hcreate
      rw [createSchema, hnone] at hcreate
      exact Option.some.inj hcreate
    subst hnew
    refine Ensures.bind ((GrantAccessToSchema_outcome (Catalog.setSchema_self s.catalog)).mono ?_ fun _ h => h)
    rintro b s' ⟨hgrants, hafter⟩
    cases b with
    | false =>
      refine hgiven_up s' fun h => ?_
      exact Bool.false_ne_true (hgrants.2 (hopenable_iff.1 h).2)
    | true =>
      obtain ⟨hclock, hsome⟩ := hafter rfl
      have hopenable := hopenable_iff.2 ⟨hok, hgrants.1 rfl⟩
      have hnumber : s'.clock = s.clock + if env.grantsUsage then 3 else 2 := by
        rw [hclock]
        show s.clock + 1 + _ = _
        split <;> omega
      have hcommit : ∀ s'' : Session, s''.clock = s'.clock → Ensures (commitSchema env) s''
          (fun b _ => (b = true ↔ Openable env s schema is_default_db) ∧
            (b = true → Opens env s schema is_default_db)) fun _ => ¬Opens env s schema is_default_db := by
        intro s'' hsame
        rw [hnumber] at hsame
        refine .bind (.modify (.bind (commit_outcome (fun hkept => ?_) fun hchanged hopens => ?_)))
        · exact Ensures.pure ⟨iff_of_true rfl hopenable, fun _ => ⟨hopenable, fun _ => hsame ▸ hkept⟩⟩
        · exact Bool.false_ne_true ((hopens.2 hnone).symm.trans (hsame ▸ hchanged))
      cases is_default_db with
      | true => exact hcommit s' rfl
      | false =>
        obtain ⟨sc, hsc⟩ := Option.isSome_iff_exists.1 hsome
        refine .bind (.get ?_)
        rw [hsc]
        exact .bind (.modify (hcommit _ rfl))
  · intro hfailed
    have hcreate : (createSchema schema s.catalog).isSome = true := by
      rw [createSchema, hnone]
      rfl
    refine hgiven_up _ fun h => ?_
    have hok := (hopenable_iff.1 h).1
    have hnot : env.ok s.clock = false := not_ok_of_attempt hfailed hcreate
    rw [hnot] at hok
    cases hok

/-- What decides whether a schema is opened. -/
theorem CreateSchemaIfNotExists_outcome {is_default_db : Bool} :
    Ensures (CreateSchemaIfNotExists env schema is_default_db) s
      (fun b _ => (b = true ↔ Openable env s schema is_default_db) ∧
        (b = true → Opens env s schema is_default_db))
      fun _ => ¬Opens env s schema is_default_db := by
  unfold CreateSchemaIfNotExists
  split
  · rename_i hlength
    refine Ensures.pure ⟨⟨nofun, fun h => ?_⟩, nofun⟩
    have hshort := h.1
    unfold NAMEDATALEN at hlength hshort
    omega
  · rename_i hlength
    have hshort : strlen schema < NAMEDATALEN := by
      unfold NAMEDATALEN at hlength ⊢
      omega
    refine .bind (.get ?_)
    cases hschema : s.catalog.schemas schema with
    | none => exact createNewSchema_outcome hschema hshort
    | some sc =>
      have hopenable_iff : Openable env s schema is_default_db ↔
          sc.create_access = true ∨ is_default_db = false ∧ GrantsOk env s.clock := by
        rw [Openable, hschema, and_iff_right hshort]
      have hopens : Openable env s schema is_default_db → Opens env s schema is_default_db :=
        fun h => ⟨h, fun hnone => by rw [hschema] at hnone; cases hnone⟩
      dsimp only
      cases haccess : sc.create_access with
      | true =>
        have hopenable := hopenable_iff.2 (.inl haccess)
        exact ⟨iff_of_true rfl hopenable, fun _ => hopens hopenable⟩
      | false =>
        rw [haccess] at hopenable_iff
        cases is_default_db with
        | true =>
          refine ⟨⟨nofun, fun h => ?_⟩, nofun⟩
          obtain hfalse | ⟨hfalse, -⟩ := hopenable_iff.1 h <;> cases hfalse
        | false =>
          refine (GrantAccessToSchema_outcome hschema).mono ?_ fun _ h => h
          rintro b s' ⟨hgrants, -⟩
          have hiff : b = true ↔ Openable env s schema false := by
            rw [hopenable_iff, hgrants]
            simp
          exact ⟨hiff, fun hb => hopens (hiff.1 hb)⟩

end

end PgDuckdb.Sync
