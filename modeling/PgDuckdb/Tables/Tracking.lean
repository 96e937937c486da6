import PgDuckdb.Lib.Except
import PgDuckdb.Lib.Run
import PgDuckdb.Tables.Statements

/-!
# Every DuckDB table is recorded

A relation with the duckdb access method has to be recorded, in `duckdb.tables` or in the set of
temporary tables, and a recorded table has to exist (`Tracked`). Recording is the work of event
triggers that are declared for the tags `CREATE TABLE`, `CREATE TABLE AS` and `ALTER TABLE`, while
other statements create such relations too: `SELECT INTO`, `CREATE MATERIALIZED VIEW`, the
elements of a `CREATE SCHEMA` and `EXPLAIN ANALYZE`. `Statement.Covered` leaves those out, and
`tracked_of_run` is the invariant over every run of the rest.
-/

namespace PgDuckdb.Tables

open Lib (bind_eq_ok)

/-! ## Failing programs -/

@[simp] theorem raiseIf_eq_ok {c : Prop} [Decidable c] {e : PgError} {u : Unit} :
    raiseIf c e = .ok u ↔ ¬c := by
  unfold raiseIf
  split <;> simp_all

section
variable {env : Session} {tag : CommandTag} {parsetree : ParseTree} {cmds : List DdlCommand}
  {s : Catalog}

/-- A tag has one of the two triggers of `ddl_command_end`, or none. -/
theorem ddlCommandEnd_create (h : tag ∈ createTableTriggerTags) :
    ddlCommandEnd env tag parsetree cmds s =
      duckdb_create_table_trigger env parsetree cmds s := by
  have halter : tag ∉ alterTableTriggerTags := by
    cases tag <;> simp_all [createTableTriggerTags, alterTableTriggerTags]
  rw [ddlCommandEnd, if_neg halter]
  exact if_pos h

/-- An ALTER TABLE is handled by its own trigger. -/
theorem ddlCommandEnd_alter (h : tag ∈ alterTableTriggerTags) :
    ddlCommandEnd env tag parsetree cmds s = duckdb_alter_table_trigger env parsetree cmds s := by
  have hcreate : tag ∉ createTableTriggerTags := by
    cases tag <;> simp_all [createTableTriggerTags, alterTableTriggerTags]
  simp only [ddlCommandEnd, if_pos h, if_neg hcreate]
  cases duckdb_alter_table_trigger env parsetree cmds s <;> rfl

/-- Another command ends without a trigger. -/
theorem ddlCommandEnd_other (halter : tag ∉ alterTableTriggerTags)
    (hcreate : tag ∉ createTableTriggerTags) :
    ddlCommandEnd env tag parsetree cmds s = .ok s := by
  simp only [ddlCommandEnd, if_neg halter, if_neg hcreate]
  rfl

end

/-! ## The invariant -/

/-- Every relation with the duckdb access method is recorded, and every recorded table exists and
has it. The other rows of `duckdb.tables` are of MotherDuck views. -/
structure Tracked (s : Catalog) : Prop where
  recorded : ∀ relid rel, s.pg_class relid = some rel → rel.relam = some .duckdb →
    relid ∈ if rel.relpersistence = .temporary then s.temporary_duckdb_tables else s.duckdb_tables
  permanent : ∀ relid ∈ s.duckdb_tables, ∃ rel, s.pg_class relid = some rel ∧
    (rel.relam = some .duckdb ∨ rel.relkind = .view)
  temporary : ∀ relid ∈ s.temporary_duckdb_tables, ∃ rel, s.pg_class relid = some rel ∧
    rel.relam = some .duckdb

/-- What a relation and its records are to each other. `Tracked` says part of it; the rest is what
later statements rely on. -/
structure RelationOk (rel : Relation) (inTables inTemporary : Prop) : Prop where
  temporary : inTemporary ↔ rel.relam = some .duckdb ∧ rel.relpersistence = .temporary
  permanent : inTables → rel.relpersistence ≠ .temporary ∧
    (rel.relam = some .duckdb ∨ rel.relkind = .view)
  recorded : rel.relam = some .duckdb → rel.relpersistence ≠ .temporary → inTables
  duckdb : rel.relam = some .duckdb → rel.relkind = .table
  view : rel.relkind = .view → rel.relam = none
  stays : rel.relam = some .duckdb ∨ rel.relkind = .view → rel.oncommit ≠ .DROP

/-- The same for an id: an id without a relation is not recorded. -/
def EntryOk (rel : Option Relation) (inTables inTemporary : Prop) : Prop :=
  match rel with
  | none => ¬inTables ∧ ¬inTemporary
  | some rel => RelationOk rel inTables inTemporary

/-- Every id of the catalog is as it should be. -/
def Consistent (s : Catalog) : Prop :=
  ∀ oid, EntryOk (s.pg_class oid) (oid ∈ s.duckdb_tables) (oid ∈ s.temporary_duckdb_tables)

/-- A consistent catalog tracks its tables. -/
theorem Consistent.tracked {s : Catalog} (h : Consistent s) : Tracked s := by
  refine ⟨?_, ?_, ?_⟩
  · intro relid rel hrel ham
    have hr := h relid
    rw [hrel] at hr
    split
    · exact hr.temporary.2 ⟨ham, ‹_›⟩
    · exact hr.recorded ham ‹_›
  · intro relid hmem
    have hr := h relid
    cases hrel : s.pg_class relid with
    | none =>
      rw [hrel] at hr
      exact absurd hmem hr.1
    | some rel =>
      rw [hrel] at hr
      exact ⟨rel, rfl, (hr.permanent hmem).2⟩
  · intro relid hmem
    have hr := h relid
    cases hrel : s.pg_class relid with
    | none =>
      rw [hrel] at hr
      exact absurd hmem hr.2
    | some rel =>
      rw [hrel] at hr
      exact ⟨rel, rfl, (hr.temporary.1 hmem).1⟩

/-- The catalog after `CREATE EXTENSION` is consistent. -/
theorem consistent_empty : Consistent Catalog.empty := by
  intro oid
  exact ⟨Finset.notMem_empty oid, Finset.notMem_empty oid⟩

@[simp] theorem Catalog.setRelation_self {s : Catalog} {relid : Oid} {rel : Relation} :
    (s.setRelation relid rel).pg_class relid = some rel := by
  simp [Catalog.setRelation]

/-- The type of the current statement plays no part. -/
theorem Consistent.withDdlType {s : Catalog} (h : Consistent s) (t : DDLType) :
    Consistent { s with top_level_duckdb_ddl_type := t } := h

/-- A relation that is neither a DuckDB table nor recorded. -/
theorem RelationOk.of_unrecorded {rel : Relation} (hduckdb : rel.relam ≠ some .duckdb)
    (hview : rel.relkind = .view → rel.relam = none ∧ rel.oncommit ≠ .DROP) :
    RelationOk rel False False where
  temporary := by simp [hduckdb]
  permanent := False.elim
  recorded := fun h => absurd h hduckdb
  duckdb := fun h => absurd h hduckdb
  view := fun h => (hview h).1
  stays := fun h => h.elim (absurd · hduckdb) fun h => (hview h).2

/-- A new relation that is no DuckDB table needs no record. -/
theorem Consistent.setRelation_fresh {s : Catalog} (h : Consistent s) {relid : Oid}
    {rel : Relation} (hfresh : s.pg_class relid = none) (hduckdb : rel.relam ≠ some .duckdb)
    (hview : rel.relkind = .view → rel.relam = none ∧ rel.oncommit ≠ .DROP) :
    Consistent (s.setRelation relid rel) := by
  intro oid
  by_cases hoid : oid = relid
  · subst hoid
    have hnone := h oid
    rw [hfresh] at hnone
    simpa [EntryOk, Catalog.setRelation, hnone.1, hnone.2] using
      RelationOk.of_unrecorded hduckdb hview
  · simpa [Catalog.setRelation, hoid] using h oid

/-- Relations may go if they are not recorded. -/
theorem Consistent.keepRelations {s : Catalog} (h : Consistent s) {p : Oid → Relation → Bool}
    (hp : ∀ oid rel, s.pg_class oid = some rel → p oid rel = false →
      oid ∉ s.duckdb_tables ∧ oid ∉ s.temporary_duckdb_tables) :
    Consistent (s.keepRelations p) := by
  intro oid
  have hr := h oid
  change EntryOk ((s.pg_class oid).filter (p oid)) _ _
  cases hrel : s.pg_class oid with
  | none =>
    rw [hrel] at hr
    exact hr
  | some rel =>
    cases hkeep : p oid rel with
    | true =>
      rw [Option.filter_some_pos hkeep, ← hrel]
      exact hr
    | false =>
      rw [Option.filter_some_neg (by simp [hkeep])]
      exact hp oid rel hrel hkeep

/-! ## Creation -/

/-- The table is created with the duckdb access method: by its clause, by the setting, or because
the hook defaults to it. -/
def NewTable.createsDuckdb (env : Session) (stmt : NewTable) : Bool :=
  !stmt.alreadyExists && (stmt.inDdbSchema || stmt.relam env = .duckdb)

/-- What the hook of a creation does. -/
theorem DuckdbHandleDDLPre_create_ok {env : Session} {stmt stmt' : NewTable} {s s' : Catalog}
    (h : DuckdbHandleDDLPre_create env stmt s = .ok (stmt', s')) :
    (∃ t, s' = { s with top_level_duckdb_ddl_type := t }) ∧
      ∃ am, stmt' = { stmt with accessMethod := am } ∧
        (stmt.createsDuckdb env = false → stmt'.alreadyExists = true ∨ stmt'.relam env ≠ .duckdb) := by
  simp only [DuckdbHandleDDLPre_create, bind_eq_ok] at h
  obtain ⟨stmt₁, h₁, h₂⟩ := h
  have hstmt : ∃ am, stmt₁ = { stmt with accessMethod := am } ∧
      (stmt.inDdbSchema = false → am = stmt.accessMethod) := by
    unfold defaultToDuckdb at h₁
    split at h₁
    · split at h₁ <;> cases h₁ <;> exact ⟨_, rfl, by simp_all⟩
    · cases h₁
      exact ⟨stmt.accessMethod, rfl, fun _ => rfl⟩
  obtain ⟨am, rfl, ham⟩ := hstmt
  have hduckdb : stmt.createsDuckdb env = false →
      stmt.alreadyExists = true ∨
        NewTable.relam env { stmt with accessMethod := am } ≠ .duckdb := by
    intro hnot
    rw [NewTable.createsDuckdb, Bool.and_eq_false_iff, Bool.or_eq_false_iff] at hnot
    rcases hnot with hexists | ⟨hschema, hrelam⟩
    · exact .inl (by simpa using hexists)
    · rw [ham hschema]
      exact .inr (by simpa using hrelam)
  split at h₂
  · rw [bind_eq_ok] at h₂
    obtain ⟨-, -, h₂⟩ := h₂
    cases h₂
    exact ⟨⟨_, rfl⟩, am, rfl, hduckdb⟩
  · cases h₂
    exact ⟨⟨_, rfl⟩, am, rfl, hduckdb⟩

/-- The relation of a creation. -/
def NewTable.relation (env : Session) (relkind : RelKind) (stmt : NewTable) : Relation where
  relkind
  relam := some (stmt.relam env)
  relpersistence := stmt.relpersistence
  oncommit := stmt.oncommit

/-- What Postgres does for a creation. -/
theorem DefineRelation_ok {env : Session} {relkind : RelKind} {stmt : NewTable} {s s' : Catalog}
    {cmds : List DdlCommand} (h : DefineRelation env relkind stmt s = .ok (s', cmds)) :
    (s' = s ∧ cmds = []) ∨
      (stmt.alreadyExists = false ∧ s.pg_class stmt.relid = none ∧
        (stmt.oncommit = .DROP → stmt.relpersistence = .temporary) ∧
        s' = s.setRelation stmt.relid (stmt.relation env relkind) ∧
        cmds = [{ objid := stmt.relid, object_type := relkind }]) := by
  unfold DefineRelation at h
  split at h
  · cases h
    exact .inl ⟨rfl, rfl⟩
  · simp only [bind_eq_ok, raiseIf_eq_ok] at h
    obtain ⟨-, hcommit, -, hfresh, h⟩ := h
    cases h
    refine .inr ⟨by simp_all, by simpa using hfresh, ?_, rfl, rfl⟩
    intro hdrop
    by_contra hpersistence
    exact hcommit ⟨by simp [hdrop], hpersistence⟩

/-- A creation without the duckdb access method. -/
theorem Consistent.defineRelation {env : Session} {relkind : RelKind} {stmt : NewTable}
    {s s' : Catalog} {cmds : List DdlCommand} (hs : Consistent s) (hkind : relkind ≠ .view)
    (hduckdb : stmt.alreadyExists = true ∨ stmt.relam env ≠ .duckdb)
    (h : DefineRelation env relkind stmt s = .ok (s', cmds)) : Consistent s' := by
  rcases DefineRelation_ok h with ⟨rfl, -⟩ | ⟨hexists, hfresh, -, rfl, -⟩
  · exact hs
  · refine hs.setRelation_fresh hfresh ?_ fun hview => absurd hview hkind
    rw [hexists] at hduckdb
    simpa [NewTable.relation] using hduckdb

/-- The elements of a `CREATE SCHEMA`, none with the duckdb access method. -/
theorem Consistent.createElements {env : Session} {stmts : List NewTable} {s s' : Catalog}
    (hs : Consistent s) (hduckdb : ∀ stmt ∈ stmts, stmt.createsDuckdb env = false)
    (h : createElements env stmts s = .ok s') : Consistent s' := by
  induction stmts generalizing s with
  | nil =>
    cases h
    exact hs
  | cons stmt stmts ih =>
    simp only [Tables.createElements, bind_eq_ok] at h
    obtain ⟨⟨stmt', s₁⟩, h₁, ⟨s₂, cmds⟩, h₂, h₃⟩ := h
    obtain ⟨⟨t, rfl⟩, am, rfl, hcreates⟩ := DuckdbHandleDDLPre_create_ok h₁
    have hs₂ := (hs.withDdlType t).defineRelation (by simp)
      (hcreates (hduckdb stmt List.mem_cons_self)) h₂
    exact ih hs₂ (fun x hx => hduckdb x (List.mem_cons_of_mem _ hx)) h₃

/-- The query of the create trigger after the creation of one relation. -/
theorem createdDuckdbTables_singleton {s : Catalog} {relid : Oid} {k : RelKind}
    {rel : Relation} (hrel : s.pg_class relid = some rel) :
    createdDuckdbTables s [{ objid := relid, object_type := k }] =
      if k = .table ∧ rel.relam = some .duckdb then [(relid, rel)] else [] := by
  rw [createdDuckdbTables, (List.nodup_singleton _).dedup]
  simp only [List.filterMap_cons, List.filterMap_nil, hrel]
  split <;> simp_all

/-- The create trigger after the creation of one relation. -/
theorem duckdb_create_table_trigger_ok {env : Session} {parsetree : ParseTree} {relid : Oid}
    {relkind : RelKind} {rel : Relation} {s s' : Catalog} (hrel : s.pg_class relid = some rel)
    (h : duckdb_create_table_trigger env parsetree
      [{ objid := relid, object_type := relkind }] s = .ok s') :
    let s₀ := { s with top_level_duckdb_ddl_type := .NONE }
    (¬(relkind = .table ∧ rel.relam = some .duckdb) ∧ s' = s₀) ∨
      (relkind = .table ∧ rel.relam = some .duckdb ∧ recordTable env s₀ relid rel = .ok s' ∧
        (env.doing_motherduck_sync = false → checkForward parsetree rel = .ok ())) := by
  intro s₀
  have hcreated := createdDuckdbTables_singleton (s := s₀) (k := relkind) hrel
  simp only [duckdb_create_table_trigger] at h
  rw [hcreated] at h
  by_cases htable : relkind = .table ∧ rel.relam = some .duckdb
  · rw [if_pos htable] at h
    simp only [bind_eq_ok] at h
    obtain ⟨-, -, s₁, hrecord, h⟩ := h
    refine .inr ⟨htable.1, htable.2, ?_, ?_⟩
    · split at h
      · cases h
        exact hrecord
      · rw [bind_eq_ok] at h
        obtain ⟨-, -, h⟩ := h
        cases h
        exact hrecord
    · intro hsync
      rw [if_neg (by simp [hsync]), bind_eq_ok] at h
      obtain ⟨_, hforward, -⟩ := h
      exact hforward
  · rw [if_neg htable] at h
    cases h
    exact .inl ⟨htable, rfl⟩

/-- A new DuckDB table and its record. -/
theorem Consistent.recordTable {env : Session} {s s' : Catalog} {relid : Oid} {rel : Relation}
    (hs : Consistent s) (hfresh : s.pg_class relid = none) (hkind : rel.relkind = .table)
    (ham : rel.relam = some .duckdb) (hcommit : rel.oncommit ≠ .DROP)
    (h : recordTable env (s.setRelation relid rel) relid rel = .ok s') : Consistent s' := by
  have hnone := hs relid
  rw [hfresh] at hnone
  unfold Tables.recordTable at h
  split at h
  · rename_i htemp
    cases h
    intro oid
    by_cases hoid : oid = relid
    · subst hoid
      have hr : RelationOk rel (oid ∈ s.duckdb_tables) True :=
        { temporary := by simp [ham, htemp]
          permanent := fun h => absurd h hnone.1
          recorded := fun _ h => absurd htemp h
          duckdb := fun _ => hkind
          view := fun h => (by rw [hkind] at h; cases h)
          stays := fun _ => hcommit }
      simpa [EntryOk, Catalog.setRelation] using hr
    · simpa [Catalog.setRelation, hoid] using hs oid
  · rename_i htemp
    simp only [bind_eq_ok] at h
    obtain ⟨-, -, -, -, h⟩ := h
    cases h
    intro oid
    by_cases hoid : oid = relid
    · subst hoid
      have hr : RelationOk rel True (oid ∈ s.temporary_duckdb_tables) :=
        { temporary := by simp [hnone.2, htemp]
          permanent := fun _ => ⟨htemp, .inl ham⟩
          recorded := fun _ _ => trivial
          duckdb := fun _ => hkind
          view := fun h => (by rw [hkind] at h; cases h)
          stays := fun _ => hcommit }
      simpa [EntryOk, Catalog.setRelation] using hr
    · simpa [Catalog.setRelation, hoid] using hs oid

/-- A creation whose tag has the create trigger. Outside the sync of MotherDuck the trigger rejects
`ON COMMIT DROP`; the sync creates permanent tables. -/
theorem Consistent.createTracked {env : Session} {form : Creation} {stmt : NewTable}
    {s s' : Catalog} (hs : Consistent s) (htag : form.tag ∈ createTableTriggerTags)
    (hsync : env.doing_motherduck_sync = true → stmt.relpersistence = .permanent)
    (h : runCreate env form stmt s = .ok s') : Consistent s' := by
  have hkind : form.relkind = .table := by
    cases form <;> simp_all [Creation.tag, Creation.relkind, createTableTriggerTags]
  simp only [runCreate, ddlCommandEnd_create htag, bind_eq_ok] at h
  obtain ⟨⟨stmt', s₁⟩, h₁, ⟨s₂, cmds⟩, h₂, h₃⟩ := h
  obtain ⟨⟨t, rfl⟩, am, rfl, -⟩ := DuckdbHandleDDLPre_create_ok h₁
  have hs₁ := hs.withDdlType t
  rcases DefineRelation_ok h₂ with ⟨rfl, rfl⟩ | ⟨-, hfresh, hdrop, rfl, rfl⟩
  · cases h₃
    exact hs₁.withDdlType .NONE
  · let s₁ : Catalog := { s with top_level_duckdb_ddl_type := t }
    let rel := NewTable.relation env form.relkind { stmt with accessMethod := am }
    have hrel : (s₁.setRelation stmt.relid rel).pg_class stmt.relid = some rel :=
      Catalog.setRelation_self
    rcases duckdb_create_table_trigger_ok hrel h₃ with ⟨hnot, rfl⟩ | ⟨-, ham, hrecord, hforward⟩
    · refine Consistent.withDdlType (hs₁.setRelation_fresh hfresh ?_ ?_) .NONE
      · intro ham
        exact hnot ⟨hkind, ham⟩
      · intro hview
        simp only [rel, NewTable.relation, hkind] at hview
        cases hview
    · refine (hs₁.withDdlType .NONE).recordTable hfresh hkind ham ?_ hrecord
      intro hcommit
      cases henv : env.doing_motherduck_sync with
      | true =>
        have := hdrop hcommit
        rw [hsync henv] at this
        cases this
      | false =>
        have := hforward henv
        simp only [checkForward, CheckOnCommitSupport, bind_eq_ok, raiseIf_eq_ok] at this
        obtain ⟨_, hno, -⟩ := this
        exact hno hcommit

/-- A creation without the duckdb access method, whatever its tag. -/
theorem Consistent.createOther {env : Session} {form : Creation} {stmt : NewTable}
    {s s' : Catalog} (hs : Consistent s) (htag : form.tag ∉ createTableTriggerTags)
    (hduckdb : stmt.createsDuckdb env = false) (h : runCreate env form stmt s = .ok s') :
    Consistent s' := by
  have halter : form.tag ∉ alterTableTriggerTags := by
    cases form <;> simp [Creation.tag, alterTableTriggerTags]
  have hkind : form.relkind ≠ .view := by
    cases form <;> simp [Creation.relkind]
  simp only [runCreate, ddlCommandEnd_other halter htag, bind_eq_ok] at h
  obtain ⟨⟨stmt', s₁⟩, h₁, ⟨s₂, cmds⟩, h₂, h₃⟩ := h
  cases h₃
  obtain ⟨⟨t, rfl⟩, am, rfl, hcreates⟩ := DuckdbHandleDDLPre_create_ok h₁
  exact (hs.withDdlType t).defineRelation hkind (hcreates hduckdb) h₂

/-- A view, whether MotherDuck's or not. -/
theorem Consistent.createView {stmt : NewView} {s s' : Catalog} (hs : Consistent s)
    (h : runCreateView stmt s = .ok s') : Consistent s' := by
  simp only [runCreateView, DefineView, bind_eq_ok, raiseIf_eq_ok, not_not] at h
  obtain ⟨-, hperm, s₁, ⟨-, hold, hs₁⟩, h⟩ := h
  cases hs₁
  have hset : Consistent (s.setRelation stmt.relid (viewRelation stmt.relpersistence)) := by
    split at hold
    · intro oid
      by_cases hoid : oid = stmt.relid
      · rw [hoid, Catalog.setRelation_self, ← hold]
        exact hs stmt.relid
      · simpa [Catalog.setRelation, hoid] using hs oid
    · exact hs.setRelation_fresh hold (by simp [viewRelation])
        fun _ => ⟨rfl, by simp [viewRelation]⟩
  split at h
  · rename_i hmd
    cases h
    intro oid
    by_cases hoid : oid = stmt.relid
    · subst hoid
      have hr := hset stmt.relid
      rw [Catalog.setRelation_self] at hr
      have hpermanent : stmt.relpersistence = .permanent := by
        by_contra hne
        exact hperm ⟨hmd, hne⟩
      have hr' : RelationOk (viewRelation stmt.relpersistence) True
          (stmt.relid ∈ s.temporary_duckdb_tables) :=
        { hr with
          permanent := fun _ => ⟨by simp [viewRelation, hpermanent], .inr rfl⟩
          recorded := fun _ _ => trivial }
      simpa [EntryOk, Catalog.setRelation] using hr'
    · simpa [Catalog.setRelation, hoid] using hs oid
  · cases h
    exact hset

/-! ## Change -/

/-- The query of the alter trigger for one table. -/
theorem alteredDuckdbTables_singleton {s : Catalog} {relid : Oid} {rel : Relation}
    (hrel : s.pg_class relid = some rel) :
    alteredDuckdbTables s [{ objid := relid, object_type := .table }] =
      (if rel.relam = some .duckdb then [(relid, false)] else []) ++
        (if relid ∈ s.duckdb_tables then [(relid, false)] else []) ++
        (if rel.relam ≠ some .duckdb ∧ rel.relpersistence = .temporary then [(relid, true)]
          else []) := by
  simp only [alteredDuckdbTables, List.filter_cons, List.filter_nil, hrel, Option.any_some,
    decide_true, if_true, decide_eq_true_eq]
  split_ifs <;> rfl

/-- The alter trigger changes nothing but the type of the statement. -/
theorem duckdb_alter_table_trigger_ok {env : Session} {parsetree : ParseTree}
    {cmds : List DdlCommand} {s s' : Catalog}
    (h : duckdb_alter_table_trigger env parsetree cmds s = .ok s') :
    s' = { s with top_level_duckdb_ddl_type := .NONE } := by
  simp only [duckdb_alter_table_trigger] at h
  split at h
  · cases h
    rfl
  · split at h
    · cases h
      rfl
    · split at h
      · cases h
        rfl
      · simp only [bind_eq_ok] at h
        obtain ⟨-, -, h⟩ := h
        split at h
        · rw [bind_eq_ok] at h
          obtain ⟨-, -, h⟩ := h
          cases h
          rfl
        · cases h

/-- The alter trigger rejects a statement it does not know on a DuckDB table, whether it is one or
was one. -/
theorem duckdb_alter_table_trigger_rejects {env : Session} {cmds : List DdlCommand} {relid : Oid}
    {needs : Bool} {rows : List (Oid × Bool)} {s s' : Catalog}
    (hsync : env.doing_motherduck_sync = false)
    (hrows : alteredDuckdbTables { s with top_level_duckdb_ddl_type := .NONE } cmds =
      (relid, needs) :: rows)
    (hneeds : needs = true → relid ∈ s.temporary_duckdb_tables) :
    duckdb_alter_table_trigger env (.alter false) cmds s ≠ .ok s' := by
  intro h
  simp only [duckdb_alter_table_trigger, hrows, hsync] at h
  rw [if_neg (by simp), if_neg fun hc => hc.2 (hneeds hc.1)] at h
  simp only [bind_eq_ok, raiseIf_eq_ok] at h
  obtain ⟨-, -, -, hsupported, -⟩ := h
  exact hsupported trivial

/-- What Postgres does for a change: nothing, or a new access method. -/
theorem processAlter_ok {stmt : AlterTable} {rel : Relation} {s s' : Catalog}
    (h : processAlter stmt rel s = .ok s') :
    s' = s ∨ ∃ new, stmt.accessMethod = some new ∧
      (rel.relkind = .table ∨ rel.relkind = .materializedView) ∧
      s' = s.setRelation stmt.relid { rel with relam := some new } := by
  unfold processAlter at h
  split at h
  · cases h
    exact .inl rfl
  · rename_i new hnew
    split at h
    · cases h
    · rw [bind_eq_ok] at h
      obtain ⟨_, hkind, h⟩ := h
      split at h
      · cases h
        exact .inl rfl
      · rw [bind_eq_ok] at h
        obtain ⟨-, -, h⟩ := h
        cases h
        rw [raiseIf_eq_ok, not_and_or, not_not, not_not] at hkind
        exact .inr ⟨new, hnew, hkind, rfl⟩

/-- A relation that is no DuckDB table keeps away from the records when its access method changes
to another one that is not duckdb. -/
theorem Consistent.setRelam {s : Catalog} {relid : Oid} {rel : Relation} {new : AccessMethod}
    (hs : Consistent s) (hrel : s.pg_class relid = some rel) (hkind : rel.relkind ≠ .view)
    (hold : rel.relam ≠ some .duckdb) (hnew : new ≠ .duckdb) :
    Consistent (s.setRelation relid { rel with relam := some new }) := by
  intro oid
  by_cases hoid : oid = relid
  · subst hoid
    have hr := hs oid
    rw [hrel] at hr
    have htables : oid ∉ s.duckdb_tables := fun h => (hr.permanent h).2.elim hold hkind
    have htemp : oid ∉ s.temporary_duckdb_tables := fun h => hold (hr.temporary.1 h).1
    have hok : RelationOk { rel with relam := some new } False False :=
      .of_unrecorded (by simpa using hnew) fun h => absurd h hkind
    simpa [EntryOk, Catalog.setRelation, htables, htemp] using hok
  · simpa [Catalog.setRelation, hoid] using hs oid

/-- A DuckDB table, before or after the change, is among the rows of the alter trigger. -/
theorem Consistent.exists_altered {s : Catalog} {relid : Oid} {rel : Relation}
    {new : AccessMethod} (hs : Consistent s) (hrel : s.pg_class relid = some rel)
    (hduckdb : rel.relam = some .duckdb ∨ new = .duckdb) :
    ∃ needs rows, alteredDuckdbTables (s.setRelation relid { rel with relam := some new })
        [{ objid := relid, object_type := .table }] = (relid, needs) :: rows ∧
      (needs = true → relid ∈ s.temporary_duckdb_tables) := by
  rw [alteredDuckdbTables_singleton Catalog.setRelation_self]
  have hr := hs relid
  rw [hrel] at hr
  by_cases hnew : new = .duckdb
  · exact ⟨false, _, by simp [hnew]; rfl, by simp⟩
  · have hold : rel.relam = some .duckdb := hduckdb.resolve_right hnew
    by_cases htemp : rel.relpersistence = .temporary
    · have hmem := hr.temporary.2 ⟨hold, htemp⟩
      by_cases htables : relid ∈ s.duckdb_tables
      · exact ⟨false, _, by simp [hnew, Catalog.setRelation, htables]; rfl, fun _ => hmem⟩
      · exact ⟨true, [], by simp [hnew, Catalog.setRelation, htables, htemp], fun _ => hmem⟩
    · have hmem := hr.recorded hold htemp
      exact ⟨false, _, by simp [hnew, Catalog.setRelation, hmem]; rfl, by simp⟩

/-- A change outside the sync that does not give a materialized view the duckdb access method. -/
theorem Consistent.alter {env : Session} {stmt : AlterTable} {s s' : Catalog}
    (hs : Consistent s) (hsync : env.doing_motherduck_sync = false)
    (hmatview : ∀ rel, s.pg_class stmt.relid = some rel → rel.relkind = .materializedView →
      stmt.accessMethod ≠ some .duckdb)
    (h : runAlter env stmt s = .ok s') : Consistent s' := by
  unfold runAlter at h
  split at h
  · cases h
  rename_i rel hrel
  simp only [bind_eq_ok, raiseIf_eq_ok] at h
  obtain ⟨s₁, hpre, -, hobject, s₂, hprocess, htriggers⟩ := h
  have hs₁ : ∃ t, s₁ = { s with top_level_duckdb_ddl_type := t } := by
    simp only [DuckdbHandleDDLPre_alter, bind_eq_ok] at hpre
    obtain ⟨-, -, hpre⟩ := hpre
    cases hpre
    split
    · exact ⟨_, rfl⟩
    · exact ⟨s.top_level_duckdb_ddl_type, rfl⟩
  obtain ⟨t, rfl⟩ := hs₁
  have hs₁ := hs.withDdlType t
  have hend : ∃ t, s' = { s₂ with top_level_duckdb_ddl_type := t } := by
    cases hmv : stmt.ofMaterializedView with
    | true =>
      rw [hmv, if_pos rfl, ddlCommandEnd_other (by decide) (by decide)] at htriggers
      cases htriggers
      exact ⟨_, rfl⟩
    | false =>
      rw [hmv, if_neg (by simp), ddlCommandEnd_alter (by decide)] at htriggers
      exact ⟨_, duckdb_alter_table_trigger_ok htriggers⟩
  obtain ⟨t', rfl⟩ := hend
  refine Consistent.withDdlType ?_ t'
  rcases processAlter_ok hprocess with rfl | ⟨new, hnew, hkind, rfl⟩
  · exact hs₁
  by_cases hduckdb : rel.relam = some .duckdb ∨ new = .duckdb
  · have htable : rel.relkind = .table := by
      rcases hkind with hkind | hkind
      · exact hkind
      · have hr := hs stmt.relid
        rw [hrel] at hr
        rcases hduckdb with hold | rfl
        · exact hr.duckdb hold
        · exact absurd hnew (hmatview rel hrel hkind)
    have hmv : stmt.ofMaterializedView = false := by
      by_contra hmv
      exact hobject ⟨by simpa using hmv, by simp [htable]⟩
    obtain ⟨needs, rows, hrows, hneeds⟩ := (hs₁.withDdlType .NONE).exists_altered hrel hduckdb
    rw [← htable] at hrows
    rw [hmv, if_neg (by simp), ddlCommandEnd_alter (by decide), hnew] at htriggers
    exact absurd htriggers (duckdb_alter_table_trigger_rejects hsync hrows hneeds)
  · rw [not_or] at hduckdb
    refine hs₁.setRelam hrel ?_ hduckdb.1 hduckdb.2
    rcases hkind with hkind | hkind <;> simp [hkind]

/-! ## Drop -/

/-- The loop over the dropped tables of `pg_temp` removes them from the set. -/
theorem unregisterTempTables_fst {tables : Finset Oid} {n : Nat} {relids : List Oid} :
    (unregisterTempTables tables n relids).1 = tables \ relids.toFinset := by
  induction relids generalizing tables n with
  | nil => simp [unregisterTempTables]
  | cons relid relids ih =>
    unfold unregisterTempTables
    split
    · rw [ih]
      ext oid
      simp [and_assoc]
      tauto
    · rename_i hnot
      rw [ih]
      ext oid
      simp only [Finset.mem_sdiff, List.mem_toFinset, List.mem_cons, not_or]
      constructor
      · rintro ⟨hmem, hrest⟩
        exact ⟨hmem, fun heq => hnot (heq ▸ hmem), hrest⟩
      · rintro ⟨hmem, -, hrest⟩
        exact ⟨hmem, hrest⟩

/-- A relation of a drop is among its objects. -/
theorem Drop.mem_objects {stmt : Drop} {s : Catalog} {oid : Oid} {k : RelKind} {temp : Bool} :
    .relation oid k temp ∈ stmt.objects s ↔ oid ∈ stmt.relids ∧
      ∃ rel, s.pg_class oid = some rel ∧ rel.relkind = k ∧
        decide (rel.relpersistence = .temporary) = temp := by
  simp only [Drop.objects, List.mem_append, List.mem_filterMap, List.mem_replicate,
    Option.map_eq_some_iff]
  constructor
  · rintro ((⟨relid, hmem, rel, hrel, heq⟩ | hmem) | ⟨-, heq⟩)
    · cases heq
      exact ⟨hmem, rel, hrel, rfl, rfl⟩
    · split at hmem <;> simp at hmem
    · cases heq
  · rintro ⟨hmem, rel, hrel, rfl, rfl⟩
    exact .inl (.inl ⟨oid, hmem, rel, hrel, rfl⟩)

/-- The tables and views among what a statement drops. -/
theorem Drop.mem_droppedTablesAndViews {stmt : Drop} {s : Catalog} {oid : Oid} :
    oid ∈ droppedTablesAndViews (stmt.objects s) ↔ oid ∈ stmt.relids ∧
      ∃ rel, s.pg_class oid = some rel ∧ (rel.relkind = .table ∨ rel.relkind = .view) := by
  simp only [droppedTablesAndViews, List.mem_filterMap, List.mem_filter]
  constructor
  · rintro ⟨obj, ⟨hobj, hkind⟩, hoid⟩
    cases obj with
    | relation relid k temp =>
      cases hoid
      obtain ⟨hmem, rel, hrel, rfl, -⟩ := Drop.mem_objects.1 hobj
      exact ⟨hmem, rel, hrel, by simpa [DroppedObject.isTableOrView] using hkind⟩
    | ddbSchema => cases hoid
    | counted => cases hoid
  · rintro ⟨hmem, rel, hrel, hkind⟩
    exact ⟨_, ⟨Drop.mem_objects.2 ⟨hmem, rel, hrel, rfl, rfl⟩,
      by simpa [DroppedObject.isTableOrView] using hkind⟩, rfl⟩

/-- The temporary tables among what a statement drops. -/
theorem Drop.mem_droppedTempTables {stmt : Drop} {s : Catalog} {oid : Oid} :
    oid ∈ droppedTempTables (stmt.objects s) ↔ oid ∈ stmt.relids ∧
      ∃ rel, s.pg_class oid = some rel ∧ rel.relkind = .table ∧
        rel.relpersistence = .temporary := by
  simp only [droppedTempTables, List.mem_filterMap]
  constructor
  · rintro ⟨obj, hobj, hoid⟩
    split at hoid
    · cases hoid
      obtain ⟨hmem, rel, hrel, hkind, htemp⟩ := Drop.mem_objects.1 hobj
      exact ⟨hmem, rel, hrel, hkind, by simpa using htemp⟩
    · cases hoid
  · rintro ⟨hmem, rel, hrel, hkind, htemp⟩
    exact ⟨.relation oid .table true,
      Drop.mem_objects.2 ⟨hmem, rel, hrel, hkind, by simpa using htemp⟩, rfl⟩

/-- What the drop trigger does to the records. If it deletes no table or view it leaves them as
they are, which is the same. -/
theorem duckdb_drop_trigger_ok {env : Session} {objs : List DroppedObject} {s s' : Catalog}
    (h : duckdb_drop_trigger env objs s = .ok s') :
    s' = s ∧ droppedTablesAndViews objs = [] ∨
      s' = { s with
        duckdb_tables := s.duckdb_tables \ (droppedTablesAndViews objs).toFinset
        temporary_duckdb_tables :=
          s.temporary_duckdb_tables \ (droppedTempTables objs).toFinset } := by
  simp only [duckdb_drop_trigger, bind_eq_ok] at h
  obtain ⟨-, -, h⟩ := h
  split at h
  · rename_i hcount
    cases h
    rw [List.countP_eq_zero, ← List.filter_eq_nil_iff] at hcount
    exact .inl ⟨rfl, by rw [droppedTablesAndViews, hcount]; rfl⟩
  · simp only [bind_eq_ok] at h
    obtain ⟨-, -, -, -, h⟩ := h
    cases h
    rw [unregisterTempTables_fst]
    exact .inr rfl

/-- A drop, by name or by cascade. -/
theorem Consistent.drop {env : Session} {stmt : Drop} {s s' : Catalog} (hs : Consistent s)
    (h : runDrop env stmt s = .ok s') : Consistent s' := by
  have hrecorded : ∀ oid ∈ s.duckdb_tables, oid ∈ stmt.relids →
      oid ∈ droppedTablesAndViews (stmt.objects s) := by
    intro oid htables hmem
    have hr := hs oid
    cases hrel : s.pg_class oid with
    | none =>
      rw [hrel] at hr
      exact absurd htables hr.1
    | some rel =>
      rw [hrel] at hr
      refine Drop.mem_droppedTablesAndViews.2 ⟨hmem, rel, hrel, ?_⟩
      exact (hr.permanent htables).2.imp hr.duckdb id
  have htemporary : ∀ oid ∈ s.temporary_duckdb_tables, oid ∈ stmt.relids →
      oid ∈ droppedTempTables (stmt.objects s) := by
    intro oid htemp hmem
    have hr := hs oid
    cases hrel : s.pg_class oid with
    | none =>
      rw [hrel] at hr
      exact absurd htemp hr.2
    | some rel =>
      rw [hrel] at hr
      obtain ⟨ham, hpersistence⟩ := hr.temporary.1 htemp
      exact Drop.mem_droppedTempTables.2 ⟨hmem, rel, hrel, hr.duckdb ham, hpersistence⟩
  rcases duckdb_drop_trigger_ok h with ⟨rfl, hnone⟩ | rfl
  · refine hs.keepRelations fun oid rel hrel hdrop => ?_
    have hmem : oid ∈ stmt.relids := by simpa using hdrop
    have htables : oid ∉ s.duckdb_tables := by
      intro hin
      have := hrecorded oid hin hmem
      rw [hnone] at this
      cases this
    refine ⟨htables, fun hin => ?_⟩
    obtain ⟨-, rel', hrel', hkind, -⟩ :=
      Drop.mem_droppedTempTables.1 (htemporary oid hin hmem)
    have := Drop.mem_droppedTablesAndViews.2 ⟨hmem, rel', hrel', .inl hkind⟩
    rw [hnone] at this
    cases this
  · intro oid
    have hr := hs oid
    by_cases hmem : oid ∈ stmt.relids
    · have hgone : (s.pg_class oid).filter (fun _ => decide (oid ∉ stmt.relids)) = none := by
        cases s.pg_class oid <;> simp [Option.filter, hmem]
      simp only [Catalog.keepRelations, hgone, EntryOk, Finset.mem_sdiff, List.mem_toFinset]
      exact ⟨fun hin => hin.2 (hrecorded oid hin.1 hmem),
        fun hin => hin.2 (htemporary oid hin.1 hmem)⟩
    · have hstays : (s.pg_class oid).filter (fun _ => decide (oid ∉ stmt.relids)) =
          s.pg_class oid := by
        cases s.pg_class oid <;> simp [Option.filter, hmem]
      change EntryOk ((s.pg_class oid).filter _) _ _
      rw [hstays]
      simpa [Catalog.keepRelations, Drop.mem_droppedTablesAndViews, Drop.mem_droppedTempTables,
        hmem] using hr

/-! ## Runs -/

/-- A statement that the sync of MotherDuck executes. -/
def Statement.OfSync : Statement → Prop
  | .create .createTable stmt => stmt.relpersistence = .permanent
  | .createSchema _ elements => elements = []
  | .createView _ | .drop _ | .commit => True
  | _ => False

/-- The statements whose effect on DuckDB relations the triggers see. A relation with the duckdb
access method comes from `CREATE TABLE` or `CREATE TABLE AS`; a materialized view does not change
to it; and temporary DuckDB tables are not discarded. -/
def Statement.Covered (env : Session) (s : Catalog) : Statement → Prop
  | .create form stmt =>
    form.tag ∈ createTableTriggerTags ∨ stmt.createsDuckdb env = false
  | .explainAnalyze _ stmt _ => stmt.alreadyExists = true ∨ stmt.relam env ≠ .duckdb
  | .createSchema _ elements => ∀ stmt ∈ elements, stmt.createsDuckdb env = false
  | .alter stmt => ∀ rel, s.pg_class stmt.relid = some rel → rel.relkind = .materializedView →
      stmt.accessMethod ≠ some .duckdb
  | .discardTemp => s.temporary_duckdb_tables = ∅
  | .createView _ | .refreshMaterializedView | .drop _ | .commit => True

/-- A statement of a run: the triggers see what it does, and if the sync executes it, it is one of
its statements. -/
def Allowed (s : Catalog) (i : Session × Statement) : Prop :=
  i.2.Covered i.1 s ∧ (i.1.doing_motherduck_sync = true → i.2.OfSync)

/-- One statement keeps the catalog consistent. -/
theorem Consistent.run {env : Session} {stmt : Statement} {s s' : Catalog} (hs : Consistent s)
    (hok : Allowed s (env, stmt)) (h : stmt.run env s = .ok s') : Consistent s' := by
  obtain ⟨hcovered, hsync⟩ := hok
  have hnoSync : ¬stmt.OfSync → env.doing_motherduck_sync = false := by
    intro hnot
    by_contra hne
    exact hnot (hsync (by simpa using hne))
  cases stmt with
  | create form stmt =>
    by_cases htag : form.tag ∈ createTableTriggerTags
    · refine hs.createTracked htag (fun henv => ?_) h
      have := hsync henv
      cases form with
      | createTable => exact this
      | createTableAs => exact this.elim
      | selectInto => exact this.elim
      | createMaterializedView => exact this.elim
    · exact hs.createOther htag (hcovered.resolve_left htag) h
  | explainAnalyze form stmt withNoData =>
    have hkind : form.relkind ≠ .view := by
      cases form <;> simp [Creation.relkind]
    simp only [Statement.run, runExplainAnalyze, bind_eq_ok] at h
    obtain ⟨⟨s₁, cmds⟩, h₁, -, -, h₂⟩ := h
    cases h₂
    exact hs.defineRelation hkind hcovered h₁
  | createSchema ddbSchema elements =>
    simp only [Statement.run, runCreateSchema, bind_eq_ok] at h
    obtain ⟨-, -, s₁, h₁, h₂⟩ := h
    cases h₂
    exact hs.createElements hcovered h₁
  | createView stmt => exact hs.createView h
  | refreshMaterializedView =>
    cases h
    exact hs.withDdlType _
  | alter stmt => exact hs.alter (hnoSync id) hcovered h
  | drop stmt => exact hs.drop h
  | discardTemp =>
    cases h
    refine hs.keepRelations fun oid rel hrel hdrop => ?_
    have hr := hs oid
    rw [hrel] at hr
    have hnone : s.temporary_duckdb_tables = ∅ := hcovered
    refine ⟨fun hin => (hr.permanent hin).1 (by simpa using hdrop), ?_⟩
    rw [hnone]
    exact Finset.notMem_empty oid
  | commit =>
    cases h
    refine Consistent.withDdlType (hs.keepRelations fun oid rel hrel hdrop => ?_) .NONE
    have hr := hs oid
    rw [hrel] at hr
    have hcommit : rel.oncommit = .DROP := by simpa using hdrop
    exact ⟨fun hin => hr.stays (hr.permanent hin).2 hcommit,
      fun hin => hr.stays (.inl (hr.temporary.1 hin).1) hcommit⟩

/-- In every run of statements that the triggers see, from the catalog after `CREATE EXTENSION`,
every DuckDB table is recorded and every recorded table exists. -/
theorem tracked_of_run {is : List (Session × Statement)} {s : Catalog}
    (hok : Lib.AllowedRun Catalog.step Allowed Catalog.empty is)
    (hrun : is.foldlM Catalog.step Catalog.empty = some s) : Tracked s := by
  refine (hok.invariant consistent_empty ?_ hrun).tracked
  intro s i s' hs hi hstep
  refine hs.run hi ?_
  unfold Catalog.step at hstep
  cases h : i.2.run i.1 s with
  | error e =>
    rw [h] at hstep
    cases hstep
  | ok s₁ =>
    rw [h] at hstep
    cases hstep
    rfl

/-- A session that defaults to the duckdb access method. -/
def duckdbByDefault : Session where
  default_table_access_method := .duckdb
  motherduck_enabled := true
  doing_motherduck_sync := false
  mixed_writes_allowed := true

/-- A new table in a Postgres schema, without a `USING` clause. -/
def newTable (relid : Oid) (relpersistence : RelPersistence) : NewTable where
  relid
  inDdbSchema := false
  accessMethod := none
  relpersistence
  oncommit := .NOOP
  alreadyExists := false

/-- A temporary and a permanent table, and a drop of the first. -/
def createAndDrop : List (Session × Statement) :=
  [(duckdbByDefault, .create .createTable (newTable 16384 .temporary)),
   (duckdbByDefault, .create .createTableAs (newTable 16385 .permanent)),
   (duckdbByDefault, .commit),
   (duckdbByDefault, .drop { relids := [16384], ddbSchema := false, counted := 0 })]

/-- The run of the example keeps the table tracked. -/
theorem tracked_createAndDrop :
    ∃ s, createAndDrop.foldlM Catalog.step Catalog.empty = some s ∧
      16385 ∈ s.duckdb_tables ∧ Tracked s := by
  have hok : Lib.AllowedRun Catalog.step Allowed Catalog.empty createAndDrop :=
    ⟨⟨.inl (by decide), nofun⟩, fun _ _ => ⟨⟨.inl (by decide), nofun⟩,
      fun _ _ => ⟨⟨trivial, nofun⟩, fun _ _ => ⟨⟨trivial, nofun⟩, fun _ _ => trivial⟩⟩⟩⟩
  exact ⟨_, rfl, by decide, tracked_of_run hok rfl⟩

/-- `SELECT INTO` has the tag `SELECT INTO`, so the table it creates is not recorded. -/
theorem not_tracked_selectInto :
    ¬∀ (is : List (Session × Statement)) (s : Catalog),
      is.foldlM Catalog.step Catalog.empty = some s → Tracked s := by
  intro h
  have htracked := h [(duckdbByDefault, .create .selectInto (newTable 16384 .permanent))] _ rfl
  exact absurd (htracked.recorded 16384 _ rfl rfl) (by decide)

end PgDuckdb.Tables
