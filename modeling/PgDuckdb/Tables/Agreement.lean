import PgDuckdb.Deparse.StatementReading
import PgDuckdb.Tables.Shells

/-!
# The two catalogs have the same names

A statement of a session keeps the shells those of the relations in DuckDB exactly if it meets `Keeps` (`agree_iff`),
and all the statements of a session do exactly if each of them meets it (`agree_run_iff`).

`entryOf` reads no more of a state than the names of the schemas, so that what a statement does to the list of the
shells and what it does in DuckDB are looked at one after the other.
-/

namespace PgDuckdb.Shells

open Pg (Text)
open Copy (Backend)
open AlterTable (Deparsed)
open RelationStatements (RelationType RelationName Sent ViewStmt relationName)

section
variable {σ : Type} {b : Backend} {duck : DuckDB σ} {s s' : State σ} {d d' : σ} {shell shell' : Shell} {e : Entry}

/-! ## Names -/

/-- The entry that a shell stands for, where the query for its name succeeds. -/
theorem entryOf_eq_some : entryOf b duck s shell = some e ↔
    ∃ name, nameOf b s shell = some name ∧ entry duck.fold shell.type name = e := by
  rw [entryOf, Option.map_eq_some_iff]

/-- A shell keeps its own name. -/
theorem relname_of_nameOf {name : RelationName} (h : nameOf b s shell = some name) : name.relname = shell.relname := by
  unfold nameOf relationName at h
  cases hdb : pgduckdb_db_and_schema b.schemas (schemaName s shell) (some "duckdb".toList) with
  | error err =>
    rw [hdb] at h
    cases h
  | ok pair =>
    rw [hdb] at h
    cases h
    rfl

/-- The name of a relation with another name. -/
theorem nameOf_withName {name : RelationName} {newname : Text} (h : nameOf b s shell = some name) :
    nameOf b s (shell.withName newname) = some (renamed name newname) := by
  unfold nameOf relationName at h
  cases hdb : pgduckdb_db_and_schema b.schemas (schemaName s shell) (some "duckdb".toList) with
  | error err =>
    rw [hdb] at h
    cases h
  | ok pair =>
    rw [hdb] at h
    cases h
    have hsame : schemaName s (shell.withName newname) = schemaName s shell := rfl
    rw [nameOf, relationName, hsame, hdb]
    rfl

/-! ## What is sent -/

/-- CREATE VIEW as DuckDB gets it. -/
theorem send_view (shell : Shell) {stmt : ViewStmt} {query : Deparsed} :
    send b duck (.view stmt (schemaName s shell) shell.relname query) d =
      (nameOf b s shell).bind fun name => duck.run (.createView stmt.replace name) d := by
  rw [send, Sent.statement, nameOf]
  cases relationName b (schemaName s shell) shell.relname with
  | error err => rfl
  | ok name => rfl

/-- The type of a relation follows its kind. -/
theorem relation_type_relkind : RelationStatements.relation_type shell.relkind = shell.type := by
  unfold Shell.relkind
  cases shell.type with
  | table => rfl
  | view => rfl

/-- ALTER RENAME as DuckDB gets it. -/
theorem send_rename {newname : Text} :
    send b duck (.rename (schemaName s shell) shell.relkind (renameStmt shell newname)) d =
      (nameOf b s shell).bind fun name => duck.run (.rename shell.type name newname) d := by
  rw [send, Sent.statement, nameOf, relation_type_relkind]
  have hrelname : (renameStmt shell newname).relname = shell.relname := rfl
  rw [hrelname]
  cases relationName b (schemaName s shell) shell.relname with
  | error err => rfl
  | ok name => rfl

/-- The name of a temporary table is written as it is. -/
theorem send_drop : ∃ if_exists, send b duck (drop_query s shell) d =
    (nameOf b s shell).bind fun name => duck.run (.drop shell.type if_exists name) d := by
  unfold drop_query nameOf
  cases htemp : shell.temporary with
  | true =>
    have hschema : schemaName s shell = "pg_temp".toList := by
      rw [schemaName, htemp]
      rfl
    rw [hschema, shell.temporary_table htemp]
    exact ⟨false, rfl⟩
  | false =>
    refine ⟨true, ?_⟩
    rw [if_neg Bool.false_ne_true, send, Sent.statement]
    cases relationName b (schemaName s shell) shell.relname with
    | error err => rfl
    | ok name => rfl

/-! ## What is done to the shells -/

/-- The shells after one is updated. -/
theorem mem_updateShell {relid : Oid} {f : Shell → Shell} {shells : List Shell} :
    shell' ∈ updateShell relid f shells ↔ ∃ shell ∈ shells, (if shell.oid = relid then f shell else shell) = shell' :=
  List.mem_map

/-- An update keeps the numbers. -/
theorem map_oid_updateShell {relid : Oid} {f : Shell → Shell} {shells : List Shell}
    (hf : ∀ shell, (f shell).oid = shell.oid) : (updateShell relid f shells).map (·.oid) = shells.map (·.oid) := by
  rw [updateShell, List.map_map]
  refine List.map_congr_left fun shell _ => ?_
  rw [Function.comp_apply]
  split
  · exact hf shell
  · rfl

/-- In an agreed database a number is one shell. -/
theorem Agree.eq_of_oid (h : Agree b duck s) (hshell : shell ∈ s.shells) (hshell' : shell' ∈ s.shells)
    (heq : shell.oid = shell'.oid) : shell = shell' :=
  List.inj_on_of_nodup_map h.oids hshell hshell' heq

/-- In an agreed database an entry is one shell. -/
theorem Agree.eq_of_entry (h : Agree b duck s) (hshell : shell ∈ s.shells) (hshell' : shell' ∈ s.shells)
    (he : entryOf b duck s shell = some e) (he' : entryOf b duck s shell' = some e) : shell = shell' :=
  h.distinct shell hshell shell' hshell' (he.trans he'.symm)

/-- A shell that is found is in the list. -/
theorem mem_of_find {relid : Oid} (h : s.shells.find? (·.oid = relid) = some shell) :
    shell ∈ s.shells ∧ shell.oid = relid :=
  ⟨List.mem_of_find?_eq_some h, by simpa using List.find?_some h⟩

/-- A relation is made in both. -/
theorem Agree.cons (h : Agree b duck s) (hoid : ∀ shell' ∈ s.shells, shell'.oid ≠ shell.oid)
    (he : entryOf b duck s shell = some e) (hnot : ¬duck.has s.duck e)
    (hhas : ∀ e', duck.has d e' ↔ duck.has s.duck e' ∨ e' = e) :
    Agree b duck { s with shells := shell :: s.shells, duck := d } where
  oids := by
    rw [List.map_cons, List.nodup_cons]
    refine ⟨fun hmem => ?_, h.oids⟩
    obtain ⟨shell', hshell', heq⟩ := List.mem_map.1 hmem
    exact hoid shell' hshell' heq
  named := List.forall_mem_cons.2 ⟨⟨e, he⟩, h.named⟩
  distinct := by
    have hother : ∀ shell' ∈ s.shells, entryOf b duck s shell' ≠ some e := by
      intro shell' hshell' he'
      exact hnot ((h.has e).2 ⟨shell', hshell', he'⟩)
    intro shell₁ h₁ shell₂ h₂ heq
    change entryOf b duck s shell₁ = entryOf b duck s shell₂ at heq
    rcases List.mem_cons.1 h₁ with hthis₁ | hmem₁
    · rcases List.mem_cons.1 h₂ with hthis₂ | hmem₂
      · exact hthis₁.trans hthis₂.symm
      · rw [hthis₁] at heq
        exact absurd (heq.symm.trans he) (hother shell₂ hmem₂)
    · rcases List.mem_cons.1 h₂ with hthis₂ | hmem₂
      · rw [hthis₂] at heq
        exact absurd (heq.trans he) (hother shell₁ hmem₁)
      · exact h.distinct shell₁ hmem₁ shell₂ hmem₂ heq
  has := by
    intro e'
    rw [hhas, h.has]
    constructor
    · rintro (⟨shell', hshell', he'⟩ | rfl)
      · exact ⟨shell', List.mem_cons_of_mem _ hshell', he'⟩
      · exact ⟨shell, List.mem_cons_self, he⟩
    · rintro ⟨shell', hshell', he'⟩
      rcases List.mem_cons.1 hshell' with rfl | hshell'
      · exact .inr (Option.some.inj (he'.symm.trans he))
      · exact .inl ⟨shell', hshell', he'⟩

/-- Only what DuckDB has under the same names may be another state of it. -/
theorem Agree.of_has (h : Agree b duck s) (hhas : ∀ e, duck.has d e ↔ duck.has s.duck e) :
    Agree b duck { s with duck := d } :=
  ⟨h.oids, h.named, h.distinct, fun e => (hhas e).trans (h.has e)⟩

/-- One relation has another name in both. -/
theorem Agree.update {f : Shell → Shell} {e' : Entry} (h : Agree b duck s) (hf : ∀ shell, (f shell).oid = shell.oid)
    (hshell : shell ∈ s.shells) (he : entryOf b duck s shell = some e)
    (he' : entryOf b duck s (f shell) = some e') (hnew : e' = e ∨ ¬duck.has s.duck e')
    (hhas : ∀ e₁, duck.has d e₁ ↔ duck.has s.duck e₁ ∧ e₁ ≠ e ∨ e₁ = e') :
    Agree b duck { s with shells := updateShell shell.oid f s.shells, duck := d } := by
  -- The other relations have another name than this one, before and after.
  have hother : ∀ shell' ∈ s.shells, shell'.oid ≠ shell.oid → entryOf b duck s shell' ≠ some e' := by
    intro shell' hshell' hne heq
    rcases hnew with rfl | hnot
    · exact hne (congrArg Shell.oid (h.eq_of_entry hshell' hshell heq he))
    · exact hnot ((h.has e').2 ⟨shell', hshell', heq⟩)
  have hthis : ∀ shell' ∈ s.shells, shell'.oid = shell.oid → shell' = shell := fun shell' hshell' heq =>
    h.eq_of_oid hshell' hshell heq
  constructor
  · rw [map_oid_updateShell hf]
    exact h.oids
  · intro shell₁ h₁
    obtain ⟨shell', hshell', rfl⟩ := mem_updateShell.1 h₁
    split
    · next heq =>
      rw [hthis shell' hshell' heq]
      exact ⟨e', he'⟩
    · exact h.named shell' hshell'
  · intro shell₁ h₁ shell₂ h₂ heq
    change entryOf b duck s shell₁ = entryOf b duck s shell₂ at heq
    obtain ⟨a, ha, rfl⟩ := mem_updateShell.1 h₁
    obtain ⟨c, hc, rfl⟩ := mem_updateShell.1 h₂
    split_ifs at heq ⊢ with hao hco hco
    · rw [hthis a ha hao, hthis c hc hco]
    · rw [hthis a ha hao, he'] at heq
      exact absurd heq.symm (hother c hc hco)
    · rw [hthis c hc hco, he'] at heq
      exact absurd heq (hother a ha hao)
    · exact h.distinct a ha c hc heq
  · intro e₁
    rw [hhas, h.has]
    constructor
    · rintro (⟨⟨shell', hshell', heq⟩, hne⟩ | rfl)
      · have hoid : shell'.oid ≠ shell.oid := by
          intro hoid
          rw [hthis shell' hshell' hoid, he] at heq
          exact hne (Option.some.inj heq).symm
        exact ⟨shell', mem_updateShell.2 ⟨shell', hshell', if_neg hoid⟩, heq⟩
      · exact ⟨f shell, mem_updateShell.2 ⟨shell, hshell, if_pos rfl⟩, he'⟩
    · rintro ⟨shell₁, h₁, heq⟩
      change entryOf b duck s shell₁ = some e₁ at heq
      obtain ⟨shell', hshell', rfl⟩ := mem_updateShell.1 h₁
      split_ifs at heq with hoid
      · rw [hthis shell' hshell' hoid, he'] at heq
        exact .inr (Option.some.inj heq).symm
      · refine .inl ⟨⟨shell', hshell', heq⟩, ?_⟩
        rintro rfl
        exact hoid (congrArg Shell.oid (h.eq_of_entry hshell' hshell heq he))

/-- One relation has another name, and DuckDB is not told. -/
theorem agree_update_iff {f : Shell → Shell} (h : Agree b duck s) (hf : ∀ shell, (f shell).oid = shell.oid)
    (hshell : shell ∈ s.shells) : Agree b duck { s with shells := updateShell shell.oid f s.shells } ↔
      entryOf b duck s (f shell) = entryOf b duck s shell := by
  obtain ⟨e, he⟩ := h.named shell hshell
  constructor
  · intro h'
    obtain ⟨shell₁, h₁, heq⟩ := (h'.has e).1 ((h.has e).2 ⟨shell, hshell, he⟩)
    change entryOf b duck s shell₁ = some e at heq
    obtain ⟨shell', hshell', rfl⟩ := mem_updateShell.1 h₁
    split_ifs at heq with hoid
    · rw [h.eq_of_oid hshell' hshell hoid] at heq
      exact heq.trans he.symm
    · exact absurd (congrArg Shell.oid (h.eq_of_entry hshell' hshell heq he)) hoid
  · intro hsame
    refine h.update hf hshell he (hsame.trans he) (.inl rfl) fun e₁ => ?_
    constructor
    · intro hhas
      by_cases heq : e₁ = e
      · exact .inr heq
      · exact .inl ⟨hhas, heq⟩
    · rintro (⟨hhas, -⟩ | rfl)
      · exact hhas
      · exact (h.has e₁).2 ⟨shell, hshell, he⟩

/-! ## Each statement -/

/-- CREATE TABLE keeps the agreement. -/
theorem agree_createTable {relid relnamespace : Oid} {relname : Text} {temporary : Bool} (h : Agree b duck s)
    (hstep : createTable b duck s relid relnamespace relname temporary = some s') : Agree b duck s' := by
  unfold createTable at hstep
  split at hstep
  · cases hstep
  next hnew =>
    split at hstep
    · cases hstep
    · obtain ⟨name, hname, hstep⟩ := Option.bind_eq_some_iff.1 hstep
      obtain ⟨d, hrun, hstep⟩ := Option.bind_eq_some_iff.1 hstep
      cases hstep
      obtain ⟨hnot, hhas⟩ := duck.createTable hrun
      refine h.cons ?_ (entryOf_eq_some.2 ⟨name, hname, rfl⟩) (hnot .table) hhas
      intro shell' hshell' heq
      exact hnew (List.any_eq_true.2 ⟨shell', hshell', decide_eq_true heq⟩)

/-- CREATE VIEW keeps the agreement just when it keeps the names. -/
theorem agree_createView_iff {relid relnamespace : Oid} {relname : Text} {stmt : ViewStmt} {query : Deparsed}
    (h : Agree b duck s) (hstep : createView b duck s relid relnamespace relname stmt query = some s') :
    Agree b duck s' ↔ Keeps b duck s (.createView relid relnamespace relname stmt query) := by
  unfold createView at hstep
  split at hstep
  · cases hstep
  obtain ⟨d, hsend, hstep⟩ := Option.bind_eq_some_iff.1 hstep
  obtain ⟨name, hname, hrun⟩ := Option.bind_eq_some_iff.1
    ((send_view ⟨relid, relnamespace, relname, .view, false, fun h => absurd h Bool.false_ne_true⟩).symm.trans hsend)
  obtain ⟨-, hreplace, hhas⟩ := duck.createView hrun
  have he := entryOf_eq_some.2 ⟨name, hname, (rfl : entry duck.fold .view name = _)⟩
  rw [Keeps, he]
  split at hstep
  next found hfound =>
    split at hstep
    next hview =>
      cases hstep
      -- The view has the name of the one that it replaces.
      have hmem := List.mem_of_find?_eq_some hfound
      obtain ⟨hnamespace, hrelname⟩ : found.relnamespace = relnamespace ∧ found.relname = relname := by
        simpa using List.find?_some hfound
      have hfoundEntry : entryOf b duck s found = some (entry duck.fold .view name) := by
        have htemp : found.temporary = false := by
          cases htemp : found.temporary with
          | false => rfl
          | true =>
            have htable := found.temporary_table htemp
            rw [hview.2] at htable
            cases htable
        rw [← he]
        unfold entryOf nameOf schemaName
        rw [htemp, hview.2, hnamespace, hrelname]
      refine iff_of_true (h.of_has fun e => ?_) fun _ shell hshell hsame => ?_
      · rw [hhas]
        refine or_iff_left_of_imp ?_
        rintro rfl
        exact (h.has _).2 ⟨found, hmem, hfoundEntry⟩
      · rw [h.eq_of_entry hshell hmem hsame hfoundEntry]
        exact ⟨hnamespace, hrelname⟩
    next => cases hstep
  next hnone =>
    split at hstep
    · cases hstep
    next hnew =>
      cases hstep
      have hother : ∀ shell ∈ s.shells, ¬(shell.relnamespace = relnamespace ∧ shell.relname = relname) := by
        intro shell hshell
        simpa using List.find?_eq_none.1 hnone shell hshell
      constructor
      · intro h' _ shell hshell hsame
        have heq := h'.eq_of_entry (List.mem_cons_of_mem _ hshell) List.mem_cons_self hsame he
        rw [heq]
        exact ⟨rfl, rfl⟩
      · intro hkeeps
        have hnot : ¬duck.has s.duck (entry duck.fold .view name) := by
          cases hstmt : stmt.replace with
          | false => exact hreplace hstmt
          | true =>
            intro hthere
            obtain ⟨shell, hshell, hsame⟩ := (h.has _).1 hthere
            exact hother shell hshell (hkeeps hstmt shell hshell hsame)
        refine h.cons ?_ he hnot hhas
        intro shell' hshell' heq
        exact hnew (List.any_eq_true.2 ⟨shell', hshell', decide_eq_true heq⟩)

/-- A relation that DuckDB renames, too. -/
theorem agree_renamed {relid : Oid} {newname : Text} {name : RelationName} (h : Agree b duck s)
    (hfind : s.shells.find? (·.oid = relid) = some shell) (hname : nameOf b s shell = some name)
    (hrun : duck.run (.rename shell.type name newname) s.duck = some d) :
    Agree b duck { s with shells := updateShell relid (·.withName newname) s.shells, duck := d } := by
  obtain ⟨hshell, rfl⟩ := mem_of_find hfind
  obtain ⟨-, hnot, hhas⟩ := duck.rename hrun
  have he := entryOf_eq_some.2 ⟨name, hname, (rfl : entry duck.fold shell.type name = _)⟩
  have he' : entryOf b duck s (shell.withName newname) = some (entry duck.fold shell.type (renamed name newname)) :=
    entryOf_eq_some.2 ⟨renamed name newname, nameOf_withName hname, rfl⟩
  refine h.update (fun _ => rfl) hshell he he' ?_ hhas
  by_cases hsame : duck.fold newname = duck.fold name.relname
  · left
    simp only [entry, renamed, hsame]
  · exact .inr (hnot hsame shell.type)

/-- RENAME keeps the agreement just when it keeps the names. -/
theorem agree_rename_iff {tag : RenameTag} {relid : Oid} {newname : Text} (h : Agree b duck s)
    (hstep : rename b duck s tag relid newname = some s') :
    Agree b duck s' ↔ Keeps b duck s (.rename tag relid newname) := by
  obtain ⟨shell, hfind, hstep⟩ := Option.bind_eq_some_iff.1 hstep
  obtain ⟨hshell, hoid⟩ := mem_of_find hfind
  have hforwarded : tag ≠ .ALTER_INDEX → (do
        let d ← send b duck (.rename (schemaName s shell) shell.relkind (renameStmt shell newname)) s.duck
        return { s with shells := updateShell relid (·.withName newname) s.shells, duck := d }) = some s' →
      (Agree b duck s' ↔ Keeps b duck s (.rename tag relid newname)) := by
    intro hne hstep
    obtain ⟨d, hsend, hstep⟩ := Option.bind_eq_some_iff.1 hstep
    rw [send_rename] at hsend
    obtain ⟨name, hname, hrun⟩ := Option.bind_eq_some_iff.1 hsend
    cases hstep
    exact iff_of_true (agree_renamed h hfind hname hrun) fun heq => absurd heq hne
  cases tag with
  | ALTER_INDEX =>
    cases hstep
    subst hoid
    obtain ⟨e, he⟩ := h.named shell hshell
    obtain ⟨name, hname, rfl⟩ := entryOf_eq_some.1 he
    have he' : entryOf b duck s (shell.withName newname) = some (entry duck.fold shell.type (renamed name newname)) :=
      entryOf_eq_some.2 ⟨renamed name newname, nameOf_withName hname, rfl⟩
    rw [agree_update_iff (f := fun shell => shell.withName newname) h (fun _ => rfl) hshell, he, he', Keeps]
    simp only [Option.some.injEq, entry, renamed, Entry.mk.injEq, true_and, relname_of_nameOf hname, forall_const]
    constructor
    · intro hsame shell' hshell' heq
      rw [h.eq_of_oid hshell' hshell heq]
      exact hsame
    · exact fun hsame => hsame shell hshell rfl
  | ALTER_TABLE => exact hforwarded nofun hstep
  | ALTER_VIEW =>
    cases htype : shell.type with
    | table =>
      simp only [htype] at hstep
      cases hstep
    | view =>
      simp only [htype] at hstep
      exact hforwarded nofun hstep

/-- SET SCHEMA keeps the agreement just when it keeps the names. -/
theorem agree_setSchema_iff {relid relnamespace : Oid} (h : Agree b duck s)
    (hstep : setSchema s relid relnamespace = some s') :
    Agree b duck s' ↔ Keeps b duck s (.setSchema relid relnamespace) := by
  obtain ⟨shell, hfind, hstep⟩ := Option.bind_eq_some_iff.1 hstep
  obtain ⟨hshell, rfl⟩ := mem_of_find hfind
  cases htype : shell.type with
  | table =>
    simp only [htype] at hstep
    cases hstep
  | view =>
    simp only [htype] at hstep
    cases hstep
    rw [agree_update_iff (f := fun shell => shell.withNamespace relnamespace) h (fun _ => rfl) hshell, Keeps]
    constructor
    · intro hsame shell' hshell' heq
      rw [h.eq_of_oid hshell' hshell heq]
      exact hsame
    · exact fun hsame => hsame shell hshell rfl

/-- In another schema, a relation has the database and the schema of that one. -/
theorem entry_of_schema {s₁ s₂ : State σ} {a c : Shell} {e₁ : Entry} (hschema : schemaName s₁ a = schemaName s₂ c)
    (he₁ : entryOf b duck s₁ a = some e₁) : entryOf b duck s₂ c =
      some ⟨c.type, e₁.db_name, e₁.schema_name, duck.fold c.relname⟩ := by
  obtain ⟨name, hname, rfl⟩ := entryOf_eq_some.1 he₁
  unfold nameOf relationName at hname
  rw [entryOf, nameOf, relationName, ← hschema]
  cases hdb : pgduckdb_db_and_schema b.schemas (schemaName s₁ a) (some "duckdb".toList) with
  | error err =>
    rw [hdb] at hname
    cases hname
  | ok pair =>
    rw [hdb] at hname
    cases hname
    rfl

/-- RENAME SCHEMA keeps the agreement just when it keeps the names. -/
theorem agree_renameSchema_iff {relnamespace : Oid} {newname : Text} (h : Agree b duck s)
    (hstep : renameSchema s relnamespace newname = some s') :
    Agree b duck s' ↔ Keeps b duck s (.renameSchema relnamespace newname) := by
  unfold renameSchema at hstep
  split at hstep
  · cases hstep
  cases hstep
  have hschema : ∀ shell, shell.relnamespace ≠ relnamespace →
      schemaName { s with nspname := Function.update s.nspname relnamespace newname } shell = schemaName s shell := by
    intro shell hne
    unfold schemaName
    split
    · rfl
    · exact Function.update_of_ne hne ..
  -- A relation of another schema, and a temporary one, keeps its name.
  have hother : ∀ shell, shell.relnamespace ≠ relnamespace →
      entryOf b duck { s with nspname := Function.update s.nspname relnamespace newname } shell =
        entryOf b duck s shell := by
    intro shell hne
    rw [entryOf, nameOf, hschema shell hne]
    rfl
  rw [Keeps]
  constructor
  · intro h' shell hshell hnamespace
    obtain ⟨e, he⟩ := h.named shell hshell
    obtain ⟨shell', hshell', he'⟩ := (h'.has e).1 ((h.has e).2 ⟨shell, hshell, he⟩)
    change shell' ∈ s.shells at hshell'
    by_cases hsame : shell' = shell
    · rw [← hsame, he', hsame, he]
    -- Another relation has the name now, so it is one of the schema, which has the same name in DuckDB as before.
    have hmoved : shell'.relnamespace = relnamespace := by
      by_contra hne
      rw [hother shell' hne] at he'
      exact hsame (h.eq_of_entry hshell' hshell he' he)
    have htemp' : shell'.temporary = false := by
      cases htemp' : shell'.temporary with
      | false => rfl
      | true =>
        have hkept : entryOf b duck { s with nspname := Function.update s.nspname relnamespace newname } shell' =
            entryOf b duck s shell' := by
          unfold entryOf nameOf schemaName
          rw [htemp']
          rfl
        rw [hkept] at he'
        exact absurd (h.eq_of_entry hshell' hshell he' he) hsame
    cases htemp : shell.temporary with
    | true =>
      unfold entryOf nameOf schemaName
      rw [htemp]
      rfl
    | false =>
      have hsch : schemaName { s with nspname := Function.update s.nspname relnamespace newname } shell' =
          schemaName { s with nspname := Function.update s.nspname relnamespace newname } shell := by
        unfold schemaName
        rw [htemp, htemp', hmoved, hnamespace]
      have hnow := entry_of_schema hsch he'
      have hbefore := entry_of_schema (rfl : schemaName s shell = schemaName s shell) he
      rw [hnow, hbefore]
  · intro hkeeps
    have hsame : ∀ shell ∈ s.shells,
        entryOf b duck { s with nspname := Function.update s.nspname relnamespace newname } shell =
          entryOf b duck s shell := by
      intro shell hshell
      by_cases hnamespace : shell.relnamespace = relnamespace
      · exact hkeeps shell hshell hnamespace
      · exact hother shell hnamespace
    constructor
    · exact h.oids
    · intro shell hshell
      obtain ⟨e, he⟩ := h.named shell hshell
      exact ⟨e, (hsame shell hshell).trans he⟩
    · intro shell hshell shell' hshell' heq
      rw [hsame shell hshell, hsame shell' hshell'] at heq
      exact h.distinct shell hshell shell' hshell' heq
    · intro e
      rw [h.has e]
      refine exists_congr fun shell => and_congr_right fun hshell => ?_
      rw [hsame shell hshell]

/-- What the relations are that are dropped one after the other. -/
theorem has_dropAll {shells : List Shell} (h : dropAll b duck s shells d = some d') :
    duck.has d' e ↔ duck.has d e ∧ ∀ shell ∈ shells, entryOf b duck s shell ≠ some e := by
  induction shells generalizing d with
  | nil =>
    cases h
    simp
  | cons shell shells ih =>
    obtain ⟨d₁, hsend, h⟩ := Option.bind_eq_some_iff.1 h
    obtain ⟨if_exists, heq⟩ := @send_drop _ b duck s d shell
    rw [heq] at hsend
    obtain ⟨name, hname, hrun⟩ := Option.bind_eq_some_iff.1 hsend
    have he := entryOf_eq_some.2 ⟨name, hname, (rfl : entry duck.fold shell.type name = _)⟩
    rw [ih h, duck.drop hrun, List.forall_mem_cons, he, and_assoc, Ne, Ne, Option.some.injEq, eq_comm]

/-- A relation is dropped in both if it is temporary or MotherDuck is enabled. -/
theorem agree_drop_iff {relids : List Oid} (h : Agree b duck s) (hstep : drop b duck s relids = some s') :
    Agree b duck s' ↔ Keeps b duck s (.drop relids) := by
  obtain ⟨d₁, hpermanent, hstep⟩ := Option.bind_eq_some_iff.1 hstep
  obtain ⟨d₂, htemporary, hstep⟩ := Option.bind_eq_some_iff.1 hstep
  cases hstep
  have hhas : ∀ e, duck.has d₂ e ↔ duck.has s.duck e ∧ ∀ shell ∈ s.shells, shell.oid ∈ relids →
      (b.schemas.motherduckEnabled = true ∨ shell.temporary = true) → entryOf b duck s shell ≠ some e := by
    intro e
    rw [has_dropAll htemporary, has_dropAll hpermanent, and_assoc]
    refine and_congr_right fun _ => ?_
    cases henabled : b.schemas.motherduckEnabled with
    | true =>
      simp only [if_true, List.mem_filter, List.contains_iff_mem, decide_eq_true_eq, true_or, forall_const, and_imp]
      constructor
      · rintro ⟨hperm, htemp⟩ shell hshell hoid
        cases ht : shell.temporary with
        | false => exact hperm shell hshell hoid ht
        | true => exact htemp shell hshell hoid ht
      · intro hall
        exact ⟨fun shell hshell hoid _ => hall shell hshell hoid, fun shell hshell hoid _ => hall shell hshell hoid⟩
    | false =>
      simp only [Bool.false_eq_true, if_false, List.not_mem_nil, false_implies, implies_true, true_and,
        List.mem_filter, List.contains_iff_mem, decide_eq_true_eq, and_imp, false_or]
  rw [Keeps]
  constructor
  · intro h' hdisabled shell hshell hoid
    by_contra htemp
    obtain ⟨e, he⟩ := h.named shell hshell
    have hthere : duck.has d₂ e := by
      rw [hhas, h.has]
      refine ⟨⟨shell, hshell, he⟩, fun shell' hshell' _ hor he' => ?_⟩
      rw [h.eq_of_entry hshell' hshell he' he, hdisabled] at hor
      exact hor.elim Bool.false_ne_true htemp
    obtain ⟨shell', hshell', he'⟩ := (h'.has e).1 hthere
    obtain ⟨hmem, hkept⟩ := List.mem_filter.1 hshell'
    rw [h.eq_of_entry hmem hshell he' he] at hkept
    simp [hoid] at hkept
  · intro hkeeps
    have hdropped : ∀ shell ∈ s.shells, shell.oid ∈ relids →
        (b.schemas.motherduckEnabled = true ∨ shell.temporary = true) := by
      intro shell hshell hoid
      cases henabled : b.schemas.motherduckEnabled with
      | true => exact .inl rfl
      | false => exact .inr (hkeeps henabled shell hshell hoid)
    constructor
    · exact h.oids.sublist (List.filter_sublist.map _)
    · intro shell hshell
      exact h.named shell (List.mem_of_mem_filter hshell)
    · intro shell hshell shell' hshell' heq
      exact h.distinct shell (List.mem_of_mem_filter hshell) shell' (List.mem_of_mem_filter hshell') heq
    · intro e
      rw [hhas, h.has]
      constructor
      · rintro ⟨⟨shell, hshell, he⟩, hnot⟩
        refine ⟨shell, List.mem_filter.2 ⟨hshell, ?_⟩, he⟩
        by_contra hoid
        have hmem : shell.oid ∈ relids := by simpa using hoid
        exact hnot shell hshell hmem (hdropped shell hshell hmem) he
      · rintro ⟨shell, hshell, he⟩
        obtain ⟨hmem, hkept⟩ := List.mem_filter.1 hshell
        refine ⟨⟨shell, hmem, he⟩, fun shell' hshell' hoid _ he' => ?_⟩
        rw [h.eq_of_entry hshell' hmem he' he] at hoid
        simp [hoid] at hkept

/-- A statement that succeeds. -/
theorem agree_step_iff {command : Command} (h : Agree b duck s) (hstep : step b duck s command = some s') :
    Agree b duck s' ↔ Keeps b duck s command := by
  cases command with
  | createTable relid relnamespace relname temporary => exact iff_of_true (agree_createTable h hstep) trivial
  | createView relid relnamespace relname stmt duckdb_query_string => exact agree_createView_iff h hstep
  | rename tag relid newname => exact agree_rename_iff h hstep
  | drop relids => exact agree_drop_iff h hstep
  | renameSchema relnamespace newname => exact agree_renameSchema_iff h hstep
  | setSchema relid relnamespace => exact agree_setSchema_iff h hstep

/-- Or one that fails. -/
theorem agree_execute_iff {command : Command} (h : Agree b duck s) :
    Agree b duck (execute b duck s command) ↔ ((step b duck s command).isSome = true → Keeps b duck s command) := by
  unfold execute
  cases hstep : step b duck s command with
  | none => exact iff_of_true h nofun
  | some s' => exact (agree_step_iff h hstep).trans ⟨fun hkeeps _ => hkeeps, fun hkeeps => hkeeps rfl⟩

/-- In a session that starts with the same relations in both catalogs, they are the same ones under the same names
after each of its statements exactly if each that succeeds keeps the names. -/
theorem agree_run_iff {σ : Type} (b : Backend) (duck : DuckDB σ) (s : State σ) (commands : List Command)
    (h : Agree b duck s) : (∀ before, before <+: commands → Agree b duck (before.foldl (execute b duck) s)) ↔
      Lib.StepsOk (execute b duck)
        (fun s command => (step b duck s command).isSome = true → Keeps b duck s command) s commands :=
  (Lib.StepsOk.iff_invariant h fun _ _ => agree_execute_iff).symm

end

/-! ## A session -/

/-- Capital letters count for small ones. -/
def lower (w : Text) : Text := w.map Char.toLower

/-- Neither a table nor a view has the name. -/
def free (d : List Entry) (name : RelationName) : Bool :=
  !d.contains (entry lower .table name) && !d.contains (entry lower .view name)

/-- What a statement does to a list of relations. -/
def runList (d : List Entry) : Change → Option (List Entry)
  | .createTable name => if free d name then some (entry lower .table name :: d) else none
  | .createView replace name =>
    if free d name then some (entry lower .view name :: d)
    else if replace && d.contains (entry lower .view name) && !d.contains (entry lower .table name) then some d
    else none
  | .rename type name newname =>
    if d.contains (entry lower type name) && (lower newname = lower name.relname || free d (renamed name newname)) then
      some (entry lower type (renamed name newname) :: d.filter (· ≠ entry lower type name))
    else none
  | .drop type if_exists name =>
    if if_exists || d.contains (entry lower type name) then some (d.filter (· ≠ entry lower type name)) else none

/-- A free name has no entry. -/
theorem not_mem_of_free {d : List Entry} {name : RelationName} (h : free d name = true) (type : RelationType) :
    entry lower type name ∉ d := by
  simp only [free, Bool.and_eq_true, Bool.not_eq_true', List.contains_eq_mem, decide_eq_false_iff_not] at h
  cases type with
  | table => exact h.1
  | view => exact h.2

/-- The relations are in a list. -/
def listed : DuckDB (List Entry) where
  fold := lower
  has d e := e ∈ d
  run change d := runList d change
  createTable {name d d'} h := by
    obtain ⟨hfree, heq⟩ := Option.ite_none_right_eq_some.1 h
    cases heq
    exact ⟨not_mem_of_free hfree, fun e => by rw [List.mem_cons, or_comm]⟩
  createView {replace name d d'} h := by
    simp only [runList] at h
    split at h
    next hfree =>
      cases h
      exact ⟨not_mem_of_free hfree .table, fun _ => not_mem_of_free hfree .view,
        fun e => by rw [List.mem_cons, or_comm]⟩
    next =>
      obtain ⟨hreplace, heq⟩ := Option.ite_none_right_eq_some.1 h
      cases heq
      simp only [Bool.and_eq_true, List.contains_eq_mem, decide_eq_true_eq, Bool.not_eq_true',
        decide_eq_false_iff_not] at hreplace
      refine ⟨hreplace.2, fun hnot => ?_, fun e => ?_⟩
      · rw [hnot] at hreplace
        cases hreplace.1.1
      · refine (or_iff_left_of_imp ?_).symm
        rintro rfl
        exact hreplace.1.2
  rename {type name newname d d'} h := by
    obtain ⟨hrename, heq⟩ := Option.ite_none_right_eq_some.1 h
    cases heq
    simp only [Bool.and_eq_true, List.contains_eq_mem, decide_eq_true_eq, Bool.or_eq_true] at hrename
    refine ⟨hrename.1, fun hne => not_mem_of_free (hrename.2.resolve_left hne), fun e => ?_⟩
    rw [List.mem_cons, List.mem_filter, decide_eq_true_eq, or_comm]
  drop {type if_exists name d d'} h := by
    obtain ⟨-, heq⟩ := Option.ite_none_right_eq_some.1 h
    cases heq
    intro e
    rw [List.mem_filter, decide_eq_true_eq]

/-- No relations are there. -/
def nothing : State (List Entry) := ⟨fun _ => "sales".toList, [], []⟩

/-- The example starts in agreement. -/
theorem agree_nothing : Agree Copy.backend listed nothing where
  oids := List.nodup_nil
  named := nofun
  distinct := nofun
  has _ := iff_of_false List.not_mem_nil nofun

/-- A table is made and renamed, and a view gets the name that it had. -/
def renames : List Command :=
  [.createTable 16384 2200 "t".toList false, .rename .ALTER_TABLE 16384 "u".toList,
    .createView 16390 2200 "t".toList ⟨[], true⟩ RelationStatements.selectOne, .drop [16384]]

/-- The renames of the example keep the agreement. -/
theorem agree_run_renames : Agree Copy.backend listed (renames.foldl (execute Copy.backend listed) nothing) := by
  refine (agree_run_iff Copy.backend listed nothing renames agree_nothing).2 ⟨?_, ?_, ?_, ?_, trivial⟩ renames
    List.prefix_rfl
  · exact fun _ => trivial
  · exact fun _ => nofun
  · intro _ _ shell hshell hentry
    cases List.mem_singleton.1 hshell
    revert hentry
    decide +kernel
  · exact fun _ => nofun

end PgDuckdb.Shells
