import PgDuckdb.Copy.Statement

/-!
# Tables of DuckDB that PostgreSQL copies

Where a `COPY` from a table of DuckDB is left to PostgreSQL, `SELECT * FROM` the table takes the place of the
relation. The name in it has no schema, so it is looked up again, along the search path.
`copiesTable_iff` says for which tables that leads back to them.
-/

namespace PgDuckdb.Copy

open Pg (Text Keywords quote_identifier)

section
variable {b : Backend} {relname : Text} {relid : Oid} {stmt stmt' : CopyStmt} {relation : RangeVar}

/-- The query is read as a query on the name alone. -/
theorem rawParser_selectQuery :
    rawParser b (selectQuery b relid) = some (.selectStar ⟨none, none, b.N.get_rel_name relid⟩) := by
  obtain ⟨t, hlex, ht⟩ := @Pg.lex_quote_identifier b.K (b.N.get_rel_name relid)
  have hselect : Pg.lex "SELECT * FROM".toList =
      some [.word "select".toList, .op "*".toList, .word "from".toList] := rfl
  have hquery : Pg.lex (selectQuery b relid) =
      some [.word "select".toList, .op "*".toList, .word "from".toList, t] := Pg.lex_spaced hselect hlex
  have hname : relationName b t = some (b.N.get_rel_name relid) := by
    rcases ht with rfl | ⟨rfl, hquoted⟩
    · rfl
    · rw [relationName, hquoted]
      rfl
  rw [rawParser, hquery]
  show (if _ then (relationName b t).map _ else _) = _
  rw [if_pos ⟨rfl, rfl, rfl⟩, hname]
  rfl

/-- The text of a statement on a relation is made, or an error is thrown. -/
theorem copyText_relation {needs_duckdb_execution : Bool} (hsource : stmt.source = .relation relation) :
    copyText b stmt needs_duckdb_execution ≠ .ok none := by
  intro h
  have hnone := copyText_eq_none h
  rw [appendSource_relation hsource, Lib.map_eq_ok] at hnone
  obtain ⟨source, -, heq⟩ := hnone
  cases heq

/-- A statement on a relation without a text is left to PostgreSQL. -/
theorem fallback_of_none (hsource : stmt.source = .relation relation)
    (h : MakeDuckdbCopyQuery b stmt = .ok (none, stmt')) : fallback b stmt = .ok stmt' := by
  rw [MakeDuckdbCopyQuery] at h
  obtain ⟨⟨for_duckdb, needs_duckdb_execution⟩, -, h⟩ := Lib.bind_eq_ok.1 h
  change (if for_duckdb = true then _ else _) = _ at h
  split at h
  · obtain ⟨text, htext, heq⟩ := Lib.bind_eq_ok.1 h
    cases heq
    exact absurd htext (copyText_relation hsource)
  · obtain ⟨left, hleft, heq⟩ := Lib.bind_eq_ok.1 h
    cases heq
    exact hleft

/-- What PostgreSQL is given for a table of DuckDB. -/
theorem fallback_eq (hsource : stmt.source = .relation relation) (hto : stmt.is_from = false)
    (hrelid : b.N.RangeVarGetRelid relation = some relid) (hduckdb : b.IsDuckdbTable relid = true) :
    fallback b stmt =
      .ok { stmt with source := .query (.selectStar ⟨none, none, b.N.get_rel_name relid⟩) } := by
  have hopen : table_openrv b relation = .ok relid := by
    rw [table_openrv, hrelid]
  rw [fallback, hsource, hto]
  change (table_openrv b relation >>= _) = _
  rw [hopen]
  change (if b.IsDuckdbTable relid = true then _ else _) = _
  rw [if_pos hduckdb, rawParser_selectQuery]
  rfl

end

/-- The statement copies a query on the relation. -/
def ReadsTable (b : Backend) (stmt : CopyStmt) (relid : Oid) : Prop :=
  ∃ relation, stmt.source = .query (.selectStar relation) ∧ b.N.RangeVarGetRelid relation = some relid

/-- A table of DuckDB that is left to PostgreSQL is the one that is copied exactly if no schema before its own on
the search path has a relation of the name, and its own schema is on the path. -/
theorem copiesTable_iff (b : Backend) {stmt stmt' : CopyStmt} {relation : RangeVar} {relid : Oid}
    (hsource : stmt.source = .relation relation) (hto : stmt.is_from = false)
    (hrelid : b.N.RangeVarGetRelid relation = some relid) (hduckdb : b.IsDuckdbTable relid = true)
    (hfallback : MakeDuckdbCopyQuery b stmt = .ok (none, stmt')) :
    ReadsTable b stmt' relid ↔ b.N.Visible relid := by
  have hleft := fallback_of_none hsource hfallback
  rw [fallback_eq hsource hto hrelid hduckdb] at hleft
  cases hleft
  rw [← Namespaces.RelnameGetRelid_iff (Namespaces.get_rel_name_of_RangeVarGetRelid hrelid).2]
  constructor
  · rintro ⟨relation', heq, hfound⟩
    cases heq
    exact hfound
  · exact fun hfound => ⟨_, rfl, hfound⟩

/-- The schemas `public` and `sales`, of which the first one is on the search path, and a relation `t` in each. -/
def twoSchemas : Namespaces where
  search_path := ["$user".toList, "public".toList]
  rolname := "alice".toList
  MyDatabase := "postgres".toList
  get_namespace_oid nspname :=
    if nspname = "public".toList then some 2200 else if nspname = "sales".toList then some 16400 else none
  usage _ := true
  myTempNamespace := none
  get_relname_relid relname namespaceId :=
    if relname = "t".toList ∧ namespaceId = 2200 then some 16384
    else if relname = "t".toList ∧ namespaceId = 16400 then some 16385
    else none
  get_namespace_name namespaceId := if namespaceId = 2200 then "public".toList else "sales".toList
  get_rel_name _ := "t".toList
  relnamespace relid := if relid = 16384 then 2200 else 16400
  relation_of_relid h := by
    split at h
    next hfirst =>
      cases h
      exact ⟨hfirst.1.symm, hfirst.2.symm⟩
    next =>
      split at h
      next hsecond =>
        cases h
        exact ⟨hsecond.1.symm, hsecond.2.symm⟩
      next => cases h

/-- A reserved word is among the reserved words. -/
theorem any_reservedWords : ∀ w ∈ Pg.reservedWords, Pg.reservedWords.any (· = w) = true := by
  intro w hw
  rw [List.any_eq_true]
  exact ⟨w, hw, decide_eq_true rfl⟩

/-- A backend in which both of them are tables of DuckDB. -/
def backend : Backend where
  K := { quoted := fun w => Pg.reservedWords.any (· = w), reserved := any_reservedWords }
  N := twoSchemas
  schemas := { motherduckEnabled := true, defaultDbName := "my_db".toList }
  acl :=
    { GetUserId := 10
      columns := fun _ => [1, 2]
      pg_class_aclcheck := fun _ _ _ => true
      pg_attribute_aclcheck := fun _ _ _ _ => false }
  duckdb_force_execution := false
  DuckdbTableAmGetName _ := some "duckdb".toList
  IsDuckdbOnlyFunction _ := false
  DidDisallowedMixedWrites := false
  executor_nest_level := 0
  duckdb_unsafe_allow_execution_inside_functions := false
  avoidsDuckdb := false
  AllowWrites := true
  rlsEnabled _ := false
  pg_analyze_and_rewrite _ := .ok []
  CreatePlan _ := true
  standard_planner _ := .ok ()
  pgduckdb_get_querydef _ := .ok []

/-- `COPY schema.t TO '/tmp/t.csv'`. -/
def copyToFile (schemaname : Text) : CopyStmt where
  source := .relation ⟨none, some schemaname, "t".toList⟩
  attlist := []
  is_from := false
  filename := some "/tmp/t.csv".toList
  options := []

/-- The statement with the query that replaces the relation. -/
def selectToFile : CopyStmt := { copyToFile [] with source := .query (.selectStar ⟨none, none, "t".toList⟩) }

/-- The table of the example is found just when its name is in sight. -/
theorem copiesTable_public : ReadsTable backend selectToFile 16384 ↔ backend.N.Visible 16384 := by
  have hsource : (copyToFile "public".toList).source = .relation ⟨none, some "public".toList, "t".toList⟩ := rfl
  exact copiesTable_iff backend hsource rfl rfl rfl rfl

/-- `sales.t` is a table of DuckDB, and `public.t` is copied. -/
theorem not_copiesTable_sales :
    backend.N.RangeVarGetRelid ⟨none, some "sales".toList, "t".toList⟩ = some 16385 ∧
      backend.IsDuckdbTable 16385 = true ∧
      MakeDuckdbCopyQuery backend (copyToFile "sales".toList) = .ok (none, selectToFile) ∧
      ¬ReadsTable backend selectToFile 16385 := by
  refine ⟨rfl, rfl, rfl, ?_⟩
  rintro ⟨relation, heq, hfound⟩
  cases heq
  cases hfound

end PgDuckdb.Copy
