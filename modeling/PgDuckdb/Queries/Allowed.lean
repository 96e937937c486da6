import PgDuckdb.Lib.Except
import PgDuckdb.Queries.Tree

/-!
# Statements that DuckDB may execute

DuckDB has a `pg_catalog` of its own, so a query on PostgreSQL's must not be given to it. `IsAllowedStatement`
looks for catalog tables with `ContainsCatalogTable`, which goes through range tables and the subqueries in them
(`pgduckdb_hooks.cpp`). It enters neither common table expressions nor expressions, as `ContainsDuckdbItems` does,
the walk in the same file that looks for tables of DuckDB.

`ContainsCatalogTable_iff` and `ContainsDuckdbItems_of_entry` have what the two find, and `refusesCatalog_iff` says
which statements on catalog tables are refused.
-/

namespace PgDuckdb.Queries

/-- The namespace of the catalog. -/
def PG_CATALOG_NAMESPACE : Oid := 11

/-- The namespace of the large values. -/
def PG_TOAST_NAMESPACE : Oid := 99

/-- What the hooks know of the backend. -/
structure Backend where
  RelationGetNamespace : Oid → Oid
  IsDuckdbTable : Oid → Bool
  IsDuckdbOnlyFunction : Oid → Bool
  DidDisallowedMixedWrites : Bool
  executor_nest_level : ℕ
  duckdb_unsafe_allow_execution_inside_functions : Bool

variable (b : Backend)

/-! ## The walks -/

/-- A table of the catalog. -/
def Backend.IsCatalogTable (relid : Oid) : Bool :=
  b.RelationGetNamespace relid = PG_CATALOG_NAMESPACE || b.RelationGetNamespace relid = PG_TOAST_NAMESPACE

mutual

/-- A table of the catalog is in the range table, or in a subquery of it. -/
def ContainsCatalogTable : List RangeTblEntry → Bool
  | [] => false
  | .RTE_SUBQUERY relation subquery _ :: rtes =>
    subqueryContainsCatalogTable subquery || (relation.relid != 0 && b.IsCatalogTable relation.relid) ||
      ContainsCatalogTable rtes
  | .other _ relation _ :: rtes =>
    (relation.relid != 0 && b.IsCatalogTable relation.relid) || ContainsCatalogTable rtes

/-- A table of the catalog is in the query's range table. -/
def subqueryContainsCatalogTable : Query → Bool
  | .mk _ _ _ rtable _ _ _ => ContainsCatalogTable rtable

end

/-- A table of DuckDB is in the range table. -/
def ContainsDuckdbTables (rte_list : List RangeTblEntry) : Bool :=
  rte_list.any fun rte => b.IsDuckdbTable rte.relation.relid

mutual

/-- `ContainsDuckdbItems` of a query, with `query_tree_walker`. -/
def queryContainsDuckdbItems : Query → Bool
  | .mk _ _ _ rtable _ cteList nodes =>
    ContainsDuckdbTables b rtable || nodesContainDuckdbItems nodes || queriesContainDuckdbItems cteList ||
      rtesContainDuckdbItems rtable

/-- Something of DuckDB is in one of the queries. -/
def queriesContainDuckdbItems : List Query → Bool
  | [] => false
  | query :: queries => queryContainsDuckdbItems query || queriesContainDuckdbItems queries

/-- Something of DuckDB is in one of the range tables. -/
def rtesContainDuckdbItems : List RangeTblEntry → Bool
  | [] => false
  | .RTE_SUBQUERY _ subquery nodes :: rtes =>
    queryContainsDuckdbItems subquery || nodesContainDuckdbItems nodes || rtesContainDuckdbItems rtes
  | .other _ _ nodes :: rtes => nodesContainDuckdbItems nodes || rtesContainDuckdbItems rtes

/-- `ContainsDuckdbItems` of another node, with `expression_tree_walker`. -/
def ContainsDuckdbItems : Node → Bool
  | .SubLink testexpr subselect => nodesContainDuckdbItems testexpr || queryContainsDuckdbItems subselect
  | .FuncExpr funcid args => b.IsDuckdbOnlyFunction funcid || nodesContainDuckdbItems args
  | .Aggref aggfnoid args => b.IsDuckdbOnlyFunction aggfnoid || nodesContainDuckdbItems args
  | .other children => nodesContainDuckdbItems children

/-- Something of DuckDB is in one of the expressions. -/
def nodesContainDuckdbItems : List Node → Bool
  | [] => false
  | node :: nodes => ContainsDuckdbItems node || nodesContainDuckdbItems nodes

end

/-! ## The check -/

/-- `elog(elevel, ...)`, and `false` if it returns. -/
def disallowed (throw_error : Bool) (errmsg : String) : Except String Bool :=
  if throw_error then .error errmsg else .ok false

/-- The table that a statement other than `SELECT` writes to, if it has one, is not of DuckDB. -/
def writesPostgresTable (query : Query) : Bool :=
  (query.rtable[query.resultRelation - 1]?).any fun resultRte => !b.IsDuckdbTable resultRte.relation.relid

/-- `IsAllowedStatement`. -/
def IsAllowedStatement (query : Query) (throw_error : Bool) : Except String Bool :=
  if query.hasModifyingCTE then disallowed throw_error "DuckDB does not support modifying CTEs"
  else if query.commandType ≠ .CMD_SELECT && writesPostgresTable b query then
    disallowed throw_error "DuckDB does not support modififying Postgres tables"
  else if query.commandType ≠ .CMD_SELECT && b.DidDisallowedMixedWrites then
    disallowed throw_error
      "Writing to DuckDB and Postgres tables in the same transaction block is not supported"
  else if b.executor_nest_level > 0 && !b.duckdb_unsafe_allow_execution_inside_functions then
    disallowed throw_error "DuckDB execution is not supported inside functions"
  else if ContainsCatalogTable b query.rtable then
    disallowed throw_error "DuckDB does not support querying PG catalog tables"
  else .ok true

/-! ## What is expected -/

/-- An entry that refers to a relation in `pg_catalog` or `pg_toast`. -/
def Backend.refersToCatalog (e : Entry) : Bool :=
  e.relation.relid != 0 && b.IsCatalogTable e.relation.relid

/-- The statement is not allowed, or an error is thrown. -/
def Refused (query : Query) : Prop := ∀ throw_error, IsAllowedStatement b query throw_error ≠ .ok true

/-- A statement that refers to a catalog table anywhere is refused. -/
def RefusesCatalog (query : Query) : Prop :=
  (∃ e ∈ query.allEntries, b.refersToCatalog e = true) → Refused b query

/-- The statement is refused whatever it refers to. -/
def RefusedAnyway (query : Query) : Prop :=
  query.hasModifyingCTE = true ∨
    (query.commandType ≠ .CMD_SELECT ∧ (writesPostgresTable b query = true ∨ b.DidDisallowedMixedWrites = true)) ∨
    (b.executor_nest_level > 0 ∧ b.duckdb_unsafe_allow_execution_inside_functions = false)

/-! ## What the walks find -/

section
variable {b}

mutual

/-- The walk of the range table finds a table of the catalog where one of its entries is. -/
theorem containsCatalogTable_eq : ∀ (rtes : List RangeTblEntry) (rteperminfos : List RTEPermissionInfo),
    ContainsCatalogTable b rtes = (rteEntries false false rteperminfos rtes).any b.refersToCatalog
  | [], _ => rfl
  | .RTE_SUBQUERY relation subquery nodes :: rtes, rteperminfos => by
    rw [ContainsCatalogTable, subqueryContainsCatalogTable_eq subquery, containsCatalogTable_eq rtes rteperminfos]
    simp only [rteEntries, List.any_cons, List.any_append, Bool.false_eq_true, if_false, List.any_nil,
      Bool.or_false]
    rw [Bool.or_comm (subquery.fromEntries.any _), Bool.or_assoc]
    rfl
  | .other _ relation nodes :: rtes, rteperminfos => by
    rw [ContainsCatalogTable, containsCatalogTable_eq rtes rteperminfos]
    simp only [rteEntries, List.any_cons, List.any_append, Bool.false_eq_true, if_false, List.any_nil,
      Bool.false_or]
    rfl

/-- The walk of the query finds a table of the catalog where one of its entries is. -/
theorem subqueryContainsCatalogTable_eq : ∀ query : Query,
    subqueryContainsCatalogTable b query = query.fromEntries.any b.refersToCatalog
  | .mk _ _ _ rtable rteperminfos cteList nodes => by
    rw [subqueryContainsCatalogTable, containsCatalogTable_eq rtable rteperminfos]
    simp only [Query.fromEntries, Query.entries, Bool.false_eq_true, if_false, List.append_nil]

end

/-- Catalog tables are found through the range tables alone. -/
theorem ContainsCatalogTable_iff {query : Query} :
    ContainsCatalogTable b query.rtable = true ↔ ∃ e ∈ query.fromEntries, b.refersToCatalog e = true := by
  rw [← List.any_eq_true, ← subqueryContainsCatalogTable_eq]
  cases query with
  | mk _ _ _ rtable _ _ _ =>
    rw [subqueryContainsCatalogTable]
    rfl

mutual

/-- A table of DuckDB anywhere in a query is found. -/
theorem queryContainsDuckdbItems_of_entry : ∀ (query : Query) {e : Entry}, e ∈ query.allEntries →
    b.IsDuckdbTable e.relation.relid = true → queryContainsDuckdbItems b query = true
  | .mk _ _ _ rtable rteperminfos cteList nodes, e, he, hduck => by
    simp only [Query.allEntries, Query.entries, if_true, List.mem_append] at he
    simp only [queryContainsDuckdbItems, Bool.or_eq_true]
    rcases he with (he | he) | he
    · rcases rtesContainDuckdbItems_of_entry rtable rteperminfos he hduck with h | h
      · exact .inl (.inl (.inl h))
      · exact .inr h
    · exact .inl (.inr (queriesContainDuckdbItems_of_entry cteList he hduck))
    · exact .inl (.inl (.inr (nodesContainDuckdbItems_of_entry nodes he hduck)))

/-- A table of DuckDB anywhere in the queries is found. -/
theorem queriesContainDuckdbItems_of_entry : ∀ (queries : List Query) {e : Entry},
    e ∈ queryEntries true true queries → b.IsDuckdbTable e.relation.relid = true →
    queriesContainDuckdbItems b queries = true
  | query :: queries, e, he, hduck => by
    simp only [queryEntries, List.mem_append] at he
    simp only [queriesContainDuckdbItems, Bool.or_eq_true]
    exact he.imp (queryContainsDuckdbItems_of_entry query · hduck)
      (queriesContainDuckdbItems_of_entry queries · hduck)

/-- An entry of the range table itself is found in it, and one below it by the walk. -/
theorem rtesContainDuckdbItems_of_entry : ∀ (rtes : List RangeTblEntry)
    (rteperminfos : List RTEPermissionInfo) {e : Entry}, e ∈ rteEntries true true rteperminfos rtes →
    b.IsDuckdbTable e.relation.relid = true →
    ContainsDuckdbTables b rtes = true ∨ rtesContainDuckdbItems b rtes = true
  | .RTE_SUBQUERY relation subquery nodes :: rtes, rteperminfos, e, he, hduck => by
    simp only [rteEntries, if_true, List.mem_cons, List.mem_append] at he
    simp only [ContainsDuckdbTables, List.any_cons, rtesContainDuckdbItems, Bool.or_eq_true]
    rcases he with rfl | (he | he) | he
    · exact .inl (.inl hduck)
    · exact .inr (.inl (.inl (queryContainsDuckdbItems_of_entry subquery he hduck)))
    · exact .inr (.inl (.inr (nodesContainDuckdbItems_of_entry nodes he hduck)))
    · exact (rtesContainDuckdbItems_of_entry rtes rteperminfos he hduck).imp .inr .inr
  | .other _ relation nodes :: rtes, rteperminfos, e, he, hduck => by
    simp only [rteEntries, if_true, List.mem_cons, List.mem_append] at he
    simp only [ContainsDuckdbTables, List.any_cons, rtesContainDuckdbItems, Bool.or_eq_true]
    rcases he with rfl | he | he
    · exact .inl (.inl hduck)
    · exact .inr (.inl (nodesContainDuckdbItems_of_entry nodes he hduck))
    · exact (rtesContainDuckdbItems_of_entry rtes rteperminfos he hduck).imp .inr .inr

/-- A table of DuckDB anywhere in an expression is found. -/
theorem containsDuckdbItems_of_entry : ∀ (node : Node) {e : Entry}, e ∈ node.entries true true →
    b.IsDuckdbTable e.relation.relid = true → ContainsDuckdbItems b node = true
  | .SubLink testexpr subselect, e, he, hduck => by
    simp only [Node.entries, List.mem_append] at he
    simp only [ContainsDuckdbItems, Bool.or_eq_true]
    exact he.imp (nodesContainDuckdbItems_of_entry testexpr · hduck)
      (queryContainsDuckdbItems_of_entry subselect · hduck)
  | .FuncExpr funcid args, e, he, hduck => by
    simp only [ContainsDuckdbItems, Bool.or_eq_true]
    exact .inr (nodesContainDuckdbItems_of_entry args he hduck)
  | .Aggref aggfnoid args, e, he, hduck => by
    simp only [ContainsDuckdbItems, Bool.or_eq_true]
    exact .inr (nodesContainDuckdbItems_of_entry args he hduck)
  | .other children, e, he, hduck => nodesContainDuckdbItems_of_entry children he hduck

/-- A table of DuckDB anywhere in the expressions is found. -/
theorem nodesContainDuckdbItems_of_entry : ∀ (nodes : List Node) {e : Entry},
    e ∈ nodeEntries true true nodes → b.IsDuckdbTable e.relation.relid = true →
    nodesContainDuckdbItems b nodes = true
  | node :: nodes, e, he, hduck => by
    simp only [nodeEntries, List.mem_append] at he
    simp only [nodesContainDuckdbItems, Bool.or_eq_true]
    exact he.imp (containsDuckdbItems_of_entry node · hduck) (nodesContainDuckdbItems_of_entry nodes · hduck)

end

/-! ## Catalog tables -/

/-- A refusal is not a yes. -/
theorem disallowed_ne {throw_error : Bool} {errmsg : String} : disallowed throw_error errmsg ≠ .ok true := by
  cases throw_error <;> nofun

/-- What is refused. -/
theorem refused_iff {query : Query} :
    Refused b query ↔ RefusedAnyway b query ∨ ContainsCatalogTable b query.rtable = true := by
  constructor
  · intro h
    by_contra hnot
    rw [not_or] at hnot
    obtain ⟨hanyway, hcatalog⟩ := hnot
    simp only [RefusedAnyway, not_or, not_and, Bool.not_eq_true, Bool.not_eq_false] at hanyway
    obtain ⟨hcte, hwrite, hnest⟩ := hanyway
    refine h true ?_
    have hwrites : (decide (query.commandType ≠ .CMD_SELECT) && writesPostgresTable b query) = false := by
      by_cases hselect : query.commandType = .CMD_SELECT
      · simp [hselect]
      · simp [(hwrite hselect).1]
    have hmixed : (decide (query.commandType ≠ .CMD_SELECT) && b.DidDisallowedMixedWrites) = false := by
      by_cases hselect : query.commandType = .CMD_SELECT
      · simp [hselect]
      · simp [(hwrite hselect).2]
    have hfunction : (decide (b.executor_nest_level > 0) &&
        !b.duckdb_unsafe_allow_execution_inside_functions) = false := by
      by_cases hlevel : b.executor_nest_level > 0
      · simp [hnest hlevel]
      · simp [hlevel]
    rw [IsAllowedStatement, hcte, hwrites, hmixed, hfunction, Bool.eq_false_iff.2 hcatalog]
    rfl
  · intro h throw_error
    unfold IsAllowedStatement
    split
    · exact disallowed_ne
    split
    · exact disallowed_ne
    split
    · exact disallowed_ne
    split
    · exact disallowed_ne
    split
    · exact disallowed_ne
    next hcte hwrites hmixed hfunction hcatalog =>
      exfalso
      simp only [Bool.and_eq_true, decide_eq_true_eq, not_and, Bool.not_eq_true, Bool.not_eq_eq_eq_not,
        Bool.not_true] at hcte hwrites hmixed hfunction
      rcases h with (h | ⟨hselect, h | h⟩ | ⟨hlevel, h⟩) | h
      · rw [hcte] at h
        cases h
      · rw [hwrites hselect] at h
        cases h
      · rw [hmixed hselect] at h
        cases h
      · exact hfunction hlevel h
      · exact hcatalog h

end

/-- Statements on catalog tables are refused exactly if they are refused anyway, or if a catalog table is reached
through the range tables alone. -/
theorem refusesCatalog_iff (b : Backend) (query : Query) :
    RefusesCatalog b query ↔
      ((∃ e ∈ query.allEntries, b.refersToCatalog e = true) →
        RefusedAnyway b query ∨ ∃ e ∈ query.fromEntries, b.refersToCatalog e = true) := by
  refine imp_congr_right fun _ => ?_
  rw [refused_iff, ContainsCatalogTable_iff]

/-- A backend with the relation 1259 in `pg_catalog`. -/
def plainBackend : Backend where
  RelationGetNamespace := fun relid => if relid = 1259 then PG_CATALOG_NAMESPACE else 2200
  IsDuckdbTable := fun _ => false
  IsDuckdbOnlyFunction := fun _ => false
  DidDisallowedMixedWrites := false
  executor_nest_level := 0
  duckdb_unsafe_allow_execution_inside_functions := false

/-- What a query asks for that reads the first column of a relation. -/
def readsFirst (relid : Oid) : RTEPermissionInfo := ⟨relid, [.ACL_SELECT], none, [1], [], []⟩

/-- `SELECT oid FROM pg_class`. -/
def selectFromCatalog : Query :=
  .mk .CMD_SELECT false 0 [.other .RTE_RELATION ⟨1259, .RELKIND_RELATION, 1⟩ []] [readsFirst 1259] [] []

/-- `WITH c AS (SELECT oid FROM pg_class) SELECT oid FROM c`. -/
def selectFromCte : Query :=
  .mk .CMD_SELECT false 0 [.other .RTE_CTE ⟨0, .RELKIND_RELATION, 0⟩ []] [] [selectFromCatalog] []

/-- `SELECT a FROM t WHERE EXISTS (SELECT oid FROM pg_class)`. -/
def selectWhereExists : Query :=
  .mk .CMD_SELECT false 0 [.other .RTE_RELATION ⟨16384, .RELKIND_RELATION, 1⟩ []] [readsFirst 16384] []
    [.SubLink [] selectFromCatalog]

/-- Both refer to a catalog table, and are allowed. -/
theorem not_refusesCatalog :
    ¬RefusesCatalog plainBackend selectFromCte ∧ ¬RefusesCatalog plainBackend selectWhereExists := by
  constructor
  · intro h
    exact h ⟨⟨⟨1259, .RELKIND_RELATION, 1⟩, [readsFirst 1259]⟩, by decide, by decide⟩ false rfl
  · intro h
    exact h ⟨⟨⟨1259, .RELKIND_RELATION, 1⟩, [readsFirst 1259]⟩, by decide, by decide⟩ false rfl

end PgDuckdb.Queries
