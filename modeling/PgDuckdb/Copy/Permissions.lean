import PgDuckdb.Copy.Fallback

/-!
# Privileges for COPY

PostgreSQL's `COPY` needs `SELECT` on what it reads and `INSERT` on what it writes, for the columns that it copies.
`MakeDuckdbCopyQuery` asks for `SELECT` on the relation, in either direction and without columns, and it is granted
to a role that may select any column. For a query it asks for what the plan has permissions for, and a plan of DuckDB
has none.

`checksPrivileges_iff` says in which states of the privileges that is enough.
-/

namespace PgDuckdb.Copy

open Pg (Text)
open Queries (AttrNumber AclMode Query RTEPermissionInfo IsAllowedStatement check_view_perms_recursive
  queryContainsDuckdbItems HasPermInfos Lacks)

/-! ## What is expected -/

/-- The columns of relations. -/
structure Columns where
  attnum : Oid → Text → Option AttrNumber
  attgenerated : Oid → AttrNumber → Bool

section
variable (b : Backend) (C : Columns)

/-- `CopyGetAttnums`: the columns that are listed, or else all that are not generated. -/
def CopyGetAttnums (relid : Oid) (attlist : List Text) : List AttrNumber :=
  if attlist.isEmpty then (b.acl.columns relid).filter fun attno => !C.attgenerated relid attno
  else attlist.filterMap (C.attnum relid)

/-- What PostgreSQL's `COPY` asks for the relation. -/
def copyPerms (stmt : CopyStmt) (relid : Oid) : RTEPermissionInfo where
  relid := relid
  requiredPerms := [if stmt.is_from then .ACL_INSERT else .ACL_SELECT]
  checkAsUser := none
  selectedCols := if stmt.is_from then [] else CopyGetAttnums b C relid stmt.attlist
  insertedCols := if stmt.is_from then CopyGetAttnums b C relid stmt.attlist else []
  updatedCols := []

/-- The query of a statement, analyzed and rewritten. -/
def rewrittenQuery (raw_stmt : RawStmt) : Except PgError Query := b.pg_analyze_and_rewrite raw_stmt >>= CheckRewritten

/-- The role has the privileges that PostgreSQL's `COPY` needs. -/
def RequiredPrivileges (stmt : CopyStmt) : Prop :=
  match stmt.source with
  | .relation relation => ∀ relid, b.N.RangeVarGetRelid relation = some relid →
      b.acl.ExecCheckOneRelPerms (copyPerms b C stmt relid) = true
  | .query raw_stmt => ∀ query, rewrittenQuery b raw_stmt = .ok query →
      ∀ perminfo ∈ (postgresPlan query).permInfos, b.acl.ExecCheckOneRelPerms perminfo = true

/-- If there is a statement for DuckDB, the role has the privileges. -/
def ChecksPrivileges (stmt : CopyStmt) : Prop :=
  ∀ text stmt', MakeDuckdbCopyQuery b stmt = .ok (some text, stmt') → RequiredPrivileges b C stmt

/-! ## What is asked -/

/-- The hook tries to plan the query with DuckDB. -/
def TriesDuckdb (query : Query) : Prop :=
  queryContainsDuckdbItems b.hooks query = true ∨ ShouldTryToUseDuckdbExecution b query = true

/-- The plan is one of DuckDB. -/
def PlannedByDuckdb (query : Query) : Prop := TriesDuckdb b query ∧ b.CreatePlan query = true

/-- The privileges that a statement for DuckDB takes: `SELECT` on a relation or on any of its columns, the
privileges for the views that are not in expressions if DuckDB is tried, and those for everything if PostgreSQL
plans. -/
def AskedPrivileges (stmt : CopyStmt) : Prop :=
  match stmt.source with
  | .relation relation => ∀ relid, b.N.RangeVarGetRelid relation = some relid →
      b.acl.pg_class_aclcheck relid b.acl.GetUserId .ACL_SELECT = true ∨
        ∃ attno ∈ b.acl.columns relid, b.acl.pg_attribute_aclcheck relid attno b.acl.GetUserId .ACL_SELECT = true
  | .query raw_stmt => ∀ query, rewrittenQuery b raw_stmt = .ok query →
      (TriesDuckdb b query → ∀ e ∈ query.tableEntries, ¬Lacks b.acl e) ∧
      (¬PlannedByDuckdb b query →
        ∀ perminfo ∈ (postgresPlan query).permInfos, b.acl.ExecCheckOneRelPerms perminfo = true)

/-- The query can be planned, with no policies on the relations of a plan of PostgreSQL. -/
def Plannable (query : Query) : Prop :=
  (queryContainsDuckdbItems b.hooks query = true →
    (∃ allowed, IsAllowedStatement b.hooks query true = .ok allowed) ∧ b.CreatePlan query = true) ∧
  (¬PlannedByDuckdb b query → (∃ plan, planWithPostgres b query = .ok plan) ∧
    ∀ relid ∈ (postgresPlan query).relids, b.rlsEnabled relid = false)

/-- The statement is for DuckDB, as far as nobody's privileges are concerned. -/
def Eligible (stmt : CopyStmt) : Prop :=
  ∃ needs_duckdb_execution, forDuckdb b stmt = .ok (true, needs_duckdb_execution) ∧
    (∃ options, AppendCreateCopyOptions b stmt.options = .ok options) ∧
    match stmt.source with
    | .relation relation => ∃ relid name, b.N.RangeVarGetRelid relation = some relid ∧
        pgduckdb_relation_name b relid = .ok name
    | .query raw_stmt => ∃ query querydef, rewrittenQuery b raw_stmt = .ok query ∧
        queryIsForDuckdb b query needs_duckdb_execution = .ok true ∧ Plannable b query ∧
        b.pgduckdb_get_querydef query = .ok querydef

end

/-! ## What the code asks -/

section
variable {b : Backend} {C : Columns} {stmt : CopyStmt} {relation : RangeVar} {query : Query}

/-- The check of every entry passes just when it passes for each. -/
theorem ExecCheckPermissions_iff {permInfos : List RTEPermissionInfo} : ExecCheckPermissions b permInfos = .ok () ↔
    ∀ perminfo ∈ permInfos, b.acl.ExecCheckOneRelPerms perminfo = true := by
  rw [ExecCheckPermissions, ← List.all_eq_true]
  split
  next hall => exact iff_of_true rfl hall
  next hnot => exact iff_of_false nofun hnot

/-- Without columns, the privilege is granted for any of them. -/
theorem relationPerms_iff {relid : Oid} : b.acl.ExecCheckOneRelPerms (relationPerms relid) = true ↔
    b.acl.pg_class_aclcheck relid b.acl.GetUserId .ACL_SELECT = true ∨
      ∃ attno ∈ b.acl.columns relid, b.acl.pg_attribute_aclcheck relid attno b.acl.GetUserId .ACL_SELECT = true := by
  simp only [Queries.Acl.ExecCheckOneRelPerms, relationPerms, List.all_cons, List.all_nil, Bool.and_true,
    Option.getD_none, Queries.Acl.holds, Queries.Acl.holdsOnColumns, Queries.RTEPermissionInfo.cols,
    List.isEmpty_nil, if_true, Bool.or_eq_true, Bool.and_eq_true, List.any_eq_true, AclMode.ofColumns, true_and]

/-- A check of the views succeeds just when it did. -/
theorem ofPermsError_eq_ok {α : Type} {r : Except Queries.PermsError α} {a : α} :
    ofPermsError r = .ok a ↔ r = .ok a := by
  cases r with
  | error e => exact iff_of_false nofun nofun
  | ok a' => exact ⟨fun h => congrArg _ (Except.ok.inj h), fun h => congrArg _ (Except.ok.inj h)⟩

/-- DuckDB plans a query only if the views in it may be read. -/
theorem DuckdbPlanNode_eq_ok {plan : Option PlannedStmt} (hperms : HasPermInfos query) :
    DuckdbPlanNode b query = .ok plan ↔ (∀ e ∈ query.tableEntries, ¬Lacks b.acl e) ∧
      plan = if b.CreatePlan query then some ⟨[], []⟩ else none := by
  rw [DuckdbPlanNode, Lib.bind_eq_ok, ← Queries.check_view_perms_recursive_lacks hperms]
  constructor
  · rintro ⟨_, hviews, heq⟩
    exact ⟨ofPermsError_eq_ok.1 hviews, (Except.ok.inj heq).symm⟩
  · rintro ⟨hviews, rfl⟩
    exact ⟨(), ofPermsError_eq_ok.2 hviews, rfl⟩

/-- What Postgres plans is its own plan. -/
theorem planWithPostgres_eq {plan : PlannedStmt} (h : planWithPostgres b query = .ok plan) :
    plan = postgresPlan query := by
  rw [planWithPostgres] at h
  split at h
  · cases h
  · obtain ⟨_, -, heq⟩ := Lib.bind_eq_ok.1 h
    exact (Except.ok.inj heq).symm

/-- Planning with DuckDB, or else in another way. -/
theorem planOr_eq_ok {rest : Except PgError PlannedStmt} {plan : PlannedStmt} (hperms : HasPermInfos query) :
    (DuckdbPlanNode b query >>= planOr rest) = .ok plan ↔ (∀ e ∈ query.tableEntries, ¬Lacks b.acl e) ∧
      (b.CreatePlan query = true → plan = ⟨[], []⟩) ∧ (¬b.CreatePlan query = true → rest = .ok plan) := by
  rw [Lib.bind_eq_ok]
  simp only [DuckdbPlanNode_eq_ok hperms]
  cases hplan : b.CreatePlan query with
  | true =>
    constructor
    · rintro ⟨_, ⟨hviews, rfl⟩, heq⟩
      exact ⟨hviews, fun _ => (Except.ok.inj heq).symm, fun h => absurd rfl h⟩
    · rintro ⟨hviews, heq, -⟩
      exact ⟨_, ⟨hviews, rfl⟩, congrArg Except.ok (heq rfl).symm⟩
  | false =>
    constructor
    · rintro ⟨_, ⟨hviews, rfl⟩, heq⟩
      exact ⟨hviews, nofun, fun _ => heq⟩
    · rintro ⟨hviews, -, heq⟩
      exact ⟨_, ⟨hviews, rfl⟩, heq Bool.false_ne_true⟩

/-- What planning a query checks, and whose plan comes out. -/
theorem pg_plan_query_eq_ok {plan : PlannedStmt} (hperms : HasPermInfos query) :
    pg_plan_query b query = .ok plan ↔
      (TriesDuckdb b query → ∀ e ∈ query.tableEntries, ¬Lacks b.acl e) ∧
      (queryContainsDuckdbItems b.hooks query = true →
        (∃ allowed, IsAllowedStatement b.hooks query true = .ok allowed) ∧ b.CreatePlan query = true) ∧
      (PlannedByDuckdb b query → plan = ⟨[], []⟩) ∧
      (¬PlannedByDuckdb b query → planWithPostgres b query = .ok plan) := by
  unfold pg_plan_query PlannedByDuckdb TriesDuckdb
  split
  next hcontains =>
    simp only [hcontains, true_or, true_and, true_implies]
    cases hallowed : IsAllowedStatement b.hooks query true with
    | error errmsg => exact iff_of_false nofun fun ⟨_, ⟨⟨_, h⟩, _⟩, _⟩ => nomatch h
    | ok allowed =>
      refine (planOr_eq_ok hperms).trans ⟨fun ⟨hviews, hplan, hrest⟩ => ?_, fun ⟨hviews, ⟨_, hcreate⟩, hplan, _⟩ => ?_⟩
      · have hcreate : b.CreatePlan query = true := by
          by_contra hno
          cases hrest hno
        exact ⟨hviews, ⟨⟨allowed, rfl⟩, hcreate⟩, hplan, fun hno => absurd hcreate hno⟩
      · exact ⟨hviews, hplan, fun hno => absurd hcreate hno⟩
  next hcontains =>
    simp only [hcontains, Bool.false_eq_true, false_or, false_implies, true_and]
    split
    next htry =>
      simp only [htry, true_implies, true_and]
      exact planOr_eq_ok hperms
    next htry =>
      simp only [htry, Bool.false_eq_true, false_implies, false_and, not_false_iff, true_implies, true_and]

/-- The policies pass just when no table has row security enabled. -/
theorem checkPolicies_eq_ok {relids : List Oid} :
    checkPolicies b relids = .ok () ↔ ∀ relid ∈ relids, b.rlsEnabled relid = false := by
  rw [checkPolicies]
  cases hfind : relids.find? b.rlsEnabled with
  | some relid =>
    refine iff_of_false nofun fun hnone => ?_
    have henabled := List.find?_some hfind
    rw [hnone relid (List.mem_of_find?_eq_some hfind)] at henabled
    cases henabled
  | none =>
    exact iff_of_true rfl fun relid hrelid => Bool.eq_false_iff.2 (List.find?_eq_none.1 hfind relid hrelid)

/-- A query is checked successfully if the privileges that are asked are there, and it can be planned. -/
theorem CheckQueryPermissions_eq_ok (hperms : HasPermInfos query) : CheckQueryPermissions b query = .ok () ↔
    ((TriesDuckdb b query → ∀ e ∈ query.tableEntries, ¬Lacks b.acl e) ∧
      (¬PlannedByDuckdb b query →
        ∀ perminfo ∈ (postgresPlan query).permInfos, b.acl.ExecCheckOneRelPerms perminfo = true)) ∧
      Plannable b query := by
  have hcheck : CheckQueryPermissions b query = .ok () ↔ ∃ plan, pg_plan_query b query = .ok plan ∧
      (∀ perminfo ∈ plan.permInfos, b.acl.ExecCheckOneRelPerms perminfo = true) ∧
      ∀ relid ∈ plan.relids, b.rlsEnabled relid = false := by
    rw [CheckQueryPermissions, Lib.bind_eq_ok]
    refine exists_congr fun plan => and_congr_right fun _ => ?_
    rw [Lib.seq_eq_ok, ExecCheckPermissions_iff, checkPolicies_eq_ok]
  rw [hcheck, Plannable]
  simp only [pg_plan_query_eq_ok hperms]
  by_cases hduckdb : PlannedByDuckdb b query
  · simp only [hduckdb, not_true, true_implies, false_implies, and_true]
    constructor
    · rintro ⟨_, ⟨hviews, hcontains, -⟩, -⟩
      exact ⟨hviews, hcontains⟩
    · rintro ⟨hviews, hcontains⟩
      exact ⟨⟨[], []⟩, ⟨hviews, hcontains, rfl⟩, nofun, nofun⟩
  · simp only [hduckdb, not_false_iff, true_implies, false_implies, true_and]
    constructor
    · rintro ⟨plan, ⟨hviews, hcontains, hplan⟩, hpermInfos, hpolicies⟩
      rw [planWithPostgres_eq hplan] at hpermInfos hpolicies
      exact ⟨⟨hviews, hpermInfos⟩, hcontains, ⟨plan, hplan⟩, hpolicies⟩
    · rintro ⟨⟨hviews, hpermInfos⟩, hcontains, ⟨plan, hplan⟩, hpolicies⟩
      have heq := planWithPostgres_eq hplan
      subst heq
      exact ⟨postgresPlan query, ⟨hviews, hcontains, hplan⟩, hpermInfos, hpolicies⟩

/-! ## Which statements there are -/

/-- A statement has a text just when it is DuckDB's and its parts have texts. -/
theorem MakeDuckdbCopyQuery_eq_some {text : Text} {stmt' : CopyStmt} :
    MakeDuckdbCopyQuery b stmt = .ok (some text, stmt') ↔
      ∃ needs_duckdb_execution, forDuckdb b stmt = .ok (true, needs_duckdb_execution) ∧
        copyText b stmt needs_duckdb_execution = .ok (some text) ∧ stmt' = stmt := by
  rw [MakeDuckdbCopyQuery, Lib.bind_eq_ok]
  constructor
  · rintro ⟨⟨for_duckdb, needs_duckdb_execution⟩, hfor, h⟩
    cases for_duckdb with
    | true =>
      obtain ⟨_, htext, heq⟩ := Lib.bind_eq_ok.1 h
      cases heq
      exact ⟨needs_duckdb_execution, hfor, htext, rfl⟩
    | false =>
      obtain ⟨_, -, heq⟩ := Lib.bind_eq_ok.1 h
      cases heq
  · rintro ⟨needs_duckdb_execution, hfor, htext, rfl⟩
    exact ⟨_, hfor, Lib.bind_eq_ok.2 ⟨_, htext, rfl⟩⟩

/-- The text of a relation, where its privileges are there. -/
theorem appendRelation_eq_ok {source : Text} : AppendCreateRelationCopyString b stmt relation = .ok source ↔
    ∃ relid name, b.N.RangeVarGetRelid relation = some relid ∧
      b.acl.ExecCheckOneRelPerms (relationPerms relid) = true ∧ pgduckdb_relation_name b relid = .ok name ∧
      source = name ++ appendAttlist b stmt.attlist := by
  have hopen : ∀ relid, table_openrv b relation = .ok relid ↔ b.N.RangeVarGetRelid relation = some relid := by
    intro relid
    rw [table_openrv]
    cases b.N.RangeVarGetRelid relation with
    | none =>
      constructor <;> intro h <;> cases h
    | some relid' => exact ⟨fun h => congrArg _ (Except.ok.inj h), fun h => congrArg _ (Option.some.inj h)⟩
  have hasked : ∀ relid, ExecCheckPermissions b [relationPerms relid] = .ok () ↔
      b.acl.ExecCheckOneRelPerms (relationPerms relid) = true := by
    intro relid
    rw [ExecCheckPermissions_iff, List.forall_mem_singleton]
  rw [AppendCreateRelationCopyString, Lib.bind_eq_ok]
  simp only [hopen, Lib.bind_eq_ok]
  constructor
  · rintro ⟨relid, hrelid, _, hperms, name, hname, heq⟩
    exact ⟨relid, name, hrelid, (hasked relid).1 hperms, hname, (Except.ok.inj heq).symm⟩
  · rintro ⟨relid, name, hrelid, hperms, hname, rfl⟩
    exact ⟨relid, hrelid, (), (hasked relid).2 hperms, name, hname, rfl⟩

/-- The text of a query, where its privileges are there. -/
theorem appendQuery_eq_some {raw_stmt : RawStmt} {needs_duckdb_execution : Bool} {source : Text}
    (hsource : stmt.source = .query raw_stmt) :
    appendSource b stmt needs_duckdb_execution = .ok (some source) ↔
      ∃ query querydef, rewrittenQuery b raw_stmt = .ok query ∧
        queryIsForDuckdb b query needs_duckdb_execution = .ok true ∧ CheckQueryPermissions b query = .ok () ∧
        b.pgduckdb_get_querydef query = .ok querydef ∧ source = '(' :: querydef ++ ")".toList := by
  rw [appendSource, hsource, rewrittenQuery]
  simp only [Lib.bind_eq_ok]
  constructor
  · rintro ⟨rewritten, hrewritten, query, hquery, is_for_duckdb, hfor, h⟩
    cases is_for_duckdb with
    | false => cases h
    | true =>
      obtain ⟨_, hcheck, h⟩ := Lib.bind_eq_ok.1 h
      obtain ⟨querydef, hquerydef, heq⟩ := Lib.bind_eq_ok.1 h
      cases heq
      exact ⟨query, querydef, ⟨rewritten, hrewritten, hquery⟩, hfor, hcheck, hquerydef, rfl⟩
  · rintro ⟨query, querydef, ⟨rewritten, hrewritten, hquery⟩, hfor, hcheck, hquerydef, rfl⟩
    refine ⟨rewritten, hrewritten, query, hquery, true, hfor, ?_⟩
    exact Lib.bind_eq_ok.2 ⟨(), hcheck, Lib.bind_eq_ok.2 ⟨querydef, hquerydef, rfl⟩⟩

/-- The permissions of the query of a statement can be found. -/
def QueryHasPermInfos (b : Backend) (stmt : CopyStmt) : Prop :=
  ∀ raw_stmt query, stmt.source = .query raw_stmt → rewrittenQuery b raw_stmt = .ok query → HasPermInfos query

/-- There is a statement for DuckDB exactly if it is for DuckDB, and what is asked is granted. -/
theorem makesStatement_iff (hperms : QueryHasPermInfos b stmt) :
    (∃ text stmt', MakeDuckdbCopyQuery b stmt = .ok (some text, stmt')) ↔
      Eligible b stmt ∧ AskedPrivileges b stmt := by
  have hmakes : (∃ text stmt', MakeDuckdbCopyQuery b stmt = .ok (some text, stmt')) ↔
      ∃ needs_duckdb_execution, forDuckdb b stmt = .ok (true, needs_duckdb_execution) ∧
        (∃ options, AppendCreateCopyOptions b stmt.options = .ok options) ∧
        ∃ source, appendSource b stmt needs_duckdb_execution = .ok (some source) := by
    simp only [MakeDuckdbCopyQuery_eq_some, copyText_eq_some]
    constructor
    · rintro ⟨_, _, needs_duckdb_execution, hfor, ⟨source, options, hsource, hoptions, -⟩, -⟩
      exact ⟨needs_duckdb_execution, hfor, ⟨options, hoptions⟩, source, hsource⟩
    · rintro ⟨needs_duckdb_execution, hfor, ⟨options, hoptions⟩, source, hsource⟩
      exact ⟨_, stmt, needs_duckdb_execution, hfor, ⟨source, options, hsource, hoptions, rfl⟩, rfl⟩
  rw [hmakes, Eligible, AskedPrivileges]
  cases hsource : stmt.source with
  | relation relation =>
    simp only [appendSource_relation hsource, Lib.map_eq_ok, appendRelation_eq_ok, relationPerms_iff]
    constructor
    · rintro ⟨needs_duckdb_execution, hfor, hoptions, _, _, ⟨relid, name, hrelid, hasked, hname, -⟩, -⟩
      refine ⟨⟨needs_duckdb_execution, hfor, hoptions, relid, name, hrelid, hname⟩, fun relid' hrelid' => ?_⟩
      rw [hrelid] at hrelid'
      cases hrelid'
      exact hasked
    · rintro ⟨⟨needs_duckdb_execution, hfor, hoptions, relid, name, hrelid, hname⟩, hasked⟩
      exact ⟨needs_duckdb_execution, hfor, hoptions, _, _, ⟨relid, name, hrelid, hasked relid hrelid, hname, rfl⟩,
        rfl⟩
  | query raw_stmt =>
    simp only [appendQuery_eq_some hsource]
    constructor
    · rintro ⟨needs_duckdb_execution, hfor, hoptions, _, query, querydef, hquery, hfor', hcheck, hquerydef, -⟩
      obtain ⟨hasked, hplannable⟩ := (CheckQueryPermissions_eq_ok (hperms raw_stmt query hsource hquery)).1 hcheck
      refine ⟨⟨needs_duckdb_execution, hfor, hoptions, query, querydef, hquery, hfor', hplannable, hquerydef⟩,
        fun query' hquery' => ?_⟩
      rw [hquery] at hquery'
      cases hquery'
      exact hasked
    · rintro ⟨⟨needs_duckdb_execution, hfor, hoptions, query, querydef, hquery, hfor', hplannable, hquerydef⟩,
        hasked⟩
      have hcheck := (CheckQueryPermissions_eq_ok (hperms raw_stmt query hsource hquery)).2
        ⟨hasked query hquery, hplannable⟩
      exact ⟨needs_duckdb_execution, hfor, hoptions, _, query, querydef, hquery, hfor', hcheck, hquerydef, rfl⟩

end

/-- A statement for DuckDB takes the privileges that PostgreSQL's `COPY` needs exactly if, where those that are
asked are granted, the others are granted too. -/
theorem checksPrivileges_iff (b : Backend) (C : Columns) (stmt : CopyStmt) (hperms : QueryHasPermInfos b stmt) :
    ChecksPrivileges b C stmt ↔ (Eligible b stmt → AskedPrivileges b stmt → RequiredPrivileges b C stmt) := by
  rw [← and_imp, ← makesStatement_iff hperms]
  constructor
  · rintro h ⟨text, stmt', hmakes⟩
    exact h text stmt' hmakes
  · exact fun h text stmt' hmakes => h ⟨text, stmt', hmakes⟩

/-- A role that may select from every relation and do nothing else, and the columns `a` and `b`. -/
def readOnly : Backend :=
  { backend with
    acl :=
      { GetUserId := 10
        columns := fun _ => [1, 2]
        pg_class_aclcheck := fun _ _ mode => mode = .ACL_SELECT
        pg_attribute_aclcheck := fun _ _ _ _ => false } }

/-- The columns of the example. -/
def columnsAB : Columns where
  attnum _ name := if name = "a".toList then some 1 else if name = "b".toList then some 2 else none
  attgenerated _ _ := false

/-- `COPY sales.t FROM '/tmp/t.csv'`. -/
def copyFromFile : CopyStmt := { copyToFile "sales".toList with is_from := true }

/-- `SELECT a FROM t`, where `t` is a table of DuckDB, by a role without any privilege on it. -/
def withoutPrivileges : Backend :=
  { backend with
    acl :=
      { GetUserId := 10
        columns := fun _ => [1, 2]
        pg_class_aclcheck := fun _ _ _ => false
        pg_attribute_aclcheck := fun _ _ _ _ => false }
    pg_analyze_and_rewrite := fun _ =>
      .ok [(.QSRC_ORIGINAL, .mk .CMD_SELECT false 0 [.other .RTE_RELATION ⟨16384, .RELKIND_RELATION, 1⟩ []]
        [Queries.readsFirst 16384] [] [])]
    pgduckdb_get_querydef := fun _ => .ok "SELECT a FROM my_db.main.t".toList }

/-- `COPY (SELECT a FROM t) TO '/tmp/t.parquet'`. -/
def copyQuery : CopyStmt where
  source := .query (.other 0)
  attlist := []
  is_from := false
  filename := some "/tmp/t.parquet".toList
  options := []

/-- The statement of the example, checked just where it must be. -/
theorem checksPrivileges_copyToFile : ChecksPrivileges readOnly columnsAB (copyToFile "public".toList) ↔
    (Eligible readOnly (copyToFile "public".toList) → AskedPrivileges readOnly (copyToFile "public".toList) →
      RequiredPrivileges readOnly columnsAB (copyToFile "public".toList)) :=
  checksPrivileges_iff readOnly columnsAB _ fun _ _ hsource => nomatch hsource

/-- A role that may only read can write, and a role without privileges can read through a query. -/
theorem not_checksPrivileges :
    ¬ChecksPrivileges readOnly columnsAB copyFromFile ∧ ¬ChecksPrivileges withoutPrivileges columnsAB copyQuery := by
  constructor
  · intro h
    have hinsert := h "COPY my_db.sales.t FROM '/tmp/t.csv' ;".toList copyFromFile rfl 16385 rfl
    exact absurd hinsert (by decide)
  · intro h
    have hselect := h "COPY (SELECT a FROM my_db.main.t) TO '/tmp/t.parquet' ;".toList copyQuery rfl _ rfl
      (Queries.readsFirst 16384) (by decide)
    exact absurd hselect (by decide)

end PgDuckdb.Copy
