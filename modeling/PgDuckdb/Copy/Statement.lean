import PgDuckdb.Cache.Secrets
import PgDuckdb.Copy.Resolution
import PgDuckdb.Pg.Reading
import PgDuckdb.Queries.Views
import PgDuckdb.SchemaName

/-!
# COPY statements

`MakeDuckdbCopyQuery` decides whether a `COPY` is for DuckDB, and makes the text of DuckDB's `COPY` then
(`utility/copy.cpp`). A statement that is not for DuckDB is left to PostgreSQL, with one change: as PostgreSQL
cannot read a table of DuckDB, the relation is replaced by a query on it.

The text is put together piece by piece, and what a user may write is inserted with its quotes, except for the
names of the options.
-/

namespace PgDuckdb.Copy

open Pg (Text Keywords quote_identifier)
open Cache (quote_literal_cstr)
open Queries (Acl Query RTEPermissionInfo PermsError IsAllowedStatement disallowed check_view_perms_recursive
  queryContainsDuckdbItems PG_CATALOG_NAMESPACE PG_TOAST_NAMESPACE)

/-! ## Statements -/

/-- The argument of an option, by the tag of its node. -/
inductive DefArg
  | T_Integer (ival : ℤ)
  | T_Float (fval : Text)
  | T_Boolean (boolval : Bool)
  | T_String (sval : Text)
  /-- With the name as `TypeNameToString` has it. -/
  | T_TypeName (name : Text)
  | T_List (names : List Text)
  | T_A_Star
  | other (tag : ℕ)
  deriving DecidableEq, Repr

/-- An option of the statement. -/
structure DefElem where
  defname : Text
  arg : Option DefArg
  deriving DecidableEq, Repr

/-- A statement that has been parsed: `SELECT * FROM` a relation, or any other one. -/
inductive RawStmt
  | selectStar (relation : RangeVar)
  | other (n : ℕ)
  deriving DecidableEq, Repr

/-- What is copied; a statement has either a relation or a query. -/
inductive CopySource
  | relation (relation : RangeVar)
  | query (query : RawStmt)
  deriving DecidableEq, Repr

/-- A COPY statement. -/
structure CopyStmt where
  source : CopySource
  attlist : List Text
  is_from : Bool
  filename : Option Text
  options : List DefElem
  deriving DecidableEq, Repr

/-- `querySource` of a query that a rule made. -/
inductive QuerySource
  | QSRC_ORIGINAL
  | QSRC_QUAL_INSTEAD_RULE
  | QSRC_NON_INSTEAD_RULE
  | other
  deriving DecidableEq, Repr

/-- What `MakeDuckdbCopyQuery` knows of the backend. -/
structure Backend where
  K : Keywords
  N : Namespaces
  schemas : SchemaEnv
  acl : Acl
  duckdb_force_execution : Bool
  DuckdbTableAmGetName : Oid → Option Text
  IsDuckdbOnlyFunction : Oid → Bool
  DidDisallowedMixedWrites : Bool
  executor_nest_level : ℕ
  duckdb_unsafe_allow_execution_inside_functions : Bool
  /-- A materialized view is being refreshed, or this is the background worker. -/
  avoidsDuckdb : Bool
  AllowWrites : Bool
  /-- `check_enable_rls` finds policies. -/
  rlsEnabled : Oid → Bool
  pg_analyze_and_rewrite : RawStmt → Except PgError (List (QuerySource × Query))
  /-- DuckDB can prepare the query. -/
  CreatePlan : Query → Bool
  /-- PostgreSQL's own planner can plan it. -/
  standard_planner : Query → Except PgError Unit
  pgduckdb_get_querydef : Query → Except PgError Text

namespace Backend

variable (b : Backend)

/-- A table that DuckDB keeps. -/
def IsDuckdbTable (relid : Oid) : Bool := (b.DuckdbTableAmGetName relid).isSome

/-- The backend, as the hooks see it. -/
def hooks : Queries.Backend where
  RelationGetNamespace := b.N.relnamespace
  IsDuckdbTable := b.IsDuckdbTable
  IsDuckdbOnlyFunction := b.IsDuckdbOnlyFunction
  DidDisallowedMixedWrites := b.DidDisallowedMixedWrites
  executor_nest_level := b.executor_nest_level
  duckdb_unsafe_allow_execution_inside_functions := b.duckdb_unsafe_allow_execution_inside_functions

end Backend

/-- An error of which only the text counts. -/
def error_ {α : Type} (errmsg : String) : Except PgError α := .error { errmsg }

/-- `defGetString`. -/
def defGetString (defel : DefElem) : Except PgError Text :=
  match defel.arg with
  | none => error_ (String.ofList defel.defname ++ " requires a parameter")
  | some (.T_Integer ival) => .ok (toString ival).toList
  | some (.T_Float fval) => .ok fval
  | some (.T_Boolean boolval) => .ok (if boolval then "true".toList else "false".toList)
  | some (.T_String sval) => .ok sval
  | some (.T_TypeName name) => .ok name
  | some (.T_List names) => .ok (['.'].intercalate names)
  | some .T_A_Star => .ok "*".toList
  | some (.other tag) => error_ ("unrecognized node type: " ++ toString tag)

section
variable (b : Backend)

/-- `table_openrv`. -/
def table_openrv (relation : RangeVar) : Except PgError Oid :=
  match b.N.RangeVarGetRelid relation with
  | some relid => .ok relid
  | none => error_ ("relation \"" ++ String.ofList relation.relname ++ "\" does not exist")

/-! ## Which statements are for DuckDB -/

/-- A text that starts with a URI scheme. -/
def MatchesURIScheme (str : Text) : Bool :=
  match str with
  | [] => false
  | c :: p => c.isAlpha && "://".toList.isPrefixOf (p.dropWhile Char.isAlphanum)

/-- A path that starts at the root. -/
def is_absolute_path (filename : Text) : Bool := filename.head? = some '/'

/-- `IsAllowedStatement` of a `COPY`. -/
def copyIsAllowed (stmt : CopyStmt) (throw_error : Bool) : Except PgError Bool := do
  let disallowed (errmsg : String) : Except PgError Bool :=
    if throw_error then error_ errmsg else .ok false
  let filenameIsAllowed : Except PgError Bool :=
    match stmt.filename with
    | none => disallowed "COPY ... TO STDOUT/FROM STDIN is not supported by DuckDB"
    | some filename =>
      if !stmt.is_from && !is_absolute_path filename && !MatchesURIScheme filename then
        disallowed "relative path not allowed for COPY to file"
      else .ok true
  match stmt.source with
  | .relation relation =>
    let relid ← table_openrv b relation
    if b.hooks.IsCatalogTable relid then disallowed "DuckDB does not support querying PG catalog tables"
    else if stmt.is_from && !b.IsDuckdbTable relid then
      disallowed "pg_duckdb does not support COPY ... FROM ... yet for Postgres tables"
    else filenameIsAllowed
  | .query _ => filenameIsAllowed

/-- The formats that only DuckDB has. -/
def duckdb_only_formats : List Text := ["parquet", "json"].map String.toList

/-- The options that only DuckDB knows. -/
def duckdb_only_options : List Text :=
  ["partition_by", "use_tmp_file", "overwrite_or_ignore", "overwrite", "append", "filename_pattern",
    "file_extension", "per_thread_output", "file_size_bytes", "write_partition_columns", "array", "compression",
    "dateformat", "timestampformat", "nullstr", "prefix", "suffix", "compression_level", "field_ids",
    "row_group_size_bytes", "row_group_size", "row_groups_per_file"].map String.toList

/-- `ContainsDuckdbCopyOption`, of the options from one on. -/
def ContainsDuckdbCopyOption : List DefElem → Except PgError Bool
  | [] => .ok false
  | defel :: options =>
    if defel.defname = "format".toList then do
      if (← defGetString defel) ∈ duckdb_only_formats then .ok true else ContainsDuckdbCopyOption options
    else if defel.defname ∈ duckdb_only_options then .ok true
    else ContainsDuckdbCopyOption options

/-- The prefixes of a path that is DuckDB's. -/
def duckdbPrefixes : List Text :=
  ["s3://", "r2://", "gcs://", "gs://", "http://", "https://", "az://", "azure://", "abfs://",
    "abfss://"].map String.toList

/-- The suffixes of a path that is DuckDB's. -/
def duckdbSuffixes : List Text :=
  [".parquet", ".json", ".ndjson", ".jsonl", ".gz", ".zst"].map String.toList

/-- `NeedsDuckdbExecution` of a `COPY`. -/
def copyNeedsDuckdb (stmt : CopyStmt) : Except PgError Bool := do
  if stmt.filename.any fun filename => duckdbPrefixes.any (·.isPrefixOf filename) ||
      duckdbSuffixes.any (·.isSuffixOf filename) then return true
  else if ← ContainsDuckdbCopyOption stmt.options then return true
  else
    match stmt.source with
    | .query _ => return false
    | .relation relation => if stmt.is_from then return b.IsDuckdbTable (← table_openrv b relation) else return false

/-! ## The fallback -/

/-- The name of a relation, as it is read. A keyword that is not unreserved needs quotes. -/
def relationName : Pg.Token → Option Text
  | .word w => if b.K.quoted w then none else some w
  | .quoted w => some w
  | _ => none

/-- `raw_parser`, of the texts that are made here. -/
def rawParser (text : Text) : Option RawStmt :=
  match Pg.lex text with
  | some [.word select, .op star, .word from_, name] =>
    if select = "select".toList ∧ star = "*".toList ∧ from_ = "from".toList then
      (relationName b name).map fun relname => .selectStar ⟨none, none, relname⟩
    else none
  | _ => none

/-- The query that replaces a table of DuckDB. -/
def selectQuery (relid : Oid) : Text := "SELECT * FROM ".toList ++ quote_identifier b.K (b.N.get_rel_name relid)

/-- The statement that is left to PostgreSQL. -/
def fallback (stmt : CopyStmt) : Except PgError CopyStmt :=
  match stmt.source with
  | .relation relation =>
    if stmt.is_from then .ok stmt
    else do
      let relid ← table_openrv b relation
      if b.IsDuckdbTable relid then
        match rawParser b (selectQuery b relid) with
        | some raw_stmt => return { stmt with source := .query raw_stmt }
        | none => error_ "syntax error"
      else return stmt
  | .query _ => .ok stmt

/-! ## Permissions -/

/-- What is asked for the relation. -/
def relationPerms (relid : Oid) : RTEPermissionInfo where
  relid := relid
  requiredPerms := [.ACL_SELECT]
  checkAsUser := none
  selectedCols := []
  insertedCols := []
  updatedCols := []

/-- `ExecCheckPermissions`. -/
def ExecCheckPermissions (permInfos : List RTEPermissionInfo) : Except PgError Unit :=
  if permInfos.all b.acl.ExecCheckOneRelPerms then .ok () else error_ "permission denied"

/-- A plan, with the relations of its range table and their permissions. -/
structure PlannedStmt where
  relids : List Oid
  permInfos : List RTEPermissionInfo
  deriving DecidableEq, Repr

/-- A plan of PostgreSQL has the range tables of the whole query tree in one, and the permissions of all entries
that have some. A CTE that nothing refers to counts here as well, which PostgreSQL leaves out of the plan. -/
def postgresPlan (query : Query) : PlannedStmt where
  relids := (query.allEntries.map (·.relation.relid)).filter (· ≠ 0)
  permInfos := query.allEntries.filterMap fun e =>
    if e.relation.perminfoindex ≠ 0 then (Queries.getRTEPermissionInfo e).toOption else none

/-- An error of the walk over the views. -/
def ofPermsError {α : Type} : Except PermsError α → Except PgError α
  | .ok a => .ok a
  | .error _ => error_ "permission denied for view"

/-- `DuckdbPlanNode`, whose plans have one entry without a relation and no permissions. There is no plan if DuckDB
cannot prepare the query. -/
def DuckdbPlanNode (query : Query) : Except PgError (Option PlannedStmt) := do
  ofPermsError (check_view_perms_recursive b.acl query)
  return if b.CreatePlan query then some ⟨[], []⟩ else none

/-- `ShouldTryToUseDuckdbExecution`. -/
def ShouldTryToUseDuckdbExecution (query : Query) : Bool :=
  !b.avoidsDuckdb && b.duckdb_force_execution &&
    (IsAllowedStatement b.hooks query false).toOption == some true && !query.rtable.isEmpty

/-- The planner of PostgreSQL, after the hook. -/
def planWithPostgres (query : Query) : Except PgError PlannedStmt := do
  if query.commandType ≠ .CMD_SELECT ∧ b.AllowWrites = false then
    error_ "Writing to DuckDB and Postgres tables in the same transaction block is not supported"
  else
    b.standard_planner query
    return postgresPlan query

/-- The plan of DuckDB, or if there is none, another one. -/
def planOr (rest : Except PgError PlannedStmt) : Option PlannedStmt → Except PgError PlannedStmt
  | some plan => .ok plan
  | none => rest

/-- `pg_plan_query`, with `DuckdbPlannerHook`. -/
def pg_plan_query (query : Query) : Except PgError PlannedStmt :=
  if queryContainsDuckdbItems b.hooks query then
    match IsAllowedStatement b.hooks query true with
    | .error errmsg => error_ errmsg
    | .ok _ => do
      planOr (error_ "(PGDuckDB/CreatePlan) Prepared query returned an error") (← DuckdbPlanNode b query)
  else if ShouldTryToUseDuckdbExecution b query then do
    planOr (planWithPostgres b query) (← DuckdbPlanNode b query)
  else planWithPostgres b query

/-- The loop over the relations of the plan. -/
def checkPolicies (relids : List Oid) : Except PgError Unit :=
  match relids.find? b.rlsEnabled with
  | some relid =>
    error_ ("(PGDuckDB/CheckQueryPermissions) RLS enabled on \"" ++ String.ofList (b.N.get_rel_name relid) ++
      "\", cannot use DuckDB based COPY")
  | none => .ok ()

/-- The checks of a query, of its tables and its policies. -/
def CheckQueryPermissions (query : Query) : Except PgError Unit := do
  let plan ← pg_plan_query b query
  ExecCheckPermissions b plan.permInfos
  checkPolicies b plan.relids

/-! ## The text -/

/-- `get_namespace_name_or_temp`. -/
def get_namespace_name_or_temp (namespaceId : Oid) : Text :=
  if b.N.myTempNamespace = some namespaceId then "pg_temp".toList else b.N.get_namespace_name namespaceId

/-- `pgduckdb_relation_name`. -/
def pgduckdb_relation_name (relid : Oid) : Except PgError Text := do
  let (db_name, schema_name) ← pgduckdb_db_and_schema b.schemas
    (get_namespace_name_or_temp b (b.N.relnamespace relid)) (b.DuckdbTableAmGetName relid)
  return quote_identifier b.K db_name ++ '.' :: quote_identifier b.K schema_name ++
    '.' :: quote_identifier b.K (b.N.get_rel_name relid)

/-- The columns in parentheses, if there are any. -/
def appendAttlist (attlist : List Text) : Text :=
  if attlist.isEmpty then []
  else '(' :: ", ".toList.intercalate (attlist.map (quote_identifier b.K)) ++ ") ".toList

/-- `AppendCreateRelationCopyString`. -/
def AppendCreateRelationCopyString (stmt : CopyStmt) (relation : RangeVar) : Except PgError Text := do
  let relid ← table_openrv b relation
  ExecCheckPermissions b [relationPerms relid]
  let name ← pgduckdb_relation_name b relid
  return name ++ appendAttlist b stmt.attlist

/-- The names of a list, quoted, with commas between them. -/
def CommaSeparatedQuotedList (names : List Text) : Text := ",".toList.intercalate (names.map (quote_identifier b.K))

/-- The argument of an option. -/
def appendArg (defel : DefElem) : DefArg → Except PgError Text
  | .T_Integer _ | .T_Float _ | .T_Boolean _ => defGetString defel
  | .T_String _ | .T_TypeName _ => do return quote_literal_cstr (← defGetString defel)
  | .T_List names => return '(' :: CommaSeparatedQuotedList b names ++ ")".toList
  | .T_A_Star => return "*".toList
  | .other tag => error_ ("Unexpected node type in COPY: " ++ toString tag)

/-- One option; its name has no quotes. -/
def appendOption (defel : DefElem) : Except PgError Text :=
  match defel.arg with
  | none => .ok defel.defname
  | some arg => do return defel.defname ++ ' ' :: (← appendArg b defel arg)

/-- `AppendCreateCopyOptions`. -/
def AppendCreateCopyOptions (options : List DefElem) : Except PgError Text := do
  if options.isEmpty then return ";".toList
  else return '(' :: ", ".toList.intercalate (← options.mapM (appendOption b)) ++ ");".toList

/-! ## The whole function -/

/-- `CheckRewritten`, and the query that is left. -/
def CheckRewritten (rewritten : List (QuerySource × Query)) : Except PgError Query :=
  match rewritten with
  | [] => error_ "DO INSTEAD NOTHING rules are not supported for COPY"
  | [(_, query)] => .ok query
  | _ =>
    match rewritten.find? fun q => q.1 = .QSRC_QUAL_INSTEAD_RULE || q.1 = .QSRC_NON_INSTEAD_RULE with
    | some (.QSRC_QUAL_INSTEAD_RULE, _) => error_ "conditional DO INSTEAD rules are not supported for COPY"
    | some _ => error_ "DO ALSO rules are not supported for the COPY"
    | none => error_ "multi-statement DO INSTEAD rules are not supported for COPY"

/-- Whether the query may be given to DuckDB; if it is not and need not, nothing is done. -/
def queryIsForDuckdb (query : Query) (needs_duckdb_execution : Bool) : Except PgError Bool :=
  match IsAllowedStatement b.hooks query needs_duckdb_execution with
  | .error errmsg => error_ errmsg
  | .ok allowed =>
    if needs_duckdb_execution then
      if query.commandType ≠ .CMD_SELECT then error_ "DuckDB COPY only supports SELECT statements" else .ok true
    else .ok (allowed && query.commandType = .CMD_SELECT)

/-- The relation or the query that is copied, or `none` if nothing is done. -/
def appendSource (stmt : CopyStmt) (needs_duckdb_execution : Bool) : Except PgError (Option Text) := do
  match stmt.source with
  | .relation relation => return some (← AppendCreateRelationCopyString b stmt relation)
  | .query raw_stmt =>
    let query ← CheckRewritten (← b.pg_analyze_and_rewrite raw_stmt)
    if ← queryIsForDuckdb b query needs_duckdb_execution then
      CheckQueryPermissions b query
      return some ('(' :: (← b.pgduckdb_get_querydef query) ++ ")".toList)
    else return none

/-- The text of the statement. -/
def copyText (stmt : CopyStmt) (needs_duckdb_execution : Bool) : Except PgError (Option Text) := do
  match ← appendSource b stmt needs_duckdb_execution with
  | none => return none
  | some source =>
    let direction := if stmt.is_from then " FROM ".toList else " TO ".toList
    let options ← AppendCreateCopyOptions b stmt.options
    return some ("COPY ".toList ++ source ++ direction ++ quote_literal_cstr (stmt.filename.getD []) ++
      ' ' :: options)

/-- Whether the statement is for DuckDB, and whether it has to be. -/
def forDuckdb (stmt : CopyStmt) : Except PgError (Bool × Bool) := do
  if ← copyNeedsDuckdb b stmt then
    let _ ← copyIsAllowed b stmt true
    return (true, true)
  else if b.duckdb_force_execution then return (← copyIsAllowed b stmt false, false)
  else return (false, false)

/-- `MakeDuckdbCopyQuery`: DuckDB's statement, if there is one, and what is left for PostgreSQL. -/
def MakeDuckdbCopyQuery (stmt : CopyStmt) : Except PgError (Option Text × CopyStmt) := do
  let (for_duckdb, needs_duckdb_execution) ← forDuckdb b stmt
  if for_duckdb then return (← copyText b stmt needs_duckdb_execution, stmt)
  else return (none, ← fallback b stmt)

/-! ## What a text is made of -/

section
variable {b} {stmt : CopyStmt} {relation : RangeVar} {needs_duckdb_execution : Bool} {text : Text}

/-- The pieces of a statement put together. -/
def assemble (stmt : CopyStmt) (source options : Text) : Text :=
  "COPY ".toList ++ source ++ (if stmt.is_from then " FROM ".toList else " TO ".toList) ++
    quote_literal_cstr (stmt.filename.getD []) ++ ' ' :: options

/-- The text of the statement, part for part. -/
theorem copyText_eq : copyText b stmt needs_duckdb_execution = (do
    match ← appendSource b stmt needs_duckdb_execution with
    | none => return none
    | some source => return some (assemble stmt source (← AppendCreateCopyOptions b stmt.options))) := rfl

/-- A statement has a text just when each of its parts has one. -/
theorem copyText_eq_some : copyText b stmt needs_duckdb_execution = .ok (some text) ↔
    ∃ source options, appendSource b stmt needs_duckdb_execution = .ok (some source) ∧
      AppendCreateCopyOptions b stmt.options = .ok options ∧ text = assemble stmt source options := by
  rw [copyText_eq, Lib.bind_eq_ok]
  constructor
  · rintro ⟨source, hsource, h⟩
    cases source with
    | none => cases h
    | some source =>
      obtain ⟨options, hoptions, heq⟩ := Lib.bind_eq_ok.1 h
      cases heq
      exact ⟨source, options, hsource, hoptions, rfl⟩
  · rintro ⟨source, options, hsource, hoptions, rfl⟩
    refine ⟨some source, hsource, ?_⟩
    exact Lib.bind_eq_ok.2 ⟨options, hoptions, rfl⟩

/-- There is none only if there is none for the source. -/
theorem copyText_eq_none (h : copyText b stmt needs_duckdb_execution = .ok none) :
    appendSource b stmt needs_duckdb_execution = .ok none := by
  rw [copyText_eq, Lib.bind_eq_ok] at h
  obtain ⟨source, hsource, h⟩ := h
  cases source with
  | none => exact hsource
  | some source =>
    obtain ⟨options, -, heq⟩ := Lib.bind_eq_ok.1 h
    cases heq

/-- The source of a statement about a relation. -/
theorem appendSource_relation (hsource : stmt.source = .relation relation) :
    appendSource b stmt needs_duckdb_execution = (AppendCreateRelationCopyString b stmt relation).map some := by
  rw [appendSource, hsource]
  change (AppendCreateRelationCopyString b stmt relation >>= fun source => pure (some source)) = _
  cases AppendCreateRelationCopyString b stmt relation with
  | error e => rfl
  | ok source => rfl

end

end

end PgDuckdb.Copy
