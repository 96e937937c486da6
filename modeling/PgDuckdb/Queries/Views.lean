import PgDuckdb.Queries.Allowed

/-!
# Privileges on views

A plan for DuckDB has no permission infos, so what a query may do with the views in it is checked while it is
planned: `check_view_perms_recursive` goes through the range tables, the subqueries in them and the common table
expressions (`pgduckdb_planner.cpp`). A view is a subquery by then that has kept its relation and its permissions.
The expressions of a query are not entered.

`check_view_perms_recursive_iff` has what the walk checks, and `checksViews_iff` says in which queries no view is
missed.
-/

namespace PgDuckdb.Queries

/-! ## The walk -/

/-- What the check of the privileges raises. -/
inductive PermsError
  /-- `invalid perminfoindex ... in RTE with relid ...`. -/
  | invalidIndex (perminfoindex : ℕ) (relid : Oid)
  /-- `permission info at index ... does not match provided RTE`. -/
  | mismatch (perminfoindex : ℕ)
  /-- `permission denied for view ...`. -/
  | ACLCHECK_NO_PRIV (relid : Oid)
  deriving DecidableEq, Repr

/-- `getRTEPermissionInfo`. -/
def getRTEPermissionInfo (e : Entry) : Except PermsError RTEPermissionInfo :=
  match e.relation.perminfoindex with
  | 0 => .error (.invalidIndex 0 e.relation.relid)
  | i + 1 =>
    match e.rteperminfos[i]? with
    | none => .error (.invalidIndex (i + 1) e.relation.relid)
    | some perminfo =>
      if perminfo.relid = e.relation.relid then .ok perminfo else .error (.mismatch (i + 1))

section
variable (acl : Acl)

/-- The check of one entry. -/
def checkEntry (e : Entry) : Except PermsError Unit :=
  if e.relation.perminfoindex ≠ 0 ∧ e.relation.relkind = .RELKIND_VIEW then do
    let perminfo ← getRTEPermissionInfo e
    if acl.ExecCheckOneRelPerms perminfo then return () else .error (.ACLCHECK_NO_PRIV perminfo.relid)
  else .ok ()

mutual

/-- The privileges of a query and of everything below it. -/
def check_view_perms_recursive : Query → Except PermsError Unit
  | .mk _ _ _ rtable rteperminfos cteList _ => do
    checkRangeTable rteperminfos rtable
    checkCteList cteList

/-- The privileges of a range table and of everything below it. -/
def checkRangeTable (rteperminfos : List RTEPermissionInfo) : List RangeTblEntry → Except PermsError Unit
  | [] => .ok ()
  | .RTE_SUBQUERY relation subquery _ :: rtes => do
    checkEntry acl ⟨relation, rteperminfos⟩
    check_view_perms_recursive subquery
    checkRangeTable rteperminfos rtes
  | .other _ relation _ :: rtes => do
    checkEntry acl ⟨relation, rteperminfos⟩
    checkRangeTable rteperminfos rtes

/-- The privileges of the CTEs and of everything below them. -/
def checkCteList : List Query → Except PermsError Unit
  | [] => .ok ()
  | ctequery :: cteList => do
    check_view_perms_recursive ctequery
    checkCteList cteList

end

end

/-! ## What is expected -/

section
variable (acl : Acl)

/-- A view for which the privileges that the query needs are missing. -/
def Lacks (e : Entry) : Prop :=
  e.relation.relkind = .RELKIND_VIEW ∧
    ∃ perminfo, getRTEPermissionInfo e = .ok perminfo ∧ acl.ExecCheckOneRelPerms perminfo = false

/-- The check raises an error if privileges are missing for a view anywhere in the query. -/
def ChecksViews (query : Query) : Prop :=
  (∃ e ∈ query.allEntries, Lacks acl e) → ∃ error, check_view_perms_recursive acl query = .error error

/-- The permissions of each entry that has some can be found. -/
def HasPermInfos (query : Query) : Prop :=
  ∀ e ∈ query.allEntries, e.relation.perminfoindex ≠ 0 → ∃ perminfo, getRTEPermissionInfo e = .ok perminfo

end

/-! ## What the walk checks -/

section
variable {acl : Acl}

mutual

/-- The check passes just when it passes for every entry of a table. -/
theorem check_view_perms_recursive_iff : ∀ query : Query,
    check_view_perms_recursive acl query = .ok () ↔ ∀ e ∈ query.tableEntries, checkEntry acl e = .ok ()
  | .mk _ _ _ rtable rteperminfos cteList nodes => by
    rw [check_view_perms_recursive, Lib.seq_eq_ok, checkRangeTable_iff rtable, checkCteList_iff cteList]
    simp only [Query.tableEntries, Query.entries, if_true, Bool.false_eq_true, if_false, List.append_nil,
      List.forall_mem_append]

/-- The check of a range table passes just when it passes for every entry of one. -/
theorem checkRangeTable_iff : ∀ (rtes : List RangeTblEntry) {rteperminfos : List RTEPermissionInfo},
    checkRangeTable acl rteperminfos rtes = .ok () ↔
      ∀ e ∈ rteEntries true false rteperminfos rtes, checkEntry acl e = .ok ()
  | [], _ => ⟨fun _ _ h => absurd h List.not_mem_nil, fun _ => rfl⟩
  | .RTE_SUBQUERY relation subquery nodes :: rtes, rteperminfos => by
    rw [checkRangeTable, Lib.seq_eq_ok, Lib.seq_eq_ok, check_view_perms_recursive_iff subquery,
      checkRangeTable_iff rtes]
    simp only [rteEntries, Bool.false_eq_true, if_false, List.append_nil, List.forall_mem_cons,
      List.forall_mem_append]
  | .other _ relation nodes :: rtes, rteperminfos => by
    rw [checkRangeTable, Lib.seq_eq_ok, checkRangeTable_iff rtes]
    simp only [rteEntries, Bool.false_eq_true, if_false, List.nil_append, List.forall_mem_cons]

/-- The check of the CTEs passes just when it passes for every entry of one. -/
theorem checkCteList_iff : ∀ cteList : List Query,
    checkCteList acl cteList = .ok () ↔ ∀ e ∈ queryEntries true false cteList, checkEntry acl e = .ok ()
  | [] => ⟨fun _ _ h => absurd h List.not_mem_nil, fun _ => rfl⟩
  | ctequery :: cteList => by
    rw [checkCteList, Lib.seq_eq_ok, check_view_perms_recursive_iff ctequery, checkCteList_iff cteList]
    simp only [queryEntries, List.forall_mem_append]

end

/-- The check of an entry whose permissions are found. -/
theorem checkEntry_iff {e : Entry}
    (h : e.relation.perminfoindex ≠ 0 → ∃ perminfo, getRTEPermissionInfo e = .ok perminfo) :
    checkEntry acl e = .ok () ↔ ¬Lacks acl e := by
  unfold checkEntry Lacks
  split
  next hview =>
    obtain ⟨perminfo, hperminfo⟩ := h hview.1
    rw [hperminfo]
    show (if acl.ExecCheckOneRelPerms perminfo = true then _ else _) = _ ↔ _
    split
    next hok =>
      refine iff_of_true rfl ?_
      rintro ⟨-, perminfo', hperminfo', hlacks⟩
      cases hperminfo'
      exact Bool.false_ne_true (hlacks.symm.trans hok)
    next hno =>
      refine iff_of_false nofun fun hnot => hnot ⟨hview.2, perminfo, rfl, ?_⟩
      exact Bool.eq_false_iff.2 hno
  next hview =>
    refine iff_of_true rfl ?_
    rintro ⟨hkind, perminfo, hperminfo, -⟩
    refine hview ⟨fun hzero => ?_, hkind⟩
    rw [getRTEPermissionInfo, hzero] at hperminfo
    cases hperminfo

mutual

/-- What is not in an expression is in the tree. -/
theorem tableEntries_subset : ∀ query : Query, query.tableEntries ⊆ query.allEntries
  | .mk _ _ _ rtable rteperminfos cteList nodes => by
    have hrtes := rteEntries_subset rtable rteperminfos
    have hctes := queryEntries_subset cteList
    simp only [Query.tableEntries, Query.allEntries, Query.entries, if_true, Bool.false_eq_true, if_false,
      List.append_nil]
    exact List.append_subset.2 ⟨fun e he => List.mem_append_left _ (List.mem_append_left _ (hrtes he)),
      fun e he => List.mem_append_left _ (List.mem_append_right _ (hctes he))⟩

/-- The entries outside the expressions are among all of them. -/
theorem queryEntries_subset : ∀ queries : List Query,
    queryEntries true false queries ⊆ queryEntries true true queries
  | [] => List.Subset.refl _
  | query :: queries => by
    simp only [queryEntries]
    exact List.append_subset.2 ⟨fun e he => List.mem_append_left _ (tableEntries_subset query he),
      fun e he => List.mem_append_right _ (queryEntries_subset queries he)⟩

/-- The entries outside the expressions are among all of them, in a range table. -/
theorem rteEntries_subset : ∀ (rtes : List RangeTblEntry) (rteperminfos : List RTEPermissionInfo),
    rteEntries true false rteperminfos rtes ⊆ rteEntries true true rteperminfos rtes
  | [], _ => List.Subset.refl _
  | .RTE_SUBQUERY relation subquery nodes :: rtes, rteperminfos => by
    have hsub := tableEntries_subset subquery
    have hrest := rteEntries_subset rtes rteperminfos
    simp only [rteEntries, if_true, Bool.false_eq_true, if_false, List.append_nil]
    refine List.cons_subset_cons _ (List.append_subset.2 ⟨fun e he => ?_, fun e he => ?_⟩)
    · exact List.mem_append_left _ (List.mem_append_left _ (hsub he))
    · exact List.mem_append_right _ (hrest he)
  | .other _ relation nodes :: rtes, rteperminfos => by
    have hrest := rteEntries_subset rtes rteperminfos
    simp only [rteEntries, if_true, Bool.false_eq_true, if_false, List.nil_append]
    exact List.cons_subset_cons _ fun e he => List.mem_append_right _ (hrest he)

end

/-- The walk returns if no view in a range table or a common table expression lacks a privilege. -/
theorem check_view_perms_recursive_lacks {query : Query} (hperms : HasPermInfos query) :
    check_view_perms_recursive acl query = .ok () ↔ ∀ e ∈ query.tableEntries, ¬Lacks acl e := by
  rw [check_view_perms_recursive_iff]
  exact forall₂_congr fun e he => checkEntry_iff (hperms e (tableEntries_subset query he))

end

/-! ## Views -/

/-- The privileges on all views of a query are checked exactly if, where they are missing for one in an
expression, they are missing for one in a range table or a common table expression as well. -/
theorem checksViews_iff (acl : Acl) (query : Query) (hperms : HasPermInfos query) :
    ChecksViews acl query ↔
      ((∃ e ∈ query.allEntries, Lacks acl e) → ∃ e ∈ query.tableEntries, Lacks acl e) := by
  refine imp_congr_right fun _ => ?_
  have hraises : (∃ error, check_view_perms_recursive acl query = .error error) ↔
      ¬check_view_perms_recursive acl query = .ok () := by
    cases check_view_perms_recursive acl query with
    | ok _ => exact iff_of_false nofun fun h => h rfl
    | error error => exact iff_of_true ⟨error, rfl⟩ nofun
  rw [hraises, check_view_perms_recursive_lacks hperms, not_forall₂]
  simp only [not_not, exists_prop]

/-- A role that may read every relation but the view 16400. -/
def withoutView : Acl where
  GetUserId := 10
  columns := fun _ => [1]
  pg_class_aclcheck := fun relid _ _ => relid != 16400
  pg_attribute_aclcheck := fun _ _ _ _ => false

/-- `SELECT a FROM v`, where the view `v` is `SELECT a FROM t`. -/
def selectFromView : Query :=
  .mk .CMD_SELECT false 0
    [.RTE_SUBQUERY ⟨16400, .RELKIND_VIEW, 1⟩
      (.mk .CMD_SELECT false 0 [.other .RTE_RELATION ⟨16384, .RELKIND_RELATION, 1⟩ []] [readsFirst 16384] [] []) []]
    [readsFirst 16400] [] []

/-- `SELECT a FROM t WHERE a IN (SELECT a FROM v)`. -/
def selectWhereIn : Query :=
  .mk .CMD_SELECT false 0 [.other .RTE_RELATION ⟨16384, .RELKIND_RELATION, 1⟩ []] [readsFirst 16384] []
    [.SubLink [.other []] selectFromView]

/-- The query of the example, with the check and without. -/
theorem checksViews_selectFromView : ChecksViews withoutView selectFromView ↔
    ((∃ e ∈ selectFromView.allEntries, Lacks withoutView e) →
      ∃ e ∈ selectFromView.tableEntries, Lacks withoutView e) := by
  refine checksViews_iff withoutView selectFromView fun e he _ => ?_
  have he : e = ⟨⟨16400, .RELKIND_VIEW, 1⟩, [readsFirst 16400]⟩ ∨
      e = ⟨⟨16384, .RELKIND_RELATION, 1⟩, [readsFirst 16384]⟩ := by
    simpa [selectFromView, Query.allEntries, Query.entries, rteEntries, queryEntries, nodeEntries] using he
  rcases he with rfl | rfl
  · exact ⟨readsFirst 16400, rfl⟩
  · exact ⟨readsFirst 16384, rfl⟩

/-- The view is in the expression alone, and no error is raised. -/
theorem not_checksViews_selectWhereIn : ¬ChecksViews withoutView selectWhereIn := by
  intro h
  obtain ⟨error, herror⟩ := h ⟨⟨⟨16400, .RELKIND_VIEW, 1⟩, [readsFirst 16400]⟩, by decide, rfl,
    readsFirst 16400, rfl, rfl⟩
  cases herror

end PgDuckdb.Queries
