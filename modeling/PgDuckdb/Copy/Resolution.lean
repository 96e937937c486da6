import PgDuckdb.Basic
import PgDuckdb.Pg.Lexer
import PgDuckdb.Queries.Allowed

/-!
# Names of relations

How PostgreSQL finds the relation that a name refers to (`RangeVarGetRelid`). A name with a schema is looked up in
that schema alone, and one without in the schemas of the active search path, one after the other. The path is made
of `search_path`, without the schemas that the user may not use, and has the schema for temporary tables and
`pg_catalog` in front of it, unless they have a place in it (`recomputeNamespacePath`).

A name without a schema refers to a relation exactly if its schema is the first one on the path that has a relation
of the name (`RelnameGetRelid_iff`).
-/

namespace PgDuckdb.Copy

open Pg (Text)
open Queries (PG_CATALOG_NAMESPACE)

/-- A relation by its name. -/
structure RangeVar where
  catalogname : Option Text
  schemaname : Option Text
  relname : Text
  deriving DecidableEq, Repr

/-- The schemas and relations of a database, as the current user sees them. -/
structure Namespaces where
  /-- `namespace_search_path`. -/
  search_path : List Text
  /-- The name of the user, which stands for `$user`. -/
  rolname : Text
  MyDatabase : Text
  get_namespace_oid : Text → Option Oid
  /-- The user has `USAGE` on the schema. -/
  usage : Oid → Bool
  myTempNamespace : Option Oid
  get_relname_relid : Text → Oid → Option Oid
  get_namespace_name : Oid → Text
  get_rel_name : Oid → Text
  relnamespace : Oid → Oid
  relation_of_relid : ∀ {relname namespaceId relid}, get_relname_relid relname namespaceId = some relid →
    get_rel_name relid = relname ∧ relnamespace relid = namespaceId

namespace Namespaces

variable (N : Namespaces)

/-! ## Looking up -/

/-- One name of `search_path`. -/
def searchName (oidlist : List Oid) (curname : Text) : List Oid :=
  if curname = "pg_temp".toList then
    match N.myTempNamespace with
    | some namespaceId => if namespaceId ∈ oidlist then oidlist else oidlist ++ [namespaceId]
    | none => oidlist
  else
    match N.get_namespace_oid (if curname = "$user".toList then N.rolname else curname) with
    | some namespaceId =>
      if namespaceId ∉ oidlist ∧ N.usage namespaceId = true then oidlist ++ [namespaceId] else oidlist
    | none => oidlist

/-- A schema that is searched first, unless it has a place already. -/
def searchFirst (namespaceId : Oid) (oidlist : List Oid) : List Oid :=
  if namespaceId ∈ oidlist then oidlist else namespaceId :: oidlist

/-- `recomputeNamespacePath`: the active search path. -/
def activeSearchPath : List Oid :=
  let oidlist := searchFirst PG_CATALOG_NAMESPACE (N.search_path.foldl N.searchName [])
  match N.myTempNamespace with
  | some namespaceId => searchFirst namespaceId oidlist
  | none => oidlist

/-- The relation of the name in the search path. -/
def RelnameGetRelid (relname : Text) : Option Oid :=
  N.activeSearchPath.findSome? (N.get_relname_relid relname)

/-- The namespace of a name that is given with one. -/
def LookupExplicitNamespace (nspname : Text) : Option Oid :=
  if nspname = "pg_temp".toList ∧ N.myTempNamespace.isSome = true then N.myTempNamespace
  else (N.get_namespace_oid nspname).filter N.usage

/-- The relation of the name. -/
def RangeVarGetRelid (relation : RangeVar) : Option Oid :=
  if relation.catalogname.any (· ≠ N.MyDatabase) then none
  else
    match relation.schemaname with
    | some nspname => (N.LookupExplicitNamespace nspname).bind (N.get_relname_relid relation.relname)
    | none => N.RelnameGetRelid relation.relname

/-! ## What is found -/

/-- The relation is in the first schema on the active search path that has one of its name. -/
def Visible (relid : Oid) : Prop :=
  ∃ before after, N.activeSearchPath = before ++ N.relnamespace relid :: after ∧
    ∀ namespaceId ∈ before, N.get_relname_relid (N.get_rel_name relid) namespaceId = none

section
variable {N} {relation : RangeVar} {relid : Oid}

/-- What is found by name has that name. -/
theorem get_rel_name_of_RangeVarGetRelid (h : N.RangeVarGetRelid relation = some relid) :
    N.get_rel_name relid = relation.relname ∧
      N.get_relname_relid (N.get_rel_name relid) (N.relnamespace relid) = some relid := by
  have hfound : ∃ namespaceId, N.get_relname_relid relation.relname namespaceId = some relid := by
    unfold RangeVarGetRelid at h
    split at h
    · cases h
    · split at h
      · obtain ⟨namespaceId, -, hrelid⟩ := Option.bind_eq_some_iff.1 h
        exact ⟨namespaceId, hrelid⟩
      · obtain ⟨before, namespaceId, after, -, hrelid, -⟩ := List.findSome?_eq_some_iff.1 h
        exact ⟨namespaceId, hrelid⟩
  obtain ⟨namespaceId, hrelid⟩ := hfound
  obtain ⟨hname, hnamespace⟩ := N.relation_of_relid hrelid
  rw [hname, hnamespace]
  exact ⟨rfl, hrelid⟩

/-- A name without a schema. -/
theorem RelnameGetRelid_iff
    (h : N.get_relname_relid (N.get_rel_name relid) (N.relnamespace relid) = some relid) :
    N.RelnameGetRelid (N.get_rel_name relid) = some relid ↔ N.Visible relid := by
  rw [RelnameGetRelid, List.findSome?_eq_some_iff]
  constructor
  · rintro ⟨before, namespaceId, after, hpath, hrelid, hbefore⟩
    rw [← (N.relation_of_relid hrelid).2] at hpath
    exact ⟨before, after, hpath, hbefore⟩
  · rintro ⟨before, after, hpath, hbefore⟩
    exact ⟨before, N.relnamespace relid, after, hpath, h, hbefore⟩

/-- What is found by a name without a schema is visible. -/
theorem visible_of_unqualified (hschema : relation.schemaname = none)
    (h : N.RangeVarGetRelid relation = some relid) : N.Visible relid := by
  obtain ⟨hname, hrelid⟩ := get_rel_name_of_RangeVarGetRelid h
  refine (RelnameGetRelid_iff hrelid).1 ?_
  unfold RangeVarGetRelid at h
  rw [hschema] at h
  split at h
  · cases h
  · rw [hname]
    exact h

end

end Namespaces

end PgDuckdb.Copy
