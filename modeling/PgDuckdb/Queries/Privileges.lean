import Mathlib.Data.List.Basic

/-!
# Privileges on relations

The privileges of roles on relations and their columns, and what PostgreSQL's executor asks of them for one
relation of a query (`ExecCheckOneRelPerms`). A privilege that is missing on the relation may be there for the
columns, and where no column is named, it is enough to have it for any column.
-/

namespace PgDuckdb.Queries

/-- The number of a row. -/
abbrev Oid := ℕ

/-- The number of a column. -/
abbrev AttrNumber := ℕ

/-- `AclMode`, one bit of it. -/
inductive AclMode
  | ACL_SELECT
  | ACL_INSERT
  | ACL_UPDATE
  | ACL_DELETE
  /-- Any other privilege, which is of relations only. -/
  | other (n : ℕ)
  deriving DecidableEq, Repr

/-- The privileges that there are for columns. -/
def AclMode.ofColumns : AclMode → Bool
  | ACL_SELECT | ACL_INSERT | ACL_UPDATE => true
  | _ => false

/-- Who may do what. -/
structure Acl where
  GetUserId : Oid
  /-- The columns of a relation that are not dropped. -/
  columns : Oid → List AttrNumber
  /-- `pg_class_aclcheck`, of a relation, a role and a privilege. -/
  pg_class_aclcheck : Oid → Oid → AclMode → Bool
  /-- `pg_attribute_aclcheck`, of a relation, a column, a role and a privilege. -/
  pg_attribute_aclcheck : Oid → AttrNumber → Oid → AclMode → Bool

/-- `RTEPermissionInfo`. A query with a reference to a whole row names all columns. -/
structure RTEPermissionInfo where
  relid : Oid
  requiredPerms : List AclMode
  /-- `none` for the current user. -/
  checkAsUser : Option Oid
  selectedCols : List AttrNumber
  insertedCols : List AttrNumber
  updatedCols : List AttrNumber
  deriving DecidableEq, Repr

namespace RTEPermissionInfo

/-- The columns for which a privilege is asked. -/
def cols (perminfo : RTEPermissionInfo) : AclMode → List AttrNumber
  | .ACL_SELECT => perminfo.selectedCols
  | .ACL_INSERT => perminfo.insertedCols
  | .ACL_UPDATE => perminfo.updatedCols
  | _ => []

end RTEPermissionInfo

namespace Acl

variable (acl : Acl)

/-- A privilege on some columns, or if there are none, on any column of the relation. -/
def holdsOnColumns (relid userid : Oid) (cols : List AttrNumber) (mode : AclMode) : Bool :=
  if cols.isEmpty then (acl.columns relid).any fun attno => acl.pg_attribute_aclcheck relid attno userid mode
  else cols.all fun attno => acl.pg_attribute_aclcheck relid attno userid mode

/-- A privilege on a relation, or for the columns that it is asked for. -/
def holds (relid userid : Oid) (cols : List AttrNumber) (mode : AclMode) : Bool :=
  acl.pg_class_aclcheck relid userid mode || (mode.ofColumns && acl.holdsOnColumns relid userid cols mode)

/-- `ExecCheckOneRelPerms`. -/
def ExecCheckOneRelPerms (perminfo : RTEPermissionInfo) : Bool :=
  let userid := perminfo.checkAsUser.getD acl.GetUserId
  perminfo.requiredPerms.all fun mode => acl.holds perminfo.relid userid (perminfo.cols mode) mode

end Acl

end PgDuckdb.Queries
