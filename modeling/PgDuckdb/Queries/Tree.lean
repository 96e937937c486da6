import PgDuckdb.Queries.Privileges

/-!
# Query trees

A `Query` of PostgreSQL, as far as relations are referred to in it: its range table, its common table expressions
and its expressions, which are made of nodes and may have subqueries in them (`SubLink`). A subquery in the range
table is a query again, and so is a view that has been rewritten, which keeps the relation it was.

`Query.entries` has the entries of all range tables in a tree, or of those only that are reached without common
table expressions or without expressions. The walks over query trees are compared with it.
-/

namespace PgDuckdb.Queries

/-- The command that a query is. -/
inductive CmdType
  | CMD_SELECT
  | CMD_INSERT
  | CMD_UPDATE
  | CMD_DELETE
  | CMD_MERGE
  | CMD_UTILITY
  deriving DecidableEq, Repr

/-- `relkind`. -/
inductive RelKind
  | RELKIND_RELATION
  | RELKIND_VIEW
  | other (c : Char)
  deriving DecidableEq, Repr

/-- The kinds of range table entries other than `RTE_SUBQUERY`. -/
inductive RTEKind
  | RTE_RELATION
  | RTE_JOIN
  | RTE_FUNCTION
  | RTE_TABLEFUNC
  | RTE_VALUES
  | RTE_CTE
  | RTE_NAMEDTUPLESTORE
  | RTE_RESULT
  deriving DecidableEq, Repr

/-- The relation of a range table entry. `relid` is 0 where there is none, and so is `perminfoindex`. -/
structure RelationRef where
  relid : Oid
  relkind : RelKind
  perminfoindex : ℕ
  deriving DecidableEq, Repr

mutual

/-- `Query`. The nodes are those of its target list, its join tree, and all its other clauses. -/
inductive Query
  | mk (commandType : CmdType) (hasModifyingCTE : Bool) (resultRelation : ℕ) (rtable : List RangeTblEntry)
    (rteperminfos : List RTEPermissionInfo) (cteList : List Query) (nodes : List Node)

/-- `RangeTblEntry`, with the nodes of its functions, values and samples. -/
inductive RangeTblEntry
  | RTE_SUBQUERY (relation : RelationRef) (subquery : Query) (nodes : List Node)
  | other (rtekind : RTEKind) (relation : RelationRef) (nodes : List Node)

/-- A node of an expression. -/
inductive Node
  | SubLink (testexpr : List Node) (subselect : Query)
  | FuncExpr (funcid : Oid) (args : List Node)
  | Aggref (aggfnoid : Oid) (args : List Node)
  | other (children : List Node)

end

namespace Query

/-- The command of a query. -/
def commandType : Query → CmdType
  | mk commandType _ _ _ _ _ _ => commandType

/-- Whether a CTE of the query writes. -/
def hasModifyingCTE : Query → Bool
  | mk _ hasModifyingCTE _ _ _ _ _ => hasModifyingCTE

/-- The number of the table that a query writes. -/
def resultRelation : Query → ℕ
  | mk _ _ resultRelation _ _ _ _ => resultRelation

/-- The range table of a query. -/
def rtable : Query → List RangeTblEntry
  | mk _ _ _ rtable _ _ _ => rtable

end Query

/-- The relation that an entry stands for. -/
def RangeTblEntry.relation : RangeTblEntry → RelationRef
  | RTE_SUBQUERY relation _ _ | other _ relation _ => relation

/-! ## Entries -/

/-- An entry of a range table, with the permissions of the query that the table is of. -/
structure Entry where
  relation : RelationRef
  rteperminfos : List RTEPermissionInfo
  deriving DecidableEq, Repr

mutual

/-- The entries of a query tree. Common table expressions and expressions are entered on demand. -/
def Query.entries (ctes exprs : Bool) : Query → List Entry
  | .mk _ _ _ rtable rteperminfos cteList nodes =>
    rteEntries ctes exprs rteperminfos rtable ++ (if ctes then queryEntries ctes exprs cteList else []) ++
      (if exprs then nodeEntries ctes exprs nodes else [])

/-- The entries of a list of queries, as far as asked. -/
def queryEntries (ctes exprs : Bool) : List Query → List Entry
  | [] => []
  | query :: queries => query.entries ctes exprs ++ queryEntries ctes exprs queries

/-- The entries of a range table, as far as asked. -/
def rteEntries (ctes exprs : Bool) (rteperminfos : List RTEPermissionInfo) : List RangeTblEntry → List Entry
  | [] => []
  | .RTE_SUBQUERY relation subquery nodes :: rtes =>
    ⟨relation, rteperminfos⟩ :: (subquery.entries ctes exprs ++
      (if exprs then nodeEntries ctes exprs nodes else []) ++ rteEntries ctes exprs rteperminfos rtes)
  | .other _ relation nodes :: rtes =>
    ⟨relation, rteperminfos⟩ :: ((if exprs then nodeEntries ctes exprs nodes else []) ++
      rteEntries ctes exprs rteperminfos rtes)

/-- The entries of an expression, as far as asked. -/
def Node.entries (ctes exprs : Bool) : Node → List Entry
  | .SubLink testexpr subselect => nodeEntries ctes exprs testexpr ++ subselect.entries ctes exprs
  | .FuncExpr _ args | .Aggref _ args | .other args => nodeEntries ctes exprs args

/-- The entries of a list of expressions, as far as asked. -/
def nodeEntries (ctes exprs : Bool) : List Node → List Entry
  | [] => []
  | node :: nodes => node.entries ctes exprs ++ nodeEntries ctes exprs nodes

end

/-- All entries of a query tree. -/
abbrev Query.allEntries (query : Query) : List Entry := query.entries true true

/-- The entries that are reached through the range tables alone. -/
abbrev Query.fromEntries (query : Query) : List Entry := query.entries false false

/-- The entries that are not in expressions. -/
abbrev Query.tableEntries (query : Query) : List Entry := query.entries true false

end PgDuckdb.Queries
