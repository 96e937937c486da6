import PgDuckdb.Copy.Reading

/-!
# ALTER TABLE for DuckDB

DuckDB takes one subcommand in an `ALTER TABLE`, so `pgduckdb_get_alter_tabledef` (`pgduckdb_ruleutils.cpp`) writes one
for each, with a semicolon after it. `CmdTokens` says which tokens are a subcommand of DuckDB with all that a given one
of PostgreSQL has; what DuckDB's own has no words for (a constraint that is deferrable, the storage of a column) is left
out.

The code writes a `CHECK` of a column with a semicolon after it and no blank in front, a `CHECK` of the table without a
name with an empty one, and never the names of other constraints, `IF EXISTS`, `USING`, a `COLLATE` after `TYPE` or the
namespace of an option. `Carried` is what is left.

Parsing and cooking an expression, its deparsing and the text of a type are parameters. Each gives a text with the
tokens that it is read as, with closed parentheses and no semicolon (`Deparsed`).
-/

namespace PgDuckdb.AlterTable

open Pg (Text quote_identifier)
open Cache (quote_literal_cstr)
open Copy (Backend DuckKeywords NameTokens Spelled signed enclosed error_ pgduckdb_relation_name dbAndSchema)
open Duck (Token Reads Separated)

/-! ## Statements -/

/-- What happens to whatever depends on what is dropped. -/
inductive DropBehavior
  | DROP_RESTRICT
  | DROP_CASCADE
  deriving DecidableEq, Repr

/-- What a constraint is, with `raw_expr` or `keys`. A constraint of a column has no keys. -/
inductive ConstrType (Expr : Type)
  | CONSTR_NULL
  | CONSTR_NOTNULL
  | CONSTR_DEFAULT (raw_expr : Option Expr)
  | CONSTR_CHECK (raw_expr : Expr)
  | CONSTR_PRIMARY (keys : List Text)
  | CONSTR_UNIQUE (keys : List Text)
  | other (tag : ℕ)
  deriving DecidableEq, Repr

/-- A constraint of a column or of the table. -/
structure Constraint (Expr : Type) where
  conname : Option Text
  contype : ConstrType Expr
  deriving DecidableEq, Repr

/-- A column that is added. -/
structure ColumnDef (TypeName Expr : Type) where
  colname : Text
  typeName : TypeName
  constraints : List (Constraint Expr)
  /-- The name of a collation, with its schema. -/
  collClause : Option (List Text)
  /-- `InvalidOid` is zero. -/
  collOid : Oid
  /-- After `USING`, if the type of the column is altered. -/
  raw_default : Option Expr
  deriving DecidableEq, Repr

/-- The value of an option. -/
inductive OptionArg
  | String (sval : Text)
  | Integer (ival : ℤ)
  | other (tag : ℕ)
  deriving DecidableEq, Repr

/-- An option of a command. -/
structure DefElem where
  defnamespace : Option Text
  defname : Text
  arg : Option OptionArg
  deriving DecidableEq, Repr

/-- A list of options, which has at least one. -/
structure RelOptions where
  first : DefElem
  rest : List DefElem
  deriving DecidableEq, Repr

/-- The options of a command, in order. -/
def RelOptions.toList (options : RelOptions) : List DefElem := options.first :: options.rest

/-- A subcommand; `missing_ok` is `IF EXISTS` or `IF NOT EXISTS`. -/
inductive AlterTableCmd (TypeName Expr : Type)
  | AT_AddColumn (col : ColumnDef TypeName Expr) (missing_ok : Bool)
  | AT_AlterColumnType (name : Text) (col : ColumnDef TypeName Expr)
  | AT_DropColumn (name : Text) (behavior : DropBehavior) (missing_ok : Bool)
  | AT_ColumnDefault (name : Text) (raw_expr : Option Expr)
  | AT_DropNotNull (name : Text)
  | AT_SetNotNull (name : Text)
  | AT_AddConstraint (constraint : Constraint Expr)
  | AT_DropConstraint (name : Text) (behavior : DropBehavior) (missing_ok : Bool)
  | AT_SetRelOptions (options : RelOptions)
  | AT_ResetRelOptions (options : RelOptions)
  | other (subtype : ℕ)
  deriving DecidableEq, Repr

/-! ## What is around the function -/

/-- A text with its tokens. -/
structure Deparsed where
  text : Text
  tokens : List Token
  reads : Reads text tokens
  closed : enclosed 0 tokens = true

/-- What the catalog says of a column of the table. -/
structure Attribute where
  atttypid : Oid
  atttypmod : ℤ
  attgenerated : Char
  deriving DecidableEq, Repr

/-- The relation that is altered. -/
structure Relation where
  oid : Oid
  relname : Text
  /-- It is a table. -/
  relkind_relation : Bool
  /-- How many foreign keys it has. -/
  fkeys : ℕ
  GetAttributeByName : Text → Option Attribute

/-- Types and expressions. -/
structure Deparser (TypeName Expr Node : Type) where
  /-- Of the one column. -/
  BuildDescForRelation : ColumnDef TypeName Expr → Except PgError Attribute
  format_type_with_typemod : Oid → ℤ → Deparsed
  cookDefault : Expr → Oid → ℤ → Text → Char → Except PgError Node
  cookConstraint : Expr → Text → Except PgError Node
  pgduckdb_deparse_expression : Node → Except PgError Deparsed

/-! ## The function -/

section
variable {TypeName Expr Node : Type} (b : Backend) (E : Deparser TypeName Expr Node) (relation : Relation)

/-- The type of a column. -/
def column_fq_type (att : Attribute) : Deparsed :=
  E.format_type_with_typemod att.atttypid att.atttypmod

/-- A default, deparsed. -/
def default_string (att : Attribute) (colname : Text) (raw_expr : Expr) : Except PgError Deparsed := do
  let expr ← E.cookDefault raw_expr att.atttypid att.atttypmod colname att.attgenerated
  E.pgduckdb_deparse_expression expr

/-- The condition of a check, deparsed. -/
def check_string (raw_expr : Expr) : Except PgError Deparsed := do
  let expr ← E.cookConstraint raw_expr relation.relname
  E.pgduckdb_deparse_expression expr

/-- A constraint of a column that is added. -/
def columnConstraint (att : Attribute) (colname : Text) (constraint : Constraint Expr) :
    Except PgError Text :=
  match constraint.contype with
  | .CONSTR_NULL => return " NULL".toList
  | .CONSTR_NOTNULL => return " NOT NULL".toList
  | .CONSTR_DEFAULT none => return []
  | .CONSTR_DEFAULT (some raw_expr) => do
    let default_string ← default_string E att colname raw_expr
    return " DEFAULT ".toList ++ default_string.text
  | .CONSTR_CHECK raw_expr => do
    let check_string ← check_string E relation raw_expr
    return "CHECK ".toList ++ ('(' :: check_string.text ++ "); ".toList)
  | .CONSTR_PRIMARY _ => return " PRIMARY KEY".toList
  | .CONSTR_UNIQUE _ => return " UNIQUE".toList
  | .other _ => error_ "pg_duckdb does not support this ALTER TABLE yet"

/-- `CASCADE` or `RESTRICT`. -/
def dropBehavior : DropBehavior → Text
  | .DROP_CASCADE => " CASCADE".toList
  | .DROP_RESTRICT => " RESTRICT".toList

/-- The columns of a key. -/
def keyList (keys : List Text) : Text := ", ".toList.intercalate (keys.map (quote_identifier b.K))

/-- A constraint that is added to the table. -/
def tableConstraint (constraint : Constraint Expr) : Except PgError Text :=
  match constraint.contype with
  | .CONSTR_CHECK raw_expr => do
    let check_string ← check_string E relation raw_expr
    return "CONSTRAINT ".toList ++ (quote_identifier b.K (constraint.conname.getD []) ++
      (" CHECK ".toList ++ ('(' :: check_string.text ++ "); ".toList)))
  | .CONSTR_PRIMARY keys => return "PRIMARY KEY ".toList ++ ('(' :: keyList b keys ++ "); ".toList)
  | .CONSTR_UNIQUE keys => return "UNIQUE ".toList ++ ('(' :: keyList b keys ++ "); ".toList)
  | _ => error_ "DuckDB does not support this constraint type"

/-- An option that is set or reset. -/
def relOption (is_set : Bool) (option : DefElem) : Except PgError Text :=
  match is_set, option.arg with
  | true, some (.String val) => return quote_identifier b.K option.defname ++ " = ".toList ++ quote_literal_cstr val
  | true, some (.Integer val) => return quote_identifier b.K option.defname ++ " = ".toList ++ (toString val).toList
  | true, some (.other _) => error_ "Unsupported option value type"
  | _, _ => return quote_identifier b.K option.defname

/-- The options in parentheses. -/
def relOptions (is_set : Bool) (options : RelOptions) : Except PgError Text := do
  let texts ← options.toList.mapM (relOption b is_set)
  return '(' :: ", ".toList.intercalate texts ++ "); ".toList

/-- A subcommand, after the name of the relation. -/
def alterTableCmd (relation_name : Text) : AlterTableCmd TypeName Expr → Except PgError Text
  | .AT_AddColumn col _ => do
    let att ← E.BuildDescForRelation col
    let constraints ← col.constraints.mapM (columnConstraint E relation att col.colname)
    if col.collClause.isSome ∨ col.collOid ≠ 0 then error_ "Column collations are not supported in DuckDB"
    else
      return "ADD COLUMN ".toList ++ (quote_identifier b.K col.colname ++ (' ' :: (column_fq_type E att).text)) ++
        constraints.flatten ++ "; ".toList
  | .AT_AlterColumnType column_name col => do
    let att ← E.BuildDescForRelation col
    return "ALTER COLUMN ".toList ++ (quote_identifier b.K column_name ++
      (" TYPE ".toList ++ ((column_fq_type E att).text ++ "; ".toList)))
  | .AT_DropColumn name behavior _ =>
    return "DROP COLUMN ".toList ++ (quote_identifier b.K name ++ (dropBehavior behavior ++ "; ".toList))
  | .AT_ColumnDefault column_name raw_expr =>
    match relation.GetAttributeByName column_name with
    | none =>
      error_ ("Column " ++ String.ofList column_name ++ " not found in table " ++ String.ofList relation_name)
    | some att =>
      match raw_expr with
      | some raw_expr => do
        let default_string ← default_string E att column_name raw_expr
        return "ALTER COLUMN ".toList ++ (quote_identifier b.K column_name ++
          (" SET DEFAULT ".toList ++ (default_string.text ++ "; ".toList)))
      | none =>
        return "ALTER COLUMN ".toList ++ (quote_identifier b.K column_name ++ " DROP DEFAULT; ".toList)
  | .AT_DropNotNull name =>
    return "ALTER COLUMN ".toList ++ (quote_identifier b.K name ++ " DROP NOT NULL; ".toList)
  | .AT_SetNotNull name => return "ALTER COLUMN ".toList ++ (quote_identifier b.K name ++ " SET NOT NULL; ".toList)
  | .AT_AddConstraint constraint => do
    let text ← tableConstraint b E relation constraint
    return "ADD ".toList ++ text
  | .AT_DropConstraint name behavior _ =>
    return "DROP CONSTRAINT ".toList ++ (quote_identifier b.K name ++ (dropBehavior behavior ++ "; ".toList))
  | .AT_SetRelOptions options => do
    let text ← relOptions b true options
    return "SET ".toList ++ text
  | .AT_ResetRelOptions options => do
    let text ← relOptions b false options
    return "RESET ".toList ++ text
  | .other _ => error_ "DuckDB does not support this ALTER TABLE command"

/-- `pgduckdb_get_alter_tabledef`, of the subcommands of a statement. -/
def pgduckdb_get_alter_tabledef (cmds : List (AlterTableCmd TypeName Expr)) : Except PgError Text := do
  let relation_name ← pgduckdb_relation_name b relation.oid
  if relation.relkind_relation = false then error_ "Only regular tables are supported in DuckDB"
  else if 0 < relation.fkeys then error_ "DuckDB tables do not support foreign keys"
  else
    let texts ← cmds.mapM (alterTableCmd b E relation relation_name)
    return texts.flatMap fun text => "ALTER TABLE ".toList ++ (relation_name ++ ' ' :: text)

/-! ## Statements as tokens -/

/-- A word of the grammar. -/
def word (w : String) : Token := .word w.toList

variable (D : DuckKeywords)

/-- The name of a constraint, if it has one. -/
inductive ConstraintName : Option Text → List Token → Prop
  | none : ConstraintName none []
  | some {name : Text} {ts : List Token} : NameTokens D.notColId name ts →
      ConstraintName (some name) (word "CONSTRAINT" :: ts)

/-- `IF NOT EXISTS`. -/
def ifNotExists (missing_ok : Bool) : List Token :=
  if missing_ok then [word "IF", word "NOT", word "EXISTS"] else []

/-- `IF EXISTS`. -/
def ifExists (missing_ok : Bool) : List Token := if missing_ok then [word "IF", word "EXISTS"] else []

/-- The token of what happens to dependents. -/
def behaviorToken : DropBehavior → Token
  | .DROP_CASCADE => word "CASCADE"
  | .DROP_RESTRICT => word "RESTRICT"

/-- A name with its schema. -/
inductive QualifiedName : List Text → List Token → Prop
  | single {name : Text} {t : Token} : t.name? = some name → QualifiedName [name] [t]
  | cons {name : Text} {names : List Text} {t : Token} {ts : List Token} : t.name? = some name →
      QualifiedName names ts → QualifiedName (name :: names) (t :: .dot :: ts)

/-- The collation of a type. -/
inductive CollateTokens : Option (List Text) → List Token → Prop
  | none : CollateTokens none []
  | some {names : List Text} {ts : List Token} : QualifiedName names ts →
      CollateTokens (some names) (word "COLLATE" :: ts)

/-- The expression that a value of the new type comes from, whatever its tokens are. -/
inductive UsingTokens : Option Expr → List Token → Prop
  | none : UsingTokens none []
  | some {raw_expr : Expr} {ts : List Token} : enclosed 0 ts = true →
      UsingTokens (some raw_expr) (word "USING" :: ts)

/-- What a constraint of a column is. -/
inductive ColumnElem (att : Attribute) (colname : Text) : ConstrType Expr → List Token → Prop
  | null : ColumnElem att colname .CONSTR_NULL [word "NULL"]
  | notNull : ColumnElem att colname .CONSTR_NOTNULL [word "NOT", word "NULL"]
  | default {raw_expr : Expr} {d : Deparsed} : default_string E att colname raw_expr = .ok d →
      ColumnElem att colname (.CONSTR_DEFAULT (some raw_expr)) (word "DEFAULT" :: d.tokens)
  | check {raw_expr : Expr} {d : Deparsed} : check_string E relation raw_expr = .ok d →
      ColumnElem att colname (.CONSTR_CHECK raw_expr) (word "CHECK" :: .lparen :: d.tokens ++ [.rparen])
  | primary {keys : List Text} : ColumnElem att colname (.CONSTR_PRIMARY keys) [word "PRIMARY", word "KEY"]
  | unique {keys : List Text} : ColumnElem att colname (.CONSTR_UNIQUE keys) [word "UNIQUE"]

/-- A constraint of a column. A default without an expression is none. -/
inductive ColumnConstraint (att : Attribute) (colname : Text) : Constraint Expr → List Token → Prop
  | noDefault {conname : Option Text} : ColumnConstraint att colname ⟨conname, .CONSTR_DEFAULT none⟩ []
  | elem {conname : Option Text} {contype : ConstrType Expr} {name ts : List Token} :
      ConstraintName D conname name → ColumnElem E relation att colname contype ts →
      ColumnConstraint att colname ⟨conname, contype⟩ (name ++ ts)

/-- What a constraint of a table is. A key has a column. -/
inductive TableElem : ConstrType Expr → List Token → Prop
  | check {raw_expr : Expr} {d : Deparsed} : check_string E relation raw_expr = .ok d →
      TableElem (.CONSTR_CHECK raw_expr) (word "CHECK" :: .lparen :: d.tokens ++ [.rparen])
  | primary {keys : List Text} {ts : List Token} : keys ≠ [] → Separated (NameTokens D.notColId) keys ts →
      TableElem (.CONSTR_PRIMARY keys) (word "PRIMARY" :: word "KEY" :: .lparen :: ts ++ [.rparen])
  | unique {keys : List Text} {ts : List Token} : keys ≠ [] → Separated (NameTokens D.notColId) keys ts →
      TableElem (.CONSTR_UNIQUE keys) (word "UNIQUE" :: .lparen :: ts ++ [.rparen])

/-- The name of an option, with its namespace. -/
inductive OptionName : DefElem → List Token → Prop
  | plain {defname : Text} {arg : Option OptionArg} {t : Token} : t.name? = some defname →
      OptionName ⟨none, defname, arg⟩ [t]
  | qualified {defnamespace defname : Text} {arg : Option OptionArg} {t t' : Token} :
      t.name? = some defnamespace → t'.name? = some defname →
      OptionName ⟨some defnamespace, defname, arg⟩ [t, .dot, t']

/-- The value of an option. -/
inductive OptionValue : Option OptionArg → List Token → Prop
  | none : OptionValue none []
  | string {sval : Text} : OptionValue (some (.String sval)) [.op ['='], .str sval]
  | integer {ival : ℤ} :
      OptionValue (some (.Integer ival)) (.op ['='] :: signed (ival < 0) (Nat.toDigits 10 ival.natAbs))

/-- An option that is set. -/
inductive SetOption (option : DefElem) : List Token → Prop
  | mk {name value : List Token} : OptionName option name → OptionValue option.arg value →
      SetOption option (name ++ value)

/-- A subcommand, after the name of the relation. -/
inductive CmdTokens : AlterTableCmd TypeName Expr → List Token → Prop
  | addColumn {col : ColumnDef TypeName Expr} {missing_ok : Bool} {att : Attribute} {name collate : List Token}
      {constraints : List (List Token)} : E.BuildDescForRelation col = .ok att →
      NameTokens D.notColId col.colname name → CollateTokens col.collClause collate →
      List.Forall₂ (ColumnConstraint E relation D att col.colname) col.constraints constraints →
      CmdTokens (.AT_AddColumn col missing_ok) ([word "ADD", word "COLUMN"] ++ ifNotExists missing_ok ++ name ++
        (column_fq_type E att).tokens ++ collate ++ constraints.flatten)
  | alterColumnType {column_name : Text} {col : ColumnDef TypeName Expr} {att : Attribute}
      {name collate using_ : List Token} : E.BuildDescForRelation col = .ok att →
      NameTokens D.notColId column_name name → CollateTokens col.collClause collate →
      UsingTokens col.raw_default using_ →
      CmdTokens (.AT_AlterColumnType column_name col) ([word "ALTER", word "COLUMN"] ++ name ++ [word "TYPE"] ++
        (column_fq_type E att).tokens ++ collate ++ using_)
  | dropColumn {name : Text} {behavior : DropBehavior} {missing_ok : Bool} {ts : List Token} :
      NameTokens D.notColId name ts →
      CmdTokens (.AT_DropColumn name behavior missing_ok)
        ([word "DROP", word "COLUMN"] ++ ifExists missing_ok ++ ts ++ [behaviorToken behavior])
  | setDefault {column_name : Text} {att : Attribute} {raw_expr : Expr} {d : Deparsed} {ts : List Token} :
      relation.GetAttributeByName column_name = some att → default_string E att column_name raw_expr = .ok d →
      NameTokens D.notColId column_name ts →
      CmdTokens (.AT_ColumnDefault column_name (some raw_expr))
        ([word "ALTER", word "COLUMN"] ++ ts ++ [word "SET", word "DEFAULT"] ++ d.tokens)
  | dropDefault {column_name : Text} {ts : List Token} : NameTokens D.notColId column_name ts →
      CmdTokens (.AT_ColumnDefault column_name none)
        ([word "ALTER", word "COLUMN"] ++ ts ++ [word "DROP", word "DEFAULT"])
  | dropNotNull {name : Text} {ts : List Token} : NameTokens D.notColId name ts →
      CmdTokens (.AT_DropNotNull name)
        ([word "ALTER", word "COLUMN"] ++ ts ++ [word "DROP", word "NOT", word "NULL"])
  | setNotNull {name : Text} {ts : List Token} : NameTokens D.notColId name ts →
      CmdTokens (.AT_SetNotNull name)
        ([word "ALTER", word "COLUMN"] ++ ts ++ [word "SET", word "NOT", word "NULL"])
  | addConstraint {constraint : Constraint Expr} {name ts : List Token} :
      ConstraintName D constraint.conname name → TableElem E relation D constraint.contype ts →
      CmdTokens (.AT_AddConstraint constraint) (word "ADD" :: name ++ ts)
  | dropConstraint {name : Text} {behavior : DropBehavior} {missing_ok : Bool} {ts : List Token} :
      NameTokens D.notColId name ts →
      CmdTokens (.AT_DropConstraint name behavior missing_ok)
        ([word "DROP", word "CONSTRAINT"] ++ ifExists missing_ok ++ ts ++ [behaviorToken behavior])
  | setRelOptions {options : RelOptions} {ts : List Token} : Separated SetOption options.toList ts →
      CmdTokens (.AT_SetRelOptions options) (word "SET" :: .lparen :: ts ++ [.rparen])
  | resetRelOptions {options : RelOptions} {ts : List Token} : Separated OptionName options.toList ts →
      CmdTokens (.AT_ResetRelOptions options) (word "RESET" :: .lparen :: ts ++ [.rparen])

/-- The relation in DuckDB. -/
inductive RelationTokens : List Token → Prop
  | mk {db_name schema_name : Text} {database : List Token} {schema relname : Token} :
      dbAndSchema b relation.oid = .ok (db_name, schema_name) → NameTokens D.notColId db_name database →
      schema.name? = some schema_name → relname.name? = some (b.N.get_rel_name relation.oid) →
      RelationTokens (database ++ [.dot, schema, .dot, relname])

/-- The tokens are one statement, without its semicolon. -/
inductive StatementTokens (cmd : AlterTableCmd TypeName Expr) : List Token → Prop
  | mk {table ts : List Token} : RelationTokens b relation D table → CmdTokens E relation D cmd ts →
      StatementTokens cmd ([word "ALTER", word "TABLE"] ++ table ++ ts)

/-- The text is read as one statement for each subcommand, in their order, each with a semicolon after it. -/
def SplitsInto (cmds : List (AlterTableCmd TypeName Expr)) (text : Text) : Prop :=
  ∃ tss, List.Forall₂ (StatementTokens b E relation D) cmds tss ∧
    Duck.lex text = some (tss.flatMap fun ts => ts ++ [Token.semicolon])

/-! ## When it is -/

/-- A constraint of a column is in the text as it is. -/
def Constraint.Carried (constraint : Constraint Expr) : Prop :=
  constraint.contype = .CONSTR_DEFAULT none ∨
    constraint.conname = none ∧ ∀ raw_expr, constraint.contype ≠ .CONSTR_CHECK raw_expr

/-- A subcommand is. -/
def Carried : AlterTableCmd TypeName Expr → Prop
  | .AT_AddColumn col missing_ok => missing_ok = false ∧ Spelled b D.notColId col.colname ∧
      ∀ constraint ∈ col.constraints, constraint.Carried
  | .AT_AlterColumnType column_name col => Spelled b D.notColId column_name ∧ col.collClause = none ∧
      col.raw_default = none
  | .AT_DropColumn name _ missing_ok => missing_ok = false ∧ Spelled b D.notColId name
  | .AT_ColumnDefault column_name _ => Spelled b D.notColId column_name
  | .AT_DropNotNull name | .AT_SetNotNull name => Spelled b D.notColId name
  | .AT_AddConstraint ⟨conname, contype⟩ =>
    match contype with
    | .CONSTR_CHECK _ => ∃ name, conname = some name ∧ Spelled b D.notColId name
    | .CONSTR_PRIMARY keys | .CONSTR_UNIQUE keys => conname = none ∧ keys ≠ [] ∧
        ∀ key ∈ keys, Spelled b D.notColId key
    | _ => True
  | .AT_DropConstraint name _ missing_ok => missing_ok = false ∧ Spelled b D.notColId name
  | .AT_SetRelOptions options | .AT_ResetRelOptions options =>
    ∀ option ∈ options.toList, option.defnamespace = none
  | .other _ => True

/-- The name of the database needs no quotes to DuckDB if it needs none to PostgreSQL. -/
def DatabaseSpelled : Prop :=
  ∀ db_name schema_name, dbAndSchema b relation.oid = .ok (db_name, schema_name) → Spelled b D.notColId db_name

end

end PgDuckdb.AlterTable
