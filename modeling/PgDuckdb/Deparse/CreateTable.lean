import PgDuckdb.Deparse.AlterTable

/-!
# CREATE TABLE for DuckDB

`pgduckdb_get_tabledef` (`pgduckdb_ruleutils.cpp`) writes the statements that make a table in DuckDB out of what the
catalog of PostgreSQL says about it: the schema, and the columns with their types, defaults and `NOT NULL`, and the
`CHECK` constraints of the table. It goes over the columns and over the list of defaults at the same time, and the
two stay together because the list is in the order of the columns (`Relation.aligned`).

`DefinitionTokens` says which tokens are the definition, each default found by the number of its column.
`readsAsTable_iff` is when the text is read as that.
-/

namespace PgDuckdb.CreateTable

open Pg (Text quote_identifier)
open Copy (Backend DuckKeywords NameTokens Spelled error_ pgduckdb_relation_name dbAndSchema nameToken nameTokens_iff
  readsName_quote_identifier not_digit_quote_identifier name?_nameToken)
open AlterTable (Deparsed word)
open Duck (Token Reads Separated lexRun)

/-! ## What the catalog says -/

/-- `Form_pg_attribute`. -/
structure Column where
  attname : Text
  attisdropped : Bool
  atttypid : Oid
  atttypmod : ℤ
  /-- It is compressed in a way of its own. -/
  attcompression : Bool
  attidentity : Bool
  atthasdef : Bool
  /-- Zero, or how it is generated. -/
  attgenerated : Char
  attnotnull : Bool
  attcollation : Oid
  deriving DecidableEq, Repr

/-- `AttrDefault`, with the node that `adbin` is read as. -/
structure AttrDefault (Node : Type) where
  adnum : ℕ
  adbin : Node

/-- `ConstrCheck`. -/
structure ConstrCheck (Node : Type) where
  ccname : Text
  ccbin : Node

/-- A column that has a default. -/
def Column.defaults (column : Column) : Bool := !column.attisdropped && column.atthasdef

/-- The numbers of the columns with a default, which are counted from `i + 1` on. -/
def defaultNumbers : ℕ → List Column → List ℕ
  | _, [] => []
  | i, column :: columns =>
    if column.defaults then (i + 1) :: defaultNumbers (i + 1) columns else defaultNumbers (i + 1) columns

/-- `Relation`. -/
structure Relation (Node : Type) where
  oid : Oid
  relkind : Char
  relispartition : Bool
  relpersistence : Char
  relowner : Oid
  /-- How many foreign keys it has. -/
  fkeys : ℕ
  columns : List Column
  defval : List (AttrDefault Node)
  check : List (ConstrCheck Node)
  IsDuckdbTableAm : Bool
  /-- It has storage options. -/
  rd_options : Bool
  /-- PostgreSQL keeps the defaults in the order of their columns. -/
  aligned : defval.map (·.adnum) = defaultNumbers 0 columns

/-- Types and expressions. -/
structure Deparser (Node : Type) where
  /-- The type has one of DuckDB, and that one a type of PostgreSQL. -/
  checkColumnType : Oid → ℤ → Except PgError Unit
  format_type_with_typemod : Oid → ℤ → Deparsed
  pgduckdb_deparse_expression : Node → Except PgError Deparsed
  IsCLocale : Oid → Bool

/-- The kind of a table. -/
def RELKIND_RELATION : Char := 'r'
/-- The kind of a partitioned table. -/
def RELKIND_PARTITIONED_TABLE : Char := 'p'
/-- The persistence of a permanent relation. -/
def RELPERSISTENCE_PERMANENT : Char := 'p'
/-- The persistence of a temporary relation. -/
def RELPERSISTENCE_TEMP : Char := 't'
/-- The mark of a stored generated column. -/
def ATTRIBUTE_GENERATED_STORED : Char := 's'
/-- The collation of a type without one. -/
def DEFAULT_COLLATION_OID : Oid := 100

/-! ## The function -/

section
variable {Node : Type} (b : Backend) (E : Deparser Node) (MotherDuckPostgresUserOid : Oid)

/-- The default of a column. -/
def defaultText (column : Column) : Option Node → Except PgError Text
  | none => return []
  | some default_node => do
    let default_string ← E.pgduckdb_deparse_expression default_node
    if column.attgenerated = '\x00' then return " DEFAULT ".toList ++ default_string.text
    else if column.attgenerated = ATTRIBUTE_GENERATED_STORED then
      error_ "DuckDB does not support STORED generated columns"
    else error_ "Unkown generated column type"

/-- NOT NULL, where the column is so. -/
def notNullText (column : Column) : Text := if column.attnotnull then " NOT NULL".toList else []

/-- A column with its default. -/
def columnText (column : Column) (default_node : Option Node) : Except PgError Text := do
  E.checkColumnType column.atttypid column.atttypmod
  let column_type_name := E.format_type_with_typemod column.atttypid column.atttypmod
  if column.attcompression then error_ "Column compression is not supported in DuckDB"
  else if column.attidentity then error_ "Identity columns are not supported in DuckDB"
  else
    let default_text ← defaultText E column default_node
    if column.attcollation ≠ 0 ∧ column.attcollation ≠ DEFAULT_COLLATION_OID ∧
        E.IsCLocale column.attcollation = false then
      error_ "DuckDB does not support column collations"
    else
      return quote_identifier b.K column.attname ++
        ' ' :: (column_type_name.text ++ (default_text ++ notNullText column))

/-- The loop over the columns. -/
def columnTexts : List Column → List (AttrDefault Node) → Except PgError (List Text)
  | [], _ => return []
  | column :: columns, defval =>
    if column.attisdropped then columnTexts columns defval
    else if column.atthasdef then
      match defval with
      | [] => error_ "Assert(default_value_list != NULL)"
      | default_value :: defval => do
        let text ← columnText b E column (some default_value.adbin)
        let texts ← columnTexts columns defval
        return text :: texts
    else do
      let text ← columnText b E column none
      let texts ← columnTexts columns defval
      return text :: texts

/-- A constraint of the table. -/
def checkText (check_constraint : ConstrCheck Node) : Except PgError Text := do
  let check_string ← E.pgduckdb_deparse_expression check_constraint.ccbin
  return "CONSTRAINT ".toList ++ (quote_identifier b.K check_constraint.ccname ++
    (" CHECK ".toList ++ ('(' :: check_string.text ++ [')'])))

/-- `pgduckdb_get_tabledef`. -/
def pgduckdb_get_tabledef (relation : Relation Node) : Except PgError Text := do
  let relation_name ← pgduckdb_relation_name b relation.oid
  let (db_name, schema_name) ← dbAndSchema b relation.oid
  let db_and_schema := quote_identifier b.K db_name ++ '.' :: quote_identifier b.K schema_name
  if relation.relkind = RELKIND_PARTITIONED_TABLE then
    error_ "Using duckdb as a table access method on a partitioned table is not supported"
  else if relation.relkind ≠ RELKIND_RELATION then error_ "Only regular tables are supported in DuckDB"
  else if relation.relispartition then error_ "DuckDB tables cannot be used as a partition"
  else if relation.relpersistence ≠ RELPERSISTENCE_TEMP ∧ relation.relpersistence ≠ RELPERSISTENCE_PERMANENT then
    error_ "Only TEMP and non-UNLOGGED tables are supported in DuckDB"
  else if relation.relpersistence ≠ RELPERSISTENCE_TEMP ∧ relation.relowner ≠ MotherDuckPostgresUserOid then
    error_ "MotherDuck tables must be owned by the duckb.postgres_role"
  else if 0 < relation.fkeys then error_ "DuckDB tables do not support foreign keys"
  else
    let columns ← columnTexts b E relation.columns relation.defval
    let checks ← relation.check.mapM (checkText b E)
    if relation.IsDuckdbTableAm = false then error_ "Only a table with the DuckDB can be stored in DuckDB"
    else if relation.rd_options then error_ "Storage options are not supported in DuckDB"
    else
      return "CREATE SCHEMA IF NOT EXISTS ".toList ++ (db_and_schema ++ ("; CREATE TABLE ".toList ++
        (relation_name ++ ' ' :: ('(' :: ", ".toList.intercalate (columns ++ checks) ++ [')']))))

/-! ## The definition as tokens -/

variable (D : DuckKeywords)

/-- The default of a column. -/
inductive DefaultTokens : Option Node → List Token → Prop
  | none : DefaultTokens none []
  | some {default_node : Node} {d : Deparsed} : E.pgduckdb_deparse_expression default_node = .ok d →
      DefaultTokens (some default_node) (word "DEFAULT" :: d.tokens)

/-- The tokens of NOT NULL, where the column is so. -/
def notNullTokens (column : Column) : List Token :=
  if column.attnotnull then [word "NOT", word "NULL"] else []

/-- What is in the parentheses: a column with its default, or a constraint. -/
inductive Element (Node : Type)
  | column (column : Column) (default_node : Option Node)
  | check (check_constraint : ConstrCheck Node)

/-- The tokens of an element, in any of its spellings. -/
inductive ElementTokens : Element Node → List Token → Prop
  | column {column : Column} {default_node : Option Node} {name default : List Token} :
      NameTokens D.notColId column.attname name → DefaultTokens E default_node default →
      ElementTokens (.column column default_node)
        (name ++ (E.format_type_with_typemod column.atttypid column.atttypmod).tokens ++ default ++
          notNullTokens column)
  | check {check_constraint : ConstrCheck Node} {name : List Token} {d : Deparsed} :
      NameTokens D.notColId check_constraint.ccname name →
      E.pgduckdb_deparse_expression check_constraint.ccbin = .ok d →
      ElementTokens (.check check_constraint)
        (word "CONSTRAINT" :: name ++ [word "CHECK"] ++ (.lparen :: d.tokens ++ [.rparen]))

/-- The default of the column with this number. -/
def Relation.defaultOf (relation : Relation Node) (n : ℕ) : Option Node :=
  (relation.defval.find? fun default_value => default_value.adnum = n).map (·.adbin)

/-- The columns that have not been dropped, counted from `i + 1` on, each with the default of its number. -/
def Relation.columnElements (relation : Relation Node) : ℕ → List Column → List (Element Node)
  | _, [] => []
  | i, column :: columns =>
    if column.attisdropped then relation.columnElements (i + 1) columns
    else .column column (if column.atthasdef then relation.defaultOf (i + 1) else none) ::
      relation.columnElements (i + 1) columns

/-- The elements of a relation, columns and checks. -/
def Relation.elements (relation : Relation Node) : List (Element Node) :=
  relation.columnElements 0 relation.columns ++ relation.check.map .check

/-- The database and the schema of the relation in DuckDB. -/
inductive SchemaTokens (relation : Relation Node) : List Token → Prop
  | mk {db_name schema_name : Text} {database : List Token} {schema : Token} :
      dbAndSchema b relation.oid = .ok (db_name, schema_name) → NameTokens D.notColId db_name database →
      schema.name? = some schema_name → SchemaTokens relation (database ++ [.dot, schema])

/-- The schema is made if it is not there, and in it the table with all its columns and constraints, of which there
must be a column. -/
inductive DefinitionTokens (relation : Relation Node) : List Token → Prop
  | mk {schema schema' ts : List Token} {relname : Token} : SchemaTokens b D relation schema →
      SchemaTokens b D relation schema' → relname.name? = some (b.N.get_rel_name relation.oid) →
      relation.columnElements 0 relation.columns ≠ [] →
      Separated (ElementTokens E D) relation.elements ts →
      DefinitionTokens relation ([word "CREATE", word "SCHEMA", word "IF", word "NOT", word "EXISTS"] ++ schema ++
        [.semicolon, word "CREATE", word "TABLE"] ++ schema' ++ [.dot, relname] ++ (.lparen :: ts ++ [.rparen]))

/-- The text is read as the definition of the relation. -/
def ReadsAsTable (relation : Relation Node) (text : Text) : Prop :=
  ∃ ts, Duck.lex text = some ts ∧ DefinitionTokens b E D relation ts

/-- The names need no quotes to DuckDB if they need none to PostgreSQL. Those of the schema and the table stand after a
dot, where they may be reserved words as well. -/
structure NamesSpelled (relation : Relation Node) : Prop where
  database : ∀ db_name schema_name, dbAndSchema b relation.oid = .ok (db_name, schema_name) →
    Spelled b D.notColId db_name
  columns : ∀ column ∈ relation.columns, column.attisdropped = false → Spelled b D.notColId column.attname
  checks : ∀ check_constraint ∈ relation.check, Spelled b D.notColId check_constraint.ccname

end

end PgDuckdb.CreateTable
