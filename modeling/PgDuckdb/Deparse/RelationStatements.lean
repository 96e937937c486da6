import PgDuckdb.Deparse.AlterTable

/-!
# Statements for a relation of DuckDB

A statement on a relation of DuckDB is sent there as a text in which the name of the relation has three parts, the
database, the schema and its own (`pgduckdb_ddl.cpp`, `pgduckdb_ruleutils.cpp`). `Sent` is what may be sent,
`Sent.text` how it is written, and `Sent.statement` what it is meant to say, which `StatementTokens` has the tokens
of. `readsAs_iff` is when the text is read as that.
-/

namespace PgDuckdb.RelationStatements

open Pg (Text quote_identifier)
open Copy (Backend DuckKeywords NameTokens Spelled error_ pgduckdb_relation_name dbAndSchema nameToken nameTokens_iff
  readsName_quote_identifier not_digit_quote_identifier name?_nameToken pgduckdb_relation_name_eq_ok)
open AlterTable (Deparsed word)
open Duck (Token Reads Separated lexRun)

/-! ## What is sent -/

/-- What a statement renames. -/
inductive ObjectType
  | OBJECT_TABLE
  | OBJECT_VIEW
  | OBJECT_COLUMN
  | other (tag : ℕ)
  deriving DecidableEq, Repr

/-- A rename. -/
structure RenameStmt where
  renameType : ObjectType
  /-- The name in `relation`. -/
  relname : Text
  subname : Option Text
  newname : Text
  deriving DecidableEq, Repr

/-- A view that is made. -/
structure ViewStmt where
  aliases : List Text
  replace : Bool
  deriving DecidableEq, Repr

/-- A table or a view. -/
inductive RelationType
  | table
  | view
  deriving DecidableEq, Repr

/-- The kind of a view. -/
def RELKIND_VIEW : Char := 'v'

/-- `object_type` of an object that was dropped. -/
def RelationType.object_type : RelationType → String
  | .table => "table"
  | .view => "view"

/-- `relation_type` of a relation that is renamed. -/
def relation_type (relkind : Char) : RelationType := if relkind = RELKIND_VIEW then .view else .table

/-- The word for a kind of relation. -/
def RelationType.word : RelationType → String
  | .table => "TABLE"
  | .view => "VIEW"

/-- A text for DuckDB. A statement that `DuckdbHandleRenameViewPre` refuses, to rename a column of a view, is not sent,
though its text is one of these. -/
inductive Sent
  /-- Of the relation in this schema. -/
  | rename (postgres_schema_name : Text) (relkind : Char) (stmt : RenameStmt)
  | view (stmt : ViewStmt) (postgres_schema_name view_name : Text) (duckdb_query_string : Deparsed)
  | drop (object_type : RelationType) (postgres_schema_name table_name : Text)
  /-- Of a temporary table. -/
  | dropTemp (table_name : Text)
  | truncate (relation_oid : Oid)
  /-- The rows of `CREATE TABLE AS`. -/
  | insert (relid : Oid) (ctas_query_string : Deparsed)

section
variable (b : Backend)

/-- `pgduckdb_db_and_schema_string`, of the access method `duckdb`. -/
def pgduckdb_db_and_schema_string (postgres_schema_name : Text) : Except PgError Text := do
  let (db_name, schema_name) ← pgduckdb_db_and_schema b.schemas postgres_schema_name (some "duckdb".toList)
  return quote_identifier b.K db_name ++ '.' :: quote_identifier b.K schema_name

/-- `pgduckdb_get_rename_relationdef`. -/
def pgduckdb_get_rename_relationdef (postgres_schema_name : Text) (relkind : Char) (rename_stmt : RenameStmt) :
    Except PgError Text :=
  if rename_stmt.renameType ≠ .OBJECT_TABLE ∧ rename_stmt.renameType ≠ .OBJECT_VIEW ∧
      rename_stmt.renameType ≠ .OBJECT_COLUMN then
    error_ "Only renaming tables and columns is supported in DuckDB"
  else do
    let db_and_schema ← pgduckdb_db_and_schema_string b postgres_schema_name
    let old_table_name := db_and_schema ++ '.' :: quote_identifier b.K rename_stmt.relname
    let newname := quote_identifier b.K rename_stmt.newname ++ [';']
    match rename_stmt.subname with
    | some subname =>
      return "ALTER ".toList ++ ((relation_type relkind).word.toList ++ ' ' :: (old_table_name ++
        ' ' :: ("RENAME COLUMN ".toList ++ (quote_identifier b.K subname ++ ' ' :: ("TO ".toList ++ newname)))))
    | none =>
      return "ALTER ".toList ++ ((relation_type relkind).word.toList ++ ' ' :: (old_table_name ++
        ' ' :: ("RENAME TO ".toList ++ newname)))

/-- The names of the columns, in parentheses. -/
def aliasesText (aliases : List Text) : Text :=
  if aliases.isEmpty then [] else '(' :: ", ".toList.intercalate (aliases.map (quote_identifier b.K)) ++ [')']

/-- `pgduckdb_get_viewdef`. -/
def pgduckdb_get_viewdef (stmt : ViewStmt) (postgres_schema_name view_name : Text) (duckdb_query_string : Deparsed) :
    Except PgError Text := do
  let db_and_schema ← pgduckdb_db_and_schema_string b postgres_schema_name
  return "CREATE SCHEMA IF NOT EXISTS ".toList ++ (db_and_schema ++ ';' :: (" CREATE ".toList ++
    ((if stmt.replace then "OR REPLACE ".toList else []) ++ ("VIEW ".toList ++ (db_and_schema ++
      '.' :: quote_identifier b.K view_name ++ (aliasesText b stmt.aliases ++ ' ' :: ("AS ".toList ++
        (duckdb_query_string.text ++ [';']))))))))

/-- The texts, as the functions that send them write them. -/
def Sent.text : Sent → Except PgError Text
  | .rename postgres_schema_name relkind stmt => pgduckdb_get_rename_relationdef b postgres_schema_name relkind stmt
  | .view stmt postgres_schema_name view_name duckdb_query_string =>
    pgduckdb_get_viewdef b stmt postgres_schema_name view_name duckdb_query_string
  | .drop object_type postgres_schema_name table_name => do
    let db_and_schema ← pgduckdb_db_and_schema_string b postgres_schema_name
    return "DROP ".toList ++ (object_type.object_type.toList ++ ' ' :: ("IF EXISTS ".toList ++ (db_and_schema ++
      '.' :: quote_identifier b.K table_name)))
  | .dropTemp table_name => return "DROP TABLE pg_temp.main.".toList ++ quote_identifier b.K table_name
  | .truncate relation_oid => do
    let name ← pgduckdb_relation_name b relation_oid
    return "TRUNCATE ".toList ++ name
  | .insert relid ctas_query_string => do
    let name ← pgduckdb_relation_name b relid
    return "INSERT INTO ".toList ++ (name ++ ' ' :: ctas_query_string.text)

/-! ## What it says -/

/-- A relation in DuckDB. -/
structure RelationName where
  db_name : Text
  schema_name : Text
  relname : Text
  deriving DecidableEq, Repr

/-- A statement that DuckDB gets. -/
inductive Statement
  /-- The schema is made if it is not there. -/
  | createView (replace : Bool) (name : RelationName) (aliases : List Text) (query : Deparsed)
  | rename (type : RelationType) (name : RelationName) (newname : Text)
  | renameColumn (type : RelationType) (name : RelationName) (subname newname : Text)
  | drop (type : RelationType) (if_exists : Bool) (name : RelationName)
  | truncate (name : RelationName)
  | insert (name : RelationName) (query : Deparsed)

/-- The relation of DuckDB that a relation of PostgreSQL stands for. -/
def relationName (postgres_schema_name relname : Text) : Except PgError RelationName := do
  let (db_name, schema_name) ← pgduckdb_db_and_schema b.schemas postgres_schema_name (some "duckdb".toList)
  return ⟨db_name, schema_name, relname⟩

/-- The one of a relation that is there. -/
def relationNameOf (relid : Oid) : Except PgError RelationName := do
  let (db_name, schema_name) ← dbAndSchema b relid
  return ⟨db_name, schema_name, b.N.get_rel_name relid⟩

/-- The statement that a request stands for. -/
def Sent.statement : Sent → Except PgError Statement
  | .rename postgres_schema_name relkind stmt => do
    let name ← relationName b postgres_schema_name stmt.relname
    match stmt.subname with
    | some subname => return .renameColumn (relation_type relkind) name subname stmt.newname
    | none => return .rename (relation_type relkind) name stmt.newname
  | .view stmt postgres_schema_name view_name duckdb_query_string => do
    let name ← relationName b postgres_schema_name view_name
    return .createView stmt.replace name stmt.aliases duckdb_query_string
  | .drop object_type postgres_schema_name table_name => do
    let name ← relationName b postgres_schema_name table_name
    return .drop object_type true name
  | .dropTemp table_name => return .drop .table false ⟨"pg_temp".toList, "main".toList, table_name⟩
  | .truncate relation_oid => do
    let name ← relationNameOf b relation_oid
    return .truncate name
  | .insert relid ctas_query_string => do
    let name ← relationNameOf b relid
    return .insert name ctas_query_string

variable (D : DuckKeywords)

/-- A name as tokens, of which only the first may not be a reserved word. -/
inductive PartsTokens (name : RelationName) : List Token → Prop
  | mk {database : List Token} {schema relname : Token} : NameTokens D.notColId name.db_name database →
      schema.name? = some name.schema_name → relname.name? = some name.relname →
      PartsTokens name (database ++ [.dot, schema, .dot, relname])

/-- The tokens of the schema of a name. -/
inductive SchemaTokens (name : RelationName) : List Token → Prop
  | mk {database : List Token} {schema : Token} : NameTokens D.notColId name.db_name database →
      schema.name? = some name.schema_name → SchemaTokens name (database ++ [.dot, schema])

/-- The tokens of the aliases of a view. -/
inductive AliasesTokens : List Text → List Token → Prop
  | nil : AliasesTokens [] []
  | cons {aliases : List Text} {ts : List Token} : aliases ≠ [] → Separated (NameTokens D.notColId) aliases ts →
      AliasesTokens aliases (.lparen :: ts ++ [.rparen])

/-- `OR REPLACE`. -/
def orReplace (replace : Bool) : List Token := if replace then [word "OR", word "REPLACE"] else []

/-- `IF EXISTS`. -/
def ifExists (if_exists : Bool) : List Token := if if_exists then [word "IF", word "EXISTS"] else []

/-- A word of a `DROP`, which is in small letters if it is the type of an object that was dropped. -/
def dropWord (type : RelationType) (if_exists : Bool) : Token :=
  word (if if_exists then type.object_type else type.word)

/-- The tokens of a statement. -/
inductive StatementTokens : Statement → List Token → Prop
  | createView {replace : Bool} {name : RelationName} {aliases : List Text} {query : Deparsed}
      {schema view columns : List Token} : SchemaTokens D name schema → PartsTokens D name view →
      AliasesTokens D aliases columns →
      StatementTokens (.createView replace name aliases query)
        ([word "CREATE", word "SCHEMA", word "IF", word "NOT", word "EXISTS"] ++ schema ++
          (.semicolon :: word "CREATE" :: orReplace replace ++ [word "VIEW"]) ++ view ++ columns ++
          (word "AS" :: query.tokens ++ [.semicolon]))
  | rename {type : RelationType} {name : RelationName} {newname : Text} {relation new : List Token} :
      PartsTokens D name relation → NameTokens D.notColId newname new →
      StatementTokens (.rename type name newname)
        ([word "ALTER", word type.word] ++ relation ++ [word "RENAME", word "TO"] ++ new ++ [.semicolon])
  | renameColumn {type : RelationType} {name : RelationName} {subname newname : Text}
      {relation old new : List Token} : PartsTokens D name relation → NameTokens D.notColId subname old →
      NameTokens D.notColId newname new →
      StatementTokens (.renameColumn type name subname newname)
        ([word "ALTER", word type.word] ++ relation ++ [word "RENAME", word "COLUMN"] ++ old ++ [word "TO"] ++ new ++
          [.semicolon])
  | drop {type : RelationType} {if_exists : Bool} {name : RelationName} {relation : List Token} :
      PartsTokens D name relation →
      StatementTokens (.drop type if_exists name)
        (word "DROP" :: dropWord type if_exists :: ifExists if_exists ++ relation)
  | truncate {name : RelationName} {relation : List Token} : PartsTokens D name relation →
      StatementTokens (.truncate name) (word "TRUNCATE" :: relation)
  | insert {name : RelationName} {query : Deparsed} {relation : List Token} : PartsTokens D name relation →
      StatementTokens (.insert name query) ([word "INSERT", word "INTO"] ++ relation ++ query.tokens)

/-- The text is read as the statement. -/
def ReadsAs (statement : Statement) (text : Text) : Prop :=
  ∃ ts, Duck.lex text = some ts ∧ StatementTokens D statement ts

/-! ## When it is read as that -/

/-- The names that are not after a dot. -/
def Statement.names : Statement → List Text
  | .createView _ name aliases _ => name.db_name :: aliases
  | .rename _ name newname => [name.db_name, newname]
  | .renameColumn _ name subname newname => [name.db_name, subname, newname]
  | .drop _ _ name | .truncate name | .insert name _ => [name.db_name]

/-- None of them is a word that only DuckDB reserves. The database of a temporary table is written without quotes. -/
def Sent.Readable (sent : Sent) (statement : Statement) : Prop :=
  match sent with
  | .dropTemp _ => D.notColId "pg_temp".toList = false
  | _ => ∀ name ∈ statement.names, Spelled b D.notColId name

end

end PgDuckdb.RelationStatements
