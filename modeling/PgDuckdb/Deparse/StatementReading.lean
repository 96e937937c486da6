import PgDuckdb.Deparse.AlterSplit
import PgDuckdb.Deparse.RelationStatements

/-!
# When a statement for a relation is read as it is

Each text of `Sent` has its tokens (`Sent.reads`), whatever the names are, and these are tokens of its statement
exactly if the names need no more quotes to DuckDB than they do to PostgreSQL (`statementTokens_iff`).
-/

namespace PgDuckdb.RelationStatements

open Pg (Text quote_identifier)
open Copy (Backend DuckKeywords NameTokens Spelled error_ pgduckdb_relation_name dbAndSchema nameToken nameTokens_iff
  readsName_quote_identifier not_digit_quote_identifier name?_nameToken pgduckdb_relation_name_eq_ok)
open AlterTable (Deparsed word)
open Duck (Token Reads Separated lexRun)

section
variable {b : Backend} {D : DuckKeywords} {name : RelationName}

/-! ## Names -/

/-- The tokens of a schema. -/
def schemaTokens (b : Backend) (name : RelationName) : List Token :=
  [nameToken b.K name.db_name, .dot, nameToken b.K name.schema_name]

/-- The tokens of a relation's name. -/
def partsTokens (b : Backend) (name : RelationName) : List Token :=
  [nameToken b.K name.db_name, .dot, nameToken b.K name.schema_name, .dot, nameToken b.K name.relname]

/-- A schema is read as its tokens. -/
theorem reads_schema : Reads (quote_identifier b.K name.db_name ++ '.' :: quote_identifier b.K name.schema_name)
    (schemaTokens b name) :=
  readsName_quote_identifier.dot readsName_quote_identifier.reads not_digit_quote_identifier

/-- A name is read as its tokens. -/
theorem reads_parts : Reads (quote_identifier b.K name.db_name ++ '.' :: quote_identifier b.K name.schema_name ++
    '.' :: quote_identifier b.K name.relname) (partsTokens b name) := by
  have hrelation := @Copy.reads_relation b name.db_name name.schema_name name.relname []
  rw [Copy.appendAttlist, List.isEmpty_nil, if_pos rfl, List.append_nil] at hrelation
  rw [List.append_assoc]
  exact hrelation

/-- A name has five tokens. -/
theorem PartsTokens.length {ts : List Token} (h : PartsTokens D name ts) : ts.length = 5 := by
  cases h with
  | mk hdatabase hschema hrelname =>
    rw [List.length_append, hdatabase.length]
    rfl

/-- A schema has three. -/
theorem SchemaTokens.length {ts : List Token} (h : SchemaTokens D name ts) : ts.length = 3 := by
  cases h with
  | mk hdatabase hschema =>
    rw [List.length_append, hdatabase.length]
    rfl

/-- The database of tokens that start with the token of a name. -/
theorem database_of_append {db_name : Text} {database ts ts' : List Token}
    (hdatabase : NameTokens D.notColId db_name database) (h : nameToken b.K db_name :: ts = database ++ ts') :
    Spelled b D.notColId db_name := by
  have hsplit : [nameToken b.K db_name] ++ ts = database ++ ts' := h
  have hsame := (List.append_inj hsplit hdatabase.length.symm).1
  exact nameTokens_iff.1 (hsame ▸ hdatabase)

/-- The tokens are the name exactly if that of the database is spelled as DuckDB needs it. -/
theorem partsTokens_iff : PartsTokens D name (partsTokens b name) ↔ Spelled b D.notColId name.db_name := by
  constructor
  · intro h
    generalize hts : partsTokens b name = ts at h
    cases h with
    | mk hdatabase hschema hrelname => exact database_of_append hdatabase hts
  · intro h
    exact .mk (nameTokens_iff.2 h) name?_nameToken name?_nameToken

/-- The same for a schema. -/
theorem schemaTokens_iff : SchemaTokens D name (schemaTokens b name) ↔ Spelled b D.notColId name.db_name := by
  constructor
  · intro h
    generalize hts : schemaTokens b name = ts at h
    cases h with
    | mk hdatabase hschema => exact database_of_append hdatabase hts
  · intro h
    exact .mk (nameTokens_iff.2 h) name?_nameToken

/-- The tokens of a view's columns. -/
def aliasesTokens (b : Backend) (aliases : List Text) : List Token :=
  if aliases.isEmpty then []
  else .lparen :: [Token.comma].intercalate (aliases.map fun name => [nameToken b.K name]) ++ [.rparen]

/-- They are the columns exactly if each name is spelled as DuckDB needs it. -/
theorem aliasesTokens_iff {aliases : List Text} :
    AliasesTokens D aliases (aliasesTokens b aliases) ↔ ∀ name ∈ aliases, Spelled b D.notColId name := by
  rw [← Copy.separated_names_iff]
  cases aliases with
  | nil => exact iff_of_true .nil .nil
  | cons name aliases =>
    constructor
    · intro h
      generalize hts : aliasesTokens b (name :: aliases) = ts at h
      cases h with
      | cons hne hlist =>
        rw [← Copy.paren_inj hts] at hlist
        exact hlist
    · intro hlist
      exact .cons (List.cons_ne_nil _ _) hlist

/-- Columns have so many tokens. -/
theorem AliasesTokens.length {aliases : List Text} {ts : List Token} (h : AliasesTokens D aliases ts) :
    ts.length = (aliasesTokens b aliases).length := by
  cases h with
  | nil => rfl
  | cons hne hlist =>
    have hlength := hlist.length (f := fun name => [nameToken b.K name]) fun name _ ts hts => NameTokens.length hts
    rw [aliasesTokens, List.isEmpty_eq_false_iff.2 hne, if_neg Bool.false_ne_true, Copy.length_paren,
      Copy.length_paren, hlength]

/-! ## The tokens of a statement -/

/-- As they are written. -/
def statementTokens (b : Backend) : Statement → List Token
  | .createView replace name aliases query =>
    [word "CREATE", word "SCHEMA", word "IF", word "NOT", word "EXISTS"] ++ schemaTokens b name ++
      (.semicolon :: word "CREATE" :: orReplace replace ++ [word "VIEW"]) ++ partsTokens b name ++
      aliasesTokens b aliases ++ (word "AS" :: query.tokens ++ [.semicolon])
  | .rename type name newname =>
    [word "ALTER", word type.word] ++ partsTokens b name ++ [word "RENAME", word "TO"] ++ [nameToken b.K newname] ++
      [.semicolon]
  | .renameColumn type name subname newname =>
    [word "ALTER", word type.word] ++ partsTokens b name ++ [word "RENAME", word "COLUMN"] ++
      [nameToken b.K subname] ++ [word "TO"] ++ [nameToken b.K newname] ++ [.semicolon]
  | .drop type if_exists name => word "DROP" :: dropWord type if_exists :: ifExists if_exists ++ partsTokens b name
  | .truncate name => word "TRUNCATE" :: partsTokens b name
  | .insert name query => [word "INSERT", word "INTO"] ++ partsTokens b name ++ query.tokens

/-- The tokens are the statement if its names are spelled as DuckDB needs them. -/
theorem statementTokens_of_spelled {statement : Statement}
    (h : ∀ name ∈ statement.names, Spelled b D.notColId name) :
    StatementTokens D statement (statementTokens b statement) := by
  cases statement with
  | createView replace name aliases query =>
    obtain ⟨hdatabase, haliases⟩ := List.forall_mem_cons.1 h
    exact .createView (schemaTokens_iff.2 hdatabase) (partsTokens_iff.2 hdatabase) (aliasesTokens_iff.2 haliases)
  | rename type name newname =>
    obtain ⟨hdatabase, hnew⟩ := List.forall_mem_cons.1 h
    exact .rename (partsTokens_iff.2 hdatabase) (nameTokens_iff.2 (List.forall_mem_singleton.1 hnew))
  | renameColumn type name subname newname =>
    obtain ⟨hdatabase, hnames⟩ := List.forall_mem_cons.1 h
    obtain ⟨hold, hnew⟩ := List.forall_mem_cons.1 hnames
    exact .renameColumn (partsTokens_iff.2 hdatabase) (nameTokens_iff.2 hold)
      (nameTokens_iff.2 (List.forall_mem_singleton.1 hnew))
  | drop type if_exists name => exact .drop (partsTokens_iff.2 (List.forall_mem_singleton.1 h))
  | truncate name => exact .truncate (partsTokens_iff.2 (List.forall_mem_singleton.1 h))
  | insert name query => exact .insert (partsTokens_iff.2 (List.forall_mem_singleton.1 h))

/-- And they are so if the tokens are the statement. -/
theorem spelled_of_statementTokens {statement : Statement}
    (h : StatementTokens D statement (statementTokens b statement)) :
    ∀ name ∈ statement.names, Spelled b D.notColId name := by
  generalize hts : statementTokens b statement = ts at h
  cases h with
  | @createView replace name aliases query schema view columns hschema hview hcolumns =>
    have hcolumns' := AliasesTokens.length (b := b) hcolumns
    obtain ⟨hhead, -⟩ := List.append_inj hts (by
      simp only [List.length_append, hschema.length, hview.length, hcolumns', schemaTokens, partsTokens,
        List.length_cons, List.length_nil])
    obtain ⟨hhead, hsame⟩ := List.append_inj hhead (by
      simp only [List.length_append, hschema.length, hview.length, schemaTokens, partsTokens,
        List.length_cons, List.length_nil])
    obtain ⟨-, hrelation⟩ := List.append_inj hhead (by
      simp only [List.length_append, hschema.length, schemaTokens, List.length_cons, List.length_nil])
    exact List.forall_mem_cons.2 ⟨partsTokens_iff.1 (hrelation ▸ hview), aliasesTokens_iff.1 (hsame ▸ hcolumns)⟩
  | @rename type name newname relation new hrelation hnew =>
    obtain ⟨hhead, hsame⟩ := List.append_inj' (List.append_cancel_right hts) hnew.length.symm
    have hsame' := List.append_cancel_left (List.append_cancel_right hhead)
    exact List.forall_mem_cons.2 ⟨partsTokens_iff.1 (hsame' ▸ hrelation),
      List.forall_mem_singleton.2 (nameTokens_iff.1 (hsame ▸ hnew))⟩
  | @renameColumn type name subname newname relation old new hrelation hold hnew =>
    obtain ⟨hhead, hsame⟩ := List.append_inj' (List.append_cancel_right hts) hnew.length.symm
    obtain ⟨hhead, hsame'⟩ := List.append_inj' (List.append_cancel_right hhead) hold.length.symm
    have hsame'' := List.append_cancel_left (List.append_cancel_right hhead)
    exact List.forall_mem_cons.2 ⟨partsTokens_iff.1 (hsame'' ▸ hrelation), List.forall_mem_cons.2
      ⟨nameTokens_iff.1 (hsame' ▸ hold), List.forall_mem_singleton.2 (nameTokens_iff.1 (hsame ▸ hnew))⟩⟩
  | @drop type if_exists name relation hrelation =>
    have hsame := List.append_cancel_left (List.cons.inj (List.cons.inj hts).2).2
    exact List.forall_mem_singleton.2 (partsTokens_iff.1 (hsame ▸ hrelation))
  | truncate hrelation =>
    exact List.forall_mem_singleton.2 (partsTokens_iff.1 ((List.cons.inj hts).2 ▸ hrelation))
  | @insert name query relation hrelation =>
    have hsame := List.append_cancel_left (List.append_cancel_right hts)
    exact List.forall_mem_singleton.2 (partsTokens_iff.1 (hsame ▸ hrelation))

/-- The tokens are the statement exactly if its names are spelled as DuckDB needs them. -/
theorem statementTokens_iff {statement : Statement} : StatementTokens D statement (statementTokens b statement) ↔
    ∀ name ∈ statement.names, Spelled b D.notColId name :=
  ⟨spelled_of_statementTokens, statementTokens_of_spelled⟩

/-! ## The texts -/

/-- A semicolon. -/
theorem reads_semicolon : Reads [';'] [.semicolon] := .of_run rfl

/-- The kind of a relation in `ALTER`. -/
theorem reads_type {type : RelationType} : Reads type.word.toList [word type.word] := by
  cases type with
  | table => exact .word rfl
  | view => exact .word rfl

/-- The kind of a relation in `DROP`. -/
theorem reads_object_type {type : RelationType} : Reads type.object_type.toList [word type.object_type] := by
  cases type with
  | table => exact .word rfl
  | view => exact .word rfl

/-- A relation that is renamed. -/
theorem reads_rename {type : RelationType} {newname : Text} :
    Reads ("ALTER ".toList ++ (type.word.toList ++ ' ' :: (quote_identifier b.K name.db_name ++
        '.' :: quote_identifier b.K name.schema_name ++ '.' :: quote_identifier b.K name.relname ++
        ' ' :: ("RENAME TO ".toList ++ (quote_identifier b.K newname ++ [';'])))))
      (statementTokens b (.rename type name newname)) := by
  have halter : lexRun .start "ALTER ".toList = some ([word "ALTER"], .start) := rfl
  have hrename : lexRun .start "RENAME TO ".toList = some ([word "RENAME", word "TO"], .start) := rfl
  have hnew := (@readsName_quote_identifier b.K newname).reads.append reads_semicolon rfl
  have hrest := (@reads_parts b name).append (Reads.after_run hrename hnew).space rfl
  have hall := Reads.after_run halter ((@reads_type type).append hrest.space rfl)
  exact hall

/-- A column that is renamed. -/
theorem reads_renameColumn {type : RelationType} {subname newname : Text} :
    Reads ("ALTER ".toList ++ (type.word.toList ++ ' ' :: (quote_identifier b.K name.db_name ++
        '.' :: quote_identifier b.K name.schema_name ++ '.' :: quote_identifier b.K name.relname ++
        ' ' :: ("RENAME COLUMN ".toList ++ (quote_identifier b.K subname ++ ' ' :: ("TO ".toList ++
          (quote_identifier b.K newname ++ [';'])))))))
      (statementTokens b (.renameColumn type name subname newname)) := by
  have halter : lexRun .start "ALTER ".toList = some ([word "ALTER"], .start) := rfl
  have hrename : lexRun .start "RENAME COLUMN ".toList = some ([word "RENAME", word "COLUMN"], .start) := rfl
  have hto : lexRun .start "TO ".toList = some ([word "TO"], .start) := rfl
  have hnew := (@readsName_quote_identifier b.K newname).reads.append reads_semicolon rfl
  have hold := (@readsName_quote_identifier b.K subname).reads.append (Reads.after_run hto hnew).space rfl
  have hrest := (@reads_parts b name).append (Reads.after_run hrename hold).space rfl
  have hall := Reads.after_run halter ((@reads_type type).append hrest.space rfl)
  exact hall

/-- A relation that is dropped. -/
theorem reads_drop {type : RelationType} :
    Reads ("DROP ".toList ++ (type.object_type.toList ++ ' ' :: ("IF EXISTS ".toList ++
        (quote_identifier b.K name.db_name ++ '.' :: quote_identifier b.K name.schema_name ++
          '.' :: quote_identifier b.K name.relname))))
      (statementTokens b (.drop type true name)) := by
  have hdrop : lexRun .start "DROP ".toList = some ([word "DROP"], .start) := rfl
  have hexists : lexRun .start "IF EXISTS ".toList = some ([word "IF", word "EXISTS"], .start) := rfl
  have hrest := Reads.after_run hexists (@reads_parts b name)
  have hall := Reads.after_run hdrop ((@reads_object_type type).append hrest.space rfl)
  exact hall

/-- A table that is truncated. -/
theorem reads_truncate : Reads ("TRUNCATE ".toList ++ (quote_identifier b.K name.db_name ++
      '.' :: quote_identifier b.K name.schema_name ++ '.' :: quote_identifier b.K name.relname))
    (statementTokens b (.truncate name)) := by
  have htruncate : lexRun .start "TRUNCATE ".toList = some ([word "TRUNCATE"], .start) := rfl
  have hall := Reads.after_run htruncate (@reads_parts b name)
  exact hall

/-- Rows that are inserted. -/
theorem reads_insert {query : Deparsed} : Reads ("INSERT INTO ".toList ++ (quote_identifier b.K name.db_name ++
      '.' :: quote_identifier b.K name.schema_name ++ '.' :: quote_identifier b.K name.relname ++ ' ' :: query.text))
    (statementTokens b (.insert name query)) := by
  have hinsert : lexRun .start "INSERT INTO ".toList = some ([word "INSERT", word "INTO"], .start) := rfl
  have hall := Reads.after_run hinsert ((@reads_parts b name).append query.reads.space rfl)
  exact hall

/-- The names of the columns and what is after them. -/
theorem reads_view {aliases : List Text} {w : Text} {ts : List Token} (h : Reads w ts) :
    Reads (quote_identifier b.K name.db_name ++ '.' :: quote_identifier b.K name.schema_name ++
        '.' :: quote_identifier b.K name.relname ++ (aliasesText b aliases ++ ' ' :: w))
      (partsTokens b name ++ aliasesTokens b aliases ++ ts) := by
  unfold aliasesText aliasesTokens
  split
  · rw [List.append_nil]
    exact (@reads_parts b name).append h.space rfl
  · have hlist := (@Copy.reads_names b.K aliases ", ".toList (.inr rfl)).paren.append h.space rfl
    rw [List.append_assoc (partsTokens b name)]
    exact (@reads_parts b name).append hlist rfl

/-- A view that is made, with its schema. -/
theorem reads_createView {replace : Bool} {aliases : List Text} {query : Deparsed} :
    Reads ("CREATE SCHEMA IF NOT EXISTS ".toList ++ (quote_identifier b.K name.db_name ++
        '.' :: quote_identifier b.K name.schema_name ++ ';' :: (" CREATE ".toList ++
          ((if replace then "OR REPLACE ".toList else []) ++ ("VIEW ".toList ++ (quote_identifier b.K name.db_name ++
            '.' :: quote_identifier b.K name.schema_name ++ '.' :: quote_identifier b.K name.relname ++
              (aliasesText b aliases ++ ' ' :: ("AS ".toList ++ (query.text ++ [';'])))))))))
      (statementTokens b (.createView replace name aliases query)) := by
  have hcreate : lexRun .start "CREATE SCHEMA IF NOT EXISTS ".toList =
      some ([word "CREATE", word "SCHEMA", word "IF", word "NOT", word "EXISTS"], .start) := rfl
  have hsemicolon : lexRun .start (';' :: " CREATE ".toList) = some ([.semicolon, word "CREATE"], .start) := rfl
  have hreplace : lexRun .start (if replace then "OR REPLACE ".toList else []) = some (orReplace replace, .start) := by
    cases replace <;> rfl
  have hview : lexRun .start "VIEW ".toList = some ([word "VIEW"], .start) := rfl
  have has : lexRun .start "AS ".toList = some ([word "AS"], .start) := rfl
  have hquery := Reads.after_run has (query.reads.append reads_semicolon rfl)
  have hname := Reads.after_run hview (@reads_view b name aliases _ _ hquery)
  have hall := Reads.after_run hcreate ((@reads_schema b name).append
    (Reads.after_run hsemicolon (Reads.after_run hreplace hname)) rfl)
  rw [statementTokens]
  simp only [List.append_assoc, List.cons_append, List.nil_append] at hall ⊢
  exact hall

/-- The text of a schema, in its parts. -/
theorem pgduckdb_db_and_schema_string_eq_ok {postgres_schema_name text : Text} :
    pgduckdb_db_and_schema_string b postgres_schema_name = .ok text ↔
      ∃ db_name schema_name, pgduckdb_db_and_schema b.schemas postgres_schema_name (some "duckdb".toList) =
        .ok (db_name, schema_name) ∧
        text = quote_identifier b.K db_name ++ '.' :: quote_identifier b.K schema_name := by
  rw [pgduckdb_db_and_schema_string, Lib.bind_eq_ok]
  constructor
  · rintro ⟨⟨db_name, schema_name⟩, hdb, heq⟩
    exact ⟨db_name, schema_name, hdb, (Except.ok.inj heq).symm⟩
  · rintro ⟨db_name, schema_name, hdb, rfl⟩
    exact ⟨(db_name, schema_name), hdb, rfl⟩

/-- A name in a schema that is there. -/
theorem relationName_of_ok {postgres_schema_name relname db_name schema_name : Text}
    (h : pgduckdb_db_and_schema b.schemas postgres_schema_name (some "duckdb".toList) = .ok (db_name, schema_name)) :
    relationName b postgres_schema_name relname = .ok ⟨db_name, schema_name, relname⟩ := by
  rw [relationName, h]
  rfl

/-- The name of a relation, in its parts. -/
theorem relationNameOf_of_ok {relid : Oid} {text : Text} (h : pgduckdb_relation_name b relid = .ok text) :
    ∃ name, relationNameOf b relid = .ok name ∧ text = quote_identifier b.K name.db_name ++
      '.' :: quote_identifier b.K name.schema_name ++ '.' :: quote_identifier b.K name.relname := by
  obtain ⟨db_name, schema_name, hdb, rfl⟩ := pgduckdb_relation_name_eq_ok.1 h
  refine ⟨⟨db_name, schema_name, b.N.get_rel_name relid⟩, ?_, ?_⟩
  · rw [relationNameOf, hdb]
    rfl
  · rw [List.append_assoc]
    rfl

/-- The text of a renaming is read as a statement. -/
theorem reads_rename_relationdef {postgres_schema_name text : Text} {relkind : Char} {stmt : RenameStmt}
    (h : pgduckdb_get_rename_relationdef b postgres_schema_name relkind stmt = .ok text) :
    ∃ statement, (Sent.rename postgres_schema_name relkind stmt).statement b = .ok statement ∧
      Reads text (statementTokens b statement) := by
  obtain ⟨renameType, relname, subname, newname⟩ := stmt
  rw [pgduckdb_get_rename_relationdef] at h
  by_cases hother : renameType ≠ .OBJECT_TABLE ∧ renameType ≠ .OBJECT_VIEW ∧ renameType ≠ .OBJECT_COLUMN
  · rw [if_pos hother] at h
    cases h
  rw [if_neg hother] at h
  obtain ⟨db_and_schema, hstring, h⟩ := Lib.bind_eq_ok.1 h
  obtain ⟨db_name, schema_name, hdb, rfl⟩ := pgduckdb_db_and_schema_string_eq_ok.1 hstring
  rw [Sent.statement, relationName_of_ok hdb]
  cases subname with
  | some subname =>
    refine ⟨.renameColumn (relation_type relkind) ⟨db_name, schema_name, relname⟩ subname newname, rfl, ?_⟩
    rw [← Except.ok.inj h]
    exact @reads_renameColumn b ⟨db_name, schema_name, relname⟩ _ subname newname
  | none =>
    refine ⟨.rename (relation_type relkind) ⟨db_name, schema_name, relname⟩ newname, rfl, ?_⟩
    rw [← Except.ok.inj h]
    exact @reads_rename b ⟨db_name, schema_name, relname⟩ _ newname

/-- A text that is sent is that of a statement. The database of a temporary table has no quotes. -/
theorem Sent.reads {sent : Sent} {text : Text} (h : sent.text b = .ok text) :
    ∃ statement, sent.statement b = .ok statement ∧
      ((∀ table_name, sent ≠ .dropTemp table_name) → Reads text (statementTokens b statement)) := by
  cases sent with
  | rename postgres_schema_name relkind stmt =>
    obtain ⟨statement, hstatement, hreads⟩ := reads_rename_relationdef h
    exact ⟨statement, hstatement, fun _ => hreads⟩
  | view stmt postgres_schema_name view_name duckdb_query_string =>
    obtain ⟨db_and_schema, hstring, h⟩ := Lib.bind_eq_ok.1 h
    obtain ⟨db_name, schema_name, hdb, rfl⟩ := pgduckdb_db_and_schema_string_eq_ok.1 hstring
    cases h
    rw [Sent.statement, relationName_of_ok hdb]
    exact ⟨_, rfl, fun _ => @reads_createView b ⟨db_name, schema_name, view_name⟩ _ _ _⟩
  | drop object_type postgres_schema_name table_name =>
    obtain ⟨db_and_schema, hstring, h⟩ := Lib.bind_eq_ok.1 h
    obtain ⟨db_name, schema_name, hdb, rfl⟩ := pgduckdb_db_and_schema_string_eq_ok.1 hstring
    cases h
    rw [Sent.statement, relationName_of_ok hdb]
    exact ⟨_, rfl, fun _ => @reads_drop b ⟨db_name, schema_name, table_name⟩ _⟩
  | dropTemp table_name => exact ⟨_, rfl, fun hnot => absurd rfl (hnot table_name)⟩
  | truncate relation_oid =>
    obtain ⟨text', hname, h⟩ := Lib.bind_eq_ok.1 h
    obtain ⟨name, hrelation, rfl⟩ := relationNameOf_of_ok hname
    cases h
    rw [Sent.statement, hrelation]
    exact ⟨_, rfl, fun _ => @reads_truncate b name⟩
  | insert relid ctas_query_string =>
    obtain ⟨text', hname, h⟩ := Lib.bind_eq_ok.1 h
    obtain ⟨name, hrelation, rfl⟩ := relationNameOf_of_ok hname
    cases h
    rw [Sent.statement, hrelation]
    exact ⟨_, rfl, fun _ => @reads_insert b name _⟩

/-- The tokens of the one text without quotes. -/
theorem reads_dropTemp {table_name : Text} :
    Reads ("DROP TABLE pg_temp.main.".toList ++ quote_identifier b.K table_name)
      [word "DROP", word "TABLE", word "pg_temp", .dot, word "main", .dot, nameToken b.K table_name] := by
  have hdrop : lexRun .start "DROP TABLE ".toList = some ([word "DROP", word "TABLE"], .start) := rfl
  have hmain : Duck.ReadsName "main".toList (word "main") := .word rfl
  have htemp : Duck.ReadsName "pg_temp".toList (word "pg_temp") := .word rfl
  have hrelation := hmain.dot (@readsName_quote_identifier b.K table_name).reads not_digit_quote_identifier
  have hname := htemp.dot hrelation (by
    intro c hc
    cases hc
    rfl)
  have hall := Reads.after_run hdrop hname
  exact hall

/-- The tokens are the statement for a temporary table exactly if DuckDB does not reserve `pg_temp`. -/
theorem dropTempTokens_iff {table_name : Text} {t : Token} (ht : t.name? = some table_name) :
    StatementTokens D (.drop .table false ⟨"pg_temp".toList, "main".toList, table_name⟩)
        [word "DROP", word "TABLE", word "pg_temp", .dot, word "main", .dot, t] ↔
      D.notColId "pg_temp".toList = false := by
  constructor
  · intro h
    generalize hts : [word "DROP", word "TABLE", word "pg_temp", .dot, word "main", .dot, t] = ts at h
    cases h with
    | @drop _ _ _ relation hrelation =>
      have hsame := (List.cons.inj (List.cons.inj hts).2).2
      have hsplit : [word "pg_temp"] ++ [.dot, word "main", .dot, t] = relation := hsame
      cases hrelation with
      | mk hdatabase hschema hrelname =>
        rcases hdatabase with rfl | ⟨-, hnot⟩
        · cases hsplit
        · exact hnot
  · intro hnot
    have hdatabase : NameTokens D.notColId "pg_temp".toList [word "pg_temp"] := .inr ⟨rfl, hnot⟩
    have hrelation : PartsTokens D ⟨"pg_temp".toList, "main".toList, table_name⟩
        ([word "pg_temp"] ++ [.dot, word "main", .dot, t]) := .mk hdatabase rfl ht
    exact .drop hrelation

/-- What is sent for a relation says what it is meant to say, of that relation, exactly if its names need no more
quotes to DuckDB than they have. -/
theorem readsAs_iff (b : Backend) (D : DuckKeywords) (sent : Sent) (text : Text) (h : sent.text b = .ok text) :
    ∃ statement, sent.statement b = .ok statement ∧
      (ReadsAs D statement text ↔ sent.Readable b D statement) := by
  by_cases htemp : ∃ table_name, sent = .dropTemp table_name
  · obtain ⟨table_name, rfl⟩ := htemp
    cases h
    refine ⟨_, rfl, ?_⟩
    rw [Sent.Readable, ← dropTempTokens_iff (@name?_nameToken b.K table_name), ReadsAs, reads_dropTemp.lex]
    simp only [Option.some.injEq, exists_eq_left']
  · obtain ⟨statement, hstatement, hreads⟩ := Sent.reads h
    have hlex := (hreads fun table_name heq => htemp ⟨table_name, heq⟩).lex
    refine ⟨statement, hstatement, ?_⟩
    rw [ReadsAs, hlex]
    simp only [Option.some.injEq, exists_eq_left', statementTokens_iff]
    cases sent with
    | dropTemp table_name => exact absurd ⟨table_name, rfl⟩ htemp
    | _ => rfl

end

/-- The text of the query. -/
theorem reads_selectOne : Reads "SELECT 1".toList [word "SELECT", .num ['1']] := by
  have hselect : lexRun .start "SELECT ".toList = some ([word "SELECT"], .start) := rfl
  have hone : Reads ['1'] [.num ['1']] := .number rfl
  exact .after_run hselect hone

/-- `SELECT 1`. -/
def selectOne : Deparsed := ⟨"SELECT 1".toList, [word "SELECT", .num ['1']], reads_selectOne, rfl⟩

/-- `CREATE OR REPLACE VIEW v (a)`. -/
def view_v : Sent := .view ⟨["a".toList], true⟩ "ddb$sales".toList "v".toList selectOne

/-- A view `v` with one column. -/
theorem readsAs_view_v : ReadsAs Copy.noKeywords
    (.createView true ⟨"sales".toList, "main".toList, "v".toList⟩ ["a".toList] selectOne)
    ("CREATE SCHEMA IF NOT EXISTS sales.main; CREATE OR REPLACE VIEW ".toList ++
      "sales.main.v(a) AS SELECT 1;".toList) := by
  obtain ⟨statement, hstatement, hiff⟩ := readsAs_iff Copy.backend Copy.noKeywords view_v
    ("CREATE SCHEMA IF NOT EXISTS sales.main; CREATE OR REPLACE VIEW ".toList ++
      "sales.main.v(a) AS SELECT 1;".toList) (by decide +kernel)
  cases hstatement
  exact hiff.2 fun name _ _ _ => rfl

end PgDuckdb.RelationStatements
