import PgDuckdb.Deparse.AddColumn

/-!
# One statement for each subcommand

The text of `pgduckdb_get_alter_tabledef` is read as one statement for each subcommand exactly if each of them may be
carried by it (`splitsInto_iff`). A `CHECK` of a column adds a semicolon, wherever it stands, so such a text has more
semicolons than statements. Without one, the text is known token for token, and is compared with the statements up to
each semicolon.
-/

namespace PgDuckdb.AlterTable

open Pg (Text quote_identifier)
open Cache (quote_literal_cstr)
open Copy (Backend DuckKeywords NameTokens Spelled signed enclosed error_ pgduckdb_relation_name dbAndSchema nameToken
  nameTokens_iff readsName_quote_identifier reads_quote_literal)
open Duck (Token Reads Separated lexRun)

section
variable {TypeName Expr Node : Type} {b : Backend} {E : Deparser TypeName Expr Node} {relation : Relation}
  {D : DuckKeywords} {ts : List Token} {att : Attribute} {colname w : Text}

/-! ## All subcommands -/

/-- How many checks the text of a subcommand has in the wrong place. -/
def checks : AlterTableCmd TypeName Expr → ℕ
  | .AT_AddColumn col _ => col.constraints.countP Constraint.IsCheck
  | _ => 0

/-- A subcommand without checks is read as itself if it may be carried. -/
theorem isCmd {relation_name : Text} {cmd : AlterTableCmd TypeName Expr}
    (h : alterTableCmd b E relation relation_name cmd = .ok w) (hchecks : checks cmd = 0) :
    ∃ ts, IsCmd b E relation D cmd w ts := by
  cases cmd with
  | AT_AddColumn col missing_ok =>
    refine isCmd_addColumn h fun constraint hconstraint => isCheck_eq_false ?_
    exact Bool.eq_false_iff.2 (List.countP_eq_zero.1 hchecks constraint hconstraint)
  | AT_AlterColumnType name col =>
    obtain ⟨att, hatt, heq⟩ := Lib.bind_eq_ok.1 h
    cases heq
    exact isCmd_alterColumnType hatt
  | AT_DropColumn name behavior missing_ok =>
    cases h
    exact isCmd_dropColumn
  | AT_ColumnDefault name raw_expr =>
    cases hatt : relation.GetAttributeByName name with
    | none =>
      simp only [alterTableCmd, hatt] at h
      cases h
    | some att =>
      simp only [alterTableCmd, hatt] at h
      cases raw_expr with
      | none =>
        cases h
        exact isCmd_dropDefault
      | some raw_expr =>
        obtain ⟨d, hd, heq⟩ := Lib.bind_eq_ok.1 h
        cases heq
        exact isCmd_setDefault hatt hd
  | AT_DropNotNull name =>
    cases h
    exact isCmd_dropNotNull
  | AT_SetNotNull name =>
    cases h
    exact isCmd_setNotNull
  | AT_AddConstraint constraint =>
    obtain ⟨text, htext, heq⟩ := Lib.bind_eq_ok.1 h
    cases heq
    exact isCmd_addConstraint htext
  | AT_DropConstraint name behavior missing_ok =>
    cases h
    exact isCmd_dropConstraint
  | AT_SetRelOptions options =>
    obtain ⟨text, htext, heq⟩ := Lib.bind_eq_ok.1 h
    cases heq
    exact isCmd_setRelOptions htext
  | AT_ResetRelOptions options =>
    obtain ⟨text, htext, heq⟩ := Lib.bind_eq_ok.1 h
    cases heq
    exact isCmd_resetRelOptions htext
  | other subtype => cases h

/-- The text of a subcommand has a semicolon for each check in the wrong place, and one at its end. -/
theorem count_cmd {relation_name : Text} {cmd : AlterTableCmd TypeName Expr}
    (h : alterTableCmd b E relation relation_name cmd = .ok w) :
    ∃ ts, lexRun .start w = some (ts, .start) ∧ ts.count .semicolon = checks cmd + 1 := by
  have hend : [Token.semicolon].count .semicolon = 1 := rfl
  by_cases hchecks : checks cmd = 0
  · obtain ⟨ts, hts⟩ := isCmd (D := Copy.noKeywords) h hchecks
    refine ⟨_, hts.run, ?_⟩
    rw [List.count_append, List.count_eq_zero.2 hts.plain, hend, hchecks]
  · cases cmd with
    | AT_AddColumn col missing_ok =>
      obtain ⟨att, texts, -, htexts, -, rfl⟩ := addColumn_eq_ok h
      have hcolumn := @reads_column b col.colname (column_fq_type E att)
      obtain ⟨ts, hreads, hcount⟩ := count_constraints htexts hcolumn
      refine ⟨_, hreads.run run_end rfl, ?_⟩
      have hnone : ([word "ADD", word "COLUMN"] ++
          (nameToken b.K col.colname :: (column_fq_type E att).tokens)).count .semicolon = 0 := by
        refine List.count_eq_zero.2 ?_
        simp [word, nameToken_ne_semicolon.symm, not_semicolon_of_enclosed (Deparsed.closed _)]
      rw [List.count_append, hcount, hnone, hend, Nat.zero_add]
      rfl
    | _ => exact absurd rfl hchecks

/-! ## Statements -/

/-- The names of the relation are the only ones. -/
theorem statement_iff {cmd : AlterTableCmd TypeName Expr} {db_name schema_name : Text}
    (hdb : dbAndSchema b relation.oid = .ok (db_name, schema_name)) :
    StatementTokens b E relation D cmd ([word "ALTER", word "TABLE"] ++ ([nameToken b.K db_name, .dot,
        nameToken b.K schema_name, .dot, nameToken b.K (b.N.get_rel_name relation.oid)] ++ ts)) ↔
      DatabaseSpelled b relation D ∧ CmdTokens E relation D cmd ts := by
  constructor
  · intro h
    generalize heq : [word "ALTER", word "TABLE"] ++ ([nameToken b.K db_name, .dot, nameToken b.K schema_name, .dot,
      nameToken b.K (b.N.get_rel_name relation.oid)] ++ ts) = ts' at h
    cases h with
    | @mk table ts' htable hcmd =>
      cases htable with
      | mk hdb' hdatabase hschema hrelname =>
        cases hdb.symm.trans hdb'
        obtain ⟨t, rfl⟩ := List.length_eq_one_iff.1 hdatabase.length
        cases heq
        refine ⟨fun db_name' schema_name' hdb'' => ?_, hcmd⟩
        cases hdb.symm.trans hdb''
        exact nameTokens_iff.1 hdatabase
  · rintro ⟨hspelled, hcmd⟩
    have htable : RelationTokens b relation D ([nameToken b.K db_name] ++ [.dot, nameToken b.K schema_name, .dot,
        nameToken b.K (b.N.get_rel_name relation.oid)]) :=
      .mk hdb (nameTokens_iff.2 (hspelled _ _ hdb)) Copy.name?_nameToken Copy.name?_nameToken
    have hstatement : StatementTokens b E relation D cmd ([word "ALTER", word "TABLE"] ++ ([nameToken b.K db_name] ++
        [.dot, nameToken b.K schema_name, .dot, nameToken b.K (b.N.get_rel_name relation.oid)]) ++ ts) :=
      .mk htable hcmd
    exact hstatement

/-- The name of the relation, with what comes before it and after it. -/
theorem run_relation {relation_name : Text} {db_name schema_name : Text}
    (hname : relation_name = quote_identifier b.K db_name ++ '.' :: (quote_identifier b.K schema_name ++
      '.' :: quote_identifier b.K (b.N.get_rel_name relation.oid)))
    (h : lexRun .start w = some (ts, .start)) :
    lexRun .start ("ALTER TABLE ".toList ++ (relation_name ++ ' ' :: w)) =
      some ([word "ALTER", word "TABLE"] ++ ([nameToken b.K db_name, .dot, nameToken b.K schema_name, .dot,
        nameToken b.K (b.N.get_rel_name relation.oid)] ++ ts), .start) := by
  have halter : lexRun .start "ALTER TABLE ".toList = some ([word "ALTER", word "TABLE"], .start) := rfl
  have hspace : lexRun .start [' '] = some ([], .start) := rfl
  have hrelation := @Copy.reads_relation b db_name schema_name (b.N.get_rel_name relation.oid) []
  have hnone : Copy.appendAttlist b [] = [] := rfl
  rw [hnone, List.append_nil, ← hname] at hrelation
  exact Duck.lexRun_append_start halter (hrelation.run (Duck.lexRun_append_start hspace h) rfl)

/-- The text of a statement, in its parts. -/
theorem tabledef_eq_ok {cmds : List (AlterTableCmd TypeName Expr)}
    (h : pgduckdb_get_alter_tabledef b E relation cmds = .ok w) :
    ∃ relation_name db_name schema_name texts, dbAndSchema b relation.oid = .ok (db_name, schema_name) ∧
      relation_name = quote_identifier b.K db_name ++ '.' :: (quote_identifier b.K schema_name ++
        '.' :: quote_identifier b.K (b.N.get_rel_name relation.oid)) ∧
      List.Forall₂ (fun cmd w => alterTableCmd b E relation relation_name cmd = .ok w) cmds texts ∧
      w = texts.flatMap fun text => "ALTER TABLE ".toList ++ (relation_name ++ ' ' :: text) := by
  obtain ⟨relation_name, hname, h⟩ := Lib.bind_eq_ok.1 h
  obtain ⟨db_name, schema_name, hdb, hrelation⟩ := Copy.pgduckdb_relation_name_eq_ok.1 hname
  split at h
  · cases h
  · split at h
    · cases h
    · obtain ⟨texts, htexts, heq⟩ := Lib.bind_eq_ok.1 h
      cases heq
      exact ⟨relation_name, db_name, schema_name, texts, hdb, hrelation, Lib.mapM_eq_ok.1 htexts, rfl⟩

section
variable {cmds : List (AlterTableCmd TypeName Expr)} {relation_name db_name schema_name : Text} {texts : List Text}

/-- Without checks in the wrong place, the text is one statement for each subcommand. -/
theorem run_statements (hdb : dbAndSchema b relation.oid = .ok (db_name, schema_name))
    (hname : relation_name = quote_identifier b.K db_name ++ '.' :: (quote_identifier b.K schema_name ++
      '.' :: quote_identifier b.K (b.N.get_rel_name relation.oid)))
    (h : List.Forall₂ (fun cmd w => alterTableCmd b E relation relation_name cmd = .ok w) cmds texts)
    (hchecks : ∀ cmd ∈ cmds, checks cmd = 0) :
    ∃ tss, lexRun .start (texts.flatMap fun text => "ALTER TABLE ".toList ++ (relation_name ++ ' ' :: text)) =
        some (tss.flatMap fun ts => ts ++ [Token.semicolon], .start) ∧
      (∀ ts ∈ tss, ts.count .semicolon = 0) ∧
      (List.Forall₂ (StatementTokens b E relation D) cmds tss ↔
        ∀ cmd ∈ cmds, DatabaseSpelled b relation D ∧ Carried b D cmd) := by
  induction h with
  | nil =>
    exact ⟨[], rfl, fun ts hts => absurd hts List.not_mem_nil,
      iff_of_true .nil fun cmd hcmd => absurd hcmd List.not_mem_nil⟩
  | @cons cmd w cmds texts hfirst _ ih =>
    rw [List.forall_mem_cons] at hchecks
    obtain ⟨ts, hts⟩ := isCmd (D := D) hfirst hchecks.1
    obtain ⟨tss, hrun, hplain, hiff⟩ := ih hchecks.2
    have hstatement := run_relation hname hts.run
    generalize htable : [nameToken b.K db_name, Token.dot, nameToken b.K schema_name, .dot,
      nameToken b.K (b.N.get_rel_name relation.oid)] = table at hstatement
    refine ⟨([word "ALTER", word "TABLE"] ++ (table ++ ts)) :: tss, ?_, ?_, ?_⟩
    · rw [List.flatMap_cons, List.flatMap_cons]
      simp only [List.append_assoc] at hstatement hrun ⊢
      have hall := Duck.lexRun_append_start hstatement hrun
      simp only [List.append_assoc] at hall
      exact hall
    · rw [List.forall_mem_cons]
      refine ⟨List.count_eq_zero.2 ?_, hplain⟩
      rw [← htable]
      simp [word, nameToken_ne_semicolon.symm, hts.plain]
    · rw [List.forall₂_cons, List.forall_mem_cons, hiff, ← htable, statement_iff hdb, hts.iff]

/-- The semicolons of the whole text. -/
theorem count_statements
    (hname : relation_name = quote_identifier b.K db_name ++ '.' :: (quote_identifier b.K schema_name ++
      '.' :: quote_identifier b.K (b.N.get_rel_name relation.oid)))
    (h : List.Forall₂ (fun cmd w => alterTableCmd b E relation relation_name cmd = .ok w) cmds texts) :
    ∃ ts, lexRun .start (texts.flatMap fun text => "ALTER TABLE ".toList ++ (relation_name ++ ' ' :: text)) =
        some (ts, .start) ∧ ts.count .semicolon = (cmds.map checks).sum + cmds.length := by
  induction h with
  | nil => exact ⟨[], rfl, rfl⟩
  | @cons cmd w cmds texts hfirst _ ih =>
    obtain ⟨ts, hrun, hcount⟩ := count_cmd hfirst
    obtain ⟨tss, hrest, hcountRest⟩ := ih
    have hstatement := run_relation hname hrun
    refine ⟨_, Duck.lexRun_append_start hstatement hrest, ?_⟩
    rw [List.map_cons, List.sum_cons, List.length_cons]
    simp [word, nameToken_ne_semicolon, hcount, hcountRest]
    omega

end

/-- A subcommand that is carried has no check in the wrong place. -/
theorem checks_of_carried {cmd : AlterTableCmd TypeName Expr} (h : Carried b D cmd) : checks cmd = 0 := by
  cases cmd with
  | AT_AddColumn col missing_ok =>
    refine List.countP_eq_zero.2 fun constraint hconstraint => ?_
    obtain ⟨conname, contype⟩ := constraint
    rcases h.2.2 _ hconstraint with hdefault | ⟨-, hnot⟩
    · dsimp only at hdefault
      rw [hdefault]
      exact Bool.false_ne_true
    · cases contype with
      | CONSTR_CHECK raw_expr => exact absurd rfl (hnot raw_expr)
      | _ => exact Bool.false_ne_true
  | _ => rfl

end

section
variable {TypeName Expr Node : Type} {D : DuckKeywords} {b : Backend} {E : Deparser TypeName Expr Node}
  {relation : Relation} {cmds : List (AlterTableCmd TypeName Expr)} {text : Text} {ts : List Token}
  {tss : List (List Token)}

/-- A statement for one subcommand has no semicolon. -/
theorem statements_plain (h : List.Forall₂ (StatementTokens b E relation D) cmds tss) :
    ∀ ts ∈ tss, ts.count .semicolon = 0 := by
  intro ts hts
  obtain ⟨cmd, hstatement⟩ := Lib.forall₂_mem_right h hts
  exact List.count_eq_zero.2 (not_semicolon_statement hstatement)

/-- There is one semicolon for each subcommand. -/
theorem SplitsInto.count_semicolons (h : SplitsInto b E relation D cmds text) (hlex : Duck.lex text = some ts) :
    ts.count .semicolon = cmds.length := by
  obtain ⟨tss, hstatements, hts⟩ := h
  rw [hlex] at hts
  cases hts
  rw [Duck.count_segments (statements_plain hstatements), hstatements.length_eq]

end

/-- The text is read as one statement for each subcommand, with all that it has, exactly if each may be carried. -/
theorem splitsInto_iff {TypeName Expr Node : Type} (D : DuckKeywords) (b : Backend)
    (E : Deparser TypeName Expr Node) (relation : Relation) {cmds : List (AlterTableCmd TypeName Expr)} {text : Text}
    (h : pgduckdb_get_alter_tabledef b E relation cmds = .ok text) :
    SplitsInto b E relation D cmds text ↔ ∀ cmd ∈ cmds, DatabaseSpelled b relation D ∧ Carried b D cmd := by
  obtain ⟨relation_name, db_name, schema_name, texts, hdb, hname, htexts, rfl⟩ := tabledef_eq_ok h
  constructor
  · intro hsplits
    obtain ⟨ts, hrun, hcount⟩ := count_statements hname htexts
    rw [hsplits.count_semicolons (Reads.of_run hrun).lex] at hcount
    have hzero : (cmds.map checks).sum = 0 := by omega
    have hchecks : ∀ cmd ∈ cmds, checks cmd = 0 := fun cmd hcmd =>
      List.sum_eq_zero_iff_forall_eq_nat.1 hzero _ (List.mem_map_of_mem hcmd)
    obtain ⟨tss', hrun', hplain', hiff⟩ := run_statements (D := D) hdb hname htexts hchecks
    obtain ⟨tss, hstatements, hlex⟩ := hsplits
    rw [(Reads.of_run hrun').lex] at hlex
    have hsame := Duck.segments_inj hplain' (statements_plain hstatements) (Option.some.inj hlex)
    rw [← hsame] at hstatements
    exact hiff.1 hstatements
  · intro hcarried
    obtain ⟨tss, hrun, -, hiff⟩ := run_statements (D := D) hdb hname htexts fun cmd hcmd =>
      checks_of_carried (hcarried cmd hcmd).2
    exact ⟨tss, hiff.2 hcarried, (Reads.of_run hrun).lex⟩

/-- `integer`. -/
def integer : Deparsed := ⟨"integer".toList, [word "integer"], .word rfl, rfl⟩

/-- `100`. -/
def hundred : Deparsed := ⟨"100".toList, [.num "100".toList], .number rfl, rfl⟩

/-- `(c >= 0)`. -/
def nonnegative : Deparsed :=
  ⟨"(c >= 0)".toList, [.lparen, word "c", .op ['>', '='], .num ['0'], .rparen], .of_run rfl, rfl⟩

/-- All columns are integers, and expressions are given as their texts. -/
def integers : Deparser Unit Deparsed Deparsed where
  BuildDescForRelation _ := .ok ⟨23, -1, '\x00'⟩
  format_type_with_typemod _ _ := integer
  cookDefault raw_expr _ _ _ _ := .ok raw_expr
  cookConstraint raw_expr _ := .ok raw_expr
  pgduckdb_deparse_expression expr := .ok expr

/-- The table `t`. -/
def table_t : Relation where
  oid := 16384
  relname := "t".toList
  relkind_relation := true
  fkeys := 0
  GetAttributeByName _ := some ⟨23, -1, '\x00'⟩

/-- `ADD COLUMN c integer`. -/
def addColumn_c (constraints : List (Constraint Deparsed)) : AlterTableCmd Unit Deparsed :=
  .AT_AddColumn ⟨"c".toList, (), constraints, none, 0, none⟩ false

set_option maxRecDepth 4000 in
/-- A column with a default that must not be NULL, and another one that is dropped. -/
theorem splitsInto_addColumn_dropColumn : SplitsInto Copy.backend integers table_t Copy.noKeywords
    [addColumn_c [⟨none, .CONSTR_DEFAULT (some hundred)⟩, ⟨none, .CONSTR_NOTNULL⟩],
      .AT_DropColumn "a".toList .DROP_CASCADE false]
    ("ALTER TABLE my_db.main.t ADD COLUMN c integer DEFAULT 100 NOT NULL; ".toList ++
      "ALTER TABLE my_db.main.t DROP COLUMN a CASCADE; ".toList) := by
  have hspelled : ∀ name, Spelled Copy.backend Copy.noKeywords.notColId name := fun _ _ _ => rfl
  have hdatabase : DatabaseSpelled Copy.backend table_t Copy.noKeywords := fun db_name _ _ => hspelled db_name
  have hconstraints : ∀ constraint ∈ [⟨none, .CONSTR_DEFAULT (some hundred)⟩, ⟨none, .CONSTR_NOTNULL⟩],
      Constraint.Carried constraint := by
    simp [Constraint.Carried]
  refine (splitsInto_iff Copy.noKeywords Copy.backend integers table_t rfl).2 ?_
  rw [List.forall_mem_cons, List.forall_mem_singleton]
  exact ⟨⟨hdatabase, rfl, hspelled _, hconstraints⟩, hdatabase, rfl, hspelled _⟩

set_option maxRecDepth 4000 in
/-- After a check, `NOT NULL` is a statement of its own. -/
theorem not_splitsInto_check :
    pgduckdb_get_alter_tabledef Copy.backend integers table_t
        [addColumn_c [⟨none, .CONSTR_CHECK nonnegative⟩, ⟨none, .CONSTR_NOTNULL⟩]] =
      .ok "ALTER TABLE my_db.main.t ADD COLUMN c integerCHECK ((c >= 0));  NOT NULL; ".toList ∧
    ¬SplitsInto Copy.backend integers table_t Copy.noKeywords
      [addColumn_c [⟨none, .CONSTR_CHECK nonnegative⟩, ⟨none, .CONSTR_NOTNULL⟩]]
      "ALTER TABLE my_db.main.t ADD COLUMN c integerCHECK ((c >= 0));  NOT NULL; ".toList := by
  refine ⟨rfl, fun hsplits => ?_⟩
  have hlex : Duck.lex "ALTER TABLE my_db.main.t ADD COLUMN c integerCHECK ((c >= 0));  NOT NULL; ".toList =
      some [word "ALTER", word "TABLE", word "my_db", .dot, word "main", .dot, word "t", word "ADD", word "COLUMN",
        word "c", word "integerCHECK", .lparen, .lparen, word "c", .op ['>', '='], .num ['0'], .rparen, .rparen,
        .semicolon, word "NOT", word "NULL", .semicolon] := rfl
  have hcount := hsplits.count_semicolons hlex
  cases hcount

end PgDuckdb.AlterTable
