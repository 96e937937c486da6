import Mathlib.Algebra.GroupWithZero.Nat
import PgDuckdb.Deparse.AlterTable
import PgDuckdb.Duck.Statements

/-!
# The subcommands but for ADD COLUMN

The tokens of a subcommand have no semicolon among them. The text of one that has no constraints, or adds one to the
table, is read as tokens and a semicolon, and these are the subcommand exactly if it may be carried (`IsCmd`).
-/

namespace PgDuckdb.AlterTable

open Pg (Text quote_identifier)
open Cache (quote_literal_cstr)
open Copy (Backend DuckKeywords NameTokens Spelled signed enclosed error_ pgduckdb_relation_name dbAndSchema nameToken
  nameTokens_iff readsName_quote_identifier reads_quote_literal)
open Duck (Token Reads Separated lexRun)

/-! ## No semicolons -/

section
variable {ts : List Token} {reserved : Text → Bool} {name : Text}

/-- What closes its own parentheses and no others has no semicolon. -/
theorem not_semicolon_of_enclosed {depth : ℕ} (h : enclosed depth ts = true) : Token.semicolon ∉ ts := by
  induction ts generalizing depth with
  | nil => exact List.not_mem_nil
  | cons t ts ih =>
    cases t with
    | lparen => simpa using ih h
    | rparen =>
      cases depth with
      | zero => cases h
      | succ depth => simpa using ih h
    | semicolon => cases depth <;> cases h
    | _ => cases depth <;> simpa using ih h

/-- A name is no semicolon. -/
theorem not_semicolon_of_name (h : NameTokens reserved name ts) : Token.semicolon ∉ ts := by
  rcases h with rfl | ⟨rfl, -⟩ <;> simp

/-- A list with commas has none if its elements have none. -/
theorem not_semicolon_of_separated {α : Type} {P : α → List Token → Prop} {l : List α}
    (hP : ∀ a ts, P a ts → Token.semicolon ∉ ts) (h : Separated P l ts) : Token.semicolon ∉ ts := by
  induction h with
  | nil => exact List.not_mem_nil
  | single ha => exact hP _ _ ha
  | cons ha _ ih => simp [hP _ _ ha, ih]

/-- Nor have its elements one after the other. -/
theorem not_semicolon_flatten {α : Type} {P : α → List Token → Prop} {l : List α} {tss : List (List Token)}
    (hP : ∀ a ts, P a ts → Token.semicolon ∉ ts) (h : List.Forall₂ P l tss) : Token.semicolon ∉ tss.flatten := by
  induction h with
  | nil => exact List.not_mem_nil
  | cons ha _ ih => simp [hP _ _ ha, ih]

/-- A number has none. -/
theorem not_semicolon_signed {negative : Bool} {w : Text} : Token.semicolon ∉ signed negative w := by
  cases negative <;> simp [signed]

end

section
variable {TypeName Expr Node : Type} {b : Backend} {E : Deparser TypeName Expr Node} {relation : Relation}
  {D : DuckKeywords} {ts : List Token} {att : Attribute} {colname w : Text}

/-- A token with a name is no semicolon. -/
theorem ne_semicolon_of_name {t : Token} {name : Text} (h : t.name? = some name) : t ≠ .semicolon := by
  rintro rfl
  cases h

/-- The name of a constraint has none. -/
theorem not_semicolon_constraintName {conname : Option Text} (h : ConstraintName D conname ts) :
    Token.semicolon ∉ ts := by
  cases h with
  | none => exact List.not_mem_nil
  | some hname => simp [word, not_semicolon_of_name hname]

/-- A qualified name has none. -/
theorem not_semicolon_qualified {names : List Text} (h : QualifiedName names ts) : Token.semicolon ∉ ts := by
  induction h with
  | single ht => simp [(ne_semicolon_of_name ht).symm]
  | cons ht _ ih => simp [(ne_semicolon_of_name ht).symm, ih]

/-- A collation has none. -/
theorem not_semicolon_collate {collClause : Option (List Text)} (h : CollateTokens collClause ts) :
    Token.semicolon ∉ ts := by
  cases h with
  | none => exact List.not_mem_nil
  | some hnames => simp [word, not_semicolon_qualified hnames]

/-- A constraint of a column has none. -/
theorem not_semicolon_columnElem {contype : ConstrType Expr} (h : ColumnElem E relation att colname contype ts) :
    Token.semicolon ∉ ts := by
  cases h with
  | null | notNull | primary | unique => simp [word]
  | default => simp [word, not_semicolon_of_enclosed (Deparsed.closed _)]
  | check => simp [word, not_semicolon_of_enclosed (Deparsed.closed _)]

/-- Nor with its name. -/
theorem not_semicolon_columnConstraint {constraint : Constraint Expr}
    (h : ColumnConstraint E relation D att colname constraint ts) : Token.semicolon ∉ ts := by
  cases h with
  | noDefault => exact List.not_mem_nil
  | elem hname helem => simp [not_semicolon_constraintName hname, not_semicolon_columnElem helem]

/-- A constraint of the table has none. -/
theorem not_semicolon_tableElem {contype : ConstrType Expr} (h : TableElem E relation D contype ts) :
    Token.semicolon ∉ ts := by
  cases h with
  | check => simp [word, not_semicolon_of_enclosed (Deparsed.closed _)]
  | primary _ hkeys | unique _ hkeys =>
    simp [word, not_semicolon_of_separated (fun _ _ => not_semicolon_of_name) hkeys]

/-- The name of an option has none. -/
theorem not_semicolon_optionName {option : DefElem} (h : OptionName option ts) : Token.semicolon ∉ ts := by
  cases h with
  | plain ht => simp [(ne_semicolon_of_name ht).symm]
  | qualified ht ht' => simp [(ne_semicolon_of_name ht).symm, (ne_semicolon_of_name ht').symm]

/-- An option with its value has none. -/
theorem not_semicolon_setOption {option : DefElem} (h : SetOption option ts) : Token.semicolon ∉ ts := by
  cases h with
  | mk hname hvalue =>
    have hnot := not_semicolon_optionName hname
    generalize option.arg = arg at hvalue
    cases hvalue with
    | none | string => simp [hnot]
    | integer => simp [hnot, not_semicolon_signed]

/-- A subcommand has none. -/
theorem not_semicolon_cmd {cmd : AlterTableCmd TypeName Expr} (h : CmdTokens E relation D cmd ts) :
    Token.semicolon ∉ ts := by
  have htype (att : Attribute) : Token.semicolon ∉ (column_fq_type E att).tokens :=
    not_semicolon_of_enclosed (Deparsed.closed _)
  cases h with
  | @addColumn col missing_ok att name collate constraints _ hname hcollate hconstraints =>
    have hall := not_semicolon_flatten (fun _ _ => not_semicolon_columnConstraint) hconstraints
    cases missing_ok <;>
      simp [word, ifNotExists, not_semicolon_of_name hname, htype, not_semicolon_collate hcollate, hall]
  | @alterColumnType column_name col att name collate using_ _ hname hcollate husing =>
    have hnot : Token.semicolon ∉ using_ := by
      generalize col.raw_default = raw_default at husing
      cases husing with
      | none => exact List.not_mem_nil
      | some hclosed => simp [word, not_semicolon_of_enclosed hclosed]
    simp [word, not_semicolon_of_name hname, htype, not_semicolon_collate hcollate, hnot]
  | @dropColumn name behavior missing_ok ts hname | @dropConstraint name behavior missing_ok ts hname =>
    cases missing_ok <;> cases behavior <;>
      simp [word, ifExists, behaviorToken, not_semicolon_of_name hname]
  | setDefault _ _ hname => simp [word, not_semicolon_of_name hname, not_semicolon_of_enclosed (Deparsed.closed _)]
  | dropDefault hname | dropNotNull hname | setNotNull hname => simp [word, not_semicolon_of_name hname]
  | addConstraint hname helem =>
    simp [word, not_semicolon_constraintName hname, not_semicolon_tableElem helem]
  | setRelOptions hoptions =>
    simp [word, not_semicolon_of_separated (fun _ _ => not_semicolon_setOption) hoptions]
  | resetRelOptions hoptions =>
    simp [word, not_semicolon_of_separated (fun _ _ => not_semicolon_optionName) hoptions]

/-- A statement for one subcommand has none. -/
theorem not_semicolon_statement {cmd : AlterTableCmd TypeName Expr} (h : StatementTokens b E relation D cmd ts) :
    Token.semicolon ∉ ts := by
  cases h with
  | mk htable hcmd =>
    cases htable with
    | mk _ hdatabase hschema hrelname =>
      simp [word, not_semicolon_of_name hdatabase, (ne_semicolon_of_name hschema).symm,
        (ne_semicolon_of_name hrelname).symm, not_semicolon_cmd hcmd]

/-! ## Subcommands without constraints -/

/-- The text is read as these tokens and a semicolon, and they are the subcommand exactly if it may be carried. -/
structure IsCmd (b : Backend) (E : Deparser TypeName Expr Node) (relation : Relation) (D : DuckKeywords)
    (cmd : AlterTableCmd TypeName Expr) (text : Text) (ts : List Token) : Prop where
  run : lexRun .start text = some (ts ++ [.semicolon], .start)
  plain : Token.semicolon ∉ ts
  iff : CmdTokens E relation D cmd ts ↔ Carried b D cmd

/-- The end of a subcommand is a semicolon. -/
theorem run_end : lexRun .start "; ".toList = some ([.semicolon], .start) := rfl

/-- A name after a part of a statement, and the rest, which starts with a blank. -/
theorem run_name {K : Pg.Keywords} {front rest name : Text} {ts ts' : List Token}
    (hfront : lexRun .start front = some (ts, .start)) (hrest : lexRun .start (' ' :: rest) = some (ts', .start)) :
    lexRun .start (front ++ (quote_identifier K name ++ ' ' :: rest)) =
      some (ts ++ (nameToken K name :: ts'), .start) :=
  Duck.lexRun_append_start hfront (readsName_quote_identifier.reads.run hrest rfl)

/-- The token of a name is no semicolon. -/
theorem nameToken_ne_semicolon {K : Pg.Keywords} {name : Text} : nameToken K name ≠ .semicolon :=
  ne_semicolon_of_name Copy.name?_nameToken

/-- A subcommand that has a name between two parts. -/
theorem isCmd_of_name {cmd : AlterTableCmd TypeName Expr} {front rest name : Text} {ts ts' : List Token}
    (hfront : lexRun .start front = some (ts, .start))
    (hrest : lexRun .start (' ' :: rest) = some (ts' ++ [.semicolon], .start))
    (hplain : Token.semicolon ∉ ts ++ ts')
    (hiff : CmdTokens E relation D cmd (ts ++ (nameToken b.K name :: ts')) ↔ Carried b D cmd) :
    IsCmd b E relation D cmd (front ++ (quote_identifier b.K name ++ ' ' :: rest))
      (ts ++ (nameToken b.K name :: ts')) where
  run := by
    rw [run_name hfront hrest, List.append_assoc]
    rfl
  plain := by
    rw [List.mem_append, not_or] at hplain
    simp [hplain.1, hplain.2, nameToken_ne_semicolon.symm]
  iff := hiff

/-- Where a name stands in a statement, nothing can be in front of it, or be more of what comes after it. -/
theorem name_of_eq {reserved : Text → Bool} {front extra ts back back' : List Token} {name : Text}
    (hname : NameTokens reserved name ts) (hle : back.length ≤ back'.length)
    (h : front ++ (nameToken b.K name :: back) = front ++ extra ++ ts ++ back') :
    extra = [] ∧ Spelled b reserved name ∧ back = back' := by
  have hlength := congrArg List.length h
  rw [List.length_append, List.length_cons, List.length_append, List.length_append, List.length_append,
    hname.length] at hlength
  have hextra : extra = [] := List.length_eq_zero_iff.1 (by omega)
  obtain ⟨t, rfl⟩ := List.length_eq_one_iff.1 hname.length
  rw [hextra, List.append_nil, List.append_assoc] at h
  obtain ⟨rfl, hback⟩ := List.cons.inj (List.append_cancel_left h)
  exact ⟨hextra, nameTokens_iff.1 hname, hback⟩

/-- A name with nothing in front of it. -/
theorem spelled_of_eq {reserved : Text → Bool} {front ts back : List Token} {name : Text}
    (hname : NameTokens reserved name ts) (h : front ++ (nameToken b.K name :: back) = front ++ ts ++ back) :
    Spelled b reserved name := by
  have hextra : front ++ (nameToken b.K name :: back) = front ++ [] ++ ts ++ back := by
    rw [List.append_nil]
    exact h
  exact (name_of_eq hname (Nat.le_refl _) hextra).2.1

/-- A subcommand whose tokens are a name between two parts, with some that are not written in front of it. -/
theorem isCmd_of_shape {cmd : AlterTableCmd TypeName Expr} {front rest name : Text} {ts ts' extra : List Token}
    (hfront : lexRun .start front = some (ts, .start))
    (hrest : lexRun .start (' ' :: rest) = some (ts' ++ [.semicolon], .start))
    (hplain : Token.semicolon ∉ ts ++ ts')
    (htokens : ∀ ts₀, CmdTokens E relation D cmd ts₀ ↔
      ∃ name', NameTokens D.notColId name name' ∧ ts₀ = ts ++ extra ++ name' ++ ts')
    (hcarried : Carried b D cmd ↔ extra = [] ∧ Spelled b D.notColId name) :
    ∃ ts, IsCmd b E relation D cmd (front ++ (quote_identifier b.K name ++ ' ' :: rest)) ts := by
  refine ⟨_, isCmd_of_name hfront hrest hplain ?_⟩
  rw [htokens, hcarried]
  constructor
  · rintro ⟨name', hname, heq⟩
    obtain ⟨hextra, hspelled, -⟩ := name_of_eq hname (Nat.le_refl _) heq
    exact ⟨hextra, hspelled⟩
  · rintro ⟨rfl, hspelled⟩
    refine ⟨_, nameTokens_iff.2 hspelled, ?_⟩
    rw [List.append_nil, List.append_assoc]
    rfl

/-- Nothing is written where a missing object is an error. -/
theorem ifExists_eq_nil {missing_ok : Bool} : ifExists missing_ok = [] ↔ missing_ok = false := by
  cases missing_ok <;> simp [ifExists]

/-- Nothing is written where an existing object is an error. -/
theorem ifNotExists_eq_nil {missing_ok : Bool} : ifNotExists missing_ok = [] ↔ missing_ok = false := by
  cases missing_ok <;> simp [ifNotExists]

/-- A subcommand that drops what has a name. -/
theorem isCmd_drop {cmd : AlterTableCmd TypeName Expr} {front name : Text} {ts : List Token}
    {behavior : DropBehavior} {missing_ok : Bool} (hfront : lexRun .start front = some (ts, .start))
    (hplain : Token.semicolon ∉ ts)
    (htokens : ∀ ts₀, CmdTokens E relation D cmd ts₀ ↔ ∃ name', NameTokens D.notColId name name' ∧
      ts₀ = ts ++ ifExists missing_ok ++ name' ++ [behaviorToken behavior])
    (hcarried : Carried b D cmd ↔ missing_ok = false ∧ Spelled b D.notColId name) :
    ∃ ts, IsCmd b E relation D cmd
      (front ++ (quote_identifier b.K name ++ (dropBehavior behavior ++ "; ".toList))) ts := by
  have hrest : lexRun .start (dropBehavior behavior ++ "; ".toList) =
      some ([behaviorToken behavior] ++ [.semicolon], .start) := by
    cases behavior <;> rfl
  have hnone : Token.semicolon ∉ ts ++ [behaviorToken behavior] := by
    cases behavior <;> simp [word, behaviorToken, hplain]
  rw [← ifExists_eq_nil] at hcarried
  cases behavior with
  | DROP_CASCADE => exact isCmd_of_shape hfront hrest hnone htokens hcarried
  | DROP_RESTRICT => exact isCmd_of_shape hfront hrest hnone htokens hcarried

/-- `DROP COLUMN` is read as itself, unless it is `IF EXISTS`. -/
theorem isCmd_dropColumn {name : Text} {behavior : DropBehavior} {missing_ok : Bool} :
    ∃ ts, IsCmd b E relation D (.AT_DropColumn name behavior missing_ok)
      ("DROP COLUMN ".toList ++ (quote_identifier b.K name ++ (dropBehavior behavior ++ "; ".toList))) ts := by
  have hfront : lexRun .start "DROP COLUMN ".toList = some ([word "DROP", word "COLUMN"], .start) := rfl
  refine isCmd_drop hfront (by simp [word]) (fun ts₀ => ⟨fun h => ?_, ?_⟩) Iff.rfl
  · cases h with
    | dropColumn hname => exact ⟨_, hname, rfl⟩
  · rintro ⟨name', hname, rfl⟩
    exact .dropColumn hname

/-- `DROP CONSTRAINT` is read as itself, unless it is `IF EXISTS`. -/
theorem isCmd_dropConstraint {name : Text} {behavior : DropBehavior} {missing_ok : Bool} :
    ∃ ts, IsCmd b E relation D (.AT_DropConstraint name behavior missing_ok)
      ("DROP CONSTRAINT ".toList ++ (quote_identifier b.K name ++ (dropBehavior behavior ++ "; ".toList))) ts := by
  have hfront : lexRun .start "DROP CONSTRAINT ".toList = some ([word "DROP", word "CONSTRAINT"], .start) := rfl
  refine isCmd_drop hfront (by simp [word]) (fun ts₀ => ⟨fun h => ?_, ?_⟩) Iff.rfl
  · cases h with
    | dropConstraint hname => exact ⟨_, hname, rfl⟩
  · rintro ⟨name', hname, rfl⟩
    exact .dropConstraint hname

/-- The start of a subcommand for a column that is there. -/
theorem alterColumn_run : lexRun .start "ALTER COLUMN ".toList = some ([word "ALTER", word "COLUMN"], .start) := rfl

/-- A subcommand that alters the column of a name. -/
theorem isCmd_alterColumn {cmd : AlterTableCmd TypeName Expr} {rest name : Text} {ts : List Token}
    (hrest : lexRun .start (' ' :: rest) = some (ts ++ [.semicolon], .start)) (hplain : Token.semicolon ∉ ts)
    (htokens : ∀ ts₀, CmdTokens E relation D cmd ts₀ ↔ ∃ name', NameTokens D.notColId name name' ∧
      ts₀ = [word "ALTER", word "COLUMN"] ++ name' ++ ts)
    (hcarried : Carried b D cmd ↔ Spelled b D.notColId name) :
    ∃ ts, IsCmd b E relation D cmd ("ALTER COLUMN ".toList ++ (quote_identifier b.K name ++ ' ' :: rest)) ts := by
  have hnone : Token.semicolon ∉ [word "ALTER", word "COLUMN"] ++ ts := by simp [word, hplain]
  have htokens' : ∀ ts₀, CmdTokens E relation D cmd ts₀ ↔ ∃ name', NameTokens D.notColId name name' ∧
      ts₀ = [word "ALTER", word "COLUMN"] ++ [] ++ name' ++ ts := by
    rw [List.append_nil]
    exact htokens
  refine isCmd_of_shape alterColumn_run hrest hnone htokens' ?_
  rw [hcarried, eq_self, true_and]

/-- `DROP NOT NULL` is read as itself. -/
theorem isCmd_dropNotNull {name : Text} : ∃ ts, IsCmd b E relation D (.AT_DropNotNull name)
    ("ALTER COLUMN ".toList ++ (quote_identifier b.K name ++ " DROP NOT NULL; ".toList)) ts := by
  have hrest : lexRun .start " DROP NOT NULL; ".toList =
      some ([word "DROP", word "NOT", word "NULL"] ++ [.semicolon], .start) := rfl
  refine isCmd_alterColumn hrest (by simp [word]) (fun ts₀ => ⟨fun h => ?_, ?_⟩) Iff.rfl
  · cases h with
    | dropNotNull hname => exact ⟨_, hname, rfl⟩
  · rintro ⟨name', hname, rfl⟩
    exact .dropNotNull hname

/-- `SET NOT NULL` is read as itself. -/
theorem isCmd_setNotNull {name : Text} : ∃ ts, IsCmd b E relation D (.AT_SetNotNull name)
    ("ALTER COLUMN ".toList ++ (quote_identifier b.K name ++ " SET NOT NULL; ".toList)) ts := by
  have hrest : lexRun .start " SET NOT NULL; ".toList =
      some ([word "SET", word "NOT", word "NULL"] ++ [.semicolon], .start) := rfl
  refine isCmd_alterColumn hrest (by simp [word]) (fun ts₀ => ⟨fun h => ?_, ?_⟩) Iff.rfl
  · cases h with
    | setNotNull hname => exact ⟨_, hname, rfl⟩
  · rintro ⟨name', hname, rfl⟩
    exact .setNotNull hname

/-- `DROP DEFAULT` is read as itself. -/
theorem isCmd_dropDefault {name : Text} : ∃ ts, IsCmd b E relation D (.AT_ColumnDefault name none)
    ("ALTER COLUMN ".toList ++ (quote_identifier b.K name ++ " DROP DEFAULT; ".toList)) ts := by
  have hrest : lexRun .start " DROP DEFAULT; ".toList =
      some ([word "DROP", word "DEFAULT"] ++ [.semicolon], .start) := rfl
  refine isCmd_alterColumn hrest (by simp [word]) (fun ts₀ => ⟨fun h => ?_, ?_⟩) Iff.rfl
  · cases h with
    | dropDefault hname => exact ⟨_, hname, rfl⟩
  · rintro ⟨name', hname, rfl⟩
    exact .dropDefault hname

/-- `SET DEFAULT` is read as itself. -/
theorem isCmd_setDefault {name : Text} {raw_expr : Expr} {d : Deparsed}
    (hatt : relation.GetAttributeByName name = some att) (hd : default_string E att name raw_expr = .ok d) :
    ∃ ts, IsCmd b E relation D (.AT_ColumnDefault name (some raw_expr))
      ("ALTER COLUMN ".toList ++ (quote_identifier b.K name ++ (" SET DEFAULT ".toList ++ (d.text ++ "; ".toList))))
      ts := by
  have hset : lexRun .start " SET DEFAULT ".toList = some ([word "SET", word "DEFAULT"], .start) := rfl
  have hrest : lexRun .start (" SET DEFAULT ".toList ++ (d.text ++ "; ".toList)) =
      some (([word "SET", word "DEFAULT"] ++ d.tokens) ++ [.semicolon], .start) := by
    rw [List.append_assoc]
    exact Duck.lexRun_append_start hset (d.reads.run run_end rfl)
  refine isCmd_alterColumn hrest ?_ (fun ts₀ => ⟨fun h => ?_, ?_⟩) Iff.rfl
  · simp [word, not_semicolon_of_enclosed d.closed]
  · cases h with
    | setDefault hatt' hd' hname =>
      cases hatt.symm.trans hatt'
      cases hd.symm.trans hd'
      refine ⟨_, hname, ?_⟩
      rw [← List.append_assoc]
  · rintro ⟨name', hname, rfl⟩
    rw [← List.append_assoc]
    exact .setDefault hatt hd hname

/-- An optional part has no tokens only if it is not there. -/
theorem collate_eq_nil {collClause : Option (List Text)} (h : CollateTokens collClause []) : collClause = none := by
  cases h with
  | none => rfl

/-- There are no tokens for `USING` only where there is none. -/
theorem using_eq_nil {raw_default : Option Expr} (h : UsingTokens raw_default []) : raw_default = none := by
  cases h with
  | none => rfl

/-- A change of the type is read as itself, unless it has a collation or `USING`. -/
theorem isCmd_alterColumnType {name : Text} {col : ColumnDef TypeName Expr}
    (hatt : E.BuildDescForRelation col = .ok att) :
    ∃ ts, IsCmd b E relation D (.AT_AlterColumnType name col)
      ("ALTER COLUMN ".toList ++ (quote_identifier b.K name ++
        (" TYPE ".toList ++ ((column_fq_type E att).text ++ "; ".toList)))) ts := by
  have htype : lexRun .start " TYPE ".toList = some ([word "TYPE"], .start) := rfl
  have hrest : lexRun .start (" TYPE ".toList ++ ((column_fq_type E att).text ++ "; ".toList)) =
      some (([word "TYPE"] ++ (column_fq_type E att).tokens) ++ [.semicolon], .start) := by
    rw [List.append_assoc]
    exact Duck.lexRun_append_start htype ((column_fq_type E att).reads.run run_end rfl)
  refine ⟨_, isCmd_of_name alterColumn_run hrest ?_ ⟨fun h => ?_, fun h => ?_⟩⟩
  · simp [word, not_semicolon_of_enclosed (Deparsed.closed _)]
  · generalize heq : [word "ALTER", word "COLUMN"] ++
      (nameToken b.K name :: ([word "TYPE"] ++ (column_fq_type E att).tokens)) = ts at h
    cases h with
    | @alterColumnType _ _ att' ts' collate using_ hatt' hname hcollate husing =>
      cases hatt.symm.trans hatt'
      have heq' : [word "ALTER", word "COLUMN"] ++
          (nameToken b.K name :: ([word "TYPE"] ++ (column_fq_type E att).tokens)) =
          [word "ALTER", word "COLUMN"] ++ [] ++ ts' ++
            ([word "TYPE"] ++ (column_fq_type E att).tokens ++ (collate ++ using_)) := by
        rw [heq]
        simp only [List.append_assoc, List.append_nil]
      have hle : ([word "TYPE"] ++ (column_fq_type E att).tokens).length ≤
          ([word "TYPE"] ++ (column_fq_type E att).tokens ++ (collate ++ using_)).length := by
        rw [@List.length_append _ (_ ++ _) (collate ++ using_)]
        exact Nat.le_add_right _ _
      obtain ⟨-, hspelled, hback⟩ := name_of_eq hname hle heq'
      obtain ⟨rfl, rfl⟩ := List.append_eq_nil_iff.1 (List.append_right_eq_self.1 hback.symm)
      exact ⟨hspelled, collate_eq_nil hcollate, using_eq_nil husing⟩
  · obtain ⟨hspelled, hcollate, husing⟩ := h
    have hcollate : CollateTokens col.collClause [] := hcollate ▸ .none
    have husing : UsingTokens col.raw_default [] := husing ▸ .none
    have htokens := @CmdTokens.alterColumnType _ _ _ E relation D _ _ _ _ _ _ hatt (nameTokens_iff.2 hspelled)
      hcollate husing
    simpa using htokens

/-! ## Constraints of the table -/

/-- A name of a constraint has two tokens. -/
theorem constraintName_length {conname : Option Text} (h : ConstraintName D conname ts) :
    ts.length = if conname.isSome then 2 else 0 := by
  cases h with
  | none => rfl
  | some hname =>
    rw [List.length_cons, hname.length]
    rfl

/-- A text in parentheses, up to the end of the statement. -/
theorem run_paren (h : Reads w ts) : lexRun .start ('(' :: w ++ "); ".toList) =
    some ((.lparen :: ts ++ [.rparen]) ++ [.semicolon], .start) := by
  have hopen : lexRun .start ['('] = some ([.lparen], .start) := rfl
  have hclose : lexRun .start "); ".toList = some ([.rparen, .semicolon], .start) := rfl
  have hall := Duck.lexRun_append_start hopen (h.run hclose rfl)
  rw [List.append_assoc]
  exact hall

/-- The columns of a key. -/
theorem reads_keyList (keys : List Text) :
    Reads (keyList b keys) ([Token.comma].intercalate (keys.map fun key => [nameToken b.K key])) :=
  Copy.reads_names (.inr rfl)

/-- A list of names has no semicolon. -/
theorem not_semicolon_names {K : Pg.Keywords} (names : List Text) :
    Token.semicolon ∉ [Token.comma].intercalate (names.map fun name => [nameToken K name]) := by
  have hseparated : Separated (fun name ts => ts = [nameToken K name]) names
      ([Token.comma].intercalate (names.map fun name => [nameToken K name])) := by
    rw [Duck.separated_iff fun _ _ _ h => congrArg List.length h]
    exact fun _ _ => rfl
  refine not_semicolon_of_separated (fun name ts hts => ?_) hseparated
  rw [hts, List.mem_singleton]
  exact nameToken_ne_semicolon.symm

/-- A key of the table that has no name in the text. -/
theorem isCmd_addKey {conname : Option Text} {keys : List Text} {contype : ConstrType Expr} {front : Text}
    {ts : List Token} (hfront : lexRun .start front = some (ts, .start)) (hplain : Token.semicolon ∉ ts)
    (helem : ∀ ts', TableElem E relation D contype ts' ↔ ∃ ks, ts' = ts ++ (.lparen :: ks ++ [.rparen]) ∧
      keys ≠ [] ∧ Separated (NameTokens D.notColId) keys ks)
    (hcarried : Carried b D (.AT_AddConstraint ⟨conname, contype⟩ : AlterTableCmd TypeName Expr) ↔
      conname = none ∧ keys ≠ [] ∧ ∀ key ∈ keys, Spelled b D.notColId key) :
    ∃ ts, IsCmd b E relation D (.AT_AddConstraint ⟨conname, contype⟩)
      ("ADD ".toList ++ (front ++ ('(' :: keyList b keys ++ "); ".toList))) ts := by
  have hadd : lexRun .start "ADD ".toList = some ([word "ADD"], .start) := rfl
  have hrun := Duck.lexRun_append_start hadd (Duck.lexRun_append_start hfront (run_paren (@reads_keyList b keys)))
  have hkeys := @not_semicolon_names b.K keys
  generalize hinter : [Token.comma].intercalate (keys.map fun key => [nameToken b.K key]) = inter at hrun hkeys
  refine ⟨[word "ADD"] ++ (ts ++ (.lparen :: inter ++ [.rparen])), ?_, ?_, ?_⟩
  · rw [hrun]
    simp only [List.append_assoc]
  · simp [word, hplain, hkeys]
  · rw [hcarried]
    constructor
    · intro htokens
      generalize heq : [word "ADD"] ++ (ts ++ (.lparen :: inter ++ [.rparen])) = ts' at htokens
      cases htokens with
      | @addConstraint _ name ts' hname helem' =>
        obtain ⟨ks, rfl, hne, hks⟩ := (helem ts').1 helem'
        have hlengthKeys : ks.length = inter.length := by
          rw [← hinter]
          exact hks.length fun _ _ _ h => h.length
        have hlength := congrArg List.length heq
        simp only [List.length_append, List.length_cons, List.length_nil, hlengthKeys] at hlength
        have hnone : name = [] := List.length_eq_zero_iff.1 (by omega)
        subst hnone
        cases hname
        have hsame : ks = inter := by
          have hparen : Token.lparen :: inter ++ [Token.rparen] = .lparen :: ks ++ [.rparen] :=
            List.append_cancel_left (List.cons.inj heq).2
          exact (List.append_cancel_right (List.cons.inj hparen).2).symm
        rw [hsame, ← hinter, Copy.separated_names_iff] at hks
        exact ⟨rfl, hne, hks⟩
    · rintro ⟨rfl, hne, hspelled⟩
      have hks := Copy.separated_names_iff.2 hspelled
      rw [hinter] at hks
      exact .addConstraint .none ((helem _).2 ⟨inter, rfl, hne, hks⟩)

/-- A constraint of the table is read as itself, unless it has a name. -/
theorem isCmd_addConstraint {constraint : Constraint Expr} (h : tableConstraint b E relation constraint = .ok w) :
    ∃ ts, IsCmd b E relation D (.AT_AddConstraint constraint : AlterTableCmd TypeName Expr) ("ADD ".toList ++ w) ts := by
  obtain ⟨conname, contype⟩ := constraint
  cases contype with
  | CONSTR_CHECK raw_expr =>
    obtain ⟨d, hd, heq⟩ := Lib.bind_eq_ok.1 h
    cases heq
    have hfront : lexRun .start ("ADD ".toList ++ "CONSTRAINT ".toList) =
        some ([word "ADD", word "CONSTRAINT"], .start) := rfl
    have hcheck : lexRun .start " CHECK ".toList = some ([word "CHECK"], .start) := rfl
    have hrest : lexRun .start (" CHECK ".toList ++ ('(' :: d.text ++ "); ".toList)) =
        some (([word "CHECK"] ++ (.lparen :: d.tokens ++ [.rparen])) ++ [.semicolon], .start) := by
      rw [List.append_assoc [word "CHECK"]]
      exact Duck.lexRun_append_start hcheck (run_paren d.reads)
    have hiff : CmdTokens E relation D (.AT_AddConstraint ⟨conname, .CONSTR_CHECK raw_expr⟩)
        ([word "ADD", word "CONSTRAINT"] ++ (nameToken b.K (conname.getD []) ::
          ([word "CHECK"] ++ (.lparen :: d.tokens ++ [.rparen])))) ↔
        Carried b D (.AT_AddConstraint ⟨conname, .CONSTR_CHECK raw_expr⟩ : AlterTableCmd TypeName Expr) := by
      constructor
      · intro htokens
        generalize heq : [word "ADD", word "CONSTRAINT"] ++ (nameToken b.K (conname.getD []) ::
          ([word "CHECK"] ++ (.lparen :: d.tokens ++ [.rparen]))) = ts at htokens
        cases htokens with
        | @addConstraint _ name ts' hname helem =>
          cases helem with
          | @check _ d' hd' =>
            cases hd.symm.trans hd'
            cases hname with
            | none =>
              have hlength := congrArg List.length heq
              simp only [List.length_append, List.length_cons, List.length_nil] at hlength
              omega
            | @some name ts hname => exact ⟨name, rfl, spelled_of_eq hname heq⟩
      · rintro ⟨name, rfl, hspelled⟩
        have hname : ConstraintName D (some name) [word "CONSTRAINT", nameToken b.K name] :=
          .some (nameTokens_iff.2 hspelled)
        have htokens : CmdTokens E relation D (.AT_AddConstraint ⟨some name, .CONSTR_CHECK raw_expr⟩)
            (word "ADD" :: [word "CONSTRAINT", nameToken b.K name] ++
              (word "CHECK" :: .lparen :: d.tokens ++ [.rparen])) :=
          .addConstraint hname (.check hd)
        exact htokens
    exact ⟨_, isCmd_of_name hfront hrest (by simp [word, not_semicolon_of_enclosed d.closed]) hiff⟩
  | CONSTR_PRIMARY keys =>
    cases h
    have hfront : lexRun .start "PRIMARY KEY ".toList = some ([word "PRIMARY", word "KEY"], .start) := rfl
    refine isCmd_addKey hfront (by simp [word]) (fun ts' => ⟨fun helem => ?_, ?_⟩) Iff.rfl
    · cases helem with
      | primary hne hkeys => exact ⟨_, rfl, hne, hkeys⟩
    · rintro ⟨ks, rfl, hne, hkeys⟩
      exact .primary hne hkeys
  | CONSTR_UNIQUE keys =>
    cases h
    have hfront : lexRun .start "UNIQUE ".toList = some ([word "UNIQUE"], .start) := rfl
    refine isCmd_addKey hfront (by simp [word]) (fun ts' => ⟨fun helem => ?_, ?_⟩) Iff.rfl
    · cases helem with
      | unique hne hkeys => exact ⟨_, rfl, hne, hkeys⟩
    · rintro ⟨ks, rfl, hne, hkeys⟩
      exact .unique hne hkeys
  | CONSTR_NULL | CONSTR_NOTNULL | CONSTR_DEFAULT | other => cases h

end

end PgDuckdb.AlterTable
