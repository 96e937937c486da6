import PgDuckdb.Deparse.Subcommands

/-!
# ADD COLUMN

The options and the constraints of a column as they are read one after the other. Without a check the text of the
subcommand is tokens and a semicolon, and with checks it has a semicolon more for each of them.
-/

namespace PgDuckdb.AlterTable

open Pg (Text quote_identifier)
open Cache (quote_literal_cstr)
open Copy (Backend DuckKeywords NameTokens Spelled signed enclosed error_ pgduckdb_relation_name dbAndSchema nameToken
  nameTokens_iff readsName_quote_identifier reads_quote_literal)
open Duck (Token Reads Separated lexRun)

section
variable {TypeName Expr Node : Type} {b : Backend} {E : Deparser TypeName Expr Node} {relation : Relation}
  {D : DuckKeywords} {ts : List Token} {att : Attribute} {colname w : Text}

/-! ## Options -/

/-- The tokens of a value. -/
def valueTokens : Option OptionArg → List Token
  | some (.String sval) => [.op ['='], .str sval]
  | some (.Integer ival) => .op ['='] :: signed (ival < 0) (Nat.toDigits 10 ival.natAbs)
  | some (.other _) | none => []

/-- The tokens of an option, without its namespace. -/
def optionTokens (K : Pg.Keywords) (is_set : Bool) (option : DefElem) : List Token :=
  nameToken K option.defname :: if is_set then valueTokens option.arg else []

/-- A value of an option has only these tokens. -/
theorem OptionValue.eq {arg : Option OptionArg} (h : OptionValue arg ts) : ts = valueTokens arg := by
  cases h <;> rfl

/-- An integer is read as a number with its sign. -/
theorem reads_integer (ival : ℤ) :
    Reads (toString ival).toList (signed (ival < 0) (Nat.toDigits 10 ival.natAbs)) := by
  rw [Copy.toList_toString]
  exact Copy.reads_signed (Copy.isNumber_toDigits _)

/-- A name with a value. -/
theorem reads_assign {name : Text} (h : Reads w ts) : Reads (quote_identifier b.K name ++ " = ".toList ++ w)
    (nameToken b.K name :: .op ['='] :: ts) := by
  have hassign : lexRun .start " = ".toList = some ([.op ['=']], .start) := rfl
  have hvalue : Reads (' ' :: ("= ".toList ++ w)) ([.op ['=']] ++ ts) := Reads.after_run hassign h
  have hname : Reads (quote_identifier b.K name) [nameToken b.K name] := readsName_quote_identifier.reads
  rw [List.append_assoc]
  exact hname.append hvalue rfl

/-- An option is read as its tokens. -/
theorem reads_relOption {is_set : Bool} {option : DefElem} (h : relOption b is_set option = .ok w) :
    Reads w (optionTokens b.K is_set option) := by
  have hname : Reads (quote_identifier b.K option.defname) [nameToken b.K option.defname] :=
    readsName_quote_identifier.reads
  unfold relOption at h
  unfold optionTokens
  cases is_set with
  | false =>
    cases h
    exact hname
  | true =>
    cases harg : option.arg with
    | none =>
      rw [harg] at h
      cases h
      exact hname
    | some arg =>
      rw [harg] at h
      cases arg with
      | String sval =>
        cases h
        exact reads_assign reads_quote_literal
      | Integer ival =>
        cases h
        exact reads_assign (reads_integer ival)
      | other tag => cases h

/-- A list of options is read as their tokens in parentheses. -/
theorem reads_relOptions {is_set : Bool} {options : RelOptions} (h : relOptions b is_set options = .ok w) :
    lexRun .start w = some ((.lparen :: [Token.comma].intercalate (options.toList.map (optionTokens b.K is_set)) ++
      [.rparen]) ++ [.semicolon], .start) := by
  obtain ⟨texts, htexts, heq⟩ := Lib.bind_eq_ok.1 h
  cases heq
  refine run_paren (Reads.intercalate (.inr rfl) ?_)
  rw [List.forall₂_map_right_iff]
  exact ((Lib.mapM_eq_ok.1 htexts).imp fun _ _ => reads_relOption).flip

/-- The name of an option has a token. -/
theorem OptionName.length_pos {option : DefElem} (h : OptionName option ts) : 1 ≤ ts.length := by
  cases h with
  | plain => exact Nat.le_refl 1
  | qualified => exact Nat.le_add_left 1 2

/-- One token is the name of an option exactly if there is no namespace. -/
theorem optionName_iff {K : Pg.Keywords} {option : DefElem} :
    OptionName option [nameToken K option.defname] ↔ option.defnamespace = none := by
  obtain ⟨defnamespace, defname, arg⟩ := option
  constructor
  · intro h
    cases h with
    | plain => rfl
  · rintro rfl
    exact .plain Copy.name?_nameToken

/-- The tokens of an option are at least those that are written. -/
theorem optionTokens_length_le {K : Pg.Keywords} {option : DefElem} (h : SetOption option ts) :
    (optionTokens K true option).length ≤ ts.length := by
  cases h with
  | mk hname hvalue =>
    have hpos := hname.length_pos
    rw [hvalue.eq, List.length_append]
    simp only [optionTokens, List.length_cons, if_true]
    omega

/-- What is written is the option exactly if there is no namespace. -/
theorem setOption_iff {option : DefElem} (h : relOption b true option = .ok w) :
    SetOption option (optionTokens b.K true option) ↔ option.defnamespace = none := by
  constructor
  · intro hset
    generalize heq : optionTokens b.K true option = ts at hset
    cases hset with
    | mk hname hvalue =>
      obtain ⟨defnamespace, defname, arg⟩ := option
      cases hname with
      | plain => rfl
      | qualified =>
        have hlength := congrArg List.length heq
        rw [hvalue.eq] at hlength
        simp only [optionTokens, List.length_cons, if_true, List.length_append, List.length_nil] at hlength
        omega
  · intro hnone
    have hvalue : OptionValue option.arg (valueTokens option.arg) := by
      unfold relOption at h
      cases harg : option.arg with
      | none => exact .none
      | some arg =>
        rw [harg] at h
        cases arg with
        | String sval => exact .string
        | Integer ival => exact .integer
        | other tag => cases h
    exact .mk (optionName_iff.2 hnone) hvalue

/-- A list of options has no semicolon. -/
theorem not_semicolon_options {is_set : Bool} (options : List DefElem) :
    Token.semicolon ∉ [Token.comma].intercalate (options.map (optionTokens b.K is_set)) := by
  have hvalue : ∀ arg, Token.semicolon ∉ valueTokens arg := by
    rintro (_ | _ | _ | _)
    · exact List.not_mem_nil
    · simp [valueTokens]
    · simp [valueTokens, not_semicolon_signed]
    · exact List.not_mem_nil
  have hseparated : Separated (fun option ts => ts = optionTokens b.K is_set option) options
      ([Token.comma].intercalate (options.map (optionTokens b.K is_set))) := by
    rw [Duck.separated_iff fun _ _ _ h => congrArg List.length h]
    exact fun _ _ => rfl
  refine not_semicolon_of_separated (fun option ts hts => ?_) hseparated
  rw [hts, optionTokens]
  cases is_set <;> simp [hvalue, nameToken_ne_semicolon.symm]

/-- A subcommand that has a list of options. -/
theorem isCmd_relOptions {cmd : AlterTableCmd TypeName Expr} {P : DefElem → List Token → Prop} {front : Text}
    {t : Token} {is_set : Bool} {options : RelOptions} (hfront : lexRun .start front = some ([t], .start))
    (hplain : t ≠ .semicolon) (h : relOptions b is_set options = .ok w)
    (hle : ∀ option ts, P option ts → (optionTokens b.K is_set option).length ≤ ts.length)
    (hP : ∀ option ∈ options.toList, P option (optionTokens b.K is_set option) ↔ option.defnamespace = none)
    (htokens : ∀ ts₀, CmdTokens E relation D cmd ts₀ ↔ ∃ ts, Separated P options.toList ts ∧
      ts₀ = t :: .lparen :: ts ++ [.rparen])
    (hcarried : Carried b D cmd ↔ ∀ option ∈ options.toList, option.defnamespace = none) :
    ∃ ts, IsCmd b E relation D cmd (front ++ w) ts := by
  have hoptions : Separated P options.toList
      ([Token.comma].intercalate (options.toList.map (optionTokens b.K is_set))) ↔
        ∀ option ∈ options.toList, option.defnamespace = none := by
    rw [Duck.separated_iff_of_le fun option _ => hle option]
    exact forall₂_congr hP
  have hnone := @not_semicolon_options b is_set options.toList
  have hrun := Duck.lexRun_append_start hfront (reads_relOptions h)
  generalize [Token.comma].intercalate (options.toList.map (optionTokens b.K is_set)) = inter at *
  refine ⟨t :: .lparen :: inter ++ [.rparen], hrun, by simp [hplain.symm, hnone], ?_⟩
  rw [htokens, hcarried, ← hoptions]
  constructor
  · rintro ⟨ts, hseparated, heq⟩
    rw [List.append_cancel_right (List.cons.inj (List.cons.inj heq).2).2]
    exact hseparated
  · exact fun hseparated => ⟨_, hseparated, rfl⟩

/-- `SET` is read as itself, unless an option has a namespace. -/
theorem isCmd_setRelOptions {options : RelOptions} (h : relOptions b true options = .ok w) :
    ∃ ts, IsCmd b E relation D (.AT_SetRelOptions options : AlterTableCmd TypeName Expr) ("SET ".toList ++ w) ts := by
  have hset : lexRun .start "SET ".toList = some ([word "SET"], .start) := rfl
  have hP : ∀ option ∈ options.toList,
      SetOption option (optionTokens b.K true option) ↔ option.defnamespace = none := by
    intro option hoption
    obtain ⟨texts, htexts, -⟩ := Lib.bind_eq_ok.1 h
    obtain ⟨text, htext⟩ := Lib.exists_ok_of_mapM htexts hoption
    exact setOption_iff htext
  refine isCmd_relOptions hset (by simp [word]) h (fun _ _ => optionTokens_length_le) hP
    (fun ts₀ => ⟨fun htokens => ?_, ?_⟩) Iff.rfl
  · cases htokens with
    | setRelOptions hseparated => exact ⟨_, hseparated, rfl⟩
  · rintro ⟨ts, hseparated, rfl⟩
    exact .setRelOptions hseparated

/-- `RESET` is read as itself, unless an option has a namespace. -/
theorem isCmd_resetRelOptions {options : RelOptions} (h : relOptions b false options = .ok w) :
    ∃ ts, IsCmd b E relation D (.AT_ResetRelOptions options : AlterTableCmd TypeName Expr)
      ("RESET ".toList ++ w) ts := by
  have hreset : lexRun .start "RESET ".toList = some ([word "RESET"], .start) := rfl
  refine isCmd_relOptions hreset (by simp [word]) h (fun _ _ hname => hname.length_pos)
    (fun _ _ => optionName_iff) (fun ts₀ => ⟨fun htokens => ?_, ?_⟩) Iff.rfl
  · cases htokens with
    | resetRelOptions hseparated => exact ⟨_, hseparated, rfl⟩
  · rintro ⟨ts, hseparated, rfl⟩
    exact .resetRelOptions hseparated

/-! ## Constraints of a column -/

/-- A constraint has only one list of tokens. -/
theorem ColumnElem.tokens_unique {contype : ConstrType Expr} {ts' : List Token}
    (h : ColumnElem E relation att colname contype ts) (h' : ColumnElem E relation att colname contype ts') :
    ts' = ts := by
  cases h with
  | null | notNull | primary | unique =>
    cases h'
    rfl
  | default hd =>
    cases h' with
    | default hd' =>
      cases hd.symm.trans hd'
      rfl
  | check hd =>
    cases h' with
    | check hd' =>
      cases hd.symm.trans hd'
      rfl

/-- The text of a constraint, which follows a blank or is none, with its tokens. The constraint has more of them if it
has a name. -/
structure IsConstraint (E : Deparser TypeName Expr Node) (relation : Relation) (D : DuckKeywords) (att : Attribute)
    (colname : Text) (constraint : Constraint Expr) (text : Text) (ts : List Token) : Prop where
  reads : text = [] ∧ ts = [] ∨ ∃ rest, text = ' ' :: rest ∧ Reads text ts
  plain : Token.semicolon ∉ ts
  carried : constraint.Carried → ColumnConstraint E relation D att colname constraint ts
  short : ∀ ts', ColumnConstraint E relation D att colname constraint ts' →
    ts.length ≤ ts'.length ∧ (ts'.length = ts.length → constraint.Carried)

/-- A constraint that is read as its tokens has nothing but a name left to lose. -/
theorem isConstraint_of_elem {conname : Option Text} {contype : ConstrType Expr} {rest : Text}
    (helem : ColumnElem E relation att colname contype ts) (hreads : Reads (' ' :: rest) ts)
    (hcheck : ∀ raw_expr, contype ≠ .CONSTR_CHECK raw_expr) :
    IsConstraint E relation D att colname ⟨conname, contype⟩ (' ' :: rest) ts where
  reads := .inr ⟨rest, rfl, hreads⟩
  plain := not_semicolon_columnElem helem
  carried := by
    rintro (hdefault | ⟨hnone, -⟩)
    · dsimp only at hdefault
      subst hdefault
      cases helem
    · dsimp only at hnone
      subst hnone
      exact .elem .none helem
  short := by
    intro ts' h
    cases h with
    | noDefault => cases helem
    | elem hname helem' =>
      rw [helem.tokens_unique helem', List.length_append]
      refine ⟨Nat.le_add_left _ _, fun hlength => .inr ⟨?_, hcheck⟩⟩
      have hzero := constraintName_length hname
      cases conname with
      | none => rfl
      | some name =>
        rw [Option.isSome_some, if_pos rfl] at hzero
        omega

/-- A constraint of a column is read as itself, unless it is a check or has a name. -/
theorem isConstraint {constraint : Constraint Expr}
    (h : columnConstraint E relation att colname constraint = .ok w)
    (hcheck : ∀ raw_expr, constraint.contype ≠ .CONSTR_CHECK raw_expr) :
    ∃ ts, IsConstraint E relation D att colname constraint w ts := by
  obtain ⟨conname, contype⟩ := constraint
  cases contype with
  | CONSTR_NULL =>
    cases h
    have hreads : Reads " NULL".toList [word "NULL"] := ⟨_, _, _, rfl, rfl, rfl⟩
    exact ⟨_, isConstraint_of_elem .null hreads hcheck⟩
  | CONSTR_NOTNULL =>
    cases h
    have hreads : Reads " NOT NULL".toList [word "NOT", word "NULL"] := ⟨_, _, _, rfl, rfl, rfl⟩
    exact ⟨_, isConstraint_of_elem .notNull hreads hcheck⟩
  | CONSTR_PRIMARY keys =>
    cases h
    have hreads : Reads " PRIMARY KEY".toList [word "PRIMARY", word "KEY"] := ⟨_, _, _, rfl, rfl, rfl⟩
    exact ⟨_, isConstraint_of_elem .primary hreads hcheck⟩
  | CONSTR_UNIQUE keys =>
    cases h
    have hreads : Reads " UNIQUE".toList [word "UNIQUE"] := ⟨_, _, _, rfl, rfl, rfl⟩
    exact ⟨_, isConstraint_of_elem .unique hreads hcheck⟩
  | CONSTR_DEFAULT raw_expr =>
    cases raw_expr with
    | none =>
      cases h
      exact ⟨[], .inl ⟨rfl, rfl⟩, List.not_mem_nil, fun _ => .noDefault, fun ts' _ =>
        ⟨Nat.zero_le _, fun _ => .inl rfl⟩⟩
    | some raw_expr =>
      obtain ⟨d, hd, heq⟩ := Lib.bind_eq_ok.1 h
      cases heq
      have hdefault : lexRun .start " DEFAULT ".toList = some ([word "DEFAULT"], .start) := rfl
      have hreads : Reads (" DEFAULT ".toList ++ d.text) ([word "DEFAULT"] ++ d.tokens) := .after_run hdefault d.reads
      exact ⟨_, isConstraint_of_elem (.default hd) hreads hcheck⟩
  | CONSTR_CHECK raw_expr => exact absurd rfl (hcheck raw_expr)
  | other tag => cases h

/-- The text of constraints goes on another one. -/
theorem IsConstraint.append {constraint : Constraint Expr} {w₀ : Text} {ts₀ : List Token}
    (h : IsConstraint E relation D att colname constraint w ts) (h₀ : Reads w₀ ts₀) : Reads (w₀ ++ w) (ts₀ ++ ts) := by
  rcases h.reads with ⟨rfl, rfl⟩ | ⟨rest, rfl, hreads⟩
  · rw [List.append_nil, List.append_nil]
    exact h₀
  · exact h₀.append hreads rfl

/-- Constraints without a check. -/
theorem reads_constraints {constraints : List (Constraint Expr)} {texts : List Text}
    (h : List.Forall₂ (fun constraint w => columnConstraint E relation att colname constraint = .ok w) constraints
      texts)
    (hcheck : ∀ constraint ∈ constraints, ∀ raw_expr, constraint.contype ≠ .CONSTR_CHECK raw_expr) :
    ∃ tss, (∀ w₀ ts₀, Reads w₀ ts₀ → Reads (w₀ ++ texts.flatten) (ts₀ ++ tss.flatten)) ∧
      Token.semicolon ∉ tss.flatten ∧
      ((∀ constraint ∈ constraints, constraint.Carried) →
        List.Forall₂ (ColumnConstraint E relation D att colname) constraints tss) ∧
      ∀ tss', List.Forall₂ (ColumnConstraint E relation D att colname) constraints tss' →
        tss.flatten.length ≤ tss'.flatten.length ∧
          (tss'.flatten.length = tss.flatten.length → ∀ constraint ∈ constraints, constraint.Carried) := by
  induction h with
  | nil =>
    refine ⟨[], fun w₀ ts₀ h₀ => ?_, List.not_mem_nil, fun _ => .nil, fun tss' _ => ⟨Nat.zero_le _, fun _ _ hc => ?_⟩⟩
    · rw [List.flatten_nil, List.flatten_nil, List.append_nil, List.append_nil]
      exact h₀
    · cases hc
  | @cons constraint w constraints texts hfirst _ ih =>
    obtain ⟨ts, hts⟩ := isConstraint (D := D) hfirst (hcheck constraint List.mem_cons_self)
    obtain ⟨tss, hreads, hplain, hcarried, hshort⟩ := ih fun c hc => hcheck c (List.mem_cons_of_mem _ hc)
    refine ⟨ts :: tss, fun w₀ ts₀ h₀ => ?_, ?_, fun hall => ?_, fun tss' hall => ?_⟩
    · rw [List.flatten_cons, List.flatten_cons, ← List.append_assoc, ← List.append_assoc]
      exact hreads _ _ (hts.append h₀)
    · rw [List.flatten_cons, List.mem_append, not_or]
      exact ⟨hts.plain, hplain⟩
    · rw [List.forall_mem_cons] at hall
      exact .cons (hts.carried hall.1) (hcarried hall.2)
    · cases hall with
      | @cons _ ts' _ tss' hone hrest =>
        obtain ⟨hle, hok⟩ := hts.short ts' hone
        obtain ⟨hleRest, hokRest⟩ := hshort tss' hrest
        rw [List.flatten_cons, List.flatten_cons, List.length_append, List.length_append]
        refine ⟨by omega, fun hlength => ?_⟩
        rw [List.forall_mem_cons]
        exact ⟨hok (by omega), hokRest (by omega)⟩

/-- The constraint is a check. -/
def Constraint.IsCheck (constraint : Constraint Expr) : Bool :=
  match constraint.contype with
  | .CONSTR_CHECK _ => true
  | _ => false

/-- What does not count as a check is none. -/
theorem isCheck_eq_false {constraint : Constraint Expr} (h : constraint.IsCheck = false) :
    ∀ raw_expr, constraint.contype ≠ .CONSTR_CHECK raw_expr := by
  intro raw_expr heq
  rw [Constraint.IsCheck, heq] at h
  cases h

/-- A check goes on the word before it, and ends in a semicolon. -/
theorem reads_check {constraint : Constraint Expr} {w₀ : Text} {ts₀ : List Token}
    (h : columnConstraint E relation att colname constraint = .ok w) (hcheck : constraint.IsCheck = true)
    (h₀ : Reads w₀ ts₀) :
    ∃ ts, Reads (w₀ ++ w) ts ∧ ts.count .semicolon = ts₀.count .semicolon + 1 := by
  obtain ⟨conname, contype⟩ := constraint
  cases contype with
  | CONSTR_CHECK raw_expr =>
    obtain ⟨d, hd, heq⟩ := Lib.bind_eq_ok.1 h
    cases heq
    have hletter : Duck.IsLetter 'C' := ⟨rfl, rfl, rfl, rfl, rfl⟩
    have hword : ∀ c ∈ "HECK".toList, Duck.isIdentCont c = true := List.all_eq_true.1 rfl
    obtain ⟨ts, hglued, hcount⟩ := h₀.glue hletter hword
    have hspace : lexRun .start [' '] = some ([], .start) := rfl
    have hrest := Reads.of_run (Duck.lexRun_append_start hspace (run_paren d.reads))
    have hall := hglued.append hrest rfl
    rw [List.append_assoc] at hall
    refine ⟨_, hall, ?_⟩
    have hnone := List.count_eq_zero.2 (not_semicolon_of_enclosed d.closed)
    simp [hcount, hnone]
  | CONSTR_NULL | CONSTR_NOTNULL | CONSTR_DEFAULT | CONSTR_PRIMARY | CONSTR_UNIQUE | other => cases hcheck

/-- Each check adds a semicolon. -/
theorem count_constraints {constraints : List (Constraint Expr)} {texts : List Text}
    (h : List.Forall₂ (fun constraint w => columnConstraint E relation att colname constraint = .ok w) constraints
      texts) {w₀ : Text} {ts₀ : List Token} (h₀ : Reads w₀ ts₀) :
    ∃ ts, Reads (w₀ ++ texts.flatten) ts ∧
      ts.count .semicolon = ts₀.count .semicolon + constraints.countP Constraint.IsCheck := by
  induction h generalizing w₀ ts₀ with
  | nil =>
    rw [List.flatten_nil, List.append_nil]
    exact ⟨ts₀, h₀, rfl⟩
  | @cons constraint w constraints texts hfirst _ ih =>
    rw [List.flatten_cons, ← List.append_assoc]
    cases hcheck : constraint.IsCheck with
    | true =>
      obtain ⟨ts₁, h₁, hcount₁⟩ := reads_check hfirst hcheck h₀
      obtain ⟨ts, hreads, hcount⟩ := ih h₁
      refine ⟨ts, hreads, ?_⟩
      rw [hcount, hcount₁, List.countP_cons_of_pos hcheck]
      omega
    | false =>
      obtain ⟨ts₁, hts₁⟩ := isConstraint (D := Copy.noKeywords) hfirst (isCheck_eq_false hcheck)
      obtain ⟨ts, hreads, hcount⟩ := ih (hts₁.append h₀)
      refine ⟨ts, hreads, ?_⟩
      rw [hcount, List.count_append, List.count_eq_zero.2 hts₁.plain,
        List.countP_cons_of_neg (Bool.eq_false_iff.1 hcheck), Nat.add_zero]

/-! ## ADD COLUMN -/

/-- The text of the new column, in its parts. -/
theorem addColumn_eq_ok {relation_name : Text} {col : ColumnDef TypeName Expr} {missing_ok : Bool}
    (h : alterTableCmd b E relation relation_name (.AT_AddColumn col missing_ok) = .ok w) :
    ∃ att texts, E.BuildDescForRelation col = .ok att ∧
      List.Forall₂ (fun constraint w => columnConstraint E relation att col.colname constraint = .ok w)
        col.constraints texts ∧
      col.collClause = none ∧
      w = "ADD COLUMN ".toList ++ (quote_identifier b.K col.colname ++ (' ' :: (column_fq_type E att).text)) ++
        texts.flatten ++ "; ".toList := by
  obtain ⟨att, hatt, h⟩ := Lib.bind_eq_ok.1 h
  obtain ⟨texts, htexts, h⟩ := Lib.bind_eq_ok.1 h
  split at h
  · cases h
  · next hno =>
    rw [not_or] at hno
    cases h
    exact ⟨att, texts, hatt, Lib.mapM_eq_ok.1 htexts, Option.not_isSome_iff_eq_none.1 hno.1, rfl⟩

/-- A column with its type. -/
theorem reads_column {name : Text} (d : Deparsed) :
    Reads ("ADD COLUMN ".toList ++ (quote_identifier b.K name ++ (' ' :: d.text)))
      ([word "ADD", word "COLUMN"] ++ (nameToken b.K name :: d.tokens)) := by
  have hadd : lexRun .start "ADD COLUMN ".toList = some ([word "ADD", word "COLUMN"], .start) := rfl
  have hname : Reads (quote_identifier b.K name) [nameToken b.K name] := readsName_quote_identifier.reads
  exact .after_run hadd (hname.append d.reads.space rfl)

/-- A column without checks is read as itself, unless it is `IF NOT EXISTS` or one of its constraints has a name. -/
theorem isCmd_addColumn {relation_name : Text} {col : ColumnDef TypeName Expr} {missing_ok : Bool}
    (h : alterTableCmd b E relation relation_name (.AT_AddColumn col missing_ok) = .ok w)
    (hcheck : ∀ constraint ∈ col.constraints, ∀ raw_expr, constraint.contype ≠ .CONSTR_CHECK raw_expr) :
    ∃ ts, IsCmd b E relation D (.AT_AddColumn col missing_ok) w ts := by
  obtain ⟨att, texts, hatt, htexts, hcollClause, rfl⟩ := addColumn_eq_ok h
  obtain ⟨tss, hreads, hplain, hcarried, hshort⟩ := reads_constraints (D := D) htexts hcheck
  have hall := hreads _ _ (@reads_column b col.colname (column_fq_type E att))
  refine ⟨_, hall.run run_end rfl, ?_, ⟨fun htokens => ?_, ?_⟩⟩
  · simp [word, nameToken_ne_semicolon.symm, not_semicolon_of_enclosed (Deparsed.closed _), hplain]
  · generalize heq : [word "ADD", word "COLUMN"] ++
      (nameToken b.K col.colname :: (column_fq_type E att).tokens) ++ tss.flatten = ts at htokens
    cases htokens with
    | @addColumn _ _ att' name collate constraints hatt' hname hcollate hconstraints =>
      cases hatt.symm.trans hatt'
      obtain ⟨hle, hok⟩ := hshort constraints hconstraints
      have heq' : [word "ADD", word "COLUMN"] ++
          (nameToken b.K col.colname :: ((column_fq_type E att).tokens ++ tss.flatten)) =
          [word "ADD", word "COLUMN"] ++ ifNotExists missing_ok ++ name ++
            ((column_fq_type E att).tokens ++ (collate ++ constraints.flatten)) := by
        simp only [List.append_assoc, List.cons_append] at heq ⊢
        exact heq
      have hback : ((column_fq_type E att).tokens ++ tss.flatten).length ≤
          ((column_fq_type E att).tokens ++ (collate ++ constraints.flatten)).length := by
        simp only [List.length_append]
        omega
      obtain ⟨hextra, hspelled, hsame⟩ := name_of_eq hname hback heq'
      have hlength := congrArg List.length (List.append_cancel_left hsame)
      rw [List.length_append] at hlength
      exact ⟨ifNotExists_eq_nil.1 hextra, hspelled, hok (by omega)⟩
  · rintro ⟨rfl, hspelled, hconstraints⟩
    have hcollate : CollateTokens col.collClause [] := hcollClause ▸ .none
    have htokens := @CmdTokens.addColumn _ _ _ E relation D _ false _ _ _ _ hatt (nameTokens_iff.2 hspelled) hcollate
      (hcarried hconstraints)
    simpa [ifNotExists] using htokens

end

end PgDuckdb.AlterTable
