import PgDuckdb.Copy.Permissions
import PgDuckdb.Duck.Literals

/-!
# The tokens of a COPY

`CopyTokens` says which tokens are a `COPY` of DuckDB with the parts of a given statement. The text is read as tokens
part by part: names, options, and what stands around them.
-/

namespace PgDuckdb.Copy

open Pg (Text Keywords quote_identifier isSafeIdent isSafeStart isSafeCont)
open Cache (quote_literal_cstr)
open Duck (Token Reads ReadsName Separated isWord isNumber isIdentStart isIdentCont lexRun)

/-- The words that need quotes in a statement for DuckDB. -/
structure DuckKeywords where
  /-- As the name of a column or of a database. -/
  notColId : Text → Bool
  /-- In a list. -/
  reserved : Text → Bool

/-! ## Statements as tokens -/

/-- A name that may only have no quotes if it is not among the reserved words. -/
def NameTokens (reserved : Text → Bool) (name : Text) (ts : List Token) : Prop :=
  ts = [.quoted name] ∨ ts = [.word name] ∧ reserved name = false

/-- A number with its sign. -/
def signed (negative : Bool) (w : Text) : List Token := if negative then [.op ['-'], .num w] else [.num w]

/-- A number in a text is negative. -/
def isNegative (w : Text) : Bool := w.head? = some '-'

/-- A number without its sign. -/
def unsigned (w : Text) : Text := if isNegative w then w.tail else w

section
variable (D : DuckKeywords) (b : Backend)

/-- The argument of an option. -/
inductive ArgTokens : DefArg → List Token → Prop
  | integer {ival : ℤ} : ArgTokens (.T_Integer ival) (signed (ival < 0) (Nat.toDigits 10 ival.natAbs))
  | float {fval : Text} : ArgTokens (.T_Float fval) (signed (isNegative fval) (unsigned fval))
  | boolean {boolval : Bool} :
      ArgTokens (.T_Boolean boolval) [.word (if boolval then "true".toList else "false".toList)]
  | string {sval : Text} : ArgTokens (.T_String sval) [.str sval]
  | typeName {name : Text} : ArgTokens (.T_TypeName name) [.str name]
  | list {names : List Text} {ts : List Token} : Separated (NameTokens D.reserved) names ts →
      ArgTokens (.T_List names) (.lparen :: ts ++ [.rparen])
  | star : ArgTokens .T_A_Star [.op ['*']]

/-- An option. -/
inductive OptionTokens : DefElem → List Token → Prop
  | name {defname : Text} {t : Token} : t.name? = some defname → OptionTokens ⟨defname, none⟩ [t]
  | arg {defname : Text} {t : Token} {arg : DefArg} {ts : List Token} : t.name? = some defname → ArgTokens D arg ts →
      OptionTokens ⟨defname, some arg⟩ (t :: ts)

/-- The options, in parentheses if there are any. -/
inductive OptionsTokens : List DefElem → List Token → Prop
  | nil : OptionsTokens [] []
  | cons {options : List DefElem} {ts : List Token} : options ≠ [] → Separated (OptionTokens D) options ts →
      OptionsTokens options (.lparen :: ts ++ [.rparen])

/-- The columns, in parentheses if there are any. -/
inductive ColumnsTokens : List Text → List Token → Prop
  | nil : ColumnsTokens [] []
  | cons {attlist : List Text} {ts : List Token} : attlist ≠ [] → Separated (NameTokens D.notColId) attlist ts →
      ColumnsTokens attlist (.lparen :: ts ++ [.rparen])

/-- The tokens have no parenthesis without its other one, and no semicolon, inside of as many parentheses. -/
def enclosed : ℕ → List Token → Bool
  | depth, [] => depth = 0
  | depth, .lparen :: ts => enclosed (depth + 1) ts
  | 0, .rparen :: _ => false
  | depth + 1, .rparen :: ts => enclosed depth ts
  | _, .semicolon :: _ => false
  | depth, _ :: ts => enclosed depth ts

/-- The database and the schema of a relation in DuckDB. -/
def dbAndSchema (relid : Oid) : Except PgError (Text × Text) :=
  pgduckdb_db_and_schema b.schemas (get_namespace_name_or_temp b (b.N.relnamespace relid))
    (b.DuckdbTableAmGetName relid)

/-- The relation with its columns, or the query. -/
inductive SourceTokens (stmt : CopyStmt) : List Token → Prop
  | relation {relation : RangeVar} {relid : Oid} {db_name schema_name : Text} {database columns : List Token}
      {schema relname : Token} : stmt.source = .relation relation → b.N.RangeVarGetRelid relation = some relid →
      dbAndSchema b relid = .ok (db_name, schema_name) → NameTokens D.notColId db_name database →
      schema.name? = some schema_name → relname.name? = some (b.N.get_rel_name relid) →
      ColumnsTokens D stmt.attlist columns →
      SourceTokens stmt (database ++ [.dot, schema, .dot, relname] ++ columns)
  | query {raw_stmt : RawStmt} {query : Queries.Query} {querydef : Text} {ts : List Token} :
      stmt.source = .query raw_stmt → stmt.attlist = [] → stmt.is_from = false →
      rewrittenQuery b raw_stmt = .ok query → b.pgduckdb_get_querydef query = .ok querydef →
      Duck.lex querydef = some ts → enclosed 0 ts = true → SourceTokens stmt (.lparen :: ts ++ [.rparen])

/-- `FROM` or `TO`. -/
def directionToken (stmt : CopyStmt) : Token := .word (if stmt.is_from then "FROM".toList else "TO".toList)

/-- The tokens are one statement, with the parts of the given one. -/
inductive CopyTokens (stmt : CopyStmt) : List Token → Prop
  | mk {filename : Text} {source options : List Token} :
      stmt.filename = some filename → SourceTokens D b stmt source → OptionsTokens D stmt.options options →
      CopyTokens stmt
        (.word "COPY".toList :: source ++ [directionToken stmt, .str filename] ++ options ++ [.semicolon])

/-- After the text `w`, the name is a token of its own. -/
def OwnToken (w name : Text) : Prop :=
  ∃ ts t, Duck.lex w = some ts ∧ Duck.lex (w ++ name) = some (ts ++ [t]) ∧ t.name? = some name

/-- The text is read as the given statement, and the name of each option as a token of its own. -/
structure ReadsAsGiven (stmt : CopyStmt) (text : Text) : Prop where
  tokens : ∃ ts, Duck.lex text = some ts ∧ CopyTokens D b stmt ts
  names : ∀ before defel after w rest, stmt.options = before ++ defel :: after →
    AppendCreateCopyOptions b (defel :: after) = .ok ('(' :: rest) → text = w ++ rest → OwnToken w defel.defname

/-! ## When they are -/

/-- A name that has no quotes to PostgreSQL needs none to DuckDB. -/
def Spelled (reserved : Text → Bool) (name : Text) : Prop :=
  isSafeIdent name = true → b.K.quoted name = false → reserved name = false

/-- What is inserted as it is may be. -/
structure Insertable (stmt : CopyStmt) : Prop where
  words : ∀ defel ∈ stmt.options, isWord defel.defname = true
  floats : ∀ defel ∈ stmt.options, ∀ fval, defel.arg = some (.T_Float fval) → isNumber (unsigned fval) = true
  lists : ∀ defel ∈ stmt.options, ∀ names, defel.arg = some (.T_List names) →
    ∀ name ∈ names, Spelled b D.reserved name
  database : ∀ relation relid db_name schema_name, stmt.source = .relation relation →
    b.N.RangeVarGetRelid relation = some relid → dbAndSchema b relid = .ok (db_name, schema_name) →
    Spelled b D.notColId db_name
  columns : ∀ name ∈ stmt.attlist, Spelled b D.notColId name

/-- The grammar has no `FROM` and no columns after a query. -/
def WellFormed (stmt : CopyStmt) : Prop :=
  ∀ raw_stmt, stmt.source = .query raw_stmt → stmt.attlist = [] ∧ stmt.is_from = false

/-- The text of a query is read as tokens, with its parentheses closed and no semicolon. -/
def ReadsQueries : Prop :=
  ∀ query querydef, b.pgduckdb_get_querydef query = .ok querydef →
    ∃ ts, Reads querydef ts ∧ enclosed 0 ts = true

end

/-! ## The tokens of the text -/

section
variable {K : Keywords} {D : DuckKeywords} {b : Backend} {reserved : Text → Bool} {name w : Text} {ts : List Token}

/-- The token of a name. -/
def nameToken (K : Keywords) (name : Text) : Token :=
  if isSafeIdent name && !K.quoted name then .word name else .quoted name

/-- The tokens of an argument. -/
def argTokens (K : Keywords) : DefArg → List Token
  | .T_Integer ival => signed (ival < 0) (Nat.toDigits 10 ival.natAbs)
  | .T_Float fval => signed (isNegative fval) (unsigned fval)
  | .T_Boolean boolval => [.word (if boolval then "true".toList else "false".toList)]
  | .T_String sval | .T_TypeName sval => [.str sval]
  | .T_List names => .lparen :: [Token.comma].intercalate (names.map fun name => [nameToken K name]) ++ [.rparen]
  | .T_A_Star => [.op ['*']]
  | .other _ => []

/-- The tokens of an option whose name is a word. -/
def optionTokens (K : Keywords) (defel : DefElem) : List Token :=
  .word defel.defname :: defel.arg.elim [] (argTokens K)

/-- The tokens of the options. -/
def optionsTokens (K : Keywords) (options : List DefElem) : List Token :=
  if options.isEmpty then []
  else .lparen :: [Token.comma].intercalate (options.map (optionTokens K)) ++ [.rparen]

/-- The tokens of the columns. -/
def columnsTokens (K : Keywords) (attlist : List Text) : List Token :=
  if attlist.isEmpty then []
  else .lparen :: [Token.comma].intercalate (attlist.map fun name => [nameToken K name]) ++ [.rparen]

/-! ## Names -/

/-- What starts a safe name for PostgreSQL starts an identifier for DuckDB. -/
theorem isIdentStart_of_safe {c : Char} (h : isSafeStart c = true) : isIdentStart c = true := by
  have hsmall : c.toNat ≤ 122 := by
    have hz : 'z'.val.toNat = 122 := rfl
    have hlower : c.isLower = (decide (c.val ≥ 'a'.val) && decide (c.val ≤ 'z'.val)) := rfl
    simp only [isSafeStart, hlower, Bool.or_eq_true, Bool.and_eq_true, decide_eq_true_eq, ge_iff_le,
      UInt32.le_iff_toNat_le] at h
    rcases h with h | rfl
    · exact hz ▸ h.2
    · decide
  have hunicode : Duck.isUnicodeSpace c = false := by
    simp only [Duck.isUnicodeSpace, Bool.or_eq_false_iff, Bool.and_eq_false_iff, decide_eq_false_iff_not]
    omega
  have hletter : (c.isAlpha || decide (c = '_')) = true := by
    rw [isSafeStart, Bool.or_eq_true] at h
    rw [Bool.or_eq_true]
    exact h.imp_left fun hlower => (Bool.or_eq_true _ _).mpr (.inr hlower)
  rw [isIdentStart, hletter, hunicode]
  rfl

/-- What goes on in one goes on in the other. -/
theorem isIdentCont_of_safe {c : Char} (h : isSafeCont c = true) : isIdentCont c = true := by
  rw [isSafeCont, Bool.or_eq_true] at h
  rw [isIdentCont, Bool.or_eq_true, Bool.or_eq_true]
  exact .inl (h.imp_left isIdentStart_of_safe)

/-- A safe name is a word for DuckDB. -/
theorem isWord_of_safe (h : isSafeIdent name = true) : isWord name = true := by
  cases name with
  | nil => cases h
  | cons c w =>
    rw [isSafeIdent, Bool.and_eq_true, List.all_eq_true] at h
    rw [isWord, Bool.and_eq_true, List.all_eq_true]
    exact ⟨isIdentStart_of_safe h.1, fun d hd => isIdentCont_of_safe (h.2 d hd)⟩

/-- A name is read as its token, with quotes or without. -/
theorem readsName_quote_identifier : ReadsName (quote_identifier K name) (nameToken K name) := by
  unfold quote_identifier nameToken
  split
  next h =>
    rw [Bool.and_eq_true] at h
    exact .word (isWord_of_safe h.1)
  next => exact .quoted

/-- A name in quotes, or a safe one, does not start with a digit. -/
theorem not_digit_quote_identifier : ∀ c ∈ (quote_identifier K name).head?, c.isDigit = false := by
  unfold quote_identifier
  split
  next h =>
    rw [Bool.and_eq_true] at h
    cases name with
    | nil => nofun
    | cons c w =>
      intro d hd
      cases hd
      rw [isSafeIdent, Bool.and_eq_true] at h
      refine Bool.eq_false_iff.2 fun hdigit => ?_
      have hstart : isIdentStart c = true := isIdentStart_of_safe h.1.1
      have hword := Duck.lexStart_identStart hstart
      rw [Duck.lexStart_digit hdigit] at hword
      cases hword
  next =>
    intro c hc
    cases hc
    rfl

/-- The token has the name. -/
theorem name?_nameToken : (nameToken K name).name? = some name := by
  unfold nameToken
  split <;> rfl

/-- It is the name exactly if the name is spelled as DuckDB needs it. -/
theorem nameTokens_iff {b : Backend} : NameTokens reserved name [nameToken b.K name] ↔ Spelled b reserved name := by
  unfold nameToken NameTokens Spelled
  split
  next h =>
    rw [Bool.and_eq_true, Bool.not_eq_true'] at h
    constructor
    · rintro (heq | ⟨-, hnot⟩)
      · cases heq
      · exact fun _ _ => hnot
    · exact fun hspelled => .inr ⟨rfl, hspelled h.1 h.2⟩
  next h =>
    refine iff_of_true (.inl rfl) fun hsafe hquoted => absurd ?_ h
    rw [hsafe, hquoted]
    rfl

/-- A name has one token. -/
theorem NameTokens.length (h : NameTokens reserved name ts) : ts.length = 1 := by
  rcases h with rfl | ⟨rfl, -⟩ <;> rfl

/-- Names with commas between them. -/
theorem separated_names_iff {b : Backend} {names : List Text} :
    Separated (NameTokens reserved) names ([Token.comma].intercalate (names.map fun name => [nameToken b.K name])) ↔
      ∀ name ∈ names, Spelled b reserved name := by
  rw [Duck.separated_iff fun name _ ts hts => NameTokens.length hts]
  simp only [nameTokens_iff]

/-- A list of names is read as their tokens. -/
theorem reads_names {names : List Text} {sep : Text} (hsep : sep = [','] ∨ sep = [',', ' ']) :
    Reads (sep.intercalate (names.map (quote_identifier K)))
      ([Token.comma].intercalate (names.map fun name => [nameToken K name])) := by
  refine .intercalate hsep ?_
  rw [List.forall₂_map_left_iff, List.forall₂_map_right_iff]
  exact List.forall₂_same.2 fun name _ => readsName_quote_identifier.reads

/-! ## Options -/

/-- A literal is read as its string. -/
theorem reads_quote_literal : Reads (quote_literal_cstr w) [.str w] := by
  unfold quote_literal_cstr
  split
  · exact .estr
  · exact .str

/-- A number is read with its sign. -/
theorem reads_signed {negative : Bool} (h : isNumber w = true) :
    Reads (if negative then '-' :: w else w) (signed negative w) := by
  cases negative with
  | true => exact .negative h
  | false => exact .number h

/-- The digits of an integer after its sign. -/
theorem toList_toString (ival : ℤ) : (toString ival).toList =
    if decide (ival < 0) = true then '-' :: Nat.toDigits 10 ival.natAbs else Nat.toDigits 10 ival.natAbs := by
  cases ival with
  | ofNat n =>
    rw [if_neg (by simp)]
    exact Nat.toList_repr
  | negSucc n =>
    rw [if_pos (by simp [Int.negSucc_lt_zero])]
    show ("-" ++ Nat.repr (n + 1)).toList = _
    rw [String.toList_append, Nat.toList_repr]
    rfl

/-- An integer is a number. -/
theorem isNumber_toDigits (n : ℕ) : isNumber (Nat.toDigits 10 n) = true :=
  Duck.isNumber_of_digits Nat.toDigits_ne_nil fun _ hc => Nat.isDigit_of_mem_toDigits (by decide) (by decide) hc

/-- A number has its sign in front. -/
theorem unsigned_eq (fval : Text) :
    fval = if isNegative fval = true then '-' :: unsigned fval else unsigned fval := by
  unfold unsigned
  split
  next h =>
    cases fval with
    | nil => cases h
    | cons c w =>
      cases of_decide_eq_true h
      rfl
  next => rfl

/-- An argument is read as its tokens. -/
theorem reads_arg {defel : DefElem} {arg : DefArg} (harg : defel.arg = some arg)
    (hfloat : ∀ fval, arg = .T_Float fval → isNumber (unsigned fval) = true) (h : appendArg b defel arg = .ok w) :
    Reads w (argTokens b.K arg) := by
  have hstring : ∀ text : Text, defGetString defel = .ok text →
      (do return quote_literal_cstr (← defGetString defel)) = (.ok w : Except PgError Text) →
      Reads w [.str text] := by
    intro text htext hw
    rw [htext] at hw
    cases hw
    exact reads_quote_literal
  cases arg with
  | T_Integer ival =>
    rw [appendArg, defGetString, harg] at h
    cases h
    rw [toList_toString]
    exact reads_signed (isNumber_toDigits _)
  | T_Float fval =>
    rw [appendArg, defGetString, harg] at h
    cases h
    have hread := @reads_signed (unsigned w) (isNegative w) (hfloat w rfl)
    rw [← unsigned_eq] at hread
    exact hread
  | T_Boolean boolval =>
    rw [appendArg, defGetString, harg] at h
    cases h
    cases boolval with
    | true => exact .word rfl
    | false => exact .word rfl
  | T_String sval => exact hstring sval (by rw [defGetString, harg]) h
  | T_TypeName name => exact hstring name (by rw [defGetString, harg]) h
  | T_List names =>
    cases h
    exact (reads_names (.inl rfl)).paren
  | T_A_Star =>
    cases h
    exact ⟨[], _, _, rfl, rfl, rfl⟩
  | other tag => cases h

/-- An option is read as its tokens, if its name is a word and a float in it is a number. -/
theorem reads_option {defel : DefElem} (hword : isWord defel.defname = true)
    (hfloat : ∀ fval, defel.arg = some (.T_Float fval) → isNumber (unsigned fval) = true)
    (h : appendOption b defel = .ok w) : Reads w (optionTokens b.K defel) := by
  rw [appendOption] at h
  rw [optionTokens]
  cases harg : defel.arg with
  | none =>
    rw [harg] at h
    cases h
    exact .word hword
  | some arg =>
    rw [harg] at h
    obtain ⟨text, htext, heq⟩ := Lib.bind_eq_ok.1 h
    cases heq
    have hfloat' : ∀ fval, arg = .T_Float fval → isNumber (unsigned fval) = true := by
      rintro fval rfl
      exact hfloat fval harg
    exact (Reads.word hword).append (reads_arg harg hfloat' htext).space rfl

/-- Options one after the other. -/
theorem reads_options {options : List DefElem} {texts : List Text}
    (hwords : ∀ defel ∈ options, isWord defel.defname = true)
    (hfloats : ∀ defel ∈ options, ∀ fval, defel.arg = some (.T_Float fval) → isNumber (unsigned fval) = true)
    (h : List.Forall₂ (fun defel w => appendOption b defel = .ok w) options texts) :
    List.Forall₂ Reads texts (options.map (optionTokens b.K)) := by
  induction h with
  | nil => exact .nil
  | cons hoption hrest ih =>
    refine .cons (reads_option (hwords _ List.mem_cons_self) (hfloats _ List.mem_cons_self) hoption) ?_
    exact ih (fun d hd => hwords d (List.mem_cons_of_mem _ hd)) fun d hd => hfloats d (List.mem_cons_of_mem _ hd)

/-- The options in parentheses. -/
theorem AppendCreateCopyOptions_cons {options : List DefElem} (hne : options ≠ []) :
    AppendCreateCopyOptions b options = .ok w ↔
      ∃ texts, List.Forall₂ (fun defel w => appendOption b defel = .ok w) options texts ∧
        w = '(' :: ", ".toList.intercalate texts ++ ");".toList := by
  have hempty : options.isEmpty = false := List.isEmpty_eq_false_iff.2 hne
  rw [AppendCreateCopyOptions, hempty]
  change (options.mapM (appendOption b) >>= _) = _ ↔ _
  rw [Lib.bind_eq_ok]
  simp only [Lib.mapM_eq_ok]
  constructor
  · rintro ⟨texts, htexts, heq⟩
    exact ⟨texts, htexts, (Except.ok.inj heq).symm⟩
  · rintro ⟨texts, htexts, rfl⟩
    exact ⟨texts, htexts, rfl⟩

/-- So are the options. -/
theorem reads_AppendCreateCopyOptions {options : List DefElem}
    (hwords : ∀ defel ∈ options, isWord defel.defname = true)
    (hfloats : ∀ defel ∈ options, ∀ fval, defel.arg = some (.T_Float fval) → isNumber (unsigned fval) = true)
    (h : AppendCreateCopyOptions b options = .ok w) : Reads w (optionsTokens b.K options ++ [.semicolon]) := by
  have hsemicolon : Reads [';'] [.semicolon] := .of_run rfl
  cases options with
  | nil =>
    cases h
    exact hsemicolon
  | cons defel options =>
    obtain ⟨texts, htexts, rfl⟩ := (AppendCreateCopyOptions_cons (List.cons_ne_nil _ _)).1 h
    have hlist := Duck.Reads.intercalate (.inr rfl) (reads_options hwords hfloats htexts)
    have hall := hlist.paren.append hsemicolon rfl
    rw [List.append_assoc] at hall
    exact hall

/-! ## The whole text -/

/-- The direction is read as a word. -/
theorem direction_run (stmt : CopyStmt) :
    ∃ text, (if stmt.is_from then " FROM ".toList else " TO ".toList) = ' ' :: text ∧
      lexRun .start (' ' :: text) = some ([directionToken stmt], .start) := by
  rw [directionToken]
  cases stmt.is_from with
  | true => exact ⟨"FROM ".toList, rfl, rfl⟩
  | false => exact ⟨"TO ".toList, rfl, rfl⟩

/-- The five parts of a text. -/
theorem append_pieces {α : Type} (l₁ l₂ l₃ l₄ l₅ : List α) :
    l₁ ++ l₂ ++ l₃ ++ l₄ ++ l₅ = l₁ ++ (l₂ ++ (l₃ ++ (l₄ ++ l₅))) := by
  simp only [List.append_assoc]

/-- A statement starts with `COPY`. -/
theorem copy_run : lexRun .start "COPY ".toList = some ([.word "COPY".toList], .start) := rfl

/-- A text after the name of the file. -/
theorem assemble_run {stmt : CopyStmt} {filename source : Text} {m : Duck.LexMode} {sourceTs : List Token}
    (hfilename : stmt.filename = some filename) (hsource : Reads source sourceTs)
    (h : lexRun .start w = some (ts, m)) : lexRun .start (assemble stmt source w) =
      some (.word "COPY".toList :: sourceTs ++ [directionToken stmt, .str filename] ++ ts, m) := by
  have hblank : lexRun .start (' ' :: w) = some (ts, m) := by
    have hspace : lexRun .start [' '] = some ([], .start) := rfl
    exact Duck.lexRun_append_start hspace h
  have hliteral : lexRun .start (quote_literal_cstr filename ++ ' ' :: w) = some (.str filename :: ts, m) :=
    reads_quote_literal.run hblank rfl
  obtain ⟨text, htext, hdirection⟩ := direction_run stmt
  have hrest : lexRun .start (' ' :: (text ++ (quote_literal_cstr filename ++ ' ' :: w))) =
      some (directionToken stmt :: .str filename :: ts, m) := Duck.lexRun_append_start hdirection hliteral
  have hall := Duck.lexRun_append_start copy_run (hsource.run hrest rfl)
  have hassemble : assemble stmt source w =
      "COPY ".toList ++ (source ++ ' ' :: (text ++ (quote_literal_cstr filename ++ ' ' :: w))) := by
    unfold assemble
    rw [htext, hfilename]
    exact append_pieces ..
  have htokens : (.word "COPY".toList :: sourceTs ++ [directionToken stmt, .str filename] ++ ts : List Token) =
      [.word "COPY".toList] ++ (sourceTs ++ directionToken stmt :: .str filename :: ts) :=
    List.append_assoc (_ :: sourceTs) _ ts
  rw [hassemble, htokens]
  exact hall

/-- The parts are read one after the other. -/
theorem reads_assemble {stmt : CopyStmt} {filename source : Text} {sourceTs : List Token}
    (hfilename : stmt.filename = some filename) (hsource : Reads source sourceTs) (h : Reads w ts) :
    Reads (assemble stmt source w)
      (.word "COPY".toList :: sourceTs ++ [directionToken stmt, .str filename] ++ ts) := by
  obtain ⟨ts₀, m, ts₁, hrun, hready, rfl⟩ := h
  exact ⟨_, m, ts₁, assemble_run hfilename hsource hrun, hready, List.append_assoc ..⟩

end

end PgDuckdb.Copy
