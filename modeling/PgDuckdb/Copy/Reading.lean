import PgDuckdb.Copy.Tokens

/-!
# What DuckDB reads of a COPY

The tokens of the text are a `COPY` with the parts of the given statement (`CopyTokens`) if these are what they seem.
The names of its options are read as such if nothing of them ends up in another token (`OwnToken`).

A name goes into the text without its quotes where PostgreSQL's own keywords allow it, and the name of an option
always does. So the text is read as the given statement exactly if the names of the options are words, the floats
are numbers to DuckDB, and the other names are not words that only DuckDB reserves (`readsAsGiven_iff`).
-/

namespace PgDuckdb.Copy

open Pg (Text Keywords quote_identifier isSafeIdent isSafeStart isSafeCont)
open Cache (quote_literal_cstr)
open Duck (Token Reads ReadsName Separated isWord isNumber isIdentStart isIdentCont lexRun)

section
variable {K : Keywords} {D : DuckKeywords} {b : Backend} {reserved : Text → Bool} {name w : Text} {ts : List Token}

/-! ## The relation -/

/-- A list of columns is read as their names in parentheses, and no list as nothing. -/
theorem reads_appendAttlist {attlist : List Text} :
    (attlist = [] ∧ appendAttlist b attlist = [] ∧ columnsTokens b.K attlist = []) ∨
      ∃ text, appendAttlist b attlist = '(' :: text ∧ Reads ('(' :: text) (columnsTokens b.K attlist) := by
  unfold appendAttlist columnsTokens
  cases attlist with
  | nil => exact .inl ⟨rfl, rfl, rfl⟩
  | cons name attlist =>
    have hblank : Reads [' '] [] := .of_run rfl
    have hlist := (@reads_names b.K (name :: attlist) _ (.inr rfl)).paren.append hblank rfl
    rw [List.append_nil, List.append_assoc] at hlist
    exact .inr ⟨_, rfl, hlist⟩

/-- The tokens of a relation with its columns. -/
def relationTokens (K : Keywords) (db_name schema_name relname : Text) (attlist : List Text) : List Token :=
  [nameToken K db_name, .dot, nameToken K schema_name, .dot, nameToken K relname] ++ columnsTokens K attlist

/-- The name of a relation, in its parts. -/
theorem pgduckdb_relation_name_eq_ok {relid : Oid} : pgduckdb_relation_name b relid = .ok name ↔
    ∃ db_name schema_name, dbAndSchema b relid = .ok (db_name, schema_name) ∧
      name = quote_identifier b.K db_name ++ '.' :: (quote_identifier b.K schema_name ++
        '.' :: quote_identifier b.K (b.N.get_rel_name relid)) := by
  rw [pgduckdb_relation_name, Lib.bind_eq_ok]
  constructor
  · rintro ⟨⟨db_name, schema_name⟩, hdb, heq⟩
    cases heq
    exact ⟨db_name, schema_name, hdb, List.append_assoc ..⟩
  · rintro ⟨db_name, schema_name, hdb, rfl⟩
    exact ⟨(db_name, schema_name), hdb, congrArg Except.ok (List.append_assoc ..)⟩

/-- A relation is read as its name and its columns. -/
theorem reads_relation {db_name schema_name relname : Text} {attlist : List Text} :
    Reads (quote_identifier b.K db_name ++ '.' :: (quote_identifier b.K schema_name ++
        '.' :: quote_identifier b.K relname) ++ appendAttlist b attlist)
      (relationTokens b.K db_name schema_name relname attlist) := by
  have hrelation := (@readsName_quote_identifier b.K relname).reads
  have hschema := (@readsName_quote_identifier b.K schema_name).dot hrelation not_digit_quote_identifier
  have hdigit : ∀ c ∈ (quote_identifier b.K schema_name ++ '.' :: quote_identifier b.K relname).head?,
      c.isDigit = false := by
    intro c hc
    cases hq : quote_identifier b.K schema_name with
    | nil =>
      rw [hq] at hc
      cases hc
      rfl
    | cons d w =>
      rw [hq] at hc
      have hfirst := @not_digit_quote_identifier b.K schema_name
      rw [hq] at hfirst
      exact hfirst c hc
  have hname := (@readsName_quote_identifier b.K db_name).dot hschema hdigit
  rcases @reads_appendAttlist b attlist with ⟨-, htext, hts⟩ | ⟨text, htext, hcolumns⟩
  · rw [relationTokens, htext, hts, List.append_nil, List.append_nil]
    exact hname
  · rw [relationTokens, htext]
    exact hname.append hcolumns rfl

/-! ## The parts -/

/-- Parentheses are two tokens. -/
theorem length_paren {ts : List Token} : (.lparen :: ts ++ [.rparen] : List Token).length = ts.length + 2 := by
  rw [List.length_append, List.length_cons, List.length_singleton]

/-- What is in parentheses is known by them. -/
theorem paren_inj {ts ts' : List Token}
    (h : (.lparen :: ts ++ [.rparen] : List Token) = .lparen :: ts' ++ [.rparen]) : ts = ts' :=
  List.append_cancel_right (List.cons.inj h).2

/-- The columns are those that are meant exactly if none of their names is only reserved by DuckDB. -/
theorem columnsTokens_iff {attlist : List Text} :
    ColumnsTokens D attlist (columnsTokens b.K attlist) ↔ ∀ name ∈ attlist, Spelled b D.notColId name := by
  rw [← separated_names_iff]
  cases attlist with
  | nil => exact iff_of_true .nil .nil
  | cons name attlist =>
    constructor
    · intro h
      generalize hts : columnsTokens b.K (name :: attlist) = ts at h
      cases h with
      | cons hne hlist =>
        rw [← paren_inj hts] at hlist
        exact hlist
    · exact fun hlist => .cons (List.cons_ne_nil _ _) hlist

/-- Columns have so many tokens. -/
theorem ColumnsTokens.length {attlist : List Text} (h : ColumnsTokens D attlist ts) :
    ts.length = (columnsTokens K attlist).length := by
  cases h with
  | nil => rfl
  | cons hne hlist =>
    have hlength := hlist.length (f := fun name => [nameToken K name]) fun name _ ts hts => NameTokens.length hts
    rw [columnsTokens, List.isEmpty_eq_false_iff.2 hne, if_neg Bool.false_ne_true, length_paren, length_paren,
      hlength]

/-- An argument has so many tokens. -/
theorem ArgTokens.length {arg : DefArg} (h : ArgTokens D arg ts) : ts.length = (argTokens K arg).length := by
  cases h with
  | list hlist =>
    have hlength := hlist.length (f := fun name => [nameToken K name]) fun name _ ts hts => NameTokens.length hts
    rw [argTokens, length_paren, length_paren, hlength]
  | _ => rfl

/-- An argument is the one that is meant exactly if no name in a list is only reserved by DuckDB. -/
theorem argTokens_iff {arg : DefArg} (hknown : ∀ tag, arg ≠ .other tag) : ArgTokens D arg (argTokens b.K arg) ↔
    ∀ names, arg = .T_List names → ∀ name ∈ names, Spelled b D.reserved name := by
  cases arg with
  | T_List names =>
    constructor
    · intro h names' heq
      cases heq
      generalize hts : argTokens b.K (.T_List names) = ts at h
      cases h with
      | list hlist =>
        rw [← paren_inj hts] at hlist
        exact separated_names_iff.1 hlist
    · exact fun hlist => .list (separated_names_iff.2 (hlist names rfl))
  | other tag => exact absurd rfl (hknown tag)
  | T_Integer => exact iff_of_true .integer nofun
  | T_Float => exact iff_of_true .float nofun
  | T_Boolean => exact iff_of_true .boolean nofun
  | T_String => exact iff_of_true .string nofun
  | T_TypeName => exact iff_of_true .typeName nofun
  | T_A_Star => exact iff_of_true .star nofun

/-- The argument has a text. -/
theorem ne_other_of_appendOption {defel : DefElem} (h : appendOption b defel = .ok w) :
    ∀ tag, defel.arg ≠ some (.other tag) := by
  intro tag harg
  rw [appendOption, harg] at h
  cases h

/-- An option has so many tokens. -/
theorem OptionTokens.length {defel : DefElem} (h : OptionTokens D defel ts) :
    ts.length = (optionTokens K defel).length := by
  cases h with
  | name => rfl
  | @arg _ _ _ ts _ harg =>
    have hlength : ts.length = _ := harg.length (K := K)
    rw [optionTokens, List.length_cons, List.length_cons, hlength]
    rfl

/-- An option is the one that is meant exactly if its argument is. -/
theorem optionTokens_iff {defel : DefElem} (hknown : ∀ tag, defel.arg ≠ some (.other tag)) :
    OptionTokens D defel (optionTokens b.K defel) ↔
      ∀ names, defel.arg = some (.T_List names) → ∀ name ∈ names, Spelled b D.reserved name := by
  obtain ⟨defname, arg⟩ := defel
  cases arg with
  | none => exact iff_of_true (.name rfl) nofun
  | some arg =>
    have harg : ArgTokens D arg (argTokens b.K arg) ↔ _ := argTokens_iff fun tag h => hknown tag (congrArg some h)
    simp only [Option.some.injEq]
    rw [← harg]
    constructor
    · intro h
      generalize hts : optionTokens b.K ⟨defname, some arg⟩ = ts at h
      cases h with
      | arg _ htokens =>
        rw [← (List.cons.inj hts).2] at htokens
        exact htokens
    · exact fun htokens => .arg rfl htokens

/-- Options have so many tokens. -/
theorem OptionsTokens.length {options : List DefElem} (h : OptionsTokens D options ts) :
    ts.length = (optionsTokens K options).length := by
  cases h with
  | nil => rfl
  | cons hne hlist =>
    have hlength := hlist.length (f := optionTokens K) fun defel _ ts hts => OptionTokens.length hts
    rw [optionsTokens, List.isEmpty_eq_false_iff.2 hne, if_neg Bool.false_ne_true, length_paren, length_paren,
      hlength]

/-- The options are those that are meant exactly if each of their arguments is. -/
theorem optionsTokens_iff {options : List DefElem}
    (hknown : ∀ defel ∈ options, ∀ tag, defel.arg ≠ some (.other tag)) :
    OptionsTokens D options (optionsTokens b.K options) ↔ ∀ defel ∈ options, ∀ names,
      defel.arg = some (.T_List names) → ∀ name ∈ names, Spelled b D.reserved name := by
  have hlist : Separated (OptionTokens D) options ([Token.comma].intercalate (options.map (optionTokens b.K))) ↔
      ∀ defel ∈ options, ∀ names, defel.arg = some (.T_List names) → ∀ name ∈ names, Spelled b D.reserved name := by
    rw [Duck.separated_iff fun defel _ ts hts => OptionTokens.length hts]
    exact forall₂_congr fun defel hdefel => optionTokens_iff (hknown defel hdefel)
  rw [← hlist]
  cases options with
  | nil => exact iff_of_true .nil .nil
  | cons defel options =>
    constructor
    · intro h
      generalize hts : optionsTokens b.K (defel :: options) = ts at h
      cases h with
      | cons hne htokens =>
        rw [← paren_inj hts] at htokens
        exact htokens
    · exact fun htokens => .cons (List.cons_ne_nil _ _) htokens

/-- Options that are written have arguments of the kinds that are known. -/
theorem known_of_options {options : List DefElem} (h : AppendCreateCopyOptions b options = .ok w) :
    ∀ defel ∈ options, ∀ tag, defel.arg ≠ some (.other tag) := by
  cases options with
  | nil => nofun
  | cons defel options =>
    obtain ⟨texts, htexts, -⟩ := (AppendCreateCopyOptions_cons (List.cons_ne_nil _ _)).1 h
    clear h
    generalize defel :: options = l at htexts
    induction htexts with
    | nil => nofun
    | cons hfirst _ ih =>
      intro d hd
      rcases List.mem_cons.1 hd with rfl | hd
      · exact ne_other_of_appendOption hfirst
      · exact ih d hd

/-- The tokens of the source, their length, and when they are as they should be. -/
structure IsSource (D : DuckKeywords) (b : Backend) (stmt : CopyStmt) (source : Text) (ts : List Token) : Prop where
  reads : Reads source ts
  length : ∀ ts', SourceTokens D b stmt ts' → ts'.length = ts.length
  iff : SourceTokens D b stmt ts ↔ ((∀ relation relid db_name schema_name, stmt.source = .relation relation →
    b.N.RangeVarGetRelid relation = some relid → dbAndSchema b relid = .ok (db_name, schema_name) →
    Spelled b D.notColId db_name) ∧ ∀ name ∈ stmt.attlist, Spelled b D.notColId name)

/-- A statement has one relation, and that is in one database. -/
theorem db_name_unique {source : CopySource} {relation relation' : RangeVar} {relid relid' : Oid}
    {db_name schema_name db_name' schema_name' : Text} (hsource : source = .relation relation)
    (hrelid : b.N.RangeVarGetRelid relation = some relid) (hdb : dbAndSchema b relid = .ok (db_name, schema_name))
    (hsource' : source = .relation relation') (hrelid' : b.N.RangeVarGetRelid relation' = some relid')
    (hdb' : dbAndSchema b relid' = .ok (db_name', schema_name')) : db_name' = db_name := by
  rw [hsource] at hsource'
  cases hsource'
  rw [hrelid] at hrelid'
  cases hrelid'
  rw [hdb] at hdb'
  cases hdb'
  rfl

/-- A relation is read as a source. -/
theorem isSource_relation {stmt : CopyStmt} {relation : RangeVar} {source : Text}
    (hsource : stmt.source = .relation relation) (h : AppendCreateRelationCopyString b stmt relation = .ok source) :
    ∃ ts, IsSource D b stmt source ts := by
  obtain ⟨relid, name, hrelid, -, hname, rfl⟩ := appendRelation_eq_ok.1 h
  obtain ⟨db_name, schema_name, hdb, rfl⟩ := pgduckdb_relation_name_eq_ok.1 hname
  -- the relation and its names are the only ones
  have hinv : ∀ ts, SourceTokens D b stmt ts → ∃ database columns schema relname,
      ts = database ++ [.dot, schema, .dot, relname] ++ columns ∧ NameTokens D.notColId db_name database ∧
        ColumnsTokens D stmt.attlist columns := by
    intro ts hts
    cases hts with
    | relation hsource' hrelid' hdb' hdatabase _ _ hcolumns =>
      rw [db_name_unique hsource hrelid hdb hsource' hrelid' hdb'] at hdatabase
      exact ⟨_, _, _, _, rfl, hdatabase, hcolumns⟩
    | query hsource' =>
      rw [hsource] at hsource'
      cases hsource'
  refine ⟨_, reads_relation, ?_, ?_⟩
  · intro ts hts
    obtain ⟨database, columns, schema, relname, rfl, hdatabase, hcolumns⟩ := hinv ts hts
    have hlength : columns.length = _ := hcolumns.length (K := b.K)
    rw [relationTokens, List.length_append, List.length_append, hdatabase.length, List.length_append, hlength]
    rfl
  · constructor
    · intro hts
      obtain ⟨database, columns, schema, relname, heq, hdatabase, hcolumns⟩ := hinv _ hts
      obtain ⟨t, rfl⟩ := List.length_eq_one_iff.1 hdatabase.length
      obtain ⟨hnames, rfl⟩ := List.append_inj heq rfl
      obtain ⟨rfl, -⟩ := List.cons.inj hnames
      refine ⟨fun relation' relid' db_name' schema_name' hsource' hrelid' hdb' => ?_, columnsTokens_iff.1 hcolumns⟩
      rw [db_name_unique hsource hrelid hdb hsource' hrelid' hdb']
      exact nameTokens_iff.1 hdatabase
    · rintro ⟨hdatabase, hcolumns⟩
      have hspelled := hdatabase relation relid db_name schema_name hsource hrelid hdb
      exact .relation hsource hrelid hdb (nameTokens_iff.2 hspelled) name?_nameToken name?_nameToken
        (columnsTokens_iff.2 hcolumns)

/-- A query is read as a source. -/
theorem isSource_query {stmt : CopyStmt} {raw_stmt : RawStmt} {needs_duckdb_execution : Bool} {source : Text}
    (hsource : stmt.source = .query raw_stmt) (hwf : WellFormed stmt) (hqueries : ReadsQueries b)
    (h : appendSource b stmt needs_duckdb_execution = .ok (some source)) : ∃ ts, IsSource D b stmt source ts := by
  obtain ⟨query, querydef, hquery, -, -, hquerydef, rfl⟩ := (appendQuery_eq_some hsource).1 h
  obtain ⟨ts, hreads, henclosed⟩ := hqueries query querydef hquerydef
  obtain ⟨hattlist, hto⟩ := hwf raw_stmt hsource
  refine ⟨_, hreads.paren, ?_, ?_⟩
  · intro ts' hts'
    cases hts' with
    | relation hsource' =>
      rw [hsource] at hsource'
      cases hsource'
    | query hsource' _ _ hquery' hquerydef' hlex =>
      rw [hsource] at hsource'
      cases hsource'
      rw [hquery] at hquery'
      cases hquery'
      rw [hquerydef] at hquerydef'
      cases hquerydef'
      rw [hreads.lex] at hlex
      cases hlex
      rfl
  · refine iff_of_true (.query hsource hattlist hto hquery hquerydef hreads.lex henclosed) ⟨?_, ?_⟩
    · intro relation _ _ _ hsource'
      rw [hsource] at hsource'
      cases hsource'
    · rw [hattlist]
      nofun

/-- Whatever is written as the source is read as one. -/
theorem exists_isSource {stmt : CopyStmt} {needs_duckdb_execution : Bool} {source : Text} (hwf : WellFormed stmt)
    (hqueries : ReadsQueries b) (h : appendSource b stmt needs_duckdb_execution = .ok (some source)) :
    ∃ ts, IsSource D b stmt source ts := by
  cases hsource : stmt.source with
  | relation relation =>
    rw [appendSource_relation hsource] at h
    obtain ⟨source', hsource', heq⟩ := Lib.map_eq_ok.1 h
    cases heq
    exact isSource_relation hsource hsource'
  | query raw_stmt => exact isSource_query hsource hwf hqueries h

/-- The tokens are the statement exactly if the source and the options are those that are meant. -/
theorem copyTokens_iff {stmt : CopyStmt} {filename source : Text} (hfilename : stmt.filename = some filename)
    (hsource : IsSource D b stmt source ts) :
    CopyTokens D b stmt (.word "COPY".toList :: ts ++ [directionToken stmt, .str filename] ++
        (optionsTokens b.K stmt.options ++ [.semicolon])) ↔
      SourceTokens D b stmt ts ∧ OptionsTokens D stmt.options (optionsTokens b.K stmt.options) := by
  rw [← List.append_assoc]
  constructor
  · intro h
    generalize hts : (.word "COPY".toList :: ts ++ [directionToken stmt, .str filename] ++
        optionsTokens b.K stmt.options ++ [.semicolon] : List Token) = all at h
    cases h with
    | mk hfilename' hsource' hoptions' =>
      have hfirst := List.append_inj (List.append_cancel_right hts) ?_
      · obtain ⟨hhead, rfl⟩ := hfirst
        have hlength := (hsource.length _ hsource').symm
        obtain ⟨rfl, -⟩ := List.append_inj (List.cons.inj hhead).2 hlength
        exact ⟨hsource', hoptions'⟩
      · rw [List.length_append, List.length_append, @List.length_cons _ _ ts, ← hsource.length _ hsource']
        rfl
  · rintro ⟨hsource', hoptions'⟩
    exact .mk hfilename hsource' hoptions'

/-! ## The names of options -/

/-- After a place where another token may start, a name is a token of its own exactly if it is a word. -/
theorem ownToken_iff (hrun : lexRun .start w = some (ts, .start)) : OwnToken w name ↔ isWord name = true := by
  have hlex : Duck.lex w = some ts := (Reads.of_run hrun).lex
  constructor
  · rintro ⟨ts', t, hlex', hboth, hname⟩
    rw [hlex] at hlex'
    cases hlex'
    obtain ⟨ts₀, m, ts₁, hrun', hflush, heq⟩ := Duck.lex_eq_some.1 hboth
    rw [Duck.lexRun_append hrun] at hrun'
    obtain ⟨ts₂, hrest, rfl⟩ := Duck.after_eq_some.1 hrun'
    rw [List.append_assoc] at heq
    have hname' : Duck.lex name = some [t] :=
      Duck.lex_eq_some.2 ⟨ts₂, m, ts₁, hrest, hflush, List.append_cancel_left heq⟩
    exact Duck.isWord_of_lex hname' hname
  · intro hword
    exact ⟨ts, .word name, hlex, (Reads.after_run hrun (Reads.word hword)).lex, rfl⟩

/-- Texts with commas behind them are read one by one. -/
theorem run_flatMap {texts : List Text} {tss : List (List Token)} (h : List.Forall₂ Reads texts tss) :
    lexRun .start (texts.flatMap (· ++ ", ".toList)) = some (tss.flatMap (· ++ [Token.comma]), .start) := by
  induction h with
  | nil => rfl
  | cons hfirst hrest ih =>
    have hcomma : lexRun .start ", ".toList = some ([.comma], .start) := rfl
    have hnext := hfirst.run (Duck.lexRun_append_start hcomma ih) rfl
    rw [List.flatMap_cons, List.flatMap_cons, List.append_assoc, List.append_assoc]
    exact hnext

/-- Options in front of another one. -/
theorem intercalate_append {sep w : Text} {texts texts' : List Text} :
    sep.intercalate (texts ++ w :: texts') = texts.flatMap (· ++ sep) ++ sep.intercalate (w :: texts') := by
  induction texts with
  | nil => rfl
  | cons w' texts ih =>
    have hne : texts ++ w :: texts' ≠ [] := List.append_ne_nil_of_right_ne_nil _ (List.cons_ne_nil _ _)
    rw [List.cons_append, List.intercalate_cons_of_ne_nil hne, ih, List.flatMap_cons, List.append_assoc,
      List.append_assoc, List.append_assoc]

/-- The text of options, with one of them taken out. -/
theorem AppendCreateCopyOptions_append {before after : List DefElem} {defel : DefElem}
    (h : AppendCreateCopyOptions b (before ++ defel :: after) = .ok w) :
    ∃ texts rest, List.Forall₂ (fun defel w => appendOption b defel = .ok w) before texts ∧
      AppendCreateCopyOptions b (defel :: after) = .ok ('(' :: rest) ∧
      w = '(' :: texts.flatMap (· ++ ", ".toList) ++ rest := by
  have hne : before ++ defel :: after ≠ [] := List.append_ne_nil_of_right_ne_nil _ (List.cons_ne_nil _ _)
  obtain ⟨all, hall, rfl⟩ := (AppendCreateCopyOptions_cons hne).1 h
  have hmapM := Lib.mapM_eq_ok.2 hall
  rw [List.mapM_append, Lib.bind_eq_ok] at hmapM
  obtain ⟨texts, htexts, hmapM⟩ := hmapM
  obtain ⟨last, hlast, heq⟩ := Lib.bind_eq_ok.1 hmapM
  cases heq
  have hlast' := Lib.mapM_eq_ok.1 hlast
  refine ⟨texts, _, Lib.mapM_eq_ok.1 htexts,
    (AppendCreateCopyOptions_cons (List.cons_ne_nil _ _)).2 ⟨last, hlast', rfl⟩, ?_⟩
  cases hlast' with
  | cons =>
    rw [intercalate_append, List.cons_append, List.cons_append, List.append_assoc]
    rfl

/-- The text in front of an option ends where another token may start. -/
theorem run_before {stmt : CopyStmt} {filename source options : Text} {sourceTs : List Token}
    {before after : List DefElem} {defel : DefElem} (hfilename : stmt.filename = some filename)
    (hsource : Reads source sourceTs) (hoptions : stmt.options = before ++ defel :: after)
    (hwords : ∀ defel ∈ before, isWord defel.defname = true)
    (hfloats : ∀ defel ∈ stmt.options, ∀ fval, defel.arg = some (.T_Float fval) → isNumber (unsigned fval) = true)
    (h : AppendCreateCopyOptions b stmt.options = .ok options) :
    ∃ w rest ts, AppendCreateCopyOptions b (defel :: after) = .ok ('(' :: rest) ∧
      assemble stmt source options = w ++ rest ∧ lexRun .start w = some (ts, .start) := by
  rw [hoptions] at h hfloats
  obtain ⟨texts, rest, htexts, hrest, rfl⟩ := AppendCreateCopyOptions_append h
  have hreads := reads_options hwords (fun d hd => hfloats d (List.mem_append_left _ hd)) htexts
  have hopen : lexRun .start ['('] = some ([.lparen], .start) := rfl
  have hrun := assemble_run hfilename hsource (Duck.lexRun_append_start hopen (run_flatMap hreads))
  have hassemble : assemble stmt source ('(' :: texts.flatMap (· ++ ", ".toList) ++ rest) =
      assemble stmt source ('(' :: texts.flatMap (· ++ ", ".toList)) ++ rest :=
    (List.append_assoc _ (' ' :: _) rest).symm
  exact ⟨_, rest, _, hrest, hassemble, hrun⟩

/-- The names that are tokens of their own are words. -/
theorem words_of_ownToken {stmt : CopyStmt} {filename source options : Text} {sourceTs : List Token}
    (hfilename : stmt.filename = some filename) (hsource : Reads source sourceTs)
    (hfloats : ∀ defel ∈ stmt.options, ∀ fval, defel.arg = some (.T_Float fval) → isNumber (unsigned fval) = true)
    (h : AppendCreateCopyOptions b stmt.options = .ok options)
    (hnames : ∀ before defel after w rest, stmt.options = before ++ defel :: after →
      AppendCreateCopyOptions b (defel :: after) = .ok ('(' :: rest) → assemble stmt source options = w ++ rest →
      OwnToken w defel.defname) : ∀ defel ∈ stmt.options, isWord defel.defname = true := by
  suffices hbefore : ∀ before after, stmt.options = before ++ after →
      ∀ defel ∈ before, isWord defel.defname = true from hbefore stmt.options [] (List.append_nil _).symm
  intro before
  induction before using List.reverseRecOn with
  | nil => nofun
  | append_singleton before defel ih =>
    intro after hsplit
    rw [List.append_assoc, List.singleton_append] at hsplit
    have hwords := ih _ hsplit
    intro d hd
    rcases List.mem_append.1 hd with hd | hd
    · exact hwords d hd
    · cases List.mem_singleton.1 hd
      obtain ⟨w, rest, ts, hrest, heq, hrun⟩ := run_before hfilename hsource hsplit hwords hfloats h
      exact (ownToken_iff hrun).1 (hnames before defel after w rest hsplit hrest heq)

/-! ## Floats -/

/-- The number of a float is one of the tokens. -/
theorem CopyTokens.mem_of_float {stmt : CopyStmt} {defel : DefElem} {fval : Text} (h : CopyTokens D b stmt ts)
    (hdefel : defel ∈ stmt.options) (harg : defel.arg = some (.T_Float fval)) : .num (unsigned fval) ∈ ts := by
  cases h with
  | @mk _ source options _ _ hoptions =>
    refine List.mem_append_left _ (List.mem_append_right _ ?_)
    generalize stmt.options = l at hoptions hdefel
    cases hoptions with
    | nil => cases hdefel
    | cons _ hlist =>
      obtain ⟨ts', hoption, hsubset⟩ := hlist.subset hdefel
      refine List.mem_append_left _ (List.mem_cons_of_mem _ (hsubset _ ?_))
      cases hoption with
      | name => cases harg
      | arg _ htokens =>
        cases harg
        cases htokens
        refine List.mem_cons_of_mem _ ?_
        unfold signed
        split
        · exact List.mem_cons_of_mem _ List.mem_cons_self
        · exact List.mem_cons_self

/-! ## The file -/

/-- A statement without a file is not for DuckDB. -/
theorem filename_of_copyIsAllowed {stmt : CopyStmt} {throw_error allowed : Bool}
    (h : copyIsAllowed b stmt throw_error = .ok allowed) (hor : throw_error = true ∨ allowed = true) :
    stmt.filename ≠ none := by
  intro hnone
  have hdisallowed : ∀ errmsg, (if throw_error = true then error_ errmsg else .ok false) ≠
      (.ok allowed : Except PgError Bool) := by
    intro errmsg herr
    split at herr
    next => cases herr
    next hno =>
      cases herr
      exact hor.elim hno Bool.false_ne_true
  unfold copyIsAllowed at h
  simp only [hnone] at h
  split at h
  · obtain ⟨relid, -, h⟩ := Lib.bind_eq_ok.1 h
    split at h
    · exact hdisallowed _ h
    · split at h
      · exact hdisallowed _ h
      · exact hdisallowed _ h
  · exact hdisallowed _ h

/-- A statement for DuckDB has a file. -/
theorem filename_of_forDuckdb {stmt : CopyStmt} {needs_duckdb_execution : Bool}
    (h : forDuckdb b stmt = .ok (true, needs_duckdb_execution)) : ∃ filename, stmt.filename = some filename := by
  refine Option.ne_none_iff_exists'.1 ?_
  obtain ⟨needs, -, h⟩ := Lib.bind_eq_ok.1 h
  split at h
  · obtain ⟨allowed, hallowed, -⟩ := Lib.bind_eq_ok.1 h
    exact filename_of_copyIsAllowed hallowed (.inl rfl)
  · split at h
    · obtain ⟨allowed, hallowed, heq⟩ := Lib.bind_eq_ok.1 h
      cases heq
      exact filename_of_copyIsAllowed hallowed (.inr rfl)
    · cases h

end

/-- The text for DuckDB is read as the given statement exactly if what goes into it as it is may do so. -/
theorem readsAsGiven_iff (D : DuckKeywords) (b : Backend) {stmt stmt' : CopyStmt} {text : Text}
    (hwf : WellFormed stmt) (hqueries : ReadsQueries b) (h : MakeDuckdbCopyQuery b stmt = .ok (some text, stmt')) :
    ReadsAsGiven D b stmt text ↔ Insertable D b stmt := by
  obtain ⟨needs_duckdb_execution, hfor, htext, -⟩ := MakeDuckdbCopyQuery_eq_some.1 h
  obtain ⟨source, options, hsource, hoptions, rfl⟩ := copyText_eq_some.1 htext
  obtain ⟨filename, hfilename⟩ := filename_of_forDuckdb hfor
  obtain ⟨sourceTs, hsourceTs⟩ := exists_isSource (D := D) hwf hqueries hsource
  have hknown := known_of_options hoptions
  have hreads : (∀ defel ∈ stmt.options, isWord defel.defname = true) →
      (∀ defel ∈ stmt.options, ∀ fval, defel.arg = some (.T_Float fval) → isNumber (unsigned fval) = true) →
      Duck.lex (assemble stmt source options) = some (.word "COPY".toList :: sourceTs ++
        [directionToken stmt, .str filename] ++ (optionsTokens b.K stmt.options ++ [.semicolon])) :=
    fun hwords hfloats =>
      (reads_assemble hfilename hsourceTs.reads (reads_AppendCreateCopyOptions hwords hfloats hoptions)).lex
  constructor
  · rintro ⟨⟨ts, hlex, htokens⟩, hnames⟩
    have hfloats : ∀ defel ∈ stmt.options, ∀ fval, defel.arg = some (.T_Float fval) →
        isNumber (unsigned fval) = true :=
      fun defel hdefel fval harg => Duck.isNumber_of_lex hlex _ (htokens.mem_of_float hdefel harg)
    have hwords := words_of_ownToken hfilename hsourceTs.reads hfloats hoptions hnames
    rw [hreads hwords hfloats] at hlex
    cases hlex
    obtain ⟨hsource', hoptions'⟩ := (copyTokens_iff hfilename hsourceTs).1 htokens
    obtain ⟨hdatabase, hcolumns⟩ := hsourceTs.iff.1 hsource'
    exact ⟨hwords, hfloats, (optionsTokens_iff hknown).1 hoptions', hdatabase, hcolumns⟩
  · rintro ⟨hwords, hfloats, hlists, hdatabase, hcolumns⟩
    refine ⟨⟨_, hreads hwords hfloats, (copyTokens_iff hfilename hsourceTs).2
      ⟨hsourceTs.iff.2 ⟨hdatabase, hcolumns⟩, (optionsTokens_iff hknown).2 hlists⟩⟩, ?_⟩
    intro before defel after w rest hsplit hrest heq
    have hmem : ∀ d ∈ before, d ∈ stmt.options := fun d hd => hsplit ▸ List.mem_append_left _ hd
    obtain ⟨w', rest', ts, hrest', heq', hrun⟩ := run_before hfilename hsourceTs.reads hsplit
      (fun d hd => hwords d (hmem d hd)) hfloats hoptions
    rw [hrest] at hrest'
    cases hrest'
    rw [heq'] at heq
    cases List.append_cancel_right heq
    exact (ownToken_iff hrun).2 (hwords defel (hsplit ▸ List.mem_append_right _ List.mem_cons_self))

/-- `COPY public.t TO '/tmp/t.parquet'`, with options. -/
def copyToParquet (options : List DefElem) : CopyStmt :=
  { copyToFile "public".toList with filename := some "/tmp/t.parquet".toList, options := options }

/-- Nothing is reserved by DuckDB alone. -/
def noKeywords : DuckKeywords := ⟨fun _ => false, fun _ => false⟩

/-- The option `compression 'zstd'`. -/
def compressionOption : DefElem := ⟨"compression".toList, some (.T_String "zstd".toList)⟩

/-- `COPY t TO '/tmp/t.parquet' (compression 'zstd')`. -/
theorem readsAsGiven_compression : ReadsAsGiven noKeywords backend (copyToParquet [compressionOption])
      "COPY my_db.main.t TO '/tmp/t.parquet' (compression 'zstd');".toList ↔
    Insertable noKeywords backend (copyToParquet [compressionOption]) := by
  have hwf : WellFormed (copyToParquet [compressionOption]) := fun raw_stmt hsource => nomatch hsource
  have hqueries : ReadsQueries backend := by
    intro query querydef h
    cases h
    exact ⟨[], .of_run rfl, rfl⟩
  exact readsAsGiven_iff noKeywords backend hwf hqueries rfl

/-- The option `"a 1, b" 2`, whose name has quotes. -/
def quotedOption : DefElem := ⟨"a 1, b".toList, some (.T_Integer 2)⟩

/-- The options `a 1` and `b 2`. -/
def twoOptions : List DefElem := [⟨"a".toList, some (.T_Integer 1)⟩, ⟨"b".toList, some (.T_Integer 2)⟩]

/-- The text for one option is read as a statement with two. -/
theorem not_readsAsGiven :
    MakeDuckdbCopyQuery backend (copyToParquet [quotedOption]) =
        .ok (some "COPY my_db.main.t TO '/tmp/t.parquet' (a 1, b 2);".toList, copyToParquet [quotedOption]) ∧
      (∃ ts, Duck.lex "COPY my_db.main.t TO '/tmp/t.parquet' (a 1, b 2);".toList = some ts ∧
        CopyTokens noKeywords backend (copyToParquet twoOptions) ts) ∧
      ¬ReadsAsGiven noKeywords backend (copyToParquet [quotedOption])
        "COPY my_db.main.t TO '/tmp/t.parquet' (a 1, b 2);".toList := by
  refine ⟨rfl, ?_, fun h => ?_⟩
  · have hsource : SourceTokens noKeywords backend (copyToParquet twoOptions)
        ([.word "my_db".toList] ++ [.dot, .word "main".toList, .dot, .word "t".toList] ++ []) :=
      .relation rfl rfl rfl (.inr ⟨rfl, rfl⟩) rfl rfl .nil
    have hfirst : OptionTokens noKeywords ⟨"a".toList, some (.T_Integer 1)⟩ (.word "a".toList :: _) :=
      .arg rfl .integer
    have hsecond : OptionTokens noKeywords ⟨"b".toList, some (.T_Integer 2)⟩ (.word "b".toList :: _) :=
      .arg rfl .integer
    have hoptions : OptionsTokens noKeywords twoOptions _ :=
      .cons (List.cons_ne_nil _ _) (.cons hfirst (.single hsecond))
    exact ⟨_, rfl, .mk rfl hsource hoptions⟩
  · have hrun : ∃ ts, lexRun .start "COPY my_db.main.t TO '/tmp/t.parquet' (".toList = some (ts, .start) :=
      ⟨_, rfl⟩
    obtain ⟨ts, hrun⟩ := hrun
    have hown := h.names [] quotedOption [] "COPY my_db.main.t TO '/tmp/t.parquet' (".toList "a 1, b 2);".toList
      rfl rfl rfl
    exact absurd ((ownToken_iff hrun).1 hown) (by decide)

end PgDuckdb.Copy
