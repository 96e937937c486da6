import PgDuckdb.Deparse.CreateTable
import PgDuckdb.Deparse.AlterSplit

/-!
# When a table is made as it is

The text of `pgduckdb_get_tabledef` is read as the definition of the table exactly if the table has a column and no
name is a word of DuckDB's that PostgreSQL does not quote (`readsAsTable_iff`). The loop over the columns takes the
defaults from the front of their list, and each is the one with the number of the column (`columnTexts_eq`). After
that the text is a list of elements, each of which is read by itself.
-/

namespace PgDuckdb.CreateTable

open Pg (Text quote_identifier)
open Copy (Backend DuckKeywords NameTokens Spelled error_ pgduckdb_relation_name dbAndSchema nameToken nameTokens_iff
  readsName_quote_identifier not_digit_quote_identifier name?_nameToken pgduckdb_relation_name_eq_ok)
open AlterTable (Deparsed word)
open Duck (Token Reads Separated lexRun)

section
variable {Node : Type} {b : Backend} {E : Deparser Node} {D : DuckKeywords}

/-! ## Each column has its default -/

/-- The text of an element. -/
def elementText (b : Backend) (E : Deparser Node) : Element Node → Except PgError Text
  | .column column default_node => columnText b E column default_node
  | .check check_constraint => checkText b E check_constraint

/-- A column that was dropped has no text. -/
theorem columnTexts_dropped {column : Column} {columns : List Column} {defval : List (AttrDefault Node)}
    (h : column.attisdropped = true) : columnTexts b E (column :: columns) defval = columnTexts b E columns defval := by
  cases defval <;> simp only [columnTexts, h, if_true]

/-- A column without a default. -/
theorem columnTexts_plain {column : Column} {columns : List Column} {defval : List (AttrDefault Node)}
    (hdropped : column.attisdropped = false) (hhas : column.atthasdef = false) :
    columnTexts b E (column :: columns) defval = (do
      let text ← columnText b E column none
      let texts ← columnTexts b E columns defval
      return text :: texts) := by
  cases defval <;> simp only [columnTexts, hdropped, hhas, Bool.false_eq_true, if_false]

/-- A column with a default, which is taken off the list. -/
theorem columnTexts_default {column : Column} {columns : List Column} {default_value : AttrDefault Node}
    {defval : List (AttrDefault Node)} (hdropped : column.attisdropped = false) (hhas : column.atthasdef = true) :
    columnTexts b E (column :: columns) (default_value :: defval) = (do
      let text ← columnText b E column (some default_value.adbin)
      let texts ← columnTexts b E columns defval
      return text :: texts) := by
  simp only [columnTexts, hdropped, hhas, Bool.false_eq_true, if_true, if_false]

/-- The loop over the columns, from one on: the defaults that are left are those of the columns that are left. -/
theorem columnTexts_eq {relation : Relation Node} {i : ℕ} {columns : List Column}
    {defval : List (AttrDefault Node)} (haligned : defval.map (·.adnum) = defaultNumbers i columns)
    (hfind : ∀ n, i < n → relation.defaultOf n =
      (defval.find? fun default_value => default_value.adnum = n).map (·.adbin)) :
    columnTexts b E columns defval = (relation.columnElements i columns).mapM (elementText b E) := by
  induction columns generalizing i defval with
  | nil => rfl
  | cons column columns ih =>
    cases hdropped : column.attisdropped with
    | true =>
      have hnone : column.defaults = false := by simp [Column.defaults, hdropped]
      rw [defaultNumbers, if_neg (by simp [hnone])] at haligned
      rw [columnTexts_dropped hdropped, Relation.columnElements, if_pos hdropped]
      exact ih haligned fun n hn => hfind n (Nat.lt_of_succ_lt hn)
    | false =>
      have hnot : ¬column.attisdropped = true := by simp [hdropped]
      cases hhas : column.atthasdef with
      | false =>
        have hnone : column.defaults = false := by simp [Column.defaults, hhas]
        rw [defaultNumbers, if_neg (by simp [hnone])] at haligned
        rw [columnTexts_plain hdropped hhas, Relation.columnElements, if_neg hnot, List.mapM_cons,
          ih haligned fun n hn => hfind n (Nat.lt_of_succ_lt hn), hhas]
        rfl
      | true =>
        have hsome : column.defaults = true := by simp [Column.defaults, hdropped, hhas]
        rw [defaultNumbers, if_pos hsome] at haligned
        cases defval with
        | nil => cases haligned
        | cons default_value defval =>
          obtain ⟨hnum, hrest⟩ := List.cons.inj haligned
          have hthis : relation.defaultOf (i + 1) = some default_value.adbin := by
            rw [hfind (i + 1) (Nat.lt_succ_self i), List.find?_cons_of_pos (by simpa using hnum)]
            rfl
          have hlater : ∀ n, i + 1 < n → relation.defaultOf n =
              (defval.find? fun default_value => default_value.adnum = n).map (·.adbin) := by
            intro n hn
            have hne : ¬default_value.adnum = n := by
              intro heq
              exact absurd (hnum.symm.trans heq) (Nat.ne_of_lt hn)
            rw [hfind n (Nat.lt_of_succ_lt hn), List.find?_cons_of_neg (by simpa using hne)]
          rw [columnTexts_default hdropped hhas, Relation.columnElements, if_neg hnot, List.mapM_cons,
            ih hrest hlater, hhas, if_pos rfl, hthis]
          rfl

/-- All elements of a relation, one after the other. -/
theorem elementTexts_eq (relation : Relation Node) : (do
    let columns ← columnTexts b E relation.columns relation.defval
    let checks ← relation.check.mapM (checkText b E)
    return columns ++ checks) = relation.elements.mapM (elementText b E) := by
  rw [columnTexts_eq relation.aligned fun n _ => rfl, Relation.elements, List.mapM_append, List.mapM_map]
  rfl

/-! ## Each element is read by itself -/

/-- The tokens of a default that can be deparsed. -/
def defaultTokens (E : Deparser Node) : Option Node → List Token
  | none => []
  | some default_node =>
    match E.pgduckdb_deparse_expression default_node with
    | .ok d => word "DEFAULT" :: d.tokens
    | .error _ => []

/-- The tokens that an element is written as. -/
def elementTokens (b : Backend) (E : Deparser Node) : Element Node → List Token
  | .column column default_node =>
    [nameToken b.K column.attname] ++ (E.format_type_with_typemod column.atttypid column.atttypmod).tokens ++
      defaultTokens E default_node ++ notNullTokens column
  | .check check_constraint =>
    match E.pgduckdb_deparse_expression check_constraint.ccbin with
    | .ok d => word "CONSTRAINT" :: [nameToken b.K check_constraint.ccname] ++ [word "CHECK"] ++
        (.lparen :: d.tokens ++ [.rparen])
    | .error _ => []

/-- The name in an element. -/
def elementName : Element Node → Text
  | .column column _ => column.attname
  | .check check_constraint => check_constraint.ccname

/-- A text that is empty or starts with a blank. -/
def ReadsTail (w : Text) (ts : List Token) : Prop :=
  (w = [] ∧ ts = []) ∨ ∃ w', w = ' ' :: w' ∧ Reads w ts

/-- A tail that is read behind a text. -/
theorem reads_append_tail {w w' : Text} {ts ts' : List Token} (h : Reads w ts) (h' : ReadsTail w' ts') :
    Reads (w ++ w') (ts ++ ts') := by
  rcases h' with ⟨rfl, rfl⟩ | ⟨w'', rfl, h'⟩
  · rwa [List.append_nil, List.append_nil]
  · exact h.append h' rfl

/-- The tail about NULL is read. -/
theorem readsTail_notNull (column : Column) : ReadsTail (notNullText column) (notNullTokens column) := by
  unfold notNullText notNullTokens
  split
  · exact .inr ⟨_, rfl, _, _, _, rfl, rfl, rfl⟩
  · exact .inl ⟨rfl, rfl⟩

/-- The tail about the default is read. -/
theorem readsTail_default {column : Column} {default_node : Option Node} {text : Text}
    (h : defaultText E column default_node = .ok text) :
    ReadsTail (text ++ notNullText column) (defaultTokens E default_node ++ notNullTokens column) := by
  cases default_node with
  | none =>
    cases h
    exact readsTail_notNull column
  | some default_node =>
    obtain ⟨d, hd, h⟩ := Lib.bind_eq_ok.1 h
    rw [defaultTokens, hd]
    split at h
    · cases h
      refine .inr ⟨"DEFAULT ".toList ++ d.text ++ notNullText column, rfl, ?_⟩
      have hdefault : lexRun .start " DEFAULT ".toList = some ([word "DEFAULT"], .start) := rfl
      exact reads_append_tail (.after_run hdefault d.reads) (readsTail_notNull column)
    · split at h <;> cases h

/-- A written element is read as its tokens. -/
theorem reads_element {element : Element Node} {text : Text} (h : elementText b E element = .ok text) :
    Reads text (elementTokens b E element) := by
  cases element with
  | column column default_node =>
    obtain ⟨-, -, h⟩ := Lib.bind_eq_ok.1 h
    simp only at h
    split at h
    · cases h
    split at h
    · cases h
    obtain ⟨default_text, hdefault, h⟩ := Lib.bind_eq_ok.1 h
    split at h
    · cases h
    cases h
    have htype := (E.format_type_with_typemod column.atttypid column.atttypmod).reads
    have hrest := (reads_append_tail htype (readsTail_default hdefault)).space
    have hall := (@readsName_quote_identifier b.K column.attname).reads.append hrest rfl
    rw [elementTokens, List.append_assoc, List.append_assoc]
    exact hall
  | check check_constraint =>
    obtain ⟨d, hd, h⟩ := Lib.bind_eq_ok.1 h
    cases h
    rw [elementTokens, hd]
    have hconstraint : lexRun .start "CONSTRAINT ".toList = some ([word "CONSTRAINT"], .start) := rfl
    have hcheck : lexRun .start " CHECK ".toList = some ([word "CHECK"], .start) := rfl
    have hrest := Reads.after_run hcheck d.reads.paren
    have hname := (@readsName_quote_identifier b.K check_constraint.ccname).reads.append hrest rfl
    have hall := Reads.after_run hconstraint hname
    rw [← List.append_assoc, ← List.append_assoc] at hall
    exact hall

/-- The tokens of a default are its tokens. -/
theorem DefaultTokens.eq {default_node : Option Node} {ts : List Token} (h : DefaultTokens E default_node ts) :
    ts = defaultTokens E default_node := by
  cases h with
  | none => rfl
  | some hd => rw [defaultTokens, hd]

/-- A default that has a text has tokens. -/
theorem defaultTokens_of_ok {column : Column} {default_node : Option Node} {text : Text}
    (h : defaultText E column default_node = .ok text) :
    DefaultTokens E default_node (defaultTokens E default_node) := by
  cases default_node with
  | none => exact .none
  | some default_node =>
    obtain ⟨d, hd, -⟩ := Lib.bind_eq_ok.1 h
    rw [defaultTokens, hd]
    exact .some hd

/-- The default of a written column was deparsed. -/
theorem defaultTokens_of_columnText {column : Column} {default_node : Option Node} {text : Text}
    (h : columnText b E column default_node = .ok text) :
    DefaultTokens E default_node (defaultTokens E default_node) := by
  obtain ⟨-, -, h⟩ := Lib.bind_eq_ok.1 h
  simp only at h
  split at h
  · cases h
  split at h
  · cases h
  obtain ⟨default_text, hdefault, -⟩ := Lib.bind_eq_ok.1 h
  exact defaultTokens_of_ok hdefault

/-- A check that has a text has its expression's. -/
theorem checkText_eq_ok {check_constraint : ConstrCheck Node} {text : Text}
    (h : checkText b E check_constraint = .ok text) :
    ∃ d, E.pgduckdb_deparse_expression check_constraint.ccbin = .ok d := by
  obtain ⟨d, hd, -⟩ := Lib.bind_eq_ok.1 h
  exact ⟨d, hd⟩

/-- Its tokens are those of the element if its name needs no quotes. -/
theorem elementTokens_iff {element : Element Node} {text : Text} (h : elementText b E element = .ok text) :
    ElementTokens E D element (elementTokens b E element) ↔ Spelled b D.notColId (elementName element) := by
  cases element with
  | column column default_node =>
    constructor
    · intro htokens
      generalize hts : elementTokens b E (.column column default_node) = ts at htokens
      cases htokens with
      | column hname hdefault =>
        rw [hdefault.eq, elementTokens] at hts
        have hsame := List.append_cancel_right (List.append_cancel_right (List.append_cancel_right hts))
        exact nameTokens_iff.1 (hsame ▸ hname)
    · intro hspelled
      exact .column (nameTokens_iff.2 hspelled) (defaultTokens_of_columnText h)
  | check check_constraint =>
    obtain ⟨d, hd⟩ := checkText_eq_ok h
    have heq : elementTokens b E (.check check_constraint) = word "CONSTRAINT" ::
        [nameToken b.K check_constraint.ccname] ++ [word "CHECK"] ++ (.lparen :: d.tokens ++ [.rparen]) := by
      rw [elementTokens, hd]
    constructor
    · intro htokens
      generalize elementTokens b E (.check check_constraint) = ts at htokens heq
      cases htokens with
      | @check _ name d' hname hd' =>
        rw [hd] at hd'
        cases hd'
        have hsame := List.append_cancel_right (List.append_cancel_right heq)
        exact nameTokens_iff.1 ((List.cons.inj hsame).2 ▸ hname)
    · intro hspelled
      rw [heq]
      exact .check (nameTokens_iff.2 hspelled) hd

/-- An element has as many tokens as its own. -/
theorem ElementTokens.length {element : Element Node} {ts : List Token} (h : ElementTokens E D element ts) :
    ts.length = (elementTokens b E element).length := by
  cases h with
  | column hname hdefault => simp only [elementTokens, List.length_append, hname.length, hdefault.eq, List.length_singleton]
  | check hname hd =>
    simp only [elementTokens, hd, List.length_append, List.length_cons, hname.length, List.length_nil]

/-! ## The elements -/

/-- A relation has column elements just when it has a column. -/
theorem columnElements_ne_nil_iff {relation : Relation Node} {i : ℕ} {columns : List Column} :
    relation.columnElements i columns ≠ [] ↔ ∃ column ∈ columns, column.attisdropped = false := by
  induction columns generalizing i with
  | nil => simp [Relation.columnElements]
  | cons column columns ih =>
    rw [Relation.columnElements]
    cases hdropped : column.attisdropped with
    | true => simp [ih, hdropped]
    | false => simp [hdropped]

/-- What holds of the names of the columns. -/
theorem forall_columnElements_iff {relation : Relation Node} {i : ℕ} {columns : List Column} {P : Text → Prop} :
    (∀ element ∈ relation.columnElements i columns, P (elementName element)) ↔
      ∀ column ∈ columns, column.attisdropped = false → P column.attname := by
  induction columns generalizing i with
  | nil => simp [Relation.columnElements]
  | cons column columns ih =>
    rw [Relation.columnElements]
    cases hdropped : column.attisdropped with
    | true => simp [ih, hdropped]
    | false =>
      have hnot : ¬false = true := Bool.false_ne_true
      rw [if_neg hnot, List.forall_mem_cons, List.forall_mem_cons, ih, hdropped]
      simp only [elementName, forall_const]

/-- Every name of a relation is spelled just when its parts are. -/
theorem namesSpelled_iff {relation : Relation Node} {db_name schema_name : Text}
    (hdb : dbAndSchema b relation.oid = .ok (db_name, schema_name)) : NamesSpelled b D relation ↔
      Spelled b D.notColId db_name ∧
        ∀ element ∈ relation.elements, Spelled b D.notColId (elementName element) := by
  rw [Relation.elements, List.forall_mem_append, forall_columnElements_iff, List.forall_mem_map]
  constructor
  · intro h
    exact ⟨h.database _ _ hdb, h.columns, h.checks⟩
  · rintro ⟨hdatabase, hcolumns, hchecks⟩
    refine ⟨?_, hcolumns, hchecks⟩
    intro db_name' schema_name' hdb'
    rw [hdb] at hdb'
    cases hdb'
    exact hdatabase

/-! ## The statements -/

/-- The tokens of the schema of a relation. -/
theorem schemaTokens_iff {relation : Relation Node} {db_name schema_name : Text}
    (hdb : dbAndSchema b relation.oid = .ok (db_name, schema_name)) :
    SchemaTokens b D relation [nameToken b.K db_name, .dot, nameToken b.K schema_name] ↔
      Spelled b D.notColId db_name := by
  rw [← nameTokens_iff]
  constructor
  · intro h
    generalize hts : [nameToken b.K db_name, Token.dot, nameToken b.K schema_name] = ts at h
    cases h with
    | mk hdb' hdatabase hschema =>
      rw [hdb] at hdb'
      cases hdb'
      have hsplit : [nameToken b.K db_name] ++ [.dot, nameToken b.K schema_name] = _ := hts
      exact (List.append_inj hsplit hdatabase.length.symm).1 ▸ hdatabase
  · intro h
    exact .mk hdb h name?_nameToken

/-- The schema of a relation is two names and a dot. -/
theorem SchemaTokens.length {relation : Relation Node} {ts : List Token} (h : SchemaTokens b D relation ts) :
    ts.length = 3 := by
  cases h with
  | mk hdb hdatabase hschema => rw [List.length_append, hdatabase.length]; rfl

/-- What the function returns. -/
theorem pgduckdb_get_tabledef_eq_ok {MotherDuckPostgresUserOid : Oid} {relation : Relation Node} {text : Text}
    (h : pgduckdb_get_tabledef b E MotherDuckPostgresUserOid relation = .ok text) :
    ∃ db_name schema_name texts, dbAndSchema b relation.oid = .ok (db_name, schema_name) ∧
      relation.elements.mapM (elementText b E) = .ok texts ∧
      text = "CREATE SCHEMA IF NOT EXISTS ".toList ++ (quote_identifier b.K db_name ++ '.' ::
        quote_identifier b.K schema_name ++ ("; CREATE TABLE ".toList ++ (quote_identifier b.K db_name ++ '.' ::
          (quote_identifier b.K schema_name ++ '.' :: quote_identifier b.K (b.N.get_rel_name relation.oid)) ++
            ' ' :: ('(' :: ", ".toList.intercalate texts ++ [')'])))) := by
  obtain ⟨relation_name, hname, h⟩ := Lib.bind_eq_ok.1 h
  obtain ⟨db_name, schema_name, hdb, rfl⟩ := pgduckdb_relation_name_eq_ok.1 hname
  obtain ⟨⟨db_name', schema_name'⟩, hdb', h⟩ := Lib.bind_eq_ok.1 h
  rw [hdb] at hdb'
  cases hdb'
  simp only at h
  split at h
  · cases h
  split at h
  · cases h
  split at h
  · cases h
  split at h
  · cases h
  split at h
  · cases h
  split at h
  · cases h
  obtain ⟨columns, hcolumns, h⟩ := Lib.bind_eq_ok.1 h
  obtain ⟨checks, hchecks, h⟩ := Lib.bind_eq_ok.1 h
  split at h
  · cases h
  split at h
  · cases h
  refine ⟨db_name, schema_name, columns ++ checks, hdb, ?_, (Except.ok.inj h).symm⟩
  rw [← elementTexts_eq, hcolumns]
  change (relation.check.mapM (checkText b E) >>= _) = _
  rw [hchecks]
  rfl

/-- The tokens of the text. -/
def definitionTokens (b : Backend) (E : Deparser Node) (relation : Relation Node) (db_name schema_name : Text) :
    List Token :=
  [word "CREATE", word "SCHEMA", word "IF", word "NOT", word "EXISTS"] ++
    [nameToken b.K db_name, .dot, nameToken b.K schema_name] ++ [.semicolon, word "CREATE", word "TABLE"] ++
    [nameToken b.K db_name, .dot, nameToken b.K schema_name] ++
    [.dot, nameToken b.K (b.N.get_rel_name relation.oid)] ++
    (.lparen :: [Token.comma].intercalate (relation.elements.map (elementTokens b E)) ++ [.rparen])

/-- The elements are read, with commas between them. -/
theorem reads_elements {relation : Relation Node} {texts : List Text}
    (h : relation.elements.mapM (elementText b E) = .ok texts) : Reads (", ".toList.intercalate texts)
      ([Token.comma].intercalate (relation.elements.map (elementTokens b E))) := by
  refine .intercalate (.inr rfl) ?_
  rw [List.forall₂_map_right_iff]
  exact (Lib.mapM_eq_ok.1 h).flip.imp fun _ _ => reads_element

/-- The schema is read as its tokens. -/
theorem reads_schema {db_name schema_name : Text} :
    Reads (quote_identifier b.K db_name ++ '.' :: quote_identifier b.K schema_name)
      [nameToken b.K db_name, .dot, nameToken b.K schema_name] :=
  readsName_quote_identifier.dot readsName_quote_identifier.reads not_digit_quote_identifier

/-- The text is read as its tokens. -/
theorem reads_definition {relation : Relation Node} {db_name schema_name : Text} {texts : List Text}
    (h : relation.elements.mapM (elementText b E) = .ok texts) :
    Reads ("CREATE SCHEMA IF NOT EXISTS ".toList ++ (quote_identifier b.K db_name ++ '.' ::
        quote_identifier b.K schema_name ++ ("; CREATE TABLE ".toList ++ (quote_identifier b.K db_name ++ '.' ::
          (quote_identifier b.K schema_name ++ '.' :: quote_identifier b.K (b.N.get_rel_name relation.oid)) ++
            ' ' :: ('(' :: ", ".toList.intercalate texts ++ [')'])))))
      (definitionTokens b E relation db_name schema_name) := by
  have hcreate : lexRun .start "CREATE SCHEMA IF NOT EXISTS ".toList =
      some ([word "CREATE", word "SCHEMA", word "IF", word "NOT", word "EXISTS"], .start) := rfl
  have hsemicolon : "; CREATE TABLE ".toList = ';' :: " CREATE TABLE ".toList := rfl
  have htable : lexRun .start (';' :: " CREATE TABLE ".toList) =
      some ([.semicolon, word "CREATE", word "TABLE"], .start) := rfl
  have hname := @Copy.reads_relation b db_name schema_name (b.N.get_rel_name relation.oid) []
  rw [Copy.appendAttlist, List.isEmpty_nil, if_pos rfl, List.append_nil] at hname
  rw [hsemicolon]
  generalize "CREATE SCHEMA IF NOT EXISTS ".toList = create at hcreate ⊢
  generalize " CREATE TABLE ".toList = table at htable ⊢
  have hrest := Reads.after_run htable (hname.append (reads_elements h).paren.space rfl)
  have hall := Reads.after_run hcreate ((@reads_schema b db_name schema_name).append hrest rfl)
  exact hall

/-- They are the definition if there is a column and the names are as they have to be. -/
theorem definitionTokens_iff {relation : Relation Node} {db_name schema_name : Text} {texts : List Text}
    (hdb : dbAndSchema b relation.oid = .ok (db_name, schema_name))
    (h : relation.elements.mapM (elementText b E) = .ok texts) :
    DefinitionTokens b E D relation (definitionTokens b E relation db_name schema_name) ↔
      relation.columnElements 0 relation.columns ≠ [] ∧ NamesSpelled b D relation := by
  have hwritten : (∀ element ∈ relation.elements, ElementTokens E D element (elementTokens b E element)) ↔
      ∀ element ∈ relation.elements, Spelled b D.notColId (elementName element) := by
    refine forall₂_congr fun element helement => ?_
    obtain ⟨text, htext⟩ := Lib.exists_ok_of_mapM h helement
    exact elementTokens_iff htext
  rw [namesSpelled_iff hdb, ← schemaTokens_iff hdb, ← hwritten,
    ← Duck.separated_iff fun element _ ts hts => ElementTokens.length hts]
  constructor
  · intro htokens
    generalize hts : definitionTokens b E relation db_name schema_name = ts at htokens
    cases htokens with
    | mk hschema hschema' hrelname hcolumn helements =>
      obtain ⟨hhead, hparen⟩ := List.append_inj hts (by
        simp only [List.length_append, hschema.length, hschema'.length, List.length_cons, List.length_nil])
      obtain ⟨hhead, -⟩ := List.append_inj hhead (by
        simp only [List.length_append, hschema.length, hschema'.length, List.length_cons, List.length_nil])
      obtain ⟨-, hsame⟩ := List.append_inj hhead (by
        simp only [List.length_append, hschema.length, List.length_cons, List.length_nil])
      rw [hsame, Copy.paren_inj hparen]
      exact ⟨hcolumn, hschema', helements⟩
  · rintro ⟨hcolumn, hschema, helements⟩
    exact .mk hschema hschema name?_nameToken hcolumn helements

/-- A table is made in DuckDB with each of its columns and constraints, each column with its own default, exactly if
one of its columns has not been dropped and no name is a word that only DuckDB reserves. -/
theorem readsAsTable_iff {Node : Type} (b : Backend) (E : Deparser Node) (D : DuckKeywords)
    (MotherDuckPostgresUserOid : Oid) (relation : Relation Node) (text : Text)
    (h : pgduckdb_get_tabledef b E MotherDuckPostgresUserOid relation = .ok text) :
    ReadsAsTable b E D relation text ↔
      (∃ column ∈ relation.columns, column.attisdropped = false) ∧ NamesSpelled b D relation := by
  obtain ⟨db_name, schema_name, texts, hdb, htexts, rfl⟩ := pgduckdb_get_tabledef_eq_ok h
  rw [← @columnElements_ne_nil_iff _ relation 0, ← definitionTokens_iff hdb htexts]
  constructor
  · rintro ⟨ts, hlex, htokens⟩
    rw [(reads_definition htexts).lex] at hlex
    cases hlex
    exact htokens
  · intro htokens
    exact ⟨_, (reads_definition htexts).lex, htokens⟩

end

/-- A column of integers. -/
def integerColumn (attname : Text) (attisdropped atthasdef attnotnull : Bool) : Column :=
  ⟨attname, attisdropped, 23, -1, false, false, atthasdef, '\x00', attnotnull, 0⟩

/-- All types have one of DuckDB, and all expressions are `100`. -/
def hundreds : Deparser Unit where
  checkColumnType _ _ := .ok ()
  format_type_with_typemod _ _ := AlterTable.integer
  pgduckdb_deparse_expression _ := .ok AlterTable.hundred
  IsCLocale _ := false

/-- A column without a default, one that has been dropped, and one with a default. -/
def table_abc : Relation Unit where
  oid := 16384
  relkind := RELKIND_RELATION
  relispartition := false
  relpersistence := RELPERSISTENCE_PERMANENT
  relowner := 10
  fkeys := 0
  columns := [integerColumn "a".toList false false true, integerColumn "b".toList true false false,
    integerColumn "c".toList false true false]
  defval := [⟨3, ()⟩]
  check := [⟨"positive".toList, ()⟩]
  IsDuckdbTableAm := true
  rd_options := false
  aligned := rfl

/-- The statement for the table of the example, read. -/
theorem readsAsTable_abc : ReadsAsTable Copy.backend hundreds Copy.noKeywords table_abc
    ("CREATE SCHEMA IF NOT EXISTS my_db.main; CREATE TABLE my_db.main.t (a integer NOT NULL, ".toList ++
      "c integer DEFAULT 100, CONSTRAINT positive CHECK (100))".toList) := by
  have hspelled : ∀ name, Spelled Copy.backend Copy.noKeywords.notColId name := fun _ _ _ => rfl
  refine (readsAsTable_iff Copy.backend hundreds Copy.noKeywords 10 table_abc _ (by decide +kernel)).2 ⟨?_, ?_⟩
  · exact ⟨_, List.mem_cons_self, rfl⟩
  · exact ⟨fun db_name _ _ => hspelled db_name, fun column _ _ => hspelled column.attname,
      fun check_constraint _ => hspelled check_constraint.ccname⟩

end PgDuckdb.CreateTable
