import Mathlib.Logic.Encodable.Basic
import PgDuckdb.Pg.Strings
import PgDuckdb.Scan.Pushdown

/-!
# Literals between the two systems

A scan writes literals for PostgreSQL (`postgres_scan.cpp`), and `pgduckdb_get_querydef` writes literals
for DuckDB (`pgduckdb_ruleutils.cpp`). How PostgreSQL reads the first and writes the second is up to four
settings of the session, of which only `DateStyle` is pinned, and only on the way to DuckDB. `keepsValue_iff`
has the settings and constants whose literals keep their value: a backslash needs
`standard_conforming_strings`, an interval whose first part alone is negative must not be read in the
`sql_standard` style, DuckDB is given intervals in the `postgres` style only, and of a `bytea` it reads next
to nothing. A NUL ends the query for PostgreSQL wherever it stands.

An interval on its way to PostgreSQL is the list of the fields in its text. What PostgreSQL writes for dates,
timestamps and intervals, and how DuckDB reads these, is left open but for what `Systems` says.
-/

namespace PgDuckdb.Literals

open Pg (Text CString readString readLiteral quoted)
open Scan (ScalarFunction ToSQLString FuncArgToLikeString)

/-! ## Settings -/

/-- How intervals are written. -/
inductive IntervalStyle
  | postgres
  | postgres_verbose
  | sql_standard
  | iso_8601
  deriving DecidableEq, Repr

/-- How dates are written. -/
inductive DateFormat
  | ISO
  | SQL
  | Postgres
  | German
  deriving DecidableEq, Repr

/-- In which order the parts of a date stand. -/
inductive DateOrder
  | YMD
  | DMY
  | MDY
  deriving DecidableEq, Repr

/-- How dates and timestamps are written. -/
structure DateStyle where
  format : DateFormat
  order : DateOrder
  deriving DecidableEq, Repr

/-- How bytes are written. -/
inductive ByteaOutput
  | hex
  | escape
  deriving DecidableEq, Repr

/-- The settings of a session that are about literals. -/
structure Settings where
  standard_conforming_strings : Bool
  IntervalStyle : IntervalStyle
  DateStyle : DateStyle
  bytea_output : ByteaOutput
  deriving DecidableEq, Repr

/-! ## Intervals -/

/-- An interval. -/
structure Interval where
  months : Int
  days : Int
  micros : Int
  deriving DecidableEq, Repr

/-- A part of an interval that is written with a number. -/
inductive IntervalUnit
  | year
  | month
  | day
  | time
  deriving DecidableEq, Repr

/-- A field in the text of an interval. It has an explicit sign if the amount is negative. -/
structure IntervalField where
  unit : IntervalUnit
  amount : Int
  deriving DecidableEq, Repr

/-- The parts of an interval. -/
def intervalParts (i : Interval) : List IntervalField :=
  [⟨.year, i.months.tdiv 12⟩, ⟨.month, i.months.tmod 12⟩, ⟨.day, i.days⟩, ⟨.time, i.micros⟩]

/-- The fields that DuckDB writes. -/
def intervalFields (i : Interval) : List IntervalField :=
  let fields := (intervalParts i).filter (·.amount ≠ 0)
  if fields = [] then [⟨.time, 0⟩] else fields

/-- In the `sql_standard` style a leading minus sign is for all fields, if no other has a sign. -/
def forceNegative (style : IntervalStyle) : List IntervalField → Bool
  | [] => false
  | field :: rest => style = .sql_standard && field.amount < 0 && rest.all (0 ≤ ·.amount)

/-- The interval of a field. -/
def IntervalField.value (force_negative : Bool) (field : IntervalField) : Interval :=
  let val := if force_negative && 0 < field.amount then -field.amount else field.amount
  match field.unit with
  | .year => ⟨12 * val, 0, 0⟩
  | .month => ⟨val, 0, 0⟩
  | .day => ⟨0, val, 0⟩
  | .time => ⟨0, 0, val⟩

/-- The sum of two intervals. -/
def Interval.add (i j : Interval) : Interval := ⟨i.months + j.months, i.days + j.days, i.micros + j.micros⟩

/-- `DecodeInterval`. -/
def DecodeInterval (style : IntervalStyle) (fields : List IntervalField) : Interval :=
  (fields.map (·.value (forceNegative style fields))).foldl Interval.add ⟨0, 0, 0⟩

/-! ## Bytes -/

/-- A digit of the hexadecimal text. -/
def hexDigit (n : Nat) : Char := if n < 10 then Char.ofNat (48 + n) else Char.ofNat (87 + n)

/-- `byteaout`. -/
def byteaout (bytea_output : ByteaOutput) (b : List UInt8) : Text :=
  match bytea_output with
  | .hex => '\\' :: 'x' :: b.flatMap fun x => [hexDigit (x.toNat / 16), hexDigit (x.toNat % 16)]
  | .escape => b.flatMap fun x =>
    if x = 0x5c then ['\\', '\\']
    else if x < 0x20 ∨ 0x7e < x then
      ['\\', hexDigit (x.toNat / 64), hexDigit (x.toNat / 8 % 8), hexDigit (x.toNat % 8)]
    else [Char.ofNat x.toNat]

/-- How DuckDB reads a blob: escapes are `\x` with two digits, and everything else is ASCII. -/
def blob_in : Text → Option (List UInt8)
  | [] => some []
  | '\\' :: 'x' :: high :: low :: w => do
    let h ← Pg.hexValue high
    let l ← Pg.hexValue low
    let rest ← blob_in w
    some (UInt8.ofNat (16 * h + l) :: rest)
  | c :: w =>
    if c = '\\' ∨ 128 ≤ c.toNat then none
    else (blob_in w).map fun rest => UInt8.ofNat c.toNat :: rest

/-! ## What the two systems write and read -/

/-- `ISO, YMD`. -/
def DateStyle.ISO_YMD : DateStyle := ⟨.ISO, .YMD⟩

/-- The output functions of PostgreSQL and the readers of DuckDB: it reads dates in ISO order and intervals
in the `postgres` style. No such text has a backslash. -/
structure Systems where
  date_out : DateStyle → Int → Text
  timestamp_out : DateStyle → Int → Text
  interval_out : IntervalStyle → Interval → Text
  date_in : Text → Option Int
  timestamp_in : Text → Option Int
  interval_in : Text → Option Interval
  date_in_iso : ∀ d, date_in (date_out .ISO_YMD d) = some d
  timestamp_in_iso : ∀ t, timestamp_in (timestamp_out .ISO_YMD t) = some t
  interval_in_postgres : ∀ i, interval_in (interval_out .postgres i) = some i
  backslash_not_mem_date : ∀ style d, '\\' ∉ date_out style d
  backslash_not_mem_timestamp : ∀ style t, '\\' ∉ timestamp_out style t
  backslash_not_mem_interval : ∀ style i, '\\' ∉ interval_out style i

/-! ## On the way to DuckDB -/

/-- A `Const` of a query. -/
inductive Const
  | text (s : CString)
  | date (d : Int)
  | timestamp (t : Int)
  | interval (i : Interval)
  | bytea (b : List UInt8)
  deriving DecidableEq, Repr

/-- `format_type_with_typemod`. -/
def Const.typename : Const → Text
  | .text _ => "text".toList
  | .date _ => "date".toList
  | .timestamp _ => "timestamp without time zone".toList
  | .interval _ => "interval".toList
  | .bytea _ => "bytea".toList

/-- `SQL_STR_DOUBLE`. -/
def SQL_STR_DOUBLE (ch : Char) (escape_backslash : Bool) : Bool :=
  ch = '\'' || (ch = '\\' && escape_backslash)

/-- `simple_quote_literal`. -/
def simple_quote_literal (S : Settings) (val : Text) : Text :=
  '\'' :: (val.flatMap fun ch =>
    if SQL_STR_DOUBLE ch (!S.standard_conforming_strings) then [ch, ch] else [ch]) ++ ['\'']

section
variable (y : Systems)

/-- `OidOutputFunctionCall`. -/
def typoutput (S : Settings) : Const → Text
  | .text s => s.1
  | .date d => y.date_out S.DateStyle d
  | .timestamp t => y.timestamp_out S.DateStyle t
  | .interval i => y.interval_out S.IntervalStyle i
  | .bytea b => byteaout S.bytea_output b

/-- `get_const_expr`, of these types. -/
def get_const_expr (S : Settings) (constval : Const) : Text :=
  simple_quote_literal S (typoutput y S constval) ++ "::".toList ++ constval.typename

/-- A query, as its constants and the texts around them. -/
abbrev Query := List (Text ⊕ Const)

/-- `pgduckdb_pg_get_querydef_internal`. -/
def pgduckdb_pg_get_querydef_internal (S : Settings) (query : Query) : Text :=
  query.flatMap fun
    | .inl w => w
    | .inr constval => get_const_expr y S constval

/-- `pgduckdb_get_querydef`, with the settings that it leaves. -/
def pgduckdb_get_querydef (S : Settings) (query : Query) : Text × Settings :=
  let save := S
  let S := { S with DateStyle := .ISO_YMD }
  let result := pgduckdb_pg_get_querydef_internal y S query
  (result, save)

/-- What DuckDB makes of the string of a constant of this type. -/
def castString (type : Const) (s : Text) : Option Const :=
  match type with
  | .text _ => if h : '\x00' ∉ s then some (.text ⟨s, h⟩) else none
  | .date _ => (y.date_in s).map .date
  | .timestamp _ => (y.timestamp_in s).map .timestamp
  | .interval _ => (y.interval_in s).map .interval
  | .bytea _ => (blob_in s).map .bytea

/-- What DuckDB reads at the start of a text, if it is a literal that is labelled with this type. A
backslash stands for itself, and the text does not end at a NUL. -/
def readConst (type : Const) (w : Text) : Option Const := do
  let (s, rest) ← readLiteral true w
  if ("::".toList ++ type.typename) <+: rest then castString y type s else none

end

/-! ## On the way to PostgreSQL -/

/-- The pattern of a needle. -/
def likePattern : ScalarFunction → Text → Option Text
  | .contains, s => some ('%' :: Pg.escapeLike s ++ ['%'])
  | .suffix, s => some ('%' :: Pg.escapeLike s)
  | .prefix_, s => some (Pg.escapeLike s ++ ['%'])
  | _, _ => none

/-- PostgreSQL reads this literal as this string, whatever follows. -/
def ReadsAs (S : Settings) (literal s : Text) : Prop :=
  ∀ rest : Text, '\x00' ∉ rest → rest.head? ≠ some '\'' →
    readString S.standard_conforming_strings (literal ++ rest) = some (s, rest)

/-! ## What should hold -/

/-- A constant, and where it goes. -/
inductive Literal
  /-- In a comparison or an `IN` filter, or a constant of an expression. -/
  | varchar (s : Text)
  /-- The needle of a search that becomes `LIKE`. -/
  | needle (f : ScalarFunction) (s : Text)
  /-- In a comparison or an `IN` filter. -/
  | intervalFilter (i : Interval)
  /-- In a query for DuckDB. -/
  | const (constval : Const)

/-- A literal denotes its constant where it is read. -/
def Denotes (y : Systems) (S : Settings) : Literal → Prop
  | .varchar s => ReadsAs S (ToSQLString s) s
  | .needle f s => ∀ literal pattern, FuncArgToLikeString f (.constant (.varchar s)) = some literal →
      likePattern f s = some pattern → ReadsAs S literal pattern
  | .intervalFilter i => DecodeInterval S.IntervalStyle (intervalFields i) = i
  | .const constval => ∀ before after : Query,
      let result := (pgduckdb_get_querydef y S (before ++ .inr constval :: after)).1
      let start := (pgduckdb_get_querydef y S before).1.length
      readConst y constval (result.drop start) = some constval

/-- It does so by what is known of the two systems. -/
def KeepsValue (S : Settings) (l : Literal) : Prop := ∀ y, Denotes y S l

/-! ## When it holds -/

/-- Of the parts of an interval, which are its years, months, days and time, the first one is negative, and
no other is, but one is positive. -/
def OnlyFirstNegative (i : Interval) : Prop :=
  (i.months < 0 ∧ (i.months % 12 = 0 ∨ -12 < i.months) ∧ 0 ≤ i.days ∧ 0 ≤ i.micros ∧
    (0 < i.days ∨ 0 < i.micros)) ∨
  (i.months = 0 ∧ i.days < 0 ∧ 0 < i.micros)

/-- A byte that is written as itself. -/
def IsPlain (x : UInt8) : Prop := 0x20 ≤ x ∧ x ≤ 0x7e ∧ x ≠ 0x5c

/-- What the settings have to be for a constant. -/
def Holds (S : Settings) : Literal → Prop
  | .varchar s => (S.standard_conforming_strings = true ∨ '\\' ∉ s) ∧ '\x00' ∉ s
  | .const (.text s) => S.standard_conforming_strings = true ∨ '\\' ∉ s.1
  | .needle f s => likePattern f s = none ∨
      (S.standard_conforming_strings = true ∨ '\\' ∉ s ∧ '%' ∉ s ∧ '_' ∉ s) ∧ '\x00' ∉ s
  | .intervalFilter i => S.IntervalStyle ≠ .sql_standard ∨ ¬OnlyFirstNegative i
  | .const (.date _) | .const (.timestamp _) => True
  | .const (.interval _) => S.IntervalStyle = .postgres
  | .const (.bytea b) =>
    (S.bytea_output = .hex ∧ S.standard_conforming_strings = true ∧ b.length = 1) ∨
      (S.bytea_output = .escape ∧ ∀ x ∈ b, IsPlain x)

/-! ## Strings -/

/-- A string whose quotes are doubled. -/
theorem readsAs_quoted_iff {S : Settings} {s : Text} :
    ReadsAs S (quoted s) s ↔ (S.standard_conforming_strings = true ∨ '\\' ∉ s) ∧ '\x00' ∉ s :=
  Pg.readString_quoted_iff

/-- The backslashes of a pattern. -/
theorem mem_escapeLike {s : Text} : '\\' ∈ Pg.escapeLike s ↔ '\\' ∈ s ∨ '%' ∈ s ∨ '_' ∈ s := by
  simp only [Pg.escapeLike, List.mem_flatMap]
  constructor
  · rintro ⟨c, hc, hmem⟩
    split at hmem
    · next hspecial =>
      rcases hspecial with rfl | rfl | rfl
      · exact .inl hc
      · exact .inr (.inl hc)
      · exact .inr (.inr hc)
    · next hspecial =>
      rw [List.mem_singleton] at hmem
      exact absurd (.inl hmem.symm) hspecial
  · rintro (h | h | h)
    · exact ⟨_, h, by simp⟩
    · exact ⟨_, h, by simp⟩
    · exact ⟨_, h, by simp⟩

/-- The literal of a needle is its pattern with the quotes doubled. -/
theorem FuncArgToLikeString_eq {f : ScalarFunction} {s pattern : Text}
    (h : likePattern f s = some pattern) :
    FuncArgToLikeString f (.constant (.varchar s)) = some (quoted pattern) ∧
      ('\\' ∈ pattern ↔ '\\' ∈ Pg.escapeLike s) ∧ ('\x00' ∈ pattern ↔ '\x00' ∈ s) := by
  cases f with
  | contains | suffix | prefix_ =>
    cases h
    simp [FuncArgToLikeString, Scan.escapeNeedle_eq, quoted, Text.escapeQuotes_append,
      Text.escapeQuotes_cons_ne, Pg.nul_mem_escapeLike]
  | _ => cases h

/-- The needle of a search. -/
theorem denotes_needle_iff {y : Systems} {S : Settings} {f : ScalarFunction} {s : Text} :
    Denotes y S (.needle f s) ↔ Holds S (.needle f s) := by
  cases hpattern : likePattern f s with
  | none =>
    refine ⟨fun _ => .inl hpattern, fun _ literal pattern _ h => ?_⟩
    cases hpattern.symm.trans h
  | some pattern =>
    obtain ⟨hliteral, hmem, hnul⟩ := FuncArgToLikeString_eq hpattern
    have hiff : Denotes y S (.needle f s) ↔ ReadsAs S (quoted pattern) pattern := by
      constructor
      · intro h
        exact h _ _ hliteral hpattern
      · intro h literal pattern' hliteral' hpattern'
        cases hliteral.symm.trans hliteral'
        cases hpattern.symm.trans hpattern'
        exact h
    rw [hiff, readsAs_quoted_iff, hmem, hnul, mem_escapeLike]
    simp [Holds, hpattern]

/-! ## Searches -/

/-- The searches that become `LIKE`. -/
inductive Search
  | contains
  | prefix_
  | suffix
  deriving DecidableEq, Repr

namespace Search

/-- The function of a search. -/
def function : Search → ScalarFunction
  | contains => .contains
  | prefix_ => .prefix_
  | suffix => .suffix

/-- What DuckDB's function of this name finds. -/
def Finds (needle haystack : Text) : Search → Prop
  | contains => needle <:+: haystack
  | prefix_ => needle <+: haystack
  | suffix => needle <:+ haystack

/-- The pattern of a search. -/
def pattern (needle : Text) : Search → Text
  | contains => '%' :: Pg.escapeLike needle ++ ['%']
  | prefix_ => Pg.escapeLike needle ++ ['%']
  | suffix => '%' :: Pg.escapeLike needle

variable {needle haystack : Text}

/-- The pattern is the function's own. -/
theorem likePattern_function (search : Search) :
    likePattern search.function needle = some (search.pattern needle) := by
  cases search <;> rfl

/-- The pattern matches where the search finds something. -/
theorem likeMatch_pattern (search : Search) :
    Pg.likeMatch (some '\\') (search.pattern needle) haystack = true ↔ search.Finds needle haystack := by
  cases search with
  | contains => exact Pg.likeMatch_contains
  | prefix_ => exact Pg.likeMatch_startsWith
  | suffix => exact Pg.likeMatch_endsWith

end Search

/-- The literal of a search is one token to PostgreSQL, it is read back whatever follows it, and as a pattern it
matches exactly the strings in which the needle is found. -/
def Search.Matches (search : Search) (needle : Text) : Prop :=
  ∃ literal pattern, FuncArgToLikeString search.function (.constant (.varchar needle)) = some literal ∧
    Pg.lex (Pg.c_str literal) = some [.str pattern] ∧
    (∀ rest : Text, '\x00' ∉ rest → rest.head? ≠ some '\'' →
      readString true (literal ++ rest) = some (pattern, rest)) ∧
    ∀ haystack, Pg.likeMatch (some '\\') pattern haystack = true ↔ search.Finds needle haystack

/-- It is so exactly if the needle holds no NUL, which would end the query inside of the literal. -/
theorem FuncArgToLikeString_matches_iff (search : Search) (needle : Text) :
    search.Matches needle ↔ '\x00' ∉ needle := by
  obtain ⟨hliteral, -, hnul⟩ := FuncArgToLikeString_eq (@Search.likePattern_function needle search)
  have hlex : Pg.lex (Pg.c_str (quoted (search.pattern needle))) =
      if '\x00' ∈ needle then none else some [.str (search.pattern needle)] := by
    rw [Pg.lex_c_str (show Pg.lex (quoted (search.pattern needle)) = _ from Pg.lex_str)]
    simp only [Pg.nul_mem_quoted, hnul]
  constructor
  · rintro ⟨literal, pattern, hliteral', hread, -, -⟩ hmem
    obtain rfl : quoted (search.pattern needle) = literal := Option.some.inj (hliteral.symm.trans hliteral')
    rw [hlex, if_pos hmem] at hread
    cases hread
  · intro hmem
    refine ⟨quoted (search.pattern needle), search.pattern needle, hliteral, ?_, ?_, ?_⟩
    · rw [hlex, if_neg hmem]
    · exact Pg.readString_quoted_iff.2 ⟨.inl rfl, mt hnul.1 hmem⟩
    · intro haystack
      exact search.likeMatch_pattern

/-- `contains(a, chr(0))`. -/
theorem not_matches_nul : ¬Search.contains.Matches ['\x00'] := by
  rintro ⟨literal, pattern, hliteral, hlex, -⟩
  cases hliteral
  have hcut : Pg.lex (Pg.c_str ("'%".toList ++ Scan.escapeNeedle ['\x00'] ++ "%'".toList)) = none := rfl
  cases hcut.symm.trans hlex

/-! ## Intervals for PostgreSQL -/

/-- A part of the amount zero adds nothing. -/
theorem IntervalField.value_zero {force : Bool} {field : IntervalField} (h : field.amount = 0)
    (i : Interval) : i.add (field.value force) = i := by
  cases field with
  | mk unit amount =>
    dsimp only at h
    subst h
    cases unit <;> simp [IntervalField.value, Interval.add]

/-- Fields of zero add nothing. -/
theorem foldl_filter_amount (force : Bool) (fields : List IntervalField) (i : Interval) :
    ((fields.filter (·.amount ≠ 0)).map (·.value force)).foldl Interval.add i =
      (fields.map (·.value force)).foldl Interval.add i := by
  induction fields generalizing i with
  | nil => rfl
  | cons field fields ih =>
    by_cases hzero : field.amount = 0
    · rw [List.filter_cons_of_neg (by simpa using hzero), List.map_cons, List.foldl_cons,
        IntervalField.value_zero hzero, ih]
    · rw [List.filter_cons_of_pos (by simpa using hzero), List.map_cons, List.map_cons,
        List.foldl_cons, List.foldl_cons, ih]

/-- Years and months have the sign of all months together. -/
theorem months_split (n : Int) :
    12 * n.tdiv 12 + n.tmod 12 = n ∧ (0 ≤ n → 0 ≤ n.tdiv 12 ∧ 0 ≤ n.tmod 12) ∧
      (n ≤ 0 → n.tdiv 12 ≤ 0 ∧ n.tmod 12 ≤ 0) ∧ n.tmod 12 < 12 ∧ -12 < n.tmod 12 := by
  have hsum := Int.mul_tdiv_add_tmod n 12
  have hlt := Int.tmod_lt_of_pos n (show (0 : Int) < 12 by decide)
  have hneg := Int.lt_tmod_of_pos n (show (0 : Int) < 12 by decide)
  refine ⟨hsum, fun h => ⟨Int.tdiv_nonneg h (by decide), Int.tmod_nonneg 12 h⟩, fun h => ?_, hlt, hneg⟩
  have hdiv := Int.tdiv_nonneg (show 0 ≤ -n by omega) (show (0 : Int) ≤ 12 by decide)
  have hmod := Int.tmod_nonneg 12 (show 0 ≤ -n by omega)
  rw [Int.neg_tdiv] at hdiv
  rw [Int.neg_tmod] at hmod
  omega

/-- The sum of the fields of an interval, or of all of them negative. -/
theorem intervalFields_sum (force : Bool) (i : Interval) :
    ((intervalFields i).map (·.value force)).foldl Interval.add ⟨0, 0, 0⟩ =
      if force then ⟨-(i.months.natAbs : Int), -(i.days.natAbs : Int), -(i.micros.natAbs : Int)⟩
      else i := by
  have hall : ((intervalFields i).map (·.value force)).foldl Interval.add ⟨0, 0, 0⟩ =
      ((intervalParts i).map (·.value force)).foldl Interval.add ⟨0, 0, 0⟩ := by
    rw [← foldl_filter_amount force (intervalParts i), intervalFields]
    split
    · next hnil =>
      rw [hnil]
      exact IntervalField.value_zero (show (⟨.time, 0⟩ : IntervalField).amount = 0 from rfl) _
    · rfl
  obtain ⟨hmonths, hnonneg, hnonpos, -, -⟩ := months_split i.months
  rw [hall]
  cases force with
  | false =>
    obtain ⟨months, days, micros⟩ := i
    simp only [intervalParts, List.map_cons, List.map_nil, List.foldl_cons, List.foldl_nil,
      IntervalField.value, Interval.add, Bool.false_and, Bool.false_eq_true, if_false,
      Interval.mk.injEq]
    dsimp only at hmonths
    omega
  | true =>
    simp only [intervalParts, List.map_cons, List.map_nil, List.foldl_cons, List.foldl_nil,
      IntervalField.value, Interval.add, Bool.true_and, if_true, decide_eq_true_eq,
      Interval.mk.injEq]
    refine ⟨?_, ?_, ?_⟩
    · split <;> split <;> omega
    · split <;> omega
    · split <;> omega

/-- A sign is forced on an interval that is not all negative only where the SQL standard asks for it. -/
theorem forceNegative_iff {style : IntervalStyle} {i : Interval} :
    forceNegative style (intervalFields i) = true ∧
        ¬(i.months ≤ 0 ∧ i.days ≤ 0 ∧ i.micros ≤ 0) ↔
      style = .sql_standard ∧ OnlyFirstNegative i := by
  obtain ⟨hmonths, hnonneg, hnonpos, hlt, hneg⟩ := months_split i.months
  by_cases hstyle : style = .sql_standard
  · unfold intervalFields intervalParts OnlyFirstNegative
    generalize i.months.tdiv 12 = years at *
    generalize i.months.tmod 12 = months at *
    -- Which part is the first one, and which others there are.
    by_cases hyears : years = 0 <;> by_cases hmonths' : months = 0 <;> by_cases hdays : i.days = 0 <;>
      by_cases hmicros : i.micros = 0 <;>
      simp [hyears, hmonths', hdays, hmicros, hstyle, forceNegative] <;> omega
  · have hforce : ∀ fields, forceNegative style fields = false := by
      intro fields
      cases fields with
      | nil => rfl
      | cons field rest => simp [forceNegative, hstyle]
    simp [hforce, hstyle]

/-- Postgres reads an interval of DuckDB as it is, but for a leading minus sign in the `sql_standard`
style. -/
theorem denotes_intervalFilter_iff {y : Systems} {S : Settings} {i : Interval} :
    Denotes y S (.intervalFilter i) ↔ Holds S (.intervalFilter i) := by
  have hiff : forceNegative S.IntervalStyle (intervalFields i) = true ∧ _ ↔ _ := forceNegative_iff
  have hholds : Holds S (.intervalFilter i) ↔
      ¬(S.IntervalStyle = .sql_standard ∧ OnlyFirstNegative i) := by
    unfold Holds
    tauto
  rw [hholds, ← hiff]
  show (DecodeInterval S.IntervalStyle (intervalFields i) = i) ↔ _
  rw [DecodeInterval, intervalFields_sum]
  cases forceNegative S.IntervalStyle (intervalFields i) with
  | false => simp
  | true =>
    obtain ⟨months, days, micros⟩ := i
    simp only [if_true, Interval.mk.injEq, true_and, not_not]
    omega

/-! ## Constants for DuckDB -/

/-- The string that DuckDB reads of a literal: backslashes are doubled if they would be escapes for
PostgreSQL. -/
def written (S : Settings) (val : Text) : Text :=
  if S.standard_conforming_strings then val else Text.escapeQuotes '\\' val

/-- The literal is the text itself unless it holds a backslash that doubles. -/
theorem written_eq_self_iff {S : Settings} {val : Text} :
    written S val = val ↔ S.standard_conforming_strings = true ∨ '\\' ∉ val := by
  unfold written
  cases S.standard_conforming_strings with
  | true => simp
  | false => simp [Text.escapeQuotes_eq_self_iff]

/-- A literal is what the settings write, in quotes. -/
theorem simple_quote_literal_eq (S : Settings) (val : Text) :
    simple_quote_literal S val = quoted (written S val) := by
  have hbody : (val.flatMap fun ch =>
      if SQL_STR_DOUBLE ch (!S.standard_conforming_strings) then [ch, ch] else [ch]) =
        Text.escapeQuotes '\'' (written S val) := by
    unfold written
    induction val with
    | nil => simp
    | cons c val ih =>
      rw [List.flatMap_cons, ih]
      by_cases hquote : c = '\''
      · subst hquote
        cases S.standard_conforming_strings <;>
          simp [SQL_STR_DOUBLE, Text.escapeQuotes_cons_self, Text.escapeQuotes_cons_ne]
      · by_cases hback : c = '\\'
        · subst hback
          cases S.standard_conforming_strings <;>
            simp [SQL_STR_DOUBLE, Text.escapeQuotes_cons_self, Text.escapeQuotes_cons_ne]
        · cases S.standard_conforming_strings <;>
            simp [SQL_STR_DOUBLE, Text.escapeQuotes_cons_ne, hquote, hback]
  rw [simple_quote_literal, hbody, quoted]

/-- A constant of a query denotes what DuckDB makes of its string. -/
theorem denotes_const_iff {y : Systems} {S : Settings} {c : Const} :
    Denotes y S (.const c) ↔
      castString y c (written S (typoutput y { S with DateStyle := .ISO_YMD } c)) = some c := by
  have hread : ∀ before after : Query, readConst y c
      (((pgduckdb_get_querydef y S (before ++ .inr c :: after)).1).drop
        (pgduckdb_get_querydef y S before).1.length) =
      castString y c (written S (typoutput y { S with DateStyle := .ISO_YMD } c)) := by
    intro before after
    have hdrop : ((pgduckdb_get_querydef y S (before ++ .inr c :: after)).1).drop
        (pgduckdb_get_querydef y S before).1.length =
        quoted (written S (typoutput y { S with DateStyle := .ISO_YMD } c)) ++
          ("::".toList ++ c.typename ++ (pgduckdb_get_querydef y S after).1) := by
      simp only [pgduckdb_get_querydef, pgduckdb_pg_get_querydef_internal, List.flatMap_append,
        List.flatMap_cons, List.drop_left, get_const_expr, simple_quote_literal_eq, List.append_assoc]
      rfl
    have hhead : ("::".toList ++ c.typename ++ (pgduckdb_get_querydef y S after).1).head? ≠
        some '\'' := by simp
    rw [hdrop, readConst, Pg.readLiteral_quoted, Pg.readBody_quoted (.inl rfl) hhead]
    exact if_pos (List.prefix_append _ _)
  constructor
  · intro h
    rw [← hread [] []]
    exact h [] []
  · intro h before after
    exact (hread before after).trans h

/-! ## Bytes -/

/-- A hexadecimal digit has its value. -/
theorem hexValue_hexDigit {n : Nat} (h : n < 16) : Pg.hexValue (hexDigit n) = some n := by
  revert h n
  decide

/-- A hexadecimal digit is none of the characters that the reading stops at. -/
theorem hexDigit_plain {n : Nat} (h : n < 16) :
    hexDigit n ≠ '\\' ∧ hexDigit n ≠ 'x' ∧ (hexDigit n).toNat < 128 := by
  revert h n
  decide

/-- A character that is read as itself adds one byte. -/
theorem blob_in_cons {c : Char} {w : Text} (hne : c ≠ '\\') (hlt : c.toNat < 128) :
    blob_in (c :: w) = (blob_in w).map fun rest => UInt8.ofNat c.toNat :: rest := by
  rw [blob_in.eq_3 c w fun _ _ _ hc => absurd hc hne, if_neg]
  rintro (hc | hge)
  · exact hne hc
  · omega

/-- A backslash that starts no escape of DuckDB. -/
theorem blob_in_backslash {w : Text} (h : w.head? ≠ some 'x') : blob_in ('\\' :: w) = none := by
  rw [blob_in.eq_3 _ w, if_pos (.inl rfl)]
  rintro high low w' - rfl
  exact h rfl

/-- A text of ASCII characters without backslashes. -/
theorem blob_in_ascii {w : Text} (h : ∀ c ∈ w, c ≠ '\\' ∧ c.toNat < 128) :
    blob_in w = some (w.map fun c => UInt8.ofNat c.toNat) := by
  induction w with
  | nil => rfl
  | cons c w ih =>
    obtain ⟨hne, hlt⟩ := h c (List.mem_cons_self ..)
    rw [blob_in_cons hne hlt, ih fun d hd => h d (List.mem_cons_of_mem _ hd)]
    rfl

/-- The digits of a byte are one escape to DuckDB. -/
theorem blob_in_hex (x : UInt8) (w : Text) :
    blob_in ('\\' :: 'x' :: hexDigit (x.toNat / 16) :: hexDigit (x.toNat % 16) :: w) =
      (blob_in w).map (x :: ·) := by
  have hlt := x.toNat_lt
  rw [blob_in, hexValue_hexDigit (by omega), hexValue_hexDigit (by omega)]
  have hx : UInt8.ofNat (16 * (x.toNat / 16) + x.toNat % 16) = x := by
    rw [Nat.div_add_mod, UInt8.ofNat_toNat]
  simp only [Option.bind_eq_bind, Option.bind_some, hx]
  cases blob_in w <;> rfl

/-- A character below 128 has its own number. -/
theorem toNat_ofNat_ascii {n : Nat} (h : n < 128) : (Char.ofNat n).toNat = n := by
  revert h n
  decide

/-- A byte below 128 is written as the character of its number. -/
theorem isPlain_char {x : UInt8} (h : IsPlain x) :
    Char.ofNat x.toNat ≠ '\\' ∧ (Char.ofNat x.toNat).toNat = x.toNat ∧ x.toNat < 128 := by
  obtain ⟨-, hle, hne⟩ := h
  have hle : x.toNat ≤ 0x7e := by simpa [UInt8.le_iff_toNat_le] using hle
  have htoNat : (Char.ofNat x.toNat).toNat = x.toNat := toNat_ofNat_ascii (by omega)
  refine ⟨fun hc => hne ?_, htoNat, by omega⟩
  rw [hc] at htoNat
  exact UInt8.toNat_inj.1 htoNat.symm

/-- Every byte is two digits. -/
theorem length_hexDigits (b : List UInt8) :
    (b.flatMap fun x => [hexDigit (x.toNat / 16), hexDigit (x.toNat % 16)]).length =
      2 * b.length := by
  induction b with
  | nil => rfl
  | cons x b ih =>
    rw [List.flatMap_cons, List.length_append, ih, List.length_cons, List.length_cons,
      List.length_cons, List.length_nil]
    omega

/-- DuckDB reads hexadecimal output exactly of one byte. -/
theorem blob_in_byteaout_hex {b : List UInt8} :
    blob_in (byteaout .hex b) = some b ↔ b.length = 1 := by
  cases b with
  | nil =>
    have hnone : blob_in (byteaout .hex []) = none := by
      unfold byteaout
      rw [List.flatMap_nil, blob_in.eq_3 _ _ (by simp)]
      exact if_pos (.inl rfl)
    simp [hnone]
  | cons x b =>
    have hplain : ∀ c ∈ b.flatMap fun x => [hexDigit (x.toNat / 16), hexDigit (x.toNat % 16)],
        c ≠ '\\' ∧ c.toNat < 128 := by
      intro c hc
      obtain ⟨x, -, hc⟩ := List.mem_flatMap.1 hc
      have hlt := x.toNat_lt
      have hhigh := hexDigit_plain (show x.toNat / 16 < 16 by omega)
      have hlow := hexDigit_plain (show x.toNat % 16 < 16 by omega)
      rcases List.mem_cons.1 hc with rfl | hc
      · exact ⟨hhigh.1, hhigh.2.2⟩
      · rw [List.mem_singleton.1 hc]
        exact ⟨hlow.1, hlow.2.2⟩
    have hread : blob_in (byteaout .hex (x :: b)) = some (x :: (b.flatMap fun x =>
        [hexDigit (x.toNat / 16), hexDigit (x.toNat % 16)]).map fun c => UInt8.ofNat c.toNat) := by
      unfold byteaout
      rw [List.flatMap_cons, List.cons_append, List.singleton_append, blob_in_hex,
        blob_in_ascii hplain]
      rfl
    rw [hread, Option.some.injEq, List.cons.injEq, List.length_cons]
    constructor
    · rintro ⟨-, htail⟩
      have hlength := congrArg List.length htail
      rw [List.length_map, length_hexDigits] at hlength
      omega
    · intro hone
      have hnil : b = [] := List.length_eq_zero_iff.1 (by omega)
      subst hnil
      exact ⟨rfl, rfl⟩

/-- The text of one byte that is escaped starts with a backslash, and no `x` follows. -/
theorem byteaout_escaped {x : UInt8} (h : ¬IsPlain x) :
    ∃ c w, byteaout .escape [x] = '\\' :: c :: w ∧ c ≠ 'x' := by
  have hlt := x.toNat_lt
  unfold byteaout
  by_cases hback : x = 0x5c
  · exact ⟨'\\', [], by simp [hback], by decide⟩
  · have hrange : x < 0x20 ∨ 0x7e < x := by
      by_contra hnot
      rw [not_or, UInt8.not_lt, UInt8.not_lt] at hnot
      exact h ⟨hnot.1, hnot.2, hback⟩
    refine ⟨hexDigit (x.toNat / 64), [hexDigit (x.toNat / 8 % 8), hexDigit (x.toNat % 8)], ?_,
      (hexDigit_plain (by omega)).2.1⟩
    simp [hback, hrange]

/-- A written text is written part for part. -/
theorem written_append (S : Settings) (u v : Text) : written S (u ++ v) = written S u ++ written S v := by
  unfold written
  split
  · rfl
  · exact Text.escapeQuotes_append u v

/-- DuckDB reads escaped output, with its backslashes doubled or not, if no byte is escaped. -/
theorem blob_in_byteaout_escape {S : Settings} {b : List UInt8} :
    blob_in (written S (byteaout .escape b)) = some b ↔ ∀ x ∈ b, IsPlain x := by
  induction b with
  | nil =>
    have hnil : written S (byteaout .escape []) = [] := by unfold written; split <;> rfl
    simp [hnil, blob_in]
  | cons x b ih =>
    have hcons : written S (byteaout .escape (x :: b)) =
        written S (byteaout .escape [x]) ++ written S (byteaout .escape b) := by
      rw [← written_append]
      simp [byteaout]
    rw [hcons, List.forall_mem_cons, ← ih]
    by_cases hx : IsPlain x
    · obtain ⟨hne, htoNat, hlt⟩ := isPlain_char hx
      have hself : byteaout .escape [x] = [Char.ofNat x.toNat] := by
        obtain ⟨hge, hle, hback⟩ := hx
        have hrange : ¬(x < 0x20 ∨ 0x7e < x) := by
          rw [not_or, UInt8.not_lt, UInt8.not_lt]
          exact ⟨hge, hle⟩
        simp [byteaout, hback, hrange]
      have hwritten : written S [Char.ofNat x.toNat] = [Char.ofNat x.toNat] :=
        written_eq_self_iff.2 (.inr fun hmem => hne (List.mem_singleton.1 hmem).symm)
      rw [hself, hwritten, List.singleton_append, blob_in_cons hne (by omega), htoNat,
        UInt8.ofNat_toNat]
      cases blob_in (written S (byteaout .escape b)) <;> simp [hx]
    · obtain ⟨c, w, htext, hc⟩ := byteaout_escaped hx
      have hnone : blob_in (written S (byteaout .escape [x]) ++ written S (byteaout .escape b)) =
          none := by
        rw [htext]
        unfold written
        split
        · exact blob_in_backslash fun hhead => hc (Option.some.inj hhead)
        · rw [Text.escapeQuotes_cons_self]
          exact blob_in_backslash (by simp)
      rw [hnone]
      simp [hx]

/-- Hexadecimal output with its backslash doubled is no blob to DuckDB. -/
theorem blob_in_doubled (b : List UInt8) :
    blob_in (Text.escapeQuotes '\\' (byteaout .hex b)) = none := by
  unfold byteaout
  rw [Text.escapeQuotes_cons_self]
  exact blob_in_backslash (by simp)

/-- DuckDB reads next to no `bytea`. -/
theorem denotes_bytea_iff {y : Systems} {S : Settings} {b : List UInt8} :
    Denotes y S (.const (.bytea b)) ↔ Holds S (.const (.bytea b)) := by
  have hcast : ∀ s, castString y (.bytea b) s = some (.bytea b) ↔ blob_in s = some b := by
    intro s
    simp [castString]
  rw [denotes_const_iff, hcast]
  unfold typoutput Holds
  dsimp only
  cases S.bytea_output with
  | escape => simp [blob_in_byteaout_escape]
  | hex =>
    unfold written
    cases S.standard_conforming_strings with
    | true => simp [blob_in_byteaout_hex]
    | false => simp [blob_in_doubled]

/-! ## What is left open -/

/-- Systems that write numbers in unary, and intervals only in the `postgres` style. -/
def unarySystems : Systems where
  date_out _ d := List.replicate (Encodable.encode d) 'a'
  timestamp_out _ t := List.replicate (Encodable.encode t) 'a'
  interval_out style i :=
    if style = .postgres then List.replicate (Encodable.encode (i.months, i.days, i.micros)) 'a'
    else ['b']
  date_in s := Encodable.decode s.length
  timestamp_in s := Encodable.decode s.length
  interval_in s :=
    if s = ['b'] then none
    else (Encodable.decode s.length : Option (Int × Int × Int)).map fun p => ⟨p.1, p.2.1, p.2.2⟩
  date_in_iso d := by simp only [List.length_replicate, Encodable.encodek]
  timestamp_in_iso t := by simp only [List.length_replicate, Encodable.encodek]
  interval_in_postgres i := by
    have hne : ∀ n, List.replicate n 'a' ≠ ['b'] := by
      intro n h
      have hmem : 'b' ∈ List.replicate n 'a' := by
        rw [h]
        exact List.mem_singleton_self _
      exact absurd (List.eq_of_mem_replicate hmem) (by decide)
    rw [if_pos rfl, if_neg (hne _), List.length_replicate, Encodable.encodek]
    rfl
  backslash_not_mem_date _ d h := absurd (List.eq_of_mem_replicate h) (by decide)
  backslash_not_mem_timestamp _ t h := absurd (List.eq_of_mem_replicate h) (by decide)
  backslash_not_mem_interval style i h := by
    split at h
    · exact absurd (List.eq_of_mem_replicate h) (by decide)
    · exact absurd (List.mem_singleton.1 h) (by decide)

/-- Only the `postgres` style is known to be read. -/
theorem keepsValue_interval_iff {S : Settings} {i : Interval} :
    KeepsValue S (.const (.interval i)) ↔ Holds S (.const (.interval i)) := by
  constructor
  · intro h
    have hread := denotes_const_iff.1 (h unarySystems)
    by_contra hstyle
    have htext : typoutput unarySystems { S with DateStyle := .ISO_YMD } (.interval i) = ['b'] :=
      if_neg hstyle
    have hwritten : written S ['b'] = ['b'] := written_eq_self_iff.2 (.inr (by decide))
    rw [htext, hwritten] at hread
    cases hread
  · intro hstyle y
    have hstyle : S.IntervalStyle = .postgres := hstyle
    have hwritten : written S (y.interval_out S.IntervalStyle i) = y.interval_out S.IntervalStyle i :=
      written_eq_self_iff.2 (.inr (y.backslash_not_mem_interval _ _))
    rw [denotes_const_iff]
    show (y.interval_in (written S (y.interval_out S.IntervalStyle i))).map Const.interval = _
    rw [hwritten, hstyle, y.interval_in_postgres]
    rfl

/-- Dates are written in the style that is pinned. -/
theorem denotes_date {y : Systems} {S : Settings} (d : Int) : Denotes y S (.const (.date d)) := by
  have hwritten : written S (y.date_out .ISO_YMD d) = y.date_out .ISO_YMD d :=
    written_eq_self_iff.2 (.inr (y.backslash_not_mem_date _ _))
  rw [denotes_const_iff]
  show (y.date_in (written S (y.date_out .ISO_YMD d))).map Const.date = _
  rw [hwritten, y.date_in_iso]
  rfl

/-- Timestamps are, too. -/
theorem denotes_timestamp {y : Systems} {S : Settings} (t : Int) :
    Denotes y S (.const (.timestamp t)) := by
  have hwritten : written S (y.timestamp_out .ISO_YMD t) = y.timestamp_out .ISO_YMD t :=
    written_eq_self_iff.2 (.inr (y.backslash_not_mem_timestamp _ _))
  rw [denotes_const_iff]
  show (y.timestamp_in (written S (y.timestamp_out .ISO_YMD t))).map Const.timestamp = _
  rw [hwritten, y.timestamp_in_iso]
  rfl

/-- A text is written with its backslashes doubled, or not. -/
theorem denotes_text_iff {y : Systems} {S : Settings} {s : CString} :
    Denotes y S (.const (.text s)) ↔ Holds S (.const (.text s)) := by
  rw [denotes_const_iff]
  have hwritten : written S s.1 = s.1 ↔ Holds S (.const (.text s)) := written_eq_self_iff
  rw [← hwritten]
  unfold typoutput castString
  dsimp only
  split
  · rw [Option.some.injEq, Const.text.injEq, Subtype.ext_iff]
  · next hnul =>
    refine iff_of_false (fun h => nomatch h) fun h => hnul ?_
    rw [h]
    exact s.2

/-- The literal of a constant keeps its value exactly under these settings. -/
theorem keepsValue_iff (S : Settings) (l : Literal) : KeepsValue S l ↔ Holds S l := by
  have hall : (∀ y, Denotes y S l ↔ Holds S l) → (KeepsValue S l ↔ Holds S l) := fun h =>
    ⟨fun hkeeps => (h unarySystems).1 (hkeeps unarySystems), fun hholds y => (h y).2 hholds⟩
  cases l with
  | varchar s => exact hall fun _ => readsAs_quoted_iff
  | needle f s => exact hall fun _ => denotes_needle_iff
  | intervalFilter i => exact hall fun _ => denotes_intervalFilter_iff
  | const c =>
    cases c with
    | text s => exact hall fun _ => denotes_text_iff
    | date d => exact hall fun _ => iff_of_true (denotes_date d) trivial
    | timestamp t => exact hall fun _ => iff_of_true (denotes_timestamp t) trivial
    | interval i => exact keepsValue_interval_iff
    | bytea b => exact hall fun _ => denotes_bytea_iff

/-- The settings that PostgreSQL starts with. -/
def defaultSettings : Settings := ⟨true, .postgres, ⟨.ISO, .MDY⟩, .hex⟩

/-- A string with a backslash when `standard_conforming_strings` is off, and two bytes under the default
settings. -/
theorem not_keepsValue :
    ¬KeepsValue { defaultSettings with standard_conforming_strings := false }
        (.const (.text ⟨"foo\\bar".toList, by decide⟩)) ∧
      ¬KeepsValue defaultSettings (.const (.bytea [0xde, 0xad])) := by
  constructor
  · intro h
    rcases denotes_text_iff.1 (h unarySystems) with hon | hmem
    · cases hon
    · exact hmem (by decide)
  · intro h
    rcases denotes_bytea_iff.1 (h unarySystems) with ⟨-, -, hlength⟩ | ⟨hescape, -⟩
    · cases hlength
    · cases hescape

end PgDuckdb.Literals
