import PgDuckdb.Scalars.ResultTypes
import PgDuckdb.Types.ConvertNumeric

/-!
# Scalars there and back

`ConvertDuckToPostgresValue` makes the datums of a slot from the values of a chunk. What was read from a column of
Postgres comes out of a vector as a value of the column's type in DuckDB, and the datum that is made of it is the one
that was read. Texts lose the blanks of `char(n)`, a `jsonb` is its text, and a `numeric` is the same number. What is
lost is lost for reasons given elsewhere: a bit string that does not fit into a `string_t`, a `numeric` whose last
digits do not fit into the type of its `DECIMAL`, and everything of type `"char"`.
-/

namespace PgDuckdb.Scalars

open Lib Lib.Bytes Chunks

/-! ## Values -/

/-- A scalar value of DuckDB. `JSON` is a `VARCHAR`. -/
inductive ScalarValue
  | BOOLEAN (value : Bool)
  | TINYINT (value : BitVec 8)
  | SMALLINT (value : BitVec 16)
  | INTEGER (value : BitVec 32)
  | BIGINT (value : BitVec 64)
  | UTINYINT (value : BitVec 8)
  | USMALLINT (value : BitVec 16)
  | UINTEGER (value : BitVec 32)
  | FLOAT (bits : BitVec 32)
  | DOUBLE (bits : BitVec 64)
  /-- `DECIMAL`, `HUGEINT`, `UBIGINT` or `UHUGEINT` -/
  | NUMERIC (value : Types.Value)
  | VARCHAR (text : List UInt8)
  | BLOB (data : List UInt8)
  | BIT (bits : List UInt8)
  | UUID (value : Types.hugeint_t)
  | DATE (value : BitVec 32)
  | TIMESTAMP (id : Types.TimestampType) (value : BitVec 64)
  | TIMESTAMP_TZ (value : BitVec 64)
  | INTERVAL (months days : BitVec 32) (micros : BitVec 64)
  | TIME (micros : BitVec 64)
  | TIME_TZ (bits : BitVec 64)

/-- The payload of a `DECIMAL` in memory. -/
def decimalOf (t : Types.DecimalType) (memory : List UInt8) : Option ScalarValue :=
  let payload := (BitVec.ofNat t.InternalType.int.bits (word memory)).toInt
  if h : t.InternalType.int.InRange payload then some (.NUMERIC ⟨.DECIMAL t, payload, h⟩) else none

/-- The value that an element of a vector is. -/
def Element.value (type : LogicalType) : Element → Option ScalarValue
  | .string text =>
    match type with
    | .JSON | .plain .VARCHAR => some (.VARCHAR text)
    | .plain .BLOB => some (.BLOB text)
    | .plain .BIT => some (.BIT text)
    | _ => none
  | .plain memory =>
    match type with
    | .DECIMAL t => decimalOf t memory
    | .NumericAsDouble | .plain .DOUBLE => some (.DOUBLE (.ofNat 64 (word memory)))
    | .plain .BOOLEAN => some (.BOOLEAN (word memory ≠ 0))
    | .plain .TINYINT => some (.TINYINT (.ofNat 8 (word memory)))
    | .plain .SMALLINT => some (.SMALLINT (.ofNat 16 (word memory)))
    | .plain .INTEGER => some (.INTEGER (.ofNat 32 (word memory)))
    | .plain .UINTEGER => some (.UINTEGER (.ofNat 32 (word memory)))
    | .plain .BIGINT => some (.BIGINT (.ofNat 64 (word memory)))
    | .plain .FLOAT => some (.FLOAT (.ofNat 32 (word memory)))
    | .plain .UUID => some (.UUID (.ofMemory memory))
    | .plain .DATE => some (.DATE (.ofNat 32 (word memory)))
    | .plain .TIMESTAMP => some (.TIMESTAMP .TIMESTAMP (.ofNat 64 (word memory)))
    | .plain .TIMESTAMP_SEC => some (.TIMESTAMP .TIMESTAMP_S (.ofNat 64 (word memory)))
    | .plain .TIMESTAMP_MS => some (.TIMESTAMP .TIMESTAMP_MS (.ofNat 64 (word memory)))
    | .plain .TIMESTAMP_NS => some (.TIMESTAMP .TIMESTAMP_NS (.ofNat 64 (word memory)))
    | .plain .TIMESTAMP_TZ => some (.TIMESTAMP_TZ (.ofNat 64 (word memory)))
    | .plain .INTERVAL => some (.INTERVAL (.ofNat 32 (word (memory.take 4)))
        (.ofNat 32 (word ((memory.drop 4).take 4))) (.ofNat 64 (word (memory.drop 8))))
    | .plain .TIME => some (.TIME (.ofNat 64 (word memory)))
    | .plain .TIME_TZ => some (.TIME_TZ (.ofNat 64 (word memory)))
    | _ => none

/-! ## The way back

The payload of a value is asked for as the type of the slot wants it. That is the type for the value's own, so that a
payload of another kind is never asked for. -/

/-- What the way back calls and is not in this repository. -/
structure Runtime where
  /-- `Value::ToString` of a bit string -/
  BitToString : List UInt8 → List UInt8
  StringToVarbit : List UInt8 → List UInt8
  /-- `dtime_tz_t::time` -/
  time : BitVec 64 → BitVec 64
  /-- `dtime_tz_t::offset` -/
  offset : BitVec 64 → BitVec 32

/-- A datum, or the number that `CreateNumeric` makes one of. -/
inductive Returned
  | datum (value : Datum)
  | numeric (var : Types.NumericVar)

section
variable (E : External) (R : Runtime)

/-- A bit string for Postgres, by way of its text. -/
def ConvertVarbitDatum : ScalarValue → Datum
  | .BIT bits => .varlena (R.StringToVarbit (R.BitToString bits))
  | _ => .varlena []

/-- A boolean for Postgres. -/
def ConvertBoolDatum : ScalarValue → Datum
  | .BOOLEAN value => .word (if value then 1 else 0)
  | _ => .word 0

/-- A character for Postgres. -/
def ConvertCharDatum : ScalarValue → Datum
  | .TINYINT value => .word (value.signExtend 64)
  | _ => .word 0

/-- A 16-bit integer for Postgres. -/
def ConvertInt2Datum : ScalarValue → Datum
  | .UTINYINT value => .word (value.setWidth 64)
  | .SMALLINT value => .word (value.signExtend 64)
  | .TINYINT value => .word (value.signExtend 64)
  | _ => .word 0

/-- A 32-bit integer for Postgres. -/
def ConvertInt4Datum : ScalarValue → Datum
  | .USMALLINT value => .word (value.setWidth 64)
  | .INTEGER value => .word (value.signExtend 64)
  | _ => .word 0

/-- A 64-bit integer for Postgres. -/
def ConvertInt8Datum : ScalarValue → Datum
  | .UINTEGER value => .word (value.setWidth 64)
  | .BIGINT value => .word value
  | _ => .word 0

/-- A text for Postgres. -/
def ConvertToStringDatum : ScalarValue → Datum
  | .VARCHAR text => .varlena text
  | _ => .varlena []

/-- A byte string for Postgres. -/
def ConvertBinaryDatum : ScalarValue → Datum
  | .BLOB data => .varlena data
  | _ => .varlena []

/-- A date for Postgres. -/
def ConvertDateDatum : ScalarValue → Except ConvertException Datum
  | .DATE date =>
    match Types.ConvertDateDatum E.headers date with
    | .ok date => .ok (.word (date.signExtend 64))
    | .error e => .error (.OutOfRange e)
  | _ => .ok (.word 0)

/-- A timestamp for Postgres. -/
def ConvertTimestampDatum : ScalarValue → Except ConvertException Datum
  | .TIMESTAMP id rawValue =>
    match Types.ConvertTimestampDatum E.headers id rawValue with
    | .ok timestamp => .ok (.word timestamp)
    | .error e => .error (.OutOfRange e)
  | _ => .ok (.word 0)

/-- A timestamp with time zone for Postgres. -/
def ConvertTimestampTzDatum : ScalarValue → Except ConvertException Datum
  | .TIMESTAMP_TZ rawValue =>
    match Types.ConvertTimestampTzDatum E.headers rawValue with
    | .ok timestamp => .ok (.word timestamp)
    | .error e => .error (.OutOfRange e)
  | _ => .ok (.word 0)

/-- An interval for Postgres. -/
def ConvertIntervalDatum : ScalarValue → Datum
  | .INTERVAL months days micros => .interval months days micros
  | _ => .interval 0 0 0

/-- A time of day for Postgres. -/
def ConvertTimeDatum : ScalarValue → Datum
  | .TIME micros => .word micros
  | _ => .word 0

/-- The two systems count the offset in opposite directions. -/
def ConvertTimeTzDatum : ScalarValue → Datum
  | .TIME_TZ bits => .timetz (R.time bits) (-R.offset bits)
  | _ => .timetz 0 0

/-- A float for Postgres. -/
def ConvertFloatDatum : ScalarValue → Datum
  | .FLOAT bits => .word (bits.signExtend 64)
  | _ => .word 0

/-- A double for Postgres. -/
def ConvertDoubleDatum : ScalarValue → Datum
  | .DOUBLE bits => .word bits
  | _ => .word 0

/-- The datum of a `DOUBLE` would be no `numeric`, but the slot of a `DOUBLE` is none. -/
def ConvertNumericDatum : ScalarValue → Except ConvertException Returned
  | .DOUBLE bits => .ok (.datum (ConvertDoubleDatum (.DOUBLE bits)))
  | .NUMERIC value =>
    match (Types.ConvertNumericDatum value).result with
    | .ok var => .ok (.numeric var)
    | .error text => .error (.Internal text)
  | _ => .error .NotImplemented

/-- A UUID for Postgres. -/
def ConvertUUIDDatum : ScalarValue → Datum
  | .UUID value => .uuid (Types.ConvertUUIDDatum value)
  | _ => .uuid (Types.ConvertUUIDDatum ⟨0, 0⟩)

/-- The cases of scalars. -/
def ConvertDuckToPostgresValue (oid : Oid) (value : ScalarValue) : Except ConvertException Returned :=
  if oid ∈ [BITOID, VARBITOID] then .ok (.datum (ConvertVarbitDatum R value))
  else if oid = BOOLOID then .ok (.datum (ConvertBoolDatum value))
  else if oid = CHAROID then .ok (.datum (ConvertCharDatum value))
  else if oid = INT2OID then .ok (.datum (ConvertInt2Datum value))
  else if oid = INT4OID then .ok (.datum (ConvertInt4Datum value))
  else if oid = INT8OID then .ok (.datum (ConvertInt8Datum value))
  else if oid ∈ [BPCHAROID, TEXTOID, JSONOID, VARCHAROID] then .ok (.datum (ConvertToStringDatum value))
  else if oid = DATEOID then (ConvertDateDatum E value).map .datum
  else if oid = TIMESTAMPOID then (ConvertTimestampDatum E value).map .datum
  else if oid = TIMESTAMPTZOID then (ConvertTimestampTzDatum E value).map .datum
  else if oid = INTERVALOID then .ok (.datum (ConvertIntervalDatum value))
  else if oid = TIMEOID then .ok (.datum (ConvertTimeDatum value))
  else if oid = TIMETZOID then .ok (.datum (ConvertTimeTzDatum R value))
  else if oid = FLOAT4OID then .ok (.datum (ConvertFloatDatum value))
  else if oid = FLOAT8OID then .ok (.datum (ConvertDoubleDatum value))
  else if oid = NUMERICOID then ConvertNumericDatum value
  else if oid = UUIDOID then .ok (.datum (ConvertUUIDDatum value))
  else if oid = BYTEAOID then .ok (.datum (ConvertBinaryDatum value))
  else .error .NotImplemented

end

/-! ## The same again -/

/-- The bytes of zeros and ones. -/
def BitDigits (text : List UInt8) : Prop := text ≠ [] ∧ ∀ c ∈ text, c = 48 ∨ c = 49

/-- How the two systems document what is called: a bit string is written as it was read, and the parts of a
`TIME_TZ` are those that it was made of. -/
structure Runtime.Documented (E : External) (R : Runtime) : Prop where
  varbit : ∀ text, BitDigits text → E.VarbitToString (R.StringToVarbit text) = text
  bit : ∀ text, BitDigits text → R.BitToString (E.ToBit text) = text
  time : ∀ (micros : BitVec 64) (offset : BitVec 32), micros.toNat ≤ 86400000000 → |offset.toInt| ≤ 57599 →
    R.time (E.encode_micros micros ||| E.encode_offset offset) = micros
  offset : ∀ (micros : BitVec 64) (offset : BitVec 32), micros.toNat ≤ 86400000000 → |offset.toInt| ≤ 57599 →
    R.offset (E.encode_micros micros ||| E.encode_offset offset) = offset

section
variable (E : External) (R : Runtime)

/-- A datum of a type of Postgres that is read as a type of DuckDB. -/
def Held (type : LogicalType) (value : Datum) : Prop :=
  match type with
  | .DECIMAL t => ∃ n, value = .numeric n ∧ Types.Admitted t (Types.FromNumeric n)
  | .JSON | .plain .VARCHAR | .plain .BLOB => ∃ data, value = .varlena data
  | .plain .BIT => ∃ text, BitDigits text ∧ value = .varlena (R.StringToVarbit text)
  | .plain .BOOLEAN => value = .word 0 ∨ value = .word 1
  | .plain .SMALLINT => ∃ x : BitVec 16, value = .word (x.signExtend 64)
  | .plain .INTEGER | .plain .FLOAT => ∃ x : BitVec 32, value = .word (x.signExtend 64)
  | .plain .DATE => ∃ x : BitVec 32, value = .word (x.signExtend 64) ∧ Types.IsDate E.headers x
  | .plain .BIGINT | .plain .DOUBLE | .plain .TIME | .plain .TIMESTAMP | .plain .TIMESTAMP_TZ => ∃ x, value = .word x
  | .plain .INTERVAL => ∃ month day time, value = .interval month day time
  | .plain .TIME_TZ => ∃ time zone, value = .timetz time zone ∧ time.toNat ≤ 86400000000 ∧ |zone.toInt| ≤ 57599
  | .plain .UUID => ∃ u, value = .uuid u
  | _ => True

/-- A text of bits fits into a `string_t`, and the last digits of a number into the type that it is stored in. -/
def Fitting (type : LogicalType) (value : Datum) : Prop :=
  match type with
  | .plain .BIT => (E.ToBit (DatumGetBitString E value)).length ≤ string_t.INLINE_LENGTH
  | .DECIMAL t => ∀ payload : ℤ, (payload : ℚ) = (Types.FromNumeric value.GetNumeric).toRat * 10 ^ t.scale →
      Types.Fits t.InternalType payload t.scale
  | _ => True

/-- The text of a `jsonb`, a `char(n)` without the blanks at its end, and all other texts as they are. -/
def shown (attr_type : Oid) (value : Datum) : List UInt8 :=
  if attr_type = JSONBOID then E.JsonbToCString value.VARDATA_ANY
  else if attr_type = BPCHAROID then value.VARDATA_ANY.rdropWhile (· = 32)
  else value.VARDATA_ANY

/-- What a datum comes back as. -/
def Same (attr_type : Oid) (type : LogicalType) (value : Datum) (result : Returned) : Prop :=
  match type with
  | .DECIMAL t => ∃ var, result = .numeric var ∧ var.dscale = t.scale ∧
      var.toRat = (Types.FromNumeric value.GetNumeric).toRat
  | .NumericAsDouble => ∃ bits, E.ConvertDecimalDouble (Types.FromNumeric value.GetNumeric) = .ok bits ∧
      result = .datum (.word bits)
  | .JSON | .plain .VARCHAR => result = .datum (.varlena (shown E attr_type value))
  | _ => result = .datum value

end

section
variable {E : External} {R : Runtime} {attr_type oid : Oid} {type : LogicalType} {value : Datum} {w : Written}
variable {ToString : DuckType → String} {S : Session} {throw_error : Bool}

/-- What is read of a datum that was written, and what is returned of that. -/
def Returns (E : External) (R : Runtime) (oid : Oid) (type : LogicalType) (element : Option Element)
    (result : Returned) : Prop :=
  ∃ v, element.bind (Element.value type) = some v ∧ ConvertDuckToPostgresValue E R oid v = .ok result

/-- Bytes give the word back that they are of. -/
theorem ofNat_word_bytes {n k : ℕ} (h : 2 ^ n = 256 ^ k) (x : BitVec n) :
    BitVec.ofNat n (word (bytes k x.toNat)) = x := by
  rw [word_bytes (h ▸ x.isLt), BitVec.ofNat_toNat, BitVec.setWidth_eq]

/-- A word that was extended is the same in its own width. -/
theorem setWidth_signExtend {n : ℕ} (hn : n ≤ 64) (x : BitVec n) : (x.signExtend 64).setWidth n = x := by
  ext i hi
  rw [BitVec.getElem_setWidth, BitVec.getLsbD_signExtend, if_pos hi, decide_eq_true (by omega), Bool.true_and,
    BitVec.getLsbD_eq_getElem]

/-! ### Numbers -/

section
variable {t : Types.DecimalType} {v : Types.NumericVar} {number : ℤ}

/-- A number that its column admits fits the type that it is stored as. -/
theorem admitted_inRange (h : Types.Admitted t v) (hn : (number : ℚ) = v.toRat * 10 ^ t.scale) :
    t.InternalType.int.InRange number := by
  obtain ⟨m, hm, hm₀, hlt⟩ := h.units
  have hmT : t.InternalType.int.InRange m :=
    Types.PhysicalType.inRange_of_le hm₀ (hlt.le.trans (pow_le_pow_right₀ (by omega) t.width_le_decimals))
  have habs : |number| = m := by
    have hpos : (0 : ℚ) < 10 ^ t.scale := by positivity
    have hq : ((|number| : ℤ) : ℚ) = m := by
      rw [Int.cast_abs, hn, abs_mul, Types.abs_toRat h.proper, abs_of_pos hpos, hm]
    exact_mod_cast hq
  rcases abs_choice number with hsign | hsign
  · rw [← hsign, habs]
    exact hmT
  · rw [← neg_neg number, ← hsign, habs]
    exact t.inRange_neg hm₀ hmT

/-- A decimal in memory is the integer that it was converted to. -/
theorem decimal_word (h : AppendDecimal t value = .ok w)
    (hn : (Types.ConvertPostgresToDuckValue t value.GetNumeric).result = .ok number) :
    ∃ memory, w = .plain memory ∧ BitVec.ofNat t.InternalType.int.bits (word memory) =
      BitVec.ofInt t.InternalType.int.bits number := by
  unfold AppendDecimal at h
  rw [hn] at h
  cases hT : t.InternalType with
  | INT16 | INT32 | INT64 | INT128 =>
    rw [hT] at h
    cases h
    exact ⟨_, rfl, ofNat_word_bytes (by decide) _⟩
  | UINT64 | UINT128 =>
    rw [hT] at h
    cases h

/-- The types of decimals have a sign. -/
theorem InternalType_signed (t : Types.DecimalType) : t.InternalType.int.signed = true := by
  unfold Types.DecimalType.InternalType
  split_ifs <;> rfl

/-- A number that fits is the same in two's complement. -/
theorem toInt_ofInt {T : IntType} (hsigned : T.signed = true) (hT : T.InRange number) :
    (BitVec.ofInt T.bits number).toInt = number := by
  obtain ⟨hmin, hbound⟩ := hT
  have hpow : (2 : ℤ) ^ T.bits = 2 ^ (T.bits - 1) * 2 := by rw [← pow_succ, Nat.sub_add_cancel T.bits_pos]
  rw [IntType.min, if_pos hsigned] at hmin
  rw [IntType.bound, if_pos hsigned] at hbound
  rw [BitVec.toInt_ofInt]
  refine Int.bmod_eq_of_le ?_ ?_
  · rw [Nat.cast_pow, Nat.cast_ofNat, hpow]
    omega
  · rw [Nat.cast_pow, Nat.cast_ofNat, hpow]
    omega

/-- A numeric is converted as its digits are. -/
theorem ConvertNumericDatum_NUMERIC {x : Types.Value} {var : Types.NumericVar}
    (h : (Types.ConvertNumericDatum x).result = .ok var) : ConvertNumericDatum (.NUMERIC x) = .ok (.numeric var) := by
  rw [ConvertNumericDatum, h]

/-- The decimal that is read is the number in units of its scale. -/
theorem decimal_read (h : AppendDecimal t value = .ok w)
    (hadm : Types.Admitted t (Types.FromNumeric value.GetNumeric)) :
    ∃ (memory : List UInt8) (number : ℤ) (hT : t.InternalType.int.InRange number), w = .plain memory ∧
      decimalOf t memory = some (.NUMERIC ⟨.DECIMAL t, number, hT⟩) ∧
      (number : ℚ) = (Types.FromNumeric value.GetNumeric).toRat * 10 ^ t.scale := by
  obtain ⟨number, hclean, hn⟩ := Types.clean_of_admitted hadm
  have hT := admitted_inRange hadm hn
  obtain ⟨memory, hw, hword⟩ := decimal_word h hclean.result_eq
  have hpayload : (BitVec.ofNat t.InternalType.int.bits (word memory)).toInt = number := by
    rw [hword, toInt_ofInt (InternalType_signed t) hT]
  refine ⟨memory, number, hT, hw, ?_, hn⟩
  unfold decimalOf
  simp only [hpayload]
  exact dif_pos hT

/-- What is appended to a decimal column comes back as the same value. -/
theorem decimal_returned (h : AppendDecimal t value = .ok w) (hheld : Held E R (.DECIMAL t) value)
    (hfit : Fitting E (.DECIMAL t) value) : ∃ result, Returns E R NUMERICOID (.DECIMAL t) w.readBack result ∧
      Same E attr_type (.DECIMAL t) value result := by
  obtain ⟨n, rfl, hadm⟩ := hheld
  obtain ⟨memory, number, hT, rfl, hread, hn⟩ := decimal_read h hadm
  obtain ⟨var, hclean, hden⟩ := Types.clean_of_fits (t.scale_le.trans t.width_le_decimals) hT (hfit number hn)
  refine ⟨.numeric var, ⟨_, hread, ConvertNumericDatum_NUMERIC hclean.result_eq⟩, var, rfl, hden.dscale_eq, ?_⟩
  rw [hden.toRat_eq, hn, mul_div_assoc, div_self (by positivity), mul_one]

end

/-! ### The cases -/

/-- A text is added to the heap. -/
theorem textOf_eq : textOf E attr_type value = .added (shown E attr_type value) := by
  unfold textOf shown
  rw [AppendString_eq]
  simp only [decide_eq_true_eq]
  split
  next => rfl
  next => rfl

/-- What is appended to a text column comes back as the text that is shown. -/
theorem text_returned (hid : type.id = .VARCHAR) (hoid : oid ∈ [BPCHAROID, TEXTOID, JSONOID, VARCHAROID])
    (h : convert E attr_type type value = .ok w) :
    Returns E R oid type w.readBack (.datum (.varlena (shown E attr_type value))) := by
  have hw : w = .added (shown E attr_type value) := (Except.ok.inj (h.symm.trans (convert_text hid))).trans textOf_eq
  rw [hw]
  refine ⟨.VARCHAR (shown E attr_type value), ?_, ?_⟩
  · cases type with
    | plain id =>
      have hid : id = .VARCHAR := hid
      rw [hid]
      rfl
    | JSON => rfl
    | NumericAsDouble | DECIMAL | LIST | Unsupported => cases hid
  · simp only [List.mem_cons, List.not_mem_nil, or_false] at hoid
    rcases hoid with rfl | rfl | rfl | rfl <;> rfl

/-- What is appended to a column of doubles comes back as the double. -/
theorem double_returned (h : AppendNumericAsDouble E value = .ok w) :
    ∃ bits, E.ConvertDecimalDouble (Types.FromNumeric value.GetNumeric) = .ok bits ∧
      Returns E R FLOAT8OID .NumericAsDouble w.readBack (.datum (.word bits)) := by
  unfold AppendNumericAsDouble at h
  split at h
  next bits hbits =>
    cases h
    refine ⟨bits, hbits, .DOUBLE bits, ?_, rfl⟩
    show some (ScalarValue.DOUBLE _) = _
    rw [ofNat_word_bytes (by decide)]
  next => cases h

/-- A date that means the same to both systems. -/
theorem date_returned (hH : E.headers.Documented) {x : BitVec 32} (hx : Types.IsDate E.headers x)
    (h : appendDate E (.word (x.signExtend 64)) = .ok w) :
    Returns E R DATEOID (.plain .DATE) w.readBack (.datum (.word (x.signExtend 64))) := by
  have hint : (Datum.word (x.signExtend 64)).GetInt32 = x := setWidth_signExtend (by decide) x
  unfold appendDate at h
  rw [hint] at h
  cases hdate : Types.AppendDate E.headers x with
  | error e =>
    rw [hdate] at h
    cases h
  | ok date =>
    rw [hdate] at h
    cases h
    have hback := (Types.ConvertDateDatum_ok hH).2 ((Types.AppendDate_ok hH hx).1 hdate)
    refine ⟨.DATE date, ?_, ?_⟩
    · show some (ScalarValue.DATE _) = _
      rw [ofNat_word_bytes (by decide)]
    · show (ConvertDateDatum E (.DATE date)).map _ = _
      rw [ConvertDateDatum, hback]
      rfl

/-- An instant that is appended is written as its eight bytes. -/
theorem instant_written {x : BitVec 64} {append : BitVec 64 → Except Types.OutOfRangeException (BitVec 64)}
    (h : appendInstant append (.word x) = .ok w) : ∃ v, append x = .ok v ∧ w = .plain (bytes 8 v.toNat) := by
  unfold appendInstant at h
  split at h
  next v hv =>
    cases h
    exact ⟨v, hv, rfl⟩
  next => cases h

/-- An instant that means the same to both systems. -/
theorem timestamp_returned (hH : E.headers.Documented) {x : BitVec 64}
    (h : appendInstant (Types.AppendTimestamp E.headers) (.word x) = .ok w) :
    Returns E R TIMESTAMPOID (.plain .TIMESTAMP) w.readBack (.datum (.word x)) := by
  obtain ⟨v, hv, rfl⟩ := instant_written h
  have hback : Types.ConvertTimestampDatum E.headers .TIMESTAMP v = .ok x :=
    (Types.convertInstant_ok hH).2 ((Types.appendInstant_ok hH).1 hv)
  refine ⟨.TIMESTAMP .TIMESTAMP v, ?_, ?_⟩
  · exact congrArg (fun x => some (ScalarValue.TIMESTAMP .TIMESTAMP x)) (ofNat_word_bytes (by decide) v)
  · show (ConvertTimestampDatum E (.TIMESTAMP .TIMESTAMP v)).map _ = _
    rw [ConvertTimestampDatum, hback]
    rfl

/-- A timestamp with time zone comes back as it was. -/
theorem timestamp_tz_returned (hH : E.headers.Documented) {x : BitVec 64}
    (h : appendInstant (Types.AppendTimestampTz E.headers) (.word x) = .ok w) :
    Returns E R TIMESTAMPTZOID (.plain .TIMESTAMP_TZ) w.readBack (.datum (.word x)) := by
  obtain ⟨v, hv, rfl⟩ := instant_written h
  have hback : Types.ConvertTimestampTzDatum E.headers v = .ok x :=
    (Types.convertInstant_ok hH).2 ((Types.appendInstant_ok hH).1 hv)
  refine ⟨.TIMESTAMP_TZ v, ?_, ?_⟩
  · exact congrArg (fun x => some (ScalarValue.TIMESTAMP_TZ x)) (ofNat_word_bytes (by decide) v)
  · show (ConvertTimestampTzDatum E (.TIMESTAMP_TZ v)).map _ = _
    rw [ConvertTimestampTzDatum, hback]
    rfl

/-- A time of day with its zone comes back as it was. -/
theorem time_tz_returned (hR : R.Documented E) {time : BitVec 64} {zone : BitVec 32}
    (htime : time.toNat ≤ 86400000000) (hzone : |zone.toInt| ≤ 57599) :
    Returns E R TIMETZOID (.plain .TIME_TZ)
      (some (.plain (bytes 8 (DatumGetTimeTz E (.timetz time zone)).toNat))) (.datum (.timetz time zone)) := by
  have hneg : |(-zone).toInt| ≤ 57599 := by
    rw [abs_le] at hzone ⊢
    rw [BitVec.toInt_neg]
    have hmod : (-zone.toInt).bmod (2 ^ 32) = -zone.toInt := Int.bmod_eq_of_le (by omega) (by omega)
    omega
  refine ⟨.TIME_TZ (DatumGetTimeTz E (.timetz time zone)), ?_, ?_⟩
  · show some (ScalarValue.TIME_TZ _) = _
    rw [ofNat_word_bytes (by decide)]
  · show Except.ok (Returned.datum (.timetz (R.time (E.encode_micros time ||| E.encode_offset (-zone)))
      (-R.offset (E.encode_micros time ||| E.encode_offset (-zone))))) = _
    rw [hR.time time (-zone) htime hneg, hR.offset time (-zone) htime hneg, BitVec.neg_neg]

/-- An interval comes back as it was. -/
theorem interval_returned (month day : BitVec 32) (time : BitVec 64) :
    Returns E R INTERVALOID (.plain .INTERVAL) (some (.plain (DatumGetInterval (.interval month day time))))
      (.datum (.interval month day time)) := by
  refine ⟨.INTERVAL month day time, ?_, rfl⟩
  have hmonth : (DatumGetInterval (.interval month day time)).take 4 = bytes 4 month.toNat := by
    rw [DatumGetInterval, List.append_assoc, List.take_left' length_bytes]
  have hday : ((DatumGetInterval (.interval month day time)).drop 4).take 4 = bytes 4 day.toNat := by
    rw [DatumGetInterval, List.append_assoc, List.drop_left' length_bytes, List.take_left' length_bytes]
  have htime : (DatumGetInterval (.interval month day time)).drop 8 = bytes 8 time.toNat := by
    rw [DatumGetInterval, List.drop_left' (by rw [List.length_append, length_bytes, length_bytes])]
  show some (ScalarValue.INTERVAL _ _ _) = _
  rw [hmonth, hday, htime, ofNat_word_bytes (by decide), ofNat_word_bytes (by decide), ofNat_word_bytes (by decide)]

/-- Sixteen bytes of a number give it back. -/
theorem ofMemory_memory (x : Types.hugeint_t) : Types.hugeint_t.ofMemory x.memory = x := by
  unfold Types.hugeint_t.ofMemory Types.hugeint_t.memory
  rw [List.take_left' length_bytes, List.drop_left' length_bytes, ofNat_word_bytes (by decide),
    ofNat_word_bytes (by decide)]

/-- A UUID comes back as it was. -/
theorem uuid_returned (u : Types.pg_uuid_t) : Returns E R UUIDOID (.plain .UUID)
    (some (.plain (Datum.uuid u).GetUUID.memory)) (.datum (.uuid u)) := by
  refine ⟨.UUID (Types.DatumGetUUID u), congrArg (fun x => some (ScalarValue.UUID x)) (ofMemory_memory _), ?_⟩
  show Except.ok (Returned.datum (.uuid (Types.ConvertUUIDDatum (Types.DatumGetUUID u)))) = _
  rw [Types.ConvertUUIDDatum_DatumGetUUID]

/-- Bits are written as Postgres wrote them. -/
theorem bit_returned (hR : R.Documented E) {text : List UInt8} (htext : BitDigits text)
    (hfit : Fitting E (.plain .BIT) (.varlena (R.StringToVarbit text))) :
    Returns E R VARBITOID (.plain .BIT)
      (Written.temporary (E.ToBit (DatumGetBitString E (.varlena (R.StringToVarbit text))))).readBack
      (.datum (.varlena (R.StringToVarbit text))) := by
  refine ⟨.BIT (E.ToBit text), ?_, ?_⟩
  · have hbits : DatumGetBitString E (.varlena (R.StringToVarbit text)) = text := hR.varbit text htext
    have hfit : (E.ToBit (DatumGetBitString E (.varlena (R.StringToVarbit text)))).length ≤
      string_t.INLINE_LENGTH := hfit
    rw [Written.readBack, if_pos hfit, hbits]
    rfl
  · show Except.ok (Returned.datum (.varlena (R.StringToVarbit (R.BitToString (E.ToBit text))))) = _
    rw [hR.bit text htext]

/-- A value of a type that is kept comes back as what it was. -/
theorem value_returned (hR : R.Documented E) (hH : E.headers.Documented) (hkept : type.duckType.KeptScalar)
    (hoid : GetPostgresDuckDBType ToString S type.duckType throw_error = .ok oid)
    (hheld : Held E R type value) (hfit : Fitting E type value) (h : convert E attr_type type value = .ok w) :
    ∃ result, Returns E R oid type w.readBack result ∧ Same E attr_type type value result := by
  cases type with
  | LIST child => cases h
  | Unsupported message => cases h
  | DECIMAL t =>
    cases hoid
    exact decimal_returned h hheld hfit
  | NumericAsDouble =>
    cases hoid
    obtain ⟨bits, hbits, hr⟩ := double_returned (R := R) h
    exact ⟨_, hr, bits, hbits, rfl⟩
  | JSON =>
    cases hoid
    exact ⟨_, text_returned rfl (by decide) h, rfl⟩
  | plain id =>
    cases id with
    | INVALID | DECIMAL | LIST | STRUCT | UNION | MAP => cases h
    | TINYINT | UINTEGER | TIMESTAMP_SEC | TIMESTAMP_MS | TIMESTAMP_NS => cases hkept
    | VARCHAR =>
      cases hoid
      exact ⟨_, text_returned rfl (by decide) h, rfl⟩
    | BLOB =>
      cases hoid
      cases h
      obtain ⟨data, rfl⟩ := hheld
      exact ⟨_, ⟨.BLOB data, rfl, rfl⟩, rfl⟩
    | BIT =>
      cases hoid
      cases h
      obtain ⟨text, htext, rfl⟩ := hheld
      exact ⟨_, bit_returned hR htext hfit, rfl⟩
    | BOOLEAN =>
      cases hoid
      cases h
      rcases hheld with rfl | rfl
      · exact ⟨_, ⟨.BOOLEAN false, rfl, rfl⟩, rfl⟩
      · exact ⟨_, ⟨.BOOLEAN true, rfl, rfl⟩, rfl⟩
    | SMALLINT =>
      cases hoid
      cases h
      obtain ⟨x, rfl⟩ := hheld
      refine ⟨_, ⟨.SMALLINT x, ?_, rfl⟩, rfl⟩
      have hx : (Datum.word (x.signExtend 64)).GetInt16 = x := setWidth_signExtend (by decide) x
      show some (ScalarValue.SMALLINT _) = _
      rw [hx, ofNat_word_bytes (by decide)]
    | INTEGER =>
      cases hoid
      cases h
      obtain ⟨x, rfl⟩ := hheld
      refine ⟨_, ⟨.INTEGER x, ?_, rfl⟩, rfl⟩
      have hx : (Datum.word (x.signExtend 64)).GetInt32 = x := setWidth_signExtend (by decide) x
      show some (ScalarValue.INTEGER _) = _
      rw [hx, ofNat_word_bytes (by decide)]
    | FLOAT =>
      cases hoid
      cases h
      obtain ⟨x, rfl⟩ := hheld
      refine ⟨_, ⟨.FLOAT x, ?_, rfl⟩, rfl⟩
      have hx : (Datum.word (x.signExtend 64)).GetInt32 = x := setWidth_signExtend (by decide) x
      show some (ScalarValue.FLOAT _) = _
      rw [hx, ofNat_word_bytes (by decide)]
    | BIGINT =>
      cases hoid
      cases h
      obtain ⟨x, rfl⟩ := hheld
      exact ⟨_, ⟨.BIGINT x, congrArg (fun x => some (ScalarValue.BIGINT x)) (ofNat_word_bytes (by decide) x), rfl⟩, rfl⟩
    | DOUBLE =>
      cases hoid
      cases h
      obtain ⟨x, rfl⟩ := hheld
      exact ⟨_, ⟨.DOUBLE x, congrArg (fun x => some (ScalarValue.DOUBLE x)) (ofNat_word_bytes (by decide) x), rfl⟩, rfl⟩
    | TIME =>
      cases hoid
      cases h
      obtain ⟨x, rfl⟩ := hheld
      exact ⟨_, ⟨.TIME x, congrArg (fun x => some (ScalarValue.TIME x)) (ofNat_word_bytes (by decide) x), rfl⟩, rfl⟩
    | TIME_TZ =>
      cases hoid
      cases h
      obtain ⟨time, zone, rfl, htime, hzone⟩ := hheld
      exact ⟨_, time_tz_returned hR htime hzone, rfl⟩
    | INTERVAL =>
      cases hoid
      cases h
      obtain ⟨month, day, time, rfl⟩ := hheld
      exact ⟨_, interval_returned month day time, rfl⟩
    | UUID =>
      cases hoid
      cases h
      obtain ⟨u, rfl⟩ := hheld
      exact ⟨_, uuid_returned u, rfl⟩
    | DATE =>
      cases hoid
      obtain ⟨x, rfl, hx⟩ := hheld
      exact ⟨_, date_returned hH hx h, rfl⟩
    | TIMESTAMP =>
      cases hoid
      obtain ⟨x, rfl⟩ := hheld
      exact ⟨_, timestamp_returned hH h, rfl⟩
    | TIMESTAMP_TZ =>
      cases hoid
      obtain ⟨x, rfl⟩ := hheld
      exact ⟨_, timestamp_tz_returned hH h, rfl⟩

end

/-! ## The rows of a column -/

/-- A type that keeps its values is not a character. -/
theorem kept_ne_tinyint {type : LogicalType} (h : type.duckType.KeptScalar) : type.id ≠ .TINYINT := by
  cases type with
  | plain id =>
    rintro (hid : id = .TINYINT)
    rw [hid] at h
    cases h
  | JSON | NumericAsDouble | DECIMAL | LIST | Unsupported =>
    intro hid
    cases hid

/-- What is read of a row that was written to a vector, and returned to a slot, is the same again. -/
theorem rows_returned (E : External) (R : Runtime) (ToString : DuckType → String) (S : Session) (throw_error : Bool)
    (attr_type oid : Oid) (type : LogicalType) (values : List Datum) (vec : Vector) (i : ℕ) (value : Datum)
    (hR : R.Documented E) (hH : E.headers.Documented) (hkept : type.duckType.KeptScalar)
    (hoid : GetPostgresDuckDBType ToString S type.duckType throw_error = .ok oid)
    (hrun : convertRows E attr_type type values .new 0 = .ok vec) (hi : values[i]? = some value)
    (hheld : Held E R type value) (hfit : Fitting E type value) :
    ∃ result, Returns E R oid type (vec.elementAt type i) result ∧ Same E attr_type type value result := by
  obtain ⟨ws, hws, rfl⟩ := convertRows_eq_ok_iff.1 hrun
  obtain ⟨w, hw, hconv⟩ := forall₂_getElem? hws hi
  have hmatch : ∀ w ∈ ws, w.Matches type := by
    intro w hw
    obtain ⟨value, hc⟩ := forall₂_mem_right hws hw
    exact convert_matches hc (kept_ne_tinyint hkept)
  have hread := @writeRows_elementAt type .new w i 0 ws hmatch hw
  rw [Nat.zero_add] at hread
  rw [hread]
  exact value_returned hR hH hkept hoid hheld hfit hconv

/-! ## Two rows -/

/-- Bit strings play no part here. -/
def clocks : External := { runtime with VarbitToString := id, ToBit := id }

/-- A runtime whose functions are the identity, with times as DuckDB packs them. -/
def decoded : Runtime where
  BitToString := id
  StringToVarbit := id
  time := fun bits => bits >>> 24
  offset := fun bits => 57599 - (bits &&& 0xFFFFFF).setWidth 32

/-- The micros stand before the offset. -/
theorem encoded_toNat {micros : BitVec 64} {offset : BitVec 32} (hm : micros.toNat ≤ 86400000000)
    (ho : |offset.toInt| ≤ 57599) : ∃ x : ℕ, (x : ℤ) = 57599 - offset.toInt ∧ x < 2 ^ 24 ∧
      (clocks.encode_micros micros ||| clocks.encode_offset offset).toNat = micros.toNat * 2 ^ 24 + x := by
  rw [abs_le] at ho
  obtain ⟨x, hx⟩ := Int.eq_ofNat_of_zero_le (a := 57599 - offset.toInt) (by omega)
  have hlt : x < 2 ^ 24 := by omega
  have hoffset : (clocks.encode_offset offset).toNat = x := by
    show ((57599 : BitVec 64) - offset.signExtend 64).toNat = x
    have hint : ((57599 : BitVec 64) - offset.signExtend 64).toInt = x := by
      rw [BitVec.toInt_sub, BitVec.toInt_signExtend_of_le (by decide)]
      have h57599 : (57599 : BitVec 64).toInt = 57599 := by decide
      rw [h57599, hx]
      exact Int.bmod_eq_of_le (by omega) (by omega)
    have hnat := BitVec.toInt_eq_toNat_cond ((57599 : BitVec 64) - offset.signExtend 64)
    rw [hint] at hnat
    split at hnat <;> omega
  have hmicros : (clocks.encode_micros micros).toNat = micros.toNat <<< 24 := by
    show (micros <<< 24).toNat = _
    rw [BitVec.toNat_shiftLeft, Nat.mod_eq_of_lt]
    rw [Nat.shiftLeft_eq]
    omega
  refine ⟨x, hx.symm, hlt, ?_⟩
  rw [BitVec.toNat_or, hoffset, hmicros, ← Nat.shiftLeft_add_eq_or_of_lt hlt, Nat.shiftLeft_eq]

/-- It does what is documented. -/
theorem decoded_documented : decoded.Documented clocks := by
  refine ⟨fun _ _ => rfl, fun _ _ => rfl, fun micros offset hm ho => ?_, fun micros offset hm ho => ?_⟩
  · obtain ⟨x, -, hlt, hbits⟩ := encoded_toNat hm ho
    refine BitVec.eq_of_toNat_eq ?_
    show ((clocks.encode_micros micros ||| clocks.encode_offset offset) >>> 24).toNat = _
    rw [BitVec.toNat_ushiftRight, hbits, Nat.shiftRight_eq_div_pow]
    omega
  · obtain ⟨x, hx, hlt, hbits⟩ := encoded_toNat hm ho
    have hmask : (clocks.encode_micros micros ||| clocks.encode_offset offset) &&& 0xFFFFFF = BitVec.ofNat 64 x := by
      refine BitVec.eq_of_toNat_eq ?_
      rw [BitVec.toNat_and, hbits, BitVec.toNat_ofNat]
      show (micros.toNat * 2 ^ 24 + x) &&& (2 ^ 24 - 1) = _
      rw [Nat.and_two_pow_sub_one_eq_mod]
      omega
    have hword : ((BitVec.ofNat 64 x).setWidth 32).toInt = x := by
      rw [BitVec.toInt_eq_toNat_cond, BitVec.toNat_setWidth, BitVec.toNat_ofNat]
      split <;> omega
    have h57599 : (57599 : BitVec 32).toInt = 57599 := by decide
    refine BitVec.eq_of_toInt_eq ?_
    show (57599 - ((clocks.encode_micros micros ||| clocks.encode_offset offset) &&& 0xFFFFFF).setWidth 32).toInt = _
    rw [hmask, BitVec.toInt_sub, hword, h57599, hx, sub_sub_cancel]
    exact Int.bmod_eq_of_le (by rw [abs_le] at ho; omega) (by rw [abs_le] at ho; omega)

/-- `01:00:00+00` and `12:34:56-01`. -/
theorem rows_returned_clocks : ∃ vec result,
    convertRows clocks TIMETZOID (.plain .TIME_TZ) [.timetz 3600000000 0, .timetz 45296000000 3600] .new 0 = .ok vec ∧
      Returns clocks decoded TIMETZOID (.plain .TIME_TZ) (vec.elementAt (.plain .TIME_TZ) 1) result ∧
      result = .datum (.timetz 45296000000 3600) := by
  obtain ⟨vec, hvec⟩ : ∃ vec, convertRows clocks TIMETZOID (.plain .TIME_TZ)
      [.timetz 3600000000 0, .timetz 45296000000 3600] .new 0 = .ok vec := ⟨_, rfl⟩
  obtain ⟨result, hr, hsame⟩ := rows_returned clocks decoded (fun _ => "") session true TIMETZOID TIMETZOID
    (.plain .TIME_TZ) _ vec 1 (.timetz 45296000000 3600) decoded_documented Types.headers_documented trivial rfl hvec
    rfl ⟨_, _, rfl, by decide, by decide⟩ trivial
  exact ⟨vec, result, hvec, hr, hsame⟩

end PgDuckdb.Scalars
