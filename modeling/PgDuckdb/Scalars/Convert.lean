import Mathlib
import PgDuckdb.Chunks.Types
import PgDuckdb.Lib.Cells
import PgDuckdb.Types.ConvertDecimal
import PgDuckdb.Types.Timestamps
import PgDuckdb.Types.Uuid

/-!
# Scalars into vectors

`ConvertPostgresToDuckValue` switches over the type of the vector, converts the datum and writes the result at
an offset. `Append<T>` writes as many bytes as `T` has, at that many bytes an element, whatever the vector
takes for the size of its elements. A string is a `string_t` of sixteen bytes, which holds a short text itself
and otherwise points to it: `StringVector::AddString` copies the text to the heap of the vector, while a
`string_t` over a temporary `std::string` points to what is gone after the statement.

The case of `LIST` is not here.
-/

namespace PgDuckdb.Scalars

open Lib Lib.Bytes Chunks

/-! ## Types -/

/-- The types that a column may get. `JSON` is a `VARCHAR` by another name, and `NumericAsDouble` is a `DOUBLE`
with that auxiliary info. -/
inductive LogicalType
  | plain (id : LogicalTypeId)
  | JSON
  | NumericAsDouble
  | DECIMAL (t : Types.DecimalType)
  | LIST (child : LogicalType)
  /-- `CreateUnsupportedPostgresType` -/
  | Unsupported (message : String)

/-- The kind of a DuckDB type. -/
def LogicalType.id : LogicalType → LogicalTypeId
  | .plain id => id
  | .JSON => .VARCHAR
  | .NumericAsDouble => .DOUBLE
  | .DECIMAL _ => .DECIMAL
  | .LIST _ => .LIST
  | .Unsupported _ => .INVALID

/-- A setting, and the types that the extension creates. -/
structure Session where
  duckdb_convert_unsupported_numeric_to_double : Bool
  DuckdbUnionOid : Oid
  DuckdbStructOid : Oid
  DuckdbMapOid : Oid
  DuckdbUnionArrayOid : Oid
  DuckdbStructArrayOid : Oid
  DuckdbMapArrayOid : Oid

/-- The base types of columns of these types and of arrays of them, given what `GetBaseTypeAndTypmod` makes of
the type and the modifier of the attribute. -/
def ConvertPostgresToBaseDuckColumnType (S : Session) (atttypid typoid : Oid) (type_modifier : BitVec 32) :
    LogicalType :=
  if typoid ∈ [BOOLOID, BOOLARRAYOID] then .plain .BOOLEAN
  else if typoid ∈ [CHAROID, CHARARRAYOID] then .plain .TINYINT
  else if typoid ∈ [INT2OID, INT2ARRAYOID] then .plain .SMALLINT
  else if typoid ∈ [INT4OID, INT4ARRAYOID] then .plain .INTEGER
  else if typoid ∈ [INT8OID, INT8ARRAYOID] then .plain .BIGINT
  else if typoid ∈ [BPCHAROID, BPCHARARRAYOID, TEXTOID, TEXTARRAYOID, VARCHAROID, VARCHARARRAYOID] then
    .plain .VARCHAR
  else if typoid ∈ [DATEOID, DATEARRAYOID] then .plain .DATE
  else if typoid ∈ [TIMESTAMPOID, TIMESTAMPARRAYOID] then .plain .TIMESTAMP
  -- there is no case for arrays of these
  else if typoid = TIMESTAMPTZOID then .plain .TIMESTAMP_TZ
  else if typoid ∈ [INTERVALOID, INTERVALARRAYOID] then .plain .INTERVAL
  else if typoid ∈ [BITOID, BITARRAYOID, VARBITOID, VARBITARRAYOID] then .plain .BIT
  else if typoid ∈ [TIMEOID, TIMEARRAYOID] then .plain .TIME
  else if typoid ∈ [TIMETZOID, TIMETZARRAYOID] then .plain .TIME_TZ
  else if typoid ∈ [FLOAT4OID, FLOAT4ARRAYOID] then .plain .FLOAT
  else if typoid ∈ [FLOAT8OID, FLOAT8ARRAYOID] then .plain .DOUBLE
  else if typoid ∈ [NUMERICOID, NUMERICARRAYOID] then
    match Types.ConvertPostgresToBaseDuckColumnType S.duckdb_convert_unsupported_numeric_to_double type_modifier with
    | .DECIMAL t => .DECIMAL t
    | .NumericAsDouble => .NumericAsDouble
    | .Unsupported message => .Unsupported message
  else if typoid ∈ [UUIDOID, UUIDARRAYOID] then .plain .UUID
  else if typoid ∈ [JSONOID, JSONARRAYOID, JSONBOID, JSONBARRAYOID] then .JSON
  else if typoid ∈ [REGCLASSOID, REGCLASSARRAYOID] then .plain .UINTEGER
  else if typoid ∈ [BYTEAOID, BYTEAARRAYOID] then .plain .BLOB
  else if typoid = S.DuckdbUnionOid then .plain .UNION
  else if typoid = S.DuckdbStructOid then .plain .STRUCT
  else if typoid = S.DuckdbMapOid then .plain .MAP
  else if typoid = S.DuckdbUnionArrayOid then .plain .UNION
  else if typoid = S.DuckdbStructArrayOid then .plain .STRUCT
  else if typoid = S.DuckdbMapArrayOid then .plain .MAP
  else .Unsupported ("Oid=" ++ toString atttypid)

/-! ## Datums -/

/-- What a datum is, or what it points to. -/
inductive Datum
  | word (value : BitVec 64)
  /-- The data behind the header. -/
  | varlena (data : List UInt8)
  | numeric (value : Types.Numeric)
  | interval (month day : BitVec 32) (time : BitVec 64)
  | timetz (time : BitVec 64) (zone : BitVec 32)
  | uuid (value : Types.pg_uuid_t)

namespace Datum

/-- The word of a value that is one. -/
def toWord : Datum → BitVec 64
  | .word value => value
  | _ => 0

/-- A word as a truth value. -/
def GetBool (value : Datum) : Bool := value.toWord ≠ 0

/-- A word as 16 bits. -/
def GetInt16 (value : Datum) : BitVec 16 := value.toWord.setWidth 16

/-- A word as 32 bits. -/
def GetInt32 (value : Datum) : BitVec 32 := value.toWord.setWidth 32

/-- The bytes of a value out of line. -/
def VARDATA_ANY : Datum → List UInt8
  | .varlena data => data
  | _ => []

/-- The digits of a numeric value. -/
def GetNumeric : Datum → Types.Numeric
  | .numeric value => value
  | _ => ⟨0, [0], fun _ => List.cons_ne_nil _ _⟩

/-- The uuid of a value. -/
def GetUUID : Datum → Types.hugeint_t
  | .uuid value => Types.DatumGetUUID value
  | _ => ⟨0, 0⟩

end Datum

/-- What is called and is not in this repository. The conversion of a `NUMERIC` to a `double` is, but is not
modelled here. -/
structure External where
  headers : Types.Headers
  JsonbToCString : List UInt8 → List UInt8
  VarbitToString : List UInt8 → List UInt8
  /-- `Value::StringIsValid`, which the constructor of a `Value` checks. -/
  StringIsValid : List UInt8 → Bool
  /-- `Bit::ToBit`, the bit string of a text of zeros and ones. -/
  ToBit : List UInt8 → List UInt8
  encode_micros : BitVec 64 → BitVec 64
  encode_offset : BitVec 32 → BitVec 64
  /-- `ConvertDecimal<double, DecimalConversionDouble>` -/
  ConvertDecimalDouble : Types.NumericVar → Except String (BitVec 64)

/-! ## The conversion -/

/-- A value as it is written. -/
inductive Written
  /-- `Append<T>`, with the bytes of a `T`. -/
  | plain (memory : List UInt8)
  /-- `StringVector::AddString`, and then `Append<string_t>`. -/
  | added (text : List UInt8)
  /-- `Append<string_t>` of a temporary. -/
  | temporary (text : List UInt8)

/-- What a conversion raises. -/
inductive ConvertException
  | OutOfRange (e : Types.OutOfRangeException)
  | Internal (text : String)
  | NotImplemented

section
variable (E : External)

/-- The number of bytes without the blanks at the end. -/
def bpchartruelen (text : List UInt8) : ℕ := (text.rdropWhile (· = 32)).length

/-- A text, cut where it is of type char(n). -/
def AppendString (value : Datum) (is_bpchar : Bool) : Written :=
  let text := value.VARDATA_ANY
  let len := if is_bpchar then bpchartruelen text else text.length
  .added (text.take len)

/-- A jsonb value as text. -/
def AppendJsonb (value : Datum) : Written := .added (E.JsonbToCString value.VARDATA_ANY)

/-- Months, days and microseconds. -/
def DatumGetInterval : Datum → List UInt8
  | .interval month day time => bytes 4 month.toNat ++ bytes 4 day.toNat ++ bytes 8 time.toNat
  | _ => List.replicate 16 0

/-- The bits of a bit string as text. -/
def DatumGetBitString (value : Datum) : List UInt8 := E.VarbitToString value.VARDATA_ANY

/-- A time with its zone, in DuckDB's encoding. -/
def DatumGetTimeTz : Datum → BitVec 64
  | .timetz time zone => E.encode_micros time ||| E.encode_offset (-zone)
  | _ => 0

/-- A `DECIMAL`, in the type that it is stored in. -/
def AppendDecimal (t : Types.DecimalType) (value : Datum) : Except ConvertException Written :=
  match (Types.ConvertPostgresToDuckValue t value.GetNumeric).result with
  | .error text => .error (.Internal text)
  | .ok number =>
    match t.InternalType with
    | .INT16 => .ok (.plain (bytes 2 (BitVec.ofInt 16 number).toNat))
    | .INT32 => .ok (.plain (bytes 4 (BitVec.ofInt 32 number).toNat))
    | .INT64 => .ok (.plain (bytes 8 (BitVec.ofInt 64 number).toNat))
    | .INT128 => .ok (.plain (bytes 16 (BitVec.ofInt 128 number).toNat))
    | _ => .error (.Internal "Unrecognized physical type (%s) for DECIMAL value")

/-- A `NUMERIC` that is read as a `DOUBLE`. -/
def AppendNumericAsDouble (value : Datum) : Except ConvertException Written :=
  match E.ConvertDecimalDouble (Types.FromNumeric value.GetNumeric) with
  | .ok double_val => .ok (.plain (bytes 8 double_val.toNat))
  | .error text => .error (.Internal text)

/-- A date, where it has one in DuckDB. -/
def appendDate (value : Datum) : Except ConvertException Written :=
  match Types.AppendDate E.headers value.GetInt32 with
  | .ok date => .ok (.plain (bytes 4 date.toNat))
  | .error e => .error (.OutOfRange e)

/-- A timestamp, where it has one in DuckDB. -/
def appendInstant (append : BitVec 64 → Except Types.OutOfRangeException (BitVec 64)) (value : Datum) :
    Except ConvertException Written :=
  match append value.toWord with
  | .ok timestamp => .ok (.plain (bytes 8 timestamp.toNat))
  | .error e => .error (.OutOfRange e)

/-- What each case of the switch passes to `Append`. -/
def convert (attr_type : Oid) (type : LogicalType) (value : Datum) : Except ConvertException Written :=
  match type with
  | .NumericAsDouble => AppendNumericAsDouble E value
  | .DECIMAL t => AppendDecimal t value
  | .LIST _ | .Unsupported _ => .error .NotImplemented
  | .JSON =>
    .ok (if attr_type = JSONBOID then AppendJsonb E value else AppendString value (attr_type = BPCHAROID))
  | .plain id =>
    match id with
    | .BOOLEAN => .ok (.plain (bytes 1 value.GetBool.toNat))
    | .TINYINT => .ok (.plain (bytes 2 value.GetInt16.toNat))
    | .SMALLINT => .ok (.plain (bytes 2 value.GetInt16.toNat))
    | .INTEGER => .ok (.plain (bytes 4 value.GetInt32.toNat))
    | .UINTEGER => .ok (.plain (bytes 4 value.GetInt32.toNat))
    | .BIGINT => .ok (.plain (bytes 8 value.toWord.toNat))
    | .VARCHAR =>
      .ok (if attr_type = JSONBOID then AppendJsonb E value else AppendString value (attr_type = BPCHAROID))
    | .DATE => appendDate E value
    | .TIMESTAMP_SEC | .TIMESTAMP_MS | .TIMESTAMP_NS | .TIMESTAMP =>
      appendInstant (Types.AppendTimestamp E.headers) value
    | .TIMESTAMP_TZ => appendInstant (Types.AppendTimestampTz E.headers) value
    | .INTERVAL => .ok (.plain (DatumGetInterval value))
    | .BIT => .ok (.temporary (E.ToBit (DatumGetBitString E value)))
    | .TIME => .ok (.plain (bytes 8 value.toWord.toNat))
    | .TIME_TZ => .ok (.plain (bytes 8 (DatumGetTimeTz E value).toNat))
    | .FLOAT => .ok (.plain (bytes 4 value.GetInt32.toNat))
    | .DOUBLE => .ok (.plain (bytes 8 value.toWord.toNat))
    | .UUID => .ok (.plain value.GetUUID.memory)
    | .BLOB => .ok (.added value.VARDATA_ANY)
    | .INVALID | .DECIMAL | .LIST | .STRUCT | .UNION | .MAP => .error .NotImplemented

end

/-! ## Blanks at the end -/

/-- The text of type char(n) is the text without its trailing spaces. -/
theorem take_bpchartruelen {text : List UInt8} : text.take (bpchartruelen text) = text.rdropWhile (· = 32) :=
  (List.prefix_iff_eq_take.1 (List.rdropWhile_prefix _ _)).symm

/-- A text is kept just when its last character is no space. -/
theorem rdropWhile_eq_self_iff {text : List UInt8} : text.rdropWhile (· = 32) = text ↔ text.getLast? ≠ some 32 := by
  rw [List.rdropWhile_eq_self_iff]
  constructor
  · intro h hlast
    obtain ⟨front, rfl⟩ := List.getLast?_eq_some_iff.1 hlast
    exact h (by simp) (by simp)
  · intro h hne hl
    refine h ?_
    rw [List.getLast?_eq_some_getLast hne]
    simpa using hl

/-- The text that a value becomes. -/
theorem AppendString_eq {value : Datum} {is_bpchar : Bool} :
    AppendString value is_bpchar =
      .added (if is_bpchar then value.VARDATA_ANY.rdropWhile (· = 32) else value.VARDATA_ANY) := by
  rw [AppendString]
  cases is_bpchar with
  | true => exact congrArg Written.added take_bpchartruelen
  | false => exact congrArg Written.added List.take_length

end PgDuckdb.Scalars
