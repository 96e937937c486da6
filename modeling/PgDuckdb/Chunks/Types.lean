import PgDuckdb.Basic

/-!
# Types of the two systems

The types of Postgres that are read, by their object ids, and the ids of the types of DuckDB.
-/

namespace PgDuckdb.Chunks

/-! ## DuckDB -/

/-- The identifiers of DuckDB's types, as far as the conversions name them. -/
inductive LogicalTypeId
  | INVALID
  | BOOLEAN
  | TINYINT
  | SMALLINT
  | INTEGER
  | UINTEGER
  | BIGINT
  | VARCHAR
  | DATE
  | TIMESTAMP_SEC
  | TIMESTAMP_MS
  | TIMESTAMP_NS
  | TIMESTAMP
  | TIMESTAMP_TZ
  | INTERVAL
  | BIT
  | TIME
  | TIME_TZ
  | FLOAT
  | DOUBLE
  | DECIMAL
  | UUID
  | BLOB
  | LIST
  | STRUCT
  | UNION
  | MAP
  deriving DecidableEq

/-! ## Postgres -/

/-- The type `bool`. -/
def BOOLOID : Oid := 16
/-- The type `bytea`. -/
def BYTEAOID : Oid := 17
/-- The type `"char"`. -/
def CHAROID : Oid := 18
/-- The type `int8`. -/
def INT8OID : Oid := 20
/-- The type `int2`. -/
def INT2OID : Oid := 21
/-- The type `int4`. -/
def INT4OID : Oid := 23
/-- The type `text`. -/
def TEXTOID : Oid := 25
/-- The type `json`. -/
def JSONOID : Oid := 114
/-- The type `float4`. -/
def FLOAT4OID : Oid := 700
/-- The type `float8`. -/
def FLOAT8OID : Oid := 701
/-- The type `bpchar`. -/
def BPCHAROID : Oid := 1042
/-- The type `varchar`. -/
def VARCHAROID : Oid := 1043
/-- The type `date`. -/
def DATEOID : Oid := 1082
/-- The type `time`. -/
def TIMEOID : Oid := 1083
/-- The type `timestamp`. -/
def TIMESTAMPOID : Oid := 1114
/-- The type `timestamp with time zone`. -/
def TIMESTAMPTZOID : Oid := 1184
/-- The type `interval`. -/
def INTERVALOID : Oid := 1186
/-- The type `time with time zone`. -/
def TIMETZOID : Oid := 1266
/-- The type `bit`. -/
def BITOID : Oid := 1560
/-- The type `varbit`. -/
def VARBITOID : Oid := 1562
/-- The type `numeric`. -/
def NUMERICOID : Oid := 1700
/-- The type `regclass`. -/
def REGCLASSOID : Oid := 2205
/-- The type `uuid`. -/
def UUIDOID : Oid := 2950
/-- The type `jsonb`. -/
def JSONBOID : Oid := 3802

/-- An array of `json`. -/
def JSONARRAYOID : Oid := 199
/-- An array of `bool`. -/
def BOOLARRAYOID : Oid := 1000
/-- An array of `bytea`. -/
def BYTEAARRAYOID : Oid := 1001
/-- An array of `"char"`. -/
def CHARARRAYOID : Oid := 1002
/-- An array of `int2`. -/
def INT2ARRAYOID : Oid := 1005
/-- An array of `int4`. -/
def INT4ARRAYOID : Oid := 1007
/-- An array of `text`. -/
def TEXTARRAYOID : Oid := 1009
/-- An array of `bpchar`. -/
def BPCHARARRAYOID : Oid := 1014
/-- An array of `varchar`. -/
def VARCHARARRAYOID : Oid := 1015
/-- An array of `int8`. -/
def INT8ARRAYOID : Oid := 1016
/-- An array of `float4`. -/
def FLOAT4ARRAYOID : Oid := 1021
/-- An array of `float8`. -/
def FLOAT8ARRAYOID : Oid := 1022
/-- An array of `timestamp`. -/
def TIMESTAMPARRAYOID : Oid := 1115
/-- An array of `date`. -/
def DATEARRAYOID : Oid := 1182
/-- An array of `time`. -/
def TIMEARRAYOID : Oid := 1183
/-- An array of `interval`. -/
def INTERVALARRAYOID : Oid := 1187
/-- An array of `numeric`. -/
def NUMERICARRAYOID : Oid := 1231
/-- An array of `time with time zone`. -/
def TIMETZARRAYOID : Oid := 1270
/-- An array of `bit`. -/
def BITARRAYOID : Oid := 1561
/-- An array of `varbit`. -/
def VARBITARRAYOID : Oid := 1563
/-- An array of `regclass`. -/
def REGCLASSARRAYOID : Oid := 2210
/-- An array of `uuid`. -/
def UUIDARRAYOID : Oid := 2951
/-- An array of `jsonb`. -/
def JSONBARRAYOID : Oid := 3807

/-- Whether a type is converted without a function of Postgres. -/
def IsThreadSafeTypeForPostgresToDuckDB (attr_type : Oid) (duckdb_type : LogicalTypeId) : Bool :=
  if duckdb_type = .VARCHAR then attr_type ≠ JSONBOID
  else if duckdb_type = .LIST ∨ duckdb_type = .BIT then false
  else true

end PgDuckdb.Chunks
