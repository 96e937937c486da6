import PgDuckdb.Scalars.SameReading

/-!
# Types of results

`GetPostgresDuckDBType` gives a column of a result of DuckDB its type in Postgres, and `GetPostgresDuckDBTypemod`
its modifier. A table that Postgres makes of the result has columns of these types, which
`ConvertPostgresToDuckColumnType` gives a type of DuckDB again when the table is read. `retyped_iff` says which
types come out as they were. Those of unsigned integers, of more than 64 bits, of other units of time and of enums
do not, no list in a list does unless the table says so, and neither does a list of `DECIMAL`s, as the modifier is
lost, or of `TIMESTAMP_TZ`s, which has no case.
-/

namespace PgDuckdb.Scalars

open Lib Chunks

/-! ## Types of DuckDB -/

/-- The number of the type timestamptz[]. -/
def TIMESTAMPTZARRAYOID : Oid := 1185

/-- A DuckDB type. -/
inductive DuckType
  | BOOLEAN
  | TINYINT
  | SMALLINT
  | INTEGER
  | BIGINT
  | HUGEINT
  | UTINYINT
  | USMALLINT
  | UINTEGER
  | UBIGINT
  | UHUGEINT
  | BIGNUM
  | FLOAT
  | DOUBLE
  | DECIMAL (t : Types.DecimalType)
  | VARCHAR
  | JSON
  | GEOMETRY
  | ENUM (values : List String)
  | BLOB
  | BIT
  | UUID
  | DATE
  | TIMESTAMP
  | TIMESTAMP_SEC
  | TIMESTAMP_MS
  | TIMESTAMP_NS
  | TIMESTAMP_TZ
  | INTERVAL
  | TIME
  | TIME_TZ
  | LIST (child : DuckType)
  | ARRAY (child : DuckType) (size : ℕ)
  | STRUCT (children : List (String × DuckType))
  | UNION (members : List (String × DuckType))
  | MAP (entry : Option (DuckType × DuckType))
  /-- `CreateUnsupportedPostgresType` -/
  | Unsupported (message : String)
  /-- All types without a case. -/
  | other (name : String)

namespace DuckType

/-- A type with a type inside. -/
def IsNestedType : DuckType → Bool
  | LIST _ => true
  | ARRAY _ _ => true
  | _ => false

/-- `GetChildType` as long as the type is nested. -/
def leafType : DuckType → DuckType
  | LIST child => child.leafType
  | ARRAY child _ => child.leafType
  | type => type

end DuckType

/-- The type of a column that is read, among all types. Those of structs, unions and maps are left incomplete. -/
def LogicalType.duckType : LogicalType → DuckType
  | .JSON => .JSON
  | .NumericAsDouble => .DOUBLE
  | .DECIMAL t => .DECIMAL t
  | .LIST child => .LIST child.duckType
  | .Unsupported message => .Unsupported message
  | .plain id =>
    match id with
    | .BOOLEAN => .BOOLEAN
    | .TINYINT => .TINYINT
    | .SMALLINT => .SMALLINT
    | .INTEGER => .INTEGER
    | .UINTEGER => .UINTEGER
    | .BIGINT => .BIGINT
    | .VARCHAR => .VARCHAR
    | .DATE => .DATE
    | .TIMESTAMP_SEC => .TIMESTAMP_SEC
    | .TIMESTAMP_MS => .TIMESTAMP_MS
    | .TIMESTAMP_NS => .TIMESTAMP_NS
    | .TIMESTAMP => .TIMESTAMP
    | .TIMESTAMP_TZ => .TIMESTAMP_TZ
    | .INTERVAL => .INTERVAL
    | .BIT => .BIT
    | .TIME => .TIME
    | .TIME_TZ => .TIME_TZ
    | .FLOAT => .FLOAT
    | .DOUBLE => .DOUBLE
    | .UUID => .UUID
    | .BLOB => .BLOB
    | .STRUCT => .STRUCT []
    | .UNION => .UNION []
    | .MAP => .MAP none
    | .INVALID => .other "INVALID"
    | .DECIMAL => .other "DECIMAL"
    | .LIST => .other "LIST"

/-! ## Types of Postgres for them -/

section
variable (ToString : DuckType → String) (S : Session)

/-- The Postgres type of a list of `type`. -/
def GetPostgresArrayDuckDBType (type : DuckType) (throw_error : Bool) : Except String Oid :=
  match type with
  | .BOOLEAN => .ok BOOLARRAYOID
  | .TINYINT => .ok INT2ARRAYOID
  | .SMALLINT => .ok INT2ARRAYOID
  | .INTEGER => .ok INT4ARRAYOID
  | .BIGINT => .ok INT8ARRAYOID
  | .HUGEINT => .ok NUMERICARRAYOID
  | .UTINYINT => .ok INT2ARRAYOID
  | .USMALLINT => .ok INT4ARRAYOID
  | .UINTEGER => .ok INT8ARRAYOID
  | .VARCHAR => .ok TEXTARRAYOID
  | .JSON => .ok JSONARRAYOID
  | .GEOMETRY => .ok TEXTARRAYOID
  | .DATE => .ok DATEARRAYOID
  | .TIMESTAMP => .ok TIMESTAMPARRAYOID
  | .TIMESTAMP_TZ => .ok TIMESTAMPTZARRAYOID
  | .INTERVAL => .ok INTERVALARRAYOID
  | .BIT => .ok VARBITARRAYOID
  | .TIME => .ok TIMEARRAYOID
  | .TIME_TZ => .ok TIMETZARRAYOID
  | .FLOAT => .ok FLOAT4ARRAYOID
  | .DOUBLE => .ok FLOAT8ARRAYOID
  | .DECIMAL _ => .ok NUMERICARRAYOID
  | .UUID => .ok UUIDARRAYOID
  | .BLOB => .ok BYTEAARRAYOID
  | .BIGNUM => .ok NUMERICARRAYOID
  | .STRUCT _ => .ok S.DuckdbStructArrayOid
  | .UNION _ => .ok S.DuckdbUnionArrayOid
  | .MAP _ => .ok S.DuckdbMapArrayOid
  | _ =>
    if throw_error then .error ("Unsupported DuckDB `LIST` subtype: " ++ ToString type) else .ok InvalidOid

/-- A type that Postgres has no column for raises. -/
def CheckForUnsupportedPostgresType : DuckType → Except String Unit
  | .Unsupported message => .error ("Unsupported PostgreSQL type found in query: " ++ message)
  | _ => .ok ()

/-- The Postgres type of a column of `type`. -/
def GetPostgresDuckDBType (type : DuckType) (throw_error : Bool) : Except String Oid := do
  CheckForUnsupportedPostgresType type
  match type with
  | .BOOLEAN => .ok BOOLOID
  | .TINYINT => .ok INT2OID
  | .SMALLINT => .ok INT2OID
  | .INTEGER => .ok INT4OID
  | .BIGINT => .ok INT8OID
  | .UBIGINT => .ok NUMERICOID
  | .HUGEINT => .ok NUMERICOID
  | .UHUGEINT => .ok NUMERICOID
  | .UTINYINT => .ok INT2OID
  | .USMALLINT => .ok INT4OID
  | .UINTEGER => .ok INT8OID
  | .VARCHAR => .ok TEXTOID
  | .JSON => .ok JSONOID
  | .GEOMETRY => .ok TEXTOID
  | .DATE => .ok DATEOID
  | .TIMESTAMP => .ok TIMESTAMPOID
  | .TIMESTAMP_SEC => .ok TIMESTAMPOID
  | .TIMESTAMP_MS => .ok TIMESTAMPOID
  | .TIMESTAMP_NS => .ok TIMESTAMPOID
  | .TIMESTAMP_TZ => .ok TIMESTAMPTZOID
  | .INTERVAL => .ok INTERVALOID
  | .BIT => .ok VARBITOID
  | .TIME => .ok TIMEOID
  | .TIME_TZ => .ok TIMETZOID
  | .FLOAT => .ok FLOAT4OID
  | .DOUBLE => .ok FLOAT8OID
  | .DECIMAL _ => .ok NUMERICOID
  | .UUID => .ok UUIDOID
  | .BIGNUM => .ok NUMERICOID
  | .STRUCT _ => .ok S.DuckdbStructOid
  | .LIST _ => GetPostgresArrayDuckDBType ToString S type.leafType throw_error
  | .ARRAY _ _ => GetPostgresArrayDuckDBType ToString S type.leafType throw_error
  | .BLOB => .ok BYTEAOID
  | .UNION _ => .ok S.DuckdbUnionOid
  | .MAP _ => .ok S.DuckdbMapOid
  | .ENUM _ => .ok VARCHAROID
  | _ =>
    if throw_error then .error ("Could not convert DuckDB type: " ++ ToString type ++ " to Postgres type")
    else .ok InvalidOid

end

/-- The modifier of a column of `type`. -/
def GetPostgresDuckDBTypemod : DuckType → BitVec 32
  | .DECIMAL t => Types.make_numeric_typmod (.ofNat 32 t.width) (.ofNat 32 t.scale)
  | _ => -1

/-! ## Types that come back -/

/-- The type of a scalar, or of what a struct, union or map is left as. -/
def DuckType.KeptScalar : DuckType → Prop
  | .BOOLEAN | .SMALLINT | .INTEGER | .BIGINT | .FLOAT | .DOUBLE | .DECIMAL _ | .VARCHAR | .JSON | .BLOB | .BIT
  | .UUID | .DATE | .TIMESTAMP | .TIMESTAMP_TZ | .INTERVAL | .TIME | .TIME_TZ => True
  | .STRUCT children => children = []
  | .UNION members => members = []
  | .MAP entry => entry = none
  | _ => False

/-- An element type whose values come back as they went. -/
def DuckType.KeptElement : DuckType → Prop
  | .DECIMAL _ | .TIMESTAMP_TZ => False
  | type => type.KeptScalar

/-- How many lists a column of arrays is taken to be nested in. -/
def dimensions (attndims : ℕ) : ℕ := if attndims = 0 then 1 else attndims

/-- A type that comes back as a column of `attndims` dimensions. -/
def DuckType.Kept (attndims : ℕ) (type : DuckType) : Prop :=
  if type.IsNestedType then type = DuckType.LIST^[dimensions attndims] type.leafType ∧ type.leafType.KeptElement
  else type.KeptScalar

/-- Objects that are made by an extension have ids from `FirstNormalObjectId` on, each its own. -/
structure Session.Created (S : Session) : Prop where
  normal : ∀ oid ∈ [S.DuckdbUnionOid, S.DuckdbStructOid, S.DuckdbMapOid, S.DuckdbUnionArrayOid,
    S.DuckdbStructArrayOid, S.DuckdbMapArrayOid], 16384 ≤ oid
  nodup : [S.DuckdbUnionOid, S.DuckdbStructOid, S.DuckdbMapOid, S.DuckdbUnionArrayOid,
    S.DuckdbStructArrayOid, S.DuckdbMapArrayOid].Nodup

section
variable {C : Catalog} {S : Session} {T : DuckType} {oid atttypid : Oid} {m : BitVec 32} {ndims n : ℕ}

namespace DuckType

/-- A type without a level is its own leaf. -/
theorem leafType_of_not_nested (h : T.IsNestedType = false) : T.leafType = T := by
  cases T with
  | LIST child => cases h
  | ARRAY child size => cases h
  | _ => rfl

/-- Levels keep the leaf. -/
theorem leafType_iterate : (LIST^[n] T).leafType = T.leafType := by
  induction n with
  | zero => rfl
  | succ n ih =>
    rw [Function.iterate_succ_apply']
    exact ih

end DuckType

/-- The DuckDB type of a type with levels. -/
theorem duckType_iterate {type : LogicalType} : (LogicalType.LIST^[n] type).duckType =
    DuckType.LIST^[n] type.duckType := by
  induction n with
  | zero => rfl
  | succ n ih =>
    rw [Function.iterate_succ_apply', Function.iterate_succ_apply', ← ih]
    rfl

/-- A list of some nesting is the type of a column whose elements have its leaf type. -/
theorem iterate_eq_iff {leaf : DuckType} (hT : T.IsNestedType = true) (hleaf : leaf.IsNestedType = false) :
    DuckType.LIST^[n] leaf = T ↔ T = DuckType.LIST^[n] T.leafType ∧ leaf = T.leafType := by
  constructor
  · rintro rfl
    have hsame : leaf = (DuckType.LIST^[n] leaf).leafType := by
      rw [DuckType.leafType_iterate, DuckType.leafType_of_not_nested hleaf]
    exact ⟨congrArg _ hsame, hsame⟩
  · rintro ⟨h, rfl⟩
    exact h.symm

/-- No type of a column is an array type of DuckDB, and one without a case is none at all. -/
theorem base_not_nested : (ConvertPostgresToBaseDuckColumnType S atttypid oid m).duckType.IsNestedType = false := by
  have h := @convert_id_ne_LIST S oid atttypid m
  cases hbase : ConvertPostgresToBaseDuckColumnType S atttypid oid m with
  | LIST child =>
    rw [hbase] at h
    exact absurd rfl h
  | plain id => cases id <;> rfl
  | _ => rfl

/-! ### Each type by itself -/

/-- The type of a column whose type the extension created. -/
theorem base_of_created (h : 16384 ≤ oid) : ConvertPostgresToBaseDuckColumnType S atttypid oid m =
    if oid = S.DuckdbUnionOid then .plain .UNION
    else if oid = S.DuckdbStructOid then .plain .STRUCT
    else if oid = S.DuckdbMapOid then .plain .MAP
    else if oid = S.DuckdbUnionArrayOid then .plain .UNION
    else if oid = S.DuckdbStructArrayOid then .plain .STRUCT
    else if oid = S.DuckdbMapArrayOid then .plain .MAP
    else .Unsupported ("Oid=" ++ toString atttypid) := by
  have hne : ∀ k < 16384, (oid = k) = False := fun k hk => eq_false (Nat.lt_of_lt_of_le hk h).ne'
  simp (disch := decide) only [ConvertPostgresToBaseDuckColumnType, List.mem_cons, List.not_mem_nil, hne, or_self,
    if_false]

/-- The three types that the extension created. -/
theorem base_created (hS : S.Created) :
    ConvertPostgresToBaseDuckColumnType S atttypid S.DuckdbUnionOid m = .plain .UNION ∧
    ConvertPostgresToBaseDuckColumnType S atttypid S.DuckdbStructOid m = .plain .STRUCT ∧
    ConvertPostgresToBaseDuckColumnType S atttypid S.DuckdbMapOid m = .plain .MAP ∧
    ConvertPostgresToBaseDuckColumnType S atttypid S.DuckdbUnionArrayOid m = .plain .UNION ∧
    ConvertPostgresToBaseDuckColumnType S atttypid S.DuckdbStructArrayOid m = .plain .STRUCT ∧
    ConvertPostgresToBaseDuckColumnType S atttypid S.DuckdbMapArrayOid m = .plain .MAP := by
  have hnormal := hS.normal
  have hnodup := hS.nodup
  simp only [List.forall_mem_cons, List.not_mem_nil, false_imp_iff, implies_true, and_true] at hnormal
  simp only [List.nodup_cons, List.mem_cons, List.not_mem_nil, or_false, not_or, not_false_eq_true,
    List.nodup_nil, and_true] at hnodup
  obtain ⟨h₁, h₂, h₃, h₄, h₅, h₆⟩ := hnormal
  rw [base_of_created h₁, base_of_created h₂, base_of_created h₃, base_of_created h₄, base_of_created h₅,
    base_of_created h₆]
  grind

/-- A `numeric` without a modifier is a `DOUBLE`, or nothing at all. -/
theorem base_numeric (hoid : oid = NUMERICOID ∨ oid = NUMERICARRAYOID) :
    (ConvertPostgresToBaseDuckColumnType S atttypid oid (-1)).duckType = .DOUBLE ∨
    ∃ message, ConvertPostgresToBaseDuckColumnType S atttypid oid (-1) = .Unsupported message := by
  have hbase : ConvertPostgresToBaseDuckColumnType S atttypid oid (-1) =
      .ofNumeric (Types.ConvertPostgresToBaseDuckColumnType S.duckdb_convert_unsupported_numeric_to_double (-1)) := by
    rcases hoid with rfl | rfl <;> rfl
  rw [hbase, columnType_unconstrained]
  cases S.duckdb_convert_unsupported_numeric_to_double with
  | true => exact .inl rfl
  | false => exact .inr ⟨_, rfl⟩

/-- A numeric is no other type. -/
theorem numeric_ne (hoid : oid = NUMERICOID ∨ oid = NUMERICARRAYOID) (hT : T ≠ .DOUBLE)
    (hT' : ∀ message, T ≠ .Unsupported message) :
    (ConvertPostgresToBaseDuckColumnType S atttypid oid (-1)).duckType ≠ T := by
  rcases @base_numeric S oid atttypid hoid with h | ⟨message, h⟩
  · rw [h]
    exact hT.symm
  · rw [h]
    exact (hT' message).symm

/-- A decimal keeps its width and scale. -/
theorem base_decimal (t : Types.DecimalType) :
    (ConvertPostgresToBaseDuckColumnType S atttypid NUMERICOID (GetPostgresDuckDBTypemod (.DECIMAL t))).duckType =
      .DECIMAL t := by
  have hbase : ConvertPostgresToBaseDuckColumnType S atttypid NUMERICOID (GetPostgresDuckDBTypemod (.DECIMAL t)) =
      .ofNumeric (Types.ConvertPostgresToBaseDuckColumnType S.duckdb_convert_unsupported_numeric_to_double
        (Types.make_numeric_typmod (.ofNat 32 t.width) (.ofNat 32 t.scale))) := rfl
  rw [hbase, Types.columnType_decimal]
  rfl

variable {ToString : DuckType → String} {throw_error : Bool}

/-- A type without a case has no id. -/
theorem not_ok_of_default {text : String}
    (h : (if throw_error then .error text else .ok InvalidOid : Except String Oid) = .ok oid) :
    oid = InvalidOid := by
  cases throw_error with
  | true => cases h
  | false =>
    cases h
    rfl

/-- The type that a scalar column has when it is read. -/
theorem base_scalar_iff (hS : S.Created) (hT : T.IsNestedType = false)
    (h : GetPostgresDuckDBType ToString S T throw_error = .ok oid) (hoid : oid ≠ InvalidOid) :
    (ConvertPostgresToBaseDuckColumnType S atttypid oid (GetPostgresDuckDBTypemod T)).duckType = T ↔
      T.KeptScalar := by
  obtain ⟨hunion, hstruct, hmap, -⟩ := @base_created S atttypid (-1) hS
  cases T with
  | LIST child => cases hT
  | ARRAY child size => cases hT
  | Unsupported message => cases h
  | other name => exact absurd (not_ok_of_default h) hoid
  | DECIMAL t =>
    cases h
    exact iff_of_true (base_decimal t) trivial
  | HUGEINT | UBIGINT | UHUGEINT | BIGNUM =>
    cases h
    exact iff_of_false (numeric_ne (.inl rfl) (by intro h; cases h) (by intro message h; cases h)) id
  | STRUCT children =>
    cases h
    have hmod : GetPostgresDuckDBTypemod (.STRUCT children) = -1 := rfl
    rw [hmod, hstruct]
    exact ⟨fun h => (DuckType.STRUCT.inj h).symm, fun h => congrArg DuckType.STRUCT h.symm⟩
  | UNION members =>
    cases h
    have hmod : GetPostgresDuckDBTypemod (.UNION members) = -1 := rfl
    rw [hmod, hunion]
    exact ⟨fun h => (DuckType.UNION.inj h).symm, fun h => congrArg DuckType.UNION h.symm⟩
  | MAP entry =>
    cases h
    have hmod : GetPostgresDuckDBTypemod (.MAP entry) = -1 := rfl
    rw [hmod, hmap]
    exact ⟨fun h => (DuckType.MAP.inj h).symm, fun h => congrArg DuckType.MAP h.symm⟩
  | BOOLEAN | SMALLINT | INTEGER | BIGINT | FLOAT | DOUBLE | VARCHAR | JSON | BLOB | BIT | UUID | DATE
  | TIMESTAMP | TIMESTAMP_TZ | INTERVAL | TIME | TIME_TZ =>
    cases h
    exact iff_of_true rfl trivial
  | TINYINT | UTINYINT | USMALLINT | UINTEGER | GEOMETRY | ENUM values | TIMESTAMP_SEC | TIMESTAMP_MS
  | TIMESTAMP_NS =>
    cases h
    exact iff_of_false (by intro h; cases h) id

/-- There is no case for arrays of these. -/
theorem base_TIMESTAMPTZARRAYOID (hS : S.Created) :
    ∃ message, ConvertPostgresToBaseDuckColumnType S atttypid TIMESTAMPTZARRAYOID m = .Unsupported message := by
  have hbase : ConvertPostgresToBaseDuckColumnType S atttypid TIMESTAMPTZARRAYOID m =
      if TIMESTAMPTZARRAYOID = S.DuckdbUnionOid then .plain .UNION
      else if TIMESTAMPTZARRAYOID = S.DuckdbStructOid then .plain .STRUCT
      else if TIMESTAMPTZARRAYOID = S.DuckdbMapOid then .plain .MAP
      else if TIMESTAMPTZARRAYOID = S.DuckdbUnionArrayOid then .plain .UNION
      else if TIMESTAMPTZARRAYOID = S.DuckdbStructArrayOid then .plain .STRUCT
      else if TIMESTAMPTZARRAYOID = S.DuckdbMapArrayOid then .plain .MAP
      else .Unsupported ("Oid=" ++ toString atttypid) := rfl
  have hne : ∀ k, 16384 ≤ k → TIMESTAMPTZARRAYOID ≠ k := fun k hk => (Nat.lt_of_lt_of_le (by decide) hk).ne
  have hnormal := hS.normal
  simp only [List.forall_mem_cons, List.not_mem_nil, false_imp_iff, implies_true, and_true] at hnormal
  obtain ⟨h₁, h₂, h₃, h₄, h₅, h₆⟩ := hnormal
  refine ⟨"Oid=" ++ toString atttypid, ?_⟩
  rw [hbase, if_neg (hne _ h₁), if_neg (hne _ h₂), if_neg (hne _ h₃), if_neg (hne _ h₄), if_neg (hne _ h₅),
    if_neg (hne _ h₆)]

/-- The type that the elements of an array have when it is read. -/
theorem base_element_iff (hS : S.Created) (h : GetPostgresArrayDuckDBType ToString S T throw_error = .ok oid)
    (hoid : oid ≠ InvalidOid) :
    (ConvertPostgresToBaseDuckColumnType S atttypid oid (-1)).duckType = T ↔ T.KeptElement := by
  obtain ⟨-, -, -, hunion, hstruct, hmap⟩ := @base_created S atttypid (-1) hS
  cases T with
  | LIST child | ARRAY child size | Unsupported message | other name | UBIGINT | UHUGEINT | ENUM values
  | TIMESTAMP_SEC | TIMESTAMP_MS | TIMESTAMP_NS => exact absurd (not_ok_of_default h) hoid
  | DECIMAL t | HUGEINT | BIGNUM =>
    cases h
    exact iff_of_false (numeric_ne (.inr rfl) (by intro h; cases h) (by intro message h; cases h)) id
  | TIMESTAMP_TZ =>
    cases h
    obtain ⟨message, hbase⟩ := @base_TIMESTAMPTZARRAYOID S atttypid (-1) hS
    rw [hbase]
    exact iff_of_false (by intro h; cases h) id
  | STRUCT children =>
    cases h
    rw [hstruct]
    exact ⟨fun h => (DuckType.STRUCT.inj h).symm, fun h => congrArg DuckType.STRUCT h.symm⟩
  | UNION members =>
    cases h
    rw [hunion]
    exact ⟨fun h => (DuckType.UNION.inj h).symm, fun h => congrArg DuckType.UNION h.symm⟩
  | MAP entry =>
    cases h
    rw [hmap]
    exact ⟨fun h => (DuckType.MAP.inj h).symm, fun h => congrArg DuckType.MAP h.symm⟩
  | BOOLEAN | SMALLINT | INTEGER | BIGINT | FLOAT | DOUBLE | VARCHAR | JSON | BLOB | BIT | UUID | DATE
  | TIMESTAMP | INTERVAL | TIME | TIME_TZ =>
    cases h
    exact iff_of_true rfl trivial
  | TINYINT | UTINYINT | USMALLINT | UINTEGER | GEOMETRY =>
    cases h
    exact iff_of_false (by intro h; cases h) id

/-! ### The column -/

/-- A type without levels is in the table of types. -/
theorem scalar_mem (hT : T.IsNestedType = false) (h : GetPostgresDuckDBType ToString S T throw_error = .ok oid)
    (hoid : oid ≠ InvalidOid) : oid ∈ (mappedTypes S).map Prod.fst := by
  cases T with
  | LIST child => cases hT
  | ARRAY child size => cases hT
  | Unsupported message => cases h
  | other name => exact absurd (not_ok_of_default h) hoid
  | _ =>
    cases h
    simp [mappedTypes]

/-- A list type is in the table of types. -/
theorem array_mem (h : GetPostgresArrayDuckDBType ToString S T throw_error = .ok oid) (hoid : oid ≠ InvalidOid) :
    oid ∈ (mappedTypes S).map Prod.snd := by
  cases T with
  | LIST child | ARRAY child size | Unsupported message | other name | UBIGINT | UHUGEINT | ENUM values
  | TIMESTAMP_SEC | TIMESTAMP_MS | TIMESTAMP_NS => exact absurd (not_ok_of_default h) hoid
  | _ =>
    cases h
    simp [mappedTypes, TIMESTAMPTZARRAYOID]

/-- A list of an unknown type is unknown. -/
theorem array_ne_invalid {type : LogicalType} (hid : type.id = .INVALID)
    (h : GetPostgresArrayDuckDBType ToString S type.duckType throw_error = .ok oid) : oid = InvalidOid := by
  cases type with
  | plain id =>
    cases id with
    | INVALID => exact not_ok_of_default h
    | _ => cases hid
  | Unsupported message => exact not_ok_of_default h
  | _ => cases hid

/-- A scalar type comes back as its own type. -/
theorem columnType_of_scalar (hC : C.Documented S) (hoid : oid ∈ (mappedTypes S).map Prod.fst) :
    ConvertPostgresToDuckColumnType C S (attributeOf C oid m ndims) =
      ConvertPostgresToBaseDuckColumnType S oid oid m := by
  obtain ⟨p, hp, rfl⟩ := List.mem_map.1 hoid
  have htype := hC.typtype p hp
  have helem := hC.typelem p hp
  have hnone : get_base_element_type C (attributeOf C p.1 m ndims).atttypid = InvalidOid :=
    (get_base_element_type_base htype).trans helem
  rw [columnType_scalar hnone, baseDuckColumnType_scalar htype helem]

/-- An array type comes back as a list of its element type. -/
theorem columnType_of_array (hC : C.Documented S) (hoid : oid ∈ (mappedTypes S).map Prod.snd) :
    ConvertPostgresToDuckColumnType C S (attributeOf C oid m ndims) =
      if (ConvertPostgresToBaseDuckColumnType S oid oid m).id = .INVALID then
        ConvertPostgresToBaseDuckColumnType S oid oid m
      else LogicalType.LIST^[dimensions ndims] (ConvertPostgresToBaseDuckColumnType S oid oid m) := by
  obtain ⟨p, hp, rfl⟩ := List.mem_map.1 hoid
  have harray : get_array_type C p.1 = p.2 := hC.typarray p hp
  have hvalid : get_array_type C p.1 ≠ InvalidOid := harray ▸ hC.valid p hp
  have htype : (C.pg_type p.2).typtype ≠ TYPTYPE_DOMAIN := harray ▸ typtype_array hvalid
  have helem : (C.pg_type p.2).typelem = p.1 := harray ▸ typelem_array hvalid
  have hbase : baseDuckColumnType C S (attributeOf C p.2 m ndims) =
      ConvertPostgresToBaseDuckColumnType S p.2 p.2 m :=
    baseDuckColumnType_array htype (helem ▸ hC.typtype p hp)
  have hsome : get_base_element_type C (attributeOf C p.2 m ndims).atttypid ≠ InvalidOid := by
    have hne : p.1 ≠ InvalidOid := ne_invalid_of_array hvalid
    exact fun h => hne (helem.symm.trans ((get_base_element_type_base htype).symm.trans h))
  rw [← hbase]
  split
  next h => exact columnType_invalid h
  next h => exact columnType_array hsome h

/-- A type of DuckDB that a column of a result has comes out of a table with such a column as it was. -/
theorem retyped_iff (ToString : DuckType → String) (throw_error : Bool) (C : Catalog) (S : Session) (T : DuckType)
    (oid : Oid) (ndims : ℕ) (hC : C.Documented S) (hS : S.Created)
    (h : GetPostgresDuckDBType ToString S T throw_error = .ok oid) (hoid : oid ≠ InvalidOid) :
    (ConvertPostgresToDuckColumnType C S (attributeOf C oid (GetPostgresDuckDBTypemod T) ndims)).duckType = T ↔
      T.Kept ndims := by
  cases hT : T.IsNestedType with
  | false =>
    rw [columnType_of_scalar hC (scalar_mem hT h hoid), base_scalar_iff hS hT h hoid, DuckType.Kept, hT,
      if_neg Bool.false_ne_true]
  | true =>
    have harray : GetPostgresArrayDuckDBType ToString S T.leafType throw_error = .ok oid := by
      cases T with
      | LIST child => exact h
      | ARRAY child size => exact h
      | _ => cases hT
    have hmod : GetPostgresDuckDBTypemod T = -1 := by
      cases T with
      | DECIMAL t => cases hT
      | _ => rfl
    have hbase := @base_element_iff S T.leafType oid oid ToString throw_error hS harray hoid
    rw [columnType_of_array hC (array_mem harray hoid), hmod, DuckType.Kept, hT, if_pos rfl, ← hbase]
    split
    next hinvalid =>
      -- Nothing without a type has the type of a list.
      have hscalar := @base_not_nested S oid oid (-1)
      refine iff_of_false (fun heq => ?_) (fun hkept => ?_)
      · rw [heq, hT] at hscalar
        cases hscalar
      · exact hoid (array_ne_invalid hinvalid (hkept.2.symm ▸ harray))
    next hvalid =>
      rw [duckType_iterate, iterate_eq_iff hT base_not_nested]

end

/-- The types of the example were created. -/
theorem session_created : session.Created := ⟨by decide, by decide⟩

/-- A list of integers comes back from a column that does not say in how many dimensions, a list of `DECIMAL`s
does not. -/
theorem retyped_iff_lists :
    (ConvertPostgresToDuckColumnType catalog session (attributeOf catalog INT4ARRAYOID (-1) 0)).duckType =
      .LIST .INTEGER ∧
    (ConvertPostgresToDuckColumnType catalog session (attributeOf catalog NUMERICARRAYOID (-1) 0)).duckType ≠
      .LIST (.DECIMAL ⟨10, 2, by decide, by decide, by decide⟩) := by
  constructor
  · refine (retyped_iff (fun _ => "") true catalog session (.LIST .INTEGER) INT4ARRAYOID 0 catalog_documented
      session_created rfl (by decide)).2 ?_
    exact ⟨rfl, trivial⟩
  · refine (not_congr (retyped_iff (fun _ => "") true catalog session
      (.LIST (.DECIMAL ⟨10, 2, by decide, by decide, by decide⟩)) NUMERICARRAYOID 0 catalog_documented
      session_created rfl (by decide))).2 ?_
    exact fun h => h.2

end PgDuckdb.Scalars
