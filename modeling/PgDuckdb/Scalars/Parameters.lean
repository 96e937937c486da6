import PgDuckdb.Scalars.Elements

/-!
# Parameters and columns

A parameter of a prepared statement is converted by a switch of its own,
`ConvertPostgresParameterToDuckValue`. It has no case for the infinities of dates and timestamps and no check
of the range, and it keeps the blanks of a `char(n)`. Where none of these is met it gives the value that a scan
reads from a column, for texts that the constructor of a `Value` takes and bit strings that survive the scan.
-/

namespace PgDuckdb.Scalars

open Lib Lib.Bytes Chunks

/-- A value of DuckDB, by the id of its type. -/
structure Value where
  type : LogicalTypeId
  element : Element

/-- What the conversion of a parameter raises. -/
inductive ParameterException
  | InvalidUnicode
  /-- Could not convert Postgres parameter of this type. -/
  | NoConversion (postgres_type : Oid)

/-! ## The parameter path -/

section
variable (E : External)

/-- `duckdb::Value(TextDatumGetCString(value))`: the text is copied to a string that ends at the first zero. -/
def textParameter (value : Datum) : Except ParameterException Value :=
  let cstring := value.VARDATA_ANY.takeWhile (· ≠ 0)
  if E.StringIsValid cstring then .ok ⟨.VARCHAR, .string cstring⟩ else .error .InvalidUnicode

/-- The value of a parameter, as DuckDB gets it. -/
def ConvertPostgresParameterToDuckValue (value : Datum) (postgres_type : Oid) : Except ParameterException Value :=
  if postgres_type = BOOLOID then .ok ⟨.BOOLEAN, .plain (bytes 1 value.GetBool.toNat)⟩
  else if postgres_type = INT2OID then .ok ⟨.SMALLINT, .plain (bytes 2 value.GetInt16.toNat)⟩
  else if postgres_type = INT4OID then .ok ⟨.INTEGER, .plain (bytes 4 value.GetInt32.toNat)⟩
  else if postgres_type = INT8OID then .ok ⟨.BIGINT, .plain (bytes 8 value.toWord.toNat)⟩
  else if postgres_type ∈ [BPCHAROID, TEXTOID, JSONOID, VARCHAROID] then textParameter E value
  else if postgres_type = DATEOID then
    .ok ⟨.DATE, .plain (bytes 4 (value.GetInt32 + Types.PGDUCKDB_DUCK_DATE_OFFSET).toNat)⟩
  else if postgres_type = TIMESTAMPOID then
    .ok ⟨.TIMESTAMP, .plain (bytes 8 (value.toWord + Types.PGDUCKDB_DUCK_TIMESTAMP_OFFSET).toNat)⟩
  else if postgres_type = TIMESTAMPTZOID then
    .ok ⟨.TIMESTAMP_TZ, .plain (bytes 8 (value.toWord + Types.PGDUCKDB_DUCK_TIMESTAMP_OFFSET).toNat)⟩
  else if postgres_type = INTERVALOID then .ok ⟨.INTERVAL, .plain (DatumGetInterval value)⟩
  else if postgres_type ∈ [BITOID, VARBITOID] then .ok ⟨.BIT, .string (E.ToBit (DatumGetBitString E value))⟩
  else if postgres_type = TIMEOID then .ok ⟨.TIME, .plain (bytes 8 value.toWord.toNat)⟩
  else if postgres_type = TIMETZOID then .ok ⟨.TIME_TZ, .plain (bytes 8 (DatumGetTimeTz E value).toNat)⟩
  else if postgres_type = FLOAT4OID then .ok ⟨.FLOAT, .plain (bytes 4 value.GetInt32.toNat)⟩
  else if postgres_type = FLOAT8OID then .ok ⟨.DOUBLE, .plain (bytes 8 value.toWord.toNat)⟩
  else if postgres_type = UUIDOID then .ok ⟨.UUID, .plain value.GetUUID.memory⟩
  else .error (.NoConversion postgres_type)

/-- The types that the switch has a case for. -/
def Accepted (postgres_type : Oid) : Prop :=
  postgres_type ∈ [BOOLOID, INT2OID, INT4OID, INT8OID, BPCHAROID, TEXTOID, JSONOID, VARCHAROID, DATEOID,
    TIMESTAMPOID, TIMESTAMPTZOID, INTERVALOID, BITOID, VARBITOID, TIMEOID, TIMETZOID, FLOAT4OID, FLOAT8OID, UUIDOID]

/-! ## The scan path -/

/-- What is read from the first row of a column of that type, if it can be read at all. -/
def scan (S : Session) (type_modifier : BitVec 32) (value : Datum) (attr_type : Oid) :
    Except ConvertException (Option Value) :=
  let type := ConvertPostgresToBaseDuckColumnType S attr_type attr_type type_modifier
  (ConvertPostgresToDuckValue E attr_type type value .new 0).map fun result =>
    (result.elementAt type 0).map (Value.mk type.id)

/-- Both raise, or both give the same value. -/
def Agree : Except ParameterException Value → Except ConvertException (Option Value) → Prop
  | .error _, .error _ => True
  | .ok v, .ok v' => v' = some v
  | _, _ => False

/-! ## When they agree -/

/-- What the parameter path does not look at. -/
def Covered (value : Datum) (postgres_type : Oid) : Prop :=
  (postgres_type ∈ [BPCHAROID, TEXTOID, JSONOID, VARCHAROID] →
    0 ∉ value.VARDATA_ANY ∧ E.StringIsValid value.VARDATA_ANY = true) ∧
  (postgres_type = BPCHAROID → value.VARDATA_ANY.getLast? ≠ some 32) ∧
  (postgres_type = DATEOID →
    value.GetInt32 ≠ E.headers.DATEVAL_NOBEGIN ∧ value.GetInt32 ≠ E.headers.DATEVAL_NOEND) ∧
  (postgres_type ∈ [TIMESTAMPOID, TIMESTAMPTZOID] →
    value.toWord.toInt + Types.PGDUCKDB_DUCK_TIMESTAMP_OFFSET.toInt ∈ Types.Accepted) ∧
  (postgres_type ∈ [BITOID, VARBITOID] →
    (E.ToBit (DatumGetBitString E value)).length ≤ string_t.INLINE_LENGTH)

end

/-! ## One row of a column -/

section
variable {E : External} {S : Session} {value : Datum} {attr_type : Oid} {type : LogicalType} {w : Written}
variable {type_modifier : BitVec 32} {memory text : List UInt8}

/-- A scan that succeeds, for a value that is not short. -/
theorem scan_ok (ht : ConvertPostgresToBaseDuckColumnType S attr_type attr_type type_modifier = type)
    (hc : convert E attr_type type value = .ok w) (hid : type.id ≠ .TINYINT) :
    scan E S type_modifier value attr_type = .ok (w.readBack.map (Value.mk type.id)) := by
  have hread := @writeRows_elementAt type .new w 0 0 [w]
    (fun x hx => List.mem_singleton.1 hx ▸ convert_matches hc hid) rfl
  subst ht
  rw [← hread, scan, ConvertPostgresToDuckValue, hc]
  rfl

/-- A scan that fails, for the reason of its conversion. -/
theorem scan_error {e : ConvertException}
    (ht : ConvertPostgresToBaseDuckColumnType S attr_type attr_type type_modifier = type)
    (hc : convert E attr_type type value = .error e) : scan E S type_modifier value attr_type = .error e := by
  subst ht
  rw [scan, ConvertPostgresToDuckValue, hc]
  rfl

/-! ## Texts -/

/-- A text without NUL is kept in full. -/
theorem takeWhile_eq_self_iff {text : List UInt8} : text.takeWhile (· ≠ 0) = text ↔ 0 ∉ text := by
  rw [List.takeWhile_eq_self_iff]
  constructor
  · intro h h₀
    simpa using h 0 h₀
  · intro h x hx
    have hne : x ≠ 0 := by
      rintro rfl
      exact h hx
    simpa using hne

/-- A text that is cut at a zero is not one without blanks at its end. -/
theorem takeWhile_eq_rdropWhile_iff {text : List UInt8} :
    text.takeWhile (· ≠ 0) = text.rdropWhile (· = 32) ↔ 0 ∉ text ∧ text.getLast? ≠ some 32 := by
  constructor
  · intro h
    have hzero : text.takeWhile (· ≠ 0) ++ text.dropWhile (· ≠ 0) = text := List.takeWhile_append_dropWhile
    have hblank : text.rdropWhile (· = 32) ++ text.rtakeWhile (· = 32) = text := List.rdropWhile_append_rtakeWhile
    have hrest : text.dropWhile (· ≠ 0) = text.rtakeWhile (· = 32) := by
      rw [← h] at hblank
      exact List.append_cancel_left (hzero.trans hblank.symm)
    have hnil : text.dropWhile (· ≠ 0) = [] := by
      by_contra hne
      have h₀ := List.head_dropWhile_not (fun x : UInt8 => decide (x ≠ 0)) hne
      have hmem : (text.dropWhile (· ≠ 0)).head hne ∈ text.rtakeWhile (· = 32) := by
        rw [← hrest]
        exact List.head_mem hne
      have h₃₂ := List.mem_rtakeWhile_imp hmem
      simp only [ne_eq, decide_not, Bool.not_eq_eq_eq_not, Bool.not_false, decide_eq_true_eq] at h₀ h₃₂
      rw [h₀] at h₃₂
      exact absurd h₃₂ (by decide)
    rw [hnil, List.append_nil] at hzero
    exact ⟨takeWhile_eq_self_iff.1 hzero, rdropWhile_eq_self_iff.1 (h ▸ hzero)⟩
  · rintro ⟨h₀, hl⟩
    rw [takeWhile_eq_self_iff.2 h₀, rdropWhile_eq_self_iff.2 hl]

/-! ## The cases -/

/-- Both paths copy the same bytes. -/
theorem agree_plain {id : LogicalTypeId}
    (hp : ConvertPostgresParameterToDuckValue E value attr_type = .ok ⟨id, .plain memory⟩)
    (ht : ConvertPostgresToBaseDuckColumnType S attr_type attr_type type_modifier = .plain id)
    (hc : convert E attr_type (.plain id) value = .ok (.plain memory)) (hid : id ≠ .TINYINT)
    (ho : attr_type ∉ [BPCHAROID, TEXTOID, JSONOID, VARCHAROID, DATEOID, TIMESTAMPOID, TIMESTAMPTZOID, BITOID,
      VARBITOID]) :
    Agree (ConvertPostgresParameterToDuckValue E value attr_type) (scan E S type_modifier value attr_type) ↔
      Covered E value attr_type := by
  simp only [List.mem_cons, List.not_mem_nil, or_false, not_or] at ho
  refine iff_of_true ?_ ?_
  · rw [hp, scan_ok ht hc hid]
    exact rfl
  · simp [Covered, ho]

/-- What is asked of a text. -/
theorem covered_text (ho : attr_type ∈ [BPCHAROID, TEXTOID, JSONOID, VARCHAROID]) :
    Covered E value attr_type ↔ (0 ∉ value.VARDATA_ANY ∧ E.StringIsValid value.VARDATA_ANY = true) ∧
      (attr_type = BPCHAROID → value.VARDATA_ANY.getLast? ≠ some 32) := by
  have hdate : attr_type ≠ DATEOID := by
    rintro rfl
    revert ho
    decide
  have htimestamp : attr_type ∉ [TIMESTAMPOID, TIMESTAMPTZOID] := by
    intro h
    simp only [List.mem_cons, List.not_mem_nil, or_false] at h
    rcases h with rfl | rfl <;> revert ho <;> decide
  have hbit : attr_type ∉ [BITOID, VARBITOID] := by
    intro h
    simp only [List.mem_cons, List.not_mem_nil, or_false] at h
    rcases h with rfl | rfl <;> revert ho <;> decide
  constructor
  · intro h
    exact ⟨h.1 ho, h.2.1⟩
  · intro h
    exact ⟨fun _ => h.1, h.2, fun h => absurd h hdate, fun h => absurd h htimestamp, fun h => absurd h hbit⟩

/-- The parameter is cut at the first null character, and has to be valid; the scan gives `bytes`. -/
theorem agree_string_iff {bytes : List UInt8} :
    Agree (textParameter E value) (.ok (some ⟨.VARCHAR, .string bytes⟩)) ↔
      E.StringIsValid bytes = true ∧ value.VARDATA_ANY.takeWhile (· ≠ 0) = bytes := by
  rw [textParameter]
  constructor
  · intro h
    split at h
    next hv =>
      simp only [Agree, Option.some.injEq, Value.mk.injEq, Element.string.injEq, true_and] at h
      rw [← h] at hv
      exact ⟨hv, h.symm⟩
    next => exact h.elim
  · rintro ⟨hv, rfl⟩
    rw [if_pos hv]
    exact rfl

/-- A text parameter agrees where the text is kept in full. -/
theorem agree_text (ht : ConvertPostgresToBaseDuckColumnType S attr_type attr_type type_modifier = type)
    (hid : type.id = .VARCHAR)
    (hc : convert E attr_type type value = .ok (AppendString value (attr_type = BPCHAROID)))
    (hp : ConvertPostgresParameterToDuckValue E value attr_type = textParameter E value)
    (ho : attr_type ∈ [BPCHAROID, TEXTOID, JSONOID, VARCHAROID]) :
    Agree (ConvertPostgresParameterToDuckValue E value attr_type) (scan E S type_modifier value attr_type) ↔
      Covered E value attr_type := by
  have hscanned : scan E S type_modifier value attr_type = .ok (some ⟨.VARCHAR, .string
      (if attr_type = BPCHAROID then value.VARDATA_ANY.rdropWhile (· = 32) else value.VARDATA_ANY)⟩) := by
    rw [scan_ok ht hc (by rw [hid]; decide), hid, AppendString_eq]
    simp [Written.readBack]
  rw [covered_text ho, hp, hscanned, agree_string_iff]
  by_cases hb : attr_type = BPCHAROID
  · rw [if_pos hb, takeWhile_eq_rdropWhile_iff]
    constructor
    · rintro ⟨hv, h₀, hl⟩
      rw [rdropWhile_eq_self_iff.2 hl] at hv
      exact ⟨⟨h₀, hv⟩, fun _ => hl⟩
    · rintro ⟨⟨h₀, hv⟩, hl⟩
      rw [rdropWhile_eq_self_iff.2 (hl hb)]
      exact ⟨hv, h₀, hl hb⟩
  · rw [if_neg hb, takeWhile_eq_self_iff]
    constructor
    · rintro ⟨hv, h₀⟩
      exact ⟨⟨h₀, hv⟩, fun h => absurd h hb⟩
    · rintro ⟨⟨h₀, hv⟩, -⟩
      exact ⟨hv, h₀⟩

/-! ## Dates and timestamps -/

/-- A date is shifted by its offset unless it is one of the two infinities. -/
theorem appendDate_shift_iff {H : Types.Headers} {d : BitVec 32} (hH : H.Documented) :
    Types.AppendDate H d = .ok (d + Types.PGDUCKDB_DUCK_DATE_OFFSET) ↔
      d ≠ H.DATEVAL_NOBEGIN ∧ d ≠ H.DATEVAL_NOEND := by
  obtain ⟨k, hk⟩ := @exists_toInt_add _ d Types.PGDUCKDB_DUCK_DATE_OFFSET
  have hlow := (d + Types.PGDUCKDB_DUCK_DATE_OFFSET).le_toInt
  have hhigh := @BitVec.toInt_lt _ (d + Types.PGDUCKDB_DUCK_DATE_OFFSET)
  rw [Types.toInt_DATE_OFFSET] at hk
  rw [Types.AppendDate]
  split
  next h =>
    refine iff_of_false ?_ fun hne => hne.1 h
    rw [Types.pure_eq_ok_iff]
    intro heq
    rw [← heq, h, hH.DATEVAL_NOBEGIN, hH.date_ninfinity] at hk
    omega
  next hb =>
  split
  next h =>
    refine iff_of_false ?_ fun hne => hne.2 h
    rw [Types.pure_eq_ok_iff]
    intro heq
    rw [← heq, h, hH.DATEVAL_NOEND, hH.date_infinity] at hk
    omega
  next he => exact iff_of_true rfl ⟨hb, he⟩

/-- A timestamp is shifted by its offset unless DuckDB cannot hold it. -/
theorem appendInstant_shift_iff {H : Types.Headers} {t : BitVec 64} {format : String} (hH : H.Documented) :
    Types.appendInstant H format t = .ok (t + Types.PGDUCKDB_DUCK_TIMESTAMP_OFFSET) ↔
      t.toInt + Types.PGDUCKDB_DUCK_TIMESTAMP_OFFSET.toInt ∈ Types.Accepted := by
  rw [Types.appendInstant_ok hH]
  constructor
  · obtain ⟨k, hk⟩ := @exists_toInt_add _ t Types.PGDUCKDB_DUCK_TIMESTAMP_OFFSET
    rw [Types.toInt_TIMESTAMP_OFFSET] at hk
    rintro (⟨ht, hv⟩ | ⟨ht, hv⟩ | ⟨hv, he⟩)
    · rw [hv, ht, hH.DT_NOBEGIN, hH.timestamp_ninfinity] at hk
      omega
    · rw [hv, ht, hH.DT_NOEND, hH.timestamp_infinity] at hk
      omega
    · rwa [← he]
  · intro h
    exact .inr (.inr ⟨Types.toInt_shift h ▸ h, Types.toInt_shift h⟩)

/-- The scan checks what it writes, or writes something else, and the parameter is shifted all the same. -/
theorem agree_shifted {id : LogicalTypeId} {n width : ℕ} {shifted : BitVec width}
    {append : Except Types.OutOfRangeException (BitVec width)} (hwidth : 2 ^ width = 256 ^ n)
    (hp : ConvertPostgresParameterToDuckValue E value attr_type = .ok ⟨id, .plain (bytes n shifted.toNat)⟩)
    (ht : ConvertPostgresToBaseDuckColumnType S attr_type attr_type type_modifier = .plain id)
    (hok : ∀ v, append = .ok v → convert E attr_type (.plain id) value = .ok (.plain (bytes n v.toNat)))
    (herror : ∀ e, append = .error e → convert E attr_type (.plain id) value = .error (.OutOfRange e))
    (hid : id ≠ .TINYINT) :
    Agree (ConvertPostgresParameterToDuckValue E value attr_type) (scan E S type_modifier value attr_type) ↔
      append = .ok shifted := by
  rw [hp]
  cases ha : append with
  | error e =>
    rw [scan_error ht (herror e ha)]
    exact iff_of_false (fun h => h) (by simp)
  | ok v =>
    rw [scan_ok ht (hok v ha) hid]
    have hlt : ∀ x : BitVec width, x.toNat < 256 ^ n := by
      intro x
      rw [← hwidth]
      exact x.isLt
    have hbytes : bytes n v.toNat = bytes n shifted.toNat ↔ v = shifted := by
      rw [bytes_inj (hlt v) (hlt shifted), BitVec.toNat_inj]
    simp [Agree, Written.readBack, hbytes, LogicalType.id]

/-- A date that both paths cover is neither of the two infinities. -/
theorem covered_date : Covered E value DATEOID ↔
    value.GetInt32 ≠ E.headers.DATEVAL_NOBEGIN ∧ value.GetInt32 ≠ E.headers.DATEVAL_NOEND := by
  simp [Covered, DATEOID, BPCHAROID, TEXTOID, JSONOID, VARCHAROID, TIMESTAMPOID, TIMESTAMPTZOID, BITOID, VARBITOID]

/-- A date agrees just where it is covered. -/
theorem agree_date (hH : E.headers.Documented) :
    Agree (ConvertPostgresParameterToDuckValue E value DATEOID) (scan E S type_modifier value DATEOID) ↔
      Covered E value DATEOID := by
  rw [covered_date, ← appendDate_shift_iff hH]
  refine agree_shifted rfl rfl rfl ?_ ?_ (by decide)
  · intro v hv
    show appendDate E value = _
    rw [appendDate, hv]
  · intro e he
    show appendDate E value = _
    rw [appendDate, he]

/-- A timestamp agrees just where it is covered. -/
theorem agree_timestamp {id : LogicalTypeId} {format : String} (hH : E.headers.Documented)
    (ho : attr_type ∈ [TIMESTAMPOID, TIMESTAMPTZOID])
    (hp : ConvertPostgresParameterToDuckValue E value attr_type =
      .ok ⟨id, .plain (bytes 8 (value.toWord + Types.PGDUCKDB_DUCK_TIMESTAMP_OFFSET).toNat)⟩)
    (ht : ConvertPostgresToBaseDuckColumnType S attr_type attr_type type_modifier = .plain id)
    (hc : convert E attr_type (.plain id) value = appendInstant (Types.appendInstant E.headers format) value)
    (hid : id ≠ .TINYINT) :
    Agree (ConvertPostgresParameterToDuckValue E value attr_type) (scan E S type_modifier value attr_type) ↔
      Covered E value attr_type := by
  have hcov : Covered E value attr_type ↔
      value.toWord.toInt + Types.PGDUCKDB_DUCK_TIMESTAMP_OFFSET.toInt ∈ Types.Accepted := by
    simp only [List.mem_cons, List.not_mem_nil, or_false] at ho
    rcases ho with rfl | rfl <;>
      simp [Covered, DATEOID, BPCHAROID, TEXTOID, JSONOID, VARCHAROID, TIMESTAMPOID, TIMESTAMPTZOID, BITOID,
        VARBITOID]
  rw [hcov, ← @appendInstant_shift_iff _ _ format hH]
  refine agree_shifted rfl hp ht ?_ ?_ hid
  · intro v hv
    rw [hc, appendInstant, hv]
  · intro e he
    rw [hc, appendInstant, he]

/-! ## Bit strings -/

/-- The element of the column is read after the text that it points to is gone. -/
theorem agree_bits (ho : attr_type ∈ [BITOID, VARBITOID]) :
    Agree (ConvertPostgresParameterToDuckValue E value attr_type) (scan E S type_modifier value attr_type) ↔
      Covered E value attr_type := by
  simp only [List.mem_cons, List.not_mem_nil, or_false] at ho
  have hp : ConvertPostgresParameterToDuckValue E value attr_type =
      .ok ⟨.BIT, .string (E.ToBit (DatumGetBitString E value))⟩ := by
    rcases ho with rfl | rfl <;> rfl
  have ht : ConvertPostgresToBaseDuckColumnType S attr_type attr_type type_modifier = .plain .BIT := by
    rcases ho with rfl | rfl <;> rfl
  have hc : convert E attr_type (.plain .BIT) value = .ok (.temporary (E.ToBit (DatumGetBitString E value))) := rfl
  have hcov : Covered E value attr_type ↔
      (E.ToBit (DatumGetBitString E value)).length ≤ string_t.INLINE_LENGTH := by
    rcases ho with rfl | rfl <;>
      simp [Covered, DATEOID, BPCHAROID, TEXTOID, JSONOID, VARCHAROID, TIMESTAMPOID, TIMESTAMPTZOID, BITOID,
        VARBITOID]
  rw [hcov, hp, scan_ok ht hc (by decide), Written.readBack]
  split
  next h => exact iff_of_true rfl h
  next h =>
    refine iff_of_false ?_ h
    intro hagree
    simp [Agree] at hagree

/-! ## All types -/

/-- A parameter is converted to what a scan reads from a column, or both raise, exactly where the value is
covered. -/
theorem ConvertPostgresParameterToDuckValue_agrees_iff (hH : E.headers.Documented) (ha : Accepted attr_type) :
    Agree (ConvertPostgresParameterToDuckValue E value attr_type) (scan E S type_modifier value attr_type) ↔
      Covered E value attr_type := by
  simp only [Accepted, List.mem_cons, List.not_mem_nil, or_false] at ha
  rcases ha with rfl | rfl | rfl | rfl | rfl | rfl | rfl | rfl | rfl | rfl | rfl | rfl | rfl | rfl | rfl | rfl |
    rfl | rfl | rfl
  · exact agree_plain rfl rfl rfl (by decide) (by decide)
  · exact agree_plain rfl rfl rfl (by decide) (by decide)
  · exact agree_plain rfl rfl rfl (by decide) (by decide)
  · exact agree_plain rfl rfl rfl (by decide) (by decide)
  · exact agree_text rfl rfl rfl rfl (by decide)
  · exact agree_text rfl rfl rfl rfl (by decide)
  · exact agree_text rfl rfl rfl rfl (by decide)
  · exact agree_text rfl rfl rfl rfl (by decide)
  · exact agree_date hH
  · exact agree_timestamp hH (by decide) rfl rfl rfl (by decide)
  · exact agree_timestamp hH (by decide) rfl rfl rfl (by decide)
  · exact agree_plain rfl rfl rfl (by decide) (by decide)
  · exact agree_bits (by decide)
  · exact agree_bits (by decide)
  · exact agree_plain rfl rfl rfl (by decide) (by decide)
  · exact agree_plain rfl rfl rfl (by decide) (by decide)
  · exact agree_plain rfl rfl rfl (by decide) (by decide)
  · exact agree_plain rfl rfl rfl (by decide) (by decide)
  · exact agree_plain rfl rfl rfl (by decide) (by decide)

end

/-- The first of January 2000. -/
theorem ConvertPostgresParameterToDuckValue_agrees_iff_date :
    Agree (ConvertPostgresParameterToDuckValue runtime (.word 0) DATEOID)
      (scan runtime session (-1) (.word 0) DATEOID) := by
  have haccepted : Accepted DATEOID := by simp [Accepted]
  have hcovered : Covered runtime (.word 0) DATEOID := by
    rw [covered_date]
    exact ⟨by decide, by decide⟩
  exact (ConvertPostgresParameterToDuckValue_agrees_iff Types.headers_documented haccepted).2 hcovered

/-- `'infinity'::date` as a parameter is some day long ago, and the blank of `'ab '::char(3)` is kept. -/
theorem infinity_and_blank_not_read :
    ¬Agree (ConvertPostgresParameterToDuckValue runtime (.word 2147483647) DATEOID)
      (scan runtime session (-1) (.word 2147483647) DATEOID) ∧
    ¬Agree (ConvertPostgresParameterToDuckValue runtime (.varlena [97, 98, 32]) BPCHAROID)
      (scan runtime session 7 (.varlena [97, 98, 32]) BPCHAROID) := by
  constructor
  · rw [agree_date Types.headers_documented]
    intro h
    exact (h.2.2.1 rfl).2 rfl
  · rw [agree_text rfl rfl rfl rfl (by decide)]
    intro h
    exact h.2.1 rfl rfl

end PgDuckdb.Scalars
