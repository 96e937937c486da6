import Mathlib
import PgDuckdb.Lib.MachineInt

/-!
# Dates and timestamps

Postgres counts days and microseconds from 2000, DuckDB from 1970, and they write the infinities
differently. `AppendTimestamp` and `AppendDate` read a Postgres value into a vector, `ConvertTimestampDatum`
and `ConvertDateDatum` write a DuckDB value into a datum. Timestamps are checked against the range that
both systems have; the check comes after an addition that may wrap, and a wrapped sum never passes it
(`valid_shift`). Dates need no check on the way in: DuckDB has every date that Postgres has.

Seconds and milliseconds are scaled before the check. The product wraps too, and may pass.
-/

namespace PgDuckdb.Types

open Lib

/-- What the headers of DuckDB and of Postgres say, and is not in this repository. -/
structure Headers where
  DATEVAL_NOBEGIN : BitVec 32
  DATEVAL_NOEND : BitVec 32
  DT_NOBEGIN : BitVec 64
  DT_NOEND : BitVec 64
  /-- `date_t::ninfinity()` and its like. -/
  date_ninfinity : BitVec 32
  date_infinity : BitVec 32
  timestamp_ninfinity : BitVec 64
  timestamp_infinity : BitVec 64
  /-- `Date::FromDate`, of a year, a month and a day. -/
  FromDate : ℤ → ℤ → ℤ → BitVec 32

/-- Each value as documented. A date is the number of days since 1970. -/
structure Headers.Documented (H : Headers) : Prop where
  DATEVAL_NOBEGIN : H.DATEVAL_NOBEGIN.toInt = -2 ^ 31
  DATEVAL_NOEND : H.DATEVAL_NOEND.toInt = 2 ^ 31 - 1
  DT_NOBEGIN : H.DT_NOBEGIN.toInt = -2 ^ 63
  DT_NOEND : H.DT_NOEND.toInt = 2 ^ 63 - 1
  date_ninfinity : H.date_ninfinity.toInt = -(2 ^ 31 - 1)
  date_infinity : H.date_infinity.toInt = 2 ^ 31 - 1
  timestamp_ninfinity : H.timestamp_ninfinity.toInt = -(2 ^ 63 - 1)
  timestamp_infinity : H.timestamp_infinity.toInt = 2 ^ 63 - 1
  FromDate_min : (H.FromDate (-4713) 11 24).toInt = -2440588
  FromDate_max : (H.FromDate 5874897 12 31).toInt = 2145042905

/-- The days from 1970, where DuckDB counts from, to 2000, where Postgres does. -/
def PGDUCKDB_DUCK_DATE_OFFSET : BitVec 32 := 10957

/-- `static_cast<int64_t>(PGDUCKDB_DUCK_DATE_OFFSET) * 86400000000`. -/
def PGDUCKDB_DUCK_TIMESTAMP_OFFSET : BitVec 64 := PGDUCKDB_DUCK_DATE_OFFSET.signExtend 64 * 86400000000

/-- The end of the instants that Postgres has, in microseconds from 1970. -/
def PGDUCKDB_MAX_TIMESTAMP_VALUE : BitVec 64 := 9223371244800000000
/-- The first of them. -/
def PGDUCKDB_MIN_TIMESTAMP_VALUE : BitVec 64 := -210866803200000000

/-- The text of the exception, and the two values that it is completed with. -/
structure OutOfRangeException where
  format : String
  least : ℤ
  greatest : ℤ
deriving DecidableEq

section
variable (H : Headers)

/-- The first date that Postgres has, as DuckDB counts. -/
def PGDUCKDB_PG_MIN_DATE_VALUE : BitVec 32 := H.FromDate (-4713) 11 24
/-- The last one. -/
def PGDUCKDB_PG_MAX_DATE_VALUE : BitVec 32 := H.FromDate 5874897 12 31

/-- DuckDB's date is one of Postgres, or an infinite one. -/
def ValidDate (dt : BitVec 32) : Bool :=
  if dt = H.date_infinity ∨ dt = H.date_ninfinity then true
  else (PGDUCKDB_PG_MIN_DATE_VALUE H).sle dt && dt.sle (PGDUCKDB_PG_MAX_DATE_VALUE H)

/-- DuckDB's timestamp is one of Postgres. -/
def ValidTimestampOrTimestampTz (timestamp : BitVec 64) : Bool :=
  PGDUCKDB_MIN_TIMESTAMP_VALUE.sle timestamp && timestamp.slt PGDUCKDB_MAX_TIMESTAMP_VALUE

/-- The exception with the limits of the timestamps. -/
def timestampOutOfRange (format : String) : OutOfRangeException :=
  ⟨format, PGDUCKDB_MIN_TIMESTAMP_VALUE.toInt, PGDUCKDB_MAX_TIMESTAMP_VALUE.toInt⟩

/-! ## Into a vector

Each returns what is stored at the offset that it was given. -/

/-- There is no check: nothing is ever thrown. -/
def AppendDate (date : BitVec 32) : Except OutOfRangeException (BitVec 32) :=
  if date = H.DATEVAL_NOBEGIN then pure H.date_ninfinity
  else if date = H.DATEVAL_NOEND then pure H.date_infinity
  else pure (date + PGDUCKDB_DUCK_DATE_OFFSET)

/-- What `AppendTimestamp` and `AppendTimestampTz` do. -/
def appendInstant (format : String) (timestamp : BitVec 64) : Except OutOfRangeException (BitVec 64) :=
  if timestamp = H.DT_NOBEGIN then pure H.timestamp_ninfinity
  else if timestamp = H.DT_NOEND then pure H.timestamp_infinity
  else if !ValidTimestampOrTimestampTz (timestamp + PGDUCKDB_DUCK_TIMESTAMP_OFFSET) then
    throw (timestampOutOfRange format)
  else pure (timestamp + PGDUCKDB_DUCK_TIMESTAMP_OFFSET)

/-- The instant of a `TIMESTAMP` column. -/
def AppendTimestamp : BitVec 64 → Except OutOfRangeException (BitVec 64) :=
  appendInstant H "The Timestamp value should be between min and max value (%s <-> %s)"

/-- The instant of a `TIMESTAMP_TZ` column. -/
def AppendTimestampTz : BitVec 64 → Except OutOfRangeException (BitVec 64) :=
  appendInstant H "The TimestampTz value should be between min and max value (%s <-> %s)"

/-! ## Into a datum -/

/-- A date of DuckDB for Postgres. -/
def ConvertDateDatum (date : BitVec 32) : Except OutOfRangeException (BitVec 32) :=
  if !ValidDate H date then
    throw ⟨"The value should be between min and max value (%s <-> %s)",
      (PGDUCKDB_PG_MIN_DATE_VALUE H).toInt, (PGDUCKDB_PG_MAX_DATE_VALUE H).toInt⟩
  else if date = H.date_ninfinity then pure H.DATEVAL_NOBEGIN
  else if date = H.date_infinity then pure H.DATEVAL_NOEND
  else pure (date - PGDUCKDB_DUCK_DATE_OFFSET)

/-- What `ConvertTimestampDatum` and `ConvertTimestampTzDatum` do. -/
def convertInstant (format : String) (scale : BitVec 64 → BitVec 64) (rawValue : BitVec 64) :
    Except OutOfRangeException (BitVec 64) :=
  if rawValue = H.timestamp_ninfinity then pure H.DT_NOBEGIN
  else if rawValue = H.timestamp_infinity then pure H.DT_NOEND
  else if !ValidTimestampOrTimestampTz (scale rawValue) then throw (timestampOutOfRange format)
  else pure (scale rawValue - PGDUCKDB_DUCK_TIMESTAMP_OFFSET)

/-- The logical types whose values are `int64_t` counts of some unit. -/
inductive TimestampType
  | TIMESTAMP
  | TIMESTAMP_S
  | TIMESTAMP_MS
  | TIMESTAMP_NS

/-- Division is that of C++, towards zero. -/
def TimestampType.scale : TimestampType → BitVec 64 → BitVec 64
  | TIMESTAMP_MS, rawValue => rawValue * 1000
  | TIMESTAMP_NS, rawValue => rawValue.sdiv 1000
  | TIMESTAMP_S, rawValue => rawValue * 1000000
  | TIMESTAMP, rawValue => rawValue

/-- A timestamp of DuckDB for Postgres, in whatever unit it is. -/
def ConvertTimestampDatum (id : TimestampType) : BitVec 64 → Except OutOfRangeException (BitVec 64) :=
  convertInstant H "The Timestamp value should be between min and max value (%s <-> %s)" id.scale

/-- A timestamp with time zone for Postgres. -/
def ConvertTimestampTzDatum : BitVec 64 → Except OutOfRangeException (BitVec 64) :=
  convertInstant H "The TimestampTz value should be between min and max value (%s <-> %s)" id

end

/-! ## The range -/

/-- The instants that both systems have, in microseconds since 1970. -/
def Accepted : Set ℤ :=
  Set.Ico PGDUCKDB_MIN_TIMESTAMP_VALUE.toInt PGDUCKDB_MAX_TIMESTAMP_VALUE.toInt

section
variable {H : Headers} {x y : ℤ} {t v : BitVec 64} {d u : BitVec 32} {format : String}
variable {scale : BitVec 64 → BitVec 64}

/-- A result is what was returned. -/
theorem pure_eq_ok_iff {ε α : Type} {a b : α} : (pure a : Except ε α) = .ok b ↔ a = b :=
  ⟨Except.ok.inj, congrArg _⟩

/-- The instants of Postgres in numbers. -/
theorem mem_Accepted : x ∈ Accepted ↔ -210866803200000000 ≤ x ∧ x < 9223371244800000000 := Iff.rfl

/-- Whether a value is accepted is decidable. -/
instance : Decidable (x ∈ Accepted) := decidable_of_iff' _ mem_Accepted

/-- The offset of the timestamps, in microseconds. -/
theorem toInt_TIMESTAMP_OFFSET : PGDUCKDB_DUCK_TIMESTAMP_OFFSET.toInt = 946684800000000 := by decide

/-- The offset of the dates, in days. -/
theorem toInt_DATE_OFFSET : PGDUCKDB_DUCK_DATE_OFFSET.toInt = 10957 := by decide

/-- What passes the check of the code are the instants of Postgres. -/
theorem valid_iff : ValidTimestampOrTimestampTz v ↔ v.toInt ∈ Accepted := by
  rw [ValidTimestampOrTimestampTz, Bool.and_eq_true, BitVec.sle_iff_toInt_le, BitVec.slt_iff_toInt_lt]
  rfl

/-- The check of the sum as it was computed says whether the sum that was meant is in the range. Where the
addition wraps the result is before the range, and what was meant is behind it. -/
theorem valid_shift : ValidTimestampOrTimestampTz (t + PGDUCKDB_DUCK_TIMESTAMP_OFFSET) ↔
    t.toInt + PGDUCKDB_DUCK_TIMESTAMP_OFFSET.toInt ∈ Accepted := by
  obtain ⟨k, hk⟩ := @exists_toInt_add _ t PGDUCKDB_DUCK_TIMESTAMP_OFFSET
  have h₁ := t.le_toInt
  have h₂ := @BitVec.toInt_lt _ t
  have h₃ := (t + PGDUCKDB_DUCK_TIMESTAMP_OFFSET).le_toInt
  have h₄ := @BitVec.toInt_lt _ (t + PGDUCKDB_DUCK_TIMESTAMP_OFFSET)
  rw [valid_iff, mem_Accepted, mem_Accepted]
  rw [toInt_TIMESTAMP_OFFSET] at *
  omega

/-- The addition of the offset does not wrap around where its result is accepted. -/
theorem toInt_shift (h : t.toInt + PGDUCKDB_DUCK_TIMESTAMP_OFFSET.toInt ∈ Accepted) :
    (t + PGDUCKDB_DUCK_TIMESTAMP_OFFSET).toInt = t.toInt + PGDUCKDB_DUCK_TIMESTAMP_OFFSET.toInt := by
  obtain ⟨k, hk⟩ := @exists_toInt_add _ t PGDUCKDB_DUCK_TIMESTAMP_OFFSET
  have h₃ := (t + PGDUCKDB_DUCK_TIMESTAMP_OFFSET).le_toInt
  have h₄ := @BitVec.toInt_lt _ (t + PGDUCKDB_DUCK_TIMESTAMP_OFFSET)
  rw [mem_Accepted] at h
  rw [toInt_TIMESTAMP_OFFSET] at *
  omega

/-- Going back from the range does not wrap. -/
theorem toInt_unshift (h : v.toInt ∈ Accepted) :
    (v - PGDUCKDB_DUCK_TIMESTAMP_OFFSET).toInt = v.toInt - PGDUCKDB_DUCK_TIMESTAMP_OFFSET.toInt := by
  obtain ⟨k, hk⟩ := @exists_toInt_sub _ v PGDUCKDB_DUCK_TIMESTAMP_OFFSET
  have h₃ := (v - PGDUCKDB_DUCK_TIMESTAMP_OFFSET).le_toInt
  have h₄ := @BitVec.toInt_lt _ (v - PGDUCKDB_DUCK_TIMESTAMP_OFFSET)
  rw [mem_Accepted] at h
  rw [toInt_TIMESTAMP_OFFSET] at *
  omega

/-! ## Timestamps there and back -/

/-- A timestamp of Postgres and one of DuckDB that mean the same. -/
def SameInstant (H : Headers) (t v : BitVec 64) : Prop :=
  (t = H.DT_NOBEGIN ∧ v = H.timestamp_ninfinity) ∨ (t = H.DT_NOEND ∧ v = H.timestamp_infinity) ∨
  (v.toInt ∈ Accepted ∧ v.toInt = t.toInt + PGDUCKDB_DUCK_TIMESTAMP_OFFSET.toInt)

namespace Headers.Documented

variable (hH : H.Documented)
include hH

/-- The two infinities of Postgres are not the same. -/
theorem noBegin_ne_noEnd : H.DT_NOBEGIN ≠ H.DT_NOEND := by
  intro h
  have h := congrArg BitVec.toInt h
  rw [hH.DT_NOBEGIN, hH.DT_NOEND] at h
  omega

/-- Nor are those of DuckDB. -/
theorem ninfinity_ne_infinity : H.timestamp_ninfinity ≠ H.timestamp_infinity := by
  intro h
  have h := congrArg BitVec.toInt h
  rw [hH.timestamp_ninfinity, hH.timestamp_infinity] at h
  omega

/-- An infinity of Postgres is not an instant of the range. -/
theorem noBegin_out : H.DT_NOBEGIN.toInt + PGDUCKDB_DUCK_TIMESTAMP_OFFSET.toInt ∉ Accepted := by
  rw [mem_Accepted, hH.DT_NOBEGIN, toInt_TIMESTAMP_OFFSET]
  omega

/-- The end of time is no instant, even after the offset is added. -/
theorem noEnd_out : H.DT_NOEND.toInt + PGDUCKDB_DUCK_TIMESTAMP_OFFSET.toInt ∉ Accepted := by
  rw [mem_Accepted, hH.DT_NOEND, toInt_TIMESTAMP_OFFSET]
  omega

/-- DuckDB's negative infinity is no instant. -/
theorem ninfinity_out : H.timestamp_ninfinity.toInt ∉ Accepted := by
  rw [mem_Accepted, hH.timestamp_ninfinity]
  omega

/-- DuckDB's infinity is no instant. -/
theorem infinity_out : H.timestamp_infinity.toInt ∉ Accepted := by
  rw [mem_Accepted, hH.timestamp_infinity]
  omega

/-- Only DuckDB's negative infinity is the begin of time. -/
theorem sameInstant_noBegin : SameInstant H H.DT_NOBEGIN v ↔ v = H.timestamp_ninfinity := by
  constructor
  · rintro (⟨-, h⟩ | ⟨h, -⟩ | ⟨h, he⟩)
    · exact h
    · exact absurd h hH.noBegin_ne_noEnd
    · exact absurd (he ▸ h) hH.noBegin_out
  · exact fun h => .inl ⟨rfl, h⟩

/-- Only DuckDB's infinity is the end of time. -/
theorem sameInstant_noEnd : SameInstant H H.DT_NOEND v ↔ v = H.timestamp_infinity := by
  constructor
  · rintro (⟨h, -⟩ | ⟨-, h⟩ | ⟨h, he⟩)
    · exact absurd h.symm hH.noBegin_ne_noEnd
    · exact h
    · exact absurd (he ▸ h) hH.noEnd_out
  · exact fun h => .inr (.inl ⟨rfl, h⟩)

/-- Only the begin of time is DuckDB's negative infinity. -/
theorem sameInstant_ninfinity : SameInstant H t H.timestamp_ninfinity ↔ t = H.DT_NOBEGIN := by
  constructor
  · rintro (⟨h, -⟩ | ⟨-, h⟩ | ⟨h, -⟩)
    · exact h
    · exact absurd h hH.ninfinity_ne_infinity
    · exact absurd h hH.ninfinity_out
  · exact fun h => .inl ⟨h, rfl⟩

/-- Only the end of time is DuckDB's infinity. -/
theorem sameInstant_infinity : SameInstant H t H.timestamp_infinity ↔ t = H.DT_NOEND := by
  constructor
  · rintro (⟨-, h⟩ | ⟨h, -⟩ | ⟨h, -⟩)
    · exact absurd h.symm hH.ninfinity_ne_infinity
    · exact h
    · exact absurd h hH.infinity_out
  · exact fun h => .inr (.inl ⟨h, rfl⟩)

end Headers.Documented

/-- Reading a timestamp gives the one that means the same, if there is one. -/
theorem appendInstant_ok (hH : H.Documented) : appendInstant H format t = .ok v ↔ SameInstant H t v := by
  rw [appendInstant]
  split
  next h => rw [h, hH.sameInstant_noBegin, pure_eq_ok_iff, eq_comm]
  next hb =>
  split
  next h => rw [h, hH.sameInstant_noEnd, pure_eq_ok_iff, eq_comm]
  next he =>
  rw [SameInstant]
  split
  next h =>
    have h : ¬ValidTimestampOrTimestampTz (t + PGDUCKDB_DUCK_TIMESTAMP_OFFSET) := by simpa using h
    rw [valid_shift] at h
    constructor
    · intro h'
      cases h'
    · rintro (⟨h', -⟩ | ⟨h', -⟩ | ⟨h', he'⟩)
      · exact absurd h' hb
      · exact absurd h' he
      · exact absurd (he' ▸ h') h
  next h =>
    have h : ValidTimestampOrTimestampTz (t + PGDUCKDB_DUCK_TIMESTAMP_OFFSET) := by simpa using h
    rw [valid_shift] at h
    rw [pure_eq_ok_iff]
    constructor
    · rintro rfl
      exact .inr (.inr ⟨toInt_shift h ▸ h, toInt_shift h⟩)
    · rintro (⟨h', -⟩ | ⟨h', -⟩ | ⟨-, he'⟩)
      · exact absurd h' hb
      · exact absurd h' he
      · exact BitVec.eq_of_toInt_eq ((toInt_shift h).trans he'.symm)

/-- Writing a timestamp gives the one whose instant the scaled value is. -/
theorem convertInstant_finite (hb : v ≠ H.timestamp_ninfinity) (he : v ≠ H.timestamp_infinity) :
    convertInstant H format scale v =
      if (scale v).toInt ∈ Accepted then .ok (scale v - PGDUCKDB_DUCK_TIMESTAMP_OFFSET)
      else .error (timestampOutOfRange format) := by
  rw [convertInstant, if_neg hb, if_neg he]
  by_cases h : (scale v).toInt ∈ Accepted
  · have hv := valid_iff.2 h
    rw [if_pos h, hv]
    rfl
  · have hv : ValidTimestampOrTimestampTz (scale v) = false := by
      rw [← Bool.not_eq_true, valid_iff]
      exact h
    rw [if_neg h, hv]
    rfl

/-- The conversion gives the same instant, and there is none to give otherwise. -/
theorem convertInstant_ok (hH : H.Documented) :
    convertInstant H format id v = .ok t ↔ SameInstant H t v := by
  by_cases hb : v = H.timestamp_ninfinity
  · rw [convertInstant, if_pos hb, hb, hH.sameInstant_ninfinity, pure_eq_ok_iff, eq_comm]
  by_cases he : v = H.timestamp_infinity
  · rw [convertInstant, if_neg hb, if_pos he, he, hH.sameInstant_infinity, pure_eq_ok_iff, eq_comm]
  rw [convertInstant_finite hb he, SameInstant, id]
  split
  next h =>
    have hu := toInt_unshift h
    constructor
    · intro ht
      cases ht
      refine .inr (.inr ⟨h, ?_⟩)
      omega
    · rintro (⟨-, h'⟩ | ⟨-, h'⟩ | ⟨-, h'⟩)
      · exact absurd h' hb
      · exact absurd h' he
      · refine congrArg _ (BitVec.eq_of_toInt_eq ?_)
        omega
  next h =>
    constructor
    · intro ht
      cases ht
    · rintro (⟨-, h'⟩ | ⟨-, h'⟩ | ⟨h', -⟩)
      · exact absurd h' hb
      · exact absurd h' he
      · exact absurd h' h

/-- The two directions of a conversion of timestamps fit together: an exception is thrown exactly for a
finite instant outside the range, everything else comes back as it was, and infinities are infinities. -/
structure InstantRoundTrip (H : Headers) (append convert : BitVec 64 → Except OutOfRangeException (BitVec 64)) :
    Prop where
  raises : ∀ t, (∃ e, append t = .error e) ↔ t ≠ H.DT_NOBEGIN ∧ t ≠ H.DT_NOEND ∧
    t.toInt + PGDUCKDB_DUCK_TIMESTAMP_OFFSET.toInt ∉ Accepted
  there : ∀ t v, append t = .ok v → convert v = .ok t
  back : ∀ v t, convert v = .ok t → append t = .ok v
  appendLower : ∀ t, append t = .ok H.timestamp_ninfinity ↔ t = H.DT_NOBEGIN
  appendUpper : ∀ t, append t = .ok H.timestamp_infinity ↔ t = H.DT_NOEND
  convertLower : ∀ v, convert v = .ok H.DT_NOBEGIN ↔ v = H.timestamp_ninfinity
  convertUpper : ∀ v, convert v = .ok H.DT_NOEND ↔ v = H.timestamp_infinity

/-- An exception is thrown when there is no timestamp that means the same. -/
theorem appendInstant_error (hH : H.Documented) : (∃ e, appendInstant H format t = .error e) ↔
    t ≠ H.DT_NOBEGIN ∧ t ≠ H.DT_NOEND ∧ t.toInt + PGDUCKDB_DUCK_TIMESTAMP_OFFSET.toInt ∉ Accepted := by
  have hok := fun v => @appendInstant_ok H t v format hH
  constructor
  · rintro ⟨e, h⟩
    rw [h] at hok
    refine ⟨?_, ?_, ?_⟩
    · rintro rfl
      cases (hok _).2 (hH.sameInstant_noBegin.2 rfl)
    · rintro rfl
      cases (hok _).2 (hH.sameInstant_noEnd.2 rfl)
    · intro ha
      cases (hok _).2 (.inr (.inr ⟨toInt_shift ha ▸ ha, toInt_shift ha⟩))
  · rintro ⟨hb, he, ha⟩
    cases h : appendInstant H format t with
    | error e => exact ⟨e, rfl⟩
    | ok v =>
      rcases (hok v).1 h with ⟨h', -⟩ | ⟨h', -⟩ | ⟨h', he'⟩
      · exact absurd h' hb
      · exact absurd h' he
      · exact absurd (he' ▸ h') ha

/-- What is stored comes back, and what cannot be stored raises. -/
theorem instantRoundTrip (hH : H.Documented) (f g : String) :
    InstantRoundTrip H (appendInstant H f) (convertInstant H g id) where
  raises _ := appendInstant_error hH
  there _ _ h := (convertInstant_ok hH).2 ((appendInstant_ok hH).1 h)
  back _ _ h := (appendInstant_ok hH).2 ((convertInstant_ok hH).1 h)
  appendLower _ := (appendInstant_ok hH).trans hH.sameInstant_ninfinity
  appendUpper _ := (appendInstant_ok hH).trans hH.sameInstant_infinity
  convertLower _ := (convertInstant_ok hH).trans hH.sameInstant_noBegin
  convertUpper _ := (convertInstant_ok hH).trans hH.sameInstant_noEnd

/-! ## Dates there and back -/

/-- The dates of Postgres, from 4714-11-24 BC to 5874897-12-31. -/
def IsDate (H : Headers) (d : BitVec 32) : Prop :=
  d = H.DATEVAL_NOBEGIN ∨ d = H.DATEVAL_NOEND ∨ (-2451545 ≤ d.toInt ∧ d.toInt < 2145031949)

/-- A date of Postgres and one of DuckDB that mean the same. -/
def SameDate (H : Headers) (d u : BitVec 32) : Prop :=
  (d = H.DATEVAL_NOBEGIN ∧ u = H.date_ninfinity) ∨ (d = H.DATEVAL_NOEND ∧ u = H.date_infinity) ∨
  (-2440588 ≤ u.toInt ∧ u.toInt ≤ 2145042905 ∧ u.toInt = d.toInt + PGDUCKDB_DUCK_DATE_OFFSET.toInt)

section
variable (hH : H.Documented)
include hH

/-- The infinite dates are told apart on both sides. -/
theorem Headers.Documented.dates_distinct :
    H.DATEVAL_NOBEGIN ≠ H.DATEVAL_NOEND ∧ H.date_ninfinity ≠ H.date_infinity := by
  constructor
  · intro h
    have h := congrArg BitVec.toInt h
    rw [hH.DATEVAL_NOBEGIN, hH.DATEVAL_NOEND] at h
    omega
  · intro h
    have h := congrArg BitVec.toInt h
    rw [hH.date_ninfinity, hH.date_infinity] at h
    omega

/-- Each infinity means the same as one infinity only. -/
theorem sameDate_noBegin : SameDate H H.DATEVAL_NOBEGIN u ↔ u = H.date_ninfinity := by
  constructor
  · rintro (⟨-, h⟩ | ⟨h, -⟩ | ⟨h₁, -, h₂⟩)
    · exact h
    · exact absurd h hH.dates_distinct.1
    · rw [hH.DATEVAL_NOBEGIN, toInt_DATE_OFFSET] at h₂
      omega
  · exact fun h => .inl ⟨rfl, h⟩

/-- Only DuckDB's infinite date is the last one. -/
theorem sameDate_noEnd : SameDate H H.DATEVAL_NOEND u ↔ u = H.date_infinity := by
  constructor
  · rintro (⟨h, -⟩ | ⟨-, h⟩ | ⟨-, h₁, h₂⟩)
    · exact absurd h.symm hH.dates_distinct.1
    · exact h
    · rw [hH.DATEVAL_NOEND, toInt_DATE_OFFSET] at h₂
      omega
  · exact fun h => .inr (.inl ⟨rfl, h⟩)

/-- Only the first date is DuckDB's negative infinite one. -/
theorem sameDate_ninfinity : SameDate H d H.date_ninfinity ↔ d = H.DATEVAL_NOBEGIN := by
  constructor
  · rintro (⟨h, -⟩ | ⟨-, h⟩ | ⟨h, -⟩)
    · exact h
    · exact absurd h hH.dates_distinct.2
    · rw [hH.date_ninfinity] at h
      omega
  · exact fun h => .inl ⟨h, rfl⟩

/-- Only the last date is DuckDB's infinite one. -/
theorem sameDate_infinity : SameDate H d H.date_infinity ↔ d = H.DATEVAL_NOEND := by
  constructor
  · rintro (⟨-, h⟩ | ⟨h, -⟩ | ⟨-, h, -⟩)
    · exact absurd h.symm hH.dates_distinct.2
    · exact h
    · rw [hH.date_infinity] at h
      omega
  · exact fun h => .inr (.inl ⟨h, rfl⟩)

/-- Adding the offset does not wrap at a date of Postgres. -/
theorem AppendDate_ok (hd : IsDate H d) : AppendDate H d = .ok u ↔ SameDate H d u := by
  rw [AppendDate]
  split
  next h => rw [h, sameDate_noBegin hH, pure_eq_ok_iff, eq_comm]
  next hb =>
  split
  next h => rw [h, sameDate_noEnd hH, pure_eq_ok_iff, eq_comm]
  next he =>
  obtain ⟨h₁, h₂⟩ := (hd.resolve_left hb).resolve_left he
  obtain ⟨k, hk⟩ := @exists_toInt_add _ d PGDUCKDB_DUCK_DATE_OFFSET
  have h₃ := (d + PGDUCKDB_DUCK_DATE_OFFSET).le_toInt
  have h₄ := @BitVec.toInt_lt _ (d + PGDUCKDB_DUCK_DATE_OFFSET)
  rw [pure_eq_ok_iff, SameDate, toInt_DATE_OFFSET]
  rw [toInt_DATE_OFFSET] at hk
  constructor
  · rintro rfl
    refine .inr (.inr ⟨?_, ?_, ?_⟩) <;> omega
  · rintro (⟨h, -⟩ | ⟨h, -⟩ | ⟨-, -, h⟩)
    · exact absurd h hb
    · exact absurd h he
    · refine BitVec.eq_of_toInt_eq ?_
      omega

/-- The dates that pass the check, in numbers. -/
theorem ValidDate_iff : ValidDate H u ↔ u = H.date_ninfinity ∨ u = H.date_infinity ∨
    (-2440588 ≤ u.toInt ∧ u.toInt ≤ 2145042905) := by
  rw [ValidDate]
  split
  next h => exact ⟨fun _ => h.elim (fun h => .inr (.inl h)) .inl, fun _ => rfl⟩
  next h =>
    obtain ⟨he, hb⟩ := not_or.1 h
    rw [Bool.and_eq_true, BitVec.sle_iff_toInt_le, BitVec.sle_iff_toInt_le, PGDUCKDB_PG_MIN_DATE_VALUE,
      PGDUCKDB_PG_MAX_DATE_VALUE, hH.FromDate_min, hH.FromDate_max]
    exact ⟨fun h => .inr (.inr h), fun h => (h.resolve_left hb).resolve_left he⟩

/-- The conversion gives the same date, and there is none to give otherwise. -/
theorem ConvertDateDatum_ok : ConvertDateDatum H u = .ok d ↔ SameDate H d u := by
  rw [ConvertDateDatum]
  cases hv : ValidDate H u with
  | false =>
    have hv : ¬ValidDate H u := by rw [hv]; exact Bool.false_ne_true
    rw [ValidDate_iff hH] at hv
    constructor
    · intro h
      cases h
    · rintro (⟨-, h⟩ | ⟨-, h⟩ | ⟨h₁, h₂, -⟩)
      · exact absurd (.inl h) hv
      · exact absurd (.inr (.inl h)) hv
      · exact absurd (.inr (.inr ⟨h₁, h₂⟩)) hv
  | true =>
    rw [ValidDate_iff hH] at hv
    rw [if_neg (by decide)]
    split
    next h => rw [h, sameDate_ninfinity hH, pure_eq_ok_iff, eq_comm]
    next hb =>
    split
    next h => rw [h, sameDate_infinity hH, pure_eq_ok_iff, eq_comm]
    next he =>
    obtain ⟨h₁, h₂⟩ := (hv.resolve_left hb).resolve_left he
    obtain ⟨k, hk⟩ := @exists_toInt_sub _ u PGDUCKDB_DUCK_DATE_OFFSET
    have h₃ := (u - PGDUCKDB_DUCK_DATE_OFFSET).le_toInt
    have h₄ := @BitVec.toInt_lt _ (u - PGDUCKDB_DUCK_DATE_OFFSET)
    rw [pure_eq_ok_iff, SameDate, toInt_DATE_OFFSET]
    rw [toInt_DATE_OFFSET] at hk
    constructor
    · rintro rfl
      refine .inr (.inr ⟨h₁, h₂, ?_⟩)
      omega
    · rintro (⟨-, h⟩ | ⟨-, h⟩ | ⟨-, -, h⟩)
      · exact absurd h hb
      · exact absurd h he
      · refine BitVec.eq_of_toInt_eq ?_
        omega

end

/-- What is the same as a date of DuckDB is a date. -/
theorem SameDate.isDate (h : SameDate H d u) : IsDate H d := by
  rcases h with ⟨h, -⟩ | ⟨h, -⟩ | ⟨h₁, h₂, h⟩
  · exact .inl h
  · exact .inr (.inl h)
  · rw [toInt_DATE_OFFSET] at h
    refine .inr (.inr ?_)
    omega

/-- The two directions of the conversion of dates fit together. Every date of Postgres is stored. -/
structure DateRoundTrip (H : Headers) (append convert : BitVec 32 → Except OutOfRangeException (BitVec 32)) :
    Prop where
  stores : ∀ d, ∃ u, append d = .ok u
  there : ∀ d u, IsDate H d → append d = .ok u → convert u = .ok d
  back : ∀ u d, convert u = .ok d → append d = .ok u
  appendLower : ∀ d, IsDate H d → (append d = .ok H.date_ninfinity ↔ d = H.DATEVAL_NOBEGIN)
  appendUpper : ∀ d, IsDate H d → (append d = .ok H.date_infinity ↔ d = H.DATEVAL_NOEND)
  convertLower : ∀ u, convert u = .ok H.DATEVAL_NOBEGIN ↔ u = H.date_ninfinity
  convertUpper : ∀ u, convert u = .ok H.DATEVAL_NOEND ↔ u = H.date_infinity

/-- Every date is stored. -/
theorem AppendDate_stores (d : BitVec 32) : ∃ u, AppendDate H d = .ok u := by
  rw [AppendDate]
  split
  · exact ⟨_, rfl⟩
  · split <;> exact ⟨_, rfl⟩

/-- Every date that is stored comes back, unless it is behind the last one that Postgres has. -/
theorem dateRoundTrip (hH : H.Documented) : DateRoundTrip H (AppendDate H) (ConvertDateDatum H) where
  stores _ := AppendDate_stores _
  there _ _ hd h := (ConvertDateDatum_ok hH).2 ((AppendDate_ok hH hd).1 h)
  back u d h := by
    have h := (ConvertDateDatum_ok hH).1 h
    exact (AppendDate_ok hH (h.isDate)).2 h
  appendLower _ hd := (AppendDate_ok hH hd).trans (sameDate_ninfinity hH)
  appendUpper _ hd := (AppendDate_ok hH hd).trans (sameDate_infinity hH)
  convertLower _ := (ConvertDateDatum_ok hH).trans (sameDate_noBegin hH)
  convertUpper _ := (ConvertDateDatum_ok hH).trans (sameDate_noEnd hH)

end

/-- The values of the real headers, `FromDate` at the two dates that it is asked for. -/
def headers : Headers where
  DATEVAL_NOBEGIN := .intMin 32
  DATEVAL_NOEND := .intMax 32
  DT_NOBEGIN := .intMin 64
  DT_NOEND := .intMax 64
  date_ninfinity := -.intMax 32
  date_infinity := .intMax 32
  timestamp_ninfinity := -.intMax 64
  timestamp_infinity := .intMax 64
  FromDate year _ _ := if year < 0 then -2440588 else 2145042905

/-- The headers that the compiler sees are the documented ones. -/
theorem headers_documented : headers.Documented := by
  constructor <;> decide

/-- Timestamps of both kinds and dates round-trip. Only a timestamp is ever turned down. -/
theorem dates_and_timestamps_roundTrip (H : Headers) (hH : H.Documented) :
    InstantRoundTrip H (AppendTimestamp H) (ConvertTimestampDatum H .TIMESTAMP) ∧
    InstantRoundTrip H (AppendTimestampTz H) (ConvertTimestampTzDatum H) ∧
    DateRoundTrip H (AppendDate H) (ConvertDateDatum H) :=
  ⟨instantRoundTrip hH _ _, instantRoundTrip hH _ _, dateRoundTrip hH⟩

/-- The dates and timestamps of the example come back. -/
theorem dates_and_timestamps_roundTrip_headers :
    InstantRoundTrip headers (AppendTimestamp headers) (ConvertTimestampDatum headers .TIMESTAMP) ∧
    InstantRoundTrip headers (AppendTimestampTz headers) (ConvertTimestampTzDatum headers) ∧
    DateRoundTrip headers (AppendDate headers) (ConvertDateDatum headers) :=
  dates_and_timestamps_roundTrip headers headers_documented

/-- The first instant of the last date of Postgres is far behind the range, and yet the date is stored. -/
theorem lastDate_stored : ¬∀ d, IsDate headers d →
    ((∃ e, AppendDate headers d = .error e) ↔
      d ≠ headers.DATEVAL_NOBEGIN ∧ d ≠ headers.DATEVAL_NOEND ∧
      (d.toInt + PGDUCKDB_DUCK_DATE_OFFSET.toInt) * 86400000000 ∉ Accepted) := by
  intro h
  have hd : IsDate headers 2145031948 := .inr (.inr ⟨by decide, by decide⟩)
  obtain ⟨e, he⟩ := (h _ hd).2 ⟨by decide, by decide, by decide⟩
  cases he

/-! ## Scaled timestamps -/

/-- Which of the two microseconds around it an instant becomes, before 1970 as after. -/
inductive Direction
  | down
  | up

/-- The division by a unit, rounded in a direction. -/
def Direction.div : Direction → ℤ → ℤ → ℤ
  | down, x, n => x / n
  | up, x, n => -(-x / n)

/-- The instant that a raw value counts, in microseconds since 1970 and without overflow. -/
def TimestampType.instant (r : Direction) : TimestampType → ℤ → ℤ
  | TIMESTAMP_MS, x => x * 1000
  | TIMESTAMP_NS, x => r.div x 1000
  | TIMESTAMP_S, x => x * 1000000
  | TIMESTAMP, x => x

/-- The datum is the instant of the value, and there is none exactly for an instant outside the range. -/
def KeepsInstant (H : Headers) (r : Direction) (id : TimestampType) (raw : BitVec 64) : Prop :=
  if raw = H.timestamp_ninfinity then ConvertTimestampDatum H id raw = .ok H.DT_NOBEGIN
  else if raw = H.timestamp_infinity then ConvertTimestampDatum H id raw = .ok H.DT_NOEND
  else if id.instant r raw.toInt ∈ Accepted then
    ∃ t, ConvertTimestampDatum H id raw = .ok t ∧
      t.toInt + PGDUCKDB_DUCK_TIMESTAMP_OFFSET.toInt = id.instant r raw.toInt
  else ∃ e, ConvertTimestampDatum H id raw = .error e

/-- Truncation towards zero goes the right way on one side of 1970 only. -/
def Direction.Truncates : Direction → ℤ → Prop
  | down, x => 0 ≤ x ∨ 1000 ∣ x
  | up, x => x ≤ 0 ∨ 1000 ∣ x

/-- The count of seconds or milliseconds does not wrap around into the range, the count of nanoseconds is
truncated the right way. -/
def Kept (r : Direction) : TimestampType → ℤ → Prop
  | .TIMESTAMP_NS, x => r.Truncates x
  | .TIMESTAMP, _ => True
  | id, x => ∀ k ≠ 0, id.instant r x + k * 2 ^ 64 ∉ Accepted

section
variable {H : Headers} {r : Direction} {id : TimestampType} {raw : BitVec 64} {x : ℤ}

/-- Truncation is rounding down but for negative numbers that the divisor does not divide. -/
theorem tdiv_thousand (x : ℤ) : x.tdiv 1000 = x / 1000 + if 0 ≤ x ∨ 1000 ∣ x then 0 else 1 :=
  Int.tdiv_eq_ediv

/-- C's division rounds like this exactly where it truncates. -/
theorem tdiv_eq_div (r : Direction) (x : ℤ) : x.tdiv 1000 = r.div x 1000 ↔ r.Truncates x := by
  cases r with
  | down =>
    rw [Direction.div, Direction.Truncates, tdiv_thousand]
    split
    next h => exact ⟨fun _ => h, fun _ => by omega⟩
    next h => exact ⟨fun h' => by omega, fun h' => absurd h' h⟩
  | up =>
    have hx : x.tdiv 1000 = -(-x).tdiv 1000 := by rw [Int.neg_tdiv, neg_neg]
    rw [Direction.div, Direction.Truncates, hx, tdiv_thousand]
    split
    next h => exact ⟨fun _ => by omega, fun _ => by omega⟩
    next h => exact ⟨fun h' => by omega, fun h' => by omega⟩

/-- Nanoseconds become microseconds by C's division. -/
theorem toInt_nanoseconds : (TimestampType.TIMESTAMP_NS.scale raw).toInt = raw.toInt.tdiv 1000 := by
  rw [TimestampType.scale, BitVec.toInt_sdiv_of_ne_or_ne _ _ (.inr (by decide))]
  rfl

/-- No number of nanoseconds leaves the range of the instants. -/
theorem nanoseconds_accepted : raw.toInt.tdiv 1000 ∈ Accepted ∧ r.div raw.toInt 1000 ∈ Accepted := by
  have h₁ := raw.le_toInt
  have h₂ := @BitVec.toInt_lt _ raw
  rw [mem_Accepted, mem_Accepted, tdiv_thousand]
  cases r with
  | down =>
    rw [Direction.div]
    split <;> omega
  | up =>
    rw [Direction.div]
    split <;> omega

/-- A scaled value that is off by a multiple of the modulus is right exactly when no wrong value of that
kind is in the range. -/
theorem wraps_iff {y : BitVec 64} (hy : ∃ k : ℤ, y.toInt = x + k * (2 ^ 64 : ℕ)) :
    (y.toInt ∈ Accepted → y.toInt = x) ∧ (x ∈ Accepted → y.toInt = x) ↔
      ∀ k ≠ 0, x + k * 2 ^ 64 ∉ Accepted := by
  obtain ⟨k, hk⟩ := hy
  have h₁ := y.le_toInt
  have h₂ := @BitVec.toInt_lt _ y
  simp only [mem_Accepted]
  constructor
  · rintro ⟨h, -⟩ j hj
    omega
  · intro h
    constructor
    · intro hy
      by_contra hne
      exact h k (by omega) (by omega)
    · omega

/-- What is returned at a finite value, by the scaled value alone. -/
theorem keepsInstant_finite (hb : raw ≠ H.timestamp_ninfinity) (he : raw ≠ H.timestamp_infinity) :
    KeepsInstant H r id raw ↔
      ((id.scale raw).toInt ∈ Accepted → (id.scale raw).toInt = id.instant r raw.toInt) ∧
      (id.instant r raw.toInt ∈ Accepted → (id.scale raw).toInt = id.instant r raw.toInt) := by
  rw [KeepsInstant, if_neg hb, if_neg he, ConvertTimestampDatum, convertInstant_finite hb he]
  by_cases hs : (id.scale raw).toInt ∈ Accepted
  · rw [if_pos hs]
    have hu := toInt_unshift hs
    split
    next hi =>
      constructor
      · rintro ⟨t, ht, hti⟩
        cases ht
        constructor <;> omega
      · intro h
        exact ⟨_, rfl, by rw [hu, ← h.1 hs]; omega⟩
    next hi =>
      constructor
      · rintro ⟨e, h⟩
        cases h
      · intro h
        exact absurd (h.1 hs ▸ hs) hi
  · rw [if_neg hs]
    split
    next hi =>
      constructor
      · rintro ⟨t, ht, -⟩
        cases ht
      · intro h
        exact absurd ((h.2 hi).symm ▸ hi) hs
    next hi => exact ⟨fun _ => ⟨fun h => absurd h hs, fun h => absurd h hi⟩, fun _ => ⟨_, rfl⟩⟩

/-- The instant is kept if the scaled one is the right one, as far as either is accepted. -/
theorem kept_iff : Kept r id raw.toInt ↔
    ((id.scale raw).toInt ∈ Accepted → (id.scale raw).toInt = id.instant r raw.toInt) ∧
    (id.instant r raw.toInt ∈ Accepted → (id.scale raw).toInt = id.instant r raw.toInt) := by
  cases id with
  | TIMESTAMP => exact ⟨fun _ => ⟨fun _ => rfl, fun _ => rfl⟩, fun _ => trivial⟩
  | TIMESTAMP_S =>
    have hy := @exists_toInt_mul _ raw 1000000
    exact (wraps_iff hy).symm
  | TIMESTAMP_MS =>
    have hy := @exists_toInt_mul _ raw 1000
    exact (wraps_iff hy).symm
  | TIMESTAMP_NS =>
    obtain ⟨hs, hi⟩ := @nanoseconds_accepted r raw
    rw [toInt_nanoseconds, Kept, TimestampType.instant, ← tdiv_eq_div]
    exact ⟨fun h => ⟨fun _ => h, fun _ => h⟩, fun h => h.1 hs⟩

end

/-- Whichever way nanoseconds are to be rounded, these are the values whose instant is kept. -/
theorem ConvertTimestampDatum_keepsInstant_iff (H : Headers) (r : Direction) (id : TimestampType)
    (raw : BitVec 64) : KeepsInstant H r id raw ↔
      raw = H.timestamp_ninfinity ∨ raw = H.timestamp_infinity ∨ Kept r id raw.toInt := by
  by_cases hb : raw = H.timestamp_ninfinity
  · rw [KeepsInstant, if_pos hb, ConvertTimestampDatum, convertInstant, if_pos hb]
    exact ⟨fun _ => .inl hb, fun _ => rfl⟩
  by_cases he : raw = H.timestamp_infinity
  · rw [KeepsInstant, if_neg hb, if_pos he, ConvertTimestampDatum, convertInstant, if_neg hb, if_pos he]
    exact ⟨fun _ => .inr (.inl he), fun _ => rfl⟩
  rw [keepsInstant_finite hb he, kept_iff]
  exact ⟨fun h => .inr (.inr h), fun h => (h.resolve_left hb).resolve_left he⟩

/-- One nanosecond before 1970 is rounded up and one after it down, and a count of milliseconds half a
million years from now is taken for 1970. -/
theorem ConvertTimestampDatum_loses_instants :
    (¬∃ r, ∀ id raw, KeepsInstant headers r id raw) ∧
    ConvertTimestampDatum headers .TIMESTAMP_NS (-1) = ConvertTimestampDatum headers .TIMESTAMP_NS 1 ∧
    ∀ r, ¬KeepsInstant headers r .TIMESTAMP_MS 18446744073709552 := by
  have hneg : ¬KeepsInstant headers .down .TIMESTAMP_NS (-1) := by
    rw [KeepsInstant, if_neg (by decide), if_neg (by decide), if_pos (by decide)]
    rintro ⟨t, ht, hti⟩
    cases ht
    revert hti
    decide
  have hpos : ¬KeepsInstant headers .up .TIMESTAMP_NS 1 := by
    rw [KeepsInstant, if_neg (by decide), if_neg (by decide), if_pos (by decide)]
    rintro ⟨t, ht, hti⟩
    cases ht
    revert hti
    decide
  refine ⟨?_, by decide, ?_⟩
  · rintro ⟨r, h⟩
    cases r with
    | down => exact hneg (h _ _)
    | up => exact hpos (h _ _)
  · intro r
    rw [KeepsInstant, if_neg (by decide), if_neg (by decide), if_neg ?_]
    · rintro ⟨e, he⟩
      cases he
    · cases r <;> decide

end PgDuckdb.Types
