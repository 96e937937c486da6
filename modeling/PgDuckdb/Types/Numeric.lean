import Mathlib.Algebra.Field.Rat
import PgDuckdb.Lib.MachineInt
import PgDuckdb.Lib.Positional

/-!
# NUMERIC and DECIMAL

The two decimal types. A PostgreSQL `NUMERIC` is a header word with base 10000 digits behind it; the header
has a short, a long and a special form, and the macros of `numeric.c` take it apart into the fields of a
`NumericVar` (`FromNumeric`). A DuckDB `DECIMAL(width, scale)` is one integer, whose type depends on the
width, and it is the number of `10 ^ -scale`. A column's type modifier holds precision and scale and decides
which DuckDB type the column gets (`ConvertPostgresToBaseDuckColumnType`).
-/

namespace PgDuckdb.Types
open Lib Lib.Positional

/-! ## `NumericVar` -/

/-- The base of the digits of a numeric. -/
def NBASE : ℤ := 10000

/-- The decimal digits in one of them. -/
def DEC_DIGITS : ℕ := 4

/-- The base is positive. -/
theorem NBASE_pos : 0 < NBASE := by decide

/-- So it is not zero as a rational number either. -/
theorem NBASE_ne : (NBASE : ℚ) ≠ 0 := by
  exact_mod_cast NBASE_pos.ne'

/-- The bits of the header that tell the formats and the signs apart. -/
def NUMERIC_SIGN_MASK : BitVec 16 := 0xC000
/-- A positive value with the long header. -/
def NUMERIC_POS : BitVec 16 := 0x0000
/-- A negative value with the long header. -/
def NUMERIC_NEG : BitVec 16 := 0x4000
/-- A value with the short header. -/
def NUMERIC_SHORT : BitVec 16 := 0x8000
/-- A NaN or an infinity. -/
def NUMERIC_SPECIAL : BitVec 16 := 0xC000
/-- The bits that tell the special values apart. -/
def NUMERIC_EXT_SIGN_MASK : BitVec 16 := 0xF000
/-- The header of a NaN. -/
def NUMERIC_NAN : BitVec 16 := 0xC000
/-- The header of the positive infinity. -/
def NUMERIC_PINF : BitVec 16 := 0xD000
/-- The header of the negative infinity. -/
def NUMERIC_NINF : BitVec 16 := 0xF000
/-- The sign in the short header. -/
def NUMERIC_SHORT_SIGN_MASK : BitVec 16 := 0x2000
/-- The scale in the short header. -/
def NUMERIC_SHORT_DSCALE_MASK : BitVec 16 := 0x1F80
/-- Where it stands. -/
def NUMERIC_SHORT_DSCALE_SHIFT : ℕ := 7
/-- The sign of the weight in the short header. -/
def NUMERIC_SHORT_WEIGHT_SIGN_MASK : BitVec 16 := 0x0040
/-- The weight in the short header. -/
def NUMERIC_SHORT_WEIGHT_MASK : BitVec 16 := 0x003F
/-- The scale in the long header. -/
def NUMERIC_DSCALE_MASK : BitVec 16 := 0x3FFF

/-- The format for arithmetic. The digits bring their number with them. -/
structure NumericVar where
  weight : ℤ
  sign : BitVec 16
  dscale : ℕ
  digits : List ℤ
deriving DecidableEq

/-- The number of digits. -/
def NumericVar.ndigits (v : NumericVar) : ℕ := v.digits.length

/-- The number without its sign. The first digit counts `NBASE ^ weight`. -/
def NumericVar.magnitude (v : NumericVar) : ℚ := value ℚ NBASE v.weight v.digits

/-- The number that a finite `NumericVar` denotes. -/
def NumericVar.toRat (v : NumericVar) : ℚ :=
  if v.sign = NUMERIC_NEG then -v.magnitude else v.magnitude

/-! ## `Numeric` -/

/-- The type as it is stored: a header word and the words behind it. The long form keeps the weight in the
first of them. -/
structure Numeric where
  n_header : BitVec 16
  n_data : List (BitVec 16)
  n_weight : n_header &&& 0x8000 = 0 → n_data ≠ []

section
variable (n : Numeric)

/-- The flags of the header. -/
def NUMERIC_FLAGBITS : BitVec 16 := n.n_header &&& NUMERIC_SIGN_MASK

/-- The header is the short one. -/
def NUMERIC_IS_SHORT : Bool := NUMERIC_FLAGBITS n = NUMERIC_SHORT

/-- The value is a NaN or an infinity. -/
def NUMERIC_IS_SPECIAL : Bool := NUMERIC_FLAGBITS n = NUMERIC_SPECIAL

/-- The flags that tell the special values apart. -/
def NUMERIC_EXT_FLAGBITS : BitVec 16 := n.n_header &&& NUMERIC_EXT_SIGN_MASK

/-- For the special form too: it looks at the high bit only. -/
def NUMERIC_HEADER_IS_SHORT : Bool := n.n_header &&& 0x8000 ≠ 0

/-- The sign, which the short header has a bit for. -/
def NUMERIC_SIGN : BitVec 16 :=
  if NUMERIC_IS_SHORT n then
    if n.n_header &&& NUMERIC_SHORT_SIGN_MASK ≠ 0 then NUMERIC_NEG else NUMERIC_POS
  else if NUMERIC_IS_SPECIAL n then NUMERIC_EXT_FLAGBITS n
  else NUMERIC_FLAGBITS n

/-- The number of decimal digits behind the point that are shown. -/
def NUMERIC_DSCALE : ℕ :=
  if NUMERIC_HEADER_IS_SHORT n then
    ((n.n_header &&& NUMERIC_SHORT_DSCALE_MASK) >>> NUMERIC_SHORT_DSCALE_SHIFT).toNat
  else (n.n_header &&& NUMERIC_DSCALE_MASK).toNat

/-- The weight of the first digit, in two's complement where the header is short. -/
def NUMERIC_WEIGHT : ℤ :=
  if NUMERIC_HEADER_IS_SHORT n then
    ((if n.n_header &&& NUMERIC_SHORT_WEIGHT_SIGN_MASK ≠ 0 then ~~~NUMERIC_SHORT_WEIGHT_MASK else 0) |||
      (n.n_header &&& NUMERIC_SHORT_WEIGHT_MASK)).toInt
  else (n.n_data.headD 0).toInt

/-- `NUMERIC_DIGITS`, as many as `NUMERIC_NDIGITS` counts. -/
def NUMERIC_DIGITS : List ℤ :=
  if NUMERIC_HEADER_IS_SHORT n then n.n_data.map BitVec.toInt else n.n_data.tail.map BitVec.toInt

/-- The numeric taken apart. -/
def FromNumeric : NumericVar where
  weight := NUMERIC_WEIGHT n
  sign := NUMERIC_SIGN n
  dscale := NUMERIC_DSCALE n
  digits := NUMERIC_DIGITS n

end

/-! ## Powers of ten -/

/-- The powers that fit 64 bits. -/
def DecimalConversionInteger.POWERS_OF_TEN : List ℤ :=
  [1,
   10,
   100,
   1000,
   10000,
   100000,
   1000000,
   10000000,
   100000000,
   1000000000,
   10000000000,
   100000000000,
   1000000000000,
   10000000000000,
   100000000000000,
   1000000000000000,
   10000000000000000,
   100000000000000000,
   1000000000000000000]

/-- `DecimalConversionInteger::GetPowerOfTen`. -/
def DecimalConversionInteger.GetPowerOfTen (index : ℕ) : Calc String ℤ :=
  if index ≥ 19 then Calc.throw "DecimalConversionInteger::GetPowerOfTen - Out of range"
  else pure (POWERS_OF_TEN.getD index 0)

/-- The powers that fit 128 bits. -/
def DecimalConversionHugeint.POWERS_OF_TEN : List ℤ :=
  [1,
   10,
   100,
   1000,
   10000,
   100000,
   1000000,
   10000000,
   100000000,
   1000000000,
   10000000000,
   100000000000,
   1000000000000,
   10000000000000,
   100000000000000,
   1000000000000000,
   10000000000000000,
   100000000000000000,
   1000000000000000000,
   1000000000000000000 * 10,
   1000000000000000000 * 100,
   1000000000000000000 * 1000,
   1000000000000000000 * 10000,
   1000000000000000000 * 100000,
   1000000000000000000 * 1000000,
   1000000000000000000 * 10000000,
   1000000000000000000 * 100000000,
   1000000000000000000 * 1000000000,
   1000000000000000000 * 10000000000,
   1000000000000000000 * 100000000000,
   1000000000000000000 * 1000000000000,
   1000000000000000000 * 10000000000000,
   1000000000000000000 * 100000000000000,
   1000000000000000000 * 1000000000000000,
   1000000000000000000 * 10000000000000000,
   1000000000000000000 * 100000000000000000,
   1000000000000000000 * 1000000000000000000,
   1000000000000000000 * 1000000000000000000 * 10,
   1000000000000000000 * 1000000000000000000 * 100]

/-- `DecimalConversionHugeint::GetPowerOfTen`. -/
def DecimalConversionHugeint.GetPowerOfTen (index : ℕ) : Calc String ℤ :=
  if index ≥ 39 then Calc.throw "DecimalConversionHugeint::GetPowerOfTen - Out of range"
  else pure (POWERS_OF_TEN.getD index 0)

/-- They are the powers of ten. -/
theorem DecimalConversionInteger.powers (index : ℕ) (h : index < 19) :
    POWERS_OF_TEN.getD index 0 = 10 ^ index := by
  revert index
  decide

/-- They are the powers of ten. -/
theorem DecimalConversionHugeint.powers (index : ℕ) (h : index < 39) :
    POWERS_OF_TEN.getD index 0 = 10 ^ index := by
  revert index
  decide

@[simp] theorem DecimalConversionInteger.clean_GetPowerOfTen {index : ℕ} {p : ℤ} :
    (GetPowerOfTen index).Clean p ↔ index < 19 ∧ p = 10 ^ index := by
  unfold GetPowerOfTen
  by_cases h : index ≥ 19
  · rw [if_pos h]
    simp [h]
  · have h' : index < 19 := by omega
    rw [if_neg h, Calc.clean_pure, powers index h']
    exact (and_iff_right h').symm

@[simp] theorem DecimalConversionHugeint.clean_GetPowerOfTen {index : ℕ} {p : ℤ} :
    (GetPowerOfTen index).Clean p ↔ index < 39 ∧ p = 10 ^ index := by
  unfold GetPowerOfTen
  by_cases h : index ≥ 39
  · rw [if_pos h]
    simp [h]
  · have h' : index < 39 := by omega
    rw [if_neg h, Calc.clean_pure, powers index h']
    exact (and_iff_right h').symm

/-! ## Physical types -/

/-- The C type of a digit. -/
def uint16 : IntType := ⟨16, false, by decide⟩

/-- `int16_t`, and `NumericDigit`. -/
def int16 : IntType := ⟨16, true, by decide⟩

/-- The integer types that decimals and wide integers are stored in. -/
inductive PhysicalType
  | INT16
  | INT32
  | INT64
  | UINT64
  | INT128
  | UINT128
deriving DecidableEq, Repr

namespace PhysicalType

/-- `int16_t`, `int32_t`, `int64_t`, `uint64_t`, `hugeint_t` and `uhugeint_t`. -/
def int : PhysicalType → IntType
  | INT16 => int16
  | INT32 => ⟨32, true, by decide⟩
  | INT64 => ⟨64, true, by decide⟩
  | UINT64 => ⟨64, false, by decide⟩
  | INT128 => ⟨128, true, by decide⟩
  | UINT128 => ⟨128, false, by decide⟩

/-- `OP::GetPowerOfTen`, with the `OP` that the conversions take for the type. -/
def GetPowerOfTen : PhysicalType → ℕ → Calc String ℤ
  | INT16 | INT32 | INT64 | UINT64 => DecimalConversionInteger.GetPowerOfTen
  | INT128 | UINT128 => DecimalConversionHugeint.GetPowerOfTen

/-- How many decimal digits always fit. -/
def decimals : PhysicalType → ℕ
  | INT16 => 4
  | INT32 => 9
  | INT64 | UINT64 => 18
  | INT128 | UINT128 => 38

variable {T : PhysicalType} {x : ℤ}

/-- What is no more than the largest power fits. -/
theorem inRange_of_le (h₀ : 0 ≤ x) (h : x ≤ 10 ^ T.decimals) : T.int.InRange x := by
  refine IntType.InRange.of_le ?_ h₀ h
  cases T <;> decide

/-- Each power fits. -/
theorem inRange_pow {i : ℕ} (h : i ≤ T.decimals) : T.int.InRange (10 ^ i) :=
  inRange_of_le (Int.pow_pos (by omega)).le (pow_le_pow_right₀ (by omega) h)

/-- One digit of base `NBASE` always fits. -/
theorem DEC_DIGITS_le_decimals : DEC_DIGITS ≤ T.decimals := by
  cases T <;> decide

/-- The base fits. -/
theorem inRange_NBASE : T.int.InRange NBASE := by
  have h : NBASE = 10 ^ DEC_DIGITS := rfl
  rw [h]
  exact inRange_pow DEC_DIGITS_le_decimals

/-- Zero fits. -/
theorem inRange_zero : T.int.InRange 0 :=
  inRange_NBASE.of_le le_rfl NBASE_pos.le

/-- A power that is in the table is had as it is. -/
theorem clean_GetPowerOfTen {i : ℕ} {p : ℤ} (h : i ≤ T.decimals) :
    (T.GetPowerOfTen i).Clean p ↔ p = 10 ^ i := by
  cases T <;> simp only [GetPowerOfTen, decimals, DecimalConversionInteger.clean_GetPowerOfTen,
    DecimalConversionHugeint.clean_GetPowerOfTen] at h ⊢ <;> exact and_iff_right (by omega)

end PhysicalType

/-- `DECIMAL(width, scale)`. -/
structure DecimalType where
  width : ℕ
  scale : ℕ
  width_pos : 1 ≤ width
  width_le : width ≤ 38
  scale_le : scale ≤ width

namespace DecimalType
variable (t : DecimalType)

/-- The type that DuckDB stores the decimals in. -/
def InternalType : PhysicalType :=
  if t.width ≤ 4 then .INT16
  else if t.width ≤ 9 then .INT32
  else if t.width ≤ 18 then .INT64
  else .INT128

/-- A decimal has no more digits than its type has powers for. -/
theorem width_le_decimals : t.width ≤ t.InternalType.decimals := by
  unfold InternalType
  split_ifs with h₁ h₂ h₃
  · exact h₁
  · exact h₂
  · exact h₃
  · exact t.width_le

end DecimalType

end PgDuckdb.Types
