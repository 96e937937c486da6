import Mathlib.Tactic.NormNum
import PgDuckdb.Types.Numeric

/-!
# From DECIMAL to NUMERIC

`ConvertNumericDatum` turns a decimal or a wide integer of DuckDB into a `NumericVar`. It works on the
absolute value in the type that the value is stored in: it takes the fraction off, splits what is before the
point into digits of base `NBASE`, and scales the fraction up to whole digits before it splits that. The last
step multiplies by up to 1000, which the type need not hold, and the most negative value has no absolute
value in its type. Where neither happens the result is exact, down to the buffers
(`ConvertNumericDatum_exact_iff`).

`BIGNUM` and `DOUBLE` have branches of their own, which do not come here.
-/

namespace PgDuckdb.Types
open Lib Lib.Positional

/-! ## The conversion -/

/-- What sends a value to `ConvertNumeric`. -/
inductive LogicalType
  | DECIMAL (t : DecimalType)
  | HUGEINT
  | UBIGINT
  | UHUGEINT

/-- The type that a decimal, or a large integer, is stored as. -/
def LogicalType.InternalType : LogicalType → PhysicalType
  | DECIMAL t => t.InternalType
  | HUGEINT => .INT128
  | UBIGINT => .UINT64
  | UHUGEINT => .UINT128

/-- `is_decimal ? GetScale(type) : 0`. -/
def LogicalType.scale : LogicalType → ℕ
  | DECIMAL t => t.scale
  | HUGEINT | UBIGINT | UHUGEINT => 0

/-- A value of DuckDB: its type, and an integer that the type's physical type holds. -/
structure Value where
  type : LogicalType
  payload : ℤ
  inRange : type.InternalType.int.InRange payload

namespace ConvertNumeric

section
variable (T : PhysicalType)

/-- The size of `integral_digits` and of `fractional_digits`. -/
def MAX_DIGITS : ℕ := T.int.bits / 8 * 4

/-- `value`, without the sign. -/
def absoluteValue (value : ℤ) : Calc String ℤ :=
  if value < 0 then T.int.keep (-value) else pure value

/-- What is in front of the point. -/
def integerPart (scale : ℕ) (value : ℤ) : Calc String ℤ :=
  if scale = 0 then pure value
  else do
    let power ← T.int.keep (← T.GetPowerOfTen scale)
    T.int.keep (value.tdiv power)

/-- What is behind the point. -/
def fractionalPart (scale : ℕ) (value : ℤ) : Calc String ℤ :=
  if scale = 0 then pure 0
  else do
    let power ← T.int.keep (← T.GetPowerOfTen scale)
    T.int.keep (value.tmod power)

/-- The loop over `integer_part`, the last digit first. `room` is what is left of the buffer. -/
def integralDigits : ℕ → ℤ → Calc String (List ℤ)
  | 0, integer_part => if integer_part > 0 then Calc.fault .overrun [] else pure []
  | room + 1, integer_part =>
    if integer_part > 0 then do
      let digit ← uint16.keep (integer_part.tmod NBASE)
      let integer_part ← T.int.keep (integer_part.tdiv NBASE)
      let digits ← integralDigits room integer_part
      pure (digit :: digits)
    else pure []

/-- The loop over `fractional_part`, the last digit first. -/
def fractionalDigits : ℕ → ℕ → ℤ → Calc String (List ℤ)
  | _, 0, _ => pure []
  | 0, _ + 1, _ => Calc.fault .overrun []
  | room + 1, count + 1, fractional_part => do
    let digit ← uint16.keep (fractional_part.tmod NBASE)
    let fractional_part ← T.int.keep (fractional_part.tdiv NBASE)
    let digits ← fractionalDigits room count fractional_part
    pure (digit :: digits)

end

end ConvertNumeric

open ConvertNumeric in
/-- The digits of a payload with a scale. -/
def ConvertNumeric (T : PhysicalType) (payload : ℤ) (scale : ℕ) : Calc String NumericVar := do
  let value ← absoluteValue T payload
  let integer_part ← integerPart T scale value
  let fractional_part ← fractionalPart T scale value
  let integral_digits ← integralDigits T (MAX_DIGITS T) integer_part
  let fractional_ndigits := (scale + DEC_DIGITS - 1) / DEC_DIGITS
  let correction := fractional_ndigits * DEC_DIGITS - scale
  let power ← T.int.keep (← T.GetPowerOfTen correction)
  let fractional_part ← T.int.keep (fractional_part * power)
  let fractional_digits ← fractionalDigits T (MAX_DIGITS T) fractional_ndigits fractional_part
  let digits ← int16.keepAll (integral_digits.reverse ++ fractional_digits.reverse)
  pure
    { weight := (integral_digits.length : ℤ) - 1
      sign := if payload < 0 then NUMERIC_NEG else NUMERIC_POS
      dscale := scale
      digits := digits }

/-- A value of DuckDB for Postgres. -/
def ConvertNumericDatum (v : Value) : Calc String NumericVar :=
  ConvertNumeric v.type.InternalType v.payload v.type.scale

/-! ## The parts -/

namespace ConvertNumeric

section
variable {T : PhysicalType} {x y : ℤ} {scale : ℕ}

/-- Whatever the type holds is split within the buffers. -/
theorem bound_le_room : T.int.bound ≤ NBASE ^ MAX_DIGITS T := by
  cases T <;> decide

/-- A digit fits 16 bits without a sign. -/
theorem inRange_uint16 (h₀ : 0 ≤ x) (h : x < NBASE) : uint16.InRange x :=
  IntType.InRange.of_le (y := NBASE) (by decide) h₀ h.le

/-- And with one. -/
theorem inRange_int16 (h₀ : 0 ≤ x) (h : x < NBASE) : int16.InRange x :=
  IntType.InRange.of_le (y := NBASE) (by decide) h₀ h.le

/-- Only the most negative value has no absolute value in its type. -/
theorem clean_absoluteValue (h : T.int.InRange x) :
    (absoluteValue T x).Clean y ↔ -x < T.int.bound ∧ y = |x| := by
  have hmin := T.int.min_nonpos
  unfold absoluteValue
  split
  next hneg =>
    rw [IntType.clean_keep, IntType.InRange, abs_of_neg hneg]
    exact and_congr_left fun _ => and_iff_right (by omega)
  next hpos =>
    obtain ⟨_, hb⟩ := h
    rw [Calc.clean_pure, abs_of_nonneg (by omega), and_iff_right (by omega)]

/-- The part in front of the point is the quotient. -/
theorem clean_integerPart (hs : scale ≤ T.decimals) (hx : T.int.InRange x) (h₀ : 0 ≤ x) :
    (integerPart T scale x).Clean y ↔ y = x / 10 ^ scale := by
  unfold integerPart
  split
  next h => simp [h]
  next h =>
    have hq : T.int.InRange (x / 10 ^ scale) :=
      hx.of_le (Int.ediv_nonneg h₀ (Int.pow_pos (by omega)).le) (Int.ediv_le_self _ h₀)
    simp [PhysicalType.clean_GetPowerOfTen hs, PhysicalType.inRange_pow hs,
      Int.tdiv_eq_ediv_of_nonneg h₀, hq]

/-- The part behind the point is the remainder. -/
theorem clean_fractionalPart (hs : scale ≤ T.decimals) (h₀ : 0 ≤ x) :
    (fractionalPart T scale x).Clean y ↔ y = x % 10 ^ scale := by
  unfold fractionalPart
  split
  next h => simp [h]
  next h =>
    have hp : (0 : ℤ) < 10 ^ scale := Int.pow_pos (by omega)
    have hr : T.int.InRange (x % 10 ^ scale) :=
      (PhysicalType.inRange_pow hs).of_le (Int.emod_nonneg _ hp.ne') (Int.emod_lt_of_pos _ hp).le
    simp [PhysicalType.clean_GetPowerOfTen hs, PhysicalType.inRange_pow hs,
      Int.tmod_eq_emod_of_nonneg h₀, hr]

/-- The lowest digit is the remainder by the base. -/
theorem clean_lowDigit (h₀ : 0 ≤ x) :
    (uint16.keep (x.tmod NBASE) : Calc String ℤ).Clean y ↔ y = x % NBASE := by
  have hr := inRange_uint16 (Int.emod_nonneg x NBASE_pos.ne') (Int.emod_lt_of_pos x NBASE_pos)
  rw [Int.tmod_eq_emod_of_nonneg h₀, IntType.clean_keep, and_iff_right hr]

/-- The others are those of the quotient. -/
theorem clean_otherDigits (hx : T.int.InRange x) (h₀ : 0 ≤ x) :
    (T.int.keep (x.tdiv NBASE) : Calc String ℤ).Clean y ↔ y = x / NBASE := by
  have hq : T.int.InRange (x / NBASE) :=
    hx.of_le (Int.ediv_nonneg h₀ NBASE_pos.le) (Int.ediv_le_self _ h₀)
  rw [Int.tdiv_eq_ediv_of_nonneg h₀, IntType.clean_keep, and_iff_right hq]

/-- One digit more in front of the others. -/
theorem number_step {ds : List ℤ} (h : number NBASE ds.reverse = x / NBASE) :
    number NBASE (x % NBASE :: ds).reverse = x := by
  rw [List.reverse_cons, number_concat, h]
  exact Int.ediv_mul_add_emod x NBASE

/-- A digit in front keeps the digits proper. -/
theorem proper_step {ds : List ℤ} (h : Proper NBASE ds) : Proper NBASE (x % NBASE :: ds) := by
  intro d hd
  rcases List.mem_cons.1 hd with rfl | hd
  · exact ⟨Int.emod_nonneg _ NBASE_pos.ne', Int.emod_lt_of_pos _ NBASE_pos⟩
  · exact h d hd

/-- The loop over the integral part writes its digits. -/
theorem clean_integralDigits {room : ℕ} (hx : T.int.InRange x) (h₀ : 0 ≤ x) (h : x < NBASE ^ room) :
    ∃ ds, (integralDigits T room x).Clean ds ∧ Proper NBASE ds ∧ number NBASE ds.reverse = x := by
  induction room generalizing x with
  | zero =>
    have h1 : x = 0 := by
      rw [pow_zero] at h
      omega
    subst h1
    exact ⟨[], by simp [integralDigits], by simp [Proper], rfl⟩
  | succ room ih =>
    by_cases hpos : 0 < x
    · have hq : x / NBASE < NBASE ^ room := Int.ediv_lt_of_lt_mul NBASE_pos h
      have hq₀ : 0 ≤ x / NBASE := Int.ediv_nonneg h₀ NBASE_pos.le
      obtain ⟨ds, hds, hp, hn⟩ := ih (hx.of_le hq₀ (Int.ediv_le_self _ h₀)) hq₀ hq
      refine ⟨x % NBASE :: ds, ?_, proper_step hp, number_step hn⟩
      rw [integralDigits, if_pos hpos]
      simp only [Calc.clean_bind, clean_lowDigit h₀, clean_otherDigits hx h₀, Calc.clean_pure]
      exact ⟨_, rfl, _, rfl, ds, hds, rfl⟩
    · have h1 : x = 0 := by omega
      subst h1
      exact ⟨[], by simp [integralDigits], by simp [Proper], rfl⟩

/-- The loop over the fractional part writes as many digits as it is told to. -/
theorem clean_fractionalDigits {room count : ℕ} (hx : T.int.InRange x) (h₀ : 0 ≤ x)
    (h : x < NBASE ^ count) (hc : count ≤ room) :
    ∃ ds, (fractionalDigits T room count x).Clean ds ∧ Proper NBASE ds ∧ ds.length = count ∧
      number NBASE ds.reverse = x := by
  induction count generalizing x room with
  | zero =>
    rw [pow_zero] at h
    obtain rfl : x = 0 := by omega
    exact ⟨[], by simp [fractionalDigits], by simp [Proper], rfl, rfl⟩
  | succ count ih =>
    obtain ⟨room, rfl⟩ : ∃ r, room = r + 1 := ⟨room - 1, by omega⟩
    have hq : x / NBASE < NBASE ^ count := Int.ediv_lt_of_lt_mul NBASE_pos h
    have hq₀ : 0 ≤ x / NBASE := Int.ediv_nonneg h₀ NBASE_pos.le
    obtain ⟨ds, hds, hp, hl, hn⟩ :=
      ih (hx.of_le hq₀ (Int.ediv_le_self _ h₀)) hq₀ hq (Nat.le_of_succ_le_succ hc)
    refine ⟨x % NBASE :: ds, ?_, proper_step hp, congrArg (· + 1) hl, number_step hn⟩
    simp only [fractionalDigits, Calc.clean_bind, clean_lowDigit h₀, clean_otherDigits hx h₀,
      Calc.clean_pure]
    exact ⟨_, rfl, _, rfl, ds, hds, rfl⟩

end

end ConvertNumeric

/-! ## When it is exact -/

/-- How many zeros fill the last fractional digit. -/
def missingZeros (scale : ℕ) : ℕ := (4 - scale % 4) % 4

/-- The value is not the most negative one of its type, and the type holds its fraction with the missing
zeros behind it. -/
def Fits (T : PhysicalType) (payload : ℤ) (scale : ℕ) : Prop :=
  -payload < T.int.bound ∧ |payload| % 10 ^ scale * 10 ^ missingZeros scale < T.int.bound

section
open ConvertNumeric
variable {T : PhysicalType} {x y : ℤ} {scale : ℕ}

/-- The digits behind the point are filled up to a multiple of four. -/
theorem correction_eq :
    (scale + DEC_DIGITS - 1) / DEC_DIGITS * DEC_DIGITS - scale = missingZeros scale := by
  unfold missingZeros DEC_DIGITS
  omega

/-- There is a power for what is filled up. -/
theorem missingZeros_le (hs : scale ≤ T.decimals) : missingZeros scale ≤ T.decimals := by
  have h4 : 4 ≤ T.decimals := PhysicalType.DEC_DIGITS_le_decimals
  unfold missingZeros
  omega

/-- The scale in whole digits. -/
theorem pow_scale (scale : ℕ) :
    (10 : ℤ) ^ scale * 10 ^ missingZeros scale = NBASE ^ ((scale + DEC_DIGITS - 1) / DEC_DIGITS) := by
  have h : scale + missingZeros scale = 4 * ((scale + DEC_DIGITS - 1) / DEC_DIGITS) := by
    unfold missingZeros DEC_DIGITS
    omega
  rw [← pow_add, h, pow_mul]
  rfl

/-- There is room for the digits behind the point. -/
theorem ndigits_le (hs : scale ≤ T.decimals) : (scale + DEC_DIGITS - 1) / DEC_DIGITS ≤ MAX_DIGITS T := by
  have hm : (T.decimals + DEC_DIGITS - 1) / DEC_DIGITS ≤ MAX_DIGITS T := by cases T <;> decide
  refine le_trans (Nat.div_le_div_right ?_) hm
  omega

/-- The number with these digits before and behind the point. -/
theorem value_parts {I F : List ℤ} {i f : ℤ} (scale : ℕ) (hi : number NBASE I = i)
    (hl : F.length = (scale + DEC_DIGITS - 1) / DEC_DIGITS)
    (hf : number NBASE F = f * 10 ^ missingZeros scale) :
    value ℚ NBASE ((I.length : ℤ) - 1) (I ++ F) = (i * 10 ^ scale + f : ℤ) / 10 ^ scale := by
  have hp : (10 : ℚ) ^ scale * 10 ^ missingZeros scale = (NBASE : ℚ) ^ F.length := by
    rw [hl]
    exact_mod_cast pow_scale scale
  have hw : (I.length : ℤ) - 1 + 1 - ((I ++ F).length : ℕ) = -(F.length : ℤ) := by
    rw [List.length_append]
    omega
  rw [value_eq (by norm_num [NBASE]), number_append, hi, hf, hw, zpow_neg, zpow_natCast]
  push_cast
  rw [← hp]
  field_simp

/-- `var` is the number `payload / 10 ^ scale`, written with proper digits. -/
structure Denotes (payload : ℤ) (scale : ℕ) (var : NumericVar) : Prop where
  toRat_eq : var.toRat = (payload : ℚ) / 10 ^ scale
  proper : Proper NBASE var.digits
  dscale_eq : var.dscale = scale

/-- What fits is converted, and nothing goes wrong on the way. -/
theorem clean_of_fits (hs : scale ≤ T.decimals) (hx : T.int.InRange x) (h : Fits T x scale) :
    ∃ var, (ConvertNumeric T x scale).Clean var ∧ Denotes x scale var := by
  obtain ⟨hneg, hfrac⟩ := h
  have hp : (0 : ℤ) < 10 ^ scale := Int.pow_pos (by omega)
  have hz : (0 : ℤ) < 10 ^ missingZeros scale := Int.pow_pos (by omega)
  have ha₀ : 0 ≤ |x| := abs_nonneg x
  have ha : T.int.InRange |x| := by
    refine ⟨T.int.min_nonpos.trans ha₀, ?_⟩
    rcases abs_choice x with hc | hc
    · rw [hc]
      exact hx.2
    · rw [hc]
      exact hneg
  -- before the point
  have hi₀ : 0 ≤ |x| / 10 ^ scale := Int.ediv_nonneg ha₀ hp.le
  have hi := ha.of_le hi₀ (Int.ediv_le_self _ ha₀)
  obtain ⟨I, hI, hpI, hnI⟩ := clean_integralDigits hi hi₀ (lt_of_lt_of_le hi.2 bound_le_room)
  -- behind it
  have hf₀ : 0 ≤ |x| % 10 ^ scale := Int.emod_nonneg _ hp.ne'
  have hs₀ : 0 ≤ |x| % 10 ^ scale * 10 ^ missingZeros scale := mul_nonneg hf₀ hz.le
  have hlt : |x| % 10 ^ scale * 10 ^ missingZeros scale
      < NBASE ^ ((scale + DEC_DIGITS - 1) / DEC_DIGITS) := by
    rw [← pow_scale]
    exact mul_lt_mul_of_pos_right (Int.emod_lt_of_pos _ hp) hz
  have hT : T.int.InRange (|x| % 10 ^ scale * 10 ^ missingZeros scale) :=
    ⟨T.int.min_nonpos.trans hs₀, hfrac⟩
  obtain ⟨F, hF, hpF, hlF, hnF⟩ := clean_fractionalDigits hT hs₀ hlt (ndigits_le hs)
  have hdigits : Proper NBASE (I.reverse ++ F.reverse) := hpI.reverse.append hpF.reverse
  have hval := value_parts scale hnI (List.length_reverse.trans hlF) hnF
  rw [Int.ediv_mul_add_emod, List.length_reverse] at hval
  let sign := if x < 0 then NUMERIC_NEG else NUMERIC_POS
  refine ⟨⟨(I.length : ℤ) - 1, sign, scale, I.reverse ++ F.reverse⟩, ?_, ?_, hdigits, rfl⟩
  case refine_1 =>
    simp only [ConvertNumeric, Calc.clean_bind, clean_absoluteValue hx, correction_eq,
      PhysicalType.clean_GetPowerOfTen (missingZeros_le hs), IntType.clean_keep,
      IntType.clean_keepAll, Calc.clean_pure]
    exact ⟨_, ⟨hneg, rfl⟩, _, (clean_integerPart hs ha ha₀).2 rfl, _, (clean_fractionalPart hs ha₀).2 rfl,
      I, hI, _, rfl, _, ⟨PhysicalType.inRange_pow (missingZeros_le hs), rfl⟩, _, ⟨hT, rfl⟩, F, hF, _,
      ⟨fun d hd => inRange_int16 (hdigits d hd).1 (hdigits d hd).2, rfl⟩, rfl⟩
  case refine_2 =>
    unfold NumericVar.toRat NumericVar.magnitude
    rw [hval]
    by_cases hx₀ : x < 0
    · simp [sign, hx₀, abs_of_neg hx₀, neg_div]
    · simp [sign, hx₀, abs_of_nonneg (not_lt.1 hx₀), NUMERIC_POS, NUMERIC_NEG]

/-- What does not fit goes wrong on the way. -/
theorem fits_of_clean {var : NumericVar} (hs : scale ≤ T.decimals) (hx : T.int.InRange x)
    (h : (ConvertNumeric T x scale).Clean var) : Fits T x scale := by
  simp only [ConvertNumeric, Calc.clean_bind, clean_absoluteValue hx, correction_eq,
    PhysicalType.clean_GetPowerOfTen (missingZeros_le hs), IntType.clean_keep] at h
  obtain ⟨_, ⟨hneg, rfl⟩, i, -, f, hf, I, -, _, rfl, _, ⟨-, rfl⟩, _, ⟨hT, rfl⟩, -⟩ := h
  rw [clean_fractionalPart hs (abs_nonneg x)] at hf
  subst hf
  exact ⟨hneg, hT.2⟩

end

/-! ## Every value that comes here -/

namespace Value
variable (v : Value)

/-- The scale of a value has a power. -/
theorem scale_le : v.type.scale ≤ v.type.InternalType.decimals := by
  cases h : v.type with
  | DECIMAL t => exact t.scale_le.trans t.width_le_decimals
  | HUGEINT | UBIGINT | UHUGEINT => exact Nat.zero_le _

/-- `0.999999999` as a `DECIMAL(9, 9)`. -/
def nines : Value where
  type := .DECIMAL ⟨9, 9, by decide, by decide, by decide⟩
  payload := 999999999
  inRange := by decide

/-- The most negative `HUGEINT`. -/
def leastHugeint : Value where
  type := .HUGEINT
  payload := -2 ^ 127
  inRange := by decide

end Value

/-- The conversion is exact, with nothing wrong on the way, for the values that fit and for no others. -/
theorem ConvertNumericDatum_exact_iff (v : Value) :
    (∃ var, (ConvertNumericDatum v).Clean var ∧ Denotes v.payload v.type.scale var) ↔
      Fits v.type.InternalType v.payload v.type.scale := by
  constructor
  · rintro ⟨var, h, -⟩
    exact fits_of_clean v.scale_le v.inRange h
  · exact clean_of_fits v.scale_le v.inRange

/-- The product with 1000 wraps and leaves negative digits; and without an absolute value the loop has
nothing to split, so that the number is zero. -/
theorem ConvertNumericDatum_inexact :
    (¬∃ var, (ConvertNumericDatum .nines).result = .ok var ∧
      Denotes Value.nines.payload Value.nines.type.scale var) ∧
    ¬∃ var, (ConvertNumericDatum .leastHugeint).result = .ok var ∧
      Denotes Value.leastHugeint.payload Value.leastHugeint.type.scale var := by
  constructor
  · rintro ⟨var, h, hd⟩
    have hr : (ConvertNumericDatum .nines).result = .ok ⟨-1, NUMERIC_POS, 9, [-7, -2738, -968]⟩ := by
      decide +kernel
    obtain rfl := Except.ok.inj (hr.symm.trans h)
    have := hd.proper (-7) (by decide)
    omega
  · rintro ⟨var, h, hd⟩
    have hr : (ConvertNumericDatum .leastHugeint).result = .ok ⟨-1, NUMERIC_NEG, 0, []⟩ := by
      decide +kernel
    obtain rfl := Except.ok.inj (hr.symm.trans h)
    have := hd.toRat_eq
    norm_num [NumericVar.toRat, NumericVar.magnitude, value, Value.leastHugeint,
      LogicalType.scale] at this

/-- Up to this scale every decimal of the width fits: only the last few scales of a type can go wrong. -/
theorem DecimalType.fits_of_scale (t : DecimalType) {payload : ℤ} (h : |payload| < 10 ^ t.width)
    (hs : t.scale + missingZeros t.scale ≤ t.InternalType.decimals) :
    Fits t.InternalType payload t.scale := by
  have hw := (PhysicalType.inRange_pow t.width_le_decimals).2
  have hp : (0 : ℤ) < 10 ^ t.scale := Int.pow_pos (by omega)
  refine ⟨(neg_le_abs payload).trans_lt (h.trans hw), ?_⟩
  calc |payload| % 10 ^ t.scale * 10 ^ missingZeros t.scale
      < 10 ^ t.scale * 10 ^ missingZeros t.scale :=
        mul_lt_mul_of_pos_right (Int.emod_lt_of_pos _ hp) (Int.pow_pos (by omega))
    _ = 10 ^ (t.scale + missingZeros t.scale) := (pow_add _ _ _).symm
    _ < t.InternalType.int.bound := (PhysicalType.inRange_pow hs).2

end PgDuckdb.Types
