import PgDuckdb.Types.ConvertDecimal

/-!
# NaN and the infinities

A `NUMERIC` may be NaN or an infinity. These are marked in the header word, in bits where the short form has
its scale, and they have no digits; PostgreSQL looks for the mark before it unpacks a value. `FromNumeric`
unpacks without looking and `ConvertDecimal` answers 0 where there are no digits, so that special values are
read as 0. As a `DECIMAL`, exactly the numbers are read as what they are. For a `DOUBLE` the number is formed
in units of its scale and divided by the power of the scale at the end, and both may leave the range of
`double` where the number is well inside it (`reads_iff`).

A `DOUBLE` is modelled by what it denotes. Special values are read as 0 whatever the rounding of the
operations; for the numbers `double` has its range and no limit to its precision, as how near a double comes
to a number is another question.
-/

namespace PgDuckdb.Types
open Lib Lib.Positional

/-! ## What is denoted -/

/-- What a `NUMERIC`, a `DECIMAL` or a `DOUBLE` denotes. -/
inductive Denotation
  | nan
  | infinity (negative : Bool)
  | number (q : ℚ)
deriving DecidableEq

/-- `NUMERIC_IS_NAN`, `NUMERIC_IS_PINF` and `NUMERIC_IS_NINF`, before anything is unpacked. -/
def Numeric.denotation (n : Numeric) : Denotation :=
  if n.n_header = NUMERIC_NAN then .nan
  else if n.n_header = NUMERIC_PINF then .infinity false
  else if n.n_header = NUMERIC_NINF then .infinity true
  else .number (FromNumeric n).toRat

/-! ## `double` -/

/-- How the operations of `double` round, and its `pow(10, ·)`. A zero comes out as it is. -/
structure Rounding where
  round : ℚ → Denotation
  pow : ℕ → Denotation
  round_zero : round 0 = .number 0
  pow_zero : pow 0 = .number 1

/-- What does not round to a finite `double` any more. -/
def overflow : ℚ := (2 ^ 1024 - 2 ^ 970 : ℕ)

/-- The largest power of ten that is a finite `double`. -/
def max_exponent10 : ℕ := 308

/-- The powers that the table of a double covers are finite. -/
theorem pow_lt_overflow {n : ℕ} (h : n ≤ max_exponent10) : (10 : ℚ) ^ n < overflow := by
  have hmax : 10 ^ max_exponent10 < 2 ^ 1024 - 2 ^ 970 := by
    -- the powers are taken apart to be evaluated
    rw [show max_exponent10 = 77 * 4 from rfl, show 1024 = 128 * 8 from rfl, show 970 = 97 * 10 from rfl,
      pow_mul, pow_mul, pow_mul]
    decide
  calc (10 : ℚ) ^ n ≤ 10 ^ max_exponent10 := pow_le_pow_right₀ (by norm_num) h
    _ = (10 ^ max_exponent10 : ℕ) := by rw [Nat.cast_pow, Nat.cast_ofNat]
    _ < overflow := Nat.cast_lt.2 hmax

/-- The limit of the doubles is positive. -/
theorem overflow_pos : 0 < overflow := (pow_pos (by norm_num) 0).trans (pow_lt_overflow (Nat.zero_le _))

/-- The range of `double`, and no rounding within it. -/
def Rounding.range : Rounding where
  round q := if |q| < overflow then .number q else .infinity (decide (q < 0))
  pow n := if n ≤ max_exponent10 then .number (10 ^ n) else .infinity false
  round_zero := by rw [abs_zero, if_pos overflow_pos]
  pow_zero := by norm_num

namespace Rounding
variable (r : Rounding)

/-- The negative, with the sign of an infinity turned around. -/
def neg : Denotation → Denotation
  | .nan => .nan
  | .infinity s => .infinity !s
  | .number x => .number (-x)

/-- The sum as IEEE 754 has it, with a rounding. -/
def add : Denotation → Denotation → Denotation
  | .number x, .number y => r.round (x + y)
  | .infinity s, .number _ => .infinity s
  | .number _, .infinity s => .infinity s
  | .infinity s, .infinity t => if s = t then .infinity s else .nan
  | .nan, _ => .nan
  | _, .nan => .nan

/-- The product as IEEE 754 has it, with a rounding. -/
def mul : Denotation → Denotation → Denotation
  | .number x, .number y => r.round (x * y)
  | .infinity s, .number y => if y = 0 then .nan else .infinity (s ^^ decide (y < 0))
  | .number x, .infinity s => if x = 0 then .nan else .infinity (s ^^ decide (x < 0))
  | .infinity s, .infinity t => .infinity (s ^^ t)
  | .nan, _ => .nan
  | _, .nan => .nan

/-- The powers of ten that are divided by are positive, so that zeros need no sign. -/
def div : Denotation → Denotation → Denotation
  | .number x, .number y =>
    if y = 0 then if x = 0 then .nan else .infinity (decide (x < 0)) else r.round (x / y)
  | .infinity s, .number y => .infinity (s ^^ decide (y < 0))
  | .number _, .infinity _ => .number 0
  | .infinity _, .infinity _ => .nan
  | .nan, _ => .nan
  | _, .nan => .nan

/-- `ConvertDecimal<double, DecimalConversionDouble>`. -/
def arithmetic : Arithmetic Denotation where
  GetPowerOfTen index := pure (r.pow index)
  convert := pure
  ofInt x := pure (r.round x)
  add x y := pure (r.add x y)
  mul x y := pure (r.mul x y)
  div x y := pure (r.div x y)
  neg x := pure (neg x)
  Finalize numeric result := pure (r.div result (r.pow numeric.dscale))

end Rounding

/-! ## Reading a column -/

/-- `ConvertPostgresToDuckValue`, of the columns that a `NUMERIC` may have: what is read denotes this. -/
def readColumn (r : Rounding) (n : Numeric) : ColumnType → Except String Denotation
  | .DECIMAL t =>
    (ConvertPostgresToDuckValue t n).result.map fun m : ℤ => .number ((m : ℚ) / 10 ^ t.scale)
  | .NumericAsDouble => (ConvertDecimal r.arithmetic (FromNumeric n)).result
  | .Unsupported message => .error message

/-- NaN as it is stored: the header word alone, or with a weight of 0 behind it as in old releases. -/
def IsNaN (n : Numeric) : Prop := n.n_header = NUMERIC_NAN ∧ (n.n_data = [] ∨ n.n_data = [0])

/-- One of the two infinities of Postgres. -/
def IsInfinity (n : Numeric) : Prop :=
  (n.n_header = NUMERIC_PINF ∨ n.n_header = NUMERIC_NINF) ∧ n.n_data = []

/-- What a column may hold. With precision and scale it admits no infinity. -/
def Holds : ColumnType → Numeric → Prop
  | .DECIMAL t, n => Admitted t (FromNumeric n) ∨ IsNaN n
  | .NumericAsDouble, n => Legal (FromNumeric n) ∨ IsNaN n ∨ IsInfinity n
  | .Unsupported _, _ => False

/-- It is read as what it is, or not at all. -/
def ReadsRight (r : Rounding) (c : ColumnType) (n : Numeric) : Prop :=
  ∀ x, readColumn r n c = .ok x → x = n.denotation

/-- The power of the scale, and the number in units of its scale, are in the range of `double`. Zero needs
neither. -/
def FitsDouble (v : NumericVar) : Prop :=
  v.digits = [] ∨ v.dscale ≤ max_exponent10 ∧ v.magnitude * 10 ^ v.dscale < overflow

/-- What a column reads right: no special value, and as a `DOUBLE` nothing out of range. -/
def Readable : ColumnType → Numeric → Prop
  | .NumericAsDouble, n => NUMERIC_IS_SPECIAL n = false ∧ FitsDouble (FromNumeric n)
  | _, n => NUMERIC_IS_SPECIAL n = false

/-- Two values that are the same `DECIMAL` to DuckDB are the same to PostgreSQL. -/
def Distinguishes : ColumnType → Numeric → Numeric → Prop
  | .DECIMAL t, a, b => ∀ m, (ConvertPostgresToDuckValue t a).result = .ok m →
      (ConvertPostgresToDuckValue t b).result = .ok m → a.denotation = b.denotation
  | _, _, _ => True

/-! ## Special values -/

section
variable {T : Type} {op : Arithmetic T} {v : NumericVar} {p z : T}

/-- Where there are no digits the answer is 0. -/
theorem result_of_no_digits (hd : v.digits = []) (hp : (op.GetPowerOfTen v.dscale).result = .ok p)
    (hz : (op.ofInt 0).result = .ok z) : (ConvertDecimal op v).result = .ok z := by
  have hn : v.ndigits = 0 := by rw [NumericVar.ndigits, hd, List.length_nil]
  refine Calc.result_bind.2 ⟨p, hp, ?_⟩
  rwa [if_pos hn]

/-- And so it is where the only digit is a 0. -/
theorem result_of_zero_digit (hd : v.digits = [0]) (hw : v.weight = 0) (hs : v.sign ≠ NUMERIC_NEG)
    (hp : (op.GetPowerOfTen v.dscale).result = .ok p) (hz : (op.ofInt 0).result = .ok z)
    (hmul : (op.mul z p).result = .ok z) (hadd : (op.add z z).result = .ok z)
    (hfin : (op.Finalize v z).result = .ok z) : (ConvertDecimal op v).result = .ok z := by
  have hn : v.ndigits = 1 := by rw [NumericVar.ndigits, hd, List.length_singleton]
  have hint : (ConvertDecimal.integralPart op v p).result = .ok z := by
    rw [ConvertDecimal.integralPart, hw, hd, if_pos le_rfl]
    exact Calc.result_bind.2 ⟨z, hz, Calc.result_bind.2 ⟨z, rfl, hmul⟩⟩
  have hfrac : (ConvertDecimal.fractionalPart op v).result = .ok z := by
    rwa [ConvertDecimal.fractionalPart, hw, hn, if_neg (by decide)]
  refine Calc.result_bind.2 ⟨p, hp, ?_⟩
  rw [if_neg (by rw [hn]; decide)]
  refine Calc.result_bind.2 ⟨z, hint, Calc.result_bind.2 ⟨z, hfrac, Calc.result_bind.2 ⟨z, hadd, ?_⟩⟩⟩
  refine Calc.result_bind.2 ⟨z, hfin, ?_⟩
  rw [if_neg hs]
  rfl

end

section
variable {n : Numeric}

/-- The header words of the special values. -/
def IsSpecialHeader (h : BitVec 16) : Prop := h = NUMERIC_NAN ∨ h = NUMERIC_PINF ∨ h = NUMERIC_NINF

/-- The header of a special value counts as a short one. -/
theorem special_is_short (h : IsSpecialHeader n.n_header) : NUMERIC_HEADER_IS_SHORT n := by
  unfold NUMERIC_HEADER_IS_SHORT
  rcases h with h | h | h <;> rw [h] <;> decide

/-- The header of a special value is read as one of the short form. -/
theorem digits_of_special (h : IsSpecialHeader n.n_header) :
    (FromNumeric n).digits = n.n_data.map BitVec.toInt :=
  if_pos (special_is_short h)

/-- NaN is unpacked as if it were a zero without a scale. -/
theorem FromNumeric_nan (h : n.n_header = NUMERIC_NAN) :
    (FromNumeric n).weight = 0 ∧ (FromNumeric n).dscale = 0 ∧ (FromNumeric n).sign = NUMERIC_NAN := by
  have hs := special_is_short (.inl h)
  refine ⟨(if_pos hs).trans ?_, (if_pos hs).trans ?_, ?_⟩
  · rw [h]
    decide
  · rw [h]
    decide
  · change NUMERIC_SIGN n = NUMERIC_NAN
    unfold NUMERIC_SIGN NUMERIC_IS_SHORT NUMERIC_IS_SPECIAL NUMERIC_FLAGBITS NUMERIC_EXT_FLAGBITS
    rw [h]
    decide

/-- Zero is kept by every type. -/
theorem PhysicalType.keep_zero {T : PhysicalType} : (T.int.keep 0 : Calc String ℤ).result = .ok 0 :=
  (T.int.clean_keep.2 ⟨inRange_zero, rfl⟩).result_eq

/-- NaN is read as 0 in each `DECIMAL`. -/
theorem decimal_of_nan (t : DecimalType) (h : IsNaN n) :
    (ConvertPostgresToDuckValue t n).result = .ok 0 := by
  obtain ⟨hn, hd⟩ := h
  have hp : (t.InternalType.arithmetic.GetPowerOfTen 0).result = .ok 1 :=
    ((PhysicalType.clean_GetPowerOfTen (Nat.zero_le _)).2 rfl).result_eq
  have hdigits := digits_of_special (.inl hn)
  obtain ⟨hw, hdscale, hsign⟩ := FromNumeric_nan hn
  rw [← hdscale] at hp
  rcases hd with hd | hd
  · rw [hd] at hdigits
    exact result_of_no_digits hdigits hp PhysicalType.keep_zero
  · rw [hd] at hdigits
    exact result_of_zero_digit hdigits hw (by rw [hsign]; decide) hp PhysicalType.keep_zero
      PhysicalType.keep_zero PhysicalType.keep_zero rfl

/-- NaN and the infinities are read as 0 in each `DOUBLE`. -/
theorem double_of_special (r : Rounding) (h : IsNaN n ∨ IsInfinity n) :
    (ConvertDecimal r.arithmetic (FromNumeric n)).result = .ok (.number 0) := by
  have hz : (r.arithmetic.ofInt 0).result = .ok (.number 0) := congrArg Except.ok (by
    rw [Int.cast_zero, r.round_zero])
  rcases h with ⟨hn, hd | hd⟩ | ⟨hi, hd⟩
  · have hdigits := digits_of_special (.inl hn)
    rw [hd] at hdigits
    exact result_of_no_digits hdigits rfl hz
  · have hdigits := digits_of_special (.inl hn)
    obtain ⟨hw, hdscale, hsign⟩ := FromNumeric_nan hn
    have hadd : r.add (.number 0) (.number 0) = .number 0 := by
      rw [Rounding.add, add_zero, r.round_zero]
    have hmul : r.mul (.number 0) (.number 1) = .number 0 := by
      rw [Rounding.mul, zero_mul, r.round_zero]
    have hdiv : r.div (.number 0) (.number 1) = .number 0 := by
      rw [Rounding.div, if_neg one_ne_zero, zero_div, r.round_zero]
    have hpow : r.pow (FromNumeric n).dscale = .number 1 := by
      rw [hdscale, r.pow_zero]
    rw [hd] at hdigits
    exact result_of_zero_digit hdigits hw (by rw [hsign]; decide) (congrArg Except.ok hpow) hz
      (congrArg Except.ok hmul) (congrArg Except.ok hadd)
      (congrArg Except.ok ((congrArg _ hpow).trans hdiv))
  · have hdigits := digits_of_special (.inr hi)
    rw [hd] at hdigits
    exact result_of_no_digits hdigits rfl hz

end

/-! ## Numbers as doubles -/

section
open ConvertDecimal
variable {v : NumericVar} {ds : List ℤ} {x d : ℤ}

/-- Between zero and the limit nothing is rounded away. -/
theorem range_round {q : ℚ} (h₀ : 0 ≤ q) (h : q < overflow) : Rounding.range.round q = .number q :=
  if_pos (by rwa [abs_of_nonneg h₀])

/-- A power in the table is exact. -/
theorem range_pow {n : ℕ} (h : n ≤ max_exponent10) : Rounding.range.pow n = .number (10 ^ n) := if_pos h

/-- So is a number below the limit. -/
theorem range_ofInt (h₀ : 0 ≤ x) (h : (x : ℚ) < overflow) :
    (Rounding.range.arithmetic.ofInt x).result = .ok (.number x) :=
  congrArg Except.ok (range_round (by exact_mod_cast h₀) h)

/-- A power is had exactly. -/
theorem range_GetPowerOfTen {n : ℕ} (h : n ≤ max_exponent10) :
    (Rounding.range.arithmetic.GetPowerOfTen n).result = .ok (.number (10 ^ n)) :=
  congrArg Except.ok (range_pow h)

/-- A sum below the limit is exact. -/
theorem range_add {q q' : ℚ} (h₀ : 0 ≤ q + q') (h : q + q' < overflow) :
    (Rounding.range.arithmetic.add (.number q) (.number q')).result = .ok (.number (q + q')) :=
  congrArg Except.ok (range_round h₀ h)

/-- A product below the limit is exact. -/
theorem range_mul {q q' : ℚ} (h₀ : 0 ≤ q * q') (h : q * q' < overflow) :
    (Rounding.range.arithmetic.mul (.number q) (.number q')).result = .ok (.number (q * q')) :=
  congrArg Except.ok (range_round h₀ h)

/-- Division by a power of ten does not leave the range. -/
theorem range_div {q : ℚ} (n : ℕ) (h₀ : 0 ≤ q) (h : q < overflow) :
    Rounding.range.div (.number q) (.number (10 ^ n)) = .number (q / 10 ^ n) := by
  have hle : q / 10 ^ n ≤ q := div_le_self h₀ (one_le_pow₀ (by norm_num))
  rw [Rounding.div, if_neg (pow_ne_zero n (by norm_num))]
  exact range_round (by positivity) (hle.trans_lt h)

/-- The base is a power of ten. -/
theorem NBASE_eq_pow : (NBASE : ℚ) = 10 ^ DEC_DIGITS := by norm_num [DEC_DIGITS, NBASE]

/-- The base is below the limit. -/
theorem NBASE_lt_overflow : ((NBASE : ℤ) : ℚ) < overflow := by
  rw [NBASE_eq_pow]
  exact pow_lt_overflow (by decide)

/-- So is a digit. -/
theorem digit_lt_overflow (hd : d < NBASE) : (d : ℚ) < overflow :=
  lt_trans (by exact_mod_cast hd) NBASE_lt_overflow

/-- One more digit, as long as the number with it is in range. -/
theorem range_accumulate (hx : 0 ≤ x) (hd : 0 ≤ d ∧ d < NBASE) (h : ((x * NBASE + d : ℤ) : ℚ) < overflow) :
    (accumulate Rounding.range.arithmetic (.number x) d).result = .ok (.number (x * NBASE + d : ℤ)) := by
  have hx' : (0 : ℚ) ≤ x := by exact_mod_cast hx
  have hd' : (0 : ℚ) ≤ d := by exact_mod_cast hd.1
  have hN : (0 : ℚ) ≤ NBASE := by exact_mod_cast NBASE_pos.le
  have hm : (0 : ℚ) ≤ x * NBASE := mul_nonneg hx' hN
  push_cast at h ⊢
  exact Calc.result_bind.2 ⟨_, range_ofInt NBASE_pos.le NBASE_lt_overflow, Calc.result_bind.2
    ⟨_, range_mul hm (by linarith), Calc.result_bind.2
      ⟨_, range_ofInt hd.1 (digit_lt_overflow hd.2), range_add (by linarith) h⟩⟩⟩

/-- All on the way is below the result. -/
theorem range_integralLoop {n : ℕ} (hp : Proper NBASE ds) (hx : 0 ≤ x)
    (h : ((numberFrom NBASE x (ds.takeD n 0) : ℤ) : ℚ) < overflow) :
    (integralLoop Rounding.range.arithmetic n ds (.number x)).result =
      .ok (.number (numberFrom NBASE x (ds.takeD n 0))) := by
  have hN : (0 : ℚ) ≤ NBASE := by exact_mod_cast NBASE_pos.le
  induction n generalizing ds x with
  | zero => rfl
  | succ n ih =>
    have hx' : (0 : ℚ) ≤ x := by exact_mod_cast hx
    cases ds with
    | nil =>
      have hm : 0 ≤ x * NBASE + 0 := by
        rw [add_zero]
        exact mul_nonneg hx NBASE_pos.le
      have hle := le_numberFrom NBASE_pos (hp.takeD NBASE_pos n) hm
      have hlt : ((x * NBASE + 0 : ℤ) : ℚ) < overflow := lt_of_le_of_lt (by exact_mod_cast hle) h
      have hcast : ((x * NBASE + 0 : ℤ) : ℚ) = x * NBASE := by
        push_cast
        rw [add_zero]
      have hrest := ih hp hm h
      rw [hcast] at hlt hrest
      exact Calc.result_bind.2 ⟨_, range_ofInt NBASE_pos.le NBASE_lt_overflow, Calc.result_bind.2
        ⟨_, range_mul (mul_nonneg hx' hN) hlt, hrest⟩⟩
    | cons d ds =>
      have hd := hp d List.mem_cons_self
      have hm : 0 ≤ x * NBASE + d := add_nonneg (mul_nonneg hx NBASE_pos.le) hd.1
      have hle := le_numberFrom NBASE_pos (hp.tail.takeD NBASE_pos n) hm
      have hlt : ((x * NBASE + d : ℤ) : ℚ) < overflow := lt_of_le_of_lt (by exact_mod_cast hle) h
      exact Calc.result_bind.2 ⟨_, range_accumulate hx hd hlt, ih hp.tail hm h⟩

/-- What is to spare is taken off the last digit and the base. -/
theorem range_lastDigit_div {n : ℕ} (hn : n ≤ max_exponent10) (hx : 0 ≤ x) (hd : 0 ≤ d ∧ d < NBASE)
    (h : ((x * NBASE + d : ℤ) / (10 : ℚ) ^ n) < overflow) :
    (lastDigit Rounding.range.arithmetic n (.number x) d).result =
      .ok (.number ((x * NBASE + d : ℤ) / (10 : ℚ) ^ n)) := by
  have hx' : (0 : ℚ) ≤ x := by exact_mod_cast hx
  have hd' : (0 : ℚ) ≤ d := by exact_mod_cast hd.1
  have hN : (0 : ℚ) ≤ NBASE := by exact_mod_cast NBASE_pos.le
  have hsum : (x : ℚ) * (NBASE / 10 ^ n) + d / 10 ^ n = (x * NBASE + d : ℤ) / (10 : ℚ) ^ n := by
    push_cast
    ring
  have hm : (0 : ℚ) ≤ x * (NBASE / 10 ^ n) := mul_nonneg hx' (div_nonneg hN (by positivity))
  have hd₀ : (0 : ℚ) ≤ d / 10 ^ n := by positivity
  refine Calc.result_bind.2 ⟨_, range_ofInt NBASE_pos.le NBASE_lt_overflow, Calc.result_bind.2
    ⟨_, range_ofInt hd.1 (digit_lt_overflow hd.2), ?_⟩⟩
  rw [if_pos (Int.natCast_nonneg n), Int.toNat_natCast, ← hsum]
  rw [← hsum] at h
  exact Calc.result_bind.2 ⟨_, range_GetPowerOfTen hn, Calc.result_bind.2 ⟨_, rfl, Calc.result_bind.2
    ⟨_, congrArg Except.ok (range_div n hN NBASE_lt_overflow), Calc.result_bind.2
      ⟨_, congrArg Except.ok (range_div n hd' (digit_lt_overflow hd.2)), Calc.result_bind.2
        ⟨_, range_mul hm (by linarith), range_add (by linarith) h⟩⟩⟩⟩⟩

/-- What is missing is put to the last digit and the base, as long as the base with it is in range. -/
theorem range_lastDigit_mul {n : ℕ} (hpos : 0 < n) (hn : n + DEC_DIGITS ≤ max_exponent10) (hx : 0 ≤ x)
    (hd : 0 ≤ d ∧ d < NBASE) (h : ((x * NBASE + d : ℤ) * (10 : ℚ) ^ n) < overflow) :
    (lastDigit Rounding.range.arithmetic (-n) (.number x) d).result =
      .ok (.number ((x * NBASE + d : ℤ) * (10 : ℚ) ^ n)) := by
  have hx' : (0 : ℚ) ≤ x := by exact_mod_cast hx
  have hd' : (0 : ℚ) ≤ d := by exact_mod_cast hd.1
  have hN : (0 : ℚ) ≤ NBASE := by exact_mod_cast NBASE_pos.le
  have hbase : (NBASE : ℚ) * 10 ^ n < overflow := by
    rw [NBASE_eq_pow, ← pow_add]
    refine pow_lt_overflow ?_
    omega
  have hsum : (x : ℚ) * (NBASE * 10 ^ n) + d * 10 ^ n = (x * NBASE + d : ℤ) * (10 : ℚ) ^ n := by
    push_cast
    ring
  have hbase₀ : (0 : ℚ) ≤ NBASE * 10 ^ n := mul_nonneg hN (by positivity)
  have hm : (0 : ℚ) ≤ x * (NBASE * 10 ^ n) := mul_nonneg hx' hbase₀
  have hd₀ : (0 : ℚ) ≤ d * 10 ^ n := by positivity
  refine Calc.result_bind.2 ⟨_, range_ofInt NBASE_pos.le NBASE_lt_overflow, Calc.result_bind.2
    ⟨_, range_ofInt hd.1 (digit_lt_overflow hd.2), ?_⟩⟩
  rw [if_neg (by omega), neg_neg, Int.toNat_natCast, ← hsum]
  rw [← hsum] at h
  exact Calc.result_bind.2 ⟨_, range_GetPowerOfTen (by omega), Calc.result_bind.2 ⟨_, rfl, Calc.result_bind.2
    ⟨_, range_mul hbase₀ hbase, Calc.result_bind.2
      ⟨_, range_mul hd₀ (by linarith), Calc.result_bind.2
        ⟨_, range_mul hm (by linarith), range_add (by linarith) h⟩⟩⟩⟩⟩

/-- Up or down, the last digit is divided by the power that the scale is off. A zero or more to spare are at
most three, and a digit left out leaves room for the base. -/
theorem range_lastDigit {c : ℤ} (hc : -((max_exponent10 : ℤ) - DEC_DIGITS) ≤ c ∧ c < DEC_DIGITS) (hx : 0 ≤ x)
    (hd : 0 ≤ d ∧ d < NBASE) (h : ((x * NBASE + d : ℤ) / (10 : ℚ) ^ c) < overflow) :
    (lastDigit Rounding.range.arithmetic c (.number x) d).result =
      .ok (.number ((x * NBASE + d : ℤ) / (10 : ℚ) ^ c)) := by
  obtain ⟨hlow, hhigh⟩ := hc
  have hroom : DEC_DIGITS ≤ max_exponent10 := by decide
  rcases le_or_gt 0 c with hc | hc
  · obtain ⟨n, rfl⟩ := Int.eq_ofNat_of_zero_le hc
    rw [zpow_natCast] at h ⊢
    exact range_lastDigit_div (by omega) hx hd h
  · obtain ⟨n, rfl⟩ : ∃ n : ℕ, c = -n := ⟨(-c).toNat, by omega⟩
    rw [zpow_neg, zpow_natCast, div_inv_eq_mul] at h ⊢
    exact range_lastDigit_mul (by omega) (by omega) hx hd h

/-- The loop behind the point is exact where its result is below the limit. -/
theorem range_fractionalLoop {c : ℤ} {y : Denotation} (hp : Proper NBASE ds) (hx : 0 ≤ x)
    (h : ((numberFrom NBASE x ds : ℤ) : ℚ) < overflow)
    (hl : (lastDigit Rounding.range.arithmetic c (.number (numberFrom NBASE x ds)) d).result = .ok y) :
    (fractionalLoop Rounding.range.arithmetic c (ds ++ [d]) (.number x)).result = .ok y := by
  induction ds generalizing x with
  | nil => exact hl
  | cons e ds ih =>
    have he := hp e List.mem_cons_self
    have hm : 0 ≤ x * NBASE + e := add_nonneg (mul_nonneg hx NBASE_pos.le) he.1
    have hle := le_numberFrom NBASE_pos hp.tail hm
    have hlt : ((x * NBASE + e : ℤ) : ℚ) < overflow := lt_of_le_of_lt (by exact_mod_cast hle) h
    rw [List.cons_append, fractionalLoop_cons (by simp)]
    exact Calc.result_bind.2 ⟨_, range_accumulate hx he hlt, ih hp.tail hm h hl⟩

/-- The part in front of the point is exact where it is below the limit. -/
theorem range_integralPart {p : ℚ} (hp : Proper NBASE v.digits) (hp₁ : 1 ≤ p) (h : whole v * p < overflow) :
    (integralPart Rounding.range.arithmetic v (.number p)).result = .ok (.number (whole v * p)) := by
  have hpT := hp.takeD NBASE_pos (places v)
  have hw₀ : (0 : ℚ) ≤ whole v := by exact_mod_cast (number_bounds hpT).1
  have hm : (0 : ℚ) ≤ whole v * p := mul_nonneg hw₀ (by linarith)
  have hwp : (whole v : ℚ) < overflow := (le_mul_of_one_le_right hw₀ hp₁).trans_lt h
  unfold integralPart
  split
  next hw =>
    have hN : places v = v.weight.toNat + 1 := by
      unfold places
      omega
    have hhead : 0 ≤ v.digits.headD 0 ∧ v.digits.headD 0 < NBASE :=
      hpT _ (by rw [hN]; exact List.mem_cons_self)
    have htail : Proper NBASE v.digits.tail := fun d hd => hp d (List.mem_of_mem_tail hd)
    rw [whole_eq hw] at h hm hwp ⊢
    exact Calc.result_bind.2 ⟨_, range_ofInt hhead.1 (digit_lt_overflow hhead.2), Calc.result_bind.2
      ⟨_, range_integralLoop htail hhead.1 hwp, range_mul hm h⟩⟩
  next hw =>
    have h0 : (whole v * p : ℚ) = (0 : ℤ) := by rw [whole_eq_zero hw, Int.cast_zero, zero_mul]
    rw [h0]
    exact range_ofInt le_rfl (by exact_mod_cast overflow_pos)

/-- The power of the base, less the scale. -/
theorem correction_pow (k s : ℕ) :
    (10 : ℚ) ^ ((k : ℤ) * DEC_DIGITS - s) = (NBASE : ℚ) ^ k / 10 ^ s := by
  rw [zpow_sub₀ (by norm_num), NBASE_eq_pow, ← pow_mul, mul_comm DEC_DIGITS, zpow_natCast]
  exact_mod_cast rfl

/-- A last digit other than zero spares less than a digit of the base. -/
theorem correction_lt {c F : ℤ} (hd : 0 ≤ d ∧ d < NBASE) (hd₀ : d ≠ 0)
    (hval : (F : ℚ) = ((x * NBASE + d : ℤ) : ℚ) / 10 ^ c) : c < DEC_DIGITS := by
  by_contra hcc
  obtain ⟨n, hn⟩ := Int.eq_ofNat_of_zero_le (a := c) (by omega)
  rw [hn, zpow_natCast, eq_div_iff (pow_ne_zero _ (by norm_num))] at hval
  have := spare_zeros hd hd₀ (F := F) (by exact_mod_cast hval.symm)
  omega

/-- What is before the last digit is below the whole. -/
theorem le_of_lastDigit {c F : ℤ} (hc : c < DEC_DIGITS) (hx : 0 ≤ x) (hd : 0 ≤ d)
    (hval : (F : ℚ) = ((x * NBASE + d : ℤ) : ℚ) / 10 ^ c) : (x : ℚ) ≤ F := by
  have hpow : (10 : ℚ) ^ c ≤ NBASE := by
    rw [NBASE_eq_pow, ← zpow_natCast]
    exact zpow_le_zpow_right₀ (by norm_num) hc.le
  have hx' : (0 : ℚ) ≤ x := by exact_mod_cast hx
  have hd' : (0 : ℚ) ≤ d := by exact_mod_cast hd
  rw [hval, le_div_iff₀ (zpow_pos (by norm_num) c)]
  push_cast
  calc (x : ℚ) * 10 ^ c ≤ x * NBASE := mul_le_mul_of_nonneg_left hpow hx'
    _ ≤ x * NBASE + d := le_add_of_nonneg_right hd'

/-- The part behind the point is exact where it is below the limit. -/
theorem range_fractionalPart {F : ℤ} (hp : Proper NBASE v.digits) (hlast : v.digits.getLast? ≠ some 0)
    (hne : v.digits ≠ []) (hs : v.dscale ≤ max_exponent10) (hF : (F : ℚ) < overflow)
    (hv : value ℚ NBASE (v.weight - places v) (behind v) * 10 ^ v.dscale = F) :
    (fractionalPart Rounding.range.arithmetic v).result = .ok (.number F) := by
  unfold fractionalPart
  split
  next h =>
    have hB₀ := behind_ne_nil h hne
    obtain ⟨xs, d, hB⟩ := (List.eq_nil_or_concat' (behind v)).resolve_left hB₀
    have hpB : Proper NBASE (xs ++ [d]) := hB ▸ fun e he => hp e (List.mem_of_mem_drop he)
    have hd := hpB d (List.mem_append_right _ List.mem_cons_self)
    have hxs : Proper NBASE xs := fun e he => hpB e (List.mem_append_left _ he)
    have hd₀ : d ≠ 0 := last_behind_ne_zero hlast hB₀ hB
    have ha := (number_bounds hxs).1
    have hk : (v.ndigits : ℤ) - v.weight - 1 = ((v.ndigits : ℤ) - v.weight - 1).toNat := by omega
    have hval : (F : ℚ) = ((number NBASE xs * NBASE + d : ℤ) : ℚ) /
        10 ^ (((v.ndigits : ℤ) - v.weight - 1) * DEC_DIGITS - v.dscale) := by
      rw [← hv, value_behind h hne, hB, number_concat, hk, correction_pow, div_div_eq_mul_div,
        div_mul_eq_mul_div, Int.toNat_natCast]
    set c : ℤ := ((v.ndigits : ℤ) - v.weight - 1) * DEC_DIGITS - v.dscale with hc
    have hlow : -((max_exponent10 : ℤ) - DEC_DIGITS) ≤ c := by
      unfold DEC_DIGITS at hc ⊢
      omega
    have hhigh : c < DEC_DIGITS := correction_lt hd hd₀ hval
    have hxF : (number NBASE xs : ℚ) ≤ F := le_of_lastDigit hhigh ha hd.1 hval
    refine Calc.result_bind.2 ⟨⟨⟩, Calc.result_assert, Calc.result_bind.2
      ⟨_, range_ofInt le_rfl (by exact_mod_cast overflow_pos), ?_⟩⟩
    rw [← places, ← behind, hB]
    refine range_fractionalLoop hxs le_rfl (hxF.trans_lt hF) ?_
    rw [hval]
    exact range_lastDigit ⟨hlow, hhigh⟩ ha hd (hval ▸ hF)
  next h =>
    have h0 : F = 0 := by
      rw [behind_eq_nil h, value, zero_mul] at hv
      exact_mod_cast hv.symm
    rw [h0]
    exact range_ofInt le_rfl (by exact_mod_cast overflow_pos)

/-- In range, the formula is the number, in every layout. -/
theorem range_ConvertDecimal (hl : Legal v) (hfit : FitsDouble v) :
    (ConvertDecimal Rounding.range.arithmetic v).result = .ok (.number v.toRat) := by
  by_cases hne : v.digits = []
  · have h0 : v.toRat = (0 : ℤ) := by simp [NumericVar.toRat, NumericVar.magnitude, hne, value]
    rw [h0]
    exact result_of_no_digits hne rfl (range_ofInt le_rfl (by exact_mod_cast overflow_pos))
  · obtain ⟨hs, hM⟩ := hfit.resolve_left hne
    have hn : v.ndigits ≠ 0 := fun h0 => hne (List.length_eq_zero_iff.1 h0)
    obtain ⟨m, hm⟩ := hl.dscale
    obtain ⟨F, hF, hF₀, hsum⟩ := hl.parts hm
    have hsum' : (whole v : ℚ) * 10 ^ v.dscale + F = v.magnitude * 10 ^ v.dscale := by
      rw [hm, ← hsum]
      push_cast
      rfl
    have hw₀ : (0 : ℚ) ≤ whole v := by exact_mod_cast (number_bounds (hl.proper.takeD NBASE_pos _)).1
    have hF₀' : (0 : ℚ) ≤ F := by exact_mod_cast hF₀
    have hwp : (0 : ℚ) ≤ whole v * 10 ^ v.dscale := mul_nonneg hw₀ (by positivity)
    have hM₀ : (0 : ℚ) ≤ v.magnitude * 10 ^ v.dscale := by linarith
    have hone : (1 : ℚ) ≤ 10 ^ v.dscale := one_le_pow₀ (by norm_num)
    have hfin : Rounding.range.div (.number (v.magnitude * 10 ^ v.dscale)) (.number (10 ^ v.dscale)) =
        .number v.magnitude := by
      rw [range_div _ hM₀ hM, mul_div_cancel_right₀ _ (pow_ne_zero _ (by norm_num))]
    have hadd := @range_add (whole v * 10 ^ v.dscale) F (by linarith) (by linarith)
    rw [hsum'] at hadd
    refine Calc.result_bind.2 ⟨_, range_GetPowerOfTen hs, ?_⟩
    rw [if_neg hn]
    refine Calc.result_bind.2 ⟨_, range_integralPart hl.proper hone (by linarith), Calc.result_bind.2
      ⟨_, range_fractionalPart hl.proper hl.last hne hs (by linarith) hF, Calc.result_bind.2
        ⟨_, hadd, Calc.result_bind.2 ⟨.number v.magnitude, congrArg Except.ok ?_, ?_⟩⟩⟩⟩
    · rw [range_pow hs, hfin]
    · rw [NumericVar.toRat]
      split
      · rfl
      · rfl

/-! ## Out of range -/

/-- What is finite after the rounding was below the limit. -/
theorem finite_of_range {x : ℚ} {q : ℚ} (h : Rounding.range.round q = .number x) : x = q ∧ |q| < overflow := by
  unfold Rounding.range at h
  dsimp only at h
  split at h
  next hq =>
    cases h
    exact ⟨rfl, hq⟩
  next => cases h

/-- A finite sum is in range. -/
theorem finite_of_add {a b : Denotation} {x : ℚ} (h : Rounding.range.add a b = .number x) : |x| < overflow := by
  unfold Rounding.add at h
  split at h
  · obtain ⟨rfl, hq⟩ := finite_of_range h
    exact hq
  all_goals first | cases h | (split at h <;> cases h)

/-- What is divided by a power of ten that is infinite is 0 or nothing. -/
theorem div_infinity (a : Denotation) :
    Rounding.range.div a (.infinity false) = .number 0 ∨ Rounding.range.div a (.infinity false) = .nan := by
  cases a with
  | nan => exact .inr rfl
  | infinity s => exact .inr rfl
  | number x => exact .inl rfl

/-- A finite quotient of something that is below the limit. -/
theorem finite_of_div {a : Denotation} {x : ℚ} {n : ℕ} (ha : ∀ y, a = .number y → |y| < overflow)
    (h : Rounding.range.div a (.number (10 ^ n)) = .number x) : |x| * 10 ^ n < overflow := by
  have hn : (10 : ℚ) ^ n ≠ 0 := pow_ne_zero n (by norm_num)
  cases a with
  | nan => cases h
  | infinity s => cases h
  | number y =>
    rw [Rounding.div, if_neg hn] at h
    obtain ⟨rfl, -⟩ := finite_of_range h
    have habs : |(10 : ℚ) ^ n| = 10 ^ n := abs_of_pos (by positivity)
    rw [abs_div, habs, div_mul_cancel₀ _ hn]
    exact ha y rfl

/-- A value with digits is not zero. -/
theorem magnitude_pos (hl : Legal v) (hne : v.digits ≠ []) : 0 < v.magnitude := by
  obtain ⟨xs, d, hB⟩ := (List.eq_nil_or_concat' v.digits).resolve_left hne
  have hproper := hl.proper
  have hlast := hl.last
  rw [hB] at hproper hlast
  have hd := hproper d (List.mem_append_right _ List.mem_cons_self)
  have hd₀ : d ≠ 0 := by
    rintro rfl
    exact hlast (List.getLast?_concat ..)
  have hfront : Proper NBASE xs := fun e he => hproper e (List.mem_append_left _ he)
  have hxs := (number_bounds hfront).1
  have hnum : 0 < number NBASE (xs ++ [d]) := by
    rw [number_concat]
    have := mul_nonneg hxs NBASE_pos.le
    omega
  rw [NumericVar.magnitude, value_eq NBASE_ne, hB]
  exact mul_pos (by exact_mod_cast hnum) (zpow_pos (by norm_num [NBASE]) _)

/-- Out of range, it is not the number that comes out. -/
theorem ConvertDecimal_out_of_range (hl : Legal v) (hfit : ¬FitsDouble v) :
    (ConvertDecimal Rounding.range.arithmetic v).result ≠ .ok (.number v.toRat) := by
  intro h
  obtain ⟨hne, hout⟩ := not_or.1 hfit
  have hn : v.ndigits ≠ 0 := fun h0 => hne (List.length_eq_zero_iff.1 h0)
  have hpos := magnitude_pos hl hne
  have habs : |v.toRat| = v.magnitude := abs_toRat hl.proper
  obtain ⟨p, hp, h⟩ := Calc.result_bind.1 h
  rw [if_neg hn] at h
  obtain ⟨i, -, h⟩ := Calc.result_bind.1 h
  obtain ⟨f, -, h⟩ := Calc.result_bind.1 h
  obtain ⟨s, hs, h⟩ := Calc.result_bind.1 h
  obtain ⟨y, hy, h⟩ := Calc.result_bind.1 h
  -- the result is finite before its sign is put to it
  have hfinite : ∃ q : ℚ, y = .number q ∧ |q| = v.magnitude := by
    split at h
    next hneg =>
      have hy' : Rounding.neg y = .number v.toRat := Except.ok.inj h
      cases y with
      | nan => cases hy'
      | infinity s => cases hy'
      | number q => exact ⟨q, rfl, by rw [← habs, ← ( Denotation.number.inj hy'), abs_neg]⟩
    next => exact ⟨v.toRat, Except.ok.inj h, habs⟩
  obtain ⟨q, rfl, hq⟩ := hfinite
  have hdiv : Rounding.range.div s (Rounding.range.pow v.dscale) = .number q := Except.ok.inj hy
  by_cases hscale : v.dscale ≤ max_exponent10
  · rw [range_pow hscale] at hdiv
    have hadd : ∀ y, s = .number y → |y| < overflow := by
      rintro y rfl
      exact finite_of_add (Except.ok.inj hs)
    have := finite_of_div hadd hdiv
    rw [hq] at this
    exact hout ⟨hscale, this⟩
  · have hinf : Rounding.range.pow v.dscale = .infinity false := if_neg hscale
    rw [hinf] at hdiv
    rcases div_infinity s with h0 | h0
    · rw [h0] at hdiv
      rw [← Denotation.number.inj hdiv, abs_zero] at hq
      exact hpos.ne hq
    · rw [h0] at hdiv
      cases hdiv

end

/-! ## An answer for every number -/

section
open ConvertDecimal
variable {r : Rounding}

/-- A sequence returns where both parts do. -/
theorem returns_bind {α β : Type} {m : Calc String α} {f : α → Calc String β} (hm : ∃ a, m.result = .ok a)
    (hf : ∀ a, ∃ b, (f a).result = .ok b) : ∃ b, (m >>= f).result = .ok b := by
  obtain ⟨a, ha⟩ := hm
  obtain ⟨b, hb⟩ := hf a
  exact ⟨b, Calc.result_bind.2 ⟨a, ha, hb⟩⟩

/-- One step of a loop returns. -/
theorem returns_accumulate (x : Denotation) (d : ℤ) :
    ∃ y, (accumulate r.arithmetic x d).result = .ok y := ⟨_, rfl⟩

/-- The loop in front of the point returns. -/
theorem returns_integralLoop (n : ℕ) (ds : List ℤ) (x : Denotation) :
    ∃ y, (integralLoop r.arithmetic n ds x).result = .ok y := by
  induction n generalizing ds x with
  | zero => exact ⟨x, rfl⟩
  | succ n ih =>
    cases ds with
    | nil => exact returns_bind ⟨_, rfl⟩ fun _ => returns_bind ⟨_, rfl⟩ fun y => ih [] y
    | cons d ds => exact returns_bind (returns_accumulate x d) fun y => ih ds y

/-- The last digit behind the point returns. -/
theorem returns_lastDigit (c : ℤ) (x : Denotation) (d : ℤ) :
    ∃ y, (lastDigit r.arithmetic c x d).result = .ok y := by
  refine returns_bind ⟨_, rfl⟩ fun _ => returns_bind ⟨_, rfl⟩ fun _ => ?_
  split
  · exact ⟨_, rfl⟩
  · exact ⟨_, rfl⟩

/-- The loop behind the point returns. -/
theorem returns_fractionalLoop (c : ℤ) (ds : List ℤ) (x : Denotation) :
    ∃ y, (fractionalLoop r.arithmetic c ds x).result = .ok y := by
  induction ds generalizing x with
  | nil => exact ⟨x, rfl⟩
  | cons d ds ih =>
    cases ds with
    | nil => exact returns_lastDigit c x d
    | cons e ds => exact returns_bind (returns_accumulate x d) ih

/-- The arithmetic of `double` raises no error. -/
theorem returns_ConvertDecimal (v : NumericVar) : ∃ y, (ConvertDecimal r.arithmetic v).result = .ok y := by
  refine returns_bind ⟨_, rfl⟩ fun p => ?_
  split
  · exact ⟨_, rfl⟩
  · have hint : ∃ i, (integralPart r.arithmetic v p).result = .ok i := by
      unfold integralPart
      split
      · exact returns_bind ⟨_, rfl⟩ fun x => returns_bind (returns_integralLoop _ _ x) fun _ => ⟨_, rfl⟩
      · exact ⟨_, rfl⟩
    have hfrac : ∃ f, (fractionalPart r.arithmetic v).result = .ok f := by
      unfold fractionalPart
      split
      · exact returns_bind ⟨_, Calc.result_assert⟩ fun _ => returns_bind ⟨_, rfl⟩ fun x =>
          returns_fractionalLoop _ _ x
      · exact ⟨_, rfl⟩
    refine returns_bind hint fun _ => returns_bind hfrac fun _ => returns_bind ⟨_, rfl⟩ fun _ =>
      returns_bind ⟨_, rfl⟩ fun _ => ?_
    split
    · exact ⟨_, rfl⟩
    · exact ⟨_, rfl⟩

end

/-! ## What is read right -/

section
variable {r : Rounding} {c : ColumnType} {n a b : Numeric}

/-- A special header says that the value is special. -/
theorem special_of_header (h : IsSpecialHeader n.n_header) : NUMERIC_IS_SPECIAL n := by
  unfold NUMERIC_IS_SPECIAL NUMERIC_FLAGBITS
  rcases h with h | h | h <;> rw [h] <;> decide

/-- A number has no special header. -/
theorem not_header_of_number (hs : NUMERIC_IS_SPECIAL n = false) : ¬IsSpecialHeader n.n_header := by
  intro h
  have := special_of_header h
  rw [hs] at this
  exact Bool.false_ne_true this

/-- A special value is none of the numbers. -/
theorem denotation_of_header (h : IsSpecialHeader n.n_header) (q : ℚ) : n.denotation ≠ .number q := by
  unfold Numeric.denotation
  rcases h with h | h | h <;> rw [h] <;> simp [NUMERIC_NAN, NUMERIC_PINF, NUMERIC_NINF]

/-- The sign of a number shows that it is not marked as special. -/
theorem Legal.not_special (h : Legal (FromNumeric n)) : NUMERIC_IS_SPECIAL n = false := by
  have hsign : NUMERIC_SIGN n = NUMERIC_POS ∨ NUMERIC_SIGN n = NUMERIC_NEG := h.sign
  by_contra hs
  rw [Bool.not_eq_false] at hs
  have hflags : NUMERIC_FLAGBITS n = NUMERIC_SPECIAL := of_decide_eq_true hs
  have hshort : NUMERIC_IS_SHORT n = false := by
    unfold NUMERIC_IS_SHORT
    rw [hflags]
    decide
  have hext : NUMERIC_EXT_FLAGBITS n &&& NUMERIC_SIGN_MASK = NUMERIC_FLAGBITS n := by
    rw [NUMERIC_EXT_FLAGBITS, BitVec.and_assoc]
    rfl
  rw [NUMERIC_SIGN, hshort, hs] at hsign
  simp only [Bool.false_eq_true, if_false, if_true] at hsign
  rw [hflags] at hext
  rcases hsign with hp | hp <;> rw [hp] at hext <;> exact absurd hext (by decide)

/-- A legal number denotes its value. -/
theorem Legal.denotation (h : Legal (FromNumeric n)) : n.denotation = .number (FromNumeric n).toRat := by
  have hn := not_header_of_number h.not_special
  rw [Numeric.denotation, if_neg fun hh => hn (.inl hh), if_neg fun hh => hn (.inr (.inl hh)),
    if_neg fun hh => hn (.inr (.inr hh))]

/-- A NaN has a special header. -/
theorem IsNaN.header (h : IsNaN n) : IsSpecialHeader n.n_header := .inl h.1

/-- So has an infinity. -/
theorem IsInfinity.header (h : IsInfinity n) : IsSpecialHeader n.n_header := .inr h.1

/-- A number that a `DECIMAL` column holds is read as that number. -/
theorem decimal_of_admitted {t : DecimalType} (h : Admitted t (FromNumeric n)) :
    ∃ m : ℤ, (ConvertPostgresToDuckValue t n).result = .ok m ∧
      n.denotation = .number (m / 10 ^ t.scale) := by
  obtain ⟨m, hm, hq⟩ := clean_of_admitted h
  refine ⟨m, hm.result_eq, ?_⟩
  rw [h.denotation, hq, mul_div_cancel_right₀ _ (pow_ne_zero _ (by norm_num))]

/-- What is readable is not special. -/
theorem Readable.not_special (h : Readable c n) : NUMERIC_IS_SPECIAL n = false := by
  cases c with
  | DECIMAL t => exact h
  | NumericAsDouble => exact h.1
  | Unsupported message => exact h

/-- What is readable is read right. -/
theorem readsRight_of_readable (h : Holds c n) (hr : Readable c n) : ReadsRight .range c n := by
  have hn := not_header_of_number hr.not_special
  intro x hx
  cases c with
  | DECIMAL t =>
    obtain ⟨m, hm, hd⟩ := decimal_of_admitted (h.resolve_right fun hh => hn hh.header)
    rw [readColumn, hm] at hx
    rw [hd]
    exact (Except.ok.inj hx).symm
  | NumericAsDouble =>
    have hl : Legal (FromNumeric n) :=
      h.resolve_right fun hh => hn (hh.elim IsNaN.header IsInfinity.header)
    rw [readColumn, range_ConvertDecimal hl hr.2] at hx
    rw [hl.denotation, Except.ok.inj hx]
  | Unsupported message => exact h.elim

/-- A special value is not. -/
theorem not_readsRight_of_special (h : Holds c n) (hs : NUMERIC_IS_SPECIAL n) : ¬ReadsRight r c n := by
  intro hr
  have hl (hh : Legal (FromNumeric n)) : False := by
    rw [hh.not_special] at hs
    exact Bool.false_ne_true hs
  cases c with
  | DECIMAL t =>
    have hnan : IsNaN n := h.resolve_left fun hh => hl hh.toLegal
    have := hr (.number ((0 : ℤ) / 10 ^ t.scale)) (by rw [readColumn, decimal_of_nan t hnan]; rfl)
    exact denotation_of_header hnan.header _ this.symm
  | NumericAsDouble =>
    have hspecial := h.resolve_left hl
    have := hr (.number 0) (double_of_special _ hspecial)
    exact denotation_of_header (hspecial.elim IsNaN.header IsInfinity.header) _ this.symm
  | Unsupported message => exact h.elim

/-- What is read right is readable. -/
theorem readable_of_readsRight (h : Holds c n) (hr : ReadsRight .range c n) : Readable c n := by
  have hs : NUMERIC_IS_SPECIAL n = false := Bool.eq_false_iff.2 fun hs => not_readsRight_of_special h hs hr
  cases c with
  | DECIMAL t => exact hs
  | Unsupported message => exact hs
  | NumericAsDouble =>
    have hn := not_header_of_number hs
    have hl : Legal (FromNumeric n) :=
      h.resolve_right fun hh => hn (hh.elim IsNaN.header IsInfinity.header)
    refine ⟨hs, ?_⟩
    by_contra hfit
    obtain ⟨x, hx⟩ := returns_ConvertDecimal (r := .range) (FromNumeric n)
    refine ConvertDecimal_out_of_range hl hfit ?_
    rw [hx, hr x hx, hl.denotation]

/-- Two numbers are told apart wherever they differ. -/
theorem distinguishes_numbers (ha : Holds c a) (hb : Holds c b) (hsa : NUMERIC_IS_SPECIAL a = false)
    (hsb : NUMERIC_IS_SPECIAL b = false) : Distinguishes c a b := by
  cases c with
  | DECIMAL t =>
    have hn {n : Numeric} (h : Holds (.DECIMAL t) n) (hs : NUMERIC_IS_SPECIAL n = false) :
        Admitted t (FromNumeric n) :=
      h.resolve_right fun hh => not_header_of_number hs hh.header
    intro m hma hmb
    obtain ⟨ma, hra, hda⟩ := decimal_of_admitted (hn ha hsa)
    obtain ⟨mb, hrb, hdb⟩ := decimal_of_admitted (hn hb hsb)
    rw [hda, hdb, Except.ok.inj (hra.symm.trans hma), Except.ok.inj (hrb.symm.trans hmb)]
  | NumericAsDouble => trivial
  | Unsupported message => trivial

end

/-- Of any two values of a column, both are read right and as different decimals where they differ, exactly
when neither of them is special and, for a `DOUBLE`, both stay in its range. -/
theorem reads_iff (c : ColumnType) (a b : Numeric) (ha : Holds c a) (hb : Holds c b) :
    (ReadsRight .range c a ∧ ReadsRight .range c b ∧ Distinguishes c a b) ↔
      Readable c a ∧ Readable c b := by
  constructor
  · rintro ⟨hra, hrb, -⟩
    exact ⟨readable_of_readsRight ha hra, readable_of_readsRight hb hrb⟩
  · rintro ⟨hra, hrb⟩
    exact ⟨readsRight_of_readable ha hra, readsRight_of_readable hb hrb,
      distinguishes_numbers ha hb hra.not_special hrb.not_special⟩

/-- NaN and infinity, as they are stored. -/
def storedNaN : Numeric := ⟨NUMERIC_NAN, [], by decide⟩
/-- Infinity, as Postgres stores it. -/
def storedInfinity : Numeric := ⟨NUMERIC_PINF, [], by decide⟩

/-- The price is readable, and a NaN is not. -/
theorem reads_iff_price :
    (ReadsRight .range (.DECIMAL cents) price ∧ ReadsRight .range (.DECIMAL cents) storedNaN ∧
        Distinguishes (.DECIMAL cents) price storedNaN) ↔
      Readable (.DECIMAL cents) price ∧ Readable (.DECIMAL cents) storedNaN :=
  reads_iff (.DECIMAL cents) price storedNaN (.inl price_admitted) (.inr ⟨rfl, .inl rfl⟩)

/-- NaN in a `numeric(4, 2)` column and infinity in one that is read as `DOUBLE` are 0, and no error. -/
theorem special_reads_zero :
    (Holds (.DECIMAL cents) storedNaN ∧ (ConvertPostgresToDuckValue cents storedNaN).result = .ok 0 ∧
      ∀ r, ¬ReadsRight r (.DECIMAL cents) storedNaN) ∧
    Holds .NumericAsDouble storedInfinity ∧
      ∀ r, readColumn r storedInfinity .NumericAsDouble = .ok (.number 0) ∧
        ¬ReadsRight r .NumericAsDouble storedInfinity := by
  have hnan : IsNaN storedNaN := ⟨rfl, .inl rfl⟩
  have hinf : IsInfinity storedInfinity := ⟨.inl rfl, rfl⟩
  have hdouble : Holds .NumericAsDouble storedInfinity := .inr (.inr hinf)
  refine ⟨⟨.inr hnan, decimal_of_nan cents hnan, fun r => ?_⟩, hdouble, fun r => ⟨?_, ?_⟩⟩
  · exact not_readsRight_of_special (.inr hnan) (by decide)
  · exact double_of_special r (.inr hinf)
  · exact not_readsRight_of_special hdouble (by decide)

end PgDuckdb.Types
