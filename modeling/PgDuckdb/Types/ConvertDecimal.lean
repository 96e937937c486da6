import Mathlib.Algebra.Order.Field.Rat
import Mathlib.Tactic.NormNum
import Mathlib.Tactic.Positivity
import PgDuckdb.Types.Numeric

/-!
# From NUMERIC to DECIMAL

`ConvertDecimal` reads a `NumericVar` as an integer, the number in units of its scale. It accumulates the
digits before the point and multiplies by the power of the scale; then it accumulates those behind the point
and makes up in the last one for the difference between the scale and the digits there are, downwards where
the last digit has zeros to spare and upwards where PostgreSQL left digits out. The code is a template over
the type it calculates in, which is here an `Arithmetic`; the same text reads a `NUMERIC` as a `DOUBLE`.

For a number that a `numeric(p, s)` column admits, in whatever layout, all that is accumulated stays below
`10 ^ p`, and the column's `DECIMAL(p, s)` holds that much (`clean_of_admitted`).
-/

namespace PgDuckdb.Types
open Lib Lib.Positional

/-! ## The column -/

/-- The size of the header of a varlena. -/
def VARHDRSZ : BitVec 32 := 4

/-- The type modifier of a precision and a scale. -/
def make_numeric_typmod (precision scale : BitVec 32) : BitVec 32 :=
  ((precision <<< 16) ||| (scale &&& 0x7ff)) + VARHDRSZ

/-- The precision of a type modifier. -/
def numeric_typmod_precision (typmod : BitVec 32) : ℤ :=
  (((typmod - VARHDRSZ).sshiftRight 16) &&& 0xffff).toInt

/-- The scale of a type modifier, which has a sign. -/
def numeric_typmod_scale (typmod : BitVec 32) : ℤ :=
  ((((typmod - VARHDRSZ) &&& 0x7ff) ^^^ 1024) - 1024).toInt

/-- The types that a `NUMERIC` column may get. -/
inductive ColumnType
  | DECIMAL (t : DecimalType)
  | NumericAsDouble
  | Unsupported (message : String)

/-- Why a precision cannot be had in DuckDB. -/
def unsupportedMessage (type_modifier : BitVec 32) (precision scale : ℤ) : String :=
  if type_modifier = -1 then
    "DuckDB requires the precision of a NUMERIC to be set. You can choose to convert these NUMERICs to " ++
    "a DOUBLE by using 'SET duckdb.convert_unsupported_numeric_to_double = true'"
  else if precision < 1 ∨ precision > 38 then
    "DuckDB only supports NUMERIC with a precision of 1-38. You can choose to convert these NUMERICs " ++
    "to a DOUBLE by using 'SET duckdb.convert_unsupported_numeric_to_double = true'"
  else if scale < 0 ∨ scale > 38 then
    "DuckDB only supports NUMERIC with a scale of 0-38. You can choose to convert these NUMERICs to a " ++
    "DOUBLE by using 'SET duckdb.convert_unsupported_numeric_to_double = true'"
  else
    "DuckDB does not support NUMERIC with a scale that is larger than the precision. You can choose to " ++
    "convert these NUMERICs to a DOUBLE by using 'SET duckdb.convert_unsupported_numeric_to_double = " ++
    "true'"

/-- `ConvertPostgresToBaseDuckColumnType`, of `NUMERICOID`. -/
def ConvertPostgresToBaseDuckColumnType (duckdb_convert_unsupported_numeric_to_double : Bool)
    (type_modifier : BitVec 32) : ColumnType :=
  let precision := numeric_typmod_precision type_modifier
  let scale := numeric_typmod_scale type_modifier
  if h : type_modifier = -1 ∨ precision < 1 ∨ precision > 38 ∨ scale < 0 ∨ scale > 38 ∨
      scale > precision then
    if duckdb_convert_unsupported_numeric_to_double then .NumericAsDouble
    else .Unsupported (unsupportedMessage type_modifier precision scale)
  else .DECIMAL ⟨precision.toNat, scale.toNat, by omega, by omega, by omega⟩

/-! ## The conversion -/

/-- The type `T` that the template calculates in, with its `OP`. -/
structure Arithmetic (T : Type) where
  GetPowerOfTen : ℕ → Calc String T
  /-- A power of ten, as a `T`. -/
  convert : T → Calc String T
  /-- An `int`, as a `T`. -/
  ofInt : ℤ → Calc String T
  add : T → T → Calc String T
  mul : T → T → Calc String T
  div : T → T → Calc String T
  neg : T → Calc String T
  Finalize : NumericVar → T → Calc String T

/-- `ConvertDecimal<T>` of the integer types. -/
def PhysicalType.arithmetic (T : PhysicalType) : Arithmetic ℤ where
  GetPowerOfTen := T.GetPowerOfTen
  convert := T.int.keep
  ofInt := T.int.keep
  add x y := T.int.keep (x + y)
  mul x y := T.int.keep (x * y)
  div x y := T.int.keep (x.tdiv y)
  neg x := T.int.keep (-x)
  Finalize _ result := pure result

namespace ConvertDecimal

section
variable {T : Type} (op : Arithmetic T)

/-- `x *= NBASE`, and `x += digit`. -/
def accumulate (x : T) (digit : ℤ) : Calc String T := do
  let x ← op.mul x (← op.ofInt NBASE)
  op.add x (← op.ofInt digit)

/-- The loop over the digits before the point, up to the weight. The digits may end before. -/
def integralLoop : ℕ → List ℤ → T → Calc String T
  | 0, _, integral_part => pure integral_part
  | n + 1, [], integral_part => do
    let integral_part ← op.mul integral_part (← op.ofInt NBASE)
    integralLoop n [] integral_part
  | n + 1, digit :: digits, integral_part => do
    let integral_part ← accumulate op integral_part digit
    integralLoop n digits integral_part

/-- The part in front of the point, times the power of the scale. -/
def integralPart (numeric : NumericVar) (scale_POWER : T) : Calc String T :=
  if numeric.weight ≥ 0 then do
    let integral_part ← op.ofInt (numeric.digits.headD 0)
    let integral_part ← integralLoop op numeric.weight.toNat numeric.digits.tail integral_part
    op.mul integral_part scale_POWER
  else op.ofInt 0

/-- The last digit makes up for the scale. -/
def lastDigit (fractional_power_correction : ℤ) (fractional_part : T) (digit : ℤ) : Calc String T := do
  let final_base ← op.ofInt NBASE
  let final_digit ← op.ofInt digit
  if fractional_power_correction ≥ 0 then
    let compensation ← op.convert (← op.GetPowerOfTen fractional_power_correction.toNat)
    let final_base ← op.div final_base compensation
    let final_digit ← op.div final_digit compensation
    op.add (← op.mul fractional_part final_base) final_digit
  else
    let compensation ← op.convert (← op.GetPowerOfTen (-fractional_power_correction).toNat)
    let final_base ← op.mul final_base compensation
    let final_digit ← op.mul final_digit compensation
    op.add (← op.mul fractional_part final_base) final_digit

/-- The loop over the digits behind the point. -/
def fractionalLoop (fractional_power_correction : ℤ) : List ℤ → T → Calc String T
  | [], fractional_part => pure fractional_part
  | [digit], fractional_part => lastDigit op fractional_power_correction fractional_part digit
  | digit :: digit' :: digits, fractional_part => do
    let fractional_part ← accumulate op fractional_part digit
    fractionalLoop fractional_power_correction (digit' :: digits) fractional_part

/-- The digits behind the point, as a whole number of the scale. -/
def fractionalPart (numeric : NumericVar) : Calc String T :=
  if (numeric.ndigits : ℤ) > numeric.weight + 1 then do
    let fractional_power := (numeric.ndigits - numeric.weight - 1) * DEC_DIGITS
    let fractional_power_correction := fractional_power - numeric.dscale
    Calc.assert (fractional_power_correction < 20)
    let fractional_part ← op.ofInt 0
    fractionalLoop op fractional_power_correction (numeric.digits.drop (numeric.weight + 1).toNat)
      fractional_part
  else op.ofInt 0

end

end ConvertDecimal

open ConvertDecimal in
/-- The value of a numeric as a whole number of its scale. -/
def ConvertDecimal {T : Type} (op : Arithmetic T) (numeric : NumericVar) : Calc String T := do
  let scale_POWER ← op.GetPowerOfTen numeric.dscale
  if numeric.ndigits = 0 then op.ofInt 0
  else
    let integral_part ← integralPart op numeric scale_POWER
    let fractional_part ← fractionalPart op numeric
    let base_res ← op.Finalize numeric (← op.add integral_part fractional_part)
    if numeric.sign = NUMERIC_NEG then op.neg base_res else pure base_res

/-- `ConvertPostgresToDuckValue`, of a column of type `DECIMAL`. -/
def ConvertPostgresToDuckValue (t : DecimalType) (value : Numeric) : Calc String ℤ :=
  ConvertDecimal t.InternalType.arithmetic (FromNumeric value)

/-! ## The loops -/

namespace ConvertDecimal

section
variable {T : PhysicalType} {x y d F : ℤ} {ds : List ℤ}

/-- One more digit, as long as the type holds the number with it. -/
theorem clean_accumulate (hx : 0 ≤ x) (hd : 0 ≤ d ∧ d < NBASE) (h : T.int.InRange (x * NBASE + d)) :
    (accumulate T.arithmetic x d).Clean (x * NBASE + d) := by
  have hm : 0 ≤ x * NBASE := mul_nonneg hx NBASE_pos.le
  simp only [accumulate, PhysicalType.arithmetic, Calc.clean_bind, IntType.clean_keep]
  exact ⟨_, ⟨PhysicalType.inRange_NBASE, rfl⟩, _, ⟨h.of_le hm (by omega), rfl⟩, _,
    ⟨PhysicalType.inRange_NBASE.of_le hd.1 hd.2.le, rfl⟩, h, rfl⟩

/-- The digits up to the weight, with zeros where there are none. All on the way is below the result. -/
theorem clean_integralLoop {n : ℕ} (hp : Proper NBASE ds) (hx : 0 ≤ x)
    (h : T.int.InRange (numberFrom NBASE x (ds.takeD n 0))) :
    (integralLoop T.arithmetic n ds x).Clean (numberFrom NBASE x (ds.takeD n 0)) := by
  induction n generalizing ds x with
  | zero => simp [integralLoop]
  | succ n ih =>
    have hm : 0 ≤ x * NBASE := mul_nonneg hx NBASE_pos.le
    cases ds with
    | nil =>
      have h' : T.int.InRange (numberFrom NBASE (x * NBASE) (List.takeD n [] 0)) := by
        simpa [List.takeD] using h
      have hr := h'.of_le hm (le_numberFrom NBASE_pos (hp.takeD NBASE_pos n) hm)
      simp only [integralLoop, Calc.clean_bind]
      refine ⟨_, T.int.clean_keep.2 ⟨PhysicalType.inRange_NBASE, rfl⟩, _,
        T.int.clean_keep.2 ⟨hr, rfl⟩, ?_⟩
      simpa [List.takeD] using ih hp hm h'
    | cons d ds =>
      obtain ⟨hd₀, hd⟩ := hp d List.mem_cons_self
      have hm' : 0 ≤ x * NBASE + d := by omega
      have hr := h.of_le hm' (le_numberFrom NBASE_pos (hp.tail.takeD NBASE_pos n) hm')
      rw [integralLoop, Calc.clean_bind]
      exact ⟨_, clean_accumulate hx ⟨hd₀, hd⟩ hr, ih hp.tail hm' h⟩

/-- The loop takes the first digit. -/
theorem fractionalLoop_cons {T : Type} {op : Arithmetic T} {c : ℤ} {x : T} (h : ds ≠ []) :
    fractionalLoop op c (d :: ds) x = accumulate op x d >>= fractionalLoop op c ds := by
  cases ds with
  | nil => exact absurd rfl h
  | cons e ds => rfl

/-- The digits before the last one are accumulated as they are. -/
theorem clean_fractionalLoop {c : ℤ} (hp : Proper NBASE ds) (hx : 0 ≤ x)
    (h : T.int.InRange (numberFrom NBASE x ds))
    (hl : (lastDigit T.arithmetic c (numberFrom NBASE x ds) d).Clean y) :
    (fractionalLoop T.arithmetic c (ds ++ [d]) x).Clean y := by
  induction ds generalizing x with
  | nil => exact hl
  | cons e ds ih =>
    obtain ⟨he₀, he⟩ := hp e List.mem_cons_self
    have hm : 0 ≤ x * NBASE := mul_nonneg hx NBASE_pos.le
    have hm' : 0 ≤ x * NBASE + e := by omega
    have hr := h.of_le hm' (le_numberFrom NBASE_pos hp.tail hm')
    rw [List.cons_append, fractionalLoop_cons (by simp), Calc.clean_bind]
    exact ⟨_, clean_accumulate hx ⟨he₀, he⟩ hr, ih hp.tail hm' h hl⟩

/-- The last digit has `c` zeros to spare. -/
theorem clean_lastDigit_down {c : ℕ} (hc : c ≤ DEC_DIGITS) (hx : 0 ≤ x) (hd : 0 ≤ d ∧ d < NBASE)
    (hF : T.int.InRange F) (h : x * NBASE + d = F * 10 ^ c) :
    (lastDigit T.arithmetic c x d).Clean F := by
  have h4 : DEC_DIGITS ≤ T.decimals := PhysicalType.DEC_DIGITS_le_decimals
  have hpow : (0 : ℤ) < 10 ^ c := Int.pow_pos (by omega)
  have hbase : NBASE = 10 ^ (DEC_DIGITS - c) * 10 ^ c := by
    rw [← pow_add, Nat.sub_add_cancel hc]
    rfl
  have hxb : 0 ≤ x * 10 ^ (DEC_DIGITS - c) := mul_nonneg hx (Int.pow_pos (by omega)).le
  obtain ⟨e, rfl⟩ : ∃ e, F = x * 10 ^ (DEC_DIGITS - c) + e := ⟨F - x * 10 ^ (DEC_DIGITS - c), by ring⟩
  have hde : d = e * 10 ^ c := by
    rw [hbase] at h
    linarith
  have he : 0 ≤ e := nonneg_of_mul_nonneg_left (hde ▸ hd.1) hpow
  have hb : NBASE.tdiv (10 ^ c) = 10 ^ (DEC_DIGITS - c) := by
    rw [hbase, Int.mul_tdiv_cancel _ hpow.ne']
  have hd' : d.tdiv (10 ^ c) = e := by
    rw [hde, Int.mul_tdiv_cancel _ hpow.ne']
  have hcT := hc.trans h4
  have hcT' : DEC_DIGITS - c ≤ T.decimals := (Nat.sub_le _ _).trans h4
  simp only [lastDigit, PhysicalType.arithmetic, Calc.clean_bind, IntType.clean_keep, Int.natCast_nonneg,
    ge_iff_le, if_true, Int.toNat_natCast, PhysicalType.clean_GetPowerOfTen hcT]
  refine ⟨_, ⟨PhysicalType.inRange_NBASE, rfl⟩, _, ⟨PhysicalType.inRange_NBASE.of_le hd.1 hd.2.le, rfl⟩,
    _, rfl, _, ⟨PhysicalType.inRange_pow hcT, rfl⟩, _, ⟨hb ▸ PhysicalType.inRange_pow hcT', hb.symm⟩, _,
    ⟨hd' ▸ hF.of_le he (by omega), hd'.symm⟩, _, ⟨hF.of_le hxb (by omega), rfl⟩, hF, rfl⟩

/-- PostgreSQL left `c` decimal digits out behind the last digit. -/
theorem clean_lastDigit_up {c : ℕ} (hc₀ : 0 < c) (hc : DEC_DIGITS + c ≤ T.decimals) (hx : 0 ≤ x)
    (hd : 0 ≤ d ∧ d < NBASE) (hF : T.int.InRange F) (h : F = (x * NBASE + d) * 10 ^ c) :
    (lastDigit T.arithmetic (-c : ℤ) x d).Clean F := by
  have hpow : (0 : ℤ) < 10 ^ c := Int.pow_pos (by omega)
  have hbase : NBASE * 10 ^ c = 10 ^ (DEC_DIGITS + c) := by
    rw [pow_add]
    rfl
  have hsum : x * (NBASE * 10 ^ c) + d * 10 ^ c = F := by
    rw [h]
    ring
  have hxb : 0 ≤ x * (NBASE * 10 ^ c) := mul_nonneg hx (mul_nonneg NBASE_pos.le hpow.le)
  have hdc : 0 ≤ d * 10 ^ c := mul_nonneg hd.1 hpow.le
  have hcT : c ≤ T.decimals := by omega
  have hneg : ¬0 ≤ (-c : ℤ) := by omega
  simp only [lastDigit, PhysicalType.arithmetic, Calc.clean_bind, IntType.clean_keep, ge_iff_le, hneg,
    if_false, neg_neg, Int.toNat_natCast, PhysicalType.clean_GetPowerOfTen hcT]
  refine ⟨_, ⟨PhysicalType.inRange_NBASE, rfl⟩, _, ⟨PhysicalType.inRange_NBASE.of_le hd.1 hd.2.le, rfl⟩,
    _, rfl, _, ⟨PhysicalType.inRange_pow hcT, rfl⟩, _, ⟨hbase ▸ PhysicalType.inRange_pow hc, rfl⟩, _,
    ⟨hF.of_le hdc (by omega), rfl⟩, _, ⟨hF.of_le hxb (by omega), rfl⟩, ?_, ?_⟩
  · rwa [hsum]
  · exact hsum.symm

end

/-! ## The parts -/

section
variable {T : PhysicalType} {v : NumericVar} {F : ℤ}

/-- How many digits stand before the point. -/
def places (v : NumericVar) : ℕ := (v.weight + 1).toNat

/-- The number before the point. -/
def whole (v : NumericVar) : ℤ := number NBASE (v.digits.takeD (places v) 0)

/-- The digits behind the point. -/
def behind (v : NumericVar) : List ℤ := v.digits.drop (places v)

/-- A magnitude is what stands in front of the point and what stands behind it. -/
theorem magnitude_eq : v.magnitude = whole v + value ℚ NBASE (v.weight - places v) (behind v) := by
  rw [NumericVar.magnitude, value_split (places v)]
  congr 1
  by_cases hw : 0 ≤ v.weight
  · refine value_whole NBASE_ne ?_
    rw [List.takeD_length, places]
    omega
  · have h0 : places v = 0 := by
      unfold places
      omega
    simp [whole, h0, value]

/-- Behind the point it is a fraction with as many digits as its last one is away from the point. -/
theorem value_behind (h : (v.ndigits : ℤ) > v.weight + 1) (hne : v.digits ≠ []) :
    value ℚ NBASE (v.weight - places v) (behind v) =
      (number NBASE (behind v) : ℚ) / (NBASE : ℚ) ^ (v.ndigits - v.weight - 1).toNat := by
  have hn : 0 < v.digits.length := List.length_pos_of_ne_nil hne
  refine value_fraction NBASE_ne ?_
  unfold NumericVar.ndigits at h ⊢
  rw [behind, List.length_drop, places]
  omega

/-- There is a digit behind the point if there are more digits than the weight has. -/
theorem behind_ne_nil (h : (v.ndigits : ℤ) > v.weight + 1) (hne : v.digits ≠ []) : behind v ≠ [] := by
  have hn : 0 < v.digits.length := List.length_pos_of_ne_nil hne
  unfold NumericVar.ndigits at h
  rw [behind, Ne, List.drop_eq_nil_iff, places]
  omega

/-- Where there are no digits behind the point. -/
theorem behind_eq_nil (h : ¬(v.ndigits : ℤ) > v.weight + 1) : behind v = [] := by
  unfold NumericVar.ndigits at h
  rw [behind, List.drop_eq_nil_iff, places]
  omega

/-- The first digit, and the others up to the weight. -/
theorem whole_eq (hw : v.weight ≥ 0) :
    whole v = numberFrom NBASE (v.digits.headD 0) (v.digits.tail.takeD v.weight.toNat 0) := by
  have hN : places v = v.weight.toNat + 1 := by
    unfold places
    omega
  rw [whole, hN, List.takeD, number, numberFrom_cons, zero_mul, zero_add]

/-- Without a weight there is nothing in front of the point. -/
theorem whole_eq_zero (hw : ¬v.weight ≥ 0) : whole v = 0 := by
  have hN : places v = 0 := by
    unfold places
    omega
  rw [whole, hN]
  rfl

/-- The part in front of the point is computed exactly if it fits. -/
theorem clean_integralPart {p : ℤ} (hp : Proper NBASE v.digits) (hp₁ : 1 ≤ p)
    (h : T.int.InRange (whole v * p)) : (integralPart T.arithmetic v p).Clean (whole v * p) := by
  have hpT := hp.takeD NBASE_pos (places v)
  have hw₀ : 0 ≤ whole v := (number_bounds hpT).1
  have hwT := h.of_le hw₀ (le_mul_of_one_le_right hw₀ hp₁)
  unfold integralPart
  split
  next hw =>
    have hN : places v = v.weight.toNat + 1 := by
      unfold places
      omega
    have hhead : 0 ≤ v.digits.headD 0 ∧ v.digits.headD 0 < NBASE :=
      hpT _ (by rw [hN]; exact List.mem_cons_self)
    have htail : Proper NBASE v.digits.tail := fun d hd => hp d (List.mem_of_mem_tail hd)
    rw [whole_eq hw] at h hwT ⊢
    simp only [Calc.clean_bind]
    exact ⟨_, T.int.clean_keep.2 ⟨PhysicalType.inRange_NBASE.of_le hhead.1 hhead.2.le, rfl⟩, _,
      clean_integralLoop htail hhead.1 hwT, T.int.clean_keep.2 ⟨h, rfl⟩⟩
  next hw =>
    rw [whole_eq_zero hw, zero_mul] at h ⊢
    exact T.int.clean_keep.2 ⟨h, rfl⟩

/-- With proper digits and a last one that is not zero, a fraction that is whole in units of `10 ^ -s` has
no more than three zeros to spare. -/
theorem spare_zeros {a d : ℤ} {c : ℕ} (hd : 0 ≤ d ∧ d < NBASE) (hd₀ : d ≠ 0)
    (h : a * NBASE + d = F * 10 ^ c) : c < DEC_DIGITS := by
  by_contra hc
  have hb : (10 : ℤ) ^ c = 10 ^ (c - DEC_DIGITS) * NBASE := by
    rw [show NBASE = 10 ^ DEC_DIGITS from rfl, ← pow_add, Nat.sub_add_cancel (not_lt.1 hc)]
  have hdvd : NBASE ∣ d := by
    refine (Int.dvd_add_right (Dvd.intro_left a rfl)).1 ?_
    rw [h, hb, ← mul_assoc]
    exact Dvd.intro_left _ rfl
  exact hd₀ (Int.eq_zero_of_dvd_of_nonneg_of_lt hd.1 hd.2 hdvd)

/-- The whole loop behind the point, when `k` digits are counted there. -/
theorem clean_fractionalLoop_all {xs : List ℤ} {d : ℤ} {k s : ℕ} (hp : Proper NBASE (xs ++ [d]))
    (hd₀ : d ≠ 0) (hk : 1 ≤ k) (hs : s ≤ T.decimals) (hF : T.int.InRange F)
    (h : F * NBASE ^ k = number NBASE (xs ++ [d]) * 10 ^ s) :
    (k * DEC_DIGITS : ℤ) - s < 20 ∧
      (fractionalLoop T.arithmetic ((k * DEC_DIGITS : ℤ) - s) (xs ++ [d]) 0).Clean F := by
  have h10 (n : ℕ) : (0 : ℤ) < 10 ^ n := Int.pow_pos (by omega)
  have hd := hp d (List.mem_append_right _ List.mem_cons_self)
  have hxs : Proper NBASE xs := fun e he => hp e (List.mem_append_left _ he)
  have ha := (number_bounds hxs).1
  have hNk : NBASE ^ k = 10 ^ (k * DEC_DIGITS) := by
    rw [show NBASE = 10 ^ DEC_DIGITS from rfl, ← pow_mul, mul_comm k]
  have ha' : 0 ≤ number NBASE xs * NBASE := mul_nonneg ha NBASE_pos.le
  rw [hNk, number_concat] at h
  rcases le_or_gt s (k * DEC_DIGITS) with hc | hc
  · obtain ⟨c, hc⟩ := Nat.exists_eq_add_of_le hc
    have hF' : number NBASE xs * NBASE + d = F * 10 ^ c := by
      rw [hc, pow_add, ← mul_assoc, mul_right_comm] at h
      exact (mul_right_cancel₀ (h10 s).ne' h).symm
    have hc4 := spare_zeros hd hd₀ hF'
    have haF : number NBASE xs ≤ F := by
      refine le_of_mul_le_mul_right ?_ (h10 c)
      calc number NBASE xs * 10 ^ c
          ≤ number NBASE xs * NBASE :=
            mul_le_mul_of_nonneg_left (pow_le_pow_right₀ (by omega) hc4.le) ha
        _ ≤ F * 10 ^ c := by omega
    have hcorr : (k * DEC_DIGITS : ℤ) - s = c := by omega
    rw [hcorr]
    unfold DEC_DIGITS at hc4
    exact ⟨by omega, clean_fractionalLoop hxs le_rfl (hF.of_le ha haF)
      (clean_lastDigit_down hc4.le ha hd hF hF')⟩
  · obtain ⟨c, hc⟩ := Nat.exists_eq_add_of_le hc.le
    have hF' : F = (number NBASE xs * NBASE + d) * 10 ^ c := by
      rw [hc, pow_add, mul_comm (10 ^ (k * DEC_DIGITS)), ← mul_assoc] at h
      exact mul_right_cancel₀ (h10 _).ne' h
    have haF : number NBASE xs ≤ F := by
      calc number NBASE xs ≤ number NBASE xs * NBASE := le_mul_of_one_le_right ha NBASE_pos
        _ ≤ number NBASE xs * NBASE + d := by omega
        _ ≤ F := hF' ▸ le_mul_of_one_le_right (by omega) (h10 c)
    have hcorr : (k * DEC_DIGITS : ℤ) - s = -c := by omega
    rw [hcorr]
    unfold DEC_DIGITS at hc
    exact ⟨by omega, clean_fractionalLoop hxs le_rfl (hF.of_le ha haF)
      (clean_lastDigit_up (by omega) (by unfold DEC_DIGITS; omega) ha hd hF hF')⟩

/-- The last digit behind the point is the last one of all. -/
theorem last_behind_ne_zero {xs : List ℤ} {d : ℤ} (hlast : v.digits.getLast? ≠ some 0) (hB₀ : behind v ≠ [])
    (hB : behind v = xs ++ [d]) : d ≠ 0 := by
  have hg : (behind v).getLast? = v.digits.getLast? := by
    rw [behind, Ne, List.drop_eq_nil_iff] at hB₀
    rw [behind, List.getLast?_drop, if_neg hB₀]
  rintro rfl
  rw [← hg, hB, List.getLast?_concat] at hlast
  exact hlast rfl

/-- The part behind the point is computed exactly if it fits. -/
theorem clean_fractionalPart (hp : Proper NBASE v.digits) (hlast : v.digits.getLast? ≠ some 0)
    (hne : v.digits ≠ []) (hs : v.dscale ≤ T.decimals) (hF : T.int.InRange F)
    (hv : value ℚ NBASE (v.weight - places v) (behind v) * 10 ^ v.dscale = F) :
    (fractionalPart T.arithmetic v).Clean F := by
  unfold fractionalPart
  split
  next h =>
    have hB₀ := behind_ne_nil h hne
    obtain ⟨xs, d, hB⟩ := (List.eq_nil_or_concat' (behind v)).resolve_left hB₀
    have hd₀ : d ≠ 0 := last_behind_ne_zero hlast hB₀ hB
    have hpB : Proper NBASE (xs ++ [d]) := hB ▸ fun e he => hp e (List.mem_of_mem_drop he)
    have hk : ((v.ndigits : ℤ) - v.weight - 1) = ((v.ndigits : ℤ) - v.weight - 1).toNat := by omega
    have hq : F * NBASE ^ ((v.ndigits : ℤ) - v.weight - 1).toNat =
        number NBASE (xs ++ [d]) * 10 ^ v.dscale := by
      rw [value_behind h hne, hB, div_mul_eq_mul_div, div_eq_iff (pow_ne_zero _ NBASE_ne)] at hv
      exact_mod_cast hv.symm
    obtain ⟨hc, hloop⟩ := clean_fractionalLoop_all hpB hd₀ (by omega) hs hF hq
    rw [← hk] at hc hloop
    rw [behind] at hB
    simp only [Calc.clean_bind, Calc.clean_assert]
    rw [← places, hB]
    exact ⟨⟨⟩, hc, 0, T.int.clean_keep.2 ⟨PhysicalType.inRange_zero, rfl⟩, hloop⟩
  next h =>
    have h0 : F = 0 := by
      rw [behind_eq_nil h, value, zero_mul] at hv
      exact_mod_cast hv.symm
    subst h0
    exact T.int.clean_keep.2 ⟨hF, rfl⟩

end

end ConvertDecimal

/-! ## The numbers of a column -/

/-- A number as PostgreSQL lays it out: proper digits, no zero digit at either end, and none that the scale
would hide. -/
structure Legal (v : NumericVar) : Prop where
  sign : v.sign = NUMERIC_POS ∨ v.sign = NUMERIC_NEG
  proper : Proper NBASE v.digits
  head : v.digits.head? ≠ some 0
  last : v.digits.getLast? ≠ some 0
  dscale : ∃ m : ℤ, v.magnitude * 10 ^ v.dscale = m

/-- A number that a `numeric(width, scale)` column admits. -/
structure Admitted (t : DecimalType) (v : NumericVar) : Prop extends Legal v where
  scale_eq : v.dscale = t.scale
  bounded : |v.toRat| < 10 ^ (t.width - t.scale)

section
variable {t : DecimalType} {v : NumericVar}

/-- The value of digits is not negative. -/
theorem value_nonneg {w : ℤ} {ds : List ℤ} (h : Proper NBASE ds) : 0 ≤ value ℚ NBASE w ds := by
  rw [value_eq NBASE_ne]
  refine mul_nonneg ?_ (zpow_nonneg (by norm_num [NBASE]) _)
  exact_mod_cast (number_bounds h).1

/-- The magnitude is the absolute value. -/
theorem abs_toRat (h : Proper NBASE v.digits) : |v.toRat| = v.magnitude := by
  have h₀ : 0 ≤ v.magnitude := value_nonneg h
  unfold NumericVar.toRat
  split
  · rw [abs_neg, abs_of_nonneg h₀]
  · exact abs_of_nonneg h₀

/-- The negative of what fits does too. -/
theorem DecimalType.inRange_neg {m : ℤ} (h₀ : 0 ≤ m) (h : t.InternalType.int.InRange m) :
    t.InternalType.int.InRange (-m) := by
  have hmin : t.InternalType.int.min = -t.InternalType.int.bound := by
    unfold InternalType
    split_ifs <;> rfl
  obtain ⟨_, hb⟩ := h
  constructor
  · omega
  · omega

/-- The number in units of its scale is an integer below `10 ^ width`. -/
theorem Admitted.units (h : Admitted t v) :
    ∃ m : ℤ, v.magnitude * 10 ^ t.scale = m ∧ 0 ≤ m ∧ m < 10 ^ t.width := by
  obtain ⟨m, hm⟩ := h.dscale
  rw [h.scale_eq] at hm
  have h₀ : 0 ≤ v.magnitude := value_nonneg h.proper
  have hb := h.bounded
  rw [abs_toRat h.proper] at hb
  refine ⟨m, hm, ?_, ?_⟩
  · have : (0 : ℚ) ≤ m := hm ▸ mul_nonneg h₀ (by positivity)
    exact_mod_cast this
  · have : (m : ℚ) < 10 ^ t.width := by
      calc (m : ℚ) = v.magnitude * 10 ^ t.scale := hm.symm
        _ < 10 ^ (t.width - t.scale) * 10 ^ t.scale := mul_lt_mul_of_pos_right hb (by positivity)
        _ = 10 ^ t.width := by rw [← pow_add, Nat.sub_add_cancel t.scale_le]
    exact_mod_cast this

open ConvertDecimal in
/-- What is before the point and what is behind it, in units of the scale. -/
theorem Legal.parts (h : Legal v) {m : ℤ} (hm : v.magnitude * 10 ^ v.dscale = m) :
    ∃ F : ℤ, value ℚ NBASE (v.weight - places v) (behind v) * 10 ^ v.dscale = F ∧ 0 ≤ F ∧
      whole v * 10 ^ v.dscale + F = m := by
  have hF : value ℚ NBASE (v.weight - places v) (behind v) * 10 ^ v.dscale =
      ((m - whole v * 10 ^ v.dscale : ℤ) : ℚ) := by
    rw [magnitude_eq, add_mul] at hm
    push_cast
    rw [← hm]
    ring
  refine ⟨m - whole v * 10 ^ v.dscale, hF, ?_, by ring⟩
  have h₀ : (0 : ℚ) ≤ ((m - whole v * 10 ^ v.dscale : ℤ) : ℚ) := by
    rw [← hF]
    exact mul_nonneg (value_nonneg fun d hd => h.proper d (List.mem_of_mem_drop hd)) (by positivity)
  exact_mod_cast h₀

open ConvertDecimal in
/-- How the parts are put together where there are digits. -/
theorem clean_ConvertDecimal {T : Type} {op : Arithmetic T} {p i f x z y : T} (hne : v.digits ≠ [])
    (hp : (op.GetPowerOfTen v.dscale).Clean p) (hi : (integralPart op v p).Clean i)
    (hf : (fractionalPart op v).Clean f) (hx : (op.add i f).Clean x) (hz : (op.Finalize v x).Clean z)
    (hy : (if v.sign = NUMERIC_NEG then op.neg z else pure z).Clean y) : (ConvertDecimal op v).Clean y := by
  have hn : v.ndigits ≠ 0 := fun h0 => hne (List.length_eq_zero_iff.1 h0)
  simp only [ConvertDecimal, Calc.clean_bind]
  refine ⟨_, hp, ?_⟩
  rw [if_neg hn]
  simp only [Calc.clean_bind]
  exact ⟨_, hi, _, hf, _, hx, _, hz, hy⟩

/-- Zero has no digits. -/
theorem clean_zero {T : Type} {op : Arithmetic T} {p z : T} (hd : v.digits = [])
    (hp : (op.GetPowerOfTen v.dscale).Clean p) (hz : (op.ofInt 0).Clean z) : (ConvertDecimal op v).Clean z := by
  have hn : v.ndigits = 0 := by rw [NumericVar.ndigits, hd, List.length_nil]
  rw [ConvertDecimal, Calc.clean_bind]
  refine ⟨_, hp, ?_⟩
  rwa [if_pos hn]

open ConvertDecimal in
/-- An admitted number is read exactly, and nothing goes wrong on the way. -/
theorem clean_of_admitted (h : Admitted t v) :
    ∃ m : ℤ, (ConvertDecimal t.InternalType.arithmetic v).Clean m ∧ (m : ℚ) = v.toRat * 10 ^ t.scale := by
  have hs : v.dscale ≤ t.InternalType.decimals :=
    h.scale_eq ▸ t.scale_le.trans t.width_le_decimals
  have hpow : (t.InternalType.arithmetic.GetPowerOfTen v.dscale).Clean (10 ^ t.scale) :=
    (PhysicalType.clean_GetPowerOfTen hs).2 (by rw [h.scale_eq])
  by_cases hne : v.digits = []
  · have h0 : v.toRat = 0 := by simp [NumericVar.toRat, NumericVar.magnitude, hne, value]
    refine ⟨0, clean_zero hne hpow (IntType.clean_keep _ |>.2 ⟨PhysicalType.inRange_zero, rfl⟩), ?_⟩
    rw [h0, zero_mul, Int.cast_zero]
  · obtain ⟨m, hm, hm₀, hlt⟩ := h.units
    have hmT : t.InternalType.int.InRange m :=
      PhysicalType.inRange_of_le hm₀ (hlt.le.trans (pow_le_pow_right₀ (by omega) t.width_le_decimals))
    obtain ⟨F, hF, hF₀, hsum⟩ := h.parts (h.scale_eq ▸ hm)
    rw [h.scale_eq] at hsum
    have hp₁ : (1 : ℤ) ≤ 10 ^ t.scale := Int.pow_pos (by omega)
    have hw₀ : 0 ≤ whole v * 10 ^ t.scale :=
      mul_nonneg (number_bounds (h.proper.takeD NBASE_pos _)).1 (by omega)
    have hint := clean_integralPart h.proper hp₁ (hmT.of_le hw₀ (by omega))
    have hfrac := clean_fractionalPart h.proper h.last hne hs (hmT.of_le hF₀ (by omega)) hF
    have hadd : (t.InternalType.arithmetic.add (whole v * 10 ^ t.scale) F).Clean m :=
      t.InternalType.int.clean_keep.2 ⟨hsum ▸ hmT, hsum.symm⟩
    have hrun {y : ℤ} := clean_ConvertDecimal (y := y) hne hpow hint hfrac hadd (Calc.clean_pure.2 rfl)
    rcases h.sign with hsign | hsign
    · refine ⟨m, hrun ?_, ?_⟩
      · rw [hsign]
        exact Calc.clean_pure.2 rfl
      · rw [NumericVar.toRat, hsign, ← hm]
        rfl
    · refine ⟨-m, hrun ?_, ?_⟩
      · rw [if_pos hsign]
        exact t.InternalType.int.clean_keep.2 ⟨t.inRange_neg hm₀ hmT, rfl⟩
      · rw [NumericVar.toRat, if_pos hsign, neg_mul, hm, Int.cast_neg]

end

/-- A type modifier gives the precision and the scale back. -/
theorem typmod_roundtrip : ∀ precision ≤ 38, ∀ scale ≤ 38,
    numeric_typmod_precision (make_numeric_typmod (.ofNat 32 precision) (.ofNat 32 scale)) = precision ∧
    numeric_typmod_scale (make_numeric_typmod (.ofNat 32 precision) (.ofNat 32 scale)) = scale ∧
    make_numeric_typmod (.ofNat 32 precision) (.ofNat 32 scale) ≠ -1 := by
  decide +kernel

/-- A `numeric(p, s)` column with a scale up to its precision gets the type `DECIMAL(p, s)`. -/
theorem columnType_decimal (setting : Bool) (t : DecimalType) :
    ConvertPostgresToBaseDuckColumnType setting
      (make_numeric_typmod (.ofNat 32 t.width) (.ofNat 32 t.scale)) = .DECIMAL t := by
  obtain ⟨hp, hs, hne⟩ := typmod_roundtrip t.width t.width_le t.scale (t.scale_le.trans t.width_le)
  have := t.width_pos
  have := t.width_le
  have := t.scale_le
  unfold ConvertPostgresToBaseDuckColumnType
  simp only [hp, hs]
  rw [dif_neg]
  · rfl
  · rintro (h | h)
    · exact hne h
    · omega

/-- What a `numeric(p, s)` column holds is read as exactly the number in units of `10 ^ -s`. -/
theorem ConvertPostgresToDuckValue_exact (setting : Bool) (t : DecimalType) (value : Numeric)
    (h : Admitted t (FromNumeric value)) :
    ConvertPostgresToBaseDuckColumnType setting
        (make_numeric_typmod (.ofNat 32 t.width) (.ofNat 32 t.scale)) = .DECIMAL t ∧
      ∃ m : ℤ, (ConvertPostgresToDuckValue t value).Clean m ∧
        (m : ℚ) = (FromNumeric value).toRat * 10 ^ t.scale :=
  ⟨columnType_decimal setting t, clean_of_admitted h⟩

/-- `DECIMAL(4, 2)`. -/
def cents : DecimalType := ⟨4, 2, by decide, by decide, by decide⟩

/-- `-12.34`, in the short form. -/
def price : Numeric := ⟨0xA100, [12, 3400], by decide⟩

/-- The price is one that its column admits. -/
theorem price_admitted : Admitted cents (FromNumeric price) := by
  have hsign : (FromNumeric price).sign = NUMERIC_NEG := by decide
  have hdigits : (FromNumeric price).digits = [12, 3400] := by decide
  have hweight : (FromNumeric price).weight = 0 := by decide
  have hdscale : (FromNumeric price).dscale = 2 := by decide
  have hmag : (FromNumeric price).magnitude = 1234 / 100 := by
    rw [NumericVar.magnitude, hdigits, hweight]
    norm_num [value, NBASE]
  have hproper : Proper NBASE (FromNumeric price).digits := by
    rw [hdigits]
    decide
  refine ⟨⟨.inr hsign, hproper, by rw [hdigits]; decide, by rw [hdigits]; decide, 1234, ?_⟩, hdscale, ?_⟩
  · rw [hmag, hdscale]
    norm_num
  · rw [abs_toRat hproper, hmag]
    norm_num [cents]

/-- And it is read exactly. -/
theorem ConvertPostgresToDuckValue_exact_price :
    ∃ m : ℤ, (ConvertPostgresToDuckValue cents price).Clean m ∧
      (m : ℚ) = (FromNumeric price).toRat * 10 ^ cents.scale :=
  (ConvertPostgresToDuckValue_exact false cents price price_admitted).2

end PgDuckdb.Types
