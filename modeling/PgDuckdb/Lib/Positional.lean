import Mathlib.Algebra.Field.Basic
import Mathlib.Algebra.Order.Ring.Int
import Mathlib.Data.Int.Cast.Lemmas
import Mathlib.Data.List.TakeDrop
import Mathlib.Tactic.FieldSimp
import Mathlib.Tactic.Linarith
import Mathlib.Tactic.Ring

/-!
# Positional notation

Digit strings with the first digit first. `number b ds` is the whole number that `ds` spells in base `b`;
it is how a program accumulates digits from left to right. `value b w ds` is what `ds` stands for when its
first digit counts `b ^ w`, in a field, where `w` may be negative. The two differ by a power of the base
(`value_eq`), and the digits before the point are split from those behind it by `value_split`.
-/

namespace PgDuckdb.Lib.Positional

/-! ## Whole numbers -/

section
variable {b : ℤ} {ds es : List ℤ} {d : ℤ}

/-- The digits accumulated onto a number. -/
def numberFrom (b n : ℤ) (ds : List ℤ) : ℤ := ds.foldl (fun n d => n * b + d) n

/-- The number that the digits spell in base `b`. -/
def number (b : ℤ) (ds : List ℤ) : ℤ := numberFrom b 0 ds

/-- Proper digits of base `b`. -/
def Proper (b : ℤ) (ds : List ℤ) : Prop := ∀ d ∈ ds, 0 ≤ d ∧ d < b

/-- Whether every digit is one is decidable. -/
instance : Decidable (Proper b ds) := inferInstanceAs (Decidable (∀ d ∈ ds, _))

@[simp] theorem number_nil : number b [] = 0 := rfl

@[simp] theorem numberFrom_nil (n : ℤ) : numberFrom b n [] = n := rfl

@[simp] theorem numberFrom_cons (n : ℤ) : numberFrom b n (d :: ds) = numberFrom b (n * b + d) ds := rfl

/-- A number from a carry on. -/
theorem numberFrom_eq (n : ℤ) : numberFrom b n ds = n * b ^ ds.length + number b ds := by
  induction ds generalizing n with
  | nil => simp
  | cons d ds ih =>
    rw [number, numberFrom_cons, numberFrom_cons, ih, ih (0 * b + d), List.length_cons]
    ring

/-- The number of a concatenation. -/
theorem number_append : number b (ds ++ es) = number b ds * b ^ es.length + number b es := by
  rw [← numberFrom_eq, number, numberFrom, List.foldl_append]
  rfl

/-- The number with one digit more. -/
theorem number_concat : number b (ds ++ [d]) = number b ds * b + d := by
  rw [number, numberFrom, List.foldl_append]
  rfl

/-- The number with one digit less at the front. -/
theorem number_cons : number b (d :: ds) = d * b ^ ds.length + number b ds := by
  rw [number, numberFrom_cons, numberFrom_eq, zero_mul, zero_add]

/-- Digits of a concatenation. -/
theorem Proper.append (hd : Proper b ds) (he : Proper b es) : Proper b (ds ++ es) := by
  intro d h
  exact (List.mem_append.1 h).elim (hd d) (he d)

/-- Digits, read from the other end. -/
theorem Proper.reverse (h : Proper b ds) : Proper b ds.reverse :=
  fun d hd => h d (List.mem_reverse.1 hd)

/-- Digits behind the first one. -/
theorem Proper.tail (h : Proper b (d :: ds)) : Proper b ds :=
  fun e he => h e (List.mem_cons_of_mem _ he)

/-- As many digits as asked, filled up with zeros. -/
theorem Proper.takeD (hb : 0 < b) (h : Proper b ds) (n : ℕ) : Proper b (ds.takeD n 0) := by
  induction n generalizing ds with
  | zero => simp [Proper]
  | succ n ih =>
    intro d hd
    cases ds with
    | nil =>
      have hd : d = 0 := List.eq_of_mem_replicate (List.takeD_nil (n + 1) (0 : ℤ) ▸ hd)
      omega
    | cons e ds =>
      rcases List.mem_cons.1 hd with rfl | hd
      · exact h _ List.mem_cons_self
      · exact ih h.tail d hd

/-- Accumulating proper digits makes a number no smaller. -/
theorem le_numberFrom (hb : 0 < b) (h : Proper b ds) {n : ℤ} (hn : 0 ≤ n) : n ≤ numberFrom b n ds := by
  induction ds generalizing n with
  | nil => exact le_rfl
  | cons d ds ih =>
    have hd := (h d List.mem_cons_self).1
    have hnb : n ≤ n * b := le_mul_of_one_le_right hn hb
    have := ih h.tail (show 0 ≤ n * b + d by omega)
    rw [numberFrom_cons]
    omega

/-- Proper digits spell a number below the next power of the base. -/
theorem number_bounds (h : Proper b ds) : 0 ≤ number b ds ∧ number b ds < b ^ ds.length := by
  induction ds with
  | nil => simp
  | cons d ds ih =>
    obtain ⟨hd₀, hd⟩ := h d List.mem_cons_self
    obtain ⟨hn₀, hn⟩ := ih h.tail
    rw [number_cons, List.length_cons, pow_succ]
    have hp : 0 < b ^ ds.length := by omega
    constructor
    · exact add_nonneg (mul_nonneg hd₀ hp.le) hn₀
    · calc d * b ^ ds.length + number b ds
          < d * b ^ ds.length + b ^ ds.length := by omega
        _ = (d + 1) * b ^ ds.length := by ring
        _ ≤ b * b ^ ds.length := mul_le_mul_of_nonneg_right (by omega) hp.le
        _ = b ^ ds.length * b := mul_comm _ _

end

/-! ## With a point -/

section
variable {K : Type} [Field K] {b : ℤ} {ds es : List ℤ} {w : ℤ}

/-- What the digits stand for when the first one counts `b ^ w`. -/
def value (K : Type) [Field K] (b w : ℤ) : List ℤ → K
  | [] => 0
  | d :: ds => (d : K) * (b : K) ^ w + value K b (w - 1) ds

/-- The number that the digits spell, with the point where the weight of the first digit puts it. -/
theorem value_eq (hb : (b : K) ≠ 0) :
    value K b w ds = (number b ds : K) * (b : K) ^ (w + 1 - ds.length) := by
  induction ds generalizing w with
  | nil => simp [value]
  | cons d ds ih =>
    have hw : (b : K) ^ w = (b : K) ^ ds.length * (b : K) ^ (w - ds.length) := by
      rw [← zpow_natCast, ← zpow_add₀ hb]
      congr 1
      omega
    rw [value, ih, number_cons, hw, List.length_cons]
    push_cast
    rw [show w - 1 + 1 - (ds.length : ℤ) = w - ds.length by omega,
      show w + 1 - ((ds.length : ℤ) + 1) = w - ds.length by omega]
    ring

/-- With all digits before the point it is a whole number. -/
theorem value_whole (hb : (b : K) ≠ 0) (h : (ds.length : ℤ) = w + 1) :
    value K b w ds = number b ds := by
  rw [value_eq hb, h, sub_self, zpow_zero, mul_one]

/-- With all digits behind the point it is a fraction. -/
theorem value_fraction (hb : (b : K) ≠ 0) {k : ℕ} (h : (ds.length : ℤ) = w + 1 + k) :
    value K b w ds = (number b ds : K) / (b : K) ^ k := by
  rw [value_eq hb, h, show w + 1 - (w + 1 + (k : ℤ)) = -(k : ℤ) by omega, zpow_neg, zpow_natCast,
    div_eq_mul_inv]

/-- The digits may be split anywhere, also where there are zeros only. -/
theorem value_split (n : ℕ) :
    value K b w ds = value K b w (ds.takeD n 0) + value K b (w - n) (ds.drop n) := by
  induction n generalizing ds w with
  | zero => simp [value]
  | succ n ih =>
    have hw : w - ((n + 1 : ℕ) : ℤ) = w - 1 - n := by omega
    cases ds with
    | nil =>
      have := @ih [] (w - 1)
      rw [hw, List.takeD, value, List.headD_nil, List.tail_nil]
      simpa [value] using this
    | cons d ds =>
      rw [hw, List.takeD, value, value, List.headD_cons, List.tail_cons, List.drop_succ_cons, add_assoc,
        ← ih]

end

end PgDuckdb.Lib.Positional
