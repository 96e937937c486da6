import Mathlib.Algebra.Group.Nat.Defs
import Mathlib.Algebra.Order.Group.Unbundled.Int
import Mathlib.Tactic.Ring

/-!
# Calculations in machine integers

A calculation returns or throws, and on the way it may do what nobody is told about: a result that its type
does not hold wraps, a write goes past the end of a buffer, an assertion of a debug build fails. `Calc`
records these faults beside the result, so that one definition says both what is computed and whether the
numbers in it are the numbers meant. `Clean m a` is the good case: `m` returns `a` and nothing went wrong.
It goes through a program rule by rule, and each rule is an equivalence.

`IntType` is an integer type of some width, signed or not, whose operations wrap modulo that width. For
signed words that are bit vectors, `exists_toInt_add` and its like say that an operation is off from the
exact one by a multiple of the modulus.
-/

namespace PgDuckdb.Lib

/-- What goes wrong in silence. -/
inductive Fault
  | wrapped
  | overrun
  | assertion
deriving DecidableEq, Repr

/-- A calculation: what it returns or throws, and its faults. -/
structure Calc (ε α : Type) where
  result : Except ε α
  faults : List Fault

namespace Calc

section
variable {ε α β : Type}

/-- One calculation after the other. What is thrown ends both. -/
protected def bind (m : Calc ε α) (f : α → Calc ε β) : Calc ε β :=
  match m.result with
  | .ok a => ⟨(f a).result, m.faults ++ (f a).faults⟩
  | .error e => ⟨.error e, m.faults⟩

/-- Faults are collected along a computation. -/
instance : Monad (Calc ε) where
  pure a := ⟨.ok a, []⟩
  bind := Calc.bind

/-- A computation that raises. -/
def throw (e : ε) : Calc ε α := ⟨.error e, []⟩

/-- A computation with a fault. -/
def fault (f : Fault) (a : α) : Calc ε α := ⟨.ok a, [f]⟩

/-- An assertion of a debug build. -/
def assert (p : Prop) [Decidable p] : Calc ε Unit := if p then pure () else fault .assertion ()

/-- It returns `a`, and nothing went wrong. -/
def Clean (m : Calc ε α) (a : α) : Prop := m.result = .ok a ∧ m.faults = []

variable {m : Calc ε α} {f : α → Calc ε β} {a b : α}

/-- A clean computation has its value. -/
theorem Clean.result_eq (h : m.Clean a) : m.result = .ok a := h.1

@[simp] theorem clean_pure : (pure a : Calc ε α).Clean b ↔ b = a := by
  constructor
  · rintro ⟨h, -⟩
    exact (Except.ok.inj h).symm
  · rintro rfl
    exact ⟨rfl, rfl⟩

/-- A sequence is clean when its parts are. -/
@[simp] theorem clean_bind {c : β} : (m >>= f).Clean c ↔ ∃ a, m.Clean a ∧ (f a).Clean c := by
  obtain ⟨r, faults⟩ := m
  cases r with
  | error e =>
    constructor
    · rintro ⟨h, -⟩
      cases h
    · rintro ⟨a, ⟨h, -⟩, -⟩
      cases h
  | ok a =>
    constructor
    · rintro ⟨h, hf⟩
      obtain ⟨hm, hf⟩ := List.append_eq_nil_iff.1 hf
      exact ⟨a, ⟨rfl, hm⟩, h, hf⟩
    · rintro ⟨a', ⟨h, hm⟩, hc, hf⟩
      cases h
      exact ⟨hc, List.append_eq_nil_iff.2 ⟨hm, hf⟩⟩

@[simp] theorem not_clean_throw {e : ε} : ¬(throw e : Calc ε α).Clean a := by
  rintro ⟨h, -⟩
  cases h

@[simp] theorem not_clean_fault {f : Fault} : ¬(fault f a : Calc ε α).Clean b := by
  rintro ⟨-, h⟩
  cases h

@[simp] theorem clean_assert {p : Prop} [Decidable p] {u : Unit} :
    (assert p : Calc ε Unit).Clean u ↔ p := by
  unfold assert
  split <;> simp [*]

/-- What a sequence returns, whatever goes wrong on the way. -/
theorem result_bind {c : β} :
    (m >>= f).result = .ok c ↔ ∃ a, m.result = .ok a ∧ (f a).result = .ok c := by
  obtain ⟨r, faults⟩ := m
  cases r with
  | error e =>
    constructor
    · intro h
      cases h
    · rintro ⟨a, h, -⟩
      cases h
  | ok a =>
    constructor
    · intro h
      exact ⟨a, rfl, h⟩
    · rintro ⟨a', h, hc⟩
      cases h
      exact hc

/-- An assertion that holds changes no result. -/
theorem result_assert {p : Prop} [Decidable p] : (assert p : Calc ε Unit).result = .ok () := by
  unfold assert
  split <;> rfl

end

end Calc

/-! ## Integer types -/

/-- An integer type: its width, and whether it has a sign. -/
structure IntType where
  bits : ℕ
  signed : Bool
  bits_pos : 0 < bits

namespace IntType
variable (T : IntType) {ε : Type} {x y : ℤ}

/-- The least value. -/
def min : ℤ := if T.signed then -2 ^ (T.bits - 1) else 0

/-- What follows the greatest value. -/
def bound : ℤ := if T.signed then 2 ^ (T.bits - 1) else 2 ^ T.bits

/-- The bound of a type, from its least value and its bits. -/
theorem bound_eq : T.bound = T.min + 2 ^ T.bits := by
  have h : (2 : ℤ) ^ T.bits = 2 ^ (T.bits - 1) * 2 := by
    rw [← pow_succ, Nat.sub_add_cancel T.bits_pos]
  unfold bound min
  split
  · omega
  · omega

/-- The least value of a type is at most zero. -/
theorem min_nonpos : T.min ≤ 0 := by
  have h : (0 : ℤ) < 2 ^ (T.bits - 1) := Int.pow_pos (by omega)
  unfold min
  split <;> omega

/-- The values of the type. -/
def InRange (x : ℤ) : Prop := T.min ≤ x ∧ x < T.bound

/-- The range of a type is decidable. -/
instance : Decidable (T.InRange x) := inferInstanceAs (Decidable (_ ∧ _))

/-- The value of the type that is equal to `x` modulo its width. -/
def wrap (x : ℤ) : ℤ := (x - T.min) % 2 ^ T.bits + T.min

/-- A value in range is not wrapped. -/
theorem wrap_of_inRange (h : T.InRange x) : T.wrap x = x := by
  obtain ⟨h₁, h₂⟩ := h
  rw [bound_eq] at h₂
  rw [wrap, Int.emod_eq_of_lt (by omega) (by omega)]
  omega

/-- The result of an operation of the type. -/
def keep (x : ℤ) : Calc ε ℤ := ⟨.ok (T.wrap x), if T.InRange x then [] else [.wrapped]⟩

/-- An operation is clean when the type holds its exact result, and then it is exact. -/
@[simp] theorem clean_keep : (T.keep x : Calc ε ℤ).Clean y ↔ T.InRange x ∧ y = x := by
  unfold keep Calc.Clean
  constructor
  · rintro ⟨h, hf⟩
    by_cases hx : T.InRange x
    · rw [wrap_of_inRange T hx] at h
      exact ⟨hx, (Except.ok.inj h).symm⟩
    · rw [if_neg hx] at hf
      cases hf
  · rintro ⟨hx, rfl⟩
    exact ⟨congrArg _ (wrap_of_inRange T hx), if_pos hx⟩

/-- The same for each number of a list. -/
def keepAll : List ℤ → Calc ε (List ℤ)
  | [] => pure []
  | x :: xs => do
    let y ← T.keep x
    let ys ← keepAll xs
    pure (y :: ys)

/-- A list is kept in full just when every one of it is in range. -/
theorem clean_keepAll {xs ys : List ℤ} :
    (T.keepAll xs : Calc ε (List ℤ)).Clean ys ↔ (∀ x ∈ xs, T.InRange x) ∧ ys = xs := by
  induction xs generalizing ys with
  | nil => simp [keepAll]
  | cons x xs ih => simp [keepAll, ih, and_assoc]

/-- A wrapped value is below the bound. -/
theorem wrap_lt_bound : T.wrap x < T.bound := by
  have h : (0 : ℤ) < 2 ^ T.bits := Int.pow_pos (by omega)
  have := Int.emod_lt_of_pos (x - T.min) h
  rw [wrap, bound_eq]
  omega

/-- What is kept differs from the value by a multiple of the width. -/
theorem exists_wrap : ∃ k : ℤ, T.wrap x = x + k * 2 ^ T.bits := by
  refine ⟨-((x - T.min) / 2 ^ T.bits), ?_⟩
  rw [wrap, Int.emod_def]
  ring

/-- Between nothing and a value of the type. -/
theorem InRange.of_le {T : IntType} (h : T.InRange y) (h₀ : 0 ≤ x) (hxy : x ≤ y) : T.InRange x :=
  ⟨T.min_nonpos.trans h₀, lt_of_le_of_lt hxy h.2⟩

/-- The `int` of C. -/
def int : IntType where
  bits := 32
  signed := true
  bits_pos := Nat.succ_pos 31

/-- An `int` is itself below its bound. -/
theorem int_wrap_of_lt (h₀ : 0 ≤ x) (h : x < 2 ^ 31) : int.wrap x = x :=
  int.wrap_of_inRange ⟨int.min_nonpos.trans h₀, h⟩

/-- An `int` is below its bound. -/
theorem int_wrap_lt : int.wrap x < 2 ^ 31 := int.wrap_lt_bound

end IntType

/-! ## Signed words -/

section
variable {w : ℕ} {x y : BitVec w}

/-- A balanced remainder differs from the value by a multiple. -/
theorem exists_bmod (z : ℤ) (n : ℕ) : ∃ k : ℤ, z.bmod n = z + k * n := by
  refine ⟨-z.bdiv n, ?_⟩
  rw [Int.bmod_eq_self_sub_bdiv_mul, neg_mul]
  omega

/-- A sum differs from the sum of the values by a multiple. -/
theorem exists_toInt_add : ∃ k : ℤ, (x + y).toInt = x.toInt + y.toInt + k * (2 ^ w : ℕ) := by
  rw [BitVec.toInt_add]
  exact exists_bmod _ _

/-- A difference differs from that of the values by a multiple. -/
theorem exists_toInt_sub : ∃ k : ℤ, (x - y).toInt = x.toInt - y.toInt + k * (2 ^ w : ℕ) := by
  rw [BitVec.toInt_sub]
  exact exists_bmod _ _

/-- A product differs from that of the values by a multiple. -/
theorem exists_toInt_mul : ∃ k : ℤ, (x * y).toInt = x.toInt * y.toInt + k * (2 ^ w : ℕ) := by
  rw [BitVec.toInt_mul]
  exact exists_bmod _ _

end

end PgDuckdb.Lib
