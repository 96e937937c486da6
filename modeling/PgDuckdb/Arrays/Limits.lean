import PgDuckdb.Arrays.Append

/-!
# What an array of Postgres can be

Postgres takes dimensions for an array if they are not too many and neither they nor what they multiply to are too
large (`Storable`), and if there is room for the elements. The product is computed from the first dimension on as an
`int`, so that it must not grow too large before a dimension of length 0 either.
-/

namespace PgDuckdb.Arrays

open Chunks (MAXDIM MaxArraySize)

/-- Dimensions that Postgres takes. -/
structure Storable (dims : List ℕ) : Prop where
  ndims : dims.length ≤ MAXDIM
  products : ∀ k, (dims.take k).prod ≤ PG_INT32_MAX
  prod : dims.prod ≤ MaxArraySize
  /-- The lower bounds are 1, and what follows the last index is an `int` too. -/
  bounds : ∀ d ∈ dims, d < PG_INT32_MAX

section
variable {Datum : Type} {dims : List ℕ} {p : ℕ}

/-- The product as long as it is an `int`. -/
theorem foldlM_dims_iff (hp : p ≤ PG_INT32_MAX) {n : ℤ} :
    (dims.map fun d : ℕ => (d : ℤ)).foldlM
        (fun n d : ℤ => if n * d ≤ PG_INT32_MAX then some (n * d) else none) (p : ℤ) = some n ↔
      n = (p * dims.prod : ℕ) ∧ ∀ k, p * (dims.take k).prod ≤ PG_INT32_MAX := by
  induction dims generalizing p with
  | nil =>
    have hall : ∀ k, p * (List.take k ([] : List ℕ)).prod ≤ PG_INT32_MAX := by
      intro k
      rwa [List.take_nil, List.prod_nil, Nat.mul_one]
    rw [and_iff_left hall, List.prod_nil, Nat.mul_one]
    exact ⟨fun h => (Option.some.inj h).symm, fun h => congrArg some h.symm⟩
  | cons d dims ih =>
    rw [List.map_cons, List.foldlM_cons]
    have hsplit : (∀ k, p * (List.take k (d :: dims)).prod ≤ PG_INT32_MAX) ↔
        ∀ k, p * d * (dims.take k).prod ≤ PG_INT32_MAX := by
      constructor
      · intro h k
        have hk := h (k + 1)
        rwa [List.take_succ_cons, List.prod_cons, ← Nat.mul_assoc] at hk
      · intro h k
        cases k with
        | zero => rwa [List.take_zero, List.prod_nil, Nat.mul_one]
        | succ k =>
          rw [List.take_succ_cons, List.prod_cons, ← Nat.mul_assoc]
          exact h k
    rw [hsplit, List.prod_cons, ← Nat.mul_assoc]
    by_cases hd : p * d ≤ PG_INT32_MAX
    · have hcast : (p : ℤ) * d ≤ PG_INT32_MAX := by exact_mod_cast hd
      rw [if_pos hcast, ← ih hd, Nat.cast_mul]
      exact Iff.rfl
    · have hcast : ¬(p : ℤ) * d ≤ PG_INT32_MAX := by exact_mod_cast hd
      rw [if_neg hcast]
      refine iff_of_false nofun fun h => hd ?_
      have h₀ := h.2 0
      rwa [List.take_zero, List.prod_nil, Nat.mul_one] at h₀

/-- How many elements dimensions have. -/
theorem ArrayGetNItems_iff (hne : dims ≠ []) {n : ℤ} :
    ArrayGetNItems (dims.map fun d : ℕ => (d : ℤ)) = some n ↔
      n = dims.prod ∧ (∀ k, (dims.take k).prod ≤ PG_INT32_MAX) ∧ dims.prod ≤ MaxArraySize := by
  have hfold := @foldlM_dims_iff dims 1 (by decide) n
  simp only [Nat.one_mul, Nat.cast_one] at hfold
  rw [ArrayGetNItems, if_neg (by simpa using hne), Option.filter_eq_some_iff, hfold, and_assoc, decide_eq_true_eq]
  refine and_congr_right fun hn => and_congr_right fun _ => ?_
  rw [hn, Nat.cast_le]

/-- No index is too large for an `int`. -/
theorem any_bounds_iff : (List.zipWith (· + ·) (dims.map fun d : ℕ => (d : ℤ)) (List.replicate dims.length 1)).any
    (· > (PG_INT32_MAX : ℤ)) = true ↔ ¬∀ d ∈ dims, d < PG_INT32_MAX := by
  induction dims with
  | nil => simp
  | cons d dims ih =>
    rw [List.map_cons, List.length_cons, List.replicate_succ, List.zipWith_cons_cons, List.any_cons,
      Bool.or_eq_true, ih, List.forall_mem_cons, not_and_or, decide_eq_true_eq]
    refine or_congr_left ?_
    omega

/-- What is made of arguments with such dimensions, if it is made. -/
def ArrayArgs.made (args : ArrayArgs Datum) (dims : List ℕ) : PgArray Datum :=
  if dims.prod = 0 then ⟨[], [], []⟩ else ⟨args.dims, args.lower_bounds, args.elements⟩

/-- Arguments with such dimensions are taken if they can be stored and there is room for the elements. -/
theorem construct_md_array_cases {nbytes : List ℤ → List (Option Datum) → ℕ} {args : ArrayArgs Datum}
    (hne : dims ≠ []) (hndims : args.ndims = dims.length) (hdims : args.dims = dims.map fun d : ℕ => (d : ℤ))
    (hbounds : args.lower_bounds = List.replicate dims.length 1) :
    Storable dims ∧ (dims.prod ≠ 0 → nbytes args.dims args.elements ≤ MaxAllocSize) ∧
        construct_md_array nbytes args = .ok (args.made dims) ∨
      ¬(Storable dims ∧ (dims.prod ≠ 0 → nbytes args.dims args.elements ≤ MaxAllocSize)) ∧
        ∃ e, construct_md_array nbytes args = .error e := by
  unfold construct_md_array ArrayArgs.made
  rw [hndims]
  by_cases hmax : dims.length > MAXDIM
  · rw [if_pos hmax]
    exact .inr ⟨fun h => Nat.not_le.2 hmax h.1.ndims, _, rfl⟩
  rw [if_neg hmax]
  have hitems := fun n => hdims ▸ @ArrayGetNItems_iff dims hne n
  cases hget : ArrayGetNItems args.dims with
  | none =>
    refine .inr ⟨fun h => ?_, _, rfl⟩
    cases hget.symm.trans ((hitems dims.prod).2 ⟨rfl, h.1.products, h.1.prod⟩)
  | some n =>
    obtain ⟨rfl, hproducts, hprod⟩ := (hitems n).1 hget
    dsimp only
    have hany := @any_bounds_iff dims
    rw [← hdims, ← hbounds] at hany
    by_cases hlarge : ∀ d ∈ dims, d < PG_INT32_MAX
    · have hstorable : Storable dims := ⟨Nat.not_lt.1 hmax, hproducts, hprod, hlarge⟩
      rw [if_neg fun h => hany.1 h hlarge]
      by_cases hzero : dims.prod = 0
      · rw [if_pos (Nat.cast_eq_zero.2 hzero), if_pos hzero]
        exact .inl ⟨hstorable, fun h => absurd hzero h, rfl⟩
      · rw [if_neg (mt Nat.cast_eq_zero.1 hzero), if_neg hzero]
        by_cases hbytes : nbytes args.dims args.elements ≤ MaxAllocSize
        · rw [if_neg (Nat.not_lt.2 hbytes)]
          exact .inl ⟨hstorable, fun _ => hbytes, rfl⟩
        · rw [if_pos (Nat.not_le.1 hbytes)]
          exact .inr ⟨fun h => hbytes (h.2 hzero), _, rfl⟩
    · rw [if_pos (hany.2 hlarge)]
      exact .inr ⟨fun h => hlarge h.1.bounds, _, rfl⟩

end

end PgDuckdb.Arrays
