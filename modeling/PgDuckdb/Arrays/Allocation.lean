import PgDuckdb.Arrays.Walk

/-!
# What is allocated

The buffers are asked for when the first descent reaches the leaves, and by then the expected values are the
square of what the dimensions multiply to. This is the number of values only where that number is 0 or 1.
-/

namespace PgDuckdb.Arrays

open Lib

/-! ## Dimensions -/

/-- The levels of a type, lists and arrays alike. -/
def levels : LogicalType → ℕ
  | .LEAF => 0
  | .LIST child => levels child + 1
  | .ARRAY child _ => levels child + 1

/-- A type without a level has none. -/
theorem levels_of_not_nested {t : LogicalType} (h : IsNestedType t = false) : levels t = 0 := by
  cases t with
  | LEAF => rfl
  | LIST child => cases h
  | ARRAY child size => cases h

/-- Counting the levels of a type. -/
theorem GetDuckDBListDimensionality_eq (t : LogicalType) (depth : ℕ) :
    GetDuckDBListDimensionality t depth = depth + levels t := by
  induction t generalizing depth with
  | LEAF => rfl
  | LIST child ih =>
    rw [GetDuckDBListDimensionality, levels]
    cases h : IsNestedType child with
    | true =>
      rw [if_pos rfl, ih]
      omega
    | false =>
      rw [if_neg Bool.false_ne_true, levels_of_not_nested h]
  | ARRAY child size ih =>
    rw [GetDuckDBListDimensionality, levels]
    cases h : IsNestedType child with
    | true =>
      rw [if_pos rfl, ih]
      omega
    | false =>
      rw [if_neg Bool.false_ne_true, levels_of_not_nested h]

/-- A walk goes down no further than the type has levels. -/
theorem depth_le (c : LogicalType) : depth c ≤ levels c + 1 := by
  induction c with
  | LEAF => exact Nat.le_refl 1
  | ARRAY child size => exact Nat.succ_le_succ (Nat.zero_le _)
  | LIST child ih => exact Nat.succ_le_succ ih

section
variable {α Datum : Type} {ConvertToPostgres : (t : LogicalType) → Value α t → Except String Datum}
variable {N : ℕ} {D ds : List ℕ} {s : PostgresArrayAppendState Datum}

/-- The first walk starts at its own level. -/
theorem first_new {c : LogicalType} (h : depth c ≤ N) :
    @First Datum N [] c (PostgresArrayAppendState.new N) where
  known := rfl
  le := by
    rw [List.length_nil]
    omega
  squared := rfl
  requested := rfl
  bounded _ hd := absurd hd List.not_mem_nil
  pos _ hd := absurd hd List.not_mem_nil

/-- The walk of a whole value. -/
def walk (ConvertToPostgres : (t : LogicalType) → Value α t → Except String Datum) (t : LogicalType)
    (value : Value α t) : Walk Datum Unit :=
  AppendValueAtDimension ConvertToPostgres (GetChildren t value).1 (GetChildren t value).2 0

/-- Below a list there is one level less. -/
theorem depth_child_le (t : LogicalType) (value : Value α t) (h : t ≠ .LEAF) :
    depth (GetChildren t value).1 ≤ GetDuckDBListDimensionality t 0 := by
  rw [GetDuckDBListDimensionality_eq, Nat.zero_add]
  cases t with
  | LEAF => exact absurd rfl h
  | LIST child => exact depth_le child
  | ARRAY child size => exact depth_le child

/-- The walk of a value from the state that it starts in. -/
theorem walk_ends (t : LogicalType) (value : Value α t) (h : t ≠ .LEAF) :
    Ends (walk ConvertToPostgres t value) (.new (GetDuckDBListDimensionality t 0))
      (fun _ => FirstReturned ConvertToPostgres (GetDuckDBListDimensionality t 0) [] (GetChildren t value).1
        (GetChildren t value).2 (descent (GetChildren t value).1 1 (GetChildren t value).2)
        (.new (GetDuckDBListDimensionality t 0)))
      (FirstThrew ConvertToPostgres (GetDuckDBListDimensionality t 0) [] (GetChildren t value).1
        (GetChildren t value).2 (descent (GetChildren t value).1 1 (GetChildren t value).2)) :=
  append_first _ _ (first_new (depth_child_le t value h))

/-- The lengths of the dimensions that are set. -/
def lengths (s : PostgresArrayAppendState Datum) : List ℕ :=
  (s.dimensions.takeWhile fun d => 0 ≤ d).map Int.toNat

/-- What a walk knows of the lengths is all there is. -/
theorem Known.lengths (h : Known N D s) : lengths s = D := by
  have hr : (List.replicate (N - D.length) (-1 : ℤ)).takeWhile (fun d => 0 ≤ d) = [] := by
    cases N - D.length <;> rfl
  rw [Arrays.lengths, h, List.takeWhile_append_of_pos ?_, hr, List.append_nil, List.map_map]
  · exact List.map_id D
  · intro d hd
    obtain ⟨n, -, rfl⟩ := List.mem_map.1 hd
    exact decide_eq_true (Int.natCast_nonneg n)

/-- Lists of one length, joined. -/
theorem length_flatMap_const {β γ : Type} {f : β → List γ} {xs : List β} {m : ℕ}
    (h : ∀ x ∈ xs, (f x).length = m) : (xs.flatMap f).length = xs.length * m := by
  induction xs with
  | nil => rw [List.flatMap_nil, List.length_nil, List.length_nil, Nat.zero_mul]
  | cons x xs ih =>
    rw [List.flatMap_cons, List.length_append, h x List.mem_cons_self,
      ih fun y hy => h y (List.mem_cons_of_mem _ hy), List.length_cons, Nat.succ_mul, Nat.add_comm]

/-- Below the last level there are as many leaves as the dimensions multiply to. -/
theorem length_leaves_last {c : LogicalType} {values : List (Value α c)} (hc : Last c)
    (h : Agrees c (some values) ds) (hle : ds.length ≤ depth c) :
    (leaves ConvertToPostgres false c (some values)).length = ds.prod := by
  have hn := (agrees_last hc).1 h
  rw [depth_last hc] at hle
  rw [leaves_last _ hc, List.length_map]
  cases ds with
  | nil => cases hn
  | cons n ds =>
    have hd : ds = [] := List.eq_nil_of_length_eq_zero (by
      rw [List.length_cons] at hle
      omega)
    cases hn
    rw [hd, List.prod_singleton]

/-- With all dimensions known, or one of them empty, the leaves are as many as the lengths multiply to. -/
theorem length_leaves {c : LogicalType} {values : Children α c} (h : Agrees c values ds)
    (hle : ds.length ≤ depth c) (h₀ : ds.length = depth c ∨ 0 ∈ ds) :
    (leaves ConvertToPostgres false c values).length = ds.prod := by
  cases values with
  | none => exact absurd h not_agrees_none
  | some values =>
  induction c generalizing ds with
  | LEAF => exact length_leaves_last last_leaf h hle
  | ARRAY c size => exact length_leaves_last last_array h hle
  | LIST c ih =>
    obtain ⟨hn, hvs⟩ := agrees_list.1 h
    cases ds with
    | nil => cases hn
    | cons n ds =>
      have hn : n = values.length := Option.some.inj hn
      have hle : ds.length ≤ depth c := Nat.le_of_succ_le_succ hle
      rw [List.prod_cons, hn]
      refine length_flatMap_const fun v hv => ?_
      have hv' := hvs v hv
      cases hc : v.listChildren with
      | none => exact absurd (hc ▸ hv') not_agrees_none
      | some us =>
        rw [hc] at hv'
        refine ih hle ?_ us hv'
        rcases h₀ with h₀ | h₀
        · exact .inl (Nat.succ.inj h₀)
        · rcases List.mem_cons.1 h₀ with h₀ | h₀
          · have hpos := List.length_pos_of_mem hv
            omega
          · exact .inr h₀

/-- After a walk that returned, the values written are as many as the lengths multiply to. -/
theorem FirstReturned.length_values {c : LogicalType} {values : Children α c} {d : DescentEnd × List ℕ}
    {s' : PostgresArrayAppendState Datum} (h : FirstReturned ConvertToPostgres N [] c values d s s')
    (hs : s.values = []) : s'.values.length = d.2.prod := by
  obtain ⟨els, hels, hv⟩ := h.wrote
  have hl : els.length = (leaves ConvertToPostgres false c values).length := by rw [hels, List.length_map]
  rw [hv, hs, List.nil_append, hl]
  rcases h.ended with ⟨-, hd, -⟩ | ⟨-, hd, -, hlast⟩
  · exact length_leaves h.agrees (Nat.le_of_eq hd) (.inl hd)
  · exact length_leaves h.agrees (Nat.le_of_lt hd) (.inr (List.mem_of_getLast? hlast))

end

/-! ## The square -/

/-- The square of nothing or of one is itself. -/
theorem sq_mod_of_le_one {p : ℕ} (h : p ≤ 1) : p ^ 2 % 2 ^ 64 = p := by
  rcases Nat.le_one_iff_eq_zero_or_eq_one.1 h with rfl | rfl <;> rfl

/-- A number and its square differ modulo a power of two, but for 0 and 1: of the number and the one before
it, one is odd and the other one too small. -/
theorem square_mod_eq_iff {p : ℕ} : p ^ 2 % 2 ^ 64 = p ↔ p ≤ 1 := by
  refine ⟨fun h => ?_, sq_mod_of_le_one⟩
  have hlt : p < 2 ^ 64 := by
    rw [← h]
    exact Nat.mod_lt _ (by decide)
  by_contra hgt
  have hp : p * (p - 1) = p ^ 2 - p := by rw [Nat.mul_sub, mul_one, sq]
  have hdvd : 2 ^ 64 ∣ p * (p - 1) := by
    have hdiv := Nat.div_add_mod (p ^ 2) (2 ^ 64)
    exact ⟨p ^ 2 / 2 ^ 64, by omega⟩
  rcases Nat.even_or_odd p with he | ho
  · have hodd : Nat.Coprime (2 ^ 64) (p - 1) := Nat.Coprime.pow_left 64 (by
      rw [Nat.coprime_two_left]
      obtain ⟨m, hm⟩ := he
      exact ⟨m - 1, by omega⟩)
    have := Nat.le_of_dvd (by omega) (hodd.dvd_of_dvd_mul_right hdvd)
    omega
  · have hodd : Nat.Coprime (2 ^ 64) p := Nat.Coprime.pow_left 64 (Nat.coprime_two_left.2 ho)
    have := Nat.le_of_dvd (by omega) (hodd.dvd_of_dvd_mul_left hdvd)
    omega

/-! ## What is asked for -/

section
variable {α Datum : Type} (ConvertToPostgres : (t : LogicalType) → Value α t → Except String Datum)

/-- The buffers are asked for exactly the values that the dimensions multiply to. After a walk that returned
so many were written, and a value is turned down for its size for no other reason. -/
def AllocatesExactly (t : LogicalType) (value : Value α t) : Prop :=
  match (walk ConvertToPostgres t value).run (.new (GetDuckDBListDimensionality t 0)) with
  | .ok _ s => (∀ m, s.requested = some m → m = (lengths s).prod) ∧ s.values.length = s.expected_values
  | .error e s => (∀ m, s.requested = some m → m = (lengths s).prod) ∧ Justified (lengths s) e

/-- Where the first descent gets to the leaves the lengths on it multiply to no more than one, and where it
overflows they multiply to more than 64 bits. -/
def Harmless : DescentEnd × List ℕ → Prop
  | (.leaves, ds) => ds.prod ≤ 1
  | (.overflow, ds) => ds.prod ≥ 2 ^ 64
  | _ => True

variable {ConvertToPostgres} {N : ℕ} {c : LogicalType} {values : Children α c} {d : DescentEnd × List ℕ}
variable {s s' : PostgresArrayAppendState Datum}

/-- A walk that returned. -/
theorem FirstReturned.exactly_iff (h : FirstReturned ConvertToPostgres N [] c values d s s')
    (hs : s.values = []) :
    ((∀ m, s'.requested = some m → m = (lengths s').prod) ∧ s'.values.length = s'.expected_values) ↔
      Harmless d := by
  have hq : s'.expected_values = d.2.prod ^ 2 % 2 ^ 64 := h.squared
  have hl : lengths s' = d.2 := h.known.lengths
  rw [h.length_values hs, hl, hq]
  obtain ⟨e, ds⟩ := d
  rcases h.ended with ⟨rfl, -, hr, -⟩ | ⟨rfl, -, hr, hlast⟩
  · show _ ↔ ds.prod ≤ 1
    rw [hr, hq, ← square_mod_eq_iff]
    constructor
    · rintro ⟨-, h⟩
      exact h.symm
    · intro h
      refine ⟨fun m hm => ?_, h.symm⟩
      cases hm
      exact h
  · have h₀ : ds.prod = 0 :=
      List.prod_eq_zero_iff_exists_zero_nat.2 ⟨0, List.mem_of_getLast? hlast, rfl⟩
    refine ⟨fun _ => trivial, fun _ => ⟨fun m hm => ?_, ?_⟩⟩
    · rw [hr] at hm
      cases hm
    · show ds.prod = ds.prod ^ 2 % 2 ^ 64
      rw [h₀]
      rfl

/-- A walk that threw. -/
theorem FirstThrew.exactly_iff {e : ArrayError} (h : FirstThrew ConvertToPostgres N [] c values d e s') :
    ((∀ m, s'.requested = some m → m = (lengths s').prod) ∧ Justified (lengths s') e) ↔ Harmless d := by
  obtain ⟨hk, h⟩ := h
  have hl : lengths s' = d.2 := hk.lengths
  have hnone : s'.requested = none → ∀ m, s'.requested = some m → m = d.2.prod := by
    intro hr m hm
    rw [hr] at hm
    cases hm
  rw [hl]
  obtain ⟨de, ds⟩ := d
  cases de with
  | overflow =>
    obtain ⟨hr, n, k, rfl⟩ := h
    exact ⟨fun h => h.2, fun h => ⟨hnone hr, h⟩⟩
  | tooMany =>
    obtain ⟨hr, hj⟩ := h
    exact ⟨fun _ => trivial, fun _ => ⟨hnone hr, hj⟩⟩
  | empty =>
    obtain ⟨hr, hj, -⟩ := h
    exact ⟨fun _ => trivial, fun _ => ⟨hnone hr, hj⟩⟩
  | null =>
    obtain ⟨hr, hj, -⟩ := h
    exact ⟨fun _ => trivial, fun _ => ⟨hnone hr, hj⟩⟩
  | leaves =>
    obtain ⟨hr, h⟩ := h
    have hr : s'.requested = some (ds.prod ^ 2 % 2 ^ 64) := hr
    show _ ↔ ds.prod ≤ 1
    rw [hr, ← square_mod_eq_iff]
    constructor
    · rintro ⟨hm, -⟩
      exact hm _ rfl
    · intro hm
      refine ⟨fun m hm' => ?_, ?_⟩
      · cases hm'
        exact hm
      rcases h with ⟨hj, -⟩ | ⟨hf, -⟩
      · exact hj
      -- at most one value fits into any memory
      · refine absurd ?_ hf
        show Fits (ds.prod ^ 2 % 2 ^ 64)
        rw [hm]
        rcases Nat.le_one_iff_eq_zero_or_eq_one.1 (square_mod_eq_iff.1 hm) with h | h <;>
          rw [h] <;> exact ⟨by decide, by decide⟩

variable (ConvertToPostgres)

/-- A walk asks for just the memory that the array needs where its first descent gets to at most one leaf, or
overflows with a product that does. -/
theorem AppendValueAtDimension_allocatesExactly_iff (t : LogicalType) (value : Value α t) :
    AllocatesExactly ConvertToPostgres t value ↔
      Harmless (descent (GetChildren t value).1 1 (GetChildren t value).2) := by
  by_cases ht : t = .LEAF
  · subst ht
    refine ⟨fun _ => trivial, fun _ => ⟨fun m hm => ?_, trivial⟩⟩
    cases hm
  have h := @walk_ends _ _ ConvertToPostgres t value ht
  unfold AllocatesExactly
  unfold Ends at h
  cases hrun : (walk ConvertToPostgres t value).run (.new (GetDuckDBListDimensionality t 0)) with
  | ok u s =>
    rw [hrun] at h
    exact h.exactly_iff rfl
  | error e s =>
    rw [hrun] at h
    exact h.exactly_iff

end

/-- For a list of two values, room for four is asked for. -/
theorem two_values_four_requested :
    ¬AllocatesExactly (fun (_ : LogicalType) (_ : Value Unit _) => Except.ok ()) (.LIST .LEAF)
      (some [some (), some ()]) := by
  rintro ⟨h, -⟩
  have h := h 4 rfl
  revert h
  decide

end PgDuckdb.Arrays
