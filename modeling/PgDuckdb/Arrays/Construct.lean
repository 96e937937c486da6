import PgDuckdb.Arrays.Allocation
import PgDuckdb.Arrays.Limits

/-!
# The constructed array

What `ConvertDuckToPostgresArray` constructs, beside what the value is: its lists level by level and its
leaves, where lists and fixed-size arrays are levels alike. The walk takes an `ARRAY` below the outermost
level for a leaf, while its dimension is counted. So the two agree on values in which none occurs, as long as
the buffers that are asked for are large enough and not too large, and Postgres takes the array. An array without
elements has no dimensions in Postgres, so that the lengths of its lists are lost.
-/

namespace PgDuckdb.Arrays

open Lib

section
variable {α Datum : Type} {ConvertToPostgres : (t : LogicalType) → Value α t → Except String Datum}
variable {N p : ℕ} {ds : List ℕ} {level : ℕ}

/-! ## Two readings of a value

`arrays` is whether an `ARRAY` counts as a level: it does in what a value is, and it does not to the walk. -/

/-- Above the depth of the walk both readings have the same lists. -/
theorem lists_eq_of_lt {c : LogicalType} {values : Children α c} (h : level < depth c) :
    lists true c values level = lists false c values level := by
  induction c generalizing level with
  | LEAF =>
    have hl : level = 0 := by
      rw [depth] at h
      omega
    subst hl
    cases values <;> rfl
  | ARRAY c size =>
    have hl : level = 0 := by
      rw [depth] at h
      omega
    subst hl
    cases values <;> rfl
  | LIST c ih =>
    cases level with
    | zero => cases values <;> rfl
    | succ level =>
      cases values with
      | none => rfl
      | some values =>
        have hlt : level < depth c := Nat.lt_of_succ_lt_succ h
        show (values.flatMap fun v => lists true c v.listChildren level) =
          values.flatMap fun v => lists false c v.listChildren level
        exact List.flatMap_congr fun v _ => ih hlt

/-- From its depth on the walk finds no lists. -/
theorem lists_deep {c : LogicalType} {values : Children α c} (h : depth c ≤ level) :
    lists false c values level = [] := by
  induction c generalizing level with
  | LEAF =>
    cases level with
    | zero => cases h
    | succ level => cases values <;> rfl
  | ARRAY c size =>
    cases level with
    | zero => cases h
    | succ level => cases values <;> rfl
  | LIST c ih =>
    cases level with
    | zero => cases h
    | succ level =>
      cases values with
      | none => rfl
      | some values => exact List.flatMap_eq_nil_iff.2 fun v _ => ih (Nat.le_of_succ_le_succ h)

/-- There is a list at the outermost level. -/
theorem lists_head {arrays : Bool} {c : LogicalType} {values : Children α c} :
    lists arrays c values 0 ≠ [] := by
  cases values <;> cases c <;> exact List.cons_ne_nil _ _

/-- Where no `ARRAY` occurs below the outermost level, there are no further levels. -/
theorem lists_below {c : LogicalType} {values : Children α c} (h : lists true c values (depth c) = [])
    (hl : depth c ≤ level) : lists true c values level = [] := by
  induction c generalizing level with
  | LEAF =>
    cases level with
    | zero => cases hl
    | succ level => cases values <;> rfl
  | ARRAY c size =>
    cases level with
    | zero => cases hl
    | succ level =>
      cases values with
      | none => rfl
      | some values =>
        have hnil : ∀ v ∈ values, lists true c v.arrayChildren 0 = [] := List.flatMap_eq_nil_iff.1 h
        exact List.flatMap_eq_nil_iff.2 fun v hv => absurd (hnil v hv) lists_head
  | LIST c ih =>
    cases level with
    | zero => cases hl
    | succ level =>
      cases values with
      | none => rfl
      | some values =>
        have hnil : ∀ v ∈ values, lists true c v.listChildren (depth c) = [] := List.flatMap_eq_nil_iff.1 h
        exact List.flatMap_eq_nil_iff.2 fun v hv => ih (hnil v hv) (Nat.le_of_succ_le_succ hl)

/-- Where no array type occurs below the outermost level, both readings are the same. -/
theorem lists_eq {c : LogicalType} {values : Children α c} (h : lists true c values (depth c) = []) :
    lists true c values level = lists false c values level := by
  rcases Nat.lt_or_ge level (depth c) with hl | hl
  · exact lists_eq_of_lt hl
  · rw [lists_below h hl, lists_deep hl]

/-- Then the walk has the right leaves. If there is a level left they are none. -/
theorem leaves_eq {c : LogicalType} {values : Children α c} (h : lists true c values (depth c) = []) :
    leaves ConvertToPostgres true c values = leaves ConvertToPostgres false c values ∧
    (depth c < levels c + 1 → leaves ConvertToPostgres false c values = []) := by
  induction c with
  | LEAF =>
    refine ⟨by cases values <;> rfl, fun hlt => ?_⟩
    exact absurd hlt (Nat.lt_irrefl 1)
  | ARRAY c size =>
    cases values with
    | none => exact ⟨rfl, fun _ => rfl⟩
    | some values =>
      have hnil : ∀ v ∈ values, lists true c v.arrayChildren 0 = [] := List.flatMap_eq_nil_iff.1 h
      cases values with
      | nil => exact ⟨rfl, fun _ => rfl⟩
      | cons v values => exact absurd (hnil v List.mem_cons_self) lists_head
  | LIST c ih =>
    cases values with
    | none => exact ⟨rfl, fun _ => rfl⟩
    | some values =>
      have hnil : ∀ v ∈ values, lists true c v.listChildren (depth c) = [] := List.flatMap_eq_nil_iff.1 h
      refine ⟨List.flatMap_congr fun v hv => (ih (hnil v hv)).1, fun hlt => ?_⟩
      exact List.flatMap_eq_nil_iff.2 fun v hv => (ih (hnil v hv)).2 (Nat.lt_of_succ_lt_succ hlt)

/-- An `ARRAY` that is not NULL has at least one element, and its level is counted. -/
theorem array_level {c : LogicalType} {values : Children α c} {x : Option ℕ}
    (hx : x ∈ lists true c values (depth c)) :
    depth c < levels c + 1 ∧ (x = none ∨ ∃ n, x = some n ∧ 0 < n) := by
  induction c with
  | LEAF => cases values <;> cases hx
  | ARRAY c size =>
    refine ⟨Nat.succ_lt_succ (Nat.succ_pos _), ?_⟩
    cases values with
    | none => cases hx
    | some values =>
      obtain ⟨v, -, hx⟩ := List.mem_flatMap.1 hx
      cases hv : v.arrayChildren with
      | none =>
        rw [hv] at hx
        cases c <;> exact .inl (List.mem_singleton.1 hx)
      | some us =>
        have hlen : us.length = size := by
          have hmap : Option.map Subtype.val v = some us := hv
          obtain ⟨u, -, hu⟩ := Option.map_eq_some_iff.1 hmap
          exact hu ▸ u.2
        have hus : us.length ∈ [us.length] := List.mem_singleton_self _
        rw [hv] at hx
        refine .inr ⟨us.length, ?_, by rw [hlen]; exact size.pos⟩
        cases c <;> exact List.mem_singleton.1 hx
  | LIST c ih =>
    cases values with
    | none => cases hx
    | some values =>
      obtain ⟨v, -, hx⟩ := List.mem_flatMap.1 hx
      obtain ⟨hlt, h⟩ := ih hx
      exact ⟨Nat.succ_lt_succ hlt, h⟩

/-! ## Lengths -/

/-- The length that a level has, 0 if there is no list. -/
def lengthAt (arrays : Bool) (c : LogicalType) (values : Children α c) (level : ℕ) : ℕ :=
  (lists arrays c values level).head?.join.getD 0

/-- A value is regular when some lengths fit. -/
theorem not_irregular_iff {c : LogicalType} {values : Children α c} :
    ¬Irregular false c values ↔ ∃ ds, Agrees c values ds := by
  constructor
  · intro h
    refine ⟨(List.range (depth c)).map (lengthAt false c values), fun level x hx => ?_⟩
    have hlt : level < depth c := by
      by_contra hge
      rw [lists_deep (Nat.not_lt.1 hge)] at hx
      cases hx
    cases x with
    | none => exact absurd (.inl ⟨level, hx⟩) h
    | some n =>
      refine ⟨n, rfl, ?_⟩
      rw [List.getElem?_map, List.getElem?_range hlt, Option.map_some, lengthAt]
      cases hl : lists false c values level with
      | nil =>
        rw [hl] at hx
        cases hx
      | cons y ys =>
        have hy : y ∈ lists false c values level := hl ▸ List.mem_cons_self
        cases y with
        | none => exact absurd (.inl ⟨level, hy⟩) h
        | some m =>
          by_contra hne
          exact h (.inr ⟨level, m, n, hy, hx, fun he => hne (he ▸ rfl)⟩)
  · rintro ⟨ds, h⟩ (⟨level, hx⟩ | ⟨level, m, n, hm, hn, hne⟩)
    · obtain ⟨n, hn, -⟩ := h level _ hx
      cases hn
    · obtain ⟨m', hm', hdm⟩ := h level _ hm
      obtain ⟨n', hn', hdn⟩ := h level _ hn
      cases hm'
      cases hn'
      rw [hdm] at hdn
      exact hne (Option.some.inj hdn)

/-- The lengths of a descent are its own and those below it. -/
theorem descend_getElem? {n level : ℕ} {below : DescentEnd × List ℕ} {m : ℕ}
    (h : (descend p n below).2[level]? = some m) :
    (level = 0 ∧ m = n) ∨ ∃ l, level = l + 1 ∧ below.2[l]? = some m := by
  unfold descend at h
  split at h
  · cases h
  · split at h
    · cases level with
      | zero => exact .inl ⟨rfl, (Option.some.inj h).symm⟩
      | succ l => cases h
    · cases level with
      | zero => exact .inl ⟨rfl, (Option.some.inj h).symm⟩
      | succ l => exact .inr ⟨l, rfl, h⟩

/-- Each length on the first descent is that of the first list of its level. -/
theorem lengthAt_descent {c : LogicalType} {values : Children α c} {m : ℕ}
    (h : (descent c p values).2[level]? = some m) :
    (lists false c values level).head? = some (some m) := by
  induction c generalizing level p with
  | LEAF =>
    cases values with
    | none => cases h
    | some values =>
      rcases descend_getElem? h with ⟨rfl, rfl⟩ | ⟨l, rfl, hb⟩
      · rfl
      · cases hb
  | ARRAY c size =>
    cases values with
    | none => cases h
    | some values =>
      rcases descend_getElem? h with ⟨rfl, rfl⟩ | ⟨l, rfl, hb⟩
      · rfl
      · cases hb
  | LIST c ih =>
    cases values with
    | none => cases h
    | some values =>
      cases values with
      | nil =>
        rcases descend_getElem? h with ⟨rfl, rfl⟩ | ⟨l, rfl, hb⟩
        · rfl
        · cases hb
      | cons v values =>
        rcases descend_getElem? h with ⟨rfl, rfl⟩ | ⟨l, rfl, hb⟩
        · rfl
        · have hv := ih hb
          show ((v :: values).flatMap fun v => lists false c v.listChildren l).head? = _
          rw [List.flatMap_cons, List.head?_append, hv]
          rfl

/-- There is no list below an empty level. -/
theorem lists_below_empty {c : LogicalType} {values : Children α c} {k : ℕ} (h : Agrees c values ds)
    (hk : ds[k]? = some 0) (hlt : k < level) : lists false c values level = [] := by
  induction c generalizing level k ds with
  | LEAF =>
    cases level with
    | zero => cases hlt
    | succ level => cases values <;> rfl
  | ARRAY c size =>
    cases level with
    | zero => cases hlt
    | succ level => cases values <;> rfl
  | LIST c ih =>
    cases level with
    | zero => cases hlt
    | succ level =>
      cases values with
      | none => rfl
      | some values =>
        obtain ⟨hn, hvs⟩ := agrees_list.1 h
        refine List.flatMap_eq_nil_iff.2 fun v hv => ?_
        cases k with
        | zero =>
          have hpos := List.length_pos_of_mem hv
          rw [hn] at hk
          cases hk' : values.length with
          | zero => omega
          | succ n =>
            rw [hk'] at hk
            cases hk
        | succ k => exact ih (hvs v hv) (List.getElem?_tail.trans hk) (Nat.lt_of_succ_lt_succ hlt)

/-! ## The array -/

/-- A value that no array can be made of, its `ARRAY`s being levels or leaves. -/
def TurnedDown (ConvertToPostgres : (t : LogicalType) → Value α t → Except String Datum) (arrays : Bool)
    (c : LogicalType) (values : Children α c) : Prop :=
  Irregular arrays c values ∨ Unconvertible ConvertToPostgres arrays c values

/-- On the first descent something is turned down for its size. -/
def TooLarge : DescentEnd × List ℕ → Prop
  | (.tooMany, _) => True
  | (.overflow, _) => True
  | (.leaves, ds) => ¬Fits (ds.prod ^ 2 % 2 ^ 64)
  | _ => False

/-- The square of the number of leaves, modulo 64 bits, is less than their number. -/
def Overruns : DescentEnd × List ℕ → Prop
  | (.leaves, ds) => ds.prod ^ 2 % 2 ^ 64 < ds.prod
  | _ => False

/-- The lengths of the lists, level by level, 0 where there is none. -/
def levelLengths (t : LogicalType) (value : Value α t) : List ℕ :=
  (List.range (levels t)).map (lengthAt true (GetChildren t value).1 (GetChildren t value).2)

/-- The lengths that the walk finds on the first descent, 0 where it found none. -/
def shape (t : LogicalType) (d : DescentEnd × List ℕ) : List ℕ :=
  d.2 ++ List.replicate (levels t - d.2.length) 0

variable (nbytes : List ℤ → List (Option Datum) → ℕ)

/-- Postgres makes an array of what the walk finds: it takes the dimensions, and there is room for the elements. -/
def Taken (ConvertToPostgres : (t : LogicalType) → Value α t → Except String Datum) (t : LogicalType)
    (value : Value α t) : Prop :=
  let c := (GetChildren t value).1
  let values := (GetChildren t value).2
  let dims := shape t (descent c 1 values)
  Storable dims ∧ (dims.prod ≠ 0 → ∀ elements, leaves ConvertToPostgres false c values =
    elements.map (Option.map .ok) → nbytes (dims.map fun d : ℕ => (d : ℤ)) elements ≤ MaxAllocSize)

/-- The array has the lengths of the lists, level by level, and the leaves in order. They were written where
there is room for them. Postgres keeps the lengths unless there are no elements. -/
structure RightArray (ConvertToPostgres : (t : LogicalType) → Value α t → Except String Datum) (t : LogicalType)
    (value : Value α t) (constructed : Constructed Datum) : Prop where
  ndims : constructed.args.ndims = levels t
  dims : constructed.args.dims = (levelLengths t value).map fun d : ℕ => (d : ℤ)
  room : constructed.args.values.length ≤ constructed.args.requested.getD 0
  kept : constructed.array.dims = if 0 ∈ levelLengths t value then [] else constructed.args.dims
  elements : leaves ConvertToPostgres true (GetChildren t value).1 (GetChildren t value).2 =
    constructed.array.elements.map (Option.map .ok)

/-- An exception for what no array can be made of, and else the right array. -/
def Constructs (ConvertToPostgres : (t : LogicalType) → Value α t → Except String Datum) (t : LogicalType)
    (value : Value α t) : Prop :=
  (TurnedDown ConvertToPostgres true (GetChildren t value).1 (GetChildren t value).2 →
    ∃ e, ConvertDuckToPostgresArray ConvertToPostgres nbytes t value = .error e) ∧
  (¬TurnedDown ConvertToPostgres true (GetChildren t value).1 (GetChildren t value).2 →
    ∃ constructed, ConvertDuckToPostgresArray ConvertToPostgres nbytes t value = .ok constructed ∧
      RightArray ConvertToPostgres t value constructed)

/-- The array has a dimension for every level, of length 0 below an empty one. -/
def KeepsLevels (ConvertToPostgres : (t : LogicalType) → Value α t → Except String Datum) (t : LogicalType)
    (value : Value α t) : Prop :=
  ¬TurnedDown ConvertToPostgres true (GetChildren t value).1 (GetChildren t value).2 →
    ∀ constructed, ConvertDuckToPostgresArray ConvertToPostgres nbytes t value = .ok constructed →
      constructed.array.dims = (levelLengths t value).map fun d : ℕ => (d : ℤ)

variable {nbytes}

section
variable {c : LogicalType} {values : Children α c} {d : DescentEnd × List ℕ}
variable {s s' : PostgresArrayAppendState Datum}

/-- What was returned has not been turned down. -/
theorem FirstReturned.not_turnedDown (h : FirstReturned ConvertToPostgres N [] c values d s s') :
    ¬TurnedDown ConvertToPostgres false c values := by
  rintro (hi | ⟨text, ht⟩)
  · exact not_irregular_iff.2 ⟨d.2, h.agrees⟩ hi
  · obtain ⟨els, hels, -⟩ := h.wrote
    rw [hels] at ht
    obtain ⟨x, -, hx⟩ := List.mem_map.1 ht
    cases x <;> cases hx

/-- What was returned has no dimension that is too large. -/
theorem FirstReturned.not_tooLarge (h : FirstReturned ConvertToPostgres N [] c values d s s') :
    ¬TooLarge d := by
  have hq : s'.expected_values = d.2.prod ^ 2 % 2 ^ 64 := h.squared
  obtain ⟨e, ds⟩ := d
  rcases h.ended with ⟨rfl, -, -, hf⟩ | ⟨rfl, -, -, -⟩
  · rw [hq] at hf
    exact not_not_intro hf
  · exact id

/-- A value that gave an error was turned down. -/
theorem Blamed.turnedDown {D : List ℕ} {e : ArrayError} (h : Blamed ConvertToPostgres D c values e) :
    TurnedDown ConvertToPostgres false c values := by
  refine h.2.imp_left fun hn => ?_
  by_contra hr
  obtain ⟨ds, ha⟩ := not_irregular_iff.1 hr
  exact hn ds ha

/-- A walk that threw was turned down or too large. -/
theorem FirstThrew.turnedDown {e : ArrayError} (h : FirstThrew ConvertToPostgres N [] c values d e s') :
    TurnedDown ConvertToPostgres false c values ∨ TooLarge d := by
  obtain ⟨de, ds⟩ := d
  have h := h.2
  cases de with
  | overflow => exact .inr trivial
  | tooMany => exact .inr trivial
  | leaves => exact h.2.imp Blamed.turnedDown fun h => h.1
  | empty => exact .inl h.2.turnedDown
  | null => exact .inl h.2.turnedDown

/-- Nothing is expected where nothing was allocated, so that no null pointer is freed. -/
theorem FirstReturned.no_pfree_null (h : FirstReturned ConvertToPostgres N [] c values d s s') :
    ¬(s'.expected_values > 0 ∧ s'.requested = none) := by
  rintro ⟨hpos, hnone⟩
  have hq : s'.expected_values = d.2.prod ^ 2 % 2 ^ 64 := h.squared
  rcases h.ended with ⟨-, -, hr, -⟩ | ⟨-, -, -, hlast⟩
  · rw [hr] at hnone
    cases hnone
  · have h₀ : d.2.prod = 0 :=
      List.prod_eq_zero_iff_exists_zero_nat.2 ⟨0, List.mem_of_getLast? hlast, rfl⟩
    rw [hq, h₀] at hpos
    exact absurd hpos (by decide)

end

/-- The array of a walk that returned. -/
abbrev arrayOf (t : LogicalType) (s : PostgresArrayAppendState Datum) : ArrayArgs Datum :=
  s.toArgs (GetDuckDBListDimensionality t 0)

/-- Either an exception that has its reason in the value, or what Postgres makes of the array of a walk that
returned. -/
theorem convert_cases (t : LogicalType) (value : Value α t) (ht : t ≠ .LEAF) :
    (∃ e, ConvertDuckToPostgresArray ConvertToPostgres nbytes t value = .error e ∧
      (TurnedDown ConvertToPostgres false (GetChildren t value).1 (GetChildren t value).2 ∨
        TooLarge (descent (GetChildren t value).1 1 (GetChildren t value).2))) ∨
    ∃ s, ConvertDuckToPostgresArray ConvertToPostgres nbytes t value =
        (construct_md_array nbytes (arrayOf t s)).map (Constructed.mk (arrayOf t s)) ∧
      FirstReturned ConvertToPostgres (GetDuckDBListDimensionality t 0) [] (GetChildren t value).1
        (GetChildren t value).2 (descent (GetChildren t value).1 1 (GetChildren t value).2)
        (.new (GetDuckDBListDimensionality t 0)) s := by
  have h := @walk_ends _ _ ConvertToPostgres t value ht
  unfold Ends at h
  cases hrun : (walk ConvertToPostgres t value).run (.new (GetDuckDBListDimensionality t 0)) with
  | error e s =>
    rw [hrun] at h
    refine .inl ⟨e, ?_, h.turnedDown⟩
    unfold walk at hrun
    unfold ConvertDuckToPostgresArray
    simp only [hrun]
  | ok u s =>
    rw [hrun] at h
    refine .inr ⟨s, ?_, h⟩
    unfold walk at hrun
    unfold ConvertDuckToPostgresArray
    simp only [hrun]
    cases construct_md_array nbytes (arrayOf t s) with
    | error e => rfl
    | ok array => exact if_neg h.no_pfree_null

/-! ## What Postgres makes of it -/

/-- Counting the levels of a type from zero gives them all. -/
theorem dimensionality_eq (t : LogicalType) : GetDuckDBListDimensionality t 0 = levels t := by
  rw [GetDuckDBListDimensionality_eq, Nat.zero_add]

/-- The dimensions of the array are those of the first descent. -/
theorem arrayOf_dims {t : LogicalType} {s : PostgresArrayAppendState Datum} {d : DescentEnd × List ℕ}
    (h : Known (GetDuckDBListDimensionality t 0) d.2 s) :
    (arrayOf t s).dims = (shape t d).map fun d : ℕ => (d : ℤ) := by
  have hset : ∀ d : ℕ, (if (d : ℤ) = -1 then (0 : ℤ) else d) = d := fun d => if_neg (by omega)
  rw [arrayOf, PostgresArrayAppendState.toArgs, h, List.map_append, List.map_map, List.map_replicate, if_pos rfl,
    shape, List.map_append, List.map_replicate, dimensionality_eq, Nat.cast_zero]
  exact congrArg (· ++ _) (List.map_congr_left fun d _ => hset d)

/-- A list has one level more than its elements. -/
theorem GetChildren_levels (t : LogicalType) (value : Value α t) (ht : t ≠ .LEAF) :
    GetDuckDBListDimensionality t 0 = levels (GetChildren t value).1 + 1 := by
  rw [GetDuckDBListDimensionality_eq, Nat.zero_add]
  cases t with
  | LEAF => exact absurd rfl ht
  | LIST child => rfl
  | ARRAY child size => rfl

/-- A level without lists has length zero. -/
theorem lengthAt_of_nil {arrays : Bool} {c : LogicalType} {values : Children α c}
    (h : lists arrays c values level = []) : lengthAt arrays c values level = 0 := by
  rw [lengthAt, h]
  rfl

/-- The length of a level is that of its first list. -/
theorem lengthAt_of_head {arrays : Bool} {c : LogicalType} {values : Children α c} {m : ℕ}
    (h : (lists arrays c values level).head? = some (some m)) : lengthAt arrays c values level = m := by
  rw [lengthAt, h]
  rfl

section
variable {c : LogicalType} {values : Children α c} {s₀ s : PostgresArrayAppendState Datum}

/-- The walk knows the length of every level that has a list. -/
theorem FirstReturned.lengthAt (h : FirstReturned ConvertToPostgres N [] c values (descent c p values) s₀ s) :
    Arrays.lengthAt false c values level = (descent c p values).2[level]?.getD 0 := by
  rcases Nat.lt_or_ge level (descent c p values).2.length with hl | hl
  · have hget := List.getElem?_eq_getElem hl
    rw [lengthAt_of_head (lengthAt_descent hget), hget]
    rfl
  · rw [List.getElem?_eq_none hl]
    refine lengthAt_of_nil ?_
    rcases h.ended with ⟨-, hd, -⟩ | ⟨-, -, -, hlast⟩
    · exact lists_deep (hd ▸ hl)
    · have hlast : (descent c p values).2.getLast? = some 0 := hlast
      rw [List.getLast?_eq_getElem?] at hlast
      have hpos : 0 < (descent c p values).2.length := by
        by_contra hz
        rw [List.getElem?_eq_none (by omega)] at hlast
        cases hlast
      exact lists_below_empty h.agrees hlast (by omega)

/-- A walk states no more lengths than the type has levels. -/
theorem FirstReturned.length_le (h : FirstReturned ConvertToPostgres N [] c values (descent c p values) s₀ s) :
    (descent c p values).2.length ≤ depth c := by
  rcases h.ended with ⟨-, hd, -⟩ | ⟨-, hd, -⟩
  · exact Nat.le_of_eq hd
  · exact Nat.le_of_lt hd

/-- Where there is a level that the walk did not see, it found no leaf. -/
theorem FirstReturned.no_values (h : FirstReturned ConvertToPostgres N [] c values (descent c p values) s₀ s)
    (hs : s₀.values = []) (hn : lists true c values (depth c) = [])
    (hlt : (descent c p values).2.length < levels c + 1) : s.values = [] := by
  refine List.eq_nil_of_length_eq_zero ?_
  rcases h.ended with ⟨-, hd, -⟩ | ⟨-, -, -, hlast⟩
  · obtain ⟨els, hels, hv⟩ := h.wrote
    rw [(leaves_eq hn).2 (hd ▸ hlt)] at hels
    rw [hv, hs, List.map_eq_nil_iff.1 hels.symm]
    rfl
  · rw [h.length_values hs]
    exact List.prod_eq_zero_iff_exists_zero_nat.2 ⟨0, List.mem_of_getLast? hlast, rfl⟩

/-- The values fit the requested room just when the descent does not overrun. -/
theorem FirstReturned.room_iff (h : FirstReturned ConvertToPostgres N [] c values (descent c p values) s₀ s)
    (hs : s₀.values = []) : s.values.length ≤ s.requested.getD 0 ↔ ¬Overruns (descent c p values) := by
  have hq : s.expected_values = (descent c p values).2.prod ^ 2 % 2 ^ 64 := h.squared
  have hend := h.ended
  rw [h.length_values hs]
  generalize descent c p values = d at *
  obtain ⟨e, ds⟩ := d
  rcases hend with ⟨rfl, -, hr, -⟩ | ⟨rfl, -, hr, hlast⟩
  · rw [hr, hq]
    exact Nat.not_lt.symm
  · have h₀ : ds.prod = 0 :=
      List.prod_eq_zero_iff_exists_zero_nat.2 ⟨0, List.mem_of_getLast? hlast, rfl⟩
    show ds.prod ≤ _ ↔ ¬False
    rw [h₀]
    exact ⟨fun _ => id, fun _ => Nat.zero_le _⟩

end

/-- Reading values back from a list that had no error loses nothing. -/
theorem ok_inj : Function.Injective (List.map (Option.map (Except.ok (ε := String) (α := Datum)))) :=
  List.map_injective_iff.2 (Option.map_injective fun _ _ h => Except.ok.inj h)

section
variable {t : LogicalType} {value : Value α t} {s₀ s : PostgresArrayAppendState Datum}

/-- The lengths of the array that was made, and their number. -/
theorem FirstReturned.length_shape (ht : t ≠ .LEAF)
    (h : FirstReturned ConvertToPostgres (GetDuckDBListDimensionality t 0) [] (GetChildren t value).1
      (GetChildren t value).2 (descent (GetChildren t value).1 1 (GetChildren t value).2) s₀ s) :
    (shape t (descent (GetChildren t value).1 1 (GetChildren t value).2)).length = levels t := by
  have hle := h.length_le.trans (depth_child_le t value ht)
  rw [dimensionality_eq] at hle
  rw [shape, List.length_append, List.length_replicate, Nat.add_sub_cancel' hle]

/-- All the values are elements, unless a length is 0. -/
theorem FirstReturned.elements_eq (hs : s₀.values = [])
    (h : FirstReturned ConvertToPostgres (GetDuckDBListDimensionality t 0) [] (GetChildren t value).1
      (GetChildren t value).2 (descent (GetChildren t value).1 1 (GetChildren t value).2) s₀ s)
    (hpos : (shape t (descent (GetChildren t value).1 1 (GetChildren t value).2)).prod ≠ 0) :
    leaves ConvertToPostgres false (GetChildren t value).1 (GetChildren t value).2 =
      (arrayOf t s).elements.map (Option.map .ok) := by
  have hlen := h.length_values hs
  have hdims := arrayOf_dims (t := t) h.known
  obtain ⟨els, hels, hv⟩ := h.wrote
  rw [hs, List.nil_append] at hv
  generalize descent (GetChildren t value).1 1 (GetChildren t value).2 = d at *
  -- no dimension was left out
  have hall : (shape t d).prod = d.2.prod := by
    rw [shape, List.prod_append, List.prod_replicate] at hpos ⊢
    by_cases hz : levels t - d.2.length = 0
    · rw [hz, pow_zero, mul_one]
    · exact absurd (by rw [zero_pow hz, mul_zero]) hpos
  have hcast : ((shape t d).map fun d : ℕ => (d : ℤ)).prod = (shape t d).prod := (Nat.cast_list_prod _).symm
  have htake : (arrayOf t s).elements = s.values := by
    rw [ArrayArgs.elements, hdims, hcast, Int.toNat_natCast]
    exact List.take_of_length_le (Nat.le_of_eq (hlen.trans hall.symm))
  rw [htake, hels, hv]

variable (nbytes) in
/-- What Postgres makes of the array of a walk that returned. -/
theorem FirstReturned.constructed (ht : t ≠ .LEAF) (hs : s₀.values = [])
    (h : FirstReturned ConvertToPostgres (GetDuckDBListDimensionality t 0) [] (GetChildren t value).1
      (GetChildren t value).2 (descent (GetChildren t value).1 1 (GetChildren t value).2) s₀ s) :
    Taken nbytes ConvertToPostgres t value ∧ construct_md_array nbytes (arrayOf t s) =
        .ok ((arrayOf t s).made (shape t (descent (GetChildren t value).1 1 (GetChildren t value).2))) ∨
      ¬Taken nbytes ConvertToPostgres t value ∧ ∃ e, construct_md_array nbytes (arrayOf t s) = .error e := by
  have hlen := h.length_shape ht
  have hne : shape t (descent (GetChildren t value).1 1 (GetChildren t value).2) ≠ [] := by
    refine List.ne_nil_of_length_pos ?_
    rw [hlen, ← dimensionality_eq, GetDuckDBListDimensionality_eq, Nat.zero_add]
    cases t with
    | LEAF => exact absurd rfl ht
    | LIST child => exact Nat.succ_pos _
    | ARRAY child size => exact Nat.succ_pos _
  have hdims := arrayOf_dims (t := t) h.known
  have hcases := @construct_md_array_cases Datum _ nbytes (arrayOf t s) hne
    ((dimensionality_eq t).trans hlen.symm) hdims (by rw [hlen, ← dimensionality_eq]; rfl)
  have htaken : Taken nbytes ConvertToPostgres t value ↔
      Storable (shape t (descent (GetChildren t value).1 1 (GetChildren t value).2)) ∧
        ((shape t (descent (GetChildren t value).1 1 (GetChildren t value).2)).prod ≠ 0 →
          nbytes (arrayOf t s).dims (arrayOf t s).elements ≤ MaxAllocSize) := by
    refine and_congr_right fun _ => imp_congr_right fun hpos => ?_
    have hels := h.elements_eq hs hpos
    rw [← hdims]
    constructor
    · intro hall
      exact hall _ hels
    · intro hle elements he
      rwa [← ok_inj (hels.symm.trans he)]
  rwa [← and_assoc, ← htaken] at hcases

/-- Without an `ARRAY` below the outermost level, the walk knows all the lengths. -/
theorem FirstReturned.levelLengths_eq (ht : t ≠ .LEAF)
    (h : FirstReturned ConvertToPostgres (GetDuckDBListDimensionality t 0) [] (GetChildren t value).1
      (GetChildren t value).2 (descent (GetChildren t value).1 1 (GetChildren t value).2) s₀ s)
    (hn : lists true (GetChildren t value).1 (GetChildren t value).2 (depth (GetChildren t value).1) = []) :
    levelLengths t value = shape t (descent (GetChildren t value).1 1 (GetChildren t value).2) := by
  have hat : ∀ level, Arrays.lengthAt true (GetChildren t value).1 (GetChildren t value).2 level =
      (descent (GetChildren t value).1 1 (GetChildren t value).2).2[level]?.getD 0 := by
    intro level
    rw [← h.lengthAt, Arrays.lengthAt, lists_eq hn]
    rfl
  have hlen := h.length_shape ht
  refine List.ext_getElem? fun level => ?_
  rcases Nat.lt_or_ge level (levels t) with hl | hl
  · rw [levelLengths, List.getElem?_map, List.getElem?_range hl, Option.map_some, hat, shape, List.getElem?_append]
    split
    next hlt => rw [List.getElem?_eq_getElem hlt]; rfl
    next hge =>
      rw [List.getElem?_eq_none (Nat.not_lt.1 hge), List.getElem?_replicate, if_pos (by omega)]
      rfl
  · rw [levelLengths, List.getElem?_map, List.getElem?_eq_none (hlen.trans_le hl),
      List.getElem?_eq_none (List.length_range.trans_le hl), Option.map_none]

/-- Without an `ARRAY` below the outermost level, the array is right if there was room for its values. -/
theorem FirstReturned.rightArray_iff (ht : t ≠ .LEAF) (hs : s₀.values = [])
    (h : FirstReturned ConvertToPostgres (GetDuckDBListDimensionality t 0) [] (GetChildren t value).1
      (GetChildren t value).2 (descent (GetChildren t value).1 1 (GetChildren t value).2) s₀ s)
    (hn : lists true (GetChildren t value).1 (GetChildren t value).2 (depth (GetChildren t value).1) = []) :
    RightArray ConvertToPostgres t value ⟨arrayOf t s, (arrayOf t s).made
        (shape t (descent (GetChildren t value).1 1 (GetChildren t value).2))⟩ ↔
      ¬Overruns (descent (GetChildren t value).1 1 (GetChildren t value).2) := by
  rw [← h.room_iff hs]
  refine ⟨fun hr => hr.room, fun hroom => ?_⟩
  have hlengths := h.levelLengths_eq ht hn
  have hdims := arrayOf_dims (t := t) h.known
  refine ⟨dimensionality_eq t, hlengths ▸ hdims, hroom, ?_, ?_⟩
  · rw [hlengths, ArrayArgs.made]
    by_cases hzero : (shape t (descent (GetChildren t value).1 1 (GetChildren t value).2)).prod = 0
    · rw [if_pos hzero, if_pos (List.prod_eq_zero_iff.1 hzero)]
    · rw [if_neg hzero, if_neg (mt List.prod_eq_zero_iff.2 hzero)]
  · rw [(leaves_eq hn).1, ArrayArgs.made]
    by_cases hzero : (shape t (descent (GetChildren t value).1 1 (GetChildren t value).2)).prod = 0
    · -- a length is 0 or was not seen, and nothing was written
      have hvalues : s.values = [] := by
        rw [shape, List.prod_append, List.prod_replicate] at hzero
        rcases Nat.mul_eq_zero.1 hzero with hzero | hzero
        · refine List.eq_nil_of_length_eq_zero ?_
          rw [h.length_values hs, hzero]
        · refine h.no_values hs hn ?_
          have hne : levels t - (descent (GetChildren t value).1 1 (GetChildren t value).2).2.length ≠ 0 := by
            intro hz
            rw [hz, pow_zero] at hzero
            exact one_ne_zero hzero
          rw [← GetChildren_levels t value ht, dimensionality_eq]
          omega
      obtain ⟨els, hels, hv⟩ := h.wrote
      rw [hs, List.nil_append, hvalues] at hv
      rw [if_pos hzero, hels, ← hv]
    · rw [if_neg hzero]
      exact h.elements_eq hs hzero

/-- With an `ARRAY` below the outermost level, the walk did not see the level that is counted for it. -/
theorem FirstReturned.shape_zero (ht : t ≠ .LEAF)
    (h : FirstReturned ConvertToPostgres (GetDuckDBListDimensionality t 0) [] (GetChildren t value).1
      (GetChildren t value).2 (descent (GetChildren t value).1 1 (GetChildren t value).2) s₀ s)
    (hn : lists true (GetChildren t value).1 (GetChildren t value).2 (depth (GetChildren t value).1) ≠ []) :
    (shape t (descent (GetChildren t value).1 1 (GetChildren t value).2))[depth (GetChildren t value).1]? =
      some 0 := by
  have hle := h.length_le
  have hN := GetChildren_levels t value ht
  obtain ⟨x, hx⟩ := List.exists_mem_of_ne_nil _ hn
  have hlt := (array_level hx).1
  rw [dimensionality_eq] at hN
  rw [shape, List.getElem?_append_right hle, List.getElem?_replicate, if_pos (by omega)]

/-- Then the array lacks its dimension. -/
theorem FirstReturned.not_rightArray (ht : t ≠ .LEAF)
    (h : FirstReturned ConvertToPostgres (GetDuckDBListDimensionality t 0) [] (GetChildren t value).1
      (GetChildren t value).2 (descent (GetChildren t value).1 1 (GetChildren t value).2) s₀ s)
    (hn : lists true (GetChildren t value).1 (GetChildren t value).2 (depth (GetChildren t value).1) ≠ [])
    (hok : ¬TurnedDown ConvertToPostgres true (GetChildren t value).1 (GetChildren t value).2)
    {array : PgArray Datum} : ¬RightArray ConvertToPostgres t value ⟨arrayOf t s, array⟩ := by
  intro hr
  have hzero := h.shape_zero ht hn
  have hdims := hr.dims
  have hN := GetChildren_levels t value ht
  rw [dimensionality_eq] at hN
  rw [arrayOf_dims h.known] at hdims
  obtain ⟨x, hx⟩ := List.exists_mem_of_ne_nil _ hn
  have hlt := (array_level hx).1
  rw [List.map_injective_iff.2 Nat.cast_injective hdims, levelLengths, List.getElem?_map,
    List.getElem?_range (by omega), Option.map_some, Option.some.injEq] at hzero
  cases hl : lists true (GetChildren t value).1 (GetChildren t value).2 (depth (GetChildren t value).1) with
  | nil => exact hn hl
  | cons y ys =>
    have hy : y ∈ lists true (GetChildren t value).1 (GetChildren t value).2 (depth (GetChildren t value).1) :=
      hl ▸ List.mem_cons_self
    rcases (array_level hy).2 with rfl | ⟨n, rfl, hpos⟩
    · exact hok (.inl (.inl ⟨_, hy⟩))
    · have hhead := lengthAt_of_head (m := n) (congrArg List.head? hl)
      rw [hhead] at hzero
      omega

end

/-- A walk is turned down for the same values, with array nodes or without. -/
theorem turnedDown_eq {c : LogicalType} {values : Children α c} (h : lists true c values (depth c) = []) :
    TurnedDown ConvertToPostgres true c values ↔ TurnedDown ConvertToPostgres false c values := by
  have hl : lists true c values = lists false c values := funext fun level => lists_eq h
  unfold TurnedDown Irregular Unconvertible
  rw [hl, (leaves_eq h).1]

/-- No `ARRAY` is met below the outermost level, the sizes pass, and Postgres takes the array. A value that no array
can be made of may have other `ARRAY`s in it, if what the walk makes of these, a size or Postgres stops it. -/
def Constructible (nbytes : List ℤ → List (Option Datum) → ℕ)
    (ConvertToPostgres : (t : LogicalType) → Value α t → Except String Datum) (t : LogicalType)
    (value : Value α t) : Prop :=
  let c := (GetChildren t value).1
  let values := (GetChildren t value).2
  let d := descent c 1 values
  (TurnedDown ConvertToPostgres true c values →
    TurnedDown ConvertToPostgres false c values ∨ TooLarge d ∨ ¬Taken nbytes ConvertToPostgres t value) ∧
  (¬TurnedDown ConvertToPostgres true c values →
    lists true c values (depth c) = [] ∧ ¬TooLarge d ∧ ¬Overruns d ∧ Taken nbytes ConvertToPostgres t value)

/-- What is constructed is right if and only if it can be, as Postgres has arrays. -/
theorem constructs_iff (t : LogicalType) (value : Value α t) :
    Constructs nbytes ConvertToPostgres t value ↔ Constructible nbytes ConvertToPostgres t value := by
  by_cases ht : t = .LEAF
  · subst ht
    have hdown : ∀ arrays, TurnedDown ConvertToPostgres arrays (GetChildren .LEAF value).1
        (GetChildren .LEAF value).2 := fun arrays => .inl (.inl ⟨0, List.mem_singleton_self _⟩)
    exact ⟨fun _ => ⟨fun _ => .inl (hdown false), fun hn => absurd (hdown true) hn⟩,
      fun _ => ⟨fun _ => ⟨_, rfl⟩, fun hn => absurd (hdown true) hn⟩⟩
  unfold Constructs Constructible
  rcases @convert_cases _ _ ConvertToPostgres nbytes t value ht with ⟨e, he, hwhy⟩ | ⟨s, hs, h⟩
  · refine and_congr (imp_congr_right fun hdown => ?_) (imp_congr_right fun hok => ?_)
    · exact ⟨fun _ => hwhy.imp_right .inl, fun _ => ⟨e, he⟩⟩
    · constructor
      · rintro ⟨constructed, hconstructed, -⟩
        cases he.symm.trans hconstructed
      · rintro ⟨hn, hlarge, -⟩
        rcases hwhy with hwhy | hwhy
        · exact absurd ((turnedDown_eq hn).2 hwhy) hok
        · exact absurd hwhy hlarge
  rcases h.constructed nbytes ht rfl with ⟨htaken, hmade⟩ | ⟨htaken, e, hmade⟩
  · rw [hmade] at hs
    refine and_congr (imp_congr_right fun hdown => ?_) (imp_congr_right fun hok => ?_)
    · constructor
      · rintro ⟨e, he⟩
        cases hs.symm.trans he
      · rintro (hwhy | hwhy | hwhy)
        · exact absurd hwhy h.not_turnedDown
        · exact absurd hwhy h.not_tooLarge
        · exact absurd htaken hwhy
    · constructor
      · rintro ⟨constructed, hconstructed, hright⟩
        cases hs.symm.trans hconstructed
        have hn : lists true (GetChildren t value).1 (GetChildren t value).2
            (depth (GetChildren t value).1) = [] := by
          by_contra hn
          exact h.not_rightArray ht hn hok hright
        exact ⟨hn, h.not_tooLarge, (h.rightArray_iff ht rfl hn).1 hright, htaken⟩
      · rintro ⟨hn, -, hroom, -⟩
        exact ⟨_, hs, (h.rightArray_iff ht rfl hn).2 hroom⟩
  · rw [hmade] at hs
    refine and_congr (imp_congr_right fun hdown => ?_) (imp_congr_right fun hok => ?_)
    · exact ⟨fun _ => .inr (.inr htaken), fun _ => ⟨e, hs⟩⟩
    · constructor
      · rintro ⟨constructed, hconstructed, -⟩
        cases hs.symm.trans hconstructed
      · rintro ⟨-, -, -, h⟩
        exact absurd h htaken

/-- A list has a length at its own level. -/
theorem levelLengths_ne_nil {t : LogicalType} {value : Value α t} (ht : t ≠ .LEAF) : levelLengths t value ≠ [] := by
  refine List.ne_nil_of_length_pos ?_
  rw [levelLengths, List.length_map, List.length_range]
  cases t with
  | LEAF => exact absurd rfl ht
  | LIST child => exact Nat.succ_pos _
  | ARRAY child size => exact Nat.succ_pos _

/-- Postgres keeps the lengths of a right array if and only if no level is empty. -/
theorem Constructs.keepsLevels_iff {t : LogicalType} {value : Value α t}
    (h : Constructs nbytes ConvertToPostgres t value) : KeepsLevels nbytes ConvertToPostgres t value ↔
      (¬TurnedDown ConvertToPostgres true (GetChildren t value).1 (GetChildren t value).2 →
        0 ∉ levelLengths t value) := by
  refine forall_congr' fun hok => ?_
  have ht : t ≠ .LEAF := by
    rintro rfl
    exact hok (.inl (.inl ⟨0, List.mem_singleton_self _⟩))
  obtain ⟨constructed, hconstructed, hright⟩ := h.2 hok
  constructor
  · intro hkeeps hzero
    have hdims := hkeeps constructed hconstructed
    rw [hright.kept, if_pos hzero] at hdims
    exact levelLengths_ne_nil ht (List.map_eq_nil_iff.1 hdims.symm)
  · intro hzero other hother
    cases hconstructed.symm.trans hother
    rw [hright.kept, if_neg hzero, hright.dims]

variable (nbytes ConvertToPostgres) in
/-- What is constructed is right if and only if it can be, as Postgres has arrays. For the array to have a dimension
for every level too, moreover no level may be empty. -/
theorem ConvertDuckToPostgresArray_constructs_iff (t : LogicalType) (value : Value α t) :
    (Constructs nbytes ConvertToPostgres t value ↔ Constructible nbytes ConvertToPostgres t value) ∧
    (Constructs nbytes ConvertToPostgres t value ∧ KeepsLevels nbytes ConvertToPostgres t value ↔
      Constructible nbytes ConvertToPostgres t value ∧
        (¬TurnedDown ConvertToPostgres true (GetChildren t value).1 (GetChildren t value).2 →
          0 ∉ levelLengths t value)) := by
  refine ⟨constructs_iff t value, ?_⟩
  rw [← constructs_iff t value]
  exact and_congr_right Constructs.keepsLevels_iff

end

/-- The conversion to numbers. It does not take arrays. -/
def toNumber : (t : LogicalType) → Value ℕ t → Except String ℕ
  | .LEAF, v => (Option.map Except.ok v).getD (.error "NULL")
  | .LIST _, _ => .error "Unimplemented type for cast"
  | .ARRAY _ _, _ => .error "Unimplemented type for cast"

/-- What an array of numbers takes: its header, a bitmap where something is NULL, and eight bytes an element. -/
def numberBytes (dims : List ℤ) (elements : List (Option ℕ)) : ℕ :=
  let bitmap := if elements.all Option.isSome then 0 else (elements.length + 7) / 8
  (16 + 8 * dims.length + bitmap + 7) / 8 * 8 + 8 * (elements.filter Option.isSome).length

/-- `[[1, 2]]` as a list of arrays of two. -/
def oneArray : Value ℕ (.LIST (.ARRAY .LEAF 2)) :=
  some [some ⟨[some 1, some 2], rfl⟩]

/-- It is no array of one list of two: the inner array is converted as a number would be. -/
theorem oneArray_not_constructed : ¬Constructs numberBytes toNumber _ oneArray := by
  rintro ⟨-, h⟩
  have hlengths : ∀ level x, x ∈ lists true (GetChildren _ oneArray).1 (GetChildren _ oneArray).2 level →
      x = some (level + 1) := by
    intro level x hx
    match level with
    | 0 => exact List.mem_singleton.1 hx
    | 1 => exact List.mem_singleton.1 hx
    | _ + 2 => cases hx
  have hok : ¬TurnedDown toNumber true (GetChildren _ oneArray).1 (GetChildren _ oneArray).2 := by
    rintro ((⟨level, hnull⟩ | ⟨level, m, n, hm, hn, hne⟩) | ⟨text, ht⟩)
    · cases hlengths _ _ hnull
    · have hm := hlengths _ _ hm
      rw [← hlengths _ _ hn] at hm
      exact hne (Option.some.inj hm)
    · have ht : some (.error text) ∈ [some (Except.ok 1), some (Except.ok 2)] := ht
      simp at ht
  obtain ⟨constructed, hconstructed, -⟩ := h hok
  have herr : ConvertDuckToPostgresArray toNumber numberBytes _ oneArray =
      .error (.Conversion "Unimplemented type for cast") := rfl
  cases herr.symm.trans hconstructed

end PgDuckdb.Arrays
