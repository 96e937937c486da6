import PgDuckdb.Arrays.Construct
import PgDuckdb.Chunks.ReadBack

/-!
# Arrays there and back

A column of arrays is read into a vector of lists, and the lists of a result are made arrays again. An array whose
row is read rightly is made again with the same dimensions and the same elements in order, as far as each element
comes back, if it has no more than 11585 elements: what is allocated for them is the square of their number. The type
may have no more levels than an array has dimensions, which is checked even for an empty array. Its lower bounds are
lost.
-/

namespace PgDuckdb.Arrays

open Lib Chunks

/-! ## The rows of a vector -/

section
variable {Elem α β : Type} {depth n : ℕ} {L : LeafType α β} {ConvertElement : Elem → Except String α}

/-- The value of a row that was written: NULL, or the nested list of the array. -/
def Stored (L : LeafType α β) (ConvertElement : Elem → Except String α) (depth : ℕ) :
    Option (ArrayType Elem) → Nested β (depth + 1) → Prop
  | none, value => value = (none : Option _)
  | some array, value => (array.dims = [] ∨ array.dims.length = depth + 1) ∧
    ∃ leaves, convertAll ConvertElement array.elems = .ok leaves ∧
    value = rowMajor (depth + 1) array.dims (L.elements leaves)

/-- A row that is written reads as it did. -/
theorem insertRow_stored {s s' : NestedVector β (depth + 1) × ℕ} {row : Option (ArrayType Elem)}
    (hf : s.1.Filled s.2) (hm : Meets L ConvertElement s row) (h : insertRow L ConvertElement s row = some s') :
    s'.2 = s.2 + 1 ∧ (∃ value, s'.1.read s.2 = some value ∧ Stored L ConvertElement depth row value) ∧
      ∀ k : ℕ, k ≠ s.2 → s'.1.read k = s.1.read k := by
  have hread := (readsRow_iff hf).2 hm
  cases row with
  | none =>
    obtain ⟨hnull, hothers⟩ := hread s' h
    cases h
    exact ⟨rfl, ⟨_, hnull, rfl⟩, hothers⟩
  | some array =>
    obtain ⟨hc, ho⟩ := insertRow_array h
    have hread : ReadsArray L ConvertElement s.1 s.2 array := hread
    unfold ReadsArray at hread
    rw [hc] at hread
    refine ⟨ho, ?_⟩
    split at hread
    next =>
      obtain ⟨e, he⟩ := hread
      cases he
    next hmatch =>
      have hdims : array.dims = [] ∨ array.dims.length = depth + 1 := or_iff_not_and_not.2 hmatch
      cases hall : convertAll ConvertElement array.elems with
      | error text =>
        rw [hall] at hread
        obtain ⟨e, he⟩ := hread
        cases he
      | ok leaves =>
        rw [hall] at hread
        obtain ⟨result, hresult, hback⟩ := hread
        cases hresult
        exact ⟨⟨_, hback.value, hdims, leaves, hall, rfl⟩, hback.others⟩

/-- Each row of a run is there at the end of it. -/
theorem rows_stored {rows : List (Option (ArrayType Elem))} {s s' : NestedVector β (depth + 1) × ℕ}
    (h : AllowedRun (insertRow L ConvertElement) (Meets L ConvertElement) s rows) (hf : s.1.Filled s.2)
    (hrun : rows.foldlM (insertRow L ConvertElement) s = some s') :
    (∀ k < s.2, s'.1.read k = s.1.read k) ∧
      ∀ k row, rows[k]? = some row →
        ∃ value, s'.1.read (s.2 + k : ℕ) = some value ∧ Stored L ConvertElement depth row value := by
  induction rows generalizing s with
  | nil =>
    cases hrun
    exact ⟨fun _ _ => rfl, fun k row hk => by cases hk⟩
  | cons row rows ih =>
    rw [List.foldlM_cons] at hrun
    cases hi : insertRow L ConvertElement s row with
    | none =>
      rw [hi] at hrun
      cases hrun
    | some s₁ =>
      rw [hi] at hrun
      obtain ⟨hn, ⟨value, hvalue, hstored⟩, hothers⟩ := insertRow_stored hf h.1 hi
      obtain ⟨hbefore, hlater⟩ := ih (h.2 s₁ hi) (insertRow_filled hf h.1 hi) hrun
      rw [hn] at hbefore hlater
      refine ⟨fun k hk => (hbefore k (by omega)).trans (hothers k (by omega)), fun k x hk => ?_⟩
      cases k with
      | zero =>
        cases hk
        exact ⟨value, (hbefore s.2 (Nat.lt_succ_self _)).trans hvalue, hstored⟩
      | succ k =>
        have hk' : s.2 + (k + 1) = s.2 + 1 + k := by omega
        exact hk' ▸ hlater k x hk

end

/-! ## The lists of a row -/

/-- So many lists around a type that is none. -/
abbrev nested : ℕ → LogicalType
  | 0 => .LEAF
  | depth + 1 => .LIST (nested depth)

/-- The levels of a list in `depth` levels. -/
theorem levels_nested (depth : ℕ) : levels (nested depth) = depth := by
  induction depth with
  | zero => rfl
  | succ depth ih => exact congrArg (· + 1) ih

section
variable {Elem α β Datum : Type} {depth p : ℕ} {d : ℕ} {dims : List ℕ} {xs : List (Option β)}
variable {ConvertToPostgres : (t : LogicalType) → Value β t → Except String Datum}

/-- The value that is taken out of the vector. -/
def GetValue : (depth : ℕ) → Nested β depth → Value β (nested depth)
  | 0, value => value
  | depth + 1, value => Option.map (List.map (GetValue depth)) value

/-- What is in the outermost list of an array of such dimensions. -/
def childrenOf (depth : ℕ) (dims : List ℕ) (xs : List (Option β)) : Children β (nested depth) :=
  Value.listChildren (GetValue (depth + 1) (rowMajor (depth + 1) dims xs))

/-- The elements of the `i`-th list. -/
def slice (dims : List ℕ) (xs : List (Option β)) (i : ℕ) : List (Option β) :=
  (xs.drop (i * dims.prod)).take dims.prod

/-- The children of an array with a dimension. -/
theorem childrenOf_cons : childrenOf depth (d :: dims) xs =
    some ((List.range d).map fun i => GetValue depth (rowMajor depth dims (slice dims xs i))) := by
  show some (List.map (GetValue depth) ((List.range d).map fun i => rowMajor depth dims (slice dims xs i))) = _
  rw [List.map_map]
  rfl

/-- The children of a child. -/
theorem childrenOf_child (i : ℕ) :
    Value.listChildren (GetValue (depth + 1) (rowMajor (depth + 1) dims (slice dims xs i))) =
      childrenOf depth dims (slice dims xs i) := rfl

/-- A slice has as many leaves as the dimensions below it multiply to. -/
theorem length_slice {i : ℕ} (hlen : xs.length = d * dims.prod) (hi : i < d) :
    (slice dims xs i).length = dims.prod := by
  have hle : (i + 1) * dims.prod ≤ xs.length := hlen ▸ Nat.mul_le_mul_right _ hi
  rw [Nat.succ_mul] at hle
  rw [slice, List.length_take, List.length_drop]
  omega

/-- The slices of an array, joined. -/
theorem flatMap_slice : (List.range d).flatMap (slice dims xs) = xs.take (d * dims.prod) := by
  induction d with
  | zero => rw [List.range_zero, List.flatMap_nil, Nat.zero_mul, List.take_zero]
  | succ d ih =>
    rw [List.range_succ, List.flatMap_append, ih, List.flatMap_singleton, slice, Nat.succ_mul, List.take_add]

/-- The conversion of an element that is not NULL. -/
def convertLeaf (ConvertToPostgres : (t : LogicalType) → Value β t → Except String Datum) (x : β) :
    Except String Datum :=
  ConvertToPostgres .LEAF (some x)

/-- A leaf is the value, converted. -/
theorem leaf_eq (x : Option β) : leaf ConvertToPostgres .LEAF x = x.map (convertLeaf ConvertToPostgres) := by
  cases x <;> rfl

/-- The type without levels is the last one. -/
theorem last_nested_zero : Last (nested 0) := last_leaf

/-- As many as were asked for. -/
theorem length_lists {β : Type} (d : ℕ) (f : ℕ → β) : ((List.range d).map f).length = d := by
  rw [List.length_map, List.length_range]

/-- The leaves of one list. -/
theorem map_slice (hlen : xs.length = d) : (List.range d).map (fun i => (slice [] xs i).head?.join) = xs := by
  refine List.ext_getElem? fun i => ?_
  rw [List.getElem?_map]
  rcases Nat.lt_or_ge i d with hi | hi
  · have hget : xs[i]? = some xs[i] := List.getElem?_eq_getElem (hlen ▸ hi)
    rw [List.getElem?_range hi, Option.map_some, slice, List.prod_nil, Nat.mul_one, List.take_one, List.head?_drop,
      hget]
    rfl
  · rw [List.getElem?_eq_none (hlen.trans_le hi), List.getElem?_eq_none (List.length_range.trans_le hi),
      Option.map_none]

/-- The children agree with the dimensions. -/
theorem childrenOf_agrees (hl : dims.length = depth + 1) (hlen : xs.length = dims.prod) :
    Agrees (nested depth) (childrenOf depth dims xs) dims := by
  induction depth generalizing dims xs with
  | zero =>
    obtain ⟨d, rfl⟩ := List.length_eq_one_iff.1 hl
    rw [childrenOf_cons]
    refine (agrees_last last_nested_zero).2 ?_
    rw [List.length_map, List.length_range]
    rfl
  | succ depth ih =>
    obtain ⟨d, dims, rfl⟩ := List.exists_cons_of_length_eq_add_one hl
    rw [childrenOf_cons]
    refine agrees_list.2 ⟨?_, fun v hv => ?_⟩
    · exact congrArg some (length_lists d _).symm
    · obtain ⟨i, hi, rfl⟩ := List.mem_map.1 hv
      rw [List.prod_cons] at hlen
      exact ih (Nat.succ.inj hl) (length_slice hlen (List.mem_range.1 hi))

/-- The leaves of the children are those of the array. -/
theorem childrenOf_leaves (hl : dims.length = depth + 1) (hlen : xs.length = dims.prod) :
    leaves ConvertToPostgres false (nested depth) (childrenOf depth dims xs) =
      xs.map (Option.map (convertLeaf ConvertToPostgres)) := by
  induction depth generalizing dims xs with
  | zero =>
    obtain ⟨d, rfl⟩ := List.length_eq_one_iff.1 hl
    rw [List.prod_singleton] at hlen
    rw [childrenOf_cons, leaves_last _ last_nested_zero]
    refine (List.map_congr_left fun x _ => leaf_eq x).trans ?_
    exact congrArg (List.map (Option.map (convertLeaf ConvertToPostgres))) (map_slice hlen)
  | succ depth ih =>
    obtain ⟨d, dims, rfl⟩ := List.exists_cons_of_length_eq_add_one hl
    rw [List.prod_cons] at hlen
    have hslices : ∀ i ∈ List.range d, leaves ConvertToPostgres false (nested depth)
        (childrenOf depth dims (slice dims xs i)) =
          (slice dims xs i).map (Option.map (convertLeaf ConvertToPostgres)) :=
      fun i hi => ih (Nat.succ.inj hl) (length_slice hlen (List.mem_range.1 hi))
    rw [childrenOf_cons]
    show (List.map _ (List.range d)).flatMap _ = _
    rw [List.flatMap_map]
    calc _ = (List.range d).flatMap fun i => (slice dims xs i).map (Option.map (convertLeaf ConvertToPostgres)) :=
          List.flatMap_congr hslices
      _ = xs.map (Option.map (convertLeaf ConvertToPostgres)) := by
          rw [← List.map_flatMap, flatMap_slice, List.take_of_length_le (Nat.le_of_eq hlen)]

/-- Arrays of Postgres are not so long that a multiplication would overflow. -/
theorem descend_small {below : DescentEnd × List ℕ} (hp : 0 < p) (hle : p * d ≤ MaxArraySize) :
    descend p d below = (below.1, d :: below.2) := by
  have hd : ¬d > PG_INT32_MAX := by
    have hle' : d ≤ p * d := Nat.le_mul_of_pos_left d hp
    unfold MaxArraySize at hle
    unfold PG_INT32_MAX
    omega
  have ho : ¬Overflows p d := by
    have hsq : p ^ 2 * d * d = (p * d) ^ 2 := by ring
    have hbound : (p * d) ^ 2 ≤ MaxArraySize ^ 2 := Nat.pow_le_pow_left hle 2
    have hmod : p ^ 2 * d % 2 ^ 64 * d ≤ p ^ 2 * d * d := Nat.mul_le_mul_right d (Nat.mod_le _ _)
    exact Nat.not_le.2 (Nat.lt_of_le_of_lt (hmod.trans (hsq ▸ hbound)) (by decide))
  rw [descend, if_neg hd, if_neg ho]

/-- The first descent sees all the dimensions. -/
theorem childrenOf_descent (hl : dims.length = depth + 1) (hpos : ∀ d ∈ dims, 0 < d) (hp : 0 < p)
    (hle : p * dims.prod ≤ MaxArraySize) :
    descent (nested depth) p (childrenOf depth dims xs) = (.leaves, dims) := by
  induction depth generalizing dims xs p with
  | zero =>
    obtain ⟨d, rfl⟩ := List.length_eq_one_iff.1 hl
    rw [List.prod_singleton] at hle
    rw [childrenOf_cons, descent_last last_nested_zero, length_lists, descend_small hp hle]
  | succ depth ih =>
    obtain ⟨d, dims, rfl⟩ := List.exists_cons_of_length_eq_add_one hl
    obtain ⟨d', rfl⟩ := Nat.exists_eq_succ_of_ne_zero (hpos d List.mem_cons_self).ne'
    have hpos' : ∀ m ∈ dims, 0 < m := fun m hm => hpos m (List.mem_cons_of_mem _ hm)
    rw [List.prod_cons, ← Nat.mul_assoc] at hle
    have hle' : p * (d' + 1) ≤ MaxArraySize :=
      (Nat.le_mul_of_pos_right _ (List.prod_pos hpos')).trans hle
    have hbelow := @ih (p * (d' + 1)) dims (slice dims xs 0) (Nat.succ.inj hl) hpos'
      (Nat.mul_pos hp (Nat.succ_pos d')) hle
    rw [childrenOf_cons, List.range_succ_eq_map, List.map_cons]
    refine (descent_cons (c := nested depth)).trans ?_
    rw [List.length_cons, List.length_map, List.length_map, List.length_range]
    refine (descend_small hp hle').trans ?_
    rw [childrenOf_child, hbelow]

/-! ## The array that is made of them -/

/-- What an element becomes on its way there and back. -/
def thereAndBack (L : LeafType α β) (ConvertElement : Elem → Except String α)
    (ConvertToPostgres : (t : LogicalType) → Value β t → Except String Datum) (elem : Elem) : Except String Datum :=
  ConvertElement elem >>= fun value => convertLeaf ConvertToPostgres (L.element value)

/-- The array has the dimensions that it had and the elements in order, which there was room for. -/
structure Restored (L : LeafType α β) (ConvertElement : Elem → Except String α)
    (ConvertToPostgres : (t : LogicalType) → Value β t → Except String Datum) (array : ArrayType Elem)
    (constructed : Constructed Datum) : Prop where
  dims : constructed.array.dims = array.dims.map fun d : ℕ => (d : ℤ)
  elements : array.elems.map (Option.map (thereAndBack L ConvertElement ConvertToPostgres)) =
    constructed.array.elements.map (Option.map .ok)
  room : constructed.args.values.length ≤ constructed.args.requested.getD 0

variable {L : LeafType α β} {ConvertElement : Elem → Except String α} {values : List (Option α)}
variable {nbytes : List ℤ → List (Option Datum) → ℕ}

/-- What the walk meets are the elements on their way. -/
theorem thereAndBack_leaves {elems : List (Option Elem)} (h : convertAll ConvertElement elems = .ok values) :
    (L.elements values).map (Option.map (convertLeaf ConvertToPostgres)) =
      elems.map (Option.map (thereAndBack L ConvertElement ConvertToPostgres)) := by
  induction elems generalizing values with
  | nil =>
    cases h
    rfl
  | cons elem elems ih =>
    obtain ⟨leaf, rest, he, hr, rfl⟩ := convertAll_cons h
    rw [LeafType.elements, List.map_cons, List.map_cons, List.map_cons, ← LeafType.elements, ih hr]
    congr 1
    cases elem with
    | none =>
      cases he
      rfl
    | some elem =>
      obtain ⟨x, hx, rfl⟩ := map_eq_ok.1 he
      rw [Option.map_some, Option.map_some, Option.map_some, thereAndBack, hx]
      rfl

/-- Eight bytes times the square of their number can be allocated. -/
def mostElements : ℕ := 11585

/-- The square of a length that is allowed fits a word. -/
theorem sq_lt {n : ℕ} (hn : n ≤ MaxArraySize) : n ^ 2 < 2 ^ 64 :=
  Nat.lt_of_le_of_lt (Nat.pow_le_pow_left hn 2) (by decide)

/-- The memory of a square is allowed just up to the most elements there are. -/
theorem fits_square {n : ℕ} (hn : n ≤ MaxArraySize) : Fits (n ^ 2 % 2 ^ 64) ↔ n ≤ mostElements := by
  have hmul : n ^ 2 * 8 < 2 ^ 64 :=
    Nat.lt_of_le_of_lt (Nat.mul_le_mul_right 8 (Nat.pow_le_pow_left hn 2)) (by decide)
  rw [Nat.mod_eq_of_lt (sq_lt hn), Fits, Nat.mod_eq_of_lt hmul]
  constructor
  · rintro ⟨h, -⟩
    by_contra hgt
    have hsq : (mostElements + 1) ^ 2 ≤ n ^ 2 := Nat.pow_le_pow_left (Nat.not_le.1 hgt) 2
    have hgt : MaxAllocSize < (mostElements + 1) ^ 2 * 8 := by decide
    omega
  · intro h
    have hsq : n ^ 2 ≤ mostElements ^ 2 := Nat.pow_le_pow_left h 2
    have hle : mostElements ^ 2 * 8 ≤ MaxAllocSize := by decide
    omega

section
variable {value : Value β (nested (depth + 1))} {ds : List ℕ} {e : DescentEnd}
variable {ys : List (Option (Except String Datum))}

variable (nbytes) in
/-- What is made of a value whose lists agree, and with which arguments. -/
theorem convert_of_agrees (hag : Agrees (nested depth) value.listChildren ds)
    (hdesc : descent (nested depth) 1 value.listChildren = (e, ds))
    (hleaves : leaves ConvertToPostgres false (nested depth) value.listChildren = ys) :
    ((∃ text, some (.error text) ∈ ys) ∨ TooLarge (e, ds) ∨
        ¬Taken nbytes ConvertToPostgres (nested (depth + 1)) value) ∧
      (∃ err, ConvertDuckToPostgresArray ConvertToPostgres nbytes (nested (depth + 1)) value = .error err) ∨
    (¬TooLarge (e, ds) ∧ Taken nbytes ConvertToPostgres (nested (depth + 1)) value) ∧
      ∃ args, ConvertDuckToPostgresArray ConvertToPostgres nbytes (nested (depth + 1)) value =
        .ok ⟨args, args.made (shape (nested (depth + 1)) (e, ds))⟩ ∧
      args.dims = (shape (nested (depth + 1)) (e, ds)).map (fun d : ℕ => (d : ℤ)) ∧
      ys = args.values.map (Option.map .ok) ∧ args.values.length = ds.prod ∧
      (args.values.length ≤ args.requested.getD 0 ↔ ¬Overruns (e, ds)) := by
  have hne : nested (depth + 1) ≠ .LEAF := by
    intro h
    cases h
  rcases @convert_cases _ _ ConvertToPostgres nbytes (nested (depth + 1)) value hne with
    ⟨err, herr, hwhy⟩ | ⟨s, hs, hr⟩
  · refine .inl ⟨?_, err, herr⟩
    have hwhy : TurnedDown ConvertToPostgres false (nested depth) value.listChildren ∨
        TooLarge (descent (nested depth) 1 value.listChildren) := hwhy
    rw [hdesc] at hwhy
    rcases hwhy with (hirr | hunc) | hlarge
    · exact absurd hirr (not_irregular_iff.2 ⟨ds, hag⟩)
    · exact .inl (hleaves ▸ hunc)
    · exact .inr (.inl hlarge)
  have hmade := hr.constructed nbytes hne rfl
  have hr : FirstReturned ConvertToPostgres (GetDuckDBListDimensionality (nested (depth + 1)) 0) [] (nested depth)
      value.listChildren (descent (nested depth) 1 value.listChildren)
      (.new (GetDuckDBListDimensionality (nested (depth + 1)) 0)) s := hr
  have hroom := hr.room_iff rfl
  have hlen := hr.length_values rfl
  have hlarge := hr.not_tooLarge
  have hknown := hr.known
  obtain ⟨els, hels, hv⟩ := hr.wrote
  change Taken nbytes ConvertToPostgres (nested (depth + 1)) value ∧ construct_md_array nbytes _ =
    .ok (ArrayArgs.made _ (shape (nested (depth + 1)) (descent (nested depth) 1 value.listChildren))) ∨ _ at hmade
  rw [hdesc] at hroom hlen hlarge hknown hmade
  rw [hleaves] at hels
  rcases hmade with ⟨htaken, hmade⟩ | ⟨htaken, err, hmade⟩
  · rw [hmade] at hs
    refine .inr ⟨⟨hlarge, htaken⟩, _, hs, arrayOf_dims hknown, ?_, hlen, hroom⟩
    rw [hels]
    exact congrArg _ hv.symm
  · rw [hmade] at hs
    exact .inl ⟨.inr (.inr htaken), err, hs⟩

end

/-- An array without elements is a list without lists. -/
theorem childrenOf_empty : Agrees (nested depth) (childrenOf depth [] xs) [0] ∧
    (∃ e, descent (nested depth) 1 (childrenOf depth [] xs) = (e, [0]) ∧ ¬TooLarge (e, [0]) ∧ ¬Overruns (e, [0])) ∧
    leaves ConvertToPostgres false (nested depth) (childrenOf depth [] xs) = [] := by
  cases depth with
  | zero =>
    refine ⟨(agrees_last last_nested_zero).2 rfl, ⟨.leaves, ?_, ?_, ?_⟩, rfl⟩
    · exact (descent_last last_nested_zero _).trans (descend_small Nat.one_pos (Nat.zero_le _))
    · exact not_not_intro ⟨Nat.zero_le _, Nat.zero_le _⟩
    · exact Nat.lt_irrefl 0
  | succ depth =>
    refine ⟨agrees_list.2 ⟨rfl, fun v hv => absurd hv List.not_mem_nil⟩, ⟨.empty, ?_, id, id⟩, rfl⟩
    exact descend_small Nat.one_pos (Nat.zero_le _)

/-- The elements of an array that is made of such arguments. -/
theorem elements_made {args : ArrayArgs Datum} {ds : List ℕ} (hdims : args.dims = ds.map fun d : ℕ => (d : ℤ))
    (hlen : args.values.length = ds.prod) : (args.made ds).elements = args.values := by
  have hcast : (ds.map fun d : ℕ => (d : ℤ)).prod = ds.prod := (Nat.cast_list_prod ds).symm
  rw [ArrayArgs.made]
  by_cases hzero : ds.prod = 0
  · rw [if_pos hzero, List.eq_nil_of_length_eq_zero (hlen.trans hzero)]
  · rw [if_neg hzero]
    show args.values.take args.dims.prod.toNat = args.values
    rw [hdims, hcast, Int.toNat_natCast, ← hlen, List.take_length]

/-- An element that does not come back is one that the walk meets. -/
theorem error_mem_iff {elems : List (Option Elem)} :
    (∃ text, some (.error text) ∈ elems.map (Option.map (thereAndBack L ConvertElement ConvertToPostgres))) ↔
      ¬∀ elem, some elem ∈ elems → ∃ datum, thereAndBack L ConvertElement ConvertToPostgres elem = .ok datum := by
  constructor
  · rintro ⟨text, ht⟩ hall
    obtain ⟨x, hx, hxt⟩ := List.mem_map.1 ht
    obtain ⟨elem, rfl, he⟩ := Option.map_eq_some_iff.1 hxt
    obtain ⟨datum, hd⟩ := hall elem hx
    cases he.symm.trans hd
  · intro h
    by_contra hno
    refine h fun elem helem => ?_
    cases he : thereAndBack L ConvertElement ConvertToPostgres elem with
    | ok datum => exact ⟨datum, rfl⟩
    | error text => exact absurd ⟨text, List.mem_map.2 ⟨some elem, helem, congrArg some he⟩⟩ hno

/-- A value without errors gives none. -/
theorem no_error_of_map {els : List (Option Datum)} (text : String) :
    some (.error text) ∉ els.map (Option.map (Except.ok (ε := String))) := by
  intro h
  obtain ⟨x, -, hx⟩ := List.mem_map.1 h
  cases x <;> cases hx

/-- The lengths that the walk finds in the list of an array. -/
def dimsOf (array : ArrayType Elem) : List ℕ :=
  if array.dims = [] then [0] else array.dims

/-- The dimensions that the list of an array has. -/
theorem shape_dimsOf {array : ArrayType Elem} (hmatch : array.dims = [] ∨ array.dims.length = depth + 1)
    (e : DescentEnd) : shape (nested (depth + 1)) (e, dimsOf array) =
      if array.dims = [] then List.replicate (depth + 1) 0 else array.dims := by
  rw [shape, dimsOf, levels_nested]
  split
  next => exact List.replicate_succ.symm
  next hd => rw [hmatch.resolve_left hd, Nat.sub_self, List.replicate_zero, List.append_nil]

/-- The dimensions of an array multiply to its elements. -/
theorem prod_dimsOf {array : ArrayType Elem} : (dimsOf array).prod = array.elems.length := by
  rw [dimsOf, array.nelems]
  split <;> rfl

/-- The dimensions of an array can be stored, and the type may have no more levels. -/
theorem storable_iff {array : ArrayType Elem} (hmatch : array.dims = [] ∨ array.dims.length = depth + 1) :
    Storable (if array.dims = [] then List.replicate (depth + 1) 0 else array.dims) ↔ depth + 1 ≤ MAXDIM := by
  split
  next =>
    refine ⟨fun h => List.length_replicate.symm.trans_le h.ndims, fun h => ?_⟩
    refine ⟨List.length_replicate.trans_le h, fun k => ?_, ?_, fun d hd => ?_⟩
    · rw [List.take_replicate, List.prod_replicate]
      exact (pow_le_one₀ (Nat.zero_le 0) (Nat.zero_le 1)).trans (by decide)
    · rw [List.prod_replicate, zero_pow (Nat.succ_ne_zero depth)]
      exact Nat.zero_le _
    · rw [List.eq_of_mem_replicate hd]
      decide
  next hd =>
    have hl := hmatch.resolve_left hd
    have hmax : array.dims.prod ≤ MaxArraySize := by
      have hnelems := array.nelems
      rw [if_neg hd] at hnelems
      exact hnelems ▸ array.le
    have hint : MaxArraySize < PG_INT32_MAX := by decide
    have hfirst : ∀ k, (array.dims.take k).prod ≤ array.dims.prod := by
      intro k
      rw [← List.prod_take_mul_prod_drop array.dims k]
      exact Nat.le_mul_of_pos_right _ (List.prod_pos fun d hd => array.pos d (List.mem_of_mem_drop hd))
    refine ⟨fun h => hl ▸ h.ndims, fun h => ⟨hl ▸ h, fun k => ?_, hmax, fun d hd => ?_⟩⟩
    · exact ((hfirst k).trans hmax).trans hint.le
    · have hle : d ≤ array.dims.prod := Nat.le_of_dvd (List.prod_pos array.pos) (List.dvd_prod hd)
      exact (hle.trans hmax).trans_lt hint

/-- What the walk finds in the list of an array. -/
theorem rowMajor_walked {array : ArrayType Elem} (hmatch : array.dims = [] ∨ array.dims.length = depth + 1)
    (hall : convertAll ConvertElement array.elems = .ok values) :
    Agrees (nested depth) (childrenOf depth array.dims (L.elements values)) (dimsOf array) ∧
    (∃ e, descent (nested depth) 1 (childrenOf depth array.dims (L.elements values)) = (e, dimsOf array) ∧
      (TooLarge (e, dimsOf array) ↔ ¬array.elems.length ≤ mostElements) ∧
      ¬Overruns (e, dimsOf array)) ∧
    leaves ConvertToPostgres false (nested depth) (childrenOf depth array.dims (L.elements values)) =
      array.elems.map (Option.map (thereAndBack L ConvertElement ConvertToPostgres)) := by
  have hnelems := array.nelems
  have hlen : (L.elements values).length = array.elems.length :=
    LeafType.length_elements.trans (convertAll_length hall)
  unfold dimsOf
  split
  next hd =>
    rw [hd, if_pos rfl] at hnelems
    obtain ⟨hag, ⟨e, hdesc, hlarge, hover⟩, hleaves⟩ :=
      @childrenOf_empty _ _ depth (L.elements values) ConvertToPostgres
    rw [hd, hleaves, List.eq_nil_of_length_eq_zero hnelems]
    exact ⟨hag, ⟨e, hdesc, iff_of_false hlarge (not_not_intro (Nat.zero_le _)), hover⟩, rfl⟩
  next hd =>
    rw [if_neg hd] at hnelems
    have hl := hmatch.resolve_left hd
    have hmax : array.dims.prod ≤ MaxArraySize := hnelems ▸ array.le
    have hxs : (L.elements values).length = array.dims.prod := hlen.trans hnelems
    have hdesc := @childrenOf_descent _ depth 1 array.dims (L.elements values) hl array.pos Nat.one_pos (by rwa [Nat.one_mul])
    refine ⟨childrenOf_agrees hl hxs, ⟨.leaves, hdesc, ?_, ?_⟩, ?_⟩
    · rw [hnelems]
      exact not_congr (fits_square hmax)
    · show ¬array.dims.prod ^ 2 % 2 ^ 64 < array.dims.prod
      rw [Nat.mod_eq_of_lt (sq_lt hmax), sq]
      exact Nat.not_lt.2 (Nat.le_mul_self _)
    · rw [childrenOf_leaves hl hxs, thereAndBack_leaves hall]

/-- The elements come back and there are not too many of them. The type has no more levels than an array has
dimensions, and there is room for the elements that came back. -/
structure Restorable (nbytes : List ℤ → List (Option Datum) → ℕ) (L : LeafType α β)
    (ConvertElement : Elem → Except String α)
    (ConvertToPostgres : (t : LogicalType) → Value β t → Except String Datum) (depth : ℕ)
    (array : ArrayType Elem) : Prop where
  back : ∀ elem, some elem ∈ array.elems →
    ∃ datum, thereAndBack L ConvertElement ConvertToPostgres elem = .ok datum
  most : array.elems.length ≤ mostElements
  levels : depth + 1 ≤ MAXDIM
  bytes : array.dims ≠ [] → ∀ elements, array.elems.map (Option.map
      (thereAndBack L ConvertElement ConvertToPostgres)) = elements.map (Option.map .ok) →
    nbytes (array.dims.map fun d : ℕ => (d : ℤ)) elements ≤ MaxAllocSize

variable (nbytes) in
/-- Postgres takes the array that was read. -/
theorem taken_iff {array : ArrayType Elem} {value : Value β (nested (depth + 1))}
    (hmatch : array.dims = [] ∨ array.dims.length = depth + 1) {e : DescentEnd}
    (hdesc : descent (nested depth) 1 value.listChildren = (e, dimsOf array))
    (hleaves : leaves ConvertToPostgres false (nested depth) value.listChildren =
      array.elems.map (Option.map (thereAndBack L ConvertElement ConvertToPostgres))) :
    Taken nbytes ConvertToPostgres (nested (depth + 1)) value ↔ depth + 1 ≤ MAXDIM ∧
      (array.dims ≠ [] → ∀ elements, array.elems.map (Option.map
        (thereAndBack L ConvertElement ConvertToPostgres)) = elements.map (Option.map .ok) →
      nbytes (array.dims.map fun d : ℕ => (d : ℤ)) elements ≤ MaxAllocSize) := by
  change (let dims := shape (nested (depth + 1)) (descent (nested depth) 1 value.listChildren)
    Storable dims ∧ (dims.prod ≠ 0 → ∀ elements, leaves ConvertToPostgres false (nested depth) value.listChildren =
      elements.map (Option.map .ok) → nbytes (dims.map fun d : ℕ => (d : ℤ)) elements ≤ MaxAllocSize)) ↔ _
  rw [hdesc, hleaves, shape_dimsOf hmatch]
  refine and_congr (storable_iff hmatch) ?_
  by_cases hd : array.dims = []
  · rw [if_pos hd, List.prod_replicate, zero_pow (Nat.succ_ne_zero depth)]
    exact iff_of_true (fun h => absurd rfl h) fun h => absurd hd h
  · rw [if_neg hd]
    exact imp_congr (iff_of_true (List.prod_pos array.pos).ne' hd) Iff.rfl

/-- The array of a row is made again if and only if it can be. -/
theorem array_restored_iff {array : ArrayType Elem} {value : Nested β (depth + 1)}
    (h : Stored L ConvertElement depth (some array) value) :
    (∃ constructed, ConvertDuckToPostgresArray ConvertToPostgres nbytes (nested (depth + 1))
        (GetValue (depth + 1) value) = .ok constructed ∧
      Restored L ConvertElement ConvertToPostgres array constructed) ↔
      Restorable nbytes L ConvertElement ConvertToPostgres depth array := by
  obtain ⟨hmatch, values, hall, rfl⟩ := h
  obtain ⟨hag, ⟨e, hdesc, hlarge, hover⟩, hleaves⟩ :=
    @rowMajor_walked _ _ _ _ depth ConvertToPostgres L ConvertElement values array hmatch hall
  have htaken := taken_iff nbytes hmatch hdesc hleaves
  rcases convert_of_agrees nbytes hag hdesc hleaves with
    ⟨hwhy, err, herr⟩ | ⟨⟨hfits, ht⟩, args, hargs, hds, hys, hlen, hroom⟩
  · refine iff_of_false ?_ ?_
    · rintro ⟨constructed, hconstructed, -⟩
      cases herr.symm.trans hconstructed
    · rintro ⟨hback, hle, hlevels, hbytes⟩
      rcases hwhy with hwhy | hwhy | hwhy
      · exact error_mem_iff.1 hwhy hback
      · exact hlarge.1 hwhy hle
      · exact hwhy (htaken.2 ⟨hlevels, hbytes⟩)
  · have hback : ∀ elem, some elem ∈ array.elems →
        ∃ datum, thereAndBack L ConvertElement ConvertToPostgres elem = .ok datum := by
      by_contra hno
      obtain ⟨text, ht⟩ := error_mem_iff.2 hno
      rw [hys] at ht
      exact no_error_of_map text ht
    refine iff_of_true ⟨_, hargs, ?_, ?_, hroom.2 hover⟩
      ⟨hback, not_not.1 (mt hlarge.2 hfits), (htaken.1 ht).1, (htaken.1 ht).2⟩
    · rw [ArrayArgs.made, hds, shape_dimsOf hmatch]
      by_cases hd : array.dims = []
      · rw [if_pos hd, List.prod_replicate, zero_pow (Nat.succ_ne_zero depth), if_pos rfl, hd]
        rfl
      · rw [if_neg hd, if_neg (List.prod_pos array.pos).ne']
    · have hprod : args.values.length = (shape (nested (depth + 1)) (e, dimsOf array)).prod := by
        rw [hlen, prod_dimsOf, shape_dimsOf hmatch, array.nelems]
        split
        next => rw [List.prod_replicate, zero_pow (Nat.succ_ne_zero depth)]
        next => rfl
      show _ = (args.made _).elements.map _
      rw [elements_made hds hprod, hys]

/-! ## The rows of a column -/

/-- NULL is NULL, and of the nested list of an array the array is made again. -/
def ComesBack (nbytes : List ℤ → List (Option Datum) → ℕ) (L : LeafType α β)
    (ConvertElement : Elem → Except String α)
    (ConvertToPostgres : (t : LogicalType) → Value β t → Except String Datum) (depth : ℕ)
    (value : Nested β (depth + 1)) : Option (ArrayType Elem) → Prop
  | none => (GetValue (depth + 1) value).IsNull
  | some array => ∃ constructed, ConvertDuckToPostgresArray ConvertToPostgres nbytes (nested (depth + 1))
      (GetValue (depth + 1) value) = .ok constructed ∧ Restored L ConvertElement ConvertToPostgres array constructed

variable (nbytes L ConvertElement ConvertToPostgres) in
/-- Every row of a column of arrays that is read is the array again that it was, if and only if that can be. -/
theorem rows_come_back_iff (depth k : ℕ) (rows : List (Option (ArrayType Elem))) (row : Option (ArrayType Elem))
    (s : NestedVector β (depth + 1) × ℕ)
    (h : AllowedRun (insertRow L ConvertElement) (Meets L ConvertElement) (NestedVector.new β (depth + 1), 0) rows)
    (hrun : rows.foldlM (insertRow L ConvertElement) (NestedVector.new β (depth + 1), 0) = some s)
    (hk : rows[k]? = some row) :
    ∃ value, s.1.read k = some value ∧ (ComesBack nbytes L ConvertElement ConvertToPostgres depth value row ↔
      ∀ array, row = some array → Restorable nbytes L ConvertElement ConvertToPostgres depth array) := by
  obtain ⟨value, hvalue, hstored⟩ := (rows_stored h NestedVector.filled_new hrun).2 k row hk
  refine ⟨value, (congrArg (fun i : ℕ => s.1.read i) (Nat.zero_add k)).symm.trans hvalue, ?_⟩
  cases row with
  | none =>
    cases hstored
    exact iff_of_true rfl fun array h => by cases h
  | some array =>
    refine (array_restored_iff hstored).trans ⟨fun h x hx => ?_, fun h => h array rfl⟩
    cases hx
    exact h

end

/-- The dimensions of the example are positive. -/
theorem oneTwo_pos : ∀ d ∈ [2], 0 < d := by simp

/-- `{1, 2}`. -/
def oneTwo : ArrayType ℕ where
  dims := [2]
  elems := [some 1, some 2]
  ndim := by decide
  pos := oneTwo_pos
  nelems := rfl
  le := by simp [MaxArraySize]

/-- The rows of the example, written and read. -/
theorem rows_come_back_iff_oneTwo :
    ∃ (s : NestedVector ℕ 1 × ℕ) (value : Nested ℕ 1), s.1.read 0 = some value ∧
      ComesBack numberBytes (.own ℕ) Except.ok toNumber 0 value (some oneTwo) := by
  have hallowed : AllowedRun (@insertRow ℕ ℕ ℕ 0 (.own ℕ) Except.ok)
      (Meets (.own ℕ) Except.ok) (NestedVector.new ℕ 1, 0) [some oneTwo, none] := by
    refine ⟨fun _ leaves _ => ⟨fun d hd => absurd hd List.not_mem_nil, ?_, ?_⟩,
      fun _ _ => ⟨trivial, fun _ _ => trivial⟩⟩
    · exact ⟨by decide, Nat.le_of_lt (show 0 + 1 * 2 < 2 ^ 31 by decide)⟩
    · exact (LeafType.inPlace_narrow (L := .own ℕ) rfl).2 fun _ _ => rfl
  obtain ⟨s, hs⟩ : ∃ s, [some oneTwo, none].foldlM (@insertRow ℕ ℕ ℕ 0 (.own ℕ) Except.ok)
      (NestedVector.new ℕ 1, 0) = some s := ⟨_, rfl⟩
  obtain ⟨value, hvalue, hback⟩ := rows_come_back_iff toNumber (.own ℕ) Except.ok numberBytes 0 0
    [some oneTwo, none] (some oneTwo) s hallowed hs rfl
  refine ⟨s, value, hvalue, hback.2 fun array harray => ?_⟩
  cases harray
  refine ⟨fun elem _ => ⟨elem, rfl⟩, by decide, by decide, fun _ elements helements => ?_⟩
  cases ok_inj (helements.symm.trans (show _ = [some 1, some 2].map _ from rfl))
  decide

end PgDuckdb.Arrays
