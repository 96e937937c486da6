import PgDuckdb.Chunks.Nested

/-!
# Rows of arrays

When a row of a list vector holds the array that was written to it. The entries of a level are as many as the
lists of the level above it, which is the product of all dimensions above; the code writes as many as the last
of these dimensions. The two are the same when all dimensions but the last two are 1. Also an index
is kept in an `int`, so that no cell from `2 ^ 31` on holds what it should. And the elements have to be found
where they belong (`LeafType.InPlace`), which is no question where a value is as large as a cell.
-/

namespace PgDuckdb.Chunks

open Lib

section
variable {Elem α β : Type} {depth : ℕ} {L : LeafType α β} {ConvertElement : Elem → Except String α}
variable {i n c p : ℕ} {a lo hi write_offset : ℤ} {dims : List ℕ} {elems : List (Option Elem)}
variable {leaf : Option α} {leaves : List (Option α)}

/-! ## The elements -/

/-- An element, converted if it is not NULL. -/
def convertElem (ConvertElement : Elem → Except String α) : Option Elem → Except String (Option α)
  | none => .ok none
  | some elem => (ConvertElement elem).map some

/-- All elements converted, or the first exception. -/
def convertAll (ConvertElement : Elem → Except String α) : List (Option Elem) → Except String (List (Option α))
  | [] => .ok []
  | elem :: elems =>
    match convertElem ConvertElement elem with
    | .error text => .error text
    | .ok leaf => (convertAll ConvertElement elems).map (leaf :: ·)

/-- A NULL or a value is written. -/
def FlatVector.put (L : LeafType α β) (vec : FlatVector β) (i : ℤ) : Option α → FlatVector β
  | none => vec.SetInvalid i
  | some value => vec.Append L i value

/-- The elements are written, from the `i`-th one on. -/
def putAll (L : LeafType α β) (write_offset : ℤ) : ℕ → List (Option α) → FlatVector β → FlatVector β
  | _, [], vec => vec
  | i, leaf :: leaves, vec =>
    putAll L write_offset (i + 1) leaves (vec.put L (IntType.int.wrap (write_offset + i)) leaf)

/-- The elements that are meant. -/
def LeafType.elements (L : LeafType α β) (leaves : List (Option α)) : List (Option β) :=
  leaves.map (Option.map L.element)

/-- A leaf type has a cell for each element. -/
theorem LeafType.length_elements : (L.elements leaves).length = leaves.length := List.length_map _

/-- The exception of the first element that does not convert is that of all. -/
theorem convertAll_cons {elem : Option Elem} (h : convertAll ConvertElement (elem :: elems) = .ok leaves) :
    ∃ leaf rest, convertElem ConvertElement elem = .ok leaf ∧ convertAll ConvertElement elems = .ok rest ∧
      leaves = leaf :: rest := by
  rw [convertAll] at h
  cases he : convertElem ConvertElement elem with
  | error text =>
    rw [he] at h
    cases h
  | ok leaf =>
    rw [he] at h
    obtain ⟨rest, hr, rfl⟩ := map_eq_ok.1 h
    exact ⟨leaf, rest, rfl, hr, rfl⟩

/-- Each element gives one leaf. -/
theorem convertAll_length (h : convertAll ConvertElement elems = .ok leaves) : leaves.length = elems.length := by
  induction elems generalizing leaves with
  | nil =>
    cases h
    rfl
  | cons elem elems ih =>
    obtain ⟨leaf, rest, -, hr, rfl⟩ := convertAll_cons h
    rw [List.length_cons, ih hr, List.length_cons]

/-- An element is written, or a NULL. -/
theorem convertElems_cons {elem : Option Elem} {vec : FlatVector β}
    (h : convertElem ConvertElement elem = .ok leaf) :
    convertElems L ConvertElement write_offset i (elem :: elems) vec =
      convertElems L ConvertElement write_offset (i + 1) elems
        (vec.put L (IntType.int.wrap (write_offset + i)) leaf) := by
  cases elem with
  | none =>
    cases h
    rfl
  | some elem =>
    rw [convertElems]
    cases hc : ConvertElement elem with
    | error text =>
      rw [convertElem, hc] at h
      cases h
    | ok value =>
      rw [convertElem, hc] at h
      cases h
      rfl

/-- Where all elements convert, all are written. -/
theorem convertElems_ok {vec : FlatVector β} (h : convertAll ConvertElement elems = .ok leaves) :
    convertElems L ConvertElement write_offset i elems vec = .ok (putAll L write_offset i leaves vec) := by
  induction elems generalizing i vec leaves with
  | nil =>
    cases h
    rfl
  | cons elem elems ih =>
    obtain ⟨leaf, rest, he, hr, rfl⟩ := convertAll_cons h
    rw [convertElems_cons he, ih hr]
    rfl

/-- The loop throws what the first element that does not convert throws. -/
theorem convertElems_error {vec : FlatVector β} {text : String}
    (h : convertAll ConvertElement elems = .error text) :
    convertElems L ConvertElement write_offset i elems vec = .error (.Conversion text) := by
  induction elems generalizing i vec with
  | nil => cases h
  | cons elem elems ih =>
    rw [convertAll] at h
    cases he : convertElem ConvertElement elem with
    | error text' =>
      rw [he] at h
      cases h
      cases elem with
      | none => cases he
      | some elem =>
        rw [convertElems]
        cases hc : ConvertElement elem with
        | ok value =>
          rw [convertElem, hc] at he
          cases he
        | error text' =>
          rw [convertElem, hc] at he
          cases he
          rfl
    | ok leaf =>
      rw [he] at h
      rw [convertElems_cons he]
      refine ih ?_
      cases hr : convertAll ConvertElement elems with
      | ok rest =>
        rw [hr] at h
        cases h
      | error text' =>
        rw [hr] at h
        cases h
        rfl

/-! ## Cells -/

/-- The two vectors have the same in a cell. -/
def FlatVector.SameAt (vec vec' : FlatVector β) (a : ℤ) : Prop :=
  vec'.data a = vec.data a ∧ vec'.validity a = vec.validity a

/-- Nothing was written but to the first `n` cells. -/
def FlatVector.Filled (vec : FlatVector β) (n : ℕ) : Prop :=
  ∀ a : ℤ, a < 0 ∨ n ≤ a → vec.data a = none ∧ vec.validity a = true

/-- Cells that are the same are read alike. -/
theorem FlatVector.SameAt.read {vec vec' : FlatVector β} (h : vec.SameAt vec' a) : vec'.read a = vec.read a := by
  rw [FlatVector.read, FlatVector.read, h.1, h.2]

/-- A value that is read has been written. -/
theorem FlatVector.data_of_read {vec : FlatVector β} {value : β} (h : vec.read a = some (some value)) :
    vec.data a = some value := by
  unfold FlatVector.read at h
  split at h
  · obtain ⟨x, hx, hs⟩ := Option.map_eq_some_iff.1 h
    rw [hx, Option.some.inj hs]
  · cases h

/-- Nothing is read where nothing was written. -/
theorem FlatVector.Filled.read {vec : FlatVector β} (h : vec.Filled n) (ha : a < 0 ∨ n ≤ a) :
    vec.read a = none := by
  obtain ⟨hd, hv⟩ := h a ha
  rw [FlatVector.read, if_pos hv, hd]
  rfl

/-- After what is written to the next cells, more of them are filled. -/
theorem FlatVector.Filled.within {vec vec' : FlatVector β} (h : vec.Filled n)
    (hw : vec.Within vec' n ((n + c : ℕ) : ℤ)) : vec'.Filled (n + c) := by
  intro a ha
  obtain ⟨hd, hv⟩ := hw a (by omega)
  obtain ⟨hd', hv'⟩ := h a (by omega)
  exact ⟨hd.trans hd', hv.trans hv'⟩

/-- An entry is in its cell, where this is not NULL already. -/
theorem FlatVector.set_read {vec : FlatVector β} {value : β} (h : vec.validity a = true) :
    (vec.set a value).read a = some (some value) := by
  have hv : (vec.set a value).validity a = true := h
  rw [FlatVector.read, if_pos hv]
  simp [FlatVector.set]

/-- The other cells are as they were. -/
theorem FlatVector.set_other {vec : FlatVector β} {value : β} {b : ℤ} (h : a ≠ b) : vec.SameAt (vec.set b value) a :=
  ⟨Function.update_of_ne h _ _, rfl⟩

/-! ## The cells of the elements -/

/-- The cells of a value hold its parts. -/
theorem FlatVector.append_data {vec : FlatVector β} {value : α} {b : ℤ} (h : a / L.width = b) :
    (vec.Append L b value).data a = some (L.parts value (a % L.width).toNat) :=
  if_pos h

/-- A cell holds what it held unless it is one of a value that is written. -/
theorem putAll_data_other {vec : FlatVector β} (h : ∀ j < leaves.length,
    a / L.width ≠ IntType.int.wrap (write_offset + (i + j : ℕ)) ∨ leaves[j]? = some none) :
    (putAll L write_offset i leaves vec).data a = vec.data a := by
  induction leaves generalizing i vec with
  | nil => rfl
  | cons leaf leaves ih =>
    have hrest := @ih (i + 1) (vec.put L (IntType.int.wrap (write_offset + i)) leaf) fun j hj => by
      have hj := h (j + 1) (Nat.succ_lt_succ hj)
      rwa [List.getElem?_cons_succ, Nat.add_left_comm, Nat.add_comm j] at hj
    refine hrest.trans ?_
    have h₀ := h 0 (Nat.succ_pos _)
    rw [Nat.add_zero] at h₀
    cases leaf with
    | none => rfl
    | some value => exact if_neg (h₀.resolve_right (by simp))

/-- A cell is NULL only if it is that of a NULL. -/
theorem putAll_validity_other {vec : FlatVector β} (h : ∀ j < leaves.length,
    IntType.int.wrap (write_offset + (i + j : ℕ)) ≠ a ∨ leaves[j]? ≠ some none) :
    (putAll L write_offset i leaves vec).validity a = vec.validity a := by
  induction leaves generalizing i vec with
  | nil => rfl
  | cons leaf leaves ih =>
    have hrest := @ih (i + 1) (vec.put L (IntType.int.wrap (write_offset + i)) leaf) fun j hj => by
      have hj := h (j + 1) (Nat.succ_lt_succ hj)
      rwa [List.getElem?_cons_succ, Nat.add_left_comm, Nat.add_comm j] at hj
    refine hrest.trans ?_
    have h₀ := h 0 (Nat.succ_pos _)
    rw [Nat.add_zero] at h₀
    cases leaf with
    | none => exact Function.update_of_ne (h₀.resolve_right (by simp)).symm _ _
    | some value => rfl

/-- All that an index is kept in is the index, as long as it fits. -/
theorem wrap_add_eq {j : ℕ} (hj : n + (i + j) < 2 ^ 31) : IntType.int.wrap (n + (i + j : ℕ)) = n + (i + j : ℕ) :=
  IntType.int_wrap_of_lt (by omega) (by omega)

/-- Each value is in its cells: no other value is written there. -/
theorem putAll_data {vec : FlatVector β} {j : ℕ} {value : α} (hfit : n + (i + leaves.length) ≤ 2 ^ 31)
    (hj : leaves[j]? = some (some value)) (ha : a / L.width = n + (i + j : ℕ)) :
    (putAll L n i leaves vec).data a = some (L.parts value (a % L.width).toNat) := by
  induction leaves generalizing i vec j with
  | nil => cases hj
  | cons leaf leaves ih =>
    rw [List.length_cons] at hfit
    have h₀ : IntType.int.wrap (n + i) = n + i := @wrap_add_eq i n 0 (by omega)
    rw [putAll, h₀]
    cases j with
    | zero =>
      cases hj
      refine (putAll_data_other fun k hk => .inl ?_).trans (FlatVector.append_data ha)
      rw [wrap_add_eq (by omega), ha]
      omega
    | succ j =>
      refine ih (by omega) hj ?_
      rw [ha]
      omega

/-- A cell that is NULL stays so. -/
theorem putAll_validity_false {vec : FlatVector β} (h : vec.validity a = false) :
    (putAll L write_offset i leaves vec).validity a = false := by
  induction leaves generalizing i vec with
  | nil => exact h
  | cons leaf leaves ih =>
    refine ih ?_
    cases leaf with
    | none =>
      show Function.update vec.validity _ false a = false
      rw [Function.update_apply, h, ite_self]
    | some value => exact h

/-- The cell of a NULL is NULL. -/
theorem putAll_null {vec : FlatVector β} {j : ℕ} (hfit : n + (i + leaves.length) ≤ 2 ^ 31)
    (hj : leaves[j]? = some none) : (putAll L n i leaves vec).validity (n + (i + j : ℕ)) = false := by
  induction leaves generalizing i vec j with
  | nil => cases hj
  | cons leaf leaves ih =>
    rw [List.length_cons] at hfit
    have h₀ : IntType.int.wrap (n + i) = n + i := @wrap_add_eq i n 0 (by omega)
    rw [putAll, h₀]
    cases j with
    | zero =>
      cases hj
      exact putAll_validity_false (Function.update_self _ _ _)
    | succ j =>
      rw [show i + (j + 1) = i + 1 + j by omega]
      exact ih (by omega) hj

/-- The cell of a value is not NULL. -/
theorem putAll_valid {vec : FlatVector β} {j : ℕ} {value : α} (hfit : n + leaves.length ≤ 2 ^ 31)
    (hj : leaves[j]? = some (some value)) :
    (putAll L n 0 leaves vec).validity (n + j : ℕ) = vec.validity (n + j : ℕ) := by
  refine putAll_validity_other fun k hk => ?_
  rw [wrap_add_eq (by omega), or_iff_not_imp_left, not_not]
  intro hkj
  obtain rfl : k = j := by omega
  rw [hj]
  simp

/-! ## Elements in their places -/

/-- Each value that is not NULL is what its cell holds when all are written, from the `n`-th element of the vector on,
and its own cells end where the last element does. -/
def LeafType.InPlace (L : LeafType α β) (n : ℕ) (leaves : List (Option α)) : Prop :=
  ∀ i value, leaves[i]? = some (some value) →
    L.width * (n + i + 1) ≤ n + leaves.length ∧
      ∃ k writer, leaves[k]? = some (some writer) ∧ n + k = (n + i) / L.width ∧
        L.parts writer ((n + i) % L.width) = L.element value

/-- A cell is one unit wide or two. -/
theorem LeafType.width_cases (L : LeafType α β) : L.width = 1 ∨ L.width = 2 := by
  have := L.pos
  have := L.le
  omega

/-- Values of the size of a cell are in their places if what they hold is what is meant. -/
theorem LeafType.inPlace_narrow (h : L.width = 1) :
    L.InPlace n leaves ↔ ∀ value, some value ∈ leaves → L.parts value 0 = L.element value := by
  constructor
  · intro hplace value hvalue
    obtain ⟨i, hi⟩ := List.getElem?_of_mem hvalue
    obtain ⟨-, k, writer, hk, hki, hpart⟩ := hplace i value hi
    rw [h, Nat.div_one] at hki
    rw [Nat.add_left_cancel hki, hi] at hk
    cases hk
    rwa [h, Nat.mod_one] at hpart
  · intro hall i value hi
    obtain ⟨hlt, -⟩ := List.getElem?_eq_some_iff.1 hi
    refine ⟨by rw [h]; omega, i, value, hi, by rw [h, Nat.div_one], ?_⟩
    rw [h, Nat.mod_one]
    exact hall value (List.mem_of_getElem? hi)

/-- Wider values are in their places at most in a vector that has no element yet. -/
theorem LeafType.InPlace.first (h : L.width = 2) (hplace : L.InPlace n leaves) {value : α}
    (hi : leaves[i]? = some (some value)) : n = 0 := by
  induction i using Nat.strong_induction_on generalizing value with
  | h i ih =>
    obtain ⟨-, k, writer, hk, hki, -⟩ := hplace i value hi
    rw [h] at hki
    rcases Nat.eq_zero_or_pos (n + i) with hzero | hpos
    · omega
    · exact ih k (by omega) hk

/-- The loop writes inside of the cells it is for. -/
theorem putAll_within {vec : FlatVector β} (hfit : n + leaves.length ≤ 2 ^ 31) (hplace : L.InPlace n leaves) :
    vec.Within (putAll L n 0 leaves vec) n ((n + leaves.length : ℕ) : ℤ) := by
  intro a ha
  constructor
  · refine putAll_data_other fun j hj => ?_
    rw [wrap_add_eq (by omega), or_iff_not_imp_right]
    intro hnull hcell
    obtain ⟨value, hvalue⟩ : ∃ value, leaves[j]? = some (some value) := by
      rw [List.getElem?_eq_getElem hj] at hnull ⊢
      cases hleaf : leaves[j] with
      | none => exact absurd (congrArg some hleaf) hnull
      | some value => exact ⟨value, rfl⟩
    have hend := (hplace j value hvalue).1
    rcases L.width_cases with h | h <;> rw [h] at hcell hend <;> omega
  · refine putAll_validity_other fun j hj => .inl ?_
    rw [wrap_add_eq (by omega)]
    omega

/-- Each element is read where it belongs. -/
theorem putAll_read {vec : FlatVector β} (hf : vec.Filled n) (hfit : n + leaves.length ≤ 2 ^ 31)
    (hplace : L.InPlace n leaves) (hi : i < leaves.length) :
    (putAll L n 0 leaves vec).read (n + i : ℕ) = (L.elements leaves)[i]? := by
  rw [LeafType.elements, List.getElem?_map, List.getElem?_eq_getElem hi, Option.map_some, FlatVector.read]
  have hleaf := List.getElem?_eq_getElem hi
  cases hvalue : leaves[i] with
  | none =>
    rw [hvalue] at hleaf
    have hnull := @putAll_null _ _ L 0 n leaves vec i (by omega) hleaf
    rw [Nat.zero_add, ← Nat.cast_add] at hnull
    rw [if_neg (by rw [hnull]; exact Bool.false_ne_true)]
    rfl
  | some value =>
    rw [hvalue] at hleaf
    obtain ⟨-, k, writer, hk, hki, hpart⟩ := hplace i value hleaf
    have hvalid : (putAll L n 0 leaves vec).validity (n + i : ℕ) = true :=
      (putAll_valid hfit hleaf).trans (hf _ (.inr (by omega))).2
    have hcell : ((n + i : ℕ) : ℤ) / L.width = n + (0 + k : ℕ) := by
      rw [Nat.zero_add, ← Nat.cast_add, hki, Int.natCast_div]
    rw [if_pos hvalid, putAll_data (by omega) hk hcell, ← Int.natCast_mod, Int.toNat_natCast, hpart]
    rfl

/-- No element of an array that leaves the range of an `int` is written to the cell of its last one. -/
theorem last_ne_wrap (hle : leaves.length ≤ MaxArraySize) (hlong : 2 ^ 31 < n + leaves.length) {j : ℕ}
    (hj : j < leaves.length) :
    ((n + (leaves.length - 1) : ℕ) : ℤ) / L.width ≠ IntType.int.wrap (IntType.int.wrap n + (0 + j : ℕ)) := by
  intro hcell
  have hbound := @IntType.int_wrap_lt (IntType.int.wrap n + (0 + j : ℕ))
  obtain ⟨q, hq⟩ := @IntType.exists_wrap IntType.int n
  obtain ⟨q', hq'⟩ := @IntType.exists_wrap IntType.int (IntType.int.wrap n + (0 + j : ℕ))
  have hbits : (2 : ℤ) ^ IntType.int.bits = 2 ^ 32 := rfl
  rw [hbits] at hq hq'
  rw [← hcell] at hbound hq'
  rw [MaxArraySize] at hle
  rcases L.width_cases with h | h <;> rw [h] at hbound hq' <;> omega

/-- Where the last element is read, the indices fit. -/
theorem putAll_fits {vec : FlatVector β} (hf : vec.Filled n) (hpos : 0 < leaves.length)
    (hle : leaves.length ≤ MaxArraySize)
    (hread : (putAll L (IntType.int.wrap n) 0 leaves vec).read (n + (leaves.length - 1) : ℕ) =
      (L.elements leaves)[leaves.length - 1]?) : n + leaves.length ≤ 2 ^ 31 := by
  by_contra hlong
  have hlast : leaves.length - 1 < leaves.length := by omega
  have hempty := hf (n + (leaves.length - 1) : ℕ) (.inr (by omega))
  rw [LeafType.elements, List.getElem?_map, List.getElem?_eq_getElem hlast, Option.map_some] at hread
  cases hvalue : leaves[leaves.length - 1] with
  | none =>
    have hvalid : (putAll L (IntType.int.wrap n) 0 leaves vec).validity (n + (leaves.length - 1) : ℕ) = true := by
      refine (putAll_validity_other fun j hj => .inl ?_).trans hempty.2
      have := @IntType.int_wrap_lt (IntType.int.wrap n + (0 + j : ℕ))
      omega
    rw [hvalue, FlatVector.read, if_pos hvalid] at hread
    obtain ⟨x, -, hx⟩ := Option.map_eq_some_iff.1 hread
    cases hx
  | some value =>
    rw [hvalue] at hread
    have hdata := FlatVector.data_of_read hread
    rw [putAll_data_other fun j hj => .inl (last_ne_wrap hle (by omega) hj), hempty.1] at hdata
    cases hdata

/-- Where nothing else is written, the cells of a value end where the last element does. -/
theorem width_mul_le_of_within {vec : FlatVector β} {value : α} (hf : vec.Filled n)
    (hfit : n + leaves.length ≤ 2 ^ 31)
    (hw : vec.Within (putAll L n 0 leaves vec) n ((n + leaves.length : ℕ) : ℤ))
    (hi : leaves[i]? = some (some value)) : L.width * (n + i + 1) ≤ n + leaves.length := by
  -- the last cell of the value would be behind the vector
  by_contra hlong
  obtain ⟨hlt, -⟩ := List.getElem?_eq_some_iff.1 hi
  have hcell : (L.width * (n + i) + (L.width - 1) : ℤ) / L.width = n + (0 + i : ℕ) := by
    rcases L.width_cases with h | h <;> rw [h] <;> omega
  have hlast := @putAll_data _ _ L 0 n _ leaves vec i value (by omega) hi hcell
  rw [(hw _ (.inr ?_)).1, (hf _ (.inr ?_)).1] at hlast
  · cases hlast
  · rcases L.width_cases with h | h <;> rw [h] at hlong ⊢ <;> omega
  · rcases L.width_cases with h | h <;> rw [h] at hlong ⊢ <;> omega

/-- What a cell holds is the part of a value that was written there. -/
theorem exists_writer {vec : FlatVector β} {x : β} (hf : vec.Filled n) (hfit : n + leaves.length ≤ 2 ^ 31)
    (hdata : (putAll L n 0 leaves vec).data (n + i : ℕ) = some x) :
    ∃ k writer, leaves[k]? = some (some writer) ∧ n + k = (n + i) / L.width ∧
      L.parts writer ((n + i) % L.width) = x := by
  by_contra hno
  refine Option.some_ne_none x (hdata.symm.trans ?_)
  refine (putAll_data_other fun j hj => ?_).trans (hf _ (.inr (by omega))).1
  rw [wrap_add_eq (by omega), or_iff_not_imp_left, not_not, Nat.zero_add, ← Nat.cast_add, ← Int.natCast_div,
    Nat.cast_inj]
  intro hcell
  rw [List.getElem?_eq_getElem hj]
  cases hwriter : leaves[j] with
  | none => rfl
  | some writer =>
    have hj' : leaves[j]? = some (some writer) := by rw [List.getElem?_eq_getElem hj, hwriter]
    have hsame : ((n + i : ℕ) : ℤ) / L.width = n + (0 + j : ℕ) := by
      rw [← Int.natCast_div, hcell, Nat.zero_add, Nat.cast_add]
    have hpart := (putAll_data (by omega) hj' hsame).symm.trans hdata
    rw [← Int.natCast_mod, Int.toNat_natCast, Option.some.injEq] at hpart
    exact absurd ⟨j, writer, hj', hcell.symm, hpart⟩ hno

/-- Where each element is read and nothing else was written, the indices fit and the elements are in their places. -/
theorem putAll_inPlace {vec : FlatVector β} (hf : vec.Filled n) (hpos : 0 < leaves.length)
    (hle : leaves.length ≤ MaxArraySize)
    (hw : vec.Within (putAll L (IntType.int.wrap n) 0 leaves vec) n ((n + leaves.length : ℕ) : ℤ))
    (hread : ∀ i < leaves.length,
      (putAll L (IntType.int.wrap n) 0 leaves vec).read (n + i : ℕ) = (L.elements leaves)[i]?) :
    n + leaves.length ≤ 2 ^ 31 ∧ L.InPlace n leaves := by
  have hfit : n + leaves.length ≤ 2 ^ 31 := putAll_fits hf hpos hle (hread _ (by omega))
  have hwrap : IntType.int.wrap n = n := IntType.int_wrap_of_lt (by omega) (by omega)
  rw [hwrap] at hw hread
  refine ⟨hfit, fun i value hi => ⟨width_mul_le_of_within hf hfit hw hi, ?_⟩⟩
  obtain ⟨hlt, -⟩ := List.getElem?_eq_some_iff.1 hi
  have hr := hread i hlt
  rw [LeafType.elements, List.getElem?_map, hi] at hr
  exact exists_writer hf hfit (FlatVector.data_of_read hr)

/-! ## The entries of a level -/

section
variable {vec : ListVector (NestedVector β depth)} {child : NestedVector β depth} {d : ℕ}

/-- Entries that are set change no other row. -/
theorem setEntries_within (hfit : n + p ≤ 2 ^ 31) :
    vec.toFlatVector.Within (setEntries n p d vec child).toFlatVector n ((n + p : ℕ) : ℤ) := by
  intro a ha
  refine ⟨assign_other fun j hj => ?_, rfl⟩
  rw [IntType.int_wrap_of_lt (by omega) (by omega)]
  omega

/-- The entry of a row that was set. -/
theorem setEntries_data (hfit : n + p ≤ 2 ^ 31) {j : ℕ} (hj : j < p) :
    (setEntries n p d vec child).data (n + j : ℕ) = some ⟨vec.size + d * j, d⟩ := by
  have hwrap : ∀ k < p, IntType.int.wrap (n + k) = (n + k : ℕ) := fun k hk =>
    IntType.int_wrap_of_lt (by omega) (by omega)
  have h := @assign_self _ _ _ p (fun entry => IntType.int.wrap (n + entry))
    (fun entry => (⟨vec.size + d * entry, d⟩ : list_entry_t)) vec.data
    (fun i hi k hk hik => by
      rw [hwrap i hi, hwrap k hk] at hik
      omega) j hj
  rwa [hwrap j hj] at h

/-- The lists stay inside of the child vector, which grows by what the new ones take. -/
theorem setEntries_inside (hfit : n + p ≤ 2 ^ 31)
    (h : ∀ a entry, vec.data a = some entry → entry.offset + entry.length ≤ vec.size) {entry : list_entry_t}
    (ha : (setEntries n p d vec child).data a = some entry) :
    entry.offset + entry.length ≤ vec.size + d * p := by
  have hwithin := @setEntries_within _ _ _ _ vec child d hfit
  rcases lt_or_ge a n with hlt | hge
  · have hold := h a entry ((hwithin a (.inl hlt)).1 ▸ ha)
    omega
  rcases lt_or_ge a (n + p) with hlt | hge'
  · obtain ⟨j, rfl⟩ : ∃ j : ℕ, a = (n + j : ℕ) := ⟨(a - n).toNat, by omega⟩
    have hj : j < p := by omega
    have hmul := Nat.mul_le_mul_left d (Nat.succ_le_of_lt hj)
    rw [Nat.mul_succ] at hmul
    cases (setEntries_data hfit hj).symm.trans ha
    show vec.size + d * j + d ≤ vec.size + d * p
    omega
  · have hold := h a entry ((hwithin a (.inr (by omega))).1 ▸ ha)
    omega

/-- A row that was set reads its entry. -/
theorem setEntries_read (hfit : n + p ≤ 2 ^ 31) (hf : vec.toFlatVector.Filled n) (hi : i < p) :
    (setEntries n p d vec child).toFlatVector.read (n + i : ℕ) = some (some ⟨vec.size + d * i, d⟩) := by
  have hv : (setEntries n p d vec child).validity (n + i : ℕ) = true := (hf _ (.inr (by omega))).2
  rw [FlatVector.read, if_pos hv, setEntries_data hfit hi]
  rfl

/-- A row behind the range keeps what it had. -/
theorem setEntries_lost (ha : 2 ^ 31 ≤ a) : (setEntries write_offset p d vec child).data a = vec.data a := by
  refine assign_other fun j hj => ?_
  have := @IntType.int_wrap_lt (write_offset + j)
  omega

end

/-! ## The levels -/

/-- The first `n` rows of the vector are what was written to it, and its lists are inside the child vector, in
which nothing else was written. -/
def NestedVector.Filled : {depth : ℕ} → NestedVector β depth → ℕ → Prop
  | 0, vec, n => FlatVector.Filled vec n
  | _ + 1, vec, n => vec.lists.toFlatVector.Filled n ∧
    (∀ a entry, vec.lists.data a = some entry → entry.offset + entry.length ≤ vec.lists.size) ∧
    vec.lists.child.Filled vec.lists.size

/-- No index leaves the range of an `int`, where `c` lists are written from the `n`-th row on. -/
def NestedVector.Fits : {depth : ℕ} → NestedVector β depth → ℕ → ℕ → List ℕ → Prop
  | 0, _, n, c, _ => n + c ≤ 2 ^ 31
  | _ + 1, _, n, c, [] => n + c ≤ 2 ^ 31
  | _ + 1, vec, n, c, d :: dims => n + c ≤ 2 ^ 31 ∧ vec.lists.child.Fits vec.lists.size (c * d) dims

/-- The dimension above the first one is all that there is above it, and the same further down. -/
def Straight : ℕ → List ℕ → Prop
  | _, [] => True
  | p, d :: dims => (dims = [] ∨ p = 1) ∧ Straight d dims

/-- What the first dimensions multiply to, and `p`. -/
def products : ℕ → List ℕ → List ℕ
  | _, [] => []
  | p, d :: dims => p * d :: products (p * d) dims

/-- Each dimension times the one above it. -/
def neighbours : ℕ → List ℕ → List ℕ
  | _, [] => []
  | p, d :: dims => d * p :: neighbours d dims

/-- A vector that is filled is filled at its first level. -/
theorem NestedVector.Filled.flat {vec : NestedVector β (depth + 1)} (h : vec.Filled n) :
    vec.lists.toFlatVector.Filled n := h.1

/-- A new vector is filled up to any row. -/
theorem NestedVector.filled_new : (NestedVector.new β depth).Filled n := by
  induction depth generalizing n with
  | zero => exact fun _ _ => ⟨rfl, rfl⟩
  | succ depth ih =>
    refine ⟨fun _ _ => ⟨rfl, rfl⟩, fun a entry h => ?_, ih⟩
    cases h

/-- A vector that is filled stays inside its sizes. -/
theorem NestedVector.Filled.inside {vec : NestedVector β depth} (h : vec.Filled n) : vec.Inside := by
  induction depth generalizing n with
  | zero => trivial
  | succ depth ih => exact ⟨h.2.1, ih h.2.2⟩

section
variable {vec vec' : NestedVector β (depth + 1)} {d : ℕ}

/-- One dimension of an array: the rows below it, then their entries. -/
theorem convertDims_step :
    convertDims L ConvertElement elems (d :: dims) (depth + 1) p write_offset vec =
      (convertDims L ConvertElement elems dims depth d (IntType.int.wrap vec.lists.size) vec.lists.child).map
        (setEntries write_offset p d vec.lists) := by
  rw [convertDims]
  cases convertDims L ConvertElement elems dims depth d (IntType.int.wrap vec.lists.size) vec.lists.child <;> rfl

/-- The parts of a step that succeeds. -/
theorem convertDims_cons (h : convertDims L ConvertElement elems (d :: dims) (depth + 1) p write_offset vec = .ok vec') :
    ∃ child, convertDims L ConvertElement elems dims depth d (IntType.int.wrap vec.lists.size) vec.lists.child =
      .ok child ∧ vec' = setEntries write_offset p d vec.lists child := by
  rw [convertDims_step] at h
  exact map_eq_ok.1 h

end

/-- The dimensions that are counted and those of the type have to be as many. -/
theorem convertDims_mismatch {vec : NestedVector β depth} (h : dims.length ≠ depth) :
    ∃ e, convertDims L ConvertElement elems dims depth p write_offset vec = .error e := by
  induction dims generalizing depth p write_offset with
  | nil =>
    cases depth with
    | zero => exact absurd rfl h
    | succ depth => exact ⟨_, rfl⟩
  | cons d dims ih =>
    cases depth with
    | zero => exact ⟨_, rfl⟩
    | succ depth =>
      obtain ⟨e, he⟩ := @ih depth d (IntType.int.wrap vec.lists.size) vec.lists.child fun hl =>
        h (congrArg (· + 1) hl)
      refine ⟨e, ?_⟩
      rw [convertDims_step, he]
      rfl

/-- A walk fails where a leaf does. -/
theorem convertDims_error {vec : NestedVector β depth} {text : String} (hl : dims.length = depth)
    (h : convertAll ConvertElement elems = .error text) :
    convertDims L ConvertElement elems dims depth p write_offset vec = .error (.Conversion text) := by
  induction dims generalizing depth p write_offset with
  | nil =>
    subst hl
    exact convertElems_error h
  | cons d dims ih =>
    subst hl
    exact convertDims_step.trans (congrArg _ (ih rfl))

/-- A walk succeeds where every leaf does. -/
theorem convertDims_ok {vec : NestedVector β depth} (hl : dims.length = depth)
    (h : convertAll ConvertElement elems = .ok leaves) :
    ∃ vec', convertDims L ConvertElement elems dims depth p write_offset vec = .ok vec' := by
  induction dims generalizing depth p write_offset with
  | nil =>
    subst hl
    exact ⟨_, convertElems_ok h⟩
  | cons d dims ih =>
    subst hl
    obtain ⟨child, hc⟩ := @ih _ d (IntType.int.wrap vec.lists.size) vec.lists.child rfl
    exact ⟨setEntries write_offset p d vec.lists child, convertDims_step.trans (congrArg _ hc)⟩

/-- What each level grows by. -/
theorem convertDims_sizes {vec vec' : NestedVector β depth} (hl : dims.length = depth)
    (h : convertDims L ConvertElement elems dims depth p write_offset vec = .ok vec') :
    vec'.sizes = List.zipWith (· + ·) vec.sizes (neighbours p dims) := by
  induction dims generalizing depth p write_offset with
  | nil =>
    subst hl
    rfl
  | cons d dims ih =>
    subst hl
    obtain ⟨child, hc, rfl⟩ := convertDims_cons h
    exact congrArg (_ :: ·) (ih rfl hc)

/-! ## Slices -/

/-- A part of the leaves of a list is a part of all leaves. -/
theorem slice_slice {d j R : ℕ} (l : List (Option β)) (hj : j < d) :
    (((l.drop (i * (d * R))).take (d * R)).drop (j * R)).take R = (l.drop ((d * i + j) * R)).take R := by
  have hle : R ≤ d * R - j * R := by
    have := Nat.mul_le_mul_right R (Nat.succ_le_of_lt hj)
    rw [Nat.succ_mul] at this
    omega
  have hpos : i * (d * R) + j * R = (d * i + j) * R := by ring
  rw [List.drop_take, List.take_take, Nat.min_eq_left hle, List.drop_drop, hpos]

/-! ## Rows that are written rightly -/

/-- What is written to the `c` rows from the `n`-th on. -/
structure NestedVector.Wrote (vec vec' : NestedVector β depth) (n c : ℕ) (dims : List ℕ)
    (elements : List (Option β)) : Prop where
  within : vec.Within vec' n ((n + c : ℕ) : ℤ)
  filled : vec'.Filled (n + c)
  read : ∀ i < c, vec'.read (n + i : ℕ) =
    some (rowMajor depth dims ((elements.drop (i * dims.prod)).take dims.prod))

/-- What fits is in the range of an index. -/
theorem NestedVector.Fits.le {vec : NestedVector β depth} (h : vec.Fits n c dims) : n + c ≤ 2 ^ 31 := by
  cases depth with
  | zero => exact h
  | succ depth =>
    cases dims with
    | nil => exact h
    | cons d dims => exact h.1

/-- What fits is not wrapped. -/
theorem NestedVector.Fits.wrap {vec : NestedVector β depth} (h : vec.Fits n c dims) (hc : 0 < c) :
    IntType.int.wrap n = n := by
  have := h.le
  exact IntType.int_wrap_of_lt (by omega) (by omega)

/-- The leaf that stands alone in its slice. -/
theorem rowMajor_leaf {elements : List (Option β)} (hi : i < elements.length) :
    rowMajor 0 [] ((elements.drop (i * [].prod)).take [].prod) = elements[i] := by
  show ((elements.drop (i * 1)).take 1).head?.join = elements[i]
  rw [Nat.mul_one, List.head?_take, if_neg Nat.one_ne_zero, List.head?_drop, List.getElem?_eq_getElem hi]
  rfl

/-- The elements themselves. -/
theorem putAll_wrote {vec : NestedVector β 0} (hlen : leaves.length = c) (hfit : n + c ≤ 2 ^ 31) (hf : vec.Filled n)
    (hplace : L.InPlace n leaves) : vec.Wrote (putAll L n 0 leaves vec) n c [] (L.elements leaves) := by
  subst hlen
  have hw : FlatVector.Within vec (putAll L n 0 leaves vec) n ((n + leaves.length : ℕ) : ℤ) :=
    putAll_within hfit hplace
  refine ⟨hw, FlatVector.Filled.within hf hw, fun i hi => ?_⟩
  have hi' : i < (L.elements leaves).length := by rwa [LeafType.length_elements]
  rw [rowMajor_leaf hi']
  exact (putAll_read hf hfit hplace hi).trans (List.getElem?_eq_getElem hi')

/-- The rows of the child vector that one list spans. -/
theorem NestedVector.Wrote.spans {vec child : NestedVector β depth} {d : ℕ} {elements : List (Option β)}
    (h : vec.Wrote child n (p * d) dims elements) (hi : i < p) : ((List.range d).mapM fun j : ℕ => child.read ((n + d * i : ℕ) + j)) =
      some ((List.range d).map fun j => rowMajor depth dims
        ((((elements.drop (i * (d * dims.prod))).take (d * dims.prod)).drop (j * dims.prod)).take dims.prod)) := by
  refine mapM_eq_some_iff.2 fun j hj => ?_
  rw [List.mem_range] at hj
  have hij : d * i + j < p * d := by
    have hmul := Nat.mul_le_mul_left d (Nat.succ_le_of_lt hi)
    rw [Nat.mul_succ] at hmul
    rw [Nat.mul_comm p d]
    omega
  have hread := h.read (d * i + j) hij
  rw [slice_slice elements hj, ← hread]
  exact congrArg _ (by push_cast; ring)

/-- A level, after the one below it. -/
theorem setEntries_wrote {vec : NestedVector β (depth + 1)} {child : NestedVector β depth} {d : ℕ}
    {elements : List (Option β)} (h : vec.lists.child.Wrote child vec.lists.size (p * d) dims elements)
    (hfit : n + p ≤ 2 ^ 31) (hf : vec.Filled n) :
    vec.Wrote (setEntries n p d vec.lists child) n p (d :: dims) elements := by
  have hgrow : vec.lists.size + p * d = vec.lists.size + d * p := by rw [Nat.mul_comm]
  have hwithin : vec.lists.toFlatVector.Within (setEntries n p d vec.lists child).toFlatVector n
      ((n + p : ℕ) : ℤ) := setEntries_within hfit
  obtain ⟨hflat, hentries, -⟩ := hf
  refine ⟨⟨hwithin, ?_⟩, ⟨hflat.within hwithin, fun a entry => setEntries_inside hfit hentries, ?_⟩, fun i hi => ?_⟩
  · show vec.lists.child.Within child vec.lists.size ((vec.lists.size + d * p : ℕ) : ℤ)
    rw [← hgrow]
    exact h.within
  · show child.Filled (vec.lists.size + d * p)
    rw [← hgrow]
    exact h.filled
  · show ((setEntries n p d vec.lists child).toFlatVector.read (n + i : ℕ)).bind _ = _
    rw [setEntries_read hfit hflat hi, List.prod_cons]
    show ((List.range d).mapM fun j : ℕ => child.read ((vec.lists.size + d * i : ℕ) + j)).map some = _
    rw [h.spans hi]
    rfl

/-- All levels, where the dimensions are straight, the indices fit and the elements are in their places. -/
theorem convertDims_wrote {vec vec' : NestedVector β depth} (hl : dims.length = depth)
    (h : convertDims L ConvertElement elems dims depth p (IntType.int.wrap n) vec = .ok vec')
    (hall : convertAll ConvertElement elems = .ok leaves) (hlen : leaves.length = c * dims.prod)
    (hc : 0 < c) (hpos : ∀ d ∈ dims, 0 < d) (hp : dims ≠ [] → p = c) (hs : Straight p dims)
    (hfit : vec.Fits n c dims) (hplace : L.InPlace (vec.innermost n) leaves) (hf : vec.Filled n) :
    vec.Wrote vec' n c dims (L.elements leaves) := by
  rw [hfit.wrap hc] at h
  have hle := hfit.le
  induction dims generalizing depth n c p with
  | nil =>
    subst hl
    rw [List.prod_nil, Nat.mul_one] at hlen
    obtain rfl : putAll L n 0 leaves vec = vec' := Except.ok.inj ((convertElems_ok hall).symm.trans h)
    exact putAll_wrote hlen hle hf hplace
  | cons d dims ih =>
    subst hl
    obtain ⟨child, hchild, rfl⟩ := convertDims_cons h
    obtain rfl := hp (List.cons_ne_nil d dims)
    have hd := hpos d List.mem_cons_self
    have hcd := Nat.mul_pos hc hd
    obtain ⟨hone, hs⟩ := hs
    obtain ⟨-, hfit⟩ := hfit
    have hp' : dims ≠ [] → d = p * d := fun hne => by rw [hone.resolve_left hne, Nat.one_mul]
    have hlen' : leaves.length = p * d * dims.prod := by rw [hlen, List.prod_cons, Nat.mul_assoc]
    rw [hfit.wrap hcd] at hchild
    have hw := ih rfl hchild hlen' hcd (fun m hm => hpos m (List.mem_cons_of_mem d hm)) hp' hs hfit hplace hf.2.2
      hfit.le
    exact setEntries_wrote hw hle hf

/-! ## What is found was written rightly -/

/-- The entries of a level are found only where an `int` reaches. -/
theorem setEntries_fits {vec : NestedVector β (depth + 1)} {child : NestedVector β depth} {d : ℕ} (hp : 0 < p)
    (hf : vec.Filled n) {value : Nested β (depth + 1)}
    (hread : @NestedVector.read β (depth + 1) (setEntries (IntType.int.wrap n) p d vec.lists child) (n + (p - 1) : ℕ) = some value) :
    n + p ≤ 2 ^ 31 := by
  by_contra hlong
  obtain ⟨hd, hv⟩ := hf.flat (n + (p - 1) : ℕ) (.inr (by omega))
  have hcell : (setEntries (IntType.int.wrap n) p d vec.lists child).toFlatVector.read (n + (p - 1) : ℕ) = none := by
    have hvalid : (setEntries (IntType.int.wrap n) p d vec.lists child).validity (n + (p - 1) : ℕ) = true := hv
    rw [FlatVector.read, if_pos hvalid, setEntries_lost (by omega), hd]
    rfl
  have hnone : @NestedVector.read β (depth + 1) (setEntries (IntType.int.wrap n) p d vec.lists child) (n + (p - 1) : ℕ) = none := by
    show ((setEntries (IntType.int.wrap n) p d vec.lists child).toFlatVector.read (n + (p - 1) : ℕ)).bind _ = none
    rw [hcell]
    rfl
  cases hnone.symm.trans hread

/-- The lists that are found are those of the child vector. -/
theorem setEntries_children {vec : NestedVector β (depth + 1)} {child : NestedVector β depth} {d q : ℕ}
    {elements : List (Option β)} (hfit : n + p ≤ 2 ^ 31) (hf : vec.Filled n) (hd : 0 < d)
    (hread : ∀ i < p, @NestedVector.read β (depth + 1) (setEntries n p d vec.lists child) (n + i : ℕ) =
      some (rowMajor (depth + 1) (d :: dims)
        ((elements.drop (i * (d :: dims).prod)).take (d :: dims).prod))) (hq : q < p * d) :
    child.read (vec.lists.size + q : ℕ) = some (rowMajor depth dims ((elements.drop (q * dims.prod)).take dims.prod)) := by
  have hi : q / d < p := Nat.div_lt_of_lt_mul (by rwa [Nat.mul_comm])
  have hj : q % d < d := Nat.mod_lt q hd
  have hcell : (setEntries n p d vec.lists child).toFlatVector.read (n + q / d : ℕ) =
      some (some ⟨vec.lists.size + d * (q / d), d⟩) := setEntries_read hfit hf.flat hi
  have hlist : ((List.range d).mapM fun j : ℕ => child.read ((vec.lists.size + d * (q / d) : ℕ) + j)).map some =
      (some ((List.range d).map fun j => rowMajor depth dims
        ((((elements.drop (q / d * (d * dims.prod))).take (d * dims.prod)).drop (j * dims.prod)).take
          dims.prod))).map some := by
    rw [← List.prod_cons]
    refine Eq.trans ?_ (hread (q / d) hi)
    show _ = ((setEntries n p d vec.lists child).toFlatVector.read (n + q / d : ℕ)).bind _
    rw [hcell]
    rfl
  have hj := mapM_eq_some_iff.1 (Option.map_injective (Option.some_injective _) hlist) (q % d) (List.mem_range.2 hj)
  rw [slice_slice elements (Nat.mod_lt q hd), Nat.div_add_mod] at hj
  rw [← hj, ← Nat.cast_add, Nat.add_assoc, Nat.div_add_mod]

/-- Where every list is found and nothing else was written, all was written rightly. -/
theorem convertDims_fits {vec vec' : NestedVector β depth} (hl : dims.length = depth)
    (h : convertDims L ConvertElement elems dims depth p (IntType.int.wrap n) vec = .ok vec')
    (hall : convertAll ConvertElement elems = .ok leaves) (hlen : leaves.length = c * dims.prod)
    (hle : leaves.length ≤ MaxArraySize)
    (hc : 0 < c) (hpos : ∀ d ∈ dims, 0 < d) (hp : dims ≠ [] → p = c) (hs : Straight p dims)
    (hf : vec.Filled n) (hw : vec.Within vec' n ((n + c : ℕ) : ℤ))
    (hread : ∀ i < c, vec'.read (n + i : ℕ) =
      some (rowMajor depth dims (((L.elements leaves).drop (i * dims.prod)).take dims.prod))) :
    vec.Fits n c dims ∧ L.InPlace (vec.innermost n) leaves := by
  induction dims generalizing depth n c p with
  | nil =>
    subst hl
    rw [List.prod_nil, Nat.mul_one] at hlen
    subst hlen
    obtain rfl : putAll L (IntType.int.wrap n) 0 leaves vec = vec' :=
      Except.ok.inj ((convertElems_ok hall).symm.trans h)
    refine putAll_inPlace hf hc hle hw fun i hi => ?_
    have hi' : i < (L.elements leaves).length := by rwa [LeafType.length_elements]
    exact (hread i hi).trans ((congrArg some (rowMajor_leaf hi')).trans (List.getElem?_eq_getElem hi').symm)
  | cons d dims ih =>
    subst hl
    obtain ⟨child, hchild, rfl⟩ := convertDims_cons h
    obtain rfl := hp (List.cons_ne_nil d dims)
    have hd := hpos d List.mem_cons_self
    obtain ⟨hone, hs⟩ := hs
    have hle' := setEntries_fits hc hf (hread (p - 1) (Nat.sub_lt hc Nat.one_pos))
    have hwrap : IntType.int.wrap n = n := IntType.int_wrap_of_lt (by omega) (by omega)
    rw [hwrap] at hw hread
    have hp' : dims ≠ [] → d = p * d := fun hne => by rw [hone.resolve_left hne, Nat.one_mul]
    have hlen' : leaves.length = p * d * dims.prod := by rw [hlen, List.prod_cons, Nat.mul_assoc]
    have hgrow : vec.lists.size + d * p = vec.lists.size + p * d := by rw [Nat.mul_comm]
    have hchildren : vec.lists.child.Within child vec.lists.size ((vec.lists.size + p * d : ℕ) : ℤ) := by
      rw [← hgrow]
      exact hw.2
    have hrest := ih rfl hchild hlen' (Nat.mul_pos hc hd) (fun m hm => hpos m (List.mem_cons_of_mem d hm)) hp' hs
      hf.2.2 hchildren fun q hq => setEntries_children hle' hf hd hread hq
    exact ⟨⟨hle', hrest.1⟩, hrest.2⟩

end

end PgDuckdb.Chunks
