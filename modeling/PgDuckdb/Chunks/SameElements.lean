import PgDuckdb.Chunks.Rows

/-!
# Two conversions of the elements

An array is read alike with two conversions of its elements when these agree on its elements, as far as they are seen
in the cells, and otherwise not: each element is written to cells that no other one is written to, so that a difference
is still there in the end. Where the dimensions of the array are not those of the type, no element is converted.
-/

namespace PgDuckdb.Chunks

open Lib

section
variable {Elem α β : Type} {depth : ℕ} {L : LeafType α β} {f g : Elem → Except String α} {elems : List (Option Elem)} {dims : List ℕ}
variable {i p : ℕ} {write_offset : ℤ}

/-! ## The elements -/

/-- What the cells of a value hold. -/
def LeafType.image (L : LeafType α β) (value : α) : List β := (List.range L.width).map (L.parts value)

/-- A conversion, as far as it is seen in the cells. -/
def LeafType.seen (L : LeafType α β) (f : Elem → Except String α) (elem : Elem) : Except String (List β) :=
  (f elem).map L.image

/-- All elements, as far as they are seen. -/
theorem convertAll_seen :
    convertAll (L.seen f) elems = (convertAll f elems).map (List.map (Option.map L.image)) := by
  induction elems with
  | nil => rfl
  | cons elem elems ih =>
    have helem : convertElem (L.seen f) elem = (convertElem f elem).map (Option.map L.image) := by
      cases elem with
      | none => rfl
      | some elem =>
        rw [convertElem, LeafType.seen, convertElem]
        cases f elem <;> rfl
    rw [convertAll, convertAll, ih, helem]
    cases convertElem f elem with
    | error text => rfl
    | ok leaf => cases convertAll f elems <;> rfl

/-- Only what is seen is written. -/
theorem append_congr {vec : FlatVector β} {a : ℤ} {value value' : α} (h : L.image value = L.image value') :
    vec.Append L a value = vec.Append L a value' := by
  have hparts : ∀ b : ℤ, L.parts value (b % L.width).toNat = L.parts value' (b % L.width).toNat := by
    intro b
    have hpos : (0 : ℤ) < L.width := Nat.cast_pos.2 L.pos
    have hlt := Int.emod_lt_of_pos b hpos
    exact List.map_inj_left.1 h _ (List.mem_range.2 (by omega))
  unfold FlatVector.Append
  simp only [hparts]

/-- A new vector tells what was written of a value. -/
theorem append_new_inj {value value' : α}
    (h : (FlatVector.new β).Append L (0 : ℕ) value = (FlatVector.new β).Append L (0 : ℕ) value') :
    L.image value = L.image value' := by
  refine List.map_inj_left.2 fun k hk => ?_
  rw [List.mem_range] at hk
  have hdiv : (k : ℤ) / L.width = (0 : ℕ) := by rw [← Int.natCast_div, Nat.div_eq_of_lt hk]
  have hcell := congrFun (congrArg FlatVector.data h) k
  rw [FlatVector.append_data hdiv, FlatVector.append_data hdiv, ← Int.natCast_mod, Int.toNat_natCast,
    Nat.mod_eq_of_lt hk] at hcell
  exact Option.some.inj hcell

/-- Leaves that are seen alike are written alike. -/
theorem putAll_congr {vec : FlatVector β} {leaves leaves' : List (Option α)}
    (h : leaves.map (Option.map L.image) = leaves'.map (Option.map L.image)) :
    putAll L write_offset i leaves vec = putAll L write_offset i leaves' vec := by
  induction leaves generalizing i vec leaves' with
  | nil =>
    cases leaves' with
    | nil => rfl
    | cons leaf' leaves' => cases h
  | cons leaf leaves ih =>
    cases leaves' with
    | nil => cases h
    | cons leaf' leaves' =>
      obtain ⟨hleaf, hleaves⟩ := List.cons.inj h
      have hput : vec.put L (IntType.int.wrap (write_offset + i)) leaf =
          vec.put L (IntType.int.wrap (write_offset + i)) leaf' := by
        cases leaf with
        | none =>
          cases leaf' with
          | none => rfl
          | some value' => cases hleaf
        | some value =>
          cases leaf' with
          | none => cases hleaf
          | some value' => exact append_congr (Option.some.inj hleaf)
      rw [putAll, putAll, hput, ih hleaves]

/-- What the loop makes of the elements, once these are converted. -/
theorem convertElems_eq {vec : FlatVector β} :
    convertElems L f write_offset i elems vec =
      ((convertAll f elems).map fun leaves => putAll L write_offset i leaves vec).mapError .Conversion := by
  cases h : convertAll f elems with
  | error text => exact convertElems_error h
  | ok leaves => exact convertElems_ok h

/-- Elements that are seen alike are written alike. -/
theorem convertElems_congr {vec : FlatVector β} (h : convertAll (L.seen f) elems = convertAll (L.seen g) elems) :
    convertElems L f write_offset i elems vec = convertElems L g write_offset i elems vec := by
  rw [convertAll_seen, convertAll_seen] at h
  rw [convertElems_eq, convertElems_eq, map_eq_map (fun _ _ => putAll_congr) h]

/-- The cells of a new vector tell what was written of each element. -/
theorem putAll_new_inj {leaves leaves' : List (Option α)} (hlen : leaves.length = leaves'.length)
    (hfit : leaves.length ≤ 2 ^ 31)
    (h : putAll L (0 : ℕ) 0 leaves (FlatVector.new β) = putAll L (0 : ℕ) 0 leaves' (FlatVector.new β)) :
    leaves.map (Option.map L.image) = leaves'.map (Option.map L.image) := by
  -- A NULL is seen in the validity, and a value in its cells.
  have hnull : ∀ {l : List (Option α)} {j : ℕ}, l.length ≤ 2 ^ 31 → j < l.length →
      ((putAll L (0 : ℕ) 0 l (FlatVector.new β)).validity (0 + j : ℕ) = false ↔ l[j]? = some none) := by
    intro l j hl hj
    have hget := List.getElem?_eq_getElem hj
    cases hleaf : l[j] with
    | none =>
      rw [hleaf] at hget
      refine iff_of_true ?_ hget
      have hv := @putAll_null _ _ L 0 0 l (FlatVector.new β) j (by omega) hget
      rwa [Nat.zero_add, ← Nat.cast_add] at hv
    | some value =>
      rw [hleaf] at hget
      rw [putAll_valid (by omega) hget, hget]
      exact iff_of_false Bool.noConfusion (by simp)
  have hdata : ∀ {l : List (Option α)} {j : ℕ} {value : α}, l.length ≤ 2 ^ 31 → l[j]? = some (some value) →
      ∀ k < L.width, (putAll L (0 : ℕ) 0 l (FlatVector.new β)).data (L.width * j + k : ℕ) =
        some (L.parts value k) := by
    intro l j value hl hj k hk
    have hdiv : ((L.width * j + k : ℕ) : ℤ) / L.width = (0 : ℕ) + (0 + j : ℕ) := by
      rw [← Int.natCast_div, Nat.mul_add_div L.pos, Nat.div_eq_of_lt hk]
      omega
    rw [putAll_data (by omega) hj hdiv, ← Int.natCast_mod, Int.toNat_natCast, Nat.mul_add_mod, Nat.mod_eq_of_lt hk]
  refine List.ext_getElem? fun j => ?_
  rw [List.getElem?_map, List.getElem?_map]
  rcases Nat.lt_or_ge j leaves.length with hj | hj
  · have hsame := hnull hfit hj
    rw [h, hnull (hlen ▸ hfit) (hlen ▸ hj)] at hsame
    have hget := List.getElem?_eq_getElem hj
    have hj' : j < leaves'.length := hlen ▸ hj
    have hget' := List.getElem?_eq_getElem hj'
    cases hleaf : leaves[j] with
    | none =>
      rw [hleaf] at hget
      rw [hget, hsame.2 hget]
    | some value =>
      rw [hleaf] at hget
      cases hleaf' : leaves'[j] with
      | none =>
        rw [hleaf'] at hget'
        rw [hsame.1 hget'] at hget
        cases hget
      | some value' =>
        rw [hleaf'] at hget'
        rw [hget, hget', Option.map_some, Option.map_some]
        refine congrArg some (congrArg some (List.map_inj_left.2 fun k hk => ?_))
        rw [List.mem_range] at hk
        exact Option.some.inj ((hdata hfit hget k hk).symm.trans (h ▸ hdata (hlen ▸ hfit) hget' k hk))
  · rw [List.getElem?_eq_none hj, List.getElem?_eq_none (hlen ▸ hj)]

/-- What is written to a new vector tells how the elements were converted. -/
theorem convertAll_eq_of_convertElems (hfit : elems.length ≤ 2 ^ 31)
    (h : convertElems L f (0 : ℕ) 0 elems (FlatVector.new β) = convertElems L g (0 : ℕ) 0 elems (FlatVector.new β)) :
    convertAll (L.seen f) elems = convertAll (L.seen g) elems := by
  rw [convertAll_seen, convertAll_seen]
  cases hf : convertAll f elems with
  | error text =>
    rw [convertElems_error hf] at h
    cases hg : convertAll g elems with
    | error text' =>
      rw [convertElems_error hg] at h
      cases h
      rfl
    | ok leaves =>
      rw [convertElems_ok hg] at h
      cases h
  | ok leaves =>
    rw [convertElems_ok hf] at h
    cases hg : convertAll g elems with
    | error text =>
      rw [convertElems_error hg] at h
      cases h
    | ok leaves' =>
      rw [convertElems_ok hg, Except.ok.injEq] at h
      have hlen := convertAll_length hf
      exact congrArg Except.ok (putAll_new_inj (hlen.trans (convertAll_length hg).symm) (hlen ▸ hfit) h)

/-- For conversions that never throw. -/
theorem convertAll_ok_iff {F G : Elem → α} :
    convertAll (fun elem => .ok (F elem)) elems = convertAll (fun elem => .ok (G elem)) elems ↔
      ∀ elem, some elem ∈ elems → F elem = G elem := by
  have hall : ∀ H : Elem → α, convertAll (fun elem => .ok (H elem)) elems = .ok (elems.map (Option.map H)) := by
    intro H
    induction elems with
    | nil => rfl
    | cons elem elems ih =>
      rw [convertAll, ih]
      cases elem <;> rfl
  rw [hall, hall, Except.ok.injEq, List.map_inj_left]
  constructor
  · intro h elem he
    exact Option.some.inj (h _ he)
  · intro h elem he
    cases elem with
    | none => rfl
    | some elem => exact congrArg some (h elem he)

/-! ## The levels -/

/-- Whether elements are converted at all is decided by the dimensions. -/
theorem convertDims_congr {vec : NestedVector β depth}
    (h : dims.length = depth → convertAll (L.seen f) elems = convertAll (L.seen g) elems) :
    convertDims L f elems dims depth p write_offset vec = convertDims L g elems dims depth p write_offset vec := by
  induction dims generalizing depth p write_offset with
  | nil =>
    cases depth with
    | zero => exact convertElems_congr (h rfl)
    | succ depth => rfl
  | cons d dims ih =>
    cases depth with
    | zero => rfl
    | succ depth => rw [convertDims_step, convertDims_step, ih fun hl => h (congrArg (· + 1) hl)]

/-- Vectors that are the same after their entries are set have the same children. -/
theorem setEntries_inj {d : ℕ} {vec : ListVector (NestedVector β depth)} {child child' : NestedVector β depth}
    (h : setEntries write_offset p d vec child = setEntries write_offset p d vec child') : child = child' :=
  congrArg ListVector.child h

/-- The elements are written from the first cell of the innermost vector on. -/
theorem convertElems_eq_of_convertDims (hl : dims.length = depth)
    (h : convertDims L f elems dims depth p (0 : ℕ) (NestedVector.new β depth) =
      convertDims L g elems dims depth p (0 : ℕ) (NestedVector.new β depth)) :
    convertElems L f (0 : ℕ) 0 elems (FlatVector.new β) = convertElems L g (0 : ℕ) 0 elems (FlatVector.new β) := by
  induction dims generalizing depth p with
  | nil =>
    subst hl
    exact h
  | cons d dims ih =>
    rw [List.length_cons] at hl
    subst hl
    have hwrap : IntType.int.wrap ((NestedVector.new β (dims.length + 1)).lists.size : ℤ) = (0 : ℕ) :=
      IntType.int_wrap_of_lt le_rfl (show (0 : ℤ) < 2 ^ 31 by decide)
    rw [convertDims_step, convertDims_step, hwrap] at h
    have hchild := map_inj (fun _ _ => setEntries_inj) h
    exact ih rfl hchild

end

/-- Two conversions read an array alike into all vectors when its elements are seen alike, or none is read. -/
theorem ConvertPostgresToDuckValue_LIST_eq_iff {Elem α β : Type} {depth : ℕ} {L : LeafType α β}
    {f g : Elem → Except String α} {array : ArrayType Elem} :
    (∀ (result : NestedVector β (depth + 1)) (offset : ℕ),
      ConvertPostgresToDuckValue_LIST L f array result offset = ConvertPostgresToDuckValue_LIST L g array result offset) ↔
      (array.dims.length = depth + 1 → convertAll (L.seen f) array.elems = convertAll (L.seen g) array.elems) := by
  constructor
  · intro h hl
    have hne : array.dims ≠ [] := by
      intro hnil
      rw [hnil] at hl
      cases hl
    have hfit : array.elems.length ≤ 2 ^ 31 := by
      have := array.le
      rw [MaxArraySize] at this
      omega
    have h₀ := h (NestedVector.new β (depth + 1)) 0
    rw [ConvertPostgresToDuckValue_LIST, ConvertPostgresToDuckValue_LIST, if_neg hne, if_neg hne] at h₀
    exact convertAll_eq_of_convertElems hfit (convertElems_eq_of_convertDims hl h₀)
  · intro h result offset
    rw [ConvertPostgresToDuckValue_LIST, ConvertPostgresToDuckValue_LIST, convertDims_congr h]

end PgDuckdb.Chunks
