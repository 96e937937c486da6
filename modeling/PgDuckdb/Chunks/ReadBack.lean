import PgDuckdb.Chunks.Rows

/-!
# Reading arrays back

The rows of a vector in the order in which they are written, from any offset on. A row is read rightly if it
is the nested list of the array, each child vector grew by as many lists or elements as there are, and nothing
else changed. Along a run the next row is read rightly just when all dimensions of its array but the last two
are 1, no index leaves the range of an `int` and the elements are in their places in the innermost vector, unless the
array is turned down.
-/

namespace PgDuckdb.Chunks

open Lib

section
variable {Elem α β : Type} {depth : ℕ} {L : LeafType α β} {ConvertElement : Elem → Except String α}
variable {n c p : ℕ} {a lo hi : ℤ} {dims : List ℕ} {leaves : List (Option α)}

/-! ## Other rows -/

/-- A row is as before when neither its cell nor the end of a child vector, where its lists never are, is in
question. -/
theorem NestedVector.Within.read {vec vec' : NestedVector β depth} (hw : vec.Within vec' lo hi)
    (hf : vec.Filled n) (ha : a < lo ∨ hi ≤ a) : vec'.read a = vec.read a := by
  induction depth generalizing lo hi n a with
  | zero => exact FlatVector.SameAt.read (hw a ha)
  | succ depth ih =>
    obtain ⟨hflat, hchild⟩ := hw
    obtain ⟨-, hentries, hcf⟩ := hf
    have hcell : vec'.lists.toFlatVector.read a = vec.lists.toFlatVector.read a :=
      FlatVector.SameAt.read (hflat a ha)
    rw [NestedVector.read, NestedVector.read, hcell]
    cases hr : vec.lists.toFlatVector.read a with
    | none => rfl
    | some cell =>
      cases cell with
      | none => rfl
      | some entry =>
        have hle := hentries a entry (FlatVector.data_of_read hr)
        have hsame : ∀ j ∈ List.range entry.length, vec'.lists.child.read (entry.offset + j) =
            vec.lists.child.read (entry.offset + j) := by
          intro j hj
          rw [List.mem_range] at hj
          exact ih hchild hcf (.inl (by omega))
        show ((List.range entry.length).mapM fun j : ℕ => vec'.lists.child.read (entry.offset + j)).map some =
          ((List.range entry.length).mapM fun j : ℕ => vec.lists.child.read (entry.offset + j)).map some
        rw [mapM_congr hsame]

/-! ## The dimensions -/

/-- The two ways of counting the sizes agree just when the dimensions are straight. -/
theorem neighbours_eq_products_iff (hpos : ∀ d ∈ dims, 0 < d) :
    neighbours p dims = products p dims ↔ Straight p dims := by
  induction dims generalizing p with
  | nil => exact ⟨fun _ => trivial, fun _ => rfl⟩
  | cons d dims ih =>
    have hd := hpos d List.mem_cons_self
    have hpos' : ∀ m ∈ dims, 0 < m := fun m hm => hpos m (List.mem_cons_of_mem d hm)
    rw [neighbours, products, Nat.mul_comm d p, List.cons.injEq, and_iff_right rfl, Straight]
    cases dims with
    | nil => exact ⟨fun _ => ⟨.inl rfl, trivial⟩, fun _ => rfl⟩
    | cons m dims =>
      constructor
      · intro h
        have hm := hpos' m List.mem_cons_self
        have hhead : m * d = p * d * m := (List.cons.inj h).1
        have hone : p = 1 := by
          rw [Nat.mul_comm m d, Nat.mul_assoc] at hhead
          exact (Nat.eq_of_mul_eq_mul_right (Nat.mul_pos hd hm) ((Nat.one_mul _).trans hhead)).symm
        rw [hone, Nat.one_mul] at h
        exact ⟨.inr hone, (ih hpos').1 h⟩
      · rintro ⟨hone, hs⟩
        rw [hone.resolve_left (List.cons_ne_nil m dims), Nat.one_mul]
        exact (ih hpos').2 hs

/-- Dimensions are straight just when the number of rows and all of them but the last two are one. -/
theorem straight_iff : Straight p dims ↔ ∀ d ∈ (p :: dims).take (dims.length - 1), d = 1 := by
  induction dims generalizing p with
  | nil => exact ⟨fun _ _ h => absurd h List.not_mem_nil, fun _ => trivial⟩
  | cons d dims ih =>
    rw [Straight, ih]
    cases dims with
    | nil => exact ⟨fun _ _ h => absurd h List.not_mem_nil, fun _ => ⟨.inl rfl, fun _ h => absurd h List.not_mem_nil⟩⟩
    | cons m dims =>
      show _ ↔ ∀ x ∈ p :: (d :: m :: dims).take dims.length, x = 1
      rw [List.forall_mem_cons]
      exact and_congr_left fun _ => ⟨fun h => h.resolve_left (List.cons_ne_nil m dims), .inr⟩

/-- The dimensions of one row are straight just when all but the last two are one. -/
theorem straight_one_iff : Straight 1 dims ↔ ∀ d ∈ dims.take (dims.length - 2), d = 1 := by
  rw [straight_iff]
  rcases Nat.lt_or_ge 1 dims.length with hl | hl
  · obtain ⟨k, hk⟩ : ∃ k, dims.length = k + 2 := ⟨dims.length - 2, by omega⟩
    have hk₁ : dims.length - 1 = k + 1 := by omega
    have hk₂ : dims.length - 2 = k := by omega
    rw [hk₁, hk₂, List.take_succ_cons, List.forall_mem_cons, and_iff_right rfl]
  · rw [Nat.sub_eq_zero_of_le hl, Nat.sub_eq_zero_of_le (Nat.le_succ_of_le hl)]
    exact ⟨fun _ _ h => absurd h List.not_mem_nil, fun _ _ h => absurd h List.not_mem_nil⟩

/-- A vector has a size for each level. -/
theorem length_sizes {vec : NestedVector β depth} : vec.sizes.length = depth := by
  induction depth with
  | zero => rfl
  | succ depth ih => exact congrArg (· + 1) ih

/-- There is a product for each dimension. -/
theorem length_products : (products p dims).length = dims.length := by
  induction dims generalizing p with
  | nil => rfl
  | cons d dims ih => exact congrArg (· + 1) ih

/-- There is a neighbour for each dimension. -/
theorem length_neighbours : (neighbours p dims).length = dims.length := by
  induction dims generalizing p with
  | nil => rfl
  | cons d dims ih => exact congrArg (· + 1) ih

/-- What was added to the same sizes was the same. -/
theorem zipWith_add_inj {s : List ℕ} : ∀ {x y : List ℕ}, x.length = s.length → y.length = s.length →
    List.zipWith (· + ·) s x = List.zipWith (· + ·) s y → x = y := by
  induction s with
  | nil =>
    intro x y hx hy _
    rw [List.length_eq_zero_iff.1 hx, List.length_eq_zero_iff.1 hy]
  | cons n s ih =>
    rintro (_ | ⟨a, x⟩) (_ | ⟨b, y⟩) hx hy h
    · rfl
    · cases hx
    · cases hy
    · obtain ⟨hab, hxy⟩ := List.cons.inj h
      rw [Nat.add_left_cancel hab, ih (Nat.succ.inj hx) (Nat.succ.inj hy) hxy]

/-! ## The property -/

/-- A row was written: it is read back, each child vector grew by the product of the dimensions down to its own,
and all else is as it was. -/
structure ReadsBack (vec vec' : NestedVector β (depth + 1)) (offset : ℕ) (dims : List ℕ)
    (elements : List (Option β)) : Prop where
  value : vec'.read offset = some (rowMajor (depth + 1) dims elements)
  sizes : vec'.sizes = if dims = [] then vec.sizes else List.zipWith (· + ·) vec.sizes (products 1 dims)
  within : vec.Within vec' offset ((offset + 1 : ℕ) : ℤ)
  inside : vec'.Inside
  others : ∀ row : ℕ, row ≠ offset → vec'.read row = vec.read row

/-- An exception for dimensions that are not those of the type or an element that does not convert, and else the
array is written. -/
def ReadsArray (L : LeafType α β) (ConvertElement : Elem → Except String α) (vec : NestedVector β (depth + 1)) (offset : ℕ)
    (array : ArrayType Elem) : Prop :=
  if array.dims ≠ [] ∧ array.dims.length ≠ depth + 1 then
    ∃ e, ConvertPostgresToDuckValue_LIST L ConvertElement array vec offset = .error e
  else match convertAll ConvertElement array.elems with
    | .error _ => ∃ e, ConvertPostgresToDuckValue_LIST L ConvertElement array vec offset = .error e
    | .ok leaves => ∃ result, ConvertPostgresToDuckValue_LIST L ConvertElement array vec offset = .ok result ∧
      ReadsBack vec result offset array.dims (L.elements leaves)

/-- A row is written rightly: NULL is NULL, and no other row changes. -/
def ReadsRow (L : LeafType α β) (ConvertElement : Elem → Except String α) (s : NestedVector β (depth + 1) × ℕ) :
    Option (ArrayType Elem) → Prop
  | none => ∀ s', insertRow L ConvertElement s none = some s' →
    s'.1.read s.2 = some (none : Option _) ∧ ∀ row : ℕ, row ≠ s.2 → s'.1.read row = s.1.read row
  | some array => ReadsArray L ConvertElement s.1 s.2 array

/-- Unless the array is turned down, all its dimensions but the last two are 1, no index leaves the range of an `int`,
and the elements are in their places. -/
def Meets (L : LeafType α β) (ConvertElement : Elem → Except String α) (s : NestedVector β (depth + 1) × ℕ) :
    Option (ArrayType Elem) → Prop
  | none => True
  | some array => (array.dims = [] ∨ array.dims.length = depth + 1) →
    ∀ leaves, convertAll ConvertElement array.elems = .ok leaves →
    (∀ d ∈ array.dims.take (array.dims.length - 2), d = 1) ∧ s.1.Fits s.2 1 array.dims ∧
      L.InPlace (s.1.innermost s.2) leaves

/-! ## One row -/

section
variable {vec result : NestedVector β (depth + 1)} {array : ArrayType Elem} {offset : ℕ}

/-- The entry of an empty array. -/
theorem convert_empty (hd : array.dims = []) :
    ConvertPostgresToDuckValue_LIST L ConvertElement array vec offset =
      .ok { vec.lists with toFlatVector := vec.lists.set (IntType.int.wrap offset) ⟨vec.lists.size, 0⟩ } :=
  if_pos hd

/-- An array with dimensions is written by the walk over them. -/
theorem convert_dims (hd : array.dims ≠ []) :
    ConvertPostgresToDuckValue_LIST L ConvertElement array vec offset =
      convertDims L ConvertElement array.elems array.dims (depth + 1) 1 (IntType.int.wrap offset) vec :=
  if_neg hd

/-- There are as many leaves as the dimensions multiply to. -/
theorem leaves_length (hd : array.dims ≠ []) (hall : convertAll ConvertElement array.elems = .ok leaves) :
    leaves.length = 1 * array.dims.prod := by
  rw [convertAll_length hall, array.nelems, if_neg hd, Nat.one_mul]

/-- The rows around the one that is written. -/
theorem others_of_within (hf : vec.Filled offset) (hw : vec.Within result offset ((offset + 1 : ℕ) : ℤ)) (row : ℕ)
    (hrow : row ≠ offset) : result.read row = vec.read row :=
  hw.read hf (by omega)

/-- A vector differs from itself in no row. -/
theorem within_refl {vec : NestedVector β depth} : vec.Within vec lo hi := by
  induction depth generalizing lo hi with
  | zero => exact fun _ _ => ⟨rfl, rfl⟩
  | succ depth ih => exact ⟨fun _ _ => ⟨rfl, rfl⟩, ih⟩

/-- An array without dimensions is an empty list. -/
theorem convert_empty_filled (hd : array.dims = []) (hf : vec.Filled offset) (hfit : offset + 1 ≤ 2 ^ 31)
    (h : ConvertPostgresToDuckValue_LIST L ConvertElement array vec offset = .ok result) :
    ReadsBack vec result offset array.dims [] ∧ result.Filled (offset + 1) := by
  rw [convert_empty hd, IntType.int_wrap_of_lt (by omega) (by omega)] at h
  cases h
  obtain ⟨hflat, hentries, hcf⟩ := hf
  have hwithin : vec.lists.toFlatVector.Within (vec.lists.set offset ⟨vec.lists.size, 0⟩) offset
      ((offset + 1 : ℕ) : ℤ) := fun a ha => ⟨Function.update_of_ne (by omega) _ _, rfl⟩
  have hread : (vec.lists.toFlatVector.set offset ⟨vec.lists.size, 0⟩).read offset =
      some (some ⟨vec.lists.size, 0⟩) :=
    FlatVector.set_read (hflat offset (.inr (le_refl _))).2
  have hin : ∀ a entry, (vec.lists.set offset ⟨vec.lists.size, 0⟩).data a = some entry →
      entry.offset + entry.length ≤ vec.lists.size := by
    intro a entry ha
    rcases eq_or_ne a offset with rfl | hne
    · cases (Function.update_self (offset : ℤ) _ vec.lists.data).symm.trans ha
      exact Nat.le_of_eq (Nat.add_zero _)
    · exact hentries a entry ((Function.update_of_ne hne _ vec.lists.data).symm.trans ha)
  have hall : vec.Within { vec.lists with toFlatVector := vec.lists.set offset ⟨vec.lists.size, 0⟩ } offset
      ((offset + 1 : ℕ) : ℤ) := ⟨hwithin, within_refl⟩
  refine ⟨⟨?_, ?_, hall, ⟨hin, hcf.inside⟩, ?_⟩, hflat.within hwithin, hin, hcf⟩
  · rw [hd]
    show ((vec.lists.set offset ⟨vec.lists.size, 0⟩).read offset).bind _ = _
    rw [hread]
    rfl
  · rw [hd, if_pos rfl]
    rfl
  · exact others_of_within ⟨hflat, hentries, hcf⟩ hall

/-- Behind the range of an index nothing is read. -/
theorem convert_empty_lost (hd : array.dims = []) (hf : vec.Filled offset) (hfit : ¬offset + 1 ≤ 2 ^ 31)
    (h : ConvertPostgresToDuckValue_LIST L ConvertElement array vec offset = .ok result) :
    result.read offset = none := by
  rw [convert_empty hd] at h
  cases h
  have hlt := @IntType.int_wrap_lt (offset : ℤ)
  have hne : (offset : ℤ) ≠ IntType.int.wrap offset := by omega
  have hsame : vec.lists.toFlatVector.SameAt
      (vec.lists.set (IntType.int.wrap offset) ⟨vec.lists.size, 0⟩) offset :=
    FlatVector.set_other hne
  show ((vec.lists.set (IntType.int.wrap offset) ⟨vec.lists.size, 0⟩).read offset).bind _ = _
  rw [hsame.read, hf.flat.read (.inr (le_refl _))]
  rfl

/-- An array with dimensions. -/
theorem convert_dims_filled (hd : array.dims ≠ []) (hl : array.dims.length = depth + 1) (hf : vec.Filled offset)
    (hall : convertAll ConvertElement array.elems = .ok leaves) (hs : Straight 1 array.dims)
    (hfit : vec.Fits offset 1 array.dims) (hplace : L.InPlace (vec.innermost offset) leaves)
    (h : ConvertPostgresToDuckValue_LIST L ConvertElement array vec offset = .ok result) :
    ReadsBack vec result offset array.dims (L.elements leaves) ∧ result.Filled (offset + 1) := by
  rw [convert_dims hd] at h
  have hlen := leaves_length hd hall
  have hw := convertDims_wrote hl h hall hlen Nat.one_pos array.pos (fun _ => rfl) hs hfit hplace hf
  have hread := hw.read 0 Nat.one_pos
  rw [Nat.zero_mul, List.drop_zero, List.take_of_length_le (by rw [LeafType.length_elements]; omega)] at hread
  refine ⟨⟨hread, ?_, hw.within, hw.filled.inside, others_of_within hf hw.within⟩, hw.filled⟩
  rw [if_neg hd, convertDims_sizes hl h, (neighbours_eq_products_iff array.pos).2 hs]

/-- What is read back was written under the condition. -/
theorem ReadsBack.meets (hl : array.dims.length = depth + 1) (hd : array.dims ≠ []) (hf : vec.Filled offset)
    (hall : convertAll ConvertElement array.elems = .ok leaves)
    (h : ConvertPostgresToDuckValue_LIST L ConvertElement array vec offset = .ok result)
    (hr : ReadsBack vec result offset array.dims (L.elements leaves)) :
    Straight 1 array.dims ∧ vec.Fits offset 1 array.dims ∧ L.InPlace (vec.innermost offset) leaves := by
  rw [convert_dims hd] at h
  have hsizes := hr.sizes
  rw [if_neg hd, convertDims_sizes hl h] at hsizes
  have hs : Straight 1 array.dims := by
    refine (neighbours_eq_products_iff array.pos).1 (zipWith_add_inj ?_ ?_ hsizes)
    · rw [length_neighbours, length_sizes, hl]
    · rw [length_products, length_sizes, hl]
  have hlen := leaves_length hd hall
  have hle : leaves.length ≤ MaxArraySize := (convertAll_length hall).trans_le array.le
  refine ⟨hs, convertDims_fits hl h hall hlen hle Nat.one_pos array.pos (fun _ => rfl) hs hf hr.within ?_⟩
  intro i hi
  obtain rfl : i = 0 := by omega
  rw [Nat.zero_mul, List.drop_zero, List.take_of_length_le (by rw [LeafType.length_elements]; omega)]
  exact hr.value

end

/-! ## All rows -/

section
variable {s s' : NestedVector β (depth + 1) × ℕ} {row : Option (ArrayType Elem)}

/-- The row of an array is the array, converted at its place. -/
theorem insertRow_array {array : ArrayType Elem} (h : insertRow L ConvertElement s (some array) = some s') :
    ConvertPostgresToDuckValue_LIST L ConvertElement array s.1 s.2 = .ok s'.1 ∧ s'.2 = s.2 + 1 := by
  rw [insertRow] at h
  cases hc : ConvertPostgresToDuckValue_LIST L ConvertElement array s.1 s.2 with
  | error e =>
    rw [hc] at h
    cases h
  | ok result =>
    rw [hc] at h
    cases h
    exact ⟨rfl, rfl⟩

/-- Whether the dimensions are those of the type. -/
theorem convert_mismatch {array : ArrayType Elem} (hd : array.dims ≠ []) (hl : array.dims.length ≠ depth + 1) :
    ∃ e, ConvertPostgresToDuckValue_LIST L ConvertElement array s.1 s.2 = .error e := by
  rw [convert_dims hd]
  exact convertDims_mismatch hl

/-- A NULL changes no other row. -/
theorem null_within (vec : NestedVector β (depth + 1)) (n : ℕ) :
    vec.Within { vec.lists with toFlatVector := vec.lists.SetInvalid n } n ((n + 1 : ℕ) : ℤ) :=
  ⟨fun _ ha => ⟨rfl, Function.update_of_ne (by omega) _ _⟩, within_refl⟩

/-- A row that meets the condition leaves the next rows to be written. -/
theorem insertRow_filled (hf : s.1.Filled s.2) (hm : Meets L ConvertElement s row)
    (h : insertRow L ConvertElement s row = some s') : s'.1.Filled s'.2 := by
  cases row with
  | none =>
    cases h
    obtain ⟨hflat, hentries, hcf⟩ := hf
    exact ⟨hflat.within (null_within s.1 s.2).1, hentries, hcf⟩
  | some array =>
    obtain ⟨hc, ho⟩ := insertRow_array h
    rw [ho]
    by_cases hd : array.dims = []
    · have hnil : array.elems = [] := List.eq_nil_of_length_eq_zero (by rw [array.nelems, if_pos hd])
      have hfit := (hm (.inl hd) [] (by rw [hnil]; rfl)).2.1.le
      exact (convert_empty_filled hd hf hfit hc).2
    · have hl : array.dims.length = depth + 1 := by
        by_contra hl
        obtain ⟨e, he⟩ := @convert_mismatch _ _ _ _ L ConvertElement s array hd hl
        cases he.symm.trans hc
      cases hall : convertAll ConvertElement array.elems with
      | error text =>
        rw [convert_dims hd, convertDims_error hl hall] at hc
        cases hc
      | ok leaves =>
        obtain ⟨hs, hfit, hplace⟩ := hm (.inr hl) leaves hall
        exact (convert_dims_filled hd hl hf hall (straight_one_iff.2 hs) hfit hplace hc).2

/-- The next array is read rightly if and only if it meets the condition. -/
theorem readsArray_iff {array : ArrayType Elem} (hf : s.1.Filled s.2) :
    ReadsArray L ConvertElement s.1 s.2 array ↔ Meets L ConvertElement s (some array) := by
  unfold ReadsArray
  by_cases hd : array.dims = []
  · have hnil : array.elems = [] := List.eq_nil_of_length_eq_zero (by rw [array.nelems, if_pos hd])
    have hall : convertAll ConvertElement array.elems = .ok [] := by
      rw [hnil]
      rfl
    rw [if_neg fun h => h.1 hd, hall]
    constructor
    · rintro ⟨result, hc, hr⟩ - leaves hleaves
      cases hall.symm.trans hleaves
      have hfit : s.2 + 1 ≤ 2 ^ 31 := by
        by_contra hfit
        cases hr.value.symm.trans (convert_empty_lost hd hf hfit hc)
      rw [hd]
      refine ⟨fun d hm => absurd hm List.not_mem_nil, hfit, fun i value hi => ?_⟩
      cases hi
    · intro hm
      have hfit := (hm (.inl hd) [] hall).2.1.le
      have hc := @convert_empty _ _ _ _ L ConvertElement s.1 array s.2 hd
      exact ⟨_, hc, (convert_empty_filled hd hf hfit hc).1⟩
  · by_cases hl : array.dims.length = depth + 1
    · rw [if_neg fun h => h.2 hl]
      cases hall : convertAll ConvertElement array.elems with
      | error text =>
        constructor
        · rintro - - leaves h
          cases hall.symm.trans h
        · intro _
          exact ⟨.Conversion text, (convert_dims hd).trans (convertDims_error hl hall)⟩
      | ok leaves =>
        constructor
        · rintro ⟨result, hc, hr⟩ - leaves' hleaves
          cases hall.symm.trans hleaves
          obtain ⟨hs, hfit⟩ := hr.meets hl hd hf hall hc
          exact ⟨straight_one_iff.1 hs, hfit⟩
        · intro hm
          obtain ⟨hs, hfit, hplace⟩ := hm (.inr hl) leaves hall
          obtain ⟨result, hc⟩ := @convertDims_ok _ _ _ _ L ConvertElement 1 (IntType.int.wrap s.2) array.dims
            array.elems leaves s.1 hl hall
          have hc : ConvertPostgresToDuckValue_LIST L ConvertElement array s.1 s.2 = .ok result :=
            (convert_dims hd).trans hc
          exact ⟨result, hc, (convert_dims_filled hd hl hf hall (straight_one_iff.2 hs) hfit hplace hc).1⟩
    · rw [if_pos ⟨hd, hl⟩]
      exact ⟨fun _ h => (h.elim hd hl).elim, fun _ => convert_mismatch hd hl⟩

/-- A row comes back just when it meets what the writing asks. -/
theorem readsRow_iff (hf : s.1.Filled s.2) : ReadsRow L ConvertElement s row ↔ Meets L ConvertElement s row := by
  cases row with
  | none =>
    refine ⟨fun _ => trivial, fun _ s' h => ?_⟩
    cases h
    refine ⟨?_, others_of_within hf (null_within s.1 s.2)⟩
    have hnull : (s.1.lists.SetInvalid s.2).read s.2 = some none := if_neg (by simp [FlatVector.SetInvalid])
    show ((s.1.lists.SetInvalid s.2).read s.2).bind _ = _
    rw [hnull]
    rfl
  | some array => exact readsArray_iff hf

end

variable (L ConvertElement) in
/-- Along any rows, from any offset on, every row is read rightly if and only if every row meets the condition in the
state it is written in. -/
theorem ConvertPostgresToDuckValue_readsRows_iff (depth offset : ℕ) (rows : List (Option (ArrayType Elem))) :
    AllowedRun (insertRow L ConvertElement) (ReadsRow L ConvertElement) (NestedVector.new β (depth + 1), offset) rows ↔
    AllowedRun (insertRow L ConvertElement) (Meets L ConvertElement) (NestedVector.new β (depth + 1), offset) rows := by
  constructor
  · intro h
    refine h.imp (I := fun s => s.1.Filled s.2) NestedVector.filled_new ?_ ?_
    · exact fun s row s' hf hr => insertRow_filled hf ((readsRow_iff hf).1 hr)
    · exact fun s row hf hr => (readsRow_iff hf).1 hr
  · intro h
    refine h.imp (I := fun s => s.1.Filled s.2) NestedVector.filled_new ?_ ?_
    · exact fun s row s' hf hm => insertRow_filled hf hm
    · exact fun s row hf hm => (readsRow_iff hf).2 hm

end

/-- `{{{1, 2}, {3, 4}}, {{5, 6}, {7, 8}}}`. -/
def cube : ArrayType ℕ where
  dims := [2, 2, 2]
  elems := [some 1, some 2, some 3, some 4, some 5, some 6, some 7, some 8]
  ndim := by decide
  pos := by simp
  nelems := rfl
  le := by simp [MaxArraySize]

/-- The innermost vector grows by four for its eight elements. -/
theorem cube_not_read :
    ¬AllowedRun (insertRow (.own ℕ) Except.ok) (ReadsRow (.own ℕ) Except.ok) (NestedVector.new ℕ 3, 0)
      [some cube] := by
  rintro ⟨⟨result, hc, hr⟩, -⟩
  have hsizes : result.sizes = [2, 4, 4] := by
    cases hc
    rfl
  cases hsizes.symm.trans hr.sizes

end PgDuckdb.Chunks
