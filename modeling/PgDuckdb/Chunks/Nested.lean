import Mathlib
import PgDuckdb.Lib.Cells
import PgDuckdb.Lib.Except
import PgDuckdb.Lib.MachineInt
import PgDuckdb.Lib.Run

/-!
# Arrays in list vectors

A vector of lists holds one entry a row, an offset and a length, and the elements of all its rows stand in
one child vector, which is a vector of lists itself where the lists are nested. Postgres keeps an array as
its dimensions and its elements in row-major order. `ConvertPostgresToDuckValue` goes through the dimensions
from the outermost one: each level gets its entries, the child vector below grows, and the elements are
written into the innermost vector, in the way of its type (`LeafType`).

What a row holds is read by following the entries (`NestedVector.read`).
-/

namespace PgDuckdb.Chunks

open Lib

/-! ## Vectors -/

/-- Where the elements of a list stand in the child vector. -/
structure list_entry_t where
  offset : ℕ
  length : ℕ

/-- The cells of a vector, `none` where nothing was written yet. The code computes some indices as an `int`,
so that they may be negative. -/
structure FlatVector (β : Type) where
  data : ℤ → Option β
  validity : ℤ → Bool

/-- A vector of lists: their entries, and the vector they are in. -/
structure ListVector (Child : Type) extends FlatVector list_entry_t where
  /-- `GetListSize`: how far the vector of the children is in use. -/
  size : ℕ
  child : Child

/-- The vectors of a type with so many `LIST`s around a type that is none. -/
def NestedVector (β : Type) : ℕ → Type
  | 0 => FlatVector β
  | depth + 1 => ListVector (NestedVector β depth)

/-- The values of such a type, with `none` for NULL. -/
def Nested (β : Type) : ℕ → Type
  | 0 => Option β
  | depth + 1 => Option (List (Nested β depth))

/-- `Validity(vec).SetInvalid(i)` -/
def FlatVector.SetInvalid {β : Type} (vec : FlatVector β) (i : ℤ) : FlatVector β :=
  { vec with validity := Function.update vec.validity i false }

/-- `data[i] = value`, for a value of the size of a cell. -/
def FlatVector.set {β : Type} (vec : FlatVector β) (i : ℤ) (value : β) : FlatVector β :=
  { vec with data := Function.update vec.data i (some value) }

/-- What was never written. -/
def FlatVector.new (β : Type) : FlatVector β where
  data := fun _ => none
  validity := fun _ => true

/-- A vector without rows. -/
def NestedVector.new (β : Type) : (depth : ℕ) → NestedVector β depth
  | 0 => FlatVector.new β
  | depth + 1 => { FlatVector.new list_entry_t with size := 0, child := NestedVector.new β depth }

/-- The lists of a vector of lists. -/
def NestedVector.lists {β : Type} {depth : ℕ} (vec : NestedVector β (depth + 1)) :
    ListVector (NestedVector β depth) := vec

/-! ## Elements -/

/-- How the values of a type that is no list are written to its vectors: `Append<T>` takes a vector for an array
of `T`, whatever the size of its cells. Only an `int16_t` in a vector of bytes is two cells wide. -/
structure LeafType (α β : Type) where
  /-- `sizeof(T)`, in cells. -/
  width : ℕ
  pos : 0 < width
  le : width ≤ 2
  /-- The element that is meant. -/
  element : α → β
  /-- What the cells of a value hold. -/
  parts : α → ℕ → β

/-- Values of the size of a cell, which is what is meant. -/
def LeafType.own (β : Type) : LeafType β β where
  width := 1
  pos := Nat.one_pos
  le := Nat.le_succ 1
  element := id
  parts := fun value _ => value

/-- `data[i] = value`, where `data` points to values of that width. -/
def FlatVector.Append {α β : Type} (L : LeafType α β) (vec : FlatVector β) (i : ℤ) (value : α) : FlatVector β :=
  { vec with data := fun a => if a / L.width = i then some (L.parts value (a % L.width).toNat) else vec.data a }

/-! ## Arrays -/

/-- `MaxAllocSize / sizeof(Datum)`. -/
def MaxArraySize : ℕ := 134217727

/-- The most dimensions that an array has. -/
def MAXDIM : ℕ := 6

/-- An array of Postgres, deconstructed. Without a dimension it is empty. -/
structure ArrayType (Elem : Type) where
  dims : List ℕ
  elems : List (Option Elem)
  ndim : dims.length ≤ MAXDIM
  pos : ∀ d ∈ dims, 0 < d
  nelems : elems.length = if dims = [] then 0 else dims.prod
  le : elems.length ≤ MaxArraySize

/-! ## The conversion -/

/-- What `ConvertPostgresToDuckValue` throws. -/
inductive ConvertError
  /-- The data contains more dimensions than the schema. -/
  | MoreDimensions
  /-- The data contains fewer dimensions than the schema. -/
  | FewerDimensions
  /-- What the conversion of an element throws. -/
  | Conversion (text : String)

section
variable {Elem α β : Type} {depth : ℕ} (L : LeafType α β) (ConvertElement : Elem → Except String α)

/-- The loop over the elements, from the `i`-th one on. -/
def convertElems (write_offset : ℤ) : ℕ → List (Option Elem) → FlatVector β → Except ConvertError (FlatVector β)
  | _, [], vec => .ok vec
  | i, none :: elems, vec =>
    convertElems write_offset (i + 1) elems (vec.SetInvalid (IntType.int.wrap (write_offset + i)))
  | i, some elem :: elems, vec =>
    match ConvertElement elem with
    | .ok value => convertElems write_offset (i + 1) elems (vec.Append L (IntType.int.wrap (write_offset + i)) value)
    | .error text => .error (.Conversion text)

/-- One level: the entries of its lists, all of one length. Each list of the level above it is taken to be
the only one of its own level. -/
def setEntries (write_offset : ℤ) (previous_dimension dimension : ℕ) (vec : ListVector (NestedVector β depth))
    (child : NestedVector β depth) : ListVector (NestedVector β depth) where
  data := assign previous_dimension (fun entry => IntType.int.wrap (write_offset + entry))
    (fun entry => ⟨vec.size + dimension * entry, dimension⟩) vec.data
  validity := vec.validity
  size := vec.size + dimension * previous_dimension
  child := child

/-- The loop over the dimensions, and then the one over the elements. -/
def convertDims (elems : List (Option Elem)) : (dims : List ℕ) → (depth previous_dimension : ℕ) →
    (write_offset : ℤ) → NestedVector β depth → Except ConvertError (NestedVector β depth)
  | [], 0, _, write_offset, vec => convertElems L ConvertElement write_offset 0 elems vec
  | [], _ + 1, _, _, _ => .error .FewerDimensions
  | _ :: _, 0, _, _, _ => .error .MoreDimensions
  | dimension :: dims, depth + 1, previous_dimension, write_offset, vec => do
    let child ← convertDims elems dims depth dimension (IntType.int.wrap vec.lists.size) vec.lists.child
    return setEntries write_offset previous_dimension dimension vec.lists child

/-- The case of `LIST`. -/
def ConvertPostgresToDuckValue_LIST (array : ArrayType Elem) (result : NestedVector β (depth + 1)) (offset : ℕ) :
    Except ConvertError (NestedVector β (depth + 1)) :=
  let write_offset := IntType.int.wrap offset
  if array.dims = [] then
    .ok { result.lists with toFlatVector := result.lists.set write_offset ⟨result.lists.size, 0⟩ }
  else convertDims L ConvertElement array.elems array.dims (depth + 1) 1 write_offset result

/-- A row: a NULL or an array at the next offset. -/
def insertRow (s : NestedVector β (depth + 1) × ℕ) : Option (ArrayType Elem) → Option (NestedVector β (depth + 1) × ℕ)
  | none => some ({ s.1.lists with toFlatVector := s.1.lists.SetInvalid s.2 }, s.2 + 1)
  | some array =>
    match ConvertPostgresToDuckValue_LIST L ConvertElement array s.1 s.2 with
    | .ok result => some (result, s.2 + 1)
    | .error _ => none

end

/-! ## What a vector holds -/

section
variable {β : Type} {depth : ℕ}

/-- What a cell holds, `none` where nothing was written. -/
def FlatVector.read (vec : FlatVector β) (i : ℤ) : Option (Option β) :=
  if vec.validity i then (vec.data i).map some else some none

/-- The value of a row, if all that it consists of was written. -/
def NestedVector.read : {depth : ℕ} → NestedVector β depth → ℤ → Option (Nested β depth)
  | 0, vec, i => FlatVector.read vec i
  | _ + 1, vec, i => (vec.lists.toFlatVector.read i).bind fun
    | none => some none
    | some entry =>
      ((List.range entry.length).mapM fun j : ℕ => vec.lists.child.read (entry.offset + j)).map some

/-- The sizes of the child vectors, from the outermost one. -/
def NestedVector.sizes : {depth : ℕ} → NestedVector β depth → List ℕ
  | 0, _ => []
  | _ + 1, vec => vec.lists.size :: vec.lists.child.sizes

/-- How many elements the innermost vector holds, `n` where it is this one. -/
def NestedVector.innermost : {depth : ℕ} → NestedVector β depth → ℕ → ℕ
  | 0, _, n => n
  | _ + 1, vec, _ => vec.lists.child.innermost vec.lists.size

/-- The cells are the same but in `[lo, hi)`. -/
def FlatVector.Within (vec vec' : FlatVector β) (lo hi : ℤ) : Prop :=
  ∀ i, i < lo ∨ hi ≤ i → vec'.data i = vec.data i ∧ vec'.validity i = vec.validity i

/-- The same for child vectors, which may change where they grew. -/
def NestedVector.Within : {depth : ℕ} → NestedVector β depth → NestedVector β depth → ℤ → ℤ → Prop
  | 0, vec, vec', lo, hi => FlatVector.Within vec vec' lo hi
  | _ + 1, vec, vec', lo, hi => vec.lists.toFlatVector.Within vec'.lists.toFlatVector lo hi ∧
    vec.lists.child.Within vec'.lists.child vec.lists.size vec'.lists.size

/-- Every list that was written is inside the child vector. -/
def NestedVector.Inside : {depth : ℕ} → NestedVector β depth → Prop
  | 0, _ => True
  | _ + 1, vec => (∀ i entry, vec.lists.data i = some entry → entry.offset + entry.length ≤ vec.lists.size) ∧
    vec.lists.child.Inside

/-- The nested list of such dimensions with such leaves. -/
def rowMajor : (depth : ℕ) → List ℕ → List (Option β) → Nested β depth
  | 0, _, leaves => leaves.head?.join
  | _ + 1, [], _ => some []
  | depth + 1, d :: dims, leaves => some <| (List.range d).map fun i =>
    rowMajor depth dims ((leaves.drop (i * dims.prod)).take dims.prod)

end

end PgDuckdb.Chunks
