import Mathlib
import PgDuckdb.Chunks.Nested
import PgDuckdb.Lib.Program

/-!
# Lists on their way to an array

A value of DuckDB is a list of lists of some depth, each level of variable length (`LIST`) or of a fixed one
(`ARRAY`). Postgres has arrays whose lists of one level all have one length. `AppendValueAtDimension` walks
the value depth first. The first list of a level sets the length of the dimension, the others have to have
the same; the first list of the last level also allocates the buffers, for as many values as the lengths
multiply to; and what is in the lists of that level is converted and written.

The walk descends from a list to its children where these are of type `LIST`. Children of any other type are
taken for the leaves.

`construct_md_array` is Postgres' own. It refuses what is no array of Postgres, and makes one without dimensions of
what has no elements.
-/

namespace PgDuckdb.Arrays

open Lib
open Chunks (MAXDIM MaxArraySize)

/-! ## Values -/

/-- The types that matter here. An array has at least one element. -/
inductive LogicalType
  | LEAF
  | LIST (child : LogicalType)
  | ARRAY (child : LogicalType) (size : ℕ+)

/-- The values of a type, with `none` for NULL. -/
def Value (α : Type) : LogicalType → Type
  | .LEAF => Option α
  | .LIST child => Option (List (Value α child))
  | .ARRAY child size => Option {values : List (Value α child) // values.length = size}

/-- What is in a list or an array, by the type of its children. -/
abbrev Children (α : Type) (child : LogicalType) : Type := Option (List (Value α child))

/-- What is in a list. -/
def Value.listChildren {α : Type} {child : LogicalType} (v : Value α (.LIST child)) : Children α child := v

/-- What is in an array. -/
def Value.arrayChildren {α : Type} {child : LogicalType} {size : ℕ+} (v : Value α (.ARRAY child size)) :
    Children α child := Option.map Subtype.val v

/-- Whether the value is NULL. -/
def Value.IsNull {α : Type} : {t : LogicalType} → Value α t → Bool
  | .LEAF, v => Option.isNone v
  | .LIST _, v => Option.isNone v
  | .ARRAY _ _, v => Option.isNone v

/-- The types whose children are elements. -/
def IsNestedType : LogicalType → Bool
  | .LEAF => false
  | .LIST _ => true
  | .ARRAY _ _ => true

/-- How many levels a type has. The second argument is the depth reached so far. -/
def GetDuckDBListDimensionality : LogicalType → ℕ → ℕ
  | .LEAF, depth => depth
  | .LIST child, depth =>
    if IsNestedType child then GetDuckDBListDimensionality child (depth + 1) else depth + 1
  | .ARRAY child _, depth =>
    if IsNestedType child then GetDuckDBListDimensionality child (depth + 1) else depth + 1

/-! ## The walk -/

/-- What is thrown, with the values that complete the text. -/
inductive ArrayError
  | TooManyValues (size dimension : ℕ)
  | WouldOverflow (to_append dimension : ℕ)
  | WrongLength (expected : ℤ) (dimension to_append : ℕ)
  | NullAtIntermediateDimension
  | NotNested
  /-- Postgres refuses to allocate that many bytes. -/
  | InvalidAllocSize (size : ℕ)
  /-- The children of NULL, which nobody asks for. -/
  | NullChildren
  /-- `pfree` of a null pointer. -/
  | PfreeNull
  /-- What the conversion of a leaf throws. -/
  | Conversion (text : String)
  /-- More dimensions than Postgres has. -/
  | TooManyDimensions (ndims : ℕ)
  /-- The size of the array exceeds the maximum. -/
  | ArrayTooLarge
  /-- The lower bound is too large for the dimension. -/
  | LowerBoundTooLarge

/-- The buffers of an array that is put together. -/
structure PostgresArrayAppendState (Datum : Type) where
  dimensions : List ℤ
  /-- A `uint64`. -/
  expected_values : ℕ
  /-- The number of values that `datums` and `nulls` are asked for, once they are. -/
  requested : Option ℕ
  /-- What was written to `datums` and `nulls`, in order: `count` is its length. -/
  values : List (Option Datum)

/-- The largest `int`. -/
def PG_INT32_MAX : ℕ := 2147483647

/-- The most that `palloc` gives. -/
def MaxAllocSize : ℕ := 0x3fffffff

/-- What goes through the value and fills the buffers. -/
abbrev Walk (Datum : Type) := EStateM ArrayError (PostgresArrayAppendState Datum)

section
variable {α Datum : Type}

/-- The constructor. Nothing is set yet, which -1 stands for. -/
def PostgresArrayAppendState.new (number_of_dimensions : ℕ) : PostgresArrayAppendState Datum where
  dimensions := List.replicate number_of_dimensions (-1)
  expected_values := 1
  requested := none
  values := []

/-- A list of some length at a dimension. Where it is the first one of its dimension the number of expected
values grows, by an unchecked multiplication and then by a checked one. -/
def setDimension (dimension to_append : ℕ) : Walk Datum Unit := fun s =>
  if to_append > PG_INT32_MAX then .error (.TooManyValues to_append dimension) s
  else if s.dimensions.getD dimension 0 = -1 then
    let expected_values := s.expected_values * to_append % 2 ^ 64
    let s := { s with dimensions := s.dimensions.set dimension to_append, expected_values }
    if expected_values * to_append ≥ 2 ^ 64 then .error (.WouldOverflow to_append dimension) s
    else .ok () { s with expected_values := expected_values * to_append }
  else if s.dimensions.getD dimension 0 ≠ to_append then
    .error (.WrongLength (s.dimensions.getD dimension 0) dimension to_append) s
  else .ok () s

/-- A `Datum` takes eight bytes and a `bool` one. Sizes are `uint64` as well. -/
def allocateBuffers : Walk Datum Unit := fun s =>
  if s.requested.isNone then
    let size := s.expected_values * 8 % 2 ^ 64
    let s := { s with requested := some s.expected_values }
    if size > MaxAllocSize then .error (.InvalidAllocSize size) s
    else if s.expected_values > MaxAllocSize then .error (.InvalidAllocSize s.expected_values) s
    else .ok () s
  else .ok () s

variable (ConvertToPostgres : (t : LogicalType) → Value α t → Except String Datum)

/-- A value of the last level. -/
def appendLeaf (t : LogicalType) (child_val : Value α t) : Walk Datum Unit := do
  if child_val.IsNull then modify fun s => { s with values := s.values ++ [none] }
  else match ConvertToPostgres t child_val with
    | .ok datum => modify fun s => { s with values := s.values ++ [some datum] }
    | .error text => throw (.Conversion text)

/-- The value is given by what `GetChildren` returns for it, be it a list or an array. -/
def AppendValueAtDimension : (child_type : LogicalType) → Children α child_type → ℕ → Walk Datum Unit
  | _, none, _ => throw .NullChildren
  | .LIST child, some values, dimension => do
    setDimension dimension values.length
    values.forM fun child_val => do
      if child_val.IsNull then throw .NullAtIntermediateDimension
      AppendValueAtDimension child child_val.listChildren (dimension + 1)
  | .LEAF, some values, dimension => do
    setDimension dimension values.length
    allocateBuffers
    values.forM (appendLeaf ConvertToPostgres .LEAF)
  | .ARRAY child size, some values, dimension => do
    setDimension dimension values.length
    allocateBuffers
    values.forM (appendLeaf ConvertToPostgres (.ARRAY child size))

/-- The children of a value, with their type. -/
def GetChildren : (t : LogicalType) → Value α t → (child : LogicalType) × Children α child
  | .LEAF, _ => ⟨.LEAF, none⟩
  | .LIST child, v => ⟨child, v.listChildren⟩
  | .ARRAY child _, v => ⟨child, v.arrayChildren⟩

/-- What `ConstructArray` is called with. -/
structure ArrayArgs (Datum : Type) where
  requested : Option ℕ
  values : List (Option Datum)
  ndims : ℕ
  dims : List ℤ
  lower_bounds : List ℤ

/-- The elements of the array: it has as many as its dimensions multiply to, and they are read from the
front of the buffers. -/
def ArrayArgs.elements (args : ArrayArgs Datum) : List (Option Datum) :=
  args.values.take args.dims.prod.toNat

/-! ## The array of Postgres -/

/-- An array of Postgres. -/
structure PgArray (Datum : Type) where
  dims : List ℤ
  lower_bounds : List ℤ
  elements : List (Option Datum)

/-- How many elements there are, if that is not too many. It is computed as an `int`. -/
def ArrayGetNItems (dims : List ℤ) : Option ℤ :=
  if dims = [] then some 0
  else (dims.foldlM (fun n d : ℤ => if n * d ≤ PG_INT32_MAX then some (n * d) else none) 1).filter (· ≤ (MaxArraySize : ℤ))

variable (nbytes : List ℤ → List (Option Datum) → ℕ)

/-- `nbytes` is what an array takes with such dimensions and elements: its header, its bitmap of NULLs and the
elements, each aligned. -/
def construct_md_array (args : ArrayArgs Datum) : Except ArrayError (PgArray Datum) :=
  if args.ndims > MAXDIM then .error (.TooManyDimensions args.ndims)
  else match ArrayGetNItems args.dims with
  | none => .error .ArrayTooLarge
  | some nelems =>
    if (List.zipWith (· + ·) args.dims args.lower_bounds).any (· > (PG_INT32_MAX : ℤ)) then .error .LowerBoundTooLarge
    -- an array without elements has no dimensions
    else if nelems = 0 then .ok ⟨[], [], []⟩
    else if nbytes args.dims args.elements > MaxAllocSize then .error .ArrayTooLarge
    else .ok ⟨args.dims, args.lower_bounds, args.elements⟩

/-- What `ConstructArray` was called with, and what it made of it. -/
structure Constructed (Datum : Type) where
  args : ArrayArgs Datum
  array : PgArray Datum

/-- The arguments that the state of the walk gives. -/
def PostgresArrayAppendState.toArgs (number_of_dimensions : ℕ) (append_state : PostgresArrayAppendState Datum) :
    ArrayArgs Datum where
  requested := append_state.requested
  values := append_state.values
  ndims := number_of_dimensions
  -- a dimension that was never reached is below an empty list
  dims := append_state.dimensions.map fun d => if d = -1 then 0 else d
  lower_bounds := List.replicate number_of_dimensions 1

/-- An array of a list or an array of DuckDB. -/
def ConvertDuckToPostgresArray (t : LogicalType) (value : Value α t) : Except ArrayError (Constructed Datum) :=
  let number_of_dimensions := GetDuckDBListDimensionality t 0
  let walk := AppendValueAtDimension ConvertToPostgres (GetChildren t value).1 (GetChildren t value).2 0
  match walk.run (.new number_of_dimensions) with
  | .error e _ => .error e
  | .ok _ append_state =>
    match construct_md_array nbytes (append_state.toArgs number_of_dimensions) with
    | .error e => .error e
    | .ok array =>
      if append_state.expected_values > 0 ∧ append_state.requested = none then .error .PfreeNull
      else .ok ⟨append_state.toArgs number_of_dimensions, array⟩

end

/-! ## Shapes

What the lists of a value are, level by level, and what its leaves are. `arrays` says whether an `ARRAY`
below the outermost level counts as a level or as a leaf. -/

section
variable {α Datum : Type} (ConvertToPostgres : (t : LogicalType) → Value α t → Except String Datum)
variable (arrays : Bool)

/-- The lengths of the lists at a level, from left to right, `none` for NULL. -/
def lists : (child_type : LogicalType) → Children α child_type → ℕ → List (Option ℕ)
  | _, none, 0 => [none]
  | _, none, _ + 1 => []
  | _, some values, 0 => [some values.length]
  | .LEAF, some _, _ + 1 => []
  | .LIST child, some values, level + 1 => values.flatMap fun v => lists child v.listChildren level
  | .ARRAY child _, some values, level + 1 =>
    if arrays then values.flatMap fun v => lists child v.arrayChildren level else []

/-- A leaf as it is to be written. -/
def leaf (t : LogicalType) (v : Value α t) : Option (Except String Datum) :=
  if v.IsNull then none else some (ConvertToPostgres t v)

/-- The leaves in depth-first order. -/
def leaves : (child_type : LogicalType) → Children α child_type → List (Option (Except String Datum))
  | _, none => []
  | .LEAF, some values => values.map (leaf ConvertToPostgres .LEAF)
  | .LIST child, some values => values.flatMap fun v => leaves child v.listChildren
  | .ARRAY child size, some values =>
    if arrays then values.flatMap fun v => leaves child v.arrayChildren
    else values.map (leaf ConvertToPostgres (.ARRAY child size))

/-- Some list is NULL, or two lists of one level have different lengths. -/
def Irregular (child_type : LogicalType) (values : Children α child_type) : Prop :=
  (∃ level, none ∈ lists arrays child_type values level) ∨
  ∃ level m n, some m ∈ lists arrays child_type values level ∧
    some n ∈ lists arrays child_type values level ∧ m ≠ n

/-- Some leaf cannot be converted. -/
def Unconvertible (child_type : LogicalType) (values : Children α child_type) : Prop :=
  ∃ text, some (.error text) ∈ leaves ConvertToPostgres arrays child_type values

end

end PgDuckdb.Arrays
