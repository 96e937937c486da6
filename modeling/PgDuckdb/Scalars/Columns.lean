import PgDuckdb.Chunks.Insert
import PgDuckdb.Chunks.Rows
import PgDuckdb.Scalars.Elements

/-!
# Columns of any type

The type of a column is read from the catalog: a domain gives the type it is over, and an array of a domain the
array of that type. The conversion of a value is given the type of the attribute as it is, and that of the
elements of an array as the array names it.
-/

namespace PgDuckdb.Scalars

open Lib Lib.Bytes Chunks

/-! ## The catalog -/

/-- The number of no type. -/
def InvalidOid : Oid := 0

/-- The kind of a domain. -/
def TYPTYPE_DOMAIN : Char := 'd'

/-- A row of `pg_type`. -/
structure FormData_pg_type where
  typlen : ℤ
  typtype : Char
  /-- The type of the elements of a true array type, otherwise `InvalidOid`. -/
  typelem : Oid
  typarray : Oid
  typbasetype : Oid
  typtypmod : BitVec 32

/-- The catalog of types, which has something for an id that is none too. -/
structure Catalog where
  pg_type : Oid → FormData_pg_type
  invalid_typtype : (pg_type InvalidOid).typtype ≠ TYPTYPE_DOMAIN
  invalid_typarray : (pg_type InvalidOid).typarray = InvalidOid
  /-- How many domains are between a type and one that is none. -/
  level : Oid → ℕ
  domain_level {typid : Oid} : (pg_type typid).typtype = TYPTYPE_DOMAIN →
    level (pg_type typid).typbasetype < level typid
  domain_typlen {typid : Oid} : (pg_type typid).typtype = TYPTYPE_DOMAIN →
    (pg_type typid).typlen = (pg_type (pg_type typid).typbasetype).typlen
  domain_typelem {typid : Oid} : (pg_type typid).typtype = TYPTYPE_DOMAIN → (pg_type typid).typelem = InvalidOid
  array_typtype {typid : Oid} : (pg_type typid).typarray ≠ InvalidOid →
    (pg_type (pg_type typid).typarray).typtype ≠ TYPTYPE_DOMAIN
  array_typelem {typid : Oid} : (pg_type typid).typarray ≠ InvalidOid →
    (pg_type (pg_type typid).typarray).typelem = typid
  array_typlen {typid : Oid} : (pg_type typid).typarray ≠ InvalidOid →
    (pg_type (pg_type typid).typarray).typlen = -1

section
variable (C : Catalog)

/-- The kind of a type. -/
def get_typtype (typid : Oid) : Char := (C.pg_type typid).typtype

/-- The element type of an array type. -/
def get_element_type (typid : Oid) : Oid := (C.pg_type typid).typelem

/-- The array type of an element type. -/
def get_array_type (typid : Oid) : Oid := (C.pg_type typid).typarray

/-- The type at the bottom of a stack of domains, and its modifier. -/
def getBaseTypeAndTypmod (typid : Oid) (typmod : BitVec 32) : Oid × BitVec 32 :=
  if _ : (C.pg_type typid).typtype = TYPTYPE_DOMAIN then
    getBaseTypeAndTypmod (C.pg_type typid).typbasetype (C.pg_type typid).typtypmod
  else (typid, typmod)
termination_by C.level typid
decreasing_by exact C.domain_level ‹_›

/-- The type a domain stands over, with itself where it is none. -/
def getBaseType (typid : Oid) : Oid := (getBaseTypeAndTypmod C typid (-1)).1

/-- The element type below domains. -/
def get_base_element_type (typid : Oid) : Oid := get_element_type C (getBaseType C typid)

/-! ## The types of columns -/

/-- A type with elements. -/
def IsArrayType (type_oid : Oid) : Bool := get_element_type C type_oid ≠ InvalidOid

/-- A type that is a domain. -/
def IsDomainType (type_oid : Oid) : Bool := get_typtype C type_oid = TYPTYPE_DOMAIN

/-- A domain over a type with elements. -/
def IsArrayDomainType (type_oid : Oid) : Bool :=
  IsDomainType C type_oid && get_base_element_type C type_oid ≠ InvalidOid

/-- The type below domains, of an array too, and the modifier that comes with it. -/
def GetBaseTypeAndTypmod (attribute_type_oid : Oid) (type_modifier : BitVec 32) : Oid × BitVec 32 :=
  if get_typtype C attribute_type_oid = TYPTYPE_DOMAIN then getBaseTypeAndTypmod C attribute_type_oid type_modifier
  else if get_element_type C attribute_type_oid ≠ InvalidOid then
    let eltoid := get_base_element_type C attribute_type_oid
    if eltoid ≠ InvalidOid ∧ get_typtype C eltoid = TYPTYPE_DOMAIN then
      (get_array_type C (getBaseType C eltoid), type_modifier)
    else (attribute_type_oid, type_modifier)
  else (attribute_type_oid, type_modifier)

/-- An attribute of a table. -/
structure Attribute extends FormData_pg_attribute where
  atttypmod : BitVec 32
  attndims : ℕ

/-- A column of that type. -/
def attributeOf (typid : Oid) (typmod : BitVec 32) (ndims : ℕ) : Attribute where
  atttypid := typid
  attlen := (C.pg_type typid).typlen
  atttypmod := typmod
  attndims := ndims

variable (S : Session)

/-- `ConvertPostgresToBaseDuckColumnType` of an attribute. -/
def baseDuckColumnType (attr : Attribute) : LogicalType :=
  let (typoid, type_modifier) := GetBaseTypeAndTypmod C attr.atttypid attr.atttypmod
  ConvertPostgresToBaseDuckColumnType S attr.atttypid typoid type_modifier

/-- The DuckDB type of a column. -/
def ConvertPostgresToDuckColumnType (attr : Attribute) : LogicalType :=
  let base_type := baseDuckColumnType C S attr
  if base_type.id = .INVALID then base_type
  else if !IsArrayType C attr.atttypid && !IsArrayDomainType C attr.atttypid then base_type
  else
    let dimensions := if attr.attndims = 0 then 1 else attr.attndims
    LogicalType.LIST^[dimensions] base_type

end

/-! ## Values into columns -/

/-- A value, detoasted. -/
inductive Stored
  | scalar (value : Datum)
  /-- With the type of the elements in its header. -/
  | array (elem_type : Oid) (array : ArrayType Datum)

namespace Stored

/-- The word of a value that is no array. -/
def toDatum : Stored → Datum
  | scalar value => value
  | array _ _ => .word 0

/-- The element type that an array carries. -/
def ARR_ELEMTYPE : Stored → Oid
  | scalar _ => InvalidOid
  | array elem_type _ => elem_type

/-- The array of a value, an empty one where it is none. -/
def DatumGetArrayTypeP : Stored → ArrayType Datum
  | scalar _ => ⟨[], [], Nat.zero_le _, fun _ h => absurd h List.not_mem_nil, rfl, Nat.zero_le _⟩
  | array _ a => a

/-- The same value with another type of elements in the header. -/
def withElemType (elem_type : Oid) : Stored → Stored
  | scalar value => scalar value
  | array _ a => array elem_type a

end Stored

/-- What the words in a slot point to. -/
structure Memory where
  DetoastPostgresDatum : Chunks.Datum → Chunks.Datum
  load : Chunks.Datum → Stored

/-- The same values in a column whose arrays have elements of that type. -/
def Memory.withElemType (M : Memory) (elem_type : Oid) : Memory where
  DetoastPostgresDatum := M.DetoastPostgresDatum
  load := fun value => (M.load value).withElemType elem_type

/-- What one cell of a value holds, `none` where it is gone with the statement. -/
def Written.part (size : ℕ) : Written → ℕ → Option Element
  | .plain memory, k => some (.plain ((memory.drop (size * k)).take size))
  | .added text, _ => some (.string text)
  | .temporary text, _ => if text.length ≤ string_t.INLINE_LENGTH then some (.string text) else none

/-- How the values of a type are written. Those of a `TINYINT` are `int16_t`. -/
def leafType (type : LogicalType) : LeafType Written (Option Element) where
  width := if type.id = .TINYINT then 2 else 1
  pos := by split <;> omega
  le := by split <;> omega
  element := fun w => some (w.element type.size)
  parts := Written.part type.size

/-! ## The cells in memory -/

section
variable {E : External} {attr_type : Oid} {type : LogicalType} {value : Datum} {w : Written} {vec : Vector}
variable {i k offset : ℕ}

/-- What is written is as wide as the type of the leaves says. -/
theorem convert_size (h : convert E attr_type type value = .ok w) :
    w.size = (leafType type).width * type.size := by
  by_cases hid : type.id = .TINYINT
  · have htype := type_eq_of_id (.inr hid)
    rw [hid] at htype
    subst htype
    cases h
    exact length_bytes
  · have hwidth : (leafType type).width = 1 := if_neg hid
    rw [hwidth, Nat.one_mul]
    exact (convert_matches h hid).size_eq

/-- The elements of the vector where a value was written are its parts. -/
theorem elementAt_write (h : convert E attr_type type value = .ok w) (hk : k < (leafType type).width) :
    (w.write vec offset).elementAt type ((leafType type).width * offset + k) = (leafType type).parts w k := by
  by_cases hid : type.id = .TINYINT
  · have htype := type_eq_of_id (.inr hid)
    rw [hid] at htype
    subst htype
    cases h
    have hk : k < 2 := hk
    generalize hmemory : bytes 2 value.GetInt16.toNat = memory
    have hlen : memory.length = 2 := hmemory ▸ length_bytes
    have hk : k < memory.length := hlen ▸ hk
    have hcell := @write_memory vec (.plain memory) k offset hk
    have hget := List.getElem?_eq_getElem hk
    rw [show (Written.plain memory).size = 2 from hlen, Written.image, List.getElem?_map, hget] at hcell
    have hbytes : ((Written.plain memory).write vec offset).bytesAt 1 (2 * offset + k) = some [.raw memory[k]] := by
      have hrange : [Byte.raw memory[k]] = (List.range 1).map fun _ => Byte.raw memory[k] := rfl
      rw [Vector.bytesAt, hrange]
      refine mapM_eq_some_iff.2 fun j hj => ?_
      obtain rfl : j = 0 := by simpa using hj
      rw [Nat.one_mul]
      exact hcell
    have hpart : (memory.drop (1 * k)).take 1 = [memory[k]] := by
      rw [Nat.one_mul, List.take_one, List.head?_drop, hget]
      rfl
    show (((Written.plain memory).write vec offset).bytesAt 1 (2 * offset + k)).bind _ =
      some (Element.plain ((memory.drop (1 * k)).take 1))
    rw [hbytes, hpart]
    rfl
  · have hwidth : (leafType type).width = 1 := if_neg hid
    have hm := convert_matches h hid
    rw [hwidth] at hk ⊢
    obtain rfl : k = 0 := by omega
    have hb := @bytesAt_write vec w offset
    rw [hm.size_eq] at hb
    rw [Nat.one_mul, Nat.add_zero, elementAt_of_image hm hb (List.append_nil _).symm]
    cases w with
    | plain memory =>
      have hlen : memory.length = type.size := hm.1
      show some (Element.plain memory) = some (.plain ((memory.drop (type.size * 0)).take type.size))
      rw [Nat.mul_zero, List.drop_zero, List.take_of_length_le (Nat.le_of_eq hlen)]
    | added text => rfl
    | temporary text => rfl

/-- The other elements are as they were. -/
theorem bytesAt_write_other (h : convert E attr_type type value = .ok w)
    (hi : i / (leafType type).width ≠ offset) :
    (w.write vec offset).bytesAt type.size i = vec.bytesAt type.size i := by
  refine bytesAt_congr fun a hlo hhi => write_memory_other ?_
  rw [convert_size h]
  have hsize : type.size * i + type.size = type.size * (i + 1) := (Nat.mul_succ _ _).symm
  have hwidth := (leafType type).pos
  rcases Nat.lt_or_gt_of_ne hi with hlt | hgt
  · left
    have hcell : i + 1 ≤ (leafType type).width * offset :=
      Nat.succ_le_of_lt ((Nat.div_lt_iff_lt_mul hwidth).1 hlt |>.trans_eq (Nat.mul_comm _ _))
    have hmul := Nat.mul_le_mul_left type.size hcell
    rw [Nat.mul_comm (leafType type).width, Nat.mul_assoc]
    rw [← hsize] at hmul
    exact lt_of_lt_of_le hhi hmul
  · right
    have hcell : (leafType type).width * (offset + 1) ≤ i :=
      (Nat.mul_comm _ _).trans_le ((Nat.le_div_iff_mul_le hwidth).1 hgt)
    have hmul := Nat.mul_le_mul_left type.size hcell
    refine le_trans (le_of_eq ?_) (hmul.trans hlo)
    ring

end

/-- Where nothing is wider than a cell, the elements are in their places unless one is left in a temporary. -/
theorem leafType_inPlace_iff {leaves : List (Option Written)} {n : ℕ} (hid : type.id ≠ .TINYINT) :
    (leafType type).InPlace n leaves ↔
      ∀ text, some (.temporary text) ∈ leaves → text.length ≤ string_t.INLINE_LENGTH := by
  rw [LeafType.inPlace_narrow (if_neg hid)]
  constructor
  · intro hplace text htext
    by_contra hlong
    have hpart : (leafType type).parts (.temporary text) 0 = none := if_neg hlong
    cases hpart.symm.trans (hplace _ htext)
  · intro hshort w hw
    cases w with
    | plain memory =>
      show some (Element.plain ((memory.drop (type.size * 0)).take type.size)) = some (.plain (memory.take type.size))
      rw [Nat.mul_zero, List.drop_zero]
    | added text => rfl
    | temporary text => exact if_pos (hshort text hw)

/-- Two elements of type `"char"` are not in their places. -/
example : ¬(leafType (.plain .TINYINT)).InPlace 0 [some (.plain [97, 0]), some (.plain [98, 0])] := by
  intro h
  exact absurd (h 1 (.plain [98, 0]) rfl).1 (by decide)

/-! ## Values into columns of lists -/

/-- A vector of lists around a type that is none. -/
structure Column where
  leaf : LogicalType
  leaf_ne : leaf.id ≠ .LIST
  depth : ℕ
  vector : NestedVector (Option Element) depth

/-- The text of an exception. -/
def ConvertException.text : ConvertException → String
  | OutOfRange e => e.format
  | Internal text => text
  | NotImplemented => "(DuckDB/ConvertPostgresToDuckValue) Unsupported pgduckdb type: %s"

namespace Column

/-- `result.GetType()` -/
def GetType (column : Column) : LogicalType := LogicalType.LIST^[column.depth] column.leaf

/-- Marks a row as NULL, whatever the column's type. -/
def SetInvalid (i : ℕ) : Column → Column
  | ⟨leaf, h, 0, vector⟩ => ⟨leaf, h, 0, FlatVector.SetInvalid vector i⟩
  | ⟨leaf, h, depth + 1, vector⟩ =>
    ⟨leaf, h, depth + 1, { vector.lists with toFlatVector := vector.lists.SetInvalid i }⟩

/-- An element of an array, written to the innermost vector. -/
def convertElement (E : External) (elem_type : Oid) (leaf : LogicalType) (elem : Datum) : Except String Written :=
  (convert E elem_type leaf elem).mapError ConvertException.text

/-- Writes a value into a row, as the column's type wants it. -/
def ConvertPostgresToDuckValue (E : External) (attr_type : Oid) (value : Stored) (offset : ℕ) :
    Column → Except ConvertError Column
  | ⟨leaf, h, 0, vector⟩ =>
    match convertElement E attr_type leaf value.toDatum with
    | .ok w => .ok ⟨leaf, h, 0, FlatVector.Append (leafType leaf) vector offset w⟩
    | .error text => .error (.Conversion text)
  | ⟨leaf, h, depth + 1, vector⟩ =>
    (ConvertPostgresToDuckValue_LIST (leafType leaf) (convertElement E value.ARR_ELEMTYPE leaf)
      value.DatumGetArrayTypeP vector offset).map fun result => ⟨leaf, h, depth + 1, result⟩

end Column

/-- A column as the insertion of rows needs it. -/
def columnOps (E : External) (M : Memory) : ColumnOps ConvertError Column where
  GetType column := column.GetType.id
  SetInvalid := Column.SetInvalid
  DetoastPostgresDatum := M.DetoastPostgresDatum
  ConvertPostgresToDuckValue attr_type value offset column :=
    column.ConvertPostgresToDuckValue E attr_type (M.load value) offset

end PgDuckdb.Scalars
