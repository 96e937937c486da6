import PgDuckdb.Scalars.Columns

/-!
# Domains

What the catalog says of a domain and of arrays of a domain. A stack of domains is gone through to its bottom, and
the array type of a domain gives that of the type below. So a domain has the type of its base type, but the
dimensions of the attribute are not those of an array below the domain, and an array of a domain does not have the
modifier of the base type.
-/

namespace PgDuckdb.Scalars

open Lib Chunks

/-! ## Chains of domains -/

/-- A domain over a type with that modifier, by any number of definitions. -/
inductive Catalog.DomainOf (C : Catalog) (base : Oid) (typmod : BitVec 32) : Oid → Prop
  | base {typid : Oid} : (C.pg_type typid).typtype = TYPTYPE_DOMAIN → (C.pg_type typid).typbasetype = base →
      (C.pg_type typid).typtypmod = typmod → DomainOf C base typmod typid
  | domain {typid : Oid} : (C.pg_type typid).typtype = TYPTYPE_DOMAIN →
      DomainOf C base typmod (C.pg_type typid).typbasetype → DomainOf C base typmod typid

/-- The types that there is a case for, each with its type of arrays. -/
def mappedTypes (S : Session) : List (Oid × Oid) :=
  [(BOOLOID, BOOLARRAYOID), (CHAROID, CHARARRAYOID), (INT2OID, INT2ARRAYOID), (INT4OID, INT4ARRAYOID),
    (INT8OID, INT8ARRAYOID), (BPCHAROID, BPCHARARRAYOID), (TEXTOID, TEXTARRAYOID), (VARCHAROID, VARCHARARRAYOID),
    (DATEOID, DATEARRAYOID), (TIMESTAMPOID, TIMESTAMPARRAYOID), (TIMESTAMPTZOID, 1185),
    (INTERVALOID, INTERVALARRAYOID), (BITOID, BITARRAYOID), (VARBITOID, VARBITARRAYOID), (TIMEOID, TIMEARRAYOID),
    (TIMETZOID, TIMETZARRAYOID), (FLOAT4OID, FLOAT4ARRAYOID), (FLOAT8OID, FLOAT8ARRAYOID),
    (NUMERICOID, NUMERICARRAYOID), (UUIDOID, UUIDARRAYOID), (JSONOID, JSONARRAYOID), (JSONBOID, JSONBARRAYOID),
    (REGCLASSOID, REGCLASSARRAYOID), (BYTEAOID, BYTEAARRAYOID), (S.DuckdbUnionOid, S.DuckdbUnionArrayOid),
    (S.DuckdbStructOid, S.DuckdbStructArrayOid), (S.DuckdbMapOid, S.DuckdbMapArrayOid)]

/-- These types are no domains and no arrays, and have these types of arrays. -/
structure Catalog.Documented (C : Catalog) (S : Session) : Prop where
  typtype : ∀ p ∈ mappedTypes S, (C.pg_type p.1).typtype ≠ TYPTYPE_DOMAIN
  typelem : ∀ p ∈ mappedTypes S, (C.pg_type p.1).typelem = InvalidOid
  typarray : ∀ p ∈ mappedTypes S, (C.pg_type p.1).typarray = p.2
  valid : ∀ p ∈ mappedTypes S, p.2 ≠ InvalidOid

section
variable {C : Catalog} {S : Session} {E : External} {B D typid atttypid : Oid} {m m' : BitVec 32}

/-- A type that is no domain is its own base type, with its own modifier. -/
theorem getBaseTypeAndTypmod_of_ne (h : (C.pg_type typid).typtype ≠ TYPTYPE_DOMAIN) :
    getBaseTypeAndTypmod C typid m = (typid, m) := by
  rw [getBaseTypeAndTypmod, dif_neg h]

/-- A type that is no domain is its own base type. -/
theorem getBaseType_of_ne (h : (C.pg_type typid).typtype ≠ TYPTYPE_DOMAIN) : getBaseType C typid = typid := by
  rw [getBaseType, getBaseTypeAndTypmod_of_ne h]

namespace Catalog.DomainOf

/-- A domain is marked as one. -/
theorem typtype (h : C.DomainOf B m D) : (C.pg_type D).typtype = TYPTYPE_DOMAIN := by
  cases h with
  | base hd _ _ => exact hd
  | domain hd _ => exact hd

/-- A domain has the length of its base type. -/
theorem typlen (h : C.DomainOf B m D) : (C.pg_type D).typlen = (C.pg_type B).typlen := by
  induction h with
  | base hd hb _ => rw [C.domain_typlen hd, hb]
  | domain hd _ ih => rw [C.domain_typlen hd, ih]

/-- The stack of domains is gone through to its bottom. -/
theorem getBaseTypeAndTypmod_eq (h : C.DomainOf B m D) (hB : (C.pg_type B).typtype ≠ TYPTYPE_DOMAIN) :
    getBaseTypeAndTypmod C D m' = (B, m) := by
  induction h generalizing m' with
  | base hd hb hm => rw [getBaseTypeAndTypmod, dif_pos hd, hb, hm, getBaseTypeAndTypmod_of_ne hB]
  | domain hd _ ih => rw [getBaseTypeAndTypmod, dif_pos hd, ih]

/-- The base type of a domain. -/
theorem getBaseType_eq (h : C.DomainOf B m D) (hB : (C.pg_type B).typtype ≠ TYPTYPE_DOMAIN) :
    getBaseType C D = B := by
  rw [getBaseType, h.getBaseTypeAndTypmod_eq hB]

/-- The base type of a domain, with the domain's modifier. -/
theorem GetBaseTypeAndTypmod_eq (h : C.DomainOf B m D) (hB : (C.pg_type B).typtype ≠ TYPTYPE_DOMAIN) :
    GetBaseTypeAndTypmod C D m' = (B, m) := by
  rw [GetBaseTypeAndTypmod, get_typtype, if_pos h.typtype, h.getBaseTypeAndTypmod_eq hB]

end Catalog.DomainOf

/-- A scalar type is its own base type. -/
theorem GetBaseTypeAndTypmod_scalar (ht : (C.pg_type typid).typtype ≠ TYPTYPE_DOMAIN)
    (he : (C.pg_type typid).typelem = InvalidOid) : GetBaseTypeAndTypmod C typid m = (typid, m) := by
  rw [GetBaseTypeAndTypmod, get_typtype, if_neg ht, get_element_type, if_neg (not_not.2 he)]

/-- An array of a type that is no domain is its own base type. -/
theorem GetBaseTypeAndTypmod_array (ht : (C.pg_type typid).typtype ≠ TYPTYPE_DOMAIN)
    (he : (C.pg_type (C.pg_type typid).typelem).typtype ≠ TYPTYPE_DOMAIN) :
    GetBaseTypeAndTypmod C typid m = (typid, m) := by
  have hne : ¬(get_base_element_type C typid ≠ InvalidOid ∧
      get_typtype C (get_base_element_type C typid) = TYPTYPE_DOMAIN) := by
    rw [get_base_element_type, getBaseType_of_ne ht]
    exact fun h => he h.2
  rw [GetBaseTypeAndTypmod, get_typtype, if_neg ht]
  dsimp only
  rw [if_neg hne, ite_self]

/-- An array of a domain stands for an array of the domain's base type. -/
theorem GetBaseTypeAndTypmod_domainArray (ht : (C.pg_type typid).typtype ≠ TYPTYPE_DOMAIN)
    (he : (C.pg_type (C.pg_type typid).typelem).typtype = TYPTYPE_DOMAIN) :
    GetBaseTypeAndTypmod C typid m = (get_array_type C (getBaseType C (C.pg_type typid).typelem), m) := by
  have hvalid : (C.pg_type typid).typelem ≠ InvalidOid := by
    intro h
    rw [h] at he
    exact C.invalid_typtype he
  have helem : get_base_element_type C typid = (C.pg_type typid).typelem := by
    rw [get_base_element_type, getBaseType_of_ne ht]
    rfl
  rw [GetBaseTypeAndTypmod, get_typtype, if_neg ht, get_element_type, if_pos hvalid]
  dsimp only
  rw [helem, if_pos ⟨hvalid, he⟩]

section
variable (h : get_array_type C typid ≠ InvalidOid)
include h

/-- An array type is no domain. -/
theorem typtype_array : (C.pg_type (get_array_type C typid)).typtype ≠ TYPTYPE_DOMAIN := C.array_typtype h

/-- The element type of an array type. -/
theorem typelem_array : (C.pg_type (get_array_type C typid)).typelem = typid := C.array_typelem h

/-- The base element type of an array type. -/
theorem base_element_array : get_base_element_type C (get_array_type C typid) = typid := by
  rw [get_base_element_type, getBaseType_of_ne (typtype_array h)]
  exact typelem_array h

/-- The element type of an array is valid. -/
theorem ne_invalid_of_array : typid ≠ InvalidOid := by
  rintro rfl
  exact h C.invalid_typarray

end

/-! ## The cases of the types -/

/-- A type that is read is a scalar or an array type of the table. -/
theorem mem_mappedTypes (h : (ConvertPostgresToBaseDuckColumnType S atttypid typid m).id ≠ .INVALID) :
    ∃ p ∈ mappedTypes S, typid = p.1 ∨ typid = p.2 := by
  by_contra hnone
  push Not at hnone
  simp only [mappedTypes, List.forall_mem_cons, List.not_mem_nil, false_imp_iff, implies_true, and_true] at hnone
  refine h ?_
  simp [ConvertPostgresToBaseDuckColumnType, hnone, LogicalType.id]

/-- Only numeric types look at the modifier. -/
theorem convert_typmod (h : typid ∉ [NUMERICOID, NUMERICARRAYOID]) :
    ConvertPostgresToBaseDuckColumnType S atttypid typid m =
      ConvertPostgresToBaseDuckColumnType S atttypid typid m' := by
  simp only [ConvertPostgresToBaseDuckColumnType, if_neg h]

/-- A relation between two conditionals with one condition, from their branches. -/
theorem ite_rel {α : Type} {R : α → α → Prop} {c : Prop} [Decidable c] {a a' b b' : α} (ha : R a a') (hb : R b b') :
    R (if c then a else b) (if c then a' else b') := by
  split
  · exact ha
  · exact hb

/-- No type is a list yet, and the type of the attribute itself is in the text of an unsupported type only. -/
theorem convert_cases {atttypid' : Oid} :
    (ConvertPostgresToBaseDuckColumnType S atttypid typid m).id ≠ .LIST ∧
      ((ConvertPostgresToBaseDuckColumnType S atttypid typid m).id ≠ .INVALID →
        ConvertPostgresToBaseDuckColumnType S atttypid' typid m =
          ConvertPostgresToBaseDuckColumnType S atttypid typid m) := by
  unfold ConvertPostgresToBaseDuckColumnType
  repeat'
    refine @ite_rel _ (fun type type' : LogicalType => type.id ≠ .LIST ∧ (type.id ≠ .INVALID → type' = type))
      _ _ _ _ _ _ ?_ ?_
  all_goals first
    | exact ⟨LogicalTypeId.noConfusion, fun _ => rfl⟩
    | exact ⟨LogicalTypeId.noConfusion, fun h => absurd rfl h⟩
    | skip
  refine ⟨?_, fun _ => rfl⟩
  split <;> exact LogicalTypeId.noConfusion

/-- The type of a single value is never a list. -/
theorem convert_id_ne_LIST : (ConvertPostgresToBaseDuckColumnType S atttypid typid m).id ≠ .LIST :=
  (@convert_cases S typid atttypid m atttypid).1

/-- The type of the attribute decides only about the error's text. -/
theorem convert_atttypid {atttypid' : Oid}
    (h : (ConvertPostgresToBaseDuckColumnType S atttypid typid m).id ≠ .INVALID) :
    ConvertPostgresToBaseDuckColumnType S atttypid' typid m =
      ConvertPostgresToBaseDuckColumnType S atttypid typid m :=
  convert_cases.2 h

/-- A numeric without precision is a double where that is asked for, and unsupported otherwise. -/
theorem columnType_unconstrained {setting : Bool} :
    Types.ConvertPostgresToBaseDuckColumnType setting (-1) =
      if setting then .NumericAsDouble
      else .Unsupported (Types.unsupportedMessage (-1) (Types.numeric_typmod_precision (-1))
        (Types.numeric_typmod_scale (-1))) := by
  unfold Types.ConvertPostgresToBaseDuckColumnType
  exact dif_pos (.inl rfl)

/-- A numeric without precision is read as a double only with the setting. -/
theorem setting_of_columnType {setting : Bool}
    (h : Types.ConvertPostgresToBaseDuckColumnType setting m = .NumericAsDouble) : setting = true := by
  cases setting with
  | true => rfl
  | false =>
    unfold Types.ConvertPostgresToBaseDuckColumnType at h
    dsimp only at h
    split at h <;> cases h

/-- The types of a `numeric` among all types. -/
def LogicalType.ofNumeric : Types.ColumnType → LogicalType
  | .DECIMAL t => .DECIMAL t
  | .NumericAsDouble => .NumericAsDouble
  | .Unsupported message => .Unsupported message

/-- The elements of a numeric array have the type of a numeric. -/
theorem convert_numeric : ConvertPostgresToBaseDuckColumnType S atttypid NUMERICARRAYOID m =
    .ofNumeric (Types.ConvertPostgresToBaseDuckColumnType S.duckdb_convert_unsupported_numeric_to_double m) := rfl

/-- The modifier of a `numeric` is missed where it makes the type a `DECIMAL`. -/
theorem convert_numeric_iff (h : (ConvertPostgresToBaseDuckColumnType S atttypid NUMERICARRAYOID m).id ≠ .INVALID) :
    ConvertPostgresToBaseDuckColumnType S D NUMERICARRAYOID (-1) =
        ConvertPostgresToBaseDuckColumnType S atttypid NUMERICARRAYOID m ↔
      ∀ t, Types.ConvertPostgresToBaseDuckColumnType S.duckdb_convert_unsupported_numeric_to_double m ≠ .DECIMAL t := by
  rw [convert_numeric] at h ⊢
  rw [convert_numeric, columnType_unconstrained]
  cases hm : Types.ConvertPostgresToBaseDuckColumnType S.duckdb_convert_unsupported_numeric_to_double m with
  | DECIMAL t =>
    refine iff_of_false ?_ fun hne => hne t rfl
    cases S.duckdb_convert_unsupported_numeric_to_double <;> simp [LogicalType.ofNumeric]
  | NumericAsDouble =>
    rw [setting_of_columnType hm]
    simp
  | Unsupported message =>
    rw [hm] at h
    exact absurd rfl h

/-! ## The types of the columns -/

/-- The two tests for an array say that there is a base element type. -/
theorem isArray_eq : (IsArrayType C typid || IsArrayDomainType C typid) =
    decide (get_base_element_type C typid ≠ InvalidOid) := by
  by_cases h : (C.pg_type typid).typtype = TYPTYPE_DOMAIN
  · simp [IsArrayType, IsArrayDomainType, IsDomainType, get_element_type, get_typtype, h, C.domain_typelem h]
  · simp [IsArrayType, IsArrayDomainType, IsDomainType, get_base_element_type, get_element_type, get_typtype, h,
      getBaseType_of_ne h]
    exact decide_not

/-- A column whose element type is unknown has that type. -/
theorem columnType_invalid {attr : Attribute} (h : (baseDuckColumnType C S attr).id = .INVALID) :
    ConvertPostgresToDuckColumnType C S attr = baseDuckColumnType C S attr := by
  rw [ConvertPostgresToDuckColumnType]
  exact if_pos h

/-- A column without an element type has the type of its single value. -/
theorem columnType_scalar {attr : Attribute} (h : get_base_element_type C attr.atttypid = InvalidOid) :
    ConvertPostgresToDuckColumnType C S attr = baseDuckColumnType C S attr := by
  have harray := @isArray_eq C attr.atttypid
  rw [h] at harray
  have hnot : (!IsArrayType C attr.atttypid && !IsArrayDomainType C attr.atttypid) = true := by
    rw [← Bool.not_or, harray]
    simp
  rw [ConvertPostgresToDuckColumnType]
  dsimp only
  rw [hnot, if_pos rfl, ite_self]

/-- A column of arrays is a list of as many levels as it has dimensions. -/
theorem columnType_array {attr : Attribute} (h : get_base_element_type C attr.atttypid ≠ InvalidOid)
    (hvalid : (baseDuckColumnType C S attr).id ≠ .INVALID) :
    ConvertPostgresToDuckColumnType C S attr =
      LogicalType.LIST^[if attr.attndims = 0 then 1 else attr.attndims] (baseDuckColumnType C S attr) := by
  have harray := @isArray_eq C attr.atttypid
  have hnot : (!IsArrayType C attr.atttypid && !IsArrayDomainType C attr.atttypid) = false := by
    rw [← Bool.not_or, harray]
    simpa using h
  rw [ConvertPostgresToDuckColumnType]
  dsimp only
  rw [if_neg hvalid, hnot]
  rfl

/-- A column of a known type has a known element type. -/
theorem base_valid {attr : Attribute} (h : (ConvertPostgresToDuckColumnType C S attr).id ≠ .INVALID) :
    (baseDuckColumnType C S attr).id ≠ .INVALID := by
  intro hbase
  rw [columnType_invalid hbase] at h
  exact h hbase

/-! ## Base types -/

section
variable {ndims : ℕ}

/-- The base element type of a type that is no domain. -/
theorem get_base_element_type_base (hB : (C.pg_type B).typtype ≠ TYPTYPE_DOMAIN) :
    get_base_element_type C B = (C.pg_type B).typelem := by
  rw [get_base_element_type, getBaseType_of_ne hB]
  rfl

/-- The element type of a scalar column. -/
theorem baseDuckColumnType_scalar (hB : (C.pg_type B).typtype ≠ TYPTYPE_DOMAIN)
    (he : (C.pg_type B).typelem = InvalidOid) :
    baseDuckColumnType C S (attributeOf C B m ndims) = ConvertPostgresToBaseDuckColumnType S B B m := by
  rw [baseDuckColumnType, attributeOf, GetBaseTypeAndTypmod_scalar hB he]

/-- The element type of an array column. -/
theorem baseDuckColumnType_array (hB : (C.pg_type B).typtype ≠ TYPTYPE_DOMAIN)
    (he : (C.pg_type (C.pg_type B).typelem).typtype ≠ TYPTYPE_DOMAIN) :
    baseDuckColumnType C S (attributeOf C B m ndims) = ConvertPostgresToBaseDuckColumnType S B B m := by
  rw [baseDuckColumnType, attributeOf, GetBaseTypeAndTypmod_array hB he]

/-- An array type with elements of a domain has no case of its own. -/
theorem Catalog.Documented.invalid_of_domain (hC : C.Documented S)
    (he : (C.pg_type (C.pg_type B).typelem).typtype = TYPTYPE_DOMAIN) :
    (ConvertPostgresToBaseDuckColumnType S atttypid B m).id = .INVALID := by
  by_contra hne
  obtain ⟨p, hp, rfl | rfl⟩ := mem_mappedTypes hne
  · rw [hC.typelem p hp] at he
    exact C.invalid_typtype he
  · have harray : get_array_type C p.1 = p.2 := hC.typarray p hp
    rw [← harray, typelem_array (harray ▸ hC.valid p hp)] at he
    exact hC.typtype p hp he

namespace Catalog.DomainOf

variable (hD : C.DomainOf B m D) (hB : (C.pg_type B).typtype ≠ TYPTYPE_DOMAIN)
include hD hB

/-- A domain has the base element type of its base type. -/
theorem get_base_element_type_eq : get_base_element_type C D = (C.pg_type B).typelem := by
  rw [get_base_element_type, hD.getBaseType_eq hB]
  rfl

/-- A domain has the element type of its base type, with the domain's own modifier. -/
theorem baseDuckColumnType_eq :
    baseDuckColumnType C S (attributeOf C D m' ndims) = ConvertPostgresToBaseDuckColumnType S D B m := by
  rw [baseDuckColumnType, attributeOf, hD.GetBaseTypeAndTypmod_eq hB]

/-- The modifier is that of the attribute. -/
theorem baseDuckColumnType_arrays (hA : get_array_type C D ≠ InvalidOid) :
    baseDuckColumnType C S (attributeOf C (get_array_type C D) m' ndims) =
      ConvertPostgresToBaseDuckColumnType S (get_array_type C D) (get_array_type C B) m' := by
  have he : (C.pg_type (C.pg_type (get_array_type C D)).typelem).typtype = TYPTYPE_DOMAIN := by
    rw [typelem_array hA]
    exact hD.typtype
  rw [baseDuckColumnType, attributeOf, GetBaseTypeAndTypmod_domainArray (typtype_array hA) he, typelem_array hA,
    hD.getBaseType_eq hB]

end Catalog.DomainOf

/-- A column of arrays over any element type that is read. -/
theorem columnType_arrays (hA : get_array_type C typid ≠ InvalidOid)
    (hvalid : (baseDuckColumnType C S (attributeOf C (get_array_type C typid) m ndims)).id ≠ .INVALID) :
    ConvertPostgresToDuckColumnType C S (attributeOf C (get_array_type C typid) m ndims) =
      LogicalType.LIST^[if ndims = 0 then 1 else ndims]
        (baseDuckColumnType C S (attributeOf C (get_array_type C typid) m ndims)) := by
  refine columnType_array ?_ hvalid
  rw [attributeOf, base_element_array hA]
  exact ne_invalid_of_array hA

end

end

end PgDuckdb.Scalars
