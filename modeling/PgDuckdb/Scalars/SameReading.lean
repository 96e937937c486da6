import PgDuckdb.Chunks.SameElements
import PgDuckdb.Scalars.Domains

/-!
# Columns that are read alike

When a column of a domain, or of arrays of a domain, is read like one of the type that the domain is over. Where the
types of the columns agree, the values do but for the texts of `jsonb` and `char(n)`: their conversion is chosen by
the type of the attribute, or of the elements, so that a domain is read as if it were over `text`.
-/

namespace PgDuckdb.Scalars

open Lib Chunks

section
variable {C : Catalog} {S : Session} {E : External} {B D typid atttypid : Oid} {m m' : BitVec 32}

/-! ## Texts -/

/-- The text that a value of that type gives. -/
def textOf (E : External) (attr_type : Oid) (value : Datum) : Written :=
  if attr_type = JSONBOID then AppendJsonb E value else AppendString value (attr_type = BPCHAROID)

/-- A value whose bytes are its text. -/
def PlainText (E : External) (attr_type : Oid) (value : Datum) : Prop :=
  (attr_type = JSONBOID → E.JsonbToCString value.VARDATA_ANY = value.VARDATA_ANY) ∧
  (attr_type = BPCHAROID → value.VARDATA_ANY.getLast? ≠ some 32)

/-- A text column gets the text of the value. -/
theorem convert_text {leaf : LogicalType} {value : Datum} (h : leaf.id = .VARCHAR) :
    convert E typid leaf value = .ok (textOf E typid value) := by
  cases leaf with
  | JSON => rfl
  | plain id =>
    have hid : id = .VARCHAR := h
    subst hid
    rfl
  | NumericAsDouble => cases h
  | DECIMAL t => cases h
  | LIST child => cases h
  | Unsupported message => cases h

/-- Outside text columns the type of the value does not matter: every leaf reads it alike. -/
theorem convert_other {leaf : LogicalType} {value : Datum} (h : leaf.id ≠ .VARCHAR) :
    convert E D leaf value = convert E B leaf value := by
  cases leaf with
  | JSON => exact absurd rfl h
  | plain id =>
    cases id with
    | VARCHAR => exact absurd rfl h
    | _ => rfl
  | _ => rfl

/-- Two types give a value one text just when the value is plain text for both. -/
theorem textOf_eq_iff {value : Datum} (hj : D ≠ JSONBOID) (hb : D ≠ BPCHAROID) :
    textOf E D value = textOf E B value ↔ PlainText E B value := by
  have hD : textOf E D value = .added value.VARDATA_ANY := by
    rw [textOf, if_neg hj, AppendString_eq]
    simp [hb]
  have hne : BPCHAROID ≠ JSONBOID := by decide
  rw [hD, PlainText]
  by_cases hBj : B = JSONBOID
  · subst hBj
    rw [textOf, if_pos rfl, AppendJsonb]
    simp [hne.symm, eq_comm]
  · rw [textOf, if_neg hBj, AppendString_eq]
    by_cases hBb : B = BPCHAROID
    · subst hBb
      rw [← rdropWhile_eq_self_iff]
      simp [hne, eq_comm]
    · simp [hBj, hBb]

/-- An element of a text list becomes the text of the value. -/
theorem convertElement_of_text {leaf : LogicalType} (h : leaf.id = .VARCHAR) :
    Column.convertElement E typid leaf = fun elem => .ok (textOf E typid elem) := by
  funext elem
  rw [Column.convertElement, convert_text h]
  rfl

/-- Outside text lists the type of an element does not matter. -/
theorem convertElement_other {leaf : LogicalType} (h : leaf.id ≠ .VARCHAR) :
    Column.convertElement E D leaf = Column.convertElement E B leaf := by
  funext elem
  rw [Column.convertElement, Column.convertElement, convert_other h]

/-- A text is seen as it is. -/
theorem image_textOf {leaf : LogicalType} (h : leaf.id = .VARCHAR) {value : Datum} :
    (leafType leaf).image (textOf E D value) = (leafType leaf).image (textOf E B value) ↔
      textOf E D value = textOf E B value := by
  have hwidth : (leafType leaf).width = 1 := if_neg (by rw [h]; decide)
  have hadded : ∀ typid, ∃ text, textOf E typid value = .added text := by
    intro typid
    unfold textOf
    exact text_added
  obtain ⟨text, htext⟩ := hadded D
  obtain ⟨text', htext'⟩ := hadded B
  rw [htext, htext', LeafType.image, LeafType.image, hwidth]
  simp [leafType, Written.part]

section
variable {leaf : LogicalType} (hj : D ≠ JSONBOID) (hb : D ≠ BPCHAROID)
variable (hleaf : B = JSONBOID ∨ B = BPCHAROID → leaf.id = .VARCHAR)
include hj hb hleaf

/-- A value that is no text of the type is seen alike whatever its type. -/
theorem seen_eq_iff {value : Datum} :
    (leafType leaf).seen (Column.convertElement E D leaf) value =
      (leafType leaf).seen (Column.convertElement E B leaf) value ↔ PlainText E B value := by
  by_cases h : leaf.id = .VARCHAR
  · rw [convertElement_of_text h, convertElement_of_text h, ← textOf_eq_iff hj hb, ← image_textOf h]
    exact ⟨Except.ok.inj, congrArg Except.ok⟩
  · rw [convertElement_other h]
    exact iff_of_true rfl ⟨fun hB => absurd (hleaf (.inl hB)) h, fun hB => absurd (hleaf (.inr hB)) h⟩

/-- The elements of an array are seen alike just when all of them are plain text for the type. -/
theorem seenAll_eq_iff {elems : List (Option Datum)} :
    convertAll ((leafType leaf).seen (Column.convertElement E D leaf)) elems =
        convertAll ((leafType leaf).seen (Column.convertElement E B leaf)) elems ↔
      ∀ elem, some elem ∈ elems → PlainText E B elem := by
  by_cases h : leaf.id = .VARCHAR
  · rw [convertElement_of_text h, convertElement_of_text h]
    refine (@convertAll_ok_iff _ _ elems (fun elem => (leafType leaf).image (textOf E D elem))
      fun elem => (leafType leaf).image (textOf E B elem)).trans ?_
    exact forall₂_congr fun elem _ => (image_textOf h).trans (textOf_eq_iff hj hb)
  · rw [convertElement_other h]
    exact iff_of_true rfl fun _ _ =>
      ⟨fun hB => absurd (hleaf (.inl hB)) h, fun hB => absurd (hleaf (.inr hB)) h⟩

end

/-! ## Columns -/

/-- The levels of a list type and its element type are determined by the type. -/
theorem iterate_LIST_inj {type type' : LogicalType} (h : type.id ≠ .LIST) (h' : type'.id ≠ .LIST) {n n' : ℕ} :
    LogicalType.LIST^[n] type = LogicalType.LIST^[n'] type' ↔ n = n' ∧ type = type' := by
  induction n generalizing n' with
  | zero =>
    cases n' with
    | zero => simp
    | succ n' =>
      rw [Function.iterate_succ_apply']
      refine iff_of_false ?_ (by simp)
      intro heq
      have heq : type = .LIST (LogicalType.LIST^[n'] type') := heq
      exact h (heq ▸ rfl)
  | succ n ih =>
    cases n' with
    | zero =>
      rw [Function.iterate_succ_apply']
      refine iff_of_false ?_ (by simp)
      intro heq
      have heq : .LIST (LogicalType.LIST^[n] type) = type' := heq
      exact h' (heq ▸ rfl)
    | succ n' => rw [Function.iterate_succ_apply', Function.iterate_succ_apply', LogicalType.LIST.injEq, ih, Nat.succ_inj]

/-- A type with a level is a list. -/
theorem iterate_LIST_id {type : LogicalType} {n : ℕ} : (LogicalType.LIST^[n + 1] type).id = .LIST := by
  rw [Function.iterate_succ_apply']
  rfl

/-- The columns of a type are its vectors. -/
theorem forall_column_iff {leaf : LogicalType} (h : leaf.id ≠ .LIST) {n : ℕ} {P : Column → Prop} :
    (∀ column : Column, column.GetType = LogicalType.LIST^[n] leaf → P column) ↔
      ∀ vector : NestedVector (Option Element) n, P ⟨leaf, h, n, vector⟩ := by
  constructor
  · exact fun hall vector => hall ⟨leaf, h, n, vector⟩ rfl
  · rintro hall ⟨leaf', h', n', vector⟩ htype
    obtain ⟨rfl, rfl⟩ := (iterate_LIST_inj h' h).1 htype
    exact hall vector

section
variable {leaf : LogicalType} {elem_type elem_type' : Oid} {value : Stored}

/-- A column determines its vector. -/
theorem mk_inj {h : leaf.id ≠ .LIST} {n : ℕ} : Function.Injective (Column.mk leaf h n) := by
  intro vector vector' heq
  simpa using heq

/-- A single value is read alike just when what is seen of it is the same. -/
theorem scalar_alike_iff (h : leaf.id ≠ .LIST) :
    (∀ column : Column, column.GetType = leaf → ∀ offset,
      column.ConvertPostgresToDuckValue E D (value.withElemType elem_type) offset =
        column.ConvertPostgresToDuckValue E B (value.withElemType elem_type') offset) ↔
      (leafType leaf).seen (Column.convertElement E D leaf) value.toDatum =
        (leafType leaf).seen (Column.convertElement E B leaf) value.toDatum := by
  have hdatum : ∀ e, (value.withElemType e).toDatum = value.toDatum := by
    intro e
    cases value <;> rfl
  have hconvert : ∀ (o e : Oid) (vector : NestedVector (Option Element) 0) (offset : ℕ),
      (Column.mk leaf h 0 vector).ConvertPostgresToDuckValue E o (value.withElemType e) offset =
        ((Column.convertElement E o leaf value.toDatum).map
          fun w => ⟨leaf, h, 0, FlatVector.Append (leafType leaf) vector offset w⟩).mapError ConvertError.Conversion := by
    intro o e vector offset
    rw [Column.ConvertPostgresToDuckValue, hdatum]
    cases Column.convertElement E o leaf value.toDatum <;> rfl
  refine (@forall_column_iff _ h 0 _).trans ?_
  constructor
  · intro hall
    have h₀ := hall (NestedVector.new (Option Element) 0) 0
    rw [hconvert, hconvert] at h₀
    exact map_eq_map (fun _ _ heq => append_new_inj (mk_inj heq))
      (mapError_inj (fun _ _ => ConvertError.Conversion.inj) h₀)
  · intro heq vector offset
    rw [hconvert, hconvert]
    refine congrArg (Except.mapError ConvertError.Conversion) (map_eq_map (fun _ _ hsame => ?_) heq)
    exact congrArg (Column.mk leaf h 0) (append_congr hsame)

/-- An array is read alike just when what is seen of its elements is the same. -/
theorem list_alike_iff (h : leaf.id ≠ .LIST) {n : ℕ} :
    (∀ column : Column, column.GetType = LogicalType.LIST^[n + 1] leaf → ∀ offset,
      column.ConvertPostgresToDuckValue E D (value.withElemType elem_type) offset =
        column.ConvertPostgresToDuckValue E B (value.withElemType elem_type') offset) ↔
      (value.DatumGetArrayTypeP.dims.length = n + 1 →
        convertAll ((leafType leaf).seen (Column.convertElement E elem_type leaf)) value.DatumGetArrayTypeP.elems =
          convertAll ((leafType leaf).seen (Column.convertElement E elem_type' leaf))
            value.DatumGetArrayTypeP.elems) := by
  refine (forall_column_iff h).trans ?_
  cases value with
  | scalar d =>
    refine iff_of_true (fun _ _ => rfl) ?_
    intro hl
    cases hl
  | array elem_type₀ array =>
    rw [← ConvertPostgresToDuckValue_LIST_eq_iff]
    refine forall₂_congr fun vector offset => ?_
    exact ⟨map_inj mk_inj, congrArg (Except.map (Column.mk leaf h (n + 1)))⟩

end

/-! ## Tables with one column -/

/-- What the conversion is given: a value, or what it is detoasted to. -/
def Memory.read (M : Memory) (attr : Attribute) (value : Chunks.Datum) : Stored :=
  M.load (if attr.attlen = -1 then M.DetoastPostgresDatum value else value)

/-- The arrays of a column have elements of the type that the type of the attribute says. -/
def attributeOps (C : Catalog) (E : External) (M : Memory) (attr : Attribute) : ColumnOps ConvertError Column :=
  columnOps E (M.withElemType (get_base_element_type C attr.atttypid))

/-- A row of one column that holds `value`. -/
def attributeSlot (attr : Attribute) (value : Chunks.Datum) : TupleTableSlot where
  tts_tupleDescriptor := ⟨1, fun _ => attr.toFormData_pg_attribute⟩
  tts_values := fun _ => value
  tts_isnull := fun _ => false

/-- What the conversion makes of a value in a column of that attribute. -/
def convertAttribute (C : Catalog) (E : External) (M : Memory) (attr : Attribute) (value : Chunks.Datum) (offset : ℕ)
    (column : Column) : Except ConvertError Column :=
  column.ConvertPostgresToDuckValue E attr.atttypid
    ((M.read attr value).withElemType (get_base_element_type C attr.atttypid)) offset

section
variable {M : Memory} {attr attr' : Attribute} {value : Chunks.Datum} {s : ScanState Column}

/-- The column operation of a tuple of one column is the conversion of its value. -/
theorem insertAttribute_eq {i offset : ℕ} {column : Column} :
    insertAttribute (attributeOps C E M attr) (attributeSlot attr value).tts_tupleDescriptor (attributeSlot attr value) i
        offset column =
      convertAttribute C E M attr value offset column := by
  rw [insertAttribute, insertValue, convertAttribute, Memory.read, if_neg (by exact Bool.false_ne_true)]
  split
  next h =>
    have h : attr.attlen = -1 := h
    rw [if_pos h]
    rfl
  next h =>
    have h : ¬attr.attlen = -1 := h
    rw [if_neg h]
    rfl

/-- A tuple of one column fills the column by the conversion of its value. -/
theorem insertTuple_eq (hc : s.count_tuples_only = false) :
    InsertTupleIntoChunk (attributeOps C E M attr) s (attributeSlot attr value) =
      (convertAttribute C E M attr value s.output_vector_size (s.data 0)).map
        fun column => s.after 1 (Function.update s.data 0 column) := by
  have hrange : List.range (attributeSlot attr value).tts_tupleDescriptor.natts = [0] := rfl
  rw [InsertTupleIntoChunk, if_neg (by rw [hc]; exact Bool.false_ne_true)]
  dsimp only
  rw [hrange, List.foldlM_cons, stepAt, insertAttribute_eq]
  cases convertAttribute C E M attr value s.output_vector_size (s.data 0) <;> rfl

/-- Rows of one column fill it one value after the other. -/
theorem insertRows_eq {values : List Chunks.Datum} {offset : ℕ} {column : Column} :
    insertRows (attributeOps C E M attr) (attributeSlot attr value).tts_tupleDescriptor
        ((values.map (attributeSlot attr)).zipIdx offset) 0 column =
      (values.zipIdx offset).foldlM (fun column row => convertAttribute C E M attr row.1 row.2 column) column := by
  rw [insertRows, List.zipIdx_map, List.foldlM_map]
  refine congrFun (congrFun (congrArg _ (funext fun column => funext fun row => ?_)) _) _
  exact insertAttribute_eq

/-- A batch is converted value by value. -/
theorem insertTuples_rows {values : List Chunks.Datum} :
    InsertTuplesIntoChunk (attributeOps C E M attr) s ((value :: values).map (attributeSlot attr)) =
      (((value :: values).zipIdx s.output_vector_size).foldlM
        (fun column row => convertAttribute C E M attr row.1 row.2 column) (s.data 0)).map
          fun column => s.after (values.length + 1) (Function.update s.data 0 column) := by
  have hrange : List.range (attributeSlot attr value).tts_tupleDescriptor.natts = [0] := rfl
  rw [← @insertRows_eq C E M attr value, List.map_cons, InsertTuplesIntoChunk, insertColumns_eq, hrange,
    List.foldlM_cons, stepAt, List.length_map]
  cases insertRows (attributeOps C E M attr) (attributeSlot attr value).tts_tupleDescriptor
    ((attributeSlot attr value :: values.map (attributeSlot attr)).zipIdx s.output_vector_size) 0 (s.data 0) <;> rfl

/-- A batch of one tuple fills the column as the tuple alone does. -/
theorem insertTuples_eq :
    InsertTuplesIntoChunk (attributeOps C E M attr) s [attributeSlot attr value] =
      (convertAttribute C E M attr value s.output_vector_size (s.data 0)).map
        fun column => s.after 1 (Function.update s.data 0 column) := by
  refine (@insertTuples_rows C E M attr value s []).trans ?_
  rw [List.zipIdx_singleton, List.foldlM_cons]
  cases convertAttribute C E M attr value s.output_vector_size (s.data 0) <;> rfl

end

/-- Both attributes are of the same type of DuckDB, are taken for thread safe or not, and a value is read alike, by
itself or in a batch, whatever the column holds already. -/
structure SameReading (C : Catalog) (S : Session) (E : External) (M : Memory) (attr attr' : Attribute)
    (value : Chunks.Datum) : Prop where
  type : ConvertPostgresToDuckColumnType C S attr = ConvertPostgresToDuckColumnType C S attr'
  thread_safe :
    IsThreadSafeTypeForPostgresToDuckDB attr.atttypid (ConvertPostgresToDuckColumnType C S attr).id =
      IsThreadSafeTypeForPostgresToDuckDB attr'.atttypid (ConvertPostgresToDuckColumnType C S attr').id
  tuple : ∀ s : ScanState Column, (s.data 0).GetType = ConvertPostgresToDuckColumnType C S attr' →
    InsertTupleIntoChunk (attributeOps C E M attr) s (attributeSlot attr value) =
      InsertTupleIntoChunk (attributeOps C E M attr') s (attributeSlot attr' value)
  tuples : ∀ s : ScanState Column, (s.data 0).GetType = ConvertPostgresToDuckColumnType C S attr' →
    InsertTuplesIntoChunk (attributeOps C E M attr) s [attributeSlot attr value] =
      InsertTuplesIntoChunk (attributeOps C E M attr') s [attributeSlot attr' value]

/-- Two columns read a value alike just when type, threshold and conversion agree. -/
theorem sameReading_iff {M : Memory} {attr attr' : Attribute} {value : Chunks.Datum} :
    SameReading C S E M attr attr' value ↔
      ConvertPostgresToDuckColumnType C S attr = ConvertPostgresToDuckColumnType C S attr' ∧
      IsThreadSafeTypeForPostgresToDuckDB attr.atttypid (ConvertPostgresToDuckColumnType C S attr).id =
        IsThreadSafeTypeForPostgresToDuckDB attr'.atttypid (ConvertPostgresToDuckColumnType C S attr').id ∧
      ∀ column : Column, column.GetType = ConvertPostgresToDuckColumnType C S attr' → ∀ offset,
        convertAttribute C E M attr value offset column = convertAttribute C E M attr' value offset column := by
  constructor
  · rintro ⟨htype, hsafe, htuple, -⟩
    refine ⟨htype, hsafe, fun column hcolumn offset => ?_⟩
    have h := htuple ⟨fun _ => column, offset, 0, false, 0, 0, 0⟩ hcolumn
    rw [insertTuple_eq rfl, insertTuple_eq rfl] at h
    refine map_inj ?_ h
    intro column₁ column₂ heq
    have hdata := congrFun (congrArg ScanState.data heq) 0
    simpa [ScanState.after] using hdata
  · rintro ⟨htype, hsafe, hconvert⟩
    refine ⟨htype, hsafe, fun s hs => ?_, fun s hs => ?_⟩
    · cases hc : s.count_tuples_only with
      | true => rw [InsertTupleIntoChunk, InsertTupleIntoChunk, if_pos hc, if_pos hc]; rfl
      | false => rw [insertTuple_eq hc, insertTuple_eq hc, hconvert _ hs]
    · rw [insertTuples_eq, insertTuples_eq, hconvert _ hs]

/-! ## Any number of rows -/

section
variable {M : Memory} {attr attr' : Attribute} {value : Chunks.Datum} {values : List Chunks.Datum}
variable {column column' : Column} {s : ScanState Column} {offset : ℕ}

/-- A column keeps its type. -/
theorem convertAttribute_type (h : convertAttribute C E M attr value offset column = .ok column') :
    column'.GetType = column.GetType := by
  obtain ⟨leaf, hleaf, depth, vector⟩ := column
  cases depth with
  | zero =>
    rw [convertAttribute, Column.ConvertPostgresToDuckValue] at h
    split at h
    · cases h
      rfl
    · cases h
  | succ depth =>
    rw [convertAttribute, Column.ConvertPostgresToDuckValue] at h
    revert h
    cases ConvertPostgresToDuckValue_LIST _ _ _ _ _ with
    | error e =>
      intro h
      cases h
    | ok vector' =>
      intro h
      cases h
      rfl

/-- Columns that read every value of a list alike fill a vector alike. -/
theorem convertRows_alike (h : ∀ value ∈ values, SameReading C S E M attr attr' value)
    (hc : column.GetType = ConvertPostgresToDuckColumnType C S attr') :
    (values.zipIdx offset).foldlM (fun column row => convertAttribute C E M attr row.1 row.2 column) column =
      (values.zipIdx offset).foldlM (fun column row => convertAttribute C E M attr' row.1 row.2 column) column := by
  induction values generalizing offset column with
  | nil => rfl
  | cons value values ih =>
    have hvalue := (sameReading_iff.1 (h value List.mem_cons_self)).2.2 column hc offset
    rw [List.zipIdx_cons, List.foldlM_cons, List.foldlM_cons, hvalue]
    cases hr : convertAttribute C E M attr' value offset column with
    | error e => rfl
    | ok column' =>
      exact ih (fun v hv => h v (List.mem_cons_of_mem _ hv)) ((convertAttribute_type hr).trans hc)

/-- A batch of values that are read alike one by one. -/
theorem SameReading.batch (h : ∀ value ∈ values, SameReading C S E M attr attr' value)
    (hs : (s.data 0).GetType = ConvertPostgresToDuckColumnType C S attr') :
    InsertTuplesIntoChunk (attributeOps C E M attr) s (values.map (attributeSlot attr)) =
      InsertTuplesIntoChunk (attributeOps C E M attr') s (values.map (attributeSlot attr')) := by
  cases values with
  | nil => rfl
  | cons value values =>
    rw [insertTuples_rows, insertTuples_rows, convertRows_alike h hs]

end

/-! ## Domains -/

section
variable {M : Memory} {value : Chunks.Datum} {ndims : ℕ}

/-- When a column of a domain over that type is read like one of the type: the type of the attribute must not be
needed for the text, and the domain must not hide how many dimensions an array has, or that its elements are of a
domain. -/
def DomainCovered (C : Catalog) (B : Oid) (ndims : ℕ) (value : Stored) : Prop :=
  B ≠ JSONBOID ∧ (B = BPCHAROID → value.toDatum.VARDATA_ANY.getLast? ≠ some 32) ∧
  (get_element_type C B ≠ InvalidOid →
    ndims ≤ 1 ∧ get_typtype C (get_element_type C B) ≠ TYPTYPE_DOMAIN)

/-- When arrays of such a domain are: the modifier must not be needed for the type, nor the type of the elements for
the text of one that is converted. -/
def DomainArrayCovered (S : Session) (E : External) (B : Oid) (m : BitVec 32) (ndims : ℕ) (value : Stored) : Prop :=
  (B = NUMERICOID → ∀ t,
    Types.ConvertPostgresToBaseDuckColumnType S.duckdb_convert_unsupported_numeric_to_double m ≠ .DECIMAL t) ∧
  (value.DatumGetArrayTypeP.dims.length = (if ndims = 0 then 1 else ndims) →
    ∀ elem, some elem ∈ value.DatumGetArrayTypeP.elems → PlainText E B elem)

/-- Two columns of one length convert by the type alone. -/
theorem convertAttribute_congr {attr attr' : Attribute} {offset : ℕ} {column : Column}
    (hlen : attr.attlen = attr'.attlen) :
    convertAttribute C E M attr value offset column = column.ConvertPostgresToDuckValue E attr.atttypid
      ((M.read attr' value).withElemType (get_base_element_type C attr.atttypid)) offset := by
  rw [convertAttribute, Memory.read, hlen]
  rfl

/-- How many lists there are around the elements. -/
theorem exists_depth : ∃ n, (if ndims = 0 then 1 else ndims) = n + 1 := by
  split
  · exact ⟨0, rfl⟩
  · exact ⟨ndims - 1, by omega⟩

/-- jsonb is among the types that are read. -/
theorem jsonb_mem : (JSONBOID, JSONBARRAYOID) ∈ mappedTypes S := by simp [mappedTypes]

/-- bpchar is among the types that are read. -/
theorem bpchar_mem : (BPCHAROID, BPCHARARRAYOID) ∈ mappedTypes S := by simp [mappedTypes]

/-- numeric is among the types that are read. -/
theorem numeric_mem : (NUMERICOID, NUMERICARRAYOID) ∈ mappedTypes S := by simp [mappedTypes]

/-- A type that is needed for the text of a value is none of arrays. -/
theorem Catalog.Documented.typelem_text (hC : C.Documented S) (h : B = JSONBOID ∨ B = BPCHAROID) :
    (C.pg_type B).typelem = InvalidOid := by
  rcases h with rfl | rfl
  · exact hC.typelem _ jsonb_mem
  · exact hC.typelem _ bpchar_mem

/-- A domain is a type of its own, neither jsonb nor bpchar. -/
theorem Catalog.DomainOf.ne_text (hC : C.Documented S) (hD : C.DomainOf B m D) : D ≠ JSONBOID ∧ D ≠ BPCHAROID := by
  constructor
  · rintro rfl
    exact hC.typtype _ jsonb_mem hD.typtype
  · rintro rfl
    exact hC.typtype _ bpchar_mem hD.typtype

/-- The decision about `jsonb` is taken by the type of the attribute. -/
theorem threadSafe_iff {id : LogicalTypeId} (hj : D ≠ JSONBOID) (hid : B = JSONBOID → id = .VARCHAR) :
    IsThreadSafeTypeForPostgresToDuckDB D id = IsThreadSafeTypeForPostgresToDuckDB B id ↔ B ≠ JSONBOID := by
  by_cases h : id = .VARCHAR
  · simp [IsThreadSafeTypeForPostgresToDuckDB, h, hj]
  · have hB : B ≠ JSONBOID := fun hB => h (hid hB)
    simp [IsThreadSafeTypeForPostgresToDuckDB, h, hB]

section
variable (hC : C.Documented S) (hB : (C.pg_type B).typtype ≠ TYPTYPE_DOMAIN) (hD : C.DomainOf B m D)
include hC hB hD

/-- A domain over a type without elements is read as that type for the values that are covered. -/
theorem domain_scalar_iff (he : (C.pg_type B).typelem = InvalidOid)
    (hT : (ConvertPostgresToDuckColumnType C S (attributeOf C B m ndims)).id ≠ .INVALID) :
    SameReading C S E M (attributeOf C D (-1) 0) (attributeOf C B m ndims) value ↔
      DomainCovered C B ndims (M.read (attributeOf C B m ndims) value) := by
  obtain ⟨hj, hb⟩ := hD.ne_text hC
  have htypeB : ConvertPostgresToDuckColumnType C S (attributeOf C B m ndims) =
      ConvertPostgresToBaseDuckColumnType S B B m :=
    (columnType_scalar ((get_base_element_type_base hB).trans he)).trans (baseDuckColumnType_scalar hB he)
  have htypeD : ConvertPostgresToDuckColumnType C S (attributeOf C D (-1) 0) =
      ConvertPostgresToBaseDuckColumnType S B B m := by
    rw [columnType_scalar ((hD.get_base_element_type_eq hB).trans he), hD.baseDuckColumnType_eq hB]
    exact convert_atttypid (htypeB ▸ hT)
  have htext : B = JSONBOID ∨ B = BPCHAROID → (ConvertPostgresToBaseDuckColumnType S B B m).id = .VARCHAR := by
    rintro (rfl | rfl) <;> rfl
  have hlen : (attributeOf C D (-1) 0).attlen = (attributeOf C B m ndims).attlen := hD.typlen
  have hconvert := (@scalar_alike_iff E B D _ (get_base_element_type C D) (get_base_element_type C B)
    (M.read (attributeOf C B m ndims) value) convert_id_ne_LIST).trans (seen_eq_iff hj hb htext)
  rw [sameReading_iff, htypeB, htypeD]
  simp only [convertAttribute_congr hlen]
  refine (and_congr_right fun _ => and_congr (threadSafe_iff hj fun h => htext (.inl h)) hconvert).trans ?_
  have hscalar : ¬get_element_type C B ≠ InvalidOid := not_not.2 he
  constructor
  · rintro ⟨-, hBj, htext⟩
    exact ⟨hBj, htext.2, fun h => absurd h hscalar⟩
  · rintro ⟨hBj, hblank, -⟩
    exact ⟨trivial, hBj, fun h => absurd h hBj, hblank⟩

/-- A domain over an array type is read as that type for the values that are covered. -/
theorem domain_array_iff (he : (C.pg_type B).typelem ≠ InvalidOid)
    (hT : (ConvertPostgresToDuckColumnType C S (attributeOf C B m ndims)).id ≠ .INVALID) :
    SameReading C S E M (attributeOf C D (-1) 0) (attributeOf C B m ndims) value ↔
      DomainCovered C B ndims (M.read (attributeOf C B m ndims) value) := by
  have helemB := get_base_element_type_base hB
  have helemD := hD.get_base_element_type_eq hB
  have hbaseD := @Catalog.DomainOf.baseDuckColumnType_eq C S B D m (-1) 0 hD hB
  by_cases hdomain : (C.pg_type (C.pg_type B).typelem).typtype = TYPTYPE_DOMAIN
  · -- the array type is not reduced, as the domain over it already was
    have hinvalid := @Catalog.Documented.invalid_of_domain C S B D m hC hdomain
    refine iff_of_false ?_ ?_
    · intro h
      have htype := h.type
      rw [columnType_invalid (hbaseD ▸ hinvalid), hbaseD] at htype
      exact hT (htype ▸ hinvalid)
    · rintro ⟨-, -, h⟩
      exact (h he).2 hdomain
  · have hbaseB := @baseDuckColumnType_array C S B m ndims hB hdomain
    have hvalid : (ConvertPostgresToBaseDuckColumnType S B B m).id ≠ .INVALID := hbaseB ▸ base_valid hT
    have hbase := hbaseD.trans (convert_atttypid hvalid)
    obtain ⟨n, hn⟩ := @exists_depth ndims
    have htypeB : ConvertPostgresToDuckColumnType C S (attributeOf C B m ndims) =
        LogicalType.LIST^[n + 1] (ConvertPostgresToBaseDuckColumnType S B B m) := by
      rw [columnType_array (helemB ▸ he) (hbaseB ▸ hvalid), hbaseB, ← hn]
      rfl
    have htypeD : ConvertPostgresToDuckColumnType C S (attributeOf C D (-1) 0) =
        LogicalType.LIST^[0 + 1] (ConvertPostgresToBaseDuckColumnType S B B m) := by
      rw [columnType_array (helemD ▸ he) (hbase ▸ hvalid), hbase]
      rfl
    constructor
    · intro h
      have htype := h.type
      rw [htypeD, htypeB, iterate_LIST_inj convert_id_ne_LIST convert_id_ne_LIST] at htype
      refine ⟨fun hBj => he (hC.typelem_text (.inl hBj)), fun hBb => absurd (hC.typelem_text (.inr hBb)) he, ?_⟩
      refine fun _ => ⟨?_, hdomain⟩
      split at hn <;> omega
    · rintro ⟨-, -, h⟩
      obtain ⟨hdims, -⟩ := h he
      obtain rfl : n = 0 := by split at hn <;> omega
      rw [sameReading_iff, htypeD, htypeB]
      refine ⟨rfl, rfl, fun column hcolumn offset => ?_⟩
      have hlen : (attributeOf C D (-1) 0).attlen = (attributeOf C B m ndims).attlen := hD.typlen
      have halike := (@list_alike_iff E B D _ (get_base_element_type C D) (get_base_element_type C B)
        (M.read (attributeOf C B m ndims) value) convert_id_ne_LIST 0).2 (fun _ => by rw [helemD, helemB])
        column hcolumn offset
      rw [convertAttribute_congr hlen]
      exact halike

end

/-! ## Arrays of domains -/

section
variable (hC : C.Documented S) (hA' : get_array_type C B ≠ InvalidOid)

include hC in
/-- An array of jsonb or bpchar is a list of texts. -/
theorem array_text (h : B = JSONBOID ∨ B = BPCHAROID) :
    (ConvertPostgresToBaseDuckColumnType S atttypid (get_array_type C B) m).id = .VARCHAR := by
  rcases h with rfl | rfl
  · have harray : get_array_type C JSONBOID = JSONBARRAYOID := hC.typarray _ jsonb_mem
    rw [harray]
    rfl
  · have harray : get_array_type C BPCHAROID = BPCHARARRAYOID := hC.typarray _ bpchar_mem
    rw [harray]
    rfl

include hC hA' in
/-- An array of another element type is not an array of numerics. -/
theorem array_not_numeric (h : B ≠ NUMERICOID) : get_array_type C B ∉ [NUMERICOID, NUMERICARRAYOID] := by
  have hnumeric : get_array_type C NUMERICOID = NUMERICARRAYOID := hC.typarray _ numeric_mem
  have helem := typelem_array hA'
  intro hmem
  simp only [List.mem_cons, List.not_mem_nil, or_false] at hmem
  rcases hmem with heq | heq
  · rw [heq] at helem
    exact ne_invalid_of_array hA' (helem.symm.trans (hC.typelem _ numeric_mem))
  · have hvalid : get_array_type C NUMERICOID ≠ InvalidOid := by
      rw [hnumeric]
      decide
    rw [heq, ← hnumeric, typelem_array hvalid] at helem
    exact h helem.symm

include hC hA' in
/-- The base types of arrays of a domain and of arrays of its type. -/
theorem array_type_iff
    (h : (ConvertPostgresToBaseDuckColumnType S atttypid (get_array_type C B) m).id ≠ .INVALID) :
    ConvertPostgresToBaseDuckColumnType S D (get_array_type C B) (-1) =
        ConvertPostgresToBaseDuckColumnType S atttypid (get_array_type C B) m ↔
      (B = NUMERICOID → ∀ t,
        Types.ConvertPostgresToBaseDuckColumnType S.duckdb_convert_unsupported_numeric_to_double m ≠ .DECIMAL t) := by
  by_cases hnum : B = NUMERICOID
  · subst hnum
    have hnumeric : get_array_type C NUMERICOID = NUMERICARRAYOID := hC.typarray _ numeric_mem
    rw [hnumeric] at h ⊢
    rw [convert_numeric_iff h]
    simp
  · refine iff_of_true ?_ fun h => absurd h hnum
    exact (convert_typmod (array_not_numeric hC hA' hnum)).trans (convert_atttypid h)

end

section
variable (hC : C.Documented S) (hB : (C.pg_type B).typtype ≠ TYPTYPE_DOMAIN) (hD : C.DomainOf B m D)
variable (hA : get_array_type C D ≠ InvalidOid) (hA' : get_array_type C B ≠ InvalidOid)
include hC hB hD hA hA'

/-- An array of a domain is read as an array of its base type for the values that are covered. -/
theorem domainArray_iff
    (hT : (ConvertPostgresToDuckColumnType C S (attributeOf C (get_array_type C B) m ndims)).id ≠ .INVALID) :
    SameReading C S E M (attributeOf C (get_array_type C D) (-1) ndims) (attributeOf C (get_array_type C B) m ndims)
        value ↔
      DomainArrayCovered S E B m ndims (M.read (attributeOf C (get_array_type C B) m ndims) value) := by
  obtain ⟨hj, hb⟩ := hD.ne_text hC
  obtain ⟨n, hn⟩ := @exists_depth ndims
  have hbaseB : baseDuckColumnType C S (attributeOf C (get_array_type C B) m ndims) =
      ConvertPostgresToBaseDuckColumnType S (get_array_type C B) (get_array_type C B) m :=
    baseDuckColumnType_array (typtype_array hA') ((typelem_array hA').symm ▸ hB)
  have hbaseD := @Catalog.DomainOf.baseDuckColumnType_arrays C S B D m (-1) ndims hD hB hA
  have hvalid := base_valid hT
  have htypeB := columnType_arrays hA' hvalid
  have htypeD := @columnType_arrays C S D (-1) ndims hA
  rw [hbaseB] at hvalid
  rw [hbaseB, hn] at htypeB
  rw [hbaseD, hn] at htypeD
  have htype := @array_type_iff C S B (get_array_type C D) _ _ hC hA' hvalid
  have hlen : (attributeOf C (get_array_type C D) (-1) ndims).attlen =
      (attributeOf C (get_array_type C B) m ndims).attlen := (C.array_typlen hA).trans (C.array_typlen hA').symm
  have helemB : get_base_element_type C (attributeOf C (get_array_type C B) m ndims).atttypid = B :=
    base_element_array hA'
  have helemD : get_base_element_type C (attributeOf C (get_array_type C D) (-1) ndims).atttypid = D :=
    base_element_array hA
  have hconvert : (∀ column : Column, column.GetType = LogicalType.LIST^[n + 1]
      (ConvertPostgresToBaseDuckColumnType S (get_array_type C B) (get_array_type C B) m) → ∀ offset,
        convertAttribute C E M (attributeOf C (get_array_type C D) (-1) ndims) value offset column =
          convertAttribute C E M (attributeOf C (get_array_type C B) m ndims) value offset column) ↔
      ((M.read (attributeOf C (get_array_type C B) m ndims) value).DatumGetArrayTypeP.dims.length = n + 1 →
        ∀ elem, some elem ∈ (M.read (attributeOf C (get_array_type C B) m ndims) value).DatumGetArrayTypeP.elems →
          PlainText E B elem) := by
    rw [← imp_congr_right fun _ => seenAll_eq_iff hj hb (array_text hC), ← list_alike_iff convert_id_ne_LIST]
    refine forall₃_congr fun column _ offset => ?_
    rw [convertAttribute_congr hlen, convertAttribute, helemB, helemD]
  rw [DomainArrayCovered, hn, ← hconvert, ← htype]
  constructor
  · intro h
    have hsame := h.type
    rw [htypeB] at hsame
    have hvalidD : (ConvertPostgresToBaseDuckColumnType S (get_array_type C D) (get_array_type C B) (-1)).id ≠
        .INVALID := by
      intro hinvalid
      rw [columnType_invalid (hbaseD ▸ hinvalid), hbaseD] at hsame
      rw [hsame, iterate_LIST_id] at hinvalid
      cases hinvalid
    rw [htypeD hvalidD, iterate_LIST_inj convert_id_ne_LIST convert_id_ne_LIST] at hsame
    have hall := (sameReading_iff.1 h).2.2
    rw [htypeB] at hall
    exact ⟨hsame.2, hall⟩
  · rintro ⟨hbase, hall⟩
    rw [sameReading_iff, htypeB, htypeD (hbase ▸ hvalid), hbase, iterate_LIST_id]
    exact ⟨rfl, rfl, hall⟩

end

end

/-- A column of a domain, or of arrays of a domain, is read like a column of the type that the domain is over, or of
arrays of it, exactly where the type is covered. -/
theorem domains_transparent_iff {M : Memory} {value : Chunks.Datum} {ndims : ℕ} (hC : C.Documented S)
    (hB : get_typtype C B ≠ TYPTYPE_DOMAIN) (hD : C.DomainOf B m D) :
    ((ConvertPostgresToDuckColumnType C S (attributeOf C B m ndims)).id ≠ .INVALID →
      (SameReading C S E M (attributeOf C D (-1) 0) (attributeOf C B m ndims) value ↔
        DomainCovered C B ndims (M.read (attributeOf C B m ndims) value))) ∧
    (get_array_type C D ≠ InvalidOid → get_array_type C B ≠ InvalidOid →
      (ConvertPostgresToDuckColumnType C S (attributeOf C (get_array_type C B) m ndims)).id ≠ .INVALID →
      (SameReading C S E M (attributeOf C (get_array_type C D) (-1) ndims) (attributeOf C (get_array_type C B) m ndims)
          value ↔
        DomainArrayCovered S E B m ndims (M.read (attributeOf C (get_array_type C B) m ndims) value))) := by
  refine ⟨fun hT => ?_, domainArray_iff hC hB hD⟩
  by_cases he : (C.pg_type B).typelem = InvalidOid
  · exact domain_scalar_iff hC hB hD he hT
  · exact domain_array_iff hC hB hD he hT

end

/-! ## A catalog -/

/-- The `typlen` of each of the types. -/
def typlens : List ℤ :=
  [1, 1, 2, 4, 8, -1, -1, -1, 4, 8, 8, 16, -1, -1, 8, 12, 4, 8, -1, 16, -1, -1, 4, -1, -1, -1, -1]

/-- A domain over `int4`, one over that domain, and one over `jsonb`, with their types of arrays. -/
def domainRows : List (Oid × FormData_pg_type) :=
  [(16384, ⟨4, TYPTYPE_DOMAIN, InvalidOid, 16385, INT4OID, -1⟩), (16385, ⟨-1, 'b', 16384, InvalidOid, InvalidOid, -1⟩),
    (16386, ⟨4, TYPTYPE_DOMAIN, InvalidOid, 16387, 16384, -1⟩), (16387, ⟨-1, 'b', 16386, InvalidOid, InvalidOid, -1⟩),
    (16388, ⟨-1, TYPTYPE_DOMAIN, InvalidOid, 16389, JSONBOID, -1⟩),
    (16389, ⟨-1, 'b', 16388, InvalidOid, InvalidOid, -1⟩)]

/-- The rows of pg_type of the example: its domains and the types of the table. -/
def typeRows : List (Oid × FormData_pg_type) :=
  domainRows ++ ((mappedTypes session).zip typlens).flatMap fun row =>
    [(row.1.1, ⟨row.2, 'b', InvalidOid, row.1.2, InvalidOid, -1⟩),
      (row.1.2, ⟨-1, 'b', row.1.1, InvalidOid, InvalidOid, -1⟩)]

/-- The row of a type, an invalid one where there is none. -/
def pgType (typid : Oid) : FormData_pg_type :=
  (typeRows.lookup typid).getD ⟨0, 'b', InvalidOid, InvalidOid, InvalidOid, -1⟩

/-- How many domains stand over the base type. -/
def domainLevel (typid : Oid) : ℕ := if typid = 16386 then 2 else if typid ∈ [16384, 16388] then 1 else 0

/-- What holds of the rows, and of types that do not exist, holds of all types. -/
theorem forall_pgType {P : Oid → FormData_pg_type → Prop}
    (hrows : ∀ typid ∈ typeRows.map Prod.fst, P typid (pgType typid))
    (hnone : ∀ typid, P typid ⟨0, 'b', InvalidOid, InvalidOid, InvalidOid, -1⟩) (typid : Oid) :
    P typid (pgType typid) := by
  by_cases h : typid ∈ typeRows.map Prod.fst
  · exact hrows typid h
  · have hlookup : typeRows.lookup typid = none := by
      rw [List.lookup_eq_none_iff]
      intro p hp
      have hne : typid ≠ p.1 := by
        rintro rfl
        exact h (List.mem_map_of_mem hp)
      simpa using hne
    have hrow : pgType typid = ⟨0, 'b', InvalidOid, InvalidOid, InvalidOid, -1⟩ := by rw [pgType, hlookup, Option.getD_none]
    rw [hrow]
    exact hnone typid

/-- A domain of the example has a base type of a lower level and the same length. -/
theorem pgType_domain (typid : Oid) : (pgType typid).typtype = TYPTYPE_DOMAIN →
    domainLevel (pgType typid).typbasetype < domainLevel typid ∧
    (pgType typid).typlen = (pgType (pgType typid).typbasetype).typlen ∧ (pgType typid).typelem = InvalidOid := by
  refine forall_pgType (P := fun typid row => row.typtype = TYPTYPE_DOMAIN →
    domainLevel row.typbasetype < domainLevel typid ∧
    row.typlen = (pgType row.typbasetype).typlen ∧ row.typelem = InvalidOid) (by decide +kernel) ?_ typid
  intro typid h
  exact absurd h (by decide)

/-- An array type of the example is no domain and names its element type. -/
theorem pgType_array (typid : Oid) : (pgType typid).typarray ≠ InvalidOid →
    (pgType (pgType typid).typarray).typtype ≠ TYPTYPE_DOMAIN ∧ (pgType (pgType typid).typarray).typelem = typid ∧
    (pgType (pgType typid).typarray).typlen = -1 := by
  refine forall_pgType (P := fun typid row => row.typarray ≠ InvalidOid →
    (pgType row.typarray).typtype ≠ TYPTYPE_DOMAIN ∧ (pgType row.typarray).typelem = typid ∧
    (pgType row.typarray).typlen = -1) (by decide +kernel) ?_ typid
  intro typid h
  exact absurd rfl h

/-- The invalid type is no domain. -/
theorem pgType_invalid : (pgType InvalidOid).typtype ≠ TYPTYPE_DOMAIN := by decide

/-- The catalog of the example. -/
def catalog : Catalog where
  pg_type := pgType
  invalid_typtype := pgType_invalid
  invalid_typarray := rfl
  level := domainLevel
  domain_level h := (pgType_domain _ h).1
  domain_typlen h := (pgType_domain _ h).2.1
  domain_typelem h := (pgType_domain _ h).2.2
  array_typtype h := (pgType_array _ h).1
  array_typelem h := (pgType_array _ h).2.1
  array_typlen h := (pgType_array _ h).2.2

/-- The catalog of the example is as documented. -/
theorem catalog_documented : catalog.Documented session := by
  constructor <;> decide +kernel

/-- A domain over a domain over int4. -/
theorem domain_int4 : catalog.DomainOf INT4OID (-1) 16386 := .domain rfl (.base rfl rfl rfl)

/-- An array of two numbers has no more dimensions than are allowed. -/
theorem numbers_ndim : [2].length ≤ MAXDIM := by decide

/-- `{1, NULL}` -/
def numbers : ArrayType Datum where
  dims := [2]
  elems := [some (.word 1), none]
  ndim := numbers_ndim
  pos := by simp
  nelems := rfl
  le := by simp [MaxArraySize]

/-- The address 0 holds an array, any other word is a value. -/
def memory : Memory where
  DetoastPostgresDatum := fun value => value
  load := fun value => if value = 0 then .array INT4OID numbers else .scalar (.word value)

/-- A number in a domain over a domain over `int4`, and an array of that domain. -/
theorem domains_transparent_iff_int4 :
    SameReading catalog session runtime memory (attributeOf catalog 16386 (-1) 0) (attributeOf catalog INT4OID (-1) 0) 7 ∧
    SameReading catalog session runtime memory (attributeOf catalog 16387 (-1) 1)
      (attributeOf catalog INT4ARRAYOID (-1) 1) 0 := by
  have hscalar : ConvertPostgresToDuckColumnType catalog session (attributeOf catalog INT4OID (-1) 0) =
      .plain .INTEGER := rfl
  have hbase : baseDuckColumnType catalog session (attributeOf catalog (get_array_type catalog INT4OID) (-1) 1) =
      .plain .INTEGER := by
    rw [baseDuckColumnType, attributeOf, GetBaseTypeAndTypmod_array (by decide) (by decide)]
    rfl
  have harray : ConvertPostgresToDuckColumnType catalog session
      (attributeOf catalog (get_array_type catalog INT4OID) (-1) 1) = .LIST (.plain .INTEGER) := by
    have helem : get_base_element_type catalog (attributeOf catalog (get_array_type catalog INT4OID) (-1) 1).atttypid ≠
        InvalidOid := by
      rw [attributeOf, base_element_array (by decide)]
      decide
    have hvalid : (LogicalType.plain .INTEGER).id ≠ .INVALID := by decide
    rw [columnType_array helem (hbase ▸ hvalid), hbase]
    rfl
  constructor
  · refine ((domains_transparent_iff catalog_documented (by decide) domain_int4).1 (by rw [hscalar]; decide)).2 ?_
    exact ⟨by decide, fun h => absurd h (by decide), fun h => absurd rfl h⟩
  · refine ((domains_transparent_iff catalog_documented (by decide) domain_int4).2 (by decide) (by decide)
      (by rw [harray]; decide)).2 ?_
    exact ⟨fun h => absurd h (by decide), fun _ _ _ => ⟨fun h => absurd h (by decide), fun h => absurd h (by decide)⟩⟩

/-- A domain over `jsonb` is taken for thread safe, and `jsonb` is not. -/
theorem jsonb_domain_not_alike : catalog.DomainOf JSONBOID (-1) 16388 ∧
    ¬SameReading catalog session runtime memory (attributeOf catalog 16388 (-1) 0)
      (attributeOf catalog JSONBOID (-1) 0) 7 := by
  have hdomain : catalog.DomainOf JSONBOID (-1) 16388 := .base rfl rfl rfl
  have htype : ConvertPostgresToDuckColumnType catalog session (attributeOf catalog JSONBOID (-1) 0) = .JSON := rfl
  refine ⟨hdomain, ?_⟩
  rw [domain_scalar_iff catalog_documented (by decide) hdomain rfl (by rw [htype]; decide)]
  intro h
  exact h.1 rfl

end PgDuckdb.Scalars
