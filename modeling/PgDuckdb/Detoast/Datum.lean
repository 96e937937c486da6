import Mathlib.Algebra.Order.BigOperators.Group.List
import PgDuckdb.Detoast.Varlena

/-!
# Detoasting

`DetoastPostgresDatum` makes a plain datum of a datum in any form, as `detoast_attr` of Postgres does, with memory
from DuckDB's allocator (`pgduckdb_detoast.cpp`). `WellFormed` says what the datums are and which payload each of
them has, and `detoasts_iff` which of them are detoasted: the branch for indirect pointers calls the function with
its own argument again (`DetoastPostgresDatum_indirect`), and a build without LZ4 gets a null pointer for the
datums that are compressed with it.
-/

namespace PgDuckdb.Detoast

open Lib Lib.Bytes

/-- What is thrown. -/
inductive DetoastError
  /-- `(PGDuckDB/PglzDecompressDatum) Compressed pglz data is corrupt`. -/
  | PglzDecompressDatum
  /-- `(PGDuckDB/Lz4DecompresDatum) Compressed lz4 data is corrupt`. -/
  | Lz4DecompresDatum
  /-- `(PGDuckDB/ToastDecompressDatum) Invalid compression method id ...`. -/
  | ToastDecompressDatum (method : ℕ)
  /-- `(PGDuckDB/ToastFetchDatum) Shouldn't be called for non-ondisk datums`. -/
  | notOndisk
  /-- `(PGDuckDB/ToastFetchDatum) Error toast relation is NULL`. -/
  | noToastRelation
  /-- An error of Postgres, which `PostgresFunctionGuard` throws again. -/
  | postgres
  /-- An access to memory that is not allocated. -/
  | fault
  deriving DecidableEq, Repr

/-- What the functions rely on. -/
structure Runtime where
  USE_LZ4 : Bool
  duckdb_malloc : Heap → ℕ → Addr
  malloc_fresh : ∀ (s : Heap) size, s.find (duckdb_malloc s size) = none
  malloc_ne_null : ∀ s size, duckdb_malloc s size ≠ 0
  /-- Of the compressed data and the size of the payload. -/
  pglz_decompress : List UInt8 → ℕ → Option (List UInt8)
  pglz_length : ∀ data size payload, pglz_decompress data size = some payload → payload.length ≤ size
  LZ4_decompress_safe : List UInt8 → ℕ → Option (List UInt8)
  LZ4_length : ∀ data size payload, LZ4_decompress_safe data size = some payload → payload.length ≤ size
  /-- The first bytes of each value in a toast relation, or `none` where Postgres raises an error. -/
  try_table_open : ℕ → Option (ℕ → ℕ → Option (List UInt8))
  EOH_get_flat_size : Addr → ℕ
  EOH_flatten_into : Addr → List UInt8

/-- Code on the heap that may throw. -/
abbrev Program := EStateM DetoastError Heap

section
variable (E : Runtime)

/-! ## The functions -/

/-- `duckdb_malloc`. What is in a new block is not looked at before it is written. -/
def malloc (size : ℕ) : Program Addr := do
  let s ← get
  let result := E.duckdb_malloc s size
  set (s.store result (List.replicate size 0))
  return result

/-- The two decompression functions, up to the library that decompresses. -/
def decompressDatum (decompress : List UInt8 → ℕ → Option (List UInt8)) (corrupt : DetoastError)
    (value : Addr) : Program Addr := do
  let attr ← load .fault value
  let result ← malloc E (VARDATA_COMPRESSED_GET_EXTSIZE attr + VARHDRSZ)
  match decompress (compressedData attr) (VARDATA_COMPRESSED_GET_EXTSIZE attr) with
  | none => throw corrupt
  | some raw =>
    write .fault result VARHDRSZ raw
    write .fault result 0 (SET_VARSIZE (raw.length + VARHDRSZ))
    return result

/-- Decompression with `pglz`. -/
def PglzDecompressDatum : Addr → Program Addr := decompressDatum E E.pglz_decompress .PglzDecompressDatum

/-- Decompression with `lz4`, if it was built in. -/
def Lz4DecompresDatum (value : Addr) : Program Addr :=
  if E.USE_LZ4 then decompressDatum E E.LZ4_decompress_safe .Lz4DecompresDatum value else return 0

/-- Decompression with the method that the header names. -/
def ToastDecompressDatum (value : Addr) : Program Addr := do
  let attr ← load .fault value
  if TOAST_COMPRESS_METHOD attr = TOAST_PGLZ_COMPRESSION_ID then PglzDecompressDatum E value
  else if TOAST_COMPRESS_METHOD attr = TOAST_LZ4_COMPRESSION_ID then Lz4DecompresDatum E value
  else throw (.ToastDecompressDatum (TOAST_COMPRESS_METHOD attr))

/-- Whether there is a toast relation to fetch from. -/
def table_relation_fetch_toast_slice (toast_pointer : varatt_external) (attrsize : ℕ) (result : Addr) :
    Program Bool :=
  match E.try_table_open toast_pointer.va_toastrelid with
  | none => return false
  | some toast_rel =>
    match toast_rel toast_pointer.va_valueid attrsize with
    | none => throw .postgres
    | some data => do
      write .fault result VARHDRSZ data
      return true

/-- `ToastFetchDatum` from the toast pointer on. -/
def fetchValue (toast_pointer : varatt_external) (attrsize : ℕ) : Program Addr := do
  let result ← malloc E (attrsize + VARHDRSZ)
  write .fault result 0 (if toast_pointer.VARATT_EXTERNAL_IS_COMPRESSED then
    SET_VARSIZE_COMPRESSED (attrsize + VARHDRSZ) else SET_VARSIZE (attrsize + VARHDRSZ))
  if attrsize = 0 then return result
  else if ← table_relation_fetch_toast_slice E toast_pointer attrsize result then return result
  else
    dealloc result
    throw .noToastRelation

/-- What a pointer to a TOAST table points to. -/
def ToastFetchDatum (value : Addr) : Program Addr := do
  let attr ← load .fault value
  if VARATT_IS_EXTERNAL_ONDISK attr then
    fetchValue E (toastPointer attr) (toastPointer attr).VARATT_EXTERNAL_GET_EXTSIZE
  else throw .notOndisk

/-- The branch for on-disk datums. -/
def detoastOndisk (attr : Addr) : Program Addr := do
  let toasted_value ← ToastFetchDatum E attr
  if VARATT_IS_COMPRESSED (← load .fault toasted_value) then
    let result ← ToastDecompressDatum E toasted_value
    dealloc toasted_value
    return result
  else return toasted_value

/-- The branch for expanded objects. -/
def detoastExpanded (attr : Addr) : Program Addr := do
  let eoh := pointerOf (← load .fault attr)
  let toasted_value ← malloc E (E.EOH_get_flat_size eoh)
  write .fault toasted_value 0 (E.EOH_flatten_into eoh)
  return toasted_value

/-- The branch for datums with a short header. -/
def detoastShort (attr : Addr) : Program Addr := do
  let bytes ← load .fault attr
  let new_size := VARSIZE_SHORT bytes - VARHDRSZ_SHORT + VARHDRSZ
  let toasted_value ← malloc E new_size
  write .fault toasted_value 0 (SET_VARSIZE new_size)
  write .fault toasted_value VARHDRSZ (VARDATA_SHORT bytes)
  return toasted_value

/-- What the branch for indirect pointers does with the value of the call. -/
def finishIndirect (attr : Addr) (toasted_value : Addr) : Program Addr := do
  let bytes ← load .fault attr
  if attr = pointerOf bytes then
    -- the size of the datum is taken for the address of a block
    let result := VARSIZE_ANY bytes
    write .fault result 0 (bytes.take (VARSIZE_ANY bytes))
    return result
  else return toasted_value

/-- A value, and `should_free`. -/
def withFree (should_free : Bool) (p : Program Addr) : Program (Addr × Bool) := do
  return (← p, should_free)

/-- With as many nested calls as the number says; there is no result while a call runs. -/
def DetoastPostgresDatum : ℕ → Addr → Heap → Option (EStateM.Result DetoastError Heap (Addr × Bool))
  | 0, _, _ => none
  | calls + 1, attr, s =>
    match s.find attr with
    | none => some (.error .fault s)
    | some bytes =>
      if VARATT_IS_EXTERNAL_ONDISK bytes then some ((withFree true (detoastOndisk E attr)).run s)
      else if VARATT_IS_EXTERNAL_INDIRECT bytes then
        -- the pointer in the datum is not what the call is made with
        (DetoastPostgresDatum calls attr s).map fun
          | .ok (toasted_value, should_free) s' => (withFree should_free (finishIndirect attr toasted_value)).run s'
          | .error e s' => .error e s'
      else if VARATT_IS_EXTERNAL_EXPANDED bytes then some ((withFree true (detoastExpanded E attr)).run s)
      else if VARATT_IS_COMPRESSED bytes then some ((withFree true (ToastDecompressDatum E attr)).run s)
      else if VARATT_IS_SHORT bytes then some ((withFree true (detoastShort E attr)).run s)
      else some ((withFree false (pure attr)).run s)

/-! ## Datums -/

/-- A compressed datum, and what its decompression method makes of it. -/
structure Decompressed (attr payload : List UInt8) : Prop where
  size : payload.length + VARHDRSZ < 2 ^ 30
  decompress :
    (TOAST_COMPRESS_METHOD attr = TOAST_PGLZ_COMPRESSION_ID ∧
      E.pglz_decompress (compressedData attr) (VARDATA_COMPRESSED_GET_EXTSIZE attr) = some payload) ∨
    (TOAST_COMPRESS_METHOD attr = TOAST_LZ4_COMPRESSION_ID ∧
      E.LZ4_decompress_safe (compressedData attr) (VARDATA_COMPRESSED_GET_EXTSIZE attr) = some payload)

/-- The bytes of an on-disk datum, which are not fetched where there are none. -/
def Fetched (toast_pointer : varatt_external) (data : List UInt8) : Prop :=
  data.length = toast_pointer.VARATT_EXTERNAL_GET_EXTSIZE ∧
    (data ≠ [] → ∃ toast_rel, E.try_table_open toast_pointer.va_toastrelid = some toast_rel ∧
      toast_rel toast_pointer.va_valueid data.length = some data)

/-- A datum in any form but an indirect pointer, and the payload that Postgres has for it. A compressed datum that
is on disk is there without its first header. -/
inductive Direct (attr : List UInt8) : List UInt8 → Prop
  | plain {payload} (h : Plain attr payload) : Direct attr payload
  | short (form : VARATT_IS_SHORT attr = true) (external : VARATT_IS_EXTERNAL attr = false)
      (header : VARHDRSZ_SHORT ≤ VARSIZE_SHORT attr) (inside : VARSIZE_SHORT attr ≤ attr.length) :
      Direct attr (VARDATA_SHORT attr)
  | compressed {payload} (form : VARATT_IS_COMPRESSED attr = true) (h : Decompressed E attr payload) :
      Direct attr payload
  | ondisk {payload} (form : VARATT_IS_EXTERNAL_ONDISK attr = true)
      (compressed : (toastPointer attr).VARATT_EXTERNAL_IS_COMPRESSED = false)
      (size : payload.length + VARHDRSZ < 2 ^ 30) (fetch : Fetched E (toastPointer attr) payload) :
      Direct attr payload
  | ondiskCompressed {data payload} (form : VARATT_IS_EXTERNAL_ONDISK attr = true)
      (compressed : (toastPointer attr).VARATT_EXTERNAL_IS_COMPRESSED = true)
      (size : data.length + VARHDRSZ < 2 ^ 30) (fetch : Fetched E (toastPointer attr) data)
      (method : TOAST_COMPRESS_METHOD (SET_VARSIZE_COMPRESSED (data.length + VARHDRSZ) ++ data) =
        (toastPointer attr).VARATT_EXTERNAL_GET_COMPRESS_METHOD)
      (h : Decompressed E (SET_VARSIZE_COMPRESSED (data.length + VARHDRSZ) ++ data) payload) :
      Direct attr payload
  | expanded {payload} (form : VARATT_IS_EXTERNAL_EXPANDED attr = true)
      (size : (E.EOH_flatten_into (pointerOf attr)).length = E.EOH_get_flat_size (pointerOf attr))
      (h : Plain (E.EOH_flatten_into (pointerOf attr)) payload) : Direct attr payload

/-- A datum in memory, with its payload. -/
inductive WellFormed (s : Heap) (attr : List UInt8) (payload : List UInt8) : Prop
  | direct (h : Direct E attr payload)
  | indirect {target} (form : VARATT_IS_EXTERNAL_INDIRECT attr = true) (find : s.find (pointerOf attr) = some target)
      (h : Direct E target payload)

/-- The function returns, with a plain datum of this payload, and tells the caller to free it exactly if it is in a
block that was allocated for it. -/
def Detoasts (s : Heap) (attr : Addr) (payload : List UInt8) : Prop :=
  ∃ calls result should_free s' bytes,
    DetoastPostgresDatum E calls attr s = some (.ok (result, should_free) s') ∧
    result ≠ 0 ∧ s'.find result = some bytes ∧ Plain bytes payload ∧
    (should_free = true ↔ s.find result = none ∧ result ≠ attr)

/-- Compressed with LZ4, in place or on disk. -/
def IsLz4 (attr : List UInt8) : Bool :=
  if VARATT_IS_EXTERNAL_ONDISK attr then
    (toastPointer attr).VARATT_EXTERNAL_IS_COMPRESSED &&
      (toastPointer attr).VARATT_EXTERNAL_GET_COMPRESS_METHOD == TOAST_LZ4_COMPRESSION_ID
  else VARATT_IS_COMPRESSED attr && TOAST_COMPRESS_METHOD attr == TOAST_LZ4_COMPRESSION_ID

end

/-! ## New blocks -/

/-- The block is new, and nothing else has changed. -/
structure New (s : Heap) (block : List UInt8) (result : Addr) (s' : Heap) : Prop where
  ne_null : result ≠ 0
  fresh : s.find result = none
  find : s'.find result = some block
  kept : ∀ p ≠ result, s'.find p = s.find p

/-- A new block with a plain datum. -/
def NewPlain (s : Heap) (payload : List UInt8) (result : Addr) (s' : Heap) : Prop :=
  ∃ block, Plain block payload ∧ New s block result s'

section
variable {E : Runtime} {s s' : Heap} {value result : Addr} {block attr payload : List UInt8}

/-- New memory. -/
theorem malloc_ensures (size : ℕ) : Ensures (malloc E size) s (New s (List.replicate size 0)) (fun _ => False) where
  ne_null := E.malloc_ne_null s size
  fresh := E.malloc_fresh s size
  find := Heap.find_store
  kept _ h := Heap.find_store_ne h

/-- Writing into a new block. -/
theorem New.written {offset : ℕ} {data : List UInt8} (h : New s block result s')
    (hfit : offset + data.length ≤ block.length) :
    Ensures (write DetoastError.fault result offset data) s'
      (fun _ => New s (overwrite offset data block) result) fun _ => False := by
  refine Ensures.write h.find hfit ⟨h.ne_null, h.fresh, Heap.find_store, fun p hp => ?_⟩
  rw [Heap.find_store_ne hp, h.kept p hp]

/-- A header has four bytes. -/
theorem SET_VARSIZE_length {len : ℕ} : (SET_VARSIZE len).length = VARHDRSZ := length_bytes

/-- First the data are written and then the header. -/
theorem data_then_header {header data : List UInt8} (h : header.length = VARHDRSZ)
    (hfit : VARHDRSZ + data.length ≤ block.length) :
    overwrite 0 header (overwrite VARHDRSZ data block) =
      header ++ (data ++ block.drop (VARHDRSZ + data.length)) := by
  rw [overwrite_zero, h, drop_overwrite (by omega)]

/-- First the header is written and then the data. -/
theorem header_then_data {header data : List UInt8} (h : header.length = VARHDRSZ) :
    overwrite VARHDRSZ data (overwrite 0 header block) =
      header ++ (data ++ block.drop (VARHDRSZ + data.length)) := by
  rw [overwrite_zero, ← h, overwrite_append, List.drop_drop]

/-! ## Decompression -/

/-- Decompression gives new memory with the payload, if that is what was compressed. -/
theorem decompressDatum_ensures {decompress : List UInt8 → ℕ → Option (List UInt8)} {corrupt : DetoastError}
    (hv : s.find value = some attr)
    (hd : decompress (compressedData attr) (VARDATA_COMPRESSED_GET_EXTSIZE attr) = some payload)
    (hfit : payload.length ≤ VARDATA_COMPRESSED_GET_EXTSIZE attr) (hsize : payload.length + VARHDRSZ < 2 ^ 30) :
    Ensures (decompressDatum E decompress corrupt value) s (NewPlain s payload) fun _ => False := by
  refine Ensures.bind (Ensures.load hv ?_)
  refine Ensures.seq (malloc_ensures _) fun result s₁ h₁ => ?_
  rw [hd]
  have hroom : VARHDRSZ + payload.length ≤
      (List.replicate (VARDATA_COMPRESSED_GET_EXTSIZE attr + VARHDRSZ) (0 : UInt8)).length := by
    rw [List.length_replicate]
    omega
  refine Ensures.seq (h₁.written hroom) fun _ s₂ h₂ => ?_
  refine Ensures.seq (h₂.written ?_) fun _ s₃ h₃ => ?_
  · rw [length_overwrite hroom, SET_VARSIZE_length, Nat.zero_add]
    exact (Nat.le_add_right ..).trans hroom
  · rw [data_then_header SET_VARSIZE_length hroom] at h₃
    exact Ensures.pure ⟨_, Plain.mk_append hsize, h₃⟩

/-- Compressed data are decompressed, unless that takes LZ4 and there is none. -/
theorem ToastDecompressDatum_ensures (hv : s.find value = some attr) (h : Decompressed E attr payload)
    (hlz4 : E.USE_LZ4 = true ∨ TOAST_COMPRESS_METHOD attr ≠ TOAST_LZ4_COMPRESSION_ID) :
    Ensures (ToastDecompressDatum E value) s (NewPlain s payload) fun _ => False := by
  refine Ensures.bind (Ensures.load hv ?_)
  obtain ⟨hmethod, hd⟩ | ⟨hmethod, hd⟩ := h.decompress
  · rw [if_pos hmethod]
    exact decompressDatum_ensures hv hd (E.pglz_length _ _ _ hd) h.size
  · have hpglz : TOAST_COMPRESS_METHOD attr ≠ TOAST_PGLZ_COMPRESSION_ID := by
      rw [hmethod]
      exact Nat.one_ne_zero
    rw [if_neg hpglz, if_pos hmethod, Lz4DecompresDatum, if_pos (hlz4.resolve_right (not_not_intro hmethod))]
    exact decompressDatum_ensures hv hd (E.LZ4_length _ _ _ hd) h.size

/-- Without LZ4 there is no datum in place of what is compressed with it. -/
theorem ToastDecompressDatum_null (hv : s.find value = some attr)
    (hmethod : TOAST_COMPRESS_METHOD attr = TOAST_LZ4_COMPRESSION_ID) (hlz4 : E.USE_LZ4 = false) :
    Ensures (ToastDecompressDatum E value) s (fun result _ => result = 0) fun _ => False := by
  refine Ensures.bind (Ensures.load hv ?_)
  have hpglz : TOAST_COMPRESS_METHOD attr ≠ TOAST_PGLZ_COMPRESSION_ID := by
    rw [hmethod]
    exact Nat.one_ne_zero
  rw [if_neg hpglz, if_pos hmethod, Lz4DecompresDatum, hlz4]
  exact Ensures.pure rfl

/-! ## The branches -/

/-- The header of a fetched datum. -/
def fetchedHeader (toast_pointer : varatt_external) (data : List UInt8) : List UInt8 :=
  if toast_pointer.VARATT_EXTERNAL_IS_COMPRESSED then SET_VARSIZE_COMPRESSED (data.length + VARHDRSZ)
  else SET_VARSIZE (data.length + VARHDRSZ)

/-- The header of what is fetched has four bytes. -/
theorem fetchedHeader_length {toast_pointer : varatt_external} {data : List UInt8} :
    (fetchedHeader toast_pointer data).length = VARHDRSZ := by
  unfold fetchedHeader
  split <;> exact length_bytes

/-- What is fetched comes into new memory. -/
theorem fetchValue_ensures {toast_pointer : varatt_external} {data : List UInt8}
    (hfetch : data ≠ [] → ∃ toast_rel, E.try_table_open toast_pointer.va_toastrelid = some toast_rel ∧
      toast_rel toast_pointer.va_valueid data.length = some data) :
    Ensures (fetchValue E toast_pointer data.length) s (New s (fetchedHeader toast_pointer data ++ data))
      fun _ => False := by
  have hroom : (List.replicate (data.length + VARHDRSZ) (0 : UInt8)).length = VARHDRSZ + data.length := by
    rw [List.length_replicate, Nat.add_comm]
  have hblock : overwrite VARHDRSZ data
      (overwrite 0 (fetchedHeader toast_pointer data) (List.replicate (data.length + VARHDRSZ) 0)) =
        fetchedHeader toast_pointer data ++ data := by
    rw [header_then_data fetchedHeader_length, List.drop_eq_nil_of_le hroom.le, List.append_nil]
  have hheader : 0 + (fetchedHeader toast_pointer data).length ≤
      (List.replicate (data.length + VARHDRSZ) (0 : UInt8)).length := by
    rw [fetchedHeader_length, hroom, Nat.zero_add]
    exact Nat.le_add_right ..
  refine Ensures.seq (malloc_ensures _) fun result s₁ h₁ => ?_
  refine Ensures.seq (h₁.written hheader) fun _ s₂ h₂ => ?_
  split
  next hzero =>
    -- nothing is written after the header, and there is nothing after it
    have hnil : data = [] := List.length_eq_zero_iff.1 hzero
    subst hnil
    rw [overwrite_nil] at hblock
    rw [← hblock]
    exact Ensures.pure h₂
  next hzero =>
    obtain ⟨toast_rel, hopen, hslice⟩ := hfetch fun hnil => hzero (List.length_eq_zero_iff.2 hnil)
    have hroom₂ := (length_overwrite hheader).trans hroom
    refine Ensures.bind ?_
    rw [table_relation_fetch_toast_slice, hopen]
    show Ensures (match toast_rel toast_pointer.va_valueid data.length with | none => _ | some data => _) _ _ _
    rw [hslice]
    refine Ensures.seq (h₂.written hroom₂.ge) fun _ s₃ h₃ => ?_
    rw [← fetchedHeader, hblock] at h₃
    exact Ensures.pure (Ensures.pure h₃)

/-- A value on disk is fetched. -/
theorem ToastFetchDatum_ensures {data : List UInt8} (hv : s.find value = some attr)
    (form : VARATT_IS_EXTERNAL_ONDISK attr = true) (h : Fetched E (toastPointer attr) data) :
    Ensures (ToastFetchDatum E value) s (New s (fetchedHeader (toastPointer attr) data ++ data)) fun _ => False := by
  refine Ensures.bind (Ensures.load hv ?_)
  rw [if_pos form, ← h.1]
  exact fetchValue_ensures h.2

/-- After the block in between has been given back, only the last one is new. -/
theorem New.dealloc {tmp : Addr} {data : List UInt8} {s₁ s₂ : Heap} (h₁ : New s data tmp s₁)
    (h₂ : New s₁ block result s₂) : New s block result (s₂.free tmp) := by
  have hne : result ≠ tmp := fun he => by
    have hfresh := h₂.fresh
    rw [he, h₁.find] at hfresh
    cases hfresh
  refine ⟨h₂.ne_null, ?_, ?_, fun p hp => ?_⟩
  · rw [← h₁.kept result hne, h₂.fresh]
  · rw [Heap.find_free_ne hne, h₂.find]
  · rcases eq_or_ne p tmp with rfl | hp'
    · rw [Heap.find_free, h₁.fresh]
    · rw [Heap.find_free_ne hp', h₂.kept p hp, h₁.kept p hp']

/-- A value on disk that is not compressed is fetched and plain. -/
theorem detoastOndisk_ensures (hv : s.find value = some attr) (form : VARATT_IS_EXTERNAL_ONDISK attr = true)
    (compressed : (toastPointer attr).VARATT_EXTERNAL_IS_COMPRESSED = false)
    (size : payload.length + VARHDRSZ < 2 ^ 30) (fetch : Fetched E (toastPointer attr) payload) :
    Ensures (detoastOndisk E value) s (NewPlain s payload) fun _ => False := by
  refine Ensures.seq (ToastFetchDatum_ensures hv form fetch) fun result s₁ h₁ => ?_
  rw [fetchedHeader, if_neg (ne_true_of_eq_false compressed)] at h₁
  refine Ensures.bind (Ensures.load h₁.find ?_)
  rw [if_neg (by rw [SET_VARSIZE_not_compressed]; exact Bool.false_ne_true)]
  refine Ensures.pure ⟨_, ?_, h₁⟩
  have hplain : Plain (SET_VARSIZE (payload.length + VARHDRSZ) ++ payload ++ []) payload := .mk_append size
  rwa [List.append_nil] at hplain

/-- The branch up to the decompression. -/
theorem detoastOndisk_compressed {data : List UInt8} {Q : Addr → Heap → Prop} (hv : s.find value = some attr)
    (form : VARATT_IS_EXTERNAL_ONDISK attr = true)
    (compressed : (toastPointer attr).VARATT_EXTERNAL_IS_COMPRESSED = true)
    (fetch : Fetched E (toastPointer attr) data)
    (h : ∀ tmp s₁, New s (SET_VARSIZE_COMPRESSED (data.length + VARHDRSZ) ++ data) tmp s₁ →
      Ensures (ToastDecompressDatum E tmp) s₁ (fun result s₂ => Q result (s₂.free tmp)) fun _ => False) :
    Ensures (detoastOndisk E value) s Q fun _ => False := by
  refine Ensures.seq (ToastFetchDatum_ensures hv form fetch) fun tmp s₁ h₁ => ?_
  rw [fetchedHeader, if_pos compressed] at h₁
  refine Ensures.bind (Ensures.load h₁.find ?_)
  rw [if_pos SET_VARSIZE_COMPRESSED_compressed]
  refine Ensures.seq (h tmp s₁ h₁) fun result s₂ hQ => ?_
  exact Ensures.bind (Ensures.dealloc (Ensures.pure hQ))

/-- An expanded object is flattened. -/
theorem detoastExpanded_ensures (hv : s.find value = some attr)
    (size : (E.EOH_flatten_into (pointerOf attr)).length = E.EOH_get_flat_size (pointerOf attr))
    (h : Plain (E.EOH_flatten_into (pointerOf attr)) payload) :
    Ensures (detoastExpanded E value) s (NewPlain s payload) fun _ => False := by
  refine Ensures.bind (Ensures.load hv ?_)
  refine Ensures.seq (malloc_ensures _) fun result s₁ h₁ => ?_
  refine Ensures.seq (h₁.written ?_) fun _ s₂ h₂ => ?_
  · rw [List.length_replicate, Nat.zero_add, size]
  · rw [overwrite_zero, List.drop_eq_nil_of_le (by rw [List.length_replicate, size]), List.append_nil] at h₂
    exact Ensures.pure ⟨_, h, h₂⟩

/-- A value with a short header is copied under a full one. -/
theorem detoastShort_ensures (hv : s.find value = some attr) (header : VARHDRSZ_SHORT ≤ VARSIZE_SHORT attr)
    (inside : VARSIZE_SHORT attr ≤ attr.length) :
    Ensures (detoastShort E value) s (NewPlain s (VARDATA_SHORT attr)) fun _ => False := by
  have hlen : (VARDATA_SHORT attr).length = VARSIZE_SHORT attr - VARHDRSZ_SHORT := by
    rw [VARDATA_SHORT, List.length_take, List.length_drop]
    omega
  have hsize : (VARDATA_SHORT attr).length + VARHDRSZ < 2 ^ 30 := by
    have hbyte := (attr.getD 0 0).toNat_lt
    rw [hlen, VARSIZE_SHORT, byteAt, VARHDRSZ]
    omega
  refine Ensures.bind (Ensures.load hv ?_)
  rw [← hlen]
  have hroom : (List.replicate ((VARDATA_SHORT attr).length + VARHDRSZ) (0 : UInt8)).length =
      VARHDRSZ + (VARDATA_SHORT attr).length := by
    rw [List.length_replicate, Nat.add_comm]
  have hheader : 0 + (SET_VARSIZE ((VARDATA_SHORT attr).length + VARHDRSZ)).length ≤
      (List.replicate ((VARDATA_SHORT attr).length + VARHDRSZ) (0 : UInt8)).length := by
    rw [SET_VARSIZE_length, hroom, Nat.zero_add]
    exact Nat.le_add_right ..
  refine Ensures.seq (malloc_ensures _) fun result s₁ h₁ => ?_
  refine Ensures.seq (h₁.written hheader) fun _ s₂ h₂ => ?_
  refine Ensures.seq (h₂.written ((length_overwrite hheader).trans hroom).ge) fun _ s₃ h₃ => ?_
  rw [header_then_data SET_VARSIZE_length] at h₃
  exact Ensures.pure ⟨_, Plain.mk_append hsize, h₃⟩

/-! ## The forms -/

/-- The first two bytes of a value out of line on disk. -/
theorem VARATT_IS_EXTERNAL_ONDISK_iff :
    VARATT_IS_EXTERNAL_ONDISK attr = true ↔ byteAt attr 0 = 1 ∧ byteAt attr 1 = 18 := by
  simp only [VARATT_IS_EXTERNAL_ONDISK, VARATT_IS_EXTERNAL, VARTAG_EXTERNAL, VARTAG_ONDISK, Bool.and_eq_true,
    beq_iff_eq]

/-- The first two bytes of an indirect value. -/
theorem VARATT_IS_EXTERNAL_INDIRECT_iff :
    VARATT_IS_EXTERNAL_INDIRECT attr = true ↔ byteAt attr 0 = 1 ∧ byteAt attr 1 = 1 := by
  simp only [VARATT_IS_EXTERNAL_INDIRECT, VARATT_IS_EXTERNAL, VARTAG_EXTERNAL, VARTAG_INDIRECT,
    Bool.and_eq_true, beq_iff_eq]

/-- The first two bytes of an expanded value. -/
theorem VARATT_IS_EXTERNAL_EXPANDED_iff :
    VARATT_IS_EXTERNAL_EXPANDED attr = true ↔ byteAt attr 0 = 1 ∧ byteAt attr 1 / 2 = 1 := by
  simp only [VARATT_IS_EXTERNAL_EXPANDED, VARATT_IS_EXTERNAL, VARTAG_EXTERNAL, VARTAG_EXPANDED_RO,
    Bool.and_eq_true, beq_iff_eq]
  omega

/-- The two low bits of the header of a compressed value. -/
theorem VARATT_IS_COMPRESSED_iff : VARATT_IS_COMPRESSED attr = true ↔ byteAt attr 0 % 4 = 2 := by
  rw [VARATT_IS_COMPRESSED, beq_iff_eq]

/-- The low bit of the header of a short value. -/
theorem VARATT_IS_SHORT_iff : VARATT_IS_SHORT attr = true ↔ byteAt attr 0 % 2 = 1 := by
  rw [VARATT_IS_SHORT, beq_iff_eq]

/-- What is not external has none of the external forms. -/
theorem not_external_forms (h : VARATT_IS_EXTERNAL attr = false) :
    VARATT_IS_EXTERNAL_ONDISK attr = false ∧ VARATT_IS_EXTERNAL_INDIRECT attr = false ∧
      VARATT_IS_EXTERNAL_EXPANDED attr = false := by
  simp only [VARATT_IS_EXTERNAL_ONDISK, VARATT_IS_EXTERNAL_INDIRECT, VARATT_IS_EXTERNAL_EXPANDED, h,
    Bool.false_and, and_self]

/-- A compressed value is in line. -/
theorem not_external_of_compressed (form : VARATT_IS_COMPRESSED attr = true) : VARATT_IS_EXTERNAL attr = false := by
  rw [VARATT_IS_COMPRESSED_iff] at form
  rw [VARATT_IS_EXTERNAL, beq_eq_false_iff_ne]
  omega

/-- A compressed value has no short header. -/
theorem not_compressed_of_short (form : VARATT_IS_SHORT attr = true) : VARATT_IS_COMPRESSED attr = false := by
  rw [VARATT_IS_SHORT_iff] at form
  rw [← Bool.not_eq_true, VARATT_IS_COMPRESSED_iff]
  omega

/-- A value on disk is not indirect. -/
theorem not_indirect_of_ondisk (form : VARATT_IS_EXTERNAL_ONDISK attr = true) :
    VARATT_IS_EXTERNAL_INDIRECT attr = false := by
  rw [VARATT_IS_EXTERNAL_ONDISK_iff] at form
  rw [← Bool.not_eq_true, VARATT_IS_EXTERNAL_INDIRECT_iff]
  omega

/-- An indirect value is not on disk. -/
theorem not_ondisk_of_indirect (form : VARATT_IS_EXTERNAL_INDIRECT attr = true) :
    VARATT_IS_EXTERNAL_ONDISK attr = false := by
  rw [VARATT_IS_EXTERNAL_INDIRECT_iff] at form
  rw [← Bool.not_eq_true, VARATT_IS_EXTERNAL_ONDISK_iff]
  omega

/-- An expanded value is neither on disk nor indirect. -/
theorem not_ondisk_of_expanded (form : VARATT_IS_EXTERNAL_EXPANDED attr = true) :
    VARATT_IS_EXTERNAL_ONDISK attr = false ∧ VARATT_IS_EXTERNAL_INDIRECT attr = false := by
  rw [VARATT_IS_EXTERNAL_EXPANDED_iff] at form
  rw [← Bool.not_eq_true, ← Bool.not_eq_true, VARATT_IS_EXTERNAL_ONDISK_iff, VARATT_IS_EXTERNAL_INDIRECT_iff]
  omega

/-- No direct datum is an indirect pointer. -/
theorem Direct.not_indirect (h : Direct E attr payload) : VARATT_IS_EXTERNAL_INDIRECT attr = false := by
  cases h with
  | plain h => exact (not_external_forms h.forms.1).2.1
  | short _ external => exact (not_external_forms external).2.1
  | compressed form => exact (not_external_forms (not_external_of_compressed form)).2.1
  | ondisk form => exact not_indirect_of_ondisk form
  | ondiskCompressed form => exact not_indirect_of_ondisk form
  | expanded form => exact (not_ondisk_of_expanded form).2

/-- A direct datum on disk that is compressed. -/
theorem Direct.fetched (h : Direct E attr payload) (form : VARATT_IS_EXTERNAL_ONDISK attr = true)
    (compressed : (toastPointer attr).VARATT_EXTERNAL_IS_COMPRESSED = true) :
    ∃ data, Fetched E (toastPointer attr) data ∧
      TOAST_COMPRESS_METHOD (SET_VARSIZE_COMPRESSED (data.length + VARHDRSZ) ++ data) =
        (toastPointer attr).VARATT_EXTERNAL_GET_COMPRESS_METHOD := by
  have hno : VARATT_IS_EXTERNAL_ONDISK attr ≠ false := ne_false_of_eq_true form
  cases h with
  | plain h => exact absurd (not_external_forms h.forms.1).1 hno
  | short _ external => exact absurd (not_external_forms external).1 hno
  | compressed form => exact absurd (not_external_forms (not_external_of_compressed form)).1 hno
  | ondisk _ plain => exact absurd compressed (ne_true_of_eq_false plain)
  | ondiskCompressed _ _ _ fetch method => exact ⟨_, fetch, method⟩
  | expanded form => exact absurd (not_ondisk_of_expanded form).1 hno

/-! ## The whole function -/

/-- The call for an indirect pointer makes the same call again. -/
theorem DetoastPostgresDatum_indirect (hv : s.find value = some attr)
    (form : VARATT_IS_EXTERNAL_INDIRECT attr = true) : ∀ calls, DetoastPostgresDatum E calls value s = none
  | 0 => rfl
  | calls + 1 => by
    rw [DetoastPostgresDatum, hv]
    show (if _ then _ else _) = _
    rw [if_neg (ne_true_of_eq_false (not_ondisk_of_indirect form)), if_pos form,
      DetoastPostgresDatum_indirect hv form calls]
    rfl

/-- The branches that make no call. -/
def directBranch (E : Runtime) (attr : Addr) (bytes : List UInt8) : Program (Addr × Bool) :=
  if VARATT_IS_EXTERNAL_ONDISK bytes then withFree true (detoastOndisk E attr)
  else if VARATT_IS_EXTERNAL_EXPANDED bytes then withFree true (detoastExpanded E attr)
  else if VARATT_IS_COMPRESSED bytes then withFree true (ToastDecompressDatum E attr)
  else if VARATT_IS_SHORT bytes then withFree true (detoastShort E attr)
  else withFree false (pure attr)

/-- A value that is not indirect is detoasted in its own branch, by one call. -/
theorem DetoastPostgresDatum_direct (hv : s.find value = some attr)
    (form : VARATT_IS_EXTERNAL_INDIRECT attr = false) (calls : ℕ) :
    DetoastPostgresDatum E (calls + 1) value s = some ((directBranch E value attr).run s) := by
  rw [DetoastPostgresDatum, hv, directBranch]
  show (if _ then _ else _) = _
  rw [if_neg (ne_true_of_eq_false form)]
  split_ifs <;> rfl

/-- The branch of a value on disk. -/
theorem directBranch_ondisk (form : VARATT_IS_EXTERNAL_ONDISK attr = true) :
    directBranch E value attr = withFree true (detoastOndisk E value) := by
  rw [directBranch, if_pos form]

/-- The branch of an expanded value. -/
theorem directBranch_expanded (form : VARATT_IS_EXTERNAL_EXPANDED attr = true) :
    directBranch E value attr = withFree true (detoastExpanded E value) := by
  rw [directBranch, if_neg (ne_true_of_eq_false (not_ondisk_of_expanded form).1), if_pos form]

/-- The branches for datums that are not external. -/
theorem directBranch_internal (external : VARATT_IS_EXTERNAL attr = false) : directBranch E value attr =
    if VARATT_IS_COMPRESSED attr then withFree true (ToastDecompressDatum E value)
    else if VARATT_IS_SHORT attr then withFree true (detoastShort E value)
    else withFree false (pure value) := by
  obtain ⟨hondisk, -, hexpanded⟩ := not_external_forms external
  rw [directBranch, if_neg (ne_true_of_eq_false hondisk), if_neg (ne_true_of_eq_false hexpanded)]

/-- The branch of a compressed value. -/
theorem directBranch_compressed (form : VARATT_IS_COMPRESSED attr = true) :
    directBranch E value attr = withFree true (ToastDecompressDatum E value) := by
  rw [directBranch_internal (not_external_of_compressed form), if_pos form]

/-- The branch of a value with a short header. -/
theorem directBranch_short (form : VARATT_IS_SHORT attr = true) (external : VARATT_IS_EXTERNAL attr = false) :
    directBranch E value attr = withFree true (detoastShort E value) := by
  rw [directBranch_internal external, if_neg (ne_true_of_eq_false (not_compressed_of_short form)), if_pos form]

/-- The branch of a plain value, which is returned as it is and not freed. -/
theorem directBranch_plain (h : Plain attr payload) :
    directBranch E value attr = withFree false (pure value) := by
  obtain ⟨external, hcompressed, hshort⟩ := h.forms
  rw [directBranch_internal external, if_neg (ne_true_of_eq_false hcompressed),
    if_neg (ne_true_of_eq_false hshort)]

/-- What the caller gets and may free, after a branch that makes a new block. -/
theorem detoasts_of_new {p : Program Addr} (hv : s.find value = some attr)
    (form : VARATT_IS_EXTERNAL_INDIRECT attr = false) (hbranch : directBranch E value attr = withFree true p)
    (hp : Ensures p s (NewPlain s payload) fun _ => False) : Detoasts E s value payload := by
  have hfree : Ensures (withFree true p) s (fun r s' => r.2 = true ∧ NewPlain s payload r.1 s') fun _ => False :=
    Ensures.seq hp fun result s' h => Ensures.pure ⟨rfl, h⟩
  obtain ⟨⟨result, should_free⟩, s', heq, hflag, block, hplain, hnew⟩ := hfree.returns
  refine ⟨1, result, should_free, s', block, ?_, hnew.ne_null, hnew.find, hplain, ?_⟩
  · rw [DetoastPostgresDatum_direct hv form, hbranch, heq]
  · refine iff_of_true hflag ⟨hnew.fresh, fun he => ?_⟩
    have hfresh := hnew.fresh
    rw [he, hv] at hfresh
    cases hfresh

/-- Every other datum is detoasted, unless it is compressed with LZ4 and there is none. -/
theorem Direct.detoasts (hnull : value ≠ 0) (hv : s.find value = some attr) (h : Direct E attr payload)
    (hlz4 : E.USE_LZ4 = true ∨ IsLz4 attr = false) : Detoasts E s value payload := by
  have hindirect := h.not_indirect
  cases h with
  | plain h =>
    refine ⟨1, value, false, s, attr, ?_, hnull, hv, h, ?_⟩
    · rw [DetoastPostgresDatum_direct hv hindirect, directBranch_plain h]
      rfl
    · exact iff_of_false Bool.false_ne_true fun hnew => hnew.2 rfl
  | short form external header inside =>
    exact detoasts_of_new hv hindirect (directBranch_short form external) (detoastShort_ensures hv header inside)
  | compressed form h =>
    refine detoasts_of_new hv hindirect (directBranch_compressed form)
      (ToastDecompressDatum_ensures hv h (hlz4.imp_right fun hno => ?_))
    obtain ⟨hondisk, -, -⟩ := not_external_forms (not_external_of_compressed form)
    rw [IsLz4, hondisk, form, Bool.true_and] at hno
    exact beq_eq_false_iff_ne.1 hno
  | ondisk form compressed size fetch =>
    exact detoasts_of_new hv hindirect (directBranch_ondisk form)
      (detoastOndisk_ensures hv form compressed size fetch)
  | ondiskCompressed form compressed size fetch method h =>
    refine detoasts_of_new hv hindirect (directBranch_ondisk form)
      (detoastOndisk_compressed hv form compressed fetch fun tmp s₁ h₁ => ?_)
    refine (ToastDecompressDatum_ensures h₁.find h (hlz4.imp_right fun hno => ?_)).mono
      (fun result s₂ ⟨block, hplain, h₂⟩ => ⟨block, hplain, h₁.dealloc h₂⟩) fun _ => id
    rw [IsLz4, form, compressed, if_pos rfl, Bool.true_and, ← method] at hno
    exact beq_eq_false_iff_ne.1 hno
  | expanded form size h =>
    exact detoasts_of_new hv hindirect (directBranch_expanded form) (detoastExpanded_ensures hv size h)

/-- A branch that returns a null pointer. -/
theorem not_detoasts_of_null {p : Program Addr} (hv : s.find value = some attr)
    (form : VARATT_IS_EXTERNAL_INDIRECT attr = false) (hbranch : directBranch E value attr = withFree true p)
    (hp : Ensures p s (fun result _ => result = 0) fun _ => False) : ¬Detoasts E s value payload := by
  rintro ⟨calls, result, should_free, s', bytes, hrun, hnull, -⟩
  have hfree : Ensures (withFree true p) s (fun r _ => r.1 = 0) fun _ => False :=
    Ensures.seq hp fun _ _ h => Ensures.pure h
  cases calls with
  | zero => cases hrun
  | succ calls =>
    rw [DetoastPostgresDatum_direct hv form, hbranch, Option.some_inj] at hrun
    exact hnull (hfree.ok hrun)

/-- A value compressed with lz4 is not detoasted by a build without lz4. -/
theorem Direct.not_detoasts (hv : s.find value = some attr) (h : Direct E attr payload)
    (hno : E.USE_LZ4 = false) (hlz4 : IsLz4 attr = true) : ¬Detoasts E s value payload := by
  cases hondisk : VARATT_IS_EXTERNAL_ONDISK attr with
  | true =>
    rw [IsLz4, hondisk, if_pos rfl, Bool.and_eq_true, beq_iff_eq] at hlz4
    obtain ⟨data, fetch, method⟩ := h.fetched hondisk hlz4.1
    refine not_detoasts_of_null hv h.not_indirect (directBranch_ondisk hondisk)
      (detoastOndisk_compressed hv hondisk hlz4.1 fetch fun tmp s₁ h₁ => ?_)
    exact ToastDecompressDatum_null h₁.find (method.trans hlz4.2) hno
  | false =>
    rw [IsLz4, hondisk, if_neg Bool.false_ne_true, Bool.and_eq_true, beq_iff_eq] at hlz4
    exact not_detoasts_of_null hv h.not_indirect (directBranch_compressed hlz4.1)
      (ToastDecompressDatum_null hv hlz4.2 hno)

end

/-- A datum is detoasted exactly if it is no indirect pointer, and not compressed with LZ4 where there is none. -/
theorem detoasts_iff (E : Runtime) {s : Heap} {value : Addr} {attr payload : List UInt8} (hnull : value ≠ 0)
    (hv : s.find value = some attr) (h : WellFormed E s attr payload) :
    Detoasts E s value payload ↔
      VARATT_IS_EXTERNAL_INDIRECT attr = false ∧ (E.USE_LZ4 = true ∨ IsLz4 attr = false) := by
  cases h with
  | indirect form =>
    refine iff_of_false ?_ fun hcond => Bool.false_ne_true (hcond.1.symm.trans form)
    rintro ⟨calls, result, should_free, s', bytes, hrun, -⟩
    rw [DetoastPostgresDatum_indirect hv form] at hrun
    cases hrun
  | direct h =>
    constructor
    · intro hdetoasts
      refine ⟨h.not_indirect, ?_⟩
      by_contra hno
      rw [not_or, Bool.not_eq_true, Bool.not_eq_false] at hno
      exact h.not_detoasts hv hno.1 hno.2 hdetoasts
    · rintro ⟨-, hlz4⟩
      exact h.detoasts hnull hv hlz4

/-- A build with LZ4 and a heap whose blocks are at 8 and at the addresses after the last one. Its decompression
knows one compressed datum, which has only literals. -/
def runtime : Runtime where
  USE_LZ4 := true
  duckdb_malloc s _ := (s.blocks.map Prod.fst).sum + 1
  malloc_fresh s _ := by
    rw [Heap.find, List.lookup_eq_none_iff]
    intro b hb
    have hle := List.le_sum_of_mem (List.mem_map_of_mem (f := Prod.fst) hb)
    exact bne_iff_ne.2 (Nat.lt_succ_of_le hle).ne'
  malloc_ne_null _ _ := Nat.succ_ne_zero _
  pglz_decompress data size := if data = [0, 97, 98, 99] ∧ size = 3 then some [97, 98, 99] else none
  pglz_length data size payload h := by
    split at h
    · next hdata =>
      cases h
      exact hdata.2.ge
    · cases h
  LZ4_decompress_safe _ _ := none
  LZ4_length _ _ _ h := by cases h
  try_table_open _ := none
  EOH_get_flat_size _ := 0
  EOH_flatten_into _ := []

/-- The text `abc`, compressed with pglz. -/
def compressedText : List UInt8 := [50, 0, 0, 0, 3, 0, 0, 0, 0, 97, 98, 99]

/-- The text that is compressed with pglz is detoasted. -/
theorem detoasts_compressedText : Detoasts runtime ⟨[(8, compressedText)]⟩ 8 [97, 98, 99] ↔
    VARATT_IS_EXTERNAL_INDIRECT compressedText = false ∧
      (runtime.USE_LZ4 = true ∨ IsLz4 compressedText = false) :=
  detoasts_iff runtime (by decide) rfl
    (.direct (.compressed (by decide) ⟨by decide, .inl ⟨by decide, by decide⟩⟩))

/-- A plain datum at 16 and an indirect pointer to it at 8. -/
def indirectHeap : Heap := ⟨[(8, [1, 1, 16, 0, 0, 0, 0, 0, 0, 0]), (16, [28, 0, 0, 0, 97, 98, 99])]⟩

/-- The indirect pointer is well formed, and no number of calls is enough for it. -/
theorem not_detoasts_indirect :
    WellFormed runtime indirectHeap [1, 1, 16, 0, 0, 0, 0, 0, 0, 0] [97, 98, 99] ∧
      ¬Detoasts runtime indirectHeap 8 [97, 98, 99] := by
  have hfind : indirectHeap.find (pointerOf [1, 1, 16, 0, 0, 0, 0, 0, 0, 0]) = some [28, 0, 0, 0, 97, 98, 99] := rfl
  refine ⟨.indirect (by decide) hfind (.plain ⟨by decide, by decide, by decide, by decide⟩), ?_⟩
  rintro ⟨calls, result, should_free, s', bytes, hrun, -⟩
  have hform : VARATT_IS_EXTERNAL_INDIRECT [1, 1, 16, 0, 0, 0, 0, 0, 0, 0] = true := by decide
  rw [DetoastPostgresDatum_indirect rfl hform] at hrun
  cases hrun

end PgDuckdb.Detoast
