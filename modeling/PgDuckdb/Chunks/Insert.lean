import Mathlib.Algebra.Group.Nat.Defs
import PgDuckdb.Chunks.Types
import PgDuckdb.Lib.Loops

/-!
# Rows into chunks

A scan fills its output chunk row by row (`InsertTupleIntoChunk`) or, with several threads, batch by batch
(`InsertTuplesIntoChunk`). The first goes through the columns of each row, the second through the rows of each
column, at offsets that it computes, and it takes the lock and another memory context for the types that are
not thread safe. Both make of each column the same, as each writes the same rows to it in the same order.

What the operations on one column do does not matter here.
-/

namespace PgDuckdb.Chunks

open Lib

/-! ## The two functions -/

/-- A value that fits a word, or the address of one that does not. -/
abbrev Datum := BitVec 64

/-- A memory context. -/
abbrev MemoryContext := ℕ

/-- What the catalog says of a column. -/
structure FormData_pg_attribute where
  atttypid : Oid
  attlen : ℤ

/-- What is said of the columns of a row. -/
structure TupleDescData where
  natts : ℕ
  attrs : ℕ → FormData_pg_attribute

/-- A row, and what is said of it. -/
structure TupleTableSlot where
  tts_tupleDescriptor : TupleDescData
  tts_values : ℕ → Datum
  tts_isnull : ℕ → Bool

/-- The output chunk, with the local and the global state of the scan. -/
structure ScanState (Column : Type) where
  data : ℕ → Column
  output_vector_size : ℕ
  total_row_count : BitVec 32
  count_tuples_only : Bool
  duckdb_scan_memory_ctx : MemoryContext
  CurrentMemoryContext : MemoryContext
  /-- How often the thread holds `GlobalProcessLock`. -/
  lock : ℕ

/-- What is done to one column, which may throw. -/
structure ColumnOps (ε Column : Type) where
  GetType : Column → LogicalTypeId
  SetInvalid : ℕ → Column → Column
  DetoastPostgresDatum : Datum → Datum
  ConvertPostgresToDuckValue : Oid → Datum → ℕ → Column → Except ε Column

section
variable {ε Column : Type} (ops : ColumnOps ε Column)

/-- One value into one row of a column. -/
def insertValue (attr : FormData_pg_attribute) (isnull : Bool) (value : Datum) (offset : ℕ) (result : Column) :
    Except ε Column :=
  if isnull then .ok (ops.SetInvalid offset result)
  else if attr.attlen = -1 then
    ops.ConvertPostgresToDuckValue attr.atttypid (ops.DetoastPostgresDatum value) offset result
  else ops.ConvertPostgresToDuckValue attr.atttypid value offset result

/-- The value of a row in the `i`-th column. -/
def insertAttribute (desc : TupleDescData) (slot : TupleTableSlot) (i offset : ℕ) (result : Column) :
    Except ε Column :=
  insertValue ops (desc.attrs i) (slot.tts_isnull i) (slot.tts_values i) offset result

/-- One tuple into every column. -/
def InsertTupleIntoChunk (s : ScanState Column) (slot : TupleTableSlot) : Except ε (ScanState Column) :=
  if s.count_tuples_only then
    .ok { s with
      total_row_count := s.total_row_count + (slot.tts_values 0).setWidth 32
      output_vector_size := (s.output_vector_size + (slot.tts_values 0).toNat) % 2 ^ 64 }
  else do
    let desc := slot.tts_tupleDescriptor
    let data ← (List.range desc.natts).foldlM
      (fun data i => stepAt (insertAttribute ops desc slot i s.output_vector_size) i data) s.data
    return { s with
      data
      output_vector_size := s.output_vector_size + 1
      total_row_count := s.total_row_count + 1 }

/-- All rows of the batch in one column. -/
def insertColumn (desc : TupleDescData) (slots : List TupleTableSlot) (s : ScanState Column) (i : ℕ) :
    Except ε (ScanState Column) := do
  let is_safe_type := IsThreadSafeTypeForPostgresToDuckDB (desc.attrs i).atttypid (ops.GetType (s.data i))
  let old_ctx := s.CurrentMemoryContext
  let s := if is_safe_type then s
    else { s with lock := s.lock + 1, CurrentMemoryContext := s.duckdb_scan_memory_ctx }
  let result ← slots.zipIdx.foldlM
    (fun result row => insertAttribute ops desc row.1 i (s.output_vector_size + row.2) result) (s.data i)
  let s := { s with data := Function.update s.data i result }
  return if is_safe_type then s else { s with lock := s.lock - 1, CurrentMemoryContext := old_ctx }

/-- A batch of tuples, column for column. -/
def InsertTuplesIntoChunk (s : ScanState Column) : List TupleTableSlot → Except ε (ScanState Column)
  | [] => .ok s
  | slot :: slots => do
    let desc := slot.tts_tupleDescriptor
    let s ← (List.range desc.natts).foldlM (insertColumn ops desc (slot :: slots)) s
    return { s with
      output_vector_size := s.output_vector_size + (slots.length + 1)
      total_row_count := s.total_row_count + BitVec.ofNat 32 (slots.length + 1) }

end

/-! ## The same rows, column by column -/

section
variable {ε Column : Type} {ops : ColumnOps ε Column} {desc : TupleDescData} {slots : List TupleTableSlot}
variable {s s' : ScanState Column}

/-- The rows of one column, each with its offset. -/
def insertRows (ops : ColumnOps ε Column) (desc : TupleDescData) (rows : List (TupleTableSlot × ℕ)) (i : ℕ)
    (result : Column) : Except ε Column :=
  rows.foldlM (fun result row => insertAttribute ops desc row.1 i row.2 result) result

/-- The state after `n` rows more, with these columns. -/
def ScanState.after (s : ScanState Column) (n : ℕ) (data : ℕ → Column) : ScanState Column :=
  { s with
    data
    output_vector_size := s.output_vector_size + n
    total_row_count := s.total_row_count + BitVec.ofNat 32 n }

/-- The lock and the memory context are as before. -/
theorem insertColumn_eq (i : ℕ) :
    insertColumn ops desc slots s i =
      (stepAt (insertRows ops desc (slots.zipIdx s.output_vector_size) i) i s.data).map
        fun data => { s with data } := by
  have hrows : insertRows ops desc (slots.zipIdx s.output_vector_size) i (s.data i) =
      slots.zipIdx.foldlM (fun result row =>
        insertAttribute ops desc row.1 i (s.output_vector_size + row.2) result) (s.data i) := by
    rw [insertRows, List.zipIdx_eq_map_add, List.foldlM_map]
  rw [stepAt, hrows, insertColumn]
  cases IsThreadSafeTypeForPostgresToDuckDB (desc.attrs i).atttypid (ops.GetType (s.data i)) with
  | true =>
    simp only [if_pos]
    cases slots.zipIdx.foldlM (fun result row =>
      insertAttribute ops desc row.1 i (s.output_vector_size + row.2) result) (s.data i) <;> rfl
  | false =>
    simp only [Bool.false_eq_true, if_false]
    cases slots.zipIdx.foldlM (fun result row =>
      insertAttribute ops desc row.1 i (s.output_vector_size + row.2) result) (s.data i) <;> rfl

/-- A batch column for column is one loop over the columns. -/
theorem insertColumns_eq (is : List ℕ) :
    is.foldlM (insertColumn ops desc slots) s =
      (is.foldlM (fun data i => stepAt (insertRows ops desc (slots.zipIdx s.output_vector_size) i) i data)
        s.data).map fun data => { s with data } := by
  induction is generalizing s with
  | nil => rfl
  | cons i is ih =>
    rw [List.foldlM_cons, List.foldlM_cons, insertColumn_eq]
    cases stepAt (insertRows ops desc (slots.zipIdx s.output_vector_size) i) i s.data with
    | error e => rfl
    | ok data => exact ih

/-- No rows change nothing. -/
theorem ScanState.after_zero : s.after 0 s.data = s := by
  rw [after, BitVec.add_zero]
  rfl

/-- Rows after other rows. -/
theorem ScanState.after_after {m n : ℕ} {data data' : ℕ → Column} :
    (s.after m data).after n data' = s.after (m + n) data' := by
  have hrows : s.total_row_count + BitVec.ofNat 32 m + BitVec.ofNat 32 n =
      s.total_row_count + BitVec.ofNat 32 (m + n) := by
    rw [BitVec.add_assoc, ← BitVec.ofNat_add]
  rw [after, after, after, Nat.add_assoc, hrows]

/-- A batch that succeeds fills every column. -/
theorem insertTuples_iff (hd : ∀ slot ∈ slots, slot.tts_tupleDescriptor = desc) (hs : slots ≠ []) :
    InsertTuplesIntoChunk ops s slots = .ok s' ↔
      ∃ data, (List.range desc.natts).foldlM (fun data i =>
        stepAt (insertRows ops desc (slots.zipIdx s.output_vector_size) i) i data) s.data = .ok data ∧
        s' = s.after slots.length data := by
  cases slots with
  | nil => exact absurd rfl hs
  | cons slot slots =>
    obtain rfl := hd slot List.mem_cons_self
    rw [← map_eq_ok, InsertTuplesIntoChunk, insertColumns_eq]
    cases (List.range slot.tts_tupleDescriptor.natts).foldlM (fun data i =>
        stepAt (insertRows ops slot.tts_tupleDescriptor ((slot :: slots).zipIdx s.output_vector_size) i) i data)
        s.data <;> rfl

/-- One row: its attributes at the next offset. -/
theorem insertTuple_iff {slot : TupleTableSlot} (hd : slot.tts_tupleDescriptor = desc)
    (hc : s.count_tuples_only = false) :
    InsertTupleIntoChunk ops s slot = .ok s' ↔
      ∃ data, (List.range desc.natts).foldlM (fun data i =>
        stepAt (insertAttribute ops desc slot i s.output_vector_size) i data) s.data = .ok data ∧
        s' = s.after 1 data := by
  subst hd
  rw [← map_eq_ok, InsertTupleIntoChunk, if_neg (by rw [hc]; exact Bool.false_ne_true)]
  dsimp only
  cases (List.range slot.tts_tupleDescriptor.natts).foldlM (fun data i =>
      stepAt (insertAttribute ops slot.tts_tupleDescriptor slot i s.output_vector_size) i data) s.data <;> rfl

/-- Tuples one by one that succeed fill every column. -/
theorem insertEach_iff (hd : ∀ slot ∈ slots, slot.tts_tupleDescriptor = desc)
    (hc : s.count_tuples_only = false) :
    slots.foldlM (InsertTupleIntoChunk ops) s = .ok s' ↔
      ∃ data, (slots.zipIdx s.output_vector_size).foldlM (fun data row => (List.range desc.natts).foldlM
        (fun data i => stepAt (insertAttribute ops desc row.1 i row.2) i data) data) s.data = .ok data ∧
        s' = s.after slots.length data := by
  induction slots generalizing s with
  | nil =>
    constructor
    · intro h
      cases h
      exact ⟨_, rfl, ScanState.after_zero.symm⟩
    · rintro ⟨data, h, rfl⟩
      cases h
      exact congrArg Except.ok ScanState.after_zero.symm
  | cons slot slots ih =>
    have hd' : ∀ slot ∈ slots, slot.tts_tupleDescriptor = desc := fun t ht => hd t (List.mem_cons_of_mem slot ht)
    have hslot := hd slot List.mem_cons_self
    rw [foldlM_cons_eq_ok_iff, List.zipIdx_cons]
    constructor
    · rintro ⟨t, ht, h⟩
      obtain ⟨data, hdata, rfl⟩ := (insertTuple_iff hslot hc).1 ht
      obtain ⟨data', hdata', rfl⟩ := (@ih (s.after 1 data) hd' hc).1 h
      refine ⟨data', foldlM_cons_eq_ok_iff.2 ⟨data, hdata, hdata'⟩, ?_⟩
      rw [ScanState.after_after, List.length_cons, Nat.add_comm]
    · rintro ⟨data', h, rfl⟩
      obtain ⟨data, hdata, hdata'⟩ := foldlM_cons_eq_ok_iff.1 h
      refine ⟨s.after 1 data, (insertTuple_iff hslot hc).2 ⟨data, hdata, rfl⟩, ?_⟩
      refine (@ih (s.after 1 data) hd' hc).2 ⟨data', hdata', ?_⟩
      rw [ScanState.after_after, List.length_cons, Nat.add_comm]

/-- One batch. -/
theorem insertTuples_eq_ok_iff (hd : ∀ slot ∈ slots, slot.tts_tupleDescriptor = desc)
    (hc : s.count_tuples_only = false) :
    InsertTuplesIntoChunk ops s slots = .ok s' ↔ slots.foldlM (InsertTupleIntoChunk ops) s = .ok s' := by
  by_cases hs : slots = []
  · subst hs
    exact Iff.rfl
  · rw [insertTuples_iff hd hs, insertEach_iff hd hc]
    refine exists_congr fun data => and_congr_left fun _ => ?_
    exact (@foldlM_exchange _ _ _ _ _ _ _ _ (fun (row : TupleTableSlot × ℕ) i => insertAttribute ops desc row.1 i row.2) _
      List.nodup_range).symm

/-- Counting is not turned on by an insertion. -/
theorem count_tuples_only_of_insert (hd : ∀ slot ∈ slots, slot.tts_tupleDescriptor = desc)
    (hc : s.count_tuples_only = false) (h : slots.foldlM (InsertTupleIntoChunk ops) s = .ok s') :
    s'.count_tuples_only = false := by
  obtain ⟨data, -, rfl⟩ := (insertEach_iff hd hc).1 h
  exact hc

end

/-- Any batches of rows leave what the rows leave one by one. -/
theorem InsertTuplesIntoChunk_eq_rows {ε Column : Type} (ops : ColumnOps ε Column) (desc : TupleDescData)
    (batches : List (List TupleTableSlot)) (s s' : ScanState Column) (hc : s.count_tuples_only = false)
    (hd : ∀ slot ∈ batches.flatten, slot.tts_tupleDescriptor = desc) :
    batches.foldlM (InsertTuplesIntoChunk ops) s = .ok s' ↔
      batches.flatten.foldlM (InsertTupleIntoChunk ops) s = .ok s' := by
  induction batches generalizing s with
  | nil => exact Iff.rfl
  | cons slots batches ih =>
    rw [List.flatten_cons] at hd ⊢
    have hd₁ : ∀ slot ∈ slots, slot.tts_tupleDescriptor = desc := fun t ht => hd t (List.mem_append_left _ ht)
    have hd₂ : ∀ slot ∈ batches.flatten, slot.tts_tupleDescriptor = desc := fun t ht =>
      hd t (List.mem_append_right _ ht)
    have happ : ∀ t : ScanState Column, (∃ u, slots.foldlM (InsertTupleIntoChunk ops) s = .ok u ∧
        batches.flatten.foldlM (InsertTupleIntoChunk ops) u = .ok t) ↔
        (slots ++ batches.flatten).foldlM (InsertTupleIntoChunk ops) s = .ok t := by
      intro t
      rw [List.foldlM_append, bind_eq_ok]
    rw [foldlM_cons_eq_ok_iff, ← happ]
    refine exists_congr fun t => ?_
    rw [insertTuples_eq_ok_iff hd₁ hc]
    refine and_congr_right fun ht => ?_
    exact ih t (count_tuples_only_of_insert hd₁ hc ht) hd₂

/-- Columns of 64-bit numbers, with what was written to each row. -/
def numberOps : ColumnOps String (ℕ → Option (Option Datum)) where
  GetType := fun _ => .BIGINT
  SetInvalid := fun offset result => Function.update result offset (some none)
  DetoastPostgresDatum := fun value => value
  ConvertPostgresToDuckValue := fun _ value offset result => .ok (Function.update result offset (some (some value)))

/-- A row `(value, NULL)`. -/
def numberSlot (value : Datum) : TupleTableSlot where
  tts_tupleDescriptor := ⟨2, fun _ => ⟨INT8OID, 8⟩⟩
  tts_values := fun _ => value
  tts_isnull := fun i => i = 1

/-- Three rows in two batches. -/
theorem InsertTuplesIntoChunk_eq_rows_numbers :
    ∃ s', [1, 2, 3].foldlM (fun s value => InsertTupleIntoChunk numberOps s (numberSlot value))
        ⟨fun _ _ => none, 0, 0, false, 0, 1, 0⟩ = .ok s' ∧
      [[numberSlot 1], [numberSlot 2, numberSlot 3]].foldlM (InsertTuplesIntoChunk numberOps)
        ⟨fun _ _ => none, 0, 0, false, 0, 1, 0⟩ = .ok s' := by
  refine ⟨_, rfl, ?_⟩
  refine (InsertTuplesIntoChunk_eq_rows numberOps (numberSlot 0).tts_tupleDescriptor _ _ _ rfl ?_).2 rfl
  intro slot hslot
  simp only [List.flatten_cons, List.flatten_nil, List.append_nil, List.cons_append, List.nil_append,
    List.mem_cons, List.not_mem_nil, or_false] at hslot
  rcases hslot with rfl | rfl | rfl <;> rfl

end PgDuckdb.Chunks
