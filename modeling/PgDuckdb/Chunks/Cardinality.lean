import Mathlib.Algebra.Order.BigOperators.Group.List
import Mathlib.Algebra.Ring.Nat
import PgDuckdb.Chunks.Insert
import PgDuckdb.Scan.LifeCycle

/-!
# What a scan emits

DuckDB calls `PostgresScanFunction` until a chunk is empty (`postgres_scan.cpp`). A call reads a vector of rows at
most, one by one or in batches, and says in `output_vector_size` how many rows its chunk has. In `COUNT(*)` mode
nothing is written to the chunks: the counts of the workers are added up in `output_vector_size` by the first call,
and the calls after it take a vector at a time from there.

`PostgresScanFunction_emits` is about all calls of one thread. What the reader has for the thread is a list, since
after the end of the scan it has nothing more. The counts are added up in a `size_t`.
-/

namespace PgDuckdb.Chunks

open Lib
open Scan (STANDARD_VECTOR_SIZE LOCAL_STATE_SLOT_BATCH_SIZE)

/-! ## The calls -/

/-- A scan, as one of its threads sees it. -/
structure ThreadScan (Column : Type) where
  output : ScanState Column
  exhausted_scan : Bool
  /-- `MaxThreads() > 1`. -/
  is_parallel_scan : Bool
  /-- The tuples that the reader still has for the thread. -/
  stream : List TupleTableSlot

section
variable {ε Column : Type} (ops : ColumnOps ε Column)

/-- `SetOutputCardinality`. -/
def SetOutputCardinality (s : ThreadScan Column) : ℕ × ThreadScan Column :=
  let output_cardinality :=
    if s.output.output_vector_size ≤ STANDARD_VECTOR_SIZE then s.output.output_vector_size
    else STANDARD_VECTOR_SIZE
  (output_cardinality,
    { s with output := { s.output with output_vector_size := s.output.output_vector_size - output_cardinality } })

/-- `ScanSingleTuple`. -/
def ScanSingleTuple (s : ThreadScan Column) : Except ε (Bool × ThreadScan Column) :=
  match s.stream with
  | [] => .ok (false, s)
  | slot :: stream => do
    let old_context := s.output.CurrentMemoryContext
    let output := { s.output with CurrentMemoryContext := s.output.duckdb_scan_memory_ctx }
    let output ← InsertTupleIntoChunk ops output slot
    return (true, { s with stream, output := { output with CurrentMemoryContext := old_context } })

/-- The only batch of a scan with one thread. -/
def scanSingleTuples : ℕ → ThreadScan Column → Except ε (ThreadScan Column)
  | 0, s => .ok s
  | n + 1, s => do
    let (ret, s) ← ScanSingleTuple ops s
    if ret then scanSingleTuples n s else return { s with exhausted_scan := true }

/-- The tuples of a batch, read under the lock. -/
def fetchBatch : ℕ → ThreadScan Column → List TupleTableSlot × ThreadScan Column
  | 0, s => ([], s)
  | n + 1, s =>
    match s.stream with
    | [] => ([], { s with exhausted_scan := true })
    | slot :: stream =>
      let (slots, s) := fetchBatch n { s with stream }
      (slot :: slots, s)

/-- The batches of a scan with several threads. There is no early exit. -/
def scanBatches : ℕ → ThreadScan Column → Except ε (ThreadScan Column)
  | 0, s => .ok s
  | n + 1, s => do
    let (slots, s) := fetchBatch LOCAL_STATE_SLOT_BATCH_SIZE s
    let output ← InsertTuplesIntoChunk ops s.output slots
    scanBatches n { s with output }

/-- The loop of `PostgresScanFunction`. -/
def readVector (s : ThreadScan Column) : Except ε (ThreadScan Column) :=
  if s.is_parallel_scan then scanBatches ops (STANDARD_VECTOR_SIZE / LOCAL_STATE_SLOT_BATCH_SIZE) s
  else scanSingleTuples ops STANDARD_VECTOR_SIZE s

/-- `PostgresScanFunction`, for a chunk with these columns, with the cardinality of the chunk. -/
def PostgresScanFunction (output : ℕ → Column) (s : ThreadScan Column) : Except ε (ℕ × ThreadScan Column) :=
  if s.exhausted_scan then .ok (SetOutputCardinality s)
  else do
    let s ← readVector ops { s with output := { s.output with data := output, output_vector_size := 0 } }
    return SetOutputCardinality s

/-- The cardinalities of the chunks before the first empty one, if it is among so many calls. -/
def scanChunks (output : ℕ → Column) : ℕ → ThreadScan Column → Except ε (Option (List ℕ × ThreadScan Column))
  | 0, _ => .ok none
  | n + 1, s => do
    let (cardinality, s) ← PostgresScanFunction ops output s
    if cardinality = 0 then return some ([], s)
    else return (← scanChunks output n s).map fun r => (cardinality :: r.1, r.2)

/-- After some calls one of them has thrown, or the first empty chunk has come. Then all chunks together have
`total` rows, and nothing remains. -/
def Emits (output : ℕ → Column) (s : ThreadScan Column) (total : ℕ) : Prop :=
  ∃ calls, (∃ e, scanChunks ops output calls s = .error e) ∨
    ∃ cardinalities s', scanChunks ops output calls s = .ok (some (cardinalities, s')) ∧
      cardinalities.sum = total ∧ (∀ n ∈ cardinalities, n ≤ STANDARD_VECTOR_SIZE) ∧
      s'.stream = [] ∧ s'.exhausted_scan = true ∧ s'.output.output_vector_size = 0

end

/-! ## Modes -/

/-- How the rows are counted. -/
inductive Mode
  | rows
  | batches
  | count
  deriving DecidableEq, Repr

/-- The scan before the first call, the output being in whatever state. -/
def ThreadScan.init {Column : Type} (mode : Mode) (output : ScanState Column) (stream : List TupleTableSlot) :
    ThreadScan Column where
  output := { output with output_vector_size := 0, count_tuples_only := mode = .count }
  exhausted_scan := false
  is_parallel_scan := mode = .batches
  stream := stream

/-- The count in a tuple of `SELECT COUNT(*)`. -/
def TupleTableSlot.count (slot : TupleTableSlot) : ℕ := (slot.tts_values 0).toNat

/-- What the chunks of a scan should hold together. -/
def Mode.total (stream : List TupleTableSlot) : Mode → ℕ
  | rows | batches => stream.length
  | count => (stream.map TupleTableSlot.count).sum % 2 ^ 64

/-! ## What a call takes -/

section
variable {ε Column : Type} {ops : ColumnOps ε Column} {output : ℕ → Column}
variable {s s' t : ThreadScan Column} {n m total : ℕ}

/-- The size after one more tuple. -/
def addTuple (count_tuples_only : Bool) (size : ℕ) (slot : TupleTableSlot) : ℕ :=
  if count_tuples_only then (size + slot.count) % 2 ^ 64 else size + 1

/-- One tuple adds one row, or what it counts. -/
theorem insertTuple_size {o o' : ScanState Column} {slot : TupleTableSlot}
    (h : InsertTupleIntoChunk ops o slot = .ok o') :
    o'.output_vector_size = addTuple o.count_tuples_only o.output_vector_size slot ∧
      o'.count_tuples_only = o.count_tuples_only := by
  cases hc : o.count_tuples_only with
  | true =>
    rw [InsertTupleIntoChunk, if_pos hc] at h
    cases h
    exact ⟨rfl, hc⟩
  | false =>
    obtain ⟨data, -, rfl⟩ := (insertTuple_iff rfl hc).1 h
    exact ⟨rfl, hc⟩

/-- A batch adds as many rows as it has tuples. -/
theorem insertTuples_size {o o' : ScanState Column} {slots : List TupleTableSlot}
    (h : InsertTuplesIntoChunk ops o slots = .ok o') :
    o'.output_vector_size = o.output_vector_size + slots.length ∧
      o'.count_tuples_only = o.count_tuples_only := by
  cases slots with
  | nil =>
    cases h
    exact ⟨rfl, rfl⟩
  | cons slot slots =>
    obtain ⟨o₁, h₁, h₂⟩ := bind_eq_ok.1 h
    rw [insertColumns_eq] at h₁
    obtain ⟨data, -, rfl⟩ := map_eq_ok.1 h₁
    cases h₂
    exact ⟨rfl, rfl⟩

/-- `n` tuples are taken from the stream, or as many as there are. -/
structure Took (n : ℕ) (s s' : ThreadScan Column) : Prop where
  stream : s'.stream = s.stream.drop n
  exhausted_scan : s'.exhausted_scan = (s.exhausted_scan || decide (s.stream.length < n))
  size : s'.output.output_vector_size =
    (s.stream.take n).foldl (addTuple s.output.count_tuples_only) s.output.output_vector_size
  count_tuples_only : s'.output.count_tuples_only = s.output.count_tuples_only
  is_parallel_scan : s'.is_parallel_scan = s.is_parallel_scan

/-- Nothing taken yet. -/
theorem Took.zero : Took 0 s s :=
  ⟨rfl, (Bool.or_false _).symm, rfl, rfl, rfl⟩

/-- Tuples taken one part after the other. -/
theorem Took.trans (h : Took n s s') (h' : Took m s' t) : Took (n + m) s t where
  stream := by rw [h'.stream, h.stream, List.drop_drop]
  exhausted_scan := by
    rw [h'.exhausted_scan, h.exhausted_scan, h.stream, List.length_drop, Bool.or_assoc, ← Bool.decide_or]
    congr 2
    exact propext ⟨by omega, by omega⟩
  size := by
    rw [h'.size, h.size, h.stream, h.count_tuples_only, List.take_add, List.foldl_append]
  count_tuples_only := h'.count_tuples_only.trans h.count_tuples_only
  is_parallel_scan := h'.is_parallel_scan.trans h.is_parallel_scan

/-- Nothing is left to take. -/
theorem Took.ended (h : s.stream = []) : Took (n + 1) s { s with exhausted_scan := true } where
  stream := by rw [h]; rfl
  exhausted_scan := by rw [h]; exact (Bool.or_true _).symm
  size := by rw [h]; rfl
  count_tuples_only := rfl
  is_parallel_scan := rfl

/-- A call that gets a tuple takes one. -/
theorem scanSingleTuple_took (h : ScanSingleTuple ops s = .ok (true, s')) : Took 1 s s' := by
  unfold ScanSingleTuple at h
  split at h
  · cases h
  next slot stream hstream =>
    obtain ⟨o, ho, h⟩ := bind_eq_ok.1 h
    obtain ⟨hsize, hcount⟩ := insertTuple_size ho
    cases h
    refine ⟨by rw [hstream]; rfl, ?_, ?_, hcount, rfl⟩
    · rw [hstream]
      exact (Bool.or_false _).symm
    · rw [hstream]
      exact hsize

/-- As many calls take as many tuples, or all there are. -/
theorem scanSingleTuples_took (h : scanSingleTuples ops n s = .ok s') : Took n s s' := by
  induction n generalizing s with
  | zero =>
    cases h
    exact .zero
  | succ n ih =>
    obtain ⟨⟨ret, s₁⟩, h₁, h⟩ := bind_eq_ok.1 h
    cases ret with
    | true =>
      rw [Nat.add_comm]
      exact (scanSingleTuple_took h₁).trans (ih h)
    | false =>
      cases h
      unfold ScanSingleTuple at h₁
      split at h₁
      next hstream =>
        cases h₁
        exact .ended hstream
      next =>
        obtain ⟨o, -, h₁⟩ := bind_eq_ok.1 h₁
        cases h₁

/-- What is read for a batch is not counted yet. -/
theorem fetchBatch_eq : fetchBatch n s = (s.stream.take n, { s with
    stream := s.stream.drop n
    exhausted_scan := s.exhausted_scan || decide (s.stream.length < n) }) := by
  induction n generalizing s with
  | zero => simp [fetchBatch]
  | succ n ih =>
    rw [fetchBatch]
    cases hstream : s.stream with
    | nil => simp
    | cons slot stream => simp [ih]

/-- Tuples that count for one row each. -/
theorem foldl_addTuple_rows (slots : List TupleTableSlot) (size : ℕ) :
    slots.foldl (addTuple false) size = size + slots.length := by
  induction slots generalizing size with
  | nil => rfl
  | cons slot slots ih =>
    rw [List.foldl_cons, ih, List.length_cons]
    exact Nat.add_right_comm _ _ _

/-- Tuples that count for what they carry. -/
theorem foldl_addTuple_count (slots : List TupleTableSlot) (size : ℕ) :
    slots.foldl (addTuple true) (size % 2 ^ 64) = (size + (slots.map TupleTableSlot.count).sum) % 2 ^ 64 := by
  induction slots generalizing size with
  | nil => rfl
  | cons slot slots ih =>
    have hslot : addTuple true (size % 2 ^ 64) slot = (size + slot.count) % 2 ^ 64 := Nat.mod_add_mod _ _ _
    rw [List.foldl_cons, hslot, ih, List.map_cons, List.sum_cons, Nat.add_assoc]

/-- As many batches take as many times a batch, or all there are. -/
theorem scanBatches_took (hcount : s.output.count_tuples_only = false) (h : scanBatches ops n s = .ok s') :
    Took (LOCAL_STATE_SLOT_BATCH_SIZE * n) s s' := by
  induction n generalizing s with
  | zero =>
    cases h
    exact .zero
  | succ n ih =>
    rw [scanBatches, fetchBatch_eq] at h
    obtain ⟨o, ho, h⟩ := bind_eq_ok.1 h
    obtain ⟨hsize, hsame⟩ := insertTuples_size ho
    have hbatch : Took LOCAL_STATE_SLOT_BATCH_SIZE s { s with
        output := o
        stream := s.stream.drop LOCAL_STATE_SLOT_BATCH_SIZE
        exhausted_scan := s.exhausted_scan || decide (s.stream.length < LOCAL_STATE_SLOT_BATCH_SIZE) } := by
      refine ⟨rfl, rfl, ?_, hsame, rfl⟩
      rw [hcount, foldl_addTuple_rows]
      exact hsize
    rw [Nat.mul_succ, Nat.add_comm]
    exact hbatch.trans (ih (hsame.trans hcount) h)

/-- A call that reads takes a vector. -/
theorem readVector_took (hmode : s.is_parallel_scan = true → s.output.count_tuples_only = false)
    (h : readVector ops s = .ok s') : Took STANDARD_VECTOR_SIZE s s' := by
  unfold readVector at h
  split at h
  next hp => exact scanBatches_took (hmode hp) h
  next => exact scanSingleTuples_took h

/-! ## Runs -/

/-- A call that fails emits nothing. -/
theorem Emits.error {e : ε} (h : PostgresScanFunction ops output s = .error e) : Emits ops output s total :=
  ⟨1, .inl ⟨e, by rw [scanChunks, h]; rfl⟩⟩

/-- The first empty chunk. -/
theorem Emits.empty (h : PostgresScanFunction ops output s = .ok (0, s')) (hstream : s'.stream = [])
    (hend : s'.exhausted_scan = true) (hsize : s'.output.output_vector_size = 0) : Emits ops output s 0 :=
  ⟨1, .inr ⟨[], s', by rw [scanChunks, h]; rfl, rfl, nofun, hstream, hend, hsize⟩⟩

/-- A chunk that is not empty. -/
theorem Emits.chunk (h : PostgresScanFunction ops output s = .ok (n, s')) (hn : n ≠ 0)
    (hle : n ≤ STANDARD_VECTOR_SIZE) (hrest : Emits ops output s' total) : Emits ops output s (n + total) := by
  obtain ⟨calls, hrest⟩ := hrest
  have hcall : scanChunks ops output (calls + 1) s =
      (scanChunks ops output calls s').map fun r => r.map fun r => (n :: r.1, r.2) := by
    rw [scanChunks, h]
    show (if n = 0 then _ else _) = _
    rw [if_neg hn]
    cases scanChunks ops output calls s' <;> rfl
  refine ⟨calls + 1, hrest.imp ?_ ?_⟩
  · rintro ⟨e, he⟩
    exact ⟨e, by rw [hcall, he]; rfl⟩
  · rintro ⟨cardinalities, t, ht, rfl, hall, hdone⟩
    exact ⟨n :: cardinalities, t, by rw [hcall, ht]; rfl, rfl, List.forall_mem_cons.2 ⟨hle, hall⟩, hdone⟩

/-- One chunk, of what is there. -/
theorem setOutputCardinality_le : (SetOutputCardinality s).1 ≤ STANDARD_VECTOR_SIZE := by
  unfold SetOutputCardinality
  dsimp only
  split <;> omega

/-- The rows that are put out and those that stay are all of them. -/
theorem setOutputCardinality_add : (SetOutputCardinality s).1 +
    (SetOutputCardinality s).2.output.output_vector_size = s.output.output_vector_size := by
  unfold SetOutputCardinality
  dsimp only
  split <;> omega

/-- Where there are rows, some are put out. -/
theorem setOutputCardinality_pos (h : 0 < s.output.output_vector_size) : 0 < (SetOutputCardinality s).1 := by
  have hsize : 0 < STANDARD_VECTOR_SIZE := Nat.succ_pos 2047
  unfold SetOutputCardinality
  dsimp only
  split <;> omega

/-- A call that gives a chunk of what there is, with a rest that is emitted by the calls after it. -/
theorem Emits.of_setOutputCardinality (h : PostgresScanFunction ops output s = .ok (SetOutputCardinality t))
    (hstream : t.stream = []) (hend : t.exhausted_scan = true)
    (hrest : 0 < t.output.output_vector_size → Emits ops output (SetOutputCardinality t).2
      (SetOutputCardinality t).2.output.output_vector_size) :
    Emits ops output s t.output.output_vector_size := by
  rw [← setOutputCardinality_add]
  have hadd := @setOutputCardinality_add _ t
  by_cases hpos : 0 < t.output.output_vector_size
  · exact .chunk h (Nat.ne_of_gt (setOutputCardinality_pos hpos)) setOutputCardinality_le (hrest hpos)
  · have hzero : (SetOutputCardinality t).1 = 0 := by omega
    have hsize : (SetOutputCardinality t).2.output.output_vector_size = 0 := by omega
    have hcall : PostgresScanFunction ops output s = .ok (0, (SetOutputCardinality t).2) := by rw [h, ← hzero]
    rw [hzero, hsize]
    exact .empty hcall hstream hend hsize

/-- The backlog of a scan that is at its end. -/
theorem emits_backlog (hstream : s.stream = []) (hend : s.exhausted_scan = true) :
    Emits ops output s s.output.output_vector_size := by
  have hcall : PostgresScanFunction ops output s = .ok (SetOutputCardinality s) := if_pos hend
  induction hsize : s.output.output_vector_size using Nat.strong_induction_on generalizing s with
  | _ size ih =>
    rw [← hsize]
    refine Emits.of_setOutputCardinality hcall hstream hend fun hpos => ?_
    have hadd := @setOutputCardinality_add _ s
    have hone := setOutputCardinality_pos hpos
    exact ih _ (by omega) hstream hend (if_pos hend) rfl

/-- A call before the end of the scan. -/
theorem call_reads (hmode : s.is_parallel_scan = true → s.output.count_tuples_only = false)
    (hend : s.exhausted_scan = false) :
    (∃ e, PostgresScanFunction ops output s = .error e) ∨
    ∃ t, PostgresScanFunction ops output s = .ok (SetOutputCardinality t) ∧
      t.stream = s.stream.drop STANDARD_VECTOR_SIZE ∧
      t.exhausted_scan = decide (s.stream.length < STANDARD_VECTOR_SIZE) ∧
      t.output.output_vector_size =
        (s.stream.take STANDARD_VECTOR_SIZE).foldl (addTuple s.output.count_tuples_only) 0 ∧
      t.output.count_tuples_only = s.output.count_tuples_only := by
  have hcall : PostgresScanFunction ops output s =
      (readVector ops { s with output := { s.output with data := output, output_vector_size := 0 } } >>= fun s =>
        .ok (SetOutputCardinality s)) := if_neg (by rw [hend]; exact Bool.false_ne_true)
  cases hread : readVector ops { s with output := { s.output with data := output, output_vector_size := 0 } } with
  | error e =>
    rw [hread] at hcall
    exact .inl ⟨e, hcall⟩
  | ok t =>
    rw [hread] at hcall
    have htook : Took STANDARD_VECTOR_SIZE
        { s with output := { s.output with data := output, output_vector_size := 0 } } t :=
      readVector_took hmode hread
    have hended := htook.exhausted_scan
    rw [hend, Bool.false_or] at hended
    exact .inr ⟨t, hcall, htook.stream, hended, htook.size, htook.count_tuples_only⟩

/-- The call at the end of the stream, and the calls after it. -/
theorem emits_last (hmode : s.is_parallel_scan = true → s.output.count_tuples_only = false)
    (hend : s.exhausted_scan = false) (hlt : s.stream.length < STANDARD_VECTOR_SIZE) :
    Emits ops output s (s.stream.foldl (addTuple s.output.count_tuples_only) 0) := by
  rcases @call_reads _ _ ops output s hmode hend with ⟨e, he⟩ | ⟨t, hcall, hstream, hended, hsize, -⟩
  · exact .error he
  · rw [List.drop_eq_nil_of_le hlt.le] at hstream
    rw [decide_eq_true hlt] at hended
    rw [List.take_of_length_le hlt.le] at hsize
    rw [← hsize]
    exact Emits.of_setOutputCardinality hcall hstream hended fun _ => emits_backlog hstream hended

/-- Rows, one by one or in batches. -/
theorem emits_rows (hcount : s.output.count_tuples_only = false) (hend : s.exhausted_scan = false) :
    Emits ops output s s.stream.length := by
  induction hlength : s.stream.length using Nat.strong_induction_on generalizing s with
  | _ length ih =>
    rw [← hlength]
    rcases lt_or_ge s.stream.length STANDARD_VECTOR_SIZE with hlt | hge
    · have hlast := @emits_last _ _ ops output s (fun _ => hcount) hend hlt
      rw [hcount, foldl_addTuple_rows, Nat.zero_add] at hlast
      exact hlast
    · rcases @call_reads _ _ ops output s (fun _ => hcount) hend with
        ⟨e, he⟩ | ⟨t, hcall, hstream, hended, hsize, hsame⟩
      · exact .error he
      rw [decide_eq_false (Nat.not_lt.2 hge)] at hended
      rw [hcount, foldl_addTuple_rows, Nat.zero_add, List.length_take, Nat.min_eq_left hge] at hsize
      have hfull : (SetOutputCardinality t).1 = STANDARD_VECTOR_SIZE := by
        unfold SetOutputCardinality
        rw [hsize]
        rfl
      have hpos : 0 < STANDARD_VECTOR_SIZE := Nat.succ_pos 2047
      have hlen : t.stream.length = s.stream.length - STANDARD_VECTOR_SIZE := by rw [hstream, List.length_drop]
      have hrest : Emits ops output (SetOutputCardinality t).2 t.stream.length :=
        ih t.stream.length (by omega) (hsame.trans hcount) hended rfl
      have hcall : PostgresScanFunction ops output s =
          .ok (STANDARD_VECTOR_SIZE, (SetOutputCardinality t).2) := by rw [hcall, ← hfull]
      rw [← Nat.add_sub_cancel' hge, ← hlen]
      exact .chunk hcall (Nat.ne_of_gt hpos) le_rfl hrest

end

/-- The chunks of a thread, up to the first empty one, hold together what the thread has read. -/
theorem PostgresScanFunction_emits {ε Column : Type} (ops : ColumnOps ε Column) (output : ℕ → Column)
    (mode : Mode) (s : ScanState Column) (stream : List TupleTableSlot)
    (hcount : mode = .count → stream.length < STANDARD_VECTOR_SIZE) :
    Emits ops output (.init mode s stream) (mode.total stream) := by
  cases mode with
  | rows => exact emits_rows rfl rfl
  | batches => exact emits_rows rfl rfl
  | count =>
    have hlast : Emits ops output (.init .count s stream) (stream.foldl (addTuple true) 0) :=
      emits_last nofun rfl (hcount rfl)
    have hsum : stream.foldl (addTuple true) 0 = Mode.count.total stream := by
      rw [← Nat.zero_mod (2 ^ 64), foldl_addTuple_count, Nat.zero_add]
      rfl
    rw [← hsum]
    exact hlast

/-- The output before a scan of numbers. -/
def numberState : ScanState (ℕ → Option (Option Datum)) := ⟨fun _ _ => none, 0, 0, false, 0, 1, 0⟩

/-- Two workers count three rows. -/
theorem PostgresScanFunction_emits_three :
    Emits numberOps (fun _ _ => none) (.init .count numberState [numberSlot 1, numberSlot 2]) 3 :=
  PostgresScanFunction_emits numberOps _ .count numberState [numberSlot 1, numberSlot 2] fun _ => by decide

/-- The counts of three workers, all of them numbers of 64 bits that are not negative. -/
def hugeCounts : List TupleTableSlot :=
  [numberSlot (BitVec.ofNat 64 (2 ^ 63 - 1)), numberSlot (BitVec.ofNat 64 (2 ^ 63 - 1)), numberSlot 2]

/-- Their sum is too large for a `size_t`, and the first chunk is empty. -/
theorem not_emits_hugeCounts :
    (∀ slot ∈ hugeCounts, 0 ≤ (slot.tts_values 0).toInt) ∧
    ¬Emits numberOps (fun _ _ => none) (.init .count numberState hugeCounts)
      (hugeCounts.map TupleTableSlot.count).sum := by
  have hcall : ∃ s', PostgresScanFunction numberOps (fun _ _ => none) (.init .count numberState hugeCounts) =
      .ok (0, s') := ⟨_, rfl⟩
  obtain ⟨s', hcall⟩ := hcall
  refine ⟨by decide, ?_⟩
  rintro ⟨calls, hcalls⟩
  cases calls with
  | zero =>
    rcases hcalls with ⟨e, h⟩ | ⟨cardinalities, t, h, -⟩
    · cases h
    · cases h
  | succ calls =>
    rw [scanChunks, hcall] at hcalls
    rcases hcalls with ⟨e, h⟩ | ⟨cardinalities, t, h, hsum, -⟩
    · cases h
    · cases h
      revert hsum
      decide

end PgDuckdb.Chunks
