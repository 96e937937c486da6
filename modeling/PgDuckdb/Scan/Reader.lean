import PgDuckdb.Lib.Interleave

/-!
# The readers of parallel workers

A scan of a Postgres table may run in parallel workers, each with a queue of tuples. The reader of the
scan goes round the queues (`GetNextWorkerTuple` in `postgres_table_reader.cpp`): it takes a tuple where
there is one, steps on where there is none yet, and takes a queue out of its array when the worker is
done. Threads call it in turn, under the global lock.

When a tuple or the end of a stream is visible in a queue is up to the workers: a call is given the
answers of its polls (`timing`), and waits when it has no more of them. `GetNextWorkerTuple_interleaves`
says that nothing is lost or read twice whatever they are, and `GetNextWorkerTuple_returns` that a call
returns once the workers have sent everything.
-/

namespace PgDuckdb.Scan

open Lib (Interleaves)

/-! ## The reader -/

/-- What a call uses of the executor. -/
inductive Touch
  /-- The queue at an index, with `nreaders`. -/
  | queue (index nreaders : Nat)
  /-- A tuple slot. -/
  | slot
  /-- The plan state or the executor state. -/
  | executor
  deriving DecidableEq, Repr

/-- `PostgresTableReader`, with the queues of the workers. -/
structure TableReader (τ : Type) where
  /-- The array. Only the first `nreaders` entries are in use. -/
  parallel_worker_readers : List Nat
  nreaders : Nat
  next_parallel_reader : Nat
  cleaned_up : Bool
  /-- What each worker has still to send. -/
  queues : Nat → List τ
  /-- What the plan gives in the process itself. -/
  leader : List τ
  /-- Every use of the executor so far, and the number of clean-ups. Nothing in the code knows them. -/
  touched : List Touch
  cleanups : Nat

/-- What a poll of a queue answers. -/
inductive Polled (τ : Type)
  | tuple (minimal_tuple : τ) (queue : List τ)
  | nothing
  | readerdone

/-- `TupleQueueReaderNext`, without waiting. -/
def TupleQueueReaderNext {τ : Type} (visible : Bool) (queue : List τ) : Polled τ :=
  if visible then
    match queue with
    | [] => .readerdone
    | minimal_tuple :: queue => .tuple minimal_tuple queue
  else .nothing

/-- `memmove` of entries to the left by one. -/
def memmove (a : List Nat) (dest count : Nat) : List Nat :=
  a.take dest ++ (a.drop (dest + 1)).take count ++ a.drop (dest + count)

/-- How a call ends. -/
inductive Answer (τ : Type)
  | returned (minimal_tuple : Option τ)
  | waiting
  deriving DecidableEq, Repr

section
variable {τ : Type}

namespace TableReader

/-- The worker of the next poll. -/
def worker (r : TableReader τ) : Nat := r.parallel_worker_readers.getD r.next_parallel_reader 0

/-- Records a touch of the shared memory. -/
def touch (r : TableReader τ) (t : Touch) : TableReader τ := { r with touched := t :: r.touched }

/-- A queue is polled. -/
def poll (r : TableReader τ) : TableReader τ := r.touch (.queue r.next_parallel_reader r.nreaders)

/-- A tuple is taken from the queue. -/
def take (r : TableReader τ) (queue : List τ) : TableReader τ :=
  { r with queues := Function.update r.queues r.worker queue }

/-- The queue is done: `--nreaders`, and unless it was the last one, close the gap. -/
def drop (r : TableReader τ) : TableReader τ :=
  let nreaders := r.nreaders - 1
  if nreaders = 0 then { r with nreaders := nreaders }
  else
    { r with
      nreaders := nreaders
      parallel_worker_readers := memmove r.parallel_worker_readers r.next_parallel_reader
        (nreaders - r.next_parallel_reader)
      next_parallel_reader :=
        if r.next_parallel_reader ≥ nreaders then 0 else r.next_parallel_reader }

/-- Nothing there: go to the next queue. -/
def advance (r : TableReader τ) : TableReader τ :=
  { r with next_parallel_reader :=
      if r.next_parallel_reader + 1 ≥ r.nreaders then 0 else r.next_parallel_reader + 1 }

end TableReader

/-- `GetNextWorkerTuple`. After a round over all queues it waits for the latch, which changes nothing
here. -/
def GetNextWorkerTuple : List Bool → Nat → TableReader τ → Answer τ × TableReader τ
  | [], _, r =>
    if r.next_parallel_reader < r.nreaders then (.waiting, r) else (.returned none, r)
  | visible :: timing, nvisited, r =>
    if r.next_parallel_reader < r.nreaders then
      match TupleQueueReaderNext visible (r.queues r.worker) with
      | .readerdone =>
        if r.poll.drop.nreaders = 0 then (.returned none, r.poll.drop)
        else GetNextWorkerTuple timing nvisited r.poll.drop
      | .tuple minimal_tuple queue => (.returned (some minimal_tuple), r.poll.take queue)
      | .nothing =>
        GetNextWorkerTuple timing (if nvisited + 1 ≥ r.nreaders then 0 else nvisited + 1)
          r.poll.advance
    else (.returned none, r)

/-- Calls, by any threads, one after the other: what they return, up to one that still waits. -/
def callAll : List (List Bool) → TableReader τ → List (Option τ) × TableReader τ
  | [], r => ([], r)
  | timing :: calls, r =>
    match GetNextWorkerTuple timing 0 r with
    | (.returned minimal_tuple, r) => (minimal_tuple :: (callAll calls r).1, (callAll calls r).2)
    | (.waiting, r) => ([], r)

/-- The reader of a scan whose workers send these streams. -/
def TableReader.init (streams : List (List τ)) (leader : List τ) : TableReader τ where
  parallel_worker_readers := List.range streams.length
  nreaders := streams.length
  next_parallel_reader := 0
  cleaned_up := false
  queues w := streams.getD w []
  leader := leader
  touched := []
  cleanups := 0

/-! ## The invariant -/

namespace TableReader

/-- The queues in use. -/
def active (r : TableReader τ) : List Nat := r.parallel_worker_readers.take r.nreaders

/-- The index is in range, and a queue that is not in use is empty. -/
structure Wf (r : TableReader τ) : Prop where
  bound : r.nreaders ≤ r.parallel_worker_readers.length
  index : r.next_parallel_reader < r.nreaders ∨ r.nreaders = 0
  drained : ∀ w, w ∉ r.active → r.queues w = []

/-- A reader is well formed at its start. -/
theorem init_wf (streams : List (List τ)) (leader : List τ) : (init streams leader).Wf where
  bound := by simp [init]
  index := by
    rcases Nat.eq_zero_or_pos streams.length with h | h
    · exact .inr h
    · exact .inl h
  drained := by
    intro w hw
    have hlength : streams.length ≤ w := by simpa [active, init] using hw
    simp [init, hlength]

variable {r : TableReader τ}

/-- Moving a part of a list within it keeps its length. -/
theorem length_memmove {a : List Nat} {dest count : Nat} (h : dest + count + 1 ≤ a.length) :
    (memmove a dest count).length = a.length := by
  simp [memmove]
  omega

/-- The entries in use after a `memmove` that closes the gap of one entry. -/
theorem take_memmove {a : List Nat} {dest count : Nat} (h : dest + count + 1 ≤ a.length) :
    (memmove a dest count).take (dest + count) = (a.take (dest + count + 1)).eraseIdx dest := by
  rw [List.eraseIdx_eq_take_drop_succ, memmove, List.take_append_of_le_length (by simp; omega),
    List.take_of_length_le (by simp; omega), List.take_take, List.drop_take,
    Nat.min_eq_left (by omega)]
  congr 2
  omega

/-- The worker whose turn it is. -/
theorem worker_eq (hbound : r.nreaders ≤ r.parallel_worker_readers.length)
    (hindex : r.next_parallel_reader < r.nreaders) :
    r.active[r.next_parallel_reader]? = some r.worker := by
  have hlt : r.next_parallel_reader < r.parallel_worker_readers.length :=
    Nat.lt_of_lt_of_le hindex hbound
  rw [active, List.getElem?_take_of_lt hindex, worker, List.getD_eq_getElem?_getD,
    List.getElem?_eq_getElem hlt]
  rfl

/-- The worker whose turn it is stands in the list. -/
theorem Wf.worker_mem (h : r.Wf) (hindex : r.next_parallel_reader < r.nreaders) :
    r.worker ∈ r.active :=
  List.mem_of_getElem? (worker_eq h.bound hindex)

/-- The queues in use when one of them is done. -/
theorem active_drop (hbound : r.nreaders ≤ r.parallel_worker_readers.length)
    (hindex : r.next_parallel_reader < r.nreaders) :
    r.drop.active = r.active.eraseIdx r.next_parallel_reader := by
  unfold drop active
  dsimp only
  split
  · rename_i hlast
    have hone : r.nreaders = 1 := by omega
    have hzero : r.next_parallel_reader = 0 := by omega
    rw [hone, hzero]
    cases r.parallel_worker_readers <;> rfl
  · obtain ⟨count, hcount⟩ : ∃ count, r.nreaders = r.next_parallel_reader + count + 1 :=
      ⟨r.nreaders - r.next_parallel_reader - 1, by omega⟩
    have hmove : (memmove r.parallel_worker_readers r.next_parallel_reader count).take
        (r.next_parallel_reader + count) =
        (r.parallel_worker_readers.take (r.next_parallel_reader + count + 1)).eraseIdx
          r.next_parallel_reader := take_memmove (by omega)
    have hpred : r.nreaders - 1 = r.next_parallel_reader + count := by omega
    dsimp only
    rw [hpred, Nat.add_sub_cancel_left, hmove, hcount]

/-- A reader that is dropped is one less. -/
theorem drop_nreaders : r.drop.nreaders = r.nreaders - 1 := by
  unfold drop
  dsimp only
  split <;> rfl

/-- A reader that is dropped leaves the bound. -/
theorem drop_bound (hbound : r.nreaders ≤ r.parallel_worker_readers.length)
    (hindex : r.next_parallel_reader < r.nreaders) :
    r.drop.nreaders ≤ r.drop.parallel_worker_readers.length := by
  unfold TableReader.drop
  dsimp only
  split
  · dsimp only
    omega
  · have hlast : r.next_parallel_reader ≤ r.nreaders - 1 := Nat.le_sub_one_of_lt hindex
    dsimp only
    rw [length_memmove (by omega)]
    omega

/-- After a drop it is the turn of a reader that is left. -/
theorem drop_index : r.drop.next_parallel_reader < r.drop.nreaders ∨ r.drop.nreaders = 0 := by
  unfold TableReader.drop
  dsimp only
  split
  · rename_i hlast
    exact .inr hlast
  · dsimp only
    split
    · exact .inl (by omega)
    · exact .inl (by omega)

/-- The turn stays in the list. -/
theorem advance_index (hindex : r.next_parallel_reader < r.nreaders ∨ r.nreaders = 0) :
    r.advance.next_parallel_reader < r.advance.nreaders ∨ r.advance.nreaders = 0 := by
  have hnext : r.advance.next_parallel_reader =
      if r.next_parallel_reader + 1 ≥ r.nreaders then 0 else r.next_parallel_reader + 1 := rfl
  change _ < r.nreaders ∨ r.nreaders = 0
  rw [hnext]
  rcases hindex with hlt | hzero
  · split <;> omega
  · exact .inr hzero

/-- Dropping a reader that is done keeps the state well formed. -/
theorem Wf.drop (h : r.Wf) (hindex : r.next_parallel_reader < r.nreaders)
    (hdone : r.queues r.worker = []) : r.drop.Wf where
  bound := drop_bound h.bound hindex
  index := drop_index
  drained := by
    have hqueues : r.drop.queues = r.queues := by
      unfold TableReader.drop
      dsimp only
      split <;> rfl
    intro w hw
    rw [active_drop h.bound hindex] at hw
    rw [hqueues]
    by_cases hworker : w = r.worker
    · rw [hworker, hdone]
    · refine h.drained w fun hmem => hw ?_
      obtain ⟨k, hk⟩ := List.mem_iff_getElem?.1 hmem
      refine List.mem_eraseIdx_iff_getElem?.2 ⟨k, fun hsame => hworker ?_, hk⟩
      rw [hsame, worker_eq h.bound hindex] at hk
      exact (Option.some.inj hk).symm

/-- Passing the turn keeps the state well formed. -/
theorem Wf.advance (h : r.Wf) : r.advance.Wf := ⟨h.bound, advance_index h.index, h.drained⟩

/-- Taking from a queue keeps the state well formed. -/
theorem Wf.take (h : r.Wf) (hindex : r.next_parallel_reader < r.nreaders) (queue : List τ) :
    (r.take queue).Wf := by
  refine ⟨h.bound, h.index, fun w hw => ?_⟩
  have hmem := h.worker_mem hindex
  have hne : w ≠ r.worker := fun heq => hw (heq ▸ hmem)
  change Function.update r.queues r.worker queue w = []
  rw [Function.update_of_ne hne]
  exact h.drained w hw

/-- A touch keeps the state well formed. -/
theorem Wf.touch (h : r.Wf) (t : Touch) : (r.touch t).Wf := ⟨h.bound, h.index, h.drained⟩

/-- Without readers every queue is empty. -/
theorem Wf.all_drained (h : r.Wf) (hzero : r.nreaders = 0) (w : Nat) : r.queues w = [] :=
  h.drained w (by simp [active, hzero])

end TableReader

/-! ## One call -/

section
variable {r r' : TableReader τ} {timing : List Bool} {nvisited : Nat} {o : Answer τ}

/-- Every poll so far was at an index below `nreaders`. -/
def TableReader.InRange (r : TableReader τ) : Prop :=
  ∀ index nreaders, .queue index nreaders ∈ r.touched → index < nreaders

/-- A poll keeps the turn in range. -/
theorem TableReader.InRange.poll (h : r.InRange) (hindex : r.next_parallel_reader < r.nreaders) :
    r.poll.InRange := by
  intro index nreaders hmem
  obtain heq | hmem := List.mem_cons.1 hmem
  · cases heq
    exact hindex
  · exact h index nreaders hmem

/-- What a call does with the queues. -/
def Answer.Takes : Answer τ → TableReader τ → TableReader τ → Prop
  | .returned (some minimal_tuple), r, r' => ∃ w queue,
      r.queues w = minimal_tuple :: queue ∧ r'.queues = Function.update r.queues w queue
  | .returned none, r, r' => r'.queues = r.queues ∧ r'.nreaders = 0
  | .waiting, r, r' => r'.queues = r.queues

/-- A take is the same where the queues are. -/
theorem Answer.Takes.of_queues_eq {r₁ : TableReader τ} (h : o.Takes r₁ r')
    (hqueues : r₁.queues = r.queues) : o.Takes r r' := by
  cases o with
  | waiting => exact h.trans hqueues
  | returned minimal_tuple =>
    cases minimal_tuple with
    | none => exact ⟨h.1.trans hqueues, h.2⟩
    | some minimal_tuple =>
      obtain ⟨w, queue, hfront, hupdate⟩ := h
      rw [hqueues] at hfront hupdate
      exact ⟨w, queue, hfront, hupdate⟩

@[simp] theorem TableReader.drop_queues : r.drop.queues = r.queues := by
  unfold TableReader.drop
  dsimp only
  split <;> rfl

@[simp] theorem TableReader.drop_touched : r.drop.touched = r.touched := by
  unfold TableReader.drop
  dsimp only
  split <;> rfl

/-- A reader that is done has an empty queue. -/
theorem TupleQueueReaderNext_eq_readerdone {visible : Bool} {queue : List τ}
    (h : TupleQueueReaderNext visible queue = .readerdone) : queue = [] := by
  unfold TupleQueueReaderNext at h
  cases visible <;> cases queue <;> simp_all

/-- A reader with a tuple had it first in its queue. -/
theorem TupleQueueReaderNext_eq_tuple {visible : Bool} {queue rest : List τ} {t : τ}
    (h : TupleQueueReaderNext visible queue = .tuple t rest) : queue = t :: rest := by
  unfold TupleQueueReaderNext at h
  cases visible <;> cases queue <;> simp_all

/-- One call: a tuple from the front of a queue, or none when all are done, or it still waits. -/
theorem GetNextWorkerTuple_spec (hwf : r.Wf) (hrange : r.InRange)
    (h : GetNextWorkerTuple timing nvisited r = (o, r')) :
    r'.Wf ∧ r'.InRange ∧ o.Takes r r' := by
  induction timing generalizing nvisited r with
  | nil =>
    unfold GetNextWorkerTuple at h
    split at h
    · cases h
      exact ⟨hwf, hrange, rfl⟩
    · rename_i hindex
      cases h
      exact ⟨hwf, hrange, rfl, hwf.index.resolve_left hindex⟩
  | cons visible timing ih =>
    unfold GetNextWorkerTuple at h
    split at h
    · rename_i hindex
      have hrange' : r.poll.InRange := hrange.poll hindex
      split at h
      · rename_i hdone
        have hqueue := TupleQueueReaderNext_eq_readerdone hdone
        have hwf' : r.poll.drop.Wf := (hwf.touch _).drop hindex hqueue
        have hrange'' : r.poll.drop.InRange := by
          unfold TableReader.InRange
          rw [TableReader.drop_touched]
          exact hrange'
        split at h
        · rename_i hzero
          cases h
          exact ⟨hwf', hrange'', TableReader.drop_queues, hzero⟩
        · obtain ⟨hwf₁, hrange₁, htakes⟩ := ih hwf' hrange'' h
          exact ⟨hwf₁, hrange₁, htakes.of_queues_eq TableReader.drop_queues⟩
      · rename_i minimal_tuple queue htuple
        cases h
        exact ⟨(hwf.touch _).take hindex queue, hrange', r.worker, queue,
          TupleQueueReaderNext_eq_tuple htuple, rfl⟩
      · obtain ⟨hwf₁, hrange₁, htakes⟩ := ih (hwf.touch _).advance hrange' h
        exact ⟨hwf₁, hrange₁, htakes.of_queues_eq rfl⟩
    · rename_i hindex
      cases h
      exact ⟨hwf, hrange, rfl, hwf.index.resolve_left hindex⟩

/-- A queue that is taken out leaves the clean-up alone. -/
theorem TableReader.drop_frame :
    r.drop.cleaned_up = r.cleaned_up ∧ r.drop.cleanups = r.cleanups := by
  unfold TableReader.drop
  dsimp only
  split <;> exact ⟨rfl, rfl⟩

/-- Calls do not clean up. -/
theorem GetNextWorkerTuple_frame (h : GetNextWorkerTuple timing nvisited r = (o, r')) :
    r'.cleaned_up = r.cleaned_up ∧ r'.cleanups = r.cleanups := by
  induction timing generalizing nvisited r with
  | nil =>
    unfold GetNextWorkerTuple at h
    split at h <;> cases h <;> exact ⟨rfl, rfl⟩
  | cons visible timing ih =>
    unfold GetNextWorkerTuple at h
    split at h
    · split at h
      · have hdrop := TableReader.drop_frame (r := r.poll)
        split at h
        · cases h
          exact hdrop
        · obtain ⟨hcleaned, hcleanups⟩ := ih h
          exact ⟨hcleaned.trans hdrop.1, hcleanups.trans hdrop.2⟩
      · cases h
        exact ⟨rfl, rfl⟩
      · have hrest := ih h
        exact hrest
    · cases h
      exact ⟨rfl, rfl⟩

/-- A call after the end accesses no queue. -/
theorem GetNextWorkerTuple_of_nreaders_eq_zero (h : r.nreaders = 0) :
    GetNextWorkerTuple timing nvisited r = (.returned none, r) := by
  cases timing <;> simp [GetNextWorkerTuple, h]

/-- A call returns once every queue shows what it has. -/
theorem GetNextWorkerTuple_returns {n : Nat} (hn : r.nreaders ≤ n) :
    (GetNextWorkerTuple (timing ++ List.replicate n true) nvisited r).1 ≠ .waiting := by
  induction timing generalizing nvisited r with
  | nil =>
    rw [List.nil_append]
    induction n generalizing r with
    | zero =>
      rw [GetNextWorkerTuple_of_nreaders_eq_zero (by omega)]
      nofun
    | succ n ih =>
      rw [List.replicate_succ]
      unfold GetNextWorkerTuple
      split
      · split
        · split
          · nofun
          · refine ih ?_
            rw [TableReader.drop_nreaders]
            change r.nreaders - 1 ≤ n
            omega
        · nofun
        · rename_i hnothing
          unfold TupleQueueReaderNext at hnothing
          cases hqueue : r.queues r.worker <;> simp_all
      · nofun
  | cons visible timing ih =>
    rw [List.cons_append]
    unfold GetNextWorkerTuple
    split
    · split
      · split
        · nofun
        · refine ih ?_
          rw [TableReader.drop_nreaders]
          change r.nreaders - 1 ≤ n
          omega
      · nofun
      · exact ih hn
    · nofun

end

/-! ## Calls in turn -/

section
variable {streams : Nat → List τ} {r : TableReader τ} {calls : List (List Bool)}

/-- All calls after the end return nothing. -/
theorem callAll_of_nreaders_eq_zero (h : r.nreaders = 0) :
    callAll calls r = (List.replicate calls.length none, r) := by
  induction calls with
  | nil => rfl
  | cons timing calls ih =>
    rw [callAll, GetNextWorkerTuple_of_nreaders_eq_zero h]
    dsimp only
    rw [ih]
    rfl

/-- A call takes no queue in. -/
theorem GetNextWorkerTuple_nreaders_le {o : Answer τ} {r' : TableReader τ} {timing : List Bool} {nvisited : Nat}
    (h : GetNextWorkerTuple timing nvisited r = (o, r')) : r'.nreaders ≤ r.nreaders := by
  induction timing generalizing nvisited r with
  | nil =>
    unfold GetNextWorkerTuple at h
    split at h <;> cases h <;> exact le_rfl
  | cons visible timing ih =>
    unfold GetNextWorkerTuple at h
    split at h
    · split at h
      · have hdrop : r.poll.drop.nreaders ≤ r.nreaders := by
          rw [TableReader.drop_nreaders]
          exact Nat.sub_le _ _
        split at h
        · cases h
          exact hdrop
        · exact (ih h).trans hdrop
      · cases h
        exact le_rfl
      · exact (ih h).trans (Nat.le_of_eq rfl)
    · cases h
      exact le_rfl

/-- Calls that poll until every queue shows what it has all return. -/
theorem callAll_length {n : Nat} (hn : r.nreaders ≤ n)
    (hcalls : ∀ timing ∈ calls, List.replicate n true <:+ timing) :
    (callAll calls r).1.length = calls.length := by
  induction calls generalizing r with
  | nil => rfl
  | cons timing calls ih =>
    rw [List.forall_mem_cons] at hcalls
    obtain ⟨early, rfl⟩ := hcalls.1
    have hreturns : (GetNextWorkerTuple (early ++ List.replicate n true) 0 r).1 ≠ .waiting :=
      GetNextWorkerTuple_returns hn
    cases hcall : GetNextWorkerTuple (early ++ List.replicate n true) 0 r with
    | mk o r₁ =>
      have hle := GetNextWorkerTuple_nreaders_le hcall
      cases o with
      | waiting =>
        rw [hcall] at hreturns
        exact absurd rfl hreturns
      | returned minimal_tuple =>
        simp only [callAll, hcall, List.length_cons]
        rw [ih (hle.trans hn) hcalls.2]

/-- What the calls returned is taken from the fronts of the streams, and none is returned at the end
only. -/
theorem callAll_spec {out : List τ} (hwf : r.Wf) (hrange : r.InRange)
    (hout : Interleaves streams out r.queues) :
    (callAll calls r).2.Wf ∧ (callAll calls r).2.InRange ∧
      Interleaves streams (out ++ (callAll calls r).1.filterMap id) (callAll calls r).2.queues ∧
      (none ∈ (callAll calls r).1 → (callAll calls r).2.nreaders = 0) := by
  induction calls generalizing r out with
  | nil =>
    refine ⟨hwf, hrange, ?_, nofun⟩
    rw [callAll, List.filterMap_nil, List.append_nil]
    exact hout
  | cons timing calls ih =>
    cases hcall : GetNextWorkerTuple timing 0 r with
    | mk o r₁ =>
      obtain ⟨hwf₁, hrange₁, htakes⟩ := GetNextWorkerTuple_spec hwf hrange hcall
      cases o with
      | waiting =>
        simp only [callAll, hcall]
        refine ⟨hwf₁, hrange₁, ?_, nofun⟩
        rw [List.filterMap_nil, List.append_nil, htakes]
        exact hout
      | returned minimal_tuple =>
        simp only [callAll, hcall]
        cases minimal_tuple with
        | some minimal_tuple =>
          obtain ⟨w, queue, hfront, hupdate⟩ := htakes
          have hout₁ : Interleaves streams (out ++ [minimal_tuple]) r₁.queues := by
            rw [hupdate]
            exact hout.snoc hfront
          have hrest := ih hwf₁ hrange₁ hout₁
          simp only [List.append_assoc, List.singleton_append] at hrest
          simpa using hrest
        | none =>
          have hout₁ : Interleaves streams out r₁.queues := by
            rw [htakes.1]
            exact hout
          have hrest := ih hwf₁ hrange₁ hout₁
          refine ⟨hrest.1, hrest.2.1, by simpa using hrest.2.2.1, fun _ => ?_⟩
          rw [callAll_of_nreaders_eq_zero htakes.2]
          exact htakes.2

/-- Once none was returned, calls return none and leave the reader as it is. -/
theorem callAll_append (hwf : r.Wf) (hrange : r.InRange) (hnone : none ∈ (callAll calls r).1)
    (later : List (List Bool)) :
    callAll (calls ++ later) r =
      ((callAll calls r).1 ++ List.replicate later.length none, (callAll calls r).2) := by
  induction calls generalizing r with
  | nil => cases hnone
  | cons timing calls ih =>
    rw [List.cons_append]
    cases hcall : GetNextWorkerTuple timing 0 r with
    | mk o r₁ =>
      obtain ⟨hwf₁, hrange₁, htakes⟩ := GetNextWorkerTuple_spec hwf hrange hcall
      cases o with
      | waiting =>
        simp only [callAll, hcall] at hnone
        cases hnone
      | returned minimal_tuple =>
        simp only [callAll, hcall] at hnone ⊢
        cases minimal_tuple with
        | none =>
          rw [callAll_of_nreaders_eq_zero htakes.2, callAll_of_nreaders_eq_zero htakes.2,
            List.length_append, List.cons_append, List.replicate_append_replicate]
        | some minimal_tuple =>
          rw [ih hwf₁ hrange₁ (by simpa using hnone), List.cons_append]

end

/-- The tuples of all streams, worker by worker. -/
theorem sum_length_streams (streams : List (List τ)) :
    ∑ w ∈ Finset.range streams.length, (streams.getD w []).length = streams.flatten.length := by
  induction streams with
  | nil => rfl
  | cons stream streams ih =>
    rw [List.length_cons, Finset.sum_range_succ', List.flatten_cons, List.length_append, ← ih]
    simp [Nat.add_comm]

/-- Whatever the workers send and when: the tuples that the calls return are an interleaving of the
streams, none is returned only when all streams are at their end and have come out as a whole, queues are polled at
an index below `nreaders`, and after none was returned all calls return none and poll no queue. Calls that go on
until every queue shows what it has all return, and more of them than there are tuples bring out everything. -/
theorem GetNextWorkerTuple_interleaves (streams : List (List τ)) (leader : List τ)
    (calls : List (List Bool)) :
    let r := TableReader.init streams leader
    let out := (callAll calls r).1
    let r' := (callAll calls r).2
    Interleaves (fun w => streams.getD w []) (out.filterMap id) r'.queues ∧
    (none ∈ out → (∀ w, r'.queues w = []) ∧
      Interleaves (fun w => streams.getD w []) (out.filterMap id) fun _ => []) ∧
    (∀ index nreaders, .queue index nreaders ∈ r'.touched → index < nreaders) ∧
    (none ∈ out → ∀ later,
      callAll (calls ++ later) r = (out ++ List.replicate later.length none, r')) ∧
    ((∀ timing ∈ calls, List.replicate streams.length true <:+ timing) →
      out.length = calls.length ∧ (streams.flatten.length < calls.length → none ∈ out)) := by
  intro r out r'
  have hwf : r.Wf := TableReader.init_wf streams leader
  have hrange : r.InRange := nofun
  have hstart : Interleaves (fun w => streams.getD w []) [] r.queues := .nil _
  have hspec : r'.Wf ∧ r'.InRange ∧ Interleaves (fun w => streams.getD w [])
      ([] ++ out.filterMap id) r'.queues ∧ (none ∈ out → r'.nreaders = 0) :=
    callAll_spec hwf hrange hstart
  obtain ⟨hwf', hrange', hout, hend⟩ := hspec
  have hdrained : none ∈ out → ∀ w, r'.queues w = [] := fun hnone => hwf'.all_drained (hend hnone)
  refine ⟨hout, fun hnone => ⟨hdrained hnone, hout.whole (hdrained hnone)⟩, hrange', callAll_append hwf hrange,
    fun hcalls => ?_⟩
  have hlength : out.length = calls.length := callAll_length (r := r) le_rfl hcalls
  refine ⟨hlength, fun hlt => ?_⟩
  by_contra hnone
  have hall : (out.filterMap id).length = out.length :=
    List.filterMap_length_eq_length.2 fun answer hanswer => Option.isSome_iff_ne_none.2 fun h => hnone (h ▸ hanswer)
  have hle := hout.length_le (n := streams.length) fun w hw => by simp [hw]
  rw [List.nil_append, hall, hlength, sum_length_streams] at hle
  omega

/-- Two workers, the first of which shows its first tuple late: everything comes out in four calls. -/
theorem GetNextWorkerTuple_interleaves_twoWorkers :
    Interleaves (fun w => [[1, 2], [3]].getD w []) [3, 1, 2] fun _ => [] :=
  ((GetNextWorkerTuple_interleaves [[1, 2], [3]] []
    [[false, true, true], [true, true], [true, true], [true, true]]).2.1 (by decide)).2

end

end PgDuckdb.Scan
