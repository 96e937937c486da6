import PgDuckdb.Lib.Run
import PgDuckdb.Scan.Reader

/-!
# The life of a scan

Several threads of DuckDB may read one scan. Each has a local state, which is registered with the global
state when it is made and unregistered when the scan is at its end for it; the last one to go cleans up
the reader, and the destructor does if nobody has (`postgres_scan.cpp`). The counter of registered states
is set to a negative value then, and later states are turned away.

The threads are steps of one system, a step being what is done under the global lock, or between two
locks. `scan_safe` is about all runs of a scan with more than one thread, through the invariant `Inv`.
-/

namespace PgDuckdb.Scan

/-- How many tuples a parallel scan takes at a time. -/
def LOCAL_STATE_SLOT_BATCH_SIZE : Nat := 32

/-- How many rows a vector holds. -/
def STANDARD_VECTOR_SIZE : Nat := 2048

/-! ## The reader -/

section
variable {τ : Type}

namespace TableReader

/-- `Cleanup`. -/
def Cleanup (r : TableReader τ) : TableReader τ :=
  { r with cleaned_up := true, cleanups := r.cleanups + 1 }

/-- `~PostgresTableReader`. -/
def destructor (r : TableReader τ) : TableReader τ := if r.cleaned_up then r else r.Cleanup

/-- `ExecProcNode`, in the process itself. -/
def ExecProcNode (r : TableReader τ) : Answer τ × TableReader τ :=
  (.returned r.leader.head?, { r.touch .executor with leader := r.leader.tail })

/-- A number of uses of the executor. -/
def touches (r : TableReader τ) (n : Nat) (t : Touch) : TableReader τ :=
  { r with touched := List.replicate n t ++ r.touched }

/-- `InitTupleSlot`, for all slots of a local state. -/
def InitTupleSlots (r : TableReader τ) : TableReader τ :=
  r.touches LOCAL_STATE_SLOT_BATCH_SIZE .executor

end TableReader

/-- `GetNextTupleUnsafe`. -/
def GetNextTuple (timing : List Bool) (r : TableReader τ) : Answer τ × TableReader τ :=
  if r.nreaders > 0 then
    match GetNextWorkerTuple timing 0 r with
    | (.waiting, r) => (.waiting, r)
    | (.returned (some minimal_tuple), r) => (.returned (some minimal_tuple), r.touch .slot)
    | (.returned none, r) => r.ExecProcNode
  else r.ExecProcNode

/-! ## The scan -/

/-- Where a thread is in `PostgresScanFunction`. -/
inductive Position
  /-- Outside of it. -/
  | idle
  /-- Before the lock of a batch. -/
  | fetching (batch_idx : Nat)
  /-- After it, with tuples to convert. -/
  | converting (batch_idx valid_slots : Nat)
  /-- After the loop. -/
  | leaving
  deriving DecidableEq, Repr

/-- `PostgresScanLocalState`. -/
structure LocalState where
  exhausted_scan : Bool
  position : Position
  /-- What `RegisterLocalState` returned. The code does not keep it. -/
  registered : Bool
  /-- The rows it has produced. -/
  rows : Nat
  /-- It is gone. -/
  abandoned : Bool
  deriving DecidableEq, Repr

/-- `PostgresScanGlobalState`, with its local states. -/
structure GlobalState (τ : Type) where
  max_threads : Nat
  registered_local_states : Int
  table_reader : TableReader τ
  locals : List LocalState
  destroyed : Bool

namespace GlobalState

/-- `MaxThreads() > 1`. -/
def is_parallel_scan (s : GlobalState τ) : Bool := s.max_threads > 1

/-- How many tuples the scan takes at a time. -/
def batch_size (s : GlobalState τ) : Nat :=
  if s.is_parallel_scan then LOCAL_STATE_SLOT_BATCH_SIZE else STANDARD_VECTOR_SIZE

/-- How many batches a vector holds. -/
def num_batches (s : GlobalState τ) : Nat := STANDARD_VECTOR_SIZE / s.batch_size

/-- Sets the state of a thread. -/
def setLocal (s : GlobalState τ) (i : Nat) (l : LocalState) : GlobalState τ :=
  { s with locals := s.locals.set i l }

/-- The constructor, for workers with these streams. -/
def init (threads : Nat) (count_tuples_only : Bool) (streams : List (List τ)) (leader : List τ) :
    GlobalState τ where
  max_threads := if streams.length > 0 ∧ count_tuples_only = false then threads else 1
  registered_local_states := 0
  table_reader := .init streams leader
  locals := []
  destroyed := false

/-- `RegisterLocalState`. -/
def RegisterLocalState (s : GlobalState τ) : Bool × GlobalState τ :=
  if s.registered_local_states < 0 then (false, s)
  else (true, { s with registered_local_states := s.registered_local_states + 1 })

/-- `UnregisterLocalState`. -/
def UnregisterLocalState (s : GlobalState τ) : GlobalState τ :=
  let s := { s with registered_local_states := s.registered_local_states - 1 }
  if s.registered_local_states = 0 then
    { s with registered_local_states := -1, table_reader := s.table_reader.Cleanup }
  else s

/-- The constructor of a local state. -/
def newLocalState (s : GlobalState τ) : GlobalState τ :=
  let (registered, s) := s.RegisterLocalState
  let s := { s with locals := s.locals ++ [⟨false, .idle, registered, 0, false⟩] }
  if !registered || !s.is_parallel_scan then s
  else { s with table_reader := s.table_reader.InitTupleSlots }

/-- The tuples of a batch: how many, and whether the scan is at its end. A batch that waits for a worker
holds the lock, and is not over. -/
def fetch (parallel : Bool) : Nat → (Nat → List Bool) → TableReader τ → Option (Nat × Bool × TableReader τ)
  | 0, _, r => some (0, false, r)
  | n + 1, timing, r =>
    match if parallel then GetNextWorkerTuple (timing n) 0 r else GetNextTuple (timing n) r with
    | (.waiting, _) => none
    | (.returned none, r) => some (0, true, r)
    | (.returned (some _), r) =>
      (fetch parallel n timing r).map fun (valid_slots, exhausted, r) => (valid_slots + 1, exhausted, r)

end GlobalState

/-- What happens next. -/
inductive Action
  /-- A local state is made. -/
  | construct
  /-- `PostgresScanFunction` is called for a local state. -/
  | call (i : Nat)
  /-- A batch is fetched, under the lock. -/
  | fetch (i : Nat) (timing : Nat → List Bool)
  /-- The tuples of a batch are converted, without the lock. -/
  | convert (i : Nat)
  /-- The call is at its end. -/
  | leave (i : Nat)
  /-- The local state is destroyed, wherever its thread is. -/
  | abandon (i : Nat)
  /-- The global state is destroyed, after all local states. -/
  | destroy

/-- The thread whose step it is. -/
def Action.thread : Action → Option Nat
  | .call i | .fetch i _ | .convert i | .leave i | .abandon i => some i
  | .construct | .destroy => none

namespace GlobalState

/-- The step of a thread. -/
def stepLocal (s : GlobalState τ) (l : LocalState) : Action → Option (GlobalState τ)
  | .call i =>
    match l.position with
    | .idle =>
      if l.exhausted_scan then some s else some (s.setLocal i { l with position := .fetching 0 })
    | _ => none
  | .fetch i timing =>
    match l.position with
    | .fetching batch_idx =>
      (fetch s.is_parallel_scan s.batch_size timing s.table_reader).map
        fun (valid_slots, exhausted, table_reader) =>
          let l := { l with exhausted_scan := l.exhausted_scan || exhausted }
          { s with table_reader := table_reader }.setLocal i
            (if s.is_parallel_scan then { l with position := .converting batch_idx valid_slots }
            else { l with position := .leaving, rows := l.rows + valid_slots })
    | _ => none
  | .convert i =>
    match l.position with
    | .converting batch_idx valid_slots =>
      some ({ s with table_reader := s.table_reader.touches valid_slots .slot }.setLocal i
        { l with
          rows := l.rows + valid_slots
          position := if batch_idx + 1 < s.num_batches then .fetching (batch_idx + 1) else .leaving })
    | _ => none
  | .leave i =>
    match l.position with
    | .leaving =>
      let s := s.setLocal i { l with position := .idle }
      some (if l.exhausted_scan then s.UnregisterLocalState else s)
    | _ => none
  | .abandon i => some (s.setLocal i { l with abandoned := true })
  | _ => none

/-- One step. -/
def step (s : GlobalState τ) (a : Action) : Option (GlobalState τ) :=
  if s.destroyed then none
  else
    match a with
    | .construct => some s.newLocalState
    | .destroy =>
      if s.locals.all (·.abandoned) then
        some { s with destroyed := true, table_reader := s.table_reader.destructor }
      else none
    | .call i | .fetch i _ | .convert i | .leave i | .abandon i =>
      match s.locals[i]? with
      | some l => if l.abandoned then none else s.stepLocal l a
      | none => none

end GlobalState

/-! ## The invariant -/

/-- It is registered, and has still to be unregistered. -/
def LocalState.holds (l : LocalState) : Bool :=
  l.registered && !(l.exhausted_scan && l.position == .idle)

/-- Within a call it has not been unregistered. -/
theorem LocalState.holds_of_ne_idle {l : LocalState} (h : l.position ≠ .idle) :
    l.holds = l.registered := by
  simp [LocalState.holds, h]

/-- The invariant of a parallel scan. The counter counts the states to be unregistered, until it is
negative; then the reader is cleaned up and at its end. -/
structure GlobalState.Inv (s : GlobalState τ) : Prop where
  parallel : s.is_parallel_scan = true
  wf : s.table_reader.Wf
  range : s.table_reader.InRange
  exhausted : ∀ l ∈ s.locals, l.exhausted_scan = true → s.table_reader.nreaders = 0
  counted : 0 ≤ s.registered_local_states →
    s.registered_local_states = (s.locals.countP LocalState.holds : Nat)
  closed : s.registered_local_states < 0 → s.locals.countP LocalState.holds = 0 ∧
    s.table_reader.cleaned_up = true ∧ s.table_reader.nreaders = 0
  cleaned : s.table_reader.cleaned_up = true → s.registered_local_states < 0 ∨ s.destroyed = true
  cleanups : s.table_reader.cleanups = if s.table_reader.cleaned_up then 1 else 0
  refused : ∀ l ∈ s.locals, l.registered = false → s.registered_local_states < 0 ∧ l.rows = 0 ∧
    ∀ batch_idx valid_slots, l.position = .converting batch_idx valid_slots → valid_slots = 0

section
variable {s s' : GlobalState τ} {i : Nat} {l l' : LocalState}

/-- A state of the list is the one that was put there or was there before. -/
theorem mem_of_set (hl : s.locals[i]? = some l) (hmem : l' ∈ s.locals) (x : LocalState) :
    l' = l ∨ l' ∈ s.locals.set i x := by
  obtain ⟨j, hj⟩ := List.mem_iff_getElem?.1 hmem
  by_cases hij : i = j
  · rw [hij, hj] at hl
    exact .inl (Option.some.inj hl)
  · refine .inr (List.mem_iff_getElem?.2 ⟨j, ?_⟩)
    rw [List.getElem?_set_ne hij, hj]

/-- How many states are still to be unregistered after one of them has changed. -/
theorem countP_setLocal (hl : s.locals[i]? = some l) (l' : LocalState) :
    (s.locals.set i l').countP LocalState.holds + (if l.holds then 1 else 0) =
      s.locals.countP LocalState.holds + if l'.holds then 1 else 0 := by
  obtain ⟨hlt, hget⟩ := List.getElem?_eq_some_iff.1 hl
  have hpos : l.holds = true → 0 < s.locals.countP LocalState.holds := fun hholds =>
    List.countP_pos_iff.2 ⟨l, List.mem_of_getElem? hl, hholds⟩
  rw [List.countP_set hlt, hget]
  cases hholds : l.holds with
  | false => simp
  | true =>
    have := hpos hholds
    simp only [if_true]
    omega

/-- A local state that goes on. -/
theorem GlobalState.Inv.setLocal (h : s.Inv) (hl : s.locals[i]? = some l) (hholds : l'.holds = l.holds)
    (hexhausted : l'.exhausted_scan = true → s.table_reader.nreaders = 0)
    (hregistered : l'.registered = l.registered)
    (hrefused : l.registered = false → l'.rows = 0 ∧ ∀ batch_idx valid_slots,
      l'.position = .converting batch_idx valid_slots → valid_slots = 0) : (s.setLocal i l').Inv := by
  have hcount : (s.locals.set i l').countP LocalState.holds = s.locals.countP LocalState.holds := by
    have := countP_setLocal hl l'
    rw [hholds] at this
    omega
  refine ⟨h.parallel, h.wf, h.range, ?_, ?_, ?_, h.cleaned, h.cleanups, ?_⟩
  · intro x hx
    obtain hx | rfl := List.mem_or_eq_of_mem_set hx
    · exact h.exhausted x hx
    · exact hexhausted
  · intro hopen
    exact (h.counted hopen).trans (congrArg Nat.cast hcount.symm)
  · intro hclosed
    exact ⟨hcount.trans (h.closed hclosed).1, (h.closed hclosed).2⟩
  · intro x hx hx_refused
    obtain hx | rfl := List.mem_or_eq_of_mem_set hx
    · exact h.refused x hx hx_refused
    · rw [hregistered] at hx_refused
      exact ⟨(h.refused l (List.mem_of_getElem? hl) hx_refused).1, hrefused hx_refused⟩

/-- The reader goes on. -/
theorem GlobalState.Inv.withReader (h : s.Inv) {r : TableReader τ} (hwf : r.Wf) (hrange : r.InRange)
    (hend : s.table_reader.nreaders = 0 → r.nreaders = 0)
    (hcleaned : r.cleaned_up = s.table_reader.cleaned_up)
    (hcleanups : r.cleanups = s.table_reader.cleanups) :
    ({ s with table_reader := r } : GlobalState τ).Inv where
  parallel := h.parallel
  wf := hwf
  range := hrange
  exhausted := fun x hx hx_exhausted => hend (h.exhausted x hx hx_exhausted)
  counted := h.counted
  closed := fun hclosed =>
    ⟨(h.closed hclosed).1, hcleaned.trans (h.closed hclosed).2.1, hend (h.closed hclosed).2.2⟩
  cleaned := fun hr => h.cleaned (hcleaned ▸ hr)
  cleanups := by
    rw [hcleanups, hcleaned]
    exact h.cleanups
  refused := h.refused

/-! ## The steps -/

/-- A batch of a parallel scan. -/
theorem fetch_spec {r r' : TableReader τ} {n valid_slots : Nat} {timing : Nat → List Bool}
    {exhausted : Bool} (hwf : r.Wf) (hrange : r.InRange)
    (h : GlobalState.fetch true n timing r = some (valid_slots, exhausted, r')) :
    r'.Wf ∧ r'.InRange ∧ (exhausted = true → r'.nreaders = 0) ∧
      r'.cleaned_up = r.cleaned_up ∧ r'.cleanups = r.cleanups := by
  induction n generalizing r valid_slots with
  | zero =>
    cases h
    exact ⟨hwf, hrange, nofun, rfl, rfl⟩
  | succ n ih =>
    unfold GlobalState.fetch at h
    rw [if_pos rfl] at h
    cases hcall : GetNextWorkerTuple (timing n) 0 r with
    | mk o r₁ =>
      obtain ⟨hwf₁, hrange₁, htakes⟩ := GetNextWorkerTuple_spec hwf hrange hcall
      obtain ⟨hcleaned, hcleanups⟩ := GetNextWorkerTuple_frame hcall
      rw [hcall] at h
      cases o with
      | waiting => cases h
      | returned minimal_tuple =>
        cases minimal_tuple with
        | none =>
          cases h
          exact ⟨hwf₁, hrange₁, fun _ => htakes.2, hcleaned, hcleanups⟩
        | some minimal_tuple =>
          obtain ⟨⟨valid_slots₁, exhausted₁, r₂⟩, hrest, heq⟩ := Option.map_eq_some_iff.1 h
          cases heq
          obtain ⟨hwf₂, hrange₂, hend, hcleaned₂, hcleanups₂⟩ := ih hwf₁ hrange₁ hrest
          exact ⟨hwf₂, hrange₂, hend, hcleaned₂.trans hcleaned, hcleanups₂.trans hcleanups⟩

/-- A batch at the end fetches nothing, and uses nothing. -/
theorem fetch_of_nreaders_eq_zero {r : TableReader τ} {n : Nat} {timing : Nat → List Bool}
    (h : r.nreaders = 0) : GlobalState.fetch true (n + 1) timing r = some (0, true, r) := by
  unfold GlobalState.fetch
  rw [if_pos rfl, GetNextWorkerTuple_of_nreaders_eq_zero h]

/-- A parallel scan takes the smaller batches. -/
theorem GlobalState.Inv.batch_size (h : s.Inv) : s.batch_size = 31 + 1 := by
  unfold GlobalState.batch_size
  rw [h.parallel]
  rfl

/-- While a state has still to be unregistered, the counter is positive. -/
theorem GlobalState.Inv.counter_of_holds (h : s.Inv) (hl : l ∈ s.locals) (hholds : l.holds = true) :
    0 < s.registered_local_states ∧
      s.registered_local_states = (s.locals.countP LocalState.holds : Nat) := by
  have hpos : 0 < s.locals.countP LocalState.holds := List.countP_pos_iff.2 ⟨l, hl, hholds⟩
  have hopen : 0 ≤ s.registered_local_states := by
    by_contra hclosed
    have := (h.closed (by omega)).1
    omega
  have hcounted := h.counted hopen
  exact ⟨by omega, hcounted⟩

/-- The reader is not cleaned up while there is a state to be unregistered. -/
theorem GlobalState.Inv.not_cleaned (h : s.Inv) (hdestroyed : s.destroyed = false)
    (hopen : 0 ≤ s.registered_local_states) : s.table_reader.cleaned_up = false := by
  cases hcleaned : s.table_reader.cleaned_up with
  | false => rfl
  | true =>
    obtain hclosed | hgone := h.cleaned hcleaned
    · omega
    · rw [hdestroyed] at hgone
      cases hgone

/-- What a step may do. -/
structure GlobalState.StepSafe (s : GlobalState τ) (a : Action) (s' : GlobalState τ) : Prop where
  /-- Clean-up runs only when no registered state is left that is not exhausted. -/
  nobody : s'.table_reader.cleanups ≠ s.table_reader.cleanups →
    ∀ l ∈ s.locals, l.abandoned = false → l.registered = true → l.exhausted_scan = true
  /-- After clean-up nothing of the executor is used. -/
  untouched : s.table_reader.cleaned_up = true → s'.table_reader.touched = s.table_reader.touched
  /-- A state that was turned away does not clean up. -/
  refused : ∀ i l, a.thread = some i → s.locals[i]? = some l → l.registered = false →
    s'.table_reader.cleanups = s.table_reader.cleanups

/-- A step that leaves the reader as it is. -/
theorem GlobalState.StepSafe.of_reader_eq {a : Action} (h : s'.table_reader = s.table_reader) :
    s.StepSafe a s' := by
  refine ⟨fun hcleanups => absurd ?_ hcleanups, fun _ => ?_, fun _ _ _ _ _ => ?_⟩ <;> rw [h]

/-- A step without a clean-up. -/
theorem GlobalState.StepSafe.of_cleanups_eq {a : Action}
    (h : s'.table_reader.cleanups = s.table_reader.cleanups)
    (htouched : s.table_reader.cleaned_up = true →
      s'.table_reader.touched = s.table_reader.touched) : s.StepSafe a s' :=
  ⟨fun hcleanups => absurd h hcleanups, htouched, fun _ _ _ _ _ => h⟩

/-- Behind the end of the scan a new state is turned away. -/
theorem newLocalState_of_closed (h : s.registered_local_states < 0) :
    s.newLocalState =
      { s with locals := s.locals ++ [⟨false, .idle, false, 0, false⟩] } := by
  unfold GlobalState.newLocalState GlobalState.RegisterLocalState
  rw [if_pos h]
  rfl

/-- Before the end of a parallel scan a new state is registered. -/
theorem newLocalState_of_open (h : ¬s.registered_local_states < 0)
    (hparallel : s.is_parallel_scan = true) :
    s.newLocalState =
      { s with
        registered_local_states := s.registered_local_states + 1
        table_reader := s.table_reader.InitTupleSlots
        locals := s.locals ++ [⟨false, .idle, true, 0, false⟩] } := by
  unfold GlobalState.newLocalState GlobalState.RegisterLocalState
  rw [if_neg h]
  dsimp only
  rw [if_neg]
  have hthreads : s.max_threads > 1 := of_decide_eq_true hparallel
  simp [GlobalState.is_parallel_scan, hthreads]

/-- A state that is constructed keeps the invariant. -/
theorem GlobalState.Inv.construct (h : s.Inv) (hdestroyed : s.destroyed = false) :
    s.newLocalState.Inv ∧ s.StepSafe .construct s.newLocalState := by
  by_cases hclosed : s.registered_local_states < 0
  · rw [newLocalState_of_closed hclosed]
    refine ⟨?_, .of_reader_eq rfl⟩
    have hstate := h.closed hclosed
    refine ⟨h.parallel, h.wf, h.range, ?_, fun hopen => absurd hclosed (Int.not_lt.2 hopen), ?_,
      h.cleaned, h.cleanups, ?_⟩
    · intro x hx
      obtain hx | hx := List.mem_append.1 hx
      · exact h.exhausted x hx
      · cases List.mem_singleton.1 hx
        nofun
    · intro _
      refine ⟨?_, hstate.2⟩
      change (s.locals ++ _).countP LocalState.holds = 0
      rw [List.countP_append, hstate.1]
      rfl
    · intro x hx hx_refused
      obtain hx | hx := List.mem_append.1 hx
      · exact h.refused x hx hx_refused
      · cases List.mem_singleton.1 hx
        exact ⟨hclosed, rfl, nofun⟩
  · rw [newLocalState_of_open hclosed h.parallel]
    have hopen : 0 ≤ s.registered_local_states := by omega
    have hclean := h.not_cleaned hdestroyed hopen
    refine ⟨?_, .of_cleanups_eq rfl fun hcleaned => ?_⟩
    · refine ⟨h.parallel, ⟨h.wf.bound, h.wf.index, h.wf.drained⟩, ?_, ?_, ?_, ?_, ?_, h.cleanups, ?_⟩
      · intro index nreaders hmem
        obtain hmem | hmem := List.mem_append.1 hmem
        · cases List.eq_of_mem_replicate hmem
        · exact h.range index nreaders hmem
      · intro x hx
        obtain hx | hx := List.mem_append.1 hx
        · exact h.exhausted x hx
        · cases List.mem_singleton.1 hx
          nofun
      · intro _
        have hcounted := h.counted hopen
        change s.registered_local_states + 1 = ((s.locals ++ _).countP LocalState.holds : Nat)
        rw [List.countP_append, hcounted]
        rfl
      · intro hnegative
        change s.registered_local_states + 1 < 0 at hnegative
        omega
      · intro hcleaned
        change s.table_reader.cleaned_up = true at hcleaned
        rw [hclean] at hcleaned
        cases hcleaned
      · intro x hx hx_refused
        obtain hx | hx := List.mem_append.1 hx
        · exact absurd (h.refused x hx hx_refused).1 hclosed
        · cases List.mem_singleton.1 hx
          cases hx_refused
    · rw [hclean] at hcleaned
      cases hcleaned

/-- The destruction of the global state keeps the invariant. -/
theorem GlobalState.Inv.destroy (h : s.Inv)
    (hall : s.locals.all (·.abandoned) = true) :
    ({ s with destroyed := true, table_reader := s.table_reader.destructor } : GlobalState τ).Inv ∧
      s.StepSafe .destroy
        { s with destroyed := true, table_reader := s.table_reader.destructor } := by
  unfold TableReader.destructor
  cases hcleaned : s.table_reader.cleaned_up with
  | true =>
    refine ⟨⟨h.parallel, h.wf, h.range, h.exhausted, h.counted, h.closed, fun _ => .inr rfl,
      h.cleanups, h.refused⟩, .of_reader_eq rfl⟩
  | false =>
    refine ⟨⟨h.parallel, ⟨h.wf.bound, h.wf.index, h.wf.drained⟩, h.range, h.exhausted, h.counted, ?_,
      fun _ => .inr rfl, ?_, h.refused⟩, ⟨?_, ?_, nofun⟩⟩
    · intro hclosed
      exact ⟨(h.closed hclosed).1, rfl, (h.closed hclosed).2.2⟩
    · have hcleanups := h.cleanups
      rw [hcleaned] at hcleanups
      change s.table_reader.cleanups + 1 = 1
      rw [hcleanups]
      rfl
    · intro _ x hx hx_live
      have hx_gone := List.all_eq_true.1 hall x hx
      rw [hx_live] at hx_gone
      cases hx_gone
    · intro hcleaned'
      rw [hcleaned] at hcleaned'
      cases hcleaned'

/-- Uses of the slots keep the invariant. -/
theorem GlobalState.Inv.touches (h : s.Inv) (n : Nat) :
    ({ s with table_reader := s.table_reader.touches n .slot } : GlobalState τ).Inv := by
  refine h.withReader ⟨h.wf.bound, h.wf.index, h.wf.drained⟩ ?_ (fun hend => hend) rfl rfl
  intro index nreaders hmem
  obtain hmem | hmem := List.mem_append.1 hmem
  · cases List.eq_of_mem_replicate hmem
  · exact h.range index nreaders hmem

/-- A batch is fetched. A state that was turned away finds nothing. -/
theorem GlobalState.Inv.fetch (h : s.Inv) (hdestroyed : s.destroyed = false)
    {timing : Nat → List Bool} (hl : s.locals[i]? = some l)
    (hstep : s.stepLocal l (.fetch i timing) = some s') :
    s'.Inv ∧ s.StepSafe (.fetch i timing) s' := by
  simp only [GlobalState.stepLocal] at hstep
  split at hstep
  · rename_i batch_idx hposition
    simp only [h.parallel, if_true] at hstep
    obtain ⟨⟨valid_slots, exhausted, r⟩, hfetch, rfl⟩ := Option.map_eq_some_iff.1 hstep
    obtain ⟨hwf, hrange, hend, hcleaned, hcleanups⟩ := fetch_spec h.wf h.range hfetch
    have hzero : s.table_reader.nreaders = 0 → valid_slots = 0 ∧ r = s.table_reader := by
      intro hzero
      rw [h.batch_size, fetch_of_nreaders_eq_zero hzero] at hfetch
      cases hfetch
      exact ⟨rfl, rfl⟩
    have hreader : ({ s with table_reader := r } : GlobalState τ).Inv :=
      h.withReader hwf hrange (fun hnone => (hzero hnone).2 ▸ hnone) hcleaned hcleanups
    refine ⟨hreader.setLocal hl ?_ ?_ rfl ?_, .of_cleanups_eq hcleanups fun hclean => ?_⟩
    · rw [LocalState.holds_of_ne_idle (by nofun), LocalState.holds_of_ne_idle (by simp [hposition])]
    · intro hexhausted
      obtain hbefore | hnow := Bool.or_eq_true_iff.1 hexhausted
      · have hnone := h.exhausted l (List.mem_of_getElem? hl) hbefore
        exact (hzero hnone).2 ▸ hnone
      · exact hend hnow
    · intro hrefused
      obtain ⟨hclosed, hrows, -⟩ := h.refused l (List.mem_of_getElem? hl) hrefused
      refine ⟨hrows, fun batch_idx' valid_slots' heq => ?_⟩
      cases heq
      exact (hzero (h.closed hclosed).2.2).1
    · obtain hclosed | hgone := h.cleaned hclean
      · exact congrArg TableReader.touched (hzero (h.closed hclosed).2.2).2
      · rw [hdestroyed] at hgone
        cases hgone
  · cases hstep

/-- Tuples are converted. A state that was turned away has none. -/
theorem GlobalState.Inv.convert (h : s.Inv) (hdestroyed : s.destroyed = false)
    (hl : s.locals[i]? = some l) (hstep : s.stepLocal l (.convert i) = some s') :
    s'.Inv ∧ s.StepSafe (.convert i) s' := by
  simp only [GlobalState.stepLocal] at hstep
  split at hstep
  · rename_i batch_idx valid_slots hposition
    cases hstep
    have hmem := List.mem_of_getElem? hl
    have hnot_idle : (if batch_idx + 1 < s.num_batches then Position.fetching (batch_idx + 1)
        else .leaving) ≠ .idle := by
      split <;> nofun
    refine ⟨(h.touches valid_slots).setLocal hl ?_ (h.exhausted l hmem) rfl ?_,
      .of_cleanups_eq rfl fun hclean => ?_⟩
    · rw [LocalState.holds_of_ne_idle hnot_idle, LocalState.holds_of_ne_idle (by simp [hposition])]
    · intro hrefused
      obtain ⟨-, hrows, hnone⟩ := h.refused l hmem hrefused
      refine ⟨?_, fun batch_idx' valid_slots' heq => ?_⟩
      · change l.rows + valid_slots = 0
        rw [hrows, hnone _ _ hposition]
      · dsimp only at heq
        split at heq <;> cases heq
    · have hzero : valid_slots = 0 := by
        cases hregistered : l.registered with
        | false => exact (h.refused l hmem hregistered).2.2 _ _ hposition
        | true =>
          have hholds : l.holds = true := by
            rw [LocalState.holds_of_ne_idle (by simp [hposition]), hregistered]
          have hopen := (h.counter_of_holds hmem hholds).1
          rw [h.not_cleaned hdestroyed (by omega)] at hclean
          cases hclean
      change List.replicate valid_slots _ ++ _ = _
      rw [hzero]
      rfl
  · cases hstep

/-- The local state when its thread has left. -/
def LocalState.left (l : LocalState) : LocalState := { l with position := .idle }

/-- A thread that leaves at the end of the scan has nothing more to unregister. -/
theorem countP_left (hl : s.locals[i]? = some l) (hposition : l.position = .leaving)
    (hexhausted : l.exhausted_scan = true) :
    (s.locals.set i l.left).countP LocalState.holds + (if l.registered then 1 else 0) =
      s.locals.countP LocalState.holds := by
  have hcount := countP_setLocal hl l.left
  have hleft : l.left.holds = false := by simp [LocalState.holds, LocalState.left, hexhausted]
  rw [hleft, LocalState.holds_of_ne_idle (by simp [hposition])] at hcount
  exact hcount

/-- No state is turned away as long as the counter is not negative. -/
theorem GlobalState.Inv.registered_of_open (h : s.Inv) (hmem : l ∈ s.locals)
    (hopen : 0 ≤ s.registered_local_states) : l.registered = true := by
  by_contra hrefused
  have := (h.refused l hmem (Bool.eq_false_iff.2 hrefused)).1
  omega

/-- The counter, when a thread leaves at the end of the scan. -/
theorem GlobalState.Inv.counted_left (h : s.Inv) (hl : s.locals[i]? = some l)
    (hposition : l.position = .leaving) (hexhausted : l.exhausted_scan = true)
    (hopen : 0 ≤ s.registered_local_states) :
    s.registered_local_states = ((s.locals.set i l.left).countP LocalState.holds : Nat) + 1 := by
  have hcount := countP_left hl hposition hexhausted
  have hcounted := h.counted hopen
  rw [h.registered_of_open (List.mem_of_getElem? hl) hopen, if_pos rfl] at hcount
  omega

/-- A state that was turned away has no rows, whatever state has left. -/
theorem GlobalState.Inv.refused_left (h : s.Inv) (hl : s.locals[i]? = some l) {x : LocalState}
    (hx : x ∈ s.locals.set i l.left) (hrefused : x.registered = false) :
    s.registered_local_states < 0 ∧ x.rows = 0 ∧ ∀ batch_idx valid_slots,
      x.position = .converting batch_idx valid_slots → valid_slots = 0 := by
  obtain hx | rfl := List.mem_or_eq_of_mem_set hx
  · exact h.refused x hx hrefused
  · obtain ⟨hclosed, hrows, -⟩ := h.refused l (List.mem_of_getElem? hl) hrefused
    exact ⟨hclosed, hrows, nofun⟩

/-- The last thread that unregisters cleans up. -/
theorem GlobalState.Inv.unregister_last (h : s.Inv) (hdestroyed : s.destroyed = false)
    (hl : s.locals[i]? = some l) (hposition : l.position = .leaving)
    (hexhausted : l.exhausted_scan = true) (hone : s.registered_local_states = 1) :
    (s.setLocal i l.left).UnregisterLocalState.Inv ∧
      s.StepSafe (.leave i) (s.setLocal i l.left).UnregisterLocalState := by
  have hmem := List.mem_of_getElem? hl
  have hend : s.table_reader.nreaders = 0 := h.exhausted l hmem hexhausted
  have hclean := h.not_cleaned hdestroyed (by omega)
  have hregistered : l.registered = true := h.registered_of_open hmem (by omega)
  -- The counter was one, so no other state is left to be unregistered.
  have hzero : (s.locals.set i l.left).countP LocalState.holds = 0 := by
    have hcounted := h.counted_left hl hposition hexhausted (by omega)
    omega
  have hstate : (s.setLocal i l.left).UnregisterLocalState =
      { s with
        registered_local_states := -1
        table_reader := s.table_reader.Cleanup
        locals := s.locals.set i l.left } := by
    refine (if_pos ?_).trans rfl
    change s.registered_local_states - 1 = 0
    omega
  rw [hstate]
  refine ⟨⟨h.parallel, ⟨h.wf.bound, h.wf.index, h.wf.drained⟩, h.range, fun _ _ _ => hend, ?_, ?_, ?_,
    ?_, ?_⟩, ⟨?_, ?_, ?_⟩⟩
  · intro hopen
    cases hopen
  · exact fun _ => ⟨hzero, rfl, hend⟩
  · exact fun _ => .inl (Int.negSucc_lt_zero 0)
  · have hcleanups := h.cleanups
    rw [hclean] at hcleanups
    change s.table_reader.cleanups + 1 = 1
    rw [hcleanups]
    rfl
  · intro x hx hx_refused
    exact ⟨Int.negSucc_lt_zero 0, (h.refused_left hl hx hx_refused).2⟩
  · intro _ x hx _ hx_registered
    obtain rfl | hx := mem_of_set hl hx l.left
    · exact hexhausted
    · have hx_done : x.holds = false := by
        by_contra hholds
        have := List.countP_pos_iff.2 ⟨x, hx, by simpa using hholds⟩
        omega
      simp only [LocalState.holds, hx_registered, Bool.true_and, Bool.not_eq_false',
        Bool.and_eq_true] at hx_done
      exact hx_done.1
  · intro hcleaned
    rw [hclean] at hcleaned
    cases hcleaned
  · intro j l₁ hj hl₁ hl₁_refused
    cases hj
    rw [hl] at hl₁
    cases hl₁
    rw [hregistered] at hl₁_refused
    cases hl₁_refused

/-- Other threads unregister only. -/
theorem GlobalState.Inv.unregister_other (h : s.Inv) (hl : s.locals[i]? = some l)
    (hposition : l.position = .leaving) (hexhausted : l.exhausted_scan = true)
    (hother : s.registered_local_states ≠ 1) :
    (s.setLocal i l.left).UnregisterLocalState.Inv ∧
      s.StepSafe (.leave i) (s.setLocal i l.left).UnregisterLocalState := by
  have hmem := List.mem_of_getElem? hl
  have hend : s.table_reader.nreaders = 0 := h.exhausted l hmem hexhausted
  have hstate : (s.setLocal i l.left).UnregisterLocalState =
      { s with
        registered_local_states := s.registered_local_states - 1
        locals := s.locals.set i l.left } := by
    refine (if_neg ?_).trans rfl
    change s.registered_local_states - 1 ≠ 0
    omega
  rw [hstate]
  refine ⟨⟨h.parallel, h.wf, h.range, fun _ _ _ => hend, ?_, ?_, ?_, h.cleanups, ?_⟩,
    .of_reader_eq rfl⟩
  · intro hopen
    dsimp only at hopen ⊢
    have hcounted := h.counted_left hl hposition hexhausted (by omega)
    omega
  · intro hnegative
    dsimp only at hnegative ⊢
    have hclosed : s.registered_local_states < 0 := by
      by_contra hopen
      have hcounted := h.counted_left hl hposition hexhausted (by omega)
      omega
    obtain ⟨hnone, hreader⟩ := h.closed hclosed
    have hcount := countP_left hl hposition hexhausted
    exact ⟨by omega, hreader⟩
  · intro hcleaned
    dsimp only
    obtain hclosed | hgone := h.cleaned hcleaned
    · exact .inl (by omega)
    · exact .inr hgone
  · intro x hx hx_refused
    obtain ⟨hclosed, hrest⟩ := h.refused_left hl hx hx_refused
    exact ⟨by dsimp only; omega, hrest⟩

/-- A step of a thread. -/
theorem GlobalState.Inv.stepLocal (h : s.Inv) (hdestroyed : s.destroyed = false) {a : Action}
    (ha : a.thread = some i) (hl : s.locals[i]? = some l) (hstep : s.stepLocal l a = some s') :
    s'.Inv ∧ s.StepSafe a s' := by
  have hmem := List.mem_of_getElem? hl
  cases a with
  | construct | destroy => cases ha
  | call j =>
    cases ha
    simp only [GlobalState.stepLocal] at hstep
    split at hstep
    · rename_i hposition
      split at hstep
      · cases hstep
        exact ⟨h, .of_reader_eq rfl⟩
      · rename_i hexhausted
        cases hstep
        refine ⟨h.setLocal hl ?_ (fun hnow => absurd hnow hexhausted) rfl ?_, .of_reader_eq rfl⟩
        · simp [LocalState.holds, hexhausted]
        · exact fun hrefused => ⟨(h.refused l hmem hrefused).2.1, nofun⟩
    · cases hstep
  | fetch j timing =>
    cases ha
    exact h.fetch hdestroyed hl hstep
  | convert j =>
    cases ha
    exact h.convert hdestroyed hl hstep
  | leave j =>
    cases ha
    simp only [GlobalState.stepLocal] at hstep
    split at hstep
    · rename_i hposition
      by_cases hexhausted : l.exhausted_scan = true
      · rw [if_pos hexhausted] at hstep
        cases hstep
        by_cases hone : s.registered_local_states = 1
        · exact h.unregister_last hdestroyed hl hposition hexhausted hone
        · exact h.unregister_other hl hposition hexhausted hone
      · rw [if_neg hexhausted] at hstep
        cases hstep
        refine ⟨h.setLocal hl ?_ (fun hnow => absurd hnow hexhausted) rfl ?_, .of_reader_eq rfl⟩
        · simp [LocalState.holds, hexhausted]
        · exact fun hrefused => ⟨(h.refused l hmem hrefused).2.1, nofun⟩
    · cases hstep
  | abandon j =>
    cases ha
    cases hstep
    exact ⟨h.setLocal hl rfl (h.exhausted l hmem) rfl fun hrefused => (h.refused l hmem hrefused).2,
      .of_reader_eq rfl⟩

/-- Every step keeps the invariant, and is safe. -/
theorem GlobalState.Inv.step {a : Action} (h : s.Inv) (hstep : s.step a = some s') :
    s'.Inv ∧ s.StepSafe a s' := by
  unfold GlobalState.step at hstep
  split at hstep
  · cases hstep
  · rename_i hdestroyed
    rw [Bool.not_eq_true] at hdestroyed
    split at hstep
    · cases hstep
      exact h.construct hdestroyed
    · split at hstep
      · rename_i hall
        cases hstep
        exact h.destroy hall
      · cases hstep
    all_goals
      split at hstep
      · rename_i l hl
        split at hstep
        · cases hstep
        · exact h.stepLocal hdestroyed rfl hl hstep
      · cases hstep

end

/-- In every run of a scan with more than one thread: clean-up runs at most once, and a state that was
turned away produces no rows. At every step, clean-up runs only when every registered state that is left
is exhausted and not in a step of a state that was turned away, and nothing of the executor is used once
it has run. -/
theorem scan_safe (threads : Nat) (count_tuples_only : Bool) (streams : List (List τ))
    (leader : List τ) (actions : List Action) (s : GlobalState τ)
    (hthreads : 1 < (GlobalState.init threads count_tuples_only streams leader).max_threads)
    (hrun : actions.foldlM GlobalState.step (.init threads count_tuples_only streams leader) =
      some s) :
    s.table_reader.cleanups ≤ 1 ∧ (∀ l ∈ s.locals, l.registered = false → l.rows = 0) ∧
      ∀ a s', s.step a = some s' → s.StepSafe a s' := by
  have hstart : (GlobalState.init threads count_tuples_only streams leader).Inv :=
    ⟨decide_eq_true hthreads, TableReader.init_wf streams leader, nofun, nofun, fun _ => rfl, nofun,
      nofun, rfl, nofun⟩
  have hinv : s.Inv :=
    (Lib.AllowedRun.of_true _ actions).invariant hstart (fun _ _ _ h _ hstep => (h.step hstep).1) hrun
  refine ⟨?_, fun l hl hrefused => (hinv.refused l hl hrefused).2.1, fun a s' hstep => (hinv.step hstep).2⟩
  rw [hinv.cleanups]
  split <;> omega

end

/-- A call of `PostgresScanFunction` that finds all workers done. -/
def wholeCall (i : Nat) : List Action :=
  .call i :: (List.replicate 64 [.fetch i fun _ => [true, true], .convert i]).flatten ++ [.leave i]

/-- One thread reads both workers and cleans up; another one comes too late. -/
theorem scan_safe_late :
    ∃ s : GlobalState Nat,
      (.construct :: wholeCall 0 ++ .construct :: wholeCall 1).foldlM GlobalState.step
        (.init 2 false [[1], [2]] []) = some s ∧
      s.table_reader.cleanups = 1 ∧ (s.locals.map (·.rows) = [2, 0]) ∧
      (s.table_reader.cleanups ≤ 1 ∧ (∀ l ∈ s.locals, l.registered = false → l.rows = 0) ∧
        ∀ a s', s.step a = some s' → s.StepSafe a s') := by
  have hrun : ((.construct :: wholeCall 0 ++ .construct :: wholeCall 1).foldlM GlobalState.step
      (.init 2 false [[1], [2]] [])).map (fun s : GlobalState Nat =>
        (s.table_reader.cleanups, s.locals.map (·.rows))) = some (1, [2, 0]) := by
    decide +kernel
  obtain ⟨s, hs, heq⟩ := Option.map_eq_some_iff.1 hrun
  rw [Prod.mk.injEq] at heq
  exact ⟨s, hs, heq.1, heq.2, scan_safe 2 false [[1], [2]] [] _ s (by decide) hs⟩

end PgDuckdb.Scan
