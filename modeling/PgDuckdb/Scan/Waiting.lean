import Mathlib.Data.List.Count
import PgDuckdb.Lib.Run
import PgDuckdb.Scan.Reader

/-!
# When the reader waits

A call of `GetNextWorkerTuple` goes round the queues and waits for its latch when it has found nothing in
any of them. It knows that by counting: `nvisited` are the polls without a result since the last wait, and
they are compared with the number of queues, which shrinks as workers finish while the array is closed up
under the index. `waits_after_round` says that the count is right. When the call waits, each queue in use has
been polled since the last wait and had nothing, and none is polled more than twice in between.

What a poll answers is up to the workers, so a call is followed here over any list of answers; those of a
call on actual queues are one of these (`GetNextWorkerTuple_cons`).
-/

namespace PgDuckdb.Scan

open Lib (StepsOk)

/-! ## One round of the loop -/

/-- What a poll answers, without the tuple. -/
inductive Found
  | tuple
  | nothing
  | readerdone
  deriving DecidableEq, Repr

/-- What a poll found, without the tuple. -/
def Polled.found {τ : Type} : Polled τ → Found
  | tuple _ _ => .tuple
  | nothing => .nothing
  | readerdone => .readerdone

/-- What the loop does after a poll: it returns, or goes on with a new `nvisited`, with or without a wait
before. -/
inductive Round (τ : Type)
  | returns
  | goesOn (waited : Bool) (nvisited : Nat) (r : TableReader τ)

/-- What the call does to the outside. -/
inductive Event
  | poll (worker : Nat) (found : Found)
  /-- `WaitLatch`, with the queues in use. -/
  | wait (live : List Nat)
  deriving DecidableEq, Repr

section
variable {τ : Type}

/-- The body of the loop, after the poll. -/
def round (found : Found) (nvisited : Nat) (r : TableReader τ) : Round τ :=
  match found with
  | .readerdone => if r.poll.drop.nreaders = 0 then .returns else .goesOn false nvisited r.poll.drop
  | .tuple => .returns
  | .nothing =>
    if nvisited + 1 ≥ r.nreaders then .goesOn true 0 r.poll.advance
    else .goesOn false (nvisited + 1) r.poll.advance

/-- The events of a call whose polls answer as listed, as far as the list goes. -/
def events : List Found → Nat → TableReader τ → List Event
  | [], _, _ => []
  | found :: rest, nvisited, r =>
    if r.next_parallel_reader < r.nreaders then
      .poll r.worker found ::
        match round found nvisited r with
        | .returns => []
        | .goesOn true nvisited r => .wait r.active :: events rest nvisited r
        | .goesOn false nvisited r => events rest nvisited r
    else []

variable {r r' : TableReader τ} {nvisited nvisited' : Nat} {waited : Bool} {found : Found}

/-- A call is a poll and a round, and the rest of the call. -/
theorem GetNextWorkerTuple_cons {visible : Bool} {timing : List Bool}
    (hindex : r.next_parallel_reader < r.nreaders) :
    (∃ minimal_tuple r', round (TupleQueueReaderNext visible (r.queues r.worker)).found nvisited r = .returns ∧
      GetNextWorkerTuple (visible :: timing) nvisited r = (.returned minimal_tuple, r')) ∨
    ∃ waited nvisited' r',
      round (TupleQueueReaderNext visible (r.queues r.worker)).found nvisited r =
        .goesOn waited nvisited' r' ∧
      GetNextWorkerTuple (visible :: timing) nvisited r = GetNextWorkerTuple timing nvisited' r' := by
  rw [GetNextWorkerTuple, if_pos hindex]
  cases hpoll : TupleQueueReaderNext visible (r.queues r.worker) with
  | tuple minimal_tuple queue => exact .inl ⟨_, _, rfl, rfl⟩
  | nothing =>
    refine .inr ?_
    simp only [Polled.found, round]
    split
    · exact ⟨_, _, _, rfl, rfl⟩
    · exact ⟨_, _, _, rfl, rfl⟩
  | readerdone =>
    simp only [Polled.found, round]
    split
    · exact .inl ⟨_, _, rfl, rfl⟩
    · exact .inr ⟨_, _, _, rfl, rfl⟩

end

/-! ## What has happened since the last wait -/

/-- An event that waits. -/
def Event.isWait : Event → Bool
  | wait _ => true
  | poll _ _ => false

/-- An event that polls this worker. -/
def Event.isPollOf (worker : Nat) : Event → Bool
  | wait _ => false
  | poll w _ => w == worker

/-- The events after the last wait, the last one first. -/
def sinceWait (history : List Event) : List Event := history.reverse.takeWhile fun e => !e.isWait

/-- How often a queue is polled. -/
def polls (worker : Nat) (es : List Event) : Nat := es.countP (Event.isPollOf worker)

section
variable {history : List Event} {w v : Nat} {found : Found} {live : List Nat} {es : List Event}

@[simp] theorem sinceWait_nil : sinceWait [] = [] := rfl

@[simp] theorem sinceWait_poll : sinceWait (history ++ [.poll w found]) = .poll w found :: sinceWait history := by
  simp [sinceWait, Event.isWait]

@[simp] theorem sinceWait_wait : sinceWait (history ++ [.wait live]) = [] := by
  simp [sinceWait, Event.isWait]

@[simp] theorem polls_nil : polls w [] = 0 := rfl

/-- A poll of this worker is one more. -/
theorem polls_poll_self : polls w (.poll w found :: es) = polls w es + 1 := by
  simp [polls, Event.isPollOf]

/-- A poll of another worker does not count. -/
theorem polls_poll_of_ne (h : v ≠ w) : polls w (.poll v found :: es) = polls w es := by
  simp [polls, Event.isPollOf, h]

end

/-! ## The order of the polls -/

namespace TableReader

section
variable {τ : Type} {r : TableReader τ}

/-- The queues in use in the order in which they are polled from here. -/
def upcoming (r : TableReader τ) : List Nat :=
  r.active.drop r.next_parallel_reader ++ r.active.take r.next_parallel_reader

/-- There are as many active readers as the counter says. -/
theorem length_active (hbound : r.nreaders ≤ r.parallel_worker_readers.length) :
    r.active.length = r.nreaders := by
  rw [active, List.length_take, Nat.min_eq_left hbound]

/-- The queues in use around the one that is polled next. -/
theorem exists_active_eq (hbound : r.nreaders ≤ r.parallel_worker_readers.length)
    (hindex : r.next_parallel_reader < r.nreaders) :
    ∃ front back, r.active = front ++ r.worker :: back ∧ front.length = r.next_parallel_reader := by
  have hlt : r.next_parallel_reader < r.active.length := by
    rw [length_active hbound]
    exact hindex
  have hworker := worker_eq hbound hindex
  rw [List.getElem?_eq_getElem hlt] at hworker
  refine ⟨r.active.take r.next_parallel_reader, r.active.drop (r.next_parallel_reader + 1), ?_, ?_⟩
  · rw [← Option.some.inj hworker, List.getElem_cons_drop, List.take_append_drop]
  · rw [List.length_take]
    omega

/-- The workers in turn are the active ones. -/
theorem length_upcoming : r.upcoming.length = r.active.length := by
  rw [upcoming, List.length_append, Nat.add_comm, ← List.length_append, List.take_append_drop]

/-- A worker comes up just when it is active. -/
theorem mem_upcoming {w : Nat} : w ∈ r.upcoming ↔ w ∈ r.active := by
  rw [upcoming, List.mem_append, or_comm, ← List.mem_append, List.take_append_drop]

/-- A queue without a result goes to the end of the order, one that is done out of it. -/
theorem exists_upcoming_eq (hbound : r.nreaders ≤ r.parallel_worker_readers.length)
    (hindex : r.next_parallel_reader < r.nreaders) :
    ∃ rest, r.upcoming = r.worker :: rest ∧ r.advance.upcoming = rest ++ [r.worker] ∧
      r.drop.upcoming = rest := by
  obtain ⟨front, back, hactive, hfront⟩ := exists_active_eq hbound hindex
  have hlength := length_active hbound
  have hcount : front.length + (back.length + 1) = r.nreaders := by
    rw [← hlength, hactive, List.length_append, List.length_cons]
  refine ⟨back ++ front, ?_, ?_, ?_⟩
  · rw [upcoming, hactive, List.drop_left' hfront, List.take_left' hfront]
    rfl
  · change r.active.drop r.advance.next_parallel_reader ++ r.active.take r.advance.next_parallel_reader = _
    by_cases hlast : r.next_parallel_reader + 1 ≥ r.nreaders
    · have hnext : r.advance.next_parallel_reader = 0 := if_pos hlast
      have hback : back = [] := List.length_eq_zero_iff.1 (by omega)
      rw [hnext, hactive, hback]
      simp
    · have hnext : r.advance.next_parallel_reader = r.next_parallel_reader + 1 := if_neg hlast
      have hsnoc : (front ++ [r.worker]).length = r.next_parallel_reader + 1 := by
        rw [List.length_append, hfront, List.length_singleton]
      rw [hnext, hactive, List.append_cons, List.drop_left' hsnoc, List.take_left' hsnoc,
        List.append_assoc]
  · have hdrop : r.drop.active = front ++ back := by
      rw [active_drop hbound hindex, hactive, ← hfront, List.eraseIdx_append_of_length_le (Nat.le_refl _),
        Nat.sub_self, List.eraseIdx_cons_zero]
    rw [upcoming, hdrop]
    by_cases hone : r.nreaders - 1 = 0
    · have hfront' : front = [] := List.length_eq_zero_iff.1 (by omega)
      have hback : back = [] := List.length_eq_zero_iff.1 (by omega)
      rw [hfront', hback, List.append_nil, List.drop_nil, List.take_nil, List.append_nil]
    · have hnext : r.drop.next_parallel_reader =
          if r.next_parallel_reader ≥ r.nreaders - 1 then 0 else r.next_parallel_reader := by
        unfold drop
        dsimp only
        rw [if_neg hone]
      rw [hnext]
      split
      · have hback : back = [] := List.length_eq_zero_iff.1 (by omega)
        rw [hback, List.append_nil, List.drop_zero, List.take_zero, List.append_nil, List.nil_append]
      · rw [List.drop_left' hfront, List.take_left' hfront]

end

end TableReader

/-! ## What a call keeps track of -/

section
variable {τ : Type} {r₀ r r' : TableReader τ} {history : List Event} {nvisited nvisited' : Nat}
  {found : Found} {waited : Bool}

/-- What may happen after `history` in a call that starts with the reader `r₀`. A queue is polled if it has
been polled at most once since the last wait, or the start. The call waits if the queues in use then have
all been polled since and had nothing; they are the queues of the start that are not done. -/
def Allowed (r₀ : TableReader τ) (history : List Event) : Event → Prop
  | .poll w _ => polls w (sinceWait history) ≤ 1
  | .wait live => (∀ w, w ∈ live ↔ w ∈ r₀.active ∧ .poll w .readerdone ∉ history) ∧
      ∀ w ∈ live, .poll w .nothing ∈ sinceWait history

/-- A reader whose index is in range and whose array has no entry twice. -/
structure TableReader.Ready (r : TableReader τ) : Prop where
  bound : r.nreaders ≤ r.parallel_worker_readers.length
  index : r.next_parallel_reader < r.nreaders ∨ r.nreaders = 0
  nodup : r.active.Nodup

/-- The invariant of the loop. In the order of the polls to come, the queues that have been polled since
the last wait are the last ones, each has been polled once without a result, and `nvisited` is their number
or, when all have been polled, at least that. -/
structure Tracks (r₀ : TableReader τ) (history : List Event) (nvisited : Nat) (r : TableReader τ) : Prop
    extends r.Ready where
  live : ∀ w, w ∈ r.active ↔ w ∈ r₀.active ∧ .poll w .readerdone ∉ history
  order : ∃ unseen seen, r.upcoming = unseen ++ seen ∧ seen.length = min nvisited r.nreaders ∧
    (∀ w ∈ unseen, polls w (sinceWait history) = 0) ∧
    ∀ w ∈ seen, polls w (sinceWait history) = 1 ∧ .poll w .nothing ∈ sinceWait history

/-- At the start of a call nothing has been polled yet. -/
theorem TableReader.Ready.tracks (h : r.Ready) : Tracks r [] 0 r where
  toReady := h
  live w := by simp
  order := ⟨r.upcoming, [], (List.append_nil _).symm, (Nat.zero_min _).symm, fun _ _ => rfl,
    fun _ h => absurd h List.not_mem_nil⟩

/-- No worker comes up twice. -/
theorem TableReader.Ready.nodup_upcoming (h : r.Ready) : r.upcoming.Nodup := by
  have hperm : r.upcoming.Perm r.active := by
    conv_rhs => rw [← List.take_append_drop r.next_parallel_reader r.active]
    exact List.perm_append_comm
  exact hperm.nodup_iff.2 h.nodup

/-- A poll keeps the reader ready. -/
theorem TableReader.Ready.poll (h : r.Ready) : r.poll.Ready := ⟨h.bound, h.index, h.nodup⟩

/-- Passing the turn keeps the reader ready. -/
theorem TableReader.Ready.advance (h : r.Ready) : r.advance.Ready :=
  ⟨h.bound, TableReader.advance_index h.index, h.nodup⟩

/-- Dropping a reader keeps the rest ready. -/
theorem TableReader.Ready.drop (h : r.Ready) (hindex : r.next_parallel_reader < r.nreaders) :
    r.drop.Ready where
  bound := TableReader.drop_bound h.bound hindex
  index := TableReader.drop_index
  nodup := by
    rw [TableReader.active_drop h.bound hindex]
    exact h.nodup.sublist (List.eraseIdx_sublist _ _)

/-- The next queue has been polled at most once. -/
theorem Tracks.polls_worker (h : Tracks r₀ history nvisited r) (hindex : r.next_parallel_reader < r.nreaders) :
    polls r.worker (sinceWait history) ≤ 1 := by
  obtain ⟨unseen, seen, horder, -, hunseen, hseen⟩ := h.order
  obtain ⟨rest, hrest, -⟩ := TableReader.exists_upcoming_eq h.bound hindex
  have hmem : r.worker ∈ unseen ++ seen := by
    rw [← horder, hrest]
    exact List.mem_cons_self
  rcases List.mem_append.1 hmem with hw | hw
  · rw [hunseen _ hw]
    exact Nat.zero_le 1
  · exact Nat.le_of_eq (hseen _ hw).1

/-- A queue that is done is left out. -/
theorem Tracks.readerdone (h : Tracks r₀ history nvisited r)
    (hindex : r.next_parallel_reader < r.nreaders) :
    Tracks r₀ (history ++ [.poll r.worker .readerdone]) nvisited r.poll.drop := by
  obtain ⟨rest, hrest, -, hdrop⟩ := TableReader.exists_upcoming_eq (r := r.poll) h.bound hindex
  have hnodup := h.nodup_upcoming
  change r.upcoming = r.worker :: rest at hrest
  rw [hrest, List.nodup_cons] at hnodup
  have hother : ∀ w ∈ rest, r.worker ≠ w := fun w hw heq => hnodup.1 (heq ▸ hw)
  refine ⟨h.poll.drop hindex, fun w => ?_, ?_⟩
  · rw [← TableReader.mem_upcoming, hdrop, List.mem_append, not_or, ← and_assoc, ← h.live,
      ← TableReader.mem_upcoming, hrest, List.mem_cons, List.mem_singleton]
    constructor
    · exact fun hw => ⟨.inr hw, fun heq => hother w hw (by injection heq with heq; exact heq.symm)⟩
    · rintro ⟨rfl | hw, hne⟩
      · exact absurd rfl hne
      · exact hw
  · have hsame : ∀ w ∈ rest, polls w (sinceWait (history ++ [.poll r.worker .readerdone])) =
        polls w (sinceWait history) := by
      intro w hw
      rw [sinceWait_poll, polls_poll_of_ne (hother w hw)]
    have hlength : rest.length + 1 = r.nreaders := by
      rw [← TableReader.length_active h.bound, ← List.length_cons (a := r.worker), ← hrest]
      exact TableReader.length_upcoming
    have hnreaders : r.poll.drop.nreaders = r.nreaders - 1 := TableReader.drop_nreaders
    obtain ⟨unseen, seen, horder, hcount, hunseen, hseen⟩ := h.order
    rw [hdrop, hnreaders]
    rw [hrest] at horder
    cases unseen with
    | nil =>
      obtain rfl : r.worker :: rest = seen := horder
      refine ⟨[], rest, rfl, ?_, fun _ hw => absurd hw List.not_mem_nil, fun w hw => ?_⟩
      · rw [List.length_cons] at hcount
        omega
      · rw [hsame w hw, sinceWait_poll]
        obtain ⟨hone, hnothing⟩ := hseen w (List.mem_cons_of_mem _ hw)
        exact ⟨hone, List.mem_cons_of_mem _ hnothing⟩
    | cons w unseen =>
      rw [List.cons_append, List.cons_eq_cons] at horder
      obtain ⟨rfl, rfl⟩ := horder
      refine ⟨unseen, seen, rfl, ?_, fun w hw => ?_, fun w hw => ?_⟩
      · rw [List.length_append] at hlength
        omega
      · rw [hsame w (List.mem_append_left _ hw)]
        exact hunseen w (List.mem_cons_of_mem _ hw)
      · rw [hsame w (List.mem_append_right _ hw), sinceWait_poll]
        obtain ⟨hone, hnothing⟩ := hseen w hw
        exact ⟨hone, List.mem_cons_of_mem _ hnothing⟩

/-- After a queue without a result the loop goes on, as long as there are others that have not been
polled. -/
theorem Tracks.nothing (h : Tracks r₀ history nvisited r) (hindex : r.next_parallel_reader < r.nreaders)
    (hmore : nvisited + 1 < r.nreaders) :
    Tracks r₀ (history ++ [.poll r.worker .nothing]) (nvisited + 1) r.poll.advance := by
  obtain ⟨rest, hrest, hadvance, -⟩ := TableReader.exists_upcoming_eq (r := r.poll) h.bound hindex
  have hnodup := h.nodup_upcoming
  change r.upcoming = r.worker :: rest at hrest
  change r.poll.advance.upcoming = rest ++ [r.worker] at hadvance
  rw [hrest, List.nodup_cons] at hnodup
  refine ⟨h.poll.advance, fun w => ?_, ?_⟩
  · rw [List.mem_append, not_or]
    exact (h.live w).trans (and_congr_right fun _ => (and_iff_left (by simp)).symm)
  · have hsame : ∀ w ∈ rest, polls w (sinceWait (history ++ [.poll r.worker .nothing])) =
        polls w (sinceWait history) := by
      intro w hw
      have hne : r.worker ≠ w := fun heq => hnodup.1 (heq ▸ hw)
      rw [sinceWait_poll, polls_poll_of_ne hne]
    have hlength : rest.length + 1 = r.nreaders := by
      rw [← TableReader.length_active h.bound, ← List.length_cons (a := r.worker), ← hrest]
      exact TableReader.length_upcoming
    have hnreaders : r.poll.advance.nreaders = r.nreaders := rfl
    obtain ⟨unseen, seen, horder, hcount, hunseen, hseen⟩ := h.order
    rw [hadvance, hnreaders]
    rw [hrest] at horder
    cases unseen with
    | nil =>
      have hall := congrArg List.length horder
      rw [List.nil_append, List.length_cons] at hall
      omega
    | cons w unseen =>
      rw [List.cons_append, List.cons_eq_cons] at horder
      obtain ⟨rfl, rfl⟩ := horder
      refine ⟨unseen, seen ++ [r.worker], List.append_assoc _ _ _, ?_, fun w hw => ?_, fun w hw => ?_⟩
      · rw [List.length_append, List.length_singleton]
        omega
      · rw [hsame w (List.mem_append_left _ hw)]
        exact hunseen w (List.mem_cons_of_mem _ hw)
      · rcases List.mem_append.1 hw with hw | hw
        · rw [hsame w (List.mem_append_right _ hw), sinceWait_poll]
          obtain ⟨hone, hnothing⟩ := hseen w hw
          exact ⟨hone, List.mem_cons_of_mem _ hnothing⟩
        · obtain rfl := List.mem_singleton.1 hw
          rw [sinceWait_poll, polls_poll_self, hunseen _ List.mem_cons_self]
          exact ⟨rfl, List.mem_cons_self⟩

/-- With the last of them, all have been polled, and the loop starts anew after the wait. -/
theorem Tracks.wait (h : Tracks r₀ history nvisited r) (hindex : r.next_parallel_reader < r.nreaders)
    (hall : r.nreaders ≤ nvisited + 1) :
    Allowed r₀ (history ++ [.poll r.worker .nothing]) (.wait r.active) ∧
      Tracks r₀ (history ++ [.poll r.worker .nothing] ++ [.wait r.active]) 0 r.poll.advance := by
  have hlive : ∀ w, w ∈ r.active ↔
      w ∈ r₀.active ∧ .poll w .readerdone ∉ history ++ [.poll r.worker .nothing] := by
    intro w
    rw [List.mem_append, not_or]
    exact (h.live w).trans (and_congr_right fun _ => (and_iff_left (by simp)).symm)
  refine ⟨⟨hlive, fun w hw => ?_⟩, h.poll.advance, fun w => ?_, ?_⟩
  · obtain ⟨rest, hrest, -⟩ := TableReader.exists_upcoming_eq h.bound hindex
    obtain ⟨unseen, seen, horder, hcount, hunseen, hseen⟩ := h.order
    have hlength : unseen.length + seen.length = r.nreaders := by
      rw [← TableReader.length_active h.bound, ← TableReader.length_upcoming, horder, List.length_append]
    rw [sinceWait_poll]
    rw [← TableReader.mem_upcoming, horder] at hw
    -- All but the one that has just been polled have been seen.
    rcases List.mem_append.1 hw with hw | hw
    · cases unseen with
      | nil => cases hw
      | cons v unseen =>
        obtain rfl : unseen = [] := List.length_eq_zero_iff.1 (by rw [List.length_cons] at hlength; omega)
        rw [hrest, List.cons_append, List.cons_eq_cons] at horder
        rw [List.mem_singleton.1 hw, ← horder.1]
        exact List.mem_cons_self
    · exact List.mem_cons_of_mem _ (hseen w hw).2
  · rw [List.mem_append, not_or]
    exact (hlive w).trans (and_congr_right fun _ => (and_iff_left (by simp)).symm)
  · refine ⟨r.poll.advance.upcoming, [], (List.append_nil _).symm, (Nat.zero_min _).symm, ?_, ?_⟩
    · intro w _
      rw [sinceWait_wait, polls_nil]
    · exact fun w hw => absurd hw List.not_mem_nil

/-- The events of a call are allowed. -/
theorem Tracks.events (h : Tracks r₀ history nvisited r) (answers : List Found) :
    StepsOk (fun history e => history ++ [e]) (Allowed r₀) history (events answers nvisited r) := by
  induction answers generalizing history nvisited r with
  | nil => trivial
  | cons found answers ih =>
    unfold Scan.events
    split
    · rename_i hindex
      refine ⟨h.polls_worker hindex, ?_⟩
      cases found with
      | tuple => trivial
      | readerdone =>
        by_cases hzero : r.poll.drop.nreaders = 0
        · rw [round, if_pos hzero]
          trivial
        · rw [round, if_neg hzero]
          exact ih (h.readerdone hindex)
      | nothing =>
        by_cases hall : nvisited + 1 ≥ r.nreaders
        · rw [round, if_pos hall]
          obtain ⟨hwait, hrest⟩ := h.wait hindex hall
          exact ⟨hwait, ih hrest⟩
        · rw [round, if_neg hall]
          exact ih (h.nothing hindex (Nat.not_le.1 hall))
    · trivial

/-! ## The readers that calls find -/

/-- A call leaves the reader ready for the next one. -/
theorem TableReader.Ready.call {timing : List Bool} {o : Answer τ} (h : r.Ready)
    (hcall : GetNextWorkerTuple timing nvisited r = (o, r')) : r'.Ready := by
  induction timing generalizing nvisited r with
  | nil =>
    unfold GetNextWorkerTuple at hcall
    split at hcall <;> cases hcall <;> exact h
  | cons visible timing ih =>
    unfold GetNextWorkerTuple at hcall
    split at hcall
    · rename_i hindex
      split at hcall
      · split at hcall
        · cases hcall
          exact h.poll.drop hindex
        · exact ih (h.poll.drop hindex) hcall
      · cases hcall
        exact ⟨h.bound, h.index, h.nodup⟩
      · exact ih h.poll.advance hcall
    · cases hcall
      exact h

/-- Any calls keep the reader ready. -/
theorem TableReader.Ready.callAll {calls : List (List Bool)} (h : r.Ready) : (callAll calls r).2.Ready := by
  induction calls generalizing r with
  | nil => exact h
  | cons timing calls ih =>
    cases hcall : GetNextWorkerTuple timing 0 r with
    | mk o r₁ =>
      have hready := h.call hcall
      cases o with
      | waiting =>
        simp only [Scan.callAll, hcall]
        exact hready
      | returned minimal_tuple =>
        simp only [Scan.callAll, hcall]
        exact ih hready

/-- A reader is ready at its start. -/
theorem TableReader.ready_init (streams : List (List τ)) (leader : List τ) :
    (init streams leader).Ready where
  bound := (init_wf streams leader).bound
  index := (init_wf streams leader).index
  nodup := List.nodup_range.sublist (List.take_sublist _ _)

end

/-- Whatever the polls of a call answer, and after whatever calls before it: when it waits, each queue still
in use has been polled without a result since the call started or waited last, and each poll of a queue is
the first one or the second one since. -/
theorem waits_after_round {τ : Type} (streams : List (List τ)) (leader : List τ) (calls : List (List Bool))
    (answers : List Found) :
    let r := (callAll calls (TableReader.init streams leader)).2
    (∀ before live after, events answers 0 r = before ++ .wait live :: after →
      (∀ w, w ∈ live ↔ w ∈ r.active ∧ .poll w .readerdone ∉ before) ∧
        ∀ w ∈ live, .poll w .nothing ∈ sinceWait before) ∧
    ∀ before w found after, events answers 0 r = before ++ .poll w found :: after →
      polls w (sinceWait (before ++ [.poll w found])) ≤ 2 := by
  intro r
  have hready : r.Ready := (TableReader.ready_init streams leader).callAll
  have hallowed := hready.tracks.events answers
  have hhistory : ∀ before : List Event, before.foldl (fun history e => history ++ [e]) [] = before := by
    intro before
    rw [List.foldl_append_eq_append, List.nil_append, ← List.flatMap_def, List.flatMap_singleton']
  refine ⟨fun before live after heq => ?_, fun before w found after heq => ?_⟩
  · rw [heq] at hallowed
    have hwait := hallowed.at
    rw [hhistory] at hwait
    exact hwait
  · rw [heq] at hallowed
    have hpoll := hallowed.at
    rw [hhistory] at hpoll
    rw [sinceWait_poll, polls_poll_self]
    exact Nat.succ_le_succ hpoll

end PgDuckdb.Scan
