import Mathlib.Data.List.Induction

/-!
# Runs with a history

A system whose steps may fail, each of which may add an event to a history. What is said of such a
history is said with `Since`: an event of one kind stands in it, and none of another kind after that one.
`Recorded.emitted` takes an event of the history back to the step that added it, so that an invariant of
the steps becomes a statement about every history.
-/

namespace PgDuckdb.Lib

/-! ## Since -/

section
variable {ε : Type} {start : List ε → ε → Prop} {stop : ε → Prop}

/-- An event of the history starts something, in view of the events before it, and none after it stops it. -/
def Since (start : List ε → ε → Prop) (stop : ε → Prop) (log : List ε) : Prop :=
  ∃ before e after, log = before ++ e :: after ∧ start before e ∧ ∀ x ∈ after, ¬ stop x

/-- Nothing has happened since the start. -/
theorem not_since_nil : ¬ Since start stop ([] : List ε) := by
  rintro ⟨before, e, after, h, -⟩
  exact absurd h.symm (List.append_ne_nil_of_right_ne_nil before (List.cons_ne_nil e after))

/-- After one more event it goes on unless that event stops it, or it starts there. -/
theorem since_append {log : List ε} {e : ε} :
    Since start stop (log ++ [e]) ↔ start log e ∨ (Since start stop log ∧ ¬ stop e) := by
  constructor
  · rintro ⟨before, e', after, hlog, hstart, hafter⟩
    cases after using List.reverseRecOn with
    | nil =>
      obtain ⟨rfl, he⟩ := List.append_inj' hlog rfl
      cases he
      exact .inl hstart
    | append_singleton after x =>
      rw [← List.cons_append, ← List.append_assoc] at hlog
      obtain ⟨rfl, he⟩ := List.append_inj' hlog rfl
      cases he
      refine .inr ⟨⟨before, e', after, rfl, hstart, fun y hy => hafter y ?_⟩, hafter e ?_⟩
      · exact List.mem_append_left _ hy
      · exact List.mem_append_right _ List.mem_cons_self
  · rintro (hstart | ⟨⟨before, e', after, rfl, hstart, hafter⟩, hstop⟩)
    · exact ⟨log, e, [], rfl, hstart, fun x hx => by cases hx⟩
    · refine ⟨before, e', after ++ [e], ?_, hstart, ?_⟩
      · rw [List.append_assoc, List.cons_append]
      · intro x hx
        rcases List.mem_append.1 hx with hx | hx
        · exact hafter x hx
        · cases List.mem_singleton.1 hx
          exact hstop

end

/-! ## Histories -/

/-- A state with what has happened on the way to it. -/
structure Recorded (σ ε : Type) where
  state : σ
  log : List ε

section
variable {σ ι ε : Type} (step : σ → ι → Option σ) (event : σ → ι → Option ε)

/-- A step of a system, with its event. -/
def Recorded.next (r : Recorded σ ε) (i : ι) : Option (Recorded σ ε) :=
  (step r.state i).map fun s => ⟨s, r.log ++ (event r.state i).toList⟩

variable {step event}

/-- A step is taken just when the system takes it. -/
theorem Recorded.next_eq_some {r r' : Recorded σ ε} {i : ι} :
    r.next step event i = some r' ↔
      step r.state i = some r'.state ∧ r'.log = r.log ++ (event r.state i).toList := by
  unfold Recorded.next
  cases step r.state i with
  | none => simp
  | some s =>
    obtain ⟨s', log'⟩ := r'
    simp [eq_comm]

/-- A run keeps the history of the state it starts from. -/
theorem Recorded.log_extends {r r' : Recorded σ ε} {is : List ι}
    (h : is.foldlM (Recorded.next step event) r = some r') : ∃ added, r'.log = r.log ++ added := by
  induction is generalizing r with
  | nil =>
    cases h
    exact ⟨[], (List.append_nil _).symm⟩
  | cons i is ih =>
    rw [List.foldlM_cons] at h
    obtain ⟨r₁, hi, hrun⟩ := Option.bind_eq_some_iff.1 h
    obtain ⟨added, hadded⟩ := ih hrun
    refine ⟨(event r.state i).toList ++ added, ?_⟩
    rw [hadded, (Recorded.next_eq_some.1 hi).2, List.append_assoc]

/-- An event of the history was added by a step of the run, and what stands before it is the history of
the state in which that step was taken. -/
theorem Recorded.emitted {r r' : Recorded σ ε} {is : List ι} {before after : List ε} {e : ε}
    (h : is.foldlM (Recorded.next step event) r = some r') (hlog : r'.log = before ++ e :: after)
    (hnew : r.log.length ≤ before.length) :
    ∃ (js : List ι) (i : ι) (s s' : σ), js.foldlM (Recorded.next step event) r = some ⟨s, before⟩ ∧
      step s i = some s' ∧ event s i = some e := by
  induction is generalizing r with
  | nil =>
    cases h
    rw [hlog, List.length_append, List.length_cons] at hnew
    omega
  | cons i is ih =>
    rw [List.foldlM_cons] at h
    obtain ⟨r₁, hi, hrun⟩ := Option.bind_eq_some_iff.1 h
    have hr₁ := (Recorded.next_eq_some.1 hi).2
    by_cases hlen : r₁.log.length ≤ before.length
    · obtain ⟨js, j, s, s', hjs, hs', hj⟩ := ih hrun hlen
      refine ⟨i :: js, j, s, s', ?_, hs', hj⟩
      rw [List.foldlM_cons, hi]
      exact hjs
    · -- The step of `i` is the one that added the event.
      obtain ⟨added, hadded⟩ := Recorded.log_extends hrun
      cases hev : event r.state i with
      | none =>
        rw [hev] at hr₁
        simp [hr₁] at hlen
        omega
      | some e' =>
        rw [hev] at hr₁
        have hr₁' : r₁.log = r.log ++ [e'] := hr₁
        have hlen' : before.length = r.log.length := by
          rw [hr₁', List.length_append] at hlen
          simp only [List.length_singleton] at hlen
          omega
        rw [hlog, hr₁', List.append_assoc] at hadded
        obtain ⟨hbefore, he⟩ := List.append_inj hadded hlen'
        cases he
        refine ⟨[], i, r.state, r₁.state, ?_, (Recorded.next_eq_some.1 hi).1, hev⟩
        rw [hbefore]
        rfl

end

end PgDuckdb.Lib
