import PgDuckdb.Worker.SessionHint

/-!
# The exit hook of the session hint

A backend that claims the hint registers `UnclaimBgwSessionHint` to run when it exits, and a variable is
there to see to it that it does so once (`set_up_unclaim_session_hint_hook`). Nothing sets the variable.
A backend that holds the hint claims no other, so the hook is registered again only when DuckDB has been
reset in between (`DuckDBManager::Reset`) and the hint is there to be claimed again: `hookOnce_iff`.

The slots for such hooks are few, and every round of a claim and a reset takes one
(`hooks_of_rounds`).
-/

namespace PgDuckdb.SessionHint

open Lib (StepsOk)

section
variable (bgw_session_hint : String)

/-- As the variable is never set, a claim is a claim and a hook. -/
theorem PossiblyReuse_eq {v : View} (h : v.process.set_up_unclaim_session_hint_hook = false) :
    (PossiblyReuseBgwSessionHint false bgw_session_hint v).2 =
      if v.process.reused_bgw_session_hint = false ∧ v.entry = some ⟨false⟩ then
        { process := { v.process with
            reused_bgw_session_hint := true, exitHooks := v.process.exitHooks + 1 }
          entry := some ⟨true⟩ }
      else v := by
  obtain ⟨⟨reused, hook, hooks⟩, entry⟩ := v
  obtain rfl : hook = false := h
  cases reused with
  | true => simp [PossiblyReuseBgwSessionHint]
  | false =>
    cases entry with
    | none => simp [PossiblyReuseBgwSessionHint, View.claim]
    | some state =>
      obtain ⟨flag⟩ := state
      cases flag <;> simp [PossiblyReuseBgwSessionHint, View.claim]

end

/-! ## Runs with a memory -/

section
variable {β : Type} [DecidableEq β]

/-- A state, and which backends have given up a hint since they started. -/
structure Watched (β : Type) where
  state : State β
  gaveUp : β → Bool

/-- Nothing is watched yet. -/
def Watched.initial : Watched β := ⟨.initial, fun _ => false⟩

variable (bgw_session_hint : String)

/-- A step, with what it says about who has given up a hint. -/
def Watched.step (w : Watched β) (a : Action β) : Watched β where
  state := SessionHint.step bgw_session_hint w.state a
  gaveUp :=
    match a with
    | .unclaim p =>
      Function.update w.gaveUp p (w.gaveUp p || (w.state.backends p).reused_bgw_session_hint)
    | .exit p => Function.update w.gaveUp p false
    | _ => w.gaveUp

/-- How often `before_shmem_exit` has been called in the backend. -/
def State.hooks (s : State β) (p : β) : Nat := (s.backends p).exitHooks

/-- In this step the backend asks for a hint, holds none, and finds the hint free. -/
structure Claims (s : State β) (a : Action β) (p : β) : Prop where
  asks : a = .possiblyReuse p
  holds : ¬ s.Holds p
  free : s.entry = some ⟨false⟩

/-- A backend that has given up a hint does not find one to claim. -/
def FindsNoOther (w : Watched β) (a : Action β) : Prop := ∀ p, w.gaveUp p = true → ¬ Claims w.state a p

/-- A backend has a hook if and only if it holds the hint or has given one up. -/
structure Watched.Hooked (w : Watched β) : Prop where
  unset : ∀ p, (w.state.backends p).set_up_unclaim_session_hint_hook = false
  hooked : ∀ p, 0 < w.state.hooks p ↔ w.state.Holds p ∨ w.gaveUp p = true

omit [DecidableEq β] in
/-- Nobody has a hook at the start, holds the hint or has given one up. -/
theorem hooked_initial : (Watched.initial : Watched β).Hooked where
  unset _ := rfl
  hooked _ := by simp [Watched.initial, State.initial, State.hooks, State.Holds, Process.initial]

/-- A step of one backend keeps what holds of the others. -/
theorem Watched.Hooked.run {w : Watched β} (h : w.Hooked) (p : β) (f : View → View) (gaveUp : Bool)
    (hunset : (f ⟨w.state.backends p, w.state.entry⟩).process.set_up_unclaim_session_hint_hook = false)
    (hhooked : 0 < (f ⟨w.state.backends p, w.state.entry⟩).process.exitHooks ↔
      (f ⟨w.state.backends p, w.state.entry⟩).process.reused_bgw_session_hint = true ∨ gaveUp = true) :
    Watched.Hooked ⟨w.state.run p f, Function.update w.gaveUp p gaveUp⟩ where
  unset q := by
    by_cases hq : q = p
    · subst hq
      simpa [State.run] using hunset
    · simpa [State.run, hq] using h.unset q
  hooked q := by
    by_cases hq : q = p
    · subst hq
      simpa [State.run, State.hooks, State.Holds] using hhooked
    · simpa [State.run, State.hooks, State.Holds, hq] using h.hooked q

/-- Every step keeps the invariant. -/
theorem Watched.Hooked.step {w : Watched β} (h : w.Hooked) (a : Action β) :
    (w.step bgw_session_hint a).Hooked := by
  cases a with
  | possiblyReuse p =>
    have hrun := h.run p (fun v => (PossiblyReuseBgwSessionHint false bgw_session_hint v).2) (w.gaveUp p)
    rw [Function.update_eq_self, PossiblyReuse_eq bgw_session_hint (h.unset p)] at hrun
    have hp := h.hooked p
    refine hrun ?_ ?_ <;> split
    · exact h.unset p
    · exact h.unset p
    · simp
    · exact hp
  | unclaim p =>
    refine h.run p UnclaimBgwSessionHint _ ?_ ?_ <;> unfold UnclaimBgwSessionHint <;> split
    · exact h.unset p
    · exact h.unset p
    · rename_i hfree
      have hreused : (w.state.backends p).reused_bgw_session_hint = false := hfree
      have hp := h.hooked p
      simp only [State.hooks, State.Holds, hreused, Bool.false_eq_true, false_or] at hp
      simpa [hreused] using hp
    · rename_i hheld
      have hreused : (w.state.backends p).reused_bgw_session_hint = true := by simpa using hheld
      have hp : 0 < (w.state.backends p).exitHooks := (h.hooked p).2 (.inl hreused)
      simpa [hreused] using hp
  | exit p => exact h.run p View.exit false rfl (by simp [View.exit, Process.initial])
  | workerStart => exact ⟨h.unset, h.hooked⟩
  | workerReuse => exact ⟨h.unset, h.hooked⟩
  | workerUnclaim => exact ⟨h.unset, h.hooked⟩
  | workerExit => exact ⟨h.unset, h.hooked⟩

/-- The hooks of the other backends. -/
theorem hooks_run_of_ne (s : State β) {p q : β} (h : p ≠ q) (f : View → View) :
    (s.run q f).hooks p = s.hooks p := by
  simp [State.run, State.hooks, h]

/-- The hooks of the backend that ran. -/
theorem hooks_run_self (s : State β) (p : β) (f : View → View) :
    (s.run p f).hooks p = (f ⟨s.backends p, s.entry⟩).process.exitHooks := by
  simp [State.run, State.hooks]

/-- A claim adds a hook. -/
theorem Claims.hooks_step {s : State β} {a : Action β} {p : β} (h : Claims s a p)
    (hunset : (s.backends p).set_up_unclaim_session_hint_hook = false) :
    (step bgw_session_hint s a).hooks p = s.hooks p + 1 := by
  obtain ⟨rfl, hheld, hfree⟩ := h
  have hreused : (s.backends p).reused_bgw_session_hint = false := by simpa [State.Holds] using hheld
  rw [step, hooks_run_self, PossiblyReuse_eq bgw_session_hint (by exact hunset), if_pos ⟨hreused, hfree⟩]
  rfl

/-- Nothing else does. -/
theorem hooks_step_le {s : State β} {a : Action β} {p : β} (h : ¬ Claims s a p)
    (hunset : (s.backends p).set_up_unclaim_session_hint_hook = false) :
    (step bgw_session_hint s a).hooks p ≤ s.hooks p := by
  cases a with
  | possiblyReuse q =>
    by_cases hq : p = q
    · subst hq
      have hnone : ¬ ((s.backends p).reused_bgw_session_hint = false ∧ s.entry = some ⟨false⟩) :=
        fun hclaim => h ⟨rfl, by simp [State.Holds, hclaim.1], hclaim.2⟩
      rw [step, hooks_run_self, PossiblyReuse_eq bgw_session_hint (by exact hunset), if_neg hnone]
      exact Nat.le_refl _
    · have hsame : (step bgw_session_hint s (.possiblyReuse q)).hooks p = s.hooks p := by
        rw [step, hooks_run_of_ne s hq]
      exact Nat.le_of_eq hsame
  | unclaim q =>
    by_cases hq : p = q
    · subst hq
      rw [step, hooks_run_self]
      unfold UnclaimBgwSessionHint
      split <;> exact Nat.le_refl _
    · exact Nat.le_of_eq (hooks_run_of_ne s hq _)
  | exit q =>
    by_cases hq : p = q
    · subst hq
      rw [step, hooks_run_self]
      exact Nat.zero_le _
    · exact Nat.le_of_eq (hooks_run_of_ne s hq _)
  | workerStart => exact Nat.le_refl _
  | workerReuse => exact Nat.le_refl _
  | workerUnclaim => exact Nat.le_refl _
  | workerExit => exact Nat.le_refl _

/-! ## One hook -/

/-- In every run of any number of backends and of the worker, no backend has called `before_shmem_exit`
twice after any step, if and only if no backend that has given up the hint finds it free when it asks
again. -/
theorem hookOnce_iff (actions : List (Action β)) :
    StepsOk (Watched.step bgw_session_hint)
        (fun w a => ∀ p, (w.step bgw_session_hint a).state.hooks p ≤ 1) .initial actions ↔
      StepsOk (Watched.step bgw_session_hint) FindsNoOther .initial actions := by
  constructor
  · intro h
    refine h.imp (I := Watched.Hooked) hooked_initial
      (fun w a hw _ => hw.step bgw_session_hint a) fun w a hw hok p hgave hclaims => ?_
    have hone := hok p
    have hsome := (hw.hooked p).2 (.inr hgave)
    have hmore := hclaims.hooks_step bgw_session_hint (hw.unset p)
    change (step bgw_session_hint w.state a).hooks p ≤ 1 at hone
    omega
  · intro h
    have hkeeps (w : Watched β) (a : Action β) (hw : w.Hooked) (hone : ∀ p, w.state.hooks p ≤ 1)
        (ha : FindsNoOther w a) (p : β) : (step bgw_session_hint w.state a).hooks p ≤ 1 := by
      by_cases hclaims : Claims w.state a p
      · -- It neither holds the hint nor has given one up, so this is its first hook.
        have hnone : ¬ 0 < w.state.hooks p := fun hp =>
          ((hw.hooked p).1 hp).elim hclaims.holds fun hgave => ha p hgave hclaims
        have hmore := hclaims.hooks_step bgw_session_hint (hw.unset p)
        omega
      · exact Nat.le_trans (hooks_step_le bgw_session_hint hclaims (hw.unset p)) (hone p)
    refine h.imp (I := fun w => w.Hooked ∧ ∀ p, w.state.hooks p ≤ 1)
      ⟨hooked_initial, fun _ => Nat.zero_le 1⟩
      (fun w a hw ha => ⟨hw.1.step bgw_session_hint a, hkeeps w a hw.1 hw.2 ha⟩)
      fun w a hw ha => hkeeps w a hw.1 hw.2 ha

end

/-- A backend claims the hint, resets DuckDB, and claims the hint again. -/
theorem not_hookOnce :
    ¬ ∀ (bgw_session_hint : String) (actions : List (Action Nat)) (p : Nat),
      (actions.foldl (step bgw_session_hint) State.initial).hooks p ≤ 1 := by
  intro h
  exact absurd (h "0f8fad5b-d9cb-469f-a165-70867728950e"
    [.workerStart, .possiblyReuse 1, .unclaim 1, .possiblyReuse 1] 1) (by decide)

/-- Every round of a claim and a reset takes another slot. -/
theorem hooks_of_rounds {β : Type} [DecidableEq β] (bgw_session_hint : String) (p : β) (n : Nat) :
    ((fun s => [Action.possiblyReuse p, .unclaim p].foldl (step bgw_session_hint) s)^[n]
      (step bgw_session_hint State.initial .workerStart)).hooks p = n := by
  suffices h : ∀ s : State β, s.backends p = { Process.initial with exitHooks := s.hooks p } →
      s.entry = some ⟨false⟩ →
      ((fun s => [Action.possiblyReuse p, .unclaim p].foldl (step bgw_session_hint) s)^[n] s).hooks p =
        s.hooks p + n by
    rw [h _ rfl rfl]
    exact Nat.zero_add n
  induction n with
  | zero => exact fun _ _ _ => rfl
  | succ n ih =>
    intro s hbackend hentry
    rw [Function.iterate_succ_apply]
    have hround : ([Action.possiblyReuse p, .unclaim p].foldl (step bgw_session_hint) s).backends p =
          { Process.initial with exitHooks := s.hooks p + 1 } ∧
        ([Action.possiblyReuse p, .unclaim p].foldl (step bgw_session_hint) s).entry = some ⟨false⟩ := by
      simp [step, State.run, hbackend, hentry, PossiblyReuse_eq, UnclaimBgwSessionHint, Process.initial]
    have hhooks : ([Action.possiblyReuse p, .unclaim p].foldl (step bgw_session_hint) s).hooks p =
        s.hooks p + 1 := by rw [State.hooks, hround.1]
    rw [ih _ (by rw [hround.1, hhooks]) hround.2, hhooks]
    omega

end PgDuckdb.SessionHint
