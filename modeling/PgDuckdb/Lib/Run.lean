import Mathlib.Data.List.Basic

/-!
# Guarded runs

A system that takes one step after another, each step subject to a condition on the state it is
taken in. `StepsOk` says that a list of steps meets the condition all along, and
`StepsOk.invariant` is the rule that carries a property through such a run.
-/

namespace PgDuckdb.Lib

section
variable {σ ι : Type} {step : σ → ι → σ} {ok : σ → ι → Prop}

/-- A list of steps, each meeting the condition in the state it is taken in. -/
def StepsOk (step : σ → ι → σ) (ok : σ → ι → Prop) : σ → List ι → Prop
  | _, [] => True
  | s, i :: is => ok s i ∧ StepsOk step ok (step s i) is

/-- One list of steps after another. -/
theorem stepsOk_append {s : σ} {is js : List ι} :
    StepsOk step ok s (is ++ js) ↔ StepsOk step ok s is ∧ StepsOk step ok (is.foldl step s) js := by
  induction is generalizing s with
  | nil => exact (and_iff_right trivial).symm
  | cons i is ih => exact (and_congr_right' ih).trans and_assoc.symm

/-- A property of the first state that every guarded step keeps holds at the end of the run. -/
theorem StepsOk.invariant {I : σ → Prop} {s : σ} {is : List ι} (h : StepsOk step ok s is)
    (h₀ : I s) (hstep : ∀ s i, I s → ok s i → I (step s i)) : I (is.foldl step s) := by
  induction is generalizing s with
  | nil => exact h₀
  | cons i is ih => exact ih h.2 (hstep s i h₀ h.1)

/-- Each step of a guarded run meets the condition in the state that the steps before it lead to. -/
theorem StepsOk.at {s : σ} {before after : List ι} {i : ι} (h : StepsOk step ok s (before ++ i :: after)) :
    ok (before.foldl step s) i := by
  induction before generalizing s with
  | nil => exact h.1
  | cons j before ih => exact ih h.2

/-- Along a guarded run whose steps keep an invariant, every step meets what the invariant and
the condition give together. -/
theorem StepsOk.imp {ok' : σ → ι → Prop} {I : σ → Prop} {s : σ} {is : List ι}
    (h : StepsOk step ok s is) (h₀ : I s) (hstep : ∀ s i, I s → ok s i → I (step s i))
    (himp : ∀ s i, I s → ok s i → ok' s i) : StepsOk step ok' s is := by
  induction is generalizing s with
  | nil => trivial
  | cons i is ih => exact ⟨himp s i h₀ h.1, ih h.2 (hstep s i h₀ h.1)⟩

/-- Where a step keeps a property exactly if it meets the condition, the property holds all along a run exactly if
every step does. -/
theorem StepsOk.iff_invariant {I : σ → Prop} {s : σ} {is : List ι} (h₀ : I s)
    (hstep : ∀ s i, I s → (I (step s i) ↔ ok s i)) :
    StepsOk step ok s is ↔ ∀ before, before <+: is → I (before.foldl step s) := by
  constructor
  · intro h before hbefore
    obtain ⟨after, rfl⟩ := hbefore
    have hok : StepsOk step ok s before := by
      clear h₀
      induction before generalizing s with
      | nil => trivial
      | cons i before ih => exact ⟨h.1, ih h.2⟩
    exact hok.invariant h₀ fun s i hI hi => (hstep s i hI).2 hi
  · intro h
    induction is generalizing s with
    | nil => trivial
    | cons i is ih =>
      have hi : I (step s i) := h [i] ⟨is, rfl⟩
      refine ⟨(hstep s i h₀).1 hi, ih hi fun before hbefore => ?_⟩
      exact h (i :: before) (List.cons_prefix_cons.2 ⟨rfl, hbefore⟩)

end

/-! ## Steps that may fail -/

section
variable {σ ι : Type} {step : σ → ι → Option σ} {ok : σ → ι → Prop}

/-- A list of steps that may fail, each meeting the condition in the state it is taken in, as far
as the steps before it succeed. -/
def AllowedRun (step : σ → ι → Option σ) (ok : σ → ι → Prop) : σ → List ι → Prop
  | _, [] => True
  | s, i :: is => ok s i ∧ ∀ s', step s i = some s' → AllowedRun step ok s' is

/-- Whether a run is allowed is decidable. -/
instance AllowedRun.decidable [∀ s i, Decidable (ok s i)] :
    (s : σ) → (is : List ι) → Decidable (AllowedRun step ok s is)
  | _, [] => inferInstanceAs (Decidable True)
  | s, i :: is =>
    have : Decidable (∀ s', step s i = some s' → AllowedRun step ok s' is) :=
      match step s i with
      | none => .isTrue nofun
      | some s₁ =>
        have := AllowedRun.decidable s₁ is
        decidable_of_iff (AllowedRun step ok s₁ is)
          ⟨fun h _ hs => Option.some.inj hs ▸ h, fun h => h s₁ rfl⟩
    inferInstanceAs (Decidable (ok s i ∧ _))

/-- Every run is allowed by no condition. -/
theorem AllowedRun.of_true (s : σ) (is : List ι) : AllowedRun step (fun _ _ => True) s is := by
  induction is generalizing s with
  | nil => trivial
  | cons i is ih => exact ⟨trivial, fun s' _ => ih s'⟩

/-- Along an allowed run whose steps keep an invariant, every step meets what the invariant and the
condition give together. -/
theorem AllowedRun.imp {ok' : σ → ι → Prop} {I : σ → Prop} {s : σ} {is : List ι}
    (h : AllowedRun step ok s is) (h₀ : I s)
    (hstep : ∀ s i s', I s → ok s i → step s i = some s' → I s')
    (himp : ∀ s i, I s → ok s i → ok' s i) : AllowedRun step ok' s is := by
  induction is generalizing s with
  | nil => trivial
  | cons i is ih =>
    exact ⟨himp s i h₀ h.1, fun s₁ hi => ih (h.2 s₁ hi) (hstep s i s₁ h₀ h.1 hi)⟩

/-- A property of the first state that every allowed step keeps holds at the end of a run that
succeeds. -/
theorem AllowedRun.invariant {I : σ → Prop} {s s' : σ} {is : List ι}
    (h : AllowedRun step ok s is) (h₀ : I s)
    (hstep : ∀ s i s', I s → ok s i → step s i = some s' → I s')
    (hrun : is.foldlM step s = some s') : I s' := by
  induction is generalizing s with
  | nil =>
    cases hrun
    exact h₀
  | cons i is ih =>
    rw [List.foldlM_cons] at hrun
    cases hi : step s i with
    | none =>
      rw [hi] at hrun
      cases hrun
    | some s₁ =>
      rw [hi] at hrun
      exact ih (h.2 s₁ hi) (hstep s i s₁ h₀ h.1 hi) hrun

/-- A run succeeds where an invariant lets every step succeed. -/
theorem run_succeeds {I : σ → Prop} {s : σ} (is : List ι) (h₀ : I s)
    (hstep : ∀ s i, I s → ∃ s', step s i = some s' ∧ I s') : ∃ s', is.foldlM step s = some s' ∧ I s' := by
  induction is generalizing s with
  | nil => exact ⟨s, rfl, h₀⟩
  | cons i is ih =>
    obtain ⟨s₁, hi, h₁⟩ := hstep s i h₀
    rw [List.foldlM_cons, hi]
    exact ih h₁

end

end PgDuckdb.Lib
