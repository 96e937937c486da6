import Mathlib.Data.List.Basic

/-!
# Postconditions of programs

Programs with a state that may throw, as `EStateM`. `Ensures p s Q E` says what holds after `p` has
run in the state `s`: `Q` of its result and state if it returns, `E` of its state if it throws. There is
one rule for each way to put programs together, and one for the loop over a list, with an invariant
that may speak of the elements done so far. `Keeps` is for what holds all along, `Frame` for what
stays as it is, and `Ends` for what is thrown as well.
-/

namespace PgDuckdb.Lib

section
variable {ε σ α β : Type}

/-- After `p` in `s`: `Q` if it returns, `E` if it throws. -/
def Ensures (p : EStateM ε σ α) (s : σ) (Q : α → σ → Prop) (E : σ → Prop) : Prop :=
  match p.run s with
  | .ok a s' => Q a s'
  | .error _ s' => E s'

variable {p : EStateM ε σ α} {q : α → EStateM ε σ β} {s : σ} {E : σ → Prop}

/-- A value that is returned. -/
theorem Ensures.pure {a : α} {Q : α → σ → Prop} (h : Q a s) :
    Ensures (pure a : EStateM ε σ α) s Q E := h

/-- One program after the other. -/
theorem Ensures.bind {Q : β → σ → Prop} (h : Ensures p s (fun a s' => Ensures (q a) s' Q E) E) :
    Ensures (p >>= q) s Q E := by
  unfold Ensures at h ⊢
  rw [EStateM.run_bind]
  cases hp : p.run s with
  | ok a s' =>
    rw [hp] at h
    exact h
  | error e s' =>
    rw [hp] at h
    exact h

/-- What is ensured may be weakened. -/
theorem Ensures.mono {Q Q' : α → σ → Prop} {E' : σ → Prop} (h : Ensures p s Q E)
    (hQ : ∀ a s', Q a s' → Q' a s') (hE : ∀ s', E s' → E' s') : Ensures p s Q' E' := by
  unfold Ensures at h ⊢
  cases hp : p.run s with
  | ok a s' =>
    rw [hp] at h
    exact hQ a s' h
  | error e s' =>
    rw [hp] at h
    exact hE s' h

/-- One program after another, through what the first one ensures. -/
theorem Ensures.seq {R : α → σ → Prop} {Q : β → σ → Prop} (h : Ensures p s R E)
    (hq : ∀ a s', R a s' → Ensures (q a) s' Q E) : Ensures (p >>= q) s Q E :=
  .bind (h.mono hq fun _ h => h)

/-- The same, where the second program may rely on how the first one ran. -/
theorem Ensures.seq_run {R : α → σ → Prop} {Q : β → σ → Prop} (h : Ensures p s R E)
    (hq : ∀ a s', p.run s = .ok a s' → R a s' → Ensures (q a) s' Q E) : Ensures (p >>= q) s Q E := by
  refine .bind ?_
  unfold Ensures at h ⊢
  cases hp : p.run s with
  | ok a s' =>
    rw [hp] at h
    exact hq a s' hp h
  | error e s' =>
    rw [hp] at h
    exact h

/-- What does not depend on the run. -/
theorem Ensures.const {Q : α → Prop} (h : ∀ a, Q a) : Ensures p s (fun a _ => Q a) fun _ => True := by
  unfold Ensures
  cases p.run s with
  | ok a s' => exact h a
  | error e s' => trivial

/-- A change of the state. -/
theorem Ensures.modify {f : σ → σ} {Q : PUnit → σ → Prop} (h : Q ⟨⟩ (f s)) :
    Ensures (modify f : EStateM ε σ PUnit) s Q E := h

/-- Reading the state. -/
theorem Ensures.get {Q : σ → σ → Prop} (h : Q s s) : Ensures (get : EStateM ε σ σ) s Q E := h

/-- A program that returns. -/
theorem Ensures.of_run {a : α} {s' : σ} {Q : α → σ → Prop} (h : p.run s = .ok a s') (hQ : Q a s') :
    Ensures p s Q E := by
  rw [Ensures, h]
  exact hQ

/-- What a program that returned ensures. -/
theorem Ensures.ok {Q : α → σ → Prop} {a : α} {s' : σ} (h : Ensures p s Q E)
    (hrun : p.run s = .ok a s') : Q a s' := by
  rw [Ensures, hrun] at h
  exact h

/-- Two postconditions of one run. -/
theorem Ensures.and {Q Q' : α → σ → Prop} {E' : σ → Prop} (h : Ensures p s Q E)
    (h' : Ensures p s Q' E') :
    Ensures p s (fun a s' => Q a s' ∧ Q' a s') fun s' => E s' ∧ E' s' := by
  unfold Ensures at h h' ⊢
  cases hp : p.run s with
  | ok a s' =>
    rw [hp] at h h'
    exact ⟨h, h'⟩
  | error e s' =>
    rw [hp] at h h'
    exact ⟨h, h'⟩

/-- Every run has an end. -/
theorem Ensures.elim {C : Prop} {Q : α → σ → Prop} (h : Ensures p s Q E) (hQ : ∀ a s', Q a s' → C)
    (hE : ∀ s', E s' → C) : C := by
  unfold Ensures at h
  cases hp : p.run s with
  | ok a s' =>
    rw [hp] at h
    exact hQ a s' h
  | error e s' =>
    rw [hp] at h
    exact hE s' h

/-- A program that does not throw. -/
theorem Ensures.returns {Q : α → σ → Prop} (h : Ensures p s Q fun _ => False) :
    ∃ a s', p.run s = .ok a s' ∧ Q a s' := by
  unfold Ensures at h
  cases hp : p.run s with
  | ok a s' =>
    rw [hp] at h
    exact ⟨a, s', rfl, h⟩
  | error e s' =>
    rw [hp] at h
    exact h.elim

/-- A program that keeps a property of the state, whether or not it throws. -/
def Keeps (p : EStateM ε σ α) (I : σ → Prop) : Prop := ∀ s, I s → Ensures p s (fun _ => I) I

/-- A value that is returned keeps every invariant. -/
theorem Keeps.pure {I : σ → Prop} (a : α) : Keeps (pure a : EStateM ε σ α) I := fun _ h => h

/-- An error keeps every invariant. -/
theorem Keeps.throw {I : σ → Prop} (e : ε) : Keeps (throw e : EStateM ε σ α) I := fun _ h => h

/-- A change keeps the invariants that it keeps. -/
theorem Keeps.modify {I : σ → Prop} {f : σ → σ} (h : ∀ s, I s → I (f s)) :
    Keeps (modify f : EStateM ε σ PUnit) I := h

/-- A program keeps an invariant that its parts keep. -/
theorem Keeps.bind {I : σ → Prop} (hp : Keeps p I) (hq : ∀ a, Keeps (q a) I) :
    Keeps (p >>= q) I := fun s h => Ensures.seq (hp s h) fun a s' => hq a s'

/-! ## Frames -/

variable {τ : Type} {f : σ → τ}

/-- A program that leaves `f` of the state as it is, whether or not it throws. -/
def Frame (f : σ → τ) (p : EStateM ε σ α) : Prop := ∀ x, Keeps p fun s => f s = x

/-- A frame from what every run ensures. -/
theorem Frame.intro (h : ∀ s, Ensures p s (fun _ s' => f s' = f s) fun s' => f s' = f s) : Frame f p := by
  rintro x s rfl
  exact h s

/-- What a frame says of a run that succeeds. -/
theorem Frame.ok (h : Frame f p) {a : α} {s' : σ} (hrun : p.run s = .ok a s') : f s' = f s :=
  (h (f s) s rfl).ok hrun

/-- A value that is returned leaves every part alone. -/
theorem Frame.pure (a : α) : Frame f (pure a : EStateM ε σ α) := fun _ => .pure a

/-- An error leaves every part alone. -/
theorem Frame.throw (e : ε) : Frame f (throw e : EStateM ε σ α) := fun _ => .throw e

/-- Reading leaves every part alone. -/
theorem Frame.get : Frame f (get : EStateM ε σ σ) := fun _ _ h => h

/-- A change leaves a part alone that it does not change. -/
theorem Frame.modify {g : σ → σ} (hg : ∀ s, f (g s) = f s) : Frame f (modify g : EStateM ε σ PUnit) :=
  fun _ => .modify fun s h => (hg s).trans h

/-- A sequence leaves what its parts leave. -/
theorem Frame.bind (hp : Frame f p) (hq : ∀ a, Frame f (q a)) : Frame f (p >>= q) :=
  fun x => (hp x).bind fun a => hq a x

/-- A choice leaves alone what both its branches do. -/
theorem Frame.ite {c : Prop} [Decidable c] {p' : EStateM ε σ α} (hp : Frame f p) (hp' : Frame f p') :
    Frame f (if c then p else p') := by
  split
  · exact hp
  · exact hp'

/-! ## Loops -/

/-- A loop whose rounds meet a condition, as far as the rounds before return. -/
def RoundsOk {γ : Type} (f : γ → EStateM ε σ PUnit) (ok : σ → γ → Prop) : σ → List γ → Prop
  | _, [] => True
  | s, x :: xs => ok s x ∧ ∀ s', (f x).run s = .ok ⟨⟩ s' → RoundsOk f ok s' xs

/-- The loop rule, with the condition of every round. -/
theorem RoundsOk.forM {γ : Type} {f : γ → EStateM ε σ PUnit} {ok : σ → γ → Prop}
    {I : List γ → List γ → σ → Prop} {xs done : List γ} (hok : RoundsOk f ok s xs)
    (h : I done xs s)
    (hstep : ∀ done x todo s, I done (x :: todo) s → ok s x →
      Ensures (f x) s (fun _ s' => I (done ++ [x]) todo s') E) :
    Ensures (xs.forM f) s (fun _ s' => I (done ++ xs) [] s') E := by
  induction xs generalizing done s with
  | nil =>
    rw [List.append_nil]
    exact h
  | cons x xs ih =>
    refine Ensures.seq_run (hstep done x xs s h hok.1) fun _ s' hrun hs' => ?_
    have hrest := ih (hok.2 s' hrun) hs'
    rw [List.append_assoc, List.singleton_append] at hrest
    exact hrest

/-- Nothing is asked of the rounds. -/
theorem RoundsOk.of_true {γ : Type} {f : γ → EStateM ε σ PUnit} (s : σ) (xs : List γ) :
    RoundsOk f (fun _ _ => True) s xs := by
  induction xs generalizing s with
  | nil => trivial
  | cons x xs ih => exact ⟨trivial, fun s' _ => ih s'⟩

/-- A loop over a list. The invariant is of the elements done, and of those to do. -/
theorem Ensures.forM {γ : Type} {f : γ → EStateM ε σ PUnit} {I : List γ → List γ → σ → Prop}
    {xs done : List γ} (h : I done xs s)
    (hstep : ∀ done x todo s, I done (x :: todo) s →
      Ensures (f x) s (fun _ s' => I (done ++ [x]) todo s') E) :
    Ensures (xs.forM f) s (fun _ s' => I (done ++ xs) [] s') E :=
  RoundsOk.forM (.of_true s xs) h fun done x todo s h _ => hstep done x todo s h

/-- A loop keeps an invariant that every round of it keeps. -/
theorem Keeps.forM {γ : Type} {f : γ → EStateM ε σ PUnit} {I : σ → Prop} {xs : List γ}
    (hf : ∀ x ∈ xs, Keeps (f x) I) : Keeps (xs.forM f) I := by
  induction xs with
  | nil => exact Keeps.pure _
  | cons x xs ih =>
    exact (hf x (List.mem_cons_self ..)).bind fun _ => ih fun y hy => hf y (List.mem_cons_of_mem _ hy)

/-- A loop with an invariant, in which a mark stays as long as the elements are as they should be. -/
theorem Ensures.forM_iff {γ : Type} {f : γ → EStateM ε σ PUnit} {I J : σ → Prop} {ok : γ → Prop}
    {xs : List γ} (h : I s)
    (hstep : ∀ x s, I s → Ensures (f x) s (fun _ s' => I s' ∧ (J s' ↔ J s ∧ ok x)) E) :
    Ensures (xs.forM f) s (fun _ s' => I s' ∧ (J s' ↔ J s ∧ ∀ x ∈ xs, ok x)) E := by
  induction xs generalizing s with
  | nil => exact Ensures.pure ⟨h, by simp⟩
  | cons x xs ih =>
    refine Ensures.seq (hstep x s h) fun _ s' hs' => ?_
    refine (ih hs'.1).mono (fun _ s'' hs'' => ⟨hs''.1, ?_⟩) fun _ h => h
    rw [hs''.2, hs'.2, List.forall_mem_cons, and_assoc]

/-- Two programs, each of which keeps a mark exactly if something holds before it. -/
theorem Ensures.seq_mark {J : σ → Prop} {A : Prop} {B : σ → Prop}
    (hp : Ensures p s (fun _ s' => J s' ↔ J s ∧ A) fun _ => ¬A)
    (hq : ∀ a s', Ensures (q a) s' (fun _ s'' => J s'' ↔ J s' ∧ B s') fun _ => ¬B s') :
    Ensures (p >>= q) s (fun _ s'' => J s'' ↔ J s ∧ A ∧ ∀ a s', p.run s = .ok a s' → B s')
      fun _ => ¬(A ∧ ∀ a s', p.run s = .ok a s' → B s') := by
  refine Ensures.seq_run (hp.mono (fun _ _ h => h) fun _ hnot h => hnot h.1) fun a s' hrun hs' => ?_
  have hB : (∀ a' s'', p.run s = .ok a' s'' → B s'') ↔ B s' := by
    refine ⟨fun h => h a s' hrun, fun h a' s'' hrun' => ?_⟩
    cases hrun.symm.trans hrun'
    exact h
  refine (hq a s').mono (fun _ s'' hs'' => ?_) fun _ hnot h => hnot (hB.1 h.2)
  rw [hs'', hs', hB, and_assoc]

/-- A loop keeps a mark exactly if every round meets its condition. -/
theorem RoundsOk.forM_iff {γ : Type} {f : γ → EStateM ε σ PUnit} {ok : σ → γ → Prop} {J : σ → Prop}
    {xs : List γ}
    (hstep : ∀ x s, Ensures (f x) s (fun _ s' => J s' ↔ J s ∧ ok s x) fun _ => ¬ok s x) :
    Ensures (xs.forM f) s (fun _ s' => J s' ↔ J s ∧ RoundsOk f ok s xs) fun _ => ¬RoundsOk f ok s xs := by
  induction xs generalizing s with
  | nil => exact Ensures.pure (iff_self_and.2 fun _ => trivial)
  | cons x xs ih =>
    have hcons : (ok s x ∧ ∀ (a : PUnit) s', (f x).run s = .ok a s' → RoundsOk f ok s' xs) ↔
        RoundsOk f ok s (x :: xs) := and_congr_right' ⟨fun h => h ⟨⟩, fun h _ => h⟩
    rw [← hcons]
    exact Ensures.seq_mark (hstep x s) fun _ _ => ih

/-- The loop rule, with an invariant of the state alone. -/
theorem RoundsOk.forM_invariant {γ : Type} {f : γ → EStateM ε σ PUnit} {ok : σ → γ → Prop}
    {J : σ → Prop} {xs : List γ} (hok : RoundsOk f ok s xs) (h : J s)
    (hstep : ∀ x s, J s → ok s x → Ensures (f x) s (fun _ => J) E) :
    Ensures (xs.forM f) s (fun _ => J) E := by
  let I (_ _ : List γ) (s : σ) : Prop := J s
  have hstart : I [] xs s := h
  exact RoundsOk.forM hok hstart fun _ x _ s => hstep x s

/-- Every round of a guarded loop meets what an invariant and the condition give together. -/
theorem RoundsOk.imp {γ : Type} {f : γ → EStateM ε σ PUnit} {ok ok' : σ → γ → Prop} {J : σ → Prop}
    {xs : List γ} (hok : RoundsOk f ok s xs) (h : J s)
    (hstep : ∀ x s, J s → ok s x → Ensures (f x) s (fun _ => J) E)
    (himp : ∀ x ∈ xs, ∀ s, J s → ok s x → ok' s x) : RoundsOk f ok' s xs := by
  induction xs generalizing s with
  | nil => trivial
  | cons x xs ih =>
    refine ⟨himp x (List.mem_cons_self ..) s h hok.1, fun s' hrun => ?_⟩
    have hs' : J s' := (hstep x s h hok.1).ok hrun
    exact ih (hok.2 s' hrun) hs' fun y hy => himp y (List.mem_cons_of_mem _ hy)

end

/-! ## What is thrown -/

section
variable {ε σ α β : Type} {p : EStateM ε σ α} {q : α → EStateM ε σ β} {s : σ}
variable {E E' : ε → σ → Prop}

/-- After `p` in `s`: `Q` if it returns, `E` of the exception and the state if it throws. -/
def Ends (p : EStateM ε σ α) (s : σ) (Q : α → σ → Prop) (E : ε → σ → Prop) : Prop :=
  match p.run s with
  | .ok a s' => Q a s'
  | .error e s' => E e s'

/-- One program after another, through what the first one ends with. -/
theorem Ends.seq {R : α → σ → Prop} {Q : β → σ → Prop} (h : Ends p s R E)
    (hq : ∀ a s', R a s' → Ends (q a) s' Q E) : Ends (p >>= q) s Q E := by
  unfold Ends at h ⊢
  rw [EStateM.run_bind]
  cases hp : p.run s with
  | ok a s' =>
    rw [hp] at h
    exact hq a s' h
  | error e s' =>
    rw [hp] at h
    exact h

/-- The ends of a program may be weakened. -/
theorem Ends.mono {Q Q' : α → σ → Prop} (h : Ends p s Q E) (hQ : ∀ a s', Q a s' → Q' a s')
    (hE : ∀ e s', E e s' → E' e s') : Ends p s Q' E' := by
  unfold Ends at h ⊢
  cases hp : p.run s with
  | ok a s' =>
    rw [hp] at h
    exact hQ a s' h
  | error e s' =>
    rw [hp] at h
    exact hE e s' h

end

end PgDuckdb.Lib
