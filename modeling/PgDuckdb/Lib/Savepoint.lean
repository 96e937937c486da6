import Mathlib.Data.List.Basic

/-!
# Calls that survive nested subtransactions

A transaction makes calls and opens, releases and rolls back subtransactions around them. The
calls that survive are those of no rolled-back subtransaction: `surviving` computes them with one
list of calls per open subtransaction, innermost first. `surviving_eq_calls` says when rolling
back makes no difference, which is the most a log without savepoints can offer.
-/

namespace PgDuckdb.Lib

/-- A call, or a subtransaction boundary. -/
inductive Nested (ι : Type)
  | call (i : ι)
  | start
  | release
  | rollback
  deriving DecidableEq, Repr

section
variable {ι : Type}

/-- The calls so far of the transaction and of each open subtransaction: the innermost level and
the enclosing ones. -/
structure Levels (ι : Type) where
  top : List ι
  below : List (List ι)
  deriving DecidableEq, Repr

/-- All the calls of the open levels, oldest first. -/
def Levels.all (l : Levels ι) : List ι := l.below.reverse.flatten ++ l.top

/-- One step: a release hands the calls of the innermost level to the one around it, a rollback
drops them. Neither does anything outside a subtransaction. -/
def Levels.step (l : Levels ι) : Nested ι → Levels ι
  | .call i => ⟨l.top ++ [i], l.below⟩
  | .start => ⟨[], l.top :: l.below⟩
  | .release =>
    match l.below with
    | [] => l
    | b :: bs => ⟨b ++ l.top, bs⟩
  | .rollback =>
    match l.below with
    | [] => l
    | b :: bs => ⟨b, bs⟩

/-- The calls of the open subtransactions, which are all the levels but the outermost. -/
def Levels.inner (l : Levels ι) : List ι := (l.top :: l.below).dropLast.flatten

/-- The calls of a transaction that no rollback to a savepoint undid. -/
def surviving (es : List (Nested ι)) : List ι := (es.foldl Levels.step ⟨[], []⟩).all

/-- All the calls, whatever became of them. -/
def calls : List (Nested ι) → List ι
  | [] => []
  | .call i :: es => i :: calls es
  | _ :: es => calls es

/-- From the levels `l` on, no rolled-back subtransaction has made a call. -/
def NothingUndone : Levels ι → List (Nested ι) → Prop
  | _, [] => True
  | l, e :: es => (e = .rollback → l.below = [] ∨ l.top = []) ∧ NothingUndone (l.step e) es

/-- Whether a run undoes nothing is decidable. -/
instance decidableNothingUndone [DecidableEq ι] :
    (l : Levels ι) → (es : List (Nested ι)) → Decidable (NothingUndone l es)
  | _, [] => isTrue trivial
  | l, e :: es =>
    have := decidableNothingUndone (l.step e) es
    inferInstanceAs (Decidable ((e = .rollback → l.below = [] ∨ l.top = []) ∧
      NothingUndone (l.step e) es))

/-- A step that undoes nothing adds at most its own call to the open levels. -/
theorem Levels.all_step {l : Levels ι} {e : Nested ι}
    (h : e = .rollback → l.below = [] ∨ l.top = []) : (l.step e).all = l.all ++ calls [e] := by
  cases e with
  | call i => simp [Levels.step, Levels.all, calls]
  | start => simp [Levels.step, Levels.all, calls]
  | release =>
    unfold Levels.step
    cases hb : l.below with
    | nil => simp [Levels.all, calls, hb]
    | cons b bs => simp [Levels.all, calls, hb]
  | rollback =>
    unfold Levels.step
    cases hb : l.below with
    | nil => simp [Levels.all, calls, hb]
    | cons b bs =>
      have ht : l.top = [] := by simpa [hb] using h rfl
      simp [Levels.all, calls, hb, ht]

/-! ### The open subtransactions -/

/-- Without levels there are no inner ones. -/
theorem Levels.inner_of_below_eq_nil {l : Levels ι} (h : l.below = []) : l.inner = [] := by
  simp [Levels.inner, h]

/-- The inner levels are all but the outermost. -/
theorem Levels.inner_of_below_eq_cons {l : Levels ι} {b : List ι} {bs : List (List ι)}
    (h : l.below = b :: bs) : l.inner = l.top ++ (b :: bs).dropLast.flatten := by
  simp [Levels.inner, h, List.dropLast_cons_of_ne_nil]

/-- The innermost level of an open subtransaction is among them. -/
theorem Levels.top_subset_inner {l : Levels ι} (h : l.below ≠ []) : l.top ⊆ l.inner := by
  obtain ⟨b, bs, hb⟩ := List.exists_cons_of_ne_nil h
  rw [Levels.inner_of_below_eq_cons hb]
  exact List.subset_append_left _ _

/-- The open subtransactions have no calls but those of before, and the one that is made. -/
theorem Levels.inner_step_subset (l : Levels ι) (e : Nested ι) :
    (l.step e).inner ⊆ l.inner ++ calls [e] := by
  cases e with
  | call i =>
    cases hb : l.below with
    | nil =>
      rw [Levels.inner_of_below_eq_nil (by exact hb)]
      exact List.nil_subset _
    | cons b bs =>
      have hcall : (l.step (.call i)).inner = (l.step (.call i)).top ++ (b :: bs).dropLast.flatten :=
        Levels.inner_of_below_eq_cons (by exact hb)
      rw [hcall, Levels.inner_of_below_eq_cons hb]
      intro c hc
      simp only [Levels.step, calls, List.mem_append, List.mem_singleton] at hc ⊢
      tauto
  | start => simp [Levels.step, Levels.inner, calls, List.dropLast_cons_of_ne_nil]
  | release =>
    cases hb : l.below with
    | nil => simp [Levels.step, hb, calls]
    | cons b bs =>
      cases bs with
      | nil => simp [Levels.step, hb, Levels.inner]
      | cons b' bs =>
        intro c hc
        simp only [Levels.step, hb, Levels.inner, calls, List.dropLast_cons_of_ne_nil,
          List.flatten_cons, List.mem_append, ne_eq, reduceCtorEq, not_false_eq_true,
          List.append_nil] at hc ⊢
        tauto
  | rollback =>
    cases hb : l.below with
    | nil => simp [Levels.step, hb, calls]
    | cons b bs =>
      rw [Levels.inner_of_below_eq_cons hb]
      simp [Levels.step, hb, Levels.inner, calls]

/-- The calls of a run, one after the other. -/
theorem calls_cons (e : Nested ι) (es : List (Nested ι)) : calls (e :: es) = calls [e] ++ calls es := by
  cases e <;> rfl

/-- A run that undoes nothing adds to what has been done. -/
theorem all_foldl_step {l : Levels ι} {es : List (Nested ι)} (h : NothingUndone l es) :
    (es.foldl Levels.step l).all = l.all ++ calls es := by
  induction es generalizing l with
  | nil => simp [calls]
  | cons e es ih =>
    rw [List.foldl_cons, ih h.2, Levels.all_step h.1, calls_cons e es, List.append_assoc]

/-- Where no rolled-back subtransaction made a call, every call survives. -/
theorem surviving_eq_calls {es : List (Nested ι)} (h : NothingUndone ⟨[], []⟩ es) :
    surviving es = calls es := by
  rw [surviving, all_foldl_step h]
  simp [Levels.all]

/-- Where there are no calls, none is undone. -/
theorem nothingUndone_of_calls_eq_nil {l : Levels ι} {es : List (Nested ι)} (h : calls es = [])
    (htop : l.top = []) (hbelow : ∀ b ∈ l.below, b = []) : NothingUndone l es := by
  induction es generalizing l with
  | nil => trivial
  | cons e es ih =>
    refine ⟨fun _ => .inr htop, ?_⟩
    cases e with
    | call i => cases h
    | start => exact ih h rfl (by simpa [Levels.step, htop] using hbelow)
    | release | rollback =>
      unfold Levels.step
      cases hb : l.below with
      | nil => exact ih h htop hbelow
      | cons b bs =>
        rw [hb] at hbelow
        exact ih h (by simp [htop, hbelow b (by simp)]) fun b hb => hbelow b (by simp [hb])

end

end PgDuckdb.Lib
