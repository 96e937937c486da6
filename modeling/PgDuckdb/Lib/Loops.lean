import Mathlib.Data.List.Basic
import Mathlib.Logic.Function.Basic
import PgDuckdb.Lib.Except

/-!
# Loops over the components of a state

A state with components, and loops of steps that may fail, each of one component. What becomes of a component
depends on its own steps only, and on their order (`foldlM_stepAt_iff`, `foldlM_rows_iff`). So it makes no
difference whether the outer loop is over the components or over the steps.
-/

namespace PgDuckdb.Lib

section
variable {ι S ε X : Type} [DecidableEq ι] {is : List ι} {data data' : ι → S}

/-- A step of one component. -/
def stepAt (f : S → Except ε S) (i : ι) (data : ι → S) : Except ε (ι → S) :=
  (f (data i)).map (Function.update data i)

/-- A step at one place that succeeds changes that place. -/
theorem stepAt_eq_ok_iff {f : S → Except ε S} {i : ι} :
    stepAt f i data = .ok data' ↔ ∃ x, f (data i) = .ok x ∧ data' = Function.update data i x :=
  map_eq_ok

/-- A loop that succeeds, its first round and the rest. -/
theorem foldlM_cons_eq_ok_iff {T : Type} {step : T → X → Except ε T} {s s' : T} {x : X} {xs : List X} :
    (x :: xs).foldlM step s = .ok s' ↔ ∃ t, step s x = .ok t ∧ xs.foldlM step t = .ok s' := by
  rw [List.foldlM_cons]
  exact bind_eq_ok

/-- One step of each component. -/
theorem foldlM_stepAt_iff {f : ι → S → Except ε S} (hn : is.Nodup) :
    is.foldlM (fun data i => stepAt (f i) i data) data = .ok data' ↔
      (∀ i ∈ is, f i (data i) = .ok (data' i)) ∧ ∀ i, i ∉ is → data' i = data i := by
  induction is generalizing data with
  | nil =>
    constructor
    · intro h
      cases h
      exact ⟨fun i hi => absurd hi List.not_mem_nil, fun i _ => rfl⟩
    · rintro ⟨-, h⟩
      rw [funext fun i => h i List.not_mem_nil]
      rfl
  | cons i is ih =>
    obtain ⟨hi, hn⟩ := List.nodup_cons.1 hn
    have hne : ∀ j ∈ is, j ≠ i := by
      rintro j hj rfl
      exact hi hj
    rw [foldlM_cons_eq_ok_iff]
    constructor
    · rintro ⟨t, ht, h⟩
      obtain ⟨x, hx, rfl⟩ := stepAt_eq_ok_iff.1 ht
      obtain ⟨hin, hout⟩ := (ih hn).1 h
      refine ⟨fun j hj => ?_, fun j hj => ?_⟩
      · rcases List.mem_cons.1 hj with rfl | hj
        · rw [hout j hi, Function.update_self, hx]
        · have := hin j hj
          rwa [Function.update_of_ne (hne j hj)] at this
      · have hji : j ≠ i := fun h => hj (h ▸ List.mem_cons_self)
        rw [hout j fun h => hj (List.mem_cons_of_mem i h), Function.update_of_ne hji]
    · rintro ⟨hin, hout⟩
      refine ⟨Function.update data i (data' i), stepAt_eq_ok_iff.2 ⟨_, hin i List.mem_cons_self, rfl⟩, ?_⟩
      refine (ih hn).2 ⟨fun j hj => ?_, fun j hj => ?_⟩
      · rw [Function.update_of_ne (hne j hj)]
        exact hin j (List.mem_cons_of_mem i hj)
      · rcases eq_or_ne j i with rfl | hji
        · rw [Function.update_self]
        · rw [Function.update_of_ne hji]
          exact hout j fun h => (List.mem_cons.1 h).elim hji hj

/-- One step of each component in each round. -/
theorem foldlM_rows_iff {f : X → ι → S → Except ε S} {xs : List X} (hn : is.Nodup) :
    xs.foldlM (fun data x => is.foldlM (fun data i => stepAt (f x i) i data) data) data = .ok data' ↔
      (∀ i ∈ is, xs.foldlM (fun s x => f x i s) (data i) = .ok (data' i)) ∧ ∀ i, i ∉ is → data' i = data i := by
  induction xs generalizing data with
  | nil =>
    constructor
    · intro h
      cases h
      exact ⟨fun i _ => rfl, fun i _ => rfl⟩
    · rintro ⟨hin, hout⟩
      have hsame : data = data' := by
        funext i
        by_cases hi : i ∈ is
        · exact Except.ok.inj (hin i hi)
        · exact (hout i hi).symm
      rw [hsame]
      rfl
  | cons x xs ih =>
    rw [foldlM_cons_eq_ok_iff]
    constructor
    · rintro ⟨t, ht, h⟩
      obtain ⟨hin, hout⟩ := (foldlM_stepAt_iff hn).1 ht
      obtain ⟨hin', hout'⟩ := ih.1 h
      exact ⟨fun i hi => foldlM_cons_eq_ok_iff.2 ⟨t i, hin i hi, hin' i hi⟩,
        fun i hi => (hout' i hi).trans (hout i hi)⟩
    · rintro ⟨hin, hout⟩
      have hsteps : ∀ i, ∃ y, (i ∈ is → f x i (data i) = .ok y ∧ xs.foldlM (fun s x => f x i s) y = .ok (data' i)) ∧
          (i ∉ is → y = data i) := by
        intro i
        by_cases hi : i ∈ is
        · obtain ⟨y, hy, h⟩ := foldlM_cons_eq_ok_iff.1 (hin i hi)
          exact ⟨y, fun _ => ⟨hy, h⟩, fun h => absurd hi h⟩
        · exact ⟨data i, fun h => absurd h hi, fun _ => rfl⟩
      choose t ht using hsteps
      refine ⟨t, (foldlM_stepAt_iff hn).2 ⟨fun i hi => ((ht i).1 hi).1, fun i hi => (ht i).2 hi⟩, ?_⟩
      exact ih.2 ⟨fun i hi => ((ht i).1 hi).2, fun i hi => (hout i hi).trans ((ht i).2 hi).symm⟩

/-- The loops may be exchanged. -/
theorem foldlM_exchange {f : X → ι → S → Except ε S} {xs : List X} (hn : is.Nodup) :
    xs.foldlM (fun data x => is.foldlM (fun data i => stepAt (f x i) i data) data) data = .ok data' ↔
      is.foldlM (fun data i => stepAt (fun s => xs.foldlM (fun s x => f x i s) s) i data) data = .ok data' :=
  (foldlM_rows_iff hn).trans (@foldlM_stepAt_iff _ _ _ _ _ _ _ (fun i s => xs.foldlM (fun s x => f x i s) s) hn).symm

end

end PgDuckdb.Lib
