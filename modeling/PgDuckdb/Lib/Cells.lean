import Mathlib.Data.List.Basic
import Mathlib.Logic.Function.Basic

/-!
# Cells

Memory as a function from addresses to what was last written there, `none` where nothing was. `assign` is
a loop that writes one cell a round.
-/

namespace PgDuckdb.Lib

section
variable {ι β : Type} [DecidableEq ι] {n : ℕ} {g : ℕ → ι} {f : ℕ → β} {cells : ι → Option β} {a : ι}

/-- `for i < n do cells[g i] := f i`. -/
def assign (n : ℕ) (g : ℕ → ι) (f : ℕ → β) (cells : ι → Option β) : ι → Option β :=
  (List.range n).foldl (fun cells i => Function.update cells (g i) (some (f i))) cells

/-- One assignment more. -/
theorem assign_succ :
    assign (n + 1) g f cells = Function.update (assign n g f cells) (g n) (some (f n)) := by
  rw [assign, List.range_succ, List.foldl_append]
  rfl

/-- What no round writes stays. -/
theorem assign_other (h : ∀ i < n, g i ≠ a) : assign n g f cells a = cells a := by
  induction n with
  | zero => rfl
  | succ n ih =>
    rw [assign_succ, Function.update_of_ne (h n (Nat.lt_succ_self n)).symm]
    exact ih fun i hi => h i (Nat.lt_succ_of_lt hi)

/-- Where no two rounds write the same cell, each cell holds what its round wrote. -/
theorem assign_self (hg : ∀ i < n, ∀ j < n, g i = g j → i = j) {i : ℕ} (hi : i < n) :
    assign n g f cells (g i) = some (f i) := by
  induction n with
  | zero => cases hi
  | succ n ih =>
    rw [assign_succ]
    rcases Nat.lt_succ_iff_lt_or_eq.1 hi with hlt | rfl
    · have hne : g i ≠ g n := by
        intro h
        have := hg i hi n (Nat.lt_succ_self n) h
        omega
      rw [Function.update_of_ne hne]
      exact ih (fun a ha b hb => hg a (Nat.lt_succ_of_lt ha) b (Nat.lt_succ_of_lt hb)) hlt
    · exact Function.update_self _ _ _

end

/-! ## Reading several cells -/

section
variable {ι β : Type} {l : List ι}

/-- All cells are there, and these are their values. -/
theorem mapM_eq_some_iff {f : ι → Option β} {g : ι → β} :
    l.mapM f = some (l.map g) ↔ ∀ x ∈ l, f x = some (g x) := by
  induction l with
  | nil => exact ⟨fun _ _ h => absurd h List.not_mem_nil, fun _ => rfl⟩
  | cons x l ih =>
    rw [List.mapM_cons, List.map_cons, List.forall_mem_cons, ← ih]
    cases f x with
    | none => simp
    | some y => cases l.mapM f <;> simp

/-- Reading goes by what is in the cells. -/
theorem mapM_congr {f g : ι → Option β} (h : ∀ x ∈ l, f x = g x) :
    l.mapM f = l.mapM g := by
  induction l with
  | nil => rfl
  | cons x l ih =>
    rw [List.mapM_cons, List.mapM_cons, h x List.mem_cons_self, ih fun y hy => h y (List.mem_cons_of_mem x hy)]

end

end PgDuckdb.Lib
