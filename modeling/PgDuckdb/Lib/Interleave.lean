import Mathlib.Algebra.BigOperators.Group.Finset.Piecewise
import Mathlib.Algebra.Order.BigOperators.Group.Finset
import Mathlib.Data.List.Basic
import Mathlib.Logic.Function.Basic

/-!
# Interleavings of streams

A sequence that takes its elements from the fronts of several streams. `Interleaves s out rest` says
that every element of `out` comes from one of the streams `s`, each once and in the order of its
stream, and that `rest` is what they have left.
-/

namespace PgDuckdb.Lib

section
variable {ι α : Type} [DecidableEq ι]

/-- Each element has a stream; those of a stream, and then the rest of it, are the stream. -/
def Interleaves (s : ι → List α) (out : List α) (rest : ι → List α) : Prop :=
  ∃ tagged : List (ι × α), tagged.map Prod.snd = out ∧
    ∀ i, s i = (tagged.filter fun x => x.1 = i).map Prod.snd ++ rest i

/-- Nothing is taken yet. -/
theorem Interleaves.nil (s : ι → List α) : Interleaves s [] s := ⟨[], rfl, fun _ => rfl⟩

/-- One element more, from the front of a stream. -/
theorem Interleaves.snoc {s rest : ι → List α} {out : List α} (h : Interleaves s out rest) {i : ι}
    {a : α} {as : List α} (hrest : rest i = a :: as) :
    Interleaves s (out ++ [a]) (Function.update rest i as) := by
  obtain ⟨tagged, hout, hstreams⟩ := h
  refine ⟨tagged ++ [(i, a)], by rw [List.map_append, hout]; rfl, fun j => ?_⟩
  rw [hstreams j, List.filter_append, List.map_append, List.append_assoc]
  congr 1
  by_cases hj : i = j
  · subst hj
    simp [hrest]
  · rw [Function.update_of_ne (Ne.symm hj)]
    simp [hj]

/-- Where all streams are at their end, whole streams are interleaved. -/
theorem Interleaves.whole {s rest : ι → List α} {out : List α} (h : Interleaves s out rest)
    (hrest : ∀ i, rest i = []) : Interleaves s out fun _ => [] := by
  obtain rfl : rest = fun _ => [] := funext hrest
  exact h

end

section
variable {α : Type} {n : Nat}

/-- Elements with tags below a bound, counted tag by tag. -/
theorem length_eq_sum_filter {tagged : List (Nat × α)} (h : ∀ x ∈ tagged, x.1 < n) :
    tagged.length = ∑ i ∈ Finset.range n, (tagged.filter fun x => x.1 = i).length := by
  induction tagged with
  | nil => simp
  | cons x tagged ih =>
    rw [List.forall_mem_cons] at h
    have hcons : ∀ i, ((x :: tagged).filter fun y => y.1 = i).length =
        (tagged.filter fun y => y.1 = i).length + if x.1 = i then 1 else 0 := by
      intro i
      by_cases hx : x.1 = i <;> simp [hx]
    simp only [hcons, Finset.sum_add_distrib, ← ih h.2, Finset.sum_ite_eq, Finset.mem_range, h.1, if_true,
      List.length_cons]

/-- No more elements are taken than there are. -/
theorem Interleaves.length_le {s rest : Nat → List α} {out : List α} (h : Interleaves s out rest)
    (hs : ∀ i, n ≤ i → s i = []) : out.length ≤ ∑ i ∈ Finset.range n, (s i).length := by
  obtain ⟨tagged, rfl, hstreams⟩ := h
  have htags : ∀ x ∈ tagged, x.1 < n := by
    intro x hx
    by_contra hn
    have hnil := hstreams x.1
    rw [hs x.1 (Nat.le_of_not_lt hn), eq_comm, List.append_eq_nil_iff, List.map_eq_nil_iff,
      List.filter_eq_nil_iff] at hnil
    exact hnil.1 x hx (by simp)
  rw [List.length_map, length_eq_sum_filter htags]
  refine Finset.sum_le_sum fun i _ => ?_
  rw [hstreams i, List.length_append, List.length_map]
  exact Nat.le_add_right _ _

end

end PgDuckdb.Lib
