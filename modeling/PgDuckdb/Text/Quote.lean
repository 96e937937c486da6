import Mathlib.Data.List.Basic
import Mathlib.Data.List.Infix

/-!
# Escaping by doubling

The escaping every SQL dialect uses for its quote characters: each occurrence of the quote is
written twice (`escapeQuotes`). The first maximal run of the quote in a text
(`exists_first_run`) is what a scanner that looks at the quote and the character after it
distinguishes, so the lemmas on a scanner are stated over that decomposition.
-/

namespace PgDuckdb.Text

section
variable {α : Type} [DecidableEq α] {q : α}

/-- Every occurrence of `q` doubled, everything else kept. -/
def escapeQuotes (q : α) : List α → List α
  | [] => []
  | c :: rest => if c = q then q :: q :: escapeQuotes q rest else c :: escapeQuotes q rest

@[simp] theorem escapeQuotes_nil : escapeQuotes q [] = [] := rfl

/-- The quote itself is doubled. -/
theorem escapeQuotes_cons_self (l : List α) :
    escapeQuotes q (q :: l) = q :: q :: escapeQuotes q l := by
  simp [escapeQuotes]

/-- Another character stays. -/
theorem escapeQuotes_cons_ne {c : α} (h : c ≠ q) (l : List α) :
    escapeQuotes q (c :: l) = c :: escapeQuotes q l := by
  simp [escapeQuotes, h]

/-- Escaping distributes over concatenation. -/
theorem escapeQuotes_append (l m : List α) :
    escapeQuotes q (l ++ m) = escapeQuotes q l ++ escapeQuotes q m := by
  induction l with
  | nil => rfl
  | cons c l ih =>
    by_cases h : c = q
    · subst h; simp [escapeQuotes_cons_self, ih]
    · simp [escapeQuotes_cons_ne h, ih]

/-- A text without the quote is its own escape. -/
theorem escapeQuotes_of_not_mem {l : List α} (h : q ∉ l) : escapeQuotes q l = l := by
  induction l with
  | nil => rfl
  | cons c l ih =>
    have hc : c ≠ q := fun he => h (by simp [he])
    rw [escapeQuotes_cons_ne hc, ih (fun hm => h (by simp [hm]))]

/-- A run of `k` quotes escapes to a run of `2 * k`. -/
theorem escapeQuotes_replicate (k : Nat) :
    escapeQuotes q (List.replicate k q) = List.replicate (2 * k) q := by
  induction k with
  | zero => rfl
  | succ k ih =>
    rw [List.replicate_succ, escapeQuotes_cons_self, ih,
      show 2 * (k + 1) = 2 * k + 1 + 1 by omega, List.replicate_succ, List.replicate_succ]

/-- Escaping adds one character per quote. -/
theorem length_escapeQuotes (l : List α) :
    (escapeQuotes q l).length = l.length + l.count q := by
  induction l with
  | nil => rfl
  | cons c l ih =>
    by_cases h : c = q
    · subst h; rw [escapeQuotes_cons_self]; simp [ih]; omega
    · rw [escapeQuotes_cons_ne h]; simp [ih, h]; omega

/-- Escaping is the identity exactly on the texts without the quote. -/
theorem escapeQuotes_eq_self_iff {l : List α} : escapeQuotes q l = l ↔ q ∉ l := by
  refine ⟨fun h => ?_, escapeQuotes_of_not_mem⟩
  have hl := congrArg List.length h
  rw [length_escapeQuotes] at hl
  exact List.count_eq_zero.1 (by omega)

/-- Only what is there is doubled. -/
@[simp] theorem mem_escapeQuotes {c : α} {l : List α} : c ∈ escapeQuotes q l ↔ c ∈ l := by
  induction l with
  | nil => rfl
  | cons d l ih =>
    by_cases hd : d = q
    · simp [hd, escapeQuotes_cons_self, ih]
    · simp [escapeQuotes_cons_ne hd, ih]

/-- The escape of a text that does not start with the quote does not start with it either. -/
theorem head?_escapeQuotes {l : List α} (h : l.head? ≠ some q) :
    (escapeQuotes q l).head? ≠ some q := by
  cases l with
  | nil => simp
  | cons c l =>
    have hc : c ≠ q := by simpa using h
    simpa [escapeQuotes_cons_ne hc] using hc

@[simp] theorem escapeQuotes_eq_nil_iff {l : List α} : escapeQuotes q l = [] ↔ l = [] := by
  cases l with
  | nil => simp
  | cons c l => by_cases h : c = q <;> simp [escapeQuotes, h]

/-- A text is free of the quote, or has a first maximal run of it: a quote-free part, a
non-empty run, and a rest that does not continue the run. -/
theorem exists_first_run (q : α) (l : List α) :
    q ∉ l ∨ ∃ p k r, l = p ++ List.replicate (k + 1) q ++ r ∧ q ∉ p ∧ r.head? ≠ some q := by
  induction l with
  | nil => simp
  | cons c l ih =>
    by_cases hc : c = q
    · subst hc
      right
      -- the run starts here: it is one longer than the run the rest starts with, if any
      rcases ih with hl | ⟨p, k, r, rfl, hp, hr⟩
      · refine ⟨[], 0, l, by simp, by simp, fun hh => hl (List.mem_of_mem_head? hh)⟩
      · cases p with
        | nil => exact ⟨[], k + 1, r, by simp [List.replicate_succ], by simp, hr⟩
        | cons d p =>
          have hd : d ≠ c := fun he => hp (by simp [he])
          exact ⟨[], 0, d :: p ++ List.replicate (k + 1) c ++ r, by simp, by simp, by simpa using hd⟩
    · rcases ih with hl | ⟨p, k, r, rfl, hp, hr⟩
      · exact .inl (by simp [hl, Ne.symm hc])
      · exact .inr ⟨c :: p, k, r, by simp, by simp [hp, Ne.symm hc], hr⟩

/-- A text is a run of the quote, possibly empty, and a rest that does not continue it. -/
theorem exists_leading_run (q : α) (l : List α) :
    ∃ k r, l = List.replicate k q ++ r ∧ r.head? ≠ some q := by
  induction l with
  | nil => exact ⟨0, [], rfl, by simp⟩
  | cons c l ih =>
    by_cases hc : c = q
    · obtain ⟨k, r, rfl, hr⟩ := ih
      exact ⟨k + 1, r, by simp [hc, List.replicate_succ], hr⟩
    · exact ⟨0, c :: l, rfl, by simpa using hc⟩

omit [DecidableEq α] in
/-- A run of the quote is determined by the text it starts, once the rest does not continue it. -/
theorem replicate_append_inj : ∀ {k k' : Nat} {r r' : List α}, r.head? ≠ some q →
    r'.head? ≠ some q → List.replicate k q ++ r = List.replicate k' q ++ r' → k = k' ∧ r = r'
  | 0, 0, _, _, _, _, h => ⟨rfl, by simpa using h⟩
  | 0, k' + 1, r, _, hr, _, h => by
    simp only [List.replicate_zero, List.nil_append] at h
    exact absurd (by rw [h]; simp [List.replicate_succ]) hr
  | k + 1, 0, _, r', _, hr', h => by
    simp only [List.replicate_zero, List.nil_append] at h
    exact absurd (by rw [← h]; simp [List.replicate_succ]) hr'
  | k + 1, k' + 1, _, _, hr, hr', h => by
    rw [List.replicate_succ, List.replicate_succ, List.cons_append, List.cons_append,
      List.cons.injEq] at h
    obtain ⟨rfl, hrr⟩ := replicate_append_inj hr hr' h.2
    exact ⟨rfl, hrr⟩

omit [DecidableEq α] in
/-- Where two texts split into a quote-free part, a run of the quote and a rest that does not
continue the run, the parts agree. -/
theorem run_inj {p p' r r' : List α} {k k' : Nat} (hp : q ∉ p) (hp' : q ∉ p')
    (hr : r.head? ≠ some q) (hr' : r'.head? ≠ some q)
    (h : p ++ List.replicate (k + 1) q ++ r = p' ++ List.replicate (k' + 1) q ++ r') :
    p = p' ∧ k = k' ∧ r = r' := by
  induction p generalizing p' with
  | nil =>
    cases p' with
    | nil =>
      obtain ⟨hk, hrr⟩ := replicate_append_inj hr hr' h
      exact ⟨rfl, by omega, hrr⟩
    | cons d p' =>
      rw [List.nil_append, List.replicate_succ, List.cons_append, List.cons_append,
        List.cons_append, List.cons.injEq] at h
      exact absurd (by simp [h.1]) hp'
  | cons c p ih =>
    cases p' with
    | nil =>
      rw [List.nil_append, List.replicate_succ (n := k'), List.cons_append, List.cons_append,
        List.cons_append, List.cons.injEq] at h
      exact absurd (by simp [h.1]) hp
    | cons d p' =>
      rw [List.cons_append, List.cons_append, List.cons_append, List.cons_append,
        List.cons.injEq] at h
      obtain ⟨rfl, h⟩ := h
      obtain ⟨rfl, hk, hrr⟩ := ih (fun hm => hp (by simp [hm])) (fun hm => hp' (by simp [hm])) h
      exact ⟨rfl, hk, hrr⟩

end

end PgDuckdb.Text
