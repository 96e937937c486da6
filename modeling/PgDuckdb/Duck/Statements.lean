import PgDuckdb.Duck.Literals

/-!
# Statements with semicolons

A semicolon is a token as soon as it is read, so it is never part of what is complete at the end of a text. That is why
a word that is put right after a text, which may go on the last word of it, leaves the number of semicolons as it is
(`Reads.glue`). Tokens without semicolons are known from their concatenation with semicolons after each
(`segments_inj`).
-/

namespace PgDuckdb.Duck

open Pg (Text isOpChar isSign)

section
variable {m : LexMode} {c : Char} {ts : List Token} {w acc : Text}

/-- No operator is a semicolon. -/
theorem count_opTokens (acc : Text) : (opTokens acc).count .semicolon = 0 := by
  refine opTokens_induct (P := fun ts => ts.count .semicolon = 0) rfl (fun _ => rfl) (fun h h' => ?_) acc
  rw [List.count_append, h, h']

/-- What is complete at the end has no semicolon. -/
theorem flush_semicolons (h : m.flush = some ts) : ts.count .semicolon = 0 := by
  cases m with
  | op acc =>
    cases h
    exact count_opTokens acc
  | str | estr | estrBackslash | quoted | blockComment => cases h
  | _ =>
    cases h
    rfl

/-- A letter that is no part of a number. -/
structure IsLetter (c : Char) : Prop where
  identStart : isIdentStart c = true
  numCont : isNumCont c = false
  exponent : isExponent c = false
  opChar : isOpChar c = false
  sign : isSign c = false

/-- A mode with tokens that are ready ends with them. -/
theorem flush_of_ready (h : m.ready = some ts) : m.flush = some ts := by
  cases m with
  | lineComment => cases h
  | _ => exact h

/-- A letter starts a word, or goes on one. -/
theorem lexNext_letter (hc : IsLetter c) (h : m.flush = some ts) : lexNext m c = some (ts, .word [c]) := by
  rw [lexNext, h, Option.bind_some, startAfter, lexStart_identStart hc.identStart]
  exact congrArg some (Prod.ext (List.append_nil ts) rfl)

/-- A letter of a word goes into it. -/
theorem wordStep_letter (hc : IsLetter c) : wordStep acc c = some ([], .word (c :: acc)) := by
  have hcont : isIdentCont c = true := by rw [isIdentCont, hc.identStart, Bool.true_or, Bool.true_or]
  exact if_pos hcont

/-- A letter behind an operator starts a word. -/
theorem opStep_letter (hc : IsLetter c) : opStep acc c = some (opTokens acc, .word [c]) := by
  have hop : ¬isOpChar c = true := Bool.eq_false_iff.1 hc.opChar
  have hminus : c ≠ '-' := by
    rintro rfl
    exact hop rfl
  have hstar : c ≠ '*' := by
    rintro rfl
    exact hop rfl
  rw [opStep, if_neg fun h => hminus h.1, if_neg fun h => hstar h.1, if_neg hop]
  exact lexNext_letter hc rfl

/-- A letter after a text that could end. -/
theorem lexStep_letter (hc : IsLetter c) (h : m.ready = some ts) :
    ∃ ts' acc, lexStep m c = some (ts', .word acc) ∧ ts'.count .semicolon = 0 := by
  have hflush := flush_of_ready h
  have hnone := flush_semicolons hflush
  have hnum : ¬isNumCont c = true := Bool.eq_false_iff.1 hc.numCont
  have hexponent : ¬isExponent c = true := Bool.eq_false_iff.1 hc.exponent
  have hdigit : ¬c.isDigit = true := by
    intro hdigit
    rw [isNumCont, hdigit, Bool.true_or] at hnum
    exact hnum rfl
  have hdot : c ≠ '.' := by
    rintro rfl
    exact absurd hc.identStart Bool.false_ne_true
  have hquote : c ≠ '\'' := by
    rintro rfl
    exact absurd hc.identStart Bool.false_ne_true
  have hdouble : c ≠ '"' := by
    rintro rfl
    exact absurd hc.identStart Bool.false_ne_true
  have hnext := lexNext_letter hc hflush
  cases m with
  | start => exact ⟨[], [c], lexStart_identStart hc.identStart, rfl⟩
  | word acc => exact ⟨[], c :: acc, wordStep_letter hc, rfl⟩
  | op acc => exact ⟨_, [c], opStep_letter hc, count_opTokens acc⟩
  | exp acc e =>
    have hsign : ¬isSign c = true := Bool.eq_false_iff.1 hc.sign
    refine ⟨[.num acc.reverse], [c, e], ?_, rfl⟩
    rw [lexStep, if_neg hdigit, if_neg hsign, wordStep_letter hc]
    rfl
  | expSign acc e sign =>
    refine ⟨_, [c], ?_, hnone⟩
    rw [lexStep, if_neg hdigit, opStep_letter hc]
    cases hflush
    rfl
  | dot =>
    refine ⟨ts, [c], ?_, hnone⟩
    rw [lexStep, if_neg hdigit]
    exact hnext
  | num acc =>
    refine ⟨ts, [c], ?_, hnone⟩
    rw [lexStep, if_neg hnum, if_neg hdot, if_neg hexponent]
    exact hnext
  | frac acc =>
    refine ⟨ts, [c], ?_, hnone⟩
    rw [lexStep, if_neg hnum, if_neg hexponent]
    exact hnext
  | expNum acc =>
    refine ⟨ts, [c], ?_, hnone⟩
    rw [lexStep, if_neg hnum]
    exact hnext
  | strQuote acc | estrQuote acc =>
    refine ⟨ts, [c], ?_, hnone⟩
    rw [lexStep, if_neg hquote]
    exact hnext
  | quotedQuote acc =>
    refine ⟨ts, [c], ?_, hnone⟩
    rw [lexStep, if_neg hdouble]
    exact hnext
  | str | estr | estrBackslash | quoted | lineComment | blockComment => cases h

/-- A word right after a text. -/
theorem Reads.glue {rest : Text} (h : Reads w ts) (hc : IsLetter c) (hrest : ∀ d ∈ rest, isIdentCont d = true) :
    ∃ ts', Reads (w ++ c :: rest) ts' ∧ ts'.count .semicolon = ts.count .semicolon := by
  obtain ⟨ts₀, m, ts₁, hrun, hready, rfl⟩ := h
  obtain ⟨ts₂, acc, hstep, hnone⟩ := lexStep_letter hc hready
  have hword : ∀ acc d, isIdentCont d = true → lexStep (.word acc) d = some ([], .word (d :: acc)) :=
    fun acc d hd => if_pos hd
  have hall : lexRun .start (w ++ c :: rest) = some (ts₀ ++ ts₂, .word (rest.reverse ++ acc)) := by
    rw [lexRun_append hrun, lexRun_cons hstep, lexRun_all hword hrest]
    exact congrArg some (Prod.ext (congrArg (ts₀ ++ ·) (List.append_nil ts₂)) rfl)
  refine ⟨_, ⟨_, _, [.word (rest.reverse ++ acc).reverse], hall, rfl, rfl⟩, ?_⟩
  have hnone₁ := flush_semicolons (flush_of_ready hready)
  have hlast : [Token.word (rest.reverse ++ acc).reverse].count .semicolon = 0 := rfl
  rw [List.count_append, List.count_append, List.count_append, hnone, hnone₁, hlast]

end

/-- The number of semicolons in a list of statements. -/
theorem count_segments {tss : List (List Token)} (h : ∀ ts ∈ tss, ts.count .semicolon = 0) :
    (tss.flatMap fun ts => ts ++ [Token.semicolon]).count .semicolon = tss.length := by
  induction tss with
  | nil => rfl
  | cons ts tss ih =>
    have hone : [Token.semicolon].count .semicolon = 1 := rfl
    rw [List.flatMap_cons, List.count_append, List.count_append, h ts List.mem_cons_self, hone,
      ih fun ts' hts' => h ts' (List.mem_cons_of_mem _ hts'), List.length_cons]
    omega

/-- The first semicolon ends the first statement. -/
theorem segment_inj {ts ts' rest rest' : List Token} (h : ts.count .semicolon = 0) (h' : ts'.count .semicolon = 0)
    (heq : ts ++ Token.semicolon :: rest = ts' ++ Token.semicolon :: rest') : ts = ts' ∧ rest = rest' := by
  rw [List.count_eq_zero] at h h'
  induction ts generalizing ts' with
  | nil =>
    cases ts' with
    | nil => exact ⟨rfl, List.cons.inj heq |>.2⟩
    | cons t ts' =>
      obtain ⟨rfl, -⟩ := List.cons.inj heq
      exact absurd List.mem_cons_self h'
  | cons t ts ih =>
    cases ts' with
    | nil =>
      obtain ⟨rfl, -⟩ := List.cons.inj heq
      exact absurd List.mem_cons_self h
    | cons t' ts' =>
      obtain ⟨rfl, htail⟩ := List.cons.inj heq
      obtain ⟨hsame, hrest⟩ := ih (fun hmem => h (List.mem_cons_of_mem _ hmem))
        (fun hmem => h' (List.mem_cons_of_mem _ hmem)) htail
      exact ⟨congrArg _ hsame, hrest⟩

/-- Statements with their semicolons tell where they end. -/
theorem segments_inj {tss tss' : List (List Token)} (h : ∀ ts ∈ tss, ts.count .semicolon = 0)
    (h' : ∀ ts ∈ tss', ts.count .semicolon = 0)
    (heq : tss.flatMap (fun ts => ts ++ [Token.semicolon]) = tss'.flatMap fun ts => ts ++ [Token.semicolon]) :
    tss = tss' := by
  induction tss generalizing tss' with
  | nil =>
    cases tss' with
    | nil => rfl
    | cons ts' tss' =>
      have hlength := congrArg List.length heq
      rw [List.flatMap_cons, List.length_append, List.length_append, List.length_singleton] at hlength
      exact absurd hlength (by simp only [List.flatMap_nil, List.length_nil]; omega)
  | cons ts tss ih =>
    cases tss' with
    | nil =>
      have hlength := congrArg List.length heq
      rw [List.flatMap_cons, List.length_append, List.length_append, List.length_singleton] at hlength
      exact absurd hlength (by simp only [List.flatMap_nil, List.length_nil]; omega)
    | cons ts' tss' =>
      rw [List.flatMap_cons, List.flatMap_cons, List.append_assoc, List.append_assoc] at heq
      obtain ⟨rfl, hrest⟩ := segment_inj (h ts List.mem_cons_self) (h' ts' List.mem_cons_self) heq
      rw [ih (fun t ht => h t (List.mem_cons_of_mem _ ht)) (fun t ht => h' t (List.mem_cons_of_mem _ ht)) hrest]

end PgDuckdb.Duck
