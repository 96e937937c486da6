import Mathlib.Data.List.Basic
import Mathlib.Order.Nat

/-!
# Stars

Postgres expands `SELECT *` to the columns that it knows, and among them is a `duckdb.row` for those that
only DuckDB knows. `pgduckdb_reconstruct_star_step` walks over such a target list and says which entries not
to write, so that of each run of columns a `duckdb.row` is left, which is printed as a star.

It keeps three fields between its calls, and at the first column of a table it looks ahead for a
`duckdb.row`. `reconstruct_iff` says what comes of it for a list of any length: left out are the entries of
star runs, but for the first `duckdb.row` of each.
-/

namespace PgDuckdb.Stars

/-! ## Target lists -/

/-- `Var`, with the index of its table. Such an index is never 0. -/
structure Var where
  varno : Int
  varattno : Int
  vartype : Nat
  varno_ne_zero : varno ≠ 0

/-- The expression of a target entry. -/
inductive TargetEntry
  | Var (var : Var)
  /-- Anything else, by a number. -/
  | other (n : Nat)

/-- `StarReconstructionContext`, but for the target list. -/
structure StarReconstructionContext where
  varno_star : Int
  varattno_star : Int
  added_current_star : Bool
  deriving DecidableEq, Repr

/-- Nothing has been reconstructed yet. -/
def StarReconstructionContext.zeroed : StarReconstructionContext := ⟨0, 0, false⟩

section
variable (DuckdbRowOid : Nat)

/-- A column that is a row of DuckDB. -/
def pgduckdb_var_is_duckdb_row (var : Var) : Bool := var.vartype == DuckdbRowOid

/-- The loop of `pgduckdb_check_for_star_start`: is there a `duckdb.row` in the run that begins here? -/
def runHasRow (varno : Int) : Int → List TargetEntry → Bool
  | _, [] => false
  | _, .other _ :: _ => false
  | varattno, .Var var :: rest =>
    if var.varno ≠ varno then false
    else if var.varattno ≠ varattno then false
    else if pgduckdb_var_is_duckdb_row DuckdbRowOid var then true
    else runHasRow varno (varattno + 1) rest

/-- `pgduckdb_check_for_star_start`, for the list from the cell on. -/
def pgduckdb_check_for_star_start (ctx : StarReconstructionContext) (tle_cell : List TargetEntry) :
    StarReconstructionContext :=
  match tle_cell with
  | [] | .other _ :: _ => ctx
  | .Var first_var :: _ =>
    if first_var.varattno ≠ 1 then ctx
    else if runHasRow DuckdbRowOid first_var.varno first_var.varattno tle_cell then
      { varno_star := first_var.varno, varattno_star := first_var.varattno, added_current_star := false }
    else ctx

/-- The rest of `pgduckdb_reconstruct_star_step`, after the check. -/
def afterCheck (ctx : StarReconstructionContext) (tle : TargetEntry) : Bool × StarReconstructionContext :=
  if ctx.varno_star = 0 then (false, ctx)
  else
    match tle with
    | .Var var =>
      if var.varno = ctx.varno_star ∧ var.varattno = ctx.varattno_star then
        let ctx := { ctx with varattno_star := ctx.varattno_star + 1 }
        if ctx.added_current_star then (true, ctx)
        else if pgduckdb_var_is_duckdb_row DuckdbRowOid var = false then (true, ctx)
        else (false, { ctx with added_current_star := true })
      else (false, .zeroed)
    | .other _ => (false, .zeroed)

/-- `pgduckdb_reconstruct_star_step`: whether to skip the entry, and the context afterwards. -/
def pgduckdb_reconstruct_star_step (ctx : StarReconstructionContext) (tle : TargetEntry)
    (rest : List TargetEntry) : Bool × StarReconstructionContext :=
  afterCheck DuckdbRowOid (pgduckdb_check_for_star_start DuckdbRowOid ctx (tle :: rest)) tle

/-- The entries in order: which ones the caller skips. -/
def reconstruct : StarReconstructionContext → List TargetEntry → List Bool
  | _, [] => []
  | ctx, tle :: rest =>
    let (skip, ctx) := pgduckdb_reconstruct_star_step DuckdbRowOid ctx tle rest
    skip :: reconstruct ctx rest

/-! ## Star runs -/

/-- At this place is the column `varattno` of the table `varno`. -/
def ColumnAt (l : List TargetEntry) (i : Nat) (varno varattno : Int) : Prop :=
  ∃ var, l[i]? = some (.Var var) ∧ var.varno = varno ∧ var.varattno = varattno

/-- At this place is a `duckdb.row`. -/
def RowAt (l : List TargetEntry) (i : Nat) : Prop :=
  ∃ var, l[i]? = some (.Var var) ∧ pgduckdb_var_is_duckdb_row DuckdbRowOid var = true

/-- The `n` entries from `s` on are the columns 1, 2, 3, ... of one table, there is a `duckdb.row` among
them, and the entry after them is not the next column. -/
structure StarRun (l : List TargetEntry) (s n : Nat) (varno : Int) : Prop where
  columns : ∀ k < n, ColumnAt l (s + k) varno (k + 1)
  maximal : ¬ ColumnAt l (s + n) varno (n + 1)
  row : ∃ k < n, RowAt DuckdbRowOid l (s + k)

/-- The first `duckdb.row` from `s` on. -/
structure FirstRow (l : List TargetEntry) (s i : Nat) : Prop where
  start : s ≤ i
  row : RowAt DuckdbRowOid l i
  first : ∀ j, s ≤ j → j < i → ¬ RowAt DuckdbRowOid l j

/-- The entry is in a star run, and not its first `duckdb.row`. -/
def Skipped (l : List TargetEntry) (i : Nat) : Prop :=
  ∃ s n varno, StarRun DuckdbRowOid l s n varno ∧ s ≤ i ∧ i < s + n ∧ ¬ FirstRow DuckdbRowOid l s i

end

section
variable {DuckdbRowOid : Nat} {l : List TargetEntry} {i s n s' n' : Nat} {varno varno' varattno varattno' : Int}

/-- A column stands at one place of the target list. -/
theorem ColumnAt.unique (h : ColumnAt l i varno varattno) (h' : ColumnAt l i varno' varattno') :
    varno = varno' ∧ varattno = varattno' := by
  obtain ⟨var, hget, rfl, rfl⟩ := h
  obtain ⟨var', hget', rfl, rfl⟩ := h'
  rw [hget] at hget'
  cases hget'
  exact ⟨rfl, rfl⟩

/-- A run of columns goes on up to where it is maximal. -/
theorem exists_maximal (h : ∀ k < n, ColumnAt l (s + k) varno (k + 1)) :
    ∃ m, n ≤ m ∧ (∀ k < m, ColumnAt l (s + k) varno (k + 1)) ∧ ¬ ColumnAt l (s + m) varno (m + 1) := by
  classical
  have hend : ∃ m : Nat, ¬ ColumnAt l (s + m) varno (m + 1) := by
    refine ⟨l.length, ?_⟩
    rintro ⟨var, hget, -⟩
    rw [List.getElem?_eq_none (by omega)] at hget
    cases hget
  refine ⟨Nat.find hend, ?_, fun k hk => ?_, Nat.find_spec hend⟩
  · by_contra hlt
    exact Nat.find_spec hend (h _ (Nat.not_le.1 hlt))
  · by_contra hnot
    exact Nat.find_min hend hk hnot

/-- Two star runs with an entry in common are one. -/
theorem StarRun.unique (h : StarRun DuckdbRowOid l s n varno) (h' : StarRun DuckdbRowOid l s' n' varno')
    (hi : s ≤ i ∧ i < s + n) (hi' : s' ≤ i ∧ i < s' + n') : s = s' ∧ n = n' ∧ varno = varno' := by
  have hat := h.columns (i - s) (by omega)
  have hat' := h'.columns (i - s') (by omega)
  rw [show s + (i - s) = i by omega] at hat
  rw [show s' + (i - s') = i by omega] at hat'
  obtain ⟨rfl, hattno⟩ := hat.unique hat'
  obtain rfl : s = s' := by omega
  refine ⟨rfl, ?_, rfl⟩
  rcases Nat.lt_trichotomy n n' with hlt | heq | hlt
  · exact absurd (h'.columns n hlt) h.maximal
  · exact heq
  · exact absurd (h.columns n' hlt) h'.maximal

/-- A column behind the first ones of a list. -/
theorem columnAt_drop {j : Nat} : ColumnAt (l.drop i) j varno varattno ↔ ColumnAt l (i + j) varno varattno := by
  unfold ColumnAt
  rw [List.getElem?_drop]

/-- A row behind the first ones of a list. -/
theorem rowAt_drop {j : Nat} : RowAt DuckdbRowOid (l.drop i) j ↔ RowAt DuckdbRowOid l (i + j) := by
  unfold RowAt
  rw [List.getElem?_drop]

/-- A run that starts with a row of this table. -/
theorem runHasRow_cons {var : Var} : runHasRow DuckdbRowOid varno varattno (.Var var :: l) = true ↔
    (var.varno = varno ∧ var.varattno = varattno) ∧
      (pgduckdb_var_is_duckdb_row DuckdbRowOid var = true ∨
        runHasRow DuckdbRowOid varno (varattno + 1) l = true) := by
  by_cases hvarno : var.varno = varno <;> by_cases hvarattno : var.varattno = varattno <;>
    by_cases hrow : pgduckdb_var_is_duckdb_row DuckdbRowOid var = true <;>
    simp [runHasRow, hvarno, hvarattno, hrow]

/-- The loop finds a `duckdb.row` that the columns up to it lead to. -/
theorem runHasRow_iff : runHasRow DuckdbRowOid varno varattno l = true ↔
    ∃ k : Nat, (∀ j ≤ k, ColumnAt l j varno (varattno + j)) ∧ RowAt DuckdbRowOid l k := by
  induction l generalizing varattno with
  | nil =>
    constructor
    · intro h
      cases h
    · rintro ⟨k, -, var, hget, -⟩
      cases hget
  | cons tle rest ih =>
    have hshift (j : Nat) : varattno + ((j + 1 : Nat) : Int) = varattno + 1 + j := by omega
    cases tle with
    | other n =>
      constructor
      · intro h
        cases h
      · rintro ⟨k, hcolumns, -⟩
        obtain ⟨var, hget, -⟩ := hcolumns 0 (Nat.zero_le k)
        cases hget
    | Var var =>
      rw [runHasRow_cons, ih]
      constructor
      · rintro ⟨⟨hvarno, hvarattno⟩, hfound⟩
        have hcolumn : ColumnAt (.Var var :: rest) 0 varno (varattno + (0 : Nat)) :=
          ⟨var, rfl, hvarno, by simpa using hvarattno⟩
        rcases hfound with hrow | ⟨k, hcolumns, hat⟩
        · refine ⟨0, fun j hj => ?_, var, rfl, hrow⟩
          obtain rfl : j = 0 := Nat.le_zero.1 hj
          exact hcolumn
        · refine ⟨k + 1, fun j hj => ?_, hat⟩
          cases j with
          | zero => exact hcolumn
          | succ j =>
            rw [hshift]
            exact hcolumns j (Nat.le_of_succ_le_succ hj)
      · rintro ⟨k, hcolumns, hat⟩
        obtain ⟨var', hget, hvarno, hvarattno⟩ := hcolumns 0 (Nat.zero_le k)
        cases hget
        refine ⟨⟨hvarno, by simpa using hvarattno⟩, ?_⟩
        cases k with
        | zero =>
          obtain ⟨var', hget, hrow⟩ := hat
          cases hget
          exact .inl hrow
        | succ k =>
          refine .inr ⟨k, fun j hj => ?_, hat⟩
          have hnext := hcolumns (j + 1) (Nat.succ_le_succ hj)
          rw [hshift] at hnext
          exact hnext

/-- From a first column on, the loop finds out whether a star run begins there. -/
theorem runHasRow_drop_iff :
    runHasRow DuckdbRowOid varno 1 (l.drop i) = true ↔ ∃ n, StarRun DuckdbRowOid l i n varno := by
  rw [runHasRow_iff]
  constructor
  · rintro ⟨k, hcolumns, hrow⟩
    have hfound : ∀ j < k + 1, ColumnAt l (i + j) varno (j + 1) := by
      intro j hj
      rw [Int.add_comm, ← columnAt_drop]
      exact hcolumns j (Nat.le_of_lt_succ hj)
    obtain ⟨n, hn, hall, hmaximal⟩ := exists_maximal hfound
    exact ⟨n, hall, hmaximal, k, hn, rowAt_drop.1 hrow⟩
  · rintro ⟨n, hcolumns, -, k, hk, hrow⟩
    refine ⟨k, fun j hj => ?_, rowAt_drop.2 hrow⟩
    rw [columnAt_drop, Int.add_comm]
    exact hcolumns j (Nat.lt_of_le_of_lt hj hk)

/-- The check sets the context to the first column of a star run that begins there, and otherwise leaves it
as it is. -/
theorem check_cases (ctx : StarReconstructionContext) :
    (∃ n varno, StarRun DuckdbRowOid l i n varno ∧
      pgduckdb_check_for_star_start DuckdbRowOid ctx (l.drop i) = ⟨varno, 1, false⟩) ∨
    (∀ n varno, ¬ StarRun DuckdbRowOid l i n varno) ∧
      pgduckdb_check_for_star_start DuckdbRowOid ctx (l.drop i) = ctx := by
  have hfirst {n : Nat} {varno : Int} (h : StarRun DuckdbRowOid l i n varno) :
      ∃ var rest, l.drop i = .Var var :: rest ∧ var.varno = varno ∧ var.varattno = 1 := by
    obtain ⟨k, hk, -⟩ := h.row
    have hcolumn := h.columns 0 (by omega)
    rw [← columnAt_drop] at hcolumn
    obtain ⟨var, hget, hvarno, hvarattno⟩ := hcolumn
    cases hdrop : l.drop i with
    | nil =>
      rw [hdrop] at hget
      cases hget
    | cons tle rest =>
      rw [hdrop] at hget
      cases hget
      exact ⟨var, rest, rfl, hvarno, hvarattno⟩
  by_cases hstart : ∃ n varno, StarRun DuckdbRowOid l i n varno
  · obtain ⟨n, varno, hrun⟩ := hstart
    obtain ⟨var, rest, hdrop, rfl, hvarattno⟩ := hfirst hrun
    refine .inl ⟨n, var.varno, hrun, ?_⟩
    have hfound := runHasRow_drop_iff.2 ⟨n, hrun⟩
    rw [hdrop] at hfound ⊢
    simp [pgduckdb_check_for_star_start, hvarattno, hfound]
  · refine .inr ⟨fun n varno hrun => hstart ⟨n, varno, hrun⟩, ?_⟩
    unfold pgduckdb_check_for_star_start
    split
    · rfl
    · rfl
    · rename_i var rest hdrop
      split
      · rfl
      · rename_i hvarattno
        rw [if_neg]
        rw [not_not.1 hvarattno, runHasRow_drop_iff]
        exact fun ⟨n, hrun⟩ => hstart ⟨n, var.varno, hrun⟩

end

/-! ## The steps -/

/-- The context before an entry. Either no star run goes on here, or the context knows the next column of
one and whether its `duckdb.row` has been written. -/
inductive Tracks (DuckdbRowOid : Nat) (l : List TargetEntry) (i : Nat) : StarReconstructionContext → Prop
  | idle {ctx : StarReconstructionContext} : ctx.varno_star = 0 →
      (∀ s n varno, StarRun DuckdbRowOid l s n varno → s < i → s + n ≤ i) → Tracks DuckdbRowOid l i ctx
  | inRun {s n : Nat} {varno : Int} {added : Bool} : StarRun DuckdbRowOid l s n varno → s < i → i ≤ s + n →
      (added = true ↔ ∃ j, s ≤ j ∧ j < i ∧ RowAt DuckdbRowOid l j) →
      Tracks DuckdbRowOid l i ⟨varno, i - s + 1, added⟩

section
variable {DuckdbRowOid : Nat} {l rest : List TargetEntry} {i s n : Nat} {varno : Int} {tle : TargetEntry}
  {ctx : StarReconstructionContext} {added : Bool}

/-- The entry that a list starts with. -/
theorem getElem?_of_drop (hdrop : l.drop i = tle :: rest) : l[i]? = some tle := by
  have hget : (l.drop i)[0]? = some tle := by rw [hdrop]; rfl
  rwa [List.getElem?_drop, Nat.add_zero] at hget

/-- A run of columns has a table. -/
theorem StarRun.varno_ne_zero (h : StarRun DuckdbRowOid l s n varno) : varno ≠ 0 := by
  obtain ⟨k, hk, -⟩ := h.row
  obtain ⟨var, -, rfl, -⟩ := h.columns k hk
  exact var.varno_ne_zero

/-- Outside of star runs everything is written. -/
theorem afterCheck_outside (hdrop : l.drop i = tle :: rest)
    (hout : ∀ s n varno, StarRun DuckdbRowOid l s n varno → s ≤ i → s + n ≤ i)
    (hctx : ctx.varno_star ≠ 0 → ¬ ColumnAt l i ctx.varno_star ctx.varattno_star) :
    ((afterCheck DuckdbRowOid ctx tle).1 = true ↔ Skipped DuckdbRowOid l i) ∧
      Tracks DuckdbRowOid l (i + 1) (afterCheck DuckdbRowOid ctx tle).2 := by
  have hwritten : (afterCheck DuckdbRowOid ctx tle).1 = false ∧
      (afterCheck DuckdbRowOid ctx tle).2.varno_star = 0 := by
    unfold afterCheck
    split
    · rename_i hzero
      exact ⟨rfl, hzero⟩
    · rename_i hstar
      cases tle with
      | other n => exact ⟨rfl, rfl⟩
      | Var var =>
        have hnot : ¬ (var.varno = ctx.varno_star ∧ var.varattno = ctx.varattno_star) :=
          fun hcolumn => hctx hstar ⟨var, getElem?_of_drop hdrop, hcolumn⟩
        simp only [if_neg hnot]
        exact ⟨trivial, rfl⟩
  refine ⟨?_, .idle hwritten.2 fun s n varno hrun hs => ?_⟩
  · rw [hwritten.1]
    refine ⟨(absurd · Bool.false_ne_true), ?_⟩
    rintro ⟨s, n, varno, hrun, hs, hi, -⟩
    exact absurd (hout s n varno hrun hs) (Nat.not_le.2 hi)
  · exact Nat.le_succ_of_le (hout s n varno hrun (Nat.le_of_lt_succ hs))

/-- In a star run the first `duckdb.row` is written. -/
theorem afterCheck_inside (hdrop : l.drop i = tle :: rest) (hrun : StarRun DuckdbRowOid l s n varno)
    (hs : s ≤ i) (hi : i < s + n) (hadded : added = true ↔ ∃ j, s ≤ j ∧ j < i ∧ RowAt DuckdbRowOid l j) :
    ((afterCheck DuckdbRowOid ⟨varno, i - s + 1, added⟩ tle).1 = true ↔ Skipped DuckdbRowOid l i) ∧
      Tracks DuckdbRowOid l (i + 1) (afterCheck DuckdbRowOid ⟨varno, i - s + 1, added⟩ tle).2 := by
  obtain ⟨var, hget, hvarno, hvarattno⟩ := hrun.columns (i - s) (by omega)
  rw [show s + (i - s) = i by omega, getElem?_of_drop hdrop] at hget
  cases hget
  have hskipped : Skipped DuckdbRowOid l i ↔ ¬ FirstRow DuckdbRowOid l s i := by
    constructor
    · rintro ⟨s', n', varno', hrun', hs', hi', hfirst⟩
      obtain ⟨rfl, -⟩ := hrun.unique hrun' ⟨hs, hi⟩ ⟨hs', hi'⟩
      exact hfirst
    · exact fun hfirst => ⟨s, n, varno, hrun, hs, hi, hfirst⟩
  have hrow : RowAt DuckdbRowOid l i ↔ pgduckdb_var_is_duckdb_row DuckdbRowOid var = true := by
    constructor
    · rintro ⟨var', hget, hrow⟩
      rw [getElem?_of_drop hdrop] at hget
      cases hget
      exact hrow
    · exact fun hrow => ⟨var, getElem?_of_drop hdrop, hrow⟩
  have hfirst : FirstRow DuckdbRowOid l s i ↔
      added = false ∧ pgduckdb_var_is_duckdb_row DuckdbRowOid var = true := by
    rw [← hrow, ← Bool.not_eq_true, hadded]
    constructor
    · exact fun h => ⟨fun ⟨j, hsj, hj, hat⟩ => h.first j hsj hj hat, h.row⟩
    · exact fun ⟨hnone, hat⟩ => ⟨hs, hat, fun j hsj hj hat => hnone ⟨j, hsj, hj, hat⟩⟩
  have hstep : afterCheck DuckdbRowOid ⟨varno, i - s + 1, added⟩ (.Var var) =
      (added || !pgduckdb_var_is_duckdb_row DuckdbRowOid var,
        ⟨varno, i - s + 1 + 1, added || pgduckdb_var_is_duckdb_row DuckdbRowOid var⟩) := by
    have hcolumn : var.varno = varno ∧ var.varattno = i - s + 1 := ⟨hvarno, by omega⟩
    unfold afterCheck
    simp only [if_neg hrun.varno_ne_zero, if_pos hcolumn]
    cases added <;> cases pgduckdb_var_is_duckdb_row DuckdbRowOid var <;> rfl
  rw [hstep]
  refine ⟨?_, ?_⟩
  · rw [hskipped, hfirst]
    cases added <;> cases pgduckdb_var_is_duckdb_row DuckdbRowOid var <;> simp
  · have hnext : (i : Int) - s + 1 + 1 = ((i + 1 : Nat) : Int) - s + 1 := by omega
    rw [hnext]
    refine .inRun hrun (Nat.lt_succ_of_le hs) hi ?_
    rw [Bool.or_eq_true, hadded, ← hrow]
    constructor
    · rintro (⟨j, hsj, hj, hat⟩ | hat)
      · exact ⟨j, hsj, Nat.lt_succ_of_lt hj, hat⟩
      · exact ⟨i, hs, Nat.lt_succ_self i, hat⟩
    · rintro ⟨j, hsj, hj, hat⟩
      rcases Nat.lt_succ_iff_lt_or_eq.1 hj with hlt | rfl
      · exact .inl ⟨j, hsj, hlt, hat⟩
      · exact .inr hat

/-- What a step says is right, and the context stays right. -/
theorem Tracks.step (h : Tracks DuckdbRowOid l i ctx) (hdrop : l.drop i = tle :: rest) :
    ((pgduckdb_reconstruct_star_step DuckdbRowOid ctx tle rest).1 = true ↔ Skipped DuckdbRowOid l i) ∧
      Tracks DuckdbRowOid l (i + 1) (pgduckdb_reconstruct_star_step DuckdbRowOid ctx tle rest).2 := by
  unfold pgduckdb_reconstruct_star_step
  rw [← hdrop]
  have hcases : (∃ n varno, StarRun DuckdbRowOid l i n varno ∧
      pgduckdb_check_for_star_start DuckdbRowOid ctx (l.drop i) = ⟨varno, 1, false⟩) ∨
    (∀ n varno, ¬ StarRun DuckdbRowOid l i n varno) ∧
      pgduckdb_check_for_star_start DuckdbRowOid ctx (l.drop i) = ctx := check_cases ctx
  rcases hcases with ⟨n, varno, hrun, hcheck⟩ | ⟨hnone, hcheck⟩
  · -- A star run begins here, whatever the context was.
    have hempty : false = true ↔ ∃ j, i ≤ j ∧ j < i ∧ RowAt DuckdbRowOid l j :=
      ⟨(absurd · Bool.false_ne_true), fun ⟨j, hij, hji, _⟩ => absurd hji (Nat.not_lt.2 hij)⟩
    obtain ⟨k, hk, -⟩ := hrun.row
    have hinside := afterCheck_inside hdrop hrun (Nat.le_refl i) (by omega) hempty
    rw [Int.sub_self, Int.zero_add] at hinside
    rw [hcheck]
    exact hinside
  · rw [hcheck]
    cases h with
    | idle hzero hout =>
      refine afterCheck_outside hdrop (fun s n varno hrun hs => ?_) fun hstar => absurd hzero hstar
      rcases Nat.lt_or_eq_of_le hs with hlt | rfl
      · exact hout s n varno hrun hlt
      · exact absurd hrun (hnone n varno)
    | @inRun s n varno added hrun hs hi hadded =>
      rcases Nat.lt_or_eq_of_le hi with hlt | rfl
      · exact afterCheck_inside hdrop hrun (Nat.le_of_lt hs) hlt hadded
      · -- The run has ended, and no other one goes on here.
        refine afterCheck_outside hdrop (fun s' n' varno' hrun' hs' => ?_) fun _ hcolumn => ?_
        · by_contra hcovers
          rcases Nat.lt_or_eq_of_le hs' with hlt | rfl
          · obtain ⟨rfl, rfl, rfl⟩ := hrun.unique (i := s + n - 1) hrun' (by omega) (by omega)
            omega
          · exact hnone n' varno' hrun'
        · refine hrun.maximal ?_
          have hattno : ((s + n : Nat) : Int) - s + 1 = n + 1 := by omega
          simp only [hattno] at hcolumn
          exact hcolumn

/-! ## The whole list -/

/-- From an entry on, with a context that is right. -/
theorem Tracks.reconstruct {cells : List TargetEntry} (h : Tracks DuckdbRowOid l i ctx)
    (hdrop : l.drop i = cells) :
    (reconstruct DuckdbRowOid ctx cells).length = cells.length ∧
      ∀ k, (reconstruct DuckdbRowOid ctx cells)[k]? = some true ↔
        k < cells.length ∧ Skipped DuckdbRowOid l (i + k) := by
  induction cells generalizing i ctx with
  | nil => exact ⟨rfl, fun k => by simp [Stars.reconstruct]⟩
  | cons tle rest ih =>
    obtain ⟨hskip, htracks⟩ := h.step hdrop
    have hrest : l.drop (i + 1) = rest := by
      rw [← List.drop_drop, hdrop, List.drop_one, List.tail_cons]
    obtain ⟨hlength, hall⟩ := ih htracks hrest
    refine ⟨congrArg Nat.succ hlength, fun k => ?_⟩
    cases k with
    | zero =>
      change some (pgduckdb_reconstruct_star_step DuckdbRowOid ctx tle rest).1 = some true ↔ _
      rw [Option.some.injEq, hskip]
      exact (and_iff_right (Nat.succ_pos _)).symm
    | succ k =>
      have hk := hall k
      rw [show i + 1 + k = i + (k + 1) by omega] at hk
      exact hk.trans (and_congr_left fun _ => (Nat.succ_lt_succ_iff).symm)

/-- A run of columns stays in the list. -/
theorem StarRun.add_le_length (h : StarRun DuckdbRowOid l s n varno) : s + n ≤ l.length := by
  obtain ⟨k, hk, -⟩ := h.row
  obtain ⟨var, hget, -⟩ := h.columns (n - 1) (by omega)
  have hlt := (List.getElem?_eq_some_iff.1 hget).1
  omega

/-- The first `duckdb.row` of a star run. -/
theorem StarRun.exists_firstRow (h : StarRun DuckdbRowOid l s n varno) :
    ∃ i, i < s + n ∧ FirstRow DuckdbRowOid l s i := by
  classical
  have hrow : ∃ k, RowAt DuckdbRowOid l (s + k) := ⟨h.row.choose, h.row.choose_spec.2⟩
  refine ⟨s + Nat.find hrow, ?_, Nat.le_add_right _ _, Nat.find_spec hrow, fun j hsj hj hat => ?_⟩
  · obtain ⟨k, hk, hat⟩ := h.row
    have hmin : Nat.find hrow ≤ k := Nat.find_min' hrow hat
    omega
  · refine Nat.find_min hrow (m := j - s) (by omega) ?_
    rw [Nat.add_sub_cancel' hsj]
    exact hat

/-- The first row of a run is one. -/
theorem FirstRow.unique {i' : Nat} (h : FirstRow DuckdbRowOid l s i) (h' : FirstRow DuckdbRowOid l s i') :
    i = i' := by
  rcases Nat.lt_trichotomy i i' with hlt | heq | hlt
  · exact absurd h.row (h'.first i h.start hlt)
  · exact heq
  · exact absurd h'.row (h.first i' h'.start hlt)

end

/-- For every target list the steps say of each entry whether to skip it, and they say so exactly of the
entries of star runs other than the first `duckdb.row` of the run. So one entry of each star run is written,
which is a `duckdb.row`, and every entry outside of star runs. -/
theorem reconstruct_iff (DuckdbRowOid : Nat) (l : List TargetEntry) :
    let skips := reconstruct DuckdbRowOid .zeroed l
    skips.length = l.length ∧
    (∀ i, skips[i]? = some true ↔ Skipped DuckdbRowOid l i) ∧
    (∀ s n varno, StarRun DuckdbRowOid l s n varno →
      ∃ i, s ≤ i ∧ i < s + n ∧ RowAt DuckdbRowOid l i ∧ skips[i]? = some false ∧
        ∀ i', s ≤ i' → i' < s + n → skips[i']? = some false → i' = i) ∧
    ∀ i < l.length, (∀ s n varno, StarRun DuckdbRowOid l s n varno → ¬ (s ≤ i ∧ i < s + n)) →
      skips[i]? = some false := by
  intro skips
  have hstart : Tracks DuckdbRowOid l 0 .zeroed :=
    .idle rfl fun s n varno _ hs => absurd hs (Nat.not_lt_zero s)
  obtain ⟨hlength, hall⟩ := hstart.reconstruct List.drop_zero
  have hiff : ∀ i, skips[i]? = some true ↔ Skipped DuckdbRowOid l i := by
    intro i
    have hi := hall i
    rw [Nat.zero_add] at hi
    rw [hi]
    refine and_iff_right_of_imp ?_
    rintro ⟨s, n, varno, hrun, hs, hi, -⟩
    exact Nat.lt_of_lt_of_le hi hrun.add_le_length
  have hwritten : ∀ i < l.length, (skips[i]? = some false ↔ ¬ Skipped DuckdbRowOid l i) := by
    intro i hi
    rw [← hiff, List.getElem?_eq_getElem (Nat.lt_of_lt_of_eq hi hlength.symm)]
    cases skips[i] <;> simp
  refine ⟨hlength, hiff, fun s n varno hrun => ?_, fun i hi hout => ?_⟩
  · have hrange : s + n ≤ l.length := hrun.add_le_length
    obtain ⟨i, hi, hfirst⟩ := hrun.exists_firstRow
    refine ⟨i, hfirst.start, hi, hfirst.row, ?_, fun i' hs' hi' hfalse => ?_⟩
    · rw [hwritten i (Nat.lt_of_lt_of_le hi hrange)]
      rintro ⟨s', n', varno', hrun', hs', hi', hnot⟩
      obtain ⟨rfl, -⟩ := hrun.unique hrun' ⟨hfirst.start, hi⟩ ⟨hs', hi'⟩
      exact hnot hfirst
    · rw [hwritten i' (Nat.lt_of_lt_of_le hi' hrange)] at hfalse
      by_contra hne
      exact hfalse ⟨s, n, varno, hrun, hs', hi', fun hfirst' => hne (hfirst'.unique hfirst)⟩
  · rw [hwritten i hi]
    rintro ⟨s, n, varno, hrun, hs, hi, -⟩
    exact hout s n varno hrun ⟨hs, hi⟩

end PgDuckdb.Stars
