import PgDuckdb.Pg.Lexer

/-!
# Conditions and their values

The expressions of a `WHERE` clause, and what they evaluate to in three-valued logic. `none` is
`NULL`. The scalar functions on which PostgreSQL and DuckDB are taken to agree are a parameter
(`Scalars`); `LIKE` with an escape character is defined here, since a pattern that is made for it
has to be compared with what it stands for (`likeMatch_contains`, `likeMatch_startsWith`,
`likeMatch_endsWith`).
-/

namespace PgDuckdb.Pg

/-- A value that is not null. -/
inductive Val
  | bool (b : Bool)
  | str (s : Text)
  /-- A value of another type. -/
  | other (n : Int)
  deriving DecidableEq, Repr

/-- The comparison operators. -/
inductive CompareOp
  | eq | ne | lt | gt | le | ge
  deriving DecidableEq, Repr

/-- The scalar functions on which both systems agree. -/
structure Scalars where
  /-- Comparison of strings, by the collation. -/
  compareStr : CompareOp → Text → Text → Bool
  lower : Text → Text
  upper : Text → Text
  /-- `ILIKE` with an escape string. -/
  ilike : Text → Text → Text → Option Bool
  /-- The operator `~~`. -/
  tilde : Text → Text → Bool

/-! ## Three-valued logic -/

/-- NOT of a value. -/
def not3 : Option Val → Option Val
  | some (.bool b) => some (.bool !b)
  | _ => none

/-- AND of two values. -/
def and3 (x y : Option Val) : Option Val :=
  if x = some (.bool false) ∨ y = some (.bool false) then some (.bool false)
  else if x = some (.bool true) ∧ y = some (.bool true) then some (.bool true)
  else none

/-- OR of two values. -/
def or3 (x y : Option Val) : Option Val :=
  if x = some (.bool true) ∨ y = some (.bool true) then some (.bool true)
  else if x = some (.bool false) ∧ y = some (.bool false) then some (.bool false)
  else none

/-- `IS [NOT] NULL`. -/
def isNull (negated : Bool) (x : Option Val) : Option Val := some (.bool (x.isNone != negated))

/-- Comparison of two values of a decidable linear order. -/
def CompareOp.ofOrder {α : Type} [LT α] [DecidableLT α] [DecidableEq α] (op : CompareOp)
    (x y : α) : Bool :=
  match op with
  | .eq => x = y
  | .ne => x ≠ y
  | .lt => x < y
  | .gt => y < x
  | .le => ¬y < x
  | .ge => ¬x < y

/-- Comparison of values of one type; `false` is less than `true`. -/
def compare (F : Scalars) (op : CompareOp) : Val → Val → Option Bool
  | .bool x, .bool y => some (op.ofOrder x.toNat y.toNat)
  | .str x, .str y => some (F.compareStr op x y)
  | .other x, .other y => some (op.ofOrder x y)
  | _, _ => none

/-- A comparison operator. -/
def compare3 (F : Scalars) (op : CompareOp) (x y : Option Val) : Option Val := do
  let x ← x
  let y ← y
  let b ← compare F op x y
  some (.bool b)

/-- `IS [NOT] DISTINCT FROM`. -/
def distinct3 (F : Scalars) (negated : Bool) : Option Val → Option Val → Option Val
  | none, none => some (.bool negated)
  | some x, some y => (compare F .eq x y).map fun b => .bool (b == negated)
  | _, _ => some (.bool !negated)

/-! ## LIKE -/

/-- `LIKE`, with an optional escape character: does the string match the pattern? -/
def likeMatch (escape : Option Char) : Text → Text → Bool
  | [], s => s.isEmpty
  | c :: p, s =>
    if some c = escape then
      match p, s with
      | d :: p, x :: s => d = x && likeMatch escape p s
      | _, _ => false
    else if c = '%' then s.tails.any (likeMatch escape p)
    else
      match s with
      | [] => false
      | x :: s => (c = '_' || c = x) && likeMatch escape p s

/-- `LIKE ... ESCAPE`; the escape string is empty or one character. -/
def like (s p : Text) : Text → Option Bool
  | [] => some (likeMatch none p s)
  | [c] => some (likeMatch (some c) p s)
  | _ => none

/-- The escape string of a `LIKE` without `ESCAPE`. -/
def defaultEscape : Text := ['\\']

/-- `LIKE` or `ILIKE` of three values. -/
def like3 (F : Scalars) (insensitive : Bool) : Option Val → Option Val → Option Val → Option Val
  | some (.str s), some (.str p), some (.str e) =>
    (if insensitive then F.ilike s p e else like s p e).map .bool
  | _, _, _ => none

/-- A text as a part of a pattern that matches it alone. -/
def escapeLike (w : Text) : Text :=
  w.flatMap fun c => if c = '\\' ∨ c = '%' ∨ c = '_' then ['\\', c] else [c]

/-- A character of the pattern that is neither the escape character nor a wildcard. -/
theorem likeMatch_char {c x : Char} {p s : Text} (hc : ¬(c = '\\' ∨ c = '%' ∨ c = '_')) :
    likeMatch (some '\\') (c :: p) (x :: s) = (c = x && likeMatch (some '\\') p s) := by
  rw [not_or, not_or] at hc
  rw [likeMatch.eq_def]
  simp [hc]

/-- The escapes bring no NUL into a pattern. -/
theorem nul_mem_escapeLike {w : Text} : '\x00' ∈ escapeLike w ↔ '\x00' ∈ w := by
  simp only [escapeLike, List.mem_flatMap]
  constructor
  · rintro ⟨c, hc, hmem⟩
    split at hmem
    · obtain rfl : c = '\x00' := by simpa [eq_comm] using hmem
      exact hc
    · obtain rfl : c = '\x00' := by simpa [eq_comm] using hmem
      exact hc
  · intro h
    exact ⟨_, h, by simp⟩

/-- The escaped text matches itself. -/
theorem likeMatch_escapeLike {w p s : Text} :
    likeMatch (some '\\') (escapeLike w ++ p) s = true ↔
      ∃ s', s = w ++ s' ∧ likeMatch (some '\\') p s' = true := by
  induction w generalizing s with
  | nil => simp [escapeLike]
  | cons c w ih =>
    have hcons : ∀ (x : Char) (s : Text) (b : Bool), b = (c = x && likeMatch (some '\\')
        (escapeLike w ++ p) s) → (b = true ↔
          ∃ s', x :: s = c :: w ++ s' ∧ likeMatch (some '\\') p s' = true) := by
      rintro x s b rfl
      simp only [Bool.and_eq_true, decide_eq_true_eq, ih, List.cons_append, List.cons.injEq]
      constructor
      · rintro ⟨rfl, s', rfl, h⟩
        exact ⟨s', ⟨rfl, rfl⟩, h⟩
      · rintro ⟨s', ⟨rfl, rfl⟩, h⟩
        exact ⟨rfl, s', rfl, h⟩
    by_cases hc : c = '\\' ∨ c = '%' ∨ c = '_'
    · have hesc : escapeLike (c :: w) ++ p = '\\' :: c :: (escapeLike w ++ p) := by
        simp [escapeLike, hc]
      rw [hesc]
      cases s with
      | nil => simp [likeMatch]
      | cons x s => exact hcons x s _ (by simp [likeMatch])
    · have hesc : escapeLike (c :: w) ++ p = c :: (escapeLike w ++ p) := by
        simp [escapeLike, hc]
      rw [hesc]
      cases s with
      | nil =>
        rw [not_or, not_or] at hc
        rw [likeMatch.eq_def]
        simp [hc]
      | cons x s => exact hcons x s _ (likeMatch_char hc)

/-- A percent sign matches a part of the text. -/
theorem likeMatch_percent {p s : Text} :
    likeMatch (some '\\') ('%' :: p) s = true ↔
      ∃ t s', s = t ++ s' ∧ likeMatch (some '\\') p s' = true := by
  have hstep : likeMatch (some '\\') ('%' :: p) s = s.tails.any (likeMatch (some '\\') p) := by
    rw [likeMatch.eq_def]
    simp
  rw [hstep, List.any_eq_true]
  constructor
  · rintro ⟨s', hs', h⟩
    obtain ⟨t, rfl⟩ := (List.mem_tails _ _).1 hs'
    exact ⟨t, s', rfl, h⟩
  · rintro ⟨t, s', rfl, h⟩
    exact ⟨s', (List.mem_tails _ _).2 ⟨t, rfl⟩, h⟩

/-- A percent sign at the end matches the rest. -/
theorem likeMatch_percent_end {s : Text} : likeMatch (some '\\') ['%'] s = true :=
  likeMatch_percent.2 ⟨s, [], by simp, rfl⟩

/-- `%w%` matches the strings that contain `w`. -/
theorem likeMatch_contains {w s : Text} :
    likeMatch (some '\\') ('%' :: escapeLike w ++ ['%']) s = true ↔ w <:+: s := by
  rw [List.cons_append, likeMatch_percent]
  simp only [likeMatch_escapeLike, likeMatch_percent_end]
  constructor
  · rintro ⟨t, s', rfl, s'', rfl, -⟩
    exact ⟨t, s'', by simp⟩
  · rintro ⟨t, s'', rfl⟩
    exact ⟨t, w ++ s'', by simp, s'', rfl, trivial⟩

/-- `w%` matches the strings that start with `w`. -/
theorem likeMatch_startsWith {w s : Text} :
    likeMatch (some '\\') (escapeLike w ++ ['%']) s = true ↔ w <+: s := by
  simp only [likeMatch_escapeLike, likeMatch_percent_end]
  constructor
  · rintro ⟨s', rfl, -⟩
    exact ⟨s', rfl⟩
  · rintro ⟨s', rfl⟩
    exact ⟨s', rfl, trivial⟩

/-- `%w` matches the strings that end with `w`. -/
theorem likeMatch_endsWith {w s : Text} :
    likeMatch (some '\\') ('%' :: escapeLike w) s = true ↔ w <:+ s := by
  rw [likeMatch_percent]
  have hend : ∀ s', likeMatch (some '\\') (escapeLike w) s' = true ↔ s' = w := by
    intro s'
    have := likeMatch_escapeLike (w := w) (p := []) (s := s')
    rw [List.append_nil] at this
    rw [this]
    simp [likeMatch]
  simp only [hend]
  constructor
  · rintro ⟨t, s', rfl, rfl⟩
    exact ⟨t, rfl⟩
  · rintro ⟨t, rfl⟩
    exact ⟨t, w, rfl, rfl⟩

/-! ## Expressions -/

/-- An expression of a condition. -/
inductive Expr
  | column (name : Text)
  /-- A string, or `NULL`. -/
  | const (s : Option Text)
  | num (n : Int)
  | not (e : Expr)
  | isNull (negated : Bool) (e : Expr)
  | distinct (negated : Bool) (l r : Expr)
  | compare (op : CompareOp) (l r : Expr)
  | and (l r : Expr)
  | or (l r : Expr)
  | like (insensitive : Bool) (s p : Expr)
  | likeEscape (insensitive : Bool) (s p e : Expr)
  /-- Another operator, by its symbol. -/
  | operator (name : Text) (l r : Expr)
  /-- A function of one argument. -/
  | call (name : Text) (e : Expr)
  deriving DecidableEq, Repr

/-- An operator on strings; null on other values. -/
def tilde3 (F : Scalars) (negated : Bool) : Option Val → Option Val → Option Val
  | some (.str x), some (.str y) => some (.bool (F.tilde x y != negated))
  | _, _ => none

/-- A function of one string. -/
def call3 (f : Text → Text) : Option Val → Option Val
  | some (.str s) => some (.str (f s))
  | _ => none

/-- The operator of a symbol. -/
def operator3 (F : Scalars) (name : Text) (x y : Option Val) : Option Val :=
  if name = "~~".toList then tilde3 F false x y
  else if name = "!~~".toList then tilde3 F true x y
  else none

/-- The function of a name. -/
def function3 (F : Scalars) (name : Text) (x : Option Val) : Option Val :=
  if name = "lower".toList then call3 F.lower x
  else if name = "upper".toList then call3 F.upper x
  else none

/-- The value of an expression in a row. -/
def Expr.eval (F : Scalars) (row : Text → Option Val) : Expr → Option Val
  | .column name => row name
  | .const s => s.map .str
  | .num n => some (.other n)
  | .not e => not3 (e.eval F row)
  | .isNull negated e => Pg.isNull negated (e.eval F row)
  | .distinct negated l r => distinct3 F negated (l.eval F row) (r.eval F row)
  | .compare op l r => compare3 F op (l.eval F row) (r.eval F row)
  | .and l r => and3 (l.eval F row) (r.eval F row)
  | .or l r => or3 (l.eval F row) (r.eval F row)
  | .like insensitive s p =>
    like3 F insensitive (s.eval F row) (p.eval F row) (some (.str defaultEscape))
  | .likeEscape insensitive s p e =>
    like3 F insensitive (s.eval F row) (p.eval F row) (e.eval F row)
  | .operator name l r => operator3 F name (l.eval F row) (r.eval F row)
  | .call name e => function3 F name (e.eval F row)

end PgDuckdb.Pg
