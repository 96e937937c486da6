import PgDuckdb.Scan.Expression

/-!
# Expressions under the precedences of PostgreSQL

PostgreSQL reads the text of `ExpressionToString` with its own precedences, and only some cases of
the printer put parentheses around their output. `Expr.reading` is what it reads: the same
expression, except that a `NOT` on the left of a comparison takes the comparison into its operand, and
an `IS NULL` on the right of one takes it too (or is a syntax error after `IS DISTINCT FROM`).
`Expr.Unambiguous` leaves these two out.
-/

namespace PgDuckdb.Scan

open Pg (Text Val Scalars CompareOp Conj Keywords PrimaryText ReadsText Conjunct quote_identifier
  precNot precIs precCompare precLike precOperator precAny applyBoth)

/-! ## The expression in PostgreSQL -/

/-- The comparison without its right operand. -/
def CompareType.frame : CompareType → Pg.Expr → Pg.Frame
  | .EQUAL => .compare .eq
  | .NOTEQUAL => .compare .ne
  | .LESSTHAN => .compare .lt
  | .GREATERTHAN => .compare .gt
  | .LESSTHANOREQUALTO => .compare .le
  | .GREATERTHANOREQUALTO => .compare .ge
  | .DISTINCT_FROM => .distinct false
  | .NOT_DISTINCT_FROM => .distinct true

/-- `IS DISTINCT FROM` or `IS NOT DISTINCT FROM`. -/
def CompareType.isDistinct : CompareType → Bool
  | .DISTINCT_FROM | .NOT_DISTINCT_FROM => true
  | _ => false

/-- The pattern for the needle of a search. -/
def likePattern (f : ScalarFunction) (s : Text) : Text :=
  match f with
  | .contains => '%' :: Pg.escapeLike s ++ ['%']
  | .suffix => '%' :: Pg.escapeLike s
  | _ => Pg.escapeLike s ++ ['%']

/-- The needle of a search. -/
def needleToPg (f : ScalarFunction) : Expr → Pg.Expr
  | .constant (.varchar s) => .const (some (likePattern f s))
  | _ => .const none

/-- The third argument of `like_escape` is the default of `LIKE`. -/
def isDefaultEscape : Expr → Bool
  | .constant (.varchar s) => s = Pg.defaultEscape
  | _ => false

/-- `LIKE` with an escape string, left out if it is the default. -/
def likeToPg (insensitive : Bool) (escape : Expr) (x y z : Pg.Expr) : Pg.Expr :=
  if isDefaultEscape escape then .like insensitive x y else .likeEscape insensitive x y z

/-- A function, given its arguments in both forms. -/
def functionToPg (f : ScalarFunction) (children : List Expr) (es : List Pg.Expr) : Pg.Expr :=
  match f, children, es with
  | .contains, [_, n], [x, _] | .suffix, [_, n], [x, _] | .prefix_, [_, n], [x, _] =>
    .like false x (needleToPg f n)
  | .like_escape, [_, _, e], [x, y, z] => likeToPg false e x y z
  | .ilike_escape, [_, _, e], [x, y, z] => likeToPg true e x y z
  | .lower, _, [x] => .call "lower".toList x
  | .upper, _, [x] => .call "upper".toList x
  | .tilde, _, [x, y] => .operator "~~".toList x y
  | .notTilde, _, [x, y] => .operator "!~~".toList x y
  | _, _, _ => .const none

/-- A value as Postgres reads it. -/
def Value.toPg : Value → Pg.Expr
  | .varchar s => .const (some s)
  | _ => .const none

/-- The comparisons of a `between`. -/
def lowerCompare (lower_inclusive : Bool) : CompareType :=
  if lower_inclusive then .GREATERTHANOREQUALTO else .GREATERTHAN

/-- The comparison at the upper end of a range. -/
def upperCompare (upper_inclusive : Bool) : CompareType :=
  if upper_inclusive then .LESSTHANOREQUALTO else .LESSTHAN

/-- A conjunction of expressions, from the left. -/
def joinExprs (op : Conj) : List Pg.Expr → Pg.Expr
  | [] => .const none
  | e :: es => es.foldl (fun l r => (op.frame l).apply r) e

mutual

/-- The same expression in PostgreSQL, over the column of the given name. -/
def Expr.toPg (name : Text) : Expr → Pg.Expr
  | .not arg => .not (arg.toPg name)
  | .isNull negated arg => .isNull negated (arg.toPg name)
  | .compare op left right => (op.frame (left.toPg name)).apply (right.toPg name)
  | .between input lower upper lower_inclusive upper_inclusive =>
    .and (((lowerCompare lower_inclusive).frame (input.toPg name)).apply (lower.toPg name))
      (((upperCompare upper_inclusive).frame (input.toPg name)).apply (upper.toPg name))
  | .conjunction op children => joinExprs op (toPgArgs name children)
  | .function f _ children => functionToPg f children (toPgArgs name children)
  | .column => .column name
  | .constant value => value.toPg
  | .unsupported _ => .const none

/-- The arguments as Postgres reads them. -/
def toPgArgs (name : Text) : List Expr → List Pg.Expr
  | [] => []
  | arg :: args => arg.toPg name :: toPgArgs name args

end

/-! ## Its reading -/

/-- `NOT` is on the left of a comparison without parentheses of its own. -/
def Expr.isNot : Expr → Bool
  | .not _ => true
  | _ => false

/-- `IS [NOT] NULL` is on the right of a comparison without parentheses of its own. -/
def Expr.isNullTest : Expr → Bool
  | .isNull _ _ => true
  | _ => false

/-- The operand of the `NOT` that `reading` gives for one. -/
def operandOfNot : Pg.Expr → Pg.Expr
  | .not e => e
  | e => e

/-- The operand of the `IS NULL` that `reading` gives for one. -/
def operandOfIsNull : Pg.Expr → Pg.Expr
  | .isNull _ e => e
  | e => e

/-- What `left op right` reads as, if the left operand is not a `NOT`. -/
def readRight (op : CompareType) (right : Expr) (l r : Option Pg.Expr) : Option Pg.Expr :=
  match right with
  | .isNull negated _ =>
    if op.isDistinct then none
    else (applyBoth op.frame l (r.map operandOfIsNull)).map (.isNull negated)
  | _ => applyBoth op.frame l r

/-- What `left op right` reads as. -/
def readCompare (op : CompareType) (left right : Expr) (l r : Option Pg.Expr) : Option Pg.Expr :=
  match left with
  | .not _ => (readRight op right (l.map operandOfNot) r).map .not
  | _ => readRight op right l r

/-- What operands joined by `AND` or `OR` read as. -/
def readJoin (op : Conj) : List (Option Pg.Expr) → Option Pg.Expr
  | [] => none
  | r :: rs => op.join r rs

mutual

/-- What PostgreSQL reads; `none` is a syntax error. -/
def Expr.reading (name : Text) : Expr → Option Pg.Expr
  | .not arg => (arg.reading name).map .not
  | .isNull negated arg => (arg.reading name).map (.isNull negated)
  | .compare op left right => readCompare op left right (left.reading name) (right.reading name)
  | .between input lower upper lower_inclusive upper_inclusive =>
    applyBoth .and
      (readCompare (lowerCompare lower_inclusive) input lower (input.reading name)
        (lower.reading name))
      (readCompare (upperCompare upper_inclusive) input upper (input.reading name)
        (upper.reading name))
  | .conjunction op children => readJoin op (readingArgs name children)
  | .function f _ children => some (functionToPg f children (toPgArgs name children))
  | .column => some (.column name)
  | .constant value => some value.toPg
  | .unsupported _ => some (.const none)

/-- What the texts of the arguments are read as. -/
def readingArgs (name : Text) : List Expr → List (Option Pg.Expr)
  | [] => []
  | arg :: args => arg.reading name :: readingArgs name args

end

mutual

/-- No `NOT` is the left operand of a comparison, and no `IS NULL` the right one. -/
def Expr.Unambiguous : Expr → Prop
  | .not arg | .isNull _ arg => arg.Unambiguous
  | .compare _ left right =>
    (left.Unambiguous ∧ right.Unambiguous) ∧ left.isNot = false ∧ right.isNullTest = false
  | .between input lower upper _ _ =>
    (input.Unambiguous ∧ lower.Unambiguous ∧ upper.Unambiguous) ∧ input.isNot = false ∧
      lower.isNullTest = false ∧ upper.isNullTest = false
  | .conjunction _ children => UnambiguousArgs children
  | .function _ _ _ | .column | .constant _ | .unsupported _ => True

/-- Every argument is unambiguous. -/
def UnambiguousArgs : List Expr → Prop
  | [] => True
  | arg :: args => arg.Unambiguous ∧ UnambiguousArgs args

end

/-! ## Comparisons -/

/-- A comparison binds as Postgres does, and is read as its operator. -/
theorem CompareType.prec_le (op : CompareType) : ∃ t, (∀ e, (op.frame e).prec = some t) ∧
    precIs ≤ t ∧ t ≤ precCompare ∧ (op.isDistinct = false → t = precCompare) ∧
    ∃ ops, Pg.lex op.toOperator = some ops ∧ Pg.Shifts ops t op.frame := by
  cases op with
  | DISTINCT_FROM =>
    exact ⟨precIs, fun _ => rfl, by decide, by decide, by simp [isDistinct],
      _, rfl, Pg.Shifts.distinct false⟩
  | NOT_DISTINCT_FROM =>
    exact ⟨precIs, fun _ => rfl, by decide, by decide, by simp [isDistinct],
      _, rfl, Pg.Shifts.distinct true⟩
  | _ =>
    exact ⟨precCompare, fun _ => rfl, by decide, by decide, fun _ => rfl,
      _, rfl, Pg.Shifts.compare rfl⟩

/-- The text of a distinct comparison. -/
theorem CompareType.toOperator_distinct {op : CompareType} (h : op.isDistinct = true) :
    ∃ negated, op.toOperator = Pg.distinctText negated := by
  cases op with
  | DISTINCT_FROM => exact ⟨false, rfl⟩
  | NOT_DISTINCT_FROM => exact ⟨true, rfl⟩
  | _ => cases h

section
variable {op : CompareType} {w w' : Text} {r r' : Option Pg.Expr} {need level : Nat}

/-- A comparison whose operands read as operands of it. -/
theorem readsText_compare (h : ReadsText w precIs level r) (hlevel : precCompare < level)
    (h' : ReadsText w' need precNot r') (hneed : precCompare < need) :
    ReadsText (w ++ ' ' :: (op.toOperator ++ ' ' :: w')) precIs precNot
      (applyBoth op.frame r r') := by
  obtain ⟨t, hprec, hle, hge, -, ops, hlex, hops⟩ := op.prec_le
  refine Pg.ReadsText.binary hlex hops hprec hle h le_rfl (hge.trans_lt hlevel) h'
    (hge.trans_lt hneed) ?_
  intro e t' ht'
  exact ⟨ht', .inl (ht'.trans_le ((by decide : precNot ≤ precIs).trans hle))⟩

/-- A comparison with an `IS NULL` on the right: the test is of the comparison. -/
theorem readsText_compare_isNull (h : ReadsText w precIs level r) (hlevel : precCompare < level)
    (h' : PrimaryText w' r') (negated : Bool) :
    ReadsText (w ++ ' ' :: (op.toOperator ++ ' ' :: (w' ++ ' ' :: Pg.isNullText negated)))
      precIs precNot
      (if op.isDistinct then none else (applyBoth op.frame r r').map (.isNull negated)) := by
  cases hop : op.isDistinct with
  | true =>
    obtain ⟨n, hn⟩ := CompareType.toOperator_distinct hop
    rw [hn]
    exact h.distinct_isNull le_rfl le_rfl ((by decide : precIs < precCompare).trans hlevel) n
      negated h'
  | false =>
    obtain ⟨t, hprec, hle, hge, heq, ops, hlex, hops⟩ := op.prec_le
    have hbody : ReadsText (w ++ ' ' :: (op.toOperator ++ ' ' :: w')) precIs precCompare
        (applyBoth op.frame r r') := by
      refine Pg.ReadsText.binary hlex hops hprec hle h le_rfl (hge.trans_lt hlevel) h'.readsText
        (hge.trans_lt (by decide)) ?_
      intro e t' ht'
      exact ⟨ht'.trans (by decide), .inl (by rwa [heq hop])⟩
    have htest := (hbody.isNull le_rfl (by decide) negated).mono le_rfl
      (by decide : precNot ≤ precAny)
    simpa using htest

end

/-! ## Printed expressions -/

/-- How the text of an expression reads. -/
def Expr.Printed (e : Expr) (w : Text) (r : Option Pg.Expr) : Prop :=
  match e with
  | .not _ => ∃ w' r', w = "NOT".toList ++ ' ' :: w' ∧ PrimaryText w' r' ∧ r = r'.map .not
  | .isNull negated _ => ∃ w' r', w = w' ++ ' ' :: Pg.isNullText negated ∧ PrimaryText w' r' ∧
      r = r'.map (.isNull negated)
  | .function _ _ _ => ReadsText w precLike precLike r
  | _ => PrimaryText w r

namespace Expr.Printed
variable {e left right : Expr} {w w' : Text} {r r' : Option Pg.Expr}

/-- Every text is an operand of `AND` and `OR`. -/
theorem conjunct (h : e.Printed w r) : Conjunct w r := by
  cases e with
  | not arg =>
    obtain ⟨w', r', rfl, hprimary, rfl⟩ := h
    exact ⟨_, _, hprimary.readsText.not (by decide) (by decide), by decide, by decide⟩
  | isNull negated arg =>
    obtain ⟨w', r', rfl, hprimary, rfl⟩ := h
    exact ⟨_, _, hprimary.readsText.isNull (by decide) (by decide) negated, by decide, by decide⟩
  | function f is_operator children => exact ⟨_, _, h, by decide, by decide⟩
  | _ => exact PrimaryText.conjunct h

/-- A text in parentheses can stand anywhere. -/
theorem paren (h : e.Printed w r) : PrimaryText ('(' :: w ++ [')']) r := by
  obtain ⟨need, level, hreads, -, hlevel⟩ := h.conjunct
  exact .paren hreads ((Nat.zero_le _).trans_lt hlevel)

/-- The left operand of a comparison. -/
theorem asLeft (h : e.Printed w r) (hnot : e.isNot = false) :
    ∃ level, ReadsText w precIs level r ∧ precCompare < level := by
  cases e with
  | not arg => cases hnot
  | isNull negated arg =>
    obtain ⟨w', r', rfl, hprimary, rfl⟩ := h
    exact ⟨_, hprimary.readsText.isNull (by decide) (by decide) negated, by decide⟩
  | function f is_operator children => exact ⟨_, Pg.ReadsText.mono h (by decide) le_rfl, by decide⟩
  | _ => exact ⟨_, (PrimaryText.readsText h).mono (by decide) le_rfl, by decide⟩

/-- The right operand of a comparison. -/
theorem asRight (h : e.Printed w r) (htest : e.isNullTest = false) :
    ∃ need, ReadsText w need precNot r ∧ precCompare < need := by
  cases e with
  | isNull negated arg => cases htest
  | not arg =>
    obtain ⟨w', r', rfl, hprimary, rfl⟩ := h
    exact ⟨_, hprimary.readsText.not (by decide) (by decide), by decide⟩
  | function f is_operator children => exact ⟨_, Pg.ReadsText.mono h le_rfl (by decide), by decide⟩
  | _ => exact ⟨_, (PrimaryText.readsText h).mono le_rfl (by decide), by decide⟩

/-- The right operand, and the comparison without its parentheses. -/
theorem readRight {level : Nat} {op : CompareType} (h : ReadsText w precIs level r)
    (hlevel : precCompare < level) (h' : right.Printed w' r') :
    ReadsText (w ++ ' ' :: (op.toOperator ++ ' ' :: w')) precIs precNot
      (Scan.readRight op right r r') := by
  cases htest : right.isNullTest with
  | true =>
    cases right with
    | isNull negated arg =>
      obtain ⟨w₁, r₁, rfl, hprimary, rfl⟩ := h'
      have hoperand : (r₁.map (Pg.Expr.isNull negated)).map operandOfIsNull = r₁ := by
        cases r₁ <;> rfl
      simp only [Scan.readRight, hoperand]
      exact readsText_compare_isNull h hlevel hprimary negated
    | _ => cases htest
  | false =>
    obtain ⟨need, hright, hneed⟩ := h'.asRight htest
    have heq : Scan.readRight op right r r' = applyBoth op.frame r r' := by
      cases right <;> first | rfl | cases htest
    rw [heq]
    exact readsText_compare h hlevel hright hneed

/-- A comparison in its parentheses. -/
theorem compare {op : CompareType} (h : left.Printed w r) (h' : right.Printed w' r') :
    PrimaryText (compareText w op w') (readCompare op left right r r') := by
  have htext : compareText w op w' = '(' :: (w ++ ' ' :: (op.toOperator ++ ' ' :: w')) ++ [')'] := by
    simp [compareText]
  rw [htext]
  cases hnot : left.isNot with
  | true =>
    cases left with
    | not arg =>
      obtain ⟨w₁, r₁, rfl, hprimary, rfl⟩ := h
      have hoperand : (r₁.map Pg.Expr.not).map operandOfNot = r₁ := by
        cases r₁ <;> rfl
      have hbody : ReadsText (w₁ ++ ' ' :: (op.toOperator ++ ' ' :: w')) precIs precNot
          (Scan.readRight op right r₁ r') :=
        readRight (hprimary.readsText.mono (by decide) le_rfl) (by decide) h'
      simp only [readCompare, hoperand]
      have hread := hbody.not (by decide) le_rfl
      rw [show ("NOT".toList ++ ' ' :: w₁) ++ ' ' :: (op.toOperator ++ ' ' :: w') =
        "NOT".toList ++ ' ' :: (w₁ ++ ' ' :: (op.toOperator ++ ' ' :: w')) by simp]
      exact .paren hread (by decide)
    | _ => cases hnot
  | false =>
    obtain ⟨level, hleft, hlevel⟩ := h.asLeft hnot
    have heq : readCompare op left right r r' = Scan.readRight op right r r' := by
      cases left <;> first | rfl | cases hnot
    rw [heq]
    exact .paren (readRight hleft hlevel h') (by decide)

/-- The two comparisons of a `between`. -/
theorem between {lower upper : Expr} {w₁ w₂ : Text} {r₁ r₂ : Option Pg.Expr} {op op' : CompareType}
    (h : e.Printed w r) (h₁ : lower.Printed w₁ r₁) (h₂ : upper.Printed w₂ r₂) :
    PrimaryText ("(".toList ++ compareText w op w₁ ++ " AND ".toList ++ compareText w op' w₂ ++
      ")".toList) (applyBoth .and (readCompare op e lower r r₁) (readCompare op' e upper r r₂)) := by
  have hboth : PrimaryText
      ('(' :: Conj.and.joinText (compareText w op w₁) [compareText w op' w₂] ++ [')']) _ :=
    .join (h.compare h₁).conjunct (.cons (h.compare h₂).conjunct .nil)
  have htext : "(".toList ++ compareText w op w₁ ++ " AND ".toList ++ compareText w op' w₂ ++
      ")".toList = '(' :: Conj.and.joinText (compareText w op w₁) [compareText w op' w₂] ++ [')'] := by
    simp [Conj.joinText, Conj.text]
  rw [htext]
  exact hboth

end Expr.Printed

end PgDuckdb.Scan
