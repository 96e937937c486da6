import PgDuckdb.Scan.Meaning

/-!
# What a pushed down expression reads as

The text ends for PostgreSQL at a NUL, which only a string constant can bring in (`Expr.NulFree`).
`ExpressionToString_reads` says that the text reads as the expression if and only if it has none and is unambiguous.
-/

namespace PgDuckdb.Scan

open Pg (Text Val Scalars CompareOp Conj Keywords PrimaryText ReadsText Conjunct quote_identifier
  precNot precIs precCompare precLike precOperator precAny applyBoth)

/-! ## Texts with a NUL -/

/-- A constant that is written without a NUL. -/
def Value.NulFree : Value → Prop
  | .varchar s => '\x00' ∉ s
  | _ => True

mutual

/-- No string constant of the expression holds a NUL. -/
def Expr.NulFree : Expr → Prop
  | .not arg | .isNull _ arg => arg.NulFree
  | .compare _ left right => left.NulFree ∧ right.NulFree
  | .between input lower upper _ _ => input.NulFree ∧ lower.NulFree ∧ upper.NulFree
  | .conjunction _ children | .function _ _ children => NulFreeArgs children
  | .constant value => value.NulFree
  | .column | .unsupported _ => True

/-- The same of arguments. -/
def NulFreeArgs : List Expr → Prop
  | [] => True
  | arg :: args => arg.NulFree ∧ NulFreeArgs args

end

/-- The literal of a needle has the NULs of the needle. -/
theorem nul_mem_needle {f : ScalarFunction} {needle : Expr} {w : Text}
    (h : FuncArgToLikeString f needle = some w) : '\x00' ∉ w ↔ needle.NulFree := by
  unfold FuncArgToLikeString at h
  split at h
  · cases h
    exact iff_of_true (by decide) trivial
  · rename_i s
    have hneedle : '\x00' ∈ escapeNeedle s ↔ '\x00' ∈ s := by
      rw [escapeNeedle_eq, Text.mem_escapeQuotes, Pg.nul_mem_escapeLike]
    split at h
    · cases h
      simp [hneedle, Expr.NulFree, Value.NulFree]
    · cases h
      simp [hneedle, Expr.NulFree, Value.NulFree]
    · cases h
      simp [hneedle, Expr.NulFree, Value.NulFree]
    · cases h
  · cases h

/-- A comparison has the NULs of its operands. -/
theorem nul_mem_compareText {op : CompareType} {w w' : Text} :
    '\x00' ∉ compareText w op w' ↔ '\x00' ∉ w ∧ '\x00' ∉ w' := by
  have hop : '\x00' ∉ op.toOperator := by cases op <;> decide
  simp [compareText, hop]

section
variable {column_name w : Text} {columnType : LogicalTypeId}

/-- A printed child holds a NUL only where a constant of it does. -/
def NulFreeTexts (children : List (Expr × Option Text)) : Prop :=
  ∀ child ∈ children, ∀ w, child.2 = some w → ('\x00' ∉ w ↔ child.1.NulFree)

/-- The loop over the children of a conjunction brings in no NUL of its own. -/
theorem nul_mem_conjunctionLoop {op : Conj} {q : Text} {children : List (Expr × Option Text)}
    (hchildren : NulFreeTexts children) (h : conjunctionLoop op q (children.map (·.2)) = some w) :
    '\x00' ∉ w ↔ '\x00' ∉ q ∧ ∀ child ∈ children, child.1.NulFree := by
  have hword : '\x00' ∉ op.text := by cases op <;> decide
  induction children generalizing q with
  | nil =>
    cases h
    simp
  | cons child children ih =>
    simp only [List.map_cons, conjunctionLoop, Option.bind_eq_bind, Option.bind_eq_some_iff] at h
    obtain ⟨child_str, hchild, hloop⟩ := h
    refine (ih (fun c hc => hchildren c (List.mem_cons_of_mem _ hc)) hloop).trans ?_
    rw [List.forall_mem_cons, ← hchildren child List.mem_cons_self child_str hchild]
    split <;> simp [hword, and_assoc]

/-- The texts of the arguments have no NUL just when the arguments have none. -/
theorem nulFreeArgs_iff (children : List Expr) :
    NulFreeArgs children ↔ ∀ child ∈ childTexts columnType column_name children, child.1.NulFree := by
  induction children with
  | nil => simp [NulFreeArgs, childTexts]
  | cons child children ih => rw [NulFreeArgs, childTexts, List.forall_mem_cons, ih]

/-- `like_escape` or `ilike_escape`. An escape character that is left out is no NUL. -/
theorem nul_mem_likeText {insensitive : Bool} {haystack needle escape : Expr}
    (hvarchar : haystack.return_type columnType = .VARCHAR)
    (hargs : NulFreeTexts (childTexts columnType column_name [haystack, needle, escape]))
    (h : FuncToLikeString columnType (if insensitive then .ilike_escape else .like_escape)
      (childTexts columnType column_name [haystack, needle, escape]) = some w) :
    '\x00' ∉ w ↔ NulFreeArgs [haystack, needle, escape] := by
  obtain ⟨haystack_str, needle_str, escape_str, hhaystack, hneedle, hescape, rfl⟩ := like_text hvarchar h
  have hx := hargs _ List.mem_cons_self _ hhaystack
  have hy := hargs _ (List.mem_cons_of_mem _ List.mem_cons_self) _ hneedle
  have hz := hargs _ (List.mem_cons_of_mem _ (List.mem_cons_of_mem _ List.mem_cons_self)) _ hescape
  have hword : '\x00' ∉ Pg.likeText insensitive := by cases insensitive <;> decide
  simp only [NulFreeArgs, ← hx, ← hy, ← hz]
  split
  · simp [hword]
  · next hdefault =>
    rw [not_not] at hdefault
    subst hdefault
    simp [hword]

/-- The same of a function, given it of the arguments. -/
theorem nul_mem_functionText {f : ScalarFunction} {is_operator : Bool} {children : List Expr}
    (hty : (Expr.function f is_operator children).WellTyped columnType)
    (hargs : NulFreeTexts (childTexts columnType column_name children))
    (h : ExpressionToString columnType column_name (.function f is_operator children) = some w) :
    '\x00' ∉ w ↔ NulFreeArgs children := by
  cases f with
  | contains | suffix | prefix_ =>
    obtain ⟨haystack, needle, rfl⟩ := List.length_eq_two.1 hty.1
    obtain ⟨haystack_str, needle_str, hhaystack, hneedle, rfl⟩ := search_text (by simp) hty.2.2.1 h
    have hx := hargs _ List.mem_cons_self _ hhaystack
    simp only [NulFreeArgs, ← hx, ← nul_mem_needle hneedle]
    simp
  | like_escape =>
    obtain ⟨haystack, needle, escape, rfl⟩ := List.length_eq_three.1 hty.1
    exact @nul_mem_likeText _ _ _ false _ _ _ hty.2.2.1 hargs h
  | ilike_escape =>
    obtain ⟨haystack, needle, escape, rfl⟩ := List.length_eq_three.1 hty.1
    exact @nul_mem_likeText _ _ _ true _ _ _ hty.2.2.1 hargs h
  | lower | upper =>
    obtain ⟨child, rfl⟩ := List.length_eq_one_iff.1 hty.1
    obtain ⟨child_str, hchild, rfl⟩ := Option.map_eq_some_iff.1 h
    have hx := hargs _ List.mem_cons_self _ hchild
    simp only [NulFreeArgs, ← hx]
    simp
  | tilde | notTilde =>
    obtain ⟨haystack, pattern, rfl⟩ := List.length_eq_two.1 hty.1
    obtain ⟨child_str0, child_str1, hchild0, hchild1, rfl⟩ := operator_text h
    have hx := hargs _ List.mem_cons_self _ hchild0
    have hy := hargs _ (List.mem_cons_of_mem _ List.mem_cons_self) _ hchild1
    simp only [NulFreeArgs, ← hx, ← hy]
    simp
  | other func_name => cases h

mutual

/-- What is printed holds a NUL only where a constant of the expression does. -/
theorem Expr.nul_mem_text (hname : '\x00' ∉ column_name) : ∀ (e : Expr) {w : Text}, e.WellTyped columnType →
    ExpressionToString columnType column_name e = some w → ('\x00' ∉ w ↔ e.NulFree)
  | .not arg, w, hty, h => by
    simp only [ExpressionToString, Option.bind_eq_bind, Option.bind_eq_some_iff, Option.some.injEq] at h
    obtain ⟨arg_str, harg, rfl⟩ := h
    have hread := Expr.nul_mem_text hname arg hty.1 harg
    simpa [Expr.NulFree] using hread
  | .isNull negated arg, w, hty, h => by
    simp only [ExpressionToString, Option.bind_eq_bind, Option.bind_eq_some_iff, Option.some.injEq] at h
    obtain ⟨arg_str, harg, rfl⟩ := h
    rw [Expr.WellTyped] at hty
    have hread := Expr.nul_mem_text hname arg hty harg
    cases negated <;> simpa [Expr.NulFree] using hread
  | .compare op left right, w, hty, h => by
    simp only [ExpressionToString, Option.bind_eq_bind, Option.bind_eq_some_iff, Option.some.injEq] at h
    obtain ⟨arg0_str, hleft, arg1_str, hright, rfl⟩ := h
    rw [nul_mem_compareText, Expr.nul_mem_text hname left hty.1 hleft,
      Expr.nul_mem_text hname right hty.2.1 hright, Expr.NulFree]
  | .between input lower upper lower_inclusive upper_inclusive, w, hty, h => by
    simp only [ExpressionToString, Option.bind_eq_bind, Option.bind_eq_some_iff, Option.some.injEq] at h
    obtain ⟨input_str, hinput, lower_str, hlower, upper_str, hupper, rfl⟩ := h
    have hjoin : ∀ u v : Text, '\x00' ∉ "(".toList ++ u ++ " AND ".toList ++ v ++ ")".toList ↔
        '\x00' ∉ u ∧ '\x00' ∉ v := by simp
    rw [hjoin, nul_mem_compareText, nul_mem_compareText, Expr.nul_mem_text hname input hty.1 hinput,
      Expr.nul_mem_text hname lower hty.2.1 hlower, Expr.nul_mem_text hname upper hty.2.2.1 hupper, Expr.NulFree]
    tauto
  | .conjunction op children, w, hty, h => by
    simp only [ExpressionToString, Option.bind_eq_bind, Option.bind_eq_some_iff, Option.some.injEq] at h
    obtain ⟨query_filters, hloop, rfl⟩ := h
    have hall := nul_mem_conjunctionLoop (nulFreeTexts hname children hty.2) hloop
    rw [Expr.NulFree, @nulFreeArgs_iff column_name columnType]
    simpa using hall
  | .function f is_operator children, w, hty, h => by
    cases f with
    | other func_name => cases h
    | _ => exact nul_mem_functionText hty (nulFreeTexts hname children hty.2) h
  | .column, w, _, h => by
    cases h
    exact iff_of_true hname trivial
  | .constant (.null _), w, _, h => by
    cases h
    exact iff_of_true (by decide) trivial
  | .constant (.varchar s), w, _, h => by
    cases h
    simp [ToSQLString, Expr.NulFree, Value.NulFree]
  | .constant (.other _), w, _, h => by cases h
  | .unsupported _, w, _, h => by cases h

/-- The same of the arguments. -/
theorem nulFreeTexts (hname : '\x00' ∉ column_name) {type : LogicalTypeId} : ∀ (args : List Expr),
    WellTypedArgs columnType type args → NulFreeTexts (childTexts columnType column_name args)
  | [], _ => fun _ h => nomatch h
  | arg :: args, hty => by
    intro child hchild w hw
    rcases List.mem_cons.1 hchild with rfl | hchild
    · exact Expr.nul_mem_text hname arg hty.1 hw
    · exact nulFreeTexts hname args hty.2.2 child hchild w hw

end

end

/-! ## The pushed down condition -/

/-- The text is a condition that has the value of the expression in every row. -/
def Expr.Faithful (e : Expr) (attname w : Text) : Prop :=
  ∃ pg, Pg.parse w = some pg ∧
    ∀ (F : Scalars) (row : Text → Option Val), pg.eval F row = e.eval F (row attname)

/-- What PostgreSQL reads: nothing where a constant holds a NUL. -/
theorem Expr.parse_text {K : Keywords} {attname w : Text} {columnType : LogicalTypeId} {e : Expr}
    (hname : '\x00' ∉ attname) (hty : e.WellTyped columnType)
    (h : ExpressionToString columnType (quote_identifier K attname) e = some w) :
    (e.NulFree → Pg.parse w = e.reading attname) ∧ (¬e.NulFree → Pg.parse w = none) := by
  have hnul := e.nul_mem_text (mt Pg.nul_mem_quote_identifier.1 hname) hty h
  have hparse := (e.printed hty h).conjunct.parse_eq
  constructor
  · intro hfree
    rw [hparse, if_neg (hnul.2 hfree)]
  · intro hfree
    rw [hparse, if_pos (not_not.1 (mt hnul.1 hfree))]

/-- The text of an expression reads as the expression if and only if no `NOT` is the left operand of
a comparison in it, no `IS NULL` the right one, and no constant holds a NUL, and then it has the value of the
expression. A column's name holds no NUL. -/
theorem ExpressionToString_reads (K : Keywords) (attname : Text) (columnType : LogicalTypeId)
    (e : Expr) (w : Text) (hname : '\x00' ∉ attname) (hty : e.WellTyped columnType)
    (h : ExpressionToString columnType (quote_identifier K attname) e = some w) :
    (Pg.parse w = some (e.toPg attname) ↔ e.Unambiguous ∧ e.NulFree) ∧
      (e.Unambiguous ∧ e.NulFree → e.Faithful attname w) := by
  obtain ⟨hfree, hnul⟩ := Expr.parse_text hname hty h
  have hreads : Pg.parse w = some (e.toPg attname) ↔ e.Unambiguous ∧ e.NulFree := by
    by_cases he : e.NulFree
    · rw [hfree he, e.reading_eq_toPg_iff hty, and_iff_left he]
    · rw [hnul he]
      exact iff_of_false (fun h => nomatch h) fun h => he h.2
  exact ⟨hreads, fun hboth => ⟨e.toPg attname, hreads.2 hboth, fun F row => e.toPg_eval hty h⟩⟩

/-- A reserved word is among the reserved words. -/
theorem any_reservedWords (w : Text) (hw : w ∈ Pg.reservedWords) : Pg.reservedWords.any (· = w) = true :=
  List.any_eq_true.2 ⟨w, hw, decide_eq_true rfl⟩

/-- The keywords that the parser itself knows. -/
def leastKeywords : Keywords where
  quoted w := Pg.reservedWords.any (· = w)
  reserved := any_reservedWords

/-- `NOT (lower(a) = 'x' AND a LIKE '%50!%%' ESCAPE '!')`. -/
def notLowerLike : Expr :=
  .not (.conjunction .and
    [.compare .EQUAL (.function .lower false [.column]) (.constant (.varchar "x".toList)),
      .function .like_escape false [.column, .constant (.varchar "%50!%%".toList),
        .constant (.varchar "!".toList)]])

/-- The text of the example, read as a condition. -/
theorem ExpressionToString_reads_notLowerLike :
    notLowerLike.Faithful "a".toList
      "NOT (((lower(a) = 'x') AND a LIKE '%50!%%' ESCAPE '!'))".toList :=
  (ExpressionToString_reads leastKeywords "a".toList .VARCHAR notLowerLike _ (by decide)
    (by simp [notLowerLike, Expr.WellTyped, WellTypedArgs, Expr.return_type,
      ScalarFunction.return_type, ScalarFunction.arity, Value.type])
    rfl).2 (by simp [notLowerLike, Expr.Unambiguous, UnambiguousArgs, Expr.isNot, Expr.isNullTest,
      Expr.NulFree, NulFreeArgs, Value.NulFree])

/-- `a = (a IS NULL)`, on a `BOOLEAN` column. -/
def equalsIsNull : Expr := .compare .EQUAL .column (.isNull false .column)

/-- It reads as `(a = a) IS NULL`, which is false where `a` is false. -/
theorem not_faithful_equalsIsNull :
    ∃ w, equalsIsNull.WellTyped .BOOLEAN ∧
      ExpressionToString .BOOLEAN (quote_identifier leastKeywords "a".toList) equalsIsNull = some w ∧
      ¬equalsIsNull.Faithful "a".toList w := by
  refine ⟨"(a = (a) IS NULL)".toList, ⟨trivial, trivial, rfl⟩, rfl, ?_⟩
  rintro ⟨pg, hparse, heval⟩
  have hread : Pg.parse "(a = (a) IS NULL)".toList =
      some (.isNull false (.compare .eq (.column "a".toList) (.column "a".toList))) := rfl
  rw [hread, Option.some.injEq] at hparse
  subst hparse
  have hfalse := heval ⟨fun _ _ _ => false, id, id, fun _ _ _ => none, fun _ _ => false⟩
    fun _ => some (.bool false)
  revert hfalse
  decide

end PgDuckdb.Scan
