import PgDuckdb.Scan.Printed

/-!
# Expressions that are read as themselves

What is read is the expression itself exactly if it is unambiguous (`Expr.reading_eq_toPg_iff`), and as far as it is
printed it has the value in PostgreSQL that it has in DuckDB (`Expr.toPg_eval`).
-/

namespace PgDuckdb.Scan

open Pg (Text Val Scalars CompareOp Conj Keywords PrimaryText ReadsText Conjunct quote_identifier
  precNot precIs precCompare precLike precOperator precAny applyBoth)

/-! ## Expressions that read as themselves -/

/-- A binary operator has one left and one right operand. -/
theorem applyBoth_eq_some {frame : Pg.Expr → Pg.Frame} {l r : Option Pg.Expr} {x y : Pg.Expr}
    (hframe : ∀ e e', (frame e).apply e' = (frame x).apply y ↔ e = x ∧ e' = y) :
    applyBoth frame l r = some ((frame x).apply y) ↔ l = some x ∧ r = some y := by
  cases l with
  | none => simp [applyBoth]
  | some e =>
    cases r with
    | none => simp [applyBoth]
    | some e' => simpa [applyBoth] using hframe e e'

/-- A comparison of two readings. -/
theorem CompareType.applyBoth_eq_some {op : CompareType} {l r : Option Pg.Expr} {x y : Pg.Expr} :
    applyBoth op.frame l r = some ((op.frame x).apply y) ↔ l = some x ∧ r = some y := by
  refine Scan.applyBoth_eq_some fun e e' => ?_
  cases op <;> simp [CompareType.frame, Pg.Frame.apply]

/-- A conjunction of two readings. -/
theorem applyBoth_conj_eq_some (op : Conj) {l r : Option Pg.Expr} {x y : Pg.Expr} :
    applyBoth op.frame l r = some ((op.frame x).apply y) ↔ l = some x ∧ r = some y := by
  refine applyBoth_eq_some fun e e' => ?_
  cases op <;> simp [Conj.frame, Pg.Frame.apply]

/-- A comparison reads as itself if both operands do and neither takes it in. -/
theorem readCompare_eq_some {op : CompareType} {left right : Expr} {l r : Option Pg.Expr}
    {x y : Pg.Expr} :
    readCompare op left right l r = some ((op.frame x).apply y) ↔
      (l = some x ∧ r = some y) ∧ left.isNot = false ∧ right.isNullTest = false := by
  have hnot : ∀ e, some (Pg.Expr.not e) ≠ some ((op.frame x).apply y) := by
    intro e
    cases op <;> simp [CompareType.frame, Pg.Frame.apply]
  have hisNull : ∀ negated e, some (Pg.Expr.isNull negated e) ≠ some ((op.frame x).apply y) := by
    intro negated e
    cases op <;> simp [CompareType.frame, Pg.Frame.apply]
  have hright : readRight op right l r = some ((op.frame x).apply y) ↔
      (l = some x ∧ r = some y) ∧ right.isNullTest = false := by
    cases right with
    | isNull negated arg =>
      simp only [readRight, Expr.isNullTest, Bool.true_eq_false, and_false, iff_false]
      split
      · simp
      · intro h
        obtain ⟨e, -, he⟩ := Option.map_eq_some_iff.1 h
        exact hisNull negated e (congrArg some he)
    | _ => simpa [readRight, Expr.isNullTest] using CompareType.applyBoth_eq_some
  cases left with
  | not arg =>
    simp only [readCompare, Expr.isNot, Bool.true_eq_false, false_and, and_false, iff_false]
    intro h
    obtain ⟨e, -, he⟩ := Option.map_eq_some_iff.1 h
    exact hnot e (congrArg some he)
  | _ => simpa [readCompare, Expr.isNot] using hright

/-- A join reads as itself if every operand does. -/
theorem join_eq_some {op : Conj} {r : Option Pg.Expr} {rs : List (Option Pg.Expr)} {e : Pg.Expr}
    {es : List Pg.Expr} (hlength : rs.length = es.length) :
    op.join r rs = some (es.foldl (fun l r => (op.frame l).apply r) e) ↔
      r = some e ∧ rs = es.map some := by
  induction rs generalizing r e es with
  | nil =>
    obtain rfl := List.length_eq_zero_iff.1 hlength.symm
    simp [Conj.join]
  | cons r' rs ih =>
    cases es with
    | nil => cases hlength
    | cons e' es =>
      have hrest := ih (r := applyBoth op.frame r r') (e := (op.frame e).apply e')
        (Nat.succ.inj hlength)
      rw [applyBoth_conj_eq_some] at hrest
      rw [List.map_cons, List.cons.injEq, ← and_assoc]
      exact hrest

/-- There are as many readings as arguments. -/
theorem readingArgs_length {name : Text} (args : List Expr) :
    (readingArgs name args).length = (toPgArgs name args).length := by
  induction args with
  | nil => rfl
  | cons arg args ih => simp [readingArgs, toPgArgs, ih]

section
variable {name : Text} {columnType : LogicalTypeId}

mutual

/-- PostgreSQL reads the expression itself if and only if it is unambiguous. -/
theorem Expr.reading_eq_toPg_iff : ∀ (e : Expr), e.WellTyped columnType →
    (e.reading name = some (e.toPg name) ↔ e.Unambiguous)
  | .not arg, hty => by
    have harg := Expr.reading_eq_toPg_iff arg hty.1
    simpa [Expr.reading, Expr.toPg, Expr.Unambiguous] using harg
  | .isNull negated arg, hty => by
    rw [Expr.WellTyped] at hty
    have harg := Expr.reading_eq_toPg_iff arg hty
    simpa [Expr.reading, Expr.toPg, Expr.Unambiguous] using harg
  | .compare op left right, hty => by
    rw [Expr.reading, Expr.toPg, Expr.Unambiguous, readCompare_eq_some,
      Expr.reading_eq_toPg_iff left hty.1, Expr.reading_eq_toPg_iff right hty.2.1]
  | .between input lower upper lower_inclusive upper_inclusive, hty => by
    rw [Expr.reading, Expr.toPg, Expr.Unambiguous]
    refine (applyBoth_conj_eq_some .and).trans ?_
    rw [readCompare_eq_some, readCompare_eq_some, Expr.reading_eq_toPg_iff input hty.1,
      Expr.reading_eq_toPg_iff lower hty.2.1, Expr.reading_eq_toPg_iff upper hty.2.2.1]
    tauto
  | .conjunction op (child :: children), hty => by
    rw [Expr.reading, Expr.toPg, Expr.Unambiguous, readingArgs, toPgArgs, readJoin, joinExprs,
      join_eq_some (readingArgs_length children), Expr.reading_eq_toPg_iff child hty.2.1,
      readingArgs_eq_toPgArgs_iff children hty.2.2.2, UnambiguousArgs]
  | .conjunction op [], hty => absurd rfl hty.1
  | .function _ _ _, _ | .column, _ | .constant _, _ | .unsupported _, _ => by
    simp [Expr.reading, Expr.toPg, Expr.Unambiguous]

/-- Arguments are read as what they stand for just when they are unambiguous. -/
theorem readingArgs_eq_toPgArgs_iff : ∀ (args : List Expr), WellTypedArgs columnType .BOOLEAN args →
    (readingArgs name args = (toPgArgs name args).map some ↔ UnambiguousArgs args)
  | [], _ => by simp [readingArgs, toPgArgs, UnambiguousArgs]
  | arg :: args, hty => by
    rw [readingArgs, toPgArgs, UnambiguousArgs, List.map_cons, List.cons.injEq,
      Expr.reading_eq_toPg_iff arg hty.1, readingArgs_eq_toPgArgs_iff args hty.2.2]

end

end

/-! ## Values -/

section
variable {F : Scalars} {row : Text → Option Val} {name : Text} {columnType : LogicalTypeId}

/-- A string expression has its value. -/
theorem toPg_eval_of_varchar : ∀ (e : Expr), e.WellTyped columnType →
    e.return_type columnType = .VARCHAR → (e.toPg name).eval F row = e.eval F (row name)
  | .column, _, _ | .unsupported _, _, _ => rfl
  | .constant value, _, _ => by cases value <;> rfl
  | .function .lower _ [child], hty, _ => by
    have hchild := toPg_eval_of_varchar child hty.2.1 hty.2.2.1
    change Pg.function3 F _ _ = _
    rw [hchild]
    rfl
  | .function .upper _ [child], hty, _ => by
    have hchild := toPg_eval_of_varchar child hty.2.1 hty.2.2.1
    change Pg.function3 F _ _ = _
    rw [hchild]
    rfl
  | .function .lower _ [], hty, _ | .function .upper _ [], hty, _ => by cases hty.1
  | .function .lower _ (_ :: _ :: _), hty, _ | .function .upper _ (_ :: _ :: _), hty, _ => by
    cases hty.1
  | .not _, _, h | .isNull _ _, _, h | .compare _ _ _, _, h | .between _ _ _ _ _, _, h
  | .conjunction _ _, _, h => by cases h
  | .function .contains _ _, _, h | .function .suffix _ _, _, h | .function .prefix_ _ _, _, h
  | .function .like_escape _ _, _, h | .function .ilike_escape _ _, _, h
  | .function .tilde _ _, _, h | .function .notTilde _ _, _, h
  | .function (.other _) _ _, _, h => by cases h

/-- `LIKE` with a pattern that matches what is searched for. -/
theorem like3_eq_search3 {found : Text → Text → Bool} {p s : Text} {x : Option Val}
    (h : ∀ haystack, Pg.likeMatch (some '\\') p haystack = found s haystack) :
    Pg.like3 F false x (some (.str p)) (some (.str Pg.defaultEscape)) =
      search3 found x (some (.str s)) :=
  match x with
  | none | some (.bool _) | some (.other _) => rfl
  | some (.str haystack) => congrArg (fun b => some (Val.bool b)) (h haystack)

/-- A LIKE pattern means what the search of DuckDB means. -/
theorem like3_likePattern {f : ScalarFunction} {x : Option Val} {s : Text}
    (hf : f = .contains ∨ f = .suffix ∨ f = .prefix_) :
    Pg.like3 F false x (some (.str (likePattern f s))) (some (.str Pg.defaultEscape)) =
      f.eval F [x, some (.str s)] := by
  rcases hf with rfl | rfl | rfl
  · refine like3_eq_search3 fun haystack => ?_
    rw [Bool.eq_iff_iff, decide_eq_true_eq]
    exact Pg.likeMatch_contains
  · refine like3_eq_search3 fun haystack => ?_
    rw [Bool.eq_iff_iff, decide_eq_true_eq]
    exact Pg.likeMatch_endsWith
  · refine like3_eq_search3 fun haystack => ?_
    rw [Bool.eq_iff_iff, decide_eq_true_eq]
    exact Pg.likeMatch_startsWith

/-- A search has its value, if its needle is printed. -/
theorem search_eval {f : ScalarFunction} {haystack needle : Expr} {w : Text}
    (hf : f = .contains ∨ f = .suffix ∨ f = .prefix_) (hty : haystack.WellTyped columnType)
    (hvarchar : haystack.return_type columnType = .VARCHAR)
    (hneedle : FuncArgToLikeString f needle = some w) :
    (Pg.Expr.like false (haystack.toPg name) (needleToPg f needle)).eval F row =
      f.eval F [haystack.eval F (row name), needle.eval F (row name)] := by
  rw [Pg.Expr.eval, toPg_eval_of_varchar haystack hty hvarchar]
  unfold FuncArgToLikeString at hneedle
  split at hneedle
  · rcases hf with rfl | rfl | rfl <;> simp [needleToPg, Pg.Expr.eval, Pg.like3, Expr.eval,
      Value.eval, ScalarFunction.eval, search3]
  · exact like3_likePattern hf
  · cases hneedle

/-- A LIKE with its own escape means what the search means. -/
theorem likeToPg_eval {insensitive : Bool} {escape : Expr} {x y : Pg.Expr}
    (hz : (escape.toPg name).eval F row = escape.eval F (row name)) :
    (likeToPg insensitive escape x y (escape.toPg name)).eval F row =
      Pg.like3 F insensitive (x.eval F row) (y.eval F row) (escape.eval F (row name)) := by
  unfold likeToPg
  split
  · rename_i hdefault
    unfold isDefaultEscape at hdefault
    split at hdefault
    · rw [decide_eq_true_eq] at hdefault
      subst hdefault
      rfl
    · cases hdefault
  · rw [Pg.Expr.eval, hz]

/-- Every function that is printed has its value. -/
theorem function_eval {f : ScalarFunction} {is_operator : Bool} {children : List Expr}
    {column_name w : Text} (hty : (Expr.function f is_operator children).WellTyped columnType)
    (h : ExpressionToString columnType column_name (.function f is_operator children) = some w) :
    ((Expr.function f is_operator children).toPg name).eval F row =
      (Expr.function f is_operator children).eval F (row name) := by
  cases f with
  | contains | suffix | prefix_ =>
    obtain ⟨haystack, needle, rfl⟩ := List.length_eq_two.1 hty.1
    obtain ⟨-, needle_str, -, hneedle, -⟩ := search_text (by simp) hty.2.2.1 h
    exact search_eval (by simp) hty.2.1 hty.2.2.1 hneedle
  | like_escape | ilike_escape =>
    obtain ⟨haystack, needle, escape, rfl⟩ := List.length_eq_three.1 hty.1
    obtain ⟨-, hty₁, hvarchar₁, hty₂, hvarchar₂, hty₃, hvarchar₃, -⟩ := hty
    refine (likeToPg_eval (toPg_eval_of_varchar escape hty₃ hvarchar₃)).trans ?_
    rw [toPg_eval_of_varchar haystack hty₁ hvarchar₁, toPg_eval_of_varchar needle hty₂ hvarchar₂]
    rfl
  | lower | upper => exact toPg_eval_of_varchar _ hty rfl
  | tilde | notTilde =>
    obtain ⟨haystack, pattern, rfl⟩ := List.length_eq_two.1 hty.1
    obtain ⟨-, hty₁, hvarchar₁, hty₂, hvarchar₂, -⟩ := hty
    change Pg.operator3 F _ _ _ = _
    rw [toPg_eval_of_varchar haystack hty₁ hvarchar₁, toPg_eval_of_varchar pattern hty₂ hvarchar₂]
    rfl
  | other func_name => cases h

/-- A comparison of values. -/
theorem CompareType.frame_eval {op : CompareType} {x y : Pg.Expr} :
    ((op.frame x).apply y).eval F row = op.eval F (x.eval F row) (y.eval F row) := by
  cases op <;> rfl

/-- A join of values. -/
theorem joinExprs_eval {op : Conj} {es : List Pg.Expr} (h : es ≠ []) :
    (joinExprs op es).eval F row = conj3 op (es.map (·.eval F row)) := by
  have hfold : ∀ (es : List Pg.Expr) (e : Pg.Expr),
      (es.foldl (fun l r => (op.frame l).apply r) e).eval F row =
        conj3 op (e.eval F row :: es.map (·.eval F row)) := by
    intro es
    induction es with
    | nil => exact fun e => rfl
    | cons e' es ih =>
      intro e
      refine (ih ((op.frame e).apply e')).trans ?_
      cases op <;> rfl
  cases es with
  | nil => exact absurd rfl h
  | cons e es => exact hfold es e

/-- The loop goes through only if every child is printed. -/
theorem conjunctionLoop_mem {op : Conj} {q w : Text} {texts : List (Option Text)}
    (h : conjunctionLoop op q texts = some w) : ∀ t ∈ texts, ∃ text, t = some text := by
  induction texts generalizing q with
  | nil => simp
  | cons child_str rest ih =>
    simp only [conjunctionLoop, Option.bind_eq_bind, Option.bind_eq_some_iff] at h
    obtain ⟨text, rfl, hloop⟩ := h
    intro t ht
    rcases List.mem_cons.1 ht with rfl | ht
    · exact ⟨text, rfl⟩
    · exact ih hloop t ht

mutual

/-- An expression that is printed has the same value in PostgreSQL. -/
theorem Expr.toPg_eval {column_name w : Text} : ∀ (e : Expr), e.WellTyped columnType →
    ExpressionToString columnType column_name e = some w →
    (e.toPg name).eval F row = e.eval F (row name)
  | .not arg, hty, h => by
    simp only [ExpressionToString, Option.bind_eq_bind, Option.bind_eq_some_iff] at h
    obtain ⟨arg_str, harg, -⟩ := h
    rw [Expr.toPg, Pg.Expr.eval, Expr.eval, Expr.toPg_eval arg hty.1 harg]
  | .isNull negated arg, hty, h => by
    simp only [ExpressionToString, Option.bind_eq_bind, Option.bind_eq_some_iff] at h
    obtain ⟨arg_str, harg, -⟩ := h
    rw [Expr.WellTyped] at hty
    rw [Expr.toPg, Pg.Expr.eval, Expr.eval, Expr.toPg_eval arg hty harg]
  | .compare op left right, hty, h => by
    simp only [ExpressionToString, Option.bind_eq_bind, Option.bind_eq_some_iff] at h
    obtain ⟨arg0_str, hleft, arg1_str, hright, -⟩ := h
    rw [Expr.toPg, CompareType.frame_eval, Expr.eval, Expr.toPg_eval left hty.1 hleft,
      Expr.toPg_eval right hty.2.1 hright]
  | .between input lower upper lower_inclusive upper_inclusive, hty, h => by
    simp only [ExpressionToString, Option.bind_eq_bind, Option.bind_eq_some_iff] at h
    obtain ⟨input_str, hinput, lower_str, hlower, upper_str, hupper, -⟩ := h
    rw [Expr.toPg, Pg.Expr.eval, CompareType.frame_eval, CompareType.frame_eval, Expr.eval,
      Expr.toPg_eval input hty.1 hinput, Expr.toPg_eval lower hty.2.1 hlower,
      Expr.toPg_eval upper hty.2.2.1 hupper]
    cases lower_inclusive <;> cases upper_inclusive <;> rfl
  | .conjunction op children, hty, h => by
    simp only [ExpressionToString, Option.bind_eq_bind, Option.bind_eq_some_iff] at h
    obtain ⟨query_filters, hloop, -⟩ := h
    have hne : toPgArgs name children ≠ [] := by
      cases children with
      | nil => exact absurd rfl hty.1
      | cons child children => simp [toPgArgs]
    rw [Expr.toPg, joinExprs_eval hne, Expr.eval,
      toPgArgs_eval children hty.2 (conjunctionLoop_mem hloop)]
  | .function f is_operator children, hty, h => function_eval hty h
  | .column, _, _ | .unsupported _, _, _ => rfl
  | .constant value, _, _ => by cases value <;> rfl

/-- The arguments that were read have the values of those that were written. -/
theorem toPgArgs_eval {column_name : Text} : ∀ (args : List Expr),
    WellTypedArgs columnType .BOOLEAN args →
    (∀ t ∈ (childTexts columnType column_name args).map (·.2), ∃ text, t = some text) →
    (toPgArgs name args).map (·.eval F row) = evalArgs F (row name) args
  | [], _, _ => rfl
  | arg :: args, hty, h => by
    rw [childTexts, List.map_cons, List.forall_mem_cons] at h
    obtain ⟨⟨text, htext⟩, hrest⟩ := h
    rw [toPgArgs, List.map_cons, evalArgs, Expr.toPg_eval arg hty.1 htext,
      toPgArgs_eval args hty.2.2 hrest]

end

end

end PgDuckdb.Scan
