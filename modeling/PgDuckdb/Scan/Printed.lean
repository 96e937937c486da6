import PgDuckdb.Scan.Precedence

/-!
# Printed expressions are read

The text of a function, and with it of every expression, is read as `Expr.reading` says, in the place that its kind
has among the operators (`Expr.printed`).
-/

namespace PgDuckdb.Scan

open Pg (Text Val Scalars CompareOp Conj Keywords PrimaryText ReadsText Conjunct quote_identifier
  precNot precIs precCompare precLike precOperator precAny applyBoth)

/-! ## Functions -/

/-- The replacement goes through a text part by part. -/
theorem replaceChar_append {c : Char} {b w w' : Text} :
    replaceChar c b (w ++ w') = replaceChar c b w ++ replaceChar c b w' := by
  simp [replaceChar]

/-- The replacements of the needle escape it first for the pattern and then for the literal. -/
theorem escapeNeedle_eq (s : Text) :
    escapeNeedle s = Text.escapeQuotes '\'' (Pg.escapeLike s) := by
  induction s with
  | nil => rfl
  | cons c s ih =>
    have hchar : escapeNeedle [c] = Text.escapeQuotes '\'' (Pg.escapeLike [c]) := by
      by_cases hc : c = '\'' ∨ c = '\\' ∨ c = '%' ∨ c = '_'
      · rcases hc with rfl | rfl | rfl | rfl <;> rfl
      · rw [not_or, not_or, not_or] at hc
        simp [escapeNeedle, replaceChar, Pg.escapeLike, Text.escapeQuotes, hc]
    have hleft : escapeNeedle (c :: s) = escapeNeedle [c] ++ escapeNeedle s := by
      rw [← List.singleton_append]
      simp only [escapeNeedle, replaceChar_append]
    have hright : Pg.escapeLike (c :: s) = Pg.escapeLike [c] ++ Pg.escapeLike s := by
      simp [Pg.escapeLike]
    rw [hleft, hright, Text.escapeQuotes_append, ih, hchar]

/-- The needle of a search is the literal of its pattern, or `NULL`. -/
theorem needle_primary {f : ScalarFunction} {needle : Expr} {w : Text}
    (h : FuncArgToLikeString f needle = some w) :
    PrimaryText w (some (needleToPg f needle)) := by
  unfold FuncArgToLikeString at h
  split at h
  · cases h
    exact .null
  · rename_i s
    have hstr : ∀ u v, w = '\'' :: (u ++ escapeNeedle s ++ v) ++ ['\''] →
        Text.escapeQuotes '\'' u = u → Text.escapeQuotes '\'' v = v →
        PrimaryText w (some (.const (some (u ++ Pg.escapeLike s ++ v)))) := by
      rintro u v rfl hu hv
      rw [← hu, ← hv, escapeNeedle_eq, ← Text.escapeQuotes_append, ← Text.escapeQuotes_append, hu,
        hv]
      exact .str
    split at h
    · cases h
      have := hstr ['%'] ['%'] (by simp) rfl rfl
      exact this
    · cases h
      have := hstr ['%'] [] (by simp) rfl rfl
      rw [List.append_nil] at this
      exact this
    · cases h
      exact hstr [] ['%'] (by simp) rfl rfl
    · cases h
  · cases h

/-- A string expression is primary: a column, a constant or a call. -/
theorem primary_of_varchar {K : Keywords} {name : Text} {columnType : LogicalTypeId} :
    ∀ (e : Expr) {w : Text}, e.WellTyped columnType → e.return_type columnType = .VARCHAR →
      ExpressionToString columnType (quote_identifier K name) e = some w →
      PrimaryText w (some (e.toPg name))
  | .column, _, _, _, h => by
    cases h
    exact .quote_identifier
  | .constant (.null _), _, _, _, h => by
    cases h
    exact .null
  | .constant (.varchar s), _, _, _, h => by
    cases h
    exact .str
  | .constant (.other _), _, _, _, h => by cases h
  | .function .lower _ [child], _, hty, _, h => by
    obtain ⟨child_str, hchild, rfl⟩ := Option.map_eq_some_iff.1 h
    have hprimary := primary_of_varchar child hty.2.1 hty.2.2.1 hchild
    rw [List.append_assoc, List.append_assoc]
    exact .call rfl (by decide) hprimary.readsText (by decide)
  | .function .upper _ [child], _, hty, _, h => by
    obtain ⟨child_str, hchild, rfl⟩ := Option.map_eq_some_iff.1 h
    have hprimary := primary_of_varchar child hty.2.1 hty.2.2.1 hchild
    rw [List.append_assoc, List.append_assoc]
    exact .call rfl (by decide) hprimary.readsText (by decide)
  | .function .lower _ [], _, hty, _, _ | .function .upper _ [], _, hty, _, _ => by cases hty.1
  | .function .lower _ (_ :: _ :: _), _, hty, _, _
  | .function .upper _ (_ :: _ :: _), _, hty, _, _ => by cases hty.1
  | .unsupported _, _, _, _, h => by cases h
  | .not _, _, _, h, _ | .isNull _ _, _, _, h, _ | .compare _ _ _, _, _, h, _
  | .between _ _ _ _ _, _, _, h, _ | .conjunction _ _, _, _, h, _ => by cases h
  | .function .contains _ _, _, _, h, _ | .function .suffix _ _, _, _, h, _
  | .function .prefix_ _ _, _, _, h, _ | .function .like_escape _ _, _, _, h, _
  | .function .ilike_escape _ _, _, _, h, _ | .function .tilde _ _, _, _, h, _
  | .function .notTilde _ _, _, _, h, _ | .function (.other _) _ _, _, _, h, _ => by cases h

section
variable {K : Keywords} {name : Text} {columnType : LogicalTypeId} {w : Text}

/-- The text of a search. -/
theorem search_text {f : ScalarFunction} {haystack needle : Expr} {column_name : Text}
    (hf : f = .contains ∨ f = .suffix ∨ f = .prefix_)
    (hvarchar : haystack.return_type columnType = .VARCHAR)
    (h : FuncToLikeString columnType f (childTexts columnType column_name [haystack, needle]) =
      some w) :
    ∃ haystack_str needle_str,
      ExpressionToString columnType column_name haystack = some haystack_str ∧
      FuncArgToLikeString f needle = some needle_str ∧
      haystack_str ++ (" LIKE ".toList ++ needle_str) = w := by
  have hlike : ¬(f = .like_escape ∨ f = .ilike_escape) := by
    rcases hf with rfl | rfl | rfl <;> simp
  rw [not_or] at hlike
  simp only [FuncToLikeString, withEscape, childTexts, List.length_nil, Nat.not_lt_zero, if_false, hvarchar,
    ne_eq, not_true_eq_false, hlike, or_self, Option.bind_eq_bind, Option.bind_eq_some_iff,
    Option.some.injEq, List.append_assoc] at h
  obtain ⟨haystack_str, hhaystack, needle_str, hneedle, hw⟩ := h
  exact ⟨haystack_str, needle_str, hhaystack, hneedle, hw⟩

/-- A search in a string. -/
theorem search_reads {f : ScalarFunction} {haystack needle : Expr}
    (hf : f = .contains ∨ f = .suffix ∨ f = .prefix_) (hty : haystack.WellTyped columnType)
    (hvarchar : haystack.return_type columnType = .VARCHAR)
    (h : FuncToLikeString columnType f
      (childTexts columnType (quote_identifier K name) [haystack, needle]) = some w) :
    ReadsText w precLike precLike (some (.like false (haystack.toPg name) (needleToPg f needle))) := by
  obtain ⟨haystack_str, needle_str, hhaystack, hneedle, rfl⟩ := search_text hf hvarchar h
  have hx := primary_of_varchar haystack hty hvarchar hhaystack
  exact Pg.ReadsText.like false hx (needle_primary hneedle)

/-- A function is never read as a constant. -/
theorem functionToPg_ne_const {f : ScalarFunction} {children : List Expr} {es : List Pg.Expr}
    {s : Text} : functionToPg f children es ≠ .const (some s) := by
  unfold functionToPg
  split
  case h_4 | h_5 =>
    unfold likeToPg
    split <;> simp
  all_goals simp

/-- Only a string constant stands for one. -/
theorem isDefaultEscape_of_toPg {e : Expr} (hvarchar : e.return_type columnType = .VARCHAR)
    (h : e.toPg name = .const (some Pg.defaultEscape)) : isDefaultEscape e = true := by
  cases e with
  | constant value =>
    cases value with
    | varchar s =>
      cases h
      rfl
    | _ => cases h
  | function f is_operator children => exact absurd h functionToPg_ne_const
  | column => cases h
  | unsupported type => cases h
  | _ => cases hvarchar

/-- The text of the escape argument is left out if it is the default. -/
theorem isDefaultEscape_iff {e : Expr} (hty : e.WellTyped columnType)
    (hvarchar : e.return_type columnType = .VARCHAR)
    (h : ExpressionToString columnType (quote_identifier K name) e = some w) :
    isDefaultEscape e = true ↔ w = "'\\'".toList := by
  constructor
  · intro hdefault
    unfold isDefaultEscape at hdefault
    split at hdefault
    · rw [decide_eq_true_eq] at hdefault
      subst hdefault
      cases h
      rfl
    · cases hdefault
  · rintro rfl
    have hparse := (primary_of_varchar e hty hvarchar h).conjunct.parse_eq
    have hliteral : Pg.parse "'\\'".toList = some (.const (some Pg.defaultEscape)) := rfl
    rw [hliteral, if_neg (by decide), Option.some.injEq] at hparse
    exact isDefaultEscape_of_toPg hvarchar hparse.symm

/-- The text of `like_escape` or `ilike_escape`. -/
theorem like_text {insensitive : Bool} {haystack needle escape : Expr} {column_name : Text}
    (hvarchar : haystack.return_type columnType = .VARCHAR)
    (h : FuncToLikeString columnType (if insensitive then .ilike_escape else .like_escape)
      (childTexts columnType column_name [haystack, needle, escape]) = some w) :
    ∃ haystack_str needle_str escape_str,
      ExpressionToString columnType column_name haystack = some haystack_str ∧
      ExpressionToString columnType column_name needle = some needle_str ∧
      ExpressionToString columnType column_name escape = some escape_str ∧
      w = haystack_str ++ ' ' :: (Pg.likeText insensitive ++ ' ' :: needle_str) ++
        (if escape_str ≠ "'\\'".toList then " ESCAPE ".toList ++ escape_str else []) := by
  have hlike : (if insensitive then ScalarFunction.ilike_escape else .like_escape) = .like_escape ∨
      (if insensitive then ScalarFunction.ilike_escape else .like_escape) = .ilike_escape := by
    cases insensitive <;> simp
  have hword : (if (if insensitive then ScalarFunction.ilike_escape else .like_escape) =
      .ilike_escape then " ILIKE ".toList else " LIKE ".toList) =
      ' ' :: (Pg.likeText insensitive ++ [' ']) := by
    cases insensitive <;> rfl
  simp only [FuncToLikeString, withEscape, childTexts, List.length_cons, List.length_nil, Nat.lt_irrefl,
    if_false, hvarchar, ne_eq, not_true_eq_false, hlike, if_true, Option.bind_eq_bind,
    Option.bind_eq_some_iff, Option.some.injEq, hword, gt_iff_lt, Nat.zero_add] at h
  obtain ⟨haystack_str, hhaystack, needle_str, hneedle, escape_str, hescape, rfl⟩ := h
  refine ⟨haystack_str, needle_str, escape_str, hhaystack, hneedle, hescape, ?_⟩
  split <;> simp

/-- `like_escape` or `ilike_escape`. -/
theorem like_reads (insensitive : Bool) {haystack needle escape : Expr}
    (hty : WellTypedArgs columnType .VARCHAR [haystack, needle, escape])
    (h : FuncToLikeString columnType (if insensitive then .ilike_escape else .like_escape)
      (childTexts columnType (quote_identifier K name) [haystack, needle, escape]) = some w) :
    ReadsText w precLike precLike (some (likeToPg insensitive escape (haystack.toPg name)
      (needle.toPg name) (escape.toPg name))) := by
  obtain ⟨hty₁, hvarchar₁, hty₂, hvarchar₂, hty₃, hvarchar₃, -⟩ := hty
  obtain ⟨haystack_str, needle_str, escape_str, hhaystack, hneedle, hescape, rfl⟩ := like_text hvarchar₁ h
  have hx := primary_of_varchar haystack hty₁ hvarchar₁ hhaystack
  have hy := primary_of_varchar needle hty₂ hvarchar₂ hneedle
  have hz := primary_of_varchar escape hty₃ hvarchar₃ hescape
  have hdefault := isDefaultEscape_iff hty₃ hvarchar₃ hescape
  unfold likeToPg
  cases hbool : isDefaultEscape escape with
  | true =>
    rw [if_neg (not_not.2 (hdefault.1 hbool))]
    have hread := Pg.ReadsText.like insensitive hx hy
    simpa using hread
  | false =>
    rw [hbool] at hdefault
    rw [if_pos (fun hw => Bool.false_ne_true (hdefault.2 hw))]
    have hread := Pg.ReadsText.likeEscape insensitive hx hy hz
    simpa using hread

/-- The text of `~~` or `!~~`. -/
theorem operator_text {op column_name : Text} {is_operator : Bool} {haystack pattern : Expr}
    (h : operatorText columnType op is_operator (childTexts columnType column_name [haystack, pattern]) = some w) :
    ∃ child_str0 child_str1,
      ExpressionToString columnType column_name haystack = some child_str0 ∧
      ExpressionToString columnType column_name pattern = some child_str1 ∧
      w = child_str0 ++ (" OPERATOR(pg_catalog.".toList ++ op ++ ") ".toList) ++ child_str1 := by
  simp only [operatorText, childTexts, Option.bind_eq_bind] at h
  split at h
  · cases h
  · simp only [Option.bind_eq_some_iff, Option.some.injEq] at h
    obtain ⟨child_str0, hchild0, child_str1, hchild1, rfl⟩ := h
    exact ⟨child_str0, child_str1, hchild0, hchild1, rfl⟩

/-- `~~` or `!~~`. -/
theorem operator_reads {op : Text} {is_operator : Bool} {haystack pattern : Expr}
    (hop : Pg.lex ("OPERATOR(pg_catalog.".toList ++ op ++ ")".toList) = some
      [.word "operator".toList, .lparen, .word "pg_catalog".toList, .dot, .op op, .rparen])
    (hty : WellTypedArgs columnType .VARCHAR [haystack, pattern])
    (h : operatorText columnType op is_operator
      (childTexts columnType (quote_identifier K name) [haystack, pattern]) = some w) :
    ReadsText w precLike precLike (some (.operator op (haystack.toPg name) (pattern.toPg name))) := by
  obtain ⟨hty₁, hvarchar₁, hty₂, hvarchar₂, -⟩ := hty
  obtain ⟨child_str0, child_str1, hchild0, hchild1, rfl⟩ := operator_text h
  have hx := primary_of_varchar haystack hty₁ hvarchar₁ hchild0
  have hy := primary_of_varchar pattern hty₂ hvarchar₂ hchild1
  have hread := Pg.ReadsText.binary (n := precLike) (L := precLike) hop (Pg.Shifts.operator op)
    (fun _ => rfl) (by decide) hx.readsText (by decide) (by decide) hy.readsText (by decide)
    fun _ t ht => ⟨ht.trans (by decide), .inl (ht.trans (by decide))⟩
  simpa [applyBoth, Pg.Frame.apply] using hread

/-- Every function that is printed. -/
theorem function_reads {f : ScalarFunction} {is_operator : Bool} {children : List Expr}
    (hty : (Expr.function f is_operator children).WellTyped columnType)
    (h : ExpressionToString columnType (quote_identifier K name) (.function f is_operator children) =
      some w) :
    ReadsText w precLike precLike (some (functionToPg f children (toPgArgs name children))) := by
  cases f with
  | contains | suffix | prefix_ =>
    obtain ⟨haystack, needle, rfl⟩ := List.length_eq_two.1 hty.1
    exact search_reads (by simp) hty.2.1 hty.2.2.1 h
  | like_escape =>
    obtain ⟨haystack, needle, escape, rfl⟩ := List.length_eq_three.1 hty.1
    exact like_reads false hty.2 h
  | ilike_escape =>
    obtain ⟨haystack, needle, escape, rfl⟩ := List.length_eq_three.1 hty.1
    exact like_reads true hty.2 h
  | lower | upper =>
    have hprimary := primary_of_varchar _ hty rfl h
    exact hprimary.readsText.mono (by decide) (by decide)
  | tilde | notTilde =>
    obtain ⟨haystack, pattern, rfl⟩ := List.length_eq_two.1 hty.1
    exact operator_reads rfl hty.2 h
  | other func_name => cases h

end

/-! ## Every expression -/

/-- Once something is printed, the loop joins the texts. -/
theorem conjunctionLoop_eq_some {op : Conj} {q w : Text} {texts : List (Option Text)} (hq : q ≠ [])
    (h : conjunctionLoop op q texts = some w) :
    ∃ ws : List Text, texts = ws.map some ∧ w = op.joinText q ws := by
  induction texts generalizing q with
  | nil =>
    cases h
    exact ⟨[], rfl, rfl⟩
  | cons child_str rest ih =>
    simp only [conjunctionLoop, Option.bind_eq_bind, Option.bind_eq_some_iff, List.isEmpty_iff,
      if_neg hq] at h
    obtain ⟨text, rfl, hloop⟩ := h
    obtain ⟨ws, rfl, rfl⟩ := ih (by simp [hq]) hloop
    refine ⟨text :: ws, rfl, ?_⟩
    simp [Conj.joinText]

/-- The text of IS NULL is the text of its condition. -/
theorem isNull_text {w : Text} {negated : Bool} :
    "(".toList ++ w ++ ") ".toList ++ (if negated then "IS NOT NULL".toList else "IS NULL".toList) =
      ('(' :: w ++ [')']) ++ ' ' :: Pg.isNullText negated := by
  rw [List.append_assoc, List.append_assoc, List.append_assoc]
  rfl

section
variable {K : Keywords} {name : Text} {columnType : LogicalTypeId}

mutual

/-- The text of an expression reads as `reading` says. -/
theorem Expr.printed {w : Text} : ∀ (e : Expr), e.WellTyped columnType →
    ExpressionToString columnType (quote_identifier K name) e = some w →
    e.Printed w (e.reading name)
  | .not arg, hty, h => by
    simp only [ExpressionToString, Option.bind_eq_bind, Option.bind_eq_some_iff,
      Option.some.injEq] at h
    obtain ⟨arg_str, harg, rfl⟩ := h
    exact ⟨_, _, by simp, (Expr.printed arg hty.1 harg).paren, rfl⟩
  | .isNull negated arg, hty, h => by
    simp only [ExpressionToString, Option.bind_eq_bind, Option.bind_eq_some_iff,
      Option.some.injEq] at h
    obtain ⟨arg_str, harg, rfl⟩ := h
    rw [Expr.WellTyped] at hty
    exact ⟨'(' :: arg_str ++ [')'], arg.reading name, isNull_text,
      (Expr.printed arg hty harg).paren, by rw [Expr.reading]⟩
  | .compare op left right, hty, h => by
    simp only [ExpressionToString, Option.bind_eq_bind, Option.bind_eq_some_iff,
      Option.some.injEq] at h
    obtain ⟨arg0_str, hleft, arg1_str, hright, rfl⟩ := h
    exact (Expr.printed left hty.1 hleft).compare (Expr.printed right hty.2.1 hright)
  | .between input lower upper lower_inclusive upper_inclusive, hty, h => by
    simp only [ExpressionToString, Option.bind_eq_bind, Option.bind_eq_some_iff,
      Option.some.injEq] at h
    obtain ⟨input_str, hinput, lower_str, hlower, upper_str, hupper, rfl⟩ := h
    exact (Expr.printed input hty.1 hinput).between (Expr.printed lower hty.2.1 hlower)
      (Expr.printed upper hty.2.2.1 hupper)
  | .conjunction op (child :: children), hty, h => by
    simp only [ExpressionToString, childTexts, List.map_cons, conjunctionLoop, List.isEmpty_nil,
      if_true, List.nil_append, Option.bind_eq_bind, Option.bind_eq_some_iff,
      Option.some.injEq] at h
    obtain ⟨query_filters, ⟨child_str, hchild, hloop⟩, rfl⟩ := h
    have hfirst := (Expr.printed child hty.2.1 hchild).conjunct
    obtain ⟨ws, htexts, rfl⟩ := conjunctionLoop_eq_some hfirst.ne_nil hloop
    exact PrimaryText.join hfirst (printedArgs children hty.2.2.2 htexts)
  | .conjunction op [], hty, h => absurd rfl hty.1
  | .function f is_operator children, hty, h => function_reads hty h
  | .column, _, h => by
    cases h
    exact PrimaryText.quote_identifier
  | .constant (.null _), _, h => by
    cases h
    exact PrimaryText.null
  | .constant (.varchar s), _, h => by
    cases h
    exact PrimaryText.str
  | .constant (.other _), _, h => by cases h
  | .unsupported _, _, h => by cases h

/-- The texts of the children of a conjunction. -/
theorem printedArgs {ws : List Text} : ∀ (args : List Expr), WellTypedArgs columnType .BOOLEAN args →
    (childTexts columnType (quote_identifier K name) args).map (·.2) = ws.map some →
    List.Forall₂ Conjunct ws (readingArgs name args)
  | [], _, h => by
    cases ws with
    | nil => exact .nil
    | cons w ws => cases h
  | arg :: args, hty, h => by
    cases ws with
    | nil => cases h
    | cons w ws =>
      rw [childTexts, List.map_cons, List.map_cons, List.cons.injEq] at h
      exact .cons (Expr.printed arg hty.1 h.1).conjunct (printedArgs args hty.2.2 h.2)

end

end

end PgDuckdb.Scan
