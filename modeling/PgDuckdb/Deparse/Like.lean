import PgDuckdb.Basic
import PgDuckdb.Duck.Literals
import PgDuckdb.Lib.Except

/-!
# LIKE for DuckDB

`LIKE` is an operator to PostgreSQL, `~~`, whose escape character is a backslash. A statement with another one has
its pattern rewritten by a function, `like_escape`. DuckDB has no escape character by default, so the four hooks of
`get_oper_expr` (`pgduckdb_ruleutils.cpp`) write an `ESCAPE` after every pattern, with the argument of `like_escape`
if there is one and the backslash if not.

Matching a rewritten pattern with backslashes is matching the pattern with its own escape character
(`MatchText_do_like_escape`). The text of an operator has its meaning in DuckDB exactly if the pattern is no call of
another function, and the escape string has no columns (`deparsesLike_iff`).
-/

namespace PgDuckdb.Deparse

open Pg (Text)
open Duck (Token Reads)

/-! ## Matching -/

/-- A string matches a pattern, up to a comparison of characters. A pattern that ends with the escape character
matches nothing. -/
def MatchText (same : Char → Char → Bool) (escape : Option Char) : Text → Text → Bool
  | [], s => s.isEmpty
  | c :: p, s =>
    if some c = escape then
      match p, s with
      | d :: p, x :: s => same d x && MatchText same escape p s
      | _, _ => false
    else if c = '%' then s.tails.any (MatchText same escape p)
    else
      match s with
      | [] => false
      | x :: s => (c = '_' || same c x) && MatchText same escape p s

/-- The loop of `do_like_escape`, after an escape character or not. -/
def escapeLoop (e : Char) : Bool → Text → Text
  | _, [] => []
  | afterescape, c :: p =>
    if c = e ∧ afterescape = false then '\\' :: escapeLoop e true p
    else if c = '\\' then (if afterescape then ['\\'] else ['\\', '\\']) ++ escapeLoop e false p
    else c :: escapeLoop e false p

/-- `do_like_escape`, the pattern with backslashes for escape characters. An escape string of more than one character
is an error. -/
def do_like_escape (pat : Text) : Text → Option Text
  | [] => some (pat.flatMap fun c => if c = '\\' then ['\\', '\\'] else [c])
  | [e] => some (if e = '\\' then pat else escapeLoop e false pat)
  | _ => none

section
variable {same : Char → Char → Bool} {p s : Text} {e c d x : Char} {escape : Option Char}

/-- The empty pattern matches the empty text. -/
theorem MatchText_nil : MatchText same escape [] s = s.isEmpty := by
  rw [MatchText]

/-- A character behind the escape stands for itself. -/
theorem MatchText_escaped : MatchText same (some e) (e :: d :: p) s =
    s.head?.any fun x => same d x && MatchText same (some e) p s.tail := by
  cases s with
  | nil => simp [MatchText]
  | cons x s => simp [MatchText]

/-- A pattern that ends with the escape matches nothing. -/
theorem MatchText_escape_end : MatchText same (some e) [e] s = false := by
  simp [MatchText]

/-- A percent sign stands for any part of the text. -/
theorem MatchText_percent (h : some '%' ≠ escape) :
    MatchText same escape ('%' :: p) s = s.tails.any (MatchText same escape p) := by
  rw [MatchText.eq_def]
  dsimp only
  rw [if_neg h, if_pos rfl]

/-- Another character stands for itself, or for any where it is `_`. -/
theorem MatchText_char (h : some c ≠ escape) (hc : c ≠ '%') : MatchText same escape (c :: p) s =
    s.head?.any fun x => (c = '_' || same c x) && MatchText same escape p s.tail := by
  rw [MatchText.eq_def]
  dsimp only
  rw [if_neg h, if_neg hc]
  cases s with
  | nil => rfl
  | cons x s => rfl

/-- A backslash with another one in front of it stands for itself. -/
theorem MatchText_backslash {p' : Text} (h : some '\\' ≠ escape)
    (hrest : MatchText same (some '\\') p' = MatchText same escape p) :
    MatchText same (some '\\') ('\\' :: '\\' :: p') s = MatchText same escape ('\\' :: p) s := by
  have hunderscore : decide ('\\' = '_') = false := by decide
  rw [MatchText_escaped, MatchText_char h (by decide), hrest]
  simp only [hunderscore, Bool.false_or]

/-- Another character. -/
theorem MatchText_congr {p' : Text} (h : some c ≠ escape) (hc : c ≠ '\\')
    (hrest : MatchText same (some '\\') p' = MatchText same escape p) :
    MatchText same (some '\\') (c :: p') s = MatchText same escape (c :: p) s := by
  have hc' : some c ≠ some '\\' := fun heq => hc (Option.some.inj heq)
  by_cases hpercent : c = '%'
  · subst hpercent
    rw [MatchText_percent hc', MatchText_percent h, hrest]
  · rw [MatchText_char hc' hpercent, MatchText_char h hpercent, hrest]

/-- The pattern of the loop, and the pattern after an escape character. -/
theorem MatchText_escapeLoop :
    MatchText same (some '\\') (escapeLoop e false p) = MatchText same (some e) p ∧
      MatchText same (some '\\') ('\\' :: escapeLoop e true p) = MatchText same (some e) (e :: p) := by
  induction p with
  | nil =>
    refine ⟨funext fun s => ?_, funext fun s => ?_⟩
    · rw [escapeLoop, MatchText_nil, MatchText_nil]
    · rw [escapeLoop, MatchText_escape_end, MatchText_escape_end]
  | cons c p ih =>
    obtain ⟨hloop, hafter⟩ := ih
    constructor
    · by_cases hc : c = e
      · rw [escapeLoop, if_pos ⟨hc, rfl⟩, hafter, hc]
      · have hne : some c ≠ some e := fun heq => hc (Option.some.inj heq)
        rw [escapeLoop, if_neg fun h => hc h.1]
        funext s
        by_cases hbackslash : c = '\\'
        · rw [if_pos hbackslash, if_neg Bool.false_ne_true, hbackslash]
          exact MatchText_backslash (hbackslash ▸ hne) hloop
        · rw [if_neg hbackslash]
          exact MatchText_congr hne hbackslash hloop
    · have hnext : escapeLoop e true (c :: p) = c :: escapeLoop e false p := by
        rw [escapeLoop, if_neg fun h => Bool.false_ne_true h.2.symm]
        split
        next hbackslash => rw [if_pos rfl, hbackslash]; rfl
        next => rfl
      funext s
      rw [hnext, MatchText_escaped, MatchText_escaped, hloop]

/-- With its backslashes doubled, a pattern has no escape character. -/
theorem MatchText_double : MatchText same (some '\\') (p.flatMap fun c => if c = '\\' then ['\\', '\\'] else [c]) =
    MatchText same none p := by
  induction p with
  | nil =>
    funext s
    rw [List.flatMap_nil, MatchText_nil, MatchText_nil]
  | cons c p ih =>
    funext s
    rw [List.flatMap_cons]
    by_cases hc : c = '\\'
    · rw [if_pos hc, hc]
      exact MatchText_backslash nofun ih
    · rw [if_neg hc]
      exact MatchText_congr nofun hc ih

end

/-- The escape character of an escape string. -/
def escapeChar : Text → Option (Option Char)
  | [] => some none
  | [e] => some (some e)
  | _ => none

/-- A rewritten pattern matches with backslashes what the pattern matches with its own escape character. -/
theorem MatchText_do_like_escape {same : Char → Char → Bool} {pat esc s : Text} :
    (do_like_escape pat esc).map (MatchText same (some '\\') · s) =
      (escapeChar esc).map (MatchText same · pat s) := by
  cases esc with
  | nil => exact congrArg some (congrFun MatchText_double s)
  | cons e esc =>
    cases esc with
    | nil =>
      by_cases he : e = '\\'
      · rw [do_like_escape, if_pos he, escapeChar, he]
        rfl
      · rw [do_like_escape, if_neg he, escapeChar]
        exact congrArg some (congrFun MatchText_escapeLoop.1 s)
    | cons e' esc => rfl

/-! ## DuckDB -/

/-- What DuckDB reads. -/
structure DuckDB (Row : Type) where
  /-- The value of an operand that is these tokens. -/
  operand : List Token → Option (Row → Option Text)
  operand_str : ∀ s, operand [.str s] = some fun _ => some s
  /-- The characters that are the same but for their case. -/
  sameCase : Char → Char → Bool

section
variable {Row : Type} (D : DuckDB Row)

/-- How characters are compared. -/
def DuckDB.same (insensitive : Bool) (c x : Char) : Bool := if insensitive then D.sameCase c x else c = x

/-- `LIKE ... ESCAPE` of three values. -/
def DuckDB.likeEscape (insensitive : Bool) (s p e : Option Text) : Option Bool := do
  let s ← s
  let p ← p
  let escape ← escapeChar (← e)
  some (MatchText (D.same insensitive) escape p s)

/-- The tokens are an expression with this value. -/
inductive DuckDB.ReadsAs : List Token → (Row → Option Bool) → Prop
  | like {insensitive : Bool} {arg1 arg2 escape : List Token} {s p e : Row → Option Text} :
      D.operand arg1 = some s → D.operand arg2 = some p → D.operand escape = some e →
      DuckDB.ReadsAs (arg1 ++ .word (if insensitive then "ILIKE".toList else "LIKE".toList) :: (arg2 ++
        .word "ESCAPE".toList :: escape)) fun row => D.likeEscape insensitive (s row) (p row) (e row)
  | not {ts : List Token} {value : Row → Option Bool} : DuckDB.ReadsAs ts value →
      DuckDB.ReadsAs (.word "NOT".toList :: ts) fun row => (value row).map (!·)
  | paren {ts : List Token} {value : Row → Option Bool} : DuckDB.ReadsAs ts value →
      DuckDB.ReadsAs (.lparen :: ts ++ [.rparen]) value

/-! ## Expressions -/

/-- An expression, with the text that it is deparsed to. -/
structure Operand where
  text : Text
  tokens : List Token
  value : Row → Option Text
  /-- It has a column of the query. -/
  hasVar : Bool
  reads : Reads text tokens
  reads_value : D.operand tokens = some value

/-- `like_escape` of two values. -/
def like_escape (pat esc : Option Text) : Option Text := do
  let pat ← pat
  do_like_escape pat (← esc)

/-- A call of a function, which may be a cast. Only the functions for `ESCAPE` have their names. -/
structure FuncExpr where
  func_name : Text
  args : List (Operand D)
  text : Text
  value : Row → Option Text
  like_escape : func_name = "like_escape".toList ∨ func_name = "ilike_escape".toList →
    ∃ pat esc, args = [pat, esc] ∧ ∀ row, value row = like_escape (pat.value row) (esc.value row)

/-- The right operand, by the tag of its node. -/
inductive RightArg
  | T_FuncExpr (func : FuncExpr D)
  | other (arg : Operand D)

variable {D}

/-- The value of an argument. -/
def RightArg.value : RightArg D → Row → Option Text
  | .T_FuncExpr func => func.value
  | .other arg => arg.value

/-- The text of an argument. -/
def RightArg.text : RightArg D → Text
  | .T_FuncExpr func => func.text
  | .other arg => arg.text

/-- The operators of PostgreSQL. -/
structure LikeOp where
  insensitive : Bool
  is_negated : Bool
  deriving DecidableEq, Repr

namespace LikeOp

variable (op : LikeOp)

/-- The name of the operator in Postgres. -/
def op_name : Text := (if op.is_negated then ['!'] else []) ++ "~~".toList ++ if op.insensitive then ['*'] else []

/-- The value of an operator. -/
def value (D : DuckDB Row) (s p : Option Text) : Option Bool := do
  let s ← s
  let p ← p
  some (MatchText (D.same op.insensitive) (some '\\') p s != op.is_negated)

end LikeOp

/-! ## The hooks -/

/-- What the vendored code keeps of an operator. -/
structure PGDuckDBGetOperExprContext where
  pg_op_name : Text
  duckdb_op_name : Option Text
  escape_pattern : Text
  is_likeish_op : Bool
  is_negated : Bool
  deriving DecidableEq, Repr

/-- The context of an operator of this name. -/
def operatorContext (op_name : Text) : PGDuckDBGetOperExprContext :=
  if op_name = "~~".toList then ⟨op_name, some "LIKE".toList, "'\\'".toList, true, false⟩
  else if op_name = "~~*".toList then ⟨op_name, some "ILIKE".toList, "'\\'".toList, true, false⟩
  else if op_name = "!~~".toList then ⟨op_name, some "LIKE".toList, "'\\'".toList, true, true⟩
  else if op_name = "!~~*".toList then ⟨op_name, some "ILIKE".toList, "'\\'".toList, true, true⟩
  else ⟨op_name, none, "'\\'".toList, false, false⟩

/-- `pgduckdb_deparse_expression` without the relations that columns belong to. -/
def pgduckdb_deparse_expression (arg : Operand D) : Except PgError Text :=
  if arg.hasVar then .error { errmsg := "bogus varlevelsup: 0 offset 0" } else .ok arg.text

/-- `pg_duckdb_get_oper_expr_make_ctx`: the context, and the right operand, which is the first argument of the
function if there is one. -/
def pg_duckdb_get_oper_expr_make_ctx (op_name : Text) (arg2 : RightArg D) :
    Except PgError (PGDuckDBGetOperExprContext × RightArg D) :=
  let ctx := operatorContext op_name
  match arg2 with
  | .other _ => .ok (ctx, arg2)
  | .T_FuncExpr func =>
    if ctx.is_likeish_op then
      if func.func_name ≠ "like_escape".toList ∧ func.func_name ≠ "ilike_escape".toList then
        .error { errmsg := "Unexpected function in LIKE expression: '" ++ String.ofList func.func_name ++ "'" }
      else
        match func.args with
        | arg :: esc :: _ => do
          return ({ ctx with escape_pattern := ← pgduckdb_deparse_expression esc }, .other arg)
        | _ => .error { errmsg := "missing arguments" }
    else .ok (ctx, arg2)

/-- What is written before the operator. -/
def pg_duckdb_get_oper_expr_prefix (ctx : PGDuckDBGetOperExprContext) : Text :=
  if ctx.is_likeish_op && ctx.is_negated then "NOT (".toList else []

/-- What is written in place of the operator. -/
def pg_duckdb_get_oper_expr_middle (ctx : PGDuckDBGetOperExprContext) : Text :=
  ' ' :: ctx.duckdb_op_name.getD ctx.pg_op_name ++ [' ']

/-- What is written behind the operator. -/
def pg_duckdb_get_oper_expr_suffix (ctx : PGDuckDBGetOperExprContext) : Text :=
  if ctx.is_likeish_op then
    " ESCAPE ".toList ++ ctx.escape_pattern ++ if ctx.is_negated then ")".toList else []
  else []

/-- `get_oper_expr` of a binary operator. -/
def get_oper_expr (op_name : Text) (arg1 : Operand D) (arg2 : RightArg D) : Except PgError Text := do
  let (ctx, arg2) ← pg_duckdb_get_oper_expr_make_ctx op_name arg2
  return '(' :: ( pg_duckdb_get_oper_expr_prefix ctx ++ arg1.text ++ pg_duckdb_get_oper_expr_middle ctx ++ arg2.text ++
    pg_duckdb_get_oper_expr_suffix ctx) ++ [')']

/-- There is a text, and it has the value of the operator. -/
def SameMeaning (op : LikeOp) (arg1 : Operand D) (arg2 : RightArg D) : Prop :=
  ∃ text ts value, get_oper_expr op.op_name arg1 arg2 = .ok text ∧ Duck.lex text = some ts ∧ D.ReadsAs ts value ∧
    ∀ row, value row = op.value D (arg1.value row) (arg2.value row)

/-- The right operand is no call of a function but of those for `ESCAPE`, with an escape string without columns. -/
def Translatable : RightArg D → Prop
  | .other _ => True
  | .T_FuncExpr func => (func.func_name = "like_escape".toList ∨ func.func_name = "ilike_escape".toList) ∧
      ∀ esc ∈ func.args[1]?, esc.hasVar = false

/-! ## The text -/

/-- The context of an operator, with the text of an escape string. -/
def LikeOp.ctx (op : LikeOp) (escape_pattern : Text) : PGDuckDBGetOperExprContext :=
  ⟨op.op_name, some (if op.insensitive then "ILIKE".toList else "LIKE".toList), escape_pattern, true, op.is_negated⟩

/-- The context of a name is that of its operator. -/
theorem operatorContext_op_name (op : LikeOp) : operatorContext op.op_name = op.ctx "'\\'".toList := by
  obtain ⟨insensitive, is_negated⟩ := op
  cases insensitive <;> cases is_negated <;> decide

/-- The text without the outer parentheses and the negation. -/
def likeText (op : LikeOp) (arg1 arg2 esc : Text) : Text :=
  arg1 ++ ' ' :: ((if op.insensitive then "ILIKE".toList else "LIKE".toList) ++ ' ' :: (arg2 ++
    ' ' :: ("ESCAPE".toList ++ ' ' :: esc)))

/-- The tokens of a LIKE with its escape. -/
def likeTokens (op : LikeOp) (arg1 arg2 esc : List Token) : List Token :=
  arg1 ++ .word (if op.insensitive then "ILIKE".toList else "LIKE".toList) :: (arg2 ++ .word "ESCAPE".toList :: esc)

/-- What the hooks write around the operands. -/
theorem oper_expr_text (op : LikeOp) (arg1 arg2 esc : Text) :
    '(' :: ( pg_duckdb_get_oper_expr_prefix (op.ctx esc) ++ arg1 ++ pg_duckdb_get_oper_expr_middle (op.ctx esc) ++
        arg2 ++ pg_duckdb_get_oper_expr_suffix (op.ctx esc)) ++ [')'] =
      '(' :: (if op.is_negated then "NOT".toList ++ ' ' :: ('(' :: likeText op arg1 arg2 esc ++ [')'])
        else likeText op arg1 arg2 esc) ++ [')'] := by
  have hnot : "NOT (".toList = "NOT".toList ++ [' ', '('] := rfl
  have hescape : " ESCAPE ".toList = ' ' :: ("ESCAPE".toList ++ [' ']) := rfl
  have hclose : ")".toList = [')'] := rfl
  obtain ⟨insensitive, is_negated⟩ := op
  simp only [likeText, LikeOp.ctx, pg_duckdb_get_oper_expr_middle, pg_duckdb_get_oper_expr_prefix,
    pg_duckdb_get_oper_expr_suffix, Option.getD_some]
  rw [hnot, hescape, hclose]
  -- what the words are does not matter
  generalize "NOT".toList = not
  generalize "ESCAPE".toList = escape
  generalize (if insensitive = true then "ILIKE".toList else "LIKE".toList) = keyword
  cases is_negated with
  | true =>
    simp only [Bool.and_self, if_true, List.append_assoc, List.cons_append, List.nil_append]
  | false =>
    simp only [Bool.and_false, Bool.false_eq_true, if_false, if_true, List.append_assoc, List.cons_append,
      List.nil_append, List.append_nil]

/-- The text of a LIKE is read as its tokens. -/
theorem reads_likeText {op : LikeOp} {arg1 arg2 esc : Text} {ts1 ts2 ts : List Token} (h1 : Reads arg1 ts1)
    (h2 : Reads arg2 ts2) (h : Reads esc ts) : Reads (likeText op arg1 arg2 esc) (likeTokens op ts1 ts2 ts) := by
  have hescape : Reads "ESCAPE".toList [.word "ESCAPE".toList] := .word rfl
  have hlike : Reads (if op.insensitive then "ILIKE".toList else "LIKE".toList)
      [.word (if op.insensitive then "ILIKE".toList else "LIKE".toList)] := by
    cases op.insensitive with
    | true => exact .word rfl
    | false => exact .word rfl
  have hright := h2.append (hescape.append h.space rfl).space rfl
  exact h1.append (hlike.append hright.space rfl).space rfl

/-- What DuckDB reads of a context with this escape string. -/
theorem readsAs_text {op : LikeOp} {arg1 arg2 esc : Operand D} :
    ∃ ts value, Duck.lex ('(' :: ( pg_duckdb_get_oper_expr_prefix (op.ctx esc.text) ++ arg1.text ++
        pg_duckdb_get_oper_expr_middle (op.ctx esc.text) ++ arg2.text ++
        pg_duckdb_get_oper_expr_suffix (op.ctx esc.text)) ++ [')']) = some ts ∧ D.ReadsAs ts value ∧
      ∀ row, value row = (D.likeEscape op.insensitive (arg1.value row) (arg2.value row) (esc.value row)).map
        (· != op.is_negated) := by
  have hreads := @reads_likeText op _ _ _ _ _ _ arg1.reads arg2.reads esc.reads
  have hlike : D.ReadsAs (likeTokens op arg1.tokens arg2.tokens esc.tokens) fun row =>
      D.likeEscape op.insensitive (arg1.value row) (arg2.value row) (esc.value row) :=
    .like arg1.reads_value arg2.reads_value esc.reads_value
  rw [oper_expr_text]
  cases hnegated : op.is_negated with
  | true =>
    have hnot : Reads "NOT".toList [.word "NOT".toList] := .word rfl
    refine ⟨_, _, (hnot.append hreads.paren.space rfl).paren.lex, .paren (.not (.paren hlike)), fun row => ?_⟩
    simp only [Bool.bne_true]
  | false =>
    refine ⟨_, _, hreads.paren.lex, .paren hlike, fun row => ?_⟩
    simp only [Bool.bne_false, Option.map_id']

/-! ## The value -/

/-- The operator with a rewritten pattern is `LIKE` with the escape string. -/
theorem LikeOp.value_like_escape {op : LikeOp} {s p e : Option Text} : op.value D s (like_escape p e) =
    (D.likeEscape op.insensitive s p e).map (· != op.is_negated) := by
  cases s with
  | none => rfl
  | some s =>
    cases p with
    | none => rfl
    | some p =>
      cases e with
      | none => rfl
      | some e =>
        have hmatch := @MatchText_do_like_escape (D.same op.insensitive) p e s
        change (do let pat ← do_like_escape p e; some (MatchText _ _ pat s != op.is_negated)) =
          Option.map _ (do let escape ← escapeChar e; some (MatchText _ escape p s))
        cases hpat : do_like_escape p e with
        | none =>
          rw [hpat] at hmatch
          rw [Option.map_eq_none_iff.1 hmatch.symm]
          rfl
        | some pat =>
          rw [hpat] at hmatch
          obtain ⟨escape, hescape, heq⟩ := Option.map_eq_some_iff.1 hmatch.symm
          rw [hescape]
          exact congrArg (fun b => some (b != op.is_negated)) heq.symm

/-- A backslash changes nothing. -/
theorem like_escape_backslash (p : Option Text) : like_escape p (some ['\\']) = p := by
  cases p with
  | none => rfl
  | some p => rfl

/-- The escape string of the hooks. -/
def backslash (D : DuckDB Row) : Operand D where
  text := "'\\'".toList
  tokens := [.str ['\\']]
  value _ := some ['\\']
  hasVar := false
  reads := @Reads.str ['\\']
  reads_value := D.operand_str ['\\']

/-! ## The hooks -/

/-- An operator with its escape means what it did. -/
theorem sameMeaning_of_ctx {op : LikeOp} {arg2 : RightArg D} (arg1 arg esc : Operand D)
    (hctx : pg_duckdb_get_oper_expr_make_ctx op.op_name arg2 = .ok (op.ctx esc.text, .other arg))
    (hvalue : ∀ row, arg2.value row = like_escape (arg.value row) (esc.value row)) : SameMeaning op arg1 arg2 := by
  obtain ⟨ts, value, hlex, hreads, heq⟩ := @readsAs_text _ _ op arg1 arg esc
  refine ⟨_, ts, value, ?_, hlex, hreads, fun row => ?_⟩
  · rw [get_oper_expr, hctx]
    rfl
  · rw [heq, hvalue, LikeOp.value_like_escape]

/-- An argument from like_escape gives its own escape. -/
theorem make_ctx_like_escape {op : LikeOp} {func : FuncExpr D} {arg esc : Operand D}
    (hname : func.func_name = "like_escape".toList ∨ func.func_name = "ilike_escape".toList)
    (hargs : func.args = [arg, esc]) (hvar : esc.hasVar = false) :
    pg_duckdb_get_oper_expr_make_ctx op.op_name (.T_FuncExpr func) = .ok (op.ctx esc.text, .other arg) := by
  have hnot : ¬(func.func_name ≠ "like_escape".toList ∧ func.func_name ≠ "ilike_escape".toList) :=
    fun h => hname.elim h.1 h.2
  simp only [pg_duckdb_get_oper_expr_make_ctx, operatorContext_op_name, LikeOp.ctx, if_true, if_neg hnot, hargs,
    pgduckdb_deparse_expression, hvar, Bool.false_eq_true, if_false]
  rfl

/-- A context needs an operand that may be translated. -/
theorem translatable_of_make_ctx {op : LikeOp} {arg2 : RightArg D} {r : PGDuckDBGetOperExprContext × RightArg D}
    (h : pg_duckdb_get_oper_expr_make_ctx op.op_name arg2 = .ok r) : Translatable arg2 := by
  cases arg2 with
  | other arg => trivial
  | T_FuncExpr func =>
    simp only [pg_duckdb_get_oper_expr_make_ctx, operatorContext_op_name, LikeOp.ctx, if_true] at h
    split at h
    next => cases h
    next hname =>
      have hname' : func.func_name = "like_escape".toList ∨ func.func_name = "ilike_escape".toList := by
        by_contra hno
        exact hname (not_or.1 hno)
      obtain ⟨arg, esc, hargs, -⟩ := func.like_escape hname'
      rw [hargs] at h
      obtain ⟨text, htext, -⟩ := Lib.bind_eq_ok.1 h
      refine ⟨hname', fun esc' hesc' => ?_⟩
      rw [hargs] at hesc'
      cases hesc'
      rw [pgduckdb_deparse_expression] at htext
      split at htext
      next => cases htext
      next hvar => exact Bool.eq_false_iff.2 hvar

end

/-- The text of an operator has its meaning exactly if the right operand may be translated. -/
theorem deparsesLike_iff {Row : Type} (D : DuckDB Row) (op : LikeOp) (arg1 : Operand D) (arg2 : RightArg D) :
    SameMeaning op arg1 arg2 ↔ Translatable arg2 := by
  constructor
  · rintro ⟨text, -, -, htext, -⟩
    obtain ⟨r, hctx, -⟩ := Lib.bind_eq_ok.1 htext
    exact translatable_of_make_ctx hctx
  · intro h
    cases arg2 with
    | other arg =>
      refine sameMeaning_of_ctx arg1 arg (backslash D) ?_ fun row => (like_escape_backslash _).symm
      rw [pg_duckdb_get_oper_expr_make_ctx, operatorContext_op_name]
      rfl
    | T_FuncExpr func =>
      obtain ⟨hname, hvar⟩ := h
      obtain ⟨arg, esc, hargs, hvalue⟩ := func.like_escape hname
      have hesc : esc.hasVar = false := hvar esc (by rw [hargs]; rfl)
      exact sameMeaning_of_ctx arg1 arg esc (make_ctx_like_escape hname hargs hesc) hvalue

/-- Columns and strings, in rows of named values. -/
def columnsAndStrings : DuckDB (Text → Option Text) where
  operand ts :=
    match ts with
    | [.word w] => some fun row => row w
    | [.str s] => some fun _ => some s
    | [.word f, .lparen, .word w, .rparen] =>
      if f = "lower".toList then some fun row => (row w).map (·.map Char.toLower) else none
    | _ => none
  operand_str _ := rfl
  sameCase c x := c.toLower = x.toLower

/-- A column with the name of a letter. -/
def column (c : Char) (hc : Duck.isWord [c] = true) : Operand columnsAndStrings where
  text := [c]
  tokens := [.word [c]]
  value row := row [c]
  hasVar := true
  reads := .word hc
  reads_value := rfl

/-- `lower(b)`. -/
def lowerOfColumn : FuncExpr columnsAndStrings where
  func_name := "lower".toList
  args := [column 'b' rfl]
  text := "lower(b)".toList
  value row := (row "b".toList).map (·.map Char.toLower)
  like_escape h := absurd h (by decide)

/-- `b ESCAPE c`. -/
def escapeByColumn : FuncExpr columnsAndStrings where
  func_name := "like_escape".toList
  args := [column 'b' rfl, column 'c' rfl]
  text := "like_escape(b, c)".toList
  value row := like_escape (row "b".toList) (row "c".toList)
  like_escape _ := ⟨_, _, rfl, fun _ => rfl⟩

/-- `a LIKE lower(b)` and `a LIKE b ESCAPE c` are errors. -/
theorem not_deparsesLike : ¬SameMeaning ⟨false, false⟩ (column 'a' rfl) (.T_FuncExpr lowerOfColumn) ∧
    ¬SameMeaning ⟨false, false⟩ (column 'a' rfl) (.T_FuncExpr escapeByColumn) := by
  constructor
  · rintro ⟨text, -, -, htext, -⟩
    cases htext
  · rintro ⟨text, -, -, htext, -⟩
    cases htext

end PgDuckdb.Deparse
