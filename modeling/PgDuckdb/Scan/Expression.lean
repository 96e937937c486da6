import PgDuckdb.Pg.Reading

/-!
# Expressions that are pushed down

The bound DuckDB expressions over one column that a filter may be made of, what they evaluate to, and
`ExpressionToString`, which prints such an expression as a condition for PostgreSQL or gives up.
`Expr.WellTyped` is what DuckDB's binder ensures of the types of a bound expression.
-/

namespace PgDuckdb.Scan

open Pg (Text Val Scalars CompareOp Conj)

/-! ## Bound expressions -/

/-- `LogicalTypeId`. -/
inductive LogicalTypeId
  | BOOLEAN
  | VARCHAR
  | other (n : Nat)
  deriving DecidableEq, Repr

/-- `Value`, a constant. -/
inductive Value
  | null (type : LogicalTypeId)
  | varchar (s : Text)
  /-- A constant of another type, which is never printed. -/
  | other (type : LogicalTypeId)
  deriving DecidableEq, Repr

/-- The type of a value. -/
def Value.type : Value → LogicalTypeId
  | .null type | .other type => type
  | .varchar _ => .VARCHAR

/-- The comparisons of `ExpressionType`. -/
inductive CompareType
  | EQUAL
  | NOTEQUAL
  | LESSTHAN
  | GREATERTHAN
  | LESSTHANOREQUALTO
  | GREATERTHANOREQUALTO
  | DISTINCT_FROM
  | NOT_DISTINCT_FROM
  deriving DecidableEq, Repr

/-- `ExpressionTypeToOperator`. -/
def CompareType.toOperator : CompareType → Text
  | .EQUAL => "=".toList
  | .NOTEQUAL => "!=".toList
  | .LESSTHAN => "<".toList
  | .GREATERTHAN => ">".toList
  | .LESSTHANOREQUALTO => "<=".toList
  | .GREATERTHANOREQUALTO => ">=".toList
  | .DISTINCT_FROM => "IS DISTINCT FROM".toList
  | .NOT_DISTINCT_FROM => "IS NOT DISTINCT FROM".toList

/-- A scalar function, by its name. -/
inductive ScalarFunction
  | contains
  | suffix
  | prefix_
  | like_escape
  | ilike_escape
  | lower
  | upper
  /-- `~~`. -/
  | tilde
  /-- `!~~`. -/
  | notTilde
  | other (name : Text)
  deriving DecidableEq, Repr

/-- A bound expression over one column. -/
inductive Expr
  | not (arg : Expr)
  /-- `OPERATOR_IS_NULL`, or negated `OPERATOR_IS_NOT_NULL`. -/
  | isNull (negated : Bool) (arg : Expr)
  | compare (op : CompareType) (left right : Expr)
  | between (input lower upper : Expr) (lower_inclusive upper_inclusive : Bool)
  | conjunction (op : Conj) (children : List Expr)
  | function (f : ScalarFunction) (is_operator : Bool) (children : List Expr)
  | column
  | constant (value : Value)
  | unsupported (type : LogicalTypeId)

/-- The type of a function's result. -/
def ScalarFunction.return_type : ScalarFunction → LogicalTypeId
  | .lower | .upper => .VARCHAR
  | .other _ => .other 0
  | _ => .BOOLEAN

/-- `return_type`, given the type of the column. -/
def Expr.return_type (columnType : LogicalTypeId) : Expr → LogicalTypeId
  | .not _ | .isNull _ _ | .compare _ _ _ | .between _ _ _ _ _ | .conjunction _ _ => .BOOLEAN
  | .function f _ _ => f.return_type
  | .column => columnType
  | .constant value => value.type
  | .unsupported type => type

/-- The number of arguments of a function that is printed. All of them are strings. -/
def ScalarFunction.arity : ScalarFunction → Option Nat
  | .contains | .suffix | .prefix_ | .tilde | .notTilde => some 2
  | .like_escape | .ilike_escape => some 3
  | .lower | .upper => some 1
  | .other _ => none

mutual

/-- The types of a bound expression fit. -/
def Expr.WellTyped (columnType : LogicalTypeId) : Expr → Prop
  | .not arg => arg.WellTyped columnType ∧ arg.return_type columnType = .BOOLEAN
  | .isNull _ arg => arg.WellTyped columnType
  | .compare _ left right =>
    left.WellTyped columnType ∧ right.WellTyped columnType ∧
      left.return_type columnType = right.return_type columnType
  | .between input lower upper _ _ =>
    input.WellTyped columnType ∧ lower.WellTyped columnType ∧ upper.WellTyped columnType ∧
      input.return_type columnType = lower.return_type columnType ∧
      input.return_type columnType = upper.return_type columnType
  | .conjunction _ children => children ≠ [] ∧ WellTypedArgs columnType .BOOLEAN children
  | .function f _ children =>
    match f.arity with
    | some n => children.length = n ∧ WellTypedArgs columnType .VARCHAR children
    | none => True
  | .column | .constant _ | .unsupported _ => True

/-- The arguments of a function or the children of a conjunction. -/
def WellTypedArgs (columnType type : LogicalTypeId) : List Expr → Prop
  | [] => True
  | arg :: args =>
    arg.WellTyped columnType ∧ arg.return_type columnType = type ∧
      WellTypedArgs columnType type args

end

/-! ## Values -/

/-- The value of a comparison. -/
def CompareType.eval (F : Scalars) : CompareType → Option Val → Option Val → Option Val
  | .EQUAL => Pg.compare3 F .eq
  | .NOTEQUAL => Pg.compare3 F .ne
  | .LESSTHAN => Pg.compare3 F .lt
  | .GREATERTHAN => Pg.compare3 F .gt
  | .LESSTHANOREQUALTO => Pg.compare3 F .le
  | .GREATERTHANOREQUALTO => Pg.compare3 F .ge
  | .DISTINCT_FROM => Pg.distinct3 F false
  | .NOT_DISTINCT_FROM => Pg.distinct3 F true

/-- `AND` or `OR` of values, in three-valued logic. -/
def conj3 (op : Conj) : List (Option Val) → Option Val
  | [] => some (.bool (op = .and))
  | x :: xs => xs.foldl (match op with | .and => Pg.and3 | .or => Pg.or3) x

/-- A search for the second string in the first. -/
def search3 (found : Text → Text → Bool) : Option Val → Option Val → Option Val
  | some (.str haystack), some (.str needle) => some (.bool (found needle haystack))
  | _, _ => none

/-- The value of a function. -/
def ScalarFunction.eval (F : Scalars) : ScalarFunction → List (Option Val) → Option Val
  | .contains, [x, y] => search3 (fun needle haystack => decide (needle <:+: haystack)) x y
  | .suffix, [x, y] => search3 (fun needle haystack => decide (needle <:+ haystack)) x y
  | .prefix_, [x, y] => search3 (fun needle haystack => decide (needle <+: haystack)) x y
  | .like_escape, [x, y, z] => Pg.like3 F false x y z
  | .ilike_escape, [x, y, z] => Pg.like3 F true x y z
  | .lower, [x] => Pg.call3 F.lower x
  | .upper, [x] => Pg.call3 F.upper x
  | .tilde, [x, y] => Pg.tilde3 F false x y
  | .notTilde, [x, y] => Pg.tilde3 F true x y
  | _, _ => none

/-- The value of a constant. -/
def Value.eval : Value → Option Val
  | .varchar s => some (.str s)
  | _ => none

mutual

/-- The value of an expression, given the value of the column. -/
def Expr.eval (F : Scalars) (v : Option Val) : Expr → Option Val
  | .not arg => Pg.not3 (arg.eval F v)
  | .isNull negated arg => Pg.isNull negated (arg.eval F v)
  | .compare op left right => op.eval F (left.eval F v) (right.eval F v)
  | .between input lower upper lower_inclusive upper_inclusive =>
    Pg.and3
      (Pg.compare3 F (if lower_inclusive then .ge else .gt) (input.eval F v) (lower.eval F v))
      (Pg.compare3 F (if upper_inclusive then .le else .lt) (input.eval F v) (upper.eval F v))
  | .conjunction op children => conj3 op (evalArgs F v children)
  | .function f _ children => f.eval F (evalArgs F v children)
  | .column => v
  | .constant value => value.eval
  | .unsupported _ => none

/-- The values of the arguments. -/
def evalArgs (F : Scalars) (v : Option Val) : List Expr → List (Option Val)
  | [] => []
  | arg :: args => arg.eval F v :: evalArgs F v args

end

/-! ## Printing -/

/-- `StringUtil::Replace` of one character. -/
def replaceChar (c : Char) (by' : Text) (w : Text) : Text :=
  w.flatMap fun d => if d = c then by' else [d]

/-- `ToSQLString` of a VARCHAR. -/
def ToSQLString (s : Text) : Text := '\'' :: Text.escapeQuotes '\'' s ++ ['\'']

/-- The needle of `FuncArgToLikeString`, escaped for the literal and for the pattern. -/
def escapeNeedle (s : Text) : Text :=
  replaceChar '_' "\\_".toList (replaceChar '%' "\\%".toList
    (replaceChar '\\' "\\\\".toList (replaceChar '\'' "''".toList s)))

/-- `FuncArgToLikeString`. For a function that it does not know it throws; `FuncToLikeString` calls
it for these three only. -/
def FuncArgToLikeString (f : ScalarFunction) : Expr → Option Text
  | .constant (.null _) => some "NULL".toList
  | .constant (.varchar s) =>
    match f with
    | .contains => some ("'%".toList ++ escapeNeedle s ++ "%'".toList)
    | .suffix => some ("'%".toList ++ escapeNeedle s ++ "'".toList)
    | .prefix_ => some ("'".toList ++ escapeNeedle s ++ "%'".toList)
    | _ => none
  | _ => none

/-- The end of `FuncToLikeString`: the third argument, if there is one, is the escape character. -/
def withEscape (oss : Text) : List (Expr × Option Text) → Option Text
  | [] => some oss
  | escape_char :: _ => do
    let escape_str ← escape_char.2
    some (if escape_str ≠ "'\\'".toList then oss ++ " ESCAPE ".toList ++ escape_str else oss)

/-- `FuncToLikeString`. A child comes with what `ExpressionToString` returns for it. -/
def FuncToLikeString (columnType : LogicalTypeId) (f : ScalarFunction)
    (children : List (Expr × Option Text)) : Option Text :=
  match children with
  | haystack :: needle :: rest =>
    if rest.length > 1 then none
    else if haystack.1.return_type columnType ≠ .VARCHAR then none
    else do
      let haystack_str ← haystack.2
      let needle_str ← if f = .like_escape ∨ f = .ilike_escape then needle.2
        else FuncArgToLikeString f needle.1
      withEscape (haystack_str ++
        (if f = .ilike_escape then " ILIKE ".toList else " LIKE ".toList) ++ needle_str) rest
  | _ => none

/-- The operators that `ExpressionToString` prints for `~~` and `!~~`. -/
def operatorText (columnType : LogicalTypeId) (name : Text) (is_operator : Bool)
    (children : List (Expr × Option Text)) : Option Text :=
  match children with
  | [haystack, pattern] =>
    if is_operator = false ∨ haystack.1.return_type columnType ≠ .VARCHAR then none
    else do
      let child_str0 ← haystack.2
      let child_str1 ← pattern.2
      some (child_str0 ++ (" OPERATOR(pg_catalog.".toList ++ name ++ ") ".toList) ++ child_str1)
  | _ => none

/-- `lower` or `upper`. -/
def callText (func_name : Text) (children : List (Expr × Option Text)) : Option Text :=
  match children with
  | child :: _ => child.2.map fun child_str => func_name ++ "(".toList ++ child_str ++ ")".toList
  | [] => none

/-- `ExpressionToString` of a `BOUND_FUNCTION`. -/
def functionText (columnType : LogicalTypeId) (f : ScalarFunction) (is_operator : Bool)
    (children : List (Expr × Option Text)) : Option Text :=
  match f with
  | .contains | .suffix | .prefix_ | .like_escape | .ilike_escape =>
    FuncToLikeString columnType f children
  | .lower => callText "lower".toList children
  | .upper => callText "upper".toList children
  | .tilde => operatorText columnType "~~".toList is_operator children
  | .notTilde => operatorText columnType "!~~".toList is_operator children
  | .other _ => none

/-- The loop over the children of a conjunction. -/
def conjunctionLoop (op : Conj) (query_filters : Text) : List (Option Text) → Option Text
  | [] => some query_filters
  | child_str :: rest => do
    let child_str ← child_str
    let query_filters :=
      if query_filters.isEmpty then query_filters
      else query_filters ++ " ".toList ++ op.text ++ " ".toList
    conjunctionLoop op (query_filters ++ child_str) rest

/-- The comparison of `between`, in its own parentheses. -/
def compareText (left : Text) (op : CompareType) (right : Text) : Text :=
  "(".toList ++ left ++ " ".toList ++ op.toOperator ++ " ".toList ++ right ++ ")".toList

mutual

/-- `ExpressionToString`. -/
def ExpressionToString (columnType : LogicalTypeId) (column_name : Text) : Expr → Option Text
  | .not arg => do
    let arg_str ← ExpressionToString columnType column_name arg
    some ("NOT (".toList ++ arg_str ++ ")".toList)
  | .isNull negated arg => do
    let arg_str ← ExpressionToString columnType column_name arg
    let operator_str := if negated then "IS NOT NULL".toList else "IS NULL".toList
    some ("(".toList ++ arg_str ++ ") ".toList ++ operator_str)
  | .compare op left right => do
    let arg0_str ← ExpressionToString columnType column_name left
    let arg1_str ← ExpressionToString columnType column_name right
    some (compareText arg0_str op arg1_str)
  | .between input lower upper lower_inclusive upper_inclusive => do
    let input_str ← ExpressionToString columnType column_name input
    let lower_str ← ExpressionToString columnType column_name lower
    let upper_str ← ExpressionToString columnType column_name upper
    let lower_comp := if lower_inclusive then .GREATERTHANOREQUALTO else .GREATERTHAN
    let upper_comp := if upper_inclusive then .LESSTHANOREQUALTO else .LESSTHAN
    some ("(".toList ++ compareText input_str lower_comp lower_str ++ " AND ".toList ++
      compareText input_str upper_comp upper_str ++ ")".toList)
  | .conjunction op children => do
    let query_filters ←
      conjunctionLoop op [] ((childTexts columnType column_name children).map (·.2))
    some ("(".toList ++ query_filters ++ ")".toList)
  | .function f is_operator children =>
    functionText columnType f is_operator (childTexts columnType column_name children)
  | .column => some column_name
  | .constant value =>
    match value with
    | .null _ => some "NULL".toList
    | .varchar s => some (ToSQLString s)
    | .other _ => none
  | .unsupported _ => none

/-- The children of an expression with their texts. -/
def childTexts (columnType : LogicalTypeId) (column_name : Text) :
    List Expr → List (Expr × Option Text)
  | [] => []
  | child :: children =>
    (child, ExpressionToString columnType column_name child) ::
      childTexts columnType column_name children

end

/-- `PostgresScanPushdownExpression`. -/
def PostgresScanPushdownExpression (columnType : LogicalTypeId) (expr : Expr) : Bool :=
  (ExpressionToString columnType "dummy".toList expr).isSome

end PgDuckdb.Scan
