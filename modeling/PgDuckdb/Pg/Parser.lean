import PgDuckdb.Pg.Expr

/-!
# Reading a condition with PostgreSQL's precedences

A shift-reduce parser for the conditions of `PgDuckdb.Pg.Expr`, which decides between shifting an
operator and reducing the one below it as the precedence declarations of PostgreSQL's grammar do.
From the loosest to the tightest: `OR`, `AND`, `NOT`, `IS` (not associative), the comparisons (not
associative), `LIKE`, `ILIKE` and `IN` (not associative), and other operators. A prefix `NOT` may stand
wherever an operand may.

The keywords `NOT LIKE`, `NOT IN`, `BETWEEN` and `SIMILAR TO` after an operand are not part of it, and a
call has one argument.
-/

namespace PgDuckdb.Pg

/-! ## The parser -/

/-- An operator whose right operand is not complete, or an open parenthesis. -/
inductive Frame
  | paren
  /-- `f (`. -/
  | call (f : Text)
  /-- `x IN (`, and the disjunction for the elements read so far. -/
  | inList (x : Expr) (acc : Option Expr)
  | not
  | or (l : Expr)
  | and (l : Expr)
  | distinct (negated : Bool) (l : Expr)
  | compare (op : CompareOp) (l : Expr)
  | like (insensitive : Bool) (s : Expr)
  | escape (insensitive : Bool) (s p : Expr)
  | operator (name : Text) (l : Expr)
  deriving DecidableEq, Repr

/-- The precedences, by their level. -/
def precOr : Nat := 1
/-- The precedence of AND. -/
def precAnd : Nat := 2
/-- The precedence of NOT. -/
def precNot : Nat := 3
/-- The precedence of IS. -/
def precIs : Nat := 4
/-- The precedence of comparisons. -/
def precCompare : Nat := 5
/-- The precedence of LIKE. -/
def precLike : Nat := 6
/-- The precedence of operators. -/
def precOperator : Nat := 7

namespace Frame

/-- The precedence of the rule that the frame belongs to; an open parenthesis has none. -/
def prec : Frame → Option Nat
  | .paren | .call _ | .inList _ _ => none
  | .not => some precNot
  | .or _ => some precOr
  | .and _ => some precAnd
  | .distinct _ _ => some precIs
  | .compare _ _ => some precCompare
  | .like _ _ | .escape _ _ _ => some precLike
  | .operator _ _ => some precOperator

/-- Declared `%left`; the others are `%nonassoc`, and `NOT` never meets its own level. -/
def leftAssoc : Frame → Bool
  | .or _ | .and _ | .operator _ _ => true
  | _ => false

/-- The expression of a frame whose operand is complete. -/
def apply : Frame → Expr → Expr
  | .not, e => .not e
  | .or l, e => .or l e
  | .and l, e => .and l e
  | .distinct negated l, e => .distinct negated l e
  | .compare op l, e => .compare op l e
  | .like insensitive s, e => .like insensitive s e
  | .escape insensitive s p, e => .likeEscape insensitive s p e
  | .operator name l, e => .operator name l e
  | .paren, e | .call _, e | .inList _ _, e => e

end Frame

/-- Before an operator of precedence `t`, reduce the frames that bind tighter. -/
def reduce (t : Nat) : List Frame → Expr → Option (List Frame × Expr)
  | [], e => some ([], e)
  | f :: S, e =>
    match f.prec with
    | none => some (f :: S, e)
    | some p =>
      if t < p ∨ (t = p ∧ f.leftAssoc = true) then reduce t S (f.apply e)
      else if t = p then none
      else some (f :: S, e)

/-- Before `ESCAPE`, reduce up to the `LIKE` it belongs to. -/
def reduceToLike : List Frame → Expr → Option (List Frame × Frame)
  | .like insensitive s :: S, e => some (S, .escape insensitive s e)
  | f :: S, e => if f.prec.isNone then none else reduceToLike S (f.apply e)
  | [], _ => none

/-- Where the parser is between two tokens. -/
inductive Mode
  | operand
  /-- After a minus sign. -/
  | minus
  /-- After an identifier: a column, unless a parenthesis follows. -/
  | name (w : Text)
  | value (e : Expr)
  /-- After `IS`, `IS NOT`, `IS [NOT] DISTINCT`. -/
  | is (e : Expr)
  | isNot (e : Expr)
  | isDistinct (negated : Bool) (e : Expr)
  /-- After `IN`. -/
  | inParen (e : Expr)
  /-- Inside `OPERATOR(pg_catalog.name)`. -/
  | opParen (e : Expr)
  | opSchema (e : Expr)
  | opDot (e : Expr)
  | opSymbol (e : Expr)
  | opClose (e : Expr) (name : Text)
  deriving DecidableEq, Repr

/-- The operand that is complete. -/
def Mode.value? : Mode → Option Expr
  | .name w => some (.column w)
  | .value e => some e
  | _ => none

/-- The state of the parser. -/
abbrev ParseState := List Frame × Mode

/-- The words that cannot be a column name. -/
def reservedWords : List Text :=
  ["and", "or", "not", "is", "null", "distinct", "from", "like", "ilike", "in"].map String.toList

/-- The symbols of the comparison operators. -/
def compareOf (s : Text) : Option CompareOp :=
  if s = "=".toList then some .eq
  else if s = "!=".toList ∨ s = "<>".toList then some .ne
  else if s = "<".toList then some .lt
  else if s = ">".toList then some .gt
  else if s = "<=".toList then some .le
  else if s = ">=".toList then some .ge
  else none

/-- The number of its digits. -/
def numberOf (w : Text) : Option Int :=
  if w.all Char.isDigit then some (w.foldl (fun n c => 10 * n + (c.toNat - '0'.toNat)) 0 : Nat)
  else none

/-- A token where an operand may start. -/
def operandStep (S : List Frame) : Token → Option ParseState
  | .lparen => some (.paren :: S, .operand)
  | .str s => some (S, .value (.const (some s)))
  | .num w => (numberOf w).map fun n => (S, .value (.num n))
  | .op s => if s = "-".toList then some (S, .minus) else none
  | .quoted w => some (S, .name w)
  | .word w =>
    if w = "not".toList then some (.not :: S, .operand)
    else if w = "null".toList then some (S, .value (.const none))
    else if w ∈ reservedWords then none
    else some (S, .name w)
  | _ => none

/-- Push the frame of a binary operator of precedence `t`. -/
def shift (t : Nat) (frame : Expr → Frame) (S : List Frame) (e : Expr) : Option ParseState := do
  let (S, e) ← reduce t S e
  some (frame e :: S, .operand)

/-- The end of a parenthesis. -/
def close : List Frame × Expr → Option ParseState
  | (.paren :: S, e) => some (S, .value e)
  | (.call f :: S, e) => some (S, .value (.call f e))
  | (.inList x acc :: S, e) =>
    let element := Expr.compare .eq x e
    some (S, .value (acc.elim element (.or · element)))
  | _ => none

/-- A comma of a list. -/
def nextElement : List Frame × Expr → Option ParseState
  | (.inList x acc :: S, e) =>
    let element := Expr.compare .eq x e
    some (.inList x (some (acc.elim element (.or · element))) :: S, .operand)
  | _ => none

/-- A keyword after an operand. -/
def wordStep (S : List Frame) (e : Expr) (w : Text) : Option ParseState :=
  if w = "and".toList then shift precAnd .and S e
  else if w = "or".toList then shift precOr .or S e
  else if w = "is".toList then (reduce precIs S e).map fun r => (r.1, .is r.2)
  else if w = "like".toList then shift precLike (.like false) S e
  else if w = "ilike".toList then shift precLike (.like true) S e
  else if w = "in".toList then (reduce precLike S e).map fun r => (r.1, .inParen r.2)
  else if w = "escape".toList then (reduceToLike S e).map fun r => (r.2 :: r.1, .operand)
  else if w = "operator".toList then (reduce precOperator S e).map fun r => (r.1, .opParen r.2)
  else none

/-- A token after an operand. -/
def operatorStep (S : List Frame) (e : Expr) : Token → Option ParseState
  | .rparen => (reduce 0 S e).bind close
  | .comma => (reduce 0 S e).bind nextElement
  | .word w => wordStep S e w
  | .op s =>
    match compareOf s with
    | some op => shift precCompare (.compare op) S e
    | none => shift precOperator (.operator s) S e
  | _ => none

/-- One token. -/
def parseStep (st : ParseState) (t : Token) : Option ParseState :=
  match st with
  | (S, .operand) => operandStep S t
  | (S, .minus) =>
    match t with
    | .num w => (numberOf w).map fun n => (S, .value (.num (-n)))
    | _ => none
  | (S, .name w) =>
    if t = .lparen then some (.call w :: S, .operand) else operatorStep S (.column w) t
  | (S, .value e) => operatorStep S e t
  | (S, .is e) =>
    if t = .word "null".toList then some (S, .value (.isNull false e))
    else if t = .word "not".toList then some (S, .isNot e)
    else if t = .word "distinct".toList then some (S, .isDistinct false e)
    else none
  | (S, .isNot e) =>
    if t = .word "null".toList then some (S, .value (.isNull true e))
    else if t = .word "distinct".toList then some (S, .isDistinct true e)
    else none
  | (S, .isDistinct negated e) =>
    if t = .word "from".toList then some (.distinct negated e :: S, .operand) else none
  | (S, .inParen e) => if t = .lparen then some (.inList e none :: S, .operand) else none
  | (S, .opParen e) => if t = .lparen then some (S, .opSchema e) else none
  | (S, .opSchema e) => if t = .word "pg_catalog".toList then some (S, .opDot e) else none
  | (S, .opDot e) => if t = .dot then some (S, .opSymbol e) else none
  | (S, .opSymbol e) =>
    match t with
    | .op s => some (S, .opClose e s)
    | _ => none
  | (S, .opClose e s) => if t = .rparen then some (.operator s e :: S, .operand) else none

/-- The parser on a list of tokens. -/
def parseRun (st : ParseState) (ts : List Token) : Option ParseState := ts.foldlM parseStep st

/-- The end of the text. -/
def parseEnd (st : ParseState) : Option Expr := do
  let e ← st.2.value?
  match ← reduce 0 st.1 e with
  | ([], e) => some e
  | _ => none

/-- Reading a text as a condition. It is passed on by its pointer. -/
def parse (w : Text) : Option Expr := do
  let ts ← lex (c_str w)
  let st ← parseRun ([], .operand) ts
  parseEnd st

end PgDuckdb.Pg
