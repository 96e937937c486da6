import Mathlib.Data.List.Forall2
import PgDuckdb.Scan.Pushdown

/-!
# The filters of a column

DuckDB hands a scan a tree of filters for each column. `ExtractQueryFilters` prints the tree as a
condition; it leaves out what it does not know inside an optional filter, drops an `OR` with such a
child as a whole, and throws on an unknown filter outside the optional ones. `extract_spec` says for
every tree which of the three happens, in terms of the tree alone (`reached`, `droppable`), and what the
condition means. The texts of the filters that DuckDB prints are added by their pointers.

An `OR` is dropped at its first child that is dropped, so an unknown filter behind that child is not
reached and does not throw.
-/

namespace PgDuckdb.Scan

open Pg (Text Val Scalars Conj Keywords PrimaryText Conjunct quote_identifier)

/-! ## Filters -/

/-- The filters that DuckDB prints itself: `CONSTANT_COMPARISON`, `IS_NULL`, `IS_NOT_NULL` and
`IN_FILTER`. Their texts, read to the end, mean the filters. -/
structure Leaves (K : Keywords) where
  Leaf : Type
  ToString : Leaf → Text → Text
  eval : Leaf → Scalars → Option Val → Option Val
  reads : ∀ (l : Leaf) (attname : Text), ∃ pg,
    Conjunct (ToString l (quote_identifier K attname)) (some pg) ∧
      ∀ (F : Scalars) (row : Text → Option Val), pg.eval F row = eval l F (row attname)

/-- `TableFilter`. -/
inductive TableFilter (Leaf : Type)
  | leaf (l : Leaf)
  /-- `CONJUNCTION_AND` or `CONJUNCTION_OR`. -/
  | conjunction (op : Conj) (child_filters : List (TableFilter Leaf))
  | OPTIONAL_FILTER (child_filter : TableFilter Leaf)
  | EXPRESSION_FILTER (expr : Expr)
  /-- `DYNAMIC_FILTER`, `STRUCT_EXTRACT` and filters to come. -/
  | unsupported (n : Nat)

/-- What the unsupported filters keep. -/
abbrev Unsupported := Nat → Option Val → Prop

/-- A condition is satisfied. -/
def IsTrue (x : Option Val) : Prop := x = some (.bool true)

section
variable {K : Keywords} (L : Leaves K) (U : Unsupported) (F : Scalars) (v : Option Val)

mutual

/-- A value satisfies the filter. -/
def TableFilter.Holds : TableFilter L.Leaf → Prop
  | .leaf l => IsTrue (L.eval l F v)
  | .conjunction .and child_filters => AllHold child_filters
  | .conjunction .or child_filters => AnyHolds child_filters
  | .OPTIONAL_FILTER child_filter => child_filter.Holds
  | .EXPRESSION_FILTER expr => IsTrue (expr.eval F v)
  | .unsupported n => U n v

/-- Every child holds. -/
def AllHold : List (TableFilter L.Leaf) → Prop
  | [] => True
  | child :: children => child.Holds ∧ AllHold children

/-- Some child holds. -/
def AnyHolds : List (TableFilter L.Leaf) → Prop
  | [] => False
  | child :: children => child.Holds ∨ AnyHolds children

end

end

/-! ## Extraction -/

/-- How the extraction fails: with an exception, or undefined on an expression without a text. -/
inductive ExtractError
  | invalidFilterType (n : Nat)
  | emptyOptional
  deriving DecidableEq, Repr

/-- The text between the parentheses of a conjunction. -/
def FilterJoin (op : Conj) : List Text → Text
  | [] => []
  | w :: ws => op.joinText w ws

section
variable {K : Keywords} (L : Leaves K) (columnType : LogicalTypeId) (column_name : Text)

mutual

/-- `ExtractQueryFilters`: how many conditions the filter became, and what is added to
`query_filters`. -/
def ExtractQueryFilters (is_inside_optional_filter : Bool) :
    TableFilter L.Leaf → Except ExtractError (Nat × Text)
  | .leaf l => .ok (1, Pg.c_str (L.ToString l column_name))
  | .conjunction op child_filters => do
    match ← extractChildren is_inside_optional_filter op child_filters with
    | some (w :: ws) => .ok ((w :: ws).length, '(' :: FilterJoin op (w :: ws) ++ [')'])
    | _ => .ok (0, [])
  | .OPTIONAL_FILTER child_filter => ExtractQueryFilters true child_filter
  | .EXPRESSION_FILTER expr =>
    match ExpressionToString columnType column_name expr with
    | some w => .ok (1, w)
    | none => .error .emptyOptional
  | .unsupported n =>
    if is_inside_optional_filter then .ok (0, []) else .error (.invalidFilterType n)

/-- The loop over the children: the texts of those that are kept, or `none` when an `OR` is dropped. -/
def extractChildren (is_inside_optional_filter : Bool) (op : Conj) :
    List (TableFilter L.Leaf) → Except ExtractError (Option (List Text))
  | [] => .ok (some [])
  | child :: children => do
    let (n, child_filter) ← ExtractQueryFilters is_inside_optional_filter child
    if n ≠ 0 then
      let rest ← extractChildren is_inside_optional_filter op children
      .ok (rest.map (child_filter :: ·))
    else if op = .or then .ok none
    else extractChildren is_inside_optional_filter op children

end

end

/-! ## Which filters are dropped, and which throw -/

section
variable {Leaf : Type}

mutual

/-- The filter leaves no condition, if it does not throw. -/
def TableFilter.droppable (optional : Bool) : TableFilter Leaf → Bool
  | .leaf _ | .EXPRESSION_FILTER _ => false
  | .conjunction .and child_filters => allDroppable optional child_filters
  | .conjunction .or child_filters => child_filters.isEmpty || anyDroppable optional child_filters
  | .OPTIONAL_FILTER child_filter => child_filter.droppable true
  | .unsupported _ => optional

/-- Every child may be dropped. -/
def allDroppable (optional : Bool) : List (TableFilter Leaf) → Bool
  | [] => true
  | child :: children => child.droppable optional && allDroppable optional children

/-- Some child may be dropped. -/
def anyDroppable (optional : Bool) : List (TableFilter Leaf) → Bool
  | [] => false
  | child :: children => child.droppable optional || anyDroppable optional children

end

mutual

/-- An unsupported filter that is not optional is reached: it has no child that is dropped before it in
an `OR`. -/
def TableFilter.reached (optional : Bool) : TableFilter Leaf → Bool
  | .leaf _ | .EXPRESSION_FILTER _ => false
  | .conjunction op child_filters => reachedArgs optional op child_filters
  | .OPTIONAL_FILTER child_filter => child_filter.reached true
  | .unsupported _ => !optional

/-- Some child is reached by the loop over a conjunction. -/
def reachedArgs (optional : Bool) (op : Conj) : List (TableFilter Leaf) → Bool
  | [] => false
  | child :: children =>
    child.reached optional ||
      (!(op = .or && child.droppable optional) && reachedArgs optional op children)

end

mutual

/-- An unsupported filter stands inside an optional one (`inside`), or outside of all of them. -/
def TableFilter.hasUnsupported (inside optional : Bool) : TableFilter Leaf → Bool
  | .leaf _ | .EXPRESSION_FILTER _ => false
  | .conjunction _ child_filters => hasUnsupportedArgs inside optional child_filters
  | .OPTIONAL_FILTER child_filter => child_filter.hasUnsupported inside true
  | .unsupported _ => optional == inside

/-- Some child that is reached is of a kind that is not supported. -/
def hasUnsupportedArgs (inside optional : Bool) : List (TableFilter Leaf) → Bool
  | [] => false
  | child :: children =>
    child.hasUnsupported inside optional || hasUnsupportedArgs inside optional children

end

mutual

/-- Every `OR` has a child. -/
def TableFilter.orsNonempty : TableFilter Leaf → Bool
  | .leaf _ | .EXPRESSION_FILTER _ | .unsupported _ => true
  | .conjunction op child_filters =>
    !(op = .or && child_filters.isEmpty) && orsNonemptyArgs child_filters
  | .OPTIONAL_FILTER child_filter => child_filter.orsNonempty

/-- Every disjunction below the children has one. -/
def orsNonemptyArgs : List (TableFilter Leaf) → Bool
  | [] => true
  | child :: children => child.orsNonempty && orsNonemptyArgs children

end

mutual

/-- Every expression was bound and accepted when it was pushed down. -/
def TableFilter.Pushed (columnType : LogicalTypeId) : TableFilter Leaf → Prop
  | .leaf _ | .unsupported _ => True
  | .conjunction _ child_filters => PushedArgs columnType child_filters
  | .OPTIONAL_FILTER child_filter => child_filter.Pushed columnType
  | .EXPRESSION_FILTER expr =>
    expr.WellTyped columnType ∧ PostgresScanPushdownExpression columnType expr = true

/-- Every child is made of what DuckDB pushes down. -/
def PushedArgs (columnType : LogicalTypeId) : List (TableFilter Leaf) → Prop
  | [] => True
  | child :: children => child.Pushed columnType ∧ PushedArgs columnType children

end

end

section
variable {K : Keywords} (L : Leaves K) (column_name : Text)

mutual

/-- Every expression that is printed reads as itself, and no text that is printed holds a NUL. -/
def TableFilter.Clear (optional : Bool) : TableFilter L.Leaf → Prop
  | .leaf l => '\x00' ∉ L.ToString l column_name
  | .unsupported _ => True
  | .conjunction .and child_filters => ClearArgs optional child_filters
  | .conjunction .or child_filters =>
    anyDroppable optional child_filters = true ∨ ClearArgs optional child_filters
  | .OPTIONAL_FILTER child_filter => child_filter.Clear true
  | .EXPRESSION_FILTER expr => expr.Unambiguous ∧ expr.NulFree

/-- No child is reached that has no text. -/
def ClearArgs (optional : Bool) : List (TableFilter L.Leaf) → Prop
  | [] => True
  | child :: children => child.Clear optional ∧ ClearArgs optional children

end

end

/-! ## Every expression that was pushed down is printed -/

/-- Two binds have a value together if their parts have. -/
theorem isSome_bind_congr {α β : Type} {x y : Option α} {f g : α → Option β}
    (h : x.isSome = y.isSome) (hfg : ∀ a b, (f a).isSome = (g b).isSome) :
    (x.bind f).isSome = (y.bind g).isSome := by
  cases x with
  | none =>
    cases y with
    | none => rfl
    | some b => cases h
  | some a =>
    cases y with
    | none => cases h
    | some b => exact hfg a b

/-- The same children, and the same of them printed. -/
abbrev SameChildren : List (Expr × Option Text) → List (Expr × Option Text) → Prop :=
  List.Forall₂ fun a b => a.1 = b.1 ∧ a.2.isSome = b.2.isSome

section
variable {columnType : LogicalTypeId} {cs cs' : List (Expr × Option Text)}

/-- Whether the loop over a conjunction has a text depends on its children alone. -/
theorem conjunctionLoop_isSome {op : Conj} (h : SameChildren cs cs') {q q' : Text} :
    (conjunctionLoop op q (cs.map (·.2))).isSome = (conjunctionLoop op q' (cs'.map (·.2))).isSome := by
  induction h generalizing q q' with
  | nil => rfl
  | cons hhead _ ih => exact isSome_bind_congr hhead.2 fun _ _ => ih

/-- Whether the LIKE pattern has a text depends on the children alone. -/
theorem withEscape_isSome {oss oss' : Text} (h : SameChildren cs cs') :
    (withEscape oss cs).isSome = (withEscape oss' cs').isSome := by
  match cs, cs', h with
  | [], [], _ => rfl
  | _ :: _, _ :: _, .cons hx _ => exact isSome_bind_congr hx.2 fun _ _ => rfl

/-- Whether the LIKE of a string function has a text depends on its children alone. -/
theorem FuncToLikeString_isSome {f : ScalarFunction} (h : SameChildren cs cs') :
    (FuncToLikeString columnType f cs).isSome = (FuncToLikeString columnType f cs').isSome := by
  match cs, cs', h with
  | [], [], _ | [_], [_], _ => rfl
  | haystack :: needle :: rest, haystack' :: needle' :: rest', .cons hx (.cons hy hrest) =>
    simp only [FuncToLikeString, hx.1, hy.1, hrest.length_eq]
    split
    · rfl
    · split
      · rfl
      · refine isSome_bind_congr hx.2 fun _ _ => ?_
        split
        · exact isSome_bind_congr hy.2 fun _ _ => withEscape_isSome hrest
        · exact isSome_bind_congr rfl fun _ _ => withEscape_isSome hrest

/-- Whether an operator has a text depends on its children alone. -/
theorem operatorText_isSome {op : Text} {is_operator : Bool} (h : SameChildren cs cs') :
    (operatorText columnType op is_operator cs).isSome =
      (operatorText columnType op is_operator cs').isSome := by
  match cs, cs', h with
  | [], [], _ | [_], [_], _ => rfl
  | [haystack, pattern], [haystack', pattern'], .cons hx (.cons hy .nil) =>
    simp only [operatorText, hx.1]
    split
    · rfl
    · exact isSome_bind_congr hx.2 fun _ _ => isSome_bind_congr hy.2 fun _ _ => rfl
  | _ :: _ :: _ :: _, _ :: _ :: _ :: _, _ => rfl

/-- Whether a call has a text depends on its children alone. -/
theorem callText_isSome {func_name : Text} (h : SameChildren cs cs') :
    (callText func_name cs).isSome = (callText func_name cs').isSome := by
  match cs, cs', h with
  | [], [], _ => rfl
  | _ :: _, _ :: _, .cons hx _ => simpa [callText] using hx.2

/-- Whether a function has a text depends on its children alone. -/
theorem functionText_isSome {f : ScalarFunction} {is_operator : Bool} (h : SameChildren cs cs') :
    (functionText columnType f is_operator cs).isSome =
      (functionText columnType f is_operator cs').isSome := by
  cases f with
  | contains | suffix | prefix_ | like_escape | ilike_escape => exact FuncToLikeString_isSome h
  | lower | upper => exact callText_isSome h
  | tilde | notTilde => exact operatorText_isSome h
  | other name => rfl

end

section
variable {columnType : LogicalTypeId} (n n' : Text)

mutual

/-- Whether an expression is printed does not depend on the column's name. -/
theorem ExpressionToString_isSome : ∀ (e : Expr),
    (ExpressionToString columnType n e).isSome = (ExpressionToString columnType n' e).isSome
  | .not arg | .isNull _ arg => by
    simp only [ExpressionToString]
    exact isSome_bind_congr (ExpressionToString_isSome arg) fun _ _ => rfl
  | .compare _ left right => by
    simp only [ExpressionToString]
    exact isSome_bind_congr (ExpressionToString_isSome left) fun _ _ =>
      isSome_bind_congr (ExpressionToString_isSome right) fun _ _ => rfl
  | .between input lower upper _ _ => by
    simp only [ExpressionToString]
    exact isSome_bind_congr (ExpressionToString_isSome input) fun _ _ =>
      isSome_bind_congr (ExpressionToString_isSome lower) fun _ _ =>
      isSome_bind_congr (ExpressionToString_isSome upper) fun _ _ => rfl
  | .conjunction op children => by
    simp only [ExpressionToString]
    exact isSome_bind_congr (conjunctionLoop_isSome (childTexts_same children)) fun _ _ => rfl
  | .function f is_operator children => by
    simp only [ExpressionToString]
    exact functionText_isSome (childTexts_same children)
  | .column | .unsupported _ => rfl
  | .constant value => by cases value <;> rfl

/-- A child has a text under one name just when it has one under another. -/
theorem childTexts_same : ∀ (args : List Expr),
    SameChildren (childTexts columnType n args) (childTexts columnType n' args)
  | [] => .nil
  | arg :: args => .cons ⟨rfl, ExpressionToString_isSome arg⟩ (childTexts_same args)

end

end

/-- An expression that was accepted is printed for every column. -/
theorem ExpressionToString_of_pushdown {columnType : LogicalTypeId} {e : Expr}
    (h : PostgresScanPushdownExpression columnType e = true) (column_name : Text) :
    ∃ w, ExpressionToString columnType column_name e = some w := by
  rw [PostgresScanPushdownExpression, ExpressionToString_isSome _ column_name] at h
  exact Option.isSome_iff_exists.1 h

/-! ## The outcome of the extraction -/

/-- The outcome for a filter. -/
def Outcome (reached droppable : Bool) : Except ExtractError (Nat × Text) → Prop
  | .error (.invalidFilterType _) => reached = true
  | .error .emptyOptional => False
  | .ok (0, w) => reached = false ∧ droppable = true ∧ w = []
  | .ok (_ + 1, _) => reached = false ∧ droppable = false

/-- The outcome for the children of a conjunction. -/
def ChildrenOutcome (op : Conj) (reached all any : Bool) :
    Except ExtractError (Option (List Text)) → Prop
  | .error (.invalidFilterType _) => reached = true
  | .error .emptyOptional => False
  | .ok none => reached = false ∧ op = .or ∧ any = true
  | .ok (some ws) => reached = false ∧ (op = .or → any = false) ∧ (ws = [] ↔ all = true)

section
variable {K : Keywords} {L : Leaves K} {columnType : LogicalTypeId} {column_name : Text}
  {optional : Bool} {op : Conj}

/-- One round of the loop over the children. -/
theorem extractChildren_cons {child : TableFilter L.Leaf} {children : List (TableFilter L.Leaf)} :
    extractChildren L columnType column_name optional op (child :: children) =
      match ExtractQueryFilters L columnType column_name optional child with
      | .error e => .error e
      | .ok (0, _) => if op = .or then .ok none
        else extractChildren L columnType column_name optional op children
      | .ok (_ + 1, w) =>
        (extractChildren L columnType column_name optional op children).map (·.map (w :: ·)) := by
  rw [extractChildren]
  cases ExtractQueryFilters L columnType column_name optional child with
  | error e => rfl
  | ok r =>
    obtain ⟨n, w⟩ := r
    cases n with
    | zero => rfl
    | succ n => cases extractChildren L columnType column_name optional op children <;> rfl

/-- A conjunction is the loop over its children, in parentheses if something is kept. -/
theorem extract_conjunction {child_filters : List (TableFilter L.Leaf)} :
    ExtractQueryFilters L columnType column_name optional (.conjunction op child_filters) =
      match extractChildren L columnType column_name optional op child_filters with
      | .error e => .error e
      | .ok (some (w :: ws)) => .ok (ws.length + 1, '(' :: op.joinText w ws ++ [')'])
      | .ok _ => .ok (0, []) := by
  rw [ExtractQueryFilters]
  cases extractChildren L columnType column_name optional op child_filters with
  | error e => rfl
  | ok r =>
    match r with
    | none | some [] => rfl
    | some (w :: ws) => rfl

/-- `AND` is left out if all of its children are, `OR` if one of them is. -/
theorem Outcome.conjunction {reached : Bool} {child_filters : List (TableFilter L.Leaf)}
    (h : ChildrenOutcome op reached (allDroppable optional child_filters)
      (anyDroppable optional child_filters)
      (extractChildren L columnType column_name optional op child_filters)) :
    Outcome reached ((TableFilter.conjunction op child_filters).droppable optional)
      (ExtractQueryFilters L columnType column_name optional (.conjunction op child_filters)) := by
  rw [extract_conjunction]
  cases hresult : extractChildren L columnType column_name optional op child_filters with
  | error e =>
    rw [hresult] at h
    cases e <;> exact h
  | ok r =>
    rw [hresult] at h
    match r with
    | none =>
      obtain ⟨hreached, rfl, hany⟩ := h
      exact ⟨hreached, by simp [TableFilter.droppable, hany], rfl⟩
    | some [] =>
      obtain ⟨hreached, hany, hall⟩ := h
      refine ⟨hreached, ?_, rfl⟩
      have hall := hall.1 rfl
      cases op with
      | and => exact hall
      | or =>
        cases child_filters with
        | nil => rfl
        | cons child children =>
          have hany := hany rfl
          rw [anyDroppable, Bool.or_eq_false_iff] at hany
          rw [allDroppable, hany.1] at hall
          cases hall
    | some (w :: ws) =>
      obtain ⟨hreached, hany, hall⟩ := h
      refine ⟨hreached, ?_⟩
      have hall : allDroppable optional child_filters = false := by
        simpa using hall
      cases op with
      | and => exact hall
      | or =>
        cases child_filters with
        | nil => cases hall
        | cons child children => simpa [TableFilter.droppable] using hany rfl

/-- Of an `AND` no child has to be kept. -/
theorem ChildrenOutcome.of_and {reached all any any' : Bool}
    {r : Except ExtractError (Option (List Text))} (h : ChildrenOutcome .and reached all any r) :
    ChildrenOutcome .and reached all any' r :=
  match r, h with
  | .error (.invalidFilterType _), h => h
  | .ok (some _), h => ⟨h.1, nofun, h.2.2⟩

/-- One more child in front. -/
theorem ChildrenOutcome.cons {child : TableFilter L.Leaf} {children : List (TableFilter L.Leaf)}
    (h : Outcome (child.reached optional) (child.droppable optional)
      (ExtractQueryFilters L columnType column_name optional child))
    (hrest : ChildrenOutcome op (reachedArgs optional op children) (allDroppable optional children)
      (anyDroppable optional children)
      (extractChildren L columnType column_name optional op children)) :
    ChildrenOutcome op (reachedArgs optional op (child :: children))
      (allDroppable optional (child :: children)) (anyDroppable optional (child :: children))
      (extractChildren L columnType column_name optional op (child :: children)) := by
  rw [extractChildren_cons, reachedArgs, allDroppable, anyDroppable]
  cases hresult : ExtractQueryFilters L columnType column_name optional child with
  | error e =>
    rw [hresult] at h
    cases e with
    | invalidFilterType n => exact Bool.or_eq_true_iff.2 (.inl h)
    | emptyOptional => exact h
  | ok r =>
    rw [hresult] at h
    match r with
    | (0, w) =>
      obtain ⟨hreached, hdroppable, -⟩ := h
      rw [hreached, hdroppable]
      cases op with
      | or => exact ⟨rfl, rfl, rfl⟩
      | and => exact hrest.of_and
    | (n + 1, w) =>
      obtain ⟨hreached, hdroppable⟩ := h
      rw [hreached, hdroppable, Bool.and_false, Bool.not_false, Bool.true_and, Bool.false_or,
        Bool.false_and, Bool.false_or]
      cases hloop : extractChildren L columnType column_name optional op children with
      | error e =>
        rw [hloop] at hrest
        cases e <;> exact hrest
      | ok r =>
        rw [hloop] at hrest
        cases r with
        | none => exact hrest
        | some ws => exact ⟨hrest.1, hrest.2.1, by simp⟩

mutual

/-- Whether a filter throws, is dropped or is kept. -/
theorem extract_outcome : ∀ (f : TableFilter L.Leaf) (optional : Bool), f.Pushed columnType →
    Outcome (f.reached optional) (f.droppable optional)
      (ExtractQueryFilters L columnType column_name optional f)
  | .leaf _, _, _ => ⟨rfl, rfl⟩
  | .conjunction op child_filters, optional, h => by
    rw [TableFilter.Pushed] at h
    exact Outcome.conjunction (extractChildren_outcome child_filters optional op h)
  | .OPTIONAL_FILTER child_filter, optional, h => by
    rw [TableFilter.Pushed] at h
    rw [ExtractQueryFilters, TableFilter.reached, TableFilter.droppable]
    exact extract_outcome child_filter true h
  | .EXPRESSION_FILTER expr, optional, h => by
    obtain ⟨w, hw⟩ := ExpressionToString_of_pushdown h.2 column_name
    rw [ExtractQueryFilters, hw]
    exact ⟨rfl, rfl⟩
  | .unsupported n, optional, _ => by
    cases optional with
    | true => exact ⟨rfl, rfl, rfl⟩
    | false => exact rfl

/-- What the loop over the children does. -/
theorem extractChildren_outcome : ∀ (fs : List (TableFilter L.Leaf)) (optional : Bool) (op : Conj),
    PushedArgs columnType fs →
    ChildrenOutcome op (reachedArgs optional op fs) (allDroppable optional fs)
      (anyDroppable optional fs) (extractChildren L columnType column_name optional op fs)
  | [], _, _, _ => ⟨rfl, fun _ => rfl, by simp [allDroppable]⟩
  | child :: children, optional, op, h =>
    .cons (extract_outcome child optional h.1) (extractChildren_outcome children optional op h.2)

end

end

/-! ## The meaning of the condition -/

section
variable {K : Keywords} {L : Leaves K} {U : Unsupported} {F : Scalars} {v : Option Val}

mutual

/-- What is dropped keeps every row, unless an unsupported filter was given up in it. -/
theorem TableFilter.holds_of_droppable : ∀ (f : TableFilter L.Leaf) (optional : Bool),
    f.droppable optional = true → f.hasUnsupported true optional = false → f.orsNonempty = true →
    f.Holds L U F v
  | .conjunction .and child_filters, optional, hdrop, hunsupported, hors => by
    rw [TableFilter.orsNonempty, Bool.and_eq_true] at hors
    exact allHold_of_droppable child_filters optional hdrop hunsupported hors.2
  | .conjunction .or child_filters, optional, hdrop, hunsupported, hors => by
    rw [TableFilter.orsNonempty, Bool.and_eq_true] at hors
    rw [TableFilter.droppable, Bool.or_eq_true] at hdrop
    rcases hdrop with hempty | hany
    · rw [hempty] at hors
      cases hors.1
    · exact anyHolds_of_droppable child_filters optional hany hunsupported hors.2
  | .OPTIONAL_FILTER child_filter, _, hdrop, hunsupported, hors => by
    rw [TableFilter.droppable] at hdrop
    rw [TableFilter.hasUnsupported] at hunsupported
    rw [TableFilter.orsNonempty] at hors
    rw [TableFilter.Holds]
    exact child_filter.holds_of_droppable true hdrop hunsupported hors
  | .unsupported _, optional, hdrop, hunsupported, _ => by
    cases optional with
    | true => cases hunsupported
    | false => cases hdrop

/-- Children that are all dropped hold of every row. -/
theorem allHold_of_droppable : ∀ (fs : List (TableFilter L.Leaf)) (optional : Bool),
    allDroppable optional fs = true → hasUnsupportedArgs true optional fs = false →
    orsNonemptyArgs fs = true → AllHold L U F v fs
  | [], _, _, _, _ => trivial
  | child :: children, optional, hdrop, hunsupported, hors => by
    rw [allDroppable, Bool.and_eq_true] at hdrop
    rw [hasUnsupportedArgs, Bool.or_eq_false_iff] at hunsupported
    rw [orsNonemptyArgs, Bool.and_eq_true] at hors
    exact ⟨child.holds_of_droppable optional hdrop.1 hunsupported.1 hors.1,
      allHold_of_droppable children optional hdrop.2 hunsupported.2 hors.2⟩

/-- Of a disjunction with a child that is dropped, some child holds. -/
theorem anyHolds_of_droppable : ∀ (fs : List (TableFilter L.Leaf)) (optional : Bool),
    anyDroppable optional fs = true → hasUnsupportedArgs true optional fs = false →
    orsNonemptyArgs fs = true → AnyHolds L U F v fs
  | child :: children, optional, hdrop, hunsupported, hors => by
    rw [anyDroppable, Bool.or_eq_true] at hdrop
    rw [hasUnsupportedArgs, Bool.or_eq_false_iff] at hunsupported
    rw [orsNonemptyArgs, Bool.and_eq_true] at hors
    rcases hdrop with hdrop | hdrop
    · exact .inl (child.holds_of_droppable optional hdrop hunsupported.1 hors.1)
    · exact .inr (anyHolds_of_droppable children optional hdrop hunsupported.2 hors.2)

end

end

/-- A conjunction is true just when both sides are. -/
theorem isTrue_and3 {x y : Option Val} : IsTrue (Pg.and3 x y) ↔ IsTrue x ∧ IsTrue y := by
  unfold IsTrue Pg.and3
  split
  · rename_i h
    rcases h with rfl | rfl <;> simp
  · split <;> simp_all

/-- A disjunction is true just when one side is. -/
theorem isTrue_or3 {x y : Option Val} : IsTrue (Pg.or3 x y) ↔ IsTrue x ∨ IsTrue y := by
  unfold IsTrue Pg.or3
  split
  · simp_all
  · split <;> simp_all

/-- `AND` of values is satisfied if all are, `OR` if one is. -/
theorem isTrue_conj3_and {x : Option Val} {xs : List (Option Val)} :
    IsTrue (conj3 .and (x :: xs)) ↔ ∀ y ∈ x :: xs, IsTrue y := by
  induction xs generalizing x with
  | nil => simp [conj3]
  | cons y xs ih =>
    have hstep := ih (x := Pg.and3 x y)
    rw [List.forall_mem_cons, isTrue_and3] at hstep
    rw [List.forall_mem_cons, List.forall_mem_cons, ← and_assoc]
    exact hstep

/-- A disjunction of a list is true just when one of it is. -/
theorem isTrue_conj3_or {x : Option Val} {xs : List (Option Val)} :
    IsTrue (conj3 .or (x :: xs)) ↔ ∃ y ∈ x :: xs, IsTrue y := by
  induction xs generalizing x with
  | nil => simp [conj3]
  | cons y xs ih =>
    have hstep := ih (x := Pg.or3 x y)
    rw [List.exists_mem_cons_iff, isTrue_or3] at hstep
    rw [List.exists_mem_cons_iff, List.exists_mem_cons_iff, ← or_assoc]
    exact hstep

/-- All values are satisfied, or one of them is. -/
def Satisfied : Conj → List (Option Val) → Prop
  | .and, xs => ∀ x ∈ xs, IsTrue x
  | .or, xs => ∃ x ∈ xs, IsTrue x

/-- A list is joined to a value that is true as the word says. -/
theorem isTrue_conj3 {op : Conj} {x : Option Val} {xs : List (Option Val)} :
    IsTrue (conj3 op (x :: xs)) ↔ Satisfied op (x :: xs) := by
  cases op with
  | and => exact isTrue_conj3_and
  | or => exact isTrue_conj3_or

section
variable {K : Keywords} (L : Leaves K) (attname : Text) (optional : Bool)

/-- The condition is satisfied where the filter is, and nowhere else if no unsupported filter was
given up. -/
structure Means (f : TableFilter L.Leaf) (pg : Pg.Expr) : Prop where
  sound : ∀ (U : Unsupported) (F : Scalars) (row : Text → Option Val),
    f.Holds L U F (row attname) → IsTrue (pg.eval F row)
  exact : f.hasUnsupported true optional = false → f.orsNonempty = true →
    ∀ (U : Unsupported) (F : Scalars) (row : Text → Option Val),
      IsTrue (pg.eval F row) → f.Holds L U F (row attname)

/-- The same of the children of a conjunction and the conditions of those that are kept. -/
structure ChildrenMean (op : Conj) (fs : List (TableFilter L.Leaf)) (pgs : List Pg.Expr) : Prop where
  sound : ∀ (U : Unsupported) (F : Scalars) (row : Text → Option Val),
    (TableFilter.conjunction op fs).Holds L U F (row attname) →
      Satisfied op (pgs.map (·.eval F row))
  exact : hasUnsupportedArgs true optional fs = false → orsNonemptyArgs fs = true →
    ∀ (U : Unsupported) (F : Scalars) (row : Text → Option Val),
      Satisfied op (pgs.map (·.eval F row)) →
        (TableFilter.conjunction op fs).Holds L U F (row attname)

variable {L attname optional}

/-- Nothing is kept of no children. -/
theorem ChildrenMean.nil {op : Conj} : ChildrenMean L attname optional op [] [] where
  sound U F row h := by
    cases op with
    | and => exact fun x hx => absurd hx List.not_mem_nil
    | or => cases h
  exact _ _ U F row h := by
    cases op with
    | and => trivial
    | or =>
      obtain ⟨x, hx, -⟩ := h
      cases hx

/-- A child that is kept. -/
theorem ChildrenMean.cons {op : Conj} {f : TableFilter L.Leaf} {fs : List (TableFilter L.Leaf)}
    {pg : Pg.Expr} {pgs : List Pg.Expr} (h : Means L attname optional f pg)
    (hrest : ChildrenMean L attname optional op fs pgs) :
    ChildrenMean L attname optional op (f :: fs) (pg :: pgs) where
  sound U F row hholds := by
    cases op with
    | and => exact List.forall_mem_cons.2 ⟨h.sound U F row hholds.1, hrest.sound U F row hholds.2⟩
    | or => exact (List.exists_mem_cons_iff _ _ _).2 (hholds.imp (h.sound U F row) (hrest.sound U F row))
  exact hunsupported hors U F row hsat := by
    rw [hasUnsupportedArgs, Bool.or_eq_false_iff] at hunsupported
    rw [orsNonemptyArgs, Bool.and_eq_true] at hors
    have hhead := h.exact hunsupported.1 hors.1 U F row
    have htail := hrest.exact hunsupported.2 hors.2 U F row
    cases op with
    | and =>
      have hsat := List.forall_mem_cons.1 hsat
      exact ⟨hhead hsat.1, htail hsat.2⟩
    | or => exact ((List.exists_mem_cons_iff _ _ _).1 hsat).imp hhead htail

/-- A child of an `AND` that is dropped. -/
theorem ChildrenMean.drop {f : TableFilter L.Leaf} {fs : List (TableFilter L.Leaf)}
    {pgs : List Pg.Expr} (hdrop : f.droppable optional = true)
    (hrest : ChildrenMean L attname optional .and fs pgs) :
    ChildrenMean L attname optional .and (f :: fs) pgs where
  sound U F row hholds := hrest.sound U F row hholds.2
  exact hunsupported hors U F row hsat := by
    rw [hasUnsupportedArgs, Bool.or_eq_false_iff] at hunsupported
    rw [orsNonemptyArgs, Bool.and_eq_true] at hors
    exact ⟨f.holds_of_droppable optional hdrop hunsupported.1 hors.1,
      hrest.exact hunsupported.2 hors.2 U F row hsat⟩

/-- The conjunction of the conditions. -/
theorem ChildrenMean.means {op : Conj} {fs : List (TableFilter L.Leaf)} {pg : Pg.Expr}
    {pgs : List Pg.Expr} (h : ChildrenMean L attname optional op fs (pg :: pgs)) :
    Means L attname optional (.conjunction op fs) (joinExprs op (pg :: pgs)) where
  sound U F row hholds := by
    rw [joinExprs_eval (List.cons_ne_nil pg pgs)]
    exact isTrue_conj3.2 (h.sound U F row hholds)
  exact hunsupported hors U F row htrue := by
    rw [joinExprs_eval (List.cons_ne_nil pg pgs)] at htrue
    rw [TableFilter.orsNonempty, Bool.and_eq_true] at hors
    exact h.exact hunsupported hors.2 U F row (isTrue_conj3.1 htrue)

/-- A text without a NUL that reads as this condition. -/
def ConditionText (w : Text) (pg : Pg.Expr) : Prop := Conjunct w (some pg) ∧ '\x00' ∉ w

/-- The texts of conditions, put together. -/
theorem ConditionText.conjuncts {ws : List Text} {pgs : List Pg.Expr} (h : List.Forall₂ ConditionText ws pgs) :
    List.Forall₂ Conjunct ws (pgs.map some) ∧ ∀ w ∈ ws, '\x00' ∉ w := by
  induction h with
  | nil => exact ⟨.nil, fun _ hw => nomatch hw⟩
  | cons hhead _ ih => exact ⟨.cons hhead.1 ih.1, List.forall_mem_cons.2 ⟨hhead.2, ih.2⟩⟩

/-- Joined conditions hold no NUL. -/
theorem ConditionText.nul_not_mem_joinText {op : Conj} {w : Text} {ws : List Text} {pgs : List Pg.Expr}
    (h : List.Forall₂ ConditionText (w :: ws) pgs) : '\x00' ∉ op.joinText w ws := by
  have hnul := List.forall_mem_cons.1 (ConditionText.conjuncts h).2
  rw [Pg.nul_mem_joinText]
  rintro (hmem | ⟨w', hw', hmem⟩)
  · exact hnul.1 hmem
  · exact hnul.2 w' hw' hmem

/-- The text of the conjunction. -/
theorem ConditionText.conjunction {op : Conj} {w : Text} {ws : List Text} {pg : Pg.Expr}
    {pgs : List Pg.Expr} (h : List.Forall₂ ConditionText (w :: ws) (pg :: pgs)) :
    ConditionText ('(' :: op.joinText w ws ++ [')']) (joinExprs op (pg :: pgs)) := by
  have htext : '\x00' ∉ op.joinText w ws := ConditionText.nul_not_mem_joinText h
  cases h with
  | cons hhead hrest =>
    have hjoin : op.join (some pg) (pgs.map some) = some (joinExprs op (pg :: pgs)) :=
      (join_eq_some (by simp)).2 ⟨rfl, rfl⟩
    constructor
    · rw [← hjoin]
      exact (PrimaryText.join hhead.1 (ConditionText.conjuncts hrest).1).conjunct
    · simpa using htext

variable {columnType : LogicalTypeId}

mutual

/-- The condition of a filter that is kept. -/
theorem extract_means (hname : '\x00' ∉ attname) : ∀ (f : TableFilter L.Leaf) (optional : Bool) {n : Nat} {w : Text},
    f.Pushed columnType → f.Clear L (quote_identifier K attname) optional →
    ExtractQueryFilters L columnType (quote_identifier K attname) optional f = .ok (n + 1, w) →
    ∃ pg, ConditionText w pg ∧ Means L attname optional f pg
  | .leaf l, optional, _, _, _, hclear, h => by
    cases h
    obtain ⟨pg, hreads, heval⟩ := L.reads l attname
    have htext : '\x00' ∉ L.ToString l (quote_identifier K attname) := hclear
    rw [Pg.c_str_eq_self.2 htext]
    refine ⟨pg, ⟨hreads, htext⟩, ⟨fun U F row hholds => ?_, fun _ _ U F row htrue => ?_⟩⟩
    · rw [heval]
      exact hholds
    · rw [heval] at htrue
      exact htrue
  | .conjunction op child_filters, optional, _, _, hpushed, hclear, h => by
    rw [TableFilter.Pushed] at hpushed
    rw [extract_conjunction] at h
    split at h
    · cases h
    · rename_i w ws hchildren
      cases h
      have houtcome : ChildrenOutcome op _ _ _
          (extractChildren L columnType (quote_identifier K attname) optional op child_filters) :=
        extractChildren_outcome child_filters optional op hpushed
      rw [hchildren] at houtcome
      have hargs : ClearArgs L (quote_identifier K attname) optional child_filters := by
        cases op with
        | and => exact hclear
        | or =>
          rcases hclear with hany | hargs
          · rw [houtcome.2.1 rfl] at hany
            cases hany
          · exact hargs
      obtain ⟨pgs, htexts, hmeans⟩ := extractChildren_means hname child_filters optional op hpushed hargs
        hchildren
      cases pgs with
      | nil => cases htexts
      | cons pg pgs => exact ⟨_, .conjunction htexts, hmeans.means⟩
    · cases h
  | .OPTIONAL_FILTER child_filter, optional, _, _, hpushed, hclear, h => by
    rw [TableFilter.Pushed] at hpushed
    rw [TableFilter.Clear] at hclear
    rw [ExtractQueryFilters] at h
    obtain ⟨pg, hreads, hmeans⟩ := extract_means hname child_filter true hpushed hclear h
    exact ⟨pg, hreads, hmeans.sound, hmeans.exact⟩
  | .EXPRESSION_FILTER expr, optional, _, _, hpushed, hclear, h => by
    obtain ⟨w, hw⟩ := ExpressionToString_of_pushdown hpushed.2 (quote_identifier K attname)
    rw [ExtractQueryFilters, hw] at h
    cases h
    have hreading : expr.reading attname = some (expr.toPg attname) :=
      (expr.reading_eq_toPg_iff hpushed.1).2 hclear.1
    have hreads := (expr.printed hpushed.1 hw).conjunct
    rw [hreading] at hreads
    have htext := (expr.nul_mem_text (mt Pg.nul_mem_quote_identifier.1 hname) hpushed.1 hw).2 hclear.2
    refine ⟨_, ⟨hreads, htext⟩, ⟨fun U F row hholds => ?_, fun _ _ U F row htrue => ?_⟩⟩
    · rw [expr.toPg_eval hpushed.1 hw]
      exact hholds
    · rw [expr.toPg_eval hpushed.1 hw] at htrue
      exact htrue
  | .unsupported _, true, _, _, _, _, h => by cases h
  | .unsupported _, false, _, _, _, _, h => by cases h

/-- The conditions of the children of a conjunction that are kept. -/
theorem extractChildren_means (hname : '\x00' ∉ attname) : ∀ (fs : List (TableFilter L.Leaf)) (optional : Bool)
    (op : Conj) {ws : List Text}, PushedArgs columnType fs →
    ClearArgs L (quote_identifier K attname) optional fs →
    extractChildren L columnType (quote_identifier K attname) optional op fs = .ok (some ws) →
    ∃ pgs : List Pg.Expr, List.Forall₂ ConditionText ws pgs ∧
      ChildrenMean L attname optional op fs pgs
  | [], _, _, _, _, _, h => by
    cases h
    exact ⟨[], .nil, .nil⟩
  | child :: children, optional, op, _, hpushed, hclear, h => by
    rw [extractChildren_cons] at h
    split at h
    · cases h
    · rename_i w hchild
      have houtcome : Outcome _ _
          (ExtractQueryFilters L columnType (quote_identifier K attname) optional child) :=
        extract_outcome child optional hpushed.1
      rw [hchild] at houtcome
      cases op with
      | or => cases h
      | and =>
        obtain ⟨pgs, htexts, hmeans⟩ := extractChildren_means hname children optional .and hpushed.2
          hclear.2 h
        exact ⟨pgs, htexts, hmeans.drop houtcome.2.1⟩
    · rename_i n w hchild
      obtain ⟨pg, hreads, hmeans⟩ := extract_means hname child optional hpushed.1 hclear.1 hchild
      cases hloop : extractChildren L columnType (quote_identifier K attname) optional op children with
      | error e =>
        rw [hloop] at h
        cases h
      | ok r =>
        rw [hloop] at h
        cases r with
        | none => cases h
        | some ws =>
          cases h
          obtain ⟨pgs, htexts, hrest⟩ := extractChildren_means hname children optional op hpushed.2
            hclear.2 hloop
          exact ⟨pg :: pgs, .cons hreads htexts, hrest.cons hmeans⟩

end

end

end PgDuckdb.Scan
