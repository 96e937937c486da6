import Mathlib.Data.List.Forall2
import Mathlib.Data.Option.Basic
import PgDuckdb.Lib.Program
import PgDuckdb.Pg.Reading

/-!
# Chains of subscripts

Subscripts on the types of DuckDB are transformed by `DuckdbSubscriptTransform`, or where the first one
names a column by `DuckdbTextSubscriptTransform` (`pgduckdb_subscript.cpp`). The bounds of a chain go into
two lists, and where one was not written its place holds NULL. When a subscript of a `duckdb.row` is printed,
the first of the chain becomes a column name and is taken off both lists (`pgduckdb_strip_first_subscript`).

`AddSubscriptExpressions` transforms the lower bound of a subscript that has an upper bound. A subscript
such as `[2:]` has none, and loses its lower bound. The name of a column has to be a constant, but what is stored is
the constant coerced to `text`, which is one only if no coercion is needed; of anything else the printing reads a
type that does not exist. `subscripts_preserved_iff` says exactly which chains come through.

The expressions are the parser's own, and so is their transformation.
-/

namespace PgDuckdb.Subscripts

open Lib (Ensures)

/-! ## Nodes -/

/-- The number of a type. -/
abbrev Oid := Nat

/-- The number of the type text. -/
def TEXTOID : Oid := 25
/-- The number of the type unknown. -/
def UNKNOWNOID : Oid := 705
/-- The number of the type varchar. -/
def VARCHAROID : Oid := 1043

/-- The codes of the errors. -/
inductive Errcode
  | internal
  | datatypeMismatch
  | nullValueNotAllowed
  /-- Any other one, of the parser. -/
  | other (code : Nat)
  deriving DecidableEq, Repr

/-- An error of Postgres, with its place in the query. -/
structure PgError where
  errcode : Errcode
  message : String
  location : Option Int
  deriving DecidableEq, Repr

/-- `Const`, with the bytes of its value. -/
structure Const where
  consttype : Oid
  constisnull : Bool
  constvalue : List Char
  deriving DecidableEq, Repr

/-- `Var`. -/
structure Var where
  varno : Int
  varattno : Int
  vartype : Oid
  deriving DecidableEq, Repr

/-- A transformed expression. -/
inductive Node
  | Const (c : Const)
  | Var (v : Var)
  /-- Any other one, by a number. -/
  | other (n : Nat)
  deriving DecidableEq, Repr

/-- `A_Indices`: one subscript as it was written. The grammar gives one without a colon an upper bound and
no lower one. -/
structure A_Indices (Raw : Type) where
  is_slice : Bool
  lidx : Option Raw
  uidx : Option Raw
  plain : is_slice = false → lidx = none ∧ uidx.isSome = true

/-- `SubscriptingRef`. -/
structure SubscriptingRef where
  refexpr : Node
  refupperindexpr : List (Option Node)
  reflowerindexpr : List (Option Node)
  refrestype : Oid
  reftypmod : Int
  deriving DecidableEq, Repr

/-- The node that a transform is called with. -/
def SubscriptingRef.make (refexpr : Node) : SubscriptingRef where
  refexpr := refexpr
  refupperindexpr := []
  reflowerindexpr := []
  refrestype := 0
  reftypmod := 0

/-- A chain is one of slices if one of its subscripts was written with a colon. -/
def isSlice {Raw : Type} (indirection : List (A_Indices Raw)) : Bool := indirection.any (·.is_slice)

/-! ## The transforms -/

/-- What a transform uses of Postgres and of the caches. -/
structure Parser (Raw σ : Type) where
  /-- `transformExpr` of an expression. -/
  transform : Raw → EStateM PgError σ Node
  exprLocation : Raw → Int
  exprType : Node → Oid
  exprType_Const : ∀ c, exprType (.Const c) = c.consttype
  /-- `coerce_to_target_type` to `text`, of an expression and its type, or NULL. -/
  coerceToText : Node → Oid → EStateM PgError σ (Option Node)
  /-- A constant stays one if it is a `text` or an untyped literal; others get a cast around them. -/
  coerceToText_Const : ∀ c s node s', (coerceToText (.Const c) c.consttype).run s = .ok (some node) s' →
    ((∃ c', node = .Const c') ↔ c.consttype = TEXTOID ∨ c.consttype = UNKNOWNOID)
  IsExtensionRegistered : Bool
  DuckdbUnresolvedTypeOid : Oid

/-- The parse state, and the node that is filled. -/
structure State (σ : Type) where
  pstate : σ
  sbsref : SubscriptingRef

/-- A step of a transform, which may fail. -/
abbrev TransformM (σ : Type) := EStateM PgError (State σ)

section
variable {Raw σ α : Type}

/-- What the parser does to its own state. -/
def onPstate (m : EStateM PgError σ α) : TransformM σ α := fun s =>
  match m s.pstate with
  | .ok a pstate => .ok a { s with pstate := pstate }
  | .error e pstate => .error e { s with pstate := pstate }

/-- `elog(ERROR, ..)`. -/
def elog (message : String) : TransformM σ α :=
  throw { errcode := .internal, message := message, location := none }

/-- `ereport(ERROR, ..)` at a place in the query. -/
def ereport (errcode : Errcode) (message : String) (expr_location : Int) : TransformM σ α :=
  throw { errcode := errcode, message := message, location := some expr_location }

variable (p : Parser Raw σ)

/-- `transformExpr`, which gives NULL for NULL. -/
def transformExpr : Option Raw → TransformM σ (Option Node)
  | none => pure none
  | some expr => do
    let node ← onPstate (p.transform expr)
    return some node

/-- `CoerceSubscriptToText`. It looks at the expression before the coercion for a constant. -/
def CoerceSubscriptToText (subscript : A_Indices Raw) (type_name : String) : TransformM σ Node :=
  match subscript.uidx with
  | none => elog s!"Creating a slice out of {type_name} is not supported"
  | some uidx => do
    let subscript_expr ← onPstate (p.transform uidx)
    let expr_location := p.exprLocation uidx
    let subscript_expr_type := p.exprType subscript_expr
    if subscript.lidx.isSome then elog s!"Creating a slice out of {type_name} is not supported"
    else
      match ← onPstate (p.coerceToText subscript_expr subscript_expr_type) with
      | none => ereport .datatypeMismatch s!"{type_name} subscript must have text type" expr_location
      | some coerced_expr =>
        match subscript_expr with
        | .Const subscript_const =>
          if subscript_const.constisnull then
            ereport .nullValueNotAllowed s!"{type_name} subscript cannot be NULL" expr_location
          else return coerced_expr
        | .Var _ | .other _ =>
          ereport .datatypeMismatch s!"{type_name} subscript must be a constant" expr_location

/-- `lappend` to `refupperindexpr`. -/
def lappendUpper (node : Option Node) : TransformM σ Unit :=
  modify fun s => { s with sbsref := { s.sbsref with refupperindexpr := s.sbsref.refupperindexpr ++ [node] } }

/-- `lappend` to `reflowerindexpr`. -/
def lappendLower (node : Option Node) : TransformM σ Unit :=
  modify fun s => { s with sbsref := { s.sbsref with reflowerindexpr := s.sbsref.reflowerindexpr ++ [node] } }

/-- `AddSubscriptExpressions`. -/
def AddSubscriptExpressions (is_slice : Bool) (subscript : A_Indices Raw) : TransformM σ Unit := do
  let upper_subscript_expr ← (if subscript.uidx.isSome then transformExpr p subscript.uidx else pure none)
  lappendUpper upper_subscript_expr
  if is_slice then
    -- The upper bound decides about the lower one.
    let lower_subscript_expr ← (if subscript.uidx.isSome then transformExpr p subscript.lidx else pure none)
    lappendLower lower_subscript_expr

/-- The checks that both transforms begin with. -/
def checkTransform (indirection : List (A_Indices Raw)) (is_assignment : Bool) (type_name : String) :
    TransformM σ Unit :=
  if p.IsExtensionRegistered = false then
    elog s!"BUG: Using {type_name} but the pg_duckdb extension is not installed"
  else if is_assignment then elog s!"Assignment to {type_name} is not supported"
  else if indirection.isEmpty then
    elog s!"Subscripting {type_name} with an empty subscript is not supported"
  else pure ()

/-- The result type of the operation. -/
def setResultType : TransformM σ Unit :=
  modify fun s =>
    { s with sbsref := { s.sbsref with refrestype := p.DuckdbUnresolvedTypeOid, reftypmod := -1 } }

/-- `DuckdbSubscriptTransform`. -/
def DuckdbSubscriptTransform (indirection : List (A_Indices Raw)) (is_slice is_assignment : Bool)
    (type_name : String) : TransformM σ Unit := do
  checkTransform p indirection is_assignment type_name
  indirection.forM (AddSubscriptExpressions p is_slice)
  setResultType p

/-- The loop of `DuckdbTextSubscriptTransform`. -/
def addTextSubscripts (is_slice : Bool) (type_name : String) : Bool → List (A_Indices Raw) → TransformM σ Unit
  | _, [] => pure ()
  | true, subscript :: rest => do
    lappendUpper (some (← CoerceSubscriptToText p subscript type_name))
    if is_slice then lappendLower none
    addTextSubscripts is_slice type_name false rest
  | false, subscript :: rest => do
    AddSubscriptExpressions p is_slice subscript
    addTextSubscripts is_slice type_name false rest

/-- `DuckdbTextSubscriptTransform`. -/
def DuckdbTextSubscriptTransform (indirection : List (A_Indices Raw)) (is_slice is_assignment : Bool)
    (type_name : String) : TransformM σ Unit := do
  checkTransform p indirection is_assignment type_name
  addTextSubscripts p is_slice type_name true indirection
  setResultType p

end

/-! ## Printing -/

/-- What printing uses of Postgres and of the caches. -/
structure Printer where
  keywords : Pg.Keywords
  DuckdbRowOid : Oid
  /-- The output function of the type of a constant. -/
  output : Const → List Char

/-- `pgduckdb_var_is_duckdb_row`. -/
def pgduckdb_var_is_duckdb_row (p : Printer) (var : Var) : Bool := var.vartype == p.DuckdbRowOid

/-- `pgduckdb_strip_first_subscript`: the node whose subscripts are left to print, and the text. It is `none` where
the first subscript is not a constant: `castNode` takes it for one, and there is no type of the number that stands in
the place of `consttype`. -/
def pgduckdb_strip_first_subscript (p : Printer) (sbsref : SubscriptingRef) :
    Option (SubscriptingRef × List Char) :=
  match sbsref.refexpr with
  | .Const _ | .other _ => some (sbsref, [])
  | .Var var =>
    if pgduckdb_var_is_duckdb_row p var = false then some (sbsref, [])
    else
      match sbsref.refupperindexpr with
      | some (.Const constval) :: rest =>
        let shorter_sbsref := { sbsref with refupperindexpr := rest }
        some
          (if sbsref.reflowerindexpr = [] then shorter_sbsref
            else { shorter_sbsref with reflowerindexpr := sbsref.reflowerindexpr.tail },
            '.' :: Pg.quote_identifier p.keywords (p.output constval))
      | _ => none

/-- The first subscript becomes the name of a column, and it alone is taken off the lists. -/
def StripsFirst (p : Printer) (sbsref : SubscriptingRef) : Prop :=
  ∃ c rest, sbsref.refupperindexpr = some (.Const c) :: rest ∧
    pgduckdb_strip_first_subscript p sbsref = some
      ({ sbsref with refupperindexpr := rest, reflowerindexpr := sbsref.reflowerindexpr.tail },
        '.' :: Pg.quote_identifier p.keywords (p.output c))

/-! ## What the transforms preserve -/

section
variable {Raw σ : Type} (p : Parser Raw σ)

/-- An expression may be transformed to this node, in some parse state. -/
def Transforms (expr : Raw) (node : Node) : Prop := ∃ s s', (p.transform expr).run s = .ok node s'

/-- The same with the coercion to text that the name of a column gets. -/
def Coerces (expr : Raw) (node : Node) : Prop :=
  ∃ t s s', Transforms p expr t ∧ (p.coerceToText t (p.exprType t)).run s = .ok (some node) s'

/-- The first bound of the chain is transformed to a constant of type `text`, or without a type. -/
def NamesText (pstate : σ) (indirection : List (A_Indices Raw)) : Prop :=
  ∃ i is expr c pstate', indirection = i :: is ∧ i.uidx = some expr ∧
    (p.transform expr).run pstate = .ok (.Const c) pstate' ∧ (c.consttype = TEXTOID ∨ c.consttype = UNKNOWNOID)

/-- The name of a column as it is stored, from the parse state that its transformation starts in. -/
def NameStored (pstate : σ) (expr : Raw) (node : Node) : Prop :=
  ∃ c pstate₁ pstate₂, (p.transform expr).run pstate = .ok (.Const c) pstate₁ ∧
    (p.coerceToText (.Const c) c.consttype).run pstate₁ = .ok (some node) pstate₂

/-- The chain as it was written. The upper bounds are transformed one by one, the first one by `First`, and
so are the lower bounds of slices; a bound that was not written is NULL. -/
structure Preserved (First : Raw → Node → Prop) (indirection : List (A_Indices Raw)) (is_slice : Bool)
    (sbsref : SubscriptingRef) : Prop where
  upper : ∃ i is u us, indirection = i :: is ∧ sbsref.refupperindexpr = u :: us ∧
    Option.Rel First i.uidx u ∧
    List.Forall₂ (fun (i : A_Indices Raw) u => Option.Rel (Transforms p) i.uidx u) is us
  lower : if is_slice then
      List.Forall₂ (fun (i : A_Indices Raw) l => Option.Rel (Transforms p) i.lidx l) indirection
        sbsref.reflowerindexpr
    else sbsref.reflowerindexpr = []

/-- What `AddSubscriptExpressions` makes of the lower bound. -/
def LowerGot (i : A_Indices Raw) (l : Option Node) : Prop :=
  if i.uidx.isSome then Option.Rel (Transforms p) i.lidx l else l = none

/-- The lists got their entries for a chain. -/
def Extends (indirection : List (A_Indices Raw)) (is_slice : Bool) (before after : SubscriptingRef) : Prop :=
  ∃ us ls, List.Forall₂ (fun (i : A_Indices Raw) u => Option.Rel (Transforms p) i.uidx u) indirection us ∧
    (if is_slice = true then List.Forall₂ (LowerGot p) indirection ls else ls = []) ∧
    after = { before with
      refupperindexpr := before.refupperindexpr ++ us
      reflowerindexpr := before.reflowerindexpr ++ ls }

/-- A written lower bound has an upper bound with it. -/
def HasUpper (i : A_Indices Raw) : Prop := i.lidx.isSome = true → i.uidx.isSome = true

variable {p} {s : State σ} {E : State σ → Prop} {i : A_Indices Raw} {indirection : List (A_Indices Raw)}
  {is_slice : Bool} {sbsref : SubscriptingRef}

/-- A call that runs in the parse state ensures what it ensures there. -/
theorem Ensures.onPstate {α : Type} {m : EStateM PgError σ α} {Q : α → State σ → Prop}
    (h : ∀ a pstate', m.run s.pstate = .ok a pstate' → Q a { s with pstate := pstate' }) :
    Ensures (onPstate m) s Q fun _ => True := by
  unfold Ensures EStateM.run Subscripts.onPstate
  cases hm : m s.pstate with
  | ok a pstate' => exact h a pstate' hm
  | error e pstate' => trivial

/-- A bound that was written is transformed, and one that was not is NULL. -/
theorem transformExpr_ensures (expr : Option Raw) :
    Ensures (transformExpr p expr) s
      (fun node s' => s'.sbsref = s.sbsref ∧ Option.Rel (Transforms p) expr node) fun _ => True := by
  cases expr with
  | none => exact ⟨rfl, .none⟩
  | some expr =>
    refine Ensures.bind (Ensures.onPstate fun node pstate' hrun => ?_)
    exact ⟨rfl, .some ⟨s.pstate, pstate', hrun⟩⟩

/-- A bound that is transformed only if there is an upper bound. -/
theorem transformIf_ensures (has : Bool) (expr : Option Raw) :
    Ensures (if has = true then transformExpr p expr else pure none) s
      (fun node s' => s'.sbsref = s.sbsref ∧
        if has = true then Option.Rel (Transforms p) expr node else node = none) fun _ => True := by
  cases has with
  | true => exact transformExpr_ensures expr
  | false => exact ⟨rfl, rfl⟩

/-- One subscript is one entry more in the lists. -/
theorem AddSubscriptExpressions_ensures :
    Ensures (AddSubscriptExpressions p is_slice i) s
      (fun _ s' => Extends p [i] is_slice s.sbsref s'.sbsref) fun _ => True := by
  refine (transformIf_ensures i.uidx.isSome i.uidx).seq fun u s₁ hu => ?_
  have hupper : Option.Rel (Transforms p) i.uidx u := by
    cases huidx : i.uidx with
    | none =>
      rw [huidx] at hu
      rw [hu.2]
      exact .none
    | some _ =>
      rw [huidx] at hu
      exact hu.2
  refine Ensures.bind ?_
  cases is_slice with
  | false => exact ⟨[u], [], .cons hupper .nil, rfl, by simp [hu.1]⟩
  | true =>
    refine (transformIf_ensures i.uidx.isSome i.lidx).seq fun l s₂ hl => ?_
    exact ⟨[u], [l], .cons hupper .nil, .cons hl.2 .nil, by simp [hl.1, hu.1]⟩

/-- Chains are added one after the other. -/
theorem Extends.append {a b c : SubscriptingRef} {front back : List (A_Indices Raw)}
    (h : Extends p front is_slice a b) (h' : Extends p back is_slice b c) :
    Extends p (front ++ back) is_slice a c := by
  obtain ⟨us, ls, hus, hls, rfl⟩ := h
  obtain ⟨us', ls', hus', hls', rfl⟩ := h'
  refine ⟨us ++ us', ls ++ ls', List.rel_append hus hus', ?_, by simp⟩
  cases is_slice with
  | true => exact List.rel_append hls hls'
  | false => exact List.append_eq_nil_iff.2 ⟨hls, hls'⟩

/-- A loop over subscripts. -/
theorem addSubscripts_ensures :
    Ensures (indirection.forM (AddSubscriptExpressions p is_slice)) s
      (fun _ s' => Extends p indirection is_slice s.sbsref s'.sbsref) fun _ => True := by
  have hnone : Extends p [] is_slice s.sbsref s.sbsref :=
    ⟨[], [], .nil, by cases is_slice <;> simp, by simp⟩
  exact Ensures.forM (I := fun done _ s' => Extends p done is_slice s.sbsref s'.sbsref) hnone
    fun done i todo s₁ h => AddSubscriptExpressions_ensures.mono (fun _ s₂ h' => h.append h')
      fun _ _ => trivial

/-- Without a column every subscript is added in turn. -/
theorem addTextSubscripts_false (type_name : String) :
    addTextSubscripts p is_slice type_name false indirection =
      indirection.forM (AddSubscriptExpressions p is_slice) := by
  induction indirection with
  | nil => rfl
  | cons i is ih =>
    rw [addTextSubscripts, ih]
    rfl

/-- A message that raises ensures anything. -/
theorem elog_ensures {α : Type} {message : String} {Q : α → State σ → Prop} :
    Ensures (elog message : TransformM σ α) s Q fun _ => True := trivial

/-- An error report that raises ensures anything. -/
theorem ereport_ensures {α : Type} {errcode : Errcode} {message : String} {expr_location : Int}
    {Q : α → State σ → Prop} :
    Ensures (ereport errcode message expr_location : TransformM σ α) s Q fun _ => True := trivial

/-- The name of a column is an upper bound alone. -/
theorem CoerceSubscriptToText_ensures {type_name : String} :
    Ensures (CoerceSubscriptToText p i type_name) s
      (fun node s' => s'.sbsref = s.sbsref ∧
        ∃ expr, i.uidx = some expr ∧ i.lidx = none ∧ NameStored p s.pstate expr node) fun _ => True := by
  unfold CoerceSubscriptToText
  cases huidx : i.uidx with
  | none => exact elog_ensures
  | some expr =>
    refine Ensures.bind (Ensures.onPstate fun t pstate₁ ht => ?_)
    dsimp only
    split
    · exact elog_ensures
    · rename_i hlidx
      refine Ensures.bind (Ensures.onPstate fun coerced pstate₂ hcoerced => ?_)
      cases coerced with
      | none => exact ereport_ensures
      | some node =>
        cases t with
        | Var _ => exact ereport_ensures
        | other _ => exact ereport_ensures
        | Const c =>
          dsimp only
          split
          · exact ereport_ensures
          · rw [p.exprType_Const] at hcoerced
            exact ⟨rfl, expr, rfl, by simpa using hlidx, c, pstate₁, pstate₂, ht, hcoerced⟩

/-- What is stored is the transformed name, coerced. -/
theorem NameStored.coerces {pstate : σ} {expr : Raw} {node : Node} (h : NameStored p pstate expr node) :
    Coerces p expr node := by
  obtain ⟨c, pstate₁, pstate₂, htransform, hcoerce⟩ := h
  refine ⟨.Const c, pstate₁, pstate₂, ⟨pstate, pstate₁, htransform⟩, ?_⟩
  rw [p.exprType_Const]
  exact hcoerce

/-- It is a constant if the name is a text. -/
theorem NameStored.const_iff {pstate : σ} {expr : Raw} {node : Node} {is : List (A_Indices Raw)}
    (h : NameStored p pstate expr node) (huidx : i.uidx = some expr) :
    (∃ c, node = .Const c) ↔ NamesText p pstate (i :: is) := by
  obtain ⟨c, pstate₁, pstate₂, htransform, hcoerce⟩ := h
  rw [p.coerceToText_Const c pstate₁ node pstate₂ hcoerce]
  constructor
  · intro htype
    exact ⟨i, is, expr, c, pstate₁, rfl, huidx, htransform, htype⟩
  · rintro ⟨i', is', expr', c', pstate', hchain, huidx', htransform', htype⟩
    cases hchain
    obtain rfl : expr = expr' := Option.some.inj (huidx.symm.trans huidx')
    cases htransform.symm.trans htransform'
    exact htype

/-- The checks change nothing and want a chain. -/
theorem checkTransform_ensures {is_assignment : Bool} {type_name : String} :
    Ensures (checkTransform p indirection is_assignment type_name) s
      (fun _ s' => s' = s ∧ indirection ≠ []) fun _ => True := by
  unfold checkTransform
  split
  · exact elog_ensures
  · split
    · exact elog_ensures
    · split
      · exact elog_ensures
      · rename_i hempty
        exact ⟨rfl, by simpa using hempty⟩

/-- The lists after `DuckdbSubscriptTransform`. -/
theorem DuckdbSubscriptTransform_ensures {is_assignment : Bool} {type_name : String} :
    Ensures (DuckdbSubscriptTransform p indirection is_slice is_assignment type_name) s
      (fun _ s' => indirection ≠ [] ∧ ∃ filled, Extends p indirection is_slice s.sbsref filled ∧
        s'.sbsref = { filled with refrestype := p.DuckdbUnresolvedTypeOid, reftypmod := -1 })
      fun _ => True := by
  refine checkTransform_ensures.seq fun _ s₁ hcheck => ?_
  refine addSubscripts_ensures.seq fun _ s₂ hloop => ?_
  rw [hcheck.1] at hloop
  exact ⟨hcheck.2, s₂.sbsref, hloop, rfl⟩

/-- The node when the column of a chain has been added to its lists. -/
def withColumn (is_slice : Bool) (sbsref : SubscriptingRef) (node : Node) : SubscriptingRef :=
  { sbsref with
    refupperindexpr := sbsref.refupperindexpr ++ [some node]
    reflowerindexpr := sbsref.reflowerindexpr ++ if is_slice = true then [none] else [] }

/-- The loop from the column on. -/
theorem addTextSubscripts_ensures {type_name : String} {is : List (A_Indices Raw)} :
    Ensures (addTextSubscripts p is_slice type_name true (i :: is)) s
      (fun _ s' => ∃ expr node, i.uidx = some expr ∧ i.lidx = none ∧ NameStored p s.pstate expr node ∧
        Extends p is is_slice (withColumn is_slice s.sbsref node) s'.sbsref) fun _ => True := by
  unfold addTextSubscripts
  refine CoerceSubscriptToText_ensures.seq fun node s₁ hnode => ?_
  obtain ⟨hsame, expr, huidx, hlidx, hstored⟩ := hnode
  simp only [addTextSubscripts_false]
  refine Ensures.bind ?_
  cases is_slice with
  | false =>
    refine addSubscripts_ensures.mono (fun _ s₂ hloop => ⟨expr, node, huidx, hlidx, hstored, ?_⟩)
      fun _ _ => trivial
    rw [withColumn, ← hsame, if_neg Bool.false_ne_true, List.append_nil]
    exact hloop
  | true =>
    refine Ensures.bind ?_
    refine addSubscripts_ensures.mono (fun _ s₂ hloop => ⟨expr, node, huidx, hlidx, hstored, ?_⟩)
      fun _ _ => trivial
    rw [withColumn, ← hsame, if_pos rfl]
    exact hloop

/-- The lists after `DuckdbTextSubscriptTransform`. -/
theorem DuckdbTextSubscriptTransform_ensures {is_assignment : Bool} {type_name : String} :
    Ensures (DuckdbTextSubscriptTransform p indirection is_slice is_assignment type_name) s
      (fun _ s' => ∃ i is expr node, indirection = i :: is ∧ i.uidx = some expr ∧ i.lidx = none ∧
        NameStored p s.pstate expr node ∧ ∃ filled, Extends p is is_slice (withColumn is_slice s.sbsref node) filled ∧
        s'.sbsref = { filled with refrestype := p.DuckdbUnresolvedTypeOid, reftypmod := -1 })
      fun _ => True := by
  refine checkTransform_ensures.seq fun _ s₁ hcheck => ?_
  obtain ⟨rfl, hne⟩ := hcheck
  cases indirection with
  | nil => exact absurd rfl hne
  | cons i is =>
    refine addTextSubscripts_ensures.seq fun _ s₂ hloop => ?_
    obtain ⟨expr, node, huidx, hlidx, hstored, hextends⟩ := hloop
    exact ⟨i, is, expr, node, rfl, huidx, hlidx, hstored, s₂.sbsref, hextends, rfl⟩

/-! ## When the chain is preserved -/

/-- A lower bound gets where it belongs if it has an upper bound with it. -/
theorem LowerGot.rel_iff {l : Option Node} (h : LowerGot p i l) :
    Option.Rel (Transforms p) i.lidx l ↔ HasUpper i := by
  unfold LowerGot at h
  unfold HasUpper
  cases huidx : i.uidx with
  | some expr =>
    rw [huidx] at h
    exact ⟨fun _ _ => rfl, fun _ => h⟩
  | none =>
    rw [huidx] at h
    obtain rfl : l = none := h
    cases hlidx : i.lidx with
    | none => exact ⟨fun _ hsome => hsome, fun _ => .none⟩
    | some expr =>
      constructor
      · intro hrel
        cases hrel
      · intro hupper
        cases hupper rfl

/-- The lower bounds are those that were written just when each has an upper one. -/
theorem forall₂_rel_iff {ls : List (Option Node)} (h : List.Forall₂ (LowerGot p) indirection ls) :
    List.Forall₂ (fun (i : A_Indices Raw) l => Option.Rel (Transforms p) i.lidx l) indirection ls ↔
      ∀ i ∈ indirection, HasUpper i := by
  induction h with
  | nil => simp
  | cons hl _ ih => rw [List.forall₂_cons, hl.rel_iff, ih, List.forall_mem_cons]

/-- Without a colon in the chain nothing can be lost. -/
theorem hasUpper_of_not_slice (h : isSlice indirection = false) (hi : i ∈ indirection) : HasUpper i := by
  have hplain : i.is_slice = false := by simpa using List.any_eq_false.1 h i hi
  intro hlidx
  rw [(i.plain hplain).1] at hlidx
  cases hlidx

/-- The lower bounds that a loop has added. -/
theorem lower_iff {ls : List (Option Node)}
    (h : if is_slice = true then List.Forall₂ (LowerGot p) indirection ls else ls = []) :
    (if is_slice = true then
      List.Forall₂ (fun (i : A_Indices Raw) l => Option.Rel (Transforms p) i.lidx l) indirection ls
    else ls = []) ↔ (is_slice = true → ∀ i ∈ indirection, HasUpper i) := by
  cases is_slice with
  | true => simpa using forall₂_rel_iff h
  | false => simpa using h

/-- With the colons of the chain itself, that is so for the whole chain. -/
theorem slice_imp_iff :
    (isSlice indirection = true → ∀ i ∈ indirection, HasUpper i) ↔ ∀ i ∈ indirection, HasUpper i := by
  constructor
  · intro h i hi
    cases hslice : isSlice indirection with
    | true => exact h hslice i hi
    | false => exact hasUpper_of_not_slice hslice hi
  · exact fun h _ => h

variable {refexpr : Node} {filled : SubscriptingRef}

/-- A chain that was added to the empty node is preserved just when its lower bounds have upper ones. -/
theorem preserved_of_extends_iff (hne : indirection ≠ [])
    (h : Extends p indirection is_slice (.make refexpr) filled) :
    Preserved p (Transforms p) indirection is_slice
        { filled with refrestype := p.DuckdbUnresolvedTypeOid, reftypmod := -1 } ↔
      (is_slice = true → ∀ i ∈ indirection, HasUpper i) := by
  obtain ⟨us, ls, hus, hls, rfl⟩ := h
  cases hus with
  | nil => exact absurd rfl hne
  | cons hu hus =>
    rw [← lower_iff hls]
    exact ⟨fun h => h.lower, fun h => ⟨⟨_, _, _, _, rfl, rfl, hu, hus⟩, h⟩⟩

/-- With a column in front a chain is preserved just when the lower bounds behind it have upper ones. -/
theorem preserved_of_column_iff {expr : Raw} {node : Node} {is : List (A_Indices Raw)}
    (huidx : i.uidx = some expr) (hlidx : i.lidx = none) (hnode : Coerces p expr node)
    (h : Extends p is is_slice (withColumn is_slice (.make refexpr) node) filled) :
    Preserved p (Coerces p) (i :: is) is_slice
        { filled with refrestype := p.DuckdbUnresolvedTypeOid, reftypmod := -1 } ↔
      (is_slice = true → ∀ i ∈ is, HasUpper i) := by
  obtain ⟨us, ls, hus, hls, rfl⟩ := h
  have hfirst : Option.Rel (Coerces p) i.uidx (some node) := by
    rw [huidx]
    exact .some hnode
  have hlower : (if is_slice = true then
        List.Forall₂ (fun (i : A_Indices Raw) l => Option.Rel (Transforms p) i.lidx l) (i :: is)
          ((if is_slice = true then [none] else []) ++ ls)
      else (if is_slice = true then [none] else []) ++ ls = []) ↔
      (is_slice = true → ∀ i ∈ is, HasUpper i) := by
    rw [← lower_iff hls]
    cases is_slice with
    | false => rfl
    | true =>
      have hnone : Option.Rel (Transforms p) i.lidx none := by
        rw [hlidx]
        exact .none
      simp [hnone]
  rw [← hlower]
  exact ⟨fun h => h.lower, fun h => ⟨⟨_, _, _, _, rfl, rfl, hfirst, hus⟩, h⟩⟩

end

/-- The first subscript of a `duckdb.row` is taken off if and only if it is stored as a constant. -/
theorem stripsFirst_iff (p : Printer) {sbsref : SubscriptingRef} {var : Var} {u : Option Node}
    {us : List (Option Node)} (hvar : sbsref.refexpr = .Var var) (hrow : pgduckdb_var_is_duckdb_row p var = true)
    (hupper : sbsref.refupperindexpr = u :: us) : StripsFirst p sbsref ↔ ∃ c, u = some (.Const c) := by
  obtain ⟨refexpr, upper, lower, refrestype, reftypmod⟩ := sbsref
  obtain rfl : refexpr = .Var var := hvar
  obtain rfl : upper = u :: us := hupper
  constructor
  · rintro ⟨c, rest, hfirst, -⟩
    exact ⟨c, (List.cons.inj hfirst).1⟩
  · rintro ⟨c, rfl⟩
    refine ⟨c, us, rfl, ?_⟩
    simp only [pgduckdb_strip_first_subscript, hrow, Bool.true_eq_false, if_false]
    cases lower with
    | nil => rfl
    | cons l lower => rfl

/-- A chain that a transform returns is preserved if and only if no lower bound in it was written without
an upper bound. Of a chain on a row, printing takes the first subscript off both lists and nothing else, if and only
if the name of the column is a text or an untyped literal. -/
theorem subscripts_preserved_iff {Raw σ : Type} (p : Parser Raw σ) (printer : Printer) (refexpr : Node)
    (pstate : σ) (indirection : List (A_Indices Raw)) (is_assignment : Bool) (type_name : String) :
    let s : State σ := ⟨pstate, .make refexpr⟩
    let is_slice := isSlice indirection
    (∀ s', (DuckdbSubscriptTransform p indirection is_slice is_assignment type_name).run s = .ok ⟨⟩ s' →
      (Preserved p (Transforms p) indirection is_slice s'.sbsref ↔ ∀ i ∈ indirection, HasUpper i)) ∧
    ∀ s', (DuckdbTextSubscriptTransform p indirection is_slice is_assignment type_name).run s = .ok ⟨⟩ s' →
      (Preserved p (Coerces p) indirection is_slice s'.sbsref ↔ ∀ i ∈ indirection, HasUpper i) ∧
      ∀ var, refexpr = .Var var → pgduckdb_var_is_duckdb_row printer var = true →
        (StripsFirst printer s'.sbsref ↔ NamesText p pstate indirection) := by
  intro s is_slice
  refine ⟨fun s' hrun => ?_, fun s' hrun => ?_⟩
  · obtain ⟨hne, filled, hextends, hsbsref⟩ := DuckdbSubscriptTransform_ensures.ok hrun
    rw [hsbsref, preserved_of_extends_iff hne hextends, slice_imp_iff]
  · obtain ⟨i, is, expr, node, hindirection, huidx, hlidx, hstored, filled, hextends, hsbsref⟩ :=
      DuckdbTextSubscriptTransform_ensures.ok hrun
    have hfirst : HasUpper i := fun _ => by rw [huidx]; rfl
    have hrest : (∀ i ∈ indirection, HasUpper i) ↔ ∀ i ∈ is, HasUpper i := by
      rw [hindirection, List.forall_mem_cons, and_iff_right hfirst]
    have hpreserved := preserved_of_column_iff huidx hlidx hstored.coerces hextends
    have hslice : (isSlice indirection = true → ∀ i ∈ is, HasUpper i) ↔ ∀ i ∈ is, HasUpper i := by
      rw [← hrest]
      exact slice_imp_iff
    rw [← hsbsref, ← hindirection] at hpreserved
    constructor
    · rw [hpreserved, hrest]
      exact hslice
    · intro var hvar hrow
      obtain ⟨us, ls, -, -, rfl⟩ := hextends
      have hvar' : s'.sbsref.refexpr = .Var var := by
        rw [hsbsref]
        exact hvar
      have hupper : s'.sbsref.refupperindexpr = some node :: us := by
        rw [hsbsref]
        rfl
      rw [hindirection, ← hstored.const_iff huidx, stripsFirst_iff printer hvar' hrow hupper]
      simp

/-- A parser that numbers its expressions, and takes 0 for a `varchar`. -/
def numbered : Parser Nat Unit where
  transform n := pure (if n = 0 then .Const ⟨VARCHAROID, false, ['a']⟩ else .other n)
  exprLocation _ := 0
  exprType
    | .Const c => c.consttype
    | _ => 0
  exprType_Const _ := rfl
  coerceToText node type := pure (some (if type = TEXTOID ∨ type = UNKNOWNOID then node else .other 0))
  coerceToText_Const c s node s' h := by
    cases h
    split <;> simp_all
  IsExtensionRegistered := true
  DuckdbUnresolvedTypeOid := 1

/-- `[2:]`. -/
def openEnded : A_Indices Nat := ⟨true, some 2, none, fun h => by cases h⟩

/-- `['a'::varchar]`. -/
def castName : A_Indices Nat := ⟨false, none, some 0, fun _ => ⟨rfl, rfl⟩⟩

/-- `v`, a row. -/
def rowVar : Var := ⟨1, 1, 2⟩

/-- A printer for rows. -/
def rowPrinter : Printer where
  keywords := ⟨fun w => Pg.reservedWords.any (· = w), fun w hw => by simpa using hw⟩
  DuckdbRowOid := 2
  output c := c.constvalue

/-- `col[2:]` loses its bound, and the name in `v['a'::varchar]` is not taken off. -/
theorem not_subscripts_preserved :
    (¬ ∀ (indirection : List (A_Indices Nat)) (s' : State Unit),
      (DuckdbSubscriptTransform numbered indirection (isSlice indirection) false
        "duckdb.unresolved_type").run ⟨(), .make (.Var ⟨1, 1, 1⟩)⟩ = .ok ⟨⟩ s' →
      Preserved numbered (Transforms numbered) indirection (isSlice indirection) s'.sbsref) ∧
    ¬ ∀ (indirection : List (A_Indices Nat)) (s' : State Unit),
      (DuckdbTextSubscriptTransform numbered indirection (isSlice indirection) false "duckdb.row").run
        ⟨(), .make (.Var rowVar)⟩ = .ok ⟨⟩ s' → StripsFirst rowPrinter s'.sbsref := by
  constructor
  · intro h
    have hpreserved := h [openEnded] _ rfl
    have hlower : List.Forall₂ (fun (i : A_Indices Nat) l => Option.Rel (Transforms numbered) i.lidx l)
        [openEnded] [none] := hpreserved.lower
    cases hlower with
    | cons hbound _ => cases hbound
  · intro h
    obtain ⟨c, rest, hfirst, -⟩ := h [castName] _ rfl
    cases hfirst

end PgDuckdb.Subscripts
