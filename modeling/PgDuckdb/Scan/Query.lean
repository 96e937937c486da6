import Mathlib.Algebra.Group.Nat.Defs
import Mathlib.Data.List.Perm.Subperm
import PgDuckdb.Scan.Filters

/-!
# The query of a scan

`ConstructTableScanQuery` writes the query that reads a relation for DuckDB: the columns that DuckDB
wants from it, and the filters of the scanned columns as a condition. Column numbers are mapped on
the way, from DuckDB's column ids to attribute numbers, with the filters found by the position of the
column in the scan.

`ScanInput.Correct` says what the query has to be. It is, if the filters are as `ScanInput.Condition`
says (`ConstructTableScanQuery_correct`).
-/

namespace PgDuckdb.Scan

open Pg (Text Val Scalars Conj Keywords Conjunct quote_identifier)

/-! ## The scan -/

/-- The relation that is scanned. -/
structure Relation where
  /-- `GenerateQualifiedRelationName`. -/
  name : Text
  natts : Nat
  /-- `MaxHeapAttributeNumber`. -/
  natts_le : natts ≤ 1600
  /-- The attributes by their index, which is the attribute number less one. A `NameData` holds no NUL. -/
  attname : Nat → Text
  nul_not_mem_attname : ∀ i, '\x00' ∉ attname i
  atttype : Nat → LogicalTypeId

/-- `TableFunctionInitInput`. -/
structure ScanInput (Leaf : Type) where
  column_ids : List Nat
  projection_ids : List Nat
  /-- By the position of the column in `column_ids`. -/
  filters : Option (Nat → Option (TableFilter Leaf))

/-- The column id that stands for the row itself. -/
def UINT64_MAX : Nat := 2 ^ 64 - 1

namespace ScanInput
variable {Leaf : Type}

/-- The filter of a scanned column. -/
def filter (input : ScanInput Leaf) (scan_index : Nat) : Option (TableFilter Leaf) :=
  input.filters.bind (· scan_index)

/-- `CanRemoveFilterColumns`. -/
def CanRemoveFilterColumns (input : ScanInput Leaf) : Bool :=
  !input.projection_ids.isEmpty && input.projection_ids.length != input.column_ids.length

/-- What DuckDB ensures: the columns are distinct columns of the relation (or the row id alone),
the filters are filters of scanned columns, and their expressions were accepted for pushdown. -/
structure Valid (rel : Relation) (input : ScanInput Leaf) : Prop where
  nodup : input.column_ids.Nodup
  columns : input.column_ids = [UINT64_MAX] ∨ ∀ c ∈ input.column_ids, c < rel.natts
  projection : ∀ p ∈ input.projection_ids, p < input.column_ids.length
  pushed : ∀ i f, input.filter i = some f →
    ∃ c, input.column_ids[i]? = some c ∧ c < rel.natts ∧ f.Pushed (rel.atttype c)

end ScanInput

/-! ## The query -/

/-- The query: a count of the rows, or columns of them under a condition. -/
inductive ScanQuery
  | count (rel : Text)
  | select (columns : List Text) (rel : Text) (condition : Option Text)
  deriving DecidableEq, Repr

/-- `scan_query`. -/
def ScanQuery.text : ScanQuery → Text
  | .count rel => "SELECT COUNT(*) FROM ".toList ++ rel
  | .select columns rel condition =>
    "SELECT ".toList ++ ", ".toList.intercalate columns ++ " FROM ".toList ++ rel ++
      (condition.map (" WHERE ".toList ++ ·)).getD []

/-- `map[k] = v` on a map that is ordered by its keys. -/
def assign (k v : Nat) : List (Nat × Nat) → List (Nat × Nat)
  | [] => [(k, v)]
  | (k', v') :: m =>
    if k < k' then (k, v) :: (k', v') :: m
    else if k = k' then (k, v) :: m
    else (k', v') :: assign k v m

/-- `pg_column_order`: attribute numbers with the position of the column in the scan. -/
def pg_column_order (scan_index : Nat) (order : List (Nat × Nat)) : List Nat → List (Nat × Nat)
  | [] => order
  | pg_column :: column_ids =>
    pg_column_order (scan_index + 1) (assign (pg_column + 1) scan_index order) column_ids

section
variable {K : Keywords} (L : Leaves K) (rel : Relation) (input : ScanInput L.Leaf)

/-- The loop over `columns_to_scan`: the conditions of the columns. -/
def query_filters : List (Nat × Nat) → Except ExtractError (List Text)
  | [] => .ok []
  | (attr_num, scan_index) :: columns_to_scan =>
    match input.filter scan_index with
    | none => query_filters columns_to_scan
    | some filter => do
      let (n, column_query_filters) ← ExtractQueryFilters L (rel.atttype (attr_num - 1))
        (quote_identifier K (rel.attname (attr_num - 1))) false filter
      let rest ← query_filters columns_to_scan
      .ok (if n ≠ 0 then column_query_filters :: rest else rest)

/-- The attribute numbers of the columns that are written out. -/
def output_columns : List Nat :=
  if input.CanRemoveFilterColumns then
    input.projection_ids.map fun projection_id => input.column_ids.getD projection_id 0 + 1
  else input.column_ids.map (· + 1)

/-- `ConstructTableScanQuery`. -/
def ConstructTableScanQuery : Except ExtractError ScanQuery :=
  if input.column_ids = [UINT64_MAX] then .ok (.count rel.name)
  else do
    let columns := (output_columns L input).map fun attr_num =>
      quote_identifier K (rel.attname (attr_num - 1))
    let filters ← query_filters L rel input (pg_column_order 0 [] input.column_ids)
    .ok (.select columns rel.name (if filters.isEmpty then none else some (FilterJoin .and filters)))

end

/-! ## What the query has to be -/

/-- The row satisfies the condition, which is the end of the query that Postgres gets by its pointer. -/
def Passes (F : Scalars) (row : Text → Option Val) : Option Text → Prop
  | none => True
  | some w => ∃ pg, Pg.parse w = some pg ∧ IsTrue (pg.eval F row)

section
variable {K : Keywords} (L : Leaves K) (rel : Relation) (input : ScanInput L.Leaf)

/-- The row satisfies all filters, each on its own column. -/
def ScanInput.AllFilters (U : Unsupported) (F : Scalars) (row : Text → Option Val) : Prop :=
  ∀ i c f, input.column_ids[i]? = some c → input.filter i = some f →
    f.Holds L U F (row (rel.attname c))

/-- An unsupported filter stands inside an optional one, or outside of all of them. -/
def ScanInput.HasUnsupported (inside : Bool) : Prop :=
  ∃ i f, input.filter i = some f ∧ f.hasUnsupported inside false = true

/-- The columns that DuckDB reads from the scan, in its order. -/
def ScanInput.outputIds : List Nat :=
  if input.CanRemoveFilterColumns then input.projection_ids.filterMap (input.column_ids[·]?)
  else input.column_ids

/-- The query keeps the rows and columns that DuckDB wants. -/
structure Answers (columns : List Text) (condition : Option Text) : Prop where
  sound : ∀ (U : Unsupported) (F : Scalars) (row : Text → Option Val),
    input.AllFilters L rel U F row → Passes F row condition
  exact : ¬input.HasUnsupported L true → ∀ (U : Unsupported) (F : Scalars) (row : Text → Option Val),
    Passes F row condition → input.AllFilters L rel U F row
  supported : ¬input.HasUnsupported L false
  select : columns = (input.outputIds L).map fun c => quote_identifier K (rel.attname c)
  /-- With projection ids in the order of the scan these are the projected columns, also where the
  code takes the scanned ones. -/
  projected : input.projection_ids ≠ [] → input.projection_ids.Pairwise (· < ·) →
    columns = (input.projection_ids.filterMap (input.column_ids[·]?)).map fun c =>
      quote_identifier K (rel.attname c)

/-- The scan throws, or its query is right. A count of the rows is right where DuckDB wants no column
and has no filter. -/
def ScanInput.Correct : Prop :=
  match ConstructTableScanQuery L rel input with
  | .error (.invalidFilterType _) => True
  | .error .emptyOptional => False
  | .ok (.count _) => input.column_ids = [UINT64_MAX] ∧ ∀ i, input.filter i = none
  | .ok (.select columns _ condition) => Answers L rel input columns condition

/-- An unsupported filter that is not optional is reached. -/
def ScanInput.Reached : Prop := ∃ i f, input.filter i = some f ∧ f.reached false = true

/-- An unsupported filter that is not optional is reached, or there is none, every printed expression
reads as itself, no printed filter holds a NUL, and (unless an unsupported filter is given up anyway) every `OR`
has a child. -/
def ScanInput.Condition : Prop :=
  input.Reached L ∨ ¬input.HasUnsupported L false ∧
    ∀ i c f, input.column_ids[i]? = some c → input.filter i = some f →
      f.Clear L (quote_identifier K (rel.attname c)) false ∧
        (¬input.HasUnsupported L true → f.orsNonempty = true)

end

/-! ## The order of the columns -/

/-- The pairs after one is put in place. -/
theorem mem_assign {k v : Nat} {m : List (Nat × Nat)} {p : Nat × Nat} (h : ∀ q ∈ m, q.1 ≠ k) :
    p ∈ assign k v m ↔ p = (k, v) ∨ p ∈ m := by
  induction m with
  | nil => simp [assign]
  | cons q m ih =>
    rw [List.forall_mem_cons] at h
    unfold assign
    split
    · exact List.mem_cons
    · rw [if_neg (Ne.symm h.1), List.mem_cons, ih h.2, List.mem_cons]
      exact or_left_comm

/-- Every scanned column is in the order once, under its attribute number. -/
theorem mem_pg_column_order {column_ids : List Nat} {n : Nat} {order : List (Nat × Nat)}
    {p : Nat × Nat} (hnodup : column_ids.Nodup)
    (hfresh : ∀ q ∈ order, ∀ c ∈ column_ids, q.1 ≠ c + 1) :
    p ∈ pg_column_order n order column_ids ↔
      p ∈ order ∨ ∃ i c, column_ids[i]? = some c ∧ p = (c + 1, n + i) := by
  induction column_ids generalizing n order with
  | nil => simp [pg_column_order]
  | cons pg_column column_ids ih =>
    rw [List.nodup_cons] at hnodup
    have hassign : ∀ q, q ∈ assign (pg_column + 1) n order ↔ q = (pg_column + 1, n) ∨ q ∈ order :=
      fun q => mem_assign fun q hq => hfresh q hq pg_column List.mem_cons_self
    have hrest : ∀ q ∈ assign (pg_column + 1) n order, ∀ c ∈ column_ids, q.1 ≠ c + 1 := by
      intro q hq c hc
      rcases (hassign q).1 hq with rfl | hq
      · rintro heq
        cases heq
        exact hnodup.1 hc
      · exact hfresh q hq c (List.mem_cons_of_mem _ hc)
    rw [pg_column_order, ih hnodup.2 hrest, hassign]
    constructor
    · rintro ((rfl | hp) | ⟨i, c, hc, rfl⟩)
      · exact .inr ⟨0, pg_column, rfl, rfl⟩
      · exact .inl hp
      · exact .inr ⟨i + 1, c, hc, by rw [Nat.add_right_comm, Nat.add_assoc]⟩
    · rintro (hp | ⟨i, c, hc, rfl⟩)
      · exact .inl (.inr hp)
      · cases i with
        | zero =>
          cases hc
          exact .inl (.inl rfl)
        | succ i => exact .inr ⟨i, c, hc, by rw [Nat.add_right_comm, Nat.add_assoc]⟩

section
variable {K : Keywords} {L : Leaves K} {rel : Relation} {input : ScanInput L.Leaf}

/-- A column of the order is a column of the scan. -/
theorem ScanInput.mem_columns (h : input.Valid rel) {p : Nat × Nat} :
    p ∈ pg_column_order 0 [] input.column_ids ↔
      ∃ i c, input.column_ids[i]? = some c ∧ p = (c + 1, i) := by
  rw [mem_pg_column_order h.nodup (by simp)]
  simp

/-! ## The conditions of the columns -/

/-- The filters of some columns, as the loop over them sees them. -/
def ColumnFilter (input : ScanInput L.Leaf) (columns : List (Nat × Nat))
    (P : Nat → TableFilter L.Leaf → Prop) : Prop :=
  ∀ p ∈ columns, ∀ f, input.filter p.2 = some f → P (p.1 - 1) f

/-- The filters of the first column and of the rest. -/
theorem columnFilter_cons {p : Nat × Nat} {columns : List (Nat × Nat)}
    {P : Nat → TableFilter L.Leaf → Prop} :
    ColumnFilter input (p :: columns) P ↔
      (∀ f, input.filter p.2 = some f → P (p.1 - 1) f) ∧ ColumnFilter input columns P :=
  List.forall_mem_cons

/-- One round of the loop. -/
theorem query_filters_cons {attr_num scan_index : Nat} {columns : List (Nat × Nat)} :
    query_filters L rel input ((attr_num, scan_index) :: columns) =
      match input.filter scan_index with
      | none => query_filters L rel input columns
      | some filter =>
        match ExtractQueryFilters L (rel.atttype (attr_num - 1))
          (quote_identifier K (rel.attname (attr_num - 1))) false filter with
        | .error e => .error e
        | .ok (0, _) => query_filters L rel input columns
        | .ok (_ + 1, w) => (query_filters L rel input columns).map (w :: ·) := by
  rw [query_filters]
  cases input.filter scan_index with
  | none => rfl
  | some filter =>
    dsimp only
    cases ExtractQueryFilters L (rel.atttype (attr_num - 1))
      (quote_identifier K (rel.attname (attr_num - 1))) false filter with
    | error e => rfl
    | ok r =>
      obtain ⟨n, w⟩ := r
      cases n with
      | zero => cases query_filters L rel input columns <;> rfl
      | succ n => cases query_filters L rel input columns <;> rfl

/-- The outcome of the loop. -/
def QueryOutcome {α : Type} (reached : Prop) : Except ExtractError α → Prop
  | .error (.invalidFilterType _) => reached
  | .error .emptyOptional => False
  | .ok _ => ¬reached

/-- An outcome is one after its result is mapped. -/
theorem QueryOutcome.map {α β : Type} {reached : Prop} {g : α → β} {r : Except ExtractError α}
    (h : QueryOutcome reached r) : QueryOutcome reached (r.map g) :=
  match r, h with
  | .error (.invalidFilterType _), h => h
  | .ok _, h => h

/-- A column whose filter throws. -/
def AnyReached (input : ScanInput L.Leaf) (columns : List (Nat × Nat)) : Prop :=
  ∃ p ∈ columns, ∃ f, input.filter p.2 = some f ∧ f.reached false = true

/-- A filter of the first column throws, or one of the rest does. -/
theorem anyReached_cons {p : Nat × Nat} {columns : List (Nat × Nat)} :
    AnyReached input (p :: columns) ↔
      (∃ f, input.filter p.2 = some f ∧ f.reached false = true) ∨ AnyReached input columns :=
  List.exists_mem_cons_iff _ _ _

/-- The loop throws if the filter of a column does. -/
theorem query_filters_outcome {columns : List (Nat × Nat)}
    (hpushed : ColumnFilter input columns fun c f => f.Pushed (rel.atttype c)) :
    QueryOutcome (AnyReached input columns) (query_filters L rel input columns) := by
  induction columns with
  | nil =>
    rintro ⟨p, hp, -⟩
    cases hp
  | cons p columns ih =>
    obtain ⟨attr_num, scan_index⟩ := p
    rw [columnFilter_cons] at hpushed
    have hrest := ih hpushed.2
    rw [query_filters_cons, anyReached_cons]
    cases hfilter : input.filter scan_index with
    | none => simpa using hrest
    | some filter =>
      have houtcome : Outcome _ _ (ExtractQueryFilters L (rel.atttype (attr_num - 1))
          (quote_identifier K (rel.attname (attr_num - 1))) false filter) :=
        extract_outcome filter false (hpushed.1 filter hfilter)
      simp only [Option.some.injEq, exists_eq_left']
      cases hextract : ExtractQueryFilters L (rel.atttype (attr_num - 1))
          (quote_identifier K (rel.attname (attr_num - 1))) false filter with
      | error e =>
        rw [hextract] at houtcome
        cases e with
        | invalidFilterType n => exact .inl houtcome
        | emptyOptional => exact houtcome
      | ok r =>
        rw [hextract] at houtcome
        obtain ⟨n, w⟩ := r
        cases n with
        | zero =>
          simp only [houtcome.1, Bool.false_eq_true, false_or]
          exact hrest
        | succ n =>
          simp only [houtcome.1, Bool.false_eq_true, false_or]
          exact hrest.map

/-- The conditions are satisfied where the filters of the columns are, and nowhere else if no
unsupported filter was given up. -/
structure ColumnsMean (rel : Relation) (input : ScanInput L.Leaf) (columns : List (Nat × Nat))
    (pgs : List Pg.Expr) : Prop where
  sound : ∀ (U : Unsupported) (F : Scalars) (row : Text → Option Val),
    ColumnFilter input columns (fun c f => f.Holds L U F (row (rel.attname c))) →
      ∀ pg ∈ pgs, IsTrue (pg.eval F row)
  exact : ColumnFilter input columns (fun _ f =>
      f.hasUnsupported true false = false ∧ f.orsNonempty = true) →
    ∀ (U : Unsupported) (F : Scalars) (row : Text → Option Val),
      (∀ pg ∈ pgs, IsTrue (pg.eval F row)) →
        ColumnFilter input columns fun c f => f.Holds L U F (row (rel.attname c))

/-- A column without a condition: it has no filter, or one that is dropped. -/
theorem ColumnsMean.drop {p : Nat × Nat} {columns : List (Nat × Nat)} {pgs : List Pg.Expr}
    (hdrop : ∀ f, input.filter p.2 = some f → f.droppable false = true)
    (hrest : ColumnsMean rel input columns pgs) : ColumnsMean rel input (p :: columns) pgs where
  sound U F row h := hrest.sound U F row (columnFilter_cons.1 h).2
  exact hexact U F row h := by
    rw [columnFilter_cons] at hexact
    refine columnFilter_cons.2 ⟨fun f hf => ?_, hrest.exact hexact.2 U F row h⟩
    obtain ⟨hunsupported, hors⟩ := hexact.1 f hf
    exact f.holds_of_droppable false (hdrop f hf) hunsupported hors

/-- A column with a condition. -/
theorem ColumnsMean.cons {p : Nat × Nat} {columns : List (Nat × Nat)} {filter : TableFilter L.Leaf}
    {pg : Pg.Expr} {pgs : List Pg.Expr} (hfilter : input.filter p.2 = some filter)
    (h : Means L (rel.attname (p.1 - 1)) false filter pg)
    (hrest : ColumnsMean rel input columns pgs) :
    ColumnsMean rel input (p :: columns) (pg :: pgs) where
  sound U F row hholds := by
    rw [columnFilter_cons] at hholds
    exact List.forall_mem_cons.2 ⟨h.sound U F row (hholds.1 filter hfilter),
      hrest.sound U F row hholds.2⟩
  exact hexact U F row htrue := by
    rw [columnFilter_cons] at hexact
    rw [List.forall_mem_cons] at htrue
    refine columnFilter_cons.2 ⟨fun f hf => ?_, hrest.exact hexact.2 U F row htrue.2⟩
    obtain ⟨hunsupported, hors⟩ := hexact.1 f hf
    rw [hfilter] at hf
    cases hf
    exact h.exact hunsupported hors U F row htrue.1

/-- What the loop gives means the filters. -/
theorem query_filters_means {columns : List (Nat × Nat)} {ws : List Text}
    (hpushed : ColumnFilter input columns fun c f => f.Pushed (rel.atttype c))
    (hclear : ColumnFilter input columns fun c f => f.Clear L (quote_identifier K (rel.attname c)) false)
    (h : query_filters L rel input columns = .ok ws) :
    ∃ pgs : List Pg.Expr, List.Forall₂ ConditionText ws pgs ∧
      ColumnsMean rel input columns pgs := by
  induction columns generalizing ws with
  | nil =>
    cases h
    exact ⟨[], .nil, fun _ _ _ _ pg hpg => absurd hpg List.not_mem_nil,
      fun _ _ _ _ _ p hp => absurd hp List.not_mem_nil⟩
  | cons p columns ih =>
    obtain ⟨attr_num, scan_index⟩ := p
    rw [columnFilter_cons] at hpushed hclear
    rw [query_filters_cons] at h
    split at h
    · rename_i hnone
      obtain ⟨pgs, htexts, hmeans⟩ := ih hpushed.2 hclear.2 h
      exact ⟨pgs, htexts, hmeans.drop fun f hf => by simp [hnone] at hf⟩
    · rename_i filter hfilter
      have houtcome : Outcome _ _ (ExtractQueryFilters L (rel.atttype (attr_num - 1))
          (quote_identifier K (rel.attname (attr_num - 1))) false filter) :=
        extract_outcome filter false (hpushed.1 filter hfilter)
      split at h
      · cases h
      · rename_i hextract
        rw [hextract] at houtcome
        obtain ⟨pgs, htexts, hmeans⟩ := ih hpushed.2 hclear.2 h
        refine ⟨pgs, htexts, hmeans.drop fun f hf => ?_⟩
        rw [hfilter] at hf
        cases hf
        exact houtcome.2.1
      · rename_i n w hextract
        obtain ⟨pg, hreads, hmeans⟩ := extract_means (rel.nul_not_mem_attname _) filter false
          (hpushed.1 filter hfilter) (hclear.1 filter hfilter) hextract
        cases hloop : query_filters L rel input columns with
        | error e =>
          rw [hloop] at h
          cases h
        | ok ws =>
          rw [hloop] at h
          cases h
          obtain ⟨pgs, htexts, hrest⟩ := ih hpushed.2 hclear.2 hloop
          exact ⟨pg :: pgs, .cons hreads htexts, hrest.cons hfilter hmeans⟩

/-- The condition of the query. -/
theorem passes_filterJoin {F : Scalars} {row : Text → Option Val} {ws : List Text}
    {pgs : List Pg.Expr} (h : List.Forall₂ ConditionText ws pgs) :
    Passes F row (if ws.isEmpty then none else some (FilterJoin .and ws)) ↔
      ∀ pg ∈ pgs, IsTrue (pg.eval F row) := by
  cases pgs with
  | nil =>
    cases h
    simp [Passes]
  | cons pg pgs =>
    cases h with
    | @cons w _ ws _ hhead hrest =>
      have hparse : Pg.parse (FilterJoin .and (w :: ws)) = some (joinExprs .and (pg :: pgs)) := by
        have hjoin := @Conjunct.join .and _ _ _ _ hhead.1 (ConditionText.conjuncts hrest).1
        refine (hjoin.parse_eq (Nat.succ_pos _)).trans ?_
        rw [if_neg (ConditionText.nul_not_mem_joinText (.cons hhead hrest))]
        exact (join_eq_some (by simp)).2 ⟨rfl, rfl⟩
      simp only [List.isEmpty_cons, Bool.false_eq_true, if_false, Passes, hparse,
        Option.some.injEq, exists_eq_left', joinExprs_eval (List.cons_ne_nil pg pgs)]
      rw [List.map_cons, isTrue_conj3_and, ← List.map_cons, List.forall_mem_map]

/-! ## The columns of the query -/

/-- Positions in order, as many as there are, are all of them. -/
theorem eq_range_of_increasing {ps : List Nat} {n : Nat} (hlt : ps.Pairwise (· < ·))
    (hbound : ∀ p ∈ ps, p < n) (hlength : ps.length = n) : ps = List.range n := by
  have hnodup : ps.Nodup := hlt.imp fun h => Nat.ne_of_lt h
  have hsub : ps.Subperm (List.range n) :=
    List.subperm_of_subset hnodup fun p hp => List.mem_range.2 (hbound p hp)
  have hperm : ps.Perm (List.range n) := hsub.perm_of_length_le (by simp [hlength])
  exact List.Perm.eq_of_pairwise (fun a b _ _ hab hba => absurd hab (Nat.lt_asymm hba)) hlt
    List.pairwise_lt_range hperm

/-- Places that are all in the list have their entries. -/
theorem filterMap_getElem? {ps l : List Nat} (hbound : ∀ p ∈ ps, p < l.length) :
    ps.filterMap (l[·]?) = ps.map fun p => l.getD p 0 := by
  induction ps with
  | nil => rfl
  | cons p ps ih =>
    rw [List.forall_mem_cons] at hbound
    rw [List.map_cons, ← ih hbound.2, List.filterMap_cons_some]
    simp [hbound.1]

/-- The entries at all places are the list. -/
theorem filterMap_getElem?_range (l : List Nat) :
    (List.range l.length).filterMap (l[·]?) = l := by
  rw [filterMap_getElem? fun p hp => List.mem_range.1 hp]
  refine List.ext_getElem (by simp) fun i h₁ h₂ => ?_
  simp [h₂]

/-- The columns of the query are those that DuckDB reads. -/
theorem output_columns_eq (h : input.Valid rel) :
    (output_columns L input).map (fun attr_num => quote_identifier K (rel.attname (attr_num - 1))) =
      (input.outputIds L).map fun c => quote_identifier K (rel.attname c) := by
  unfold output_columns ScanInput.outputIds
  split
  · rw [filterMap_getElem? h.projection, List.map_map, List.map_map]
    rfl
  · rw [List.map_map]
    rfl

/-- They are the projected columns. -/
theorem outputIds_eq_projected (h : input.Valid rel) (hne : input.projection_ids ≠ [])
    (hlt : input.projection_ids.Pairwise (· < ·)) :
    input.outputIds L = input.projection_ids.filterMap (input.column_ids[·]?) := by
  unfold ScanInput.outputIds
  split
  · rfl
  · rename_i hremove
    have hlength : input.projection_ids.length = input.column_ids.length := by
      simpa [ScanInput.CanRemoveFilterColumns, hne] using hremove
    rw [eq_range_of_increasing hlt h.projection hlength, filterMap_getElem?_range]

/-! ## The query is right -/

/-- The loop sees every filter, on its column. -/
theorem columnFilter_iff (h : input.Valid rel) {P : Nat → TableFilter L.Leaf → Prop} :
    ColumnFilter input (pg_column_order 0 [] input.column_ids) P ↔
      ∀ i c f, input.column_ids[i]? = some c → input.filter i = some f → P c f := by
  constructor
  · intro hall i c f hc hf
    exact hall (c + 1, i) ((input.mem_columns h).2 ⟨i, c, hc, rfl⟩) f hf
  · intro hall p hp f hf
    obtain ⟨i, c, hc, rfl⟩ := (input.mem_columns h).1 hp
    exact hall i c f hc hf

/-- The filters of the scan are what DuckDB pushes down on columns of these types. -/
theorem columnFilter_pushed (h : input.Valid rel) :
    ColumnFilter input (pg_column_order 0 [] input.column_ids) fun c f =>
      f.Pushed (rel.atttype c) := by
  rw [columnFilter_iff h]
  intro i c f hc hf
  obtain ⟨c', hc', -, hpushed⟩ := h.pushed i f hf
  rw [hc] at hc'
  cases hc'
  exact hpushed

/-- A column whose filter throws is one of the input. -/
theorem anyReached_iff (h : input.Valid rel) :
    AnyReached input (pg_column_order 0 [] input.column_ids) ↔ input.Reached L := by
  constructor
  · rintro ⟨p, -, f, hf, hreached⟩
    exact ⟨p.2, f, hf, hreached⟩
  · rintro ⟨i, f, hf, hreached⟩
    obtain ⟨c, hc, -, -⟩ := h.pushed i f hf
    exact ⟨(c + 1, i), (input.mem_columns h).2 ⟨i, c, hc, rfl⟩, f, hf, hreached⟩

/-- The row id alone has no filter. -/
theorem filter_eq_none (h : input.Valid rel) (hcount : input.column_ids = [UINT64_MAX]) (i : Nat) :
    input.filter i = none := by
  cases hf : input.filter i with
  | none => rfl
  | some f =>
    obtain ⟨c, hc, hlt, -⟩ := h.pushed i f hf
    have hmem := List.mem_of_getElem? hc
    rw [hcount, List.mem_singleton] at hmem
    have hle := rel.natts_le
    rw [hmem, UINT64_MAX] at hlt
    omega

/-- A query that selects columns. -/
theorem construct_eq_map (hselect : input.column_ids ≠ [UINT64_MAX]) :
    ConstructTableScanQuery L rel input =
      (query_filters L rel input (pg_column_order 0 [] input.column_ids)).map fun filters =>
        .select ((output_columns L input).map fun attr_num =>
          quote_identifier K (rel.attname (attr_num - 1))) rel.name
          (if filters.isEmpty then none else some (FilterJoin .and filters)) := by
  rw [ConstructTableScanQuery, if_neg hselect]
  cases query_filters L rel input (pg_column_order 0 [] input.column_ids) <;> rfl

/-- The scan throws if and only if an unsupported filter is reached. -/
theorem construct_outcome (h : input.Valid rel) :
    QueryOutcome (input.Reached L) (ConstructTableScanQuery L rel input) := by
  by_cases hcount : input.column_ids = [UINT64_MAX]
  · rw [ConstructTableScanQuery, if_pos hcount]
    rintro ⟨i, f, hf, -⟩
    rw [filter_eq_none h hcount] at hf
    cases hf
  · rw [construct_eq_map hcount, ← anyReached_iff h]
    exact (query_filters_outcome (columnFilter_pushed h)).map

/-- The conditions that are printed for the filters answer the scan. -/
theorem answers_of_means (h : input.Valid rel) {ws : List Text} {pgs : List Pg.Expr}
    (htexts : List.Forall₂ ConditionText ws pgs)
    (hmeans : ColumnsMean rel input (pg_column_order 0 [] input.column_ids) pgs)
    (hsupported : ¬input.HasUnsupported L false)
    (hors : ¬input.HasUnsupported L true → ∀ i c f, input.column_ids[i]? = some c → input.filter i = some f →
      f.orsNonempty = true) :
    Answers L rel input
      ((output_columns L input).map fun attr_num => quote_identifier K (rel.attname (attr_num - 1)))
      (if ws.isEmpty then none else some (FilterJoin .and ws)) where
  sound U F row hall :=
    (passes_filterJoin htexts).2 (hmeans.sound U F row ((columnFilter_iff h).2 hall))
  exact hinside U F row hpass := by
    have hexact := (columnFilter_iff h).2 fun i c f hc hf =>
      show f.hasUnsupported true false = false ∧ f.orsNonempty = true from
        ⟨Bool.eq_false_iff.2 fun hf' => hinside ⟨i, f, hf, hf'⟩, hors hinside i c f hc hf⟩
    exact (columnFilter_iff h).1 (hmeans.exact hexact U F row ((passes_filterJoin htexts).1 hpass))
  supported := hsupported
  select := output_columns_eq h
  projected hne hlt := by
    rw [output_columns_eq h, outputIds_eq_projected h hne hlt]

/-- A scan with filters of this kind throws, or its query is right. -/
theorem correct_of_condition (h : input.Valid rel) (hcond : input.Condition L rel) :
    input.Correct L rel := by
  have houtcome := construct_outcome h
  unfold ScanInput.Correct
  by_cases hcount : input.column_ids = [UINT64_MAX]
  · rw [ConstructTableScanQuery, if_pos hcount]
    exact ⟨hcount, filter_eq_none h hcount⟩
  · rw [construct_eq_map hcount] at houtcome ⊢
    cases hloop : query_filters L rel input (pg_column_order 0 [] input.column_ids) with
    | error e =>
      rw [hloop] at houtcome
      cases e with
      | invalidFilterType n => trivial
      | emptyOptional => exact houtcome
    | ok ws =>
      rw [hloop] at houtcome
      rcases hcond with hreached | ⟨hsupported, hfilters⟩
      · exact absurd hreached houtcome
      · obtain ⟨pgs, htexts, hmeans⟩ := query_filters_means (columnFilter_pushed h)
          ((columnFilter_iff h).2 fun i c f hc hf => (hfilters i c f hc hf).1) hloop
        exact answers_of_means h htexts hmeans hsupported fun hinside i c f hc hf =>
          (hfilters i c f hc hf).2 hinside

end

/-- A scan throws exactly if it reaches an unsupported filter that is not optional. Its query is right
if it does, or if there is no such filter, every printed expression reads as itself, no printed filter holds a
NUL and every `OR` has a child; and a scan with such a filter that it does not reach is wrong. -/
theorem ConstructTableScanQuery_correct {K : Keywords} (L : Leaves K) (rel : Relation)
    (input : ScanInput L.Leaf) (h : input.Valid rel) :
    ((∃ n, ConstructTableScanQuery L rel input = .error (.invalidFilterType n)) ↔
        input.Reached L) ∧
      (input.Condition L rel → input.Correct L rel) ∧
      (input.Correct L rel → input.Reached L ∨ ¬input.HasUnsupported L false) := by
  have houtcome := construct_outcome h
  refine ⟨?_, correct_of_condition h, ?_⟩
  · cases hquery : ConstructTableScanQuery L rel input with
    | error e =>
      rw [hquery] at houtcome
      cases e with
      | invalidFilterType n => exact ⟨fun _ => houtcome, fun _ => ⟨n, rfl⟩⟩
      | emptyOptional => exact houtcome.elim
    | ok query =>
      rw [hquery] at houtcome
      refine ⟨?_, fun hreached => absurd hreached houtcome⟩
      rintro ⟨n, hn⟩
      cases hn
  · intro hcorrect
    unfold ScanInput.Correct at hcorrect
    cases hquery : ConstructTableScanQuery L rel input with
    | error e =>
      rw [hquery] at houtcome
      cases e with
      | invalidFilterType n => exact .inl houtcome
      | emptyOptional => exact houtcome.elim
    | ok query =>
      rw [hquery] at hcorrect
      cases query with
      | count name =>
        right
        rintro ⟨i, f, hf, -⟩
        rw [hcorrect.2] at hf
        cases hf
      | select columns name condition => exact .inr hcorrect.supported

/-! ## Scans -/

/-- The filters `IS NULL` and (`true`) `IS NOT NULL`. -/
def nullLeaves (K : Keywords) : Leaves K where
  Leaf := Bool
  ToString negated column_name := column_name ++ ' ' :: Pg.isNullText negated
  eval negated _ v := Pg.isNull negated v
  reads negated attname := by
    have hname : Pg.PrimaryText (quote_identifier K attname) (some (.column attname)) :=
      .quote_identifier
    exact ⟨.isNull negated (.column attname),
      ⟨_, _, hname.readsText.isNull (by decide) (by decide) negated, by decide, by decide⟩,
      fun F row => rfl⟩

/-- `t (a VARCHAR, b VARCHAR)`. -/
def twoColumns : Relation where
  name := "t".toList
  natts := 2
  natts_le := by decide
  attname c := if c = 0 then "a".toList else "b".toList
  nul_not_mem_attname i := by split <;> decide
  atttype _ := .VARCHAR

/-- `b` for the rows with `NOT (lower(a) = 'x' AND ...)`; on `b` there is an optional filter that is
given up, and one that is not. -/
def scanOfB : ScanInput Bool where
  column_ids := [1, 0]
  projection_ids := [0]
  filters := some fun i =>
    if i = 0 then some (.conjunction .and [.OPTIONAL_FILTER (.unsupported 0), .leaf true])
    else if i = 1 then some (.EXPRESSION_FILTER notLowerLike)
    else none

/-- The scan of the example is valid. -/
theorem valid_scanOfB : scanOfB.Valid twoColumns where
  nodup := by decide
  columns := .inr (by decide)
  projection := by decide
  pushed i f hf := by
    match i with
    | 0 =>
      cases hf
      exact ⟨1, rfl, by decide, trivial, trivial, trivial⟩
    | 1 =>
      cases hf
      refine ⟨0, rfl, by decide, ?_, rfl⟩
      simp [notLowerLike, Expr.WellTyped, WellTypedArgs, Expr.return_type,
        ScalarFunction.return_type, ScalarFunction.arity, Value.type, twoColumns]
    | i + 2 => cases hf

/-- The scan of the example meets the condition. -/
theorem condition_scanOfB : scanOfB.Condition (nullLeaves leastKeywords) twoColumns := by
  refine .inr ⟨?_, ?_⟩
  · rintro ⟨i, f, hf, hunsupported⟩
    match i with
    | 0 | 1 =>
      cases hf
      cases hunsupported
    | i + 2 => cases hf
  · intro i c f hc hf
    match i with
    | 0 =>
      cases hf
      cases hc
      refine ⟨⟨trivial, ?_, trivial⟩, fun _ => rfl⟩
      show '\x00' ∉ "b".toList ++ ' ' :: Pg.isNullText true
      decide
    | 1 =>
      cases hf
      refine ⟨?_, fun _ => rfl⟩
      simp [TableFilter.Clear, notLowerLike, Expr.Unambiguous, UnambiguousArgs, Expr.isNot,
        Expr.isNullTest, Expr.NulFree, NulFreeArgs, Value.NulFree]
    | i + 2 => cases hf

/-- The query of the example is right. -/
theorem ConstructTableScanQuery_correct_scanOfB :
    scanOfB.Correct (nullLeaves leastKeywords) twoColumns :=
  (ConstructTableScanQuery_correct (nullLeaves leastKeywords) twoColumns scanOfB
    valid_scanOfB).2.1 condition_scanOfB

/-- `t (a BOOLEAN)`. -/
def oneColumn : Relation where
  name := "t".toList
  natts := 1
  natts_le := by decide
  attname _ := "a".toList
  nul_not_mem_attname _ := by decide
  atttype _ := .BOOLEAN

/-- A scan of the column with one filter. -/
def scanWith (f : TableFilter Bool) : ScanInput Bool where
  column_ids := [0]
  projection_ids := []
  filters := some fun i => if i = 0 then some f else none

/-- The scan of the example with any pushed filter is valid. -/
theorem valid_scanWith {f : TableFilter Bool} (h : f.Pushed .BOOLEAN) :
    (scanWith f).Valid oneColumn where
  nodup := by simp [scanWith]
  columns := .inr (by simp [scanWith, oneColumn])
  projection := by simp [scanWith]
  pushed i g hg := by
    match i with
    | 0 =>
      cases hg
      exact ⟨0, rfl, by decide, h⟩
    | i + 1 => cases hg

/-- An unsupported filter behind an optional one in an `OR`. -/
def hiddenUnsupported : TableFilter Bool :=
  .conjunction .or [.OPTIONAL_FILTER (.unsupported 0), .unsupported 1]

/-- The unsupported filter does not throw, and the row of `a = (a IS NULL)` with `a` false is lost. -/
theorem not_correct_scanWith :
    ((scanWith hiddenUnsupported).Valid oneColumn ∧
        ¬(scanWith hiddenUnsupported).Correct (nullLeaves leastKeywords) oneColumn) ∧
      (scanWith (.EXPRESSION_FILTER equalsIsNull)).Valid oneColumn ∧
        ¬(scanWith (.EXPRESSION_FILTER equalsIsNull)).Correct (nullLeaves leastKeywords) oneColumn := by
  refine ⟨⟨valid_scanWith ⟨trivial, trivial, trivial⟩, fun h => ?_⟩,
    valid_scanWith ⟨⟨trivial, trivial, rfl⟩, rfl⟩, fun h => ?_⟩
  · have hanswers : Answers (nullLeaves leastKeywords) oneColumn (scanWith hiddenUnsupported)
        ["a".toList] none := h
    exact hanswers.supported ⟨0, hiddenUnsupported, rfl, rfl⟩
  · have hanswers : Answers (nullLeaves leastKeywords) oneColumn
        (scanWith (.EXPRESSION_FILTER equalsIsNull)) ["a".toList]
        (some "(a = (a) IS NULL)".toList) := h
    have hpasses := hanswers.sound (fun _ _ => False)
      ⟨fun _ _ _ => false, id, id, fun _ _ _ => none, fun _ _ => false⟩
      (fun _ => some (.bool false)) (by
        intro i c f _ hf
        match i with
        | 0 =>
          cases hf
          rfl
        | i + 1 => cases hf)
    obtain ⟨pg, hparse, htrue⟩ := hpasses
    have hread : Pg.parse "(a = (a) IS NULL)".toList =
        some (.isNull false (.compare .eq (.column "a".toList) (.column "a".toList))) := rfl
    rw [hread, Option.some.injEq] at hparse
    subst hparse
    revert htrue
    unfold IsTrue
    decide

end PgDuckdb.Scan
