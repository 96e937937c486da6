import Mathlib.Data.List.Basic

/-!
# Plans that run in parallel

`InitUnsafe` plans the query of a scan, asks `CanTableScanRunInParallel` about the plan, and if the answer is
yes `InitRunWithParallelScan` marks it with `MarkPlanParallelAware` (`postgres_table_reader.cpp`). Both go down
the plan. The first accepts an `Agg` without a look below it, and looks at the children of an `Append`; the
second does not know an `Agg`, passes over the children of an `Append`, and goes down the bitmap nodes of a heap
scan.

Where the aggregate of `SELECT COUNT(*)` stands on top, it is the plan below it that is marked, and nothing has
been asked about that one: `marksConsistently_iff`.
-/

namespace PgDuckdb.Scan

/-! ## Plans -/

/-- The nodes that read a plain table by themselves. -/
inductive ScanTag
  | SeqScan
  | IndexScan
  | IndexOnlyScan
  deriving DecidableEq, Repr

/-- `NodeTag`. -/
inductive NodeTag
  | scan (tag : ScanTag)
  | BitmapHeapScan
  | BitmapIndexScan
  | BitmapAnd
  | BitmapOr
  | Append
  | Agg
  | Result
  | ForeignScan
  /-- Any other node, by its number. -/
  | other (n : ℕ)
  deriving DecidableEq, Repr

/-- `Plan`, with what the two walks read and write. -/
inductive Plan
  | scan (tag : ScanTag) (parallel_aware : Bool)
  | BitmapHeapScan (parallel_aware : Bool) (lefttree : Plan)
  | BitmapIndexScan (isshared : Bool)
  | BitmapAnd (bitmapplans : List Plan)
  | BitmapOr (isshared : Bool) (bitmapplans : List Plan)
  | Append (parallel_aware : Bool) (appendplans : List Plan)
  | Agg (parallel_aware : Bool) (lefttree : Plan)
  | Result
  | ForeignScan
  | other (n : ℕ)

namespace Plan

/-- The kind of a plan node. -/
def nodeTag : Plan → NodeTag
  | scan tag _ => .scan tag
  | BitmapHeapScan _ _ => .BitmapHeapScan
  | BitmapIndexScan _ => .BitmapIndexScan
  | BitmapAnd _ => .BitmapAnd
  | BitmapOr _ _ => .BitmapOr
  | Append _ _ => .Append
  | Agg _ _ => .Agg
  | Result => .Result
  | ForeignScan => .ForeignScan
  | other n => .other n

/-- A plan node that aggregates. -/
def isAgg : Plan → Bool
  | Agg _ _ => true
  | _ => false

/-- A node that scans a table of PostgreSQL's own, or several of them. -/
def isScan : Plan → Bool
  | scan _ _ | BitmapHeapScan _ _ | Append _ _ => true
  | _ => false

end Plan

/-! ## The two walks -/

mutual

/-- `CanTableScanRunInParallel`. -/
def CanTableScanRunInParallel : Plan → Bool
  | .scan _ _ | .BitmapHeapScan _ _ => true
  | .Append _ appendplans => allRunInParallel appendplans
  | .Agg _ _ => true
  | _ => false

/-- Its loop over the children of an `Append`. -/
def allRunInParallel : List Plan → Bool
  | [] => true
  | plan :: plans => CanTableScanRunInParallel plan && allRunInParallel plans

end

/-- What the marking may end with. -/
inductive MarkError
  /-- `Unknown postgres scan query plan node: ...`. -/
  | UnknownNode (tag : NodeTag)
  /-- The child that is marked is missing. -/
  | nullPointer
  deriving DecidableEq, Repr

/-- `MarkPlanParallelAware`, with the plan as it leaves it. -/
def MarkPlanParallelAware : Plan → Except MarkError Plan
  | .scan tag _ => .ok (.scan tag true)
  | .Append _ appendplans => .ok (.Append true appendplans)
  | .BitmapHeapScan _ lefttree => (MarkPlanParallelAware lefttree).map (.BitmapHeapScan true)
  | .BitmapIndexScan _ => .ok (.BitmapIndexScan true)
  | .BitmapAnd (plan :: plans) => (MarkPlanParallelAware plan).map fun plan => .BitmapAnd (plan :: plans)
  | .BitmapOr _ (plan :: plans) => (MarkPlanParallelAware plan).map fun plan => .BitmapOr true (plan :: plans)
  | .BitmapAnd [] | .BitmapOr _ [] => .error .nullPointer
  | plan => .error (.UnknownNode plan.nodeTag)

/-- The marking in `InitRunWithParallelScan`. -/
def InitRunWithParallelScan (count_tuples_only : Bool) (plan : Plan) : Except MarkError Plan :=
  if count_tuples_only then
    match plan with
    | .Agg _ lefttree => (MarkPlanParallelAware lefttree).map (.Agg true)
    | .BitmapHeapScan _ lefttree => (MarkPlanParallelAware lefttree).map (.BitmapHeapScan true)
    | _ => .error .nullPointer
  else MarkPlanParallelAware plan

/-! ## What is expected -/

/-- The nodes that the marking goes to. -/
def Plan.visited : Plan → List Plan
  | .BitmapHeapScan parallel_aware lefttree => .BitmapHeapScan parallel_aware lefttree :: lefttree.visited
  | .BitmapAnd (plan :: plans) => .BitmapAnd (plan :: plans) :: plan.visited
  | .BitmapOr isshared (plan :: plans) => .BitmapOr isshared (plan :: plans) :: plan.visited
  | plan => [plan]

/-- The same, in the plan that the marking has left. -/
def visitedIn (count_tuples_only : Bool) (plan : Plan) : List Plan :=
  match count_tuples_only, plan with
  | true, .Agg parallel_aware lefttree => .Agg parallel_aware lefttree :: lefttree.visited
  | _, plan => plan.visited

/-- A scan is marked as it is judged, and what a bitmap scan is made of is shared. -/
def Plan.Marked : Plan → Prop
  | .BitmapIndexScan isshared | .BitmapOr isshared _ => isshared = true
  | .scan tag parallel_aware => parallel_aware = CanTableScanRunInParallel (.scan tag parallel_aware)
  | .BitmapHeapScan parallel_aware lefttree =>
    parallel_aware = CanTableScanRunInParallel (.BitmapHeapScan parallel_aware lefttree)
  | .Append parallel_aware appendplans =>
    parallel_aware = CanTableScanRunInParallel (.Append parallel_aware appendplans)
  | .Agg parallel_aware lefttree => parallel_aware = CanTableScanRunInParallel (.Agg parallel_aware lefttree)
  | _ => True

/-- The marking completes, and each node it goes to is marked as it is judged. -/
def MarksConsistently (count_tuples_only : Bool) (plan : Plan) : Prop :=
  ∃ plan', InitRunWithParallelScan count_tuples_only plan = .ok plan' ∧
    ∀ node ∈ visitedIn count_tuples_only plan', node.Marked

mutual

/-- What stands below a bitmap heap scan. -/
def Plan.IsBitmap : Plan → Prop
  | .BitmapIndexScan _ => True
  | .BitmapAnd bitmapplans | .BitmapOr _ bitmapplans => bitmapplans ≠ [] ∧ AllBitmaps bitmapplans
  | _ => False

/-- Every plan is a bitmap. -/
def AllBitmaps : List Plan → Prop
  | [] => True
  | plan :: plans => plan.IsBitmap ∧ AllBitmaps plans

end

mutual

/-- The plan of a relation: bitmap nodes stand below heap scans, and only there. -/
def Plan.OfRelation : Plan → Prop
  | .BitmapHeapScan _ lefttree => lefttree.IsBitmap
  | .BitmapIndexScan _ | .BitmapAnd _ | .BitmapOr _ _ => False
  | .Append _ appendplans => AllOfRelation appendplans
  | .Agg _ lefttree => lefttree.OfRelation
  | _ => True

/-- Every plan is of one relation. -/
def AllOfRelation : List Plan → Prop
  | [] => True
  | plan :: plans => plan.OfRelation ∧ AllOfRelation plans

end

/-- A plan for the query of a scan. Columns are read without an aggregate, and a `COUNT(*)` is not computed by
a scan of a table of PostgreSQL's own. -/
structure Planned (count_tuples_only : Bool) (plan : Plan) : Prop where
  ofRelation : plan.OfRelation
  columns : count_tuples_only = false → plan.isAgg = false
  count : count_tuples_only = true → plan.isScan = false

/-- The plan below the aggregate is one that may be marked. -/
def BelowAgg : Plan → Prop
  | .Agg _ lefttree => lefttree.isAgg = false ∧ CanTableScanRunInParallel lefttree = true
  | _ => True

/-! ## The marking of one plan -/

section
variable {plan plan' : Plan}

/-- Below a bitmap heap scan, the nodes that the marking goes to become shared. -/
theorem mark_bitmap : ∀ {plan : Plan}, plan.IsBitmap →
    ∃ plan', MarkPlanParallelAware plan = .ok plan' ∧ ∀ node ∈ plan'.visited, node.Marked
  | .BitmapIndexScan _, _ => ⟨.BitmapIndexScan true, rfl, fun _ h => List.mem_singleton.1 h ▸ rfl⟩
  | .BitmapAnd (plan :: plans), h => by
    obtain ⟨plan', hmark, hvisited⟩ := mark_bitmap h.2.1
    refine ⟨.BitmapAnd (plan' :: plans), by rw [MarkPlanParallelAware, hmark]; rfl, fun node hnode => ?_⟩
    rcases List.mem_cons.1 hnode with rfl | hnode
    · trivial
    · exact hvisited node hnode
  | .BitmapOr isshared (plan :: plans), h => by
    obtain ⟨plan', hmark, hvisited⟩ := mark_bitmap h.2.1
    refine ⟨.BitmapOr true (plan' :: plans), by rw [MarkPlanParallelAware, hmark]; rfl, fun node hnode => ?_⟩
    rcases List.mem_cons.1 hnode with rfl | hnode
    · rfl
    · exact hvisited node hnode
  | .BitmapAnd [], h | .BitmapOr _ [], h => absurd rfl h.1

/-- What is judged to run in parallel, and is no aggregate, can be marked. -/
theorem mark_of_canRun (hrel : plan.OfRelation) (hagg : plan.isAgg = false)
    (hcan : CanTableScanRunInParallel plan = true) :
    ∃ plan', MarkPlanParallelAware plan = .ok plan' ∧ ∀ node ∈ plan'.visited, node.Marked := by
  cases plan with
  | scan tag _ => exact ⟨.scan tag true, rfl, fun _ h => List.mem_singleton.1 h ▸ rfl⟩
  | BitmapHeapScan _ lefttree =>
    obtain ⟨lefttree', hmark, hvisited⟩ := mark_bitmap hrel
    refine ⟨.BitmapHeapScan true lefttree', by rw [MarkPlanParallelAware, hmark]; rfl, fun node hnode => ?_⟩
    rcases List.mem_cons.1 hnode with rfl | hnode
    · rfl
    · exact hvisited node hnode
  | Append _ appendplans => exact ⟨.Append true appendplans, rfl, fun _ h => List.mem_singleton.1 h ▸ hcan.symm⟩
  | Agg _ _ => cases hagg
  | BitmapIndexScan _ => cases hrel
  | BitmapAnd _ => cases hrel
  | BitmapOr _ _ => cases hrel
  | Result => cases hcan
  | ForeignScan => cases hcan
  | other _ => cases hcan

/-- And what can be marked as it is judged is judged to run in parallel. -/
theorem canRun_of_mark (hrel : plan.OfRelation) (hmark : MarkPlanParallelAware plan = .ok plan')
    (hvisited : ∀ node ∈ plan'.visited, node.Marked) :
    plan.isAgg = false ∧ CanTableScanRunInParallel plan = true := by
  cases plan with
  | scan _ _ => exact ⟨rfl, rfl⟩
  | BitmapHeapScan _ _ => exact ⟨rfl, rfl⟩
  | Append _ appendplans =>
    cases hmark
    exact ⟨rfl, (hvisited _ (List.mem_singleton.2 rfl)).symm⟩
  | Agg _ _ => cases hmark
  | BitmapIndexScan _ => cases hrel
  | BitmapAnd _ => cases hrel
  | BitmapOr _ _ => cases hrel
  | Result => cases hmark
  | ForeignScan => cases hmark
  | other _ => cases hmark

end

/-! ## The marking of a query -/

/-- A plan that is judged to run in parallel is marked so exactly if this is right for what stands below its
aggregate too. -/
theorem marksConsistently_iff (count_tuples_only : Bool) (plan : Plan) (hplan : Planned count_tuples_only plan)
    (hcan : CanTableScanRunInParallel plan = true) :
    MarksConsistently count_tuples_only plan ↔ BelowAgg plan := by
  cases count_tuples_only with
  | false =>
    have hagg := hplan.columns rfl
    have hbelow : BelowAgg plan := by
      cases plan with
      | Agg _ _ => cases hagg
      | _ => trivial
    refine iff_of_true ?_ hbelow
    exact mark_of_canRun hplan.ofRelation hagg hcan
  | true =>
    cases plan with
    | Agg parallel_aware lefttree =>
      have hrel : lefttree.OfRelation := hplan.ofRelation
      constructor
      · rintro ⟨plan', hmark, hvisited⟩
        cases hchild : MarkPlanParallelAware lefttree with
        | error e =>
          rw [InitRunWithParallelScan, hchild] at hmark
          cases hmark
        | ok lefttree' =>
          rw [InitRunWithParallelScan, hchild] at hmark
          cases hmark
          exact canRun_of_mark hrel hchild fun node hnode => hvisited node (List.mem_cons_of_mem _ hnode)
      · rintro ⟨hagg, hcan⟩
        obtain ⟨lefttree', hmark, hvisited⟩ := mark_of_canRun hrel hagg hcan
        refine ⟨.Agg true lefttree', by rw [InitRunWithParallelScan, hmark]; rfl, fun node hnode => ?_⟩
        rcases List.mem_cons.1 hnode with rfl | hnode
        · rfl
        · exact hvisited node hnode
    | scan _ _ => cases hplan.count rfl
    | BitmapHeapScan _ _ => cases hplan.count rfl
    | Append _ _ => cases hplan.count rfl
    | BitmapIndexScan _ => cases hcan
    | BitmapAnd _ => cases hcan
    | BitmapOr _ _ => cases hcan
    | Result => cases hcan
    | ForeignScan => cases hcan
    | other _ => cases hcan

/-- A count over two partitions, one of them by a bitmap heap scan. -/
def countOfPartitions : Plan :=
  .Agg false (.Append false [.scan .SeqScan false, .BitmapHeapScan false (.BitmapAnd [.BitmapIndexScan false])])

/-- The plan of the example is judged as the general statement says. -/
theorem marksConsistently_countOfPartitions :
    MarksConsistently true countOfPartitions ↔ BelowAgg countOfPartitions :=
  marksConsistently_iff true countOfPartitions
    ⟨⟨trivial, ⟨List.cons_ne_nil _ _, trivial, trivial⟩, trivial⟩, nofun, fun _ => rfl⟩ rfl

/-- A count over a foreign table, and one over a partitioned table without partitions. Both are judged to run in
parallel. -/
theorem not_marksConsistently_foreign :
    (Planned true (.Agg false .ForeignScan) ∧ CanTableScanRunInParallel (.Agg false .ForeignScan) = true ∧
      ¬MarksConsistently true (.Agg false .ForeignScan)) ∧
    (Planned true (.Agg false .Result) ∧ CanTableScanRunInParallel (.Agg false .Result) = true ∧
      ¬MarksConsistently true (.Agg false .Result)) := by
  refine ⟨⟨⟨trivial, nofun, fun _ => rfl⟩, rfl, ?_⟩, ⟨trivial, nofun, fun _ => rfl⟩, rfl, ?_⟩
  · rintro ⟨plan', hmark, -⟩
    cases hmark
  · rintro ⟨plan', hmark, -⟩
    cases hmark

end PgDuckdb.Scan
