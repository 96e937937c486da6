import PgDuckdb.Lib.Run
import PgDuckdb.Tables.Statements

/-!
# The type of the statement in progress

`DuckdbHandleDDLPre` notes what kind of DuckDB statement is in progress in `top_level_duckdb_ddl_type`.
The event triggers clear it, but they fire for some command tags only, only for complete statements, and
not after an error (`pgduckdb_ddl.cpp`, `pg_duckdb--1.0.0.sql`). So it may be set when the next statement
of the client begins (`not_cleared`). `cleared_of_run` says that it is not as long as every utility
statement that sets it is one that the triggers fire for and comes to them, and what follows for the three
components that read it.

A transaction is a run of what happens to its statements, with those in progress on a stack; a function or
an event trigger may run others within one. Postgres may raise an error at any point, and so may the
`ClaimCurrentCommandId` of a statement.
-/

namespace PgDuckdb.Tables.Marker

open Lib (AllowedRun)

/-! ## `DuckdbHandleDDLPre` -/

/-- Programs of the marker. -/
abbrev MarkerM := EStateM PgError DDLType

/-- `if (c) ereport(ERROR, e)`. -/
def throwIf (c : Prop) [Decidable c] (e : PgError) : MarkerM Unit := if c then throw e else pure ()

/-- `ClaimCurrentCommandId`, and whether it succeeds. -/
def ClaimCurrentCommandId (claims : Bool) : MarkerM Unit := throwIf (claims = false) mixedWrites

/-- The relation of a statement. -/
structure Target where
  rel : Relation
  /-- `IsMotherDuckView`. -/
  isMotherDuckView : Bool
  deriving DecidableEq

/-- What a `RenameStmt` renames. -/
inductive RenameType
  /-- Whether the old and the new name are those of `ddb$` schemas. -/
  | SCHEMA (subname newname : Bool)
  | TABLE
  /-- Of a table. -/
  | COLUMN
  | VIEW
  | VIEW_COLUMN
  | OTHER
  deriving DecidableEq, Repr

/-- A utility statement, as far as `DuckdbHandleDDLPre` looks at it. -/
inductive Utility
  /-- `CreateStmt` or `CreateTableAsStmt`. -/
  | create (form : Creation) (stmt : NewTable)
  | refreshMatView
  | createSchema (ddbSchema : Bool)
  | createView (is_background_worker isMotherDuckView : Bool)
  /-- No relation is found, maybe because of `IF EXISTS`. -/
  | rename (renameType : RenameType) (target : Option Target)
  /-- `AlterTableStmt`, which is that of other relations too. -/
  | alterTable (tag : Option CommandTag) (target : Option Target)
  /-- `ALTER TABLE ... SET SCHEMA`. -/
  | alterTableSchema (rel : Option Relation)
  /-- One whose branch does not read or set the marker. -/
  | other (tag : Option CommandTag)
  deriving DecidableEq

/-- The errors of a name. -/
def oneRenamePerStatement (what : String) : PgError where
  errmsg := "Only one DuckDB " ++ what ++ " can be renamed in a single statement"

/-- A column of a MotherDuck view keeps its name. -/
def noColumnRename : PgError where
  errmsg := "Renaming columns in MotherDuck views is not supported"

/-- A schema keeps its name where it is a ddb$ one. -/
def changesDdbSchemaName : PgError where
  errmsg := "Changing the name of a ddb$ schema is currently not supported"

/-- A schema becomes no ddb$ one. -/
def changesToDdbSchema : PgError where
  errmsg := "Changing a schema to a ddb$ schema is currently not supported"

/-- A duckdb table keeps its schema. -/
def changesTableSchema : PgError where
  errmsg := "Changing the schema of a duckdb table is currently not supported"

/-- `DuckdbHandleRenameViewPre`, up to the change of the definition of the view. -/
def DuckdbHandleRenameViewPre (claims column : Bool) (target : Option Target) : MarkerM Unit :=
  match target with
  | none => pure ()
  | some target =>
    if target.isMotherDuckView = false then pure ()
    else do
      throwIf ((← get) ≠ .NONE) (oneRenamePerStatement "view")
      set DDLType.RENAME_VIEW
      throwIf (column = true) noColumnRename
      ClaimCurrentCommandId claims

/-- The branch of a `RenameStmt`. -/
def DuckdbHandleDDLPre_rename (claims : Bool) (renameType : RenameType) (target : Option Target) :
    MarkerM Unit :=
  match renameType with
  | .SCHEMA subname newname => do
    throwIf (subname = true) changesDdbSchemaName
    throwIf (newname = true) changesToDdbSchema
  | .TABLE | .COLUMN =>
    match target with
    | none => pure ()
    | some t =>
      if t.rel.relkind = .view then DuckdbHandleRenameViewPre claims (renameType = .COLUMN) target
      else if IsDuckdbTable t.rel then do
        throwIf ((← get) ≠ .NONE)
          (oneRenamePerStatement (if renameType = .TABLE then "table" else "column"))
        set DDLType.ALTER_TABLE
        ClaimCurrentCommandId claims
      else pure ()
  | .VIEW => DuckdbHandleRenameViewPre claims false target
  | .VIEW_COLUMN => DuckdbHandleRenameViewPre claims true target
  | .OTHER => pure ()

/-- The branch of a `CreateStmt` or a `CreateTableAsStmt`. -/
def DuckdbHandleDDLPre_create (env : Session) (claims : Bool) (stmt : NewTable) : MarkerM Unit :=
  match defaultToDuckdb stmt with
  | .error e => throw e
  | .ok stmt =>
    if stmt.relam env = .duckdb then do
      throwIf ((← get) ≠ .NONE) oneTablePerStatement
      set DDLType.CREATE_TABLE
      ClaimCurrentCommandId claims
    else pure ()

/-- The branch of an `AlterTableStmt`. -/
def DuckdbHandleDDLPre_alter (claims : Bool) (target : Option Target) : MarkerM Unit :=
  match target with
  | none => throw undefinedTable
  | some target => do
    if IsDuckdbTable target.rel ∧ (← get) = .NONE then
      set DDLType.ALTER_TABLE
      ClaimCurrentCommandId claims
    throwIf (target.isMotherDuckView = true) altersMotherDuckView

/-- `DuckdbHandleDDLPre`. -/
def DuckdbHandleDDLPre (env : Session) (claims : Bool) : Utility → MarkerM Unit
  | .create _ stmt => DuckdbHandleDDLPre_create env claims stmt
  | .refreshMatView => set DDLType.REFRESH_MATERIALIZED_VIEW
  | .createSchema ddbSchema =>
    throwIf (env.doing_motherduck_sync = false ∧ ddbSchema = true) createsDdbSchema
  | .createView is_background_worker isMotherDuckView => do
    if is_background_worker = true ∨ (← get) = .RENAME_VIEW ∨ isMotherDuckView = true then
      ClaimCurrentCommandId claims
  | .rename renameType target => DuckdbHandleDDLPre_rename claims renameType target
  | .alterTable _ target => DuckdbHandleDDLPre_alter claims target
  | .alterTableSchema rel =>
    match rel with
    | none => throw undefinedTable
    | some rel => throwIf (IsDuckdbTable rel = true) changesTableSchema
  | .other _ => pure ()

/-! ## What reads it -/

/-- `ShouldTryToUseDuckdbExecution`. -/
def ShouldTryToUseDuckdbExecution (marker : DDLType)
    (is_background_worker force_execution isAllowedStatement containsFromClause : Bool) : Bool :=
  if marker = .REFRESH_MATERIALIZED_VIEW then false
  else if is_background_worker then false
  else force_execution && isAllowedStatement && containsFromClause

/-- `duckdb_scan_getnextslot`. -/
def duckdb_scan_getnextslot (marker : DDLType) : Except PgError Bool :=
  if marker = .ALTER_TABLE then .ok false else .error (notImplemented "duckdb_scan_getnextslot")

/-- The refusals of a statement for another one in progress. -/
def onlyOneErrors : List PgError :=
  [oneTablePerStatement, oneRenamePerStatement "table", oneRenamePerStatement "column",
    oneRenamePerStatement "view"]

/-! ## Runs -/

/-- The tag of a statement. -/
def Utility.tag : Utility → Option CommandTag
  | .create form _ => some form.tag
  | .createSchema _ => some .CREATE_SCHEMA
  | .rename .TABLE _ | .rename .COLUMN _ | .alterTableSchema _ => some .ALTER_TABLE
  | .alterTable tag _ | .other tag => tag
  | .rename _ _ | .refreshMatView | .createView _ _ => none

/-- A trigger that clears the marker fires for it. -/
def Utility.fires (u : Utility) : Bool :=
  u.tag.any fun tag => tag ∈ createTableTriggerTags ++ alterTableTriggerTags

/-- A utility statement in progress. -/
structure UtilityFrame where
  stmt : Utility
  /-- It is not a part of another statement. -/
  complete : Bool
  /-- What it has set the marker to and not cleared yet, or `NONE`. -/
  marked : DDLType
  triggered : Bool
  /-- What `DuckdbHandleDDLPre` has raised. -/
  error : Option PgError
  deriving DecidableEq

/-- A statement that is being executed. -/
inductive Frame
  /-- A statement of the client. -/
  | statement
  | utility (f : UtilityFrame)
  /-- A block with an exception handler. -/
  | block
  deriving DecidableEq

/-- A block with an exception handler. -/
def Frame.isBlock : Frame → Bool
  | .block => true
  | _ => false

/-- A utility statement. -/
def Frame.isUtility : Frame → Bool
  | .utility _ => true
  | _ => false

/-- It has set the marker and not cleared it. -/
def Frame.marks : Frame → Bool
  | .utility f => f.marked ≠ .NONE
  | _ => false

/-- A transaction. -/
structure State where
  top_level_duckdb_ddl_type : DDLType
  stack : List Frame
  savepoints : Nat
  deriving DecidableEq

/-- A backend at its start. -/
def State.init : State := ⟨.NONE, [], 0⟩

/-- What happens next. -/
inductive Action
  | beginStatement
  | endStatement
  /-- `DuckdbUtilityHook` is called. -/
  | utility (env : Session) (claims : Bool) (stmt : Utility) (complete : Bool)
  /-- The end of `DuckdbHandleRenameViewPre`. -/
  | renamed
  /-- The `ddl_command_end` triggers. -/
  | trigger
  /-- A utility statement comes to its end. -/
  | leave
  | enterBlock
  | leaveBlock
  /-- An error goes to the innermost block, or without one to a savepoint of the client. -/
  | error
  | savepoint
  | release

namespace State

/-- Something may be run. -/
def ready (s : State) : Bool :=
  match s.stack with
  | [] => false
  | .utility f :: _ => f.error.isNone
  | .statement :: _ | .block :: _ => true

/-- The call of a utility statement. -/
def call (s : State) (env : Session) (claims : Bool) (stmt : Utility) (complete : Bool) : State :=
  let (marker, error) :=
    match (DuckdbHandleDDLPre env claims stmt).run s.top_level_duckdb_ddl_type with
    | .ok _ marker => (marker, none)
    | .error e marker => (marker, some e)
  let marked := if marker = s.top_level_duckdb_ddl_type then .NONE else marker
  { s with
    top_level_duckdb_ddl_type := marker
    stack := .utility ⟨stmt, complete, marked, false, error⟩ :: s.stack }

/-- The stack without what an error leaves. -/
def raise (s : State) : Option State :=
  match s.stack.dropWhile (!·.isBlock) with
  | .block :: below => some { s with stack := below }
  | _ => if s.savepoints = 0 then none else some { s with stack := [] }

/-- A step of the backend. -/
def step (s : State) : Action → Option State
  | .beginStatement => if s.stack = [] then some { s with stack := [.statement] } else none
  | .endStatement => if s.stack = [.statement] then some { s with stack := [] } else none
  | .utility env claims stmt complete =>
    if s.ready = true then some (s.call env claims stmt complete) else none
  | .renamed =>
    match s.stack with
    | .utility f :: rest =>
      if f.error = none ∧ f.marked = .RENAME_VIEW then
        some { s with
          top_level_duckdb_ddl_type := .NONE
          stack := .utility { f with marked := .NONE } :: rest }
      else none
    | _ => none
  | .trigger =>
    match s.stack with
    | .utility f :: rest =>
      if f.error = none ∧ f.complete = true ∧ f.triggered = false ∧ f.marked ≠ .RENAME_VIEW then
        if f.stmt.fires then
          some { s with
            top_level_duckdb_ddl_type := .NONE
            stack := .utility { f with marked := .NONE, triggered := true } :: rest }
        else some { s with stack := .utility { f with triggered := true } :: rest }
      else none
    | _ => none
  | .leave =>
    match s.stack with
    | .utility f :: rest =>
      if f.error = none ∧ f.triggered = f.complete ∧ f.marked ≠ .RENAME_VIEW then
        some { s with stack := rest }
      else none
    | _ => none
  | .enterBlock => if s.ready = true then some { s with stack := .block :: s.stack } else none
  | .leaveBlock =>
    match s.stack with
    | .block :: rest => some { s with stack := rest }
    | _ => none
  | .error => if s.stack = [] then none else s.raise
  | .savepoint => if s.stack = [] then some { s with savepoints := s.savepoints + 1 } else none
  | .release =>
    if s.stack = [] ∧ 0 < s.savepoints then some { s with savepoints := s.savepoints - 1 } else none

end State

/-! ## What is expected -/

/-- A statement whose trigger looks at the marker. -/
def Utility.isAlter : Utility → Bool
  | .rename _ _ | .alterTable _ _ => true
  | _ => false

/-- The marker is clear when a statement of the client begins. No statement is refused for another one
unless it is run within one, `duckdb.force_execution` is ignored only during a `REFRESH`, and a scan is
empty only during an `ALTER` or `RENAME`. -/
structure State.Cleared (s : State) : Prop where
  begins : s.stack = [] → s.top_level_duckdb_ddl_type = .NONE
  refuses : (∀ f ∈ s.stack, f.isUtility = false) → ∀ env claims stmt e marker,
    (DuckdbHandleDDLPre env claims stmt).run s.top_level_duckdb_ddl_type = .error e marker →
      e ∉ onlyOneErrors
  ignores : ∀ is_background_worker force_execution isAllowedStatement containsFromClause : Bool,
    ShouldTryToUseDuckdbExecution s.top_level_duckdb_ddl_type is_background_worker force_execution
        isAllowedStatement containsFromClause ≠
      (!is_background_worker && (force_execution && isAllowedStatement && containsFromClause)) →
    ∃ f, Frame.utility f ∈ s.stack ∧ f.stmt = .refreshMatView
  scans : duckdb_scan_getnextslot s.top_level_duckdb_ddl_type = .ok false →
    ∃ f, Frame.utility f ∈ s.stack ∧ f.stmt.isAlter = true

/-- The statement sets the marker, and does not clear it itself. -/
def Utility.sets (env : Session) (marker : DDLType) : Utility → Bool
  | .create _ stmt =>
    match defaultToDuckdb stmt with
    | .ok stmt => stmt.relam env = .duckdb
    | .error _ => false
  | .refreshMatView => true
  | .rename .TABLE (some t) | .rename .COLUMN (some t) => t.rel.relkind ≠ .view && IsDuckdbTable t.rel
  | .alterTable _ (some t) => marker = .NONE && IsDuckdbTable t.rel
  | _ => false

/-- Every statement that sets the marker is a complete one with a tag that the triggers fire for, and no
error leaves one before its trigger. -/
def Clears (s : State) : Action → Prop
  | .utility env _ stmt complete => stmt.sets env s.top_level_duckdb_ddl_type = true →
      complete = true ∧ stmt.fires = true
  | .error => (s.stack.takeWhile (!·.isBlock)).any Frame.marks = false
  | _ => True

/-- Whether an action clears the marker is decided by it and the state. -/
instance (s : State) : (a : Action) → Decidable (Clears s a)
  | .utility env _ stmt complete => inferInstanceAs (Decidable
      (stmt.sets env s.top_level_duckdb_ddl_type = true → complete = true ∧ stmt.fires = true))
  | .error => inferInstanceAs (Decidable (_ = false))
  | .beginStatement | .endStatement | .renamed | .trigger | .leave | .enterBlock | .leaveBlock
  | .savepoint | .release => inferInstanceAs (Decidable True)

/-! ## What `DuckdbHandleDDLPre` does -/

/-- The types that a statement may set the marker to. -/
def Utility.Marks : Utility → DDLType → Prop
  | .create _ _, t => t = .CREATE_TABLE
  | .refreshMatView, t => t = .REFRESH_MATERIALIZED_VIEW
  | .rename _ _, t => t = .ALTER_TABLE ∨ t = .RENAME_VIEW
  | .alterTable _ _, t => t = .ALTER_TABLE
  | .createSchema _, _ | .createView _ _, _ | .alterTableSchema _, _ | .other _, _ => False

/-- What a statement may set the marker to when it is called. -/
def Utility.MarksFrom (env : Session) (marker : DDLType) (stmt : Utility) (t : DDLType) : Prop :=
  stmt.Marks t ∧ (t = .RENAME_VIEW ∨ stmt.sets env marker = true)

/-- The refusals for other reasons. -/
def otherErrors : List PgError :=
  [mixedWrites, noColumnRename, changesDdbSchemaName, changesToDdbSchema, changesTableSchema,
    nonDuckdbInDdbSchema, createsDdbSchema, undefinedTable, altersMotherDuckView]

/-- The marker is kept or set to one of some types, and a statement is refused for another one only if it
was set. -/
def Conforms (marker : DDLType) (marks : DDLType → Prop) (r : EStateM.Result PgError DDLType Unit) :
    Prop :=
  match r with
  | .ok _ marker' => marker' = marker ∨ marks marker'
  | .error e marker' => (marker' = marker ∨ marks marker') ∧
      (e ∈ otherErrors ∨ e ∈ onlyOneErrors ∧ marker ≠ .NONE)

section
variable {marker : DDLType} {marks : DDLType → Prop} {claims : Bool}

/-- The run of a check that raises. -/
theorem throwIf_run (c : Prop) [Decidable c] (e : PgError) (marker : DDLType) :
    (throwIf c e).run marker = if c then .error e marker else .ok () marker := by
  unfold throwIf
  split <;> rfl

/-- A check that raises leaves the marker as it was. -/
theorem conforms_throwIf {c : Prop} [Decidable c] {e : PgError} (h : e ∈ otherErrors) :
    Conforms marker marks ((throwIf c e).run marker) := by
  rw [throwIf_run]
  split
  · exact ⟨.inl rfl, .inl h⟩
  · exact .inl rfl

/-- The steps of most branches: refuse if the marker is set, set it, and claim the command. -/
theorem conforms_mark {e : PgError} {t : DDLType} (he : e ∈ onlyOneErrors) (ht : marks t) :
    Conforms marker marks ((do
      throwIf ((← get) ≠ .NONE) e
      set t
      ClaimCurrentCommandId claims : MarkerM Unit).run marker) := by
  by_cases hmarker : marker = .NONE
  · cases claims with
    | false =>
      simp only [ClaimCurrentCommandId, EStateM.run_bind, EStateM.run_get, EStateM.run_set, throwIf_run,
        hmarker, ne_eq, not_true_eq_false, if_false, if_true]
      exact ⟨.inr ht, .inl (by decide)⟩
    | true =>
      simp only [ClaimCurrentCommandId, EStateM.run_bind, EStateM.run_get, EStateM.run_set, throwIf_run,
        hmarker, ne_eq, not_true_eq_false, if_false, Bool.true_eq_false]
      exact .inr ht
  · simp only [EStateM.run_bind, EStateM.run_get, throwIf_run, hmarker, ne_eq, not_false_eq_true, if_true]
    exact ⟨.inl rfl, .inr ⟨he, hmarker⟩⟩

/-- The rename of a view sets the marker only for a column of it. -/
theorem DuckdbHandleRenameViewPre_conforms (column : Bool) (target : Option Target)
    (hmarks : marks .RENAME_VIEW) :
    Conforms marker marks ((DuckdbHandleRenameViewPre claims column target).run marker) := by
  unfold DuckdbHandleRenameViewPre
  split
  · exact .inl rfl
  · split
    · exact .inl rfl
    · cases column with
      | false => exact conforms_mark (by decide) hmarks
      | true =>
        by_cases hmarker : marker = .NONE
        · simp only [EStateM.run_bind, EStateM.run_get, EStateM.run_set, throwIf_run, hmarker, ne_eq,
            not_true_eq_false, if_false, if_true]
          exact ⟨.inr hmarks, .inl (by decide)⟩
        · simp only [EStateM.run_bind, EStateM.run_get, throwIf_run, hmarker, ne_eq, not_false_eq_true,
            if_true]
          exact ⟨.inl rfl, .inr ⟨by decide, hmarker⟩⟩

/-- A rename sets the marker only where it is the extension's own. -/
theorem DuckdbHandleDDLPre_rename_conforms (env : Session) (renameType : RenameType)
    (target : Option Target) :
    Conforms marker (Utility.MarksFrom env marker (.rename renameType target))
      ((DuckdbHandleDDLPre_rename claims renameType target).run marker) := by
  unfold DuckdbHandleDDLPre_rename
  cases renameType with
  | SCHEMA subname newname =>
    cases subname with
    | true => exact ⟨.inl rfl, .inl (by decide)⟩
    | false => exact conforms_throwIf (by decide)
  | TABLE | COLUMN =>
    cases target with
    | none => exact .inl rfl
    | some t =>
      dsimp only
      split
      · exact DuckdbHandleRenameViewPre_conforms _ _ ⟨.inr rfl, .inl rfl⟩
      · rename_i hview
        split
        · rename_i hduckdb
          exact conforms_mark (by decide) ⟨.inl rfl, .inr (by simp [Utility.sets, hview, hduckdb])⟩
        · exact .inl rfl
  | VIEW | VIEW_COLUMN => exact DuckdbHandleRenameViewPre_conforms _ _ ⟨.inr rfl, .inl rfl⟩
  | OTHER => exact .inl rfl

/-- CREATE sets the marker only where it is the extension's own. -/
theorem DuckdbHandleDDLPre_create_conforms (env : Session) (form : Creation) (stmt : NewTable) :
    Conforms marker (Utility.MarksFrom env marker (.create form stmt))
      ((DuckdbHandleDDLPre_create env claims stmt).run marker) := by
  unfold DuckdbHandleDDLPre_create
  cases hdefault : defaultToDuckdb stmt with
  | error e =>
    have he : e = nonDuckdbInDdbSchema := by
      unfold defaultToDuckdb at hdefault
      split at hdefault
      · split at hdefault
        · cases hdefault
        · cases hdefault
        · exact (Except.error.inj hdefault).symm
      · cases hdefault
    rw [he]
    exact ⟨.inl rfl, .inl (by decide)⟩
  | ok stmt' =>
    dsimp only
    split
    · rename_i hduckdb
      exact conforms_mark (by decide) ⟨rfl, .inr (by simp [Utility.sets, hdefault, hduckdb])⟩
    · exact .inl rfl

/-- ALTER TABLE sets the marker only where it is the extension's own. -/
theorem DuckdbHandleDDLPre_alter_conforms (env : Session) (tag : Option CommandTag)
    (target : Option Target) :
    Conforms marker (Utility.MarksFrom env marker (.alterTable tag target))
      ((DuckdbHandleDDLPre_alter claims target).run marker) := by
  unfold DuckdbHandleDDLPre_alter
  cases target with
  | none => exact ⟨.inl rfl, .inl (by decide)⟩
  | some target =>
    by_cases hduckdb : IsDuckdbTable target.rel ∧ marker = .NONE
    · have hmarks : Utility.MarksFrom env marker (.alterTable tag (some target)) .ALTER_TABLE :=
        ⟨rfl, .inr (by simp [Utility.sets, hduckdb])⟩
      cases claims with
      | false =>
        simp only [ClaimCurrentCommandId, EStateM.run_bind, EStateM.run_get, EStateM.run_set, throwIf_run,
          hduckdb, and_self, if_true]
        exact ⟨.inr (hduckdb.2 ▸ hmarks), .inl (by decide)⟩
      | true =>
        simp only [ClaimCurrentCommandId, EStateM.run_bind, EStateM.run_get, EStateM.run_set, throwIf_run,
          hduckdb, and_self, if_true, Bool.true_eq_false, if_false]
        split
        · exact ⟨.inr (hduckdb.2 ▸ hmarks), .inl (by decide)⟩
        · exact .inr (hduckdb.2 ▸ hmarks)
    · simp only [EStateM.run_bind, EStateM.run_get, hduckdb, if_false]
      exact conforms_throwIf (by decide)

/-- Every statement sets the marker as it says. -/
theorem DuckdbHandleDDLPre_conforms (marker : DDLType) (env : Session) (claims : Bool)
    (stmt : Utility) :
    Conforms marker (stmt.MarksFrom env marker) ((DuckdbHandleDDLPre env claims stmt).run marker) := by
  cases stmt with
  | create form stmt => exact DuckdbHandleDDLPre_create_conforms env form stmt
  | refreshMatView => exact .inr ⟨rfl, .inr rfl⟩
  | createSchema ddbSchema => exact conforms_throwIf (by decide)
  | createView is_background_worker isMotherDuckView =>
    unfold DuckdbHandleDDLPre
    rw [EStateM.run_bind, EStateM.run_get]
    dsimp only
    split
    · exact conforms_throwIf (by decide)
    · exact .inl rfl
  | rename renameType target => exact DuckdbHandleDDLPre_rename_conforms env renameType target
  | alterTable tag target => exact DuckdbHandleDDLPre_alter_conforms env tag target
  | alterTableSchema rel =>
    cases rel with
    | none => exact ⟨.inl rfl, .inl (by decide)⟩
    | some rel => exact conforms_throwIf (by decide)
  | other tag => exact .inl rfl

end

/-! ## The invariant -/

/-- A statement that has set the marker has its trigger still to come. -/
structure UtilityFrame.Pending (f : UtilityFrame) : Prop where
  marks : f.stmt.Marks f.marked
  trigger : f.marked = .RENAME_VIEW ∨ (f.complete = true ∧ f.stmt.fires = true ∧ f.triggered = false)

/-- A marker that is set was set by a statement in progress, which will clear it. -/
structure Inv (s : State) : Prop where
  held : s.top_level_duckdb_ddl_type ≠ .NONE →
    ∃ f, Frame.utility f ∈ s.stack ∧ f.marked = s.top_level_duckdb_ddl_type
  pending : ∀ f, Frame.utility f ∈ s.stack → f.marked ≠ .NONE → f.Pending

section
variable {s s' : State} {f f' : UtilityFrame} {rest : List Frame}

/-- The invariant holds at the start. -/
theorem Inv.init : Inv .init := ⟨fun h => absurd rfl h, fun _ hf => (nomatch hf)⟩

/-- The same statements are in progress. -/
theorem Inv.of_stack (h : Inv s) (hmarker : s'.top_level_duckdb_ddl_type = s.top_level_duckdb_ddl_type)
    (hstack : ∀ f, Frame.utility f ∈ s'.stack ↔ Frame.utility f ∈ s.stack) : Inv s' := by
  refine ⟨fun hset => ?_, fun f hf => h.pending f ((hstack f).1 hf)⟩
  rw [hmarker] at hset ⊢
  obtain ⟨f, hf, hmarked⟩ := h.held hset
  exact ⟨f, (hstack f).2 hf, hmarked⟩

/-- The call of a statement, with what it does to the marker. -/
theorem call_eq (s : State) (env : Session) (claims : Bool) (stmt : Utility) (complete : Bool) :
    ∃ marker error, (marker = s.top_level_duckdb_ddl_type ∨
        stmt.MarksFrom env s.top_level_duckdb_ddl_type marker) ∧
      s.call env claims stmt complete =
        { s with
          top_level_duckdb_ddl_type := marker
          stack := .utility ⟨stmt, complete,
            if marker = s.top_level_duckdb_ddl_type then .NONE else marker, false, error⟩ ::
              s.stack } := by
  have hconforms := DuckdbHandleDDLPre_conforms s.top_level_duckdb_ddl_type env claims stmt
  unfold State.call
  cases hrun : (DuckdbHandleDDLPre env claims stmt).run s.top_level_duckdb_ddl_type with
  | ok a marker =>
    rw [hrun] at hconforms
    exact ⟨marker, none, hconforms, rfl⟩
  | error e marker =>
    rw [hrun] at hconforms
    exact ⟨marker, some e, hconforms.1, rfl⟩

/-- A statement that begins keeps the invariant. -/
theorem Inv.call {env : Session} {claims : Bool} {stmt : Utility} {complete : Bool} (h : Inv s)
    (hclears : Clears s (.utility env claims stmt complete)) :
    Inv (s.call env claims stmt complete) := by
  obtain ⟨marker, error, hmarker, heq⟩ := call_eq s env claims stmt complete
  rw [heq]
  by_cases hsame : marker = s.top_level_duckdb_ddl_type
  · refine ⟨fun hset => ?_, fun f hf hmarked => ?_⟩
    · rw [hsame] at hset
      obtain ⟨f, hf, hmarked⟩ := h.held hset
      exact ⟨f, List.mem_cons_of_mem _ hf, hmarked.trans hsame.symm⟩
    · cases hf with
      | head => exact absurd (if_pos hsame) hmarked
      | tail _ hf => exact h.pending f hf hmarked
  · obtain ⟨hmarks, hsets⟩ := hmarker.resolve_left hsame
    refine ⟨fun _ => ⟨_, List.mem_cons_self .., if_neg hsame⟩, fun f hf hmarked => ?_⟩
    cases hf with
    | head =>
      rw [if_neg hsame]
      refine ⟨hmarks, hsets.imp_right fun hsets => ?_⟩
      obtain ⟨hcomplete, hfires⟩ := hclears hsets
      exact ⟨hcomplete, hfires, rfl⟩
    | tail _ hf => exact h.pending f hf hmarked

/-- A statement clears the marker. -/
theorem Inv.clear (h : Inv s) (hstack : s.stack = .utility f :: rest) (hmarked : f'.marked = .NONE) :
    Inv { s with top_level_duckdb_ddl_type := .NONE, stack := .utility f' :: rest } := by
  refine ⟨fun hset => absurd rfl hset, fun g hg hg_marked => ?_⟩
  cases hg with
  | head => exact absurd hmarked hg_marked
  | tail _ hg => exact h.pending g (hstack ▸ List.mem_cons_of_mem _ hg) hg_marked

/-- The triggers of a statement that they do not fire for. -/
theorem Inv.pass (h : Inv s) (hstack : s.stack = .utility f :: rest) (hfires : f.stmt.fires = false) :
    Inv { s with stack := .utility { f with triggered := true } :: rest } := by
  refine ⟨fun hset => ?_, fun g hg hg_marked => ?_⟩
  · obtain ⟨g, hg, hg_marked⟩ := h.held hset
    rw [hstack] at hg
    cases hg with
    | head => exact ⟨_, List.mem_cons_self .., hg_marked⟩
    | tail _ hg => exact ⟨g, List.mem_cons_of_mem _ hg, hg_marked⟩
  · cases hg with
    | head =>
      have hpending := h.pending f (hstack ▸ List.mem_cons_self ..) hg_marked
      refine ⟨hpending.marks, hpending.trigger.imp_right fun hcomes => ?_⟩
      rw [hfires] at hcomes
      cases hcomes.2.1
    | tail _ hg => exact h.pending g (hstack ▸ List.mem_cons_of_mem _ hg) hg_marked

/-- Statements that do not hold the marker are over. -/
theorem Inv.drop {stack : List Frame} (h : Inv s)
    (hdropped : ∀ f, Frame.utility f ∈ s.stack → f.marked ≠ .NONE → Frame.utility f ∈ stack)
    (hstack : ∀ f, Frame.utility f ∈ stack → Frame.utility f ∈ s.stack) :
    Inv { s with stack := stack } := by
  refine ⟨fun hset => ?_, fun f hf => h.pending f (hstack f hf)⟩
  obtain ⟨f, hf, hmarked⟩ := h.held hset
  exact ⟨f, hdropped f hf (hmarked ▸ hset), hmarked⟩

/-- A statement that comes to its end has cleared the marker. -/
theorem Inv.leave (h : Inv s) (hstack : s.stack = .utility f :: rest)
    (htriggered : f.triggered = f.complete) (hrenamed : f.marked ≠ .RENAME_VIEW) :
    Inv { s with stack := rest } := by
  refine h.drop (fun g hg hmarked => ?_) fun g hg => hstack ▸ List.mem_cons_of_mem _ hg
  rw [hstack] at hg
  cases hg with
  | head =>
    have hpending := h.pending f (hstack ▸ List.mem_cons_self ..) hmarked
    obtain ⟨hcomplete, -, huntriggered⟩ := hpending.trigger.resolve_left hrenamed
    rw [hcomplete, huntriggered] at htriggered
    cases htriggered
  | tail _ hg => exact hg

/-- An error keeps the invariant. -/
theorem Inv.raise (h : Inv s) (hclears : Clears s .error) (hraise : s.raise = some s') : Inv s' := by
  have hdropped : ∀ f, Frame.utility f ∈ s.stack → f.marked ≠ .NONE →
      Frame.utility f ∈ s.stack.dropWhile (!·.isBlock) := by
    intro f hf hmarked
    rw [← List.takeWhile_append_dropWhile (p := (!·.isBlock)) (l := s.stack), List.mem_append] at hf
    refine hf.resolve_left fun hf => ?_
    exact List.any_eq_false.1 hclears _ hf (decide_eq_true hmarked)
  have hstack : ∀ f ∈ s.stack.dropWhile (!·.isBlock), f ∈ s.stack := fun f hf =>
    (List.dropWhile_sublist _).subset hf
  unfold State.raise at hraise
  split at hraise
  · rename_i below hblock
    rw [hblock] at hdropped hstack
    cases hraise
    refine h.drop (fun f hf hmarked => ?_) fun f hf => hstack _ (List.mem_cons_of_mem _ hf)
    cases hdropped f hf hmarked with
    | tail _ hf => exact hf
  · rename_i hblock
    split at hraise
    · cases hraise
    · cases hraise
      refine h.drop (fun f hf hmarked => ?_) fun _ hf => (nomatch hf)
      have hhead := List.head?_dropWhile_not (!·.isBlock) s.stack
      have hmem := hdropped f hf hmarked
      cases hdrop : s.stack.dropWhile (!·.isBlock) with
      | nil =>
        rw [hdrop] at hmem
        exact hmem
      | cons g below =>
        rw [hdrop] at hhead
        cases g with
        | block => exact absurd hdrop (hblock below)
        | statement | utility g => cases hhead

/-- A step keeps the invariant. -/
theorem Inv.step {a : Action} (h : Inv s) (hclears : Clears s a) (hstep : s.step a = some s') :
    Inv s' := by
  cases a with
  | beginStatement =>
    obtain ⟨hstack, hs⟩ := Option.ite_none_right_eq_some.1 hstep
    cases hs
    exact h.of_stack rfl (by simp [hstack])
  | endStatement =>
    obtain ⟨hstack, hs⟩ := Option.ite_none_right_eq_some.1 hstep
    cases hs
    exact h.of_stack rfl (by simp [hstack])
  | utility env claims stmt complete =>
    obtain ⟨-, hs⟩ := Option.ite_none_right_eq_some.1 hstep
    cases hs
    exact h.call hclears
  | renamed =>
    rw [State.step] at hstep
    split at hstep
    · rename_i hstack
      obtain ⟨-, hs⟩ := Option.ite_none_right_eq_some.1 hstep
      cases hs
      exact h.clear hstack rfl
    · cases hstep
  | trigger =>
    rw [State.step] at hstep
    split at hstep
    · rename_i hstack
      obtain ⟨-, hs⟩ := Option.ite_none_right_eq_some.1 hstep
      split at hs
      · cases hs
        exact h.clear hstack rfl
      · rename_i hfires
        cases hs
        exact h.pass hstack (Bool.eq_false_iff.2 hfires)
    · cases hstep
  | leave =>
    rw [State.step] at hstep
    split at hstep
    · rename_i hstack
      obtain ⟨⟨-, htriggered, hrenamed⟩, hs⟩ := Option.ite_none_right_eq_some.1 hstep
      cases hs
      exact h.leave hstack htriggered hrenamed
    · cases hstep
  | enterBlock =>
    obtain ⟨-, hs⟩ := Option.ite_none_right_eq_some.1 hstep
    cases hs
    exact h.of_stack rfl (by simp)
  | leaveBlock =>
    rw [State.step] at hstep
    split at hstep
    · rename_i hstack
      cases hstep
      exact h.of_stack rfl (by simp [hstack])
    · cases hstep
  | error =>
    obtain ⟨-, hs⟩ := Option.ite_none_left_eq_some.1 hstep
    exact h.raise hclears hs
  | savepoint | release =>
    obtain ⟨-, hs⟩ := Option.ite_none_right_eq_some.1 hstep
    cases hs
    exact h.of_stack rfl fun f => Iff.rfl

/-! ## What follows -/

/-- Under the invariant the next statement clears the marker. -/
theorem Inv.cleared (h : Inv s) : s.Cleared where
  begins := by
    intro hstack
    by_contra hset
    obtain ⟨f, hf, -⟩ := h.held hset
    rw [hstack] at hf
    cases hf
  refuses := by
    intro hnone env claims stmt e marker hrun
    have hclear : s.top_level_duckdb_ddl_type = .NONE := by
      by_contra hset
      obtain ⟨f, hf, -⟩ := h.held hset
      cases hnone _ hf
    have hconforms := DuckdbHandleDDLPre_conforms s.top_level_duckdb_ddl_type env claims stmt
    rw [hrun] at hconforms
    obtain hother | ⟨-, hset⟩ := hconforms.2
    · exact (by decide : ∀ e ∈ otherErrors, e ∉ onlyOneErrors) e hother
    · exact absurd hclear hset
  ignores := by
    intro is_background_worker force_execution isAllowedStatement containsFromClause hignored
    have hmarker : s.top_level_duckdb_ddl_type = .REFRESH_MATERIALIZED_VIEW := by
      by_contra hother
      refine hignored ?_
      unfold ShouldTryToUseDuckdbExecution
      rw [if_neg hother]
      cases is_background_worker <;> rfl
    obtain ⟨f, hf, hmarked⟩ := h.held (by rw [hmarker]; decide)
    have hmarks := (h.pending f hf (by rw [hmarked, hmarker]; decide)).marks
    rw [hmarked, hmarker] at hmarks
    refine ⟨f, hf, ?_⟩
    cases hstmt : f.stmt <;> simp_all [Utility.Marks]
  scans := by
    intro hempty
    have hmarker : s.top_level_duckdb_ddl_type = .ALTER_TABLE := by
      by_contra hother
      unfold duckdb_scan_getnextslot at hempty
      rw [if_neg hother] at hempty
      cases hempty
    obtain ⟨f, hf, hmarked⟩ := h.held (by rw [hmarker]; decide)
    have hmarks := (h.pending f hf (by rw [hmarked, hmarker]; decide)).marks
    rw [hmarked, hmarker] at hmarks
    refine ⟨f, hf, ?_⟩
    cases hstmt : f.stmt <;> simp_all [Utility.Marks, Utility.isAlter]

end

/-- In every run whose statements that set the marker are complete ones with a tag that the triggers fire
for, and are not left by an error before, the marker is clear when a statement of the client begins. -/
theorem cleared_of_run (actions : List Action) (s : State)
    (hclears : AllowedRun State.step Clears .init actions)
    (hrun : actions.foldlM State.step .init = some s) : s.Cleared := by
  have hinv : Inv s :=
    hclears.invariant Inv.init (fun _ _ _ h ha hstep => h.step ha hstep) hrun
  exact hinv.cleared

/-- A session with tables of Postgres by default. -/
def plainSession : Session := ⟨.heap, false, false, false⟩

/-- `CREATE TEMP TABLE ... USING duckdb`. -/
def createDuckdbTable : Utility :=
  .create .createTable ⟨16384, false, some .duckdb, .temporary, .NOOP, false⟩

/-- A utility statement of the client, from its beginning to its end. -/
def statementRun (stmt : Utility) : List Action :=
  [.beginStatement, .utility plainSession true stmt true, .trigger, .leave, .endStatement]

/-- A table that is created. -/
theorem cleared_of_run_created :
    ∃ s, (statementRun createDuckdbTable).foldlM State.step .init = some s ∧ s.Cleared :=
  ⟨_, rfl, cleared_of_run (statementRun createDuckdbTable) _ (by decide) rfl⟩

/-- After a `REFRESH MATERIALIZED VIEW` the marker is set, and a table is not created. -/
theorem not_cleared :
    ∃ s, (statementRun .refreshMatView).foldlM State.step .init = some s ∧ ¬s.Cleared ∧
      (DuckdbHandleDDLPre plainSession true createDuckdbTable).run s.top_level_duckdb_ddl_type =
        .error oneTablePerStatement .REFRESH_MATERIALIZED_VIEW := by
  refine ⟨_, rfl, fun hcleared => ?_, rfl⟩
  exact absurd (hcleared.begins rfl) (by decide)

end PgDuckdb.Tables.Marker
