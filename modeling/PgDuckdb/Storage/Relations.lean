import Mathlib
import PgDuckdb.Basic

/-!
# Relations of a query

Tables of Postgres are looked up in a catalog of DuckDB's. A table that is found is opened, and what was found is kept
until the query or the transaction ends, when it is closed. A relation is opened and closed for
`TopTransactionResourceOwner`, whichever owner is the current one: `relation_close` fails for an owner that does not
hold the reference, and it is called by a destructor, so that nothing could catch the error. At the end of a
transaction Postgres releases what the owner still holds.
-/

namespace PgDuckdb.Storage

/-! ## Postgres -/

/-- An owner of references. -/
abbrev ResourceOwner := ℕ

/-- A table that DuckDB knows. -/
structure PostgresTable (Info : Type) where
  rel : Oid
  info : Info
  cardinality : ℕ

/-- The tables of a schema that were looked up. -/
abbrev SchemaItems (Info : Type) := List (String × PostgresTable Info)

/-- What DuckDB knows of a database. -/
structure State (Info : Type) where
  /-- DuckDB has a transaction, which the catalog is a part of. -/
  active : Bool
  /-- `PostgresContextState::schemas` -/
  schemas : List (String × SchemaItems Info)
  CurrentResourceOwner : ResourceOwner
  TopTransactionResourceOwner : ResourceOwner
  /-- The references that are held, each by the owner that holds it. -/
  held : List (ResourceOwner × Oid)

/-- What an operation raises. -/
inductive Exception
  /-- What Postgres reports. -/
  | Postgres (text : String)
  /-- The reference is not held by the current owner. -/
  | NotOwned

/-- A relation is open while its number is not zero. -/
def IsValidOid (oid : Oid) : Bool := oid ≠ 0

/-- What Postgres answers to the questions of one lookup, as far as they are asked. -/
structure Answers (Info : Type) where
  relid : Except String Oid
  opened : Except String Unit
  info : Except String Info
  relkind : Char
  estimate : Except String ℕ

section
variable {Info : Type}

/-- An operation on what DuckDB knows. -/
abbrev Catalog (Info : Type) := EStateM Exception (State Info)

/-- A function of Postgres behind `PostgresFunctionGuard`. -/
def guarded {α : Type} (answer : Except String α) : Catalog Info α :=
  match answer with
  | .ok a => pure a
  | .error text => throw (.Postgres text)

/-- Puts an owner of references in front. -/
def setCurrentResourceOwner (owner : ResourceOwner) : Catalog Info Unit :=
  modify fun s => { s with CurrentResourceOwner := owner }

/-- Opens a relation and holds a reference to it. -/
def relation_open (relationId : Oid) (opened : Except String Unit) : Catalog Info Unit := do
  guarded opened
  modify fun s => { s with held := (s.CurrentResourceOwner, relationId) :: s.held }

/-- Closes a relation that is held. -/
def relation_close (rel : Oid) : Catalog Info Unit := do
  let s ← get
  if (s.CurrentResourceOwner, rel) ∈ s.held then
    set { s with held := s.held.erase (s.CurrentResourceOwner, rel) }
  else throw .NotOwned

/-- Opens a relation for the whole transaction. -/
def OpenRelation (relationId : Oid) (opened : Except String Unit) : Catalog Info Unit := do
  let saveResourceOwner := (← get).CurrentResourceOwner
  setCurrentResourceOwner (← get).TopTransactionResourceOwner
  relation_open relationId opened
  setCurrentResourceOwner saveResourceOwner

/-- Closes a relation that was held for the whole transaction. -/
def CloseRelation (rel : Oid) : Catalog Info Unit := do
  let saveResourceOwner := (← get).CurrentResourceOwner
  setCurrentResourceOwner (← get).TopTransactionResourceOwner
  relation_close rel
  setCurrentResourceOwner saveResourceOwner

/-- A relation with a table access method. -/
def RELKIND_HAS_TABLE_AM (relkind : Char) : Bool := relkind = 'r' || relkind = 't' || relkind = 'm'

/-- The kind of an index. -/
def RELKIND_INDEX : Char := 'i'

/-- The number of rows that a relation has, as far as one knows it. -/
def EstimateRelSize (relkind : Char) (estimate : Except String ℕ) : Catalog Info ℕ :=
  if RELKIND_HAS_TABLE_AM relkind || relkind = RELKIND_INDEX then guarded estimate else pure 0

/-! ## The catalog -/

/-- The table is put among those of its schema. -/
def emplace (schema entry_name : String) (table : PostgresTable Info) :
    List (String × SchemaItems Info) → List (String × SchemaItems Info)
  | [] => []
  | (name, tables) :: schemas =>
    if name = schema then (name, (entry_name, table) :: tables) :: schemas
    else (name, tables) :: emplace schema entry_name table schemas

/-- The table of the name, made where it is asked for the first time. -/
def GetTable (schema entry_name : String) (tables : SchemaItems Info) (answers : Answers Info) :
    Catalog Info (Option (PostgresTable Info)) := do
  match tables.lookup entry_name with
  | some table => return some table
  | none =>
    let rel_oid ← guarded answers.relid
    if !IsValidOid rel_oid then return none
    OpenRelation rel_oid answers.opened
    let info ← guarded answers.info
    let cardinality ← EstimateRelSize answers.relkind answers.estimate
    let table := { rel := rel_oid, info, cardinality }
    modify fun s => { s with schemas := emplace schema entry_name table s.schemas }
    return some table

/-- Makes the schema known. -/
def GetSchema (name : String) : Catalog Info Unit :=
  modify fun s => if (s.schemas.lookup name).isSome then s else { s with schemas := (name, []) :: s.schemas }

/-- The tables that are kept, as the relations that were opened for them. -/
def kept (schemas : List (String × SchemaItems Info)) : List Oid :=
  schemas.flatMap fun items => items.2.map fun entry => entry.2.rel

/-- `schemas.clear()`, which destroys every table. -/
def QueryEnd : Catalog Info Unit := do
  (kept (← get).schemas).forM CloseRelation
  modify fun s => { s with schemas := [] }

/-- What `CommitTransaction` and `RollbackTransaction` do. -/
def endTransaction : Catalog Info Unit := do
  QueryEnd
  modify fun s => { s with active := false }

/-! ## Events -/

/-- A call by DuckDB. -/
inductive Event (Info : Type)
  | StartTransaction
  /-- `PostgresCatalog::LookupSchema` -/
  | LookupSchema (name : String)
  /-- `PostgresSchema::LookupEntry` -/
  | LookupEntry (schema entry_name : String) (answers : Answers Info)
  | QueryEnd
  | CommitTransaction
  | RollbackTransaction
  /-- Postgres goes on with another owner, that of a subtransaction or a portal. -/
  | setOwner (owner : ResourceOwner)
  /-- A transaction of Postgres ends, committed or aborted, and the next one begins. The one of DuckDB is ended
  first, by `DuckdbXactCallback`. -/
  | endOfTransaction (owner : ResourceOwner)

/-- Whether it is DuckDB that goes on. -/
def Event.ofDuckdb : Event Info → Bool
  | .setOwner _ => false
  | .endOfTransaction _ => false
  | _ => true

/-- `PostgresTransaction::GetCatalogEntry` for a table. -/
def LookupEntry (schema entry_name : String) (answers : Answers Info) :
    Catalog Info (Option (PostgresTable Info)) := do
  match (← get).schemas.lookup schema with
  | none => return none
  | some tables => GetTable schema entry_name tables answers

/-- The owner is gone with all that it holds, and there is another one. -/
def releaseOwner (owner : ResourceOwner) : Catalog Info Unit :=
  modify fun s => { s with
    held := s.held.filter fun reference => reference.1 ≠ s.TopTransactionResourceOwner
    TopTransactionResourceOwner := owner
    CurrentResourceOwner := owner }

/-- A call by DuckDB, in full. -/
def process : Event Info → Catalog Info Unit
  | .StartTransaction => modify fun s => { s with active := true }
  | .LookupSchema name => do if (← get).active then GetSchema name
  | .LookupEntry schema entry_name answers => do
    if (← get).active then let _ ← LookupEntry schema entry_name answers
  | .QueryEnd => QueryEnd
  | .CommitTransaction => endTransaction
  | .RollbackTransaction => endTransaction
  | .setOwner owner => setCurrentResourceOwner owner
  | .endOfTransaction owner => do
    if (← get).active then endTransaction
    releaseOwner owner

/-- The state after an event. An exception leaves what was done before it, but out of a destructor it ends the
process. -/
def step (s : State Info) (event : Event Info) : Option (State Info) :=
  match (process event).run s with
  | .ok _ s' => some s'
  | .error .NotOwned _ => none
  | .error _ s' => some s'

end

end PgDuckdb.Storage
