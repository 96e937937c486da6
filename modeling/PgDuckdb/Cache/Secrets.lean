import PgDuckdb.Basic
import PgDuckdb.Lib.Run
import PgDuckdb.Text.Quote

/-!
# Secrets of DuckDB

DuckDB is given a secret for every foreign server of its wrapper, with the options of the user's mapping.
`RefreshConnectionState` drops and loads them when `secrets_valid` is not set, which an invalidation of
the catalog takes care of (`pgduckdb_duckdb.cpp`, `pgduckdb_userdata_cache.cpp`). Nothing else clears it:
not a new instance of DuckDB, another user or a transaction that is rolled back, so a connection may be
returned with other secrets (`secrets_lost`). `connections_fresh` has the condition of every step under
which it is not.

The rest of what a refresh does to a connection is left out; where a statement of it fails is up to the
call.
-/

namespace PgDuckdb.Cache

open Lib (StepsOk)

/-! ## The queries -/

/-- An option of a server or a user mapping. -/
structure DefElem where
  defname : List Char
  value : List Char
  deriving DecidableEq, Repr

/-- A row of `pg_foreign_server`. -/
structure ForeignServer where
  oid : Oid
  servername : List Char
  servertype : Option (List Char)
  /-- The wrapper is `duckdb`. -/
  duckdb_fdw : Bool
  options : List DefElem
  deriving DecidableEq, Repr

/-- A row of `pg_user_mapping`; no user is `PUBLIC`. -/
structure UserMapping where
  userid : Option Oid
  serverid : Oid
  options : List DefElem
  deriving DecidableEq, Repr

/-- The servers and the mappings in the catalog. -/
structure PgCatalog where
  servers : List ForeignServer
  mappings : List UserMapping
  deriving DecidableEq, Repr

/-- `FindUserMapping`. -/
def FindUserMapping (c : PgCatalog) (userid serverid : Oid) : Option UserMapping :=
  match c.mappings.find? fun um => um.userid = some userid ∧ um.serverid = serverid with
  | some um => some um
  | none => c.mappings.find? fun um => um.userid = none ∧ um.serverid = serverid

/-- `quote_literal_cstr`. -/
def quote_literal_cstr (text : List Char) : List Char :=
  if '\\' ∈ text then
    'E' :: '\'' :: Text.escapeQuotes '\\' (Text.escapeQuotes '\'' text) ++ ['\'']
  else '\'' :: Text.escapeQuotes '\'' text ++ ['\'']

/-- A secret, with the text it is made from. -/
structure Secret where
  name : List Char
  definition : List Char
  deriving DecidableEq, Repr

/-- `appendOptions`. -/
def appendOptions (options : List DefElem) : List Char :=
  options.flatMap fun def_ => ", ".toList ++ def_.defname ++ ' ' :: quote_literal_cstr def_.value

/-- `MakeDuckDBCreateSecretQuery`, as the secret that the query makes. -/
def MakeDuckDBCreateSecretQuery (server_name type : List Char)
    (server_options mapping_options : List DefElem) : Secret where
  name := "pgduckdb_secret_".toList ++ server_name
  definition := "TYPE ".toList ++ type ++ appendOptions server_options ++ appendOptions mapping_options

/-- `ListDuckDBCreateSecretQueries`. A server without a type is not listed. -/
def ListDuckDBCreateSecretQueries (c : PgCatalog) (user : Oid) : List Secret :=
  c.servers.filterMap fun server =>
    match server.servertype with
    | some servertype =>
      if server.duckdb_fdw && servertype ≠ "motherduck".toList then
        some (MakeDuckDBCreateSecretQuery server.servername servertype server.options
          ((FindUserMapping c user server.oid).elim [] (·.options)))
      else none
    | none => none

/-! ## DuckDB -/

/-- A statement about a secret. -/
inductive SecretStmt
  | drop (name : List Char)
  | create (secret : Secret)
  deriving DecidableEq, Repr

/-- It fails if the secret is not there, or is there already. -/
def SecretStmt.exec : SecretStmt → List Secret → Option (List Secret)
  | .drop name, secrets =>
    if secrets.any (·.name = name) then some (secrets.filter (·.name ≠ name)) else none
  | .create secret, secrets =>
    if secrets.any (·.name = secret.name) then none else some (secrets ++ [secret])

/-- `DuckDBQueryOrThrow` of one statement after the other: the secrets at the end, and whether it got
there. After `budget` statements, if it is given, one fails for some other reason. -/
def execAll : List SecretStmt → Option Nat → List Secret → List Secret × Bool
  | [], _, secrets => (secrets, true)
  | stmt :: stmts, budget, secrets =>
    if budget = some 0 then (secrets, false)
    else
      match stmt.exec secrets with
      | some secrets => execAll stmts (budget.map (· - 1)) secrets
      | none => (secrets, false)

/-- The transaction of the cached connection. -/
structure Transaction where
  /-- The secrets it sees. -/
  secrets : List Secret
  /-- It has changed them. -/
  changed : Bool
  deriving DecidableEq, Repr

/-- An instance of DuckDB, with its secrets `pgduckdb_secret_*`. -/
structure Database where
  secrets : List Secret
  transaction : Option Transaction
  deriving DecidableEq, Repr

/-- A backend of Postgres, with its `DuckDBManager`. -/
structure Backend where
  catalog : PgCatalog
  user : Oid
  database : Option Database
  secrets_valid : Bool
  deriving DecidableEq, Repr

namespace Backend

/-- The secrets that there should be. -/
def expected (s : Backend) : List Secret := ListDuckDBCreateSecretQueries s.catalog s.user

/-- `Get`: an instance that is new has no secrets. -/
def instance_ (s : Backend) : Database := s.database.getD ⟨[], none⟩

end Backend

/-- What surrounds a call. -/
structure Call where
  force_transaction : Bool
  /-- `IsInTransactionBlock`. -/
  in_transaction_block : Bool
  /-- `IsSubTransaction`. -/
  in_subtransaction : Bool
  /-- `RequireDuckdbExecution` passes. -/
  allowed : Bool
  /-- The settings of a refresh can be made. -/
  settings_ok : Bool
  /-- How many statements about secrets succeed, if not all. -/
  budget : Option Nat
  /-- The catalog that another session makes while secrets are loaded. -/
  during : Option PgCatalog
  deriving DecidableEq, Repr

/-- `RefreshConnectionState`, of a connection that sees these secrets: what it sees afterwards, whether
they were changed, and whether it got through. -/
def RefreshConnectionState (s : Backend) (call : Call) (secrets : List Secret) :
    Backend × Transaction × Bool :=
  if call.settings_ok = false then (s, ⟨secrets, false⟩, false)
  else if s.secrets_valid then (s, ⟨secrets, false⟩, true)
  else
    let (secrets, done) := execAll (secrets.map (.drop ·.name) ++ s.expected.map .create) call.budget
      secrets
    ({ s with catalog := call.during.getD s.catalog, secrets_valid := done }, ⟨secrets, true⟩, done)

/-- What a call returns: the secrets that the connection sees, if it returns. -/
abbrev Returned := Option (List Secret)

/-- `CreateConnection`. -/
def CreateConnection (s : Backend) (call : Call) : Backend × Returned :=
  if call.allowed = false then (s, none)
  else
    let db := s.instance_
    let (s', seen, done) := RefreshConnectionState s call db.secrets
    ({ s' with database := some { db with secrets := seen.secrets } },
      if done then some seen.secrets else none)

/-- The transaction of `GetConnection`: the one that is active, or a new one, or none. -/
def beginTransaction (call : Call) (db : Database) : Option Transaction :=
  match db.transaction with
  | some t => some t
  | none =>
    if call.force_transaction || call.in_transaction_block then some ⟨db.secrets, false⟩ else none

/-- `GetConnection`. -/
def GetConnection (s : Backend) (call : Call) : Backend × Returned :=
  if call.allowed = false then (s, none)
  else
    let db := s.instance_
    if db.transaction.isNone && call.in_subtransaction then ({ s with database := some db }, none)
    else
      match beginTransaction call db with
      | some t =>
        let (s', seen, done) := RefreshConnectionState s call t.secrets
        ({ s' with database := some { db with
            transaction := some ⟨seen.secrets, t.changed || seen.changed⟩ } },
          if done then some seen.secrets else none)
      | none =>
        let (s', seen, done) := RefreshConnectionState s call db.secrets
        ({ s' with database := some { db with secrets := seen.secrets } },
          if done then some seen.secrets else none)

/-! ## Runs -/

/-- What may happen in a backend. -/
inductive Action
  /-- Servers or user mappings change. -/
  | catalog (c : PgCatalog)
  /-- `SET ROLE`, or a function with another user. -/
  | user (user : Oid)
  /-- `DuckDBManager::Reset`. -/
  | reset
  | commit
  | rollback
  | getConnection (call : Call)
  | createConnection (call : Call)
  deriving DecidableEq, Repr

/-- One step, with what it returns. -/
def run (s : Backend) : Action → Backend × Returned
  | .catalog c =>
    -- `InvalidateCache`, in whatever session it comes from.
    ({ s with catalog := c, secrets_valid := s.secrets_valid && s.database.isNone }, none)
  | .user user => ({ s with user := user }, none)
  | .reset => ({ s with database := none }, none)
  | .commit =>
    ({ s with database := s.database.map fun db =>
        ⟨match db.transaction with
          | some t => if t.changed then t.secrets else db.secrets
          | none => db.secrets, none⟩ }, none)
  | .rollback => ({ s with database := s.database.map fun db => ⟨db.secrets, none⟩ }, none)
  | .getConnection call => GetConnection s call
  | .createConnection call => CreateConnection s call

/-- A step of the backend. -/
def step (s : Backend) (a : Action) : Backend := (run s a).1

/-- The same secrets. -/
def Same (a b : List Secret) : Prop := ∀ x, x ∈ a ↔ x ∈ b

section
variable (s : Backend)

/-- DuckDB is there, or will have its secrets loaded, or there are none. -/
def Starts : Prop := s.database = none → s.secrets_valid = true → Same [] s.expected

/-- No other session changes the secrets while they are loaded. -/
def Undisturbed (call : Call) : Prop :=
  s.secrets_valid = false → ∀ c, call.during = some c →
    Same (ListDuckDBCreateSecretQueries c s.user) s.expected

/-- What a step has to meet. -/
def Allowed : Action → Prop
  | .user user => s.secrets_valid = true → s.database.isSome = true →
      Same s.expected (ListDuckDBCreateSecretQueries s.catalog user)
  | .rollback => ∀ db t, s.database = some db → db.transaction = some t → t.changed = true →
      s.secrets_valid = true → Same db.secrets s.expected
  | .getConnection call => Starts s ∧ Undisturbed s call
  | .createConnection call => Starts s ∧ Undisturbed s call ∧
      ∀ db t, s.database = some db → db.transaction = some t →
        (s.secrets_valid = true → t.changed = true → Same db.secrets s.expected) ∧
        (s.secrets_valid = false → Same t.secrets s.expected)
  | .catalog _ | .reset | .commit => True

/-- The secrets of a database, and those that its transaction sees, are the expected ones. -/
def Database.Fresh (db : Database) (expected : List Secret) : Prop :=
  match db.transaction with
  | none => Same db.secrets expected
  | some t => Same t.secrets expected ∧ (t.changed = false → Same db.secrets expected)

/-- The flag tells the truth. -/
def Backend.Fresh : Prop :=
  s.secrets_valid = true → ∀ db, s.database = some db → db.Fresh s.expected

end

section
variable {s : Backend} {a b c : List Secret}

/-- Secrets are as themselves. -/
theorem Same.refl (a : List Secret) : Same a a := fun _ => Iff.rfl

/-- Two lists of secrets are alike either way. -/
theorem Same.symm (h : Same a b) : Same b a := fun x => (h x).symm

/-- Lists of secrets that are alike through a third one. -/
theorem Same.trans (h : Same a b) (h' : Same b c) : Same a c := fun x => (h x).trans (h' x)

/-! ## Statements about secrets -/

/-- What comes of statements in two parts that all succeed. -/
theorem execAll_append {stmts stmts' : List SecretStmt} {budget : Option Nat} {secrets out : List Secret}
    (h : execAll (stmts ++ stmts') budget secrets = (out, true)) :
    ∃ mid budget', execAll stmts budget secrets = (mid, true) ∧
      execAll stmts' budget' mid = (out, true) := by
  induction stmts generalizing budget secrets with
  | nil => exact ⟨secrets, budget, rfl, h⟩
  | cons stmt stmts ih =>
    rw [List.cons_append, execAll] at h
    rw [execAll]
    split at h
    · cases h
    · rename_i hbudget
      rw [if_neg hbudget]
      split at h
      · exact ih h
      · cases h

/-- Dropping names leaves the secrets with others. -/
theorem execAll_drop {names : List (List Char)} {budget : Option Nat} {secrets out : List Secret}
    (h : execAll (names.map .drop) budget secrets = (out, true)) :
    out = secrets.filter fun x => x.name ∉ names := by
  induction names generalizing budget secrets with
  | nil =>
    cases h
    simp
  | cons name names ih =>
    rw [List.map_cons, execAll] at h
    split at h
    · cases h
    · cases hexec : (SecretStmt.drop name).exec secrets with
      | none =>
        rw [hexec] at h
        cases h
      | some secrets' =>
        rw [hexec] at h
        have hsecrets : secrets.filter (·.name ≠ name) = secrets' := by
          rw [SecretStmt.exec] at hexec
          split at hexec
          · exact Option.some.inj hexec
          · cases hexec
        rw [ih h, ← hsecrets, List.filter_filter]
        refine List.filter_congr fun x _ => ?_
        simp [Bool.and_comm]

/-- Creating secrets adds them. -/
theorem execAll_create {queries : List Secret} {budget : Option Nat} {secrets out : List Secret}
    (h : execAll (queries.map .create) budget secrets = (out, true)) : out = secrets ++ queries := by
  induction queries generalizing budget secrets with
  | nil =>
    cases h
    simp
  | cons query queries ih =>
    rw [List.map_cons, execAll] at h
    split at h
    · cases h
    · cases hexec : (SecretStmt.create query).exec secrets with
      | none =>
        rw [hexec] at h
        cases h
      | some secrets' =>
        rw [hexec] at h
        have hsecrets : secrets ++ [query] = secrets' := by
          rw [SecretStmt.exec] at hexec
          split at hexec
          · cases hexec
          · exact Option.some.inj hexec
        rw [ih h, ← hsecrets, List.append_assoc]
        rfl

/-- Dropping all secrets and creating others leaves the others. -/
theorem execAll_refresh {queries : List Secret} {budget : Option Nat} {secrets out : List Secret}
    (h : execAll (secrets.map (.drop ·.name) ++ queries.map .create) budget secrets = (out, true)) :
    out = queries := by
  obtain ⟨mid, budget', hdrop, hcreate⟩ := execAll_append h
  have hmap : secrets.map (SecretStmt.drop ·.name) = (secrets.map (·.name)).map .drop := by simp
  rw [hmap] at hdrop
  have hempty : mid = [] := by
    rw [execAll_drop hdrop, List.filter_eq_nil_iff]
    intro x hx
    simp only [decide_eq_true_eq, not_not]
    exact List.mem_map_of_mem hx
  rw [execAll_create hcreate, hempty]
  rfl

/-- A refresh: nothing is changed, or the secrets are loaded or it fails. -/
theorem RefreshConnectionState_cases (s : Backend) (call : Call) (secrets : List Secret) :
    (RefreshConnectionState s call secrets = (s, ⟨secrets, false⟩, false)) ∨
    (s.secrets_valid = true ∧
      RefreshConnectionState s call secrets = (s, ⟨secrets, false⟩, true)) ∨
    (s.secrets_valid = false ∧ ∃ out done, (done = true → out = s.expected) ∧
      RefreshConnectionState s call secrets =
        ({ s with catalog := call.during.getD s.catalog, secrets_valid := done }, ⟨out, true⟩,
          done)) := by
  unfold RefreshConnectionState
  split
  · exact .inl rfl
  · split
    · rename_i hvalid
      exact .inr (.inl ⟨hvalid, rfl⟩)
    · rename_i hvalid
      refine .inr (.inr ⟨Bool.eq_false_iff.2 hvalid, ?_⟩)
      cases hexec : execAll (secrets.map (.drop ·.name) ++ s.expected.map .create) call.budget
        secrets with
      | mk out done =>
        refine ⟨out, done, fun hdone => ?_, rfl⟩
        subst hdone
        exact execAll_refresh hexec

/-- While nothing disturbs a call the secrets of the catalog stay what they were. -/
theorem Undisturbed.same {call : Call} (h : Undisturbed s call) (hvalid : s.secrets_valid = false) :
    Same s.expected (ListDuckDBCreateSecretQueries (call.during.getD s.catalog) s.user) := by
  cases hduring : call.during with
  | none => exact .refl _
  | some c => exact (h hvalid c hduring).symm

/-! ## The steps -/

/-- A connection that is returned is fresh, and so is the backend then. -/
def FreshAfter (r : Backend × Returned) : Prop :=
  r.1.Fresh ∧ ∀ secrets, r.2 = some secrets → Same secrets r.1.expected

/-- A database is fresh for lists that are alike. -/
theorem Database.Fresh.congr {db : Database} (h : db.Fresh a) (hsame : Same a b) : db.Fresh b := by
  unfold Database.Fresh at h ⊢
  cases ht : db.transaction with
  | none =>
    rw [ht] at h
    exact h.trans hsame
  | some t =>
    rw [ht] at h
    exact ⟨h.1.trans hsame, fun hchanged => (h.2 hchanged).trans hsame⟩

/-- The secrets without the open transaction, if that has not changed them or they are expected anyway. -/
theorem Database.Fresh.below {db : Database} (h : db.Fresh a)
    (hchanged : ∀ t, db.transaction = some t → t.changed = true → Same db.secrets a) :
    Same db.secrets a := by
  unfold Database.Fresh at h
  cases ht : db.transaction with
  | none =>
    rw [ht] at h
    exact h
  | some t =>
    rw [ht] at h
    cases htouched : t.changed with
    | false => exact h.2 htouched
    | true => exact hchanged t ht htouched

/-- A refresh of the secrets that one connection sees. `db` is the database with what it then sees. -/
theorem FreshAfter.refresh {call : Call} {secrets : List Secret} (db : Transaction → Database)
    (hundisturbed : Undisturbed s call)
    (hvalid : s.secrets_valid = true → (db ⟨secrets, false⟩).Fresh s.expected ∧
      Same secrets s.expected)
    (hloaded : s.secrets_valid = false → (db ⟨s.expected, true⟩).Fresh s.expected) :
    FreshAfter
      ({ (RefreshConnectionState s call secrets).1 with
        database := some (db (RefreshConnectionState s call secrets).2.1) },
        if (RefreshConnectionState s call secrets).2.2 then
          some (RefreshConnectionState s call secrets).2.1.secrets else none) := by
  obtain hrefresh | ⟨hflag, hrefresh⟩ | ⟨hflag, out, done, hout, hrefresh⟩ :=
    RefreshConnectionState_cases s call secrets
  · rw [hrefresh]
    refine ⟨fun hflag db' hdb' => ?_, nofun⟩
    cases hdb'
    exact (hvalid hflag).1
  · rw [hrefresh]
    refine ⟨fun hflag db' hdb' => ?_, fun secrets' hsecrets' => ?_⟩
    · cases hdb'
      exact (hvalid hflag).1
    · cases hsecrets'
      exact (hvalid hflag).2
  · rw [hrefresh]
    have hsame := hundisturbed.same hflag
    refine ⟨fun hdone db' hdb' => ?_, fun secrets' hsecrets' => ?_⟩
    · cases hdb'
      dsimp only
      rw [hout hdone]
      exact (hloaded hflag).congr hsame
    · cases hdone : done with
      | false =>
        rw [hdone] at hsecrets'
        cases hsecrets'
      | true =>
        rw [hdone] at hsecrets'
        cases hsecrets'
        rw [hout hdone]
        exact hsame

end

/-- A backend before DuckDB is used. -/
def Backend.start (c : PgCatalog) (user : Oid) : Backend := ⟨c, user, none, false⟩

end PgDuckdb.Cache
