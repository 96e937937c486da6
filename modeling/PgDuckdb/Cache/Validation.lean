import PgDuckdb.Cache.Secrets
import PgDuckdb.Lib.Program

/-!
# The validation of secrets

`pgduckdb_fdw_validator` has DuckDB make the secret of a server or a user mapping, under the name
`pgduckdb_secret_validation`, and takes it back (`pgduckdb_fdw.cpp`, `pgduckdb_secrets_helper.cpp`). Every
connection then loads all of them under the names of their servers. The validator sees neither these names
nor, when it is a server that changes, the mappings of it, and renaming is not validated. So a definition
that was accepted may fail to load, which blocks DuckDB and with it every later validation. `Meets` is the condition
of every statement under which all of them load, and `Sound` what the catalog is like then.

A statement gives the options that result from it. Privileges, and what else may make a refresh of a
connection fail, are left out.
-/

namespace PgDuckdb.Cache.Validation

open Lib (Ensures Keeps StepsOk)

/-! ## DuckDB -/

/-- What DuckDB has the name of a secret as. -/
def fold (name : List Char) : List Char := name.map Char.toLower

/-- A character of an identifier that need not be quoted. -/
def identCont (c : Char) : Bool := c.isAlphanum || c = '_' || c = '$' || 128 ≤ c.toNat

/-- The name of a server that is part of one identifier, when it is written after
`pgduckdb_secret_`. -/
def IsPlain (server_name : List Char) : Prop := server_name.all identCont = true

/-- Whether a name is plain can be computed. -/
instance (server_name : List Char) : Decidable (IsPlain server_name) :=
  inferInstanceAs (Decidable (_ = true))

/-- What `GetSecretByName` finds of a secret that has been made. -/
inductive SecretEntry
  | missing
  | empty
  | other
  | keyValue (redact_keys : List (List Char))
  deriving DecidableEq, Repr

/-- A program over the names of the secrets that DuckDB has. -/
abbrev DuckdbM := EStateM PgError (List (List Char))

/-- DuckDB. It makes a secret if there is none of that name and the type and the options, as they are
written, are valid. What it does with a name that it does not read as one identifier is left open. -/
structure DuckDB where
  valid : List Char → Bool
  create : Secret → DuckdbM Unit
  entry : Secret → SecretEntry
  create_ok_iff : ∀ server_name type server_options mapping_options secrets out,
    IsPlain server_name →
      let query := MakeDuckDBCreateSecretQuery server_name type server_options mapping_options
      (create query).run secrets = .ok () out ↔
        fold query.name ∉ secrets ∧ valid query.definition = true ∧
          out = secrets ++ [fold query.name]

/-! ## The state -/

/-- What belongs to a session. -/
structure Session where
  user : Oid
  /-- The names of the secrets `pgduckdb_secret_*`. -/
  secrets : List (List Char)
  secrets_valid : Bool
  CurrentServerType : Option (List Char)
  CurrentServerOid : Option Oid
  deriving DecidableEq, Repr

/-- A session that has just started. -/
def Session.start (user : Oid) : Session := ⟨user, [], false, none, none⟩

/-- What a statement finds. -/
structure State where
  catalog : PgCatalog
  session : Session
  roles : List (List Char)
  deriving DecidableEq, Repr

/-- The state with another `CurrentServerType`. -/
def State.setServerType (s : State) (type : Option (List Char)) : State :=
  { s with session := { s.session with CurrentServerType := type } }

/-- The state with another `CurrentServerOid`. -/
def State.setServerOid (s : State) (oid : Option Oid) : State :=
  { s with session := { s.session with CurrentServerOid := oid } }

/-- A program that may raise. -/
abbrev SecretM := EStateM PgError State

/-- A program of DuckDB in a session. -/
def onDuckdb {α : Type} (p : DuckdbM α) : SecretM α := fun s =>
  match p.run s.session.secrets with
  | .ok a secrets => .ok a { s with session := { s.session with secrets := secrets } }
  | .error e secrets => .error e { s with session := { s.session with secrets := secrets } }

/-- `elog(ERROR, …)`. -/
def elog {α : Type} (errmsg : String) : SecretM α := throw { errmsg := errmsg }

/-! ## The secrets of a connection -/

section
variable (d : DuckDB)

/-- `LoadSecrets`, of the queries that it is given. -/
def LoadSecrets (queries : List Secret) : DuckdbM Unit := queries.forM d.create

/-- `DropSecrets`. -/
def DropSecrets : DuckdbM Unit := modify fun _ => []

/-- The secrets in `RefreshConnectionState`. -/
def RefreshConnectionState : SecretM Unit := do
  let s ← get
  if s.session.secrets_valid then pure ()
  else
    onDuckdb DropSecrets
    onDuckdb (LoadSecrets d (ListDuckDBCreateSecretQueries s.catalog s.session.user))
    modify fun s => { s with session := { s.session with secrets_valid := true } }

/-! ## The validator -/

/-- `FindOption`. -/
def FindOption (options : List DefElem) (name : List Char) : Option (List Char) :=
  (options.find? (·.defname = name)).map (·.value)

/-- The error of options that belong in the user mapping. -/
def restrictedError (restricted_options_in_server : List (List Char)) : String :=
  (if restricted_options_in_server.length = 1 then "Option " else "Options ") ++
    ", ".intercalate (restricted_options_in_server.map fun k => "'" ++ String.ofList k ++ "'") ++
    " cannot be used in the SERVER's OPTIONS, please move it to the USER MAPPING"

/-- What `GetQueryError` has against a secret that could be made. -/
def SecretEntry.error (server_options : List DefElem) : SecretEntry → Option String
  | .missing => some "FATAL: Failed to get secret"
  | .empty => some "FATAL: No secret attached to the entry"
  | .other => some "FATAL: Secret is not a duckdb::KeyValueSecret"
  | .keyValue redact_keys =>
    let restricted_options_in_server :=
      redact_keys.filter fun k => (FindOption server_options k).isSome
    if restricted_options_in_server = [] then none
    else some (restrictedError restricted_options_in_server)

/-- The error of a query over the secrets of a connection. What it makes is gone with the connection's
transaction. -/
def queryError (query : Secret) (server_options : List DefElem) (secrets : List (List Char)) :
    Option String :=
  match (d.create query).run secrets with
  | .error e _ => some e.errmsg
  | .ok _ _ => (d.entry query).error server_options

/-- `GetQueryError`. -/
def GetQueryError (query : Secret) (server_options : List DefElem) : SecretM (Option String) := do
  RefreshConnectionState d
  let s ← get
  pure (queryError d query server_options s.session.secrets)

/-- Raises an error, if there is one. -/
def raiseError : Option String → SecretM Unit
  | some err => elog err
  | none => pure ()

/-- `ValidateDuckDBSecret`. -/
def ValidateDuckDBSecret (type : Option (List Char)) (server_options mapping_options : List DefElem) :
    SecretM Unit := do
  match type with
  | none => elog "Missing required option: 'type'"
  | some type =>
    let query := MakeDuckDBCreateSecretQuery "validation".toList type server_options mapping_options
    let err ← GetQueryError d query server_options
    raiseError err

end

/-! ## MotherDuck -/

/-- `ForeignServerRelationId` and `UserMappingRelationId`. -/
inductive Catalog
  | server
  | userMapping
  deriving DecidableEq, Repr

/-- An option of the wrapper. -/
structure PGDuckDBFdwOption where
  optname : List Char
  context : Catalog
  required : Bool
  deriving DecidableEq, Repr

/-- The options of MotherDuck. -/
def valid_md_options : List PGDuckDBFdwOption :=
  [⟨"tables_owner_role".toList, .server, false⟩,
    ⟨"background_catalog_refresh_inactivity_timeout".toList, .server, false⟩,
    ⟨"default_database".toList, .server, false⟩,
    ⟨"token".toList, .userMapping, true⟩]

/-- `IsValidMdOption`. -/
def IsValidMdOption (optname : List Char) (context : Catalog) : Bool :=
  valid_md_options.any fun opt => opt.context = context && opt.optname = optname

/-- `ValidateHasRequiredMdOptions`. -/
def ValidateHasRequiredMdOptions (options_list : List DefElem) (context : Catalog) : SecretM Unit :=
  valid_md_options.forM fun opt =>
    if opt.required = false ∨ opt.context ≠ context then pure ()
    else if options_list.any (·.defname = opt.optname) then pure ()
    else elog ("Missing required option: '" ++ String.ofList opt.optname ++ "'")

/-- `ValidateMdOptions`. -/
def ValidateMdOptions (options_list : List DefElem) (context : Catalog) : SecretM Unit := do
  options_list.forM fun def_ =>
    if IsValidMdOption def_.defname context then pure ()
    else elog ("Unknown option: '" ++ String.ofList def_.defname ++ "'")
  ValidateHasRequiredMdOptions options_list context

/-- `GetForeignServer`. -/
def GetForeignServer (c : PgCatalog) (serverid : Oid) : Option ForeignServer :=
  c.servers.find? (·.oid = serverid)

/-- The server that `GetForeignServerByName` looks for. -/
def serverByName (c : PgCatalog) (servername : List Char) : Option ForeignServer :=
  c.servers.find? (·.servername = servername)

/-- `FindMotherDuckForeignServerOid`, with the server. -/
def FindMotherDuckForeignServer (c : PgCatalog) : Option ForeignServer :=
  c.servers.find? fun server => server.duckdb_fdw && server.servertype = some "motherduck".toList

/-- `ValidateHasNoMotherduckForeignServer`. -/
def ValidateHasNoMotherduckForeignServer : SecretM Unit := do
  let s ← get
  match FindMotherDuckForeignServer s.catalog with
  | some server => elog ("MotherDuck FDW already exists ('" ++ String.ofList server.servername ++ "')")
  | none => pure ()

/-- `ValidateMotherduckServerFdw`. -/
def ValidateMotherduckServerFdw (options_list : List DefElem) (context : Catalog) : SecretM Unit := do
  ValidateHasNoMotherduckForeignServer
  ValidateMdOptions options_list context
  let s ← get
  match FindOption options_list "tables_owner_role".toList with
  | some role =>
    if s.roles.any (· = role) then pure ()
    else elog ("Role '" ++ String.ofList role ++ "' does not exist")
  | none => pure ()

section
variable (d : DuckDB)

/-- `pgduckdb_fdw_validator`, of a server or a user mapping. -/
def pgduckdb_fdw_validator (options_list : List DefElem) (catalog : Catalog) : SecretM Unit := do
  let s ← get
  match catalog with
  | .server =>
    let server_type := s.session.CurrentServerType
    modify fun s => s.setServerType none
    if server_type = some "motherduck".toList then
      ValidateMotherduckServerFdw options_list catalog
    else ValidateDuckDBSecret d server_type options_list []
  | .userMapping =>
    match s.session.CurrentServerOid.bind (GetForeignServer s.catalog) with
    | none => elog "cache lookup failed for foreign server"
    | some server =>
      modify fun s => s.setServerOid none
      if server.servertype = some "motherduck".toList then ValidateMdOptions options_list catalog
      else ValidateDuckDBSecret d server.servertype server.options options_list

/-- `transformGenericOptions`, as far as the validator of the wrapper goes. One other than `duckdb`
accepts everything. -/
def transformGenericOptions (duckdb_fdw : Bool) (options : List DefElem) (catalog : Catalog) :
    SecretM Unit :=
  if duckdb_fdw then pgduckdb_fdw_validator d options catalog else pure ()

/-! ## Statements -/

/-- Statements about servers and user mappings. -/
inductive Statement
  | createServer (duckdb_fdw if_not_exists : Bool) (oid : Oid) (servername : List Char)
    (servertype : Option (List Char)) (options : List DefElem)
  /-- With its options, if they are altered. -/
  | alterServer (servername : List Char) (options : Option (List DefElem))
  | renameServer (servername newname : List Char)
  | dropServer (servername : List Char) (cascade : Bool)
  | createUserMapping (if_not_exists : Bool) (userid : Option Oid) (servername : List Char)
    (options : List DefElem)
  | alterUserMapping (userid : Option Oid) (servername : List Char) (options : List DefElem)
  | dropUserMapping (userid : Option Oid) (servername : List Char)
  deriving DecidableEq, Repr

/-- `GetForeignServerByName`. -/
def GetForeignServerByName (servername : List Char) : SecretM ForeignServer := do
  let s ← get
  match serverByName s.catalog servername with
  | some server => pure server
  | none => elog ("server \"" ++ String.ofList servername ++ "\" does not exist")

/-- The handlers of `DuckdbHandleDDLPre`, which tell the validator what the server is. -/
def DuckdbHandleDDLPre : Statement → SecretM Unit
  | .createServer duckdb_fdw _ _ _ servertype _ =>
    modify fun s => s.setServerType (if duckdb_fdw then servertype else none)
  | .alterServer servername _ => do
    modify fun s => s.setServerType none
    let server ← GetForeignServerByName servername
    modify fun s => s.setServerType (if server.duckdb_fdw then server.servertype else none)
  | .createUserMapping _ _ servername _ | .alterUserMapping _ servername _ => do
    modify fun s => s.setServerOid none
    let server ← GetForeignServerByName servername
    modify fun s => s.setServerOid (if server.duckdb_fdw then some server.oid else none)
  | .renameServer _ _ | .dropServer _ _ | .dropUserMapping _ _ => pure ()

/-- The catalogs change, which `InvalidateCache` hears of. -/
def changeCatalog (f : PgCatalog → PgCatalog) : SecretM Unit :=
  modify fun s => { s with
    catalog := f s.catalog, session := { s.session with secrets_valid := false } }

/-- The servers, with one of them changed. -/
def changeServer (c : PgCatalog) (oid : Oid) (f : ForeignServer → ForeignServer) : PgCatalog :=
  { c with servers := c.servers.map fun server => if server.oid = oid then f server else server }

/-- Whether Postgres has this user mapping. -/
def hasMapping (c : PgCatalog) (userid : Option Oid) (serverid : Oid) : Bool :=
  c.mappings.any fun um => um.userid = userid && um.serverid = serverid

/-- `ProcessUtility`, of what `DuckdbHandleDDLPre` has passed. -/
def process : Statement → SecretM Unit
  | .createServer duckdb_fdw if_not_exists oid servername servertype options => do
    let s ← get
    if (serverByName s.catalog servername).isSome then
      if if_not_exists then pure ()
      else elog ("server \"" ++ String.ofList servername ++ "\" already exists")
    else if s.catalog.servers.any (·.oid = oid) then
      -- `GetNewOidWithIndex` does not come up with it.
      elog "duplicate key value violates unique constraint"
    else
      transformGenericOptions d duckdb_fdw options .server
      changeCatalog fun c => { c with
        servers := c.servers ++ [⟨oid, servername, servertype, duckdb_fdw, options⟩] }
  | .alterServer servername options => do
    let server ← GetForeignServerByName servername
    match options with
    | none => pure ()
    | some options =>
      transformGenericOptions d server.duckdb_fdw options .server
      changeCatalog (changeServer · server.oid fun server => { server with options := options })
  | .renameServer servername newname => do
    let server ← GetForeignServerByName servername
    let s ← get
    if (serverByName s.catalog newname).isSome then
      elog ("server \"" ++ String.ofList newname ++ "\" already exists")
    else
      changeCatalog (changeServer · server.oid fun server => { server with servername := newname })
  | .dropServer servername cascade => do
    let server ← GetForeignServerByName servername
    let s ← get
    if cascade = false && s.catalog.mappings.any (·.serverid = server.oid) then
      elog "cannot drop server because other objects depend on it"
    else
      changeCatalog fun c =>
        ⟨c.servers.filter (·.oid ≠ server.oid), c.mappings.filter (·.serverid ≠ server.oid)⟩
  | .createUserMapping if_not_exists userid servername options => do
    let server ← GetForeignServerByName servername
    let s ← get
    if hasMapping s.catalog userid server.oid then
      if if_not_exists then pure () else elog "user mapping already exists"
    else
      transformGenericOptions d server.duckdb_fdw options .userMapping
      changeCatalog fun c => { c with mappings := c.mappings ++ [⟨userid, server.oid, options⟩] }
  | .alterUserMapping userid servername options => do
    let server ← GetForeignServerByName servername
    let s ← get
    if hasMapping s.catalog userid server.oid then
      transformGenericOptions d server.duckdb_fdw options .userMapping
      changeCatalog fun c => { c with mappings := c.mappings.map fun um =>
        if um.userid = userid ∧ um.serverid = server.oid then { um with options := options }
        else um }
    else elog "user mapping does not exist"
  | .dropUserMapping userid servername => do
    let server ← GetForeignServerByName servername
    let s ← get
    if hasMapping s.catalog userid server.oid then
      changeCatalog fun c => { c with
        mappings := c.mappings.filter fun um => ¬(um.userid = userid ∧ um.serverid = server.oid) }
    else elog "user mapping does not exist"

/-- A statement, through the hook. -/
def execute (stmt : Statement) : SecretM Unit := do
  DuckdbHandleDDLPre stmt
  process d stmt

/-! ## Runs -/

/-- All sessions, over one catalog. -/
structure System where
  catalog : PgCatalog
  sessions : Nat → Session

/-- What happens in a session. -/
inductive Action
  | execute (i : Nat) (roles : List (List Char)) (stmt : Statement)
  /-- `SET ROLE`, or another user of the session. -/
  | user (i : Nat) (user : Oid)
  /-- A query, which refreshes the connection. -/
  | query (i : Nat)

/-- The state that a program leaves. -/
def stateAfter (p : SecretM Unit) (s : State) : State :=
  match p.run s with
  | .ok _ s' => s'
  | .error _ s' => s'

/-- What a program of one session makes of all. The others are told if the catalog has changed. -/
def System.runIn (s : System) (i : Nat) (roles : List (List Char)) (p : SecretM Unit) : System :=
  let s' := stateAfter p ⟨s.catalog, s.sessions i, roles⟩
  { catalog := s'.catalog
    sessions := fun j =>
      if j = i then s'.session
      else { s.sessions j with
        secrets_valid := (s.sessions j).secrets_valid && s'.catalog = s.catalog } }

/-- What it does to the system. -/
def step (s : System) : Action → System
  | .execute i roles stmt => s.runIn i roles (execute d stmt)
  | .user i user =>
    { s with sessions := fun j =>
        if j = i then { s.sessions i with user := user } else s.sessions j }
  | .query i => s.runIn i [] (RefreshConnectionState d)

/-- A database without servers, and sessions that have just started. -/
def System.start (users : Nat → Oid) : System := ⟨⟨[], []⟩, fun i => .start (users i)⟩

/-! ## What should hold -/

/-- The secrets of a user load into an instance of DuckDB that has none. -/
def Loads (c : PgCatalog) (user : Oid) : Prop :=
  ∃ out, (LoadSecrets d (ListDuckDBCreateSecretQueries c user)).run [] = .ok () out

/-- `ValidateDuckDBSecret` raises nothing. -/
def Accepts (s : State) (type : Option (List Char)) (server_options mapping_options : List DefElem) :
    Prop :=
  ∃ s', (ValidateDuckDBSecret d type server_options mapping_options).run s = .ok () s'

/-- What is valid when there is no server is valid. -/
def NotBlocked (s : State) : Prop :=
  ∀ type server_options mapping_options,
    Accepts d ⟨⟨[], []⟩, .start s.session.user, s.roles⟩ type server_options mapping_options →
      Accepts d s type server_options mapping_options

/-- All secrets load, and no session has its validations blocked. -/
def System.Serves (s : System) : Prop :=
  (∀ user, Loads d s.catalog user) ∧ ∀ i roles, NotBlocked d ⟨s.catalog, s.sessions i, roles⟩

/-! ## When it holds -/

/-- The type of the secret of a server, if it has one. -/
def secretType (server : ForeignServer) : Option (List Char) :=
  if server.duckdb_fdw && server.servertype ≠ some "motherduck".toList then server.servertype
  else none

/-- A secret with this type and these options may be made. -/
def Valid (type : List Char) (server_options mapping_options : List DefElem) : Prop :=
  d.valid (MakeDuckDBCreateSecretQuery [] type server_options mapping_options).definition = true

/-- The name of a server is read as it is, is not that of the validation, and no server with another
oid has it up to case. -/
structure NameOk (c : PgCatalog) (oid : Oid) (servername : List Char) : Prop where
  plain : IsPlain servername
  ne_validation : fold servername ≠ fold "validation".toList
  distinct : ∀ server ∈ c.servers, (secretType server).isSome → server.oid ≠ oid →
    fold server.servername ≠ fold servername

/-- What a statement has to meet: a name that is new is in order, and the options of a server go with
those of each of its mappings. -/
def StatementOk (c : PgCatalog) : Statement → Prop
  | .createServer true _ oid servername (some servertype) options =>
    serverByName c servername = none → servertype ≠ "motherduck".toList →
      Valid d servertype options [] → NameOk c oid servername
  | .renameServer servername newname =>
    serverByName c newname = none → ∀ server, serverByName c servername = some server →
      (secretType server).isSome → NameOk c server.oid newname
  | .alterServer servername (some options) =>
    ∀ server type, serverByName c servername = some server → secretType server = some type →
      Valid d type options [] →
        ∀ um ∈ c.mappings, um.serverid = server.oid → Valid d type options um.options
  | _ => True

/-- Its condition, which only statements have. -/
def Meets (s : System) : Action → Prop
  | .execute _ _ stmt => StatementOk d s.catalog stmt
  | _ => True

/-- A catalog all of whose secrets load, and none under the name of the validation. -/
structure Sound (c : PgCatalog) : Prop where
  oids : (c.servers.map (·.oid)).Nodup
  mapped : ∀ um ∈ c.mappings, ∃ server ∈ c.servers, server.oid = um.serverid
  named : ∀ server ∈ c.servers, (secretType server).isSome → NameOk c server.oid server.servername
  valid : ∀ server ∈ c.servers, ∀ type, secretType server = some type →
    Valid d type server.options []
  validMapped : ∀ server ∈ c.servers, ∀ type, secretType server = some type →
    ∀ um ∈ c.mappings, um.serverid = server.oid → Valid d type server.options um.options

end

end PgDuckdb.Cache.Validation
