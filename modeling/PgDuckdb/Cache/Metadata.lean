import PgDuckdb.Basic
import PgDuckdb.Lib.Run

/-!
# The metadata cache and the user data cache

`IsExtensionRegistered` fills the metadata cache when it is not valid, and `InitUserDataCache` the user
data cache (`pgduckdb_metadata_cache.cpp`, `pgduckdb_userdata_cache.cpp`). A fill is made of accesses to
the catalogs, one after the other. At any of them invalidations may arrive, or an error be raised, and a
query of a fill calls `IsExtensionRegistered` again. So the backend is a machine here, with the fills
that are in progress on a stack.

What a fill has read, and how many invalidations had arrived when it began, is kept beside the caches.
-/

namespace PgDuckdb.Cache.Metadata

/-- No object. -/
def InvalidOid : Oid := 0

/-- The role that owns the cluster's objects. -/
def BOOTSTRAP_SUPERUSERID : Oid := 10

/-! ## What a fill reads -/

/-- What the catalogs have at some access, and the settings. -/
structure Syscache where
  extension : String → Oid
  /-- `PROCNAMEARGSNSP`. -/
  procs : String → List Oid
  /-- `getExtensionOfObject`, of a function. -/
  extensionOfProc : Oid → Oid
  am : String → Oid
  namespaces : String → Oid
  types : String → Oid → Oid
  authid : String → Oid
  duckdb_postgres_role : String
  /-- `FindMotherDuckForeignServerOid`. -/
  motherduckServer : Oid
  /-- `GetMotherDuckPostgresRoleOid`. -/
  motherduckRole : Oid → Oid
  /-- `FindUserMappingOid`, of the user that counts. -/
  userMapping : Oid → Oid

/-- A database with the extension, and nothing else. -/
def plain : Syscache where
  extension := fun _ => 16385
  procs := fun _ => []
  extensionOfProc := fun _ => InvalidOid
  am := fun _ => 16386
  namespaces := fun _ => 16387
  types := fun _ _ => 16388
  authid := fun _ => InvalidOid
  duckdb_postgres_role := ""
  motherduckServer := InvalidOid
  motherduckRole := fun _ => InvalidOid
  userMapping := fun _ => InvalidOid

/-- The fields of the metadata cache that are looked up one by one, in this order. -/
inductive Field
  | table_am | schema | row | struct | unresolved_type | union | map
  | struct_array | union_array | map_array | json
  deriving DecidableEq, Repr

/-- All of them. -/
def Field.all : List Field :=
  [.table_am, .schema, .row, .struct, .unresolved_type, .union, .map, .struct_array, .union_array,
    .map_array, .json]

/-- The value of a field. The types are those of a schema. -/
def Field.read (c : Syscache) (schema_oid : Oid) : Field → Oid
  | .table_am => c.am "duckdb"
  | .schema => c.namespaces "duckdb"
  | .row => c.types "row" schema_oid
  | .struct => c.types "struct" schema_oid
  | .unresolved_type => c.types "unresolved_type" schema_oid
  | .union => c.types "union" schema_oid
  | .map => c.types "map" schema_oid
  | .struct_array => c.types "_struct" schema_oid
  | .union_array => c.types "_union" schema_oid
  | .map_array => c.types "_map" schema_oid
  | .json => c.types "json" schema_oid

/-- The role that is needed. -/
def postgresRole (c : Syscache) : Oid :=
  if c.duckdb_postgres_role ≠ "" then
    if c.authid c.duckdb_postgres_role = InvalidOid then BOOTSTRAP_SUPERUSERID
    else c.authid c.duckdb_postgres_role
  else BOOTSTRAP_SUPERUSERID

/-- The functions of `BuildDuckdbOnlyFunctions`. -/
def function_names : List String :=
  ["read_parquet", "read_csv", "iceberg_scan", "iceberg_metadata", "iceberg_snapshots", "delta_scan",
    "read_json", "approx_count_distinct", "query", "view", "json_exists", "json_extract",
    "json_extract_string", "json_array_length", "json_contains", "json_keys", "json_structure",
    "json_type", "json_valid", "json", "json_group_array", "json_group_object", "json_group_structure",
    "json_transform", "from_json", "json_transform_strict", "from_json_strict", "json_value", "strftime",
    "strptime", "epoch", "epoch_ms", "epoch_us", "epoch_ns", "make_timestamp", "make_timestamptz",
    "time_bucket", "union_extract", "union_tag", "cardinality", "element_at", "map_concat",
    "map_contains", "map_contains_entry", "map_contains_value", "map_entries", "map_extract",
    "map_extract_value", "map_from_entries", "map_keys", "map_values"]

/-! ## The state -/

/-- The metadata cache. -/
structure MetadataCache where
  valid : Bool
  version : UInt64
  installed : Bool
  initializing : Bool
  extension_oid : Oid
  oids : Field → Oid
  postgres_role_oid : Oid
  duckdb_only_functions : List Oid

/-- The user data cache. -/
structure UserDataCache where
  valid : Bool
  motherduck_foreign_server_oid : Oid
  motherduck_postgres_role_oid : Oid
  motherduck_user_mapping_oid : Oid

/-- Where a fill of the metadata cache is. -/
inductive Stage
  /-- Before the hash value of the schema's name, and the registration of the callback. -/
  | hashValue
  | extension
  | userData
  /-- In `BuildDuckdbOnlyFunctions`, with names to go. -/
  | functions (names : List String)
  /-- And functions of one name. -/
  | members (oids : List Oid) (names : List String)
  | fields (fields : List Field)
  | role
  /-- Without the extension. -/
  | reset
  | finish
  deriving DecidableEq, Repr

/-- Where a fill of the user data cache is. -/
inductive UserStage
  | query
  | server
  | role
  | mapping
  | finish
  deriving DecidableEq, Repr

/-- What a fill of the metadata cache has read. -/
structure Fill where
  /-- The invalidations that had arrived when it began. -/
  began : Nat
  extension : Oid
  functions : List Oid
  deriving DecidableEq, Repr

/-- A call that is in progress. -/
inductive Frame
  /-- `IsExtensionRegistered`. -/
  | metadata (stage : Stage) (fill : Fill)
  /-- `InitUserDataCache`, with the invalidations that had arrived when it began. -/
  | user (stage : UserStage) (began : Nat)
  /-- `StartBackgroundWorkerIfNeeded`, at the end of it. -/
  | worker
  deriving DecidableEq, Repr

/-- A backend. -/
structure State where
  cache : MetadataCache
  callback_is_configured : Bool
  schema_hash_value : UInt32
  /-- `InvalidateCaches` is registered. -/
  registered : Bool
  user : UserDataCache
  user_callback_is_configured : Bool
  stack : List Frame
  /-- The invalidations of the `duckdb` schema that have arrived. -/
  arrived : Nat
  /-- Those that had when the fill of the metadata cache began. -/
  filled_at : Nat
  /-- The invalidations of user mappings and foreign servers. -/
  user_arrived : Nat
  user_filled_at : Nat

/-- A backend that is new. -/
def State.init : State where
  cache := ⟨false, 0, false, false, InvalidOid, fun _ => InvalidOid, InvalidOid, []⟩
  callback_is_configured := false
  schema_hash_value := 0
  registered := false
  user := ⟨false, InvalidOid, InvalidOid, InvalidOid⟩
  user_callback_is_configured := false
  stack := []
  arrived := 0
  filled_at := 0
  user_arrived := 0
  user_filled_at := 0

/-! ## The functions -/

/-- `InvalidateCaches`. -/
def InvalidateCaches (s : State) (hash_value : UInt32) : State :=
  if hash_value ≠ s.schema_hash_value then s
  else if s.cache.valid = false then s
  else
    let cache := { s.cache with initializing := false, valid := false }
    if cache.installed then
      { s with
        cache := { cache with
          duckdb_only_functions := []
          extension_oid := InvalidOid
          oids := Function.update cache.oids .table_am InvalidOid
          postgres_role_oid := InvalidOid } }
    else { s with cache := cache }

/-- `InvalidateUserDataCache`. -/
def InvalidateUserDataCache (s : State) : State :=
  if s.user.valid = false then s
  else { s with user := ⟨false, InvalidOid, InvalidOid, InvalidOid⟩ }

/-- `InitUserDataCache`, up to its first access. -/
def InitUserDataCache (s : State) : State :=
  if s.user.valid then s
  else { s with
    user_callback_is_configured := true
    stack := .user .query s.user_arrived :: s.stack }

/-- What `IsExtensionRegistered` finds out about the transaction. -/
inductive XactState
  | aborted
  | none
  | noSnapshot
  | valid
  deriving DecidableEq, Repr

/-- `IsExtensionRegistered`, up to the first access of a fill, or to what it returns. -/
def IsExtensionRegistered (s : State) (xact : XactState) (c : Syscache) : State × Option Bool :=
  if s.cache.valid then (s, some s.cache.installed)
  else if s.cache.initializing then (s, some false)
  else
    match xact with
    | .aborted => (s, some false)
    | .none => (s, some false)
    | .noSnapshot => (s, some (c.extension "pg_duckdb" ≠ InvalidOid))
    | .valid =>
      ({ s with
        cache := { s.cache with initializing := true }
        callback_is_configured := true
        stack := .metadata (if s.callback_is_configured then .extension else .hashValue)
          ⟨s.arrived, InvalidOid, []⟩ :: s.stack }, none)

/-- An access of a fill of the metadata cache, and what follows. Nothing, if there is an error. -/
def nextMetadata (hash : UInt32) (s : State) (c : Syscache) (fill : Fill) (rest : List Frame) :
    Stage → Option (State × Option Bool)
  | .hashValue =>
    some ({ s with
      schema_hash_value := hash
      registered := true
      stack := .metadata .extension fill :: rest }, none)
  | .extension =>
    let extension_oid := c.extension "pg_duckdb"
    let installed := extension_oid ≠ InvalidOid
    some ({ s with
      cache := { s.cache with
        extension_oid := extension_oid
        installed := installed
        version := s.cache.version + 1 }
      stack := .metadata (if installed then .userData else .reset)
        { fill with extension := extension_oid } :: rest }, none)
  | .userData =>
    some (InitUserDataCache { s with stack := .metadata (.functions function_names) fill :: rest }, none)
  | .functions [] => some ({ s with stack := .metadata (.fields Field.all) fill :: rest }, none)
  | .functions (name :: names) =>
    some ({ s with stack := .metadata (.members (c.procs name) names) fill :: rest }, none)
  | .members [] names => some ({ s with stack := .metadata (.functions names) fill :: rest }, none)
  | .members (oid :: oids) names =>
    if c.extensionOfProc oid ≠ s.cache.extension_oid then
      some ({ s with stack := .metadata (.members oids names) fill :: rest }, none)
    else
      some ({ s with
        cache := { s.cache with
          duckdb_only_functions := s.cache.duckdb_only_functions ++ [oid] }
        stack := .metadata (.members oids names)
          { fill with functions := fill.functions ++ [oid] } :: rest }, none)
  | .fields [] => some ({ s with stack := .metadata .role fill :: rest }, none)
  | .fields (field :: fields) =>
    let oid := field.read c (s.cache.oids .schema)
    -- `get_namespace_oid` is called with `missing_ok = false`.
    if field = .schema ∧ oid = InvalidOid then none
    else
      some ({ s with
        cache := { s.cache with oids := Function.update s.cache.oids field oid }
        stack := .metadata (.fields fields) fill :: rest }, none)
  | .role =>
    some ({ s with
      cache := { s.cache with postgres_role_oid := postgresRole c }
      stack := .metadata .finish fill :: rest }, none)
  | .reset => some ({ s with stack := .metadata .finish fill :: rest }, none)
  | .finish =>
    some ({ s with
      cache := { s.cache with valid := true, initializing := false }
      filled_at := fill.began
      stack := rest }, some s.cache.installed)

/-- An access of a fill of the user data cache, and what follows. -/
def nextUser (s : State) (c : Syscache) (began : Nat) (rest : List Frame) : UserStage → State
  | .query =>
    { s with
      user := { s.user with motherduck_foreign_server_oid := c.motherduckServer }
      stack := .user (if c.motherduckServer = InvalidOid then .finish else .server) began :: rest }
  | .server => { s with stack := .user .role began :: rest }
  | .role =>
    { s with
      user := { s.user with
        motherduck_postgres_role_oid := c.motherduckRole s.user.motherduck_foreign_server_oid }
      stack := .user .mapping began :: rest }
  | .mapping =>
    { s with
      user := { s.user with
        motherduck_user_mapping_oid := c.userMapping s.user.motherduck_foreign_server_oid }
      stack := .user .finish began :: rest }
  | .finish =>
    { s with user := { s.user with valid := true }, user_filled_at := began, stack := .worker :: rest }

/-! ## Steps -/

/-- What happens next. -/
inductive Action
  /-- `IsExtensionRegistered` is called. -/
  | call (xact : XactState) (c : Syscache)
  /-- `InitUserDataCache` is called. -/
  | initUser
  /-- The call on top of the stack goes on. -/
  | next (c : Syscache)
  /-- An invalidation of `pg_namespace`. Its hash value is 0 if everything is invalidated. -/
  | invalidate (hash_value : UInt32)
  /-- An invalidation of a user mapping or a foreign server. -/
  | invalidateUser
  /-- An error is raised, which no call of the stack catches. -/
  | error

/-- A call may be made when nothing is in progress, and by the hooks of a query. -/
def mayCall : List Frame → Bool
  | [] => true
  | .user .query _ :: _ => true
  | _ => false

/-- An invalidation that is about the `duckdb` schema. -/
def Relevant (hash hash_value : UInt32) : Prop := hash_value = hash ∨ hash_value = 0

/-- Whether an invalidation is relevant can be computed. -/
instance (hash hash_value : UInt32) : Decidable (Relevant hash hash_value) :=
  inferInstanceAs (Decidable (_ ∨ _))

/-- The callback of `pg_namespace`, if it is registered. -/
def State.callback (s : State) (hash_value : UInt32) : State :=
  if s.registered then InvalidateCaches s hash_value else s

/-- The callback of user mappings and foreign servers, if it is registered. -/
def State.userCallback (s : State) : State :=
  if s.user_callback_is_configured then InvalidateUserDataCache s else s

/-- One step, with what a call returns. `hash` is the hash value of `duckdb`. -/
def run (hash : UInt32) (s : State) : Action → Option (State × Option Bool)
  | .call xact c => if mayCall s.stack then some (IsExtensionRegistered s xact c) else none
  | .initUser => if mayCall s.stack then some (InitUserDataCache s, none) else none
  | .next c =>
    match s.stack with
    | [] => none
    | .metadata stage fill :: rest => nextMetadata hash s c fill rest stage
    | .user stage began :: rest => some (nextUser s c began rest stage, none)
    -- The user data cache is valid, so it is not filled again.
    | .worker :: rest => some ({ s with stack := rest }, none)
  | .invalidate hash_value =>
    let s := { s with arrived := s.arrived + if Relevant hash hash_value then 1 else 0 }
    some (s.callback hash_value, none)
  | .invalidateUser =>
    some ({ s with user_arrived := s.user_arrived + 1 }.userCallback, none)
  | .error => some ({ s with stack := [] }, none)

/-- The state after an action. -/
def step (hash : UInt32) (s : State) (a : Action) : Option State := (run hash s a).map (·.1)

/-- What one step does, by what is called and what is on top of the stack. -/
inductive Moves (hash : UInt32) (s : State) : Action → State → Prop
  | call (xact : XactState) (c : Syscache) :
    Moves hash s (.call xact c) (IsExtensionRegistered s xact c).1
  | initUser : Moves hash s .initUser (InitUserDataCache s)
  | nextMetadata {c : Syscache} {stage : Stage} {fill : Fill} {rest : List Frame} {s' : State}
    {ret : Option Bool} (hstack : s.stack = .metadata stage fill :: rest)
    (hnext : nextMetadata hash s c fill rest stage = some (s', ret)) : Moves hash s (.next c) s'
  | nextUser {c : Syscache} {stage : UserStage} {began : Nat} {rest : List Frame}
    (hstack : s.stack = .user stage began :: rest) :
    Moves hash s (.next c) (nextUser s c began rest stage)
  | nextWorker {c : Syscache} {rest : List Frame} (hstack : s.stack = .worker :: rest) :
    Moves hash s (.next c) { s with stack := rest }
  | invalidate (hash_value : UInt32) : Moves hash s (.invalidate hash_value)
    (State.callback { s with
      arrived := s.arrived + if Relevant hash hash_value then 1 else 0 } hash_value)
  | invalidateUser : Moves hash s .invalidateUser
    (State.userCallback { s with user_arrived := s.user_arrived + 1 })
  | error : Moves hash s .error { s with stack := [] }

/-- Each step is a move. -/
theorem moves_of_step {hash : UInt32} {s s' : State} {a : Action} (h : step hash s a = some s') :
    Moves hash s a s' := by
  obtain ⟨⟨s₁, ret⟩, hrun, rfl⟩ := Option.map_eq_some_iff.1 h
  cases a with
  | call xact c =>
    rw [run] at hrun
    split at hrun
    · rw [← congrArg Prod.fst (Option.some.inj hrun)]
      exact .call xact c
    · cases hrun
  | initUser =>
    rw [run] at hrun
    split at hrun
    · cases hrun
      exact .initUser
    · cases hrun
  | next c =>
    rw [run] at hrun
    split at hrun
    · cases hrun
    · rename_i hstack
      exact .nextMetadata hstack hrun
    · rename_i hstack
      cases hrun
      exact .nextUser hstack
    · rename_i hstack
      cases hrun
      exact .nextWorker hstack
  | invalidate hash_value =>
    cases hrun
    exact .invalidate hash_value
  | invalidateUser =>
    cases hrun
    exact .invalidateUser
  | error =>
    cases hrun
    exact .error

/-- Calls of `IsExtensionRegistered`, by whether they begin a fill. -/
theorem IsExtensionRegistered_cases (s : State) (xact : XactState) (c : Syscache) :
    (IsExtensionRegistered s xact c).1 = s ∨
    s.cache.valid = false ∧ s.cache.initializing = false ∧ (IsExtensionRegistered s xact c).1 =
      { s with
        cache := { s.cache with initializing := true }
        callback_is_configured := true
        stack := .metadata (if s.callback_is_configured then .extension else .hashValue)
          ⟨s.arrived, InvalidOid, []⟩ :: s.stack } := by
  unfold IsExtensionRegistered
  split
  · exact .inl rfl
  · split
    · exact .inl rfl
    · rename_i hvalid hinitializing
      cases xact with
      | aborted | none | noSnapshot => exact .inl rfl
      | valid => exact .inr ⟨Bool.eq_false_iff.2 hvalid, Bool.eq_false_iff.2 hinitializing, rfl⟩

/-- What an access of a fill of the metadata cache comes to: the callback is registered, the user data
cache is filled, the fill goes on, or it ends. -/
inductive Proceeds (hash : UInt32) (s : State) (fill : Fill) (rest : List Frame) : Stage → State → Prop
  | register : Proceeds hash s fill rest .hashValue
      { s with
        schema_hash_value := hash
        registered := true
        stack := .metadata .extension fill :: rest }
  | initUser : Proceeds hash s fill rest .userData
      (InitUserDataCache { s with stack := .metadata (.functions function_names) fill :: rest })
  | access {stage stage' : Stage} {cache : MetadataCache} {fill' : Fill} (hstage : stage ≠ .hashValue)
      (hbegan : fill'.began = fill.began) (hinitializing : cache.initializing = s.cache.initializing)
      (hvalid : cache.valid = s.cache.valid) : Proceeds hash s fill rest stage
      { s with cache := cache, stack := .metadata stage' fill' :: rest }
  | finish : Proceeds hash s fill rest .finish
      { s with
        cache := { s.cache with valid := true, initializing := false }
        filled_at := fill.began
        stack := rest }

section
variable {hash : UInt32} {s s' : State} {c : Syscache} {fill : Fill} {rest : List Frame}

/-- A function of a candidate name is kept if it belongs to the extension. -/
theorem nextMetadata_member (oid : Oid) (oids : List Oid) (names : List String) :
    nextMetadata hash s c fill rest (.members (oid :: oids) names) =
      if c.extensionOfProc oid ≠ s.cache.extension_oid then
        some ({ s with stack := .metadata (.members oids names) fill :: rest }, none)
      else
        some ({ s with
          cache := { s.cache with
            duckdb_only_functions := s.cache.duckdb_only_functions ++ [oid] }
          stack := .metadata (.members oids names)
            { fill with functions := fill.functions ++ [oid] } :: rest }, none) := rfl

/-- A field that is looked up without an error is set. -/
theorem nextMetadata_field {field : Field} {fields : List Field} {ret : Option Bool}
    (hnext : nextMetadata hash s c fill rest (.fields (field :: fields)) = some (s', ret)) :
    s' = { s with
      cache := { s.cache with
        oids := Function.update s.cache.oids field (field.read c (s.cache.oids .schema)) }
      stack := .metadata (.fields fields) fill :: rest } := by
  by_cases hmissing : field = .schema ∧ field.read c (s.cache.oids .schema) = InvalidOid
  · cases (if_pos hmissing).symm.trans hnext
  · cases (if_neg hmissing).symm.trans hnext
    rfl

/-- A stage that goes on proceeds. -/
theorem proceeds_of_next {stage : Stage} {ret : Option Bool}
    (hnext : nextMetadata hash s c fill rest stage = some (s', ret)) :
    Proceeds hash s fill rest stage s' := by
  cases stage with
  | hashValue =>
    cases hnext
    exact .register
  | userData =>
    cases hnext
    exact .initUser
  | finish =>
    cases hnext
    exact .finish
  | extension | role | reset =>
    cases hnext
    exact .access nofun rfl rfl rfl
  | functions names =>
    cases names with
    | nil | cons name names =>
      cases hnext
      exact .access nofun rfl rfl rfl
  | members oids names =>
    cases oids with
    | nil =>
      cases hnext
      exact .access nofun rfl rfl rfl
    | cons oid oids =>
      rw [nextMetadata_member] at hnext
      split at hnext
      · cases hnext
        exact .access nofun rfl rfl rfl
      · cases hnext
        exact .access nofun rfl rfl rfl
  | fields fields =>
    cases fields with
    | nil =>
      cases hnext
      exact .access nofun rfl rfl rfl
    | cons field fields =>
      rw [nextMetadata_field hnext]
      exact .access nofun rfl rfl rfl

end

/-! ## Fills in progress -/

/-- A frame of the metadata cache. -/
def Frame.isMetadata : Frame → Bool
  | .metadata .. => true
  | _ => false

/-- A frame of the user-data cache. -/
def Frame.isUser : Frame → Bool
  | .user .. => true
  | _ => false

namespace State

/-- The fills of the metadata cache that are in progress. -/
def fills (s : State) : Nat := s.stack.countP Frame.isMetadata

/-- A fill of the user data cache is in progress. -/
def fillingUser (s : State) : Bool := s.stack.any Frame.isUser

end State

/-- What holds of every state: there is one fill of the metadata cache at most, which has set
`initializing`, and the cache is not valid as long as it is set. -/
structure Shape (s : State) : Prop where
  single : s.fills ≤ 1
  busy : 0 < s.fills → s.cache.initializing = true
  stale : s.cache.initializing = true → s.cache.valid = false

section
variable {hash : UInt32} {s s' : State} {c : Syscache} {fill : Fill} {rest : List Frame}

/-- The shape depends on the fills and the cache only. -/
theorem Shape.of_eq (h : Shape s) (hfills : s'.fills = s.fills)
    (hinitializing : s'.cache.initializing = s.cache.initializing)
    (hvalid : s'.cache.valid = s.cache.valid) : Shape s' where
  single := hfills ▸ h.single
  busy := fun hpos => hinitializing.trans (h.busy (hfills ▸ hpos))
  stale := fun hbusy => hvalid.trans (h.stale (hinitializing ▸ hbusy))

/-- The user-data cache is filled apart from the other one. -/
theorem fills_initUser (s : State) : (InitUserDataCache s).fills = s.fills := by
  unfold InitUserDataCache
  split
  · rfl
  · exact List.countP_cons_of_neg (by simp [Frame.isMetadata])

/-- It does not touch the other one. -/
theorem cache_initUser (s : State) : (InitUserDataCache s).cache = s.cache := by
  unfold InitUserDataCache
  split
  · rfl
  · rfl

/-- So the shape stays. -/
theorem Shape.initUser (h : Shape s) : Shape (InitUserDataCache s) := by
  have hfills := fills_initUser s
  unfold InitUserDataCache at hfills ⊢
  split
  · exact h
  · rename_i hvalid
    rw [if_neg hvalid] at hfills
    exact h.of_eq hfills rfl rfl

/-- A call keeps the shape. -/
theorem Shape.call (h : Shape s) (xact : XactState) (c : Syscache) :
    Shape (IsExtensionRegistered s xact c).1 := by
  obtain hsame | ⟨hvalid, hinitializing, hbegun⟩ := IsExtensionRegistered_cases s xact c
  · rw [hsame]
    exact h
  · rw [hbegun]
    have hnone : s.fills = 0 := by
      by_contra hpos
      exact absurd (h.busy (Nat.pos_of_ne_zero hpos)) (by simp [hinitializing])
    refine ⟨?_, fun _ => rfl, fun _ => hvalid⟩
    unfold State.fills at hnone ⊢
    rw [List.countP_cons_of_pos rfl, hnone]

/-- An invalidation that arrives keeps it. -/
theorem Shape.arrive (h : Shape s) (n : Nat) : Shape { s with arrived := s.arrived + n } :=
  h.of_eq rfl rfl rfl

/-- So does one for the other cache. -/
theorem Shape.arriveUser (h : Shape s) : Shape { s with user_arrived := s.user_arrived + 1 } :=
  h.of_eq rfl rfl rfl

/-- So does one that is taken. -/
theorem Shape.invalidate (h : Shape s) (hash_value : UInt32) :
    Shape (InvalidateCaches s hash_value) := by
  unfold InvalidateCaches
  split
  · exact h
  · split
    · exact h
    · rename_i hvalid
      have hnone : s.fills = 0 := by
        by_contra hpos
        exact hvalid (h.stale (h.busy (Nat.pos_of_ne_zero hpos)))
      have hpos : ¬0 < s.fills := by omega
      dsimp only
      split
      · exact ⟨h.single, fun hfills => absurd hfills hpos, nofun⟩
      · exact ⟨h.single, fun hfills => absurd hfills hpos, nofun⟩

/-- So does the callback. -/
theorem Shape.callback (h : Shape s) (hash_value : UInt32) : Shape (s.callback hash_value) := by
  unfold State.callback
  split
  · exact h.invalidate hash_value
  · exact h

/-- The callback of the user-data cache changes only that. -/
theorem userCallback_eq (s : State) : ∃ user : UserDataCache, s.userCallback = { s with user := user } := by
  unfold State.userCallback InvalidateUserDataCache
  split
  · split
    · exact ⟨s.user, rfl⟩
    · exact ⟨_, rfl⟩
  · exact ⟨s.user, rfl⟩

/-- Not the metadata cache. -/
theorem cache_userCallback (s : State) : s.userCallback.cache = s.cache := by
  obtain ⟨user, heq⟩ := userCallback_eq s
  rw [heq]

/-- Nor the stack. -/
theorem stack_userCallback (s : State) : s.userCallback.stack = s.stack := by
  obtain ⟨user, heq⟩ := userCallback_eq s
  rw [heq]

/-- Nor what is being filled. -/
theorem fills_userCallback (s : State) : s.userCallback.fills = s.fills :=
  congrArg (List.countP Frame.isMetadata) (stack_userCallback s)

/-- So it keeps the shape. -/
theorem Shape.userCallback (h : Shape s) : Shape s.userCallback :=
  h.of_eq (fills_userCallback s) (by rw [cache_userCallback]) (by rw [cache_userCallback])

/-- A callback that has nothing to do. -/
theorem callback_eq_self {hash_value : UInt32}
    (h : s.cache.valid = true → hash_value ≠ s.schema_hash_value) : s.callback hash_value = s := by
  unfold State.callback InvalidateCaches
  cases hvalid : s.cache.valid with
  | false => simp
  | true => simp [h hvalid]

/-- Fills of a stack whose top is a fill of the metadata cache. -/
theorem fills_of_stack {stage : Stage} (hstack : s.stack = .metadata stage fill :: rest) :
    s.fills = rest.countP Frame.isMetadata + 1 := by
  unfold State.fills
  rw [hstack, List.countP_cons_of_pos rfl]

/-- A fill that goes on. -/
theorem Shape.proceed {stage stage' : Stage} {fill' : Fill} (h : Shape s)
    (hstack : s.stack = .metadata stage fill :: rest)
    (hstack' : s'.stack = .metadata stage' fill' :: rest)
    (hinitializing : s'.cache.initializing = s.cache.initializing)
    (hvalid : s'.cache.valid = s.cache.valid) : Shape s' :=
  h.of_eq ((fills_of_stack hstack').trans (fills_of_stack hstack).symm) hinitializing hvalid

/-- A stage of the fill keeps the shape. -/
theorem Shape.nextMetadata {stage : Stage} {ret : Option Bool} (h : Shape s)
    (hstack : s.stack = .metadata stage fill :: rest)
    (hnext : nextMetadata hash s c fill rest stage = some (s', ret)) : Shape s' := by
  cases proceeds_of_next hnext with
  | register => exact h.proceed hstack rfl rfl rfl
  | initUser =>
    refine Shape.initUser ?_
    exact h.proceed hstack rfl rfl rfl
  | access hstage hbegan hinitializing hvalid => exact h.proceed hstack rfl hinitializing hvalid
  | finish =>
    have hsingle := h.single
    rw [fills_of_stack hstack] at hsingle
    have hnone : rest.countP Frame.isMetadata = 0 := by omega
    exact ⟨hnone.le.trans (Nat.zero_le 1), fun hpos => absurd hnone hpos.ne', nofun⟩

/-- A stage of the other fill leaves this one alone. -/
theorem fills_nextUser {stage : UserStage} {began : Nat} (hstack : s.stack = .user stage began :: rest) :
    (nextUser s c began rest stage).fills = s.fills := by
  have hfills : s.fills = rest.countP Frame.isMetadata := by
    unfold State.fills
    rw [hstack, List.countP_cons_of_neg (by simp [Frame.isMetadata])]
  cases stage <;> exact (List.countP_cons_of_neg (by simp [Frame.isMetadata])).trans hfills.symm

/-- And its cache. -/
theorem cache_nextUser {began : Nat} (stage : UserStage) :
    (nextUser s c began rest stage).cache = s.cache := by
  cases stage <;> rfl

/-- So does a worker. -/
theorem fills_nextWorker (hstack : s.stack = .worker :: rest) :
    State.fills { s with stack := rest } = s.fills := by
  unfold State.fills
  rw [hstack, List.countP_cons_of_neg (by simp [Frame.isMetadata])]

/-- Hence it keeps the shape. -/
theorem Shape.nextUser {stage : UserStage} {began : Nat} (h : Shape s)
    (hstack : s.stack = .user stage began :: rest) : Shape (nextUser s c began rest stage) := by
  cases stage <;> exact h.of_eq (fills_nextUser hstack) rfl rfl

/-- And so does a worker. -/
theorem Shape.nextWorker (h : Shape s) (hstack : s.stack = .worker :: rest) :
    Shape { s with stack := rest } :=
  h.of_eq (fills_nextWorker hstack) rfl rfl

/-- Every step keeps the shape. -/
theorem Shape.step {a : Action} (h : Shape s) (hstep : step hash s a = some s') : Shape s' := by
  cases moves_of_step hstep with
  | call xact c => exact h.call xact c
  | initUser => exact h.initUser
  | nextMetadata hstack hnext => exact h.nextMetadata hstack hnext
  | nextUser hstack => exact h.nextUser hstack
  | nextWorker hstack => exact h.nextWorker hstack
  | invalidate hash_value => exact (h.arrive _).callback hash_value
  | invalidateUser => exact h.arriveUser.userCallback
  | error => exact ⟨Nat.zero_le 1, nofun, h.stale⟩

/-- The start has the shape. -/
theorem Shape.init : Shape .init := ⟨Nat.zero_le 1, nofun, nofun⟩

end

end PgDuckdb.Cache.Metadata
