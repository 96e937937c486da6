import PgDuckdb.Basic
import PgDuckdb.Lib.Program
import PgDuckdb.Lib.Run
import PgDuckdb.Text.Quote

/-!
# Initialising DuckDB

`DuckDBManager::Initialize` opens the database, connects and then runs a dozen statements, any of which
may raise. That the manager is initialised is told by its database pointer, which is set before all of
those statements. So it is all or nothing exactly in the runs in which no initialisation raises after
its database is open (`allOrNothing_iff`); `half_built` is a run in which DuckDB does not know the time
zone.

What the outside decides about an initialisation is its `Environment`.
-/

namespace PgDuckdb.Manager

open Lib (Ensures StepsOk)

/-! ## The manager -/

/-- A row of `duckdb.extensions`. -/
structure DuckdbExtension where
  name : List Char
  autoload : Bool
  repository : List Char
  deriving DecidableEq, Repr

/-- A `duckdb::DuckDB`. -/
structure Instance where
  timeZone : List Char
  default_collation : List Char
  /-- `GetDefaultDatabase`. -/
  default_database : List Char
  /-- The databases that are attached. -/
  attached : List (List Char)
  /-- The extensions that are loaded. -/
  loaded : List (List Char)
  /-- The extensions that its initialisation has to load. -/
  autoloaded : List (List Char)
  deriving DecidableEq, Repr

/-- `DuckDBManager`. -/
structure DuckDBManager where
  extensions_table_current_seq : Int
  /-- The database pointer. -/
  database : Option Instance
  /-- The connection is not null. -/
  connection : Bool
  default_dbname : List Char
  deriving DecidableEq, Repr

/-- `default_dbname` before there is one. -/
def unsetName : List Char := "<!UNSET!>".toList

/-- `DuckDBManager::DuckDBManager`. -/
def DuckDBManager.initial : DuckDBManager where
  extensions_table_current_seq := 0
  database := none
  connection := false
  default_dbname := unsetName

/-- `DuckDBManager::IsInitialized`. -/
def DuckDBManager.IsInitialized (m : DuckDBManager) : Bool := m.database.isSome

/-- The settings, the catalog and the answers of DuckDB that an initialisation meets, with the errors of
the steps that raise. -/
structure Environment where
  /-- The directories, the settings and the connection string. -/
  prepare : Option PgError
  /-- What `new duckdb::DuckDB` makes. -/
  open_database : Except PgError Instance
  /-- The storage extension, the optimizer and `pgduckdb` itself. -/
  register : Option PgError
  connect : Option PgError
  default_database : Option PgError
  /-- `GetConfigOption("TimeZone")`. -/
  pg_time_zone : List Char
  duckdb_default_collation : List Char
  /-- `IsMotherDuckEnabled`. -/
  motherduck_enabled : Bool
  /-- `FindMotherDuckBackgroundCatalogRefreshInactivityTimeout`. -/
  inactivity_timeout : Option (List Char)
  duckdb_autoinstall_known_extensions : Bool
  /-- `ReadDuckdbExtensions`. -/
  extensions : Except PgError (List DuckdbExtension)
  /-- The error that DuckDB reports for a query. -/
  query : List Char → Option PgError

/-- The extensions that are read. -/
def Environment.extensionList (env : Environment) : List DuckdbExtension :=
  match env.extensions with
  | .ok extensions => extensions
  | .error _ => []

/-- The names of the extensions that are loaded automatically. -/
def autoloadNames (extensions : List DuckdbExtension) : List (List Char) :=
  (extensions.filter (·.autoload)).map (·.name)

/-- A change of the instance. -/
def DuckDBManager.onInstance (m : DuckDBManager) (f : Instance → Instance) : DuckDBManager :=
  { m with database := m.database.map f }

/-- Programs of the manager. -/
abbrev ManagerM := EStateM PgError DuckDBManager

/-- An error, if there is one. -/
def raise : Option PgError → ManagerM Unit
  | some e => throw e
  | none => pure ()

/-- A result, or its error. -/
def ofExcept {α : Type} : Except PgError α → ManagerM α
  | .ok a => pure a
  | .error e => throw e

/-! ## The queries -/

/-- `KeywordHelper::WriteQuoted`. -/
def WriteQuoted (text : List Char) : List Char := '\'' :: Text.escapeQuotes '\'' text ++ ['\'']

/-- `LoadExtensionQuery`. -/
def LoadExtensionQuery (extension_name : List Char) : List Char :=
  "LOAD ".toList ++ WriteQuoted extension_name

/-- `InstallExtensionQuery`. -/
def InstallExtensionQuery (extension_name repository : List Char) : List Char :=
  "INSTALL ".toList ++ WriteQuoted extension_name ++ " FROM ".toList ++
    if ["core".toList, "core_nightly".toList, "community".toList, "local_build_debug".toList,
        "local_build_release".toList].any (· = repository) then repository
    else WriteQuoted repository

/-- The statement for the time zone. -/
def setTimeZoneQuery (tz : List Char) : List Char := "SET TimeZone =".toList ++ WriteQuoted tz

/-- The statement for the collation. -/
def setCollationQuery (collation : List Char) : List Char :=
  "SET default_collation =".toList ++ WriteQuoted collation

/-- The statement that attaches the tables of Postgres. -/
def attachPgduckdbQuery : List Char := "ATTACH DATABASE 'pgduckdb' (TYPE pgduckdb)".toList

/-- The statement that attaches a database for temporary tables. -/
def attachPgTempQuery : List Char := "ATTACH DATABASE ':memory:' AS pg_temp;".toList

/-- A query that initialises the secrets. -/
def secretManagerQuery : List Char := "SELECT count(*) FROM duckdb_secrets();".toList

/-- The statement for MotherDuck's timeout. -/
def setTimeoutQuery (timeout : List Char) : List Char :=
  "SET motherduck_background_catalog_refresh_inactivity_timeout=".toList ++ WriteQuoted timeout

/-! ## The functions -/

section
variable (env : Environment)

/-- `DuckDBQueryOrThrow`, for a query that does `f` to the instance. -/
def DuckDBQueryOrThrow (query : List Char) (f : Instance → Instance) : ManagerM Unit := do
  raise (env.query query)
  modify fun m => m.onInstance f

/-- `LoadExtensions`, one extension. -/
def loadExtension (extension : DuckdbExtension) : ManagerM Unit :=
  if extension.autoload then
    DuckDBQueryOrThrow env (LoadExtensionQuery extension.name) fun i =>
      { i with loaded := i.loaded ++ [extension.name] }
  else pure ()

/-- `DuckDBManager::LoadExtensions`. -/
def LoadExtensions : ManagerM Unit := do
  let duckdb_extensions ← ofExcept env.extensions
  duckdb_extensions.forM (loadExtension env)

/-- `InstallExtensions`, one extension. -/
def installExtension (extension : DuckdbExtension) : ManagerM Unit :=
  DuckDBQueryOrThrow env (InstallExtensionQuery extension.name extension.repository) id

/-- `DuckDBManager::InstallExtensions`. -/
def InstallExtensions : ManagerM Unit := do
  let duckdb_extensions ← ofExcept env.extensions
  duckdb_extensions.forM (installExtension env)

/-- `database = new duckdb::DuckDB(connection_string, &config)`. -/
def openDatabase : ManagerM Unit := do
  let i ← ofExcept env.open_database
  modify fun m =>
    { m with database := some { i with autoloaded := autoloadNames env.extensionList } }

/-- The setting that a connection to MotherDuck gets. -/
def setTimeout : ManagerM Unit :=
  if env.motherduck_enabled then
    match env.inactivity_timeout with
    | some timeout => DuckDBQueryOrThrow env (setTimeoutQuery timeout) id
    | none => pure ()
  else pure ()

/-- The extensions are installed if the setting says so. -/
def autoinstall : ManagerM Unit :=
  if env.duckdb_autoinstall_known_extensions then InstallExtensions env else pure ()

/-- The statements of `Initialize` once the time zone is set. -/
def setUpRest : ManagerM Unit := do
  DuckDBQueryOrThrow env (setCollationQuery env.duckdb_default_collation) fun i =>
    { i with default_collation := env.duckdb_default_collation }
  DuckDBQueryOrThrow env attachPgduckdbQuery fun i =>
    { i with attached := i.attached ++ ["pgduckdb".toList] }
  DuckDBQueryOrThrow env attachPgTempQuery fun i =>
    { i with attached := i.attached ++ ["pg_temp".toList] }
  DuckDBQueryOrThrow env secretManagerQuery id
  setTimeout env
  autoinstall env
  LoadExtensions env

/-- The statements of `Initialize` once the database is open. -/
def setUp : ManagerM Unit := do
  raise env.register
  raise env.connect
  modify fun m => { m with connection := true }
  raise env.default_database
  modify fun m => { m with default_dbname := (m.database.map (·.default_database)).getD [] }
  DuckDBQueryOrThrow env (setTimeZoneQuery env.pg_time_zone) fun i =>
    { i with timeZone := env.pg_time_zone }
  setUpRest env

/-- `DuckDBManager::Initialize`. -/
def Initialize : ManagerM Unit := do
  raise env.prepare
  openDatabase env
  setUp env

/-- `DuckDBManager::Get`. -/
def Get : ManagerM Unit := do
  if (← get).IsInitialized = false then Initialize env

end

/-- `DuckDBManager::Reset`. -/
def Reset : ManagerM Unit :=
  modify fun m => { m with connection := false, database := none }

/-! ## What an initialisation does -/

/-- The queries of `Initialize`, in their order. -/
def Environment.queries (env : Environment) : List (List Char) :=
  [setTimeZoneQuery env.pg_time_zone, setCollationQuery env.duckdb_default_collation,
    attachPgduckdbQuery, attachPgTempQuery, secretManagerQuery] ++
  (if env.motherduck_enabled then env.inactivity_timeout.toList.map setTimeoutQuery else []) ++
  (if env.duckdb_autoinstall_known_extensions then
    env.extensionList.map fun extension => InstallExtensionQuery extension.name extension.repository
  else []) ++
  (autoloadNames env.extensionList).map LoadExtensionQuery

/-- Nothing raises once the database is open. -/
structure Environment.NothingLate (env : Environment) : Prop where
  register : env.register = none
  connect : env.connect = none
  default_database : env.default_database = none
  extensions : env.extensions = .ok env.extensionList
  queries : ∀ q ∈ env.queries, env.query q = none

section
variable {env : Environment} {m : DuckDBManager}

/-- Two changes of the instance are one. -/
theorem DuckDBManager.onInstance_onInstance (f g : Instance → Instance) :
    (m.onInstance f).onInstance g = m.onInstance fun i => g (f i) := by
  simp [DuckDBManager.onInstance, Function.comp_def]

/-- No change is none. -/
theorem DuckDBManager.onInstance_id : m.onInstance id = m := by
  simp [DuckDBManager.onInstance]

/-- Without an instance there is nothing to change. -/
theorem DuckDBManager.onInstance_of_not_initialized (h : m.IsInitialized = false)
    (f : Instance → Instance) : m.onInstance f = m := by
  have hnone : m.database = none := by simpa [DuckDBManager.IsInitialized] using h
  obtain ⟨⟩ := m
  cases hnone
  rfl

/-- A statement that does not raise does what it is for. -/
theorem DuckDBQueryOrThrow_run {q : List Char} (h : env.query q = none) (f : Instance → Instance) :
    (DuckDBQueryOrThrow env q f).run m = .ok () (m.onInstance f) := by
  simp [DuckDBQueryOrThrow, raise, h]

/-- The state after extensions have been loaded. -/
def DuckDBManager.load (m : DuckDBManager) (names : List (List Char)) : DuckDBManager :=
  m.onInstance fun i => { i with loaded := i.loaded ++ names }

/-- Extensions are loaded one after the other. -/
theorem DuckDBManager.load_load (names names' : List (List Char)) :
    (m.load names).load names' = m.load (names ++ names') := by
  simp [DuckDBManager.load, DuckDBManager.onInstance_onInstance, List.append_assoc]

/-- Loading none changes nothing. -/
theorem DuckDBManager.load_nil : m.load [] = m := by
  simp [DuckDBManager.load, DuckDBManager.onInstance]

/-- Extensions that can be loaded are loaded. -/
theorem forM_loadExtension_run (extensions : List DuckdbExtension)
    (h : ∀ name ∈ autoloadNames extensions, env.query (LoadExtensionQuery name) = none) :
    (extensions.forM (loadExtension env)).run m = .ok () (m.load (autoloadNames extensions)) := by
  induction extensions generalizing m with
  | nil => exact congrArg (EStateM.Result.ok ()) DuckDBManager.load_nil.symm
  | cons extension extensions ih =>
    show (loadExtension env extension >>= fun _ => extensions.forM (loadExtension env)).run m = _
    rw [EStateM.run_bind]
    cases hauto : extension.autoload with
    | false =>
      have hnames : autoloadNames (extension :: extensions) = autoloadNames extensions := by
        simp [autoloadNames, hauto]
      rw [hnames] at h ⊢
      rw [loadExtension, hauto]
      exact ih h
    | true =>
      have hnames : autoloadNames (extension :: extensions) =
          extension.name :: autoloadNames extensions := by
        simp [autoloadNames, hauto]
      rw [hnames] at h ⊢
      rw [loadExtension, hauto, if_pos rfl, DuckDBQueryOrThrow_run (h _ (List.mem_cons_self ..))]
      have hrest := ih (m := m.load [extension.name])
        fun name hname => h name (List.mem_cons_of_mem _ hname)
      rw [DuckDBManager.load_load] at hrest
      exact hrest

/-- `LoadExtensions` loads the extensions that it reads. -/
theorem LoadExtensions_run (hextensions : env.extensions = .ok env.extensionList)
    (h : ∀ name ∈ autoloadNames env.extensionList, env.query (LoadExtensionQuery name) = none) :
    (LoadExtensions env).run m = .ok () (m.load (autoloadNames env.extensionList)) := by
  rw [LoadExtensions, EStateM.run_bind, hextensions]
  exact forM_loadExtension_run _ h

/-- One extension after the other is installed; the manager stays as it is. -/
theorem forM_installExtension_run (extensions : List DuckdbExtension)
    (h : ∀ extension ∈ extensions,
      env.query (InstallExtensionQuery extension.name extension.repository) = none) :
    (extensions.forM (installExtension env)).run m = .ok () m := by
  induction extensions with
  | nil => rfl
  | cons extension extensions ih =>
    show (installExtension env extension >>= fun _ => extensions.forM (installExtension env)).run m = _
    rw [EStateM.run_bind, installExtension, DuckDBQueryOrThrow_run (h _ (List.mem_cons_self ..)),
      DuckDBManager.onInstance_id]
    exact ih fun extension hextension => h extension (List.mem_cons_of_mem _ hextension)

/-- `InstallExtensions` leaves the manager as it is. -/
theorem InstallExtensions_run (hextensions : env.extensions = .ok env.extensionList)
    (h : ∀ extension ∈ env.extensionList,
      env.query (InstallExtensionQuery extension.name extension.repository) = none) :
    (InstallExtensions env).run m = .ok () m := by
  rw [InstallExtensions, EStateM.run_bind, hextensions]
  exact forM_installExtension_run _ h

/-- So does the timeout. -/
theorem setTimeout_run (h : env.motherduck_enabled = true → ∀ timeout ∈ env.inactivity_timeout,
    env.query (setTimeoutQuery timeout) = none) : (setTimeout env).run m = .ok () m := by
  unfold setTimeout
  cases hmd : env.motherduck_enabled with
  | false => rfl
  | true =>
    cases htimeout : env.inactivity_timeout with
    | none => rfl
    | some timeout =>
      show (DuckDBQueryOrThrow env (setTimeoutQuery timeout) id).run m = _
      rw [DuckDBQueryOrThrow_run (h hmd timeout htimeout), DuckDBManager.onInstance_id]

/-- No error is raised. -/
theorem raise_none_run : (raise none).run m = .ok () m := rfl

/-- What the statements of an initialisation make of the instance. -/
def Environment.setUpInstance (env : Environment) (i : Instance) : Instance :=
  { i with
    timeZone := env.pg_time_zone
    default_collation := env.duckdb_default_collation
    attached := i.attached ++ ["pgduckdb".toList] ++ ["pg_temp".toList]
    loaded := i.loaded ++ autoloadNames env.extensionList }

/-- The extensions are installed. -/
theorem autoinstall_run (h : env.NothingLate) : (autoinstall env).run m = .ok () m := by
  unfold autoinstall
  cases hauto : env.duckdb_autoinstall_known_extensions with
  | false => rfl
  | true =>
    refine InstallExtensions_run h.extensions fun extension hextension => h.queries _ ?_
    simp only [Environment.queries, List.mem_append, hauto, if_true]
    exact .inl (.inr (List.mem_map_of_mem hextension))

/-- Where nothing raises, the statements of an initialisation set everything up. -/
theorem setUp_run (h : env.NothingLate) {i : Instance} (hi : m.database = some i) :
    (setUp env).run m =
      .ok () { m with
        database := some (env.setUpInstance i)
        connection := true
        default_dbname := i.default_database } := by
  have htz : env.query (setTimeZoneQuery env.pg_time_zone) = none :=
    h.queries _ (by simp [Environment.queries])
  have hcollation : env.query (setCollationQuery env.duckdb_default_collation) = none :=
    h.queries _ (by simp [Environment.queries])
  have hpgduckdb : env.query attachPgduckdbQuery = none :=
    h.queries _ (by simp [Environment.queries])
  have hpg_temp : env.query attachPgTempQuery = none := h.queries _ (by simp [Environment.queries])
  have hsecrets : env.query secretManagerQuery = none := h.queries _ (by simp [Environment.queries])
  have htimeout : env.motherduck_enabled = true → ∀ timeout ∈ env.inactivity_timeout,
      env.query (setTimeoutQuery timeout) = none := fun hmd timeout hmem => by
    have hmem' : env.inactivity_timeout = some timeout := hmem
    exact h.queries _ (by simp [Environment.queries, hmd, hmem'])
  have hload : ∀ name ∈ autoloadNames env.extensionList, env.query (LoadExtensionQuery name) = none :=
    fun name hname => h.queries _ (by
      simp only [Environment.queries, List.mem_append]
      exact .inr (List.mem_map_of_mem hname))
  simp only [setUp, setUpRest, EStateM.run_bind, h.register, h.connect, h.default_database, raise_none_run,
    EStateM.run_modify, DuckDBQueryOrThrow_run htz, DuckDBQueryOrThrow_run hcollation,
    DuckDBQueryOrThrow_run hpgduckdb, DuckDBQueryOrThrow_run hpg_temp,
    DuckDBQueryOrThrow_run hsecrets, setTimeout_run htimeout, autoinstall_run h,
    LoadExtensions_run h.extensions hload]
  simp [DuckDBManager.onInstance, DuckDBManager.load, hi, Environment.setUpInstance]

/-! ## Completely set up -/

/-- Everything that `Initialize` sets up is there. -/
structure SetUp (m : DuckDBManager) (i : Instance) : Prop where
  connection : m.connection = true
  default_dbname : m.default_dbname = i.default_database
  pgduckdb : "pgduckdb".toList ∈ i.attached
  pg_temp : "pg_temp".toList ∈ i.attached
  loaded : ∀ name ∈ i.autoloaded, name ∈ i.loaded

/-- The manager is not initialised, or completely set up. -/
def Whole (m : DuckDBManager) : Prop := ∀ i, m.database = some i → SetUp m i

/-- The environment lets no initialisation raise after the database pointer is set. -/
def Environment.AllOrNothing (env : Environment) : Prop :=
  env.prepare ≠ none ∨ (∃ e, env.open_database = .error e) ∨ env.NothingLate

/-- `Get` initialises a manager that is not. -/
theorem Get_run : (Get env).run m = if m.IsInitialized then .ok () m else (Initialize env).run m := by
  rw [Get, EStateM.run_bind, EStateM.run_get]
  show ((if m.IsInitialized = false then Initialize env else pure ()) : ManagerM Unit).run m = _
  cases m.IsInitialized with
  | false => rfl
  | true => rfl

end

/-! ### The time zone -/

section
variable {env : Environment} {m : DuckDBManager} {I : DuckDBManager → Prop}

/-- An error changes nothing. -/
theorem keeps_raise (e : Option PgError) : Lib.Keeps (raise e) I := by
  cases e with
  | none => exact .pure _
  | some e => exact .throw e

/-- A statement keeps what its change keeps. -/
theorem keeps_query (q : List Char) {f : Instance → Instance} (h : ∀ m, I m → I (m.onInstance f)) :
    Lib.Keeps (DuckDBQueryOrThrow env q f) I :=
  (keeps_raise _).bind fun _ => .modify h

/-- The loop over the extensions keeps what each of them keeps. -/
theorem keeps_extensions {f : DuckdbExtension → ManagerM Unit} (h : ∀ x, Lib.Keeps (f x) I) :
    Lib.Keeps (ofExcept env.extensions >>= fun extensions => extensions.forM f) I := by
  refine Lib.Keeps.bind ?_ fun extensions => .forM fun x _ => h x
  cases env.extensions with
  | ok extensions => exact .pure _
  | error e => exact .throw e

/-- The instance has the time zone `tz`. -/
def HasTimeZone (tz : List Char) (m : DuckDBManager) : Prop :=
  ∃ i, m.database = some i ∧ i.timeZone = tz

/-- Other changes keep the time zone. -/
theorem HasTimeZone.onInstance {tz : List Char} {f : Instance → Instance}
    (hf : ∀ i, (f i).timeZone = i.timeZone) (h : HasTimeZone tz m) :
    HasTimeZone tz (m.onInstance f) := by
  obtain ⟨i, hm, htz⟩ := h
  exact ⟨f i, by rw [DuckDBManager.onInstance, hm]; rfl, (hf i).trans htz⟩

/-- After the time zone is set, it stays what it is. -/
theorem keeps_setUpRest (tz : List Char) : Lib.Keeps (setUpRest env) (HasTimeZone tz) := by
  have hquery : ∀ (q : List Char) (f : Instance → Instance), (∀ i, (f i).timeZone = i.timeZone) →
      Lib.Keeps (DuckDBQueryOrThrow env q f) (HasTimeZone tz) := fun q f hf =>
    keeps_query q fun m hm => hm.onInstance hf
  have htimeout : Lib.Keeps (setTimeout env) (HasTimeZone tz) := by
    unfold setTimeout
    split
    · split
      · exact hquery _ _ fun _ => rfl
      · exact .pure _
    · exact .pure _
  have hinstall : Lib.Keeps (autoinstall env) (HasTimeZone tz) := by
    unfold autoinstall
    split
    · exact keeps_extensions fun x => hquery _ _ fun _ => rfl
    · exact .pure _
  have hload : ∀ x, Lib.Keeps (loadExtension env x) (HasTimeZone tz) := fun x => by
    unfold loadExtension
    split
    · exact hquery _ _ fun _ => rfl
    · exact .pure _
  unfold setUpRest
  refine Lib.Keeps.bind (hquery _ _ ?_) fun _ => Lib.Keeps.bind (hquery _ _ ?_) fun _ =>
    Lib.Keeps.bind (hquery _ _ ?_) fun _ => Lib.Keeps.bind (hquery _ _ ?_) fun _ =>
    htimeout.bind fun _ => hinstall.bind fun _ => keeps_extensions hload
  all_goals exact fun _ => rfl

/-- Where DuckDB gets as far as the time zone and takes it, it has it however the rest goes. -/
theorem setUp_timeZone (hregister : env.register = none) (hconnect : env.connect = none)
    (hdefault : env.default_database = none)
    (hquery : env.query (setTimeZoneQuery env.pg_time_zone) = none) (hm : m.IsInitialized = true) :
    Ensures (setUp env) m (fun _ => HasTimeZone env.pg_time_zone) (HasTimeZone env.pg_time_zone) := by
  obtain ⟨i, hi⟩ := Option.isSome_iff_exists.1 hm
  have hrun : (setUp env).run m = (setUpRest env).run { m with
      database := some { i with timeZone := env.pg_time_zone }
      connection := true
      default_dbname := i.default_database } := by
    simp only [setUp, EStateM.run_bind, hregister, hconnect, hdefault, raise_none_run,
      EStateM.run_modify, DuckDBQueryOrThrow_run hquery]
    simp [DuckDBManager.onInstance, hi]
  rw [Ensures, hrun]
  exact keeps_setUpRest env.pg_time_zone _ ⟨_, rfl, rfl⟩

/-- An initialisation that raises before there is a database changes nothing. -/
theorem Initialize_run_early (h : env.prepare ≠ none ∨ ∃ e, env.open_database = .error e) :
    ∃ e, (Initialize env).run m = .error e m := by
  cases hprepare : env.prepare with
  | some e =>
    refine ⟨e, ?_⟩
    rw [Initialize, EStateM.run_bind, hprepare]
    rfl
  | none =>
    obtain ⟨e, hopen⟩ := h.resolve_left fun hne => hne hprepare
    refine ⟨e, ?_⟩
    simp only [Initialize, EStateM.run_bind, openDatabase, hprepare, hopen]
    rfl

/-- The manager with the database that was opened. -/
def Environment.opened (env : Environment) (m : DuckDBManager) (i : Instance) : DuckDBManager :=
  { m with database := some { i with autoloaded := autoloadNames env.extensionList } }

/-- Otherwise it goes on with the statements for the new database. -/
theorem Initialize_run_opened (h : ¬ (env.prepare ≠ none ∨ ∃ e, env.open_database = .error e)) :
    ∃ i, (Initialize env).run m = (setUp env).run (env.opened m i) := by
  have hprepare : env.prepare = none := by
    by_contra hne
    exact h (.inl hne)
  cases hopen : env.open_database with
  | error e => exact absurd (.inr ⟨e, hopen⟩) h
  | ok i =>
    refine ⟨i, ?_⟩
    simp only [Initialize, EStateM.run_bind, openDatabase, hprepare, hopen]
    rfl

/-- Where it gets as far as the time zone and DuckDB takes it, DuckDB has it afterwards. -/
theorem Initialize_timeZone (hregister : env.register = none) (hconnect : env.connect = none)
    (hdefault : env.default_database = none)
    (hquery : env.query (setTimeZoneQuery env.pg_time_zone) = none) (hm : m.database = none) :
    Ensures (Initialize env) m (fun _ => HasTimeZone env.pg_time_zone)
      fun m' => m'.database = none ∨ HasTimeZone env.pg_time_zone m' := by
  by_cases hearly : env.prepare ≠ none ∨ ∃ e, env.open_database = .error e
  · obtain ⟨e, hrun⟩ := Initialize_run_early (m := m) hearly
    rw [Ensures, hrun]
    exact .inl hm
  · obtain ⟨i, hrun⟩ := Initialize_run_opened (m := m) hearly
    have hset := setUp_timeZone hregister hconnect hdefault hquery (m := env.opened m i) rfl
    rw [Ensures, hrun]
    exact hset.mono (fun _ _ h => h) fun _ h => .inr h

end

/-! ### What raises too late -/

section
variable {env : Environment} {m : DuckDBManager}

/-- What the statements of an initialisation keep. -/
structure Opened (m m' : DuckDBManager) : Prop where
  initialized : m'.IsInitialized = true
  seq : m'.extensions_table_current_seq = m.extensions_table_current_seq

/-- `Late p m F`: run on an initialised manager, `p` leaves it initialised, and it returns only if `F`. -/
def Late (p : ManagerM Unit) (m : DuckDBManager) (F : Prop) : Prop :=
  Ensures p m (fun _ m' => Opened m m' ∧ F) (Opened m)

/-- A sequence raises late unless both parts do not raise. -/
theorem Late.seq {p q : ManagerM Unit} {F G : Prop} (hp : Late p m F)
    (hq : ∀ m', m'.IsInitialized = true → Late q m' G) : Late (p >>= fun _ => q) m (F ∧ G) :=
  Ensures.seq hp fun _ m' hm' =>
    have htrans : ∀ m'', Opened m' m'' → Opened m m'' := fun _ h =>
      ⟨h.initialized, h.seq.trans hm'.1.seq⟩
    (hq m' hm'.1.initialized).mono (fun _ m'' h => ⟨htrans m'' h.1, hm'.2, h.2⟩) htrans

/-- What returns at once does not raise. -/
theorem Late.pure (hm : m.IsInitialized = true) {F : Prop} (h : F) : Late (pure ()) m F :=
  ⟨⟨hm, rfl⟩, h⟩

/-- Nor does a change. -/
theorem Late.modify {f : DuckDBManager → DuckDBManager} (h : Opened m (f m)) :
    Late (modify f) m True := ⟨h, trivial⟩

/-- An error is raised late if there is one. -/
theorem Late.raise (hm : m.IsInitialized = true) (e : Option PgError) :
    Late (raise e) m (e = none) := by
  cases e with
  | none => exact Late.pure hm rfl
  | some e => exact ⟨hm, rfl⟩

/-- A statement raises late if it raises. -/
theorem Late.query (hm : m.IsInitialized = true) (q : List Char) (f : Instance → Instance) :
    Late (DuckDBQueryOrThrow env q f) m (env.query q = none) := by
  have hset : ∀ m : DuckDBManager, m.IsInitialized = true → Opened m (m.onInstance f) := fun m hm =>
    ⟨by simpa [DuckDBManager.onInstance, DuckDBManager.IsInitialized] using hm, rfl⟩
  exact (Late.seq (Late.raise hm _) fun m' hm' => Late.modify (hset m' hm')).mono
    (fun _ _ h => ⟨h.1, h.2.1⟩) fun _ h => h

/-- A loop raises late unless no part of it raises. -/
theorem Late.forM (hm : m.IsInitialized = true) {f : DuckdbExtension → ManagerM Unit}
    {F : DuckdbExtension → Prop} {extensions : List DuckdbExtension}
    (hf : ∀ extension m, m.IsInitialized = true → Late (f extension) m (F extension)) :
    Late (extensions.forM f) m (∀ extension ∈ extensions, F extension) := by
  induction extensions generalizing m with
  | nil => exact Late.pure hm fun _ h => (nomatch h)
  | cons extension extensions ih =>
    refine Ensures.mono (Late.seq (hf extension m hm) fun m' hm' => ih hm') (fun _ _ h => ?_)
      fun _ h => h
    exact ⟨h.1, List.forall_mem_cons.2 h.2⟩

/-- A loop over the extensions, which must be read first. -/
theorem Late.readAll (hm : m.IsInitialized = true) {f : DuckdbExtension → ManagerM Unit}
    {F : DuckdbExtension → Prop}
    (hf : ∀ extension m, m.IsInitialized = true → Late (f extension) m (F extension)) :
    Late (ofExcept env.extensions >>= fun extensions => extensions.forM f) m
      (env.extensions = .ok env.extensionList ∧ ∀ extension ∈ env.extensionList, F extension) := by
  refine Ensures.bind ?_
  unfold Environment.extensionList
  cases env.extensions with
  | error e => exact ⟨hm, rfl⟩
  | ok extensions =>
    exact (Late.forM hm hf).mono (fun _ _ h => ⟨h.1, rfl, h.2⟩) fun _ h => h

/-- Loading an extension raises late if its statement does. -/
theorem Late.loadExtension (hm : m.IsInitialized = true) (extension : DuckdbExtension) :
    Late (loadExtension env extension) m
      (extension.autoload = true → env.query (LoadExtensionQuery extension.name) = none) := by
  unfold Manager.loadExtension
  cases hauto : extension.autoload with
  | false => exact Late.pure hm fun h => absurd h Bool.false_ne_true
  | true => exact (Late.query hm _ _).mono (fun _ _ h => ⟨h.1, fun _ => h.2⟩) fun _ h => h

/-- Loading the extensions raises late if the table cannot be read or an extension cannot be loaded. -/
theorem Late.loadExtensions (hm : m.IsInitialized = true) :
    Late (LoadExtensions env) m (env.extensions = .ok env.extensionList ∧
      ∀ extension ∈ env.extensionList, extension.autoload = true →
        env.query (LoadExtensionQuery extension.name) = none) :=
  Late.readAll hm fun _ _ hm => Late.loadExtension hm _

/-- Setting the timeout raises late if its statement does. -/
theorem Late.setTimeout (hm : m.IsInitialized = true) :
    Late (setTimeout env) m (env.motherduck_enabled = true → ∀ timeout ∈ env.inactivity_timeout,
      env.query (setTimeoutQuery timeout) = none) := by
  unfold Manager.setTimeout
  cases env.motherduck_enabled with
  | false => exact Late.pure hm fun h => absurd h Bool.false_ne_true
  | true =>
    cases env.inactivity_timeout with
    | none => exact Late.pure hm fun _ _ h => (nomatch h)
    | some timeout =>
      refine (Late.query hm _ _).mono (fun _ _ h => ⟨h.1, fun _ timeout' hmem => ?_⟩) fun _ h => h
      cases hmem
      exact h.2

/-- Installing raises late if one of its statements does. -/
theorem Late.autoinstall (hm : m.IsInitialized = true) :
    Late (autoinstall env) m (env.duckdb_autoinstall_known_extensions = true →
      ∀ extension ∈ env.extensionList,
        env.query (InstallExtensionQuery extension.name extension.repository) = none) := by
  unfold Manager.autoinstall
  cases env.duckdb_autoinstall_known_extensions with
  | false => exact Late.pure hm fun h => absurd h Bool.false_ne_true
  | true =>
    exact (Late.readAll hm fun extension m hm => Late.query hm _ _).mono
      (fun _ _ h => ⟨h.1, fun _ => h.2.2⟩) fun _ h => h

/-- The statements of an initialisation return only if nothing raises. -/
theorem Late.setUp (hm : m.IsInitialized = true) : Late (setUp env) m env.NothingLate := by
  have hall : Late (Manager.setUp env) m _ :=
    Late.seq (Late.raise hm _) fun _ hm => Late.seq (Late.raise hm _) fun _ hm =>
    Late.seq (Late.modify ⟨hm, rfl⟩) fun _ hm => Late.seq (Late.raise hm _) fun _ hm =>
    Late.seq (Late.modify ⟨hm, rfl⟩) fun _ hm => Late.seq (Late.query hm _ _) fun _ hm =>
    Late.seq (Late.query hm _ _) fun _ hm => Late.seq (Late.query hm _ _) fun _ hm =>
    Late.seq (Late.query hm _ _) fun _ hm => Late.seq (Late.query hm _ _) fun _ hm =>
    Late.seq (Late.setTimeout hm) fun _ hm => Late.seq (Late.autoinstall hm) fun _ hm =>
    Late.loadExtensions hm
  refine hall.mono (fun _ _ h => ⟨h.1, ?_⟩) fun _ h => h
  obtain ⟨-, hregister, hconnect, -, hdefault, -, htz, hcollation, hpgduckdb, hpg_temp, hsecrets,
    htimeout, hinstall, hextensions, hload⟩ := h
  refine ⟨hregister, hconnect, hdefault, hextensions, fun q hq => ?_⟩
  simp only [Environment.queries, List.mem_append, List.mem_cons, List.not_mem_nil, or_false] at hq
  rcases hq with (((rfl | rfl | rfl | rfl | rfl) | hq) | hq) | hq
  · exact htz
  · exact hcollation
  · exact hpgduckdb
  · exact hpg_temp
  · exact hsecrets
  · cases hmd : env.motherduck_enabled with
    | false =>
      rw [hmd, if_neg Bool.false_ne_true] at hq
      exact absurd hq List.not_mem_nil
    | true =>
      rw [hmd, if_pos rfl] at hq
      obtain ⟨timeout, hmem, rfl⟩ := List.mem_map.1 hq
      exact htimeout hmd timeout (Option.mem_toList.1 hmem)
  · cases hauto : env.duckdb_autoinstall_known_extensions with
    | false =>
      rw [hauto, if_neg Bool.false_ne_true] at hq
      exact absurd hq List.not_mem_nil
    | true =>
      rw [hauto, if_pos rfl] at hq
      obtain ⟨extension, hmem, rfl⟩ := List.mem_map.1 hq
      exact hinstall hauto extension hmem
  · obtain ⟨name, hname, rfl⟩ := List.mem_map.1 hq
    obtain ⟨extension, hmem, rfl⟩ := List.mem_map.1 hname
    obtain ⟨hextension, hautoload⟩ := List.mem_filter.1 hmem
    exact hload extension hextension hautoload

/-- The manager after an initialisation that has opened `i` and completes. -/
def Environment.completed (env : Environment) (m : DuckDBManager) (i : Instance) : DuckDBManager :=
  { m with
    database := some (env.setUpInstance { i with autoloaded := autoloadNames env.extensionList })
    connection := true
    default_dbname := i.default_database }

/-- An initialisation raises before there is a database and changes nothing, or it completes, or it
raises and leaves the manager initialised. -/
theorem Initialize_cases (env : Environment) (m : DuckDBManager) :
    ((env.prepare ≠ none ∨ ∃ e, env.open_database = .error e) ∧
        ∃ e, (Initialize env).run m = .error e m) ∨
      (env.NothingLate ∧ ∃ i, (Initialize env).run m = .ok () (env.completed m i)) ∨
      (¬ env.AllOrNothing ∧ ∃ e m', (Initialize env).run m = .error e m' ∧ Opened m m') := by
  by_cases hearly : env.prepare ≠ none ∨ ∃ e, env.open_database = .error e
  · exact .inl ⟨hearly, Initialize_run_early hearly⟩
  · obtain ⟨i, hrun⟩ := Initialize_run_opened (m := m) hearly
    have hlate : Late (setUp env) (env.opened m i) env.NothingLate := Late.setUp rfl
    rw [hrun]
    by_cases hnothing : env.NothingLate
    · exact .inr (.inl ⟨hnothing, i, setUp_run hnothing rfl⟩)
    · refine .inr (.inr ⟨fun h => ?_, ?_⟩)
      · rcases h with hne | hopen | h
        · exact hearly (.inl hne)
        · exact hearly (.inr hopen)
        · exact hnothing h
      · cases hres : (Manager.setUp env).run (env.opened m i) with
        | ok u m' => exact absurd (hlate.ok hres).2 hnothing
        | error e m' =>
          rw [Late, Ensures, hres] at hlate
          exact ⟨e, m', rfl, hlate.initialized, hlate.seq⟩

/-- What an initialisation sets up is there. -/
theorem setUp_completed (i : Instance) : ∃ i', (env.completed m i).database = some i' ∧
    SetUp (env.completed m i) i' := by
  refine ⟨_, rfl, ?_⟩
  exact
    { connection := rfl
      default_dbname := rfl
      pgduckdb := by simp [Environment.setUpInstance]
      pg_temp := by simp [Environment.setUpInstance]
      loaded name hname := List.mem_append_right _ hname }

/-- An initialisation in such an environment fails before there is a database, or completes. -/
theorem Initialize_ensures (h : env.AllOrNothing) (hm : m.database = none) :
    Ensures (Initialize env) m (fun _ m' => ∃ i, m'.database = some i ∧ SetUp m' i)
      fun m' => m'.database = none := by
  rcases Initialize_cases env m with ⟨-, e, hrun⟩ | ⟨-, i, hrun⟩ | ⟨hnot, -⟩
  · rw [Ensures, hrun]
    exact hm
  · exact Ensures.of_run hrun (setUp_completed i)
  · exact absurd h hnot

/-- In every other environment an initialisation raises and leaves the manager initialised. -/
theorem Initialize_raises (h : ¬ env.AllOrNothing) :
    ∃ e m', (Initialize env).run m = .error e m' ∧ Opened m m' := by
  rcases Initialize_cases env m with ⟨hearly, -⟩ | ⟨hlate, -⟩ | ⟨-, hraises⟩
  · exact absurd (hearly.elim .inl fun hopen => .inr (.inl hopen)) h
  · exact absurd (.inr (.inr hlate)) h
  · exact hraises

end

/-! ## The runs of a backend -/

/-- The state a program leaves, whether or not it throws. -/
def stateAfter (p : ManagerM Unit) (m : DuckDBManager) : DuckDBManager :=
  match p.run m with
  | .ok _ m' => m'
  | .error _ m' => m'

/-- What happens in a backend. -/
inductive Action
  /-- A caller of `Get`. -/
  | get (env : Environment)
  /-- A callback that tests `IsInitialized` and then uses `GetConnectionUnsafe`. -/
  | callback (env : Environment)
  | reset

/-- What the manager is then. -/
def step (m : DuckDBManager) : Action → DuckDBManager
  | .get env => stateAfter (Get env) m
  | .callback env => if m.IsInitialized then stateAfter (Get env) m else m
  | .reset => stateAfter Reset m

/-- What the action works on is completely set up: for a caller, when `Get` returns. -/
def WorksOnWhole (m : DuckDBManager) : Action → Prop
  | .get env => ∀ m', (Get env).run m = .ok () m' → ∃ i, m'.database = some i ∧ SetUp m' i
  | .callback _ => m.IsInitialized = true → ∃ i, m.database = some i ∧ SetUp m i
  | .reset => True

/-- If `Get` raises, the manager is not initialised, so that the next one starts again. -/
def RaisesToNothing (m : DuckDBManager) : Action → Prop
  | .get env => ∀ e m', (Get env).run m = .error e m' → m'.IsInitialized = false
  | _ => True

/-- No initialisation raises after the database pointer is set. -/
def RaisesEarly (m : DuckDBManager) : Action → Prop
  | .get env => m.IsInitialized = false → env.AllOrNothing
  | _ => True

section
variable {m : DuckDBManager}

/-- A whole manager that is initialised is set up. -/
theorem Whole.setUp (h : Whole m) (hi : m.IsInitialized = true) :
    ∃ i, m.database = some i ∧ SetUp m i := by
  obtain ⟨i, hm⟩ := Option.isSome_iff_exists.1 hi
  exact ⟨i, hm, h i hm⟩

/-- `Get` leaves a whole manager, one that is set up if it returns and none if it raises. -/
theorem Whole.get (h : Whole m) {env : Environment}
    (henv : m.IsInitialized = false → env.AllOrNothing) :
    Whole (stateAfter (Get env) m) ∧ WorksOnWhole m (.get env) ∧ RaisesToNothing m (.get env) := by
  cases hi : m.IsInitialized with
  | true =>
    have hrun : (Get env).run m = .ok () m := by rw [Get_run, hi, if_pos rfl]
    refine ⟨by rwa [stateAfter, hrun], fun m' hm' => ?_, fun e m' hm' => ?_⟩
    · cases hrun.symm.trans hm'
      exact h.setUp hi
    · cases hrun.symm.trans hm'
  | false =>
    have hdatabase : m.database = none := by simpa [DuckDBManager.IsInitialized] using hi
    have hrun : (Get env).run m = (Initialize env).run m := by rw [Get_run, hi]; rfl
    have hinit := Initialize_ensures (henv hi) hdatabase
    have hraise : ∀ e m', (Initialize env).run m = .error e m' → m'.database = none := by
      intro e m' hm'
      rwa [Ensures, hm'] at hinit
    refine ⟨?_, fun m' hm' => hinit.ok (hrun.symm.trans hm'), fun e m' hm' => ?_⟩
    · rw [stateAfter, hrun]
      cases hres : (Initialize env).run m with
      | ok u m' =>
        obtain ⟨i, hm', hset⟩ := hinit.ok hres
        intro i' hi'
        obtain rfl : i = i' := Option.some.inj (hm'.symm.trans hi')
        exact hset
      | error e m' =>
        intro i' hi'
        cases (hraise e m' hres).symm.trans hi'
    · rw [DuckDBManager.IsInitialized, hraise e m' (hrun.symm.trans hm')]
      rfl

/-- A step that does not raise late leaves a whole manager. -/
theorem Whole.step (h : Whole m) {a : Action} (ha : RaisesEarly m a) :
    Whole (step m a) ∧ WorksOnWhole m a ∧ RaisesToNothing m a := by
  cases a with
  | get env => exact h.get ha
  | callback env =>
    refine ⟨?_, h.setUp, trivial⟩
    cases hi : m.IsInitialized with
    | false => rwa [Manager.step, hi]
    | true =>
      rw [Manager.step, hi, if_pos rfl, stateAfter, Get_run, hi, if_pos rfl]
      exact h
  | reset => exact ⟨fun i hi => (nomatch hi), trivial, trivial⟩

end

/-- In a run of a backend in which no initialisation raises after the database pointer is set, the manager is after
every step completely set up or not initialised at all, and nobody works on one that is not completely set up. -/
theorem whole_of_raisesEarly {actions : List Action} (h : StepsOk step RaisesEarly DuckDBManager.initial actions) :
    StepsOk step (fun m a => Whole (step m a) ∧ WorksOnWhole m a) DuckDBManager.initial actions :=
  h.imp (I := Whole) (fun _ hi => nomatch hi) (fun _ _ hm ha => (hm.step ha).1)
    fun _ _ hm ha => ⟨(hm.step ha).1, (hm.step ha).2.1⟩

/-- In a run of a backend, the manager is after every step completely set up or not initialised at all,
an initialisation that raises leaves it so, and nobody works on a manager that is not completely set up,
if and only if no initialisation raises after the database pointer is set. -/
theorem allOrNothing_iff (actions : List Action) :
    StepsOk step (fun m a => Whole (step m a) ∧ WorksOnWhole m a ∧ RaisesToNothing m a)
        DuckDBManager.initial actions ↔
      StepsOk step RaisesEarly DuckDBManager.initial actions := by
  constructor
  · intro h
    refine h.imp (I := fun _ => True) trivial (fun _ _ _ _ => trivial) fun m a _ hok => ?_
    cases a with
    | get env =>
      intro hi
      by_contra hlate
      obtain ⟨e, m', hrun, hm'⟩ := Initialize_raises (m := m) hlate
      have hget : (Get env).run m = .error e m' := by rw [Get_run, hi]; exact hrun
      exact absurd ((hok.2.2 e m' hget).symm.trans hm'.initialized) Bool.false_ne_true
    | callback env => trivial
    | reset => trivial
  · intro h
    exact h.imp (I := Whole) (fun _ hi => nomatch hi) (fun _ _ hm ha => (hm.step ha).1)
      fun _ _ hm ha => hm.step ha

/-- A new database, as DuckDB makes it. -/
def newDatabase : Instance where
  timeZone := "UTC".toList
  default_collation := []
  default_database := "memory".toList
  attached := ["memory".toList]
  loaded := ["json".toList]
  autoloaded := []

/-- An environment in which nothing raises. -/
def quietEnvironment : Environment where
  prepare := none
  open_database := .ok newDatabase
  register := none
  connect := none
  default_database := none
  pg_time_zone := "Europe/Berlin".toList
  duckdb_default_collation := []
  motherduck_enabled := false
  inactivity_timeout := none
  duckdb_autoinstall_known_extensions := true
  extensions := .ok [⟨"iceberg".toList, true, "core".toList⟩]
  query _ := none

/-- DuckDB cannot be opened at first; then it is, and after a reset once more. -/
example :
    [Action.get { quietEnvironment with open_database := .error ⟨"cannot open", none⟩ },
      .get quietEnvironment, .reset, .get quietEnvironment].foldl step DuckDBManager.initial =
      { DuckDBManager.initial with
        database := some
          { newDatabase with
            timeZone := "Europe/Berlin".toList
            attached := ["memory".toList, "pgduckdb".toList, "pg_temp".toList]
            loaded := ["json".toList, "iceberg".toList]
            autoloaded := ["iceberg".toList] }
        connection := true
        default_dbname := "memory".toList } := by
  decide

/-- The time zone of the session is one that DuckDB does not know. The statement that raises is that of
the time zone, when the database is open and connected but neither `pgduckdb` nor `pg_temp` is
attached; the manager stays so, because it is initialised. -/
theorem half_built :
    ¬ ∀ actions : List Action, Whole (actions.foldl step DuckDBManager.initial) := by
  intro h
  have hwhole := h [.get { quietEnvironment with
    pg_time_zone := "FOO+5".toList
    query := fun q =>
      if q = setTimeZoneQuery "FOO+5".toList then some ⟨"Unknown TimeZone 'FOO+5'", none⟩
      else none }]
  exact absurd (hwhole _ rfl).pgduckdb (by decide)

end PgDuckdb.Manager
