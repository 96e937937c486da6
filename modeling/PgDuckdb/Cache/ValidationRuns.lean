import PgDuckdb.Cache.Acceptance

/-!
# Catalogs under statements

A statement whose condition holds leaves a catalog sound, whatever it ends with, and so do all statements of a run
(`loads_of_run`). In `unloadable` the names of two servers are the same to DuckDB: both are accepted, and no secret
loads any more.
-/

namespace PgDuckdb.Cache.Validation

open Lib (Ensures Keeps StepsOk)

section
variable {d : DuckDB} {c : PgCatalog}

/-! ## The catalogs -/

/-- A new server. -/
theorem Sound.addServer (h : Sound d c) {new : ForeignServer} (hoid : ∀ server ∈ c.servers,
    server.oid ≠ new.oid) (hname : (secretType new).isSome → NameOk c new.oid new.servername)
    (hvalid : ∀ type, secretType new = some type → Valid d type new.options []) :
    Sound d { c with servers := c.servers ++ [new] } where
  oids := by
    rw [List.map_append, List.nodup_append]
    refine ⟨h.oids, List.nodup_singleton _, ?_⟩
    intro oid hold oid' hnew
    obtain ⟨server, hserver, rfl⟩ := List.mem_map.1 hold
    rw [List.mem_singleton.1 hnew]
    exact hoid server hserver
  mapped um hum := by
    obtain ⟨server, hserver, hid⟩ := h.mapped um hum
    exact ⟨server, List.mem_append_left _ hserver, hid⟩
  named server hserver hsecret := by
    rcases List.mem_append.1 hserver with hold | hnew
    · have hok := h.named server hold hsecret
      refine ⟨hok.plain, hok.ne_validation, fun other hother hsecret' hne => ?_⟩
      rcases List.mem_append.1 hother with hold' | hnew
      · exact hok.distinct other hold' hsecret' hne
      · obtain rfl := List.mem_singleton.1 hnew
        exact ((hname hsecret').distinct server hold hsecret (hoid server hold)).symm
    · obtain rfl := List.mem_singleton.1 hnew
      have hok := hname hsecret
      refine ⟨hok.plain, hok.ne_validation, fun other hother hsecret' hne => ?_⟩
      rcases List.mem_append.1 hother with hold' | hnew'
      · exact hok.distinct other hold' hsecret' hne
      · exact absurd (congrArg _ (List.mem_singleton.1 hnew')) hne
  valid server hserver type htype := by
    rcases List.mem_append.1 hserver with hold | hnew
    · exact h.valid server hold type htype
    · obtain rfl := List.mem_singleton.1 hnew
      exact hvalid type htype
  validMapped server hserver type htype um hum hid := by
    rcases List.mem_append.1 hserver with hold | hnew
    · exact h.validMapped server hold type htype um hum hid
    · obtain ⟨server', hserver', hid'⟩ := h.mapped um hum
      rw [List.mem_singleton.1 hnew] at hid
      exact absurd (hid'.trans hid) (hoid server' hserver')

/-- Servers are known by their oids. -/
theorem Sound.eq_of_oid (h : Sound d c) {a b : ForeignServer} (ha : a ∈ c.servers)
    (hb : b ∈ c.servers) (hoid : a.oid = b.oid) : a = b :=
  List.inj_on_of_nodup_map h.oids ha hb hoid

/-- A server is given another name or other options. -/
theorem Sound.change (h : Sound d c) {old : ForeignServer} (hold : old ∈ c.servers)
    {f : ForeignServer → ForeignServer} (hoid : (f old).oid = old.oid)
    (htype : secretType (f old) = secretType old)
    (hname : (secretType old).isSome → NameOk c old.oid (f old).servername)
    (hvalid : ∀ type, secretType old = some type → Valid d type (f old).options [])
    (hmapped : ∀ type, secretType old = some type → ∀ um ∈ c.mappings, um.serverid = old.oid →
      Valid d type (f old).options um.options) :
    Sound d (changeServer c old.oid f) := by
  have hold_eq : ∀ server ∈ c.servers, server.oid = old.oid → server = old := fun server hserver =>
    h.eq_of_oid hserver hold
  have hmem : ∀ server ∈ (changeServer c old.oid f).servers,
      server = f old ∨ server ∈ c.servers ∧ server.oid ≠ old.oid := by
    intro server hserver
    obtain ⟨server', hserver', rfl⟩ := List.mem_map.1 hserver
    by_cases hid : server'.oid = old.oid
    · rw [if_pos hid, hold_eq server' hserver' hid]
      exact .inl rfl
    · rw [if_neg hid]
      exact .inr ⟨hserver', hid⟩
  refine ⟨?_, fun um hum => ?_, fun server hserver hsecret => ?_, fun server hserver type ht => ?_,
    fun server hserver type ht um hum hid => ?_⟩
  · have hoids : (changeServer c old.oid f).servers.map (·.oid) = c.servers.map (·.oid) := by
      refine (List.map_map ..).trans (List.map_congr_left fun server hserver => ?_)
      dsimp only [Function.comp]
      by_cases hid : server.oid = old.oid
      · rw [if_pos hid, hold_eq server hserver hid, hoid]
      · rw [if_neg hid]
    rw [hoids]
    exact h.oids
  · obtain ⟨server, hserver, hid⟩ := h.mapped um hum
    refine ⟨_, List.mem_map_of_mem hserver, ?_⟩
    by_cases hid' : server.oid = old.oid
    · rw [if_pos hid', hold_eq server hserver hid', hoid, ← hid, hid']
    · rw [if_neg hid', hid]
  · rcases hmem server hserver with rfl | ⟨hserver', hne⟩
    · rw [htype] at hsecret
      have hok := hname hsecret
      refine ⟨hok.plain, hok.ne_validation, fun other hother hsecret' hne => ?_⟩
      rcases hmem other hother with rfl | ⟨hother', hne'⟩
      · exact absurd rfl hne
      · exact hok.distinct other hother' hsecret' hne'
    · have hok := h.named server hserver' hsecret
      refine ⟨hok.plain, hok.ne_validation, fun other hother hsecret' hne' => ?_⟩
      rcases hmem other hother with rfl | ⟨hother', -⟩
      · rw [htype] at hsecret'
        exact ((hname hsecret').distinct server hserver' hsecret hne).symm
      · exact hok.distinct other hother' hsecret' hne'
  · rcases hmem server hserver with rfl | ⟨hserver', -⟩
    · exact hvalid type (htype.symm.trans ht)
    · exact h.valid server hserver' type ht
  · rcases hmem server hserver with rfl | ⟨hserver', -⟩
    · exact hmapped type (htype.symm.trans ht) um hum (hid.trans hoid)
    · exact h.validMapped server hserver' type ht um hum hid

/-- Fewer servers and mappings, but no mapping without its server. -/
theorem Sound.subset (h : Sound d c) {c' : PgCatalog} (hservers : c'.servers.Sublist c.servers)
    (hmappings : c'.mappings ⊆ c.mappings)
    (hmapped : ∀ um ∈ c'.mappings, ∃ server ∈ c'.servers, server.oid = um.serverid) : Sound d c' where
  oids := h.oids.sublist (hservers.map _)
  mapped := hmapped
  named server hserver hsecret :=
    have hok := h.named server (hservers.subset hserver) hsecret
    ⟨hok.plain, hok.ne_validation, fun other hother => hok.distinct other (hservers.subset hother)⟩
  valid server hserver := h.valid server (hservers.subset hserver)
  validMapped server hserver type htype um hum :=
    h.validMapped server (hservers.subset hserver) type htype um (hmappings hum)

/-- A user mapping is made or changed. -/
theorem Sound.withMapping (h : Sound d c) {server : ForeignServer} (hserver : server ∈ c.servers)
    {mappings : List UserMapping} {options : List DefElem}
    (hvalid : ∀ type, secretType server = some type → Valid d type server.options options)
    (hmappings : ∀ um ∈ mappings, um ∈ c.mappings ∨ um.serverid = server.oid ∧ um.options = options) :
    Sound d { c with mappings := mappings } where
  oids := h.oids
  mapped um hum := by
    rcases hmappings um hum with hold | ⟨hid, -⟩
    · exact h.mapped um hold
    · exact ⟨server, hserver, hid.symm⟩
  named server' hserver' hsecret :=
    have hok := h.named server' hserver' hsecret
    ⟨hok.plain, hok.ne_validation, hok.distinct⟩
  valid := h.valid
  validMapped server' hserver' type htype um hum hid := by
    rcases hmappings um hum with hold | ⟨hid', hoptions⟩
    · exact h.validMapped server' hserver' type htype um hold hid
    · obtain rfl := h.eq_of_oid hserver' hserver (hid.symm.trans hid')
      rw [hoptions]
      exact hvalid type htype

/-! ## The statements -/

/-- What a statement leaves. -/
def Fine (d : DuckDB) (s : State) : Prop := Sound d s.catalog ∧ s.session.Fits

/-- What keeps the catalog and the session keeps them fine. -/
theorem Fine.kept {s s' : State} (h : Fine d s) (hkept : Kept s s') : Fine d s' :=
  ⟨hkept.1 ▸ h.1, hkept.2⟩

/-- A change to a sound catalog is fine. -/
theorem changeCatalog_ensures {s : State} {f : PgCatalog → PgCatalog} {E : State → Prop}
    (h : Sound d (f s.catalog)) : Ensures (changeCatalog f) s (fun _ => Fine d) E :=
  Ensures.modify ⟨h, fun hvalid => absurd hvalid Bool.false_ne_true⟩

/-- A server that is found by its name is one of the catalog. -/
theorem GetForeignServerByName_ensures {s : State} {servername : List Char} (h : Fine d s) :
    Ensures (GetForeignServerByName servername) s
      (fun server s' => s' = s ∧ serverByName s.catalog servername = some server) (Fine d) := by
  refine Ensures.bind (Ensures.get ?_)
  cases hserver : serverByName s.catalog servername with
  | none => exact h
  | some server => exact ⟨rfl, rfl⟩

/-- A server that has a name is one of the catalog. -/
theorem serverByName_eq_some {servername : List Char} {server : ForeignServer}
    (h : serverByName c servername = some server) : server ∈ c.servers := List.mem_of_find?_eq_some h

/-- A server is found by its oid. -/
theorem Sound.getForeignServer (h : Sound d c) {server : ForeignServer} (hserver : server ∈ c.servers) :
    GetForeignServer c server.oid = some server := by
  unfold GetForeignServer
  cases hfind : c.servers.find? (·.oid = server.oid) with
  | none =>
    exact absurd (decide_eq_true rfl) (List.find?_eq_none.1 hfind server hserver)
  | some server' =>
    have htest := List.find?_some hfind
    have hoid : server'.oid = server.oid := of_decide_eq_true htest
    rw [h.eq_of_oid (List.mem_of_find?_eq_some hfind) hserver hoid]

/-- The type that an accepted server has is valid. -/
theorem Acceptable.valid {server : ForeignServer} {so mo : List DefElem}
    (h : server.servertype ≠ some "motherduck".toList → Acceptable d server.servertype so mo)
    {type : List Char} (htype : secretType server = some type) : Valid d type so mo := by
  obtain ⟨-, hservertype, hne⟩ := secretType_eq_some.1 htype
  rw [hservertype] at h
  obtain ⟨t, ht, hvalid, -⟩ := h fun hmd => hne (Option.some.inj hmd)
  rw [Option.some.inj ht]
  exact hvalid

/-- The options of a server that are accepted are acceptable. -/
theorem transformServer_ensures {s : State} {duckdb_fdw : Bool} {options : List DefElem}
    (h : Fine d s) : Ensures (transformGenericOptions d duckdb_fdw options .server) s
      (fun _ s' => Kept s s' ∧ (duckdb_fdw = true →
        s.session.CurrentServerType ≠ some "motherduck".toList →
          Acceptable d s.session.CurrentServerType options [])) (Fine d) := by
  cases duckdb_fdw with
  | false => exact ⟨⟨rfl, h.2⟩, fun hfalse => absurd hfalse Bool.false_ne_true⟩
  | true =>
    exact (validator_server_ensures h.1 h.2).mono (fun _ _ hs' => ⟨hs'.1, fun _ => hs'.2⟩)
      fun _ => h.kept

/-- The options of a mapping that are accepted are acceptable with those of its server. -/
theorem transformUserMapping_ensures {s : State} {server : ForeignServer} {options : List DefElem}
    (h : Fine d s) (hserver : server ∈ s.catalog.servers)
    (hoid : server.duckdb_fdw = true → s.session.CurrentServerOid = some server.oid) :
    Ensures (transformGenericOptions d server.duckdb_fdw options .userMapping) s
      (fun _ s' => Kept s s' ∧ (∀ type, secretType server = some type →
        Valid d type server.options options)) (Fine d) := by
  unfold transformGenericOptions
  split
  · next hfdw =>
    refine (validator_userMapping_ensures h.1 h.2).mono (fun _ s' hs' => ?_) fun _ => h.kept
    obtain ⟨hkept, server', hserver', hacceptable⟩ := hs'
    refine ⟨hkept, fun type htype => ?_⟩
    rw [hoid hfdw] at hserver'
    obtain rfl : server = server' := Option.some.inj ((h.1.getForeignServer hserver).symm.trans hserver')
    exact Acceptable.valid hacceptable htype
  · next hfdw =>
    exact ⟨⟨rfl, h.2⟩, fun type htype => absurd (secretType_eq_some.1 htype).1 hfdw⟩

/-- A statement keeps the catalog sound, if it is in order. -/
theorem execute_createServer {s : State} (h : Fine d s) {duckdb_fdw if_not_exists : Bool} {oid : Oid}
    {servername : List Char} {servertype : Option (List Char)} {options : List DefElem}
    (hok : StatementOk d s.catalog
      (.createServer duckdb_fdw if_not_exists oid servername servertype options)) :
    Ensures (execute d (.createServer duckdb_fdw if_not_exists oid servername servertype options)) s
      (fun _ => Fine d) (Fine d) := by
  have hpre : Ensures (DuckdbHandleDDLPre
      (.createServer duckdb_fdw if_not_exists oid servername servertype options)) s
      (fun _ s' => s' = s.setServerType (if duckdb_fdw then servertype else none)) (Fine d) :=
    Ensures.modify rfl
  refine hpre.seq fun _ s₁ hs₁ => Ensures.bind (Ensures.get ?_)
  have hcatalog₁ : s₁.catalog = s.catalog := by rw [hs₁]; rfl
  have h₁ : Fine d s₁ := by rw [hs₁]; exact h
  rw [← hcatalog₁] at hok
  split
  · split
    · exact h₁
    · exact h₁
  · next hnew =>
    have hnew : serverByName s₁.catalog servername = none := by simpa using hnew
    split
    · exact h₁
    · next hoid =>
      have hoid : ∀ server ∈ s₁.catalog.servers, server.oid ≠ oid := by
        intro server hserver heq
        exact hoid (List.any_eq_true.2 ⟨server, hserver, decide_eq_true heq⟩)
      refine (transformServer_ensures h₁).seq fun _ s' hs' => changeCatalog_ensures ?_
      obtain ⟨⟨hcatalog, -⟩, haccept⟩ := hs'
      rw [hcatalog]
      have hvalid : ∀ type, secretType ⟨oid, servername, servertype, duckdb_fdw, options⟩ = some type →
          Valid d type options [] := by
        intro type htype
        have hfdw : duckdb_fdw = true := (secretType_eq_some.1 htype).1
        have haccept := haccept hfdw
        rw [hs₁, hfdw] at haccept
        exact Acceptable.valid haccept htype
      refine h₁.1.addServer hoid (fun hsecret => ?_) hvalid
      obtain ⟨type, htype⟩ := Option.isSome_iff_exists.1 hsecret
      obtain ⟨hfdw, hservertype, hne⟩ := secretType_eq_some.1 htype
      dsimp only at hfdw hservertype
      subst hfdw hservertype
      exact hok hnew hne (hvalid type htype)

/-- `ALTER SERVER` keeps the catalog sound under its condition. -/
theorem execute_alterServer {s : State} (h : Fine d s) {servername : List Char}
    {options : Option (List DefElem)} (hok : StatementOk d s.catalog (.alterServer servername options)) :
    Ensures (execute d (.alterServer servername options)) s (fun _ => Fine d) (Fine d) := by
  have hpre : Ensures (DuckdbHandleDDLPre (.alterServer servername options)) s
      (fun _ s' => ∃ server, serverByName s.catalog servername = some server ∧
        s' = (s.setServerType none).setServerType
          (if server.duckdb_fdw then server.servertype else none)) (Fine d) := by
    have hcleared : Fine d (s.setServerType none) := h
    refine Ensures.bind (Ensures.modify ((GetForeignServerByName_ensures hcleared).seq ?_))
    rintro server s' ⟨rfl, hserver⟩
    exact Ensures.modify ⟨server, hserver, rfl⟩
  refine hpre.seq fun _ s₁ hs₁ => ?_
  obtain ⟨server, hserver, rfl⟩ := hs₁
  refine Ensures.seq (GetForeignServerByName_ensures h) ?_
  rintro server' s' ⟨rfl, hserver'⟩
  cases hserver.symm.trans hserver'
  cases options with
  | none => exact h
  | some options =>
    refine Ensures.seq (transformServer_ensures h) fun _ s' hs' => changeCatalog_ensures ?_
    obtain ⟨⟨hcatalog, -⟩, haccept⟩ := hs'
    rw [hcatalog]
    have hmem := serverByName_eq_some hserver
    have hvalid : ∀ type, secretType server = some type → Valid d type options [] := by
      intro type htype
      have hfdw := (secretType_eq_some.1 htype).1
      have haccept := haccept hfdw
      dsimp only [State.setServerType] at haccept
      rw [if_pos hfdw] at haccept
      exact Acceptable.valid haccept htype
    exact h.1.change hmem rfl rfl (h.1.named server hmem) hvalid
      fun type htype => hok server type hserver htype (hvalid type htype)

/-- A server that is renamed keeps it sound under its condition. -/
theorem execute_renameServer {s : State} (h : Fine d s) {servername newname : List Char}
    (hok : StatementOk d s.catalog (.renameServer servername newname)) :
    Ensures (execute d (.renameServer servername newname)) s (fun _ => Fine d) (Fine d) := by
  refine Ensures.bind (Ensures.pure (Ensures.seq (GetForeignServerByName_ensures h) ?_))
  rintro server s' ⟨rfl, hserver⟩
  refine Ensures.bind (Ensures.get ?_)
  split
  · exact h
  · next hnew =>
    have hnew : serverByName s'.catalog newname = none := by simpa using hnew
    have hmem := serverByName_eq_some hserver
    exact changeCatalog_ensures (h.1.change hmem rfl rfl (hok hnew server hserver)
      (h.1.valid server hmem) (h.1.validMapped server hmem))

/-- `DROP SERVER` keeps it sound. -/
theorem execute_dropServer {s : State} (h : Fine d s) {servername : List Char} {cascade : Bool} :
    Ensures (execute d (.dropServer servername cascade)) s (fun _ => Fine d) (Fine d) := by
  refine Ensures.bind (Ensures.pure (Ensures.seq (GetForeignServerByName_ensures h) ?_))
  rintro server s' ⟨rfl, hserver⟩
  refine Ensures.bind (Ensures.get ?_)
  split
  · exact h
  · refine changeCatalog_ensures (h.1.subset List.filter_sublist List.filter_sublist.subset ?_)
    intro um hum
    obtain ⟨hold, hne⟩ := List.mem_filter.1 hum
    obtain ⟨server', hserver', hid⟩ := h.1.mapped um hold
    refine ⟨server', List.mem_filter.2 ⟨hserver', ?_⟩, hid⟩
    rw [hid]
    exact hne

/-- What `DuckdbHandleDDLPre` leaves for a statement about a user mapping. -/
theorem userMapping_pre_ensures {s : State} (h : Fine d s) {servername : List Char} {stmt : Statement}
    (hstmt : DuckdbHandleDDLPre stmt = do
      modify fun s => s.setServerOid none
      let server ← GetForeignServerByName servername
      modify fun s => s.setServerOid (if server.duckdb_fdw then some server.oid else none)) :
    Ensures (DuckdbHandleDDLPre stmt) s
      (fun _ s' => Fine d s' ∧ ∀ server, serverByName s'.catalog servername = some server →
        server.duckdb_fdw = true → s'.session.CurrentServerOid = some server.oid) (Fine d) := by
  have hcleared : Fine d (s.setServerOid none) := h
  rw [hstmt]
  refine Ensures.bind (Ensures.modify ((GetForeignServerByName_ensures hcleared).seq ?_))
  rintro server s' ⟨rfl, hserver⟩
  refine Ensures.modify ⟨h, fun server' hserver' hfdw => ?_⟩
  cases hserver.symm.trans hserver'
  exact if_pos hfdw

/-- User mappings are written with options that the server's validator has accepted. -/
theorem writeMappings_ensures {s : State} {server : ForeignServer} {options : List DefElem}
    {f : List UserMapping → List UserMapping} (h : Fine d s) (hserver : server ∈ s.catalog.servers)
    (hoid : server.duckdb_fdw = true → s.session.CurrentServerOid = some server.oid)
    (hf : ∀ um ∈ f s.catalog.mappings,
      um ∈ s.catalog.mappings ∨ um.serverid = server.oid ∧ um.options = options) :
    Ensures (do
      transformGenericOptions d server.duckdb_fdw options .userMapping
      changeCatalog fun c => { c with mappings := f c.mappings }) s (fun _ => Fine d) (Fine d) := by
  refine (transformUserMapping_ensures h hserver hoid).seq fun _ s₁ hs₁ => changeCatalog_ensures ?_
  obtain ⟨⟨hcatalog, -⟩, hvalid⟩ := hs₁
  rw [hcatalog]
  exact h.1.withMapping hserver hvalid hf

/-- `CREATE USER MAPPING` keeps it sound. -/
theorem execute_createUserMapping {s : State} (h : Fine d s) {if_not_exists : Bool}
    {userid : Option Oid} {servername : List Char} {options : List DefElem} :
    Ensures (execute d (.createUserMapping if_not_exists userid servername options)) s
      (fun _ => Fine d) (Fine d) := by
  refine (userMapping_pre_ensures h rfl).seq fun _ s₁ hs₁ => ?_
  obtain ⟨h₁, hoid⟩ := hs₁
  refine Ensures.seq (GetForeignServerByName_ensures h₁) ?_
  rintro server s' ⟨rfl, hserver⟩
  have hmem := serverByName_eq_some hserver
  refine Ensures.bind (Ensures.get ?_)
  split
  · split
    · exact h₁
    · exact h₁
  · refine writeMappings_ensures (f := (· ++ [⟨userid, server.oid, options⟩])) h₁ hmem (hoid server hserver)
      fun um hum => ?_
    rcases List.mem_append.1 hum with hold | hnew
    · exact .inl hold
    · rw [List.mem_singleton.1 hnew]
      exact .inr ⟨rfl, rfl⟩

/-- `ALTER USER MAPPING` keeps it sound. -/
theorem execute_alterUserMapping {s : State} (h : Fine d s) {userid : Option Oid}
    {servername : List Char} {options : List DefElem} :
    Ensures (execute d (.alterUserMapping userid servername options)) s (fun _ => Fine d) (Fine d) := by
  refine (userMapping_pre_ensures h rfl).seq fun _ s₁ hs₁ => ?_
  obtain ⟨h₁, hoid⟩ := hs₁
  refine Ensures.seq (GetForeignServerByName_ensures h₁) ?_
  rintro server s' ⟨rfl, hserver⟩
  have hmem := serverByName_eq_some hserver
  refine Ensures.bind (Ensures.get ?_)
  split
  · refine writeMappings_ensures (f := fun mappings => mappings.map fun um =>
      if um.userid = userid ∧ um.serverid = server.oid then { um with options := options } else um) h₁ hmem
      (hoid server hserver) fun um hum => ?_
    obtain ⟨old, hold, rfl⟩ := List.mem_map.1 hum
    split
    · next hcond => exact .inr ⟨hcond.2, rfl⟩
    · exact .inl hold
  · exact h₁

/-- Dropping a user mapping keeps the state fine. -/
theorem execute_dropUserMapping {s : State} (h : Fine d s) {userid : Option Oid}
    {servername : List Char} :
    Ensures (execute d (.dropUserMapping userid servername)) s (fun _ => Fine d) (Fine d) := by
  refine Ensures.bind (Ensures.pure (Ensures.seq (GetForeignServerByName_ensures h) ?_))
  rintro server s' ⟨rfl, hserver⟩
  refine Ensures.bind (Ensures.get ?_)
  split
  · refine changeCatalog_ensures (h.1.subset (.refl _) List.filter_sublist.subset fun um hum => ?_)
    exact h.1.mapped um (List.mem_filter.1 hum).1
  · exact h

/-- Every statement that is allowed keeps the state fine. -/
theorem execute_ensures {s : State} (h : Fine d s) {stmt : Statement}
    (hok : StatementOk d s.catalog stmt) :
    Ensures (execute d stmt) s (fun _ => Fine d) (Fine d) := by
  cases stmt with
  | createServer => exact execute_createServer h hok
  | alterServer => exact execute_alterServer h hok
  | renameServer => exact execute_renameServer h hok
  | dropServer => exact execute_dropServer h
  | createUserMapping => exact execute_createUserMapping h
  | alterUserMapping => exact execute_alterUserMapping h
  | dropUserMapping => exact execute_dropUserMapping h

/-! ## Runs -/

/-- A sound catalog, and sessions that fit. -/
def Inv (d : DuckDB) (s : System) : Prop := Sound d s.catalog ∧ ∀ i, (s.sessions i).Fits

/-- Under the invariant the system serves what its catalog has. -/
theorem Inv.serves {s : System} (h : Inv d s) : s.Serves d :=
  ⟨h.1.loads, fun i _ => h.1.notBlocked (h.2 i)⟩

/-- A program in a session keeps the invariant, where it keeps the state fine. -/
theorem Inv.runIn {s : System} (h : Inv d s) {i : Nat} {roles : List (List Char)} {p : SecretM Unit}
    (hp : Ensures p ⟨s.catalog, s.sessions i, roles⟩ (fun _ => Fine d) (Fine d)) :
    Inv d (s.runIn i roles p) := by
  have hafter : Fine d (stateAfter p ⟨s.catalog, s.sessions i, roles⟩) := by
    unfold Ensures at hp
    unfold stateAfter
    cases hrun : p.run ⟨s.catalog, s.sessions i, roles⟩ with
    | ok u s' =>
      rw [hrun] at hp
      exact hp
    | error e s' =>
      rw [hrun] at hp
      exact hp
  refine ⟨hafter.1, fun j => ?_⟩
  dsimp only [System.runIn]
  split
  · exact hafter.2
  · intro hvalid
    exact h.2 j (Bool.and_eq_true_iff.1 hvalid).1

/-- A step keeps the invariant. -/
theorem Inv.step {s : System} (h : Inv d s) {a : Action} (hok : Meets d s a) :
    Inv d (step d s a) := by
  cases a with
  | execute i roles stmt => exact h.runIn (execute_ensures ⟨h.1, h.2 i⟩ hok)
  | user i user =>
    refine ⟨h.1, fun j => ?_⟩
    dsimp only [Validation.step]
    split
    · exact h.2 i
    · exact h.2 j
  | query i =>
    obtain ⟨secrets, hfree, hrun⟩ :=
      RefreshConnectionState_run (s := ⟨s.catalog, s.sessions i, []⟩) h.1 (h.2 i)
    exact h.runIn (Ensures.of_run hrun ⟨h.1, fun _ => hfree⟩)

/-- It holds at the start. -/
theorem inv_start (users : Nat → Oid) : Inv d (.start users) :=
  ⟨.empty, fun i => Session.fits_start (users i)⟩

end

/-- In every run whose statements are in order, all secrets load for every user, and no server blocks the
validation of another. -/
theorem loads_of_run (d : DuckDB) (users : Nat → Oid) (actions : List Action)
    (hmeets : StepsOk (step d) (Meets d) (.start users) actions) :
    StepsOk (step d) (fun s a => (step d s a).Serves d) (.start users) actions :=
  hmeets.imp (inv_start users) (fun _ _ h ha => h.step ha) fun _ _ h ha => (h.step ha).serves

/-- What a DuckDB accepts that knows secrets of type `s3`. -/
def s3Valid (definition : List Char) : Bool :=
  definition = "TYPE s3".toList || definition = "TYPE s3, key_id 'me'".toList

/-- How that DuckDB makes a secret. -/
def s3Create (query : Secret) : DuckdbM Unit := fun secrets =>
  if query.name.all identCont && s3Valid query.definition &&
      !secrets.any (· = fold query.name) then
    .ok () (secrets ++ [fold query.name])
  else .error ⟨"Invalid Input Error", none⟩ secrets

/-- It does so where the name is new and plain and the definition is a valid one. -/
theorem s3Create_ok_iff {query : Secret} {secrets out : List (List Char)} :
    (s3Create query).run secrets = .ok () out ↔ query.name.all identCont = true ∧
      fold query.name ∉ secrets ∧ s3Valid query.definition = true ∧
        out = secrets ++ [fold query.name] := by
  have hmem : secrets.any (· = fold query.name) = true ↔ fold query.name ∈ secrets := by simp
  change s3Create query secrets = _ ↔ _
  unfold s3Create
  split
  · next hcond =>
    rw [Bool.and_eq_true_iff, Bool.and_eq_true_iff, Bool.not_eq_true', ← Bool.not_eq_true,
      hmem] at hcond
    constructor
    · intro h
      cases h
      exact ⟨hcond.1.1, hcond.2, hcond.1.2, rfl⟩
    · rintro ⟨-, -, -, rfl⟩
      rfl
  · next hcond =>
    rw [Bool.and_eq_true_iff, Bool.and_eq_true_iff, Bool.not_eq_true', ← Bool.not_eq_true,
      hmem] at hcond
    constructor
    · intro h
      cases h
    · rintro ⟨hname, hnew, hvalid, -⟩
      exact absurd ⟨⟨hname, hvalid⟩, hnew⟩ hcond

/-- It has the options of such secrets. -/
def s3DuckDB : DuckDB where
  valid := s3Valid
  create := s3Create
  entry _ := .keyValue ["secret".toList, "session_token".toList]
  create_ok_iff server_name type server_options mapping_options secrets out hplain := by
    have hname : ("pgduckdb_secret_".toList ++ server_name).all identCont = true := by
      rw [List.all_append, hplain]
      decide
    intro query
    rw [s3Create_ok_iff]
    exact and_iff_right hname

/-- One server, a mapping of it, and another name. -/
def oneServerRun : List Action :=
  [.execute 0 [] (.createServer true false 16384 "my_s3".toList (some "s3".toList) []),
    .execute 0 [] (.createUserMapping false (some 10) "my_s3".toList
      [⟨"key_id".toList, "me".toList⟩]),
    .query 1,
    .execute 1 [] (.renameServer "my_s3".toList "old_s3".toList)]

/-- With one server all secrets load. -/
theorem loads_of_run_oneServer :
    StepsOk (step s3DuckDB) (fun s a => (step s3DuckDB s a).Serves s3DuckDB) (.start fun _ => 10)
      oneServerRun := by
  refine loads_of_run s3DuckDB _ oneServerRun ⟨fun _ _ _ => ?_, trivial, trivial, ?_, trivial⟩
  · exact ⟨by decide, by decide, fun server hserver => absurd hserver List.not_mem_nil⟩
  · intro _ server hserver _
    refine ⟨by decide, by decide, fun other hother _ hne => ?_⟩
    have hother : other = ⟨16384, "my_s3".toList, some "s3".toList, true, []⟩ :=
      List.mem_singleton.1 hother
    have hserver : server = ⟨16384, "my_s3".toList, some "s3".toList, true, []⟩ :=
      List.mem_singleton.1 (serverByName_eq_some hserver)
    rw [hother, hserver] at hne
    exact absurd rfl hne

/-- Two servers whose names differ in case. -/
def twoServersRun : List Action :=
  [.execute 0 [] (.createServer true false 16384 "S3".toList (some "s3".toList) []),
    .execute 0 [] (.createServer true false 16385 "s3".toList (some "s3".toList) [])]

/-- Both are accepted, and then no secret loads. -/
theorem unloadable :
    ¬StepsOk (step s3DuckDB) (fun s a => (step s3DuckDB s a).Serves s3DuckDB) (.start fun _ => 10)
      twoServersRun := by
  rintro ⟨-, ⟨hloads, -⟩, -⟩
  obtain ⟨out, hrun⟩ := hloads 10
  have hfail : (LoadSecrets s3DuckDB (ListDuckDBCreateSecretQueries
      (twoServersRun.foldl (step s3DuckDB) (.start fun _ => 10)).catalog 10)).run [] =
      .error ⟨"Invalid Input Error", none⟩ ["pgduckdb_secret_s3".toList] := rfl
  cases hfail.symm.trans hrun

end PgDuckdb.Cache.Validation
