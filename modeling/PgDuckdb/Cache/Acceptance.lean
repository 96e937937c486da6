import PgDuckdb.Cache.Validation

/-!
# What is loaded and what is accepted

The secrets of a sound catalog are valid and have names that DuckDB tells apart, so that a refresh loads them all. And
what the validator accepts is valid: it makes a secret of it, under a name that no secret of a server has.
-/

namespace PgDuckdb.Cache.Validation

open Lib (Ensures Keeps)

section
variable {d : DuckDB} {c : PgCatalog}

/-! ## Loading -/

/-- A query for a server with a plain name. -/
def PlainQuery (query : Secret) : Prop :=
  ∃ server_name type server_options mapping_options, IsPlain server_name ∧
    query = MakeDuckDBCreateSecretQuery server_name type server_options mapping_options

/-- Secrets that are valid, and new and distinct to DuckDB, are all loaded. -/
theorem LoadSecrets_run {queries : List Secret} {secrets : List (List Char)}
    (hplain : ∀ query ∈ queries, PlainQuery query)
    (hvalid : ∀ query ∈ queries, d.valid query.definition = true)
    (hnew : ∀ query ∈ queries, fold query.name ∉ secrets)
    (hdistinct : queries.Pairwise fun a b => fold a.name ≠ fold b.name) :
    (LoadSecrets d queries).run secrets = .ok () (secrets ++ queries.map (fold ·.name)) := by
  induction queries generalizing secrets with
  | nil => simp [LoadSecrets, pure, EStateM.pure, EStateM.run]
  | cons query queries ih =>
    obtain ⟨hfirst, hrest⟩ := List.pairwise_cons.1 hdistinct
    have hcreate : (d.create query).run secrets = .ok () (secrets ++ [fold query.name]) := by
      have hquery := hvalid query (List.mem_cons_self ..)
      have hname := hnew query (List.mem_cons_self ..)
      obtain ⟨n, t, so, mo, hn, rfl⟩ := hplain query (List.mem_cons_self ..)
      exact (d.create_ok_iff n t so mo secrets _ hn).2 ⟨hname, hquery, rfl⟩
    have hload : (LoadSecrets d queries).run (secrets ++ [fold query.name]) =
        .ok () (secrets ++ [fold query.name] ++ queries.map (fold ·.name)) := by
      refine ih (fun q hq => hplain q (List.mem_cons_of_mem _ hq))
        (fun q hq => hvalid q (List.mem_cons_of_mem _ hq)) (fun q hq hmem => ?_) hrest
      rcases List.mem_append.1 hmem with hold | hfold
      · exact hnew q (List.mem_cons_of_mem _ hq) hold
      · exact hfirst q hq (List.mem_singleton.1 hfold).symm
    have hbind : LoadSecrets d (query :: queries) =
        d.create query >>= fun _ => LoadSecrets d queries := rfl
    rw [hbind, EStateM.run_bind, hcreate]
    refine Eq.trans hload ?_
    rw [List.append_assoc]
    rfl

/-- A server has a secret of its type, unless that is MotherDuck's. -/
theorem secretType_eq_some {server : ForeignServer} {type : List Char} :
    secretType server = some type ↔
      server.duckdb_fdw = true ∧ server.servertype = some type ∧ type ≠ "motherduck".toList := by
  unfold secretType
  constructor
  · intro h
    split at h
    · rename_i hcond
      obtain ⟨hfdw, hne⟩ := Bool.and_eq_true_iff.1 hcond
      refine ⟨hfdw, h, fun hmd => ?_⟩
      exact of_decide_eq_true hne (hmd ▸ h)
    · cases h
  · rintro ⟨hfdw, htype, hne⟩
    rw [if_pos, htype]
    refine Bool.and_eq_true_iff.2 ⟨hfdw, decide_eq_true fun hmd => hne ?_⟩
    exact Option.some.inj (htype.symm.trans hmd)

/-- The queries are those of the servers that have a secret. -/
theorem ListDuckDBCreateSecretQueries_eq (c : PgCatalog) (user : Oid) :
    ListDuckDBCreateSecretQueries c user = c.servers.filterMap fun server =>
      (secretType server).map fun type =>
        MakeDuckDBCreateSecretQuery server.servername type server.options
          ((FindUserMapping c user server.oid).elim [] (·.options)) := by
  unfold ListDuckDBCreateSecretQueries
  refine List.filterMap_congr fun server _ => ?_
  cases hsecret : secretType server with
  | some type =>
    obtain ⟨hfdw, htype, hne⟩ := secretType_eq_some.1 hsecret
    rw [htype]
    exact if_pos (Bool.and_eq_true_iff.2 ⟨hfdw, decide_eq_true hne⟩)
  | none =>
    cases htype : server.servertype with
    | none => rfl
    | some type =>
      refine if_neg fun hcond => ?_
      obtain ⟨hfdw, hne⟩ := Bool.and_eq_true_iff.1 hcond
      cases hsecret.symm.trans (secretType_eq_some.2 ⟨hfdw, htype, of_decide_eq_true hne⟩)

/-- A mapping that is found is one of the catalog, for the server. -/
theorem FindUserMapping_eq_some {user serverid : Oid} {um : UserMapping}
    (h : FindUserMapping c user serverid = some um) : um ∈ c.mappings ∧ um.serverid = serverid := by
  unfold FindUserMapping at h
  split at h
  · rename_i um' hown
    cases h
    have hcond := List.find?_some hown
    exact ⟨List.mem_of_find?_eq_some hown, (of_decide_eq_true hcond).2⟩
  · have hcond := List.find?_some h
    exact ⟨List.mem_of_find?_eq_some h, (of_decide_eq_true hcond).2⟩

/-- Each query is for a server that has a secret. -/
theorem mem_ListDuckDBCreateSecretQueries {user : Oid} {query : Secret}
    (h : query ∈ ListDuckDBCreateSecretQueries c user) :
    ∃ server ∈ c.servers, ∃ type, secretType server = some type ∧
      query = MakeDuckDBCreateSecretQuery server.servername type server.options
        ((FindUserMapping c user server.oid).elim [] (·.options)) := by
  rw [ListDuckDBCreateSecretQueries_eq] at h
  obtain ⟨server, hserver, hquery⟩ := List.mem_filterMap.1 h
  obtain ⟨type, htype, rfl⟩ := Option.map_eq_some_iff.1 hquery
  exact ⟨server, hserver, type, htype, rfl⟩

/-- The folding of two parts. -/
theorem fold_append (a b : List Char) : fold (a ++ b) = fold a ++ fold b := List.map_append

/-- The names of two secrets are the same when those of the servers are the same up to case. -/
theorem fold_name_eq_iff {n n' t t' : List Char} {so so' mo mo' : List DefElem} :
    fold (MakeDuckDBCreateSecretQuery n t so mo).name =
      fold (MakeDuckDBCreateSecretQuery n' t' so' mo').name ↔ fold n = fold n' := by
  dsimp only [MakeDuckDBCreateSecretQuery]
  rw [fold_append, fold_append, List.append_cancel_left_eq]

/-- The secrets of a sound catalog, for any user, are valid. -/
theorem Sound.query_valid (h : Sound d c) {user : Oid} {server : ForeignServer} {type : List Char}
    (hserver : server ∈ c.servers) (htype : secretType server = some type) :
    Valid d type server.options ((FindUserMapping c user server.oid).elim [] (·.options)) := by
  cases hum : FindUserMapping c user server.oid with
  | none => exact h.valid server hserver type htype
  | some um =>
    obtain ⟨hmem, hid⟩ := FindUserMapping_eq_some hum
    exact h.validMapped server hserver type htype um hmem hid

/-- The names of the secrets of a sound catalog are distinct to DuckDB. -/
theorem Sound.queries_distinct (h : Sound d c) (user : Oid) :
    (ListDuckDBCreateSecretQueries c user).Pairwise fun a b => fold a.name ≠ fold b.name := by
  rw [ListDuckDBCreateSecretQueries_eq, List.pairwise_filterMap]
  have hoids : c.servers.Pairwise fun a b => a.oid ≠ b.oid := List.pairwise_map.1 h.oids
  refine hoids.imp_of_mem fun ha hb hne q hq q' hq' => ?_
  obtain ⟨t, ht, rfl⟩ := Option.map_eq_some_iff.1 hq
  obtain ⟨t', ht', rfl⟩ := Option.map_eq_some_iff.1 hq'
  rw [Ne, fold_name_eq_iff]
  exact (h.named _ hb (by rw [ht']; rfl)).distinct _ ha (by rw [ht]; rfl) hne

/-- The secrets of a sound catalog load. -/
theorem Sound.load (h : Sound d c) (user : Oid) :
    (LoadSecrets d (ListDuckDBCreateSecretQueries c user)).run [] =
      .ok () ((ListDuckDBCreateSecretQueries c user).map (fold ·.name)) := by
  refine LoadSecrets_run (fun query hquery => ?_) (fun query hquery => ?_) (fun _ _ => List.not_mem_nil)
    (h.queries_distinct user)
  · obtain ⟨server, hserver, type, htype, rfl⟩ := mem_ListDuckDBCreateSecretQueries hquery
    exact ⟨_, _, _, _, (h.named server hserver (by rw [htype]; rfl)).plain, rfl⟩
  · obtain ⟨server, hserver, type, htype, rfl⟩ := mem_ListDuckDBCreateSecretQueries hquery
    exact h.query_valid hserver htype

/-- So they load for every user. -/
theorem Sound.loads (h : Sound d c) (user : Oid) : Loads d c user := ⟨_, h.load user⟩

/-! ## Refreshing -/

/-- The secret of the validation. -/
def validationName : List Char := fold ("pgduckdb_secret_".toList ++ "validation".toList)

/-- No secret of the session has the name of the validation when they are not loaded again. -/
def Session.Fits (session : Session) : Prop :=
  session.secrets_valid = true → validationName ∉ session.secrets

/-- No secret of a server has the name of the validation. -/
theorem Sound.validationName_not_mem (h : Sound d c) (user : Oid) :
    validationName ∉ (ListDuckDBCreateSecretQueries c user).map (fold ·.name) := by
  intro hmem
  obtain ⟨query, hquery, hname⟩ := List.mem_map.1 hmem
  obtain ⟨server, hserver, type, htype, rfl⟩ := mem_ListDuckDBCreateSecretQueries hquery
  refine (h.named server hserver (by rw [htype]; rfl)).ne_validation ?_
  dsimp only [MakeDuckDBCreateSecretQuery, validationName] at hname
  rwa [fold_append, fold_append, List.append_cancel_left_eq] at hname

/-- What is done to DuckDB changes the secrets of the session only. -/
theorem onDuckdb_run {α : Type} {p : DuckdbM α} {s : State} {a : α} {out : List (List Char)}
    (h : p.run s.session.secrets = .ok a out) :
    (onDuckdb p).run s = .ok a { s with session := { s.session with secrets := out } } := by
  simp only [onDuckdb, EStateM.run] at h ⊢
  rw [h]

/-- Over a sound catalog a refresh goes through, and leaves secrets of other names than that of the
validation. -/
theorem RefreshConnectionState_run {s : State} (h : Sound d s.catalog) (hfits : s.session.Fits) :
    ∃ secrets, validationName ∉ secrets ∧ (RefreshConnectionState d).run s =
      .ok () { s with session := { s.session with secrets := secrets, secrets_valid := true } } := by
  unfold RefreshConnectionState
  cases hvalid : s.session.secrets_valid with
  | true =>
    have hs : ({ s with session := { s.session with
        secrets := s.session.secrets, secrets_valid := true } } : State) = s := by
      obtain ⟨c, ⟨user, secrets, secrets_valid, type, oid⟩, roles⟩ := s
      cases hvalid
      rfl
    refine ⟨s.session.secrets, hfits hvalid, ?_⟩
    rw [hs, EStateM.run_bind]
    show EStateM.run (if s.session.secrets_valid then _ else _) s = _
    rw [if_pos hvalid]
    rfl
  | false =>
    have hdrop : DropSecrets.run s.session.secrets = .ok () [] := rfl
    refine ⟨_, h.validationName_not_mem s.session.user, ?_⟩
    rw [EStateM.run_bind]
    show EStateM.run (if s.session.secrets_valid then _ else _) s = _
    rw [if_neg (by rw [hvalid]; exact Bool.false_ne_true), EStateM.run_bind, onDuckdb_run hdrop]
    dsimp only
    rw [EStateM.run_bind, onDuckdb_run (h.load s.session.user)]
    rfl

/-! ## The validator -/

/-- The query of the validation. -/
def validationQuery (type : List Char) (server_options mapping_options : List DefElem) : Secret :=
  MakeDuckDBCreateSecretQuery "validation".toList type server_options mapping_options

/-- What DuckDB accepts of a server or a user mapping when its name is free. -/
def Acceptable (d : DuckDB) (type : Option (List Char))
    (server_options mapping_options : List DefElem) : Prop :=
  ∃ t, type = some t ∧ Valid d t server_options mapping_options ∧
    (d.entry (validationQuery t server_options mapping_options)).error server_options = none

/-- DuckDB takes the query of a validation if it is valid and drops its secret again. -/
theorem queryError_eq_none_iff {t : List Char} {so mo : List DefElem} {secrets : List (List Char)}
    (hfree : validationName ∉ secrets) :
    queryError d (validationQuery t so mo) so secrets = none ↔
      Valid d t so mo ∧ (d.entry (validationQuery t so mo)).error so = none := by
  have hplain : IsPlain "validation".toList := by decide
  have hlaw := d.create_ok_iff "validation".toList t so mo secrets
  unfold queryError
  cases hrun : (d.create (validationQuery t so mo)).run secrets with
  | ok u out =>
    have hvalid := ((hlaw out hplain).1 hrun).2.1
    exact ⟨fun h => ⟨hvalid, h⟩, fun h => h.2⟩
  | error e out =>
    refine ⟨fun h => absurd h (Option.some_ne_none _), fun h => ?_⟩
    cases hrun.symm.trans ((hlaw _ hplain).2 ⟨hfree, h.1, rfl⟩)

/-- An error is raised if there is one. -/
theorem raiseError_run_eq_ok {err : Option String} {s s' : State} :
    (raiseError err).run s = .ok () s' ↔ err = none ∧ s' = s := by
  cases err with
  | none =>
    constructor
    · intro h
      cases h
      exact ⟨rfl, rfl⟩
    · rintro ⟨-, rfl⟩
      rfl
  | some err =>
    constructor
    · intro h
      cases h
    · rintro ⟨h, -⟩
      cases h

/-- A refresh, and then the error of the query. -/
theorem ValidateDuckDBSecret_run {s : State} (h : Sound d s.catalog) (hfits : s.session.Fits)
    (t : List Char) (so mo : List DefElem) :
    ∃ secrets, validationName ∉ secrets ∧ (ValidateDuckDBSecret d (some t) so mo).run s =
      (raiseError (queryError d (validationQuery t so mo) so secrets)).run { s with
        session := { s.session with secrets := secrets, secrets_valid := true } } := by
  obtain ⟨secrets, hfree, hrefresh⟩ := RefreshConnectionState_run h hfits
  refine ⟨secrets, hfree, ?_⟩
  unfold ValidateDuckDBSecret GetQueryError
  dsimp only
  rw [EStateM.run_bind, EStateM.run_bind, hrefresh]
  rfl

/-- Over a sound catalog the validator goes by the server or the user mapping alone. -/
theorem accepts_iff {s : State} {type : Option (List Char)} {so mo : List DefElem}
    (h : Sound d s.catalog) (hfits : s.session.Fits) :
    Accepts d s type so mo ↔ Acceptable d type so mo := by
  cases type with
  | none =>
    constructor
    · rintro ⟨s', hrun⟩
      cases hrun
    · rintro ⟨t, ht, -⟩
      cases ht
  | some t =>
    obtain ⟨secrets, hfree, hrun⟩ := ValidateDuckDBSecret_run h hfits t so mo
    have hiff : queryError d (validationQuery t so mo) so secrets = none ↔ _ :=
      queryError_eq_none_iff hfree
    unfold Accepts
    rw [hrun]
    constructor
    · rintro ⟨s', hs'⟩
      obtain ⟨hvalid, hentry⟩ := hiff.1 (raiseError_run_eq_ok.1 hs').1
      exact ⟨t, rfl, hvalid, hentry⟩
    · rintro ⟨t', ht', hvalid, hentry⟩
      cases ht'
      exact ⟨_, raiseError_run_eq_ok.2 ⟨hiff.2 ⟨hvalid, hentry⟩, rfl⟩⟩

/-- What the validator keeps of a state. -/
def Kept (s s' : State) : Prop := s'.catalog = s.catalog ∧ s'.session.Fits

/-- A validation leaves the secrets as they were, and what it accepts is acceptable. -/
theorem ValidateDuckDBSecret_ensures {s : State} {type : Option (List Char)} {so mo : List DefElem}
    (h : Sound d s.catalog) (hfits : s.session.Fits) :
    Ensures (ValidateDuckDBSecret d type so mo) s
      (fun _ s' => Kept s s' ∧ Acceptable d type so mo) (Kept s) := by
  cases type with
  | none => exact ⟨rfl, hfits⟩
  | some t =>
    have hiff : Accepts d s (some t) so mo ↔ Acceptable d (some t) so mo := accepts_iff h hfits
    obtain ⟨secrets, hfree, hrun⟩ := ValidateDuckDBSecret_run h hfits t so mo
    have hkept : Kept s { s with
        session := { s.session with secrets := secrets, secrets_valid := true } } :=
      ⟨rfl, fun _ => hfree⟩
    rw [Ensures]
    unfold Accepts at hiff
    rw [hrun] at hiff ⊢
    cases herr : queryError d (validationQuery t so mo) so secrets with
    | none => exact ⟨hkept, hiff.1 ⟨_, raiseError_run_eq_ok.2 ⟨herr, rfl⟩⟩⟩
    | some err => exact hkept

/-- A catalog without servers is sound. -/
theorem Sound.empty : Sound d ⟨[], []⟩ where
  oids := List.nodup_nil
  mapped _ hum := absurd hum List.not_mem_nil
  named _ hserver := absurd hserver List.not_mem_nil
  valid _ hserver := absurd hserver List.not_mem_nil
  validMapped _ hserver := absurd hserver List.not_mem_nil

/-- A session that starts has nothing loaded. -/
theorem Session.fits_start (user : Oid) : (Session.start user).Fits :=
  fun hvalid => absurd hvalid Bool.false_ne_true

/-- Over a sound catalog no server blocks the validation of another. -/
theorem Sound.notBlocked {s : State} (h : Sound d s.catalog) (hfits : s.session.Fits) :
    NotBlocked d s := by
  intro type so mo halone
  have hacceptable : Acceptable d type so mo :=
    (accepts_iff (s := ⟨⟨[], []⟩, _, _⟩) .empty (Session.fits_start _)).1 halone
  exact (accepts_iff h hfits).2 hacceptable

/-! ## MotherDuck -/

/-- An error changes nothing. -/
theorem keeps_elog {I : State → Prop} (errmsg : String) : Keeps (elog errmsg : SecretM Unit) I :=
  Keeps.throw _

/-- The options of MotherDuck are read only. -/
theorem keeps_ValidateMdOptions {I : State → Prop} (options_list : List DefElem) (context : Catalog) :
    Keeps (ValidateMdOptions options_list context) I := by
  refine Keeps.bind (Keeps.forM fun def_ _ => ?_) fun _ => Keeps.forM fun opt _ => ?_
  · split
    · exact Keeps.pure _
    · exact keeps_elog _
  · split
    · exact Keeps.pure _
    · split
      · exact Keeps.pure _
      · exact keeps_elog _

/-- So are those of its server. -/
theorem keeps_ValidateMotherduckServerFdw {I : State → Prop} (options_list : List DefElem)
    (context : Catalog) : Keeps (ValidateMotherduckServerFdw options_list context) I := by
  refine Keeps.bind (fun s hs => ?_) fun _ => Keeps.bind (keeps_ValidateMdOptions _ _) fun _ s hs => ?_
  · refine Ensures.seq (Ensures.get (Q := fun _ s' => I s') hs) fun s' _ h => ?_
    split
    · exact keeps_elog _ _ h
    · exact Keeps.pure _ _ h
  · refine Ensures.seq (Ensures.get (Q := fun _ s' => I s') hs) fun s' _ h => ?_
    split
    · split
      · exact Keeps.pure _ _ h
      · exact keeps_elog _ _ h
    · exact Keeps.pure _ _ h

/-! ## The validator of the wrapper -/

/-- A server that is accepted is valid, unless it is MotherDuck's. -/
theorem validator_server_ensures {s : State} {options : List DefElem} (h : Sound d s.catalog)
    (hfits : s.session.Fits) :
    Ensures (pgduckdb_fdw_validator d options .server) s
      (fun _ s' => Kept s s' ∧ (s.session.CurrentServerType ≠ some "motherduck".toList →
        Acceptable d s.session.CurrentServerType options [])) (Kept s) := by
  refine Ensures.bind (Ensures.get (Ensures.bind (Ensures.modify ?_)))
  split
  · next hmd =>
    have hkept : Ensures _ _ (fun _ => Kept s) (Kept s) :=
      keeps_ValidateMotherduckServerFdw options .server (s.setServerType none) ⟨rfl, hfits⟩
    exact hkept.mono (fun _ s' hs' => ⟨hs', fun hne => absurd hmd hne⟩) fun _ hs' => hs'
  · have hvalidate : Ensures (ValidateDuckDBSecret d s.session.CurrentServerType options [])
        (s.setServerType none) _ _ := ValidateDuckDBSecret_ensures h hfits
    exact hvalidate.mono (fun _ s' hs' => ⟨hs'.1, fun _ => hs'.2⟩) fun _ hs' => hs'

/-- A user mapping that is accepted is valid with the options of its server. -/
theorem validator_userMapping_ensures {s : State} {options : List DefElem} (h : Sound d s.catalog)
    (hfits : s.session.Fits) :
    Ensures (pgduckdb_fdw_validator d options .userMapping) s
      (fun _ s' => Kept s s' ∧ ∃ server,
        s.session.CurrentServerOid.bind (GetForeignServer s.catalog) = some server ∧
        (server.servertype ≠ some "motherduck".toList →
          Acceptable d server.servertype server.options options)) (Kept s) := by
  refine Ensures.bind (Ensures.get ?_)
  dsimp only
  cases hserver : s.session.CurrentServerOid.bind (GetForeignServer s.catalog) with
  | none => exact ⟨rfl, hfits⟩
  | some server =>
    refine Ensures.bind (Ensures.modify ?_)
    split
    · next hmd =>
      have hkept : Ensures _ _ (fun _ => Kept s) (Kept s) :=
        keeps_ValidateMdOptions options .userMapping (s.setServerOid none) ⟨rfl, hfits⟩
      exact hkept.mono (fun _ s' hs' => ⟨hs', server, rfl, fun hne => absurd hmd hne⟩)
        fun _ hs' => hs'
    · have hvalidate : Ensures (ValidateDuckDBSecret d server.servertype server.options options)
          (s.setServerOid none) _ _ := ValidateDuckDBSecret_ensures h hfits
      exact hvalidate.mono (fun _ s' hs' => ⟨hs'.1, server, rfl, fun _ => hs'.2⟩) fun _ hs' => hs'

end

end PgDuckdb.Cache.Validation
