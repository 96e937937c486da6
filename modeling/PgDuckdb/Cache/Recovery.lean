import PgDuckdb.Cache.Metadata

/-!
# Errors in a fill

`initializing` keeps the queries of a fill from filling the metadata cache again. An error in a fill
leaves by `longjmp`, so the flag stays set, and no call fills the cache in that backend again
(`not_recovers`). `recovers_iff` says that errors in a fill are all that goes wrong: otherwise the flag is
set only during a fill, a call outside fills the cache and returns whether the extension was found, and
the functions of the cache are those that this fill has found.
-/

namespace PgDuckdb.Cache.Metadata

open Lib (AllowedRun)

/-- What the accesses of a fill find without an error. -/
def Syscache.Readable (c : Syscache) : Prop := c.namespaces "duckdb" ≠ InvalidOid

/-- Left alone, the calls on top of `rest` come to their end and leave the metadata cache valid, whatever
they find. -/
inductive Completes (hash : UInt32) (rest : List Frame) : State → Prop
  | done {s : State} (hstack : s.stack = rest) (hvalid : s.cache.valid = true) : Completes hash rest s
  | next {s : State} (hsome : ∀ c : Syscache, c.Readable → (step hash s (.next c)).isSome = true)
    (hnext : ∀ (c : Syscache) (s' : State), c.Readable → step hash s (.next c) = some s' →
      Completes hash rest s') : Completes hash rest s

/-- `initializing` is set only during a fill of the metadata cache. -/
def State.Guarded (s : State) : Prop := s.cache.initializing = true → 0 < s.fills

/-- A fill that ends returns whether it has found the extension, and the functions of the cache are those
that it has found. -/
def Rebuilt (s : State) (r : State × Option Bool) : Prop :=
  ∀ fill rest, s.stack = .metadata .finish fill :: rest →
    r.1.cache.valid = true ∧ r.2 = some (decide (fill.extension ≠ InvalidOid)) ∧
      r.1.cache.duckdb_only_functions = fill.functions

/-- A call in a transaction with a snapshot, outside of a fill, returns what is cached, or fills the
cache. -/
def Answers (hash : UInt32) (s : State) (r : State × Option Bool) : Prop :=
  s.fills = 0 →
    if s.cache.valid then r.2 = some s.cache.installed else Completes hash s.stack r.1

/-- What is expected of a step. -/
def Recovers (hash : UInt32) (s : State) (a : Action) : Prop :=
  ∀ r, run hash s a = some r → r.1.Guarded ∧
    match a with
    | .call .valid _ => Answers hash s r
    | .next _ => Rebuilt s r
    | _ => True

/-- There is no error while the metadata cache is being filled. -/
def NoErrorInFill (s : State) : Action → Prop
  | .error => s.fills = 0
  | .call .. | .initUser | .next _ | .invalidate _ | .invalidateUser => True

/-! ## A fill comes to its end -/

section
variable {hash : UInt32} {s s' : State} {c : Syscache} {fill : Fill} {rest tail : List Frame}

/-- A step of a fill of the metadata cache. -/
theorem step_next_metadata {stage : Stage} (hstack : s.stack = .metadata stage fill :: rest) :
    step hash s (.next c) = (nextMetadata hash s c fill rest stage).map (·.1) := by
  unfold step run
  rw [hstack]

/-- A step of a fill of the user data. -/
theorem step_next_user {stage : UserStage} {began : Nat} (hstack : s.stack = .user stage began :: rest) :
    step hash s (.next c) = some (nextUser s c began rest stage) := by
  unfold step run
  rw [hstack]
  rfl

/-- A step of the worker that was asked for. -/
theorem step_next_worker (hstack : s.stack = .worker :: rest) :
    step hash s (.next c) = some { s with stack := rest } := by
  unfold step run
  rw [hstack]
  rfl

/-- One more step. -/
theorem Completes.of_step (h : ∀ c : Syscache, c.Readable →
    ∃ s', step hash s (.next c) = some s' ∧ Completes hash rest s') : Completes hash rest s := by
  refine .next (fun c hc => ?_) fun c s' hc hstep => ?_
  · obtain ⟨s₁, hstep, -⟩ := h c hc
    rw [hstep]
    rfl
  · obtain ⟨s₁, hstep₁, hs₁⟩ := h c hc
    rw [hstep] at hstep₁
    cases hstep₁
    exact hs₁

/-- A fill that comes to its end from some stage on. -/
def Ends (hash : UInt32) (rest : List Frame) (stage : Stage) : Prop :=
  ∀ s fill, s.stack = .metadata stage fill :: rest → Completes hash rest s

/-- The next access of a fill, and a stage from which it comes to its end. -/
theorem Ends.of_next {stage : Stage} (h : ∀ s fill (c : Syscache), c.Readable → ∃ s' ret stage' fill',
    nextMetadata hash s c fill rest stage = some (s', ret) ∧
      s'.stack = .metadata stage' fill' :: rest ∧ Ends hash rest stage') : Ends hash rest stage := by
  refine fun s fill hstack => .of_step fun c hc => ?_
  obtain ⟨s', ret, stage', fill', hnext, hstack', hends⟩ := h s fill c hc
  refine ⟨s', ?_, hends s' fill' hstack'⟩
  rw [step_next_metadata hstack, hnext]
  rfl

/-- A fill ends from its last stage. -/
theorem ends_finish : Ends hash rest .finish := fun _ _ hstack => .of_step fun _ _ =>
  ⟨_, step_next_metadata hstack, .done rfl rfl⟩

/-- A fill ends from the reset of the version. -/
theorem ends_reset : Ends hash rest .reset :=
  .of_next fun _ fill _ _ => ⟨_, _, .finish, fill, rfl, rfl, ends_finish⟩

/-- A fill ends from the search of the role. -/
theorem ends_role : Ends hash rest .role :=
  .of_next fun _ fill _ _ => ⟨_, _, .finish, fill, rfl, rfl, ends_finish⟩

/-- A fill ends from the fields that are left. -/
theorem ends_fields (fields : List Field) : Ends hash rest (.fields fields) := by
  induction fields with
  | nil => exact .of_next fun _ fill _ _ => ⟨_, _, .role, fill, rfl, rfl, ends_role⟩
  | cons field fields ih =>
    refine .of_next fun _ fill _ hc => ⟨_, _, .fields fields, fill, if_neg ?_, rfl, ih⟩
    rintro ⟨rfl, hread⟩
    exact hc hread

/-- A fill ends from the members that are left of a function's list. -/
theorem ends_members {names : List String} (h : Ends hash rest (.functions names)) (oids : List Oid) :
    Ends hash rest (.members oids names) := by
  induction oids with
  | nil => exact .of_next fun _ fill _ _ => ⟨_, _, .functions names, fill, rfl, rfl, h⟩
  | cons oid oids ih =>
    refine .of_next fun s fill c _ => ?_
    by_cases hmember : c.extensionOfProc oid ≠ s.cache.extension_oid
    · exact ⟨_, _, .members oids names, fill, if_pos hmember, rfl, ih⟩
    · exact ⟨_, _, .members oids names, _, if_neg hmember, rfl, ih⟩

/-- A fill ends from the functions that are left. -/
theorem ends_functions (names : List String) : Ends hash rest (.functions names) := by
  induction names with
  | nil =>
    exact .of_next fun _ fill _ _ => ⟨_, _, .fields Field.all, fill, rfl, rfl, ends_fields _⟩
  | cons name names ih =>
    exact .of_next fun _ fill c _ =>
      ⟨_, _, .members (c.procs name) names, fill, rfl, rfl, ends_members ih _⟩

/-- A fill of the user data cache comes to its end and goes on with what is below. -/
theorem completes_user (htail : ∀ s, s.stack = tail → Completes hash rest s) (stage : UserStage) :
    ∀ s began, s.stack = .user stage began :: tail → Completes hash rest s := by
  have hworker : ∀ s, s.stack = .worker :: tail → Completes hash rest s := fun s hstack =>
    .of_step fun c _ => ⟨_, step_next_worker hstack, htail _ rfl⟩
  have hfinish : ∀ s began, s.stack = .user .finish began :: tail → Completes hash rest s :=
    fun s began hstack => .of_step fun c _ => ⟨_, step_next_user hstack, hworker _ rfl⟩
  have hmapping : ∀ s began, s.stack = .user .mapping began :: tail → Completes hash rest s :=
    fun s began hstack => .of_step fun c _ => ⟨_, step_next_user hstack, hfinish _ began rfl⟩
  have hrole : ∀ s began, s.stack = .user .role began :: tail → Completes hash rest s :=
    fun s began hstack => .of_step fun c _ => ⟨_, step_next_user hstack, hmapping _ began rfl⟩
  have hserver : ∀ s began, s.stack = .user .server began :: tail → Completes hash rest s :=
    fun s began hstack => .of_step fun c _ => ⟨_, step_next_user hstack, hrole _ began rfl⟩
  cases stage with
  | query =>
    refine fun s began hstack => .of_step fun c _ => ⟨_, step_next_user hstack, ?_⟩
    by_cases hserver_oid : c.motherduckServer = InvalidOid
    · exact hfinish _ began (by simp [nextUser, hserver_oid])
    · exact hserver _ began (by simp [nextUser, hserver_oid])
  | server => exact hserver
  | role => exact hrole
  | mapping => exact hmapping
  | finish => exact hfinish

/-- A fill ends from the user data. -/
theorem ends_userData : Ends hash rest .userData := by
  refine fun s fill hstack => .of_step fun c _ => ⟨_, step_next_metadata hstack, ?_⟩
  dsimp only [Metadata.nextMetadata, Option.map_some]
  unfold InitUserDataCache
  split
  · exact ends_functions function_names _ fill rfl
  · exact completes_user (fun s' hs' => ends_functions function_names s' fill hs') .query _ _ rfl

/-- A fill ends from the search of the extension. -/
theorem ends_extension : Ends hash rest .extension := by
  refine .of_next fun s fill c _ => ?_
  by_cases hinstalled : c.extension "pg_duckdb" ≠ InvalidOid
  · exact ⟨_, _, .userData, _, rfl, by rw [if_pos (by simpa using hinstalled)], ends_userData⟩
  · exact ⟨_, _, .reset, _, rfl, by rw [if_neg (by simpa using hinstalled)], ends_reset⟩

/-- A fill ends from its first stage. -/
theorem ends_hashValue : Ends hash rest .hashValue :=
  .of_next fun _ fill _ _ => ⟨_, _, .extension, fill, rfl, rfl, ends_extension⟩

/-! ## The invariant -/

/-- What a fill has read by a stage. -/
def Stage.Fits (cache : MetadataCache) (fill : Fill) : Stage → Prop
  | .hashValue | .extension => fill.functions = []
  | .userData | .functions _ | .members _ _ | .fields _ | .role =>
    cache.installed = true ∧ fill.extension ≠ InvalidOid
  | .reset => cache.installed = false ∧ fill.extension = InvalidOid ∧ fill.functions = []
  | .finish => cache.installed = decide (fill.extension ≠ InvalidOid) ∧
      (cache.installed = false → fill.functions = [])

/-- The functions of the cache are those that the fill in progress has found, and there are none if the
cache is not valid and no fill in progress. -/
structure Clean (s : State) : Prop where
  shape : Shape s
  guarded : s.Guarded
  frames : ∀ stage fill, Frame.metadata stage fill ∈ s.stack →
    s.cache.duckdb_only_functions = fill.functions ∧ stage.Fits s.cache fill
  empty : s.cache.valid = false → s.fills = 0 → s.cache.duckdb_only_functions = []
  notInstalled : s.cache.valid = true → s.cache.installed = false →
    s.cache.duckdb_only_functions = []

/-- A backend starts clean. -/
theorem Clean.init : Clean .init := ⟨.init, nofun, nofun, fun _ _ => rfl, fun _ _ => rfl⟩

/-- A step that does not touch the metadata cache or its fills. -/
theorem Clean.of_eq (h : Clean s) (hcache : s'.cache = s.cache) (hfills : s'.fills = s.fills)
    (hframes : ∀ stage fill, Frame.metadata stage fill ∈ s'.stack → .metadata stage fill ∈ s.stack) :
    Clean s' where
  shape := h.shape.of_eq hfills (by rw [hcache]) (by rw [hcache])
  guarded := by
    unfold State.Guarded
    rw [hcache, hfills]
    exact h.guarded
  frames := fun stage fill hmem => hcache ▸ h.frames stage fill (hframes stage fill hmem)
  empty := by
    rw [hcache, hfills]
    exact h.empty
  notInstalled := by
    rw [hcache]
    exact h.notInstalled

/-- The initialization of the user data keeps a state clean. -/
theorem Clean.initUser (h : Clean s) : Clean (InitUserDataCache s) := by
  refine h.of_eq (cache_initUser s) (fills_initUser s) fun stage fill hmem => ?_
  unfold InitUserDataCache at hmem
  split at hmem
  · exact hmem
  · cases hmem with
    | tail _ hmem => exact hmem

/-- There is no fill below one. -/
theorem Shape.rest_free {stage : Stage} (h : Shape s) (hstack : s.stack = .metadata stage fill :: rest)
    (stage' : Stage) (fill' : Fill) : Frame.metadata stage' fill' ∉ rest := by
  intro hmem
  have hsingle := h.single
  rw [fills_of_stack hstack] at hsingle
  have hpos := List.countP_pos_iff.2 ⟨_, hmem, (rfl : Frame.isMetadata (.metadata stage' fill') = true)⟩
  omega

/-- A call keeps a state clean. -/
theorem Clean.call (h : Clean s) (xact : XactState) (c : Syscache) :
    Clean (IsExtensionRegistered s xact c).1 := by
  have hshape := h.shape.call xact c
  obtain hsame | ⟨hvalid, hinitializing, hbegun⟩ := IsExtensionRegistered_cases s xact c
  · rw [hsame]
    exact h
  · rw [hbegun] at hshape ⊢
    have hnone : s.fills = 0 := by
      by_contra hpos
      exact absurd (h.shape.busy (Nat.pos_of_ne_zero hpos)) (by simp [hinitializing])
    have hpos : 0 < State.fills { s with
        cache := { s.cache with initializing := true }
        callback_is_configured := true
        stack := .metadata (if s.callback_is_configured then .extension else .hashValue)
          ⟨s.arrived, InvalidOid, []⟩ :: s.stack } := by
      rw [fills_of_stack rfl]
      exact Nat.succ_pos _
    refine ⟨hshape, fun _ => hpos, ?_, fun _ hfills => absurd hfills hpos.ne', h.notInstalled⟩
    intro stage fill hmem
    cases hmem with
    | head =>
      refine ⟨h.empty hvalid hnone, ?_⟩
      cases s.callback_is_configured with
      | false => rfl
      | true => rfl
    | tail _ hmem => exact absurd rfl (List.countP_eq_zero.1 hnone _ hmem)

/-- A fill that goes on. -/
theorem Clean.proceed {stage stage' : Stage} {fill' : Fill} (h : Clean s)
    (hstack : s.stack = .metadata stage fill :: rest)
    (hstack' : s'.stack = .metadata stage' fill' :: rest)
    (hinitializing : s'.cache.initializing = s.cache.initializing)
    (hvalid : s'.cache.valid = s.cache.valid)
    (hfunctions : s'.cache.duckdb_only_functions = fill'.functions)
    (hfits : stage'.Fits s'.cache fill') : Clean s' := by
  have hshape := h.shape.proceed hstack hstack' hinitializing hvalid
  have hpos : 0 < s'.fills := by
    rw [fills_of_stack hstack']
    exact Nat.succ_pos _
  have hinvalid : s'.cache.valid = false := hshape.stale (hshape.busy hpos)
  refine ⟨hshape, fun _ => hpos, ?_, fun _ hfills => absurd hfills hpos.ne', fun hvalid' => ?_⟩
  · intro stage₁ fill₁ hmem
    rw [hstack'] at hmem
    cases hmem with
    | head => exact ⟨hfunctions, hfits⟩
    | tail _ hmem => exact absurd hmem (h.shape.rest_free hstack stage₁ fill₁)
  · rw [hinvalid] at hvalid'
    cases hvalid'

/-- A step of a fill of the metadata keeps a state clean. -/
theorem Clean.nextMetadata {stage : Stage} {ret : Option Bool} (h : Clean s)
    (hstack : s.stack = .metadata stage fill :: rest)
    (hnext : nextMetadata hash s c fill rest stage = some (s', ret)) : Clean s' := by
  obtain ⟨hfunctions, hfits⟩ := h.frames stage fill (hstack ▸ List.mem_cons_self ..)
  cases stage with
  | hashValue =>
    cases hnext
    exact h.proceed hstack rfl rfl rfl hfunctions hfits
  | extension =>
    cases hnext
    refine h.proceed hstack rfl rfl rfl hfunctions ?_
    dsimp only
    by_cases hinstalled : c.extension "pg_duckdb" = InvalidOid
    · rw [if_neg (by simp [hinstalled])]
      exact ⟨by simp [hinstalled], hinstalled, hfits⟩
    · rw [if_pos (by simp [hinstalled])]
      exact ⟨by simp [hinstalled], hinstalled⟩
  | userData =>
    cases hnext
    refine Clean.initUser ?_
    exact h.proceed hstack rfl rfl rfl hfunctions hfits
  | functions names =>
    cases names with
    | nil | cons name names =>
      cases hnext
      exact h.proceed hstack rfl rfl rfl hfunctions hfits
  | members oids names =>
    cases oids with
    | nil =>
      cases hnext
      exact h.proceed hstack rfl rfl rfl hfunctions hfits
    | cons oid oids =>
      rw [nextMetadata_member] at hnext
      split at hnext
      · cases hnext
        exact h.proceed hstack rfl rfl rfl hfunctions hfits
      · cases hnext
        exact h.proceed hstack rfl rfl rfl (congrArg (· ++ [oid]) hfunctions) hfits
  | fields fields =>
    cases fields with
    | nil =>
      cases hnext
      exact h.proceed hstack rfl rfl rfl hfunctions hfits
    | cons field fields =>
      rw [nextMetadata_field hnext]
      exact h.proceed hstack rfl rfl rfl hfunctions hfits
  | role =>
    cases hnext
    refine h.proceed hstack rfl rfl rfl hfunctions ⟨?_, fun hinstalled => ?_⟩
    · simpa [hfits.1] using hfits.2
    · exact absurd (hfits.1.symm.trans hinstalled) (by decide)
  | reset =>
    cases hnext
    refine h.proceed hstack rfl rfl rfl hfunctions ⟨?_, fun _ => hfits.2.2⟩
    simp [hfits.1, hfits.2.1]
  | finish =>
    have hshape := h.shape.nextMetadata hstack hnext
    cases hnext
    refine ⟨hshape, nofun, fun stage' fill' hmem => ?_, nofun, fun _ hinstalled => ?_⟩
    · exact absurd hmem (h.shape.rest_free hstack stage' fill')
    · exact hfunctions.trans (hfits.2 hinstalled)

/-- A step of a fill of the user data keeps a state clean. -/
theorem Clean.nextUser {stage : UserStage} {began : Nat} (h : Clean s)
    (hstack : s.stack = .user stage began :: rest) : Clean (nextUser s c began rest stage) := by
  refine h.of_eq (cache_nextUser stage) (fills_nextUser hstack) fun stage' fill' hmem => ?_
  rw [hstack]
  cases stage <;>
  · cases hmem with
    | tail _ hmem => exact List.mem_cons_of_mem _ hmem

/-- An invalidation keeps a state clean. -/
theorem Clean.invalidate (h : Clean s) (hash_value : UInt32) :
    Clean (InvalidateCaches s hash_value) := by
  have hshape := h.shape.invalidate hash_value
  unfold InvalidateCaches at hshape ⊢
  split at hshape
  · rename_i hvalue
    rw [if_pos hvalue]
    exact h
  · rename_i hvalue
    rw [if_neg hvalue]
    split at hshape
    · rename_i hvalid
      rw [if_pos hvalid]
      exact h
    · rename_i hvalid
      rw [if_neg hvalid]
      have hnone : s.fills = 0 := by
        by_contra hpos
        exact hvalid (h.shape.stale (h.shape.busy (Nat.pos_of_ne_zero hpos)))
      have hframes : ∀ stage fill, Frame.metadata stage fill ∉ s.stack := fun stage fill hmem =>
        absurd rfl (List.countP_eq_zero.1 hnone _ hmem)
      dsimp only at hshape ⊢
      split at hshape
      · rename_i hinstalled
        rw [if_pos hinstalled]
        exact ⟨hshape, nofun, fun stage fill hmem => absurd hmem (hframes stage fill),
          fun _ _ => rfl, nofun⟩
      · rename_i hinstalled
        rw [if_neg hinstalled]
        have hempty : s.cache.duckdb_only_functions = [] :=
          h.notInstalled (by simpa using hvalid) (Bool.eq_false_iff.2 hinstalled)
        exact ⟨hshape, nofun, fun stage fill hmem => absurd hmem (hframes stage fill),
          fun _ _ => hempty, nofun⟩

/-- A callback for a row keeps a state clean. -/
theorem Clean.callback (h : Clean s) (hash_value : UInt32) : Clean (s.callback hash_value) := by
  unfold State.callback
  split
  · exact h.invalidate hash_value
  · exact h

/-- A callback for the user data keeps a state clean. -/
theorem Clean.userCallback (h : Clean s) : Clean s.userCallback := by
  refine h.of_eq (cache_userCallback s) (fills_userCallback s) fun stage fill hmem => ?_
  rw [← stack_userCallback s]
  exact hmem

/-- Every step without an error in a fill keeps the cache clean. -/
theorem Clean.step {a : Action} (h : Clean s) (hallowed : NoErrorInFill s a)
    (hstep : step hash s a = some s') : Clean s' := by
  cases moves_of_step hstep with
  | call xact c => exact h.call xact c
  | initUser => exact h.initUser
  | nextMetadata hstack hnext => exact h.nextMetadata hstack hnext
  | nextUser hstack => exact h.nextUser hstack
  | nextWorker hstack =>
    exact h.of_eq rfl (fills_nextWorker hstack) fun stage fill hmem =>
      hstack ▸ List.mem_cons_of_mem _ hmem
  | invalidate hash_value =>
    have harrived : Clean { s with
        arrived := s.arrived + if Relevant hash hash_value then 1 else 0 } :=
      h.of_eq rfl rfl fun _ _ hmem => hmem
    exact harrived.callback hash_value
  | invalidateUser =>
    have harrived : Clean { s with user_arrived := s.user_arrived + 1 } :=
      h.of_eq rfl rfl fun _ _ hmem => hmem
    exact harrived.userCallback
  | error =>
    refine ⟨⟨Nat.zero_le 1, nofun, h.shape.stale⟩, fun hbusy => ?_, nofun,
      fun hvalid _ => h.empty hvalid hallowed, h.notInstalled⟩
    exact absurd hallowed (h.guarded hbusy).ne'

/-! ## Recovery -/

/-- From a clean state a call answers with what the caches hold. -/
theorem Clean.answers (h : Clean s) (c : Syscache) :
    Answers hash s (IsExtensionRegistered s .valid c) := by
  intro hnone
  unfold IsExtensionRegistered
  split
  · rfl
  · have hinitializing : ¬s.cache.initializing = true := fun hbusy =>
      absurd hnone (h.guarded hbusy).ne'
    rw [if_neg hinitializing]
    cases hconfigured : s.callback_is_configured with
    | false => exact ends_hashValue _ _ rfl
    | true => exact ends_extension _ _ rfl

/-- From a clean state a fill that ends has built both caches. -/
theorem Clean.rebuilt {r : State × Option Bool} (h : Clean s) (hrun : run hash s (.next c) = some r) :
    Rebuilt s r := by
  intro fill rest hstack
  obtain ⟨hfunctions, hfits⟩ := h.frames .finish fill (hstack ▸ List.mem_cons_self ..)
  unfold run at hrun
  rw [hstack] at hrun
  cases hrun
  exact ⟨rfl, congrArg some hfits.1, hfunctions⟩

/-- From a clean state every action but an error in a fill keeps the answers right. -/
theorem Clean.recovers {a : Action} (h : Clean s) (hallowed : NoErrorInFill s a) :
    Recovers hash s a := by
  intro r hrun
  have hstep : Metadata.step hash s a = some r.1 := by
    unfold Metadata.step
    rw [hrun]
    rfl
  refine ⟨(h.step hallowed hstep).guarded, ?_⟩
  cases a with
  | call xact c =>
    cases xact with
    | aborted | none | noSnapshot => trivial
    | valid =>
      rw [run] at hrun
      split at hrun
      · rw [← Option.some.inj hrun]
        exact h.answers c
      · cases hrun
  | next c => exact h.rebuilt hrun
  | initUser | invalidate hash_value | invalidateUser | error => trivial

/-- After an error in a fill the flag is set, and there is no fill. -/
theorem noErrorInFill_of_recovers {a : Action} (h : Shape s) (hrecovers : Recovers hash s a) :
    NoErrorInFill s a := by
  cases a with
  | call xact c | initUser | next c | invalidate hash_value | invalidateUser => trivial
  | error =>
    by_contra hpos
    have hguarded := (hrecovers _ rfl).1 (h.busy (Nat.pos_of_ne_zero hpos))
    exact absurd hguarded (Nat.lt_irrefl 0)

/-! ## After an error -/

/-- The flag is set, with no fill that could clear it. -/
structure Stuck (s : State) : Prop where
  initializing : s.cache.initializing = true
  valid : s.cache.valid = false
  fills : s.fills = 0

/-- An error in a fill leaves the state stuck. -/
theorem stuck_of_error (h : Shape s) (hfills : 0 < s.fills) : Stuck { s with stack := [] } :=
  ⟨h.busy hfills, h.stale (h.busy hfills), rfl⟩

/-- A stuck state answers every call with false. -/
theorem Stuck.call (h : Stuck s) (xact : XactState) (c : Syscache) :
    IsExtensionRegistered s xact c = (s, some false) := by
  unfold IsExtensionRegistered
  rw [if_neg (by simp [h.valid]), if_pos h.initializing]

/-- Only the cache and the fills decide that a state is stuck. -/
theorem Stuck.of_eq (h : Stuck s) (hcache : s'.cache = s.cache) (hfills : s'.fills = s.fills) :
    Stuck s' :=
  ⟨by rw [hcache, h.initializing], by rw [hcache, h.valid], hfills.trans h.fills⟩

/-- Nothing that may happen changes it. -/
theorem Stuck.step {a : Action} (h : Stuck s) (hstep : step hash s a = some s') : Stuck s' := by
  cases moves_of_step hstep with
  | call xact c =>
    rw [h.call xact c]
    exact h
  | initUser => exact h.of_eq (cache_initUser s) (fills_initUser s)
  | nextMetadata hstack hnext =>
    have hfills := h.fills
    rw [fills_of_stack hstack] at hfills
    cases hfills
  | nextUser hstack => exact h.of_eq (cache_nextUser _) (fills_nextUser hstack)
  | nextWorker hstack => exact h.of_eq rfl (fills_nextWorker hstack)
  | invalidate hash_value =>
    rw [callback_eq_self]
    · exact h.of_eq rfl rfl
    · exact fun hvalid => absurd (h.valid.symm.trans hvalid) (by decide)
  | invalidateUser => exact h.of_eq (cache_userCallback _) (fills_userCallback _)
  | error => exact ⟨h.initializing, h.valid, rfl⟩

/-- After an error in a fill every call returns false, to the end of the backend. -/
theorem disabled_of_error (h : Shape s) (hfills : 0 < s.fills) (actions : List Action)
    (hrun : actions.foldlM (Metadata.step hash) { s with stack := [] } = some s') (xact : XactState)
    (c : Syscache) : IsExtensionRegistered s' xact c = (s', some false) := by
  have hstuck : Stuck s' := (AllowedRun.of_true _ actions).invariant (stuck_of_error h hfills)
    (fun _ _ _ hs _ hstep => hs.step hstep) hrun
  exact hstuck.call xact c

end

/-- In a run every step does what is expected of it if and only if there is no error while the metadata
cache is being filled. -/
theorem recovers_iff (hash : UInt32) (actions : List Action) :
    AllowedRun (step hash) (Recovers hash) .init actions ↔
      AllowedRun (step hash) NoErrorInFill .init actions := by
  constructor
  · intro h
    exact h.imp Shape.init (fun _ _ _ hshape _ hstep => hshape.step hstep) fun _ _ hshape hrecovers =>
      noErrorInFill_of_recovers hshape hrecovers
  · intro h
    exact h.imp Clean.init (fun _ _ _ hclean hallowed hstep => hclean.step hallowed hstep)
      fun _ _ hclean hallowed => hclean.recovers hallowed

/-- An error at the first access of the first fill. -/
theorem not_recovers :
    ¬AllowedRun (step 1) (Recovers 1) .init [.call .valid plain, .error] := by
  rintro ⟨-, h⟩
  have hguarded := ((h _ rfl).1 _ rfl).1
  exact absurd (hguarded rfl) (Nat.lt_irrefl 0)

end PgDuckdb.Cache.Metadata
