import PgDuckdb.Cache.Metadata

/-!
# Invalidations of the caches

An invalidation that arrives while a cache is being filled finds it not valid, so the callback does
nothing, and the fill ends with what it had read before (`not_current`). One for the whole of
`pg_namespace` has another hash value than the schema's and does nothing either. In every run without
these, a cache that is valid is one that no invalidation has arrived for since it began to be filled
(`current_of_run`).
-/

namespace PgDuckdb.Cache.Metadata

open Lib (AllowedRun)

/-- No invalidation has arrived for a cache that is valid, since the fill that made it began. -/
structure State.Current (s : State) : Prop where
  cache : s.cache.valid = true → s.filled_at = s.arrived
  user : s.user.valid = true → s.user_filled_at = s.user_arrived

/-- No relevant invalidation arrives while a cache is filled, and none for all schemas when the metadata
cache is valid. -/
def Undisturbed (hash : UInt32) (s : State) : Action → Prop
  | .invalidate hash_value => Relevant hash hash_value →
      s.fills = 0 ∧ (s.cache.valid = true → hash_value = hash)
  | .invalidateUser => s.fillingUser = false
  | .call .. | .initUser | .next _ | .error => True

/-- Whether an action is allowed is decided by the state. -/
instance (hash : UInt32) (s : State) : (a : Action) → Decidable (Undisturbed hash s a)
  | .invalidate hash_value => inferInstanceAs (Decidable (Relevant hash hash_value →
      s.fills = 0 ∧ (s.cache.valid = true → hash_value = hash)))
  | .invalidateUser => inferInstanceAs (Decidable (s.fillingUser = false))
  | .call .. | .initUser | .next _ | .error => inferInstanceAs (Decidable True)

/-! ## The invariant -/

/-- The callback is registered, with the hash value of the schema. -/
def State.Listens (hash : UInt32) (s : State) : Prop :=
  s.registered = true ∧ s.schema_hash_value = hash

/-- No invalidation has arrived since the call began, and the next would be noticed. -/
def Frame.Current (hash : UInt32) (s : State) : Frame → Prop
  | .metadata stage fill => fill.began = s.arrived ∧ (stage ≠ .hashValue → s.Listens hash)
  | .user _ began => began = s.user_arrived ∧ s.user_callback_is_configured = true
  | .worker => True

/-- What every state of a backend has. -/
structure Inv (hash : UInt32) (s : State) : Prop where
  shape : Shape s
  cache : s.cache.valid = true → s.filled_at = s.arrived ∧ s.Listens hash
  user : s.user.valid = true →
    s.user_filled_at = s.user_arrived ∧ s.user_callback_is_configured = true
  frames : ∀ f ∈ s.stack, f.Current hash s
  configured : s.callback_is_configured = true → s.Listens hash ∨ s.cache.initializing = true

section
variable {hash : UInt32} {s s' : State} {c : Syscache} {fill : Fill} {rest : List Frame}

/-- Under the invariant the caches are current. -/
theorem Inv.current (h : Inv hash s) : s.Current := ⟨fun hvalid => (h.cache hvalid).1,
  fun hvalid => (h.user hvalid).1⟩

/-- A call in progress stays current when nothing arrives and the callbacks stay registered. -/
theorem Frame.Current.mono {f : Frame} (h : f.Current hash s) (harrived : s'.arrived = s.arrived)
    (huser_arrived : s'.user_arrived = s.user_arrived) (hlistens : s.Listens hash → s'.Listens hash)
    (hconfigured : s.user_callback_is_configured = true → s'.user_callback_is_configured = true) :
    f.Current hash s' := by
  cases f with
  | metadata stage fill => exact ⟨h.1.trans harrived.symm, fun hstage => hlistens (h.2 hstage)⟩
  | user stage began => exact ⟨h.1.trans huser_arrived.symm, hconfigured h.2⟩
  | worker => trivial

/-- The invariant holds at the start. -/
theorem Inv.init (hash : UInt32) : Inv hash .init := ⟨.init, nofun, nofun, nofun, nofun⟩

/-- The initialization of the user data keeps the invariant. -/
theorem Inv.initUser (h : Inv hash s) : Inv hash (InitUserDataCache s) := by
  have hshape := h.shape.initUser
  unfold InitUserDataCache at hshape ⊢
  split at hshape
  · rename_i hvalid
    rw [if_pos hvalid]
    exact h
  · rename_i hvalid
    rw [if_neg hvalid]
    refine ⟨hshape, h.cache, fun hvalid' => absurd hvalid' hvalid, ?_, h.configured⟩
    intro f hf
    cases hf with
    | head => exact ⟨rfl, rfl⟩
    | tail _ hf => exact (h.frames f hf).mono rfl rfl id fun _ => rfl

/-- A call keeps the invariant. -/
theorem Inv.call (h : Inv hash s) (xact : XactState) (c : Syscache) :
    Inv hash (IsExtensionRegistered s xact c).1 := by
  have hshape := h.shape.call xact c
  obtain hsame | ⟨-, hinitializing, hbegun⟩ := IsExtensionRegistered_cases s xact c
  · rw [hsame]
    exact h
  · rw [hbegun] at hshape ⊢
    refine ⟨hshape, h.cache, h.user, ?_, fun _ => .inr rfl⟩
    intro f hf
    cases hf with
    | head =>
      refine ⟨rfl, fun hstage => ?_⟩
      cases hconfigured : s.callback_is_configured with
      | false =>
        rw [hconfigured] at hstage
        exact absurd rfl hstage
      | true => exact (h.configured hconfigured).resolve_right (by simp [hinitializing])
    | tail _ hf => exact (h.frames f hf).mono rfl rfl id id

/-! ## The calls that go on -/

/-- A fill that goes on, with the callback registered. -/
theorem Inv.proceed {stage stage' : Stage} {fill' : Fill} (h : Inv hash s)
    (hstack : s.stack = .metadata stage fill :: rest) (hstage : stage ≠ .hashValue)
    (hbegan : fill'.began = fill.began) (cache : MetadataCache)
    (hinitializing : cache.initializing = s.cache.initializing) (hvalid : cache.valid = s.cache.valid) :
    Inv hash { s with cache := cache, stack := .metadata stage' fill' :: rest } := by
  have hframe := h.frames (.metadata stage fill) (hstack ▸ List.mem_cons_self ..)
  refine ⟨h.shape.proceed hstack rfl hinitializing hvalid, fun hvalid' => h.cache (hvalid ▸ hvalid'),
    h.user, ?_, fun hconfigured => ?_⟩
  · intro f hf
    cases hf with
    | head => exact ⟨hbegan.trans hframe.1, fun _ => hframe.2 hstage⟩
    | tail _ hf =>
      exact (h.frames f (hstack ▸ List.mem_cons_of_mem _ hf)).mono rfl rfl id id
  · exact .inl (hframe.2 hstage)

/-- The callback is registered. -/
theorem Inv.register (h : Inv hash s) (hstack : s.stack = .metadata .hashValue fill :: rest) :
    Inv hash { s with
      schema_hash_value := hash
      registered := true
      stack := .metadata .extension fill :: rest } := by
  have hframe := h.frames (.metadata .hashValue fill) (hstack ▸ List.mem_cons_self ..)
  refine ⟨h.shape.proceed hstack rfl rfl rfl, fun hvalid => ⟨(h.cache hvalid).1, rfl, rfl⟩, h.user, ?_,
    fun _ => .inl ⟨rfl, rfl⟩⟩
  intro f hf
  cases hf with
  | head => exact ⟨hframe.1, fun _ => ⟨rfl, rfl⟩⟩
  | tail _ hf =>
    exact (h.frames f (hstack ▸ List.mem_cons_of_mem _ hf)).mono rfl rfl (fun _ => ⟨rfl, rfl⟩) id

/-- A step of a fill of the metadata keeps the invariant. -/
theorem Inv.nextMetadata {stage : Stage} {ret : Option Bool} (h : Inv hash s)
    (hstack : s.stack = .metadata stage fill :: rest)
    (hnext : nextMetadata hash s c fill rest stage = some (s', ret)) : Inv hash s' := by
  have hshape := h.shape.nextMetadata hstack hnext
  cases proceeds_of_next hnext with
  | register => exact h.register hstack
  | initUser =>
    refine Inv.initUser ?_
    exact h.proceed hstack nofun rfl _ rfl rfl
  | access hstage hbegan hinitializing hvalid =>
    exact h.proceed hstack hstage hbegan _ hinitializing hvalid
  | finish =>
    have hframe := h.frames (.metadata .finish fill) (hstack ▸ List.mem_cons_self ..)
    refine ⟨hshape, fun _ => ⟨hframe.1, hframe.2 nofun⟩, h.user, fun f hf => ?_,
      fun _ => .inl (hframe.2 nofun)⟩
    exact (h.frames f (hstack ▸ List.mem_cons_of_mem _ hf)).mono rfl rfl id id

/-- A step of a fill of the user data keeps the invariant. -/
theorem Inv.nextUser {stage : UserStage} {began : Nat} (h : Inv hash s)
    (hstack : s.stack = .user stage began :: rest) : Inv hash (nextUser s c began rest stage) := by
  have hshape := h.shape.nextUser (c := c) hstack
  have hframe := h.frames (.user stage began) (hstack ▸ List.mem_cons_self ..)
  have hrest : ∀ f ∈ rest, f.Current hash s := fun f hf =>
    h.frames f (hstack ▸ List.mem_cons_of_mem _ hf)
  cases stage with
  | query | server | role | mapping =>
    refine ⟨hshape, h.cache, h.user, ?_, h.configured⟩
    intro f hf
    cases hf with
    | head => exact hframe
    | tail _ hf => exact (hrest f hf).mono rfl rfl id id
  | finish =>
    refine ⟨hshape, h.cache, fun _ => hframe, ?_, h.configured⟩
    intro f hf
    cases hf with
    | head => trivial
    | tail _ hf => exact (hrest f hf).mono rfl rfl id id

/-! ## Invalidations -/

/-- The metadata cache, if it is valid, is not valid afterwards. -/
theorem callback_eq (hvalid : s.cache.valid = true) (hlistens : s.Listens hash) :
    ∃ cache : MetadataCache, cache.valid = false ∧ s.callback hash = { s with cache := cache } := by
  unfold State.callback InvalidateCaches
  rw [if_pos hlistens.1, if_neg (not_not.2 hlistens.2.symm), if_neg (by simp [hvalid])]
  dsimp only
  split
  · exact ⟨_, rfl, rfl⟩
  · exact ⟨_, rfl, rfl⟩

/-- An invalidation that is counted, and no fill in progress. -/
theorem Inv.arrive (h : Inv hash s) (hfills : s.fills = 0) {cache : MetadataCache}
    (hcache : cache.valid = false)
    (hinitializing : s.Listens hash ∨ cache.initializing = s.cache.initializing) :
    Inv hash { s with arrived := s.arrived + 1, cache := cache } := by
  have hfills' : State.fills { s with arrived := s.arrived + 1, cache := cache } = 0 := hfills
  refine ⟨⟨hfills'.le.trans (Nat.zero_le 1), fun hpos => absurd hfills' hpos.ne', fun _ => hcache⟩,
    fun hvalid => ?_, h.user, fun f hf => ?_, fun hconfigured => ?_⟩
  · rw [hcache] at hvalid
    cases hvalid
  · have hcurrent := h.frames f hf
    cases f with
    | metadata stage fill => exact absurd rfl (List.countP_eq_zero.1 hfills _ hf)
    | user stage began => exact hcurrent
    | worker => trivial
  · obtain hlistens | hsame := hinitializing
    · exact .inl hlistens
    · exact (h.configured hconfigured).imp_right hsame.trans

/-- An invalidation keeps the invariant, where nothing disturbs the fills. -/
theorem Inv.invalidate {hash_value : UInt32} (h : Inv hash s)
    (hallowed : Undisturbed hash s (.invalidate hash_value)) :
    Inv hash (State.callback { s with
      arrived := s.arrived + if Relevant hash hash_value then 1 else 0 } hash_value) := by
  by_cases hrelevant : Relevant hash hash_value
  · obtain ⟨hfills, hvalue⟩ := hallowed hrelevant
    rw [if_pos hrelevant]
    cases hvalid : s.cache.valid with
    | false =>
      rw [callback_eq_self]
      · exact h.arrive hfills hvalid (.inr rfl)
      · exact fun hvalid' => absurd (hvalid.symm.trans hvalid') (by decide)
    | true =>
      obtain rfl := hvalue hvalid
      have hlistens := (h.cache hvalid).2
      obtain ⟨cache, hcache, heq⟩ :=
        callback_eq (s := { s with arrived := s.arrived + 1 }) hvalid hlistens
      rw [heq]
      exact h.arrive hfills hcache (.inl hlistens)
  · rw [if_neg hrelevant]
    rw [callback_eq_self]
    · exact h
    · rintro hvalid rfl
      exact hrelevant (.inl (h.cache hvalid).2.2)

/-- An invalidation of the user data keeps the invariant, where it is not filled. -/
theorem Inv.invalidateUser (h : Inv hash s) (hallowed : s.fillingUser = false) :
    Inv hash (State.userCallback { s with user_arrived := s.user_arrived + 1 }) := by
  have hframes : ∀ f ∈ s.stack, ∀ user : UserDataCache,
      f.Current hash { s with user_arrived := s.user_arrived + 1, user := user } := by
    intro f hf user
    have hcurrent := h.frames f hf
    cases f with
    | metadata stage fill => exact hcurrent
    | user stage began => exact absurd rfl (List.any_eq_false.1 hallowed _ hf)
    | worker => trivial
  unfold State.userCallback
  split
  · unfold InvalidateUserDataCache
    split
    · rename_i hinvalid
      refine ⟨h.shape.of_eq rfl rfl rfl, h.cache, fun hvalid => ?_, fun f hf => hframes f hf _,
        h.configured⟩
      exact absurd (hinvalid.symm.trans hvalid) (by decide)
    · exact ⟨h.shape.of_eq rfl rfl rfl, h.cache, nofun, fun f hf => hframes f hf _, h.configured⟩
  · rename_i hcallback
    refine ⟨h.shape.of_eq rfl rfl rfl, h.cache, fun hvalid => ?_, fun f hf => hframes f hf _,
      h.configured⟩
    exact absurd (h.user hvalid).2 hcallback

/-- Every step without such an invalidation keeps the invariant. -/
theorem Inv.step {a : Action} (h : Inv hash s) (hallowed : Undisturbed hash s a)
    (hstep : step hash s a = some s') : Inv hash s' := by
  cases moves_of_step hstep with
  | call xact c => exact h.call xact c
  | initUser => exact h.initUser
  | nextMetadata hstack hnext => exact h.nextMetadata hstack hnext
  | nextUser hstack => exact h.nextUser hstack
  | nextWorker hstack =>
    refine ⟨h.shape.nextWorker hstack, h.cache, h.user, fun f hf => ?_, h.configured⟩
    exact (h.frames f (hstack ▸ List.mem_cons_of_mem _ hf)).mono rfl rfl id id
  | invalidate hash_value => exact h.invalidate hallowed
  | invalidateUser => exact h.invalidateUser hallowed
  | error =>
    exact ⟨⟨Nat.zero_le 1, nofun, h.shape.stale⟩, h.cache, h.user, nofun, h.configured⟩

end

/-- In every run without an invalidation that arrives while a cache is filled, or that is for all schemas
when the metadata cache is valid, the caches are current. -/
theorem current_of_run (hash : UInt32) (actions : List Action) (s : State)
    (hallowed : AllowedRun (step hash) (Undisturbed hash) .init actions)
    (hrun : actions.foldlM (step hash) .init = some s) : s.Current := by
  have hinv : Inv hash s :=
    hallowed.invariant (Inv.init hash) (fun _ _ _ h ha hstep => h.step ha hstep) hrun
  exact hinv.current

/-- A first query, as far as it has found the extension. -/
def firstAccesses : List Action := [.call .valid plain, .next plain, .next plain]

/-- The accesses after that. -/
def furtherAccesses : List Action := List.replicate 121 (.next plain)

/-- The caches are filled, and the extension is dropped then. `duckdb` has the hash value 1. -/
theorem current_of_run_dropped :
    ∃ s, (firstAccesses ++ furtherAccesses ++ [Action.invalidate 1]).foldlM (step 1) .init = some s ∧
      s.Current := by
  have hsome : ((firstAccesses ++ furtherAccesses ++ [Action.invalidate 1]).foldlM (step 1)
      .init).isSome = true := by decide +kernel
  obtain ⟨s, hrun⟩ := Option.isSome_iff_exists.1 hsome
  exact ⟨s, hrun, current_of_run 1 _ s (by decide +kernel) hrun⟩

/-- The extension is dropped while the metadata cache is being filled. -/
theorem not_current :
    ∃ s, (firstAccesses ++ [Action.invalidate 1] ++ furtherAccesses).foldlM (step 1) .init = some s ∧
      ¬s.Current := by
  have hstale : ((firstAccesses ++ [Action.invalidate 1] ++ furtherAccesses).foldlM (step 1)
      .init).any (fun s => s.cache.valid && s.filled_at != s.arrived) = true := by decide +kernel
  obtain ⟨s, hrun, hs⟩ := (Option.any_eq_true _ _).1 hstale
  rw [Bool.and_eq_true, bne_iff_ne] at hs
  exact ⟨s, hrun, fun hcurrent => hs.2 (hcurrent.cache hs.1)⟩

end PgDuckdb.Cache.Metadata
