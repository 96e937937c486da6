import PgDuckdb.Lib.Run
import PgDuckdb.Storage.Relations

/-!
# References

A reference is held for every table that is kept, in every run, so that closing a table never fails
(`no_destructor_throws`). It is the only kind that is held, and an event of DuckDB's leaves the owner that is the
current one, exactly as long as no lookup fails once its relation is open, nor in the opening under another owner
(`restores_run_iff`): a lookup that fails leaves its reference behind until the transaction ends.
-/

namespace PgDuckdb.Storage

open Lib

section
variable {Info : Type} {s s' : State Info} {rel : Oid} {rels : List Oid}

/-! ## What the parts do -/

@[simp] theorem guarded_ok_run {α : Type} (a : α) : (guarded (.ok a)).run s = .ok a s := rfl

@[simp] theorem guarded_error_run {α : Type} (text : String) :
    (guarded (.error text) : Catalog Info α).run s = .error (.Postgres text) s := rfl

/-- Closing a relation that is held. -/
theorem CloseRelation_run (h : (s.TopTransactionResourceOwner, rel) ∈ s.held) :
    (CloseRelation rel).run s = .ok () { s with held := s.held.erase (s.TopTransactionResourceOwner, rel) } := by
  simp [CloseRelation, relation_close, setCurrentResourceOwner, h]

/-- Opening a relation that Postgres opens. -/
theorem OpenRelation_ok : (OpenRelation rel (.ok ())).run s =
    .ok () { s with held := (s.TopTransactionResourceOwner, rel) :: s.held } := by
  simp [OpenRelation, relation_open, guarded, setCurrentResourceOwner]

/-- The current owner is not put back. -/
theorem OpenRelation_error (text : String) : (OpenRelation rel (.error text)).run s =
    .error (.Postgres text) { s with CurrentResourceOwner := s.TopTransactionResourceOwner } := by
  simp [OpenRelation, relation_open, guarded, setCurrentResourceOwner]

/-- The references that the tables that are kept stand for. -/
def State.references (s : State Info) : List (ResourceOwner × Oid) :=
  (kept s.schemas).map fun rel => (s.TopTransactionResourceOwner, rel)

/-- Closing every relation of a list that is held. -/
theorem closeAll_run (h : (rels.map fun rel => (s.TopTransactionResourceOwner, rel)).Subperm s.held) :
    (rels.forM CloseRelation).run s = .ok ()
      { s with held := s.held.diff (rels.map fun rel => (s.TopTransactionResourceOwner, rel)) } := by
  induction rels generalizing s with
  | nil => rfl
  | cons rel rels ih =>
    have hmem : (s.TopTransactionResourceOwner, rel) ∈ s.held := h.subset List.mem_cons_self
    have hrest := h.erase (s.TopTransactionResourceOwner, rel)
    rw [List.map_cons, List.erase_cons_head] at hrest
    show (CloseRelation rel >>= fun _ => rels.forM CloseRelation).run s = _
    rw [EStateM.run_bind, CloseRelation_run hmem]
    refine (ih hrest).trans ?_
    rw [List.map_cons, List.diff_cons]

/-- The end of a query closes every relation that is held for it. -/
theorem QueryEnd_run (h : s.references.Subperm s.held) :
    QueryEnd.run s = .ok () { s with schemas := [], held := s.held.diff s.references } := by
  have hall := closeAll_run h
  simp only [QueryEnd, EStateM.run_bind, EStateM.run_get]
  rw [hall]
  rfl

/-- The end of a transaction closes every relation that is held. -/
theorem endTransaction_run (h : s.references.Subperm s.held) :
    endTransaction.run s =
      .ok () { s with active := false, schemas := [], held := s.held.diff s.references } := by
  rw [endTransaction, EStateM.run_bind, QueryEnd_run h]
  rfl

/-! ## Lookups -/

/-- The table is not among the ones that were looked up, and Postgres has it. -/
def Opens (s : State Info) (schema entry_name : String) (answers : Answers Info) (rel_oid : Oid) : Prop :=
  s.active ∧ (∃ tables, s.schemas.lookup schema = some tables ∧ tables.lookup entry_name = none) ∧
    answers.relid = .ok rel_oid ∧ IsValidOid rel_oid

/-- Nothing fails once the relation is open. -/
def Answers.Described (answers : Answers Info) : Prop :=
  (∃ info, answers.info = .ok info) ∧
    (RELKIND_HAS_TABLE_AM answers.relkind ∨ answers.relkind = RELKIND_INDEX → ∃ rows, answers.estimate = .ok rows)

/-- The number of rows of a relation, and where there is one. -/
theorem EstimateRelSize_run (relkind : Char) (estimate : Except String ℕ) :
    (∃ rows, (∀ s : State Info, (EstimateRelSize relkind estimate).run s = .ok rows s) ∧
      (RELKIND_HAS_TABLE_AM relkind ∨ relkind = RELKIND_INDEX → ∃ rows, estimate = .ok rows)) ∨
    (∃ text, (∀ s : State Info, (EstimateRelSize relkind estimate).run s = .error (.Postgres text) s) ∧
      ¬(RELKIND_HAS_TABLE_AM relkind ∨ relkind = RELKIND_INDEX → ∃ rows, estimate = .ok rows)) := by
  unfold EstimateRelSize
  by_cases hkind : RELKIND_HAS_TABLE_AM relkind ∨ relkind = RELKIND_INDEX
  · rw [if_pos (by simpa using hkind)]
    cases estimate with
    | ok rows => exact .inl ⟨rows, fun _ => rfl, fun _ => ⟨rows, rfl⟩⟩
    | error text => exact .inr ⟨text, fun _ => rfl, fun h => nomatch h hkind⟩
  · rw [if_neg (by simpa using hkind)]
    exact .inl ⟨0, fun _ => rfl, fun h => absurd h hkind⟩

/-- A lookup that does not get to the opening, for one of the reasons there are. -/
theorem step_LookupEntry_of_not_opens {schema entry_name : String} {answers : Answers Info}
    (h : ∀ rel_oid, ¬Opens s schema entry_name answers rel_oid) :
    step s (.LookupEntry schema entry_name answers) = some s := by
  cases hactive : s.active with
  | false => simp [step, process, hactive]
  | true =>
    cases htables : s.schemas.lookup schema with
    | none => simp [step, process, LookupEntry, hactive, htables]
    | some tables =>
      cases htable : tables.lookup entry_name with
      | some table => simp [step, process, LookupEntry, GetTable, hactive, htables, htable]
      | none =>
        cases hrelid : answers.relid with
        | error text => simp [step, process, LookupEntry, GetTable, hactive, htables, htable, hrelid]
        | ok rel_oid =>
          have hinvalid : IsValidOid rel_oid = false := by
            by_contra hvalid
            exact h rel_oid ⟨hactive, ⟨tables, htables, htable⟩, hrelid, by simpa using hvalid⟩
          simp [step, process, LookupEntry, GetTable, hactive, htables, htable, hrelid, hinvalid]

/-- What a lookup does: nothing, or it keeps the table that it has opened, or it fails behind or in the opening. -/
theorem step_LookupEntry (s : State Info) (schema entry_name : String) (answers : Answers Info) :
    ((∀ rel_oid, ¬Opens s schema entry_name answers rel_oid) ∧
      step s (.LookupEntry schema entry_name answers) = some s) ∨
    ∃ rel_oid, Opens s schema entry_name answers rel_oid ∧
      ((∃ table : PostgresTable Info, answers.opened = .ok () ∧ answers.Described ∧ table.rel = rel_oid ∧
          step s (.LookupEntry schema entry_name answers) = some { s with
            held := (s.TopTransactionResourceOwner, rel_oid) :: s.held
            schemas := emplace schema entry_name table s.schemas }) ∨
        (answers.opened = .ok () ∧ ¬answers.Described ∧
          step s (.LookupEntry schema entry_name answers) =
            some { s with held := (s.TopTransactionResourceOwner, rel_oid) :: s.held }) ∨
        ∃ text, answers.opened = .error text ∧
          step s (.LookupEntry schema entry_name answers) =
            some { s with CurrentResourceOwner := s.TopTransactionResourceOwner }) := by
  by_cases hopens : ∃ rel_oid, Opens s schema entry_name answers rel_oid
  · obtain ⟨rel_oid, hopens⟩ := hopens
    refine .inr ⟨rel_oid, hopens, ?_⟩
    obtain ⟨hactive, ⟨tables, htables, htable⟩, hrelid, hvalid⟩ := hopens
    cases hopened : answers.opened with
    | error text =>
      refine .inr (.inr ⟨text, rfl, ?_⟩)
      simp [step, process, LookupEntry, GetTable, hactive, htables, htable, hrelid, hvalid, hopened,
        OpenRelation_error]
    | ok opened =>
      cases opened
      cases hinfo : answers.info with
      | error text =>
        refine .inr (.inl ⟨rfl, fun h => ?_, ?_⟩)
        · obtain ⟨info, h⟩ := h.1
          rw [hinfo] at h
          cases h
        · simp [step, process, LookupEntry, GetTable, hactive, htables, htable, hrelid, hvalid, hopened,
            OpenRelation_ok, hinfo]
      | ok info =>
        obtain ⟨rows, hrows, hestimate⟩ | ⟨text, htext, hestimate⟩ :=
          @EstimateRelSize_run Info answers.relkind answers.estimate
        · refine .inl ⟨⟨rel_oid, info, rows⟩, rfl, ⟨⟨info, hinfo⟩, hestimate⟩, rfl, ?_⟩
          simp [step, process, LookupEntry, GetTable, hactive, htables, htable, hrelid, hvalid, hopened,
            OpenRelation_ok, hinfo, hrows]
        · refine .inr (.inl ⟨rfl, fun h => hestimate h.2, ?_⟩)
          simp [step, process, LookupEntry, GetTable, hactive, htables, htable, hrelid, hvalid, hopened,
            OpenRelation_ok, hinfo, htext]
  · have hno : ∀ rel_oid, ¬Opens s schema entry_name answers rel_oid := fun rel_oid h => hopens ⟨rel_oid, h⟩
    exact .inl ⟨hno, step_LookupEntry_of_not_opens hno⟩

/-! ## The invariant -/

/-- Nothing is kept outside of a transaction of DuckDB's, and a reference is held for all that is kept. -/
structure Inv (s : State Info) : Prop where
  references_held : s.references.Subperm s.held
  nothing_kept : s.active = false → s.schemas = []

/-- A table that is put among those of its schema adds its reference. -/
theorem kept_emplace {schema : String} {tables : SchemaItems Info} (entry_name : String) (table : PostgresTable Info) :
    ∀ {schemas : List (String × SchemaItems Info)}, schemas.lookup schema = some tables →
      (kept (emplace schema entry_name table schemas)).Perm (table.rel :: kept schemas)
  | (name, items) :: schemas, h => by
    by_cases hname : schema = name
    · subst hname
      simp [emplace, kept]
    · have hne : (schema == name) = false := by simpa using hname
      rw [List.lookup_cons, hne] at h
      rw [emplace, if_neg (Ne.symm hname)]
      exact ((kept_emplace entry_name table h).append_left _).trans List.perm_middle

/-- The owner that holds the reference of a table is the same as long as the transaction lasts. -/
theorem references_emplace {schema entry_name : String} {tables : SchemaItems Info} {table : PostgresTable Info}
    {held : List (ResourceOwner × Oid)} (htables : s.schemas.lookup schema = some tables) (hrel : table.rel = rel) :
    ({ s with held := held, schemas := emplace schema entry_name table s.schemas } : State Info).references.Perm
      ((s.TopTransactionResourceOwner, rel) :: s.references) := by
  have hkept := kept_emplace entry_name table htables
  rw [hrel] at hkept
  exact hkept.map fun rel => (s.TopTransactionResourceOwner, rel)

/-- A list without its own elements is empty. -/
theorem diff_self_nil {α : Type} [BEq α] [LawfulBEq α] (xs : List α) : xs.diff xs = [] := by
  induction xs with
  | nil => rfl
  | cons x xs ih => rw [List.diff_cons, List.erase_cons_head, ih]

/-- A list without the elements of a permutation is empty. -/
theorem diff_nil_of_perm {α : Type} [BEq α] [LawfulBEq α] {xs ys : List α} (h : xs.Perm ys) :
    ys.diff xs = [] := by
  rw [h.diff_left ys, diff_self_nil]

/-- What the events do that are not lookups of tables. -/
theorem step_other (hs : Inv s) :
    step s .StartTransaction = some { s with active := true } ∧
    (∀ name, step s (.LookupSchema name) = some s ∨
      s.active = true ∧ step s (.LookupSchema name) = some { s with schemas := (name, []) :: s.schemas }) ∧
    step s .QueryEnd = some { s with schemas := [], held := s.held.diff s.references } ∧
    step s .CommitTransaction =
      some { s with active := false, schemas := [], held := s.held.diff s.references } ∧
    step s .RollbackTransaction =
      some { s with active := false, schemas := [], held := s.held.diff s.references } ∧
    (∀ owner, step s (.setOwner owner) = some { s with CurrentResourceOwner := owner }) ∧
    ∀ owner, step s (.endOfTransaction owner) = some {
      active := false
      schemas := []
      CurrentResourceOwner := owner
      TopTransactionResourceOwner := owner
      held := (s.held.diff s.references).filter fun reference => reference.1 ≠ s.TopTransactionResourceOwner } := by
  have hend := endTransaction_run hs.references_held
  refine ⟨rfl, fun name => ?_, ?_, ?_, ?_, fun owner => rfl, fun owner => ?_⟩
  · cases hactive : s.active with
    | false => exact .inl (by simp [step, process, hactive])
    | true =>
      cases hname : (s.schemas.lookup name).isSome with
      | true => exact .inl (by simp [step, process, GetSchema, hactive, hname])
      | false => exact .inr ⟨rfl, by simp [step, process, GetSchema, hactive, hname]⟩
  · simp only [step, process, QueryEnd_run hs.references_held]
  · simp only [step, process, hend]
  · simp only [step, process, hend]
  · cases hactive : s.active with
    | true => simp [step, process, releaseOwner, hactive, hend]
    | false =>
      have hnil : s.references = [] := by simp [State.references, kept, hs.nothing_kept hactive]
      simp [step, process, releaseOwner, hactive, hs.nothing_kept hactive, hnil]

/-- No event fails, and each keeps the invariant. -/
theorem step_inv (hs : Inv s) (event : Event Info) : ∃ s', step s event = some s' ∧ Inv s' := by
  have hempty : ∀ {t : State Info}, t.schemas = [] → Inv t := fun {t} h =>
    ⟨by simp [State.references, kept, h], fun _ => h⟩
  obtain ⟨hstart, hschema, hquery, hcommit, hrollback, howner, hend⟩ := step_other hs
  cases event with
  | StartTransaction => exact ⟨_, hstart, hs.references_held, nofun⟩
  | LookupSchema name =>
    obtain h | ⟨hactive, h⟩ := hschema name
    · exact ⟨s, h, hs⟩
    · exact ⟨_, h, hs.references_held, fun hinactive => by simp_all⟩
  | LookupEntry schema entry_name answers =>
    obtain ⟨-, h⟩ | ⟨rel_oid, ⟨hactive, ⟨tables, htables, -⟩, -⟩, hcases⟩ :=
      step_LookupEntry s schema entry_name answers
    · exact ⟨s, h, hs⟩
    · obtain ⟨table, -, -, hrel, h⟩ | ⟨-, -, h⟩ | ⟨text, -, h⟩ := hcases
      · refine ⟨_, h, ?_, fun hinactive => by simp_all⟩
        exact (references_emplace htables hrel).subperm.trans ((List.subperm_cons _).2 hs.references_held)
      · exact ⟨_, h, hs.references_held.trans (List.sublist_cons_self _ _).subperm, hs.nothing_kept⟩
      · exact ⟨_, h, hs.references_held, hs.nothing_kept⟩
  | QueryEnd => exact ⟨_, hquery, hempty rfl⟩
  | CommitTransaction => exact ⟨_, hcommit, hempty rfl⟩
  | RollbackTransaction => exact ⟨_, hrollback, hempty rfl⟩
  | setOwner owner => exact ⟨_, howner owner, hs.references_held, hs.nothing_kept⟩
  | endOfTransaction owner => exact ⟨_, hend owner, hempty rfl⟩

/-! ## Runs -/

/-- A session before its first query. -/
def initial (owner : ResourceOwner) : State Info :=
  { active := false, schemas := [], CurrentResourceOwner := owner, TopTransactionResourceOwner := owner, held := [] }

/-- The invariant holds at the start. -/
theorem initial_inv (owner : ResourceOwner) : Inv (initial owner : State Info) :=
  ⟨List.Subperm.refl _, fun _ => rfl⟩

/-- Whatever is looked up, whatever Postgres answers, and whoever the owner is when queries and transactions end:
no destructor throws. -/
theorem no_destructor_throws (owner : ResourceOwner) (events : List (Event Info)) :
    ∃ s, events.foldlM step (initial owner) = some s ∧ s.references.Subperm s.held ∧
      (s.active = false → s.references = []) := by
  obtain ⟨s, hrun, hs⟩ := run_succeeds events (initial_inv owner) fun _ event hs => step_inv hs event
  exact ⟨s, hrun, hs.references_held, fun h => by simp [State.references, kept, hs.nothing_kept h]⟩

/-- The references that are held are those of the tables that are kept. -/
def Balanced (s : State Info) : Prop := s.held.Perm s.references

/-- After the event there are no other references, and DuckDB has left Postgres the owner that it had. -/
def Restores (s : State Info) (event : Event Info) : Prop :=
  ∀ s', step s event = some s' →
    Balanced s' ∧ (event.ofDuckdb → s'.CurrentResourceOwner = s.CurrentResourceOwner)

/-- The lookup does not fail once its relation is open, nor in the opening, but for when the owner of the transaction
is the current one. -/
def Undisturbed (s : State Info) : Event Info → Prop
  | .LookupEntry schema entry_name answers => ∀ rel_oid, Opens s schema entry_name answers rel_oid →
    (answers.opened = .ok () → answers.Described) ∧
      (answers.opened ≠ .ok () → s.CurrentResourceOwner = s.TopTransactionResourceOwner)
  | _ => True

/-- An event that keeps the balance and the owner restores. -/
theorem restores_of_step {event : Event Info} (hstep : step s event = some s') (h : Balanced s')
    (howner : event.ofDuckdb → s'.CurrentResourceOwner = s.CurrentResourceOwner) : Restores s event := by
  intro t ht
  obtain rfl : s' = t := Option.some.inj (hstep.symm.trans ht)
  exact ⟨h, howner⟩

/-- A lookup opens one relation at most. -/
theorem Opens.unique {schema entry_name : String} {answers : Answers Info} {rel_oid rel_oid' : Oid}
    (h : Opens s schema entry_name answers rel_oid) (h' : Opens s schema entry_name answers rel_oid') :
    rel_oid = rel_oid' :=
  Except.ok.inj (h.2.2.1.symm.trans h'.2.2.1)

/-- A lookup restores just when nothing disturbs it. -/
theorem restores_LookupEntry_iff (hbalanced : Balanced s) (schema entry_name : String) (answers : Answers Info) :
    Restores s (.LookupEntry schema entry_name answers) ↔
      Undisturbed s (.LookupEntry schema entry_name answers) := by
  obtain ⟨hno, h⟩ | ⟨rel_oid, hopens, hcases⟩ := step_LookupEntry s schema entry_name answers
  · exact iff_of_true (restores_of_step h hbalanced fun _ => rfl) fun rel_oid hopens => absurd hopens (hno rel_oid)
  · obtain ⟨table, hopened, hdescribed, hrel, h⟩ | ⟨hopened, hnot, h⟩ | ⟨text, hopened, h⟩ := hcases
    · refine iff_of_true (restores_of_step h ?_ fun _ => rfl) fun _ _ =>
        ⟨fun _ => hdescribed, fun hne => absurd hopened hne⟩
      obtain ⟨-, ⟨tables, htables, -⟩, -⟩ := hopens
      exact (hbalanced.cons _).trans (references_emplace htables hrel).symm
    · refine iff_of_false (fun hrestores => ?_) fun hundisturbed => hnot ((hundisturbed rel_oid hopens).1 hopened)
      -- one more is held than before, for the same tables
      have hlength := (hrestores _ h).1.length_eq
      have hlength' := hbalanced.length_eq
      simp only [State.references, List.length_cons, List.length_map] at hlength hlength'
      omega
    · constructor
      · intro hrestores rel_oid' _
        exact ⟨fun hok => (nomatch hopened.symm.trans hok), fun _ => ((hrestores _ h).2 rfl).symm⟩
      · intro hundisturbed
        have hne : answers.opened ≠ .ok () := fun hok => nomatch hopened.symm.trans hok
        exact restores_of_step h hbalanced fun _ => ((hundisturbed rel_oid hopens).2 hne).symm

/-- An event restores just when nothing disturbs it. -/
theorem restores_iff (hs : Inv s) (hbalanced : Balanced s) (event : Event Info) :
    Restores s event ↔ Undisturbed s event := by
  have hclosed : s.held.diff s.references = [] := diff_nil_of_perm hbalanced.symm
  obtain ⟨hstart, hschema, hquery, hcommit, hrollback, howner, hend⟩ := step_other hs
  rw [hclosed] at hquery hcommit hrollback
  cases event with
  | StartTransaction => exact iff_of_true (restores_of_step hstart hbalanced fun _ => rfl) trivial
  | LookupSchema name =>
    obtain h | ⟨-, h⟩ := hschema name
    · exact iff_of_true (restores_of_step h hbalanced fun _ => rfl) trivial
    · exact iff_of_true (restores_of_step h hbalanced fun _ => rfl) trivial
  | LookupEntry schema entry_name answers => exact restores_LookupEntry_iff hbalanced schema entry_name answers
  | QueryEnd => exact iff_of_true (restores_of_step hquery (List.Perm.refl _) fun _ => rfl) trivial
  | CommitTransaction => exact iff_of_true (restores_of_step hcommit (List.Perm.refl _) fun _ => rfl) trivial
  | RollbackTransaction => exact iff_of_true (restores_of_step hrollback (List.Perm.refl _) fun _ => rfl) trivial
  | setOwner owner => exact iff_of_true (restores_of_step (howner owner) hbalanced nofun) trivial
  | endOfTransaction owner =>
    refine iff_of_true (restores_of_step (hend owner) ?_ nofun) trivial
    rw [hclosed]
    exact List.Perm.refl _

/-- All along a run no reference is held but for the tables that are kept, and the owner is left alone, exactly if no
lookup is disturbed. -/
theorem restores_run_iff (owner : ResourceOwner) (events : List (Event Info)) :
    AllowedRun step Restores (initial owner) events ↔ AllowedRun step Undisturbed (initial owner) events := by
  let I (s : State Info) : Prop := Inv s ∧ Balanced s
  have h₀ : I (initial owner) := ⟨initial_inv owner, List.Perm.refl _⟩
  have hiff : ∀ s event, I s → (Restores s event ↔ Undisturbed s event) := fun s event hs =>
    restores_iff hs.1 hs.2 event
  have hstep : ∀ s event s', I s → Restores s event → step s event = some s' → I s' := by
    intro s event s' hs hrestores hs'
    obtain ⟨t, ht, hinv⟩ := step_inv hs.1 event
    obtain rfl : t = s' := Option.some.inj (ht.symm.trans hs')
    exact ⟨hinv, (hrestores _ hs').1⟩
  constructor
  · intro h
    exact h.imp h₀ hstep fun s event hs => (hiff s event hs).1
  · intro h
    exact h.imp h₀ (fun s event s' hs hundisturbed => hstep s event s' hs ((hiff s event hs).2 hundisturbed))
      fun s event hs => (hiff s event hs).2

end

end PgDuckdb.Storage
