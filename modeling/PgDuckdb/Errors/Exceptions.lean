import PgDuckdb.Errors.Guards

/-!
# The guards make exceptions of errors, and errors of exceptions

What the guards are for is said by a semantics without frames and globals (`denote`): code does something
and then returns, or raises an error of Postgres or an exception of C++, and each goes to the nearest
handler of its own kind; a guard turns the one into the other.

Code of which the compiler does not see that it keeps to its side is `Code.In` one of three kinds: C code of
Postgres that calls C++ code behind `InvokeCPPFunc` only; C++ code that calls Postgres behind a guard only;
and C++ code that also calls Postgres directly, but not while it has the global lock. For such code the
evaluation on the stack is the semantics (`eval_agrees`): it never crashes, an error lands in the handler
that was the nearest one when the code was called, the globals are those of the call when the code returns
or throws, and the lock is given back in every case.
-/

namespace PgDuckdb.Errors

/-! ## Without a stack -/

/-- What code raises: an error of Postgres or an exception. -/
inductive Raised
  | error (message : String)
  | exception (e : CppException)
  deriving DecidableEq, Repr

section
variable (ErrorData : String → String) (ToJSON : String → String)

/-- What some code does, and what it raises. -/
@[simp]
def denote : Code → List String × Option Raised
  | .nop => ([], none)
  | .act event => ([event], none)
  | .seq first second =>
    match denote first with
    | (log, none) => (log ++ (denote second).1, (denote second).2)
    | r => r
  | .ereport message => ([], some (.error message))
  | .throw e => ([], some (.exception e))
  | .PG_TRY body handler rethrow =>
    match denote body with
    | (log, some (.error message)) =>
      match denote handler with
      | (log', none) => (log ++ log', if rethrow then some (.error message) else none)
      | (log', raised) => (log ++ log', raised)
    | r => r
  | .errorContext body | .MemoryContextSwitchTo _ body | .lock_guard body => denote body
  | .tryCatch body handler =>
    match denote body with
    | (log, some (.exception _)) => (log ++ (denote handler).1, (denote handler).2)
    | r => r
  | .InvokeCPPFunc func_name body =>
    match denote body with
    | (log, some (.exception e)) => (log, some (.error (PGDuckDB func_name (errorMessage ErrorData e))))
    | r => r
  | .PostgresMemberGuard func_name copyFails body =>
    match denote body with
    | (log, some (.error message)) => (log, some (.exception (guardException ToJSON func_name copyFails message)))
    | r => r

end

/-! ## Code that keeps to its side -/

/-- What a piece of code may call. -/
inductive Kind
  | postgres
  /-- C++ code that calls Postgres behind a guard only. -/
  | guarded
  /-- C++ code that also calls Postgres directly. -/
  | direct
  deriving DecidableEq, Repr

/-- The code is of this kind. -/
@[simp]
def Code.In : Code → Kind → Bool
  | .nop, _ | .act _, _ => true
  | .seq first second, kind => first.In kind && second.In kind
  | .ereport _, kind => kind != .guarded
  | .throw _, kind => kind != .postgres
  | .PG_TRY body handler _, kind => kind != .guarded && body.In .postgres && handler.In .postgres
  | .errorContext body, kind => kind != .guarded && body.In .postgres
  | .MemoryContextSwitchTo _ body, kind => body.In kind
  | .tryCatch body handler, kind => kind != .postgres && body.In kind && handler.In kind
  | .lock_guard body, kind => kind != .postgres && body.In .guarded
  | .InvokeCPPFunc _ body, kind => kind != .guarded && body.In .direct
  | .PostgresMemberGuard _ _ body, kind => kind != .postgres && body.In .postgres

/-- The frames that the globals point to are on the stack, and a new frame is a new one. -/
structure Live (frames : List ℕ) (g : Globals) : Prop where
  handler : g.PG_exception_stack ∈ frames
  callbacks : ∀ callback ∈ g.error_context_stack, callback ∈ frames
  fresh : ∀ frame ∈ frames, frame < g.next

/-- Both stacks are where they were. -/
structure SameStacks (g g' : Globals) : Prop where
  handler : g'.PG_exception_stack = g.PG_exception_stack
  callbacks : g'.error_context_stack = g.error_context_stack

/-- The code has done this, and has given the lock back. -/
structure After (g : Globals) (log : List String) (g' : Globals) : Prop where
  log_eq : g'.log = g.log ++ log
  next_le : g.next ≤ g'.next
  lock_eq : g'.lock = g.lock

/-- The evaluation does and ends as the semantics says. -/
inductive Agrees (kind : Kind) (g : Globals) : List String × Option Raised → Outcome × Globals → Prop
  | ret {log g'} (h : After g log g') (hs : SameStacks g g') : Agrees kind g (log, none) (.ret, g')
  | error {log message g'} (h : After g log g') (hk : kind ≠ .guarded) :
    Agrees kind g (log, some (.error message)) (.longjmp g.PG_exception_stack message, g')
  | exception {log e g'} (h : After g log g') (hs : SameStacks g g') (hk : kind ≠ .postgres) :
    Agrees kind g (log, some (.exception e)) (.exception e, g')

/-- Nothing was logged yet. -/
theorem After.refl (g : Globals) : After g [] g := ⟨(List.append_nil _).symm, Nat.le_refl _, rfl⟩

/-- One piece of code after the other. -/
theorem After.trans {g g₁ g₂ : Globals} {log₁ log₂ : List String} (h₁ : After g log₁ g₁)
    (h₂ : After g₁ log₂ g₂) : After g (log₁ ++ log₂) g₂ where
  log_eq := by rw [h₂.log_eq, h₁.log_eq, List.append_assoc]
  next_le := Nat.le_trans h₁.next_le h₂.next_le
  lock_eq := h₂.lock_eq.trans h₁.lock_eq

/-- Only the stacks decide that the frames are live. -/
theorem Live.of_same {frames : List ℕ} {g g' : Globals} (h : Live frames g) (hs : SameStacks g g')
    (hn : g.next ≤ g'.next) : Live frames g' where
  handler := hs.handler ▸ h.handler
  callbacks := hs.callbacks ▸ h.callbacks
  fresh frame hf := Nat.lt_of_lt_of_le (h.fresh frame hf) hn

/-- A frame that was just made is live. -/
theorem Live.fresh_cons {frames : List ℕ} {g : Globals} (h : Live frames g) :
    ∀ frame ∈ g.next :: frames, frame < g.next + 1 := by
  intro frame hf
  rcases List.mem_cons.1 hf with rfl | hf
  · exact Nat.lt_succ_self _
  · exact Nat.lt_succ_of_lt (h.fresh frame hf)

/-- A handler is set up in a new frame. -/
theorem Live.handle {frames : List ℕ} {g : Globals} (h : Live frames g) :
    Live (g.next :: frames) { g with PG_exception_stack := g.next, next := g.next + 1 } where
  handler := List.mem_cons_self
  callbacks callback hc := List.mem_cons_of_mem _ (h.callbacks callback hc)
  fresh := h.fresh_cons

/-- A callback is registered in a new frame. -/
theorem Live.register {frames : List ℕ} {g : Globals} (h : Live frames g) :
    Live (g.next :: frames)
      { g with error_context_stack := g.next :: g.error_context_stack, next := g.next + 1 } where
  handler := List.mem_cons_of_mem _ h.handler
  callbacks callback hc := by
    rcases List.mem_cons.1 hc with rfl | hc
    · exact List.mem_cons_self
    · exact List.mem_cons_of_mem _ (h.callbacks callback hc)
  fresh := h.fresh_cons

/-- A jump finds its target. -/
theorem siglongjmp_of_live {frames : List ℕ} {g : Globals} (message : String) (h : Live frames g) :
    siglongjmp message frames g = (.longjmp g.PG_exception_stack message, g) := by
  rw [siglongjmp, if_pos h.handler]

/-- Where the frames are live an error jumps to the innermost one. -/
theorem ereport_of_live {frames : List ℕ} {g : Globals} (message : String) (h : Live frames g) :
    ereport message frames g =
      (.longjmp g.PG_exception_stack message, { g with CurrentMemoryContext := ErrorContext }) := by
  rw [ereport, if_pos h.callbacks, siglongjmp, if_pos h.handler]

/-! ## One construct at a time -/

/-- What follows on some code, in globals that have the stacks of the call. -/
theorem Agrees.trans {kind : Kind} {g g₁ : Globals} {log : List String} {d : List String × Option Raised}
    {r : Outcome × Globals} (h : After g log g₁) (hs : SameStacks g g₁) (h₁ : Agrees kind g₁ d r) :
    Agrees kind g (log ++ d.1, d.2) r := by
  cases h₁ with
  | ret h₂ hs₂ =>
    exact .ret (h.trans h₂) ⟨hs₂.handler.trans hs.handler, hs₂.callbacks.trans hs.callbacks⟩
  | error h₂ hk =>
    rw [hs.handler]
    exact .error (h.trans h₂) hk
  | exception h₂ hs₂ hk =>
    exact .exception (h.trans h₂) ⟨hs₂.handler.trans hs.handler, hs₂.callbacks.trans hs.callbacks⟩ hk

/-- What the induction says about some code. -/
def Correct (ErrorData ToJSON : String → String) (c : Code) : Prop :=
  ∀ {kind : Kind} {frames : List ℕ} {g : Globals}, c.In kind = true → Live frames g →
    Agrees kind g (denote ErrorData ToJSON c) (eval ErrorData ToJSON c frames g)

section
variable {ErrorData ToJSON : String → String}

/-- One piece of code after the other is correct. -/
theorem correct_seq {first second : Code} (ih₁ : Correct ErrorData ToJSON first)
    (ih₂ : Correct ErrorData ToJSON second) : Correct ErrorData ToJSON (.seq first second) := by
  intro kind frames g hin hlive
  obtain ⟨hin₁, hin₂⟩ := Bool.and_eq_true_iff.1 hin
  have h₁ := ih₁ hin₁ hlive
  rw [eval, denote]
  generalize denote ErrorData ToJSON first = d at h₁ ⊢
  generalize eval ErrorData ToJSON first frames g = r at h₁ ⊢
  cases h₁ with
  | ret h hs => exact (ih₂ hin₂ (hlive.of_same hs h.next_le)).trans h hs
  | error h hk => exact .error h hk
  | exception h hs hk => exact .exception h hs hk

/-- A try block is correct. -/
theorem correct_tryCatch {body handler : Code} (ih₁ : Correct ErrorData ToJSON body)
    (ih₂ : Correct ErrorData ToJSON handler) : Correct ErrorData ToJSON (.tryCatch body handler) := by
  intro kind frames g hin hlive
  simp only [Code.In, Bool.and_eq_true] at hin
  have h₁ := ih₁ hin.1.2 hlive
  rw [eval, denote]
  generalize denote ErrorData ToJSON body = d at h₁ ⊢
  generalize eval ErrorData ToJSON body frames g = r at h₁ ⊢
  cases h₁ with
  | ret h hs => exact .ret h hs
  | error h hk => exact .error h hk
  | exception h hs hk => exact (ih₂ hin.2 (hlive.of_same hs h.next_le)).trans h hs

/-- A `PG_TRY` block: an error in its body ends in it, and the handler runs with the stacks of the call. -/
theorem correct_PG_TRY {body handler : Code} {rethrow : Bool} (ih₁ : Correct ErrorData ToJSON body)
    (ih₂ : Correct ErrorData ToJSON handler) :
    Correct ErrorData ToJSON (.PG_TRY body handler rethrow) := by
  intro kind frames g hin hlive
  simp only [Code.In, Bool.and_eq_true] at hin
  have hkind : kind ≠ .guarded := by simpa using hin.1.1
  have h₁ := ih₁ hin.1.2 hlive.handle
  rw [eval, denote]
  generalize denote ErrorData ToJSON body = d at h₁ ⊢
  generalize eval ErrorData ToJSON body (g.next :: frames)
    { g with PG_exception_stack := g.next, next := g.next + 1 } = r at h₁ ⊢
  cases h₁ with
  | ret h hs => exact .ret ⟨h.log_eq, Nat.le_of_succ_le h.next_le, h.lock_eq⟩ ⟨rfl, rfl⟩
  | exception h hs hk => exact absurd rfl hk
  | @error log message g₁ h hk =>
    have hafter : After g log (g₁.restore g) := ⟨h.log_eq, Nat.le_of_succ_le h.next_le, h.lock_eq⟩
    have hs : SameStacks g (g₁.restore g) := ⟨rfl, rfl⟩
    have hlive' := hlive.of_same hs hafter.next_le
    have h₂ := ih₂ hin.2 hlive'
    simp only [if_true]
    generalize denote ErrorData ToJSON handler = d' at h₂ ⊢
    generalize eval ErrorData ToJSON handler frames (g₁.restore g) = r' at h₂ ⊢
    cases h₂ with
    | @ret log' g₂ h₂ hs₂ =>
      have hafter₂ := hafter.trans h₂
      cases rethrow with
      | false =>
        exact .ret ⟨hafter₂.log_eq, hafter₂.next_le, hafter₂.lock_eq⟩ ⟨rfl, rfl⟩
      | true =>
        have hjump := siglongjmp_of_live message (hlive'.of_same hs₂ h₂.next_le)
        simp only [if_true]
        rw [hjump, hs₂.handler]
        exact .error hafter₂ hkind
    | error h₂ hk₂ => exact .error (hafter.trans h₂) hkind
    | exception h₂ hs₂ hk₂ => exact absurd rfl hk₂

/-- A block with an error context is correct. -/
theorem correct_errorContext {body : Code} (ih : Correct ErrorData ToJSON body) :
    Correct ErrorData ToJSON (.errorContext body) := by
  intro kind frames g hin hlive
  simp only [Code.In, Bool.and_eq_true] at hin
  have hkind : kind ≠ .guarded := by simpa using hin.1
  have h₁ := ih hin.2 hlive.register
  rw [eval, denote]
  generalize denote ErrorData ToJSON body = d at h₁ ⊢
  generalize eval ErrorData ToJSON body (g.next :: frames)
    { g with error_context_stack := g.next :: g.error_context_stack, next := g.next + 1 } = r at h₁ ⊢
  cases h₁ with
  | ret h hs => exact .ret ⟨h.log_eq, Nat.le_of_succ_le h.next_le, h.lock_eq⟩ ⟨hs.handler, rfl⟩
  | error h hk => exact .error ⟨h.log_eq, Nat.le_of_succ_le h.next_le, h.lock_eq⟩ hkind
  | exception h hs hk => exact absurd rfl hk

/-- A block in another memory context is correct. -/
theorem correct_MemoryContextSwitchTo {context : ℕ} {body : Code} (ih : Correct ErrorData ToJSON body) :
    Correct ErrorData ToJSON (.MemoryContextSwitchTo context body) := by
  intro kind frames g hin hlive
  have hlive' : Live frames { g with CurrentMemoryContext := context } :=
    hlive.of_same ⟨rfl, rfl⟩ (Nat.le_refl _)
  have h₁ := ih hin hlive'
  rw [eval, denote]
  generalize denote ErrorData ToJSON body = d at h₁ ⊢
  generalize eval ErrorData ToJSON body frames { g with CurrentMemoryContext := context } = r at h₁ ⊢
  cases h₁ with
  | ret h hs => exact .ret ⟨h.log_eq, h.next_le, h.lock_eq⟩ ⟨hs.handler, hs.callbacks⟩
  | error h hk => exact .error ⟨h.log_eq, h.next_le, h.lock_eq⟩ hk
  | exception h hs hk => exact .exception ⟨h.log_eq, h.next_le, h.lock_eq⟩ ⟨hs.handler, hs.callbacks⟩ hk

/-- A body that calls Postgres behind guards only gives the lock back whichever way it ends. -/
theorem correct_lock_guard {body : Code} (ih : Correct ErrorData ToJSON body) :
    Correct ErrorData ToJSON (.lock_guard body) := by
  intro kind frames g hin hlive
  simp only [Code.In, Bool.and_eq_true] at hin
  have hkind : kind ≠ .postgres := by simpa using hin.1
  have hlive' : Live frames { g with lock := g.lock + 1 } := hlive.of_same ⟨rfl, rfl⟩ (Nat.le_refl _)
  have h₁ := ih hin.2 hlive'
  rw [eval, denote]
  generalize denote ErrorData ToJSON body = d at h₁ ⊢
  generalize eval ErrorData ToJSON body frames { g with lock := g.lock + 1 } = r at h₁ ⊢
  cases h₁ with
  | @ret _ g₁ h hs =>
    have hlock : g₁.lock - 1 = g.lock := by rw [h.lock_eq, Nat.add_sub_cancel]
    exact .ret ⟨h.log_eq, h.next_le, hlock⟩ ⟨hs.handler, hs.callbacks⟩
  | error h hk => exact absurd rfl hk
  | @exception _ _ g₁ h hs hk =>
    have hlock : g₁.lock - 1 = g.lock := by rw [h.lock_eq, Nat.add_sub_cancel]
    exact .exception ⟨h.log_eq, h.next_le, hlock⟩ ⟨hs.handler, hs.callbacks⟩ hkind

/-- A call of C++ from Postgres is correct. -/
theorem correct_InvokeCPPFunc {func_name : String} {body : Code} (ih : Correct ErrorData ToJSON body) :
    Correct ErrorData ToJSON (.InvokeCPPFunc func_name body) := by
  intro kind frames g hin hlive
  simp only [Code.In, Bool.and_eq_true] at hin
  have hkind : kind ≠ .guarded := by simpa using hin.1
  have h₁ := ih hin.2 hlive
  rw [eval, denote]
  generalize denote ErrorData ToJSON body = d at h₁ ⊢
  generalize eval ErrorData ToJSON body frames g = r at h₁ ⊢
  cases h₁ with
  | ret h hs => exact .ret h hs
  | error h hk => exact .error h hkind
  | exception h hs hk =>
    simp only [hs.handler, ne_eq, not_true_eq_false, if_false]
    rw [ereport_of_live _ (hlive.of_same hs h.next_le), hs.handler]
    exact .error ⟨h.log_eq, h.next_le, h.lock_eq⟩ hkind

/-- A call of Postgres behind a guard is correct. -/
theorem correct_PostgresMemberGuard {func_name : String} {copyFails : Bool} {body : Code}
    (ih : Correct ErrorData ToJSON body) :
    Correct ErrorData ToJSON (.PostgresMemberGuard func_name copyFails body) := by
  intro kind frames g hin hlive
  simp only [Code.In, Bool.and_eq_true] at hin
  have hkind : kind ≠ .postgres := by simpa using hin.1
  have h₁ := ih hin.2 hlive.handle
  rw [eval, denote]
  generalize denote ErrorData ToJSON body = d at h₁ ⊢
  generalize eval ErrorData ToJSON body (g.next :: frames)
    { g with PG_exception_stack := g.next, next := g.next + 1 } = r at h₁ ⊢
  cases h₁ with
  | ret h hs => exact .ret ⟨h.log_eq, Nat.le_of_succ_le h.next_le, h.lock_eq⟩ ⟨rfl, rfl⟩
  | error h hk =>
    simp only [if_true]
    exact .exception ⟨h.log_eq, Nat.le_of_succ_le h.next_le, h.lock_eq⟩ ⟨rfl, rfl⟩ hkind
  | exception h hs hk => exact absurd rfl hk

/-! ## All code -/

variable (ErrorData ToJSON)

/-- Every piece of code is correct. -/
theorem correct (c : Code) : Correct ErrorData ToJSON c := by
  induction c with
  | nop => exact fun _ _ => .ret (.refl _) ⟨rfl, rfl⟩
  | act event => exact fun _ _ => .ret ⟨rfl, Nat.le_refl _, rfl⟩ ⟨rfl, rfl⟩
  | seq first second ih₁ ih₂ => exact correct_seq ih₁ ih₂
  | ereport message =>
    intro kind frames g hin hlive
    rw [eval, denote, ereport_of_live message hlive]
    exact .error ⟨(List.append_nil _).symm, Nat.le_refl _, rfl⟩ (by simpa [Code.In] using hin)
  | throw e => exact fun hin _ => .exception (.refl _) ⟨rfl, rfl⟩ (by simpa [Code.In] using hin)
  | PG_TRY body handler rethrow ih₁ ih₂ => exact correct_PG_TRY ih₁ ih₂
  | errorContext body ih => exact correct_errorContext ih
  | MemoryContextSwitchTo context body ih => exact correct_MemoryContextSwitchTo ih
  | tryCatch body handler ih₁ ih₂ => exact correct_tryCatch ih₁ ih₂
  | lock_guard body ih => exact correct_lock_guard ih
  | InvokeCPPFunc func_name body ih => exact correct_InvokeCPPFunc ih
  | PostgresMemberGuard func_name copyFails body ih => exact correct_PostgresMemberGuard ih

/-- Code that keeps to its side, called where the handler and the callbacks that Postgres knows of are on
the stack, does what the semantics says: it never crashes; an error goes to the handler that was the
nearest one at the call, with the text that the guards in between have given it; and where the code returns
or throws, the stacks of handlers and callbacks are those of the call, and so is in every case the lock. -/
theorem eval_agrees (c : Code) {kind : Kind} {frames : List ℕ} {g : Globals} (hin : c.In kind = true)
    (hlive : Live frames g) :
    Agrees kind g (denote ErrorData ToJSON c) (eval ErrorData ToJSON c frames g) :=
  correct ErrorData ToJSON c hin hlive

/-! ## A block that an exception leaves -/

/-- An exception leaves a `PG_TRY` block, against the rule, with the stack of handlers in disorder. -/
theorem eval_PG_TRY_of_exception {body : Code} (handler : Code) (rethrow : Bool) {frames : List ℕ}
    {g : Globals} {log : List String} {e : CppException} (hin : body.In .direct = true)
    (hlive : Live frames g) (hbody : denote ErrorData ToJSON body = (log, some (.exception e))) :
    ∃ g', eval ErrorData ToJSON (.PG_TRY body handler rethrow) frames g = (.exception e, g') ∧
      After g log g' ∧ g'.PG_exception_stack = g.next ∧ g'.error_context_stack = g.error_context_stack := by
  have h := correct ErrorData ToJSON body hin hlive.handle
  rw [hbody] at h
  rw [eval]
  generalize eval ErrorData ToJSON body (g.next :: frames)
    { g with PG_exception_stack := g.next, next := g.next + 1 } = r at h ⊢
  cases h with
  | exception h hs hk =>
    exact ⟨_, rfl, ⟨h.log_eq, Nat.le_of_succ_le h.next_le, h.lock_eq⟩, hs.handler, hs.callbacks⟩

/-- When a C++ exception leaves a `PG_TRY` block, its handler does not run. `InvokeCPPFunc` around the block
warns, puts the stack of handlers in order and raises the error where the caller expects it. C++ code that
catches the exception on the way takes this away: the next error report is a crash. -/
theorem exception_leaves_PG_TRY (func_name message : String) {body : Code} (handler after : Code)
    (rethrow : Bool) {frames : List ℕ} {g : Globals} {log : List String} {e : CppException}
    (hin : body.In .direct = true) (hlive : Live frames g)
    (hbody : denote ErrorData ToJSON body = (log, some (.exception e))) :
    (∃ g', eval ErrorData ToJSON (.InvokeCPPFunc func_name (.PG_TRY body handler rethrow)) frames g =
        (.longjmp g.PG_exception_stack (PGDuckDB func_name (errorMessage ErrorData e)), g') ∧
      g'.log = g.log ++ log ++ [unexpectedStackWarning] ∧ g'.lock = g.lock) ∧
    (eval ErrorData ToJSON (.InvokeCPPFunc func_name
      (.seq (.tryCatch (.PG_TRY body handler rethrow) .nop) (.seq (.ereport message) after))) frames g).1 =
      .crash := by
  obtain ⟨g', heval, hafter, hhandler, hcallbacks⟩ :=
    eval_PG_TRY_of_exception ErrorData ToJSON handler rethrow hin hlive hbody
  have hne : g.next ∉ frames := fun hmem => Nat.lt_irrefl _ (hlive.fresh _ hmem)
  have hmoved : g.PG_exception_stack ≠ g'.PG_exception_stack := by
    rw [hhandler]
    exact fun h => hne (h ▸ hlive.handler)
  constructor
  · have hlive' : Live frames { g' with
        log := g'.log ++ [unexpectedStackWarning]
        PG_exception_stack := g.PG_exception_stack } :=
      hlive.of_same ⟨rfl, hcallbacks⟩ hafter.next_le
    rw [eval, heval]
    simp only [hmoved, ne_eq, not_false_eq_true, if_true]
    refine ⟨_, ereport_of_live _ hlive', ?_, hafter.lock_eq⟩
    rw [hafter.log_eq]
  · have hcrash : ∀ m, (ereport m frames g').1 = .crash := by
      intro m
      rw [ereport]
      split
      · rw [siglongjmp, if_neg]
        rw [hhandler]
        exact hne
      · rfl
    have hseq : (eval ErrorData ToJSON (.seq (.tryCatch (.PG_TRY body handler rethrow) .nop)
        (.seq (.ereport message) after)) frames g).1 = .crash := by
      rw [eval, eval, heval]
      simp only [eval]
      generalize hr : ereport message frames g' = r
      have := hcrash message
      rw [hr] at this
      obtain ⟨o, g''⟩ := r
      obtain rfl : o = .crash := this
      rfl
    rw [eval]
    generalize eval ErrorData ToJSON (.seq (.tryCatch (.PG_TRY body handler rethrow) .nop)
        (.seq (.ereport message) after)) frames g = r at hseq ⊢
    obtain ⟨o, g''⟩ := r
    obtain rfl : o = .crash := hseq
    rfl

end

/-- A function of Postgres in C++: it calls a failing function of Postgres behind a guard, with an error
callback, and does not catch the exception. -/
def guardedCall : Code :=
  .InvokeCPPFunc "f_cpp" (.seq (.act "before")
    (.PostgresFunctionGuard "g" false (.errorContext (.PG_TRY (.ereport "failed") (.act "cleanup") true))))

/-- One handler is on the stack. -/
theorem live_one : Live [1] ⟨1, [], 2, 0, 2, []⟩ where
  handler := List.mem_cons_self
  callbacks c hc := by cases hc
  fresh f hf := by
    cases List.mem_singleton.1 hf
    decide

/-- The guarded call of the example, evaluated. -/
theorem eval_agrees_guardedCall :
    Agrees .postgres ⟨1, [], 2, 0, 2, []⟩
      (["before", "cleanup"], some (.error "(PGDuckDB/f_cpp) (PGDuckDB/g) failed"))
      (eval id id guardedCall [1] ⟨1, [], 2, 0, 2, []⟩) := by
  have h := eval_agrees id id guardedCall (by decide : guardedCall.In .postgres = true) live_one
  rwa [show denote id id guardedCall =
    (["before", "cleanup"], some (.error "(PGDuckDB/f_cpp) (PGDuckDB/g) failed")) by decide +kernel] at h

/-- The example of `cpp_wrapper.hpp`. -/
theorem exception_leaves_PG_TRY_my_func :
    ∃ g', eval id id (.InvokeCPPFunc "my_func" (.PG_TRY (.throw (.std "foo")) (.act "handled") false)) [1]
        ⟨1, [], 2, 0, 2, []⟩ = (.longjmp 1 "(PGDuckDB/my_func) foo", g') ∧
      g'.log = [unexpectedStackWarning] ∧ g'.lock = 0 := by
  obtain ⟨⟨g', heval, hlog, hlock⟩, -⟩ := exception_leaves_PG_TRY id id "my_func" ""
    (.act "handled") .nop false (by decide : (Code.throw (.std "foo")).In .direct = true) live_one rfl
  exact ⟨g', heval, hlog, hlock⟩

end PgDuckdb.Errors
