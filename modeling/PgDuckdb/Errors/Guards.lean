import Mathlib.Data.List.Basic

/-!
# Two kinds of errors

Postgres raises an error with a long jump to the frame that `PG_exception_stack` points to; DuckDB throws a
C++ exception. Where code of the one calls code of the other a guard turns the errors around:
`InvokeCPPFunc` around C++ code that Postgres calls (`cpp_wrapper.hpp`), `PostgresFunctionGuard` and
`PostgresMemberGuard` around Postgres code that C++ calls (`pgduckdb_utils.hpp`).

The code in between is a small language. Its evaluation keeps the frames that are on the C stack, and the
globals of Postgres that point into them. A jump leaves the frames above its target without running a
destructor of theirs; a jump to a frame that is not there any more is a crash, and so is an error report
while a callback of such a frame is registered.
-/

namespace PgDuckdb.Errors

/-! ## Code -/

/-- A C++ exception, with what its `what()` says. -/
inductive CppException
  /-- One that derives from `duckdb::Exception`. -/
  | duckdb (what : String)
  /-- Another `std::exception`. -/
  | std (what : String)
  deriving DecidableEq, Repr

/-- A piece of code that may raise, and be raised through. -/
inductive Code
  | nop
  /-- Something that can be observed. -/
  | act (event : String)
  | seq (first second : Code)
  /-- `ereport(ERROR, ...)`. -/
  | ereport (message : String)
  | throw (e : CppException)
  /-- `PG_TRY` and `PG_CATCH`, with a `PG_RE_THROW` at the end of the handler or not. -/
  | PG_TRY (body handler : Code) (rethrow : Bool)
  /-- A callback is registered in `error_context_stack` while the body runs. -/
  | errorContext (body : Code)
  /-- `MemoryContextSwitchTo` before the body and back after it. -/
  | MemoryContextSwitchTo (context : ℕ) (body : Code)
  /-- `try` and `catch (std::exception &)`. -/
  | tryCatch (body handler : Code)
  /-- `std::lock_guard` over the global lock. -/
  | lock_guard (body : Code)
  | InvokeCPPFunc (func_name : String) (body : Code)
  /-- `CopyErrorData` may raise an error of its own. -/
  | PostgresMemberGuard (func_name : String) (copyFails : Bool) (body : Code)
  deriving DecidableEq, Repr

/-- `PostgresFunctionGuard` takes the lock and is the other guard otherwise. -/
def Code.PostgresFunctionGuard (func_name : String) (copyFails : Bool) (body : Code) : Code :=
  .lock_guard (.PostgresMemberGuard func_name copyFails body)

/-! ## Evaluation -/

/-- The globals. A frame is known by a number that no frame before it had. -/
structure Globals where
  PG_exception_stack : ℕ
  /-- The frames of the callbacks, the last one first. -/
  error_context_stack : List ℕ
  CurrentMemoryContext : ℕ
  /-- How often the process has the global lock. -/
  lock : ℕ
  next : ℕ
  log : List String
  deriving DecidableEq, Repr

/-- The memory context of error messages. -/
def ErrorContext : ℕ := 0

/-- How a piece of code ends. -/
inductive Outcome
  | ret
  | longjmp (target : ℕ) (message : String)
  | exception (e : CppException)
  | crash
  deriving DecidableEq, Repr

/-- `siglongjmp(*PG_exception_stack, 1)`. -/
def siglongjmp (message : String) (frames : List ℕ) (g : Globals) : Outcome × Globals :=
  if g.PG_exception_stack ∈ frames then (.longjmp g.PG_exception_stack message, g) else (.crash, g)

/-- `ereport(ERROR, ...)`: `errfinish` calls the callbacks, from the memory context of errors, and jumps. -/
def ereport (message : String) (frames : List ℕ) (g : Globals) : Outcome × Globals :=
  if ∀ callback ∈ g.error_context_stack, callback ∈ frames then
    siglongjmp message frames { g with CurrentMemoryContext := ErrorContext }
  else (.crash, g)

/-- The two stacks are set back to where they were. -/
def Globals.restore (g saved : Globals) : Globals :=
  { g with PG_exception_stack := saved.PG_exception_stack, error_context_stack := saved.error_context_stack }

section
variable (ErrorData : String → String) (ToJSON : String → String)

/-- The message that `InvokeCPPFunc` makes of an exception. -/
def errorMessage : CppException → String
  | .duckdb what => ErrorData what
  | .std what => if what.toList.head? = some '\x7b' then ErrorData what else what

/-- `(PGDuckDB/func_name) message`. -/
def PGDuckDB (func_name message : String) : String := "(PGDuckDB/" ++ func_name ++ ") " ++ message

/-- The warning of `InvokeCPPFunc`. -/
def unexpectedStackWarning : String :=
  "WARNING: Unexpected exception stack pointer. This is not expected, please report this."

/-- What `PostgresMemberGuard` throws, once it has extracted the message or failed to. -/
def guardException (func_name : String) (copyFails : Bool) (message : String) : CppException :=
  if copyFails then .duckdb (ToJSON "Failed to extract Postgres error message")
  else .duckdb (ToJSON (PGDuckDB func_name message))

/-- What the evaluation of some code ends with, where these frames are on the stack. -/
@[simp]
def eval : Code → List ℕ → Globals → Outcome × Globals
  | .nop, _, g => (.ret, g)
  | .act event, _, g => (.ret, { g with log := g.log ++ [event] })
  | .seq first second, frames, g =>
    match eval first frames g with
    | (.ret, g₁) => eval second frames g₁
    | r => r
  | .ereport message, frames, g => ereport message frames g
  | .throw e, _, g => (.exception e, g)
  | .PG_TRY body handler rethrow, frames, g =>
    match eval body (g.next :: frames) { g with PG_exception_stack := g.next, next := g.next + 1 } with
    | (.ret, g₁) => (.ret, g₁.restore g)
    | (.longjmp target message, g₁) =>
      if target = g.next then
        match eval handler frames (g₁.restore g) with
        | (.ret, g₂) => if rethrow then siglongjmp message frames g₂ else (.ret, g₂.restore g)
        | r => r
      else (.longjmp target message, g₁)
    | r => r
  | .errorContext body, frames, g =>
    match eval body (g.next :: frames)
        { g with error_context_stack := g.next :: g.error_context_stack, next := g.next + 1 } with
    | (.ret, g₁) => (.ret, { g₁ with error_context_stack := g.error_context_stack })
    | r => r
  | .MemoryContextSwitchTo context body, frames, g =>
    match eval body frames { g with CurrentMemoryContext := context } with
    | (.ret, g₁) => (.ret, { g₁ with CurrentMemoryContext := g.CurrentMemoryContext })
    | r => r
  | .tryCatch body handler, frames, g =>
    match eval body frames g with
    | (.exception _, g₁) => eval handler frames g₁
    | r => r
  | .lock_guard body, frames, g =>
    match eval body frames { g with lock := g.lock + 1 } with
    | (.ret, g₁) => (.ret, { g₁ with lock := g₁.lock - 1 })
    | (.exception e, g₁) => (.exception e, { g₁ with lock := g₁.lock - 1 })
    | r => r
  | .InvokeCPPFunc func_name body, frames, g =>
    match eval body frames g with
    | (.exception e, g₁) =>
      let message := PGDuckDB func_name (errorMessage ErrorData e)
      if g.PG_exception_stack ≠ g₁.PG_exception_stack then
        ereport message frames { g₁ with
          log := g₁.log ++ [unexpectedStackWarning]
          PG_exception_stack := g.PG_exception_stack }
      else ereport message frames g₁
    | r => r
  | .PostgresMemberGuard func_name copyFails body, frames, g =>
    match eval body (g.next :: frames) { g with PG_exception_stack := g.next, next := g.next + 1 } with
    | (.ret, g₁) => (.ret, g₁.restore g)
    | (.exception e, g₁) => (.exception e, g₁.restore g)
    | (.longjmp target message, g₁) =>
      if target = g.next then
        (.exception (guardException ToJSON func_name copyFails message),
          -- the error of `CopyErrorData` itself leaves the context of errors
          { g₁.restore g with CurrentMemoryContext := if copyFails then ErrorContext else g.CurrentMemoryContext })
      else (.longjmp target message, g₁)
    | r => r

end

end PgDuckdb.Errors
