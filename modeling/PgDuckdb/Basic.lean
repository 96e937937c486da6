import Mathlib.Data.Finset.Basic

/-!
# Common types

What several parts of the model share: Postgres object ids and the errors that a function
raises, through `ereport`, `elog` or a C++ exception that the entry points turn into one.
-/

namespace PgDuckdb

/-- A Postgres object id. -/
abbrev Oid := Nat

/-- A raised error, as far as its texts go. -/
structure PgError where
  errmsg : String
  errhint : Option String := none
  deriving DecidableEq, Repr

end PgDuckdb
