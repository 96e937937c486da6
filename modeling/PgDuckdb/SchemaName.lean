import PgDuckdb.Basic
import PgDuckdb.Text.Quote

/-!
# Postgres schema names of DuckDB schemas

A MotherDuck schema is shown in Postgres under a name computed by `PgSchemaName`
(`pgduckdb_background_worker.cpp`), and a Postgres schema is resolved to a DuckDB database and
schema by `pgduckdb_db_and_schema` (`pgduckdb_ruleutils.cpp`). Outside the default database the
name is `ddb$`, the database and, unless it is `main`, the schema, with every `$` of either
doubled and a single `$` between them.

The decoder is two scanning loops over the dollars. Neither skips the second dollar of a doubled
one, so each reads a run of `k + 1` dollars as `k` literal ones followed by a separator
(`scanDbName_run`, `scanSchemaName_run`). The two main results say on which names that is
harmless: `pgduckdb_db_and_schema_PgSchemaName_iff` for decoding an encoded pair and
`PgSchemaName_pgduckdb_db_and_schema_iff` for encoding a decoded name.

Names are lists of characters, C strings without their terminator.
-/

namespace PgDuckdb

open Text (escapeQuotes)

/-! ## The source functions -/

/-- What the decoder reads from the backend: whether the user has a MotherDuck server and
mapping (`IsMotherDuckEnabled`) and the default database (`GetDefaultDBName`). -/
structure SchemaEnv where
  motherduckEnabled : Bool
  defaultDbName : List Char
  deriving DecidableEq, Repr

/-- `IsDuckdbSchemaName`: the `ddb$` prefix. -/
def IsDuckdbSchemaName (s : List Char) : Bool := "ddb$".toList.isPrefixOf s

/-- `PgSchemaName`. -/
def PgSchemaName (db_name schema_name : List Char) (is_default_db : Bool) : List Char :=
  if is_default_db then
    if schema_name = "main".toList then "public".toList else schema_name
  else
    "ddb$".toList ++ escapeQuotes '$' db_name ++
      if schema_name ≠ "main".toList then '$' :: escapeQuotes '$' schema_name else []

/-- `elog(ERROR, "Schema name is invalid")`. -/
def invalidSchemaName : PgError := { errmsg := "Schema name is invalid" }

/-- The error for a MotherDuck schema without MotherDuck credentials. -/
def missingMotherDuckCredentials : PgError :=
  { errmsg := "MotherDuck tables cannot be accessed without MotherDuck credentials"
    errhint := some ("Configure MotherDuck credentials for this user using: CREATE USER MAPPING " ++
      "FOR CURRENT_USER SERVER motherduck OPTIONS (token '<your token>');") }

/-- The first `strchr` loop of `pgduckdb_db_and_schema`, from `saveptr` with `db_name` so far.
The second component is `saveptr` after the `break` at a separator, or `none` if the loop ran
out of dollars; then the remaining text has gone to `db_name` too. -/
def scanDbName : List Char → List Char → Except PgError (List Char × Option (List Char))
  | [], db_name => .ok (db_name, none)
  | c :: rest, db_name =>
    if c = '$' then
      match rest with
      | [] => .error invalidSchemaName
      | d :: _ => if d = '$' then scanDbName rest (db_name ++ ['$']) else .ok (db_name, some rest)
    else scanDbName rest (db_name ++ [c])

/-- The second `strchr` loop, from `saveptr` with `schema_name` so far, and the append of
what is left after it. -/
def scanSchemaName : List Char → List Char → List Char
  | [], schema_name => schema_name
  | c :: rest, schema_name =>
    if c = '$' then
      if rest.head? = some '$' then scanSchemaName rest (schema_name ++ ['$'])
      else schema_name ++ rest
    else scanSchemaName rest (schema_name ++ [c])

/-- `pgduckdb_db_and_schema`: the DuckDB database and schema of a Postgres schema, for a table of
the access method `duckdb_table_am_name` (`none` for a Postgres table). -/
def pgduckdb_db_and_schema (env : SchemaEnv) (postgres_schema_name : List Char)
    (duckdb_table_am_name : Option (List Char)) : Except PgError (List Char × List Char) :=
  match duckdb_table_am_name with
  | none => .ok ("pgduckdb".toList, postgres_schema_name)
  | some am =>
    if am ≠ "duckdb".toList then .ok (am, postgres_schema_name)
    else if postgres_schema_name = "pg_temp".toList then .ok ("pg_temp".toList, "main".toList)
    else if postgres_schema_name = "public".toList then .ok (env.defaultDbName, "main".toList)
    else if env.motherduckEnabled = false then .error missingMotherDuckCredentials
    else if IsDuckdbSchemaName postgres_schema_name = false then
      .ok (env.defaultDbName, postgres_schema_name)
    else
      match scanDbName (postgres_schema_name.drop 4) [] with
      | .error e => .error e
      | .ok (db_name, none) => .ok (db_name, "main".toList)
      | .ok (db_name, some saveptr) => .ok (db_name, scanSchemaName saveptr [])

/-! ## The two scans -/

/-- The first scan takes over a dollar-free prefix. -/
theorem scanDbName_append {p : List Char} (hp : '$' ∉ p) (rest acc : List Char) :
    scanDbName (p ++ rest) acc = scanDbName rest (acc ++ p) := by
  induction p generalizing acc with
  | nil => simp
  | cons c p ih =>
    have hc : c ≠ '$' := fun he => hp (by simp [he])
    rw [List.cons_append, scanDbName.eq_def]
    simp only [if_neg hc]
    rw [ih (fun hm => hp (by simp [hm])), List.append_assoc, List.singleton_append]

/-- The first scan reads a run of `k + 1` dollars as `k` of them and a separator, or fails when
the name ends with the run. -/
theorem scanDbName_run {r : List Char} (hr : r.head? ≠ some '$') (k : Nat) (acc : List Char) :
    scanDbName (List.replicate (k + 1) '$' ++ r) acc =
      if r = [] then .error invalidSchemaName
      else .ok (acc ++ List.replicate k '$', some r) := by
  induction k generalizing acc with
  | zero =>
    cases r with
    | nil => simp [scanDbName]
    | cons d r =>
      have hd : d ≠ '$' := by simpa using hr
      simp [scanDbName, hd]
  | succ k ih =>
    rw [List.replicate_succ, List.cons_append, scanDbName.eq_def, List.replicate_succ]
    simp only [if_true, List.cons_append]
    rw [← List.cons_append, ← List.replicate_succ, ih]
    simp [List.replicate_succ]

/-- The first scan, on the name's first run of dollars. -/
theorem scanDbName_of_run {p r : List Char} {k : Nat} (hp : '$' ∉ p) (hr : r.head? ≠ some '$') :
    scanDbName (p ++ List.replicate (k + 1) '$' ++ r) [] =
      if r = [] then .error invalidSchemaName
      else .ok (p ++ List.replicate k '$', some r) := by
  rw [List.append_assoc, scanDbName_append hp, scanDbName_run hr, List.nil_append]

/-- The first scan takes over a dollar-free name whole. -/
theorem scanDbName_of_not_mem {p : List Char} (hp : '$' ∉ p) :
    scanDbName p [] = .ok (p, none) := by
  have := scanDbName_append hp [] []
  rwa [List.append_nil, List.nil_append] at this

/-- The second scan takes over a dollar-free prefix. -/
theorem scanSchemaName_append {p : List Char} (hp : '$' ∉ p) (rest acc : List Char) :
    scanSchemaName (p ++ rest) acc = scanSchemaName rest (acc ++ p) := by
  induction p generalizing acc with
  | nil => simp
  | cons c p ih =>
    have hc : c ≠ '$' := fun he => hp (by simp [he])
    rw [List.cons_append, scanSchemaName, if_neg hc, ih (fun hm => hp (by simp [hm])),
      List.append_assoc, List.singleton_append]

/-- The second scan reads a run of `k + 1` dollars as `k` of them, and copies the rest, dollars
included. -/
theorem scanSchemaName_run {r : List Char} (hr : r.head? ≠ some '$') (k : Nat)
    (acc : List Char) :
    scanSchemaName (List.replicate (k + 1) '$' ++ r) acc =
      acc ++ List.replicate k '$' ++ r := by
  induction k generalizing acc with
  | zero => simp [scanSchemaName, hr]
  | succ k ih =>
    rw [List.replicate_succ, List.cons_append, scanSchemaName, if_pos rfl, if_pos (by
      simp [List.replicate_succ]), ih]
    simp [List.replicate_succ]

/-- The second scan, on the text's first run of dollars. -/
theorem scanSchemaName_of_run {p r : List Char} {k : Nat} (hp : '$' ∉ p)
    (hr : r.head? ≠ some '$') :
    scanSchemaName (p ++ List.replicate (k + 1) '$' ++ r) [] =
      p ++ List.replicate k '$' ++ r := by
  rw [List.append_assoc, scanSchemaName_append hp, scanSchemaName_run hr, List.nil_append]

/-- The second scan takes over a dollar-free text whole. -/
theorem scanSchemaName_of_not_mem {p : List Char} (hp : '$' ∉ p) : scanSchemaName p [] = p := by
  have := scanSchemaName_append hp [] []
  rwa [List.append_nil, List.nil_append, scanSchemaName] at this

/-! ## Decoding a `ddb$` name -/

/-- The texts of the fixed names, so that none of the comparisons below has to unfold them. -/
theorem ddb_append_ne (m : List Char) :
    "ddb$".toList ++ m ≠ "pg_temp".toList ∧ "ddb$".toList ++ m ≠ "public".toList := by
  constructor <;> simp

/-- A name that starts with ddb$ is a schema of the extension. -/
theorem IsDuckdbSchemaName_ddb (m : List Char) : IsDuckdbSchemaName ("ddb$".toList ++ m) = true := by
  simp [IsDuckdbSchemaName]

/-- A `ddb$` name is decoded by the two scans. -/
theorem db_and_schema_ddb {env : SchemaEnv} (hmd : env.motherduckEnabled = true) (m : List Char) :
    pgduckdb_db_and_schema env ("ddb$".toList ++ m) (some "duckdb".toList) =
      match scanDbName m [] with
      | .error e => .error e
      | .ok (db_name, none) => .ok (db_name, "main".toList)
      | .ok (db_name, some saveptr) => .ok (db_name, scanSchemaName saveptr []) := by
  have hdrop : ("ddb$".toList ++ m).drop 4 = m := by simp
  obtain ⟨h1, h2⟩ := ddb_append_ne m
  unfold pgduckdb_db_and_schema
  simp only [ne_eq, not_true_eq_false, if_false, if_neg h1, if_neg h2, hmd, Bool.true_eq_false,
    IsDuckdbSchemaName_ddb, hdrop]

/-- A dollar-free `ddb$` name is a database name, with the schema `main`. -/
theorem db_and_schema_of_not_mem {env : SchemaEnv} (hmd : env.motherduckEnabled = true)
    {p : List Char} (hp : '$' ∉ p) :
    pgduckdb_db_and_schema env ("ddb$".toList ++ p) (some "duckdb".toList) =
      .ok (p, "main".toList) := by
  rw [db_and_schema_ddb hmd, scanDbName_of_not_mem hp]

/-- A `ddb$` name whose first run of dollars has a text after it. -/
theorem db_and_schema_of_run {env : SchemaEnv} (hmd : env.motherduckEnabled = true)
    {p r : List Char} {k : Nat} (hp : '$' ∉ p) (hr : r.head? ≠ some '$') (hne : r ≠ []) :
    pgduckdb_db_and_schema env ("ddb$".toList ++ (p ++ List.replicate (k + 1) '$' ++ r))
      (some "duckdb".toList) = .ok (p ++ List.replicate k '$', scanSchemaName r []) := by
  rw [db_and_schema_ddb hmd, scanDbName_of_run hp hr, if_neg hne]

/-- A `ddb$` name that ends with its first run of dollars is refused. -/
theorem db_and_schema_of_trailing {env : SchemaEnv} (hmd : env.motherduckEnabled = true)
    {p : List Char} {k : Nat} (hp : '$' ∉ p) :
    pgduckdb_db_and_schema env ("ddb$".toList ++ (p ++ List.replicate (k + 1) '$'))
      (some "duckdb".toList) = .error invalidSchemaName := by
  have := scanDbName_of_run (k := k) hp (r := []) (by simp)
  rw [List.append_nil, if_pos rfl] at this
  rw [db_and_schema_ddb hmd, this]

/-! ## Decoding an encoded pair -/

/-- The pairs the sync passes to `PgSchemaName`: it skips the two system schemas, and `public`
in the default database. -/
structure Syncable (env : SchemaEnv) (db s : List Char) : Prop where
  db_nonempty : db ≠ []
  db_noNul : Char.ofNat 0 ∉ db
  schema_nonempty : s ≠ []
  schema_noNul : Char.ofNat 0 ∉ s
  ne_information_schema : s ≠ "information_schema".toList
  ne_pg_catalog : s ≠ "pg_catalog".toList
  ne_public : db = env.defaultDbName → s ≠ "public".toList

/-- The pairs whose Postgres name decodes back: in the default database every schema but
`pg_temp` and those that look like a `ddb$` schema; elsewhere a dollar-free database and a schema
with at most one dollar, not at its start. -/
def DecodesBack (env : SchemaEnv) (db s : List Char) : Prop :=
  if db = env.defaultDbName then s ≠ "pg_temp".toList ∧ ¬ "ddb$".toList <+: s
  else '$' ∉ db ∧ s.head? ≠ some '$' ∧ s.count '$' ≤ 1

/-- Outside the default database the encoder writes `ddb$`, the escaped database and the
schema part. -/
theorem PgSchemaName_false (db s : List Char) :
    PgSchemaName db s false = "ddb$".toList ++
      (escapeQuotes '$' db ++
        if s = "main".toList then [] else '$' :: escapeQuotes '$' s) := by
  unfold PgSchemaName
  by_cases hs : s = "main".toList <;> simp [hs]

/-- The second scan never lengthens its text. -/
theorem length_scanSchemaName_le (l acc : List Char) :
    (scanSchemaName l acc).length ≤ acc.length + l.length := by
  induction l generalizing acc with
  | nil => simp [scanSchemaName]
  | cons c l ih =>
    rw [scanSchemaName]
    have hlen : ∀ d : Char, (acc ++ [d]).length = acc.length + 1 := by simp
    split
    · split
      · exact (ih _).trans (by rw [hlen, List.length_cons]; omega)
      · rw [List.length_append, List.length_cons]; omega
    · exact (ih _).trans (by rw [hlen, List.length_cons]; omega)

/-- A `ddb$` name never decodes to itself as the schema. -/
theorem db_and_schema_ddb_ne {env : SchemaEnv} (hmd : env.motherduckEnabled = true)
    (m db : List Char) :
    pgduckdb_db_and_schema env ("ddb$".toList ++ m) (some "duckdb".toList) ≠
      .ok (db, "ddb$".toList ++ m) := by
  intro h
  rcases Text.exists_first_run '$' m with hm | ⟨p, k, r, rfl, hp, hr⟩
  · rw [db_and_schema_of_not_mem hmd hm] at h
    simp at h
  · by_cases hne : r = []
    · subst hne
      rw [List.append_nil, db_and_schema_of_trailing hmd hp] at h
      cases h
    · rw [db_and_schema_of_run hmd hp hr hne] at h
      have hs := congrArg List.length (Prod.mk.inj (Except.ok.inj h)).2
      have hle := length_scanSchemaName_le r []
      rw [List.length_append, List.length_append] at hs
      have h4 : "ddb$".toList.length = 4 := by decide
      simp only [List.length_nil] at hle
      omega

/-- The second scan undoes the escaping of a schema name that does not start with a dollar
exactly when the name has at most one. -/
theorem scanSchemaName_escapeQuotes_iff (s : List Char) :
    scanSchemaName (escapeQuotes '$' s) [] = s ↔ s.count '$' ≤ 1 := by
  rcases Text.exists_first_run '$' s with hs | ⟨p, k, r, rfl, hp, hr⟩
  · rw [Text.escapeQuotes_of_not_mem hs, scanSchemaName_of_not_mem hs, List.count_eq_zero.2 hs]
    simp
  · have hesc : escapeQuotes '$' (p ++ List.replicate (k + 1) '$' ++ r) =
        p ++ List.replicate (2 * k + 1 + 1) '$' ++ escapeQuotes '$' r := by
      rw [Text.escapeQuotes_append, Text.escapeQuotes_append, Text.escapeQuotes_of_not_mem hp,
        Text.escapeQuotes_replicate, Nat.mul_add]
    rw [hesc, scanSchemaName_of_run hp (Text.head?_escapeQuotes hr)]
    have hcount : (p ++ List.replicate (k + 1) '$' ++ r).count '$' = k + 1 + r.count '$' := by
      rw [List.count_append, List.count_append, List.count_eq_zero.2 hp, List.count_replicate_self,
        Nat.zero_add]
    rw [hcount]
    constructor
    · intro h
      obtain ⟨-, hk, hrr⟩ := Text.run_inj hp hp (Text.head?_escapeQuotes hr) hr h
      have := List.count_eq_zero.2 (Text.escapeQuotes_eq_self_iff.1 hrr)
      omega
    · intro h
      obtain rfl : k = 0 := by omega
      rw [Text.escapeQuotes_of_not_mem (List.count_eq_zero.1 (by omega))]

/-- A database name with a dollar never comes back: the first scan stops inside it, or at the
end of the name. -/
theorem db_and_schema_of_mem_db {env : SchemaEnv} (hmd : env.motherduckEnabled = true)
    {db : List Char} (hdb : '$' ∈ db) (s : List Char) :
    pgduckdb_db_and_schema env (PgSchemaName db s false) (some "duckdb".toList) ≠ .ok (db, s) := by
  intro h
  rw [PgSchemaName_false] at h
  rcases Text.exists_first_run '$' db with hn | ⟨p, k, r, rfl, hp, hr⟩
  · exact hn hdb
  have hesc : escapeQuotes '$' (p ++ List.replicate (k + 1) '$' ++ r) =
      p ++ List.replicate (2 * k + 1 + 1) '$' ++ escapeQuotes '$' r := by
    rw [Text.escapeQuotes_append, Text.escapeQuotes_append, Text.escapeQuotes_of_not_mem hp,
      Text.escapeQuotes_replicate, Nat.mul_add]
  rw [hesc] at h
  by_cases hre : r = []
  · subst hre
    rw [Text.escapeQuotes_nil, List.append_nil, List.append_nil] at h
    by_cases hs : s = "main".toList
    · rw [if_pos hs, List.append_nil, db_and_schema_of_trailing hmd hp] at h
      cases h
    · -- the separator and the dollars the schema starts with prolong the run
      obtain ⟨j, t, rfl, ht⟩ := Text.exists_leading_run '$' s
      have htext : p ++ List.replicate (2 * k + 1 + 1) '$' ++
            '$' :: escapeQuotes '$' (List.replicate j '$' ++ t) =
          p ++ List.replicate (2 * k + 2 + 2 * j + 1) '$' ++ escapeQuotes '$' t := by
        rw [Text.escapeQuotes_append, Text.escapeQuotes_replicate, ← List.cons_append,
          ← List.replicate_succ, List.append_assoc, List.append_assoc, ← List.append_assoc
            (List.replicate _ _), List.replicate_append_replicate]
        simp only [show 2 * k + 1 + 1 + (2 * j + 1) = 2 * k + 2 + 2 * j + 1 by omega]
      rw [if_neg hs, htext] at h
      by_cases hte : t = []
      · subst hte
        rw [Text.escapeQuotes_nil, List.append_nil, db_and_schema_of_trailing hmd hp] at h
        cases h
      · rw [db_and_schema_of_run hmd hp (Text.head?_escapeQuotes ht)
          (by simpa using hte)] at h
        have := congrArg List.length (Prod.mk.inj (Except.ok.inj h)).1
        simp only [List.length_append, List.length_replicate] at this
        omega
  · have hassoc : ∀ rest, p ++ List.replicate (2 * k + 1 + 1) '$' ++ escapeQuotes '$' r ++ rest =
        p ++ List.replicate (2 * k + 1 + 1) '$' ++ (escapeQuotes '$' r ++ rest) :=
      fun rest => List.append_assoc ..
    have hhead : ∀ rest, (escapeQuotes '$' r ++ rest).head? ≠ some '$' := by
      intro rest
      rw [List.head?_append_of_ne_nil _ (by simpa using hre)]
      exact Text.head?_escapeQuotes hr
    rw [hassoc, db_and_schema_of_run hmd hp (hhead _) (by simp [hre])] at h
    have hdb' := (Prod.mk.inj (Except.ok.inj h)).1
    rw [← List.append_nil (p ++ List.replicate (2 * k + 1) '$')] at hdb'
    exact hre (Text.run_inj hp hp (by simp) hr hdb').2.2.symm

/-- Outside the default database, a dollar-free database name comes back with its schema exactly
when the schema has at most one dollar, not at its start. -/
theorem db_and_schema_of_not_mem_db {env : SchemaEnv} (hmd : env.motherduckEnabled = true)
    {db s : List Char} (hdb : '$' ∉ db) (hs : s ≠ []) :
    pgduckdb_db_and_schema env (PgSchemaName db s false) (some "duckdb".toList) = .ok (db, s) ↔
      s.head? ≠ some '$' ∧ s.count '$' ≤ 1 := by
  rw [PgSchemaName_false, Text.escapeQuotes_of_not_mem hdb]
  by_cases hmain : s = "main".toList
  · subst hmain
    rw [if_pos rfl, List.append_nil, db_and_schema_of_not_mem hmd hdb]
    exact iff_of_true rfl (by decide)
  rw [if_neg hmain]
  obtain ⟨j, t, rfl, ht⟩ := Text.exists_leading_run '$' s
  have htext : db ++ '$' :: escapeQuotes '$' (List.replicate j '$' ++ t) =
      db ++ List.replicate (2 * j + 1) '$' ++ escapeQuotes '$' t := by
    rw [Text.escapeQuotes_append, Text.escapeQuotes_replicate, ← List.cons_append,
      ← List.replicate_succ, List.append_assoc]
  rw [htext]
  by_cases hte : t = []
  · subst hte
    cases j with
    | zero => exact absurd rfl hs
    | succ j =>
      rw [Text.escapeQuotes_nil, List.append_nil, db_and_schema_of_trailing hmd hdb]
      simp [List.replicate_succ]
  rw [db_and_schema_of_run hmd hdb (Text.head?_escapeQuotes ht) (by simpa using hte)]
  cases j with
  | zero =>
    simp only [Nat.mul_zero, List.replicate_zero, List.append_nil, List.nil_append,
      Except.ok.injEq, Prod.mk.injEq, true_and]
    rw [scanSchemaName_escapeQuotes_iff]
    exact ⟨fun h => ⟨ht, h⟩, fun h => h.2⟩
  | succ j =>
    refine iff_of_false (fun h => ?_) (fun h => h.1 (by simp [List.replicate_succ]))
    have := congrArg List.length (Prod.mk.inj (Except.ok.inj h)).1
    simp only [List.length_append, List.length_replicate] at this
    omega

/-- In the default database, a schema comes back exactly when it is neither `pg_temp` nor reads
as a `ddb$` name. -/
theorem db_and_schema_default {env : SchemaEnv} (hmd : env.motherduckEnabled = true)
    {s : List Char} (hpub : s ≠ "public".toList) :
    pgduckdb_db_and_schema env (PgSchemaName env.defaultDbName s true) (some "duckdb".toList) =
        .ok (env.defaultDbName, s) ↔
      s ≠ "pg_temp".toList ∧ ¬ "ddb$".toList <+: s := by
  by_cases hmain : s = "main".toList
  · subst hmain
    refine iff_of_true ?_ (by decide)
    rfl
  have hname : PgSchemaName env.defaultDbName s true = s := by
    rw [PgSchemaName, if_pos rfl, if_neg hmain]
  rw [hname]
  by_cases hddb : "ddb$".toList <+: s
  · obtain ⟨m, rfl⟩ := hddb
    refine iff_of_false (db_and_schema_ddb_ne hmd m _) (fun h => h.2 ⟨m, rfl⟩)
  have hnot : IsDuckdbSchemaName s = false := by
    rw [Bool.eq_false_iff, IsDuckdbSchemaName, ne_eq, List.isPrefixOf_iff_prefix]
    exact hddb
  by_cases htemp : s = "pg_temp".toList
  · subst htemp
    refine iff_of_false (fun h => ?_) (fun h => h.1 rfl)
    have h' : (Except.ok ("pg_temp".toList, "main".toList) : Except PgError _) =
      .ok (env.defaultDbName, "pg_temp".toList) := h
    exact absurd (Prod.mk.inj (Except.ok.inj h')).2 (by decide)
  · refine iff_of_true ?_ ⟨htemp, hddb⟩
    unfold pgduckdb_db_and_schema
    simp only [ne_eq, not_true_eq_false, if_false, if_neg htemp, if_neg hpub, hmd,
      Bool.true_eq_false, hnot, if_true]

/-- A MotherDuck pair that the sync passes decodes back exactly on the pairs of `DecodesBack`;
on those, two pairs with one Postgres name are equal. -/
theorem pgduckdb_db_and_schema_PgSchemaName_iff (env : SchemaEnv)
    (hmd : env.motherduckEnabled = true) :
    (∀ db s, Syncable env db s →
      (pgduckdb_db_and_schema env (PgSchemaName db s (db = env.defaultDbName))
          (some "duckdb".toList) = .ok (db, s) ↔ DecodesBack env db s)) ∧
    (∀ db s db' s', Syncable env db s → Syncable env db' s' → DecodesBack env db s →
      DecodesBack env db' s' →
      PgSchemaName db s (db = env.defaultDbName) = PgSchemaName db' s' (db' = env.defaultDbName) →
      db = db' ∧ s = s') := by
  have hiff : ∀ db s, Syncable env db s →
      (pgduckdb_db_and_schema env (PgSchemaName db s (db = env.defaultDbName))
          (some "duckdb".toList) = .ok (db, s) ↔ DecodesBack env db s) := by
    intro db s hs
    unfold DecodesBack
    by_cases hdef : db = env.defaultDbName
    · subst hdef
      rw [decide_eq_true rfl, if_pos rfl, db_and_schema_default hmd (hs.ne_public rfl)]
    · rw [decide_eq_false hdef, if_neg hdef]
      by_cases hdb : '$' ∈ db
      · exact iff_of_false (db_and_schema_of_mem_db hmd hdb s) (fun h => h.1 hdb)
      · rw [db_and_schema_of_not_mem_db hmd hdb hs.schema_nonempty]
        exact ⟨fun h => ⟨hdb, h⟩, fun h => h.2⟩
  refine ⟨hiff, fun db s db' s' hs hs' hd hd' h => ?_⟩
  have h1 := (hiff db s hs).2 hd
  rw [h, (hiff db' s' hs').2 hd'] at h1
  obtain ⟨rfl, rfl⟩ := Prod.mk.inj (Except.ok.inj h1)
  exact ⟨rfl, rfl⟩

/-- The environment of the examples below: MotherDuck enabled, with the default database `my_db`. -/
def myDbEnv : SchemaEnv := ⟨true, "my_db".toList⟩

/-- The pair `(db, a$b)` is one that decodes back. -/
theorem PgSchemaName_decodes_back_at :
    Syncable myDbEnv "db".toList "a$b".toList ∧
      pgduckdb_db_and_schema myDbEnv (PgSchemaName "db".toList "a$b".toList false)
        (some "duckdb".toList) = .ok ("db".toList, "a$b".toList) := by
  have hs : Syncable myDbEnv "db".toList "a$b".toList := by
    constructor <;> decide
  refine ⟨hs, ?_⟩
  have hd : DecodesBack myDbEnv "db".toList "a$b".toList := by
    rw [DecodesBack, if_neg (by decide)]
    decide
  exact ((pgduckdb_db_and_schema_PgSchemaName_iff myDbEnv rfl).1 _ _ hs).2 hd

/-- The database `a$b` does not decode back: its main schema is resolved to the schema `b` of the
database `a$`. The encoder is not injective either: `(a$, b)` and `(a, $b)` share one name. -/
theorem PgSchemaName_not_undone :
    (Syncable myDbEnv "a$b".toList "main".toList ∧
      pgduckdb_db_and_schema myDbEnv
        (PgSchemaName "a$b".toList "main".toList ("a$b".toList = myDbEnv.defaultDbName))
        (some "duckdb".toList) = .ok ("a$".toList, "b".toList)) ∧
    (Syncable myDbEnv "a$".toList "b".toList ∧ Syncable myDbEnv "a".toList "$b".toList ∧
      PgSchemaName "a$".toList "b".toList false = PgSchemaName "a".toList "$b".toList false) := by
  refine ⟨⟨?_, by decide⟩, ?_, ?_, by decide⟩ <;> constructor <;> decide

/-! ## Encoding a decoded name -/

/-- The texts after `ddb$` that the decoder refuses or that encoding the decoded pair gives back:
a dollar-free database; a database followed by dollars only, which is refused; a database and a
dollar-free schema other than `main`; and a database and a schema with one, doubled, dollar. -/
inductive EncodesBack : List Char → Prop
  | db {p : List Char} : '$' ∉ p → EncodesBack p
  | trailing {p : List Char} {k : Nat} : '$' ∉ p →
      EncodesBack (p ++ List.replicate (k + 1) '$')
  | schema {p q : List Char} : '$' ∉ p → '$' ∉ q → q ≠ [] → q ≠ "main".toList →
      EncodesBack (p ++ '$' :: q)
  | dollarSchema {p q t : List Char} : '$' ∉ p → '$' ∉ q → '$' ∉ t → q ≠ [] →
      EncodesBack (p ++ '$' :: (q ++ '$' :: '$' :: t))

/-- The outcome asked of decoding the name `n`: refused as invalid, or a pair that encodes
to `n`. -/
def DecodesFaithfully (env : SchemaEnv) (n : List Char) : Prop :=
  pgduckdb_db_and_schema env n (some "duckdb".toList) = .error invalidSchemaName ∨
    ∃ db s, pgduckdb_db_and_schema env n (some "duckdb".toList) = .ok (db, s) ∧
      PgSchemaName db s false = n

/-- A name without a dollar sign does not start with one. -/
theorem head?_ne_of_not_mem {q : List Char} (hq : '$' ∉ q) : q.head? ≠ some '$' :=
  fun h => hq (List.mem_of_mem_head? h)

/-- The name main has no dollar sign. -/
theorem dollar_not_mem_main : '$' ∉ "main".toList := by decide

/-- Each of the four kinds of text is handled faithfully. -/
theorem EncodesBack.decodesFaithfully {env : SchemaEnv} (hmd : env.motherduckEnabled = true)
    {m : List Char} (h : EncodesBack m) : DecodesFaithfully env ("ddb$".toList ++ m) := by
  cases h with
  | db hp =>
    refine .inr ⟨m, "main".toList, db_and_schema_of_not_mem hmd hp, ?_⟩
    rw [PgSchemaName_false, if_pos rfl, List.append_nil, Text.escapeQuotes_of_not_mem hp]
  | trailing hp => exact .inl (db_and_schema_of_trailing hmd hp)
  | @schema p q hp hq hne hmain =>
    have hdec := db_and_schema_of_run (k := 0) hmd hp (head?_ne_of_not_mem hq) hne
    rw [List.replicate_zero, List.append_nil, scanSchemaName_of_not_mem hq, List.append_assoc,
      List.replicate_one, List.singleton_append] at hdec
    refine .inr ⟨p, q, hdec, ?_⟩
    rw [PgSchemaName_false, if_neg hmain, Text.escapeQuotes_of_not_mem hp,
      Text.escapeQuotes_of_not_mem hq]
  | @dollarSchema p q t hp hq ht hne =>
    have hhead : (q ++ '$' :: '$' :: t).head? ≠ some '$' := by
      rw [List.head?_append_of_ne_nil _ hne]
      exact head?_ne_of_not_mem hq
    have hdec := db_and_schema_of_run (k := 0) hmd hp hhead (by simp)
    have hscan : scanSchemaName (q ++ '$' :: '$' :: t) [] = q ++ '$' :: t := by
      have := scanSchemaName_of_run (k := 1) hq (head?_ne_of_not_mem ht)
      rwa [List.append_assoc, List.append_assoc] at this
    rw [List.replicate_zero, List.append_nil, hscan, List.append_assoc, List.replicate_one,
      List.singleton_append] at hdec
    have hmain : q ++ '$' :: t ≠ "main".toList := fun he =>
      dollar_not_mem_main (he ▸ by simp)
    refine .inr ⟨p, q ++ '$' :: t, hdec, ?_⟩
    rw [PgSchemaName_false, if_neg hmain, Text.escapeQuotes_of_not_mem hp,
      Text.escapeQuotes_append, Text.escapeQuotes_of_not_mem hq, Text.escapeQuotes_cons_self,
      Text.escapeQuotes_of_not_mem ht]

/-- A name handled faithfully, whose first run of dollars is followed by a text: the run is a
single separator, and the text is a schema the second scan and the escaping agree on. -/
theorem encodesBack_of_run {env : SchemaEnv} (hmd : env.motherduckEnabled = true)
    {p r : List Char} {k : Nat} (hp : '$' ∉ p) (hr : r.head? ≠ some '$') (hne : r ≠ [])
    (h : DecodesFaithfully env ("ddb$".toList ++ (p ++ List.replicate (k + 1) '$' ++ r))) :
    EncodesBack (p ++ List.replicate (k + 1) '$' ++ r) := by
  unfold DecodesFaithfully at h
  rw [db_and_schema_of_run hmd hp hr hne] at h
  rcases h with h | ⟨db, s, hds, h⟩
  · cases h
  obtain ⟨rfl, rfl⟩ := Prod.mk.inj (Except.ok.inj hds)
  rw [PgSchemaName_false, List.append_cancel_left_eq, Text.escapeQuotes_append,
    Text.escapeQuotes_of_not_mem hp, Text.escapeQuotes_replicate] at h
  by_cases hmain : scanSchemaName r [] = "main".toList
  · -- a schema spelled `main` is not written, so the text after the run is lost
    rw [if_pos hmain, List.append_nil, List.append_assoc, List.append_cancel_left_eq,
      ← List.append_nil (List.replicate (2 * k) '$')] at h
    exact absurd (Text.replicate_append_inj (by simp) hr h).2.symm hne
  rw [if_neg hmain, List.append_assoc, List.append_assoc, List.append_cancel_left_eq] at h
  rcases Text.exists_first_run '$' r with hrn | ⟨q, j, t, rfl, hq, ht⟩
  · rw [scanSchemaName_of_not_mem hrn, Text.escapeQuotes_of_not_mem hrn, ← List.singleton_append,
      ← List.append_assoc, ← List.replicate_succ'] at h
    obtain ⟨hk, -⟩ := Text.replicate_append_inj hr hr h
    obtain rfl : k = 0 := by omega
    rw [scanSchemaName_of_not_mem hrn] at hmain
    rw [List.append_assoc]
    exact .schema hp hrn hne hmain
  · have hqne : q ≠ [] := by
      rintro rfl
      exact hr (by simp [List.replicate_succ])
    rw [scanSchemaName_of_run hq ht, Text.escapeQuotes_append, Text.escapeQuotes_append,
      Text.escapeQuotes_of_not_mem hq, Text.escapeQuotes_replicate, ← List.singleton_append,
      ← List.append_assoc (List.replicate (2 * k) '$'), ← List.replicate_succ'] at h
    have hhead : ∀ u, (q ++ u : List Char).head? ≠ some '$' := by
      intro u
      rw [List.head?_append_of_ne_nil _ hqne]
      exact head?_ne_of_not_mem hq
    rw [List.append_assoc q, List.append_assoc q] at h
    obtain ⟨hk, h⟩ := Text.replicate_append_inj (hhead _) (hhead _) h
    rw [List.append_cancel_left_eq] at h
    obtain ⟨hj, ht'⟩ := Text.replicate_append_inj (Text.head?_escapeQuotes ht) ht h
    obtain rfl : k = 0 := by omega
    obtain rfl : j = 1 := by omega
    have := EncodesBack.dollarSchema hp hq (Text.escapeQuotes_eq_self_iff.1 ht') hqne
    simpa [List.replicate_succ] using this

/-- A `ddb$` name is refused or encodes back exactly when the text after the prefix is one of the
four kinds of `EncodesBack`; two such names that resolve to one pair are equal. -/
theorem PgSchemaName_pgduckdb_db_and_schema_iff (env : SchemaEnv)
    (hmd : env.motherduckEnabled = true) :
    (∀ m, DecodesFaithfully env ("ddb$".toList ++ m) ↔ EncodesBack m) ∧
    (∀ m m' db s, EncodesBack m → EncodesBack m' →
      pgduckdb_db_and_schema env ("ddb$".toList ++ m) (some "duckdb".toList) = .ok (db, s) →
      pgduckdb_db_and_schema env ("ddb$".toList ++ m') (some "duckdb".toList) = .ok (db, s) →
      m = m') := by
  constructor
  · intro m
    refine ⟨fun h => ?_, EncodesBack.decodesFaithfully hmd⟩
    rcases Text.exists_first_run '$' m with hm | ⟨p, k, r, rfl, hp, hr⟩
    · exact .db hm
    · by_cases hne : r = []
      · subst hne
        rw [List.append_nil]
        exact .trailing hp
      · exact encodesBack_of_run hmd hp hr hne h
  · intro m m' db s hm hm' h h'
    have key : ∀ x, EncodesBack x →
        pgduckdb_db_and_schema env ("ddb$".toList ++ x) (some "duckdb".toList) = .ok (db, s) →
        PgSchemaName db s false = "ddb$".toList ++ x := by
      intro x hx hdec
      rcases hx.decodesFaithfully hmd with he | ⟨db', s', hok, henc⟩
      · rw [hdec] at he; cases he
      · rw [hdec] at hok
        obtain ⟨rfl, rfl⟩ := Prod.mk.inj (Except.ok.inj hok)
        exact henc
    exact List.append_cancel_left ((key m hm h).symm.trans (key m' hm' h'))

/-- The name `ddb$db$a$$b` encodes back. -/
theorem PgSchemaName_encodes_back_at :
    DecodesFaithfully myDbEnv "ddb$db$a$$b".toList := by
  have h : EncodesBack "db$a$$b".toList :=
    .dollarSchema (p := "db".toList) (q := "a".toList) (t := "b".toList)
      (by decide) (by decide) (by decide) (by decide)
  exact ((PgSchemaName_pgduckdb_db_and_schema_iff myDbEnv rfl).1 _).2 h

/-- The name `ddb$a$$b` is read as the schema `b` of the database `a$`, which is written
`ddb$a$$$b`; and `ddb$a` and `ddb$a$main` resolve to one schema. -/
theorem pgduckdb_db_and_schema_not_undone :
    (pgduckdb_db_and_schema myDbEnv "ddb$a$$b".toList (some "duckdb".toList) =
        .ok ("a$".toList, "b".toList) ∧
      PgSchemaName "a$".toList "b".toList false ≠ "ddb$a$$b".toList) ∧
    pgduckdb_db_and_schema myDbEnv "ddb$a".toList (some "duckdb".toList) =
      pgduckdb_db_and_schema myDbEnv "ddb$a$main".toList (some "duckdb".toList) := by
  decide

end PgDuckdb
