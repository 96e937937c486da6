import PgDuckdb.Arrays.Append

/-!
# What the walk does

The walk goes from the outermost list down to its first child, that one's first child and so on. This first
descent (`descent`) sets every dimension that is ever set and allocates the buffers if it gets as far as
the leaves (`append_first`). Later lists find their dimension set (`append_later`). Each multiplication of
the expected values is made twice, so that after the dimensions `D` there is `D.prod ^ 2` modulo `2 ^ 64`.
-/

namespace PgDuckdb.Arrays

open Lib

section
variable {α Datum : Type} {ConvertToPostgres : (t : LogicalType) → Value α t → Except String Datum}
variable {N k n p : ℕ} {D ds : List ℕ} {s s' : PostgresArrayAppendState Datum}

/-! ## One list -/

/-- The lengths of the first dimensions are set, out of `N`. -/
def Known (N : ℕ) (D : List ℕ) (s : PostgresArrayAppendState Datum) : Prop :=
  s.dimensions = D.map (fun d : ℕ => (d : ℤ)) ++ List.replicate (N - D.length) (-1)

/-- The expected values are the square of what the lengths multiply to. -/
def Squared (D : List ℕ) (s : PostgresArrayAppendState Datum) : Prop :=
  s.expected_values = D.prod ^ 2 % 2 ^ 64

/-- The checked multiplication fails at a list of length `n`, below lists whose lengths multiply to `p`. -/
def Overflows (p n : ℕ) : Prop := 2 ^ 64 ≤ p ^ 2 * n % 2 ^ 64 * n

/-- Whether a multiplication overflows can be computed. -/
instance : Decidable (Overflows p n) := inferInstanceAs (Decidable (_ ≤ _))

/-- The length of a level that was seen. -/
theorem Known.getD_set (h : Known N D s) (hk : k < D.length) :
    s.dimensions.getD k 0 = (D[k] : ℤ) := by
  rw [h, List.getD_eq_getElem?_getD, List.getElem?_append_left (by simpa using hk), List.getElem?_map,
    List.getElem?_eq_getElem hk]
  rfl

/-- A level that was not seen has none. -/
theorem Known.getD_unset (h : Known N D s) (hN : D.length < N) : s.dimensions.getD D.length 0 = -1 := by
  rw [h, List.getD_eq_getElem?_getD, List.getElem?_append_right (by simp), List.length_map, Nat.sub_self,
    List.getElem?_replicate, if_pos (by omega)]
  rfl

/-- The next level gets its length. -/
theorem Known.set (h : Known N D s) (hN : D.length < N) :
    s.dimensions.set D.length n =
      (D ++ [n]).map (fun d : ℕ => (d : ℤ)) ++ List.replicate (N - (D ++ [n]).length) (-1) := by
  obtain ⟨r, hr⟩ : ∃ r, N - D.length = r + 1 := ⟨N - D.length - 1, by omega⟩
  have hr' : N - (D ++ [n]).length = r := by
    rw [List.length_append, List.length_singleton]
    omega
  rw [h, hr, hr', List.replicate_succ, List.set_append_right _ _ (by simp), List.length_map, Nat.sub_self,
    List.set_cons_zero, List.map_append, List.append_assoc]
  rfl

/-- A list is the first one of its dimension. -/
theorem setDimension_first (h : Known N D s) (hN : D.length < N) (hE : Squared D s) :
    Ends (setDimension D.length n) s
      (fun _ s' => n ≤ PG_INT32_MAX ∧ ¬Overflows D.prod n ∧ Known N (D ++ [n]) s' ∧ Squared (D ++ [n]) s' ∧
        s'.requested = s.requested ∧ s'.values = s.values)
      (fun e s' => s'.requested = s.requested ∧
        ((n > PG_INT32_MAX ∧ e = .TooManyValues n D.length ∧ s' = s) ∨
          (n ≤ PG_INT32_MAX ∧ Overflows D.prod n ∧ e = .WouldOverflow n D.length ∧ Known N (D ++ [n]) s'))) := by
  have hw : s.expected_values * n % 2 ^ 64 = D.prod ^ 2 * n % 2 ^ 64 := by rw [hE, Nat.mod_mul_mod]
  unfold Ends setDimension EStateM.run
  dsimp only
  by_cases hn : n > PG_INT32_MAX
  · rw [if_pos hn]
    exact ⟨rfl, .inl ⟨hn, rfl, rfl⟩⟩
  rw [if_neg hn, if_pos (h.getD_unset hN), hw]
  by_cases ho : D.prod ^ 2 * n % 2 ^ 64 * n ≥ 2 ^ 64
  · rw [if_pos ho]
    exact ⟨rfl, .inr ⟨Nat.not_lt.1 hn, ho, rfl, h.set hN⟩⟩
  · rw [if_neg ho]
    refine ⟨Nat.not_lt.1 hn, ho, h.set hN, ?_, rfl, rfl⟩
    have hlt := Nat.not_le.1 ho
    have hprod : (D ++ [n]).prod ^ 2 = D.prod ^ 2 * n * n := by
      rw [List.prod_append, List.prod_singleton]
      ring
    show _ = _ % _
    rw [hprod, ← Nat.mod_eq_of_lt hlt, Nat.mod_mul_mod]

/-- A list is not the first one of its dimension. -/
theorem setDimension_later (h : Known N D s) (hk : k < D.length) (hb : ∀ d ∈ D, d ≤ PG_INT32_MAX) :
    Ends (setDimension k n) s (fun _ s' => s' = s ∧ D[k]? = some n)
      (fun e s' => s' = s ∧ D[k]? ≠ some n ∧
        ((n > PG_INT32_MAX ∧ e = .TooManyValues n k) ∨ ∃ m, e = .WrongLength m k n)) := by
  have hget := h.getD_set hk
  have hset : ¬s.dimensions.getD k 0 = -1 := by
    rw [hget]
    omega
  have hd := hb _ (List.getElem_mem hk)
  unfold Ends setDimension EStateM.run
  dsimp only
  by_cases hn : n > PG_INT32_MAX
  · rw [if_pos hn]
    refine ⟨rfl, ?_, .inl ⟨hn, rfl⟩⟩
    rw [List.getElem?_eq_getElem hk, Ne, Option.some.injEq]
    omega
  rw [if_neg hn, if_neg hset]
  by_cases heq : s.dimensions.getD k 0 = n
  · rw [if_neg (not_not.2 heq)]
    refine ⟨rfl, ?_⟩
    rw [List.getElem?_eq_getElem hk, Option.some.injEq]
    omega
  · rw [if_pos heq]
    refine ⟨rfl, ?_, .inr ⟨_, rfl⟩⟩
    rw [List.getElem?_eq_getElem hk, Ne, Option.some.injEq]
    omega

/-! ## The leaves -/

/-- The state but for the values written. -/
structure SameArray (s s' : PostgresArrayAppendState Datum) : Prop where
  dimensions : s'.dimensions = s.dimensions
  expected_values : s'.expected_values = s.expected_values
  requested : s'.requested = s.requested

/-- Nothing that was written changes nothing. -/
theorem SameArray.refl (s : PostgresArrayAppendState Datum) : SameArray s s := ⟨rfl, rfl, rfl⟩

/-- Two steps that keep the array do so together. -/
theorem SameArray.trans {s'' : PostgresArrayAppendState Datum} (h : SameArray s s') (h' : SameArray s' s'') :
    SameArray s s'' :=
  ⟨h'.dimensions.trans h.dimensions, h'.expected_values.trans h.expected_values,
    h'.requested.trans h.requested⟩

/-- The lengths that are known stay so. -/
theorem Known.same (h : Known N D s) (hs : SameArray s s') : Known N D s' := hs.dimensions.trans h

/-- What was written since are these leaves, all converted. -/
def Wrote (xs : List (Option (Except String Datum))) (s s' : PostgresArrayAppendState Datum) : Prop :=
  ∃ els, xs = els.map (Option.map .ok) ∧ s'.values = s.values ++ els

/-- Nothing was written where the values are the same. -/
theorem Wrote.nil (h : s'.values = s.values) : Wrote [] s s' := ⟨[], rfl, by rw [h, List.append_nil]⟩

/-- What two steps write is written one after the other. -/
theorem Wrote.append {xs ys : List (Option (Except String Datum))} {s'' : PostgresArrayAppendState Datum}
    (h : Wrote xs s s') (h' : Wrote ys s' s'') : Wrote (xs ++ ys) s s'' := by
  obtain ⟨us, rfl, hu⟩ := h
  obtain ⟨vs, rfl, hv⟩ := h'
  exact ⟨us ++ vs, by rw [List.map_append], by rw [hv, hu, List.append_assoc]⟩

/-- A leaf is written, or its conversion throws. -/
theorem appendLeaf_ends (t : LogicalType) (v : Value α t) (s : PostgresArrayAppendState Datum) :
    Ends (appendLeaf ConvertToPostgres t v) s
      (fun _ s' => SameArray s s' ∧ Wrote [leaf ConvertToPostgres t v] s s')
      (fun e s' => SameArray s s' ∧ ∃ text, e = .Conversion text ∧
        leaf ConvertToPostgres t v = some (.error text)) := by
  unfold appendLeaf leaf
  split
  next => exact ⟨⟨rfl, rfl, rfl⟩, [none], rfl, rfl⟩
  next =>
    cases h : ConvertToPostgres t v with
    | ok d => exact ⟨⟨rfl, rfl, rfl⟩, [some d], rfl, rfl⟩
    | error text => exact ⟨SameArray.refl s, text, rfl, rfl⟩

/-- Leaves are written in order up to one whose conversion throws. -/
theorem appendLeaves_ends (t : LogicalType) (values : List (Value α t)) (s : PostgresArrayAppendState Datum) :
    Ends (values.forM (appendLeaf ConvertToPostgres t)) s
      (fun _ s' => SameArray s s' ∧ Wrote (values.map (leaf ConvertToPostgres t)) s s')
      (fun e s' => SameArray s s' ∧ ∃ text, e = .Conversion text ∧
        some (.error text) ∈ values.map (leaf ConvertToPostgres t)) := by
  induction values generalizing s with
  | nil => exact ⟨SameArray.refl s, Wrote.nil rfl⟩
  | cons v values ih =>
    refine Ends.seq ((appendLeaf_ends t v s).mono (fun _ s' h => h) ?_) ?_
    · rintro e s' ⟨hs, text, he, hl⟩
      exact ⟨hs, text, he, hl ▸ List.mem_cons_self⟩
    · rintro _ s₁ ⟨hs, hw⟩
      refine (ih s₁).mono ?_ ?_
      · rintro _ s₂ ⟨hs', hw'⟩
        exact ⟨hs.trans hs', hw.append hw'⟩
      · rintro e s₂ ⟨hs', text, he, hl⟩
        exact ⟨hs.trans hs', text, he, List.mem_cons_of_mem _ hl⟩

/-! ## Lengths that fit -/

/-- All lists have the lengths `ds`, level by level, and none is NULL. -/
def Agrees (child_type : LogicalType) (values : Children α child_type) (ds : List ℕ) : Prop :=
  ∀ level, ∀ x ∈ lists false child_type values level, ∃ n, x = some n ∧ ds[level]? = some n

/-- How many levels the walk descends from a list with children of a type. -/
def depth : LogicalType → ℕ
  | .LIST child => depth child + 1
  | .LEAF => 1
  | .ARRAY _ _ => 1

/-- There is at least one level. -/
theorem depth_pos (t : LogicalType) : 0 < depth t := by
  cases t <;> exact Nat.succ_pos _

/-- NULL agrees with no lengths. -/
theorem not_agrees_none {c : LogicalType} : ¬Agrees (α := α) c none ds := by
  intro h
  have hm : none ∈ lists (α := α) false c none 0 := by
    cases c <;> exact List.mem_singleton_self none
  obtain ⟨n, hn, -⟩ := h 0 _ hm
  cases hn

/-- The type of what the walk takes for leaves. -/
def Last (c : LogicalType) : Prop := ∀ child, c ≠ .LIST child

/-- A type that is no list is the last level. -/
theorem last_leaf : Last .LEAF := by
  intro child h
  cases h

/-- So is an array of fixed length. -/
theorem last_array {c : LogicalType} {size : ℕ+} : Last (.ARRAY c size) := by
  intro child h
  cases h

/-- The first level has one list. -/
theorem lists_zero {c : LogicalType} {values : List (Value α c)} :
    lists false c (some values) 0 = [some values.length] := by
  cases c <;> rfl

/-- A list of the last level that the walk knows. -/
theorem agrees_last {c : LogicalType} {values : List (Value α c)} (hc : Last c) :
    Agrees c (some values) ds ↔ ds[0]? = some values.length := by
  have hsucc : ∀ level, lists false c (some values) (level + 1) = [] := by
    intro level
    cases c with
    | LEAF => rfl
    | ARRAY child size => rfl
    | LIST child => exact absurd rfl (hc child)
  constructor
  · intro h
    obtain ⟨n, hn, hd⟩ := h 0 _ ((@lists_zero _ _ values).symm ▸ List.mem_singleton_self _)
    rw [hd, ← hn]
  · intro h level x hx
    cases level with
    | zero =>
      rw [lists_zero, List.mem_singleton] at hx
      exact ⟨_, hx, h⟩
    | succ level =>
      rw [hsucc] at hx
      cases hx

/-- A list of lists agrees level by level. -/
theorem agrees_list {c : LogicalType} {values : List (Value α (.LIST c))} :
    Agrees (.LIST c) (some values) ds ↔
      ds[0]? = some values.length ∧ ∀ v ∈ values, Agrees c v.listChildren ds.tail := by
  have hsucc : ∀ level, lists false (.LIST c) (some values) (level + 1) =
      values.flatMap fun v => lists false c v.listChildren level := fun _ => rfl
  constructor
  · intro h
    obtain ⟨n, hn, hd⟩ := h 0 _ ((@lists_zero _ _ values).symm ▸ List.mem_singleton_self _)
    refine ⟨by rw [hd, ← hn], fun v hv level x hx => ?_⟩
    obtain ⟨n, hn, hd⟩ := h (level + 1) x (by
      rw [hsucc]
      exact List.mem_flatMap.2 ⟨v, hv, hx⟩)
    exact ⟨n, hn, by rw [List.getElem?_tail, hd]⟩
  · rintro ⟨h, hvs⟩ level x hx
    cases level with
    | zero =>
      rw [lists_zero, List.mem_singleton] at hx
      exact ⟨_, hx, h⟩
    | succ level =>
      rw [hsucc] at hx
      obtain ⟨v, hv, hx⟩ := List.mem_flatMap.1 hx
      obtain ⟨n, hn, hd⟩ := hvs v hv level x hx
      exact ⟨n, hn, by rw [← List.getElem?_tail, hd]⟩

/-- What is thrown for a size is thrown for a good reason: what the lengths multiply to, down to the list
that is turned down, is more than the limit. -/
def Justified (D : List ℕ) : ArrayError → Prop
  | .TooManyValues n dimension => (D.take dimension).prod * n * 8 > MaxAllocSize
  | .WouldOverflow _ _ => D.prod ≥ 2 ^ 64
  | .InvalidAllocSize _ => D.prod * 8 > MaxAllocSize
  | _ => True

/-- Too many values, with no list before them empty. -/
theorem justified_tooMany (h : ∀ d ∈ D.take k, 0 < d) (hn : n > PG_INT32_MAX) :
    Justified D (.TooManyValues n k) := by
  have hp : 0 < (D.take k).prod := List.prod_pos_iff_forall_pos_nat.2 h
  have hle : n ≤ (D.take k).prod * n := Nat.le_mul_of_pos_left n hp
  rw [Justified, MaxAllocSize]
  rw [PG_INT32_MAX] at hn
  omega

/-! ## Later lists -/

/-- A list of dimension `k`, whose length is set. Either all dimensions below it are set too and the buffers
are allocated, or the last one that is set is of length zero. -/
structure Later (N : ℕ) (D : List ℕ) (k : ℕ) (c : LogicalType) (s : PostgresArrayAppendState Datum) : Prop where
  known : Known N D s
  lt : k < D.length
  bounded : ∀ d ∈ D, d ≤ PG_INT32_MAX
  above : ∀ d ∈ D.take k, 0 < d
  le : D.length ≤ k + depth c
  full : D.length = k + depth c → s.requested.isSome
  empty : D.length < k + depth c → D.getLast? = some 0

/-- A level that was seen before stays so. -/
theorem Later.same {c : LogicalType} (h : Later N D k c s) (hs : SameArray s s') : Later N D k c s' where
  known := h.known.same hs
  lt := h.lt
  bounded := h.bounded
  above := h.above
  le := h.le
  full hf := by
    rw [hs.requested]
    exact h.full hf
  empty := h.empty

/-- The children of such a list are such lists, if it has any. -/
theorem Later.child {c : LogicalType} (h : Later N D k (.LIST c) s) (hn : D[k]? = some n) (hpos : 0 < n) :
    Later N D (k + 1) c s := by
  have hdep : k + depth (.LIST c) = k + 1 + depth c := by
    rw [depth]
    omega
  have hlt : k + 1 < D.length := by
    by_contra hge
    have hk := h.lt
    have hlast := h.empty (by
      have := depth_pos c
      omega)
    rw [List.getLast?_eq_getElem?, show D.length - 1 = k by omega, hn] at hlast
    cases hlast
    omega
  refine ⟨h.known, hlt, h.bounded, ?_, hdep ▸ h.le, fun hf => h.full (hdep ▸ hf), fun hf => h.empty (hdep ▸ hf)⟩
  intro d hd
  rw [List.take_add_one, hn] at hd
  rcases List.mem_append.1 hd with hd | hd
  · exact h.above d hd
  · rw [List.mem_singleton.1 hd]
    exact hpos

/-- A list of a level that was seen has the length, or else the exception is justified. -/
theorem setDimension_later_justified {c : LogicalType} (h : Later N D k c s) :
    Ends (setDimension k n) s (fun _ s' => s' = s ∧ D[k]? = some n)
      (fun e s' => SameArray s s' ∧ Justified D e ∧ D[k]? ≠ some n) := by
  refine (setDimension_later h.known h.lt h.bounded).mono (fun _ _ h => h) ?_
  rintro e _ ⟨rfl, hne, ⟨hn, rfl⟩ | ⟨m, rfl⟩⟩
  · exact ⟨SameArray.refl _, justified_tooMany h.above hn, hne⟩
  · exact ⟨SameArray.refl _, trivial, hne⟩

/-- With the buffers there, nothing is allocated. -/
theorem allocateBuffers_later (h : s.requested.isSome)
    {E : ArrayError → PostgresArrayAppendState Datum → Prop} :
    Ends allocateBuffers s (fun _ s' => s' = s) E := by
  have hn : ¬s.requested.isNone := by
    rw [Option.isNone_iff_eq_none]
    intro hn
    rw [hn] at h
    cases h
  unfold Ends allocateBuffers EStateM.run
  dsimp only
  rw [if_neg hn]

section
variable (ConvertToPostgres)

/-- NULL has no children. -/
theorem append_none (c : LogicalType) (k : ℕ) :
    AppendValueAtDimension (α := α) ConvertToPostgres c none k = throw .NullChildren := by
  cases c <;> rfl

/-- The last level is counted, its buffers are allocated, and its leaves written. -/
theorem append_last {c : LogicalType} (hc : Last c) (values : List (Value α c)) (k : ℕ) :
    AppendValueAtDimension ConvertToPostgres c (some values) k = (do
      setDimension k values.length
      allocateBuffers
      values.forM (appendLeaf ConvertToPostgres c)) := by
  cases c with
  | LEAF => rfl
  | ARRAY child size => rfl
  | LIST child => exact absurd rfl (hc child)

/-- The leaves of the last level are its values. -/
theorem leaves_last {c : LogicalType} (hc : Last c) (values : List (Value α c)) :
    leaves ConvertToPostgres false c (some values) = values.map (leaf ConvertToPostgres c) := by
  cases c with
  | LEAF => rfl
  | ARRAY child size => rfl
  | LIST child => exact absurd rfl (hc child)

/-- One round of the loop over the lists of an intermediate level. -/
def appendChild (c : LogicalType) (k : ℕ) (child_val : Value α (.LIST c)) : Walk Datum Unit := do
  if child_val.IsNull then throw .NullAtIntermediateDimension
  AppendValueAtDimension ConvertToPostgres c child_val.listChildren k

/-- Another level is counted, and its children are walked through. -/
theorem append_list (c : LogicalType) (values : List (Value α (.LIST c))) (k : ℕ) :
    AppendValueAtDimension ConvertToPostgres (.LIST c) (some values) k = (do
      setDimension k values.length
      values.forM (appendChild ConvertToPostgres c (k + 1))) := rfl

end

/-- The lengths on the way start with that of the level. -/
theorem head_of_prefix (hk : k < D.length) (hds : D.drop k <+: ds) : ds[0]? = D[k]? := by
  obtain ⟨t, rfl⟩ := hds
  have hlen : 0 < (D.drop k).length := by
    rw [List.length_drop]
    omega
  rw [List.getElem?_append_left hlen, List.getElem?_drop, Nat.add_zero]

/-- A later list of the last level. -/
theorem append_later_last {c : LogicalType} (hc : Last c) (hd : depth c = 1)
    (values : List (Value α c)) (h : Later N D k c s) :
    Ends (AppendValueAtDimension ConvertToPostgres c (some values) k) s
      (fun _ s' => SameArray s s' ∧ Agrees c (some values) (D.drop k) ∧
        Wrote (leaves ConvertToPostgres false c (some values)) s s')
      (fun e s' => SameArray s s' ∧ Justified D e ∧
        ((∀ ds, D.drop k <+: ds → ¬Agrees c (some values) ds) ∨
          Unconvertible ConvertToPostgres false c (some values))) := by
  rw [append_last _ hc]
  refine Ends.seq ((setDimension_later_justified h).mono (fun _ _ h => h) ?_) ?_
  · rintro e s' ⟨hs, hj, hne⟩
    refine ⟨hs, hj, .inl fun ds hds ha => hne ?_⟩
    rw [← head_of_prefix h.lt hds, (agrees_last hc).1 ha]
  rintro _ s₁ ⟨hs₁, hn⟩
  subst hs₁
  have hreq : s₁.requested.isSome := h.full (by
    have h₁ := h.lt
    have h₂ := h.le
    omega)
  refine Ends.seq (allocateBuffers_later hreq) ?_
  rintro _ s₂ rfl
  refine (appendLeaves_ends c values s₂).mono ?_ ?_
  · rintro _ s' ⟨hs, hw⟩
    refine ⟨hs, (agrees_last hc).2 ?_, leaves_last ConvertToPostgres hc values ▸ hw⟩
    rw [List.getElem?_drop, Nat.add_zero, hn]
  · rintro e s' ⟨hs, text, rfl, hl⟩
    exact ⟨hs, trivial, .inr ⟨text, leaves_last ConvertToPostgres hc values ▸ hl⟩⟩

/-- What a later list ends with. -/
def LaterEnds (ConvertToPostgres : (t : LogicalType) → Value α t → Except String Datum) (D : List ℕ) (k : ℕ)
    (c : LogicalType) (values : Children α c) (walk : Walk Datum Unit) (s : PostgresArrayAppendState Datum) :
    Prop :=
  Ends walk s
    (fun _ s' => SameArray s s' ∧ Agrees c values (D.drop k) ∧
      Wrote (leaves ConvertToPostgres false c values) s s')
    (fun e s' => SameArray s s' ∧ Justified D e ∧
      ((∀ ds, D.drop k <+: ds → ¬Agrees c values ds) ∨ Unconvertible ConvertToPostgres false c values))

/-- NULL has no children. -/
theorem listChildren_of_isNull {c : LogicalType} {v : Value α (.LIST c)} (h : v.IsNull) :
    v.listChildren = none := Option.isNone_iff_eq_none.1 h

/-- A child that is a later list. -/
theorem appendChild_later {c : LogicalType} {v : Value α (.LIST c)}
    (h : LaterEnds ConvertToPostgres D k c v.listChildren
      (AppendValueAtDimension ConvertToPostgres c v.listChildren k) s) :
    LaterEnds ConvertToPostgres D k c v.listChildren (appendChild ConvertToPostgres c k v) s := by
  unfold appendChild
  split
  next hv =>
    rw [listChildren_of_isNull hv]
    exact ⟨SameArray.refl s, trivial, .inl fun _ _ => not_agrees_none⟩
  next => exact h

/-- The lists of an intermediate level one after the other, none of them the first of its dimension. -/
theorem appendChildren_later {c : LogicalType} {values todo : List (Value α (.LIST c))}
    (hsub : ∀ v ∈ todo, v ∈ values)
    (h : ∀ v ∈ todo, ∀ s', SameArray s s' → LaterEnds ConvertToPostgres D (k + 1) c v.listChildren
      (appendChild ConvertToPostgres c (k + 1) v) s') :
    Ends (todo.forM (appendChild ConvertToPostgres c (k + 1))) s
      (fun _ s' => SameArray s s' ∧ (∀ v ∈ todo, Agrees c v.listChildren (D.drop (k + 1))) ∧
        Wrote (todo.flatMap fun v => leaves ConvertToPostgres false c v.listChildren) s s')
      (fun e s' => SameArray s s' ∧ Justified D e ∧
        ((∃ v ∈ values, ∀ ds, D.drop (k + 1) <+: ds → ¬Agrees c v.listChildren ds) ∨
          ∃ v ∈ values, Unconvertible ConvertToPostgres false c v.listChildren)) := by
  induction todo generalizing s with
  | nil => exact ⟨SameArray.refl s, fun _ hv => absurd hv List.not_mem_nil, Wrote.nil rfl⟩
  | cons v todo ih =>
    have hv := h v List.mem_cons_self s (SameArray.refl s)
    refine Ends.seq (Ends.mono hv (fun _ _ h => h) ?_) ?_
    · rintro e s' ⟨hs, hj, hw⟩
      exact ⟨hs, hj, hw.imp (fun hw => ⟨v, hsub v List.mem_cons_self, hw⟩)
        fun hw => ⟨v, hsub v List.mem_cons_self, hw⟩⟩
    · rintro _ s₁ ⟨hs, ha, hw⟩
      refine (ih (fun u hu => hsub u (List.mem_cons_of_mem _ hu))
        fun u hu s' hs' => h u (List.mem_cons_of_mem _ hu) s' (hs.trans hs')).mono ?_ ?_
      · rintro _ s₂ ⟨hs', ha', hw'⟩
        refine ⟨hs.trans hs', fun u hu => ?_, hw.append hw'⟩
        rcases List.mem_cons.1 hu with rfl | hu
        · exact ha
        · exact ha' u hu
      · rintro e s₂ ⟨hs', hj, hw'⟩
        exact ⟨hs.trans hs', hj, hw'⟩

/-- A list that one of its lists does not fit into fits nowhere. -/
theorem not_agrees_of_child {c : LogicalType} {values : List (Value α (.LIST c))} {v : Value α (.LIST c)}
    (hv : v ∈ values) (h : ¬Agrees c v.listChildren ds.tail) : ¬Agrees (.LIST c) (some values) ds :=
  fun ha => h ((agrees_list.1 ha).2 v hv)

/-- A leaf of a child is one of the list. -/
theorem unconvertible_of_child {c : LogicalType} {values : List (Value α (.LIST c))} {v : Value α (.LIST c)}
    (hv : v ∈ values) (h : Unconvertible ConvertToPostgres false c v.listChildren) :
    Unconvertible ConvertToPostgres false (.LIST c) (some values) := by
  obtain ⟨text, ht⟩ := h
  exact ⟨text, List.mem_flatMap.2 ⟨v, hv, ht⟩⟩

/-- A later list is like the first one of its dimension, or something is thrown that is its own fault. -/
theorem append_later (c : LogicalType) (values : Children α c) (h : Later N D k c s) :
    LaterEnds ConvertToPostgres D k c values (AppendValueAtDimension ConvertToPostgres c values k) s := by
  cases values with
  | none =>
    rw [append_none]
    exact ⟨SameArray.refl s, trivial, .inl fun _ _ => not_agrees_none⟩
  | some values =>
  induction c generalizing k s with
  | LEAF => exact append_later_last last_leaf rfl values h
  | ARRAY c size => exact append_later_last last_array rfl values h
  | LIST c ih =>
    rw [append_list]
    refine Ends.seq ((setDimension_later_justified h).mono (fun _ _ h => h) ?_) ?_
    · rintro e s' ⟨hs, hj, hne⟩
      refine ⟨hs, hj, .inl fun ds hds ha => hne ?_⟩
      rw [← head_of_prefix h.lt hds, (agrees_list.1 ha).1]
    rintro _ s₁ ⟨hs₁, hn⟩
    subst hs₁
    have htail : ∀ {ds : List ℕ}, D.drop k <+: ds → D.drop (k + 1) <+: ds.tail := by
      rintro _ ⟨t, rfl⟩
      have hlt := h.lt
      refine ⟨t, ?_⟩
      rw [List.drop_eq_getElem_cons hlt, List.cons_append, List.tail_cons]
    have hround : ∀ v ∈ values, ∀ s', SameArray s₁ s' → LaterEnds ConvertToPostgres D (k + 1) c v.listChildren
        (appendChild ConvertToPostgres c (k + 1) v) s' := by
      intro v hv s' hs'
      have hl := (h.child hn (List.length_pos_of_mem hv)).same hs'
      refine appendChild_later ?_
      cases hc : v.listChildren with
      | none =>
        rw [append_none]
        exact ⟨SameArray.refl s', trivial, .inl fun _ _ => not_agrees_none⟩
      | some us => exact ih hl us
    refine (appendChildren_later (fun _ hv => hv) hround).mono ?_ ?_
    · rintro _ s' ⟨hs, ha, hw⟩
      refine ⟨hs, agrees_list.2 ⟨?_, ?_⟩, hw⟩
      · rw [List.getElem?_drop, Nat.add_zero, hn]
      · rw [List.tail_drop]
        exact ha
    · rintro e s' ⟨hs, hj, ⟨v, hv, hw⟩ | ⟨v, hv, hw⟩⟩
      · exact ⟨hs, hj, .inl fun ds hds => not_agrees_of_child hv (hw _ (htail hds))⟩
      · exact ⟨hs, hj, .inr (unconvertible_of_child hv hw)⟩

/-! ## The first descent -/

/-- Where the first descent ends: at the leaves, at a list without children, at NULL, at a list that is too
long, or where the multiplication is seen to overflow. -/
inductive DescentEnd
  | leaves
  | empty
  | null
  | tooMany
  | overflow

/-- A list of length `n`, and the descent below it. -/
def descend (p n : ℕ) (below : DescentEnd × List ℕ) : DescentEnd × List ℕ :=
  if n > PG_INT32_MAX then (.tooMany, [])
  else if Overflows p n then (.overflow, [n])
  else (below.1, n :: below.2)

/-- From a list to its first child and so on, below lists whose lengths multiply to `p`: where this ends,
and the lengths of the lists on the way. -/
def descent : (child_type : LogicalType) → ℕ → Children α child_type → DescentEnd × List ℕ
  | _, _, none => (.null, [])
  | .LIST child, p, some values => descend p values.length <| match values.head? with
    | none => (.empty, [])
    | some v => descent child (p * values.length) v.listChildren
  | .LEAF, p, some values => descend p values.length (.leaves, [])
  | .ARRAY _ _, p, some values => descend p values.length (.leaves, [])

/-- Postgres allocates both buffers. -/
def Fits (m : ℕ) : Prop := m * 8 % 2 ^ 64 ≤ MaxAllocSize ∧ m ≤ MaxAllocSize

/-- The buffers are allocated where they fit. -/
theorem allocateBuffers_first (h : s.requested = none) :
    Ends allocateBuffers s (fun _ s' => s' = { s with requested := some s.expected_values } ∧ Fits s.expected_values)
      (fun e s' => s' = { s with requested := some s.expected_values } ∧ ¬Fits s.expected_values ∧
        ∃ size, e = .InvalidAllocSize size) := by
  have hn : s.requested.isNone := by
    rw [h]
    rfl
  unfold Ends allocateBuffers EStateM.run
  dsimp only
  rw [if_pos hn]
  by_cases h₁ : s.expected_values * 8 % 2 ^ 64 > MaxAllocSize
  · rw [if_pos h₁]
    exact ⟨rfl, fun hf => absurd hf.1 (Nat.not_le.2 h₁), _, rfl⟩
  rw [if_neg h₁]
  by_cases h₂ : s.expected_values > MaxAllocSize
  · rw [if_pos h₂]
    exact ⟨rfl, fun hf => absurd hf.2 (Nat.not_le.2 h₂), _, rfl⟩
  · rw [if_neg h₂]
    exact ⟨rfl, Nat.not_lt.1 h₁, Nat.not_lt.1 h₂⟩

/-- The first descent ends at NULL. -/
theorem descent_none {c : LogicalType} : descent (α := α) c p none = (.null, []) := by
  cases c <;> rfl

/-- It ends at the leaves. -/
theorem descent_last {c : LogicalType} (hc : Last c) (values : List (Value α c)) :
    descent c p (some values) = descend p values.length (.leaves, []) := by
  cases c with
  | LEAF => rfl
  | ARRAY child size => rfl
  | LIST child => exact absurd rfl (hc child)

/-- The last level is one level. -/
theorem depth_last {c : LogicalType} (hc : Last c) : depth c = 1 := by
  cases c with
  | LEAF => rfl
  | ARRAY child size => rfl
  | LIST child => exact absurd rfl (hc child)

/-- It ends at an empty list. -/
theorem descent_nil {c : LogicalType} :
    descent (.LIST c) p (some ([] : List (Value α (.LIST c)))) = descend p 0 (.empty, []) := rfl

/-- It goes on into the first child. -/
theorem descent_cons {c : LogicalType} {v : Value α (.LIST c)} {values : List (Value α (.LIST c))} :
    descent (.LIST c) p (some (v :: values)) =
      descend p (v :: values).length (descent c (p * (v :: values).length) v.listChildren) := rfl

/-- The lengths on the descent are the first ones. -/
theorem descend_prefix {below : DescentEnd × List ℕ} (hn : ds[0]? = some n) (hb : below.2 <+: ds.tail) :
    (descend p n below).2 <+: ds := by
  cases ds with
  | nil => cases hn
  | cons d ds =>
    cases hn
    unfold descend
    split
    · exact List.nil_prefix
    · split
      · exact List.cons_prefix_cons.2 ⟨rfl, List.nil_prefix⟩
      · exact List.cons_prefix_cons.2 ⟨rfl, hb⟩

/-- The descent reads the lengths that every list of its level has to have. -/
theorem descent_prefix {c : LogicalType} {values : Children α c} (h : Agrees c values ds) :
    (descent c p values).2 <+: ds := by
  induction c generalizing p ds with
  | LEAF =>
    cases values with
    | none => exact absurd h not_agrees_none
    | some values => exact descend_prefix ((agrees_last last_leaf).1 h) List.nil_prefix
  | ARRAY c size =>
    cases values with
    | none => exact absurd h not_agrees_none
    | some values => exact descend_prefix ((agrees_last last_array).1 h) List.nil_prefix
  | LIST c ih =>
    cases values with
    | none => exact absurd h not_agrees_none
    | some values =>
      obtain ⟨hn, hvs⟩ := agrees_list.1 h
      cases values with
      | nil => exact descend_prefix hn List.nil_prefix
      | cons v values => exact descend_prefix hn (ih (hvs v List.mem_cons_self))

/-- The first list of its dimension, below dimensions of the lengths `D`, was walked without an exception. -/
structure FirstReturned (ConvertToPostgres : (t : LogicalType) → Value α t → Except String Datum) (N : ℕ)
    (D : List ℕ) (c : LogicalType) (values : Children α c) (d : DescentEnd × List ℕ)
    (s s' : PostgresArrayAppendState Datum) : Prop where
  known : Known N (D ++ d.2) s'
  squared : Squared (D ++ d.2) s'
  bounded : ∀ n ∈ d.2, n ≤ PG_INT32_MAX
  agrees : Agrees c values d.2
  wrote : Wrote (leaves ConvertToPostgres false c values) s s'
  ended : (d.1 = .leaves ∧ d.2.length = depth c ∧ s'.requested = some s'.expected_values ∧
      Fits s'.expected_values) ∨
    (d.1 = .empty ∧ d.2.length < depth c ∧ s'.requested = none ∧ (D ++ d.2).getLast? = some 0)

/-- What was thrown is the fault of the value. -/
def Blamed (ConvertToPostgres : (t : LogicalType) → Value α t → Except String Datum) (D : List ℕ)
    (c : LogicalType) (values : Children α c) (e : ArrayError) : Prop :=
  Justified D e ∧ ((∀ ds, ¬Agrees c values ds) ∨ Unconvertible ConvertToPostgres false c values)

/-- The first list of its dimension ended the walk with an exception. -/
def FirstThrew (ConvertToPostgres : (t : LogicalType) → Value α t → Except String Datum) (N : ℕ)
    (D : List ℕ) (c : LogicalType) (values : Children α c) (d : DescentEnd × List ℕ)
    (e : ArrayError) (s' : PostgresArrayAppendState Datum) : Prop :=
  Known N (D ++ d.2) s' ∧ match d.1 with
    | .overflow => s'.requested = none ∧ ∃ n k, e = .WouldOverflow n k
    | .tooMany => s'.requested = none ∧ Justified (D ++ d.2) e
    | .leaves => s'.requested = some ((D ++ d.2).prod ^ 2 % 2 ^ 64) ∧
      (Blamed ConvertToPostgres (D ++ d.2) c values e ∨
        (¬Fits ((D ++ d.2).prod ^ 2 % 2 ^ 64) ∧ ∃ size, e = .InvalidAllocSize size))
    | _ => s'.requested = none ∧ Blamed ConvertToPostgres (D ++ d.2) c values e

/-- The outermost list, or the first child of a list that was the first one itself. -/
structure First (N : ℕ) (D : List ℕ) (c : LogicalType) (s : PostgresArrayAppendState Datum) : Prop where
  known : Known N D s
  le : D.length + depth c ≤ N
  squared : Squared D s
  requested : s.requested = none
  bounded : ∀ d ∈ D, d ≤ PG_INT32_MAX
  pos : ∀ d ∈ D, 0 < d

/-- The first list of a level sets its length, unless that is too large. -/
theorem setDimension_first_ends {c : LogicalType} (h : First N D c s) (values : List (Value α c))
    (below : DescentEnd × List ℕ) :
    Ends (setDimension D.length values.length) s
      (fun _ s' => descend D.prod values.length below = (below.1, values.length :: below.2) ∧
        values.length ≤ PG_INT32_MAX ∧ Known N (D ++ [values.length]) s' ∧ Squared (D ++ [values.length]) s' ∧
        s'.requested = none ∧ s'.values = s.values)
      (FirstThrew ConvertToPostgres N D c (some values) (descend D.prod values.length below)) := by
  have hlt : D.length < N := by
    have h₁ := h.le
    have h₂ := depth_pos c
    omega
  unfold descend
  refine (setDimension_first h.known hlt h.squared).mono ?_ ?_
  · rintro _ s' ⟨hn, ho, hk, hE, hr, hv⟩
    exact ⟨by rw [if_neg (Nat.not_lt.2 hn), if_neg ho], hn, hk, hE, hr.trans h.requested, hv⟩
  · rintro e s' ⟨hr, ⟨hn, rfl, rfl⟩ | ⟨hn, ho, rfl, hk⟩⟩
    · rw [if_pos hn]
      refine ⟨by simpa using h.known, h.requested, ?_⟩
      have hpos : ∀ d ∈ (D ++ []).take D.length, 0 < d := by simpa using h.pos
      exact justified_tooMany hpos hn
    · rw [if_neg (Nat.not_lt.2 hn), if_pos ho]
      exact ⟨hk, hr.trans h.requested, _, _, rfl⟩

/-- The first list of the last level. -/
theorem append_first_last {c : LogicalType} (hc : Last c) (values : List (Value α c)) (h : First N D c s) :
    Ends (AppendValueAtDimension ConvertToPostgres c (some values) D.length) s
      (fun _ => FirstReturned ConvertToPostgres N D c (some values) (descent c D.prod (some values)) s)
      (FirstThrew ConvertToPostgres N D c (some values) (descent c D.prod (some values))) := by
  rw [append_last _ hc, descent_last hc]
  refine Ends.seq (setDimension_first_ends h values _) ?_
  rintro _ s₁ ⟨hd, hn, hk, hE, hr, hv⟩
  rw [hd]
  have hag : Agrees c (some values) [values.length] := (agrees_last hc).2 rfl
  refine Ends.seq ((allocateBuffers_first hr).mono (fun _ _ h => h) ?_) ?_
  · rintro e s' ⟨rfl, hf, size, rfl⟩
    rw [hE] at hf
    exact ⟨hk, congrArg some hE, .inr ⟨hf, size, rfl⟩⟩
  rintro _ s₂ ⟨rfl, hf⟩
  refine (appendLeaves_ends c values _).mono ?_ ?_
  · rintro _ s' ⟨hs, els, hels, hw⟩
    refine ⟨hs.dimensions.trans hk, hs.expected_values.trans hE, ?_, hag, ⟨els, ?_, ?_⟩, .inl ⟨rfl, ?_, ?_, ?_⟩⟩
    · intro m hm
      rw [List.mem_singleton.1 hm]
      exact hn
    · rw [leaves_last ConvertToPostgres hc, hels]
    · rw [hw, hv]
    · rw [depth_last hc]
      rfl
    · rw [hs.requested, hs.expected_values]
    · rw [hs.expected_values]
      exact hf
  · rintro e s' ⟨hs, text, rfl, hl⟩
    refine ⟨hs.dimensions.trans hk, hs.requested.trans (congrArg some hE), .inl ⟨trivial, .inr ⟨text, ?_⟩⟩⟩
    rw [leaves_last ConvertToPostgres hc]
    exact hl

/-- The fault of a child is that of the list. -/
theorem Blamed.of_child {c : LogicalType} {v : Value α (.LIST c)} {values : List (Value α (.LIST c))}
    {e : ArrayError} (hv : v ∈ values) (h : Blamed ConvertToPostgres D c v.listChildren e) :
    Blamed ConvertToPostgres D (.LIST c) (some values) e :=
  ⟨h.1, h.2.imp (fun h _ => not_agrees_of_child hv (h _)) (unconvertible_of_child hv)⟩

/-- What the first child throws, its list throws. -/
theorem FirstThrew.of_child {c : LogicalType} {v : Value α (.LIST c)} {values : List (Value α (.LIST c))}
    {d : DescentEnd × List ℕ} {e : ArrayError} (hv : v ∈ values)
    (h : FirstThrew ConvertToPostgres N (D ++ [n]) c v.listChildren d e s') :
    FirstThrew ConvertToPostgres N D (.LIST c) (some values) (d.1, n :: d.2) e s' := by
  unfold FirstThrew at h ⊢
  rw [List.append_assoc, List.singleton_append] at h
  refine ⟨h.1, ?_⟩
  have h := h.2
  cases hd : d.1 with
  | overflow =>
    rw [hd] at h
    exact h
  | tooMany =>
    rw [hd] at h
    exact h
  | leaves =>
    rw [hd] at h
    exact ⟨h.1, h.2.imp_left (Blamed.of_child hv)⟩
  | empty =>
    rw [hd] at h
    exact ⟨h.1, h.2.of_child hv⟩
  | null =>
    rw [hd] at h
    exact ⟨h.1, h.2.of_child hv⟩

/-- After the first child, the others find their dimension set. -/
theorem FirstReturned.later {c : LogicalType} {values : Children α c} {d : DescentEnd × List ℕ}
    (h : FirstReturned ConvertToPostgres N (D ++ [n]) c values d s s') (hpos : ∀ m ∈ D ++ [n], 0 < m)
    (hb : ∀ m ∈ D ++ [n], m ≤ PG_INT32_MAX) : Later N (D ++ [n] ++ d.2) (D.length + 1) c s' := by
  have hlen : (D ++ [n] ++ d.2).length = D.length + 1 + d.2.length := by
    rw [List.length_append, List.length_append, List.length_singleton]
  have hdep := depth_pos c
  refine ⟨h.known, ?_, ?_, ?_, ?_, ?_, ?_⟩
  · rcases h.ended with ⟨-, hl, -⟩ | ⟨-, -, -, hl⟩
    · omega
    · cases hd : d.2 with
      | nil =>
        rw [hd, List.append_nil, List.getLast?_append, List.getLast?_singleton] at hl
        have hn : n = 0 := by simpa using hl
        have := hpos n (by simp)
        omega
      | cons m ms => simp
  · intro m hm
    rcases List.mem_append.1 hm with hm | hm
    · exact hb m hm
    · exact h.bounded m hm
  · intro m hm
    rw [List.take_left' (by simp)] at hm
    exact hpos m hm
  · rcases h.ended with ⟨-, hl, -⟩ | ⟨-, hl, -, -⟩ <;> omega
  · intro hf
    rcases h.ended with ⟨-, -, hr, -⟩ | ⟨-, hl, -, -⟩
    · rw [hr]
      rfl
    · omega
  · intro hf
    rcases h.ended with ⟨-, hl, -⟩ | ⟨-, -, -, hl⟩
    · omega
    · exact hl

/-- What a later child throws, after the first one returned. -/
theorem FirstReturned.threw {c : LogicalType} {values : Children α c} {d : DescentEnd × List ℕ}
    {outer : List (Value α (.LIST c))} {e : ArrayError} {s'' : PostgresArrayAppendState Datum}
    (h : FirstReturned ConvertToPostgres N (D ++ [n]) c values d s s') (hs : SameArray s' s'')
    (hb : Blamed ConvertToPostgres (D ++ [n] ++ d.2) (.LIST c) (some outer) e) :
    FirstThrew ConvertToPostgres N D (.LIST c) (some outer) (d.1, n :: d.2) e s'' := by
  have hk := h.known.same hs
  have hq := h.squared
  unfold Squared at hq
  rw [List.append_assoc, List.singleton_append] at hk hq hb
  unfold FirstThrew
  rcases h.ended with ⟨hd, -, hr, -⟩ | ⟨hd, -, hr, -⟩
  · rw [hd]
    exact ⟨hk, hs.requested.trans (hr.trans (congrArg some hq)), .inl hb⟩
  · rw [hd]
    exact ⟨hk, hs.requested.trans hr, hb⟩

/-- The first child of a list that was the first one of its dimension. -/
theorem First.child {c : LogicalType} (h : First N D (.LIST c) s) (hpos : 0 < n) (hn : n ≤ PG_INT32_MAX)
    (hk : Known N (D ++ [n]) s') (hE : Squared (D ++ [n]) s') (hr : s'.requested = none) :
    First N (D ++ [n]) c s' := by
  refine ⟨hk, ?_, hE, hr, ?_, ?_⟩
  · have hle := h.le
    rw [depth] at hle
    rw [List.length_append, List.length_singleton]
    omega
  · intro m hm
    rcases List.mem_append.1 hm with hm | hm
    · exact h.bounded m hm
    · rw [List.mem_singleton.1 hm]
      exact hn
  · intro m hm
    rcases List.mem_append.1 hm with hm | hm
    · exact h.pos m hm
    · rw [List.mem_singleton.1 hm]
      exact hpos

/-- A child that is NULL, or has no children, ends the first descent. -/
theorem appendChild_first {c : LogicalType} {v : Value α (.LIST c)} (hf : First N D c s)
    (h : ∀ us, Ends (AppendValueAtDimension ConvertToPostgres c (some us) D.length) s
      (fun _ => FirstReturned ConvertToPostgres N D c (some us) (descent c D.prod (some us)) s)
      (FirstThrew ConvertToPostgres N D c (some us) (descent c D.prod (some us)))) :
    Ends (appendChild ConvertToPostgres c D.length v) s
      (fun _ => FirstReturned ConvertToPostgres N D c v.listChildren (descent c D.prod v.listChildren) s)
      (FirstThrew ConvertToPostgres N D c v.listChildren (descent c D.prod v.listChildren)) := by
  unfold appendChild
  split
  next hnull =>
    rw [listChildren_of_isNull hnull, descent_none]
    exact ⟨by simpa using hf.known, hf.requested, trivial, .inl fun _ => not_agrees_none⟩
  next =>
    cases hc : v.listChildren with
    | none =>
      rw [append_none, descent_none]
      exact ⟨by simpa using hf.known, hf.requested, trivial, .inl fun _ => not_agrees_none⟩
    | some us => exact h us

/-- The list itself, after all its children returned. -/
theorem FirstReturned.returned {c : LogicalType} {v : Value α (.LIST c)} {values : List (Value α (.LIST c))}
    {d : DescentEnd × List ℕ} {s₁ s₂ : PostgresArrayAppendState Datum}
    (h : FirstReturned ConvertToPostgres N (D ++ [(v :: values).length]) c v.listChildren d s₁ s₂)
    (hn : (v :: values).length ≤ PG_INT32_MAX) (hv : s₁.values = s.values) (hs : SameArray s₂ s')
    (ha : ∀ u ∈ values, Agrees c u.listChildren d.2)
    (hw : Wrote (values.flatMap fun u => leaves ConvertToPostgres false c u.listChildren) s₂ s') :
    FirstReturned ConvertToPostgres N D (.LIST c) (some (v :: values)) (d.1, (v :: values).length :: d.2) s s' := by
  have hk := h.known.same hs
  have hsq := h.squared
  unfold Squared at hsq
  rw [List.append_assoc, List.singleton_append] at hk hsq
  refine ⟨hk, hs.expected_values.trans hsq, ?_, agrees_list.2 ⟨rfl, ?_⟩, ?_, ?_⟩
  · intro m hm
    rcases List.mem_cons.1 hm with rfl | hm
    · exact hn
    · exact h.bounded m hm
  · intro u hu
    rcases List.mem_cons.1 hu with rfl | hu
    · exact h.agrees
    · exact ha u hu
  · obtain ⟨els, hels, hew⟩ := h.wrote.append hw
    exact ⟨els, hels, by rw [hew, hv]⟩
  · refine h.ended.imp ?_ ?_
    · rintro ⟨h₁, h₂, h₃, h₄⟩
      exact ⟨h₁, congrArg (· + 1) h₂, by rw [hs.requested, hs.expected_values, h₃],
        by rw [hs.expected_values]; exact h₄⟩
    · rintro ⟨h₁, h₂, h₃, h₄⟩
      refine ⟨h₁, Nat.succ_lt_succ h₂, hs.requested.trans h₃, ?_⟩
      rw [List.append_assoc, List.singleton_append] at h₄
      exact h₄

/-- The walk of the outermost list, or of a list on the first descent. -/
theorem append_first (c : LogicalType) (values : Children α c) (h : First N D c s) :
    Ends (AppendValueAtDimension ConvertToPostgres c values D.length) s
      (fun _ => FirstReturned ConvertToPostgres N D c values (descent c D.prod values) s)
      (FirstThrew ConvertToPostgres N D c values (descent c D.prod values)) := by
  cases values with
  | none =>
    rw [append_none, descent_none]
    exact ⟨by simpa using h.known, h.requested, trivial, .inl fun _ => not_agrees_none⟩
  | some values =>
  induction c generalizing D s with
  | LEAF => exact append_first_last last_leaf values h
  | ARRAY c size => exact append_first_last last_array values h
  | LIST c ih =>
    rw [append_list]
    cases values with
    | nil =>
      rw [descent_nil]
      refine Ends.seq (setDimension_first_ends h [] _) ?_
      rintro _ s₁ ⟨hd, hn, hk, hE, hr, hv⟩
      have hd : descend D.prod 0 (.empty, []) = (.empty, [0]) := hd
      rw [hd]
      refine ⟨hk, hE, ?_, agrees_list.2 ⟨rfl, fun _ hv => absurd hv List.not_mem_nil⟩, Wrote.nil hv,
        .inr ⟨rfl, ?_, hr, ?_⟩⟩
      · intro m hm
        rw [List.mem_singleton.1 hm]
        exact Nat.zero_le _
      · exact Nat.succ_lt_succ (depth_pos c)
      · show (D ++ [0]).getLast? = some 0
        rw [List.getLast?_append, List.getLast?_singleton]
        rfl
    | cons v values =>
      rw [descent_cons]
      refine Ends.seq (setDimension_first_ends h (v :: values) _) ?_
      rintro _ s₁ ⟨hd, hn, hk, hE, hr, hv⟩
      rw [hd]
      have hfirst : First N (D ++ [(v :: values).length]) c s₁ :=
        h.child (Nat.succ_pos values.length) hn hk hE hr
      have hprod : D.prod * (v :: values).length = (D ++ [(v :: values).length]).prod := by
        rw [List.prod_append, List.prod_singleton]
      have hl : (D ++ [(v :: values).length]).length = D.length + 1 := by
        rw [List.length_append, List.length_singleton]
      have hchild := appendChild_first (v := v) hfirst (ih hfirst)
      rw [← hprod, hl] at hchild
      refine Ends.seq (hchild.mono (fun _ _ h => h) fun e s' ht => ht.of_child List.mem_cons_self) ?_
      rintro _ s₂ hret
      generalize hdd : descent c (D.prod * (v :: values).length) v.listChildren = d at hret ⊢
      have hdrop : (D ++ [(v :: values).length] ++ d.2).drop (D.length + 1) = d.2 := List.drop_left' hl
      have hlater := hret.later hfirst.pos hfirst.bounded
      refine (appendChildren_later (fun u hu => List.mem_cons_of_mem v hu)
        fun u _ s' hs' => appendChild_later (append_later c _ (hlater.same hs'))).mono ?_ ?_
      · rintro _ s' ⟨hs, ha, hw⟩
        rw [hdrop] at ha
        exact hret.returned hn hv hs ha hw
      · rintro e s' ⟨hs, hj, hw⟩
        refine hret.threw hs ⟨hj, ?_⟩
        rcases hw with ⟨u, hu, hw⟩ | ⟨u, hu, hw⟩
        · refine .inl fun ds ha => ?_
          obtain ⟨-, hvs⟩ := agrees_list.1 ha
          rw [hdrop] at hw
          refine hw _ ?_ (hvs u hu)
          rw [← hdd]
          exact descent_prefix (hvs v List.mem_cons_self)
        · exact .inr (unconvertible_of_child hu hw)

end

end PgDuckdb.Arrays
