import PgDuckdb.Pg.Parser

/-!
# What a text reads as

How the parser reads texts that a printer has put together. A text that reads as one operand
whatever stands around it is primary (`PrimaryText`). For the others `ReadsText` says around which
operators they do: a text that starts with `NOT` must not be followed by a tighter operator, one that
ends with `IS NULL` must not be preceded by one. Both say it of what the text reads as, which is an
expression or a syntax error (`none`).

The rules follow the ways in which a printer puts texts together: in parentheses
(`PrimaryText.paren`), as operands of a binary operator (`ReadsText.binary`), joined by `AND` and `OR`
(`ReadsText.join`).
-/

namespace PgDuckdb.Pg

/-! ## Stacks -/

/-- The operator on top of the stack binds looser than `need`. -/
def TopBelow (need : Nat) : List Frame → Prop
  | [] => True
  | f :: _ => ∀ p ∈ f.prec, p < need

/-- Every operator binds looser than this. -/
def precAny : Nat := 8

/-- A barrier is below everything. -/
theorem topBelow_of_barrier {n : Nat} {f : Frame} {S : List Frame} (hf : f.prec = none) :
    TopBelow n (f :: S) := by
  intro p hp
  rw [hf] at hp
  cases hp

/-- An operator is below those that bind tighter. -/
theorem topBelow_cons {n p : Nat} {f : Frame} {S : List Frame} (hf : f.prec = some p)
    (h : p < n) : TopBelow n (f :: S) := by
  intro p' hp
  rw [hf] at hp
  cases hp
  exact h

/-- It is below whatever is above those. -/
theorem TopBelow.mono {n n' : Nat} {S : List Frame} (h : TopBelow n S) (hn : n ≤ n') :
    TopBelow n' S := by
  cases S with
  | nil => trivial
  | cons f S => exact fun p hp => Nat.lt_of_lt_of_le (h p hp) hn

/-- Nothing is reduced before an operator that binds tighter. -/
theorem reduce_of_topBelow {t : Nat} {S : List Frame} {e : Expr} (h : TopBelow t S) :
    reduce t S e = some (S, e) := by
  cases S with
  | nil => rfl
  | cons f S =>
    unfold reduce
    split
    · rfl
    · rename_i p hp
      have hlt := h p hp
      rw [if_neg (by omega), if_neg (by omega)]

/-- A frame is reduced before an operator that binds looser, or as tight if it is left
associative. -/
theorem reduce_cons {t p : Nat} {f : Frame} {S : List Frame} {e : Expr} (hp : f.prec = some p)
    (h : t < p ∨ (t = p ∧ f.leftAssoc = true)) : reduce t (f :: S) e = reduce t S (f.apply e) := by
  rw [reduce, hp]
  exact if_pos h

/-! ## Runs -/

/-- What is read goes on from where it ended. -/
theorem parseRun_append {st st' : ParseState} {ts ts' : List Token}
    (h : parseRun st ts = some st') : parseRun st (ts ++ ts') = parseRun st' ts' := by
  unfold parseRun at h ⊢
  rw [List.foldlM_append, h]
  rfl

/-- Where reading failed it does not go on. -/
theorem parseRun_append_none {st : ParseState} {ts ts' : List Token}
    (h : parseRun st ts = none) : parseRun st (ts ++ ts') = none := by
  unfold parseRun at h ⊢
  rw [List.foldlM_append, h]
  rfl

/-- The parser takes the first token. -/
theorem parseRun_cons {st : ParseState} {t : Token} {ts : List Token} :
    parseRun st (t :: ts) = (parseStep st t).bind fun st => parseRun st ts := by
  rw [parseRun, List.foldlM_cons]
  rfl

/-- After an operand, a token other than a parenthesis is taken as an operator. -/
theorem parseStep_value {S : List Frame} {m : Mode} {e : Expr} {t : Token}
    (hm : m.value? = some e) (ht : t ≠ .lparen) : parseStep (S, m) t = operatorStep S e t := by
  cases m with
  | name w =>
    cases hm
    simp [parseStep, ht]
  | value e' =>
    cases hm
    rfl
  | _ => cases hm

/-- An identifier that is not reserved is a name. -/
theorem operandStep_word {S : List Frame} {w : Text} (h : w ∉ reservedWords) :
    operandStep S (.word w) = some (S, .name w) := by
  have hnot : w ≠ "not".toList := by
    rintro rfl
    exact h (by decide)
  have hnull : w ≠ "null".toList := by
    rintro rfl
    exact h (by decide)
  rw [operandStep, if_neg hnot, if_neg hnull, if_neg h]

/-! ## Operands -/

/-- On a stack `S` the tokens are an operand: what they leave on the stack reduces to it before an
operator that binds looser than `level`. Or they are a syntax error. -/
def ReadsOn (S : List Frame) (ts : List Token) (level : Nat) : Option Expr → Prop
  | some e => ∃ fs m x, parseRun (S, .operand) ts = some (fs ++ S, m) ∧ m.value? = some x ∧
      ∀ t < level, reduce t (fs ++ S) x = reduce t S e
  | none => parseRun (S, .operand) ts = none

/-- The tokens are an operand of an operator that binds looser than `need` on their left, and of one
that binds looser than `level` on their right. -/
def Reads (ts : List Token) (need level : Nat) (r : Option Expr) : Prop :=
  ∀ S, TopBelow need S → ReadsOn S ts level r

/-- The tokens are an operand, whatever stands around them. -/
def Primary (ts : List Token) : Option Expr → Prop
  | some e => ∀ S, ∃ m, parseRun (S, .operand) ts = some (S, m) ∧ m.value? = some e
  | none => ∀ S, parseRun (S, .operand) ts = none

section
variable {ts : List Token} {need level : Nat} {r : Option Expr}

/-- A primary is read anywhere. -/
theorem Primary.reads (h : Primary ts r) : Reads ts precAny precAny r := by
  intro S _
  cases r with
  | none => exact h S
  | some e =>
    obtain ⟨m, hrun, hm⟩ := h S
    exact ⟨[], m, e, hrun, hm, fun t _ => rfl⟩

/-- What is read in a tighter place is read in a looser one. -/
theorem Reads.mono (h : Reads ts need level r) {need' level' : Nat} (hneed : need' ≤ need)
    (hlevel : level' ≤ level) : Reads ts need' level' r := by
  intro S hS
  have hr := h S (hS.mono hneed)
  cases r with
  | none => exact hr
  | some e =>
    obtain ⟨fs, m, x, hrun, hm, hreduce⟩ := hr
    exact ⟨fs, m, x, hrun, hm, fun t ht => hreduce t (Nat.lt_of_lt_of_le ht hlevel)⟩

/-- A word that is not reserved is a column. -/
theorem Primary.word {w : Text} (h : w ∉ reservedWords) : Primary [.word w] (some (.column w)) := by
  intro S
  refine ⟨.name w, ?_, rfl⟩
  rw [parseRun_cons, parseStep, operandStep_word h]
  rfl

/-- A name in quotes is a column. -/
theorem Primary.quoted {w : Text} : Primary [.quoted w] (some (.column w)) :=
  fun _ => ⟨.name w, rfl, rfl⟩

/-- A string is a constant. -/
theorem Primary.str {s : Text} : Primary [.str s] (some (.const (some s))) :=
  fun _ => ⟨.value (.const (some s)), rfl, rfl⟩

/-- NULL is a constant. -/
theorem Primary.null : Primary [.word "null".toList] (some (.const none)) :=
  fun _ => ⟨.value (.const none), rfl, rfl⟩

/-- Up to the closing parenthesis. -/
theorem Reads.toClose (h : Reads ts need level r) (hlevel : 0 < level) {f : Frame}
    (hf : f.prec = none) (S : List Frame) :
    parseRun (f :: S, .operand) (ts ++ [.rparen]) = r.bind fun e => close (f :: S, e) := by
  have hr := h (f :: S) (topBelow_of_barrier hf)
  cases r with
  | none => exact parseRun_append_none hr
  | some e =>
    obtain ⟨fs, m, x, hrun, hm, hreduce⟩ := hr
    have hclose : (reduce 0 (f :: S) e).bind close = close (f :: S, e) := by
      rw [reduce_of_topBelow (topBelow_of_barrier hf)]
      rfl
    rw [parseRun_append hrun, parseRun_cons, parseStep_value hm (by simp), operatorStep,
      hreduce 0 hlevel, hclose]
    exact Option.bind_fun_some _

/-- An operand in parentheses. -/
theorem Primary.paren (h : Reads ts need level r) (hlevel : 0 < level) :
    Primary (.lparen :: ts ++ [.rparen]) r := by
  have hrun : ∀ S, parseRun (S, .operand) (.lparen :: ts ++ [.rparen]) =
      r.bind fun e => some (S, .value e) := by
    intro S
    rw [List.cons_append, parseRun_cons]
    exact h.toClose hlevel (f := .paren) rfl S
  cases r with
  | none => exact hrun
  | some e => exact fun S => ⟨.value e, hrun S, rfl⟩

/-- A function call. -/
theorem Primary.call {f : Text} (hf : f ∉ reservedWords) (h : Reads ts need level r)
    (hlevel : 0 < level) : Primary (.word f :: .lparen :: ts ++ [.rparen]) (r.map (.call f)) := by
  have hrun : ∀ S, parseRun (S, .operand) (.word f :: .lparen :: ts ++ [.rparen]) =
      r.bind fun e => some (S, .value (.call f e)) := by
    intro S
    rw [List.cons_append, List.cons_append, parseRun_cons, parseStep, operandStep_word hf,
      Option.bind_some, parseRun_cons]
    exact h.toClose hlevel (f := .call f) rfl S
  cases r with
  | none => exact hrun
  | some e => exact fun S => ⟨.value (.call f e), hrun S, rfl⟩

/-- A whole text. Where it holds a NUL it is a syntax error. -/
theorem Reads.parse_eq {w : Text} (h : Reads ts need level r) (hlevel : 0 < level)
    (hlex : lex w = some ts) : parse w = if '\x00' ∈ w then none else r := by
  have hr := h [] trivial
  by_cases hnul : '\x00' ∈ w
  · simp [parse, lex_c_str hlex, hnul]
  have htext : lex (c_str w) = some ts := by rw [lex_c_str hlex, if_neg hnul]
  rw [if_neg hnul]
  cases r with
  | none =>
    simp only [parse, htext, Option.bind_eq_bind, Option.bind_some]
    rw [show parseRun ([], .operand) ts = none from hr]
    rfl
  | some e =>
    obtain ⟨fs, m, x, hrun, hm, hreduce⟩ := hr
    have hred := hreduce 0 hlevel
    rw [List.append_nil] at hrun hred
    simp only [parse, htext, Option.bind_eq_bind, Option.bind_some, hrun, parseEnd, hm, hred]
    rfl

end

/-! ## Operators -/

section
variable {ts ts' : List Token} {need level need' level' : Nat} {r r' : Option Expr}

/-- `NOT` takes every tighter operator on its right into its operand. -/
theorem Reads.not (h : Reads ts need level r) (hneed : precNot < need) (hlevel : precNot ≤ level) :
    Reads (.word "not".toList :: ts) precAny precNot (r.map .not) := by
  intro S _
  have hr := h (.not :: S) (topBelow_cons rfl hneed)
  cases r with
  | none => exact hr
  | some e =>
    obtain ⟨fs, m, x, hrun, hm, hreduce⟩ := hr
    refine ⟨fs ++ [.not], m, x, ?_, hm, ?_⟩
    · rw [parseRun_cons, List.append_assoc]
      exact hrun
    · intro t ht
      rw [List.append_assoc, List.singleton_append, hreduce t (Nat.lt_of_lt_of_le ht hlevel)]
      exact reduce_cons rfl (.inl ht)

/-- `IS NULL` takes every tighter operator on its left into its operand. -/
theorem Reads.isNull (h : Reads ts need level r) (hneed : precIs ≤ need) (hlevel : precIs < level)
    (negated : Bool) :
    Reads (ts ++ .word "is".toList ::
      (if negated then [.word "not".toList, .word "null".toList] else [.word "null".toList]))
      precIs precAny (r.map (.isNull negated)) := by
  intro S hS
  have hr := h S (hS.mono hneed)
  cases r with
  | none => exact parseRun_append_none hr
  | some e =>
    obtain ⟨fs, m, x, hrun, hm, hreduce⟩ := hr
    refine ⟨[], .value (.isNull negated e), _, ?_, rfl, fun t _ => rfl⟩
    have his : operatorStep (fs ++ S) x (.word "is".toList) = some (S, .is e) := by
      change (reduce precIs (fs ++ S) x).map _ = _
      rw [hreduce precIs hlevel, reduce_of_topBelow hS]
      rfl
    rw [parseRun_append hrun, parseRun_cons, parseStep_value hm (by simp), his]
    cases negated <;> rfl

/-- The tokens of a binary operator of precedence `t`. -/
def Shifts (ops : List Token) (t : Nat) (frame : Expr → Frame) : Prop :=
  ∀ S₀ m x, m.value? = some x → parseRun (S₀, m) ops =
    (reduce t S₀ x).map fun p => (frame p.2 :: p.1, .operand)

/-- The expression of a binary operator. -/
def applyBoth (frame : Expr → Frame) (r r' : Option Expr) : Option Expr :=
  r.bind fun e => r'.map (frame e).apply

/-- A binary operator. Its left operand is complete before it (`t < level`), its right operand
reads as one after it (`t < need'`). -/
theorem Reads.binary {ops : List Token} {t n L : Nat} {frame : Expr → Frame}
    (hops : Shifts ops t frame) (hprec : ∀ e, (frame e).prec = some t) (hn : n ≤ t)
    (h : Reads ts need level r) (hneed : n ≤ need) (hlevel : t < level)
    (h' : Reads ts' need' level' r') (hneed' : t < need')
    (hL : ∀ e, ∀ t' < L, t' < level' ∧ (t' < t ∨ (t' = t ∧ (frame e).leftAssoc = true))) :
    Reads (ts ++ (ops ++ ts')) n L (applyBoth frame r r') := by
  intro S hS
  have hr := h S (hS.mono hneed)
  cases r with
  | none => exact parseRun_append_none hr
  | some e =>
    obtain ⟨fs, m, x, hrun, hm, hreduce⟩ := hr
    have hshift : parseRun (fs ++ S, m) ops = some (frame e :: S, .operand) := by
      rw [hops _ _ _ hm, hreduce t hlevel, reduce_of_topBelow (hS.mono hn)]
      rfl
    have hr' := h' (frame e :: S) (topBelow_cons (hprec e) hneed')
    cases r' with
    | none =>
      change parseRun _ _ = none
      rw [parseRun_append hrun, parseRun_append hshift]
      exact hr'
    | some e' =>
      obtain ⟨fs', m', x', hrun', hm', hreduce'⟩ := hr'
      refine ⟨fs' ++ [frame e], m', x', ?_, hm', ?_⟩
      · rw [parseRun_append hrun, parseRun_append hshift, hrun']
        simp
      · intro t' ht'
        obtain ⟨hlt, hassoc⟩ := hL e t' ht'
        rw [List.append_assoc, List.singleton_append, hreduce' t' hlt,
          reduce_cons (hprec e) hassoc]

/-- An operator of one token. -/
theorem Shifts.of_step {tok : Token} {t : Nat} {frame : Expr → Frame} (htok : tok ≠ .lparen)
    (h : ∀ S x, operatorStep S x tok = shift t frame S x) : Shifts [tok] t frame := by
  intro S₀ m x hm
  rw [parseRun_cons, parseStep_value hm htok, h, shift]
  cases reduce t S₀ x <;> rfl

/-- `AND` after its left operand. -/
theorem Shifts.and : Shifts [.word "and".toList] precAnd .and :=
  .of_step (by simp) fun _ _ => rfl

/-- `OR` after its left operand. -/
theorem Shifts.or : Shifts [.word "or".toList] precOr .or :=
  .of_step (by simp) fun _ _ => rfl

/-- `LIKE` after its left operand. -/
theorem Shifts.like (insensitive : Bool) :
    Shifts [.word (if insensitive then "ilike".toList else "like".toList)] precLike
      (.like insensitive) := by
  cases insensitive with
  | false => exact .of_step (by simp) fun _ _ => rfl
  | true => exact .of_step (by simp) fun _ _ => rfl

/-- A comparison after its left operand. -/
theorem Shifts.compare {s : Text} {op : CompareOp} (h : compareOf s = some op) :
    Shifts [.op s] precCompare (.compare op) := by
  refine .of_step (by simp) fun S x => ?_
  rw [operatorStep, h]

/-- An operator whose first token is a keyword that reduces to its left operand. -/
theorem Shifts.of_word {w : Text} {ops : List Token} {t : Nat} {k : Expr → Mode}
    {frame : Expr → Frame}
    (hw : ∀ S x, wordStep S x w = (reduce t S x).map fun p => (p.1, k p.2))
    (hops : ∀ S e, parseRun (S, k e) ops = some (frame e :: S, .operand)) :
    Shifts (.word w :: ops) t frame := by
  intro S₀ m x hm
  rw [parseRun_cons, parseStep_value hm (by simp), operatorStep, hw]
  cases reduce t S₀ x with
  | none => rfl
  | some p => exact hops p.1 p.2

/-- `IS DISTINCT FROM` after its left operand. -/
theorem Shifts.distinct (negated : Bool) :
    Shifts (.word "is".toList :: ((if negated then [.word "not".toList] else []) ++
      [.word "distinct".toList, .word "from".toList])) precIs (.distinct negated) := by
  cases negated with
  | false => exact .of_word (k := .is) (fun _ _ => rfl) fun _ _ => rfl
  | true => exact .of_word (k := .is) (fun _ _ => rfl) fun _ _ => rfl

/-- An operator by its name after its left operand. -/
theorem Shifts.operator (s : Text) :
    Shifts [.word "operator".toList, .lparen, .word "pg_catalog".toList, .dot, .op s, .rparen]
      precOperator (.operator s) :=
  .of_word (k := .opParen) (fun _ _ => rfl) fun _ _ => rfl

/-- `LIKE` with an `ESCAPE` clause. -/
theorem Reads.likeEscape {ts'' : List Token} {e e' e'' : Expr} (insensitive : Bool)
    (h : Primary ts (some e)) (h' : Primary ts' (some e')) (h'' : Primary ts'' (some e'')) :
    Reads (ts ++ ([.word (if insensitive then "ilike".toList else "like".toList)] ++
      (ts' ++ (.word "escape".toList :: ts'')))) precLike precLike
      (some (.likeEscape insensitive e e' e'')) := by
  intro S hS
  obtain ⟨m, hrun, hm⟩ := h S
  have hshift := Shifts.like insensitive S m e hm
  rw [reduce_of_topBelow hS] at hshift
  obtain ⟨m', hrun', hm'⟩ := h' (.like insensitive e :: S)
  obtain ⟨m'', hrun'', hm''⟩ := h'' (.escape insensitive e e' :: S)
  refine ⟨[.escape insensitive e e'], m'', e'', ?_, hm'', fun t ht => reduce_cons rfl (.inl ht)⟩
  rw [parseRun_append hrun, parseRun_append hshift, parseRun_append hrun', parseRun_cons,
    parseStep_value hm' (by simp)]
  exact hrun''

/-- `IS [NOT] DISTINCT FROM` is not associative with the `IS` of an `IS NULL` after it. -/
theorem Reads.distinct_is (h : Reads ts need level r) {n L : Nat} (hn : n ≤ precIs)
    (hneed : n ≤ need) (hlevel : precIs < level) (negated : Bool) (h' : Primary ts' r')
    (rest : List Token) :
    Reads (ts ++ (.word "is".toList :: ((if negated then [.word "not".toList] else []) ++
      [.word "distinct".toList, .word "from".toList]) ++ (ts' ++ .word "is".toList :: rest)))
      n L none := by
  intro S hS
  have hr := h S (hS.mono hneed)
  cases r with
  | none => exact parseRun_append_none hr
  | some e =>
    obtain ⟨fs, m, x, hrun, hm, hreduce⟩ := hr
    have hshift := Shifts.distinct negated (fs ++ S) m x hm
    rw [hreduce precIs hlevel, reduce_of_topBelow (hS.mono hn)] at hshift
    change parseRun _ _ = none
    rw [parseRun_append hrun, parseRun_append hshift]
    cases r' with
    | none => exact parseRun_append_none (h' _)
    | some e' =>
      obtain ⟨m', hrun', hm'⟩ := h' (.distinct negated e :: S)
      rw [parseRun_append hrun', parseRun_cons, parseStep_value hm' (by simp)]
      rfl

end

/-! ## Texts -/

/-- The text is an operand, whatever stands around it. -/
def PrimaryText (w : Text) (r : Option Expr) : Prop := ∃ ts, lex w = some ts ∧ Primary ts r

/-- The text is an operand between operators that bind looser than `need` and `level`. -/
def ReadsText (w : Text) (need level : Nat) (r : Option Expr) : Prop :=
  ∃ ts, lex w = some ts ∧ Reads ts need level r

/-- The text is an operand of `AND` and `OR`. -/
def Conjunct (w : Text) (r : Option Expr) : Prop :=
  ∃ need level, ReadsText w need level r ∧ precAnd < need ∧ precAnd < level

section
variable {w w' w'' : Text} {need level need' level' : Nat} {r r' : Option Expr}

/-- The text of a primary is read anywhere. -/
theorem PrimaryText.readsText (h : PrimaryText w r) : ReadsText w precAny precAny r := by
  obtain ⟨ts, hlex, hts⟩ := h
  exact ⟨ts, hlex, hts.reads⟩

/-- And as an operand of `AND` and `OR`. -/
theorem PrimaryText.conjunct (h : PrimaryText w r) : Conjunct w r :=
  ⟨precAny, precAny, h.readsText, by decide, by decide⟩

/-- A text that is read in a tighter place is read in a looser one. -/
theorem ReadsText.mono (h : ReadsText w need level r) (hneed : need' ≤ need)
    (hlevel : level' ≤ level) : ReadsText w need' level' r := by
  obtain ⟨ts, hlex, hts⟩ := h
  exact ⟨ts, hlex, hts.mono hneed hlevel⟩

/-- A whole text. -/
theorem ReadsText.parse_eq (h : ReadsText w need level r) (hlevel : 0 < level) :
    parse w = if '\x00' ∈ w then none else r := by
  obtain ⟨ts, hlex, hts⟩ := h
  exact hts.parse_eq hlevel hlex

/-- The same of an operand. -/
theorem Conjunct.parse_eq (h : Conjunct w r) : parse w = if '\x00' ∈ w then none else r := by
  obtain ⟨need, level, hreads, -, hlevel⟩ := h
  exact hreads.parse_eq ((by decide : 0 < precAnd).trans hlevel)

/-- No operand is empty. -/
theorem Conjunct.ne_nil (h : Conjunct w r) : w ≠ [] := by
  rintro rfl
  obtain ⟨need, level, ⟨ts, hlex, hts⟩, -⟩ := h
  cases hlex
  have hr := hts [] trivial
  cases r with
  | none => cases hr
  | some e =>
    obtain ⟨fs, m, x, hrun, hm, -⟩ := hr
    cases fs <;> cases hrun
    cases hm

/-- Parentheses make a primary. -/
theorem PrimaryText.paren (h : ReadsText w need level r) (hlevel : 0 < level) :
    PrimaryText ('(' :: w ++ [')']) r := by
  obtain ⟨ts, hlex, hts⟩ := h
  exact ⟨_, lex_paren hlex, .paren hts hlevel⟩

/-- A function of one argument. -/
theorem PrimaryText.call {f f' : Text} (hlex : lex f = some [.word f']) (hf : f' ∉ reservedWords)
    (h : ReadsText w need level r) (hlevel : 0 < level) :
    PrimaryText (f ++ ('(' :: w ++ [')'])) (r.map (.call f')) := by
  obtain ⟨ts, hlex', hts⟩ := h
  exact ⟨_, lex_append hlex (lex_paren hlex') rfl, .call hf hts hlevel⟩

/-- A string literal. -/
theorem PrimaryText.str {s : Text} :
    PrimaryText ('\'' :: Text.escapeQuotes '\'' s ++ ['\'']) (some (.const (some s))) :=
  ⟨_, lex_str, .str⟩

/-- The text of NULL is a primary. -/
theorem PrimaryText.null : PrimaryText "NULL".toList (some (.const none)) :=
  ⟨_, rfl, .null⟩

/-- `NOT` before a text. -/
theorem ReadsText.not (h : ReadsText w need level r) (hneed : precNot < need)
    (hlevel : precNot ≤ level) :
    ReadsText ("NOT".toList ++ ' ' :: w) precAny precNot (r.map .not) := by
  obtain ⟨ts, hlex, hts⟩ := h
  exact ⟨_, lex_spaced rfl hlex, hts.not hneed hlevel⟩

/-- The text of `IS [NOT] NULL`. -/
def isNullText (negated : Bool) : Text :=
  if negated then "IS NOT NULL".toList else "IS NULL".toList

/-- The tokens of a test for NULL. -/
theorem lex_isNullText (negated : Bool) : lex (isNullText negated) = some (.word "is".toList ::
    (if negated then [.word "not".toList, .word "null".toList] else [.word "null".toList])) := by
  cases negated <;> rfl

/-- `IS [NOT] NULL` after a text. -/
theorem ReadsText.isNull (h : ReadsText w need level r) (hneed : precIs ≤ need)
    (hlevel : precIs < level) (negated : Bool) :
    ReadsText (w ++ ' ' :: isNullText negated) precIs precAny (r.map (.isNull negated)) := by
  obtain ⟨ts, hlex, hts⟩ := h
  exact ⟨_, lex_spaced hlex (lex_isNullText negated), hts.isNull hneed hlevel negated⟩

/-- A binary operator with a space on both sides. -/
theorem ReadsText.binary {op : Text} {ops : List Token} {t n L : Nat} {frame : Expr → Frame}
    (hlex : lex op = some ops) (hops : Shifts ops t frame) (hprec : ∀ e, (frame e).prec = some t)
    (hn : n ≤ t) (h : ReadsText w need level r) (hneed : n ≤ need) (hlevel : t < level)
    (h' : ReadsText w' need' level' r') (hneed' : t < need')
    (hL : ∀ e, ∀ t' < L, t' < level' ∧ (t' < t ∨ (t' = t ∧ (frame e).leftAssoc = true))) :
    ReadsText (w ++ ' ' :: (op ++ ' ' :: w')) n L (applyBoth frame r r') := by
  obtain ⟨ts, hw, hts⟩ := h
  obtain ⟨ts', hw', hts'⟩ := h'
  exact ⟨_, lex_spaced hw (lex_spaced hlex hw'),
    hts.binary hops hprec hn hneed hlevel hts' hneed' hL⟩

/-- The text of `IS [NOT] DISTINCT FROM`. -/
def distinctText (negated : Bool) : Text :=
  if negated then "IS NOT DISTINCT FROM".toList else "IS DISTINCT FROM".toList

/-- The tokens of a distinct comparison. -/
theorem lex_distinctText (negated : Bool) : lex (distinctText negated) = some (.word "is".toList ::
    ((if negated then [.word "not".toList] else []) ++
      [.word "distinct".toList, .word "from".toList])) := by
  cases negated <;> rfl

/-- `IS DISTINCT FROM` before an `IS NULL` is a syntax error. -/
theorem ReadsText.distinct_isNull (h : ReadsText w need level r) {n L : Nat} (hn : n ≤ precIs)
    (hneed : n ≤ need) (hlevel : precIs < level) (negated negated' : Bool)
    (h' : PrimaryText w' r') :
    ReadsText (w ++ ' ' :: (distinctText negated ++ ' ' :: (w' ++ ' ' :: isNullText negated')))
      n L none := by
  obtain ⟨ts, hw, hts⟩ := h
  obtain ⟨ts', hw', hts'⟩ := h'
  exact ⟨_, lex_spaced hw (lex_spaced (lex_distinctText negated)
    (lex_spaced hw' (lex_isNullText negated'))), hts.distinct_is hn hneed hlevel negated hts' _⟩

/-- `LIKE` or `ILIKE` as a text. -/
def likeText (insensitive : Bool) : Text :=
  if insensitive then "ILIKE".toList else "LIKE".toList

/-- The tokens of `LIKE`. -/
theorem lex_likeText (insensitive : Bool) : lex (likeText insensitive) =
    some [.word (if insensitive then "ilike".toList else "like".toList)] := by
  cases insensitive <;> rfl

/-- A match is read as itself. -/
theorem ReadsText.like {e e' : Expr} (insensitive : Bool) (h : PrimaryText w (some e))
    (h' : PrimaryText w' (some e')) :
    ReadsText (w ++ ' ' :: (likeText insensitive ++ ' ' :: w')) precLike precLike
      (some (.like insensitive e e')) :=
  h.readsText.binary (lex_likeText insensitive) (Shifts.like insensitive) (fun _ => rfl) le_rfl
    (by decide) (by decide) h'.readsText (by decide) fun _ _ h => ⟨h.trans (by decide), .inl h⟩

/-- A match with an escape character is read as itself. -/
theorem ReadsText.likeEscape {e e' e'' : Expr} (insensitive : Bool) (h : PrimaryText w (some e))
    (h' : PrimaryText w' (some e')) (h'' : PrimaryText w'' (some e'')) :
    ReadsText (w ++ ' ' :: (likeText insensitive ++ ' ' :: (w' ++ ' ' ::
      ("ESCAPE".toList ++ ' ' :: w'')))) precLike precLike
      (some (.likeEscape insensitive e e' e'')) := by
  obtain ⟨ts, hlex, hts⟩ := h
  obtain ⟨ts', hlex', hts'⟩ := h'
  obtain ⟨ts'', hlex'', hts''⟩ := h''
  have hescape : lex ("ESCAPE".toList ++ ' ' :: w'') = some (.word "escape".toList :: ts'') :=
    lex_spaced (show lex _ = some [.word "escape".toList] from rfl) hlex''
  exact ⟨_, lex_spaced hlex (lex_spaced (lex_likeText insensitive) (lex_spaced hlex' hescape)),
    .likeEscape insensitive hts hts' hts''⟩

end

/-! ## Conjunctions -/

/-- `AND` or `OR`. -/
inductive Conj
  | and
  | or
  deriving DecidableEq, Repr

namespace Conj

/-- The precedence. -/
def prec : Conj → Nat
  | .and => precAnd
  | .or => precOr

/-- The operator without its right operand. -/
def frame : Conj → Expr → Frame
  | .and => .and
  | .or => .or

/-- How it is written. -/
def text : Conj → Text
  | .and => "AND".toList
  | .or => "OR".toList

/-- The word of the token. -/
def word : Conj → Text
  | .and => "and".toList
  | .or => "or".toList

/-- The operator has its precedence. -/
theorem prec_frame (op : Conj) (e : Expr) : (op.frame e).prec = some op.prec := by
  cases op <;> rfl

/-- It takes its operands from the left. -/
theorem leftAssoc_frame (op : Conj) (e : Expr) : (op.frame e).leftAssoc = true := by
  cases op <;> rfl

/-- It is read as one word. -/
theorem lex_text (op : Conj) : lex op.text = some [.word op.word] := by
  cases op <;> rfl

/-- It is taken after its left operand. -/
theorem shifts (op : Conj) : Shifts [.word op.word] op.prec op.frame := by
  cases op with
  | and => exact .and
  | or => exact .or

/-- What operands joined from the left read as. -/
def join (op : Conj) (r : Option Expr) (rs : List (Option Expr)) : Option Expr :=
  rs.foldl (applyBoth op.frame) r

/-- The text of operands joined with spaces. -/
def joinText (op : Conj) (w : Text) (ws : List Text) : Text :=
  ws.foldl (fun l r => l ++ ' ' :: (op.text ++ ' ' :: r)) w

end Conj

/-- The words between the operands bring no NUL into the text. -/
theorem nul_mem_joinText {op : Conj} {w : Text} {ws : List Text} :
    '\x00' ∈ op.joinText w ws ↔ '\x00' ∈ w ∨ ∃ w' ∈ ws, '\x00' ∈ w' := by
  have hword : '\x00' ∉ op.text := by cases op <;> decide
  induction ws generalizing w with
  | nil => simp [Conj.joinText]
  | cons w' ws ih =>
    refine (ih (w := w ++ ' ' :: (op.text ++ ' ' :: w'))).trans ?_
    simp [hword, or_assoc]

/-- Operands joined by `AND` or `OR`. -/
theorem ReadsText.join {op : Conj} {w : Text} {r : Option Expr} {ws : List Text}
    {rs : List (Option Expr)} {need level : Nat} (h : ReadsText w need level r)
    (hneed : op.prec ≤ need) (hlevel : op.prec < level) (hrest : List.Forall₂ Conjunct ws rs) :
    ReadsText (op.joinText w ws) op.prec (op.prec + 1) (op.join r rs) := by
  induction hrest generalizing w r need level with
  | nil => exact h.mono hneed hlevel
  | @cons w' r' ws rs hhead _ ih =>
    obtain ⟨need', level', hreads, hneed', hlevel'⟩ := hhead
    have hle : op.prec ≤ precAnd := by
      cases op <;> decide
    refine ih ?_ le_rfl (Nat.lt_succ_self _)
    refine h.binary op.lex_text op.shifts op.prec_frame le_rfl hneed hlevel hreads
      (hle.trans_lt hneed') fun e t' ht' => ⟨by omega, ?_⟩
    rcases Nat.lt_succ_iff_lt_or_eq.1 ht' with hlt | heq
    · exact .inl hlt
    · exact .inr ⟨heq, op.leftAssoc_frame e⟩

/-- Operands of `AND` and `OR`, joined by either. -/
theorem Conjunct.join {op : Conj} {w : Text} {r : Option Expr} {ws : List Text}
    {rs : List (Option Expr)} (h : Conjunct w r) (hrest : List.Forall₂ Conjunct ws rs) :
    ReadsText (op.joinText w ws) op.prec (op.prec + 1) (op.join r rs) := by
  obtain ⟨need, level, hreads, hneed, hlevel⟩ := h
  have hle : op.prec ≤ precAnd := by
    cases op <;> decide
  exact hreads.join (hle.trans hneed.le) (hle.trans_lt hlevel) hrest

/-- Operands joined in parentheses. -/
theorem PrimaryText.join {op : Conj} {w : Text} {r : Option Expr} {ws : List Text}
    {rs : List (Option Expr)} (h : Conjunct w r) (hrest : List.Forall₂ Conjunct ws rs) :
    PrimaryText ('(' :: op.joinText w ws ++ [')']) (op.join r rs) :=
  .paren (h.join hrest) (Nat.succ_pos _)

/-! ## Identifiers -/

/-- The keywords that `quote_identifier` quotes: those that are not unreserved. -/
structure Keywords where
  quoted : Text → Bool
  reserved : ∀ w ∈ reservedWords, quoted w = true

/-- The first character of an identifier that needs no quotes. -/
def isSafeStart (c : Char) : Bool := c.isLower || c = '_'

/-- The other characters of an identifier that needs no quotes. -/
def isSafeCont (c : Char) : Bool := isSafeStart c || c.isDigit

/-- An identifier that needs no quotes, as far as its characters go. -/
def isSafeIdent : Text → Bool
  | [] => false
  | c :: w => isSafeStart c && w.all isSafeCont

/-- `quote_identifier`. -/
def quote_identifier (K : Keywords) (ident : Text) : Text :=
  if isSafeIdent ident && !K.quoted ident then ident
  else '"' :: Text.escapeQuotes '"' ident ++ ['"']

/-- What starts a safe name starts an identifier. -/
theorem isIdentStart_of_safe {c : Char} (h : isSafeStart c = true) : isIdentStart c = true := by
  simp only [isSafeStart, Bool.or_eq_true] at h
  rcases h with h | h
  · have halpha : c.isAlpha = true := (Bool.or_eq_true _ _).mpr (.inr h)
    simp [isIdentStart, halpha]
  · simp [isIdentStart, h]

/-- What goes on in it goes on in one. -/
theorem isIdentCont_of_safe {c : Char} (h : isSafeCont c = true) : isIdentCont c = true := by
  simp only [isSafeCont, Bool.or_eq_true] at h
  rcases h with h | h
  · simp [isIdentCont, isIdentStart_of_safe h]
  · simp [isIdentCont, h]

/-- An identifier without quotes is in lower case. -/
theorem toLower_of_safe {c : Char} (h : isSafeCont c = true) : c.toLower = c := by
  unfold Char.toLower
  refine dif_neg ?_
  have hlower : c.isLower = (decide (c.val ≥ 'a'.val) && decide (c.val ≤ 'z'.val)) := rfl
  simp only [isSafeCont, isSafeStart, hlower, Char.isDigit, Bool.or_eq_true,
    Bool.and_eq_true, decide_eq_true_eq, ge_iff_le, UInt32.le_iff_toNat_le] at h ⊢
  rcases h with (h | rfl) | h
  · have : 'a'.val.toNat = 97 := rfl
    have : 'Z'.val.toNat = 90 := rfl
    omega
  · decide
  · have : '9'.val.toNat = 57 := rfl
    have : 'A'.val.toNat = 65 := rfl
    omega

/-- A quoted identifier is one token, a word only if it is no keyword that needs quotes. -/
theorem lex_quote_identifier {K : Keywords} {ident : Text} : ∃ t, lex (quote_identifier K ident) = some [t] ∧
    (t = .quoted ident ∨ (t = .word ident ∧ K.quoted ident = false)) := by
  unfold quote_identifier
  split
  · rename_i h
    rw [Bool.and_eq_true, Bool.not_eq_true'] at h
    cases ident with
    | nil => cases h.1
    | cons c w =>
      have hsafe := h.1
      rw [isSafeIdent, Bool.and_eq_true, List.all_eq_true] at hsafe
      have hall : ∀ d ∈ c :: w, isSafeCont d = true := by
        intro d hd
        rcases List.mem_cons.1 hd with rfl | hd
        · simp [isSafeCont, hsafe.1]
        · exact hsafe.2 d hd
      have hlower : (c :: w).map Char.toLower = c :: w :=
        (List.map_congr_left fun d hd => toLower_of_safe (hall d hd)).trans (List.map_id _)
      have hlex := lex_word (isIdentStart_of_safe hsafe.1) fun d hd =>
        isIdentCont_of_safe (hsafe.2 d hd)
      rw [hlower] at hlex
      exact ⟨_, hlex, .inr ⟨rfl, h.2⟩⟩
  · exact ⟨_, lex_quoted, .inl rfl⟩

/-- Its quotes bring no NUL into a name. -/
theorem nul_mem_quote_identifier {K : Keywords} {ident : Text} :
    '\x00' ∈ quote_identifier K ident ↔ '\x00' ∈ ident := by
  unfold Pg.quote_identifier
  split <;> simp

/-- A quoted identifier is the column of that name. -/
theorem PrimaryText.quote_identifier {K : Keywords} {ident : Text} :
    PrimaryText (quote_identifier K ident) (some (.column ident)) := by
  obtain ⟨t, hlex, rfl | ⟨rfl, hquoted⟩⟩ := @lex_quote_identifier K ident
  · exact ⟨_, hlex, .quoted⟩
  · refine ⟨_, hlex, .word fun hmem => ?_⟩
    rw [K.reserved ident hmem] at hquoted
    cases hquoted

end PgDuckdb.Pg
