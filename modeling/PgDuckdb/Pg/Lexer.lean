import Mathlib.Data.List.TakeWhile
import PgDuckdb.Text.Quote

/-!
# The tokens of an SQL expression

The part of PostgreSQL's lexer that a condition needs: identifiers and keywords, quoted
identifiers, string and number literals, operators and punctuation. The lexer reads one character
at a time; `LexMode` is what it is in the middle of.

What a text lexes to does not change when a delimiter follows, so `lex` goes through texts as they are
put together (`lex_append`, `lex_cons`, `lex_paren`, `lex_spaced`).

PostgreSQL gets a query by its pointer, so that the text ends at the first NUL (`c_str`). In a text that is tokens a
NUL can only be in quotes, and then the text breaks off inside of them (`lex_c_str`).
-/

namespace PgDuckdb.Pg

/-- A text, as its characters. -/
abbrev Text := List Char

/-- The text that is left of a string when it is passed on by its pointer: it ends at the first NUL. -/
def c_str (w : Text) : Text := w.takeWhile (· ≠ '\x00')

/-- A text as Postgres can hold it. -/
abbrev CString := {w : Text // '\x00' ∉ w}

/-- A token. A word is an identifier or a keyword, folded to lower case. -/
inductive Token
  | lparen
  | rparen
  | comma
  | dot
  | word (w : Text)
  | quoted (w : Text)
  | str (s : Text)
  | num (w : Text)
  | op (s : Text)
  deriving DecidableEq, Repr

/-! ## Characters -/

/-- `ident_start`. -/
def isIdentStart (c : Char) : Bool := c.isAlpha || c = '_' || 128 ≤ c.toNat

/-- `ident_cont`. -/
def isIdentCont (c : Char) : Bool := isIdentStart c || c.isDigit || c = '$'

/-- `op_chars`. -/
def isOpChar (c : Char) : Bool := c ∈ "~!@#^&|`?+-*/%<>=".toList

/-- A sign, in which most operators may not end. -/
def isSign (c : Char) : Bool := c = '+' || c = '-'

/-- An operator that has one of these may end in a sign. -/
def isSpecialOpChar (c : Char) : Bool := c ∈ "~!@#%^&|`?".toList

/-- A character that ends every token. -/
def isDelim (c : Char) : Bool := c = ' ' || c = '(' || c = ')' || c = ','

/-! ## The lexer -/

/-- What the lexer is in the middle of, with the characters read so far, last first. -/
inductive LexMode
  | start
  | word (acc : Text)
  | num (acc : Text)
  | op (acc : Text)
  | str (acc : Text)
  /-- A string whose last character is a quote: its end, unless another one follows. -/
  | strQuote (acc : Text)
  | quoted (acc : Text)
  | quotedQuote (acc : Text)
  deriving DecidableEq, Repr

/-- The tokens of a run of operator characters, last first. A multi-character operator does not
end in a sign, so `=-` is two tokens. -/
def opTokens : Text → List Token
  | [] => []
  | [c] => [.op [c]]
  | c :: acc =>
    if isSign c && !acc.any isSpecialOpChar then opTokens acc ++ [.op [c]]
    else [.op (c :: acc).reverse]

/-- The tokens that are complete when the text ends here, or a delimiter follows. -/
def LexMode.flush : LexMode → Option (List Token)
  | .start => some []
  | .word acc => some [.word acc.reverse]
  | .num acc => some [.num acc.reverse]
  | .op acc => some (opTokens acc)
  | .strQuote acc => some [.str acc.reverse]
  | .quotedQuote acc => some [.quoted acc.reverse]
  | .str _ | .quoted _ => none

/-- The first character of a token. -/
def lexStart (c : Char) : Option (List Token × LexMode) :=
  if c = ' ' then some ([], .start)
  else if c = '(' then some ([.lparen], .start)
  else if c = ')' then some ([.rparen], .start)
  else if c = ',' then some ([.comma], .start)
  else if c = '.' then some ([.dot], .start)
  else if c = '\'' then some ([], .str [])
  else if c = '"' then some ([], .quoted [])
  else if isIdentStart c then some ([], .word [c.toLower])
  else if c.isDigit then some ([], .num [c])
  else if isOpChar c then some ([], .op [c])
  else none

/-- The current token is complete, and `c` starts the next one. -/
def lexNext (m : LexMode) (c : Char) : Option (List Token × LexMode) := do
  let ts ← m.flush
  let (ts', m') ← lexStart c
  some (ts ++ ts', m')

/-- One character. -/
def lexStep (m : LexMode) (c : Char) : Option (List Token × LexMode) :=
  match m with
  | .start => lexStart c
  | .word acc => if isIdentCont c then some ([], .word (c.toLower :: acc)) else lexNext m c
  | .num acc => if c.isDigit || c = '.' then some ([], .num (c :: acc)) else lexNext m c
  | .op acc => if isOpChar c then some ([], .op (c :: acc)) else lexNext m c
  | .str acc => if c = '\'' then some ([], .strQuote acc) else some ([], .str (c :: acc))
  | .strQuote acc => if c = '\'' then some ([], .str (c :: acc)) else lexNext m c
  | .quoted acc => if c = '"' then some ([], .quotedQuote acc) else some ([], .quoted (c :: acc))
  | .quotedQuote acc => if c = '"' then some ([], .quoted (c :: acc)) else lexNext m c

/-- The complete tokens of a text, and what its end is in the middle of. -/
def lexRun (m : LexMode) : Text → Option (List Token × LexMode)
  | [] => some ([], m)
  | c :: w => do
    let (ts, m) ← lexStep m c
    let (ts', m) ← lexRun m w
    some (ts ++ ts', m)

/-- The tokens of a text. -/
def lex (w : Text) : Option (List Token) := do
  let (ts, m) ← lexRun .start w
  let ts' ← m.flush
  some (ts ++ ts')

/-! ## Runs -/

/-- A text is read up to its end, and then on. -/
theorem lexRun_append {m m₁ : LexMode} {w w' : Text} {ts : List Token}
    (h : lexRun m w = some (ts, m₁)) :
    lexRun m (w ++ w') = (lexRun m₁ w').map fun r => (ts ++ r.1, r.2) := by
  induction w generalizing m ts with
  | nil =>
    cases h
    simp
  | cons c w ih =>
    simp only [lexRun, List.cons_append, Option.bind_eq_bind, Option.bind_eq_some_iff] at h ⊢
    obtain ⟨⟨ts₁, m₂⟩, hstep, ⟨ts₂, m₃⟩, hrun, heq⟩ := h
    cases heq
    rw [hstep, Option.bind_some, ih hrun]
    cases lexRun m₃ w' <;> simp

/-- A text is tokens if it ends between two of them. -/
theorem lex_eq_some {w : Text} {ts : List Token} :
    lex w = some ts ↔
      ∃ ts₀ m ts₁, lexRun .start w = some (ts₀, m) ∧ m.flush = some ts₁ ∧ ts₀ ++ ts₁ = ts := by
  simp only [lex, Option.bind_eq_bind, Option.bind_eq_some_iff, Option.some.injEq]
  constructor
  · rintro ⟨⟨ts₀, m⟩, hrun, ts₁, hflush, heq⟩
    exact ⟨ts₀, m, ts₁, hrun, hflush, heq⟩
  · rintro ⟨ts₀, m, ts₁, hrun, hflush, heq⟩
    exact ⟨(ts₀, m), hrun, ts₁, hflush, heq⟩

/-- A delimiter completes whatever token is complete. -/
theorem lexStep_delim {m : LexMode} {c : Char} {ts : List Token} (hc : isDelim c = true)
    (h : m.flush = some ts) : lexStep m c = (lexStart c).map fun r => (ts ++ r.1, r.2) := by
  have hnext : lexNext m c = (lexStart c).map fun r => (ts ++ r.1, r.2) := by
    simp only [lexNext, h, Option.bind_eq_bind, Option.bind_some]
    cases lexStart c <;> rfl
  have hcases : c = ' ' ∨ c = '(' ∨ c = ')' ∨ c = ',' := by
    simpa [isDelim, or_assoc] using hc
  cases m with
  | start =>
    cases h
    simp [lexStep]
  | str acc => cases h
  | quoted acc => cases h
  | word acc | num acc | op acc | strQuote acc | quotedQuote acc =>
    rcases hcases with rfl | rfl | rfl | rfl <;> exact hnext

/-! ## Texts put together -/

section
variable {w w' : Text} {ts ts' : List Token}

/-- Two texts, the second starting with a delimiter. -/
theorem lex_append (h : lex w = some ts) (h' : lex w' = some ts')
    (hdelim : w'.head?.any isDelim = true) : lex (w ++ w') = some (ts ++ ts') := by
  obtain ⟨ts₀, m, ts₁, hrun, hflush, rfl⟩ := lex_eq_some.1 h
  obtain ⟨ts₀', m', ts₁', hrun', hflush', rfl⟩ := lex_eq_some.1 h'
  cases w' with
  | nil => cases hdelim
  | cons c w' =>
    have hc : isDelim c = true := hdelim
    have hstart : lexRun m (c :: w') = some (ts₁ ++ ts₀', m') := by
      simp only [lexRun, Option.bind_eq_bind, Option.bind_eq_some_iff] at hrun' ⊢
      obtain ⟨⟨ts₂, m₂⟩, hstep, ⟨ts₃, m₃⟩, hrest, heq⟩ := hrun'
      cases heq
      refine ⟨(ts₁ ++ ts₂, m₂), ?_, (ts₃, m₃), hrest, by simp⟩
      rw [lexStep_delim hc hflush, show lexStart c = some (ts₂, m₂) from hstep]
      rfl
    refine lex_eq_some.2 ⟨ts₀ ++ (ts₁ ++ ts₀'), m', ts₁', ?_, hflush', by simp⟩
    rw [lexRun_append hrun, hstart]
    rfl

/-- One character that is a token, or a space. -/
theorem lex_cons {c : Char} {t : List Token} (hc : lexStart c = some (t, .start))
    (h : lex w = some ts) : lex (c :: w) = some (t ++ ts) := by
  obtain ⟨ts₀, m, ts₁, hrun, hflush, rfl⟩ := lex_eq_some.1 h
  refine lex_eq_some.2 ⟨t ++ ts₀, m, ts₁, ?_, hflush, by simp⟩
  simp [lexRun, lexStep, hc, hrun]

/-- A space before a text. -/
theorem lex_space (h : lex w = some ts) : lex (' ' :: w) = some ts :=
  lex_cons (t := []) rfl h

/-- A text in parentheses. -/
theorem lex_paren (h : lex w = some ts) :
    lex ('(' :: w ++ [')']) = some (.lparen :: ts ++ [.rparen]) :=
  lex_append (lex_cons (t := [.lparen]) rfl h) (show lex [')'] = some [.rparen] from rfl) rfl

/-- Two texts with a space between them. -/
theorem lex_spaced (h : lex w = some ts) (h' : lex w' = some ts') :
    lex (w ++ ' ' :: w') = some (ts ++ ts') :=
  lex_append h (lex_space h') rfl

end

/-! ## Identifiers and literals -/

/-- The rest of an identifier. -/
theorem lexRun_word {acc w : Text} (h : ∀ c ∈ w, isIdentCont c = true) :
    lexRun (.word acc) w = some ([], .word ((w.map Char.toLower).reverse ++ acc)) := by
  induction w generalizing acc with
  | nil => rfl
  | cons c w ih =>
    have hc := h c List.mem_cons_self
    have hw : lexRun (.word (c.toLower :: acc)) w =
        some ([], .word ((w.map Char.toLower).reverse ++ c.toLower :: acc)) :=
      ih fun d hd => h d (List.mem_cons_of_mem _ hd)
    simp [lexRun, lexStep, hc, hw]

/-- The first character of an identifier starts a word. -/
theorem lexStart_identStart {c : Char} (h : isIdentStart c = true) :
    lexStart c = some ([], .word [c.toLower]) := by
  have hne : ∀ d : Char, isIdentStart d = false → c ≠ d := by
    rintro d hd rfl
    rw [h] at hd
    cases hd
  simp [lexStart, h, hne ' ' (by decide), hne '(' (by decide), hne ')' (by decide),
    hne ',' (by decide), hne '.' (by decide), hne '\'' (by decide), hne '"' (by decide)]

/-- An identifier or a keyword. -/
theorem lex_word {c : Char} {w : Text} (hc : isIdentStart c = true)
    (hw : ∀ d ∈ w, isIdentCont d = true) :
    lex (c :: w) = some [.word ((c :: w).map Char.toLower)] := by
  simp [lex, lexRun, lexStep, lexStart_identStart hc, lexRun_word hw, LexMode.flush]

/-- A string up to its last quote. -/
theorem lexRun_str {acc s : Text} :
    lexRun (.str acc) (Text.escapeQuotes '\'' s) = some ([], .str (s.reverse ++ acc)) := by
  induction s generalizing acc with
  | nil => rfl
  | cons c s ih =>
    by_cases hc : c = '\''
    · subst hc
      simp [Text.escapeQuotes_cons_self, lexRun, lexStep, ih]
    · simp [Text.escapeQuotes_cons_ne hc, lexRun, lexStep, hc, ih]

/-- A string literal, its quotes doubled. -/
theorem lex_str {s : Text} :
    lex ('\'' :: Text.escapeQuotes '\'' s ++ ['\'']) = some [.str s] := by
  refine lex_eq_some.2 ⟨[], .strQuote s.reverse, [.str s], ?_, by simp [LexMode.flush], rfl⟩
  have hrun : lexRun .start ('\'' :: Text.escapeQuotes '\'' s) = some ([], .str s.reverse) := by
    simp only [lexRun, lexStep, show lexStart '\'' = some ([], .str []) from rfl,
      Option.bind_eq_bind, Option.bind_some, lexRun_str]
    simp
  rw [lexRun_append hrun]
  rfl

/-- A quoted identifier up to its last quote. -/
theorem lexRun_quoted {acc s : Text} :
    lexRun (.quoted acc) (Text.escapeQuotes '"' s) = some ([], .quoted (s.reverse ++ acc)) := by
  induction s generalizing acc with
  | nil => rfl
  | cons c s ih =>
    by_cases hc : c = '"'
    · subst hc
      simp [Text.escapeQuotes_cons_self, lexRun, lexStep, ih]
    · simp [Text.escapeQuotes_cons_ne hc, lexRun, lexStep, hc, ih]

/-- A quoted identifier, its quotes doubled. -/
theorem lex_quoted {s : Text} :
    lex ('"' :: Text.escapeQuotes '"' s ++ ['"']) = some [.quoted s] := by
  refine lex_eq_some.2 ⟨[], .quotedQuote s.reverse, [.quoted s], ?_, by simp [LexMode.flush], rfl⟩
  have hrun : lexRun .start ('"' :: Text.escapeQuotes '"' s) = some ([], .quoted s.reverse) := by
    simp only [lexRun, lexStep, show lexStart '"' = some ([], .quoted []) from rfl,
      Option.bind_eq_bind, Option.bind_some, lexRun_quoted]
    simp
  rw [lexRun_append hrun]
  rfl

/-! ## Texts that end at a NUL -/

@[simp] theorem c_str_eq_self {w : Text} : c_str w = w ↔ '\x00' ∉ w := by
  rw [c_str, List.takeWhile_eq_self_iff]
  simp only [ne_eq, decide_not, Bool.not_eq_true', decide_eq_false_iff_not]
  exact ⟨fun h hmem => h _ hmem rfl, fun h c hc heq => h (heq ▸ hc)⟩

/-- A text without NUL ends where one follows. -/
theorem c_str_append_nul {w w' : Text} (h : '\x00' ∉ w) : c_str (w ++ '\x00' :: w') = w := by
  have hself : c_str w = w := c_str_eq_self.2 h
  rw [c_str, List.takeWhile_eq_self_iff] at hself
  rw [c_str, List.takeWhile_append_of_pos hself]
  simp

/-- What stands before the first NUL. -/
theorem c_str_of_mem {w : Text} (h : '\x00' ∈ w) :
    '\x00' ∉ c_str w ∧ ∃ rest, w = c_str w ++ '\x00' :: rest := by
  refine ⟨fun hmem => by simpa using List.mem_takeWhile_imp hmem, ?_⟩
  induction w with
  | nil => cases h
  | cons c w ih =>
    by_cases hc : c = '\x00'
    · exact ⟨w, by simp [c_str, hc]⟩
    · obtain ⟨rest, hrest⟩ := ih ((List.mem_cons.1 h).resolve_left (Ne.symm hc))
      refine ⟨rest, ?_⟩
      rw [c_str, List.takeWhile_cons_of_pos (by simpa using hc), List.cons_append]
      exact congrArg (c :: ·) hrest

/-- A NUL is read in quotes only. -/
theorem flush_of_lexStep_nul {m : LexMode} {r : List Token × LexMode} (h : lexStep m '\x00' = some r) :
    m.flush = none := by
  have hnext : ∀ m : LexMode, lexNext m '\x00' = none := by
    intro m
    simp only [lexNext, show lexStart '\x00' = none from rfl]
    cases m.flush <;> rfl
  cases m with
  | str acc | quoted acc => rfl
  | start => cases h
  | word acc | num acc | op acc | strQuote acc | quotedQuote acc => cases (hnext _).symm.trans h

/-- A text that is tokens breaks off inside of quotes where it has a NUL. -/
theorem lex_c_str {w : Text} {ts : List Token} (h : lex w = some ts) :
    lex (c_str w) = if '\x00' ∈ w then none else some ts := by
  by_cases hmem : '\x00' ∈ w
  · rw [if_pos hmem]
    obtain ⟨-, rest, hw⟩ := c_str_of_mem hmem
    obtain ⟨ts₀, m, ts₁, hrun, -, -⟩ := lex_eq_some.1 h
    rw [hw] at hrun
    cases hfront : lexRun .start (c_str w) with
    | none =>
      simp [lex, hfront]
    | some r =>
      obtain ⟨ts₂, m₂⟩ := r
      rw [lexRun_append hfront] at hrun
      obtain ⟨⟨ts₃, m₃⟩, hback, -⟩ := Option.map_eq_some_iff.1 hrun
      simp only [lexRun, Option.bind_eq_bind, Option.bind_eq_some_iff] at hback
      obtain ⟨r, hstep, -⟩ := hback
      simp [lex, hfront, flush_of_lexStep_nul hstep]
  · rw [if_neg hmem, c_str_eq_self.2 hmem, h]

end PgDuckdb.Pg
