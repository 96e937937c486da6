import PgDuckdb.Pg.Strings

/-!
# The tokens of a statement for DuckDB

DuckDB's lexer, one character at a time. It keeps the case of words, and has spaces that are not in ASCII, two kinds
of comments, strings with escapes (`E'...'`), and numbers with a fraction and an exponent. The numeric escapes, dollar
quotes and parameters are left out, a typecast is two tokens, and the letter in front of a bit string is not kept.

`Reads` says that a text is tokens whatever delimiter follows, so it goes through texts as they are put together.
What a text is read as is no longer than the text (`lexRun_size`), and that is why a text that is read as one word
of its own length is a word (`isWord_of_lex`).
-/

namespace PgDuckdb.Duck

open Pg (Text isOpChar isSign isSpecialOpChar unescape_single_char)

/-- A token. A word keeps its case. -/
inductive Token
  | lparen
  | rparen
  | comma
  | dot
  | semicolon
  | word (w : Text)
  | quoted (w : Text)
  | str (s : Text)
  | num (w : Text)
  | op (s : Text)
  /-- Another character that is a token. -/
  | self (c : Char)
  deriving DecidableEq, Repr

/-! ## Characters -/

/-- A space that is not in ASCII. -/
def isUnicodeSpace (c : Char) : Bool :=
  c.toNat = 0xA0 || (0x2000 ≤ c.toNat && c.toNat ≤ 0x200D) || c.toNat = 0x202F || c.toNat = 0x205F ||
    c.toNat = 0x2060 || c.toNat = 0x3000 || c.toNat = 0xFEFF

/-- A blank. -/
def isSpace (c : Char) : Bool :=
  c = ' ' || (9 ≤ c.toNat && c.toNat ≤ 13) || isUnicodeSpace c

/-- A character that an identifier may start with. -/
def isIdentStart (c : Char) : Bool := (c.isAlpha || c = '_' || 128 ≤ c.toNat) && !isUnicodeSpace c

/-- A character that it may go on with. -/
def isIdentCont (c : Char) : Bool := isIdentStart c || c.isDigit || c = '$'

/-- A digit of a number after the first one. -/
def isNumCont (c : Char) : Bool := c.isDigit || c = '_'

/-- The letter of an exponent. -/
def isExponent (c : Char) : Bool := c = 'e' || c = 'E'

/-- A character that ends every token but a comment. -/
def isDelim (c : Char) : Bool := c = ' ' || c = '(' || c = ')' || c = ',' || c = ';'

/-- A text that is a word. -/
def isWord : Text → Bool
  | [] => false
  | c :: w => isIdentStart c && w.all isIdentCont

/-! ## The lexer -/

/-- What the lexer is in the middle of, with the characters read so far, last first. -/
inductive LexMode
  | start
  | word (acc : Text)
  | dot
  | num (acc : Text)
  | frac (acc : Text)
  /-- After the letter of an exponent, and after its sign. -/
  | exp (acc : Text) (e : Char)
  | expSign (acc : Text) (e sign : Char)
  | expNum (acc : Text)
  | op (acc : Text)
  | str (acc : Text)
  /-- A string whose last character is a quote: its end, unless another one follows. -/
  | strQuote (acc : Text)
  | estr (acc : Text)
  | estrBackslash (acc : Text)
  | estrQuote (acc : Text)
  | quoted (acc : Text)
  | quotedQuote (acc : Text)
  | lineComment
  /-- A comment inside of as many others, and its last character. -/
  | blockComment (depth : ℕ) (last : Option Char)
  deriving DecidableEq, Repr

/-- The tokens of a run of operator characters, last first. A multi-character operator does not end in a sign, so
`=-` is two tokens. -/
def opTokens : Text → List Token
  | [] => []
  | [c] => [.op [c]]
  | c :: acc => if isSign c && !acc.any isSpecialOpChar then opTokens acc ++ [.op [c]] else [.op (c :: acc).reverse]

/-- The tokens that are complete when the text ends here. -/
def LexMode.flush : LexMode → Option (List Token)
  | .start | .lineComment => some []
  | .word acc => some [.word acc.reverse]
  | .dot => some [.dot]
  | .num acc | .frac acc | .expNum acc => some [.num acc.reverse]
  | .exp acc e => some [.num acc.reverse, .word [e]]
  | .expSign acc e sign => some [.num acc.reverse, .word [e], .op [sign]]
  | .op acc => some (opTokens acc)
  | .strQuote acc | .estrQuote acc => some [.str acc.reverse]
  | .quotedQuote acc => some [.quoted acc.reverse]
  | _ => none

/-- The characters that are a token. -/
def punctuation (c : Char) : Option Token :=
  if c = '(' then some .lparen
  else if c = ')' then some .rparen
  else if c = ',' then some .comma
  else if c = ';' then some .semicolon
  else if c ∈ ['[', ']', ':', '\x7b', '\x7d'] then some (.self c)
  else none

/-- The first character of another token. -/
def startMode (c : Char) : Option LexMode :=
  if c = '.' then some .dot
  else if c = '\'' then some (.str [])
  else if c = '"' then some (.quoted [])
  else if isIdentStart c then some (.word [c])
  else if c.isDigit then some (.num [c])
  else if isOpChar c then some (.op [c])
  else none

/-- A character between two tokens. -/
def lexStart (c : Char) : Option (List Token × LexMode) :=
  if isSpace c then some ([], .start)
  else
    match punctuation c with
    | some t => some ([t], .start)
    | none => (startMode c).map fun m => ([], m)

/-- The tokens `ts` are complete, and `c` starts the next one. -/
def startAfter (ts : List Token) (c : Char) : Option (List Token × LexMode) :=
  (lexStart c).map fun r => (ts ++ r.1, r.2)

/-- The current token is complete, and `c` starts the next one. -/
def lexNext (m : LexMode) (c : Char) : Option (List Token × LexMode) := m.flush.bind fun ts => startAfter ts c

/-- The letter of a string without escapes. -/
def isStringLetter : Text → Bool
  | [c] => c ∈ ['b', 'B', 'x', 'X', 'n', 'N']
  | _ => false

/-- A character after a word, which may be the letter of a string. -/
def wordStep (acc : Text) (c : Char) : Option (List Token × LexMode) :=
  if isIdentCont c then some ([], .word (c :: acc))
  else if c = '\'' ∧ (acc = ['e'] ∨ acc = ['E']) then some ([], .estr [])
  else if c = '\'' ∧ isStringLetter acc = true then some ([], .str [])
  else lexNext (.word acc) c

/-- A character after operator characters, the last of which may start a comment. -/
def opStep (acc : Text) (c : Char) : Option (List Token × LexMode) :=
  if c = '-' ∧ acc.head? = some '-' then some (opTokens acc.tail, .lineComment)
  else if c = '*' ∧ acc.head? = some '/' then some (opTokens acc.tail, .blockComment 0 none)
  else if isOpChar c then some ([], .op (c :: acc))
  else lexNext (.op acc) c

/-- Tokens in front of those of a step. -/
def after (ts : List Token) (r : Option (List Token × LexMode)) : Option (List Token × LexMode) :=
  r.map fun r => (ts ++ r.1, r.2)

/-- One character. -/
def lexStep (m : LexMode) (c : Char) : Option (List Token × LexMode) :=
  match m with
  | .start => lexStart c
  | .word acc => wordStep acc c
  | .dot => if c.isDigit then some ([], .frac [c, '.']) else lexNext m c
  | .num acc =>
    if isNumCont c then some ([], .num (c :: acc))
    else if c = '.' then some ([], .frac (c :: acc))
    else if isExponent c then some ([], .exp acc c)
    else lexNext m c
  | .frac acc =>
    if isNumCont c then some ([], .frac (c :: acc))
    else if isExponent c then some ([], .exp acc c)
    else lexNext m c
  | .exp acc e =>
    if c.isDigit then some ([], .expNum (c :: e :: acc))
    else if isSign c then some ([], .expSign acc e c)
    else after [.num acc.reverse] (wordStep [e] c)
  | .expSign acc e sign =>
    if c.isDigit then some ([], .expNum (c :: sign :: e :: acc))
    else after [.num acc.reverse, .word [e]] (opStep [sign] c)
  | .expNum acc => if isNumCont c then some ([], .expNum (c :: acc)) else lexNext m c
  | .op acc => opStep acc c
  | .str acc => if c = '\'' then some ([], .strQuote acc) else some ([], .str (c :: acc))
  | .strQuote acc => if c = '\'' then some ([], .str (c :: acc)) else lexNext m c
  | .estr acc =>
    if c = '\\' then some ([], .estrBackslash acc)
    else if c = '\'' then some ([], .estrQuote acc)
    else some ([], .estr (c :: acc))
  | .estrBackslash acc =>
    if c.isDigit || c = 'x' || c = 'u' || c = 'U' then none else some ([], .estr (unescape_single_char c :: acc))
  | .estrQuote acc => if c = '\'' then some ([], .estr (c :: acc)) else lexNext m c
  | .quoted acc => if c = '"' then some ([], .quotedQuote acc) else some ([], .quoted (c :: acc))
  | .quotedQuote acc => if c = '"' then some ([], .quoted (c :: acc)) else lexNext m c
  | .lineComment => if c.toNat = 10 ∨ c.toNat = 13 then some ([], .start) else some ([], .lineComment)
  | .blockComment depth last =>
    if last = some '*' ∧ c = '/' then some ([], if depth = 0 then .start else .blockComment (depth - 1) none)
    else if last = some '/' ∧ c = '*' then some ([], .blockComment (depth + 1) none)
    else some ([], .blockComment depth (some c))

/-- The complete tokens of a text, and what its end is in the middle of. -/
def lexRun (m : LexMode) : Text → Option (List Token × LexMode)
  | [] => some ([], m)
  | c :: w => (lexStep m c).bind fun r => after r.1 (lexRun r.2 w)

/-- The tokens of a text. -/
def lex (w : Text) : Option (List Token) := do
  let (ts, m) ← lexRun .start w
  let ts' ← m.flush
  some (ts ++ ts')

/-! ## Runs -/

/-- Nothing in front. -/
theorem after_nil (r : Option (List Token × LexMode)) : after [] r = r := by
  cases r <;> rfl

/-- What is in front of what is in front. -/
theorem after_after (ts ts' : List Token) (r : Option (List Token × LexMode)) :
    after ts (after ts' r) = after (ts ++ ts') r := by
  cases r with
  | none => rfl
  | some r => exact congrArg some (Prod.ext (List.append_assoc ts ts' r.1).symm rfl)

/-- What comes out has the tokens in front. -/
theorem after_eq_some {ts₀ ts : List Token} {m : LexMode} {r : Option (List Token × LexMode)} :
    after ts₀ r = some (ts, m) ↔ ∃ ts₁, r = some (ts₁, m) ∧ ts₀ ++ ts₁ = ts := by
  rw [after, Option.map_eq_some_iff]
  constructor
  · rintro ⟨⟨ts₁, m₁⟩, hr, heq⟩
    cases heq
    exact ⟨ts₁, hr, rfl⟩
  · rintro ⟨ts₁, hr, rfl⟩
    exact ⟨_, hr, rfl⟩

/-- The tokens of the current mode, and those of the first character of another token. -/
theorem lexNext_eq_some {ts : List Token} {m m' : LexMode} {c : Char} : lexNext m c = some (ts, m') ↔
    ∃ ts₀ ts₁, m.flush = some ts₀ ∧ lexStart c = some (ts₁, m') ∧ ts₀ ++ ts₁ = ts := by
  rw [lexNext, Option.bind_eq_some_iff]
  exact exists_congr fun ts₀ => (and_congr_right fun _ => after_eq_some).trans exists_and_left.symm

/-- The lexer takes the first character. -/
theorem lexRun_cons_eq_some {ts : List Token} {m m' : LexMode} {c : Char} {w : Text} :
    lexRun m (c :: w) = some (ts, m') ↔
      ∃ ts₁ m₁ ts₂, lexStep m c = some (ts₁, m₁) ∧ lexRun m₁ w = some (ts₂, m') ∧ ts₁ ++ ts₂ = ts := by
  rw [lexRun, Option.bind_eq_some_iff]
  constructor
  · rintro ⟨⟨ts₁, m₁⟩, hstep, hrest⟩
    obtain ⟨ts₂, hrun, heq⟩ := after_eq_some.1 hrest
    exact ⟨ts₁, m₁, ts₂, hstep, hrun, heq⟩
  · rintro ⟨ts₁, m₁, ts₂, hstep, hrun, heq⟩
    exact ⟨(ts₁, m₁), hstep, after_eq_some.2 ⟨ts₂, hrun, heq⟩⟩

/-- What holds of no characters, and of one more in front, holds of every run. -/
theorem lexRun_induct {P : LexMode → Text → List Token → LexMode → Prop} (nil : ∀ m, P m [] [] m)
    (cons : ∀ {m c w ts₁ m₁ ts₂ m'}, lexStep m c = some (ts₁, m₁) → P m₁ w ts₂ m' →
      P m (c :: w) (ts₁ ++ ts₂) m')
    {m m' : LexMode} {w : Text} {ts : List Token} (h : lexRun m w = some (ts, m')) : P m w ts m' := by
  induction w generalizing m ts with
  | nil =>
    cases h
    exact nil _
  | cons c w ih =>
    obtain ⟨ts₁, m₁, ts₂, hstep, hrun, rfl⟩ := lexRun_cons_eq_some.1 h
    exact cons hstep (ih hrun)

/-- A text is read on from where the one before it ended. -/
theorem lexRun_append {w w' : Text} {m m₁ : LexMode} {ts : List Token} (h : lexRun m w = some (ts, m₁)) :
    lexRun m (w ++ w') = after ts (lexRun m₁ w') := by
  refine lexRun_induct (P := fun m w ts m₁ => lexRun m (w ++ w') = after ts (lexRun m₁ w')) ?_ ?_ h
  · exact fun m => (after_nil _).symm
  · intro m c w ts₁ m₁ ts₂ m₂ hstep ih
    rw [List.cons_append, lexRun, hstep, Option.bind_some, ih, after_after]

/-- One step, and the rest. -/
theorem lexRun_cons {w : Text} {c : Char} {m m₁ : LexMode} {ts : List Token} (h : lexStep m c = some (ts, m₁)) :
    lexRun m (c :: w) = after ts (lexRun m₁ w) := by
  rw [lexRun, h]
  rfl

/-- After a place where another token may start. -/
theorem lexRun_append_start {w w' : Text} {m : LexMode} {ts ts' : List Token}
    (h : lexRun .start w = some (ts, .start)) (h' : lexRun .start w' = some (ts', m)) :
    lexRun .start (w ++ w') = some (ts ++ ts', m) := by
  rw [lexRun_append h, h']
  rfl

/-- Characters that are all taken into one token. -/
theorem lexRun_all {mode : Text → LexMode} {p : Char → Bool} {w : Text}
    (hstep : ∀ acc c, p c = true → lexStep (mode acc) c = some ([], mode (c :: acc)))
    (h : ∀ c ∈ w, p c = true) (acc : Text) : lexRun (mode acc) w = some ([], mode (w.reverse ++ acc)) := by
  induction w generalizing acc with
  | nil => rfl
  | cons c w ih =>
    rw [lexRun_cons (hstep acc c (h c List.mem_cons_self)), ih fun d hd => h d (List.mem_cons_of_mem _ hd),
      after_nil, List.reverse_cons, List.append_assoc]
    rfl

/-! ## Texts put together -/

/-- The tokens that are complete when a delimiter follows. -/
def LexMode.ready : LexMode → Option (List Token)
  | .lineComment => none
  | m => m.flush

/-- The text is these tokens, at its end and before a delimiter. -/
def Reads (w : Text) (ts : List Token) : Prop :=
  ∃ ts₀ m ts₁, lexRun .start w = some (ts₀, m) ∧ m.ready = some ts₁ ∧ ts₀ ++ ts₁ = ts

/-- A delimiter completes whatever token is complete. -/
theorem lexStep_delim {m : LexMode} {c : Char} {ts : List Token} (hc : isDelim c = true) (h : m.ready = some ts) :
    lexStep m c = startAfter ts c := by
  have hcases : c = ' ' ∨ c = '(' ∨ c = ')' ∨ c = ',' ∨ c = ';' := by
    simpa [isDelim, or_assoc] using hc
  cases m with
  | start | dot | exp | expSign | op | word | num | frac | expNum | strQuote | estrQuote | quotedQuote =>
    cases h
    rcases hcases with rfl | rfl | rfl | rfl | rfl <;> rfl
  | str | estr | estrBackslash | quoted | lineComment | blockComment => cases h

section
variable {w w' : Text} {ts ts' : List Token}

/-- What is read in front of every delimiter is read at the end. -/
theorem Reads.lex (h : Reads w ts) : lex w = some ts := by
  obtain ⟨ts₀, m, ts₁, hrun, hready, rfl⟩ := h
  have hflush : m.flush = some ts₁ := by
    cases m with
    | lineComment => cases hready
    | _ => exact hready
  rw [Duck.lex, hrun]
  simp only [Option.bind_eq_bind, Option.bind_some, hflush]

/-- Up to the place where another token may start. -/
theorem Reads.of_run (h : lexRun .start w = some (ts, .start)) : Reads w ts :=
  ⟨ts, .start, [], h, rfl, List.append_nil ts⟩

/-- A text after a place where another token may start. -/
theorem Reads.after_run (h : lexRun .start w = some (ts, .start)) (h' : Reads w' ts') :
    Reads (w ++ w') (ts ++ ts') := by
  obtain ⟨ts₀, m, ts₁, hrun, hready, rfl⟩ := h'
  exact ⟨ts ++ ts₀, m, ts₁, lexRun_append_start h hrun, hready, List.append_assoc ..⟩

/-- A delimiter after a text. -/
theorem Reads.run {c : Char} {m : LexMode} (h : Reads w ts) (h' : lexRun .start (c :: w') = some (ts', m))
    (hc : isDelim c = true) : lexRun .start (w ++ c :: w') = some (ts ++ ts', m) := by
  obtain ⟨ts₀, m₀, ts₁, hrun, hready, rfl⟩ := h
  obtain ⟨ts₂, m₂, ts₃, hstart, hrun₃, rfl⟩ := lexRun_cons_eq_some.1 h'
  have hstep : lexStep m₀ c = some (ts₁ ++ ts₂, m₂) := by
    rw [lexStep_delim hc hready]
    exact after_eq_some.2 ⟨ts₂, hstart, rfl⟩
  rw [lexRun_append hrun, lexRun_cons hstep, hrun₃, after_after]
  exact congrArg some (Prod.ext (by simp only [List.append_assoc]) rfl)

/-- Two texts, the second starting with a delimiter. -/
theorem Reads.append {c : Char} (h : Reads w ts) (h' : Reads (c :: w') ts') (hc : isDelim c = true) :
    Reads (w ++ c :: w') (ts ++ ts') := by
  obtain ⟨ts₀, m, ts₁, hrun, hready, rfl⟩ := h'
  exact ⟨ts ++ ts₀, m, ts₁, h.run hrun hc, hready, List.append_assoc ..⟩

end

/-! ## What holds of all tokens -/

/-- What holds of no tokens, of one operator and of two parts holds of the tokens of operator characters. -/
theorem opTokens_induct {P : List Token → Prop} (nil : P []) (op : ∀ s, P [.op s])
    (append : ∀ {ts ts'}, P ts → P ts' → P (ts ++ ts')) (acc : Text) : P (opTokens acc) := by
  induction acc with
  | nil => exact nil
  | cons c acc ih =>
    cases acc with
    | nil => exact op [c]
    | cons d acc =>
      rw [opTokens]
      split
      · exact append ih (op [c])
      · exact op _
      · intro h
        cases h

/-- At the end the last token is taken. -/
theorem lex_eq_some {w : Text} {ts : List Token} : lex w = some ts ↔
    ∃ ts₀ m ts₁, lexRun .start w = some (ts₀, m) ∧ m.flush = some ts₁ ∧ ts₀ ++ ts₁ = ts := by
  simp only [lex, Option.bind_eq_bind, Option.bind_eq_some_iff, Option.some.injEq]
  constructor
  · rintro ⟨⟨ts₀, m⟩, hrun, ts₁, hflush, heq⟩
    exact ⟨ts₀, m, ts₁, hrun, hflush, heq⟩
  · rintro ⟨ts₀, m, ts₁, hrun, hflush, heq⟩
    exact ⟨(ts₀, m), hrun, ts₁, hflush, heq⟩

/-- `P` is kept by putting tokens together, and holds of those that are complete next if `M` holds of the mode. -/
structure LexInvariant (P : List Token → Prop) (M : LexMode → Prop) : Prop where
  nil : P []
  append : ∀ {ts ts'}, P ts → P ts' → P (ts ++ ts')
  op : ∀ s, P [.op s]
  op_mode : ∀ acc, M (.op acc)
  lineComment : M .lineComment
  blockComment : ∀ depth last, M (.blockComment depth last)
  flush : ∀ {m ts}, M m → m.flush = some ts → P ts
  lexStart : ∀ {c ts m}, lexStart c = some (ts, m) → P ts ∧ M m

section
variable {P : List Token → Prop} {M : LexMode → Prop} {m m' : LexMode} {c : Char} {ts : List Token} {w : Text}

/-- What holds of the tokens and of the mode holds after the next character. -/
theorem LexInvariant.lexNext (hI : LexInvariant P M) (hm : M m) (h : lexNext m c = some (ts, m')) : P ts ∧ M m' := by
  obtain ⟨ts₀, ts₁, hflush, hstart, rfl⟩ := lexNext_eq_some.1 h
  obtain ⟨h₁, hm'⟩ := hI.lexStart hstart
  exact ⟨hI.append (hI.flush hm hflush) h₁, hm'⟩

/-- And after a character that follows an operator. -/
theorem LexInvariant.opStep {acc : Text} (hI : LexInvariant P M) (h : opStep acc c = some (ts, m)) : P ts ∧ M m := by
  have hop := opTokens_induct hI.nil hI.op hI.append
  unfold Duck.opStep at h
  split_ifs at h
  · cases h
    exact ⟨hop _, hI.lineComment⟩
  · cases h
    exact ⟨hop _, hI.blockComment _ _⟩
  · cases h
    exact ⟨hI.nil, hI.op_mode _⟩
  · exact hI.lexNext (hI.op_mode acc) h

/-- And after what stood in front. -/
theorem LexInvariant.after {ts₀ : List Token} {r : Option (List Token × LexMode)} (hI : LexInvariant P M) (h₀ : P ts₀)
    (h : after ts₀ r = some (ts, m)) (hr : ∀ ts m, r = some (ts, m) → P ts ∧ M m) : P ts ∧ M m := by
  obtain ⟨ts₁, hstep, rfl⟩ := after_eq_some.1 h
  obtain ⟨h₁, hm⟩ := hr ts₁ m hstep
  exact ⟨hI.append h₀ h₁, hm⟩

/-- What each step keeps holds of all tokens of a text. -/
theorem LexInvariant.lex (hI : LexInvariant P M) (hstart : M .start)
    (hstep : ∀ {m c ts m'}, M m → lexStep m c = some (ts, m') → P ts ∧ M m') (h : lex w = some ts) : P ts := by
  obtain ⟨ts₀, m, ts₁, hrun, hflush, rfl⟩ := lex_eq_some.1 h
  have hall : M .start → P ts₀ ∧ M m := by
    refine lexRun_induct (P := fun m _ ts m' => M m → P ts ∧ M m') ?_ ?_ hrun
    · exact fun m hm => ⟨hI.nil, hm⟩
    · intro m c w ts₁ m₁ ts₂ m₂ hfirst ih hm
      obtain ⟨h₁, hm₁⟩ := hstep hm hfirst
      obtain ⟨h₂, hm₂⟩ := ih hm₁
      exact ⟨hI.append h₁ h₂, hm₂⟩
  obtain ⟨h₀, hm⟩ := hall hstart
  exact hI.append h₀ (hI.flush hm hflush)

end

/-! ## Sizes -/

/-- How much of a text an identifier takes at least. -/
def Token.size : Token → ℕ
  | .word w => w.length
  | .quoted w => w.length + 1
  | _ => 0

/-- The length of the tokens. -/
def sizes : List Token → ℕ
  | [] => 0
  | t :: ts => t.size + sizes ts

/-- The same, of an identifier that is not complete. -/
def LexMode.size : LexMode → ℕ
  | .word acc | .quoted acc => acc.length
  | .quotedQuote acc => acc.length + 1
  | .exp _ _ | .expSign _ _ _ => 1
  | _ => 0

section
variable {m m' : LexMode} {c : Char} {ts : List Token} {w : Text}

@[simp] theorem sizes_append (ts ts' : List Token) : sizes (ts ++ ts') = sizes ts + sizes ts' := by
  induction ts with
  | nil => exact (Nat.zero_add _).symm
  | cons t ts ih => rw [List.cons_append, sizes, sizes, ih, Nat.add_assoc]

@[simp] theorem sizes_singleton (t : Token) : sizes [t] = t.size := rfl

@[simp] theorem sizes_opTokens (acc : Text) : sizes (opTokens acc) = 0 := by
  refine opTokens_induct (P := fun ts => sizes ts = 0) rfl (fun _ => rfl) (fun h h' => ?_) acc
  rw [sizes_append, h, h']

/-- The last token is no longer than what the mode holds. -/
theorem flush_size (h : m.flush = some ts) : sizes ts ≤ m.size := by
  cases m with
  | start | lineComment | word | dot | num | frac | exp | expSign | expNum | strQuote | estrQuote | quotedQuote =>
    cases h
    simp [sizes, Token.size, LexMode.size]
  | op acc =>
    cases h
    exact (sizes_opTokens acc).le
  | str | estr | estrBackslash | quoted | blockComment => cases h

/-- Punctuation counts for nothing. -/
theorem punctuation_size {t : Token} (h : punctuation c = some t) : t.size = 0 := by
  unfold punctuation at h
  split_ifs at h <;> cases h <;> rfl

/-- Only a word has a size when it starts. -/
theorem startMode_size (h : startMode c = some m) : m.size = 0 ∨ (isIdentStart c = true ∧ m = .word [c]) := by
  unfold startMode at h
  split_ifs at h with _ _ _ hident <;> cases h
  · exact .inl rfl
  · exact .inl rfl
  · exact .inl rfl
  · exact .inr ⟨hident, rfl⟩
  · exact .inl rfl
  · exact .inl rfl

/-- The first character of a token counts for nothing, unless it starts a word. -/
theorem lexStart_size (h : lexStart c = some (ts, m)) :
    sizes ts + m.size = 0 ∨ (isIdentStart c = true ∧ ts = [] ∧ m = .word [c]) := by
  unfold lexStart at h
  split at h
  · cases h
    exact .inl rfl
  · split at h
    next t hpunctuation =>
      cases h
      left
      simp [sizes, LexMode.size, punctuation_size hpunctuation]
    next =>
      obtain ⟨m', hmode, heq⟩ := Option.map_eq_some_iff.1 h
      cases heq
      exact (startMode_size hmode).imp (fun hzero => by simp [sizes, hzero]) fun hword => ⟨hword.1, rfl, hword.2⟩

/-- The next character adds at most one. -/
theorem lexNext_size (h : lexNext m c = some (ts, m')) : sizes ts + m'.size ≤ m.size + 1 := by
  obtain ⟨ts₀, ts₁, hflush, hstart, rfl⟩ := lexNext_eq_some.1 h
  have hle := flush_size hflush
  rw [sizes_append]
  rcases lexStart_size hstart with hzero | ⟨-, rfl, rfl⟩
  · omega
  · exact Nat.add_le_add_right hle 1

/-- A character after a word adds at most one. -/
theorem wordStep_size {acc : Text} (h : wordStep acc c = some (ts, m)) : sizes ts + m.size ≤ acc.length + 1 := by
  unfold wordStep at h
  split_ifs at h
  · cases h
    simp [sizes, LexMode.size]
  · cases h
    exact Nat.zero_le _
  · cases h
    exact Nat.zero_le _
  · exact lexNext_size h

/-- A character after an operator counts for one at most. -/
theorem opStep_size {acc : Text} (h : opStep acc c = some (ts, m)) : sizes ts + m.size ≤ 1 := by
  unfold opStep at h
  split_ifs at h
  · cases h
    simp [LexMode.size]
  · cases h
    simp [LexMode.size]
  · cases h
    exact Nat.zero_le _
  · exact lexNext_size h

/-- What stood in front adds its length. -/
theorem after_size {ts₀ : List Token} {n : ℕ} {r : Option (List Token × LexMode)} (h : after ts₀ r = some (ts, m))
    (hr : ∀ ts m, r = some (ts, m) → sizes ts + m.size ≤ n) : sizes ts + m.size ≤ sizes ts₀ + n := by
  obtain ⟨ts₁, hstep, rfl⟩ := after_eq_some.1 h
  have hle := hr ts₁ m hstep
  rw [sizes_append]
  omega

/-- Every character adds at most one. -/
theorem lexStep_size (h : lexStep m c = some (ts, m')) : sizes ts + m'.size ≤ m.size + 1 := by
  cases m with
  | start =>
    rcases lexStart_size h with hzero | ⟨-, rfl, rfl⟩
    · omega
    · exact le_rfl
  | word acc => exact wordStep_size h
  | op acc => exact opStep_size h
  | exp acc e =>
    simp only [lexStep] at h
    split_ifs at h
    · cases h
      exact Nat.zero_le _
    · cases h
      exact Nat.le_succ 1
    · exact (after_size h fun _ _ => wordStep_size).trans (by simp [sizes, Token.size, LexMode.size])
  | expSign acc e sign =>
    simp only [lexStep] at h
    split_ifs at h
    · cases h
      exact Nat.zero_le _
    · exact (after_size h fun _ _ => opStep_size).trans (by simp [sizes, Token.size, LexMode.size])
  | dot | num | frac | expNum | str | strQuote | estr | estrBackslash | estrQuote | quoted | quotedQuote |
    lineComment | blockComment =>
    simp only [lexStep] at h
    split_ifs at h <;> first
    | exact lexNext_size h
    | cases h
      simp [sizes, LexMode.size]

/-- What is read is no longer than the text. -/
theorem lexRun_size (h : lexRun m w = some (ts, m')) : sizes ts + m'.size ≤ m.size + w.length := by
  refine lexRun_induct (P := fun m w ts m' => sizes ts + m'.size ≤ m.size + w.length) ?_ ?_ h
  · simp [sizes]
  · intro m c w ts₁ m₁ ts₂ m₂ hstep ih
    have hle := lexStep_size hstep
    rw [List.length_cons, sizes_append]
    omega

end

/-! ## Identifiers -/

/-- The name that a token is, as an identifier with or without quotes. -/
def Token.name? : Token → Option Text
  | .word w | .quoted w => some w
  | _ => none

/-- A token is at least as long as its name. -/
theorem Token.size_of_name {t : Token} {w : Text} (h : t.name? = some w) : w.length ≤ t.size := by
  cases t with
  | word w' =>
    cases h
    exact le_rfl
  | quoted w' =>
    cases h
    exact Nat.le_succ _
  | _ => cases h

section
variable {w acc : Text} {c : Char} {ts : List Token}

/-- What starts an identifier is behind the digits and most signs. -/
theorem toNat_of_identStart (h : isIdentStart c = true) : 65 ≤ c.toNat := by
  have hA : 'A'.val.toNat = 65 := rfl
  have ha : 'a'.val.toNat = 97 := rfl
  have halpha : c.isAlpha = (c.isUpper || c.isLower) := rfl
  have hupper : c.isUpper = decide (c.val ≥ 'A'.val ∧ c.val ≤ 'Z'.val) := rfl
  have hlower : c.isLower = (decide (c.val ≥ 'a'.val) && decide (c.val ≤ 'z'.val)) := rfl
  simp only [isIdentStart, halpha, hupper, hlower, Bool.and_eq_true, Bool.or_eq_true, decide_eq_true_eq, ge_iff_le,
    UInt32.le_iff_toNat_le] at h
  obtain ⟨((h | h) | rfl) | h, -⟩ := h
  · exact hA ▸ h.1
  · exact (by omega : 65 ≤ 97).trans (ha ▸ h.1)
  · decide
  · omega

/-- It is no blank. -/
theorem not_space_of_identStart (h : isIdentStart c = true) : isSpace c = false := by
  have hlarge := toNat_of_identStart h
  have hunicode : isUnicodeSpace c = false := by
    rw [isIdentStart, Bool.and_eq_true, Bool.not_eq_true'] at h
    exact h.2
  have hblank : c ≠ ' ' := by
    rintro rfl
    exact absurd hlarge (by decide)
  simp only [isSpace, hunicode, hblank, Bool.or_false, decide_false, Bool.false_or, Bool.and_eq_false_iff,
    decide_eq_false_iff_not]
  omega

/-- What is in a class is none of the characters outside it. -/
theorem ne_of_class {p : Char → Bool} {d : Char} (hc : p c = true) (hd : p d = false) : c ≠ d := by
  rintro rfl
  rw [hc] at hd
  cases hd

/-- A class without punctuation. -/
theorem punctuation_eq_none {p : Char → Bool} (hc : p c = true)
    (hp : (['(', ')', ',', ';', '[', ']', ':', '\x7b', '\x7d'].all fun d => !p d) = true) :
    punctuation c = none := by
  have hne : ∀ d ∈ ['(', ')', ',', ';', '[', ']', ':', '\x7b', '\x7d'], c ≠ d := by
    intro d hd
    have hnot := List.all_eq_true.1 hp d hd
    exact ne_of_class hc (Bool.not_eq_true' _ ▸ hnot)
  simp only [List.forall_mem_cons] at hne
  obtain ⟨h₁, h₂, h₃, h₄, h₅, h₆, h₇, h₈, h₉, -⟩ := hne
  simp [punctuation, h₁, h₂, h₃, h₄, h₅, h₆, h₇, h₈, h₉]

/-- The first character of an identifier starts a word. -/
theorem lexStart_identStart (h : isIdentStart c = true) : lexStart c = some ([], .word [c]) := by
  have hmode : startMode c = some (.word [c]) := by
    rw [startMode, if_neg (ne_of_class h rfl), if_neg (ne_of_class h rfl), if_neg (ne_of_class h rfl), if_pos h]
  rw [lexStart, not_space_of_identStart h, if_neg Bool.false_ne_true, punctuation_eq_none h rfl, hmode]
  rfl

/-- A word is read up to its end. -/
theorem lexRun_word (hc : isIdentStart c = true) (hw : ∀ d ∈ w, isIdentCont d = true) :
    lexRun .start (c :: w) = some ([], .word (c :: w).reverse) := by
  have hstep : ∀ acc d, isIdentCont d = true → lexStep (.word acc) d = some ([], .word (d :: acc)) :=
    fun acc d hd => if_pos hd
  have hstart : lexStep .start c = some ([], .word [c]) := lexStart_identStart hc
  rw [lexRun_cons hstart, lexRun_all hstep hw, after_nil, List.reverse_cons]

/-- A text that is a word is read as one. -/
theorem Reads.word (h : isWord w = true) : Reads w [.word w] := by
  cases w with
  | nil => cases h
  | cons c w =>
    rw [isWord, Bool.and_eq_true, List.all_eq_true] at h
    exact ⟨[], _, _, lexRun_word h.1 h.2, rfl, by rw [List.reverse_reverse]; rfl⟩

/-- After the characters of a word, a word begins with them, or the letter of a string has been read. -/
theorem wordStep_of_not_cont {m : LexMode} (hc : isIdentCont c = false) (h : wordStep acc c = some (ts, m)) :
    (∃ ts', ts = .word acc.reverse :: ts') ∨ (ts = [] ∧ m.size = 0) := by
  unfold wordStep at h
  rw [hc, if_neg Bool.false_ne_true] at h
  split_ifs at h
  · cases h
    exact .inr ⟨rfl, rfl⟩
  · cases h
    exact .inr ⟨rfl, rfl⟩
  · obtain ⟨ts₀, ts', hflush, -, rfl⟩ := lexNext_eq_some.1 h
    cases hflush
    exact .inl ⟨ts', rfl⟩

/-- Of a word that goes on, something else has been read. -/
theorem all_cont_of_lexRun {t : Token} {m : LexMode} {ts₁ : List Token} (h : lexRun (.word acc) w = some (ts, m))
    (hflush : m.flush = some ts₁) (heq : ts ++ ts₁ = [t]) (hname : t.name? = some (acc.reverse ++ w)) :
    ∀ d ∈ w, isIdentCont d = true := by
  induction w generalizing acc with
  | nil => nofun
  | cons c w ih =>
    cases hc : isIdentCont c with
    | true =>
      have hstep : lexStep (.word acc) c = some ([], .word (c :: acc)) := if_pos hc
      rw [lexRun_cons hstep, after_nil] at h
      have hrest := ih h (by rw [hname, List.reverse_cons, List.append_assoc]; rfl)
      intro d hd
      rcases List.mem_cons.1 hd with rfl | hd
      · exact hc
      · exact hrest d hd
    | false =>
      exfalso
      obtain ⟨ts₂, m₂, ts₃, hstep, hrun, rfl⟩ := lexRun_cons_eq_some.1 h
      have hname' := Token.size_of_name hname
      rw [List.length_append, List.length_reverse, List.length_cons] at hname'
      rcases wordStep_of_not_cont hc hstep with ⟨ts', rfl⟩ | ⟨rfl, hzero⟩
      · obtain ⟨rfl, -⟩ := List.cons.inj heq
        have hlen : acc.reverse.length + w.length + 1 ≤ acc.reverse.length := by
          rw [List.length_reverse]
          exact hname'.trans (List.length_reverse ▸ le_rfl)
        omega
      · have hsize := congrArg sizes heq
        have hrest := lexRun_size hrun
        have hflush' := flush_size hflush
        rw [List.nil_append, sizes_append, sizes_singleton] at hsize
        omega

/-- A text that is read as an identifier of its own characters is a word. -/
theorem isWord_of_lex {t : Token} (h : lex w = some [t]) (hname : t.name? = some w) : isWord w = true := by
  have hsize := Token.size_of_name hname
  obtain ⟨ts₀, m, ts₁, hrun, hflush, heq⟩ := lex_eq_some.1 h
  cases w with
  | nil =>
    cases hrun
    cases hflush
    cases heq
  | cons c w =>
    obtain ⟨ts₂, m₂, ts₃, hstart, hrun₃, rfl⟩ := lexRun_cons_eq_some.1 hrun
    rcases lexStart_size hstart with hzero | ⟨hident, rfl, rfl⟩
    · -- too little is left for the name
      exfalso
      have hsizes := congrArg sizes heq
      have hrun' := lexRun_size hrun₃
      have hflush' := flush_size hflush
      rw [sizes_append, sizes_append, sizes_singleton] at hsizes
      rw [List.length_cons] at hsize
      omega
    · rw [isWord, hident, Bool.true_and, List.all_eq_true]
      exact all_cont_of_lexRun hrun₃ hflush heq hname

end

end PgDuckdb.Duck
