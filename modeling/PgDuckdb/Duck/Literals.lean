import PgDuckdb.Duck.Lexer

/-!
# Names, strings and numbers

What DuckDB's lexer reads of a name in quotes, of a string with its quotes doubled, of one with escapes, and of a
number. A name may have a dot after it, which is no delimiter (`ReadsName.dot`).

A number is a text that the lexer takes into one token of digits. Every number token is one, wherever it stands
(`isNumber_of_lex`).
-/

namespace PgDuckdb.Duck

open Pg (Text isOpChar unescape_single_char)

section
variable {w w' acc s : Text} {c : Char} {m m' : LexMode} {t : Token} {ts : List Token}

/-- One more character. -/
theorem lexRun_concat (h : lexRun .start w = some (ts, m)) (hstep : lexStep m c = some ([], m')) :
    lexRun .start (w ++ [c]) = some (ts, m') := by
  rw [lexRun_append h, lexRun_cons hstep]
  exact congrArg some (Prod.ext (List.append_nil ts) rfl)

/-- The lexer goes on after a text it has read. -/
theorem lexRun_reverse_cons (h : lexRun .start acc.reverse = some (ts, m)) (hstep : lexStep m c = some ([], m')) :
    lexRun .start (c :: acc).reverse = some (ts, m') := by
  rw [List.reverse_cons]
  exact lexRun_concat h hstep

/-! ## Names -/

/-- Escaped quotes stay inside the quoted name. -/
theorem lexRun_quoted :
    lexRun (.quoted acc) (Text.escapeQuotes '"' s) = some ([], .quoted (s.reverse ++ acc)) := by
  induction s generalizing acc with
  | nil => rfl
  | cons c s ih =>
    by_cases hc : c = '"'
    · subst hc
      simp [Text.escapeQuotes_cons_self, lexRun, lexStep, after, ih]
    · simp [Text.escapeQuotes_cons_ne hc, lexRun, lexStep, after, hc, ih]

/-- The text is a name, with or without quotes. -/
def ReadsName (w : Text) (t : Token) : Prop :=
  lexRun .start w = some ([], .word w.reverse) ∧ t = .word w ∨
    ∃ acc, lexRun .start w = some ([], .quotedQuote acc) ∧ t = .quoted acc.reverse

/-- A word is read as itself. -/
theorem ReadsName.word (h : isWord w = true) : ReadsName w (.word w) := by
  cases w with
  | nil => cases h
  | cons c w =>
    rw [isWord, Bool.and_eq_true, List.all_eq_true] at h
    exact .inl ⟨lexRun_word h.1 h.2, rfl⟩

/-- A name in quotes, its quotes doubled. -/
theorem ReadsName.quoted : ReadsName ('"' :: Text.escapeQuotes '"' s ++ ['"']) (.quoted s) := by
  have hstart : lexStep .start '"' = some ([], .quoted []) := rfl
  have hrun : lexRun .start ('"' :: Text.escapeQuotes '"' s) = some ([], .quoted s.reverse) := by
    rw [lexRun_cons hstart, lexRun_quoted, after_nil, List.append_nil]
  exact .inr ⟨s.reverse, lexRun_concat hrun rfl, by rw [List.reverse_reverse]⟩

/-- A name is read as its token. -/
theorem ReadsName.reads (h : ReadsName w t) : Reads w [t] := by
  rcases h with ⟨hrun, rfl⟩ | ⟨s, hrun, rfl⟩
  · exact ⟨[], _, _, hrun, rfl, by rw [List.reverse_reverse]; rfl⟩
  · exact ⟨[], _, _, hrun, rfl, rfl⟩

/-- A name, a dot, and something that is no fraction. -/
theorem ReadsName.dot (h : ReadsName w t) (h' : Reads w' ts) (hdigit : ∀ c ∈ w'.head?, c.isDigit = false) :
    Reads (w ++ '.' :: w') (t :: .dot :: ts) := by
  have hdot : lexRun .start (w ++ ['.']) = some ([t], .dot) := by
    rcases h with ⟨hrun, rfl⟩ | ⟨s, hrun, rfl⟩
    · have hstep : lexStep (.word (List.reverse w)) '.' = some ([.word w], .dot) := by
        change some ([Token.word w.reverse.reverse], LexMode.dot) = _
        rw [List.reverse_reverse]
      rw [lexRun_append hrun, lexRun_cons hstep]
      rfl
    · have hstep : lexStep (.quotedQuote s) '.' = some ([.quoted s.reverse], .dot) := rfl
      rw [lexRun_append hrun, lexRun_cons hstep]
      rfl
  rw [List.append_cons]
  obtain ⟨ts₀, m, ts₁, hrun, hready, rfl⟩ := h'
  cases w' with
  | nil =>
    cases hrun
    cases hready
    exact ⟨[t], .dot, [.dot], by rw [List.append_nil]; exact hdot, rfl, rfl⟩
  | cons c w' =>
    have hnot : c.isDigit = false := hdigit c rfl
    obtain ⟨ts₂, m₂, ts₃, hstart, hrun₃, rfl⟩ := lexRun_cons_eq_some.1 hrun
    have hstep : lexStep .dot c = some (.dot :: ts₂, m₂) := by
      rw [lexStep, hnot, if_neg Bool.false_ne_true]
      exact lexNext_eq_some.2 ⟨[.dot], ts₂, rfl, hstart, rfl⟩
    refine ⟨t :: .dot :: (ts₂ ++ ts₃), m, ts₁, ?_, hready, rfl⟩
    rw [lexRun_append hdot, lexRun_cons hstep, hrun₃]
    rfl

/-! ## Strings -/

/-- Escaped quotes stay inside the string. -/
theorem lexRun_str : lexRun (.str acc) (Text.escapeQuotes '\'' s) = some ([], .str (s.reverse ++ acc)) := by
  induction s generalizing acc with
  | nil => rfl
  | cons c s ih =>
    by_cases hc : c = '\''
    · subst hc
      simp [Text.escapeQuotes_cons_self, lexRun, lexStep, after, ih]
    · simp [Text.escapeQuotes_cons_ne hc, lexRun, lexStep, after, hc, ih]

/-- A string, its quotes doubled. -/
theorem Reads.str : Reads ('\'' :: Text.escapeQuotes '\'' s ++ ['\'']) [.str s] := by
  have hstart : lexStep .start '\'' = some ([], .str []) := rfl
  have hrun : lexRun .start ('\'' :: Text.escapeQuotes '\'' s) = some ([], .str s.reverse) := by
    rw [lexRun_cons hstart, lexRun_str, after_nil, List.append_nil]
  exact ⟨[], .strQuote s.reverse, _, lexRun_concat hrun rfl, rfl, by rw [List.reverse_reverse]; rfl⟩

/-- A string with escapes reads back where both characters are escaped. -/
theorem lexRun_estr : lexRun (.estr acc) (Text.escapeQuotes '\\' (Text.escapeQuotes '\'' s)) =
    some ([], .estr (s.reverse ++ acc)) := by
  have hne : '\'' ≠ '\\' := by decide
  induction s generalizing acc with
  | nil => rfl
  | cons c s ih =>
    by_cases hquote : c = '\''
    · subst hquote
      simp [Text.escapeQuotes_cons_self, Text.escapeQuotes_cons_ne hne, lexRun, lexStep, after, ih]
    · by_cases hbackslash : c = '\\'
      · subst hbackslash
        have hescape : unescape_single_char '\\' = '\\' := by decide
        simp [Text.escapeQuotes_cons_self, Text.escapeQuotes_cons_ne hquote, lexRun, lexStep, after, hescape, ih]
      · simp [Text.escapeQuotes_cons_ne hquote, Text.escapeQuotes_cons_ne hbackslash, lexRun, lexStep, after,
          hquote, hbackslash, ih]

/-- A string with escapes, its quotes and backslashes doubled. -/
theorem Reads.estr :
    Reads ('E' :: '\'' :: Text.escapeQuotes '\\' (Text.escapeQuotes '\'' s) ++ ['\'']) [.str s] := by
  have hstart : lexStep .start 'E' = some ([], .word ['E']) := by decide
  have hquote : lexStep (.word ['E']) '\'' = some ([], .estr []) := by decide
  have hrun : lexRun .start ('E' :: '\'' :: Text.escapeQuotes '\\' (Text.escapeQuotes '\'' s)) =
      some ([], .estr s.reverse) := by
    rw [lexRun_cons hstart, lexRun_cons hquote, lexRun_estr, after_nil, after_nil, List.append_nil]
  exact ⟨[], .estrQuote s.reverse, _, lexRun_concat hrun rfl, rfl, by rw [List.reverse_reverse]; rfl⟩

/-! ## Numbers -/

/-- A text that is a number. -/
def isNumber (w : Text) : Bool :=
  lexRun .start w = some ([], .num w.reverse) || lexRun .start w = some ([], .frac w.reverse) ||
    lexRun .start w = some ([], .expNum w.reverse)

/-- A number is a text that the lexer leaves in one of its three number modes. -/
theorem isNumber_iff : isNumber w = true ↔ lexRun .start w = some ([], .num w.reverse) ∨
    lexRun .start w = some ([], .frac w.reverse) ∨ lexRun .start w = some ([], .expNum w.reverse) := by
  simp only [isNumber, Bool.or_eq_true, decide_eq_true_eq, or_assoc]

/-- A number is read as itself. -/
theorem Reads.number (h : isNumber w = true) : Reads w [.num w] := by
  have htoken : [Token.num w.reverse.reverse] = [.num w] := by rw [List.reverse_reverse]
  rcases isNumber_iff.1 h with hrun | hrun | hrun
  · exact ⟨[], _, _, hrun, rfl, htoken⟩
  · exact ⟨[], _, _, hrun, rfl, htoken⟩
  · exact ⟨[], _, _, hrun, rfl, htoken⟩

/-- A digit starts a number. -/
theorem lexStart_digit (h : c.isDigit = true) : lexStart c = some ([], .num [c]) := by
  have hbounds : 48 ≤ c.toNat ∧ c.toNat ≤ 57 := by
    rw [Char.isDigit, Bool.and_eq_true, decide_eq_true_eq, decide_eq_true_eq, ge_iff_le,
      UInt32.le_iff_toNat_le, UInt32.le_iff_toNat_le] at h
    exact h
  have hspace : isSpace c = false := by
    have hunicode : isUnicodeSpace c = false := by
      simp only [isUnicodeSpace, Bool.or_eq_false_iff, Bool.and_eq_false_iff, decide_eq_false_iff_not]
      omega
    have hblank : c ≠ ' ' := ne_of_class h rfl
    simp only [isSpace, hunicode, hblank, Bool.or_false, decide_false, Bool.false_or, Bool.and_eq_false_iff,
      decide_eq_false_iff_not]
    omega
  have hident : isIdentStart c = false := by
    refine Bool.eq_false_iff.2 fun hstart => ?_
    have hlarge := toNat_of_identStart hstart
    omega
  have hmode : startMode c = some (.num [c]) := by
    rw [startMode, if_neg (ne_of_class h rfl), if_neg (ne_of_class h rfl), if_neg (ne_of_class h rfl),
      if_neg (ne_true_of_eq_false hident), if_pos h]
  rw [lexStart, hspace, if_neg Bool.false_ne_true, punctuation_eq_none h rfl, hmode]
  rfl

/-- Digits are a number. -/
theorem isNumber_of_digits (hne : w ≠ []) (h : ∀ c ∈ w, c.isDigit = true) : isNumber w = true := by
  cases w with
  | nil => exact absurd rfl hne
  | cons c w =>
    have hstart : lexStep .start c = some ([], .num [c]) := lexStart_digit (h c List.mem_cons_self)
    have hstep : ∀ acc d, d.isDigit = true → lexStep (.num acc) d = some ([], .num (d :: acc)) := by
      intro acc d hd
      have hcont : isNumCont d = true := by rw [isNumCont, hd, Bool.true_or]
      exact if_pos hcont
    refine isNumber_iff.2 (.inl ?_)
    rw [lexRun_cons hstart, lexRun_all hstep fun d hd => h d (List.mem_cons_of_mem _ hd), after_nil,
      List.reverse_cons]

/-- The number that is not complete is the text since its start. -/
def LexMode.Numeric : LexMode → Prop
  | .num acc => lexRun .start acc.reverse = some ([], .num acc)
  | .frac acc => lexRun .start acc.reverse = some ([], .frac acc)
  | .exp acc e => isNumber acc.reverse = true ∧ lexRun .start (e :: acc).reverse = some ([], .exp acc e)
  | .expSign acc e sign =>
    isNumber acc.reverse = true ∧ lexRun .start (sign :: e :: acc).reverse = some ([], .expSign acc e sign)
  | .expNum acc => lexRun .start acc.reverse = some ([], .expNum acc)
  | _ => True

/-- The tokens that are numbers are texts that are. -/
def Numbers (ts : List Token) : Prop := ∀ w, .num w ∈ ts → isNumber w = true

/-- No token, no number. -/
theorem numbers_nil : Numbers [] := fun _ hw => absurd hw List.not_mem_nil

/-- Numbers of a concatenation. -/
theorem numbers_append {ts' : List Token} (h : Numbers ts) (h' : Numbers ts') : Numbers (ts ++ ts') := by
  intro w hw
  rcases List.mem_append.1 hw with hw | hw
  · exact h w hw
  · exact h' w hw

/-- One token, with its number. -/
theorem numbers_singleton (h : ∀ w, t = .num w → isNumber w = true) : Numbers [t] := by
  intro w hw
  exact h w (List.mem_singleton.1 hw).symm

/-- An operator is no number. -/
theorem numbers_op : Numbers [.op w] :=
  numbers_singleton fun _ hw => by cases hw

/-- A word is no number. -/
theorem numbers_word : Numbers [.word w] :=
  numbers_singleton fun _ hw => by cases hw

/-- A number token holds a number. -/
theorem numbers_num (h : isNumber w = true) : Numbers [.num w] := by
  refine numbers_singleton fun w' hw => ?_
  cases hw
  exact h

/-- A complete number is one. -/
theorem LexMode.Numeric.isNumber (h : m.Numeric)
    (hm : m = .num acc ∨ m = .frac acc ∨ m = .expNum acc) : isNumber acc.reverse = true := by
  rw [isNumber_iff, List.reverse_reverse]
  rcases hm with rfl | rfl | rfl
  · exact .inl h
  · exact .inr (.inl h)
  · exact .inr (.inr h)

/-- A number mode that ends leaves a number. -/
theorem LexMode.Numeric.flush (h : m.Numeric) (hflush : m.flush = some ts) : Numbers ts := by
  cases m with
  | start | lineComment | word | dot | strQuote | estrQuote | quotedQuote =>
    cases hflush
    first
    | exact numbers_nil
    | exact numbers_singleton fun _ hw => by cases hw
  | num acc =>
    cases hflush
    exact numbers_num (h.isNumber (.inl rfl))
  | frac acc =>
    cases hflush
    exact numbers_num (h.isNumber (.inr (.inl rfl)))
  | expNum acc =>
    cases hflush
    exact numbers_num (h.isNumber (.inr (.inr rfl)))
  | exp acc e =>
    cases hflush
    exact numbers_append (numbers_num h.1) numbers_word
  | expSign acc e sign =>
    cases hflush
    exact numbers_append (numbers_num h.1) (numbers_append numbers_word numbers_op)
  | op acc =>
    cases hflush
    exact opTokens_induct numbers_nil (fun _ => numbers_op) numbers_append acc
  | str | estr | estrBackslash | quoted | blockComment => cases hflush

/-- The first character of a token leaves numbers, and a number that has been read so far. -/
theorem lexStart_numbers (h : lexStart c = some (ts, m)) : Numbers ts ∧ m.Numeric := by
  have hrun : lexRun .start [c] = some (ts, m) := by
    have hstep : lexStep .start c = some (ts, m) := h
    rw [lexRun_cons hstep]
    exact congrArg some (Prod.ext (List.append_nil ts) rfl)
  unfold lexStart at h
  split at h
  · cases h
    exact ⟨numbers_nil, trivial⟩
  · split at h
    next t hpunctuation =>
      cases h
      refine ⟨numbers_singleton ?_, trivial⟩
      rintro w rfl
      unfold punctuation at hpunctuation
      split_ifs at hpunctuation <;> cases hpunctuation
    next =>
      obtain ⟨m', hmode, heq⟩ := Option.map_eq_some_iff.1 h
      cases heq
      refine ⟨numbers_nil, ?_⟩
      unfold startMode at hmode
      split_ifs at hmode <;> cases hmode
      · trivial
      · trivial
      · trivial
      · trivial
      · exact hrun
      · trivial

/-- Tokens are numbers and modes are number modes, all along a run. -/
theorem numeric : LexInvariant Numbers LexMode.Numeric where
  nil := numbers_nil
  append := numbers_append
  op _ := numbers_op
  op_mode _ := trivial
  lineComment := trivial
  blockComment _ _ := trivial
  flush := LexMode.Numeric.flush
  lexStart := lexStart_numbers

/-- A character behind a word leaves numbers. -/
theorem wordStep_numbers (h : wordStep acc c = some (ts, m)) : Numbers ts ∧ m.Numeric := by
  unfold wordStep at h
  split_ifs at h
  · cases h
    exact ⟨numbers_nil, trivial⟩
  · cases h
    exact ⟨numbers_nil, trivial⟩
  · cases h
    exact ⟨numbers_nil, trivial⟩
  · have hword : (LexMode.word acc).Numeric := trivial
    exact numeric.lexNext hword h

/-- A number that goes on is still the text since its start. -/
theorem lexStep_numbers (hm : m.Numeric) (h : lexStep m c = some (ts, m')) : Numbers ts ∧ m'.Numeric := by
  have hstep := h
  cases m with
  | start => exact lexStart_numbers h
  | word acc => exact wordStep_numbers h
  | op acc => exact numeric.opStep h
  | dot =>
    simp only [lexStep] at h
    split_ifs at h with hdigit
    · cases h
      have hdot : lexRun .start ['.'] = some ([], .dot) := rfl
      exact ⟨numbers_nil, lexRun_concat hdot hstep⟩
    · exact numeric.lexNext hm h
  | num acc =>
    simp only [lexStep] at h
    split_ifs at h
    · cases h
      exact ⟨numbers_nil, lexRun_reverse_cons hm hstep⟩
    · cases h
      exact ⟨numbers_nil, lexRun_reverse_cons hm hstep⟩
    · cases h
      exact ⟨numbers_nil, hm.isNumber (.inl rfl), lexRun_reverse_cons hm hstep⟩
    · exact numeric.lexNext hm h
  | frac acc =>
    simp only [lexStep] at h
    split_ifs at h
    · cases h
      exact ⟨numbers_nil, lexRun_reverse_cons hm hstep⟩
    · cases h
      exact ⟨numbers_nil, hm.isNumber (.inr (.inl rfl)), lexRun_reverse_cons hm hstep⟩
    · exact numeric.lexNext hm h
  | expNum acc =>
    simp only [lexStep] at h
    split_ifs at h
    · cases h
      exact ⟨numbers_nil, lexRun_reverse_cons hm hstep⟩
    · exact numeric.lexNext hm h
  | exp acc e =>
    simp only [lexStep] at h
    split_ifs at h
    · cases h
      exact ⟨numbers_nil, lexRun_reverse_cons hm.2 hstep⟩
    · cases h
      exact ⟨numbers_nil, hm.1, lexRun_reverse_cons hm.2 hstep⟩
    · exact numeric.after (numbers_num hm.1) h fun _ _ => wordStep_numbers
  | expSign acc e sign =>
    simp only [lexStep] at h
    split_ifs at h
    · cases h
      exact ⟨numbers_nil, lexRun_reverse_cons hm.2 hstep⟩
    · exact numeric.after (numbers_append (numbers_num hm.1) numbers_word) h fun _ _ => numeric.opStep
  | str | strQuote | estr | estrBackslash | estrQuote | quoted | quotedQuote | lineComment | blockComment =>
    simp only [lexStep] at h
    split_ifs at h <;> first
    | exact numeric.lexNext hm h
    | cases h
      exact ⟨numbers_nil, trivial⟩

/-- A token that is a number is a text that is. -/
theorem isNumber_of_lex (h : lex w = some ts) : Numbers ts := numeric.lex trivial lexStep_numbers h

end

/-- How much of the text since the start of a number has been read. -/
def LexMode.digits : LexMode → ℕ
  | .dot => 1
  | .num acc | .frac acc | .expNum acc => acc.length
  | .exp acc _ => acc.length + 1
  | .expSign acc _ _ => acc.length + 2
  | _ => 0

section
variable {w : Text} {c : Char} {m m' : LexMode} {ts : List Token}

/-- Only a digit or a dot starts a number. -/
theorem lexStart_digits (h : lexStart c = some (ts, m)) : m.digits = 0 ∨ (m.digits = 1 ∧ isOpChar c = false) := by
  unfold lexStart at h
  split at h
  · cases h
    exact .inl rfl
  · split at h
    · cases h
      exact .inl rfl
    · obtain ⟨m', hmode, heq⟩ := Option.map_eq_some_iff.1 h
      cases heq
      unfold startMode at hmode
      split_ifs at hmode with hdot _ _ _ hdigit <;> cases hmode
      · exact .inr ⟨rfl, hdot ▸ rfl⟩
      · exact .inl rfl
      · exact .inl rfl
      · exact .inl rfl
      · refine .inr ⟨rfl, Bool.eq_false_iff.2 fun hop => ?_⟩
        have hnone : ("~!@#^&|`?+-*/%<>=".toList.all fun d => !d.isDigit) = true := rfl
        have hnot := List.all_eq_true.1 hnone c (of_decide_eq_true hop)
        rw [hdigit] at hnot
        cases hnot
      · exact .inl rfl

/-- A character behind a token is at most one digit of a number. -/
theorem lexNext_digits (h : lexNext m c = some (ts, m')) : m'.digits ≤ 1 := by
  obtain ⟨ts₀, ts₁, -, hstart, -⟩ := lexNext_eq_some.1 h
  rcases lexStart_digits hstart with hzero | ⟨hone, -⟩
  · exact hzero.le.trans (Nat.zero_le 1)
  · exact hone.le

/-- A character behind a word is at most one digit of a number. -/
theorem wordStep_digits {acc : Text} (h : wordStep acc c = some (ts, m)) : m.digits ≤ 1 := by
  unfold wordStep at h
  split_ifs at h
  · cases h
    exact Nat.zero_le 1
  · cases h
    exact Nat.zero_le 1
  · cases h
    exact Nat.zero_le 1
  · exact lexNext_digits h

/-- A character behind an operator is at most one digit of a number. -/
theorem opStep_digits {acc : Text} (h : opStep acc c = some (ts, m)) : m.digits ≤ 1 := by
  unfold opStep at h
  split_ifs at h
  · cases h
    exact Nat.zero_le 1
  · cases h
    exact Nat.zero_le 1
  · cases h
    exact Nat.zero_le 1
  · exact lexNext_digits h

/-- The bound on the digits passes over the tokens in front. -/
theorem after_digits {ts₀ : List Token} {n : ℕ} {r : Option (List Token × LexMode)} (h : after ts₀ r = some (ts, m))
    (hr : ∀ ts m, r = some (ts, m) → m.digits ≤ n) : m.digits ≤ n := by
  obtain ⟨ts₁, hstep, -⟩ := after_eq_some.1 h
  exact hr ts₁ m hstep

/-- A step adds at most one digit to a number. -/
theorem lexStep_digits (h : lexStep m c = some (ts, m')) : m'.digits ≤ m.digits + 1 := by
  cases m with
  | start =>
    rcases lexStart_digits h with hzero | ⟨hone, -⟩ <;> omega
  | word acc => exact (wordStep_digits h).trans (Nat.le_add_left 1 _)
  | op acc => exact (opStep_digits h).trans (Nat.le_add_left 1 _)
  | exp acc e =>
    simp only [lexStep] at h
    split_ifs at h
    · cases h
      exact le_rfl
    · cases h
      exact le_rfl
    · exact (after_digits h fun _ _ => wordStep_digits).trans (Nat.le_add_left 1 _)
  | expSign acc e sign =>
    simp only [lexStep] at h
    split_ifs at h
    · cases h
      exact le_rfl
    · exact (after_digits h fun _ _ => opStep_digits).trans (Nat.le_add_left 1 _)
  | dot | num | frac | expNum | str | strQuote | estr | estrBackslash | estrQuote | quoted | quotedQuote |
    lineComment | blockComment =>
    simp only [lexStep] at h
    split_ifs at h <;> first
    | exact (lexNext_digits h).trans (Nat.le_add_left 1 _)
    | cases h
      simp [LexMode.digits]

/-- A run adds at most as many digits as it has characters. -/
theorem lexRun_digits (h : lexRun m w = some (ts, m')) : m'.digits ≤ m.digits + w.length := by
  refine lexRun_induct (P := fun m w _ m' => m'.digits ≤ m.digits + w.length) ?_ ?_ h
  · exact fun m => le_rfl
  · intro m c w ts₁ m₁ ts₂ m₂ hstep ih
    have hle := lexStep_digits hstep
    rw [List.length_cons]
    omega

/-- A number does not start with an operator. -/
theorem not_opChar_of_isNumber (h : isNumber (c :: w) = true) : isOpChar c = false := by
  have hdigits : ∃ m, lexRun .start (c :: w) = some ([], m) ∧ m.digits = w.length + 1 := by
    rcases isNumber_iff.1 h with hrun | hrun | hrun
    · exact ⟨_, hrun, by simp [LexMode.digits]⟩
    · exact ⟨_, hrun, by simp [LexMode.digits]⟩
    · exact ⟨_, hrun, by simp [LexMode.digits]⟩
  obtain ⟨m, hrun, hm⟩ := hdigits
  obtain ⟨ts₁, m₁, ts₂, hstart, hrest, -⟩ := lexRun_cons_eq_some.1 hrun
  have hle := lexRun_digits hrest
  rcases lexStart_digits hstart with hzero | ⟨-, hop⟩
  · omega
  · exact hop

/-- A sign and a number. -/
theorem Reads.negative (h : isNumber w = true) : Reads ('-' :: w) [.op ['-'], .num w] := by
  obtain ⟨ts₀, m, ts₁, hrun, hready, heq⟩ := Reads.number h
  cases w with
  | nil =>
    cases hrun
    cases hready
    cases heq
  | cons c w =>
    have hop := not_opChar_of_isNumber h
    obtain ⟨ts₂, m₂, ts₃, hstart, hrun₃, rfl⟩ := lexRun_cons_eq_some.1 hrun
    have hne : ∀ d : Char, isOpChar d = true → c ≠ d := fun d hd => (ne_of_class hd hop).symm
    have hsign : lexStep .start '-' = some ([], .op ['-']) := rfl
    have hstep : lexStep (.op ['-']) c = some (.op ['-'] :: ts₂, m₂) := by
      change opStep ['-'] c = _
      rw [opStep, if_neg fun h => hne '-' rfl h.1, if_neg fun h => hne '*' rfl h.1, hop,
        if_neg Bool.false_ne_true]
      exact lexNext_eq_some.2 ⟨[.op ['-']], ts₂, rfl, hstart, rfl⟩
    refine ⟨.op ['-'] :: (ts₂ ++ ts₃), m, ts₁, ?_, hready, congrArg (Token.op ['-'] :: ·) heq⟩
    rw [lexRun_cons hsign, lexRun_cons hstep, hrun₃]
    rfl

end

/-! ## Lists -/

section
variable {w : Text} {ts : List Token}

/-- A blank before a text. -/
theorem Reads.space (h : Reads w ts) : Reads (' ' :: w) ts := by
  have hspace : lexRun .start [' '] = some ([], .start) := rfl
  exact .after_run hspace h

/-- A text in parentheses. -/
theorem Reads.paren (h : Reads w ts) : Reads ('(' :: w ++ [')']) (.lparen :: ts ++ [.rparen]) := by
  have hopen : lexRun .start ['('] = some ([.lparen], .start) := rfl
  have hclose : Reads [')'] [.rparen] := .of_run rfl
  have hinner : Reads (w ++ [')']) (ts ++ [.rparen]) := h.append hclose rfl
  have hall := Reads.after_run hopen hinner
  exact hall

end

/-- Elements with commas between them. -/
inductive Separated {α : Type} (P : α → List Token → Prop) : List α → List Token → Prop
  | nil : Separated P [] []
  | single {a : α} {ts : List Token} : P a ts → Separated P [a] ts
  | cons {a a' : α} {l : List α} {ts ts' : List Token} : P a ts → Separated P (a' :: l) ts' →
      Separated P (a :: a' :: l) (ts ++ .comma :: ts')

section
variable {α : Type} {P : α → List Token → Prop} {f : α → List Token} {l : List α} {ts : List Token}

/-- A list with commas in any spelling has no fewer tokens than in the shortest one. -/
theorem Separated.length_le (hlength : ∀ a ∈ l, ∀ ts, P a ts → (f a).length ≤ ts.length) (h : Separated P l ts) :
    ([Token.comma].intercalate (l.map f)).length ≤ ts.length := by
  induction h with
  | nil => exact Nat.zero_le _
  | single ha =>
    rw [List.map_singleton, List.intercalate_singleton]
    exact hlength _ List.mem_cons_self _ ha
  | cons ha hl ih =>
    have hfirst := hlength _ List.mem_cons_self _ ha
    have hrest := ih fun a' ha' => hlength a' (List.mem_cons_of_mem _ ha')
    rw [List.map_cons, List.map_cons] at *
    rw [List.intercalate_cons_cons]
    simp only [List.length_append, List.length_cons, List.length_nil]
    omega

/-- A list with commas has as many tokens in any spelling, if its elements have. -/
theorem Separated.length (hlength : ∀ a ∈ l, ∀ ts, P a ts → ts.length = (f a).length) (h : Separated P l ts) :
    ts.length = ([Token.comma].intercalate (l.map f)).length := by
  induction h with
  | nil => rfl
  | single ha =>
    rw [List.map_singleton, List.intercalate_singleton]
    exact hlength _ List.mem_cons_self _ ha
  | cons ha hl ih =>
    have hfirst := hlength _ List.mem_cons_self _ ha
    have hrest := ih fun a' ha' => hlength a' (List.mem_cons_of_mem _ ha')
    rw [List.map_cons, List.map_cons] at *
    rw [List.intercalate_cons_cons, List.length_append, List.length_append, List.length_append, hfirst,
      List.length_cons, List.length_singleton, hrest]
    omega

/-- Where an element has no fewer tokens than these, these are its tokens. -/
theorem separated_iff_of_le (hlength : ∀ a ∈ l, ∀ ts, P a ts → (f a).length ≤ ts.length) :
    Separated P l ([Token.comma].intercalate (l.map f)) ↔ ∀ a ∈ l, P a (f a) := by
  induction l with
  | nil => exact iff_of_true .nil nofun
  | cons a l ih =>
    have hrest := ih fun a' ha' => hlength a' (List.mem_cons_of_mem _ ha')
    cases l with
    | nil =>
      rw [List.map_singleton, List.intercalate_singleton, List.forall_mem_singleton]
      constructor
      · intro h
        cases h with
        | single ha => exact ha
      · exact .single
    | cons a' l =>
      rw [List.forall_mem_cons, ← hrest, List.map_cons, List.map_cons, List.intercalate_cons_cons,
        ← List.map_cons, List.append_assoc]
      constructor
      · intro h
        generalize hts : f a ++ ([Token.comma] ++ [Token.comma].intercalate ((a' :: l).map f)) = ts' at h
        cases h with
        | cons ha hl =>
          have hfirst := hlength a List.mem_cons_self _ ha
          have hothers := hl.length_le fun a' ha' => hlength a' (List.mem_cons_of_mem _ ha')
          have htotal := congrArg List.length hts
          simp only [List.length_append, List.length_cons, List.length_nil] at htotal
          obtain ⟨rfl, heq⟩ := List.append_inj hts (by omega)
          cases heq
          exact ⟨ha, hl⟩
      · rintro ⟨ha, hl⟩
        exact .cons ha hl

/-- Where the length of an element is known, its tokens are. -/
theorem separated_iff (hlength : ∀ a ∈ l, ∀ ts, P a ts → ts.length = (f a).length) :
    Separated P l ([Token.comma].intercalate (l.map f)) ↔ ∀ a ∈ l, P a (f a) :=
  separated_iff_of_le fun a ha ts hts => Nat.le_of_eq (hlength a ha ts hts).symm

/-- The tokens of an element are among those of the list. -/
theorem Separated.subset {a : α} (h : Separated P l ts) (ha : a ∈ l) : ∃ ts', P a ts' ∧ ∀ t ∈ ts', t ∈ ts := by
  induction h with
  | nil => cases ha
  | single hP =>
    cases List.mem_singleton.1 ha
    exact ⟨_, hP, fun t ht => ht⟩
  | cons hP hrest ih =>
    rcases List.mem_cons.1 ha with rfl | ha
    · exact ⟨_, hP, fun t ht => List.mem_append_left _ ht⟩
    · obtain ⟨ts', hP', hsubset⟩ := ih ha
      exact ⟨ts', hP', fun t ht => List.mem_append_right _ (List.mem_cons_of_mem _ (hsubset t ht))⟩

/-- Texts with commas between them. -/
theorem Reads.intercalate {sep : Text} {ws : List Text} {tss : List (List Token)}
    (hsep : sep = [','] ∨ sep = [',', ' ']) (h : List.Forall₂ Reads ws tss) :
    Reads (sep.intercalate ws) ([Token.comma].intercalate tss) := by
  induction h with
  | nil => exact .of_run rfl
  | @cons w ts ws tss hw hrest ih =>
    cases hrest with
    | nil =>
      rw [List.intercalate_singleton, List.intercalate_singleton]
      exact hw
    | cons hw' hrest =>
      rw [List.intercalate_cons_cons, List.intercalate_cons_cons, List.append_assoc, List.append_assoc]
      have hcomma : lexRun .start sep = some ([.comma], .start) := by
        rcases hsep with rfl | rfl <;> rfl
      have hnext := Reads.after_run hcomma ih
      rcases hsep with rfl | rfl
      · exact hw.append hnext rfl
      · exact hw.append hnext rfl

end

end PgDuckdb.Duck
