import Mathlib.Algebra.GroupWithZero.Nat
import PgDuckdb.Duck.Literals

/-!
# Names in a text that is put together

A name that goes into a text as it is may be read as something else. Every word that is read is a word
(`isWord_of_mem`), and the double quotes that are read are no more than those of the text (`quotes_le_of_lex`), while an
identifier in quotes takes two more than it has. So a text in which each name and each string stands once cannot be read
with one of these names in quotes.
-/

namespace PgDuckdb.Duck

open Pg (Text unescape_single_char)

/-! ## Words -/

/-- The tokens that are words are texts that are. -/
def Words (ts : List Token) : Prop := ∀ w, .word w ∈ ts → isWord w = true

/-- The word that is not complete is one. -/
def LexMode.Wordy : LexMode → Prop
  | .word acc => isWord acc.reverse = true
  | .exp _ e | .expSign _ e _ => isExponent e = true
  | _ => True

section
variable {m m' : LexMode} {c : Char} {ts ts' : List Token} {w acc : Text} {t : Token}

/-- No token, no word. -/
theorem words_nil : Words [] := fun _ hw => absurd hw List.not_mem_nil

/-- Words of a concatenation. -/
theorem words_append (h : Words ts) (h' : Words ts') : Words (ts ++ ts') := by
  intro w hw
  rcases List.mem_append.1 hw with hw | hw
  · exact h w hw
  · exact h' w hw

/-- One token, with its word. -/
theorem words_singleton (h : ∀ w, t = .word w → isWord w = true) : Words [t] := by
  intro w hw
  exact h w (List.mem_singleton.1 hw).symm

/-- A word token holds a word. -/
theorem words_word (h : isWord w = true) : Words [.word w] := by
  refine words_singleton fun w' hw => ?_
  cases hw
  exact h

/-- An operator is no word. -/
theorem words_op (s : Text) : Words [.op s] := words_singleton fun _ hw => by cases hw

/-- The letter of an exponent is a word of its own. -/
theorem isWord_exponent (h : isExponent c = true) : isWord [c] = true := by
  rw [isExponent, Bool.or_eq_true, decide_eq_true_eq, decide_eq_true_eq] at h
  rcases h with rfl | rfl <;> rfl

/-- A word that goes on. -/
theorem isWord_append {w' : Text} (h : isWord w = true) : isWord (w ++ w') = w'.all isIdentCont := by
  cases w with
  | nil => cases h
  | cons d w =>
    rw [isWord, Bool.and_eq_true] at h
    rw [List.cons_append, isWord, List.all_append, h.1, h.2, Bool.true_and, Bool.true_and]

/-- A mode of words that ends leaves words. -/
theorem LexMode.Wordy.flush (h : m.Wordy) (hflush : m.flush = some ts) : Words ts := by
  cases m with
  | word acc =>
    cases hflush
    exact words_word h
  | exp acc e =>
    cases hflush
    exact words_append (words_singleton fun _ hw => by cases hw) (words_word (isWord_exponent h))
  | expSign acc e sign =>
    cases hflush
    have hnum : Words [.num acc.reverse] := words_singleton fun _ hw => by cases hw
    have hrest : Words ([.word [e]] ++ opTokens [sign]) :=
      words_append (words_word (isWord_exponent h)) (words_op [sign])
    exact words_append hnum hrest
  | op acc =>
    cases hflush
    exact opTokens_induct words_nil words_op words_append acc
  | start | lineComment =>
    cases hflush
    exact words_nil
  | dot | num | frac | expNum | strQuote | estrQuote | quotedQuote =>
    cases hflush
    exact words_singleton fun _ hw => by cases hw
  | str | estr | estrBackslash | quoted | blockComment => cases hflush

/-- Every token of the first character is a word or none, and so is the mode it leaves. -/
theorem lexStart_words (h : lexStart c = some (ts, m)) : Words ts ∧ m.Wordy := by
  unfold lexStart at h
  split at h
  · cases h
    exact ⟨words_nil, trivial⟩
  · split at h
    next t hpunctuation =>
      cases h
      refine ⟨words_singleton ?_, trivial⟩
      rintro w rfl
      unfold punctuation at hpunctuation
      split_ifs at hpunctuation <;> cases hpunctuation
    next =>
      obtain ⟨m', hmode, heq⟩ := Option.map_eq_some_iff.1 h
      cases heq
      refine ⟨words_nil, ?_⟩
      unfold startMode at hmode
      split_ifs at hmode with _ _ _ hident <;> cases hmode
      · trivial
      · trivial
      · trivial
      · have hword : isWord [c] = true := by rw [isWord, hident]; rfl
        exact hword
      · trivial
      · trivial

/-- Tokens are words and modes are modes of words, all along a run. -/
theorem wordy : LexInvariant Words LexMode.Wordy where
  nil := words_nil
  append := words_append
  op := words_op
  op_mode _ := trivial
  lineComment := trivial
  blockComment _ _ := trivial
  flush := LexMode.Wordy.flush
  lexStart := lexStart_words

/-- A word step keeps the tokens and the mode. -/
theorem wordStep_words (hacc : isWord acc.reverse = true) (h : wordStep acc c = some (ts, m)) :
    Words ts ∧ m.Wordy := by
  unfold wordStep at h
  split_ifs at h with hcont
  · cases h
    refine ⟨words_nil, ?_⟩
    have hmore : isWord (acc.reverse ++ [c]) = true := by
      rw [isWord_append hacc, List.all_cons, hcont]
      rfl
    rw [← List.reverse_cons] at hmore
    exact hmore
  · cases h
    exact ⟨words_nil, trivial⟩
  · cases h
    exact ⟨words_nil, trivial⟩
  · have hword : (LexMode.word acc).Wordy := hacc
    exact wordy.lexNext hword h

/-- A step keeps the tokens and the mode. -/
theorem lexStep_words (hm : m.Wordy) (h : lexStep m c = some (ts, m')) : Words ts ∧ m'.Wordy := by
  have hnum (w : Text) : Words [.num w] := words_singleton fun _ hw => by cases hw
  cases m with
  | start => exact lexStart_words h
  | word acc => exact wordStep_words hm h
  | op acc => exact wordy.opStep h
  | exp acc e =>
    simp only [lexStep] at h
    split_ifs at h
    · cases h
      exact ⟨words_nil, trivial⟩
    · cases h
      exact ⟨words_nil, hm⟩
    · exact wordy.after (hnum _) h fun _ _ => wordStep_words (isWord_exponent hm)
  | expSign acc e sign =>
    simp only [lexStep] at h
    split_ifs at h
    · cases h
      exact ⟨words_nil, trivial⟩
    · exact wordy.after (words_append (hnum _) (words_word (isWord_exponent hm))) h fun _ _ => wordy.opStep
  | num acc =>
    simp only [lexStep] at h
    split_ifs at h with _ _ hexponent
    · cases h
      exact ⟨words_nil, trivial⟩
    · cases h
      exact ⟨words_nil, trivial⟩
    · cases h
      exact ⟨words_nil, hexponent⟩
    · exact wordy.lexNext hm h
  | frac acc =>
    simp only [lexStep] at h
    split_ifs at h with _ hexponent
    · cases h
      exact ⟨words_nil, trivial⟩
    · cases h
      exact ⟨words_nil, hexponent⟩
    · exact wordy.lexNext hm h
  | dot | expNum | str | strQuote | estr | estrBackslash | estrQuote | quoted | quotedQuote | lineComment |
    blockComment =>
    simp only [lexStep] at h
    split_ifs at h <;> first
    | exact wordy.lexNext hm h
    | cases h
      exact ⟨words_nil, trivial⟩

/-- A token that is a word is a text that is. -/
theorem isWord_of_mem (h : lex w = some ts) : Words ts := wordy.lex trivial lexStep_words h

end

/-! ## Double quotes -/

/-- How many double quotes a token takes. -/
def Token.quotes : Token → ℕ
  | .quoted w => 2 * w.count '"' + 2
  | .str s => s.count '"'
  | _ => 0

/-- How many double quotes a list of tokens takes. -/
def quotes (ts : List Token) : ℕ := (ts.map Token.quotes).sum

/-- The same, of a token that is not complete. -/
def LexMode.quotes : LexMode → ℕ
  | .quoted acc => 2 * acc.count '"' + 1
  | .quotedQuote acc => 2 * acc.count '"' + 2
  | .str acc | .strQuote acc | .estr acc | .estrBackslash acc | .estrQuote acc => acc.count '"'
  | _ => 0

section
variable {m m' : LexMode} {c : Char} {ts ts' : List Token} {w acc : Text} {t : Token}

@[simp] theorem quotes_nil : quotes [] = 0 := rfl

@[simp] theorem quotes_cons : quotes (t :: ts) = t.quotes + quotes ts := List.sum_cons

@[simp] theorem quotes_append : quotes (ts ++ ts') = quotes ts + quotes ts' := by
  rw [quotes, List.map_append, List.sum_append]
  rfl

/-- An operator takes no double quotes. -/
theorem quotes_opTokens (acc : Text) : quotes (opTokens acc) = 0 := by
  refine opTokens_induct (P := fun ts => quotes ts = 0) rfl (fun _ => rfl) (fun h h' => ?_) acc
  rw [quotes_append, h, h']

/-- A token that ends takes no more quotes than were read. -/
theorem flush_quotes (h : m.flush = some ts) : quotes ts ≤ m.quotes := by
  cases m with
  | start | lineComment | word | dot | num | frac | exp | expSign | expNum | strQuote | estrQuote | quotedQuote =>
    cases h
    simp [Token.quotes, LexMode.quotes]
  | op acc =>
    cases h
    rw [quotes_opTokens]
    exact Nat.zero_le _
  | str | estr | estrBackslash | quoted | blockComment => cases h

/-- A token that starts takes a double quote only if it starts with one. -/
theorem lexStart_quotes (h : lexStart c = some (ts, m)) : quotes ts + m.quotes ≤ [c].count '"' := by
  unfold lexStart at h
  split at h
  · cases h
    exact Nat.zero_le _
  · split at h
    next t hpunctuation =>
      cases h
      have hzero : t.quotes = 0 := by
        unfold punctuation at hpunctuation
        split_ifs at hpunctuation <;> cases hpunctuation <;> rfl
      simp [hzero, LexMode.quotes]
    next =>
      obtain ⟨m', hmode, heq⟩ := Option.map_eq_some_iff.1 h
      cases heq
      unfold startMode at hmode
      split_ifs at hmode with _ _ hquote <;> cases hmode
      · exact Nat.zero_le _
      · exact Nat.zero_le _
      · subst hquote
        exact Nat.le_refl 1
      · exact Nat.zero_le _
      · exact Nat.zero_le _
      · exact Nat.zero_le _

/-- A token that ends before a character, and what the character starts. -/
theorem lexNext_quotes (h : lexNext m c = some (ts, m')) : quotes ts + m'.quotes ≤ m.quotes + [c].count '"' := by
  obtain ⟨ts₀, ts₁, hflush, hstart, rfl⟩ := lexNext_eq_some.1 h
  have hle := flush_quotes hflush
  have hstart := lexStart_quotes hstart
  rw [quotes_append]
  omega

/-- A character behind a word takes no more quotes than it is. -/
theorem wordStep_quotes (h : wordStep acc c = some (ts, m)) : quotes ts + m.quotes ≤ [c].count '"' := by
  unfold wordStep at h
  split_ifs at h
  · cases h
    exact Nat.zero_le _
  · cases h
    exact Nat.zero_le _
  · cases h
    exact Nat.zero_le _
  · have hle := lexNext_quotes h
    have hzero : (LexMode.word acc).quotes = 0 := rfl
    omega

/-- A character behind an operator takes no more quotes than it is. -/
theorem opStep_quotes (h : opStep acc c = some (ts, m)) : quotes ts + m.quotes ≤ [c].count '"' := by
  unfold opStep at h
  split_ifs at h
  · cases h
    rw [quotes_opTokens]
    exact Nat.zero_le _
  · cases h
    rw [quotes_opTokens]
    exact Nat.zero_le _
  · cases h
    exact Nat.zero_le _
  · have hle := lexNext_quotes h
    have hzero : (LexMode.op acc).quotes = 0 := rfl
    omega

/-- The bound on the quotes passes over a token that takes none. -/
theorem after_quotes {ts₀ : List Token} {n : ℕ} {r : Option (List Token × LexMode)} (h₀ : quotes ts₀ = 0)
    (h : after ts₀ r = some (ts, m)) (hr : ∀ ts m, r = some (ts, m) → quotes ts + m.quotes ≤ n) :
    quotes ts + m.quotes ≤ n := by
  obtain ⟨ts₁, hstep, rfl⟩ := after_eq_some.1 h
  have hle := hr ts₁ m hstep
  rw [quotes_append]
  omega

/-- An escape is a double quote only after a backslash. -/
theorem count_unescape (c : Char) : [unescape_single_char c].count '"' ≤ [c].count '"' := by
  unfold unescape_single_char
  split_ifs
  · exact Nat.zero_le _
  · exact Nat.zero_le _
  · exact Nat.zero_le _
  · exact Nat.zero_le _
  · exact Nat.zero_le _
  · exact Nat.zero_le _
  · exact Nat.le_refl _

/-- A step takes no more quotes than its character. -/
theorem lexStep_quotes (h : lexStep m c = some (ts, m')) : quotes ts + m'.quotes ≤ m.quotes + [c].count '"' := by
  have hcons (d : Char) (acc : Text) : (d :: acc).count '"' = acc.count '"' + [d].count '"' := by
    rw [Nat.add_comm, ← List.count_append, List.singleton_append]
  cases m with
  | start => exact Nat.le_trans (lexStart_quotes h) (Nat.le_add_left _ _)
  | word acc => exact Nat.le_trans (wordStep_quotes h) (Nat.le_add_left _ _)
  | op acc => exact Nat.le_trans (opStep_quotes h) (Nat.le_add_left _ _)
  | exp acc e =>
    simp only [lexStep] at h
    split_ifs at h
    · cases h
      exact Nat.zero_le _
    · cases h
      exact Nat.zero_le _
    · exact Nat.le_trans (after_quotes rfl h fun _ _ => wordStep_quotes) (Nat.le_add_left _ _)
  | expSign acc e sign =>
    simp only [lexStep] at h
    split_ifs at h
    · cases h
      exact Nat.zero_le _
    · exact Nat.le_trans (after_quotes rfl h fun _ _ => opStep_quotes) (Nat.le_add_left _ _)
  | estrBackslash acc =>
    simp only [lexStep] at h
    split_ifs at h
    cases h
    have hle := count_unescape c
    have hmore := hcons (unescape_single_char c) acc
    simp only [quotes_nil, LexMode.quotes]
    omega
  | quoted acc =>
    simp only [lexStep] at h
    split_ifs at h with hquote
    · cases h
      subst hquote
      have hone : ['"'].count '"' = 1 := rfl
      rw [quotes_nil, LexMode.quotes, LexMode.quotes, hone]
      omega
    · cases h
      rw [quotes_nil, LexMode.quotes, LexMode.quotes, List.count_cons_of_ne hquote]
      omega
  | quotedQuote acc =>
    simp only [lexStep] at h
    split_ifs at h with hquote
    · cases h
      subst hquote
      have hone : ['"'].count '"' = 1 := rfl
      rw [quotes_nil, LexMode.quotes, LexMode.quotes, List.count_cons_self, hone]
      omega
    · exact lexNext_quotes h
  | str acc | strQuote acc | estr acc | estrQuote acc =>
    simp only [lexStep] at h
    split_ifs at h <;> first
    | exact lexNext_quotes h
    | cases h
      have hmore := hcons c acc
      simp only [quotes_nil, LexMode.quotes]
      omega
  | dot | num | frac | expNum | lineComment | blockComment =>
    simp only [lexStep] at h
    split_ifs at h <;> first
    | exact lexNext_quotes h
    | cases h
      exact Nat.zero_le _

/-- The double quotes of the tokens are those of the text, at most. -/
theorem quotes_le_of_lex (h : lex w = some ts) : quotes ts ≤ w.count '"' := by
  obtain ⟨ts₀, m, ts₁, hrun, hflush, rfl⟩ := lex_eq_some.1 h
  have hall := lexRun_induct (P := fun m w ts m' => quotes ts + m'.quotes ≤ m.quotes + w.count '"')
    (fun m => by simp)
    (fun {m c w ts₁ m₁ ts₂ m'} hstep ih => by
      have hle := lexStep_quotes hstep
      have hcons : (c :: w).count '"' = [c].count '"' + w.count '"' := by
        rw [← List.count_append, List.singleton_append]
      rw [quotes_append]
      omega) hrun
  have hle := flush_quotes hflush
  have hstart : LexMode.start.quotes = 0 := rfl
  rw [quotes_append]
  omega

end

end PgDuckdb.Duck
