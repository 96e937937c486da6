import PgDuckdb.Pg.Lexer

/-!
# String literals and backslashes

What PostgreSQL reads of a literal in single quotes. `standard_conforming_strings` decides whether a
backslash in it stands for itself or starts an escape; two quotes are one either way. An escape takes two
characters of the text at least, so a literal that only has its quotes doubled is too short for a
backslash to come out of it (`readBody_length`), and where backslashes are escapes it is read back exactly
when it has none (`readString_quoted_iff`).

The text of a query ends at its first NUL, so a literal that holds one has no end (`readString`).

Escapes for bytes that are no character by themselves are left out.
-/

namespace PgDuckdb.Pg

/-! ## Escapes -/

/-- The value of a hexadecimal digit. -/
def hexValue (c : Char) : Option Nat :=
  if '0' ≤ c ∧ c ≤ '9' then some (c.toNat - '0'.toNat)
  else if 'a' ≤ c ∧ c ≤ 'f' then some (c.toNat - 'a'.toNat + 10)
  else if 'A' ≤ c ∧ c ≤ 'F' then some (c.toNat - 'A'.toNat + 10)
  else none

/-- The digits that a text starts with, `n` of them at most. -/
def leadingDigits (base : Nat) : Nat → Text → List Nat
  | 0, _ => []
  | _ + 1, [] => []
  | n + 1, c :: w =>
    match hexValue c with
    | some d => if d < base then d :: leadingDigits base n w else []
    | none => []

/-- The number with these digits, the first one first. -/
def digitsValue (base : Nat) (digits : List Nat) : Nat := digits.foldl (fun v d => base * v + d) 0

/-- A byte that is a character. -/
def byteChar (n : Nat) : Option Char := if 0 < n ∧ n < 128 then some (Char.ofNat n) else none

/-- The character of a code point. -/
def unicodeChar (n : Nat) : Option Char := if 0 < n ∧ n.isValidChar then some (Char.ofNat n) else none

/-- `unescape_single_char`. -/
def unescape_single_char (c : Char) : Char :=
  if c = 'b' then Char.ofNat 8
  else if c = 'f' then Char.ofNat 12
  else if c = 'n' then Char.ofNat 10
  else if c = 'r' then Char.ofNat 13
  else if c = 't' then Char.ofNat 9
  else if c = 'v' then Char.ofNat 11
  else c

/-- What the text after a backslash stands for, and how many of its characters it takes. -/
def unescape : Text → Option (Char × Nat)
  | [] => none
  | c :: w =>
    let octal := leadingDigits 8 3 (c :: w)
    let hex := leadingDigits 16 2 w
    if octal ≠ [] then (byteChar (digitsValue 8 octal % 256)).map (·, octal.length)
    else if c = 'x' ∧ hex ≠ [] then (byteChar (digitsValue 16 hex)).map (·, hex.length + 1)
    else if c = 'u' then
      if (leadingDigits 16 4 w).length = 4 then
        (unicodeChar (digitsValue 16 (leadingDigits 16 4 w))).map (·, 5)
      else none
    else if c = 'U' then
      if (leadingDigits 16 8 w).length = 8 then
        (unicodeChar (digitsValue 16 (leadingDigits 16 8 w))).map (·, 9)
      else none
    else some (unescape_single_char c, 1)

/-- An escape takes a character at least. -/
theorem unescape_pos {w : Text} {c : Char} {n : Nat} (h : unescape w = some (c, n)) : 0 < n := by
  unfold unescape at h
  split at h
  · cases h
  · dsimp only at h
    split at h
    · next hoctal =>
      obtain ⟨c', -, heq⟩ := Option.map_eq_some_iff.1 h
      cases heq
      exact List.length_pos_of_ne_nil hoctal
    · split at h
      · obtain ⟨c', -, heq⟩ := Option.map_eq_some_iff.1 h
        cases heq
        omega
      · split at h
        · split at h
          · obtain ⟨c', -, heq⟩ := Option.map_eq_some_iff.1 h
            cases heq
            omega
          · cases h
        · split at h
          · split at h
            · obtain ⟨c', -, heq⟩ := Option.map_eq_some_iff.1 h
              cases heq
              omega
            · cases h
          · cases h
            omega

/-! ## Literals -/

/-- The rest of a literal, and the text after it. As many characters as are given first are part of what
has been read. -/
def readBody (standard_conforming_strings : Bool) : Nat → Text → Option (Text × Text)
  | _, [] => none
  | skip + 1, _ :: w => readBody standard_conforming_strings skip w
  | 0, c :: w =>
    if c = '\'' then
      if w.head? = some '\'' then
        (readBody standard_conforming_strings 1 w).map fun r => (c :: r.1, r.2)
      else some ([], w)
    else if c = '\\' ∧ standard_conforming_strings = false then do
      let (c', skip) ← unescape w
      let r ← readBody standard_conforming_strings skip w
      some (c' :: r.1, r.2)
    else (readBody standard_conforming_strings 0 w).map fun r => (c :: r.1, r.2)

/-- A literal at the start of a text, and the text after it. -/
def readLiteral (standard_conforming_strings : Bool) : Text → Option (Text × Text)
  | [] => none
  | c :: w => if c = '\'' then readBody standard_conforming_strings 0 w else none

/-- The same of a query, which PostgreSQL gets by its pointer. -/
def readString (standard_conforming_strings : Bool) (query : Text) : Option (Text × Text) :=
  readLiteral standard_conforming_strings (c_str query)

/-- A literal whose quotes are doubled. -/
def quoted (s : Text) : Text := '\'' :: Text.escapeQuotes '\'' s ++ ['\'']

/-- A literal that ends with one more quote, before something that is none, is read back if no backslash
in it is an escape. -/
theorem readBody_quoted {scs : Bool} {s rest : Text} (h : scs = true ∨ '\\' ∉ s)
    (hrest : rest.head? ≠ some '\'') :
    readBody scs 0 (Text.escapeQuotes '\'' s ++ '\'' :: rest) = some (s, rest) := by
  induction s with
  | nil => simp [readBody, hrest]
  | cons c s ih =>
    have htail : readBody scs 0 (Text.escapeQuotes '\'' s ++ '\'' :: rest) = some (s, rest) :=
      ih (h.imp_right fun hnot hmem => hnot (List.mem_cons_of_mem _ hmem))
    by_cases hc : c = '\''
    · subst hc
      rw [Text.escapeQuotes_cons_self]
      simp [readBody, htail]
    · have hescape : ¬(c = '\\' ∧ scs = false) := by
        rintro ⟨rfl, rfl⟩
        exact h.elim (fun hfalse => absurd hfalse Bool.false_ne_true) fun hnot =>
          hnot (List.mem_cons_self ..)
      rw [Text.escapeQuotes_cons_ne hc, List.cons_append, readBody, if_neg hc, if_neg hescape, htail]
      rfl

/-- A character is a quote or a backslash, and not both. -/
theorem count_quote_backslash (c : Char) (w : Text) :
    (c :: w).count '\'' + (c :: w).count '\\' ≤ w.count '\'' + w.count '\\' + 1 := by
  simp only [List.count_cons]
  by_cases hc : c = '\''
  · subst hc
    have hne : ('\'' == '\\') = false := by decide
    simp only [hne, beq_self_eq_true, if_true, Bool.false_eq_true, if_false]
    omega
  · simp only [beq_iff_eq, if_neg hc]
    split <;> omega

/-- What is read takes up the text: a quote takes two characters, and so does a backslash where it is an
escape. -/
theorem readBody_length {scs : Bool} {u w rest : Text} {skip : Nat}
    (h : readBody scs skip u = some (w, rest)) :
    w.length + w.count '\'' + (if scs then 0 else w.count '\\') + rest.length + skip + 1 ≤ u.length := by
  induction u generalizing w skip with
  | nil => cases skip <;> cases h
  | cons c u ih =>
    cases skip with
    | succ skip =>
      have hlength := ih h
      rw [List.length_cons]
      omega
    | zero =>
      rw [readBody] at h
      rw [List.length_cons]
      split at h
      · next hquote =>
        split at h
        · obtain ⟨⟨w', rest'⟩, hread, heq⟩ := Option.map_eq_some_iff.1 h
          cases heq
          have hlength := ih hread
          have hne : '\'' ≠ '\\' := by decide
          rw [hquote, List.length_cons, List.count_cons_self, List.count_cons_of_ne hne]
          dsimp only at hlength ⊢
          omega
        · cases h
          simp only [List.length_nil, List.count_nil, ite_self]
          omega
      · next hquote =>
        split at h
        · next hescape =>
          simp only [Option.bind_eq_bind, Option.bind_eq_some_iff, Option.some.injEq] at h
          obtain ⟨⟨c', n⟩, hunescape, ⟨w', rest'⟩, hread, heq⟩ := h
          cases heq
          have hpos := unescape_pos hunescape
          have hlength := ih hread
          rw [hescape.2] at hlength ⊢
          have hone := count_quote_backslash c' w'
          simp only [List.length_cons, Bool.false_eq_true, if_false] at hlength ⊢
          omega
        · next hescape =>
          obtain ⟨⟨w', rest'⟩, hread, heq⟩ := Option.map_eq_some_iff.1 h
          cases heq
          have hlength := ih hread
          rw [List.length_cons, List.count_cons_of_ne hquote]
          cases hscs : scs with
          | true =>
            rw [hscs] at hlength
            simp only [if_true] at hlength ⊢
            omega
          | false =>
            have hne : c ≠ '\\' := fun hc => hescape ⟨hc, hscs⟩
            rw [hscs] at hlength
            rw [List.count_cons_of_ne hne]
            simp only [Bool.false_eq_true, if_false] at hlength ⊢
            omega

/-- A literal that has its quotes doubled starts with its opening quote. -/
theorem readLiteral_quoted {scs : Bool} {s rest : Text} :
    readLiteral scs (quoted s ++ rest) = readBody scs 0 (Text.escapeQuotes '\'' s ++ '\'' :: rest) := by
  rw [quoted, List.append_assoc, List.cons_append, readLiteral, if_pos rfl]
  rfl

/-- The quotes bring no NUL into a text. -/
theorem nul_mem_quoted {s : Text} : '\x00' ∈ quoted s ↔ '\x00' ∈ s := by
  simp [quoted, Text.mem_escapeQuotes]

/-- A text that breaks off in a literal has no end to be read. -/
theorem readString_quoted_of_nul {scs : Bool} {s : Text} (h : '\x00' ∈ s) :
    readString scs (quoted s) ≠ some (s, []) := by
  obtain ⟨hfront, rest, hs⟩ := c_str_of_mem h
  have hcut : c_str (quoted s) = '\'' :: Text.escapeQuotes '\'' (c_str s) := by
    have htext : quoted s = ('\'' :: Text.escapeQuotes '\'' (c_str s)) ++
        '\x00' :: (Text.escapeQuotes '\'' rest ++ ['\'']) := by
      conv_lhs => rw [quoted, hs, Text.escapeQuotes_append, Text.escapeQuotes_cons_ne (by decide)]
      simp
    rw [htext, c_str_append_nul (by simpa using hfront)]
  have hshort : (c_str s).length < s.length ∧ (c_str s).count '\'' ≤ s.count '\'' := by
    refine ⟨?_, List.Sublist.count_le _ (List.takeWhile_sublist _)⟩
    conv_rhs => rw [hs]
    simp
  intro hread
  rw [readString, hcut, readLiteral, if_pos rfl] at hread
  have hlength := readBody_length hread
  rw [Text.length_escapeQuotes, List.length_nil] at hlength
  omega

/-- A literal that has its quotes doubled is read back, whatever follows it, exactly if backslashes stand
for themselves or it has none, and it holds no NUL. -/
theorem readString_quoted_iff {scs : Bool} {s : Text} :
    (∀ rest : Text, '\x00' ∉ rest → rest.head? ≠ some '\'' →
        readString scs (quoted s ++ rest) = some (s, rest)) ↔
      (scs = true ∨ '\\' ∉ s) ∧ '\x00' ∉ s := by
  constructor
  · intro h
    have hread := h [] List.not_mem_nil (by decide)
    rw [List.append_nil] at hread
    have hnul : '\x00' ∉ s := fun hnul => readString_quoted_of_nul hnul hread
    refine ⟨?_, hnul⟩
    rw [readString, c_str_eq_self.2 (mt nul_mem_quoted.1 hnul), ← List.append_nil (quoted s),
      readLiteral_quoted] at hread
    have hlength := readBody_length hread
    rw [List.length_append, Text.length_escapeQuotes] at hlength
    cases scs with
    | true => exact .inl rfl
    | false =>
      refine .inr fun hmem => ?_
      have hcount : 0 < s.count '\\' := List.count_pos_iff.2 hmem
      simp only [Bool.false_eq_true, if_false, List.length_cons, List.length_nil] at hlength
      omega
  · rintro ⟨hback, hnul⟩ rest hrest hhead
    have htext : '\x00' ∉ quoted s ++ rest := fun hmem =>
      (List.mem_append.1 hmem).elim (fun h => hnul (nul_mem_quoted.1 h)) hrest
    rw [readString, c_str_eq_self.2 htext, readLiteral_quoted]
    exact readBody_quoted hback hhead

end PgDuckdb.Pg
