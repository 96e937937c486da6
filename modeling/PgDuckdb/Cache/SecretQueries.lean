import Mathlib
import PgDuckdb.Cache.Validation
import PgDuckdb.Copy.Reading
import PgDuckdb.Deparse.Like
import PgDuckdb.Duck.Words

/-!
# The statements that make and drop secrets

`MakeDuckDBCreateSecretQuery` puts the name of a server, its type and the names of its options into a `CREATE SECRET` as
they are (`pgduckdb_secrets_helper.cpp`). So it is read as the statement that is meant exactly if they are words of
DuckDB, whatever the values of the options are (`createSecret_iff`). DuckDB does not distinguish the names of secrets by
case. `DropSecrets` (`pgduckdb_duckdb.cpp`) looks for the secrets with a `LIKE`, in whose pattern the underscores stand
for any character, and puts the names that it finds into a `DROP SECRET` as they are.
-/

namespace PgDuckdb.SecretQueries

open Pg (Text)
open Duck (Token Reads isWord isIdentStart isIdentCont lexRun quotes)
open Cache (DefElem quote_literal_cstr appendOptions)
open Cache.Validation (fold)
open Copy (NameTokens reads_quote_literal)
open Deparse (MatchText)

/-! ## The texts -/

/-- `MakeDuckDBCreateSecretQuery`. -/
def MakeDuckDBCreateSecretQuery (server_name type : Text) (server_options mapping_options : List DefElem) : Text :=
  "CREATE SECRET pgduckdb_secret_".toList ++ server_name ++ " (".toList ++ ("TYPE ".toList ++ type) ++
    appendOptions server_options ++
    (if 0 < mapping_options.length then appendOptions mapping_options else []) ++ ")".toList

/-- The name of the secret of a server. -/
def secretName (server_name : Text) : Text := "pgduckdb_secret_".toList ++ server_name

/-- A secret that DuckDB has. Of one that was made for a server, the name begins as in the statement, up to the end of
the word. -/
structure StoredSecret where
  name : Text
  server : Option Text
  named : ∀ server_name, server = some server_name →
    server_name.all isIdentCont = true ∧ name = fold (secretName server_name)

/-- What the `SELECT` of `DropSecrets` finds. -/
def Selected (s : StoredSecret) : Bool := MatchText (fun c x => c = x) none "pgduckdb_secret_%".toList s.name

/-- The statements of `DropSecrets`. -/
def DropSecrets (secrets : List StoredSecret) : List Text :=
  (secrets.filter Selected).map fun s => "DROP SECRET ".toList ++ s.name ++ ";".toList

/-! ## Statements as tokens -/

/-- The options of a `CREATE SECRET` after its type. -/
inductive OptionTokens : List DefElem → List Token → Prop
  | nil : OptionTokens [] []
  | cons {defname value : Text} {options : List DefElem} {t : Token} {ts : List Token} :
      t.name? = some defname → OptionTokens options ts →
      OptionTokens (⟨defname, value⟩ :: options) (.comma :: t :: .str value :: ts)

/-- The tokens are one `CREATE SECRET`. -/
inductive CreateTokens (reserved : Text → Bool) (secret_name type : Text) (options : List DefElem) :
    List Token → Prop
  | mk {name : Token} {kind ts : List Token} : name.name? = some secret_name → NameTokens reserved type kind →
      OptionTokens options ts →
      CreateTokens reserved secret_name type options
        ([.word "CREATE".toList, .word "SECRET".toList, name, .lparen, .word "TYPE".toList] ++ kind ++ ts ++ [.rparen])

/-- The text is read as one `CREATE SECRET`. -/
def ReadsAsCreate (reserved : Text → Bool) (secret_name type : Text) (options : List DefElem) (text : Text) : Prop :=
  ∃ ts, Duck.lex text = some ts ∧ CreateTokens reserved secret_name type options ts

/-- The text is read as one `DROP SECRET`. -/
def ReadsAsDrop (text secret_name : Text) : Prop :=
  ∃ t : Token, t.name? = some secret_name ∧
    Duck.lex text = some [.word "DROP".toList, .word "SECRET".toList, t, .semicolon]

/-! ## Counting double quotes -/

section
variable {reserved : Text → Bool} {server_name type name w : Text} {options : List DefElem} {ts : List Token}
  {t : Token}

/-- Escaping a quote adds no other character. -/
theorem count_escapeQuotes {q c : Char} (hne : q ≠ c) (w : Text) :
    (Text.escapeQuotes q w).count c = w.count c := by
  induction w with
  | nil => rfl
  | cons d w ih =>
    by_cases hd : d = q
    · subst hd
      rw [Text.escapeQuotes_cons_self, List.count_cons_of_ne hne, List.count_cons_of_ne hne,
        List.count_cons_of_ne hne, ih]
    · rw [Text.escapeQuotes_cons_ne hd, List.count_cons, List.count_cons, ih]

/-- A literal has the double quotes of its text. -/
theorem count_quote_literal (w : Text) : (quote_literal_cstr w).count '"' = w.count '"' := by
  have hquote : ('\'' : Char) ≠ '"' := by decide
  have hbackslash : ('\\' : Char) ≠ '"' := by decide
  have hletter : ('E' : Char) ≠ '"' := by decide
  have hend : List.count '"' ['\''] = 0 := rfl
  unfold quote_literal_cstr
  split
  · rw [List.count_append, List.count_cons_of_ne hletter, List.count_cons_of_ne hquote,
      count_escapeQuotes hbackslash, count_escapeQuotes hquote, hend, Nat.add_zero]
  · rw [List.count_append, List.count_cons_of_ne hquote, count_escapeQuotes hquote, hend, Nat.add_zero]

/-- The first option, with a comma before it. -/
theorem appendOptions_cons (option : DefElem) : appendOptions (option :: options) =
    ", ".toList ++ (option.defname ++ ' ' :: (quote_literal_cstr option.value ++ appendOptions options)) := by
  simp [appendOptions]

/-- The options of a concatenation. -/
theorem appendOptions_append (options options' : List DefElem) :
    appendOptions (options ++ options') = appendOptions options ++ appendOptions options' :=
  List.flatMap_append

/-- The double quotes of an option and of the rest. -/
theorem count_appendOptions_cons (option : DefElem) : (appendOptions (option :: options)).count '"' =
    option.defname.count '"' + (option.value.count '"' + (appendOptions options).count '"') := by
  have hspace : (' ' : Char) ≠ '"' := by decide
  have hsep : List.count '"' ", ".toList = 0 := rfl
  rw [appendOptions_cons, List.count_append, List.count_append, List.count_cons_of_ne hspace, List.count_append,
    count_quote_literal, hsep, Nat.zero_add]

/-- A word has no double quote. -/
theorem not_mem_of_isWord (h : isWord w = true) : w.count '"' = 0 := by
  refine List.count_eq_zero.2 fun hmem => ?_
  cases w with
  | nil => cases h
  | cons c w =>
    rw [isWord, Bool.and_eq_true, List.all_eq_true] at h
    rcases List.mem_cons.1 hmem with rfl | hmem
    · exact absurd h.1 (by decide)
    · exact absurd (h.2 _ hmem) (by decide)

/-- A name takes as many double quotes as it has, and only a word takes no more. -/
theorem quotes_of_name (ht : t.name? = some name) (hword : ∀ w, t = .word w → isWord w = true) :
    name.count '"' ≤ t.quotes ∧ (t.quotes ≤ name.count '"' → isWord name = true) := by
  cases t with
  | word w =>
    cases ht
    have hw := hword name rfl
    exact ⟨Nat.le_of_eq (not_mem_of_isWord hw), fun _ => hw⟩
  | quoted w =>
    cases ht
    have hquotes : (Token.quoted name).quotes = 2 * name.count '"' + 2 := rfl
    exact ⟨by omega, fun hle => by omega⟩
  | _ => cases ht

/-- The double quotes tell whether the names of the options are words. -/
theorem quotes_of_options (h : OptionTokens options ts) (hwords : Duck.Words ts) :
    (appendOptions options).count '"' ≤ quotes ts ∧
      (quotes ts ≤ (appendOptions options).count '"' → ∀ option ∈ options, isWord option.defname = true) := by
  induction h with
  | nil => exact ⟨Nat.le_refl 0, fun _ _ hmem => nomatch hmem⟩
  | @cons defname value options t ts ht hrest ih =>
    have hmem : ∀ {t'}, t' ∈ ts → t' ∈ Token.comma :: t :: .str value :: ts := fun ht' =>
      List.mem_cons_of_mem _ (List.mem_cons_of_mem _ (List.mem_cons_of_mem _ ht'))
    obtain ⟨hle, hall⟩ := ih fun w hw => hwords w (hmem hw)
    obtain ⟨hname, hword⟩ := quotes_of_name ht fun w hw => hwords w (by rw [hw]; simp)
    have hstr : (Token.str value).quotes = value.count '"' := rfl
    have hcomma : Token.comma.quotes = 0 := rfl
    rw [count_appendOptions_cons, Duck.quotes_cons, Duck.quotes_cons, Duck.quotes_cons, hstr, hcomma]
    dsimp only
    refine ⟨by omega, fun htotal => ?_⟩
    rintro option (_ | ⟨_, hoption⟩)
    · exact hword (by omega)
    · exact hall (by omega) option hoption

/-! ## Making a secret -/

/-- The tokens of options whose names are words. -/
def optionTokens (options : List DefElem) : List Token :=
  options.flatMap fun option => [.comma, .word option.defname, .str option.value]

/-- The options have tokens. -/
theorem optionTokens_ok (options : List DefElem) : OptionTokens options (optionTokens options) := by
  induction options with
  | nil => exact .nil
  | cons option options ih => exact .cons rfl ih

/-- The options up to the end of the statement start with a delimiter. -/
theorem delim_appendOptions (options : List DefElem) :
    ∃ c rest, appendOptions options ++ [')'] = c :: rest ∧ Duck.isDelim c = true := by
  cases options with
  | nil => exact ⟨')', [], rfl, rfl⟩
  | cons option options => exact ⟨',', _, rfl, rfl⟩

/-- The lexer reads options whose names are words, with the parenthesis behind them. -/
theorem run_appendOptions (hwords : ∀ option ∈ options, isWord option.defname = true) :
    lexRun .start (appendOptions options ++ [')']) = some (optionTokens options ++ [.rparen], .start) := by
  induction options with
  | nil => rfl
  | cons option options ih =>
    obtain ⟨c, rest, heq, hdelim⟩ := delim_appendOptions options
    have hrest := ih fun o ho => hwords o (List.mem_cons_of_mem _ ho)
    rw [heq] at hrest
    have hcomma : lexRun .start ", ".toList = some ([.comma], .start) := rfl
    have hspace : lexRun .start [' '] = some ([], .start) := rfl
    have hvalue := Duck.lexRun_append_start hspace ((reads_quote_literal (w := option.value)).run hrest hdelim)
    have hname := (Reads.word (hwords option List.mem_cons_self)).run hvalue rfl
    have hall := Duck.lexRun_append_start hcomma hname
    rw [← heq] at hall
    rw [appendOptions_cons, List.append_assoc, List.append_assoc, List.cons_append, List.append_assoc]
    exact hall

/-- The parts of a statement, regrouped. -/
theorem append_parts {α : Type} (l₁ l₂ l₃ l₄ l₅ l₆ l₇ l₈ l₉ : List α) :
    l₁ ++ l₂ ++ l₃ ++ l₄ ++ (l₅ ++ l₆) ++ l₇ ++ l₈ ++ l₉ =
      l₁ ++ ((l₂ ++ l₃) ++ ((l₄ ++ l₅) ++ (l₆ ++ (l₇ ++ l₈ ++ l₉)))) := by
  simp only [List.append_assoc]

/-- The statement, with its options in one list. -/
theorem createSecret_eq (server_name type : Text) (server_options mapping_options : List DefElem) :
    MakeDuckDBCreateSecretQuery server_name type server_options mapping_options =
      "CREATE SECRET ".toList ++ (secretName server_name ++ (" (TYPE ".toList ++
        (type ++ (appendOptions (server_options ++ mapping_options) ++ [')'])))) := by
  have hmapping : (if 0 < mapping_options.length then appendOptions mapping_options else []) =
      appendOptions mapping_options := by
    cases mapping_options <;> rfl
  unfold MakeDuckDBCreateSecretQuery
  rw [hmapping, appendOptions_append]
  exact append_parts "CREATE SECRET ".toList "pgduckdb_secret_".toList server_name " (".toList "TYPE ".toList type
    (appendOptions server_options) (appendOptions mapping_options) [')']

/-- The text is that of the secret which the statement makes. -/
theorem createSecret_secret (server_name type : Text) (server_options mapping_options : List DefElem) :
    let secret := Cache.MakeDuckDBCreateSecretQuery server_name type server_options mapping_options
    MakeDuckDBCreateSecretQuery server_name type server_options mapping_options =
      "CREATE SECRET ".toList ++ secret.name ++ " (".toList ++ secret.definition ++ [')'] := by
  have hparts (a b c d e f g h : Text) : a ++ (b ++ ((c ++ d) ++ (e ++ (f ++ g ++ h)))) =
      a ++ b ++ c ++ (d ++ e ++ f ++ g) ++ h := by
    simp only [List.append_assoc]
  intro secret
  rw [createSecret_eq, appendOptions_append]
  exact hparts "CREATE SECRET ".toList secret.name " (".toList "TYPE ".toList type (appendOptions server_options)
    (appendOptions mapping_options) [')']

/-- The name of a secret is a word just when the server's name has no other character. -/
theorem isWord_secretName : isWord (secretName server_name) = true ↔ server_name.all isIdentCont = true := by
  have hword : isWord "pgduckdb_secret_".toList = true := rfl
  exact iff_of_eq (congrArg (· = true) (Duck.isWord_append hword))

/-- The text is read as the statement that is meant exactly if what goes into it as it is are words. -/
theorem createSecret_iff {server_options mapping_options : List DefElem} :
    ReadsAsCreate reserved (secretName server_name) type (server_options ++ mapping_options)
        (MakeDuckDBCreateSecretQuery server_name type server_options mapping_options) ↔
      server_name.all isIdentCont = true ∧ isWord type = true ∧ reserved type = false ∧
        ∀ option ∈ server_options ++ mapping_options, isWord option.defname = true := by
  generalize hoptions : server_options ++ mapping_options = options
  rw [createSecret_eq, hoptions, ← isWord_secretName]
  constructor
  · rintro ⟨ts, hlex, htokens⟩
    have hwords := Duck.isWord_of_mem hlex
    have hle := Duck.quotes_le_of_lex hlex
    have hcreate : "CREATE SECRET ".toList.count '"' = 0 := rfl
    have htype : " (TYPE ".toList.count '"' = 0 := rfl
    have hend : [')'].count '"' = 0 := rfl
    rw [List.count_append, List.count_append, List.count_append, List.count_append, List.count_append, hcreate,
      htype, hend] at hle
    cases htokens with
    | @mk name kind ts hname hkind hts =>
      rw [Duck.quotes_append, Duck.quotes_append, Duck.quotes_append] at hle
      obtain ⟨hleName, hwordName⟩ := quotes_of_name hname fun w hw => hwords w (by rw [hw]; simp)
      obtain ⟨hleOptions, hwordOptions⟩ := quotes_of_options hts fun w hw => hwords w (by simp [hw])
      have hhead : quotes [.word "CREATE".toList, .word "SECRET".toList, name, .lparen, .word "TYPE".toList] =
          name.quotes := by
        simp only [Duck.quotes_cons, Duck.quotes_nil, Token.quotes, Nat.zero_add, Nat.add_zero]
      have htail : quotes [.rparen] = 0 := rfl
      rcases hkind with rfl | ⟨rfl, hreserved⟩
      · -- In quotes, the type takes two more than the text has.
        have hkind : quotes [.quoted type] = 2 * type.count '"' + 2 := rfl
        omega
      · have hkind : quotes [.word type] = 0 := rfl
        have hword : isWord type = true := hwords type (by simp)
        have hnone := not_mem_of_isWord hword
        exact ⟨hwordName (by omega), hword, hreserved, hwordOptions (by omega)⟩
  · rintro ⟨hname, htype, hreserved, hwords⟩
    have hcreate : lexRun .start "CREATE SECRET ".toList =
        some ([.word "CREATE".toList, .word "SECRET".toList], .start) := rfl
    have hparen : lexRun .start " (TYPE ".toList = some ([.lparen, .word "TYPE".toList], .start) := rfl
    obtain ⟨c, rest, heq, hdelim⟩ := delim_appendOptions options
    have hoptions := run_appendOptions hwords
    rw [heq] at hoptions
    have hkind := Duck.lexRun_append_start hparen ((Reads.word htype).run hoptions hdelim)
    have hall := Duck.lexRun_append_start hcreate ((Reads.word hname).run hkind rfl)
    rw [heq]
    refine ⟨_, (Reads.of_run hall).lex, ?_⟩
    have hname : (Token.word (secretName server_name)).name? = some (secretName server_name) := rfl
    have hkind : NameTokens reserved type [.word type] := .inr ⟨rfl, hreserved⟩
    have htokens := CreateTokens.mk hname hkind (optionTokens_ok options)
    rw [List.append_assoc, List.append_assoc] at htokens
    exact htokens

/-! ## Dropping secrets -/

/-- The name of a secret folds to that of the folded server. -/
theorem fold_secretName (server_name : Text) : fold (secretName server_name) =
    "pgduckdb_secret_".toList ++ fold server_name :=
  List.map_append

/-- Secrets have one name exactly if the names of their servers differ in case alone. -/
theorem fold_secretName_inj {server_name server_name' : Text} :
    fold (secretName server_name) = fold (secretName server_name') ↔ fold server_name = fold server_name' := by
  rw [fold_secretName, fold_secretName, List.append_cancel_left_eq]

/-- A part of a word still is one in lower case. -/
theorem isIdentCont_toLower {c : Char} (h : isIdentCont c = true) : isIdentCont c.toLower = true := by
  by_cases hupper : c.isUpper = true
  · have hlower : c.toLower.isLower = true := by
      rw [Char.isLower_toLower_eq_isAlpha, Char.isAlpha, hupper, Bool.true_or]
    have hsafe : Pg.isSafeStart c.toLower = true := by rw [Pg.isSafeStart, hlower, Bool.true_or]
    rw [isIdentCont, Copy.isIdentStart_of_safe hsafe, Bool.true_or, Bool.true_or]
  · rw [Char.toLower_eq_of_not_isUpper hupper]
    exact h

/-- The folded name of a secret is a word. -/
theorem isWord_fold (h : server_name.all isIdentCont = true) : isWord (fold (secretName server_name)) = true := by
  have hword : isWord "pgduckdb_secret_".toList = true := rfl
  rw [fold_secretName, Duck.isWord_append hword, fold, List.all_map]
  rw [List.all_eq_true] at h ⊢
  exact fun c hc => isIdentCont_toLower (h c hc)

/-- A character of a pattern, if it is no `%`, stands for this one. -/
def StandsFor (c x : Char) : Prop := c = '_' ∨ c = x

/-- A text without wildcards stands for itself. -/
theorem standsFor_self (w : Text) : List.Forall₂ StandsFor w w := List.forall₂_same.2 fun _ _ => .inr rfl

/-- A pattern matches a text with more after it. -/
theorem MatchText_percent_end {p w s : Text} (hp : p.all (· ≠ '%') = true) (h : List.Forall₂ StandsFor p w) :
    MatchText (fun c x => c = x) none (p ++ ['%']) (w ++ s) = true := by
  have hnone (c : Char) : some c ≠ none := Option.some_ne_none c
  induction h with
  | nil =>
    have hall : MatchText (fun c x => c = x) none [] [] = true := rfl
    rw [List.nil_append, List.nil_append, Deparse.MatchText_percent (hnone '%'), List.any_eq_true]
    exact ⟨[], (List.mem_tails _ _).2 List.nil_suffix, hall⟩
  | @cons c x p w hc _ ih =>
    rw [List.all_cons, Bool.and_eq_true, decide_eq_true_eq] at hp
    have hfirst : (decide (c = '_') || decide (c = x)) = true := by
      rw [Bool.or_eq_true, decide_eq_true_eq, decide_eq_true_eq]
      exact hc
    rw [List.cons_append, Deparse.MatchText_char (hnone c) hp.1]
    exact Bool.and_eq_true_iff.2 ⟨hfirst, ih hp.2⟩

/-- A pattern selects the secrets whose names it stands for. -/
theorem selected_of_standsFor {s : StoredSecret} {w rest : Text}
    (h : List.Forall₂ StandsFor "pgduckdb_secret_".toList w) (hname : s.name = w ++ rest) : Selected s = true := by
  have hpattern : "pgduckdb_secret_%".toList = "pgduckdb_secret_".toList ++ ['%'] := rfl
  have hpercent : "pgduckdb_secret_".toList.all (· ≠ '%') = true := rfl
  have hmatch := MatchText_percent_end (s := rest) hpercent h
  rw [← hname, ← hpattern] at hmatch
  exact hmatch

/-- The secrets of servers are found. -/
theorem selected_of_server {s : StoredSecret} (h : s.server.isSome = true) : Selected s = true := by
  obtain ⟨server_name, hserver⟩ := Option.isSome_iff_exists.1 h
  exact selected_of_standsFor (standsFor_self _)
    ((s.named server_name hserver).2.trans (fold_secretName server_name))

/-- A name that is a word is dropped. -/
theorem readsAsDrop (h : isWord name = true) : ReadsAsDrop ("DROP SECRET ".toList ++ name ++ ";".toList) name := by
  have hdrop : lexRun .start "DROP SECRET ".toList = some ([.word "DROP".toList, .word "SECRET".toList], .start) := rfl
  have hend : lexRun .start [';'] = some ([.semicolon], .start) := rfl
  have hall := Duck.lexRun_append_start hdrop ((Reads.word h).run hend rfl)
  rw [← List.append_assoc] at hall
  exact ⟨.word name, rfl, (Reads.of_run hall).lex⟩

/-- The names of the secrets that were made for servers. -/
def serverSecrets (secrets : List StoredSecret) : List Text :=
  (secrets.filter (·.server.isSome)).map (·.name)

/-- The secrets of servers are dropped, and no others, exactly if the pattern matches no others. -/
theorem dropSecrets_iff {secrets : List StoredSecret} :
    List.Forall₂ ReadsAsDrop (DropSecrets secrets) (serverSecrets secrets) ↔
      ∀ s ∈ secrets, s.server = none → Selected s = false := by
  constructor
  · intro h s hs hserver
    have hlength := h.length_eq
    rw [DropSecrets, serverSecrets, List.length_map, List.length_map] at hlength
    have hfound : secrets.filter (·.server.isSome) = (secrets.filter Selected).filter (·.server.isSome) := by
      rw [List.filter_filter]
      refine List.filter_congr fun s _ => ?_
      cases hsome : s.server.isSome with
      | true => rw [selected_of_server hsome]; rfl
      | false => rfl
    rw [hfound] at hlength
    by_contra hselected
    have hmem : s ∈ secrets.filter Selected := List.mem_filter.2 ⟨hs, Bool.not_eq_false _ ▸ hselected⟩
    have hall := (List.length_filter_eq_length_iff.1 hlength.symm) s hmem
    rw [hserver] at hall
    cases hall
  · intro h
    have hsame : secrets.filter Selected = secrets.filter (·.server.isSome) := by
      refine List.filter_congr fun s hs => ?_
      cases hsome : s.server.isSome with
      | true => exact selected_of_server hsome
      | false => exact h s hs (Option.not_isSome_iff_eq_none.1 (Bool.eq_false_iff.1 hsome))
    rw [DropSecrets, serverSecrets, hsame, List.forall₂_map_left_iff, List.forall₂_map_right_iff]
    refine List.forall₂_same.2 fun s hs => readsAsDrop ?_
    obtain ⟨server_name, hserver⟩ := Option.isSome_iff_exists.1 (List.mem_filter.1 hs).2
    obtain ⟨hplain, hname⟩ := s.named server_name hserver
    rw [hname]
    exact isWord_fold hplain

end

/-- A `CREATE SECRET` is read as it is meant exactly if the name of the server goes on a word and the type and the names
of options are words; servers have different secrets exactly if their names differ in more than case; and the secrets of
servers alone are dropped exactly if no other one matches the pattern. -/
theorem secretStatements_iff (reserved : Text → Bool) :
    (∀ (server_name type : Text) (server_options mapping_options : List DefElem),
      ReadsAsCreate reserved (secretName server_name) type (server_options ++ mapping_options)
          (MakeDuckDBCreateSecretQuery server_name type server_options mapping_options) ↔
        server_name.all isIdentCont = true ∧ isWord type = true ∧ reserved type = false ∧
          ∀ option ∈ server_options ++ mapping_options, isWord option.defname = true) ∧
    (∀ server_name server_name' : Text, fold (secretName server_name) ≠ fold (secretName server_name') ↔
      fold server_name ≠ fold server_name') ∧
    ∀ secrets : List StoredSecret, List.Forall₂ ReadsAsDrop (DropSecrets secrets) (serverSecrets secrets) ↔
      ∀ s ∈ secrets, s.server = none → Selected s = false :=
  ⟨fun _ _ _ _ => createSecret_iff, fun _ _ => not_congr fold_secretName_inj, fun _ => dropSecrets_iff⟩

/-- A secret that was made by hand. -/
def byHand : StoredSecret := ⟨"pgduckdb-secret-x".toList, none, fun _ h => by cases h⟩

/-- A server `my s3` has no `CREATE SECRET`, `S3` and `s3` have one secret, and one that was made by hand is dropped, or
DuckDB is asked to. -/
theorem not_secretStatements :
    ¬ReadsAsCreate (fun _ => false) (secretName "my s3".toList) "s3".toList ([] ++ [])
        (MakeDuckDBCreateSecretQuery "my s3".toList "s3".toList [] []) ∧
      ¬("S3".toList ≠ "s3".toList → fold (secretName "S3".toList) ≠ fold (secretName "s3".toList)) ∧
      ¬List.Forall₂ ReadsAsDrop (DropSecrets [byHand]) (serverSecrets [byHand]) := by
  refine ⟨fun h => ?_, fun h => h (by decide) rfl, fun h => ?_⟩
  · have hspace : "my s3".toList.all isIdentCont = false := rfl
    have hplain := (createSecret_iff.1 h).1
    rw [hspace] at hplain
    cases hplain
  · have hpattern : List.Forall₂ StandsFor "pgduckdb_secret_".toList "pgduckdb-secret-".toList :=
      List.rel_append (standsFor_self "pgduckdb".toList) (.cons (.inl rfl)
        (List.rel_append (standsFor_self "secret".toList) (.cons (.inl rfl) .nil)))
    have hname : byHand.name = "pgduckdb-secret-".toList ++ ['x'] := rfl
    have hselected : Selected byHand = true := selected_of_standsFor hpattern hname
    have hnot := dropSecrets_iff.1 h byHand List.mem_cons_self rfl
    rw [hselected] at hnot
    cases hnot

end PgDuckdb.SecretQueries
