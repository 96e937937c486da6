import Mathlib.Data.List.Basic

/-!
# Escaped parameters of a connection

`AppendEscapedUri` writes a database name or a session hint into the connection string, byte for byte:
an unreserved character as it is, any other as a percent sign and two digits. The digits are formatted by
the stream, whose state outlives the call. The function sets the fill character, the width, the base and
the case of the digits, and relies on the rest: `lossless_iff` says on what.

A `char` is the byte it is stored in, compared as a signed number.
-/

namespace PgDuckdb.Uri

/-- The byte of a character of the source. -/
def code (c : Char) : UInt8 := .ofNat c.toNat

/-- The value of a `char`. -/
def signed (c : UInt8) : Int := if c.toNat < 128 then (c.toNat : Int) else c.toNat - 256

/-! ## Output streams -/

/-- `adjustfield`. Whatever is neither `left` nor `internal` is treated as `right`. -/
inductive Adjust
  | left
  | internal
  | right
  deriving DecidableEq, Repr

/-- `basefield`. -/
inductive Base
  | dec
  | oct
  | hex
  deriving DecidableEq, Repr

/-- The radix of a base. -/
def Base.radix : Base → Nat
  | dec => 10
  | oct => 8
  | hex => 16

/-- A `std::ostringstream`: its text, and the formatting state that characters and integers are written in. The locale
is taken to be the classic one, which groups no digits; the code does not set it. -/
structure OStream where
  content : List UInt8
  fill : UInt8
  width : Int
  adjustfield : Adjust
  basefield : Base
  showbase : Bool
  uppercase : Bool
  deriving DecidableEq, Repr

namespace OStream

/-- A text in two parts, filled up to the width between them or on one side. -/
def pad (o : OStream) (head body : List UInt8) : List UInt8 :=
  let filling := List.replicate (o.width - (head.length + body.length)).toNat o.fill
  match o.adjustfield with
  | .left => head ++ body ++ filling
  | .internal => head ++ filling ++ body
  | .right => filling ++ head ++ body

/-- Formatted output of a text. The width is for one output only. -/
def put (o : OStream) (head body : List UInt8) : OStream :=
  { o with content := o.content ++ o.pad head body, width := 0 }

/-- `operator<<` of a `char`. -/
def putChar (o : OStream) (c : UInt8) : OStream := o.put [] [c]

/-- The digits of a number that is not negative. -/
def digits (o : OStream) (v : Nat) : List UInt8 :=
  (Nat.toDigits o.basefield.radix v).map fun d => code (if o.uppercase then d.toUpper else d)

/-- `operator<<` of an `int` that is not negative. -/
def putInt (o : OStream) (v : Nat) : OStream :=
  if o.showbase && v != 0 then
    match o.basefield with
    | .hex => o.put [code '0', code (if o.uppercase then 'X' else 'x')] (o.digits v)
    | .oct => o.put [] (code '0' :: o.digits v)
    | .dec => o.put [] (o.digits v)
  else o.put [] (o.digits v)

/-! The manipulators. -/

/-- Sets the character that a field is filled with. -/
def setfill (o : OStream) (c : UInt8) : OStream := { o with fill := c }
/-- Sets the width of the next field. -/
def setw (o : OStream) (n : Int) : OStream := { o with width := n }
/-- Sets the base to hexadecimal. -/
def setHex (o : OStream) : OStream := { o with basefield := .hex }
/-- Sets the digits to capital letters. -/
def setUppercase (o : OStream) : OStream := { o with uppercase := true }

/-- A stream as it is constructed. -/
def empty : OStream where
  content := []
  fill := code ' '
  width := 0
  adjustfield := .right
  basefield := .dec
  showbase := false
  uppercase := false

end OStream

/-! ## The function -/

/-- The characters that are not escaped, by the comparisons of the source. -/
def isUnescaped (c : UInt8) : Bool :=
  (signed c ≥ signed (code 'a') && signed c ≤ signed (code 'z')) ||
    (signed c ≥ signed (code 'A') && signed c ≤ signed (code 'Z')) ||
    (signed c ≥ signed (code '0') && signed c ≤ signed (code '9')) || c == code '-' || c == code '_' ||
    c == code '.' || c == code '~'

/-- One round of the loop. -/
def appendEscaped (oss : OStream) (c : UInt8) : OStream :=
  if isUnescaped c then oss.putChar c
  else
    ((((oss.putChar (code '%')).setfill (code '0')).setw 2).setHex.setUppercase).putInt c.toNat

/-- The loop, up to the terminator. -/
def appendAll (oss : OStream) : List UInt8 → OStream
  | [] => oss
  | c :: str => if c = 0 then oss else appendAll (appendEscaped oss c) str

/-- `AppendEscapedUri`, for a null pointer or a string. -/
def AppendEscapedUri (oss : OStream) : Option (List UInt8) → OStream
  | none => oss
  | some str => appendAll oss str

/-! ## Escaped text -/

/-- The unreserved characters of a URI: letters, digits and four more. -/
def Unreserved (c : UInt8) : Prop :=
  97 ≤ c.toNat ∧ c.toNat ≤ 122 ∨ 65 ≤ c.toNat ∧ c.toNat ≤ 90 ∨ 48 ≤ c.toNat ∧ c.toNat ≤ 57 ∨
    c = code '-' ∨ c = code '_' ∨ c = code '.' ∨ c = code '~'

/-- The uppercase digit of a number below 16. -/
def hexDigit (n : Nat) : UInt8 := code n.digitChar.toUpper

/-- Unreserved characters, and percent signs that two uppercase digits follow. -/
inductive Escaped : List UInt8 → Prop
  | nil : Escaped []
  | unreserved {c : UInt8} {text : List UInt8} : Unreserved c → Escaped text → Escaped (c :: text)
  | percent {hi lo : Nat} {text : List UInt8} : hi < 16 → lo < 16 → Escaped text →
      Escaped (code '%' :: hexDigit hi :: hexDigit lo :: text)

/-- The value of a digit, in either case. -/
def hexValue (c : UInt8) : Option Nat :=
  if 48 ≤ c.toNat ∧ c.toNat ≤ 57 then some (c.toNat - 48)
  else if 65 ≤ c.toNat ∧ c.toNat ≤ 70 then some (c.toNat - 55)
  else if 97 ≤ c.toNat ∧ c.toNat ≤ 102 then some (c.toNat - 87)
  else none

/-- The decoding of a URI component. A percent sign that no two digits follow stands for itself. -/
def percentDecode : List UInt8 → List UInt8
  | [] => []
  | [a] => [a]
  | [a, b] => [a, b]
  | a :: b :: c :: text =>
    match a == code '%', hexValue b, hexValue c with
    | true, some hi, some lo => .ofNat (16 * hi + lo) :: percentDecode text
    | _, _, _ => a :: percentDecode (b :: c :: text)

/-! ## One character -/

/-- The signed comparisons let no byte above 127 through. -/
theorem isUnescaped_iff {c : UInt8} : isUnescaped c = true ↔ Unreserved c := by
  have hbounds : signed (code 'a') = 97 ∧ signed (code 'z') = 122 ∧ signed (code 'A') = 65 ∧
      signed (code 'Z') = 90 ∧ signed (code '0') = 48 ∧ signed (code '9') = 57 := by decide
  obtain ⟨ha, hz, hA, hZ, h0, h9⟩ := hbounds
  simp only [isUnescaped, Unreserved, ha, hz, hA, hZ, h0, h9, Bool.or_eq_true, Bool.and_eq_true,
    decide_eq_true_eq, beq_iff_eq, or_assoc]
  have hletters (lo hi : Nat) (h : hi < 128) :
      (signed c ≥ lo ∧ signed c ≤ hi) ↔ (lo ≤ c.toNat ∧ c.toNat ≤ hi) := by
    have hlt := c.toNat_lt
    unfold signed
    split <;> omega
  exact or_congr (hletters 97 122 (by decide))
    (or_congr (hletters 65 90 (by decide)) (or_congr (hletters 48 57 (by decide)) Iff.rfl))

/-- A hexadecimal digit has its value. -/
theorem hexValue_hexDigit : ∀ {n : Nat}, n < 16 → hexValue (hexDigit n) = some n := by
  decide

/-- A stream with base 16 and capital letters writes the digits so. -/
theorem digits_eq {o : OStream} (hbase : o.basefield = .hex) (hcase : o.uppercase = true) {v : Nat} :
    o.digits v = (Nat.toDigits 16 v).map fun d => code d.toUpper := by
  rw [OStream.digits, hbase, hcase]
  rfl

/-- A byte as two digits, filled up with a zero. -/
theorem digits_byte {o : OStream} (hbase : o.basefield = .hex) (hcase : o.uppercase = true) {v : Nat}
    (hv : v < 256) :
    List.replicate (2 - (o.digits v).length) (code '0') ++ o.digits v =
      [hexDigit (v / 16), hexDigit (v % 16)] := by
  rw [digits_eq hbase hcase]
  by_cases hsmall : v < 16
  · rw [Nat.toDigits_of_lt_base hsmall, Nat.div_eq_of_lt hsmall, Nat.mod_eq_of_lt hsmall]
    rfl
  · rw [Nat.toDigits_of_base_le (by decide) (Nat.not_lt.1 hsmall),
      Nat.toDigits_of_lt_base (Nat.div_lt_of_lt_mul hv)]
    rfl

/-- What the function relies on: no width is pending for the first character, and numbers are filled up
on their left and have no base in front of them. -/
structure OStream.Plain (o : OStream) : Prop where
  width : o.width ≤ 1
  adjustfield : o.adjustfield ≠ .left
  showbase : o.showbase = false

/-- A character as it is in the escaped text. -/
def escape (c : UInt8) : List UInt8 :=
  if isUnescaped c then [c] else [code '%', hexDigit (c.toNat / 16), hexDigit (c.toNat % 16)]

section
variable {o : OStream} {c : UInt8} {s t text : List UInt8}

/-- A body that is as wide as the field gets no padding. -/
theorem pad_of_width_le {body : List UInt8} (h : o.width ≤ body.length) : o.pad [] body = body := by
  have hfilling : (o.width - (([] : List UInt8).length + body.length)).toNat = 0 := by
    rw [List.length_nil]
    omega
  unfold OStream.pad
  rw [hfilling]
  cases o.adjustfield <;> simp

/-- Without left adjustment the padding stands in front. -/
theorem pad_of_not_left {body : List UInt8} (h : o.adjustfield ≠ .left) :
    o.pad [] body = List.replicate (o.width - body.length).toNat o.fill ++ body := by
  unfold OStream.pad
  cases hadjust : o.adjustfield with
  | left => exact absurd hadjust h
  | internal => simp
  | right => simp

/-- A character that is put is added, where the width asks for no more. -/
theorem putChar_content (h : o.width ≤ 1) : (o.putChar c).content = o.content ++ [c] := by
  rw [OStream.putChar, OStream.put, pad_of_width_le h]

/-- A plain stream gets the escaped character, and is plain afterwards. -/
theorem appendEscaped_plain (h : o.Plain) :
    (appendEscaped o c).content = o.content ++ escape c ∧ (appendEscaped o c).Plain := by
  unfold appendEscaped escape
  cases hescape : isUnescaped c with
  | true => exact ⟨putChar_content h.width, Int.zero_le_ofNat 1, h.adjustfield, h.showbase⟩
  | false =>
    simp only [Bool.false_eq_true, if_false]
    generalize hset : ((((o.putChar (code '%')).setfill (code '0')).setw 2).setHex.setUppercase) = o'
    have hadjust : o'.adjustfield ≠ .left := by
      rw [← hset]
      exact h.adjustfield
    have hbase : o'.showbase = false := by
      rw [← hset]
      exact h.showbase
    have hpad : o'.pad [] (o'.digits c.toNat) =
        [hexDigit (c.toNat / 16), hexDigit (c.toNat % 16)] := by
      have hcase : o'.basefield = .hex ∧ o'.uppercase = true := by
        rw [← hset]
        exact ⟨rfl, rfl⟩
      rw [pad_of_not_left hadjust, ← digits_byte hcase.1 hcase.2 c.toNat_lt, ← hset]
      congr 2
      exact Int.toNat_sub 2 _
    have hput : o'.putInt c.toNat = o'.put [] (o'.digits c.toNat) := by
      rw [OStream.putInt, hbase]
      rfl
    rw [hput]
    refine ⟨?_, Int.zero_le_ofNat 1, hadjust, hbase⟩
    change o'.content ++ o'.pad [] _ = _
    rw [hpad, ← hset]
    change (o.putChar (code '%')).content ++ _ = _
    rw [putChar_content h.width, List.append_assoc]
    rfl

/-! ## Whole strings -/

/-- The loop over a string without a terminator is a fold. -/
theorem appendAll_eq_foldl (h : 0 ∉ s) : appendAll o s = s.foldl appendEscaped o := by
  induction s generalizing o with
  | nil => rfl
  | cons c s ih =>
    have hc : c ≠ 0 := fun hc => h (hc ▸ List.mem_cons_self)
    rw [appendAll, if_neg hc, ih fun hs => h (List.mem_cons_of_mem c hs)]
    rfl

/-- Whatever the stream, a string may be written in two calls. -/
theorem appendEscapedUri_append (hs : 0 ∉ s) (ht : 0 ∉ t) :
    AppendEscapedUri o (some (s ++ t)) = AppendEscapedUri (AppendEscapedUri o (some s)) (some t) := by
  have hst : 0 ∉ s ++ t := fun h => (List.mem_append.1 h).elim hs ht
  simp only [AppendEscapedUri, appendAll_eq_foldl hs, appendAll_eq_foldl ht, appendAll_eq_foldl hst,
    List.foldl_append]

/-- A plain stream gets the string with each character escaped. -/
theorem appendEscapedUri_plain (h : o.Plain) (hs : 0 ∉ s) :
    (AppendEscapedUri o (some s)).content = o.content ++ s.flatMap escape ∧
      (AppendEscapedUri o (some s)).Plain := by
  simp only [AppendEscapedUri, appendAll_eq_foldl hs]
  clear hs
  induction s generalizing o with
  | nil => exact ⟨(List.append_nil _).symm, h⟩
  | cons c s ih =>
    obtain ⟨hcontent, hplain⟩ := appendEscaped_plain (c := c) h
    obtain ⟨hrest, hrestPlain⟩ := ih hplain
    refine ⟨?_, hrestPlain⟩
    rw [List.foldl_cons, hrest, hcontent, List.flatMap_cons, List.append_assoc]

/-! ## Decoding -/

/-- A byte that is no percent sign stands for itself. -/
theorem percentDecode_cons_of_ne (h : c ≠ code '%') : percentDecode (c :: text) = c :: percentDecode text := by
  match text with
  | [] => rfl
  | [_] => rfl
  | _ :: _ :: _ => rw [percentDecode, beq_eq_false_iff_ne.2 h]

/-- Two digits behind a percent sign stand for one byte. -/
theorem percentDecode_digits {hi lo : Nat} (hhi : hi < 16) (hlo : lo < 16) :
    percentDecode (code '%' :: hexDigit hi :: hexDigit lo :: text) =
      .ofNat (16 * hi + lo) :: percentDecode text := by
  rw [percentDecode, hexValue_hexDigit hhi, hexValue_hexDigit hlo]
  rfl

/-- The percent sign is not among the bytes that are left as they are. -/
theorem Unreserved.ne_percent (h : Unreserved c) : c ≠ code '%' := by
  rintro rfl
  exact absurd (isUnescaped_iff.2 h) (by decide)

/-- The escape of a byte is read as that byte. -/
theorem percentDecode_escape : percentDecode (escape c ++ text) = c :: percentDecode text := by
  unfold escape
  split
  · rename_i h
    exact percentDecode_cons_of_ne (isUnescaped_iff.1 h).ne_percent
  · have hlt := c.toNat_lt
    change percentDecode (_ :: _ :: _ :: text) = _
    rw [percentDecode_digits (by omega) (by omega), Nat.div_add_mod, UInt8.ofNat_toNat]

/-- The escape of a text is read as the text. -/
theorem percentDecode_flatMap_escape : percentDecode (s.flatMap escape) = s := by
  induction s with
  | nil => rfl
  | cons c s ih => rw [List.flatMap_cons, percentDecode_escape, ih]

/-- The escape of a byte is well formed. -/
theorem escaped_escape (h : Escaped text) : Escaped (escape c ++ text) := by
  unfold escape
  split
  · rename_i hc
    exact .unreserved (isUnescaped_iff.1 hc) h
  · have hlt := c.toNat_lt
    exact .percent (by omega) (by omega) h

/-- The escape of a text is well formed. -/
theorem escaped_flatMap_escape : Escaped (s.flatMap escape) := by
  induction s with
  | nil => exact .nil
  | cons c s ih => exact escaped_escape ih

/-- Escaped text that decodes to one unreserved character, and in which that character stands, is the
character. -/
theorem Escaped.eq_singleton (h : Escaped text) (hc : Unreserved c) (hmem : c ∈ text)
    (hdigit : ∀ n < 16, c ≠ hexDigit n) (hdecode : percentDecode text = [c]) : text = [c] := by
  have hnil {text : List UInt8} (h : Escaped text) (hdecode : percentDecode text = []) : text = [] := by
    cases h with
    | nil => rfl
    | unreserved hc =>
      rw [percentDecode_cons_of_ne hc.ne_percent] at hdecode
      cases hdecode
    | percent hhi hlo =>
      rw [percentDecode_digits hhi hlo] at hdecode
      cases hdecode
  cases h with
  | nil => cases hmem
  | unreserved hd hrest =>
    rw [percentDecode_cons_of_ne hd.ne_percent] at hdecode
    injection hdecode with heq hdecode
    rw [heq, hnil hrest hdecode]
  | percent hhi hlo hrest =>
    rw [percentDecode_digits hhi hlo] at hdecode
    injection hdecode with _ hdecode
    rw [hnil hrest hdecode] at hmem
    simp [hc.ne_percent, hdigit _ hhi, hdigit _ hlo] at hmem

end

/-! ## Lossless streams -/

/-- The function does its work on the stream: for all strings it appends escaped text which decodes to
the string, so that no two strings give the same text, and a string in two parts gives the texts of the
parts. -/
structure Lossless (o : OStream) : Prop where
  decodes : ∀ s, 0 ∉ s → ∃ text, (AppendEscapedUri o (some s)).content = o.content ++ text ∧
    Escaped text ∧ percentDecode text = s
  injective : ∀ s t, 0 ∉ s → 0 ∉ t →
    (AppendEscapedUri o (some s)).content = (AppendEscapedUri o (some t)).content → s = t
  append : ∀ s t, 0 ∉ s → 0 ∉ t → ∃ a b, (AppendEscapedUri o (some s)).content = o.content ++ a ∧
    (AppendEscapedUri o (some t)).content = o.content ++ b ∧
    (AppendEscapedUri o (some (s ++ t))).content = o.content ++ (a ++ b)

section
variable {o : OStream}

/-- A stream in its plain state loses nothing. -/
theorem lossless_of_plain (h : o.Plain) : Lossless o where
  decodes s hs := ⟨_, (appendEscapedUri_plain h hs).1, escaped_flatMap_escape,
    percentDecode_flatMap_escape⟩
  injective s t hs ht heq := by
    rw [(appendEscapedUri_plain h hs).1, (appendEscapedUri_plain h ht).1] at heq
    rw [← percentDecode_flatMap_escape (s := s), List.append_cancel_left heq,
      percentDecode_flatMap_escape]
  append s t hs ht := by
    have hst : 0 ∉ s ++ t := fun h => (List.mem_append.1 h).elim hs ht
    refine ⟨_, _, (appendEscapedUri_plain h hs).1, (appendEscapedUri_plain h ht).1, ?_⟩
    rw [(appendEscapedUri_plain h hst).1, List.flatMap_append]

/-- The text for a tilde shows a pending width. -/
theorem width_le_of_lossless (h : Lossless o) : o.width ≤ 1 := by
  by_contra hwidth
  obtain ⟨text, hcontent, hescaped, hdecode⟩ := h.decodes [code '~'] (by decide)
  have htext : o.pad [] [code '~'] = text := List.append_cancel_left hcontent
  have hlength : 1 < text.length ∧ code '~' ∈ text := by
    rw [← htext]
    unfold OStream.pad
    cases o.adjustfield <;> simp <;> omega
  have hone : text = [code '~'] :=
    hescaped.eq_singleton (isUnescaped_iff.1 (by decide)) hlength.2 (by decide) hdecode
  rw [hone] at hlength
  exact absurd hlength.1 (by decide)

/-- The text for the byte 1. -/
theorem content_one (hwidth : o.width ≤ 1) :
    (AppendEscapedUri o (some [1])).content = o.content ++ code '%' ::
      if o.showbase = true then [code '0', code 'X', hexDigit 1]
      else if o.adjustfield = .left then [hexDigit 1, code '0'] else [code '0', hexDigit 1] := by
  rw [List.append_cons, ← putChar_content hwidth]
  generalize hset : ((((o.putChar (code '%')).setfill (code '0')).setw 2).setHex.setUppercase) = o'
  have hcontent : (AppendEscapedUri o (some [1])).content = (o'.putInt 1).content := by
    rw [← hset]
    rfl
  have hdigits : o'.digits 1 = [hexDigit 1] := by
    rw [digits_eq (by rw [← hset]; rfl) (by rw [← hset]; rfl), Nat.toDigits_of_lt_base (by decide)]
    rfl
  rw [hcontent, OStream.putInt, hdigits, ← hset]
  obtain ⟨content, fill, width, adjustfield, basefield, showbase, uppercase⟩ := o
  cases showbase <;> cases adjustfield <;> rfl

/-- It shows a base in front of the digits, and digits that are filled up on the right. -/
theorem plain_of_lossless (h : Lossless o) : o.Plain := by
  have hwidth := width_le_of_lossless h
  obtain ⟨text, hcontent, hescaped, hdecode⟩ := h.decodes [1] (by decide)
  have htext := List.append_cancel_left ((content_one hwidth).symm.trans hcontent)
  subst htext
  have hbase : o.showbase = false := by
    by_contra hbase
    rw [if_pos (by simpa using hbase)] at hdecode
    exact absurd hdecode (by decide)
  have hadjust : o.adjustfield ≠ .left := by
    intro hadjust
    rw [hbase, if_neg (by decide), if_pos hadjust] at hdecode
    exact absurd hdecode (by decide)
  exact ⟨hwidth, hadjust, hbase⟩

/-- The function does its work exactly on plain streams. -/
theorem lossless_iff : Lossless o ↔ o.Plain := ⟨plain_of_lossless, lossless_of_plain⟩

end

/-- A width that is pending pads the first character. -/
theorem not_lossless : ¬ ∀ o : OStream, Lossless o := by
  intro h
  have hwidth := width_le_of_lossless (h { OStream.empty with width := 4 })
  exact absurd hwidth (by decide)

/-! ## The connection string -/

/-- `operator<<` of a string of the source. -/
def OStream.putString (o : OStream) (s : List Char) : OStream := o.put [] (s.map code)

/-- The connection string of `Initialize` for MotherDuck. -/
def connectionString (default_database : Option (List UInt8)) (session_hint : List UInt8) : List UInt8 :=
  let oss := OStream.empty.putString ['m', 'd', ':']
  let oss := (AppendEscapedUri oss default_database).putString ['?']
  if session_hint = [] then oss.content
  else
    let oss := oss.putString "session_hint=".toList
    ((AppendEscapedUri oss (some session_hint)).putString ['&']).content

section
variable {o : OStream} {s : List Char} {str db db' hint hint' : List UInt8}

/-- A stream in its plain state puts a string as it is, and stays plain. -/
theorem putString_plain (h : o.Plain) (hs : s ≠ []) :
    (o.putString s).content = o.content ++ s.map code ∧ (o.putString s).Plain := by
  have hwidth : o.width ≤ (s.map code).length := by
    have hlength := List.length_pos_iff.2 hs
    have hone := h.width
    rw [List.length_map]
    omega
  refine ⟨?_, Int.zero_le_ofNat 1, h.adjustfield, h.showbase⟩
  rw [OStream.putString, OStream.put, pad_of_width_le hwidth]

/-- A new stream is in its plain state. -/
theorem plain_empty : OStream.empty.Plain := ⟨by decide, by decide, rfl⟩

/-- The connection string in full. -/
theorem connectionString_eq (hdb : 0 ∉ db) (hhint : 0 ∉ hint) :
    connectionString (some db) hint = [code 'm', code 'd', code ':'] ++ (db.flatMap escape ++ code '?' ::
      if hint = [] then []
      else "session_hint=".toList.map code ++ (hint.flatMap escape ++ [code '&'])) := by
  obtain ⟨hscheme, hscheme'⟩ := putString_plain plain_empty (s := ['m', 'd', ':']) (by decide)
  obtain ⟨hname, hname'⟩ := appendEscapedUri_plain hscheme' hdb
  obtain ⟨hmark, hmark'⟩ := putString_plain hname' (s := ['?']) (by decide)
  unfold connectionString
  by_cases hempty : hint = []
  · simp only [hempty, if_true]
    rw [hmark, hname, hscheme]
    simp [OStream.empty]
  · simp only [hempty, if_false]
    obtain ⟨hkey, hkey'⟩ := putString_plain hmark' (s := "session_hint=".toList) (by decide)
    obtain ⟨hvalue, hvalue'⟩ := appendEscapedUri_plain hkey' hhint
    rw [(putString_plain hvalue' (by decide)).1, hvalue, hkey, hmark, hname, hscheme]
    simp [OStream.empty]

/-- Escaped text has no separator in it. -/
theorem Escaped.not_mem_separator {text : List UInt8} (h : Escaped text) : code '?' ∉ text := by
  induction h with
  | nil => exact List.not_mem_nil
  | unreserved hc _ ih =>
    refine List.not_mem_cons_of_ne_of_not_mem ?_ ih
    rintro rfl
    exact absurd (isUnescaped_iff.2 hc) (by decide)
  | percent hhi hlo _ ih =>
    have hdigit : ∀ n < 16, code '?' ≠ hexDigit n := by decide
    exact List.not_mem_cons_of_ne_of_not_mem (by decide)
      (List.not_mem_cons_of_ne_of_not_mem (hdigit _ hhi) (List.not_mem_cons_of_ne_of_not_mem (hdigit _ hlo) ih))

/-- The parameters of a connection string. -/
theorem not_mem_parameters : code '?' ∉ if hint = [] then [] else
    "session_hint=".toList.map code ++ (hint.flatMap escape ++ [code '&']) := by
  split
  · exact List.not_mem_nil
  · have hkey : code '?' ∉ "session_hint=".toList.map code := by decide
    have hend : code '?' ∉ [code '&'] := by decide
    simp only [List.mem_append, not_or]
    exact ⟨hkey, escaped_flatMap_escape.not_mem_separator, hend⟩

/-- Two connections with the same string have the same database and the same session hint. -/
theorem connectionString_injective (hdb : 0 ∉ db) (hdb' : 0 ∉ db') (hhint : 0 ∉ hint) (hhint' : 0 ∉ hint')
    (h : connectionString (some db) hint = connectionString (some db') hint') : db = db' ∧ hint = hint' := by
  have hescape {s t : List UInt8} (h : s.flatMap escape = t.flatMap escape) : s = t := by
    rw [← percentDecode_flatMap_escape (s := s), h, percentDecode_flatMap_escape]
  rw [connectionString_eq hdb hhint, connectionString_eq hdb' hhint'] at h
  obtain ⟨hname, -, hrest⟩ := (List.append_cons_inj_of_notMem escaped_flatMap_escape.not_mem_separator
    not_mem_parameters).1 (List.append_cancel_left h)
  refine ⟨hescape hname, ?_⟩
  split at hrest <;> split at hrest
  · simp_all
  · cases hrest
  · cases hrest
  · exact hescape (List.append_cancel_right (List.append_cancel_left hrest))

end

end PgDuckdb.Uri
