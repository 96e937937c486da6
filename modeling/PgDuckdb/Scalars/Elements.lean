import PgDuckdb.Scalars.Convert
import PgDuckdb.Lib.Except

/-!
# The elements of a vector

A vector in memory: its elements follow each other, each as large as the type says. What one row writes is its
own element as long as `Append` is called with a type of that size. So rows stay apart for all types but
`"char"`, whose vector has one byte an element and is written two bytes a row. A bit string of more than twelve
bytes is not read back either, as its `string_t` points to a temporary.
-/

namespace PgDuckdb.Scalars

open Lib Lib.Bytes Chunks

/-! ## Vectors in memory -/

/-- Where a string stands. -/
inductive string_t
  | inlined (text : List UInt8)
  /-- The text in the heap of the vector. -/
  | pointer (address : ℕ)
  /-- A text that is gone. -/
  | dangling
  deriving DecidableEq

/-- A byte of memory. Those of a `string_t` are kept as its parts. -/
inductive Byte
  | raw (b : UInt8)
  | part (s : string_t) (k : ℕ)
  deriving DecidableEq

/-- The memory from the first element of a vector on, `none` where nothing was written. -/
structure Vector where
  memory : ℕ → Option Byte
  heap : List (List UInt8)

/-- A vector that nothing was written to. -/
def Vector.new : Vector where
  memory := fun _ => none
  heap := []

/-- The bytes of the longest string that needs no heap. -/
def string_t.INLINE_LENGTH : ℕ := 12

/-- `sizeof(string_t)` is 16. -/
def string_t.memory (s : string_t) : List Byte := (List.range 16).map (Byte.part s)

/-- `data[offset] = value`, where `data` points to elements of the size of the value. -/
def Append (result : Vector) (value : List Byte) (offset : ℕ) : Vector :=
  { result with
    memory := assign value.length (fun k => value.length * offset + k) (fun k => value.getD k (.raw 0)) result.memory }

/-- `StringVector::AddString` -/
def AddString (result : Vector) (text : List UInt8) : string_t × Vector :=
  if text.length ≤ string_t.INLINE_LENGTH then (.inlined text, result)
  else (.pointer result.heap.length, { result with heap := result.heap ++ [text] })

/-- The `string_t` that a temporary `std::string` is converted to. -/
def temporaryString (text : List UInt8) : string_t :=
  if text.length ≤ string_t.INLINE_LENGTH then .inlined text else .dangling

/-- A value is written to a row. -/
def Written.write (result : Vector) (offset : ℕ) : Written → Vector
  | .plain memory => Append result (memory.map .raw) offset
  | .added text => Append (AddString result text).2 (AddString result text).1.memory offset
  | .temporary text => Append result (temporaryString text).memory offset

/-- The conversion of one value, and the row that is written. -/
def ConvertPostgresToDuckValue (E : External) (attr_type : Oid) (type : LogicalType) (value : Datum)
    (result : Vector) (offset : ℕ) : Except ConvertException Vector :=
  (convert E attr_type type value).map (Written.write result offset)

/-- One datum after the other, at the offsets from `offset` on. -/
def convertRows (E : External) (attr_type : Oid) (type : LogicalType) :
    List Datum → Vector → ℕ → Except ConvertException Vector
  | [], result, _ => .ok result
  | value :: values, result, offset => do
    let result ← ConvertPostgresToDuckValue E attr_type type value result offset
    convertRows E attr_type type values result (offset + 1)

/-! ## Elements -/

/-- `GetTypeIdSize` of the physical type. -/
def typeSize : LogicalTypeId → ℕ
  | .BOOLEAN | .TINYINT => 1
  | .SMALLINT => 2
  | .INTEGER | .UINTEGER | .DATE | .FLOAT => 4
  | .BIGINT | .TIMESTAMP_SEC | .TIMESTAMP_MS | .TIMESTAMP_NS | .TIMESTAMP | .TIMESTAMP_TZ | .TIME | .TIME_TZ
  | .DOUBLE => 8
  | .VARCHAR | .BLOB | .BIT | .INTERVAL | .UUID | .LIST => 16
  | .INVALID | .DECIMAL | .STRUCT | .UNION | .MAP => 0

namespace LogicalType

/-- The bytes of a cell. -/
def size : LogicalType → ℕ
  | .DECIMAL t => t.InternalType.int.bits / 8
  | .plain id => typeSize id
  | .JSON => typeSize .VARCHAR
  | .NumericAsDouble => typeSize .DOUBLE
  | .LIST _ => typeSize .LIST
  | .Unsupported _ => typeSize .INVALID

/-- The physical type is `VARCHAR`. -/
def isString (type : LogicalType) : Bool := type.id ∈ [.VARCHAR, .BLOB, .BIT]

end LogicalType

/-- What is read of a row. -/
inductive Element
  | plain (memory : List UInt8)
  | string (text : List UInt8)

/-- The bytes of an element. -/
def Vector.bytesAt (vec : Vector) (size i : ℕ) : Option (List Byte) :=
  (List.range size).mapM fun k => vec.memory (size * i + k)

/-- The text of a `string_t`, if it is still there. -/
def Vector.text (vec : Vector) : string_t → Option (List UInt8)
  | .inlined text => some text
  | .pointer address => vec.heap[address]?
  | .dangling => none

/-- A string that is read, from the cell or from where it points to. -/
def Vector.loadString (vec : Vector) (memory : List Byte) : Option (List UInt8) :=
  match memory with
  | .part s _ :: _ => if memory = s.memory then vec.text s else none
  | _ => none

/-- The bytes of a cell that holds no string. -/
def loadBytes (memory : List Byte) : Option (List UInt8) :=
  memory.mapM fun
    | .raw b => some b
    | .part _ _ => none

/-- What is read of a row of some type. -/
def Vector.elementAt (vec : Vector) (type : LogicalType) (i : ℕ) : Option Element :=
  (vec.bytesAt type.size i).bind fun memory =>
    if type.isString then (vec.loadString memory).map .string else (loadBytes memory).map .plain

/-- The value that is meant, narrowed to the type. -/
def Written.element (size : ℕ) : Written → Element
  | .plain memory => .plain (memory.take size)
  | .added text => .string text
  | .temporary text => .string text

/-- Each row is read as what its datum is converted to, and nothing is written behind the rows. -/
def RowsApart (E : External) (attr_type : Oid) (type : LogicalType) (values : List Datum) : Prop :=
  ∀ result, convertRows E attr_type type values .new 0 = .ok result →
    (∀ i value, values[i]? = some value → ∃ w, convert E attr_type type value = .ok w ∧
      result.elementAt type i = some (w.element type.size)) ∧
    ∀ a, type.size * values.length ≤ a → result.memory a = none

/-! ## One row -/

/-- How many bytes are written. -/
def Written.size : Written → ℕ
  | .plain memory => memory.length
  | .added _ => 16
  | .temporary _ => 16

/-- What is written has the size and the kind of the elements. -/
def Written.Matches (type : LogicalType) : Written → Prop
  | .plain memory => memory.length = type.size ∧ type.isString = false
  | .added _ => type.isString = true
  | .temporary _ => type.isString = true

section
variable {E : External} {attr_type : Oid} {type : LogicalType} {vec : Vector} {w : Written}
variable {i k a offset size : ℕ} {value : List Byte} {text : List UInt8}

/-- A cell that is appended changes no other byte. -/
theorem append_memory_other (h : a < value.length * offset ∨ value.length * offset + value.length ≤ a) :
    (Append vec value offset).memory a = vec.memory a :=
  assign_other fun k hk => by omega

/-- And it is where it was appended. -/
theorem append_memory (hk : k < value.length) :
    (Append vec value offset).memory (value.length * offset + k) = some value[k] := by
  have h := @assign_self _ _ _ value.length (fun k => value.length * offset + k)
    (fun k => value.getD k (.raw 0)) vec.memory (fun i _ j _ hij => Nat.add_left_cancel hij) k hk
  refine h.trans ?_
  rw [List.getD_eq_getElem?_getD, List.getElem?_eq_getElem hk, Option.getD_some]

@[simp] theorem string_t.length_memory {s : string_t} : s.memory.length = 16 := by
  rw [string_t.memory, List.length_map, List.length_range]

/-- A string goes into the heap and changes no cell. -/
theorem addString_memory : (AddString vec text).2.memory = vec.memory := by
  unfold AddString
  split <;> rfl

/-- What is in memory outside of the row. -/
theorem write_memory_other (h : a < w.size * offset ∨ w.size * offset + w.size ≤ a) :
    (w.write vec offset).memory a = vec.memory a := by
  cases w with
  | plain memory =>
    refine append_memory_other ?_
    rw [List.length_map]
    exact h
  | added text =>
    have hs : (AddString vec text).1.memory.length = 16 := string_t.length_memory
    refine (append_memory_other ?_).trans (congrFun addString_memory a)
    rw [hs]
    exact h
  | temporary text =>
    have hs : (temporaryString text).memory.length = 16 := string_t.length_memory
    refine append_memory_other ?_
    rw [hs]
    exact h

/-- The bytes that are written. -/
def Written.image (vec : Vector) : Written → List Byte
  | .plain memory => memory.map .raw
  | .added text => (AddString vec text).1.memory
  | .temporary text => (temporaryString text).memory

@[simp] theorem Written.length_image : (w.image vec).length = w.size := by
  cases w with
  | plain memory => exact List.length_map _
  | added text => exact string_t.length_memory
  | temporary text => exact string_t.length_memory

/-- The bytes of a value that was written. -/
theorem write_memory (hk : k < w.size) :
    (w.write vec offset).memory (w.size * offset + k) = (w.image vec)[k]? := by
  have hlen : (w.image vec).length = w.size := Written.length_image
  rw [← hlen] at hk
  rw [List.getElem?_eq_getElem hk, ← hlen]
  cases w with
  | plain memory => exact append_memory hk
  | added text => exact append_memory hk
  | temporary text => exact append_memory hk

/-- The row that is written. -/
theorem bytesAt_write : (w.write vec offset).bytesAt w.size offset = some (w.image vec) := by
  have h : ∀ k ∈ List.range w.size, (w.write vec offset).memory (w.size * offset + k) =
      some ((w.image vec).getD k (.raw 0)) := by
    intro k hk
    rw [List.mem_range] at hk
    have hk' : k < (w.image vec).length := by rwa [Written.length_image]
    rw [write_memory hk, List.getD_eq_getElem?_getD, List.getElem?_eq_getElem hk', Option.getD_some]
  rw [Vector.bytesAt, mapM_eq_some_iff.2 h]
  refine congrArg some (List.ext_getElem? fun k => ?_)
  rcases Nat.lt_or_ge k w.size with hk | hk
  · have hk' : k < (w.image vec).length := by rwa [Written.length_image]
    rw [List.getElem?_map, List.getElem?_range hk, Option.map_some, List.getD_eq_getElem?_getD,
      List.getElem?_eq_getElem hk', Option.getD_some]
  · rw [List.getElem?_eq_none (by simpa using hk), List.getElem?_eq_none (by simpa using hk)]

/-- Memory that is the same holds the same elements. -/
theorem bytesAt_congr {vec' : Vector}
    (h : ∀ a, size * i ≤ a → a < size * i + size → vec'.memory a = vec.memory a) :
    vec'.bytesAt size i = vec.bytesAt size i :=
  mapM_congr fun k hk => by
    rw [List.mem_range] at hk
    exact h _ (Nat.le_add_right _ _) (by omega)

/-- The heap only grows. -/
theorem write_heap : ∃ texts, (w.write vec offset).heap = vec.heap ++ texts := by
  cases w with
  | plain memory => exact ⟨[], (List.append_nil _).symm⟩
  | temporary text => exact ⟨[], (List.append_nil _).symm⟩
  | added text =>
    show ∃ texts, (AddString vec text).2.heap = vec.heap ++ texts
    unfold AddString
    split
    · exact ⟨[], (List.append_nil _).symm⟩
    · exact ⟨[text], rfl⟩

/-- What the string that was added points to. -/
theorem text_addString : (AddString vec text).2.text (AddString vec text).1 = some text := by
  unfold AddString
  split
  · rfl
  · exact List.getElem?_concat_length

/-- A string is read as before when the heap has grown. -/
theorem text_of_append {vec' : Vector} {s : string_t} {texts : List (List UInt8)}
    (hh : vec'.heap = vec.heap ++ texts) (h : vec.text s = some text) : vec'.text s = some text := by
  cases s with
  | inlined t => exact h
  | dangling => exact h
  | pointer address =>
    have h : vec.heap[address]? = some text := h
    obtain ⟨hlt, -⟩ := List.getElem?_eq_some_iff.1 h
    show vec'.heap[address]? = some text
    rw [hh, List.getElem?_append_left hlt, h]

/-- A string that was put into a cell is read. -/
theorem loadString_memory {s : string_t} : vec.loadString s.memory = vec.text s := by
  have hcons : s.memory = .part s 0 :: (List.range' 1 15).map (Byte.part s) := rfl
  have h : vec.loadString (.part s 0 :: (List.range' 1 15).map (Byte.part s)) =
      if .part s 0 :: (List.range' 1 15).map (Byte.part s) = s.memory then vec.text s else none := rfl
  rwa [← hcons, if_pos rfl] at h

/-- Bytes that were put into a cell are read. -/
theorem loadBytes_map {memory : List UInt8} : loadBytes (memory.map .raw) = some memory := by
  induction memory with
  | nil => rfl
  | cons b memory ih =>
    unfold loadBytes at ih ⊢
    rw [List.map_cons, List.mapM_cons, ih]
    rfl

/-- A cell for a string has sixteen bytes. -/
theorem LogicalType.size_of_isString (h : type.isString = true) : type.size = 16 := by
  cases type with
  | plain id => cases id <;> first | rfl | cases h
  | JSON => rfl
  | NumericAsDouble => cases h
  | DECIMAL t => cases h
  | LIST child => rfl
  | Unsupported message => cases h

/-- A value that matches its type has the size of the cell. -/
theorem Written.Matches.size_eq (h : w.Matches type) : w.size = type.size := by
  cases w with
  | plain memory => exact h.1
  | added text => exact (LogicalType.size_of_isString h).symm
  | temporary text => exact (LogicalType.size_of_isString h).symm

/-- What is read of an element later, when no other row wrote to it. -/
def Written.readBack : Written → Option Element
  | .plain memory => some (.plain memory)
  | .added text => some (.string text)
  | .temporary text => if text.length ≤ string_t.INLINE_LENGTH then some (.string text) else none

/-- A row is read as what was written to it, as long as its bytes are there. -/
theorem elementAt_of_image {vec' : Vector} {texts : List (List UInt8)} (hm : w.Matches type)
    (hb : vec'.bytesAt type.size i = some (w.image vec))
    (hh : vec'.heap = (w.write vec offset).heap ++ texts) : vec'.elementAt type i = w.readBack := by
  rw [Vector.elementAt, hb, Option.bind_some]
  cases w with
  | plain memory =>
    rw [hm.2]
    show (loadBytes (memory.map .raw)).map Element.plain = _
    rw [loadBytes_map]
    rfl
  | added text =>
    have hstring : type.isString = true := hm
    rw [if_pos hstring]
    show (vec'.loadString (AddString vec text).1.memory).map Element.string = _
    rw [loadString_memory, @text_of_append (AddString vec text).2 _ _ _ _ hh text_addString]
    rfl
  | temporary text =>
    have hstring : type.isString = true := hm
    rw [if_pos hstring]
    show (vec'.loadString (temporaryString text).memory).map Element.string = _
    rw [loadString_memory, Written.readBack]
    unfold temporaryString
    split <;> rfl

/-! ## All rows -/

/-- The writes of the rows from `offset` on. -/
def writeRows : List Written → Vector → ℕ → Vector
  | [], result, _ => result
  | w :: ws, result, offset => writeRows ws (w.write result offset) (offset + 1)

variable {ws : List Written} {values : List Datum}

/-- Rows that are written change no byte elsewhere. -/
theorem writeRows_memory (hs : ∀ w ∈ ws, w.size = size)
    (h : a < size * offset ∨ size * (offset + ws.length) ≤ a) :
    (writeRows ws vec offset).memory a = vec.memory a := by
  induction ws generalizing vec offset with
  | nil => rfl
  | cons w ws ih =>
    have hw := hs w List.mem_cons_self
    rw [List.length_cons] at h
    have hmul : size * (offset + 1) = size * offset + size := Nat.mul_succ _ _
    have hle : size * (offset + 1) ≤ size * (offset + (ws.length + 1)) :=
      Nat.mul_le_mul_left size (by omega)
    refine (ih (fun x hx => hs x (List.mem_cons_of_mem w hx)) ?_).trans (write_memory_other ?_)
    · rw [show offset + 1 + ws.length = offset + (ws.length + 1) by omega]
      omega
    · rw [hw]
      omega

/-- The heap only grows. -/
theorem writeRows_heap : ∃ texts, (writeRows ws vec offset).heap = vec.heap ++ texts := by
  induction ws generalizing vec offset with
  | nil => exact ⟨[], (List.append_nil _).symm⟩
  | cons w ws ih =>
    obtain ⟨texts, ht⟩ := @write_heap vec w offset
    obtain ⟨texts', ht'⟩ := @ih (w.write vec offset) (offset + 1)
    exact ⟨texts ++ texts', by rw [writeRows, ht', ht, List.append_assoc]⟩

/-- Each row is read as it was written, whatever was written to the other rows. -/
theorem writeRows_elementAt (hm : ∀ w ∈ ws, w.Matches type) (hi : ws[i]? = some w) :
    (writeRows ws vec offset).elementAt type (offset + i) = w.readBack := by
  induction ws generalizing vec offset i with
  | nil => cases hi
  | cons x ws ih =>
    have hm' : ∀ w ∈ ws, w.Matches type := fun y hy => hm y (List.mem_cons_of_mem x hy)
    cases i with
    | zero =>
      cases hi
      have hx := hm w List.mem_cons_self
      obtain ⟨texts, ht⟩ := @writeRows_heap (w.write vec offset) (offset + 1) ws
      refine elementAt_of_image hx ?_ ht
      rw [Nat.add_zero, ← bytesAt_write, hx.size_eq]
      refine bytesAt_congr fun a _ ha => writeRows_memory (fun y hy => (hm' y hy).size_eq) (.inl ?_)
      rw [Nat.mul_succ]
      exact ha
    | succ i =>
      rw [show offset + (i + 1) = offset + 1 + i by omega]
      exact ih hm' hi

end

/-! ## What the switch writes -/

section
variable {E : External} {attr_type : Oid} {type : LogicalType} {value : Datum} {w : Written}

/-- An interval has sixteen bytes. -/
theorem length_interval : (DatumGetInterval value).length = 16 := by
  cases value <;> simp [DatumGetInterval]

/-- A date has four bytes. -/
theorem appendDate_length (h : appendDate E value = .ok w) : ∃ memory, w = .plain memory ∧ memory.length = 4 := by
  unfold appendDate at h
  split at h
  · cases h
    exact ⟨_, rfl, length_bytes⟩
  · cases h

/-- A double has eight bytes. -/
theorem appendNumericAsDouble_length (h : AppendNumericAsDouble E value = .ok w) :
    ∃ memory, w = .plain memory ∧ memory.length = 8 := by
  unfold AppendNumericAsDouble at h
  split at h
  · cases h
    exact ⟨_, rfl, length_bytes⟩
  · cases h

/-- An instant has eight bytes. -/
theorem appendInstant_length {append : BitVec 64 → Except Types.OutOfRangeException (BitVec 64)}
    (h : appendInstant append value = .ok w) : ∃ memory, w = .plain memory ∧ memory.length = 8 := by
  unfold appendInstant at h
  split at h
  · cases h
    exact ⟨_, rfl, length_bytes⟩
  · cases h

/-- A decimal has as many bytes as its type. -/
theorem appendDecimal_length {t : Types.DecimalType} (h : AppendDecimal t value = .ok w) :
    ∃ memory, w = .plain memory ∧ memory.length = t.InternalType.int.bits / 8 := by
  unfold AppendDecimal at h
  split at h
  · cases h
  · split at h
    next ht =>
      cases h
      exact ⟨_, rfl, by rw [length_bytes, ht]; rfl⟩
    next ht =>
      cases h
      exact ⟨_, rfl, by rw [length_bytes, ht]; rfl⟩
    next ht =>
      cases h
      exact ⟨_, rfl, by rw [length_bytes, ht]; rfl⟩
    next ht =>
      cases h
      exact ⟨_, rfl, by rw [length_bytes, ht]; rfl⟩
    next => cases h

/-- A text is added to the heap. -/
theorem text_added {is_jsonb is_bpchar : Prop} [Decidable is_jsonb] [Decidable is_bpchar] :
    ∃ text, (if is_jsonb then AppendJsonb E value else AppendString value is_bpchar) = .added text := by
  split <;> exact ⟨_, rfl⟩

/-- Every case passes to `Append` what has the size of an element, but that of `TINYINT`. -/
theorem convert_matches (h : convert E attr_type type value = .ok w) (hid : type.id ≠ .TINYINT) :
    w.Matches type := by
  cases type with
  | LIST child => cases h
  | Unsupported message => cases h
  | DECIMAL t =>
    obtain ⟨memory, rfl, hl⟩ := appendDecimal_length h
    exact ⟨hl, rfl⟩
  | NumericAsDouble =>
    obtain ⟨memory, rfl, hl⟩ := appendNumericAsDouble_length h
    exact ⟨hl, rfl⟩
  | JSON =>
    obtain ⟨text, ht⟩ := @text_added E value (attr_type = JSONBOID) (attr_type = BPCHAROID) _ _
    cases (Except.ok.inj h).symm.trans ht
    exact rfl
  | plain id =>
    cases id with
    | TINYINT => exact absurd rfl hid
    | INVALID | DECIMAL | LIST | STRUCT | UNION | MAP => cases h
    | VARCHAR =>
      obtain ⟨text, ht⟩ := @text_added E value (attr_type = JSONBOID) (attr_type = BPCHAROID) _ _
      cases (Except.ok.inj h).symm.trans ht
      exact rfl
    | BLOB | BIT =>
      cases h
      exact rfl
    | DATE =>
      obtain ⟨memory, rfl, hl⟩ := appendDate_length h
      exact ⟨hl, rfl⟩
    | TIMESTAMP_SEC | TIMESTAMP_MS | TIMESTAMP_NS | TIMESTAMP | TIMESTAMP_TZ =>
      obtain ⟨memory, rfl, hl⟩ := appendInstant_length h
      exact ⟨hl, rfl⟩
    | INTERVAL =>
      cases h
      exact ⟨length_interval, rfl⟩
    | UUID =>
      cases h
      exact ⟨by simp [Types.hugeint_t.memory, LogicalType.size, typeSize], rfl⟩
    | BOOLEAN | SMALLINT | INTEGER | UINTEGER | BIGINT | TIME | TIME_TZ | FLOAT | DOUBLE =>
      cases h
      exact ⟨length_bytes, rfl⟩

/-- Only bit strings are left in a temporary. -/
theorem convert_temporary {text : List UInt8} (h : convert E attr_type type value = .ok (.temporary text)) :
    type.id = .BIT ∧ text = E.ToBit (DatumGetBitString E value) := by
  cases type with
  | LIST child => cases h
  | Unsupported message => cases h
  | DECIMAL t =>
    obtain ⟨memory, hw, -⟩ := appendDecimal_length h
    cases hw
  | NumericAsDouble =>
    obtain ⟨memory, hw, -⟩ := appendNumericAsDouble_length h
    cases hw
  | JSON =>
    obtain ⟨text', ht⟩ := @text_added E value (attr_type = JSONBOID) (attr_type = BPCHAROID) _ _
    cases (Except.ok.inj h).symm.trans ht
  | plain id =>
    cases id with
    | BIT =>
      cases h
      exact ⟨rfl, rfl⟩
    | VARCHAR =>
      obtain ⟨text', ht⟩ := @text_added E value (attr_type = JSONBOID) (attr_type = BPCHAROID) _ _
      cases (Except.ok.inj h).symm.trans ht
    | DATE =>
      obtain ⟨memory, hw, -⟩ := appendDate_length h
      cases hw
    | TIMESTAMP_SEC | TIMESTAMP_MS | TIMESTAMP_NS | TIMESTAMP | TIMESTAMP_TZ =>
      obtain ⟨memory, hw, -⟩ := appendInstant_length h
      cases hw
    | _ => cases h

/-- Two types are known by their identifiers. -/
theorem type_eq_of_id (h : type.id = .BIT ∨ type.id = .TINYINT) : type = .plain type.id := by
  cases type with
  | plain id => rfl
  | JSON | NumericAsDouble | DECIMAL | LIST | Unsupported => rcases h with h | h <;> cases h

end

/-! ## All rows of a column -/

section
variable {E : External} {attr_type : Oid} {type : LogicalType} {values : List Datum} {vec result : Vector} {offset : ℕ}

/-- What stands at a place of one list is related to what stands there in the other. -/
theorem forall₂_getElem? {α β : Type} {R : α → β → Prop} {l : List α} {l' : List β} {a : α} {i : ℕ}
    (h : List.Forall₂ R l l') (hi : l[i]? = some a) : ∃ b, l'[i]? = some b ∧ R a b := by
  induction h generalizing i with
  | nil => cases hi
  | cons hr _ ih =>
    cases i with
    | zero =>
      cases hi
      exact ⟨_, rfl, hr⟩
    | succ i => exact ih hi

/-- The rows that are converted are converted one by one, and written. -/
theorem convertRows_eq_ok_iff : convertRows E attr_type type values vec offset = .ok result ↔
    ∃ ws, List.Forall₂ (fun value w => convert E attr_type type value = .ok w) values ws ∧
      result = writeRows ws vec offset := by
  induction values generalizing vec offset with
  | nil =>
    constructor
    · intro h
      cases h
      exact ⟨[], .nil, rfl⟩
    · rintro ⟨ws, hws, rfl⟩
      cases hws
      rfl
  | cons value values ih =>
    rw [convertRows, ConvertPostgresToDuckValue]
    cases hc : convert E attr_type type value with
    | error e =>
      constructor
      · intro h
        cases h
      · rintro ⟨ws, hws, -⟩
        cases hws with
        | cons hw _ => cases hc.symm.trans hw
    | ok w =>
      constructor
      · intro h
        obtain ⟨ws, hws, hr⟩ := ih.1 h
        exact ⟨w :: ws, .cons hc hws, hr⟩
      · rintro ⟨ws, hws, hr⟩
        cases hws with
        | cons hw hws =>
          cases hc.symm.trans hw
          exact ih.2 ⟨_, hws, hr⟩

/-- All types but `TINYINT`. -/
theorem rowsApart_iff (hid : type.id ≠ .TINYINT) : RowsApart E attr_type type values ↔
    (type.id = .BIT → ∀ value ∈ values, (E.ToBit (DatumGetBitString E value)).length ≤ string_t.INLINE_LENGTH) := by
  constructor
  · intro h hbit value hvalue
    have htype := type_eq_of_id (.inl hbit)
    rw [hbit] at htype
    subst htype
    have hws : List.Forall₂ (fun value w => convert E attr_type (.plain .BIT) value = .ok w) values
        (values.map fun value => .temporary (E.ToBit (DatumGetBitString E value))) := by
      rw [List.forall₂_map_right_iff, List.forall₂_same]
      exact fun value _ => rfl
    have hmatch : ∀ w ∈ values.map fun value => Written.temporary (E.ToBit (DatumGetBitString E value)),
        w.Matches (.plain .BIT) := by
      intro w hw
      obtain ⟨x, -, rfl⟩ := List.mem_map.1 hw
      exact rfl
    obtain ⟨i, hi⟩ := List.getElem?_of_mem hvalue
    obtain ⟨w, hw, hel⟩ := (h _ (convertRows_eq_ok_iff.2 ⟨_, hws, rfl⟩)).1 i value hi
    have hread := @writeRows_elementAt _ .new _ i 0 _ hmatch (by rw [List.getElem?_map, hi]; rfl)
    rw [Nat.zero_add, hel, Written.readBack] at hread
    split at hread
    next hle => exact hle
    next => cases hread
  · intro hshort result hresult
    obtain ⟨ws, hws, rfl⟩ := convertRows_eq_ok_iff.1 hresult
    have hmatch : ∀ w ∈ ws, w.Matches type := by
      intro w hw
      obtain ⟨value, hc⟩ := forall₂_mem_right hws hw
      exact convert_matches hc hid
    refine ⟨fun i value hi => ?_, fun a ha => ?_⟩
    · obtain ⟨w, hw, hc⟩ := forall₂_getElem? hws hi
      have hread := @writeRows_elementAt _ .new _ i 0 _ hmatch hw
      rw [Nat.zero_add] at hread
      refine ⟨w, hc, hread.trans ?_⟩
      have hwm := hmatch w (List.mem_of_getElem? hw)
      cases w with
      | plain memory => rw [Written.readBack, Written.element, List.take_of_length_le (Nat.le_of_eq hwm.1)]
      | added text => rfl
      | temporary text =>
        obtain ⟨hbit, rfl⟩ := convert_temporary hc
        exact if_pos (hshort hbit value (List.mem_of_getElem? hi))
    · rw [hws.length_eq] at ha
      refine writeRows_memory (fun w hw => (hmatch w hw).size_eq) (.inr ?_)
      rwa [Nat.zero_add]

/-- `TINYINT`: the second byte of the last row is behind the vector. -/
theorem rowsApart_tinyint : RowsApart E attr_type (.plain .TINYINT) values ↔ values = [] := by
  constructor
  · intro h
    by_contra hne
    have hws : List.Forall₂ (fun value w => convert E attr_type (.plain .TINYINT) value = .ok w) values
        (values.map fun value => .plain (bytes 2 value.GetInt16.toNat)) := by
      rw [List.forall₂_map_right_iff, List.forall₂_same]
      exact fun value _ => rfl
    obtain ⟨front, last, rfl⟩ : ∃ front last, values = front ++ [last] :=
      ⟨_, _, (List.dropLast_append_getLast hne).symm⟩
    have hbehind := (h _ (convertRows_eq_ok_iff.2 ⟨_, hws, rfl⟩)).2 (2 * front.length + 1) (by
      show 1 * (front ++ [last]).length ≤ _
      rw [List.length_append, List.length_singleton]
      omega)
    have hwritten : ∀ (ws : List Written) (w : Written) (vec : Vector) (offset : ℕ),
        writeRows (ws ++ [w]) vec offset = w.write (writeRows ws vec offset) (offset + ws.length) := by
      intro ws w
      induction ws with
      | nil => exact fun _ _ => rfl
      | cons x ws ih =>
        intro vec offset
        rw [List.cons_append, writeRows, ih, writeRows, List.length_cons]
        congr 1
        omega
    rw [List.map_append, List.map_singleton, hwritten, List.length_map, Nat.zero_add] at hbehind
    have hlast : 1 < (Written.plain (bytes 2 last.GetInt16.toNat)).size := by
      rw [Written.size, length_bytes]
      exact Nat.one_lt_two
    have hmem := @write_memory (writeRows (front.map fun value => .plain (bytes 2 value.GetInt16.toNat)) .new 0) _
      1 front.length hlast
    rw [show (Written.plain (bytes 2 last.GetInt16.toNat)).size = 2 from length_bytes] at hmem hlast
    rw [hbehind] at hmem
    exact absurd (List.getElem?_eq_none_iff.1 hmem.symm) (by rw [Written.length_image]; exact Nat.not_le.2 hlast)
  · rintro rfl result h
    cases h
    refine ⟨fun i value hi => ?_, fun _ _ => rfl⟩
    cases hi

end

/-- In a vector of scalars each row is what its own value was converted to, whatever the other rows are, exactly if no
value has two bytes in a cell of one or is left in a temporary. -/
theorem ConvertPostgresToDuckValue_rowsApart_iff (E : External) (S : Session) (attr_type atttypid typoid : Oid)
    (type_modifier : BitVec 32) (values : List Datum) :
    let type := ConvertPostgresToBaseDuckColumnType S atttypid typoid type_modifier
    RowsApart E attr_type type values ↔
      (type.id = .TINYINT → values = []) ∧
      (type.id = .BIT → ∀ value ∈ values,
        (E.ToBit (DatumGetBitString E value)).length ≤ string_t.INLINE_LENGTH) := by
  intro type
  by_cases hid : type.id = .TINYINT
  · have htype := type_eq_of_id (.inr hid)
    rw [hid] at htype
    have hne : (LogicalType.plain .TINYINT).id ≠ .BIT := by decide
    rw [htype, rowsApart_tinyint]
    exact ⟨fun h => ⟨fun _ => h, fun hbit => absurd hbit hne⟩, fun h => h.1 rfl⟩
  · rw [rowsApart_iff hid]
    exact ⟨fun h => ⟨fun ht => absurd ht hid, h⟩, fun h => h.2⟩

/-- The bits of a byte as a text, the highest one first. -/
def bitText (b : UInt8) : List UInt8 := (List.range 8).map fun k => if b.toNat.testBit (7 - k) then 49 else 48

/-- The byte that has eight zeros and ones for its bits. -/
def textByte (text : List UInt8) : UInt8 := .ofNat (text.foldl (fun n c => 2 * n + if c = 49 then 1 else 0) 0)

/-- The functions of the two systems. What a `jsonb` or a `double` is converted to plays no part below. -/
def runtime : External where
  headers := Types.headers
  JsonbToCString := fun data => data
  VarbitToString := fun data => ((data.drop 4).flatMap bitText).take (word (data.take 4))
  StringIsValid := fun text => ByteArray.validateUTF8 ⟨text.toArray⟩
  ToBit := fun text =>
    let padding := (8 - text.length % 8) % 8
    let bits := List.replicate padding 49 ++ text
    .ofNat padding :: (List.range (bits.length / 8)).map fun i => textByte ((bits.drop (8 * i)).take 8)
  encode_micros := fun micros => micros <<< 24
  encode_offset := fun offset => 57599 - offset.signExtend 64
  ConvertDecimalDouble := fun _ => .ok 0

/-- A session with the default settings. -/
def session : Session where
  duckdb_convert_unsupported_numeric_to_double := false
  DuckdbUnionOid := 20001
  DuckdbStructOid := 20002
  DuckdbMapOid := 20003
  DuckdbUnionArrayOid := 20004
  DuckdbStructArrayOid := 20005
  DuckdbMapArrayOid := 20006

/-- Two rows `'a'` and `'b'` of type `"char"` take four bytes. -/
theorem chars_not_apart :
    ¬RowsApart runtime CHAROID (ConvertPostgresToBaseDuckColumnType session CHAROID CHAROID (-1))
      [.word 97, .word 98] := by
  have htype : ConvertPostgresToBaseDuckColumnType session CHAROID CHAROID (-1) = .plain .TINYINT := rfl
  rw [htype, rowsApart_tinyint]
  exact List.cons_ne_nil _ _

end PgDuckdb.Scalars
