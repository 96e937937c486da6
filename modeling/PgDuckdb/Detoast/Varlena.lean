import Mathlib.Tactic.Common
import PgDuckdb.Lib.Bytes
import PgDuckdb.Lib.Heap

/-!
# Varlena headers

The macros of `varatt.h` on the bytes of a datum, on a machine that is little-endian. The low two bits of the
first byte tell the forms apart: a plain datum and a compressed one have a header of four bytes, a short one has
a header of one byte, and a first byte of 1 is an external datum, whose second byte says of what kind.
-/

namespace PgDuckdb.Detoast

open Lib Lib.Bytes

/-- The bytes of a full header. -/
def VARHDRSZ : ℕ := 4

/-- The bytes of a short header. -/
def VARHDRSZ_SHORT : ℕ := 1

/-- The bytes before an external pointer. -/
def VARHDRSZ_EXTERNAL : ℕ := 2

/-- The bytes before compressed data. -/
def VARHDRSZ_COMPRESSED : ℕ := 8

/-- The number of the method pglz. -/
def TOAST_PGLZ_COMPRESSION_ID : ℕ := 0

/-- The number of the method lz4. -/
def TOAST_LZ4_COMPRESSION_ID : ℕ := 1

/-- The tag of an indirect pointer. -/
def VARTAG_INDIRECT : ℕ := 1

/-- The tag of a pointer to a read-only expanded object. -/
def VARTAG_EXPANDED_RO : ℕ := 2

/-- The tag of a pointer to a value on disk. -/
def VARTAG_ONDISK : ℕ := 18

/-! ## The forms -/

section
variable (attr : List UInt8)

/-- The byte at an offset. -/
def byteAt (offset : ℕ) : ℕ := (attr.getD offset 0).toNat

/-- The number in the four bytes at an offset. -/
def uint32At (offset : ℕ) : ℕ := word ((attr.drop offset).take 4)

/-- A full header, not compressed. -/
def VARATT_IS_4B_U : Bool := byteAt attr 0 % 4 == 0

/-- `VARATT_IS_COMPRESSED`. -/
def VARATT_IS_COMPRESSED : Bool := byteAt attr 0 % 4 == 2

/-- `VARATT_IS_SHORT`, which external datums satisfy too. -/
def VARATT_IS_SHORT : Bool := byteAt attr 0 % 2 == 1

/-- A pointer out of line. -/
def VARATT_IS_EXTERNAL : Bool := byteAt attr 0 == 1

/-- The tag of a pointer, its second byte. -/
def VARTAG_EXTERNAL : ℕ := byteAt attr 1

/-- A pointer to a value on disk. -/
def VARATT_IS_EXTERNAL_ONDISK : Bool := VARATT_IS_EXTERNAL attr && VARTAG_EXTERNAL attr == VARTAG_ONDISK

/-- A pointer to another value in memory. -/
def VARATT_IS_EXTERNAL_INDIRECT : Bool := VARATT_IS_EXTERNAL attr && VARTAG_EXTERNAL attr == VARTAG_INDIRECT

/-- Read only or not. -/
def VARATT_IS_EXTERNAL_EXPANDED : Bool :=
  VARATT_IS_EXTERNAL attr && VARTAG_EXTERNAL attr / 2 * 2 == VARTAG_EXPANDED_RO

/-! ## Sizes and data -/

/-- The length that a full header states, itself included. -/
def VARSIZE : ℕ := uint32At attr 0 / 4 % 2 ^ 30

/-- The bytes after a full header. -/
def VARDATA : List UInt8 := (attr.drop VARHDRSZ).take (VARSIZE attr - VARHDRSZ)

/-- The length that a short header states, itself included. -/
def VARSIZE_SHORT : ℕ := byteAt attr 0 / 2

/-- The bytes after a short header. -/
def VARDATA_SHORT : List UInt8 := (attr.drop VARHDRSZ_SHORT).take (VARSIZE_SHORT attr - VARHDRSZ_SHORT)

/-- The size that the payload has when it is decompressed. -/
def VARDATA_COMPRESSED_GET_EXTSIZE : ℕ := uint32At attr 4 % 2 ^ 30

/-- The method of compressed data, in the two high bits of its size word. -/
def TOAST_COMPRESS_METHOD : ℕ := uint32At attr 4 / 2 ^ 30

/-- What the decompression functions are given. -/
def compressedData : List UInt8 := (attr.drop VARHDRSZ_COMPRESSED).take (VARSIZE attr - VARHDRSZ_COMPRESSED)

/-- The header of a plain datum of `len` bytes. -/
def SET_VARSIZE (len : ℕ) : List UInt8 := bytes 4 (len * 4)

/-- The header of a compressed datum of `len` bytes. -/
def SET_VARSIZE_COMPRESSED (len : ℕ) : List UInt8 := bytes 4 (len * 4 + 2)

/-! ## External datums -/

/-- The pointer to a value on disk. -/
structure varatt_external where
  va_rawsize : ℕ
  va_extinfo : ℕ
  va_valueid : ℕ
  va_toastrelid : ℕ
  deriving DecidableEq, Repr

/-- `VARATT_EXTERNAL_GET_POINTER` of an on-disk datum. -/
def toastPointer : varatt_external where
  va_rawsize := uint32At attr 2
  va_extinfo := uint32At attr 6
  va_valueid := uint32At attr 10
  va_toastrelid := uint32At attr 14

/-- `VARATT_EXTERNAL_GET_POINTER` of an indirect datum, whose only field is a pointer, and `DatumGetEOHP` of an
expanded one. -/
def pointerOf : Addr := word ((attr.drop VARHDRSZ_EXTERNAL).take 8)

/-- The whole datum. -/
def VARSIZE_ANY : ℕ :=
  if VARATT_IS_EXTERNAL attr then
    VARHDRSZ_EXTERNAL + if VARTAG_EXTERNAL attr = VARTAG_ONDISK then 16 else 8
  else if VARATT_IS_SHORT attr then VARSIZE_SHORT attr
  else VARSIZE attr

end

namespace varatt_external

variable (toast_pointer : varatt_external)

/-- The length of the value as it is stored. -/
def VARATT_EXTERNAL_GET_EXTSIZE : ℕ := toast_pointer.va_extinfo % 2 ^ 30

/-- The method of a compressed value on disk. -/
def VARATT_EXTERNAL_GET_COMPRESS_METHOD : ℕ := toast_pointer.va_extinfo / 2 ^ 30

/-- The subtraction is made in 32 bits, and the comparison without a sign. -/
def VARATT_EXTERNAL_IS_COMPRESSED : Bool :=
  toast_pointer.VARATT_EXTERNAL_GET_EXTSIZE < (toast_pointer.va_rawsize + 2 ^ 32 - VARHDRSZ) % 2 ^ 32

end varatt_external

/-! ## Headers that are set -/

section
variable {len : ℕ} {data : List UInt8}

/-- The word at the front reads back. -/
theorem uint32At_bytes {x : ℕ} (hx : x < 2 ^ 32) : uint32At (bytes 4 x ++ data) 0 = x := by
  have htake : (bytes 4 x ++ data).take 4 = bytes 4 x := List.take_left' length_bytes
  rw [uint32At, List.drop_zero, htake, word_bytes (by omega)]

/-- The byte at the front is the low byte of the word. -/
theorem byteAt_bytes {x : ℕ} : byteAt (bytes 4 x ++ data) 0 = x % 256 := UInt8.toNat_ofNat'

/-- What `SET_VARSIZE` makes is plain and as long as it says. -/
theorem SET_VARSIZE_plain : VARATT_IS_4B_U (SET_VARSIZE len ++ data) = true := by
  rw [VARATT_IS_4B_U, SET_VARSIZE, byteAt_bytes, beq_iff_eq]
  omega

/-- The length that was set reads back. -/
theorem VARSIZE_SET_VARSIZE (h : len < 2 ^ 30) : VARSIZE (SET_VARSIZE len ++ data) = len := by
  rw [VARSIZE, SET_VARSIZE, uint32At_bytes (by omega)]
  omega

/-- A full header is not a compressed one. -/
theorem SET_VARSIZE_not_compressed : VARATT_IS_COMPRESSED (SET_VARSIZE len ++ data) = false := by
  rw [VARATT_IS_COMPRESSED, SET_VARSIZE, byteAt_bytes, beq_eq_false_iff_ne]
  omega

/-- A compressed header is a compressed one. -/
theorem SET_VARSIZE_COMPRESSED_compressed :
    VARATT_IS_COMPRESSED (SET_VARSIZE_COMPRESSED len ++ data) = true := by
  rw [VARATT_IS_COMPRESSED, SET_VARSIZE_COMPRESSED, byteAt_bytes, beq_iff_eq]
  omega

end

/-! ## Plain datums -/

/-- A plain datum with this payload is at the start of the bytes. -/
structure Plain (attr payload : List UInt8) : Prop where
  plain : VARATT_IS_4B_U attr = true
  header : VARHDRSZ ≤ VARSIZE attr
  inside : VARSIZE attr ≤ attr.length
  payload : VARDATA attr = payload

/-- A payload behind its full header is a plain value, whatever follows it. -/
theorem Plain.mk_append {payload rest : List UInt8} (h : payload.length + VARHDRSZ < 2 ^ 30) :
    Plain (SET_VARSIZE (payload.length + VARHDRSZ) ++ (payload ++ rest)) payload where
  plain := SET_VARSIZE_plain
  header := by
    rw [VARSIZE_SET_VARSIZE h]
    exact Nat.le_add_left ..
  inside := by
    rw [VARSIZE_SET_VARSIZE h, List.length_append, List.length_append, SET_VARSIZE, length_bytes, VARHDRSZ]
    omega
  payload := by
    have hlen : (SET_VARSIZE (payload.length + VARHDRSZ)).length = VARHDRSZ := length_bytes
    rw [VARDATA, VARSIZE_SET_VARSIZE h, Nat.add_sub_cancel, List.drop_left' hlen, List.take_left]

/-- A plain datum has no other form. -/
theorem Plain.forms {attr payload : List UInt8} (h : Plain attr payload) :
    VARATT_IS_EXTERNAL attr = false ∧ VARATT_IS_COMPRESSED attr = false ∧ VARATT_IS_SHORT attr = false := by
  have hplain := h.plain
  rw [VARATT_IS_4B_U, beq_iff_eq] at hplain
  simp only [VARATT_IS_EXTERNAL, VARATT_IS_COMPRESSED, VARATT_IS_SHORT, beq_eq_false_iff_ne]
  omega

end PgDuckdb.Detoast
