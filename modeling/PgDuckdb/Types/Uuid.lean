import Mathlib
import PgDuckdb.Lib.Bytes

/-!
# UUIDs

Postgres keeps a uuid as sixteen bytes and orders uuids with `memcmp`. DuckDB keeps it as a signed integer
of 128 bits. `DatumGetUUID` reverses the bytes into the integer and flips the top bit, `ConvertUUIDDatum`
does the same the other way. Read as numbers, a uuid is what its bytes spell in base 256 and the integer is
that number less `2 ^ 127` (`value_DatumGetUUID`), so each order is the other.
-/

namespace PgDuckdb.Types

open Lib.Positional Lib.Bytes

/-- The bytes of a UUID. -/
def UUID_LEN : ℕ := 16

/-- A UUID of Postgres. -/
structure pg_uuid_t where
  data : List UInt8
  length_data : data.length = UUID_LEN

/-- UUIDs with the same bytes are the same. -/
@[ext] theorem pg_uuid_t.ext {a b : pg_uuid_t} (h : a.data = b.data) : a = b := by
  cases a
  cases b
  cases h
  rfl

/-- The two halves of a signed integer of 128 bits. -/
@[ext] structure hugeint_t where
  lower : BitVec 64
  upper : BitVec 64
  deriving DecidableEq

namespace hugeint_t

/-- The number that the halves stand for: `upper` is signed, `lower` is not. -/
def value (h : hugeint_t) : ℤ := h.upper.toInt * 2 ^ 64 + h.lower.toNat

/-- The integer in memory, on a machine that keeps the least significant byte first. -/
def memory (h : hugeint_t) : List UInt8 := bytes 8 h.lower.toNat ++ bytes 8 h.upper.toNat

/-- The words of sixteen bytes, the lower one first. -/
def ofMemory (bs : List UInt8) : hugeint_t where
  lower := .ofNat 64 (word (bs.take 8))
  upper := .ofNat 64 (word (bs.drop 8))

/-- `duck_uuid.upper ^= (uint64_t(1) << 63)`. -/
def flipTop (h : hugeint_t) : hugeint_t := { h with upper := h.upper ^^^ (1 <<< 63) }

end hugeint_t

/-- The bytes of `duck_uuid` have no defined value before the loop. Every one is assigned. -/
def DatumGetUUID (value : pg_uuid_t) : hugeint_t :=
  let duck_uuid := fill UUID_LEN (fun i => UUID_LEN - 1 - i) (fun i => value.data.getD i 0)
    (List.replicate UUID_LEN 0)
  (hugeint_t.ofMemory duck_uuid).flipTop

/-- The bytes of a number, the highest one first. -/
def ConvertUUIDDatum (value : hugeint_t) : pg_uuid_t :=
  let uuid_bytes := value.flipTop.memory
  { data := fill UUID_LEN (fun i => i) (fun i => uuid_bytes.getD (UUID_LEN - 1 - i) 0)
      (List.replicate UUID_LEN 0)
    length_data := by rw [length_fill, List.length_replicate] }

namespace hugeint_t

variable {h : hugeint_t} {bs : List UInt8}

@[simp] theorem flipTop_flipTop : h.flipTop.flipTop = h := by
  ext1
  · rfl
  · rw [flipTop, flipTop, BitVec.xor_assoc, BitVec.xor_self, BitVec.xor_zero]

@[simp] theorem length_memory : h.memory.length = UUID_LEN := by
  rw [memory, List.length_append, length_bytes, length_bytes, UUID_LEN]

@[simp] theorem ofMemory_memory : ofMemory h.memory = h := by
  have hl : h.lower.toNat < 256 ^ 8 := by
    have := h.lower.isLt
    omega
  have hu : h.upper.toNat < 256 ^ 8 := by
    have := h.upper.isLt
    omega
  ext1
  · rw [ofMemory, memory, List.take_left' length_bytes, word_bytes hl, BitVec.ofNat_toNat,
      BitVec.setWidth_eq]
  · rw [ofMemory, memory, List.drop_left' length_bytes, word_bytes hu, BitVec.ofNat_toNat,
      BitVec.setWidth_eq]

/-- The lower word has eight bytes. -/
theorem length_take (hb : bs.length = UUID_LEN) : (bs.take 8).length = 8 := by
  rw [List.length_take, hb]
  rfl

/-- So has the upper one. -/
theorem length_drop (hb : bs.length = UUID_LEN) : (bs.drop 8).length = 8 := by
  rw [List.length_drop, hb]
  rfl

/-- The lower word fits 64 bits. -/
theorem word_take_lt (hb : bs.length = UUID_LEN) : word (bs.take 8) < 2 ^ 64 := by
  have := @word_lt (bs.take 8)
  rw [length_take hb] at this
  omega

/-- The upper word fits 64 bits. -/
theorem word_drop_lt (hb : bs.length = UUID_LEN) : word (bs.drop 8) < 2 ^ 64 := by
  have := @word_lt (bs.drop 8)
  rw [length_drop hb] at this
  omega

/-- The bytes of the words are those that were read. -/
theorem memory_ofMemory (hb : bs.length = UUID_LEN) : (ofMemory bs).memory = bs := by
  have h₁ := @bytes_word (bs.take 8)
  have h₂ := @bytes_word (bs.drop 8)
  rw [length_take hb] at h₁
  rw [length_drop hb] at h₂
  rw [memory, ofMemory, BitVec.toNat_ofNat, BitVec.toNat_ofNat, Nat.mod_eq_of_lt (word_take_lt hb),
    Nat.mod_eq_of_lt (word_drop_lt hb), h₁, h₂, List.take_append_drop]

/-- With the top bit flipped, what was read without a sign is read with one, around the middle. -/
theorem toInt_flipTop : h.flipTop.upper.toInt = h.upper.toNat - 2 ^ 63 := by
  have hx := h.upper.isLt
  have hm : h.flipTop.upper.toNat % 2 ^ 63 = h.upper.toNat % 2 ^ 63 := by
    rw [flipTop, BitVec.toNat_xor, Nat.xor_mod_two_pow]
    exact Nat.xor_zero _
  have hd : h.flipTop.upper.toNat / 2 ^ 63 = h.upper.toNat / 2 ^ 63 ^^^ 1 := by
    rw [flipTop, BitVec.toNat_xor, Nat.xor_div_two_pow]
    rfl
  have hb : h.upper.toNat / 2 ^ 63 = 0 ∨ h.upper.toNat / 2 ^ 63 = 1 := by omega
  rw [BitVec.toInt_eq_toNat_cond]
  rcases hb with hb | hb
  · rw [hb] at hd
    have hd : h.flipTop.upper.toNat / 2 ^ 63 = 1 := hd
    rw [if_neg (by omega)]
    omega
  · rw [hb] at hd
    have hd : h.flipTop.upper.toNat / 2 ^ 63 = 0 := hd
    rw [if_pos (by omega)]
    omega

/-- With its top bit flipped a number is the unsigned one, moved down by half the range. -/
theorem value_flipTop_ofMemory (hb : bs.length = UUID_LEN) :
    (ofMemory bs).flipTop.value = word bs - 2 ^ 127 := by
  have hw : word bs = word (bs.take 8) + 256 ^ 8 * word (bs.drop 8) := by
    conv_lhs => rw [← List.take_append_drop 8 bs]
    rw [word_append, length_take hb]
  have hl : (ofMemory bs).flipTop.lower.toNat = word (bs.take 8) :=
    (BitVec.toNat_ofNat _ _).trans (Nat.mod_eq_of_lt (word_take_lt hb))
  have hu : (ofMemory bs).upper.toNat = word (bs.drop 8) :=
    (BitVec.toNat_ofNat _ _).trans (Nat.mod_eq_of_lt (word_drop_lt hb))
  rw [value, toInt_flipTop, hl, hu, hw]
  push_cast
  ring

/-- Sixteen bytes in two's complement. -/
theorem value_bounds : -2 ^ 127 ≤ h.value ∧ h.value < 2 ^ 127 := by
  have hl := h.lower.isLt
  have hu := @BitVec.toInt_lt _ h.upper
  have hu' := @BitVec.le_toInt _ h.upper
  rw [value]
  constructor <;> omega

/-- Numbers with the same value are the same. -/
theorem value_injective : Function.Injective value := by
  intro a b hab
  have ha := a.lower.isLt
  have hb := b.lower.isLt
  rw [value, value] at hab
  ext1
  · exact BitVec.eq_of_toNat_eq (by omega)
  · exact BitVec.eq_of_toInt_eq (by omega)

end hugeint_t

section
variable {a b u : pg_uuid_t} {h : hugeint_t}

/-- What is read are the reversed bytes, with the top bit flipped. -/
theorem DatumGetUUID_eq : DatumGetUUID u = (hugeint_t.ofMemory u.data.reverse).flipTop := by
  rw [DatumGetUUID, fill_back u.length_data List.length_replicate]

/-- What is written are the reversed bytes of it. -/
theorem data_ConvertUUIDDatum : (ConvertUUIDDatum h).data = h.flipTop.memory.reverse := by
  rw [ConvertUUIDDatum]
  dsimp only
  rw [fill_front hugeint_t.length_memory List.length_replicate]

/-- Reversing keeps the number of bytes. -/
theorem length_reverse_data : u.data.reverse.length = UUID_LEN := by
  rw [List.length_reverse, u.length_data]

/-- The integer is the number that the bytes of the uuid spell, moved down to be signed. -/
theorem value_DatumGetUUID : (DatumGetUUID u).value = number 256 (digits u.data) - 2 ^ 127 := by
  rw [DatumGetUUID_eq, hugeint_t.value_flipTop_ofMemory length_reverse_data, word_reverse]

/-- A UUID comes back from DuckDB as it was. -/
theorem ConvertUUIDDatum_DatumGetUUID : ConvertUUIDDatum (DatumGetUUID u) = u := by
  ext1
  rw [data_ConvertUUIDDatum, DatumGetUUID_eq, hugeint_t.flipTop_flipTop,
    hugeint_t.memory_ofMemory length_reverse_data, List.reverse_reverse]

/-- And so does a number from Postgres. -/
theorem DatumGetUUID_ConvertUUIDDatum : DatumGetUUID (ConvertUUIDDatum h) = h := by
  rw [DatumGetUUID_eq, data_ConvertUUIDDatum, List.reverse_reverse, hugeint_t.ofMemory_memory,
    hugeint_t.flipTop_flipTop]

/-- The order of the bytes is the order of the numbers. -/
theorem memcmp_lt_iff : memcmp a.data b.data < 0 ↔ (DatumGetUUID a).value < (DatumGetUUID b).value := by
  rw [memcmp_neg (a.length_data.trans b.length_data.symm), value_DatumGetUUID, value_DatumGetUUID]
  omega

end

/-! ## The two orders -/

/-- The order of Postgres. -/
instance : LT pg_uuid_t := ⟨fun a b => memcmp a.data b.data < 0⟩

/-- The order of DuckDB. -/
instance : LT hugeint_t := ⟨fun a b => a.value < b.value⟩

/-- The conversions as a bijection that both orders are carried along by. -/
def uuidOrder : ((· < ·) : pg_uuid_t → pg_uuid_t → Prop) ≃r ((· < ·) : hugeint_t → hugeint_t → Prop) where
  toFun := DatumGetUUID
  invFun := ConvertUUIDDatum
  left_inv _ := ConvertUUIDDatum_DatumGetUUID
  right_inv _ := DatumGetUUID_ConvertUUIDDatum
  map_rel_iff' := memcmp_lt_iff.symm

/-- Every signed integer of 128 bits is that of exactly one uuid. -/
theorem exists_uuid_of_value {x : ℤ} (hl : -2 ^ 127 ≤ x) (hu : x < 2 ^ 127) :
    ∃ u, (DatumGetUUID u).value = x := by
  refine ⟨ConvertUUIDDatum ⟨.ofInt 64 (x % 2 ^ 64), .ofInt 64 (x / 2 ^ 64)⟩, ?_⟩
  rw [DatumGetUUID_ConvertUUIDDatum, hugeint_t.value]
  have hl' : ((BitVec.ofInt 64 (x % 2 ^ 64)).toNat : ℤ) = x % 2 ^ 64 := by
    rw [BitVec.toNat_ofInt]
    omega
  have hu' : (BitVec.ofInt 64 (x / 2 ^ 64)).toInt = x / 2 ^ 64 := by
    rw [BitVec.toInt_ofInt, Int.bmod_eq_of_le] <;> omega
  rw [hl', hu']
  omega

/-- UUIDs and numbers of 128 bits are the same in two ways that undo each other, every number is met, and the order of
Postgres is that of the numbers. -/
theorem DatumGetUUID_orderIso :
    Function.Bijective DatumGetUUID ∧
    Function.LeftInverse ConvertUUIDDatum DatumGetUUID ∧
    Function.RightInverse ConvertUUIDDatum DatumGetUUID ∧
    Set.BijOn (fun u => (DatumGetUUID u).value) Set.univ (Set.Ico (-2 ^ 127) (2 ^ 127)) ∧
    ∀ a b : pg_uuid_t, memcmp a.data b.data < 0 ↔ (DatumGetUUID a).value < (DatumGetUUID b).value := by
  refine ⟨uuidOrder.bijective, uuidOrder.left_inv, uuidOrder.right_inv, ⟨?_, ?_, ?_⟩, fun _ _ => memcmp_lt_iff⟩
  · exact fun _ _ => hugeint_t.value_bounds
  · exact (hugeint_t.value_injective.comp uuidOrder.injective).injOn
  · rintro x ⟨hl, hu⟩
    obtain ⟨u, hx⟩ := exists_uuid_of_value hl hu
    exact ⟨u, trivial, hx⟩

end PgDuckdb.Types
