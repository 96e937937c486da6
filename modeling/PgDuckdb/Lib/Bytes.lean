import Mathlib.Data.List.Basic
import PgDuckdb.Lib.Positional

/-!
# Byte strings

A machine word in memory is its bytes with the least significant first (`word`, `bytes`). The same bytes
read from the other end are a number in positional notation, and it is that number which `memcmp`
compares (`memcmp_neg`). Loops that assign one byte in each round are `fill`.
-/

namespace PgDuckdb.Lib.Bytes

open Positional

/-! ## Words in memory -/

section
variable {n x : ℕ} {bs cs : List UInt8}

/-- The number that the bytes hold, least significant byte first. -/
def word : List UInt8 → ℕ
  | [] => 0
  | b :: bs => b.toNat + 256 * word bs

/-- The low `n` bytes of a number, least significant byte first. -/
def bytes : ℕ → ℕ → List UInt8
  | 0, _ => []
  | n + 1, x => .ofNat x :: bytes n (x / 256)

@[simp] theorem length_bytes : (bytes n x).length = n := by
  induction n generalizing x with
  | zero => rfl
  | succ n ih => rw [bytes, List.length_cons, ih]

/-- A word of `n` bytes is below 2⁸ⁿ. -/
theorem word_lt : word bs < 256 ^ bs.length := by
  induction bs with
  | nil => exact Nat.one_pos
  | cons b bs ih =>
    have hb := b.toNat_lt
    rw [word, List.length_cons, pow_succ]
    omega

/-- The bytes of a word, read back. -/
theorem word_bytes (h : x < 256 ^ n) : word (bytes n x) = x := by
  induction n generalizing x with
  | zero =>
    have hx : x = 0 := by simpa using h
    rw [hx, bytes, word]
  | succ n ih =>
    have hd : x / 256 < 256 ^ n := by
      rw [pow_succ] at h
      omega
    rw [bytes, word, ih hd, UInt8.toNat_ofNat']
    omega

/-- Different words have different bytes. -/
theorem bytes_inj {y : ℕ} (hx : x < 256 ^ n) (hy : y < 256 ^ n) : bytes n x = bytes n y ↔ x = y := by
  constructor
  · intro h
    rw [← word_bytes hx, h, word_bytes hy]
  · exact congrArg _

/-- The word of bytes, written out. -/
theorem bytes_word : bytes bs.length (word bs) = bs := by
  induction bs with
  | nil => rfl
  | cons b bs ih =>
    have hb := b.toNat_lt
    have hd : (b.toNat + 256 * word bs) / 256 = word bs := by omega
    have hm : UInt8.ofNat (b.toNat + 256 * word bs) = b := by
      apply UInt8.toNat_inj.1
      rw [UInt8.toNat_ofNat']
      omega
    rw [List.length_cons, word, bytes, hd, hm, ih]

/-- A word of two parts. -/
theorem word_append : word (bs ++ cs) = word bs + 256 ^ bs.length * word cs := by
  induction bs with
  | nil => simp [word]
  | cons b bs ih =>
    rw [List.cons_append, word, word, ih, List.length_cons, pow_succ]
    ring

/-- The bytes as digits. -/
def digits (bs : List UInt8) : List ℤ := bs.map fun b => (b.toNat : ℤ)

/-- The digits of bytes are digits. -/
theorem proper_digits : Proper 256 (digits bs) := by
  intro d hd
  obtain ⟨b, -, rfl⟩ := List.mem_map.1 hd
  have hb := b.toNat_lt
  omega

/-- Read from the other end, a word is a number in base 256. -/
theorem word_reverse : (word bs.reverse : ℤ) = number 256 (digits bs) := by
  induction bs with
  | nil => rfl
  | cons b bs ih =>
    rw [List.reverse_cons, word_append, digits, List.map_cons, number_cons, ← digits, ← ih, digits,
      List.length_map, List.length_reverse, word, word]
    push_cast
    ring

end

/-! ## Comparing -/

section
variable {as bs : List UInt8}

/-- Negative, zero or positive as the first byte that differs says. -/
def memcmp : List UInt8 → List UInt8 → ℤ
  | a :: as, b :: bs => if a = b then memcmp as bs else (a.toNat : ℤ) - b.toNat
  | _, _ => 0

/-- Of two strings of one length, the one that compares less spells the smaller number. -/
theorem memcmp_neg (h : as.length = bs.length) :
    memcmp as bs < 0 ↔ number 256 (digits as) < number 256 (digits bs) := by
  induction as generalizing bs with
  | nil =>
    cases bs with
    | nil => simp [memcmp]
    | cons b bs => cases h
  | cons a as ih =>
    cases bs with
    | nil => cases h
    | cons b bs =>
      have hl : as.length = bs.length := by simpa using h
      obtain ⟨ha₀, ha⟩ := number_bounds (@proper_digits as)
      obtain ⟨hb₀, hb⟩ := number_bounds (@proper_digits bs)
      have hda : digits (a :: as) = (a.toNat : ℤ) :: digits as := rfl
      have hdb : digits (b :: bs) = (b.toNat : ℤ) :: digits bs := rfl
      have hla : (digits as).length = bs.length := by rw [digits, List.length_map, hl]
      have hlb : (digits bs).length = bs.length := by rw [digits, List.length_map]
      rw [hla] at ha
      rw [hlb] at hb
      rw [hda, hdb, number_cons, number_cons, hla, hlb, memcmp]
      split
      next hab =>
        rw [hab, ih hl]
        omega
      next hab =>
        have hne : a.toNat ≠ b.toNat := fun he => hab (UInt8.toNat_inj.1 he)
        set p : ℤ := 256 ^ bs.length
        constructor
        · intro hlt
          have : (a.toNat + 1 : ℤ) * p ≤ b.toNat * p :=
            mul_le_mul_of_nonneg_right (by omega) (by omega)
          rw [add_mul] at this
          omega
        · intro hlt
          by_contra hge
          have : (b.toNat + 1 : ℤ) * p ≤ a.toNat * p :=
            mul_le_mul_of_nonneg_right (by omega) (by omega)
          rw [add_mul] at this
          omega

end

/-! ## Loops that assign -/

section
variable {n : ℕ} {f : ℕ → UInt8} {g : ℕ → ℕ} {dst src : List UInt8}

/-- `for i < n do dst[g i] := f i`. -/
def fill (n : ℕ) (g : ℕ → ℕ) (f : ℕ → UInt8) (dst : List UInt8) : List UInt8 :=
  (List.range n).foldl (fun dst i => dst.set (g i) (f i)) dst

/-- A loop from one number of turns to the next. -/
theorem fill_succ : fill (n + 1) g f dst = (fill n g f dst).set (g n) (f n) := by
  rw [fill, List.range_succ, List.foldl_append]
  rfl

@[simp] theorem length_fill : (fill n g f dst).length = dst.length := by
  induction n with
  | zero => rfl
  | succ n ih => rw [fill_succ, List.length_set, ih]

/-- Where no two rounds assign the same place, each place holds what its round assigned. -/
theorem getElem?_fill (hg : ∀ i < n, ∀ j < n, g i = g j → i = j) {i : ℕ} (hi : i < n)
    (hd : g i < dst.length) : (fill n g f dst)[g i]? = some (f i) := by
  induction n with
  | zero => omega
  | succ n ih =>
    rw [fill_succ]
    rcases Nat.lt_succ_iff_lt_or_eq.1 hi with hlt | rfl
    · have hne : g n ≠ g i := fun h => by
        have := hg n (by omega) i hi h
        omega
      rw [List.getElem?_set_ne hne]
      exact ih (fun a ha b hb => hg a (by omega) b (by omega)) hlt
    · rw [List.getElem?_set_self]
      simpa using hd

/-- Filling from the back with what is read from the front reverses. -/
theorem fill_back (hs : src.length = n) (hd : dst.length = n) :
    fill n (fun i => n - 1 - i) (fun i => src.getD i 0) dst = src.reverse := by
  apply List.ext_getElem?
  intro j
  rcases Nat.lt_or_ge j n with hj | hj
  · have hj' : n - 1 - (n - 1 - j) = j := by omega
    have h := @getElem?_fill n (fun i => src.getD i 0) (fun i => n - 1 - i) dst
      (fun a ha b hb hab => by omega) (n - 1 - j) (by omega) (by omega)
    rw [hj'] at h
    rw [h, List.getElem?_reverse (by omega), hs, List.getD_eq_getElem?_getD,
      List.getElem?_eq_getElem (by omega), Option.getD_some]
  · rw [List.getElem?_eq_none (by simp; omega), List.getElem?_eq_none (by simp; omega)]

/-- Filling from the front with what is read from the back reverses. -/
theorem fill_front (hs : src.length = n) (hd : dst.length = n) :
    fill n (fun i => i) (fun i => src.getD (n - 1 - i) 0) dst = src.reverse := by
  apply List.ext_getElem?
  intro j
  rcases Nat.lt_or_ge j n with hj | hj
  · have h := @getElem?_fill n (fun i => src.getD (n - 1 - i) 0) (fun i => i) dst
      (fun a _ b _ hab => hab) j hj (by omega)
    rw [h, List.getElem?_reverse (by omega), hs, List.getD_eq_getElem?_getD,
      List.getElem?_eq_getElem (by omega), Option.getD_some]
  · rw [List.getElem?_eq_none (by simp; omega), List.getElem?_eq_none (by simp; omega)]

end

end PgDuckdb.Lib.Bytes
