import PgDuckdb.Lib.Program

/-!
# Blocks of memory

A heap holds the blocks that are live, each under its address. A program reads a whole block (`load`) or writes
some bytes of one (`write`), and faults if the block is not live or too small. There is one rule of
postconditions for each of them (`Ensures.load`, `Ensures.write`, `Ensures.free`).
-/

namespace PgDuckdb.Lib

/-- An address. -/
abbrev Addr := ℕ

/-- The live blocks. Of two blocks under one address the first one counts. -/
structure Heap where
  blocks : List (Addr × List UInt8)
  deriving DecidableEq, Repr

namespace Heap

/-- The block at an address. -/
def find (s : Heap) (p : Addr) : Option (List UInt8) := s.blocks.lookup p

/-- Puts a block at an address. -/
def store (s : Heap) (p : Addr) (block : List UInt8) : Heap := ⟨(p, block) :: s.blocks⟩

/-- Removes the block at an address. -/
def free (s : Heap) (p : Addr) : Heap := ⟨s.blocks.filter fun b => b.1 != p⟩

section
variable {s : Heap} {p q : Addr} {block : List UInt8}

@[simp] theorem find_store : (s.store p block).find p = some block := by
  rw [find, store, List.lookup_cons_self]

/-- Storing at another address changes nothing here. -/
theorem find_store_ne (h : q ≠ p) : (s.store p block).find q = s.find q := by
  have hne : (q == p) = false := beq_eq_false_iff_ne.2 h
  rw [find, store, List.lookup_cons, hne]
  rfl

/-- Freeing another address changes nothing here. -/
theorem find_free_ne (h : q ≠ p) : (s.free p).find q = s.find q := by
  obtain ⟨blocks⟩ := s
  rw [free, find, find]
  induction blocks with
  | nil => rfl
  | cons b blocks ih =>
    obtain ⟨a, data⟩ := b
    rcases eq_or_ne a p with rfl | ha
    · have hne : (q == a) = false := beq_eq_false_iff_ne.2 h
      rw [List.filter_cons_of_neg (by simp), ih, List.lookup_cons, hne]
    · rw [List.filter_cons_of_pos (by simpa using ha), List.lookup_cons, List.lookup_cons, ih]

@[simp] theorem find_free : (s.free p).find p = none := by
  obtain ⟨blocks⟩ := s
  rw [free, find, List.lookup_eq_none_iff]
  intro b hb
  have hne := (List.mem_filter.1 hb).2
  rw [bne_iff_ne] at hne
  exact bne_iff_ne.2 hne.symm

end

end Heap

/-! ## Programs -/

section
variable {ε : Type}

/-- The block at `p`. -/
def load (fault : ε) (p : Addr) : EStateM ε Heap (List UInt8) := do
  match (← get).find p with
  | some block => pure block
  | none => throw fault

/-- The block `old` with `data` from `offset` on. -/
def overwrite (offset : ℕ) (data old : List UInt8) : List UInt8 :=
  old.take offset ++ (data ++ old.drop (offset + data.length))

/-- Writes `data` into the block at `p`, from `offset` on. -/
def write (fault : ε) (p : Addr) (offset : ℕ) (data : List UInt8) : EStateM ε Heap PUnit := do
  let old ← load fault p
  if offset + data.length ≤ old.length then
    modify fun s => s.store p (overwrite offset data old)
  else throw fault

/-- Gives the block at `p` back. -/
def dealloc (p : Addr) : EStateM ε Heap PUnit := modify fun s => s.free p

variable {fault : ε} {s : Heap} {p : Addr} {block : List UInt8} {E : Heap → Prop}

/-- A load from an address with a block. -/
theorem Ensures.load {Q : List UInt8 → Heap → Prop} (h : s.find p = some block) (hQ : Q block s) :
    Ensures (load fault p) s Q E := by
  refine Ensures.bind (Ensures.get ?_)
  rw [h]
  exact Ensures.pure hQ

/-- A write that fits into its block. -/
theorem Ensures.write {offset : ℕ} {data : List UInt8} {Q : PUnit → Heap → Prop} (h : s.find p = some block)
    (hfit : offset + data.length ≤ block.length) (hQ : Q ⟨⟩ (s.store p (overwrite offset data block))) :
    Ensures (write fault p offset data) s Q E := by
  refine Ensures.bind (Ensures.load h ?_)
  rw [if_pos hfit]
  exact Ensures.modify hQ

/-- A block that is freed. -/
theorem Ensures.dealloc {Q : PUnit → Heap → Prop} (hQ : Q ⟨⟩ (s.free p)) :
    Ensures (dealloc p : EStateM ε Heap PUnit) s Q E := Ensures.modify hQ

end

/-! ## Overwriting -/

section
variable {offset : ℕ} {data old : List UInt8}

/-- A block keeps its length. -/
theorem length_overwrite (h : offset + data.length ≤ old.length) :
    (overwrite offset data old).length = old.length := by
  simp only [overwrite, List.length_append, List.length_take, List.length_drop]
  omega

/-- What lies behind the bytes that were written. -/
theorem drop_overwrite (h : offset ≤ old.length) :
    (overwrite offset data old).drop offset = data ++ old.drop (offset + data.length) := by
  rw [overwrite, List.drop_append_of_le_length (by rw [List.length_take]; omega),
    List.drop_eq_nil_of_le (by rw [List.length_take]; omega), List.nil_append]

/-- Bytes at the front of a block. -/
theorem overwrite_zero : overwrite 0 data old = data ++ old.drop data.length := by
  rw [overwrite, List.take_zero, List.nil_append, Nat.zero_add]

/-- No bytes change no block. -/
theorem overwrite_nil : overwrite offset [] old = old := by
  rw [overwrite, List.nil_append, List.length_nil, Nat.add_zero, List.take_append_drop]

/-- Bytes behind a start are written after it. -/
theorem overwrite_append {start rest : List UInt8} :
    overwrite start.length data (start ++ rest) = start ++ (data ++ rest.drop data.length) := by
  rw [overwrite, List.take_left, List.drop_append, List.drop_eq_nil_of_le (Nat.le_add_right ..),
    List.nil_append, Nat.add_sub_cancel_left]

end

end PgDuckdb.Lib
