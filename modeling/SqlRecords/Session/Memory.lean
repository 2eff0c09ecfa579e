/-! Memory that is asked for ahead of its use. -/
namespace SqlRecords

/-- How a program breaks off that does not get the memory it asks for. -/
inductive Crash where
  /-- A panic: the bytes cannot even be addressed. -/
  | capacityOverflow
  /-- The whole program is aborted, for the allocator has no such block. -/
  | outOfMemory
  deriving DecidableEq, Repr

/-- The memory of a machine, as far as records are kept in it. -/
structure Memory where
  /-- Bytes that one record takes. -/
  recordSize : Nat
  recordSize_pos : 0 < recordSize
  /-- Whether the allocator has a block of so many bytes. -/
  hasBlock : Nat → Bool

namespace Memory

/-- The most bytes that a block may have where addresses have 64 bits. -/
def greatestBlock : Nat := 9223372036854775807

/-- Why a block of so many records cannot be had, if it cannot. -/
def crash? (m : Memory) (records : Nat) : Option Crash :=
  if greatestBlock < records * m.recordSize then some .capacityOverflow
  else if m.hasBlock (records * m.recordSize) then none
  else some .outOfMemory

theorem crash?_eq_none_iff {m : Memory} {records : Nat} : m.crash? records = none ↔
    records * m.recordSize ≤ greatestBlock ∧ m.hasBlock (records * m.recordSize) := by
  unfold crash?
  split
  case isTrue hlarge => exact ⟨nofun, fun h => absurd h.1 (Nat.not_le.mpr hlarge)⟩
  case isFalse hlarge => simp [Nat.not_lt.mp hlarge]

/-- No machine has a block for so many records that their bytes cannot be addressed. -/
theorem crash?_of_greatestBlock_lt (m : Memory) {records : Nat} (h : greatestBlock < records) :
    m.crash? records = some .capacityOverflow :=
  if_pos (Nat.lt_of_lt_of_le h (Nat.le_mul_of_pos_right records m.recordSize_pos))

end Memory
end SqlRecords
