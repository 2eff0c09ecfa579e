import SqlRecords.Text.Hex

/-! Universally unique identifiers. -/
namespace SqlRecords

structure Uuid where
  value : BitVec 128
  deriving DecidableEq, Repr, Inhabited

namespace Uuid
open Text

def digits (u : Uuid) : List Char := hexDigits 32 u.value.toNat

/-- Groups of 8, 4, 4, 4 and 12 lower-case digits. -/
def text (u : Uuid) : String :=
  let ds := u.digits
  let part (start size : Nat) := String.ofList ((ds.drop start).take size)
  part 0 8 ++ "-" ++ part 8 4 ++ "-" ++ part 12 4 ++ "-" ++ part 16 4 ++ "-" ++ part 20 12

/-- The sixteen bytes, the most significant first. -/
def bytes (u : Uuid) : List UInt8 :=
  (List.range 16).map fun i => (u.value.toNat / Nat.pow 256 (15 - i) % 256).toUInt8

/-- Reads 32 digits of either case, hyphens apart. -/
def ofText? (s : String) : Option Uuid :=
  let ds := s.toList.filter (· != '-')
  if ds.length = 32 then (hexNumber? ds).map fun n => ⟨BitVec.ofNat 128 n⟩ else none

end Uuid
end SqlRecords
