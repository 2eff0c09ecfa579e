import SqlRecords.Decimal.Float
import SqlRecords.Fields

/-! JSON documents with ordered objects and with whole numbers kept apart from floats. -/
namespace SqlRecords

inductive Json where
  | null
  | bool (b : Bool)
  /-- A whole number of 64 bits, signed or unsigned. -/
  | int (n : Int)
  | double (x : Double)
  | text (s : String)
  | list (items : List Json)
  | object (fields : List (String × Json))
  deriving Inhabited, Repr

/-- One result row: column names with their values, in order. -/
abbrev Record := Fields Json

namespace Json

def leastInt64 : Int := -9223372036854775808
def topInt64 : Int := 9223372036854775807
def topUInt64 : Nat := 18446744073709551615

/-- Whether a whole number is of 64 bits, signed or unsigned. -/
def isWord (n : Int) : Bool := leastInt64 ≤ n && n ≤ topUInt64

def isNull : Json → Bool
  | .null => true
  | _ => false

end Json
end SqlRecords
