import SqlRecords.Value

/-! Cells that SQL Server answers with. -/
namespace SqlRecords.SqlServer

inductive Cell where
  | null
  | tinyInt (n : UInt8)
  | smallInt (n : Int16)
  | int (n : Int32)
  | bigInt (n : Int64)
  | real (x : Single)
  | float (x : Double)
  | bit (b : Bool)
  | text (s : String)
  | guid (u : Uuid)
  | binary (bs : List UInt8)
  /-- `unscaled / 10 ^ scale`. -/
  | numeric (unscaled : Int) (scale : Nat)

/-- A decimal number becomes the float quotient of its two parts. -/
def Cell.value : Cell → Value
  | .null => .null
  | .tinyInt n => .int32 (Int32.ofNat n.toNat)
  | .smallInt n => .int32 n.toInt32
  | .int n => .int32 n
  | .bigInt n => .int64 n
  | .real x => .float32 x
  | .float x => .float64 x
  | .bit b => .bool b
  | .text s => .text s
  | .guid u => .uuid u
  | .binary bs => .bytes bs
  | .numeric unscaled scale =>
    .float64 ((Double.ofInt unscaled).div ((Double.ofInt 10).pow scale))

end SqlRecords.SqlServer
