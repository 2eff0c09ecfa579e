import SqlRecords.Calendar
import SqlRecords.Json.Printer
import SqlRecords.Uuid

/-! Values of columns and of bound parameters. -/
namespace SqlRecords

inductive Value where
  | null
  | bool (b : Bool)
  | int32 (n : Int32)
  | int64 (n : Int64)
  | float32 (x : Single)
  | float64 (x : Double)
  | text (s : String)
  | bytes (bs : List UInt8)
  | uuid (u : Uuid)
  /-- A moment in UTC. -/
  | timestamp (t : DateTime)
  /-- A date and time of no particular zone. -/
  | dateTime (t : DateTime)
  | date (d : Date)
  | time (t : TimeOfDay)
  /-- A document, also when it is a scalar. -/
  | json (j : Json)
  deriving Inhabited, Repr

namespace Value

def isNull : Value → Bool
  | .null => true
  | _ => false

/-- A finite float as a JSON number; JSON has no others. -/
def ofFloat (x : Double) : Json := if x.isFinite then .double x else .null

def toJson : Value → Json
  | .null => .null
  | .bool b => .bool b
  | .int32 n => .int n.toInt
  | .int64 n => .int n.toInt
  | .float32 x => ofFloat x.toDouble
  | .float64 x => ofFloat x
  | .text s => .text s
  | .bytes bs => .list (bs.map fun b => .int b.toNat)
  | .uuid u => .text u.text
  | .timestamp t => .text t.offsetText
  | .dateTime t => .text t.text
  | .date d => .text d.text
  | .time t => .text t.text
  | .json j => j

/-- A whole number that does not fit a signed word becomes the nearest float; lists and objects are
bound as documents. -/
def ofJson : Json → Value
  | .null => .null
  | .bool b => .bool b
  | .int n =>
    if Json.leastInt64 ≤ n ∧ n ≤ Json.topInt64 then .int64 (Int64.ofInt n)
    else .float64 (Double.ofInt n)
  | .double x => .float64 x
  | .text s => .text s
  | .list items => .json (.list items)
  | .object fields => .json (.object fields)

theorem isNull_ofJson (j : Json) : (ofJson j).isNull = j.isNull := by
  cases j with
  | int n =>
    simp only [ofJson]
    split <;> rfl
  | null | bool | double | text | list | object => rfl

end Value
end SqlRecords
