import SqlRecords.Failure
import SqlRecords.Value

/-! Result rows: named cells in order, where names may repeat and a cell may fail to decode. -/
namespace SqlRecords

abbrev Row := List (String × Except Failure Value)

namespace Row

/-- A row whose cells are all values. -/
def ofValues (columns : List (String × Value)) : Row := columns.map fun (name, v) => (name, .ok v)

/-- The row that a record spells. -/
def ofRecord (r : Record) : Row := r.map fun (name, j) => (name, .ok (.ofJson j))

def names (row : Row) : List String := row.map (·.1)

def getByIndex (row : Row) (index : Nat) : Except Failure Value :=
  match row[index]? with
  | some (_, cell) => cell
  | none => .error (.serialization ("Column index " ++ toString index ++ " out of range"))

/-- The first cell of that name. -/
def getByName (row : Row) (name : String) : Except Failure Value :=
  match List.lookup name row with
  | some cell => cell
  | none => .error (.serialization ("Column '" ++ name ++ "' not found"))

/-- All cells as one record; of two cells of one name the later counts, in the earlier place. -/
def toRecord (row : Row) : Except Failure Record :=
  row.foldlM (fun (acc : Record) (name, cell) => cell.map fun v => acc.insert name v.toJson) []

end Row
end SqlRecords
