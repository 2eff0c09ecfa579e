import SqlRecords.Query.Select

/-! INSERT, UPDATE and DELETE statements. -/
namespace SqlRecords

/-- Columns of all rows, in order of first appearance. -/
def insertColumns (rows : List (Fields Value)) : List String :=
  rows.flatten.foldl
    (fun acc (column, _) => if acc.contains column then acc else acc ++ [column]) []

/-- A value of a write: text that is not bound is an expression and stands as it is. -/
def writtenValue (d : Dialect) (bound : Bool) (v : Value) : Sql :=
  if bound then Sql.bind v else Sql.ofText (match v with
    | .text s => s
    | v => d.literal v)

/-- One row of an INSERT, with DEFAULT for what it lacks. -/
def insertTuple (d : Dialect) (bound : Bool) (columns : List String) (row : Fields Value) : Sql :=
  Sql.bracketed (Sql.join ", " (columns.map fun column =>
    match row.get? column with
    | some v => writtenValue d bound v
    | none => Sql.ofText "DEFAULT"))

def assignment (d : Dialect) (bound : Bool) (column : String) (v : Value) : Sql :=
  Sql.ofText (d.escapeIdentifier column ++ " = ") ++ writtenValue d bound v

namespace Query

/-- The table that a write goes to. -/
def target (q : Query) (verb : String) : Except Incomplete String :=
  match q.source with
  | some (.table name) => .ok (q.dialect.escapeIdentifier name)
  | some (.derived ..) => .error (.derivedTarget verb)
  | none => .error .noTable

/-- What SQL Server writes before the values to report the generated key. -/
def outputClause (q : Query) : String :=
  match q.dialect, q.returning with
  | .mssql, some key => " OUTPUT INSERTED." ++ q.dialect.escapeIdentifier key
  | _, _ => ""

/-- What PostgreSQL writes at the end to report the generated key. -/
def returningClause (q : Query) : String :=
  match q.dialect, q.returning with
  | .postgres, some key => " RETURNING " ++ q.dialect.escapeIdentifier key
  | _, _ => ""

def insertDraft (q : Query) : Except Incomplete Draft := do
  let table ← q.target "INSERT"
  let some (.insert rows bound) := q.payload | .error .noInsert
  let columns := insertColumns rows
  if columns.isEmpty then .error (.noColumns table)
  return {
    kind := .insert
    sql := Sql.ofText ("INSERT INTO " ++ table ++ " ("
        ++ commaList (columns.map q.dialect.escapeIdentifier) ++ ")" ++ q.outputClause
        ++ " VALUES ")
      ++ Sql.join ", " (rows.map (insertTuple q.dialect bound columns))
      ++ Sql.ofText q.returningClause
    returning := q.returning }

def updateDraft (q : Query) : Except Incomplete Draft := do
  let table ← q.target "UPDATE"
  let some (.update values bound) := q.payload | .error .noUpdate
  if values.isEmpty then .error (.noAssignments table)
  let condition ← Predicate.whereSql q.dialect q.predicate
  return {
    kind := .update
    sql := Sql.ofText ("UPDATE " ++ table ++ " SET ")
      ++ Sql.join ", " (values.map fun (column, v) => assignment q.dialect bound column v)
      ++ condition
    returning := none }

def deleteDraft (q : Query) : Except Incomplete Draft := do
  let table ← q.target "DELETE"
  let condition ← Predicate.whereSql q.dialect q.predicate
  return ⟨.delete, Sql.ofText ("DELETE FROM " ++ table) ++ condition, none⟩

/-- Whichever write is staged. -/
def saveDraft (q : Query) : Except Incomplete Draft :=
  match q.payload with
  | some (.insert ..) => q.insertDraft
  | some (.update ..) => q.updateDraft
  | none => .error .nothingStaged

def insertStatement (q : Query) : Except Incomplete Statement := q.finish q.insertDraft

def updateStatement (q : Query) : Except Incomplete Statement := q.finish q.updateDraft

def deleteStatement (q : Query) : Except Incomplete Statement := q.finish q.deleteDraft

def saveStatement (q : Query) : Except Incomplete Statement := q.finish q.saveDraft

end Query
end SqlRecords
