import SqlRecords.Model.Set
import SqlRecords.Session.Run

/-! Saving and deleting models. -/
namespace SqlRecords.Model
variable {π : Type}

/-- A query on the table of a model. -/
def tableQuery (m : Model) : Session π Query := do
  return (← Session.query m.schema.dataSource).table m.schema.table

/-- The rows whose primary key is the one that is stored. -/
def ownRow (m : Model) (q : Query) : Query :=
  q.such (Predicate.equals m.schema.primaryKey (.ofJson m.storedKey))

/-- Inserts the columns that were set, asking for the generated key. -/
def insertion (m : Model) (q : Query) : Query :=
  { q.insert [m.changed] true with returning := some m.schema.primaryKey }

/-- Takes over the key that an INSERT reports, unless a key was set. -/
def adoptKey (m : Model) (insertId : Option Json) : Model :=
  if m.changed.contains m.schema.primaryKey then m
  else match insertId with
    | some key => { m with stored := m.stored.insert m.schema.primaryKey key }
    | none => m

/-- Counts what was set as stored. -/
def settle (m : Model) : Model :=
  { m with stored := m.stored.insertAll m.changed, changed := [], isNew := false }

/-- Why a model that lacks its stored key is not saved. -/
def keyless (m : Model) : Failure :=
  .usage ("cannot update " ++ m.schema.table ++ " without a primary key value")

section
variable [Pool π]

/-- Sends the columns that were set, as an INSERT for a new row and else as an UPDATE of the stored
row, and tells whether a row was affected. When nothing was set, nothing is sent. -/
def save (m : Model) : Session π (Bool × Model) := do
  if !m.isDirty then return (false, m)
  let q ← m.tableQuery
  if m.isNew then
    let result ← (m.insertion q).save
    return (decide (0 < result.rowsAffected), (m.adoptKey result.insertId).settle)
  if m.storedKey.isNull then throw m.keyless
  let result ← (m.ownRow (q.update m.changed true)).save
  return (decide (0 < result.rowsAffected), m.settle)

/-- Deletes the stored row and tells whether there was one. -/
def delete (m : Model) : Session π Bool := do
  if m.isNew then
    throw (.usage ("cannot delete an unsaved " ++ m.schema.table ++ " record"))
  let q ← m.tableQuery
  return decide (0 < (← (m.ownRow q).delete).rowsAffected)

end

/-- Stores a value. -/
def storeInPlace (column : String) (v : Json) : Edit Model π Unit :=
  modify fun m => { m with stored := m.stored.insert column v }

/-- Takes out what was set. -/
def takeChanged : Edit Model π Record := modifyGet fun m => (m.changed, { m with changed := [] })

/-- Moves what was set to what is stored. -/
def settleInPlace : Edit Model π Unit := do
  forM (← takeChanged) fun (column, v) => storeInPlace column v
  modify fun m => { m with isNew := false }

variable [Pool π]

/-- Inserts the columns that were set. The key that is reported is stored unless one was set. -/
def insertRow (q : Query) : Edit Model π WriteResult := do
  let result ← Edit.onDatabase ((← get).insertion q).save
  if !(← get).changed.contains (← get).schema.primaryKey then
    if let some key := result.insertId then
      storeInPlace (← get).schema.primaryKey key
  return result

/-- Updates the stored row by the columns that were set, unless the stored key is null. -/
def updateRow (q : Query) : Edit Model π WriteResult := do
  if (← get).storedKey.isNull then
    throw (← get).keyless
  Edit.onDatabase ((← get).ownRow (q.update (← get).changed true)).save

/-- Saves a model in place: the model is changed step by step, and only as far as the steps get. -/
def saveInPlace : Edit Model π Bool := do
  if (← get).changed.isEmpty then return false
  let q ← Edit.onDatabase (← get).tableQuery
  let result ← if (← get).isNew then insertRow q else updateRow q
  settleInPlace
  return decide (0 < result.rowsAffected)

end SqlRecords.Model
