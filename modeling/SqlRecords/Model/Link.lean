import SqlRecords.Model.Relation

/-! Rows of a link table, which pair a parent with a related row. -/
namespace SqlRecords.Relation
variable {π : Type} [Pool π]

/-- Names a link table and its two keys. -/
structure LinkKeys where
  table : String
  left : String
  right : String

def linkKeys (r : Relation) : Except Failure LinkKeys :=
  match r.kind with
  | .belongsToMany linkTable leftKey rightKey _ => .ok ⟨linkTable, leftKey, rightKey⟩
  | kind => .error (.usage
      ("link rows only exist for many-to-many relations, not " ++ kind.description))

/-- The key of the parent, which has to be stored. -/
def boundKey (r : Relation) : Except Failure Json :=
  if r.parentKey.isNull then
    .error (.usage (r.parent.table ++ " record must be saved before it can be linked"))
  else .ok r.parentKey

/-- A query on the link table, which lies where the parent's table lies. -/
def linkQuery (r : Relation) (keys : LinkKeys) : Session π Query := do
  return (← Session.query r.parent.dataSource).table keys.table

/-- Inserts a link row. A value in `extra` takes the place of a key of that name. -/
def link (r : Relation) (relatedKey : Json) (extra : Record) : Session π WriteResult := do
  let keys ← Session.ofExcept r.linkKeys
  let parentKey ← Session.ofExcept r.boundKey
  let row := Fields.ofList ([(keys.left, parentKey), (keys.right, relatedKey)] ++ extra)
  ((← r.linkQuery keys).insert [row] true).save

/-- Restricts a query to the rows that link the parent with a related row. -/
def linkRows (r : Relation) (relatedKey : Json) (keys : LinkKeys) : Session π Query := do
  let q ← r.linkQuery keys
  let parentKey ← Session.ofExcept r.boundKey
  return (q.such (Predicate.equals keys.left (.ofJson parentKey))).such
    (Predicate.equals keys.right (.ofJson relatedKey))

def unlink (r : Relation) (relatedKey : Json) : Session π WriteResult := do
  let keys ← Session.ofExcept r.linkKeys
  (← r.linkRows relatedKey keys).delete

def updateLink (r : Relation) (relatedKey : Json) (values : Record) : Session π WriteResult := do
  let keys ← Session.ofExcept r.linkKeys
  if values.isEmpty then throw (.usage "no link columns to update")
  ((← r.linkRows relatedKey keys).update values true).save

end SqlRecords.Relation
