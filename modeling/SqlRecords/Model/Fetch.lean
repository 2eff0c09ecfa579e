import SqlRecords.Model.Set
import SqlRecords.Session.Stream

/-! Reading models from a data source. A query without one is refused before it is written. -/
namespace SqlRecords

/-- Rows of a query as models, with the columns that the query added. -/
def Query.toModels (q : Query) (schema : Schema) (rows : List Record) : ModelSet :=
  .ofList (rows.map fun row => .ofRow schema row q.additional)

namespace Query
variable {π : Type} [Pool π]

def fetchModels (q : Query) (schema : Schema) : Session π ModelSet := do
  discard (Session.ofExcept q.boundSource)
  return q.toModels schema (← q.fetch)

/-- Runs a query and hands its rows over as sets of models. -/
def streamModels (q : Query) (schema : Schema) (memory : Memory) (size : Nat)
    (consumer : Consumer ModelSet) : Session π (Except Crash Streamed) := do
  discard (Session.ofExcept q.boundSource)
  q.stream memory size fun batches => consumer (batches.map (q.toModels schema))

end Query

/-- The model of a key. -/
def Model.find {π : Type} [Pool π] (schema : Schema) (key : Json) : Session π Model := do
  let q ← Session.query schema.dataSource
  let found ← ((q.table schema.table).such
    (Predicate.equals schema.primaryKey (.ofJson key))).fetchModels schema
  match ModelSet.models found with
  | m :: _ => return m
  | [] => throw (.notFound (schema.table ++ "(" ++ keyText key ++ ")"))

end SqlRecords
