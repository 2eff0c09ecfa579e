import SqlRecords.Query.Catalog
import SqlRecords.Query.Page
import SqlRecords.Query.Write
import SqlRecords.Session.Edit
import SqlRecords.Text.Numeral

/-! Running queries. A query that cannot be written is refused before any pool is opened. -/
namespace SqlRecords

/-- The number that a count reports: its column `total`, else its first column. A fraction is cut
off, and what is no number counts as zero. -/
def Record.count (row : Record) : Nat :=
  match (row.get? "total").or (row.head?.map (·.2)) with
  | some (.int n) => n.toNat
  | some (.double x) => x.truncate Json.topUInt64
  | some (.text s) => (Text.unsigned? Json.topUInt64 s).getD 0
  | _ => 0

namespace Query
variable {π : Type} [Pool π]

/-- The data source that a query needs in order to run. -/
def boundSource (q : Query) : Except Failure String :=
  match q.dataSource with
  | some source => .ok source
  | none => .error (.usage "query is not bound to a data source")

/-- The pool that a query runs on. -/
def pool (q : Query) : Session π Nat := do Session.pool (← Session.ofExcept q.boundSource)

/-- Runs a statement on the pool of a query and reads its rows as records. -/
def rowsOf (q : Query) (s : Statement) : Session π (List Record) := do
  let i ← q.pool
  let result ← Session.onPool i (Pool.fetchAll s)
  let rows ← Session.ofExcept (result.mapError (·.withSql s.sql))
  Session.ofExcept (rows.mapM Row.toRecord)

def send (q : Query) (s : Statement) : Session π WriteResult := do
  let i ← q.pool
  let result ← Session.onPool i (Pool.execute s)
  Session.ofExcept (result.mapError (·.withSql s.sql))

/-- What compiling a query gives, as a step of a session. -/
def written (s : Except Incomplete Statement) : Session π Statement :=
  Session.ofExcept (s.mapError Incomplete.failure)

def fetch (q : Query) : Session π (List Record) := do
  q.rowsOf (← written q.selectStatement)

def fetchFirst (q : Query) : Session π (Option Record) := do return (← q.fetch).head?

def save (q : Query) : Session π WriteResult := do q.send (← written q.saveStatement)

def delete (q : Query) : Session π WriteResult := do q.send (← written q.deleteStatement)

/-- Runs a statement that counts rows. -/
def countOf (q : Query) (s : Statement) : Session π Nat := do
  return ((← q.rowsOf s).head?.map Record.count).getD 0

/-- How many rows the query gives. -/
def count (q : Query) : Session π Nat := do q.countOf (← written q.countStatement)

/-- Runs a statement in the caller's own words that gives rows. -/
def fetchText (q : Query) (sql : String) (params : List Value) : Session π (List Record) :=
  q.rowsOf (.ofText q.dialect .raw sql params)

/-- Runs a statement in the caller's own words that gives no rows. -/
def executeText (q : Query) (sql : String) (params : List Value) : Session π WriteResult :=
  q.send (.ofText q.dialect .raw sql params)

/-- Whether the data source of a query has an object. -/
def finds (q : Query) (o : CatalogObject) : Session π Bool := do
  return decide (0 < (← q.countOf (o.statement q.dialect)))

/-- Counts the rows of a query and restricts it to one page. The count runs first, under the limit
and the offset that the query came with. -/
def paginate (q : Query) (perPage page : Nat) : Session π (Pagination × Query) := do
  let total ← q.count
  return (.ofCount total perPage (max page 1), q.forPage perPage page)

/-- Counts the rows of a query and then puts the page on the query itself, step by step. -/
def paginateInPlace (perPage page : Nat) : Edit Query π Pagination := do
  let page := max page 1
  let total ← Edit.onDatabase (← get).count
  modify fun q => { q with limit := some perPage }
  modify fun q => { q with offset := some ((page - 1) * perPage % UInt64.size) }
  return .ofCount total perPage page

end Query
end SqlRecords
