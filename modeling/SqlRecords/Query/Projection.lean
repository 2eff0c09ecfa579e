import SqlRecords.Dialect.Identifier
import SqlRecords.Query.Basic

/-! The columns of a query, and the names under which added ones appear in rows. -/
namespace SqlRecords
open Text

/-- The name under which a projected column appears in a row: its alias if it is one word with an
alias, else what stands after the last point, without quotes. -/
def resultKey (column : String) : String :=
  let reference := match words column with
    | [_, keyword, label] => if Dialect.lowerAscii keyword == "as" then label else trim column
    | _ => trim column
  let last := (splitWhere (· == '.') reference.toList).getLastD []
  String.ofList (trimWhere (fun c => c == '\x60' || c == '"' || c == '[' || c == ']') last)

namespace Query

def project (q : Query) (columns : List String) : Query := { q with columns := columns }

/-- Adds a column, after `*` if there is no projection yet, and records its name in rows. -/
def addColumn (q : Query) (column : String) : Query :=
  let columns := if q.columns.isEmpty then ["*"] else q.columns
  let key := resultKey column
  { q with
    columns := columns ++ [column]
    additional := if q.additional.contains key then q.additional else q.additional ++ [key] }

/-- Drops the listed columns and the names of all of them. -/
def removeColumns (q : Query) (columns : List String) : Query :=
  { q with
    columns := q.columns.filter (!columns.contains ·)
    additional := q.additional.filter (!(columns.map resultKey).contains ·) }

/-- Keeps only the listed columns, and the names of those that remain. -/
def keepColumns (q : Query) (columns : List String) : Query :=
  let kept := q.columns.filter columns.contains
  { q with
    columns := kept
    additional := q.additional.filter (kept.map resultKey).contains }

end Query
end SqlRecords
