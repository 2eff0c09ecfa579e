import SqlRecords.Statement

/-! Asking an engine whether a table, a column, a trigger or a procedure exists. -/
namespace SqlRecords

/-- An object of a database. -/
inductive CatalogObject where
  | table (name : String)
  | column (table name : String)
  | trigger (name : String)
  | procedure (name : String)
  deriving DecidableEq, Repr

namespace CatalogObject

/-- Restricts a catalog view to the schema of the connection. -/
def schemaFilter (d : Dialect) (field : String) : String :=
  match d with
  | .mysql => field ++ " = DATABASE()"
  | .postgres => field ++ " = current_schema()"
  | .mssql => field ++ " = SCHEMA_NAME()"

/-- The view that is counted and the conditions on it, each followed by a bound name. -/
def lookup (d : Dialect) : CatalogObject → String × List (String × String)
  | .table name =>
    ("information_schema.tables WHERE " ++ schemaFilter d "table_schema" ++ " AND ",
      [("table_name", name)])
  | .column owner name =>
    ("information_schema.columns WHERE " ++ schemaFilter d "table_schema" ++ " AND ",
      [("table_name", owner), ("column_name", name)])
  | .trigger name =>
    if d = .mssql then ("sys.triggers WHERE ", [("name", name)])
    else ("information_schema.triggers WHERE " ++ schemaFilter d "trigger_schema" ++ " AND ",
      [("trigger_name", name)])
  | .procedure name =>
    if d = .mssql then ("sys.procedures WHERE ", [("name", name)])
    else ("information_schema.routines WHERE " ++ schemaFilter d "routine_schema"
      ++ " AND routine_type = 'PROCEDURE' AND ", [("routine_name", name)])

/-- Counts the objects of that name. -/
def statement (d : Dialect) (o : CatalogObject) : Statement :=
  let (view, conditions) := o.lookup d
  .ofSql d .select (Sql.ofText ("SELECT COUNT(*) AS total FROM " ++ view)
    ++ Sql.join " AND " (conditions.map fun (field, name) =>
      Sql.ofText (field ++ " = ") ++ Sql.bind (.text name)))

end CatalogObject
end SqlRecords
