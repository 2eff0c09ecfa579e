import SqlRecords.Dialect.Identifier

/-! Database engines. -/
namespace SqlRecords

inductive Engine where
  | mysql | mssql | postgres
  deriving DecidableEq, Repr, Inhabited

namespace Engine

def name : Engine → String
  | .mysql => "mysql"
  | .mssql => "mssql"
  | .postgres => "postgres"

/-- The dialect that an engine speaks. -/
def dialect : Engine → Dialect
  | .mysql => .mysql
  | .mssql => .mssql
  | .postgres => .postgres

/-- Well-known port. -/
def defaultPort : Engine → Nat
  | .mysql => 3306
  | .mssql => 1433
  | .postgres => 5432

/-- How an engine appears in a description. -/
def label : Engine → String
  | .mysql => "MySql"
  | .mssql => "MsSql"
  | .postgres => "Postgres"

/-- All names of the engines, in lower case. -/
def ofName? : String → Option Engine
  | "mysql" | "mariadb" => some .mysql
  | "mssql" | "sqlserver" => some .mssql
  | "postgres" | "postgresql" | "pg" => some .postgres
  | _ => none

/-- Reads a name in any case. Only ASCII letters have to be lowered: no other letter has one of the
names' letters as its lower case. -/
def parse? (s : String) : Option Engine := ofName? (Dialect.lowerAscii s)

/-- What is reported for a text that names no engine. -/
def unsupported (s : String) : String := "Unsupported database engine: " ++ s

end Engine
end SqlRecords
