/-! What an operation on a data source can fail with. -/
namespace SqlRecords

inductive Failure where
  /-- An unknown data source or a bad configuration. -/
  | configuration (message : String)
  /-- A pool or a connection could not be had. -/
  | connection (message : String)
  /-- The engine refused a statement. -/
  | statement (message sql : String)
  /-- No row where one was asked for. -/
  | notFound (what : String)
  /-- A query or a record was used in a way it does not allow. -/
  | usage (message : String)
  /-- A cell or a document could not be converted. -/
  | serialization (message : String)
  /-- A relation could not be found or resolved. -/
  | relationship (message : String)
  deriving DecidableEq, Repr, Inhabited

namespace Failure

def text : Failure → String
  | .configuration m => "Configuration error: " ++ m
  | .connection m => "Connection error: " ++ m
  | .statement m sql => "Statement error: " ++ m ++ " (sql: " ++ sql ++ ")"
  | .notFound what => "Record not found: " ++ what
  | .usage m => "Usage error: " ++ m
  | .serialization m => "Serialization error: " ++ m
  | .relationship m => "Relationship error: " ++ m

def isNotFound : Failure → Bool
  | .notFound _ => true
  | _ => false

/-- Names the statement in an error that came without one. -/
def withSql (sql : String) : Failure → Failure
  | .statement m "" => .statement m sql
  | f => f

end Failure
end SqlRecords
