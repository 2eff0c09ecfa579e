import SqlRecords.Failure

/-! Errors about the pools of data sources. -/
namespace SqlRecords

inductive PoolError where
  | unknownSource (name : String)
  | creationFailed (name reason : String)
  | closed (name : String)
  deriving DecidableEq, Repr

namespace PoolError

def message : PoolError → String
  | .unknownSource name => "Unknown data source '" ++ name ++ "'"
  | .creationFailed name reason => "Failed to open pool for '" ++ name ++ "': " ++ reason
  | .closed name => "Pool for '" ++ name ++ "' is closed"

def failure (e : PoolError) : Failure :=
  match e with
  | .unknownSource _ => .configuration e.message
  | _ => .connection e.message

end PoolError
end SqlRecords
