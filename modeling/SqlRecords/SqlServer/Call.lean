import SqlRecords.Statement
import SqlRecords.Text.Quoted

/-! The call through which SQL Server receives a statement with named parameters. -/
namespace SqlRecords.SqlServer

/-- The type under which a parameter is declared. -/
def declaredType : Value → String
  | .null | .text _ | .json _ => "nvarchar(max)"
  | .bool _ => "bit"
  | .int32 _ => "int"
  | .int64 _ => "bigint"
  | .float32 _ => "real"
  | .float64 _ => "float"
  | .bytes _ => "varbinary(max)"
  | .uuid _ => "uniqueidentifier"
  | .timestamp _ => "datetimeoffset"
  | .dateTime _ => "datetime2"
  | .date _ => "date"
  | .time _ => "time"

def declarations (s : Statement) : List String :=
  (s.names.zip s.params).map fun (name, v) => "@" ++ name ++ " " ++ declaredType v

/-- Each name takes the parameter at its position. -/
def assignments (s : Statement) : List String :=
  s.names.mapIdx fun i name => "@" ++ name ++ " = @P" ++ toString (i + 1)

/-- A statement without parameters is sent as it is. -/
def callText (s : Statement) : String :=
  if s.params.isEmpty then s.sql
  else "EXEC sp_executesql N" ++ Text.singleQuoted s.sql ++ ", N'"
    ++ ", ".intercalate (declarations s) ++ "', " ++ ", ".intercalate (assignments s)

end SqlRecords.SqlServer
