import SqlRecords.Calendar.Count
import SqlRecords.DriverFault
import SqlRecords.Engine
import SqlRecords.Row

/-! Columns as MySQL and PostgreSQL type them, and the values of their cells. -/
namespace SqlRecords

/-- The name of an engine in messages. -/
def Engine.title : Engine → String
  | .mysql => "MySQL"
  | .mssql => "SQL Server"
  | .postgres => "PostgreSQL"

namespace Remote

/-- What the cells of a column hold. -/
inductive ColumnKind where
  | bool | int32 | int64 | unsigned64 | float32 | float64
  | text | bytes | uuid | timestamp | dateTime | date | time | json
  deriving DecidableEq, Repr

abbrev ColumnKind.Content : ColumnKind → Type
  | .bool => Bool
  | .int32 => Int32
  | .int64 => Int64
  | .unsigned64 => UInt64
  | .float32 => Single
  | .float64 => Double
  | .text => String
  | .bytes => List UInt8
  | .uuid => Uuid
  | .timestamp => DateTime
  | .dateTime => DateTime
  | .date => Date
  | .time => TimeOfDay
  | .json => Json

/-- An unsigned number that does not fit a signed word becomes the text of its digits. -/
def ColumnKind.value : (k : ColumnKind) → k.Content → Value
  | .bool, b => .bool b
  | .int32, n => .int32 n
  | .int64, n => .int64 n
  | .unsigned64, n =>
    if (n.toNat : Int) ≤ Json.topInt64 then .int64 (Int64.ofNat n.toNat)
    else .text (toString n.toNat)
  | .float32, x => .float32 x
  | .float64, x => .float64 x
  | .text, s => .text s
  | .bytes, bs => .bytes bs
  | .uuid, u => .uuid u
  | .timestamp, t => .timestamp t
  | .dateTime, t => .dateTime t
  | .date, d => .date d
  | .time, t => .time t
  | .json, j => .json j

/-- Whether content stands for a value. MySQL sends the parts of dates and times as they are stored,
and it stores days that no calendar has. PostgreSQL sends counts, which always stand for one. -/
def ColumnKind.isReal (e : Engine) : (k : ColumnKind) → k.Content → Bool
  | .timestamp, t => e != .mysql || t.isReal
  | .dateTime, t => e != .mysql || t.isReal
  | .date, d => e != .mysql || d.isReal
  | .time, t => e != .mysql || t.isReal
  | _, _ => true

def mysqlKind? : String → Option ColumnKind
  | "BOOLEAN" => some .bool
  | "TINYINT" | "SMALLINT" | "INT" | "MEDIUMINT" | "TINYINT UNSIGNED" | "SMALLINT UNSIGNED" =>
    some .int32
  | "INT UNSIGNED" | "MEDIUMINT UNSIGNED" | "BIGINT" => some .int64
  | "BIGINT UNSIGNED" => some .unsigned64
  | "FLOAT" => some .float32
  | "DOUBLE" => some .float64
  | "VARCHAR" | "CHAR" | "TEXT" | "TINYTEXT" | "MEDIUMTEXT" | "LONGTEXT" | "ENUM" | "SET" =>
    some .text
  | "BINARY" | "VARBINARY" | "BLOB" | "TINYBLOB" | "MEDIUMBLOB" | "LONGBLOB" => some .bytes
  | "DATETIME" => some .dateTime
  | "TIMESTAMP" => some .timestamp
  | "DATE" => some .date
  | "TIME" => some .time
  | "JSON" => some .json
  | _ => none

def postgresKind? : String → Option ColumnKind
  | "BOOL" => some .bool
  | "INT2" | "INT4" => some .int32
  | "INT8" => some .int64
  | "FLOAT4" => some .float32
  | "FLOAT8" => some .float64
  | "TEXT" | "VARCHAR" | "BPCHAR" | "CHAR" | "NAME" | "CITEXT" | "UNKNOWN" => some .text
  | "BYTEA" => some .bytes
  | "UUID" => some .uuid
  | "TIMESTAMPTZ" => some .timestamp
  | "TIMESTAMP" => some .dateTime
  | "DATE" => some .date
  | "TIME" => some .time
  | "JSON" | "JSONB" => some .json
  | _ => none

/-- The kind of a column of a type, if the library reads that type. -/
def columnKind? (e : Engine) (type : String) : Option ColumnKind :=
  match e with
  | .mysql => mysqlKind? type
  | .postgres => postgresKind? type
  | .mssql => none

structure Column where
  /-- The name in the result. -/
  label : String
  /-- The name in the table, where the engine tells it. -/
  origin : String
  type : String
  deriving DecidableEq, Repr

/-- A column without a label goes by its name in the table. -/
def Column.name (c : Column) : String := if c.label.isEmpty then c.origin else c.label

inductive Cell where
  | null
  | content (k : ColumnKind) (c : k.Content)
  /-- Content of a type that the library does not read. -/
  | unread

def unsupportedType (e : Engine) (type : String) (index : Nat) : Failure :=
  .serialization ("Unsupported " ++ e.title ++ " column type '" ++ type ++ "' in column "
    ++ toString index)

/-- What a database driver says about content that stands for no value, before it says why. -/
def undecoded : String := "error occurred while decoding column "

/-- NULL has a value in a column of any type. -/
def Cell.value (e : Engine) (c : Column) (index : Nat) : Cell → Except Failure Value
  | .null => .ok .null
  | .content k x =>
    if k.isReal e x then .ok (k.value x)
    else .error (DriverFault.decode.failure (undecoded ++ toString index))
  | .unread => .error (unsupportedType e c.type index)

def row (e : Engine) (columns : List Column) (cells : List Cell) : Row :=
  (columns.zip cells).zipIdx.map fun ((column, cell), i) => (column.name, cell.value e column i)

end Remote
end SqlRecords
