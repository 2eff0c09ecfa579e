import SqlRecords.Calendar.Count
import SqlRecords.Engine
import SqlRecords.Value

/-! Parameters as MySQL and PostgreSQL receive them. -/
namespace SqlRecords.Remote

/-- The type of a parameter, and its value as far as the engine receives it. -/
structure Binding where
  type : String
  value : Value

/-- MySQL takes truth as a number and identifiers as bytes, and drops what is below a
microsecond. -/
def mysqlBinding (v : Value) : Binding :=
  match v with
  | .null => ⟨"VARCHAR", v⟩
  | .bool b => ⟨"BOOLEAN", .int32 (if b then 1 else 0)⟩
  | .int32 _ => ⟨"INT", v⟩
  | .int64 _ => ⟨"BIGINT", v⟩
  | .float32 _ => ⟨"FLOAT", v⟩
  | .float64 _ => ⟨"DOUBLE", v⟩
  | .text _ => ⟨"VARCHAR", v⟩
  | .bytes _ => ⟨"BLOB", v⟩
  | .uuid u => ⟨"BLOB", .bytes u.bytes⟩
  | .timestamp t => ⟨"TIMESTAMP", .timestamp t.toMicros⟩
  | .dateTime t => ⟨"DATETIME", .dateTime t.toMicros⟩
  | .date _ => ⟨"DATE", v⟩
  | .time t => ⟨"TIME", .time t.toMicros⟩
  | .json _ => ⟨"JSON", v⟩

/-- PostgreSQL takes moments and times as counts of microseconds. -/
def postgresBinding (v : Value) : Binding :=
  match v with
  | .null => ⟨"TEXT", v⟩
  | .bool _ => ⟨"BOOL", v⟩
  | .int32 _ => ⟨"INT4", v⟩
  | .int64 _ => ⟨"INT8", v⟩
  | .float32 _ => ⟨"FLOAT4", v⟩
  | .float64 _ => ⟨"FLOAT8", v⟩
  | .text _ => ⟨"TEXT", v⟩
  | .bytes _ => ⟨"BYTEA", v⟩
  | .uuid _ => ⟨"UUID", v⟩
  | .timestamp t => ⟨"TIMESTAMPTZ", .timestamp t.counted⟩
  | .dateTime t => ⟨"TIMESTAMP", .dateTime t.counted⟩
  | .date _ => ⟨"DATE", v⟩
  | .time t => ⟨"TIME", .time t.counted⟩
  | .json _ => ⟨"JSONB", v⟩

end SqlRecords.Remote
