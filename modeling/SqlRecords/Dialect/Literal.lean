import SqlRecords.Dialect
import SqlRecords.Text.Quoted
import SqlRecords.Value

/-! Values written into a statement. -/
namespace SqlRecords.Dialect
open Text

/-- Bytes as hexadecimal digits between the marks of the dialect. -/
def bytesLiteral (d : Dialect) (bytes : List UInt8) : String :=
  match d with
  | .mysql => "X'" ++ hexBytes bytes ++ "'"
  | .mssql => "0x" ++ hexBytes bytes
  | .postgres => "'\\x" ++ hexBytes bytes ++ "'"

def boolLiteral (d : Dialect) (b : Bool) : String :=
  match d with
  | .postgres => if b then "TRUE" else "FALSE"
  | _ => if b then "1" else "0"

/-- A value as a literal: numbers are bare, all else but truth values, bytes and NULL is text in
single quotes. -/
def literal (d : Dialect) : Value → String
  | .null => "NULL"
  | .bool b => d.boolLiteral b
  | .int32 n => toString n.toInt
  | .int64 n => toString n.toInt
  | .float32 x => x.text
  | .float64 x => x.text
  | .text s => singleQuoted s
  | .bytes bs => d.bytesLiteral bs
  | .uuid u => singleQuoted u.text
  | .timestamp t => singleQuoted t.offsetText
  | .dateTime t => singleQuoted t.text
  | .date t => singleQuoted t.text
  | .time t => singleQuoted t.text
  | .json j => singleQuoted j.render

end SqlRecords.Dialect
