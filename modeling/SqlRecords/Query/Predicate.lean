import SqlRecords.Query.Basic
import SqlRecords.Sql

/-! Writing a predicate: connectors and brackets around clauses that are already written. -/
namespace SqlRecords

/-- A token of a predicate whose clause is written. -/
inductive Lexeme where
  | clause (sql : Sql)
  | connector (c : Connector)
  | opening
  | closing

namespace Lexeme

/-- What stands between two operands: the connector asked for last, AND without one, and nothing
before the first operand of a bracket. -/
def separator (pending : Option Connector) (afterOperand : Bool) : Sql :=
  if afterOperand then Sql.ofText (pending.getD .and).text else []

/-- Writes lexemes after what is written so far: `pending` is the connector asked for last and
`afterOperand` says whether a clause or a closing bracket came before. A connector still pending at
a closing bracket is dropped. -/
def assemble (pending : Option Connector) (afterOperand : Bool) : List Lexeme → Sql
  | [] => []
  | .connector c :: rest => assemble (some c) afterOperand rest
  | .opening :: rest =>
    separator pending afterOperand ++ Sql.ofText "(" ++ assemble none false rest
  | .closing :: rest => Sql.ofText ")" ++ assemble none true rest
  | .clause sql :: rest => separator pending afterOperand ++ sql ++ assemble none true rest

def sql (lexemes : List Lexeme) : Sql := assemble none false lexemes

end Lexeme
end SqlRecords
