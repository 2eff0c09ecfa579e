/-! The three SQL dialects: their names, placeholders and quotes. -/
namespace SqlRecords

inductive Dialect where
  | mysql | mssql | postgres
  deriving DecidableEq, Repr, Inhabited

namespace Dialect

def name : Dialect → String
  | .mysql => "mysql"
  | .mssql => "mssql"
  | .postgres => "postgres"

/-- Placeholder of the `n`-th parameter of a statement, counted from one. -/
def placeholder (d : Dialect) (n : Nat) : String :=
  match d with
  | .mysql => "?"
  | .mssql => "@param" ++ toString n
  | .postgres => "$" ++ toString n

/-- Whether parameters are bound by name. -/
def namesParameters : Dialect → Bool
  | .mssql => true
  | _ => false

/-- Names of the first `n` parameters, none where they are bound by position. -/
def parameterNames (d : Dialect) (n : Nat) : List String :=
  if d.namesParameters then (List.range n).map fun i => "param" ++ toString (i + 1) else []

def openingQuote : Dialect → Char
  | .mysql => '\x60'
  | .mssql => '['
  | .postgres => '"'

def closingQuote : Dialect → Char
  | .mysql => '\x60'
  | .mssql => ']'
  | .postgres => '"'

end Dialect
end SqlRecords
