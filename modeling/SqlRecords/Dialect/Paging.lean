import SqlRecords.Dialect

/-! The clause that cuts a slice out of an ordered result. -/
namespace SqlRecords.Dialect

/-- Stands in for a missing limit where an offset needs one. -/
def unlimited : Nat := 18446744073709551615

/-- What follows the ORDER BY clause. SQL Server pages only an ordered result, so a neutral order is
written when there is none; MySQL has no offset without a limit. -/
def pagingClause (d : Dialect) (limit offset : Option Nat) (ordered : Bool) : String :=
  match d, limit, offset with
  | _, none, none => ""
  | .mssql, limit, offset =>
    (if ordered then "" else " ORDER BY (SELECT NULL)")
      ++ " OFFSET " ++ toString (offset.getD 0) ++ " ROWS"
      ++ (match limit with
        | some n => " FETCH NEXT " ++ toString n ++ " ROWS ONLY"
        | none => "")
  | .mysql, limit, none => " LIMIT " ++ toString (limit.getD unlimited)
  | .mysql, limit, some n =>
    " LIMIT " ++ toString (limit.getD unlimited) ++ " OFFSET " ++ toString n
  | .postgres, limit, offset =>
    (match limit with
      | some n => " LIMIT " ++ toString n
      | none => "")
      ++ (match offset with
        | some n => " OFFSET " ++ toString n
        | none => "")

end SqlRecords.Dialect
