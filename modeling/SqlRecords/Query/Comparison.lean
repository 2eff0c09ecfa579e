import SqlRecords.Failure
import SqlRecords.Text.Blank
import SqlRecords.Text.Uppercase

/-! Comparison operators and their spellings. -/
namespace SqlRecords

inductive Comparison where
  | equal | notEqual | greater | greaterOrEqual | less | lessOrEqual | like | notLike
  deriving DecidableEq, Repr, Inhabited

namespace Comparison
open Text

def symbol : Comparison → String
  | .equal => "="
  | .notEqual => "<>"
  | .greater => ">"
  | .greaterOrEqual => ">="
  | .less => "<"
  | .lessOrEqual => "<="
  | .like => "LIKE"
  | .notLike => "NOT LIKE"

/-- The operator that a capitalised word spells. -/
def ofSymbol? : String → Option Comparison
  | "=" => some .equal
  | "!=" | "<>" => some .notEqual
  | ">" => some .greater
  | ">=" => some .greaterOrEqual
  | "<" => some .less
  | "<=" => some .lessOrEqual
  | "LIKE" => some .like
  | "NOT LIKE" => some .notLike
  | _ => none

/-- Reads an operator in any case, with blanks around it. -/
def parse (s : String) : Except Failure Comparison :=
  let word := upper (trim s)
  match ofSymbol? word with
  | some c => .ok c
  | none => .error (.usage ("Unsupported operator '" ++ word ++ "'"))

end Comparison
end SqlRecords
