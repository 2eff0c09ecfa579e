import SqlRecords.Json.Basic

/-! What a document holds. -/
namespace SqlRecords.Json

def text? : Json → Option String
  | .text s => some s
  | _ => none

def int? : Json → Option Int
  | .int n => some n
  | _ => none

/-- A whole number from zero to `top`. -/
def natural? (top : Nat) (j : Json) : Option Nat :=
  j.int?.bind fun n => if 0 ≤ n ∧ n ≤ top then some n.toNat else none

/-- The items of a list; nothing else has any. -/
def items : Json → List Json
  | .list items => items
  | _ => []

/-- The fields of an object; nothing else has any. -/
def fields : Json → Fields Json
  | .object fields => fields
  | _ => []

/-- The field of a name, null if it is missing. -/
def field (j : Json) (name : String) : Json := (j.fields.get? name).getD .null

def hasField (j : Json) (name : String) : Bool := j.fields.contains name

end SqlRecords.Json
