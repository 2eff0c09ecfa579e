import SqlRecords.Dialect
import SqlRecords.Value

/-! Statement text with slots for bound values; slots are numbered only when the text is written. -/
namespace SqlRecords

inductive Piece where
  | text (s : String)
  | slot (v : Value)
  deriving Inhabited

/-- Pieces in the order in which they are written. -/
abbrev Sql := List Piece

namespace Sql

def ofText (s : String) : Sql := [.text s]

/-- A value that is bound. -/
def bind (v : Value) : Sql := [.slot v]

/-- The values in the slots, in the order in which the slots are written. -/
def slots (sql : Sql) : List Value :=
  sql.filterMap fun
    | .slot v => some v
    | .text _ => none

/-- The parameters, one for each slot that is numbered. NULL is written out and takes no number,
since a typed null does not fit columns of every type. -/
def params (sql : Sql) : List Value := sql.slots.filter (!·.isNull)

@[simp] theorem slots_append (a b : Sql) : (a ++ b : Sql).slots = a.slots ++ b.slots :=
  List.filterMap_append ..

@[simp] theorem slots_ofText (s : String) : (ofText s).slots = [] := rfl

theorem params_slot_cons (v : Value) (rest : Sql) :
    params (.slot v :: rest) = if v.isNull then rest.params else v :: rest.params := by
  cases h : v.isNull <;> simp [params, slots, h]

/-- The written pieces, when `n` slots have been numbered before. -/
def chunks (d : Dialect) (n : Nat) : Sql → List String
  | [] => []
  | .text s :: rest => s :: chunks d n rest
  | .slot v :: rest =>
    if v.isNull then "NULL" :: chunks d n rest else d.placeholder (n + 1) :: chunks d (n + 1) rest

/-- Slots are numbered on from one part to the next. -/
theorem chunks_append (d : Dialect) (n : Nat) (a b : Sql) :
    chunks d n (a ++ b) = chunks d n a ++ chunks d (n + a.params.length) b := by
  induction a generalizing n with
  | nil => rfl
  | cons p rest ih =>
    cases p with
    | text s => exact congrArg (s :: ·) (ih n)
    | slot v =>
      rw [List.cons_append, chunks, chunks, params_slot_cons]
      cases v.isNull with
      | true => exact congrArg ("NULL" :: ·) (ih n)
      | false =>
        have hn : n + (v :: params rest).length = n + 1 + (params rest).length := by
          rw [List.length_cons]; omega
        simp only [Bool.false_eq_true, if_false, List.cons_append, ih, hn]

/-- The text, when `n` slots have been numbered before. -/
def renderAfter (d : Dialect) (n : Nat) (sql : Sql) : String := String.join (chunks d n sql)

def render (d : Dialect) (sql : Sql) : String := sql.renderAfter d 0

/-- The parts with `separator` between them. -/
def join (separator : String) (parts : List Sql) : Sql :=
  (parts.intersperse (ofText separator)).flatten

def bracketed (sql : Sql) : Sql := ofText "(" ++ sql ++ ofText ")"

/-- An expression with two outcomes. -/
def conditional (d : Dialect) (condition outcome otherwise : Sql) : Sql :=
  match d with
  | .mysql =>
    ofText "IF(" ++ condition ++ ofText ", " ++ outcome ++ ofText ", " ++ otherwise ++ ofText ")"
  | _ =>
    ofText "CASE WHEN " ++ condition ++ ofText " THEN " ++ outcome ++ ofText " ELSE " ++ otherwise
      ++ ofText " END"

/-- The placeholder of each value when the values are bound one after another, with the number of
parameters after it. -/
def numbered (d : Dialect) (n : Nat) : List Value → List (String × Nat)
  | [] => []
  | v :: rest =>
    let after := n + (bind v).params.length
    ((bind v).renderAfter d n, after) :: numbered d after rest

end Sql
end SqlRecords
