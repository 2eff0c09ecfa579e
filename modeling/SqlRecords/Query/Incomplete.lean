import SqlRecords.Failure

/-! Why a query cannot be written as a statement. -/
namespace SqlRecords

inductive Incomplete where
  | noTable
  | noInsert
  | noUpdate
  | nothingStaged
  /-- The rows of an INSERT name no column. -/
  | noColumns (table : String)
  | noAssignments (table : String)
  /-- A write whose target is a nested query. -/
  | derivedTarget (verb : String)
  deriving DecidableEq, Repr

namespace Incomplete

def message : Incomplete → String
  | .noTable => "table() has not been called on this query"
  | .noInsert => "insert() has not been called on this query"
  | .noUpdate => "update() has not been called on this query"
  | .nothingStaged => "save() requires insert() or update() to be called first"
  | .noColumns table => "INSERT into " ++ table ++ " has no columns"
  | .noAssignments table => "UPDATE of " ++ table ++ " sets no columns"
  | .derivedTarget verb => verb ++ " cannot target a subquery"

def failure (e : Incomplete) : Failure := .usage e.message

end Incomplete

section
variable {ε α β : Type}

@[simp] theorem ok_bind (a : α) (f : α → Except ε β) : (Except.ok a >>= f) = f a := rfl

@[simp] theorem map_ok (f : α → β) (a : α) : (Except.ok a : Except ε α).map f = .ok (f a) := rfl

@[simp] theorem pure_eq_ok (a : α) : (pure a : Except ε α) = .ok a := rfl

theorem map_eq_ok {x : Except ε α} {f : α → β} {b : β} :
    x.map f = .ok b ↔ ∃ a, x = .ok a ∧ f a = b := by
  cases x with
  | error e => exact ⟨nofun, nofun⟩
  | ok a => exact ⟨fun h => ⟨a, rfl, Except.ok.inj h⟩, fun ⟨_, ha, h⟩ => Except.ok.inj ha ▸ h ▸ rfl⟩

/-- A sequence succeeds when both steps do. -/
theorem bind_eq_ok {x : Except ε α} {f : α → Except ε β} {b : β} :
    (x >>= f) = .ok b ↔ ∃ a, x = .ok a ∧ f a = .ok b := by
  cases x with
  | error e => exact ⟨nofun, nofun⟩
  | ok a => exact ⟨fun h => ⟨a, rfl, h⟩, fun ⟨_, ha, h⟩ => Except.ok.inj ha ▸ h⟩

end

end SqlRecords
