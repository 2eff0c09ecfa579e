import SqlRecords.Row
import SqlRecords.Statement

/-! What the rest of the library needs of a connection pool. -/
namespace SqlRecords

/-- Outcome of a write. -/
structure WriteResult where
  rowsAffected : Nat
  /-- Rows whose values changed. -/
  rowsChanged : Nat
  insertId : Option Json
  deriving Inhabited

structure PoolStats where
  total : Nat
  idle : Nat
  active : Nat
  deriving DecidableEq, Repr, Inhabited

/-- What a statement that is read row by row yields: rows, up to an error if there is one. -/
abbrev Cursor := List (Except Failure Row)

/-- A connection pool as a state; every operation gives its outcome and the state after it. -/
class Pool (π : Type) where
  /-- Runs a statement that gives no rows. -/
  execute : Statement → π → Except Failure WriteResult × π
  /-- Runs a statement and reads all of its rows. -/
  fetchAll : Statement → π → Except Failure (List Row) × π
  /-- Runs a statement whose rows are read later. -/
  openCursor : Statement → π → Cursor × π
  /-- Takes a statement whose rows are never asked for. -/
  dropCursor : Statement → π → π
  /-- Takes note of rows read from a cursor. -/
  notePulled : Nat → π → π
  close : π → Except Failure Unit × π
  stats : π → PoolStats

end SqlRecords
