import SqlRecords.Pool.Basic

/-! A pool in memory: it keeps the statements it receives and answers from a queue. -/
namespace SqlRecords

inductive Response where
  | rows (rows : List Record)
  | exec (result : WriteResult)
  | error (f : Failure)

structure ScriptedPool where
  /-- Statements in the order in which they came. -/
  received : List Statement
  responses : List Response
  /-- Rows read from cursors. -/
  rowsPulled : Nat
  isClosed : Bool
  deriving Inhabited

namespace ScriptedPool

def new : ScriptedPool := ⟨[], [], 0, false⟩

def push (pool : ScriptedPool) (r : Response) : ScriptedPool :=
  { pool with responses := pool.responses ++ [r] }

/-- Keeps a statement and takes the next response off the queue. -/
def receive (s : Statement) (pool : ScriptedPool) : Option Response × ScriptedPool :=
  (pool.responses.head?,
    { pool with received := pool.received ++ [s], responses := pool.responses.tail })

/-- What a write reports when the queue has no word on it. -/
def oneRow : WriteResult := ⟨1, 1, none⟩

def writeResult : Option Response → Except Failure WriteResult
  | some (.exec r) => .ok r
  | some (.error f) => .error f
  | _ => .ok oneRow

def fetchResult : Option Response → Except Failure (List Row)
  | some (.rows rs) => .ok (rs.map Row.ofRecord)
  | some (.error f) => .error f
  | _ => .ok []

def cursorOf (response : Option Response) : Cursor :=
  match fetchResult response with
  | .ok rows => rows.map .ok
  | .error f => [.error f]

instance : Pool ScriptedPool where
  execute s pool := let (r, pool) := pool.receive s; (writeResult r, pool)
  fetchAll s pool := let (r, pool) := pool.receive s; (fetchResult r, pool)
  openCursor s pool := let (r, pool) := pool.receive s; (cursorOf r, pool)
  dropCursor s pool := (pool.receive s).2
  notePulled n pool := { pool with rowsPulled := pool.rowsPulled + n }
  close pool := (.ok (), { pool with isClosed := true })
  stats _ := ⟨0, 0, 0⟩

end ScriptedPool
end SqlRecords
