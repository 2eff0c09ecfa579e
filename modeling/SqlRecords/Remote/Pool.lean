import SqlRecords.DriverFault
import SqlRecords.Pool.Basic
import SqlRecords.Remote.Binding
import SqlRecords.Remote.Column
import SqlRecords.Session.Database

/-! Pools of connections to MySQL and PostgreSQL, as far as what goes out and what comes back. -/
namespace SqlRecords

inductive RemoteEngine where
  | mysql | postgres
  deriving DecidableEq, Repr, Inhabited

namespace RemoteEngine

def engine : RemoteEngine → Engine
  | .mysql => .mysql
  | .postgres => .postgres

def binding : RemoteEngine → Value → Remote.Binding
  | .mysql => Remote.mysqlBinding
  | .postgres => Remote.postgresBinding

end RemoteEngine

namespace Remote

/-- An error that an engine reports. -/
structure EngineError where
  number : Nat
  state : String
  message : String
  deriving DecidableEq, Repr

/-- MySQL's errors are shown with their number and state. -/
def EngineError.text (e : EngineError) : RemoteEngine → String
  | .mysql => "error returned from database: " ++ toString e.number ++ " (" ++ e.state ++ "): "
    ++ e.message
  | .postgres => "error returned from database: " ++ e.message

inductive Answer where
  | rows (columns : List Column) (rows : List (List Cell))
  /-- A write, with the number that MySQL generated for a key; zero if it generated none. -/
  | write (affected generated : Nat)

inductive Reply where
  /-- The statement is refused before its parameters are bound. -/
  | refused (e : EngineError)
  /-- The statement runs; an error may come after its rows. -/
  | ran (answer : Answer) (fault : Option EngineError)

/-- A statement as an engine receives it, without parameters if it is refused before. -/
structure Request where
  sql : String
  bindings : Option (List Binding)

end Remote

open Remote

/-- A pool whose engine answers from a queue. -/
structure RemotePool where
  engine : RemoteEngine
  received : List Request
  replies : List Reply
  isClosed : Bool
  deriving Inhabited

namespace RemotePool

def new (engine : RemoteEngine) (replies : List Reply) : RemotePool := ⟨engine, [], replies, false⟩

/-- What a pool that was closed says to a statement. -/
def closedFailure : Failure :=
  DriverFault.poolClosed.failure "attempted to acquire a connection on a closed pool"

/-- What an engine says when the queue has no word on a statement. -/
def nothing : Reply := .ran (.write 0 0) none

/-- Sends a statement and takes its reply. -/
def send (s : Statement) (pool : RemotePool) : Reply × RemotePool :=
  let reply := pool.replies.head?.getD nothing
  let bindings := match reply with
    | .refused _ => none
    | .ran .. => some (s.params.map pool.engine.binding)
  (reply, { pool with
    received := pool.received ++ [⟨s.sql, bindings⟩]
    replies := pool.replies.tail })

def engineFailure (engine : RemoteEngine) (e : EngineError) : Failure :=
  DriverFault.engine.failure (e.text engine)

/-- The rows of an answer; a write has none. -/
def rowsOf (engine : RemoteEngine) : Answer → List Row
  | .rows columns rows => rows.map (row engine.engine columns)
  | .write .. => []

/-- The rows of a reply, up to an error if there is one. -/
def cursorOf (engine : RemoteEngine) : Reply → Cursor
  | .refused e => [.error (engineFailure engine e)]
  | .ran answer fault =>
    (rowsOf engine answer).map .ok ++ fault.toList.map fun e => .error (engineFailure engine e)

/-- The answer of a reply that came without an error. -/
def answerOf (engine : RemoteEngine) : Reply → Except Failure Answer
  | .refused e => .error (engineFailure engine e)
  | .ran _ (some e) => .error (engineFailure engine e)
  | .ran answer none => .ok answer

/-- What reading the first column of a row without columns fails with. -/
def noColumnFailure : Failure :=
  DriverFault.columnNotFound.failure "column index out of bounds: the len is 0, but the index is 0"

/-- Whether the text of a failure is a database driver's. -/
def isDriverText : Failure → Bool
  | .statement m _ => .statement m "" = noColumnFailure || undecoded.isPrefixOf m
  | f => f = closedFailure

/-- The key that a write gives back: the first column of its last row. -/
def returnedKey (rows : List Row) : Except Failure (Option Json) :=
  match rows.getLast? with
  | none => .ok none
  | some [] => .error noColumnFailure
  | some ((_, cell) :: _) => cell.map fun v => some v.toJson

/-- How many rows a statement affected. Only PostgreSQL counts rows that it answers with. -/
def affected (engine : RemoteEngine) : Answer → Nat
  | .write n _ => n
  | .rows _ rows => match engine with
    | .postgres => rows.length
    | .mysql => 0

def generatedKey : Answer → Option Json
  | .write _ 0 => none
  | .write _ n => some (.int n)
  | .rows .. => none

/-- Outcome of a write. Only a write with a returning column reports a key. -/
def writeResult (engine : RemoteEngine) (returning : Bool) (answer : Answer) :
    Except Failure WriteResult :=
  match engine, returning with
  | .postgres, true =>
    let rows := rowsOf engine answer
    (returnedKey rows).map fun key => ⟨rows.length, rows.length, key⟩
  | .mysql, true => .ok ⟨affected engine answer, affected engine answer, generatedKey answer⟩
  | _, false => .ok ⟨affected engine answer, affected engine answer, none⟩

/-- A pool at rest holds one connection, and that one idle. Closing lets it go but does not take it
off the count of idle ones. -/
def stats (pool : RemotePool) : PoolStats :=
  let total := if pool.isClosed then 0 else 1
  let idle := 1
  ⟨total, idle, total - idle⟩

instance : Pool RemotePool where
  execute s pool :=
    if pool.isClosed then (.error closedFailure, pool)
    else
      let (reply, pool) := pool.send s
      ((answerOf pool.engine reply).bind (writeResult pool.engine s.returning.isSome), pool)
  fetchAll s pool :=
    if pool.isClosed then (.error closedFailure, pool)
    else
      let (reply, pool) := pool.send s
      ((answerOf pool.engine reply).map (rowsOf pool.engine), pool)
  openCursor s pool :=
    if pool.isClosed then ([.error closedFailure], pool)
    else
      let (reply, pool) := pool.send s
      (cursorOf pool.engine reply, pool)
  -- A statement is sent when its first row is asked for.
  dropCursor _ pool := pool
  notePulled _ pool := pool
  close pool := (.ok (), { pool with isClosed := true })
  stats := stats

end RemotePool

namespace Remote

/-- How a server meets the first connection of a pool. -/
inductive Reception where
  | accepts (replies : List Reply)
  | refuses (e : EngineError)
  | absent
  | hangsUp

/-- Opens pools for an engine, on a server that meets them in some way. What the system says about
a server that cannot be reached is left out. -/
def backend (e : Engine) (reception : Reception) : Backend RemotePool := fun c =>
  let failed (reason : String) : Except Failure RemotePool :=
    .error (.connection ("Failed to create " ++ e.title ++ " pool '" ++ c.name ++ "'" ++ reason))
  let remote (engine : RemoteEngine) : Except Failure RemotePool :=
    match reception with
    | .accepts replies => .ok (.new engine replies)
    | .refuses error => failed (": " ++ error.text engine)
    | .absent | .hangsUp => failed ""
  match e with
  | .mysql => remote .mysql
  | .postgres => remote .postgres
  | .mssql =>
    match reception with
    | .absent => failed (": " ++ (Failure.connection "Failed to reach SQL Server").text)
    | _ => failed ""

/-- Backends of all engines. -/
def backends (reception : Reception) : List (Engine × Backend RemotePool) :=
  [Engine.mssql, .mysql, .postgres].map fun e => (e, backend e reception)

end Remote
end SqlRecords
