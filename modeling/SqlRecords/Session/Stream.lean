import SqlRecords.Session.Memory
import SqlRecords.Session.Run

/-! Reading the rows of a query in batches, each handed over before the next row is read. -/
namespace SqlRecords

/-- What a consumer says to the last of the batches it was handed: whether to go on. -/
abbrev Consumer (α : Type) := List α → Except Failure Bool

/-- A batch as it was handed over. -/
structure Delivery where
  batch : List Record
  /-- How many rows had been read from the cursor by then. -/
  pulled : Nat

structure Streamed where
  deliveries : List Delivery
  pulled : Nat
  /-- The number of rows handed over. -/
  outcome : Except Failure Nat

namespace Streamed

def batches (deliveries : List Delivery) : List (List Record) := deliveries.map (·.batch)

/-- Number of rows handed over. -/
def delivered (deliveries : List Delivery) : Nat := (batches deliveries).flatten.length

/-- Reads a cursor row by row. A batch is handed over when it holds `size` rows, and what is left at
the end is handed over as a last one. The statement is named in an error that the cursor yields. -/
def ofCursor (sql : String) (size : Nat) (consumer : Consumer (List Record))
    (past : List Delivery) (batch : List Record) (pulled : Nat) : Cursor → Streamed
  | [] =>
    if batch.isEmpty then ⟨past, pulled, .ok (delivered past)⟩
    else
      let past := past ++ [⟨batch, pulled⟩]
      ⟨past, pulled, (consumer (batches past)).map fun _ => delivered past⟩
  | .error f :: _ => ⟨past, pulled, .error (f.withSql sql)⟩
  | .ok row :: rest =>
    match row.toRecord with
    | .error f => ⟨past, pulled + 1, .error f⟩
    | .ok record =>
      if batch.length + 1 < size then
        ofCursor sql size consumer past (batch ++ [record]) (pulled + 1) rest
      else
        let past := past ++ [⟨batch ++ [record], pulled + 1⟩]
        match consumer (batches past) with
        | .error f => ⟨past, pulled + 1, .error f⟩
        | .ok false => ⟨past, pulled + 1, .ok (delivered past)⟩
        | .ok true => ofCursor sql size consumer past [] (pulled + 1) rest

end Streamed

/-- Reads the rows of a statement from the pool at a position and hands them over in batches of
`size`, at least one row each. Room for a whole batch is asked for before a row is. -/
def Session.streamAt {π : Type} [Pool π] (s : Statement) (i : Nat) (memory : Memory) (size : Nat)
    (consumer : Consumer (List Record)) : Session π (Except Crash Streamed) := do
  match memory.crash? (max size 1) with
  | some crash =>
    Session.onPool i fun pool => ((), Pool.dropCursor s pool)
    return .error crash
  | none =>
    let cursor ← Session.onPool i (Pool.openCursor s)
    let streamed := Streamed.ofCursor s.sql size consumer [] [] 0 cursor
    Session.onPool i fun pool => ((), Pool.notePulled streamed.pulled pool)
    return .ok streamed

/-- Runs a query and hands its rows over in batches. -/
def Query.stream {π : Type} [Pool π] (q : Query) (memory : Memory) (size : Nat)
    (consumer : Consumer (List Record)) : Session π (Except Crash Streamed) := do
  let s ← written q.selectStatement
  let i ← q.pool
  Session.streamAt s i memory size consumer

end SqlRecords
