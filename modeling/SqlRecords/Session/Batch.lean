import SqlRecords.Session.Run

/-! Running several queries, one after another. -/
namespace SqlRecords

/-- A query with what to do with it. -/
inductive Task where
  | fetch (q : Query)
  | save (q : Query)
  | delete (q : Query)

/-- What a task that succeeded gave. -/
inductive TaskOutcome where
  | rows (records : List Record)
  | write (result : WriteResult)

/-- What is reported of a task. -/
structure TaskReport where
  success : Bool
  rows : Option (List Record)
  rowsAffected : Option Nat
  rowsChanged : Option Nat
  insertId : Option Json
  failure : Option Failure

namespace TaskReport

def ofRows (records : List Record) : TaskReport := ⟨true, some records, none, none, none, none⟩

def ofWrite (r : WriteResult) : TaskReport :=
  ⟨true, none, some r.rowsAffected, some r.rowsChanged, r.insertId, none⟩

/-- Of a task that failed only the failure is reported. -/
def failed (f : Failure) : TaskReport := ⟨false, none, none, none, none, some f⟩

def ofOutcome : TaskOutcome → TaskReport
  | .rows records => ofRows records
  | .write r => ofWrite r

def of : Except Failure TaskOutcome → TaskReport
  | .ok o => ofOutcome o
  | .error f => failed f

end TaskReport

abbrev Batch := List Task

variable {π : Type} [Pool π]

def Task.run : Task → Session π TaskOutcome
  | .fetch q => .rows <$> q.fetch
  | .save q => .write <$> q.save
  | .delete q => .write <$> q.delete

namespace Batch

/-- Runs all tasks; one that fails does not keep the others from running. -/
def run (batch : Batch) : StateM (Database π) (List (Except Failure TaskOutcome)) :=
  List.mapM (fun t => (Task.run t).run) batch

/-- Runs tasks up to the first that fails. -/
def runStrictly (batch : Batch) : Session π (List TaskOutcome) := List.mapM Task.run batch

/-- Runs all tasks and reports on each, in their order. -/
def reports (batch : Batch) : StateM (Database π) (List TaskReport) := do
  return (← batch.run).map .of

/-- Runs tasks up to the first that fails, and reports on each if none does. -/
def reportsStrictly (batch : Batch) : Session π (List TaskReport) := do
  return (← batch.runStrictly).map .ofOutcome

end Batch
end SqlRecords
