import Mathlib.Algebra.BigOperators.Group.List.Basic
import Mathlib.Algebra.Ring.Nat
import SqlRecords.Proofs.Session.Executions
import SqlRecords.Session.Batch

/-! The tasks of a batch at the same time, turn by turn. A task that opens a pool keeps the lock of
the registry while the backend is at work, and a task that asks its pool hears the answer later. -/
namespace SqlRecords

/-- How far a task has come. -/
inductive TaskPhase where
  | ready
  /-- The statement is written, and the registry is to be asked for the pool. -/
  | waiting (s : Statement) (c : Config)
  /-- The registry is locked while the backend is at work. -/
  | opening (s : Statement) (c : Config)
  | connected (s : Statement) (i : Nat)
  /-- The pool has answered, and the task has not heard of it. -/
  | answered (outcome : Except Failure TaskOutcome)
  | done (outcome : Except Failure TaskOutcome)

namespace TaskPhase

def isOpening : TaskPhase → Bool
  | opening .. => true
  | _ => false

/-- How many turns of its own a task needs at most until it is done. -/
def rank : TaskPhase → Nat
  | ready => 5
  | waiting .. => 4
  | opening .. => 3
  | connected .. => 2
  | answered _ => 1
  | done _ => 0

end TaskPhase

namespace Task
variable {π : Type} [Pool π]

def query : Task → Query
  | fetch q | save q | delete q => q

/-- What the query of a task is written as. -/
def statement : Task → Except Incomplete Statement
  | fetch q => q.selectStatement
  | save q => q.saveStatement
  | delete q => q.deleteStatement

/-- What a task finds out before it asks for a pool. -/
def plan (t : Task) : Session π (Statement × Config) := do
  let s ← Query.written t.statement
  let source ← Session.ofExcept t.query.boundSource
  let c ← Session.config source
  return (s, c)

/-- What a task does once it has a pool. -/
def ask (s : Statement) (i : Nat) : Task → Session π TaskOutcome
  | fetch _ => .rows <$> Session.rowsAt s i
  | save _ | delete _ => .write <$> Session.writeAt s i

theorem run_eq (t : Task) : (t.run : Session π TaskOutcome) = (do
    let (s, c) ← t.plan
    let i ← Session.poolFor c
    t.ask s i) := by
  cases t <;>
    simp [run, plan, statement, query, ask, Query.fetch, Query.save, Query.delete, Query.rowsOf,
      Query.send, Query.pool, Session.pool, Session.rowsAt, Session.writeAt]

/-- What a task finds out depends on the configurations, and finding out changes nothing. -/
theorem run_plan {π : Type} (t : Task) (db : Database π) : t.plan.run.run db = ((do
    let s ← t.statement.mapError Incomplete.failure
    let source ← t.query.boundSource
    match db.config? source with
    | some c => return (s, c)
    | none => throw (PoolError.unknownSource source).failure : Except Failure _), db) := by
  unfold plan Query.written
  cases t.statement with
  | error x => rfl
  | ok s =>
    cases t.query.boundSource with
    | error f => rfl
    | ok source =>
      refine (Session.run_bind (Session.config source) _ db).trans ?_
      rw [Session.run_config]
      change _ = ((match db.config? source with
        | some c => .ok (s, c)
        | none => .error (PoolError.unknownSource source).failure : Except Failure _), db)
      cases db.config? source <;> rfl

theorem plan_same {π : Type} (t : Task) (db : Database π) : (t.plan.run.run db).2 = db :=
  congrArg Prod.snd (t.run_plan db)

/-- One turn of a task. A task that has to wait for the lock of the registry stays where it is. -/
def turn (t : Task) (isFree : Bool) (db : Database π) : TaskPhase → TaskPhase × Database π
  | .ready =>
    match (t.plan.run.run db).1 with
    | .ok (s, c) => (.waiting s c, db)
    | .error f => (.done (.error f), db)
  | .waiting s c =>
    if isFree then
      match db.registry.get? c.name with
      | some i => (.connected s i, db)
      | none => (.opening s c, db)
    else (.waiting s c, db)
  | .opening s c =>
    match db.opening c with
    | .ok p => (.connected s db.opened.length, db.register c.name c.engine p)
    | .error f => (.done (.error f), db)
  | .connected s i =>
    let (outcome, db) := (t.ask s i).run.run db
    (.answered outcome, db)
  | .answered outcome => (.done outcome, db)
  | .done outcome => (.done outcome, db)

/-- What a task has still to do. -/
def rest (t : Task) : TaskPhase → Session π TaskOutcome
  | .ready => t.run
  | .waiting s c | .opening s c => Session.poolFor c >>= fun i => t.ask s i
  | .connected s i => t.ask s i
  | .answered outcome | .done outcome => Session.ofExcept outcome

/-- A turn does a part of what there is to do. -/
theorem rest_turn (t : Task) (isFree : Bool) {db : Database π} {phase : TaskPhase}
    (hopening : ∀ s c, phase = .opening s c → db.registry.get? c.name = none) :
    (t.rest (t.turn isFree db phase).1).run.run (t.turn isFree db phase).2 =
      (t.rest phase).run.run db := by
  cases phase with
  | ready =>
    have hsame := t.plan_same db
    simp only [turn, rest, run_eq, Session.run_bind]
    cases hplan : t.plan.run.run db with
    | mk planned mid =>
      rw [hplan] at hsame
      obtain rfl : mid = db := hsame
      cases planned with
      | error f => rfl
      | ok planned => exact Session.run_bind _ _ _
  | waiting s c =>
    cases isFree with
    | false => rfl
    | true =>
      have hpool := Session.run_poolFor c db
      simp only [turn, if_true]
      cases hi : db.registry.get? c.name with
      | none => rfl
      | some i =>
        rw [hi] at hpool
        simp only [rest, Session.run_bind, hpool]
  | opening s c =>
    have hpool := Session.run_poolFor c db
    rw [hopening s c rfl] at hpool
    simp only [turn]
    cases hp : db.opening c with
    | error f =>
      rw [hp] at hpool
      simp only [rest, Session.run_bind, hpool]
      rfl
    | ok p =>
      rw [hp] at hpool
      simp only [rest, Session.run_bind, hpool]
  | connected s i => rfl
  | answered outcome | done outcome => rfl

/-- A task that locks the registry found no pool there. -/
theorem opening_of_turn {t : Task} {isFree : Bool} {db : Database π} {phase : TaskPhase}
    {s : Statement} {c : Config} (h : (t.turn isFree db phase).1 = .opening s c) :
    phase = .waiting s c ∧ isFree = true ∧ db.registry.get? c.name = none ∧
      (t.turn isFree db phase).2 = db := by
  cases phase with
  | waiting s' c' =>
    cases isFree with
    | false => cases h
    | true =>
      simp only [turn, if_true] at h ⊢
      cases hi : db.registry.get? c'.name with
      | some i =>
        rw [hi] at h
        cases h
      | none =>
        rw [hi] at h
        cases h
        exact ⟨rfl, trivial, hi, rfl⟩
  | ready | opening =>
    simp only [turn] at h
    split at h <;> cases h
  | connected | answered | done => cases h

end Task

/-- A batch on its way: the database, and how far each task has come. -/
structure BatchRun (π : Type) where
  db : Database π
  members : List (Task × TaskPhase)

namespace BatchRun
variable {π : Type}

def start (db : Database π) (batch : Batch) : BatchRun π := ⟨db, batch.map fun t => (t, .ready)⟩

/-- Whether no member keeps the lock of the registry. -/
def isFree (r : BatchRun π) : Bool := !r.members.any (·.2.isOpening)

/-- The member at a position takes a turn. -/
def step [Pool π] (r : BatchRun π) (k : Nat) : BatchRun π :=
  match r.members[k]? with
  | none => r
  | some (t, phase) =>
    let (phase, db) := t.turn r.isFree r.db phase
    ⟨db, r.members.set k (t, phase)⟩

/-- The members take their turns in this order. -/
def run [Pool π] (r : BatchRun π) (schedule : List Nat) : BatchRun π := schedule.foldl step r

def IsOver (r : BatchRun π) : Prop := ∀ m ∈ r.members, ∃ outcome, m.2 = .done outcome

section
variable [Pool π]

theorem step_of_some {r : BatchRun π} {k : Nat} {t : Task} {phase : TaskPhase}
    (hk : r.members[k]? = some (t, phase)) :
    r.step k = ⟨(t.turn r.isFree r.db phase).2,
      r.members.set k (t, (t.turn r.isFree r.db phase).1)⟩ := by
  unfold step
  rw [hk]

theorem step_of_none {r : BatchRun π} {k : Nat} (hk : r.members[k]? = none) : r.step k = r := by
  unfold step
  rw [hk]

theorem run_cons (r : BatchRun π) (k : Nat) (schedule : List Nat) :
    r.run (k :: schedule) = (r.step k).run schedule := rfl

theorem run_append (r : BatchRun π) (early late : List Nat) :
    r.run (early ++ late) = (r.run early).run late := List.foldl_append ..

end

variable [Pool π]

theorem IsOver.step {r : BatchRun π} (h : r.IsOver) (k : Nat) : r.step k = r := by
  cases hk : r.members[k]? with
  | none => exact step_of_none hk
  | some m =>
    obtain ⟨t, phase⟩ := m
    obtain ⟨hlt, hget⟩ := List.getElem?_eq_some_iff.mp hk
    obtain ⟨outcome, rfl⟩ : ∃ outcome, phase = .done outcome := h _ (List.mem_of_getElem? hk)
    rw [step_of_some hk]
    simp only [Task.turn]
    rw [← hget, List.set_getElem_self]

theorem IsOver.run {r : BatchRun π} (h : r.IsOver) (schedule : List Nat) :
    r.run schedule = r := by
  induction schedule with
  | nil => rfl
  | cons k rest ih => rw [run_cons, h.step, ih]

end BatchRun

namespace Batch
variable {π : Type} [Pool π]

theorem run_cons (t : Task) (rest : Batch) (db : Database π) :
    (run (t :: rest)).run db =
      ((t.run.run.run db).1 :: ((run rest).run (t.run.run.run db).2).1,
        ((run rest).run (t.run.run.run db).2).2) := by
  simp only [run, List.mapM_cons]
  rfl

end Batch

namespace BatchRun
variable {π : Type} [Pool π]

end BatchRun
end SqlRecords
