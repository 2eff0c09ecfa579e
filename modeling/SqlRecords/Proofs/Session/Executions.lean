import SqlRecords.Model.Fetch
import SqlRecords.Pool.Scripted
import SqlRecords.Proofs.Query.Pages
import SqlRecords.Proofs.Session.Pools
import SqlRecords.Session.Stream

/-! Everything that is done with a query on its data source. The query is written, a pool is asked
for, and the pool gets the statement. -/
namespace SqlRecords

namespace Session
variable {π : Type} [Pool π]

/-- Reads the rows of a statement from the pool at a position. -/
def rowsAt (s : Statement) (i : Nat) : Session π (List Record) := do
  let result ← onPool i (Pool.fetchAll s)
  let rows ← ofExcept (result.mapError (·.withSql s.sql))
  ofExcept (rows.mapM Row.toRecord)

def writeAt (s : Statement) (i : Nat) : Session π WriteResult := do
  let result ← onPool i (Pool.execute s)
  ofExcept (result.mapError (·.withSql s.sql))

end Session

theorem Query.pool_of_source {π : Type} {q : Query} {source : String}
    (h : q.dataSource = some source) : (q.pool : Session π Nat) = Session.pool source := by
  unfold pool boundSource
  rw [h]
  rfl

theorem Query.pool_of_none {π : Type} {q : Query} (h : q.dataSource = none) :
    (q.pool : Session π Nat) = throw (.usage "query is not bound to a data source") := by
  unfold pool boundSource
  rw [h]
  rfl

/-- What may be done with a query. -/
inductive Execution where
  | fetch | fetchFirst
  | fetchModels (schema : Schema)
  | stream (memory : Memory) (size : Nat) (consumer : Consumer (List Record))
  | streamModels (schema : Schema) (memory : Memory) (size : Nat) (consumer : Consumer ModelSet)
  | save | delete | count
  | paginate (perPage page : Nat)

namespace Execution

def Outcome : Execution → Type
  | fetch => List Record
  | fetchFirst => Option Record
  | fetchModels _ => ModelSet
  | stream .. | streamModels .. => Except Crash Streamed
  | save | delete => WriteResult
  | count => Nat
  | paginate .. => Pagination × Query

/-- What the query is written as. -/
def statement (q : Query) : Execution → Except Incomplete Statement
  | fetch | fetchFirst | fetchModels _ | stream .. | streamModels .. => q.selectStatement
  | save => q.saveStatement
  | delete => q.deleteStatement
  | count | paginate .. => q.countStatement

/-- Whether the data source of the query is looked at before the query is written. -/
def readsModels : Execution → Bool
  | fetchModels _ | streamModels .. => true
  | _ => false

/-- Why nothing comes of an execution, whatever the database: the query has no data source, or it
cannot be written. -/
def refusal? (e : Execution) (q : Query) : Option Failure :=
  match q.boundSource, e.statement q with
  | .ok _, .ok _ => none
  | .ok _, .error x => some x.failure
  | .error f, .ok _ => some f
  | .error f, .error x => some (if e.readsModels then f else x.failure)

variable {π : Type} [Pool π]

def run (q : Query) : (e : Execution) → Session π e.Outcome
  | fetch => q.fetch
  | fetchFirst => q.fetchFirst
  | fetchModels schema => q.fetchModels schema
  | stream memory size consumer => q.stream memory size consumer
  | streamModels schema memory size consumer => q.streamModels schema memory size consumer
  | save => q.save
  | delete => q.delete
  | count => q.count
  | paginate perPage page => q.paginate perPage page

/-- What is done once there is a statement and a pool. -/
def ask (q : Query) (s : Statement) (i : Nat) : (e : Execution) → Session π e.Outcome
  | fetch => Session.rowsAt s i
  | fetchFirst => do return (← Session.rowsAt s i).head?
  | fetchModels schema => do return q.toModels schema (← Session.rowsAt s i)
  | stream memory size consumer => Session.streamAt s i memory size consumer
  | streamModels schema memory size consumer =>
    Session.streamAt s i memory size fun batches => consumer (batches.map (q.toModels schema))
  | save | delete => Session.writeAt s i
  | count => do return ((← Session.rowsAt s i).head?.map Record.count).getD 0
  | paginate perPage page => do
    let total := ((← Session.rowsAt s i).head?.map Record.count).getD 0
    return (.ofCount total perPage (max page 1), q.forPage perPage page)

/-- Every execution goes the same way: the query is written, a pool is asked for, and then the pool
is asked. -/
theorem run_eq (e : Execution) (q : Query) : (e.run q : Session π e.Outcome) = (do
    if e.readsModels then discard (Session.ofExcept q.boundSource)
    let s ← Query.written (e.statement q)
    let i ← q.pool
    e.ask q s i) := by
  have hrows (s : Statement) : (q.rowsOf s : Session π _) = q.pool >>= Session.rowsAt s := rfl
  have hwrite (s : Statement) : (q.send s : Session π _) = q.pool >>= Session.writeAt s := rfl
  cases e with
  | fetch | fetchFirst | count | paginate =>
    simp [run, ask, statement, readsModels, Query.fetch, Query.fetchFirst, Query.count,
      Query.countOf, Query.paginate, hrows]
    rfl
  | fetchModels =>
    simp [run, ask, statement, readsModels, Query.fetchModels, Query.fetch, hrows]
    rfl
  | stream | streamModels =>
    simp [run, ask, statement, readsModels, Query.stream, Query.streamModels]
    rfl
  | save | delete =>
    simp [run, ask, statement, readsModels, Query.save, Query.delete, hwrite]
    rfl

/-- An execution that is refused leaves every database as it is. -/
theorem run_refused {e : Execution} {q : Query} {f : Failure} (h : e.refusal? q = some f)
    (db : Database π) : (e.run q).run.run db = (.error f, db) := by
  rw [run_eq]
  unfold refusal? at h
  unfold Query.written
  cases hbound : q.boundSource with
  | error f' =>
    rw [hbound] at h
    have hpool : (q.pool : Session π Nat) = throw f' := by
      unfold Query.pool
      rw [hbound]
      rfl
    cases hs : e.statement q with
    | ok s =>
      rw [hs] at h
      cases h
      rw [hpool]
      cases e.readsModels <;> rfl
    | error x =>
      rw [hs] at h
      cases h
      cases e.readsModels <;> rfl
  | ok source =>
    rw [hbound] at h
    cases hs : e.statement q with
    | ok s =>
      rw [hs] at h
      cases h
    | error x =>
      rw [hs] at h
      cases h
      cases e.readsModels <;> rfl

/-- An execution that is not refused asks for the pool of its data source. -/
theorem run_accepted {e : Execution} {q : Query} {source : String} {s : Statement}
    (hsource : q.dataSource = some source) (hs : e.statement q = .ok s) (db : Database π) :
    (e.run q).run.run db = (Session.pool source >>= fun i => e.ask q s i).run.run db := by
  have hbound : q.boundSource = .ok source := by
    unfold Query.boundSource
    rw [hsource]
  rw [run_eq, hs, Query.pool_of_source hsource, hbound]
  cases e.readsModels <;> rfl

theorem refusal?_eq_none_iff {e : Execution} {q : Query} : e.refusal? q = none ↔
    ∃ source s, q.dataSource = some source ∧ e.statement q = .ok s := by
  unfold refusal? Query.boundSource
  cases q.dataSource with
  | none => cases e.statement q <;> simp
  | some source => cases e.statement q <;> simp

end Execution

namespace Session
variable {π α β : Type}

theorem mirrors_rowsAt [Pool π] (s : Statement) (i : Nat) :
    Mirrors (π := π) id (rowsAt s i) (rowsAt s i) := by
  refine mirrors_bind (mirrors_onPool i fun _ => rfl) fun result => ?_
  exact mirrors_bind (mirrors_ofExcept _) fun rows => mirrors_ofExcept _

theorem mirrors_writeAt [Pool π] (s : Statement) (i : Nat) :
    Mirrors (π := π) id (writeAt s i) (writeAt s i) :=
  mirrors_bind (mirrors_onPool i fun _ => rfl) fun _ => mirrors_ofExcept _

theorem mirrors_streamAt [Pool π] (s : Statement) (i : Nat) (memory : Memory) (size : Nat)
    (consumer : Consumer (List Record)) :
    Mirrors (π := π) id (streamAt s i memory size consumer)
      (streamAt s i memory size consumer) := by
  unfold streamAt
  cases memory.crash? (max size 1) with
  | some crash => exact mirrors_bind (mirrors_onPool i fun _ => rfl) fun _ => mirrors_pure id _
  | none =>
    refine mirrors_bind (mirrors_onPool i fun _ => rfl) fun cursor => ?_
    exact mirrors_bind (mirrors_onPool i fun _ => rfl) fun _ => mirrors_pure id _

/-- A step sends `s` once, to the pool at a position, if there is one. -/
def SendsAt (i : Nat) (s : Statement) (x : Session (Recorded π) α) : Prop :=
  ∀ db : Database (Recorded π), db.IsFresh →
    db.Sends (if i < db.opened.length then [⟨i, s⟩] else []) (x.run.run db).2

theorem sendsAt_onPool [Inhabited α] (i : Nat) (s : Statement) (f : π → α × π) :
    SendsAt i s (onPool i fun p : Recorded π => p.pass s f) := by
  intro db _
  rw [run_onPool]
  cases ho : db.opened[i]? with
  | none =>
    rw [if_neg (by simpa using ho)]
    exact .refl db
  | some o =>
    obtain ⟨hi, -⟩ := List.getElem?_eq_some_iff.mp ho
    rw [if_pos hi]
    exact Database.sends_modifyPool ho rfl

theorem SendsAt.bind {i : Nat} {s : Statement} {x : Session (Recorded π) α}
    {f : α → Session (Recorded π) β} (hx : SendsAt i s x) (hf : ∀ a, SendsNothing (f a)) :
    SendsAt i s (x >>= f) := by
  intro db hdb
  have hsends := hx db hdb
  rw [run_bind]
  cases hrun : x.run.run db with
  | mk outcome mid =>
    rw [hrun] at hsends
    cases outcome with
    | error e => exact hsends
    | ok a => simpa using hsends.trans (hf a mid (hsends.isFresh hdb))

theorem sendsNothing_notePulled [Pool π] (i n : Nat) :
    SendsNothing (π := π) (onPool i fun p => ((), Pool.notePulled n p)) := by
  intro db _
  rw [run_onPool]
  cases ho : db.opened[i]? with
  | none => exact .refl db
  | some o => exact Database.sends_modifyPool_nothing ho rfl

theorem sendsAt_rowsAt [Pool π] (s : Statement) (i : Nat) :
    SendsAt (π := π) i s (rowsAt s i) := by
  refine (sendsAt_onPool i s (Pool.fetchAll s)).bind fun result => ?_
  exact (sendsNothing_ofExcept _).bind fun rows => sendsNothing_ofExcept _

theorem sendsAt_writeAt [Pool π] (s : Statement) (i : Nat) :
    SendsAt (π := π) i s (writeAt s i) :=
  (sendsAt_onPool i s (Pool.execute s)).bind fun _ => sendsNothing_ofExcept _

theorem sendsAt_streamAt [Pool π] (s : Statement) (i : Nat) (memory : Memory) (size : Nat)
    (consumer : Consumer (List Record)) :
    SendsAt (π := π) i s (streamAt s i memory size consumer) := by
  unfold streamAt
  cases memory.crash? (max size 1) with
  | some crash =>
    have hdrop := sendsAt_onPool i s fun p : π => ((), Pool.dropCursor s p)
    exact hdrop.bind fun _ => sendsNothing_pure _
  | none =>
    refine (sendsAt_onPool i s (Pool.openCursor s)).bind fun cursor => ?_
    exact (sendsNothing_notePulled i _).bind fun _ => sendsNothing_pure _

end Session

namespace Execution
variable {π : Type} [Pool π]
open Session

theorem mirrors_ask (e : Execution) (q : Query) (s : Statement) (i : Nat) :
    Mirrors (π := π) id (e.ask q s i) (e.ask q s i) := by
  cases e with
  | fetch => exact mirrors_rowsAt s i
  | fetchFirst | fetchModels | count | paginate =>
    exact mirrors_bind (mirrors_rowsAt s i) fun rows => mirrors_pure id _
  | stream | streamModels => exact mirrors_streamAt s i _ _ _
  | save | delete => exact mirrors_writeAt s i

/-- A pool that is asked gets the statement that was written, and nothing else. -/
theorem sendsAt_ask (e : Execution) (q : Query) (s : Statement) (i : Nat) :
    SendsAt (π := π) i s (e.ask q s i) := by
  cases e with
  | fetch => exact sendsAt_rowsAt s i
  | fetchFirst | fetchModels | count | paginate =>
    exact (sendsAt_rowsAt s i).bind fun rows => sendsNothing_pure _
  | stream | streamModels => exact sendsAt_streamAt s i _ _ _
  | save | delete => exact sendsAt_writeAt s i

end Execution

namespace Database
variable {π : Type}

/-- What goes out when a statement is executed on a data source: the statement, to the pool that is
registered or can be opened now, and nothing where there is none. -/
def sendings (db : Database π) (source : String) (s : Statement) : List Sending :=
  match (Session.pool source).run.run db with
  | (.ok i, mid) => if i < mid.opened.length then [⟨i, s⟩] else []
  | (.error _, _) => []

/-- Where a pool is available it gets the statement. -/
theorem sendings_of_available {db mid : Database π} {source : String} {i : Nat}
    (hpool : (Session.pool source).Yields db i mid) (hi : i < mid.opened.length) (s : Statement) :
    db.sendings source s = [⟨i, s⟩] := by
  unfold sendings
  rw [hpool]
  exact if_pos hi

end Database

namespace Session
variable {π α : Type}

/-- From a database a step sends these statements and no others. The records that tell so change
nothing else about it. -/
def SendsFrom (db : Database π) (sent : List Database.Sending) (x : Session (Recorded π) α)
    (y : Session π α) : Prop :=
  ∃ outcome kept, x.run.run db.recording = (outcome, kept) ∧
    y.run.run db = (outcome, kept.forget) ∧ db.recording.Sends sent kept

theorem SendsFrom.of_mirrors {db : Database π} {sent : List Database.Sending}
    {x : Session (Recorded π) α} {y : Session π α} (hmirrors : Mirrors id x y)
    (hsends : db.recording.Sends sent (x.run.run db.recording).2) : SendsFrom db sent x y :=
  ⟨_, _, rfl, hmirrors.run_recording db, hsends⟩

/-- What is asked of the pool of a data source goes out where a pool is available. -/
theorem sendsFrom_pool [Pool π] {s : Statement} {x : Nat → Session (Recorded π) α}
    {y : Nat → Session π α} (hmirrors : ∀ i, Mirrors id (x i) (y i)) (hsends : ∀ i, SendsAt i s (x i))
    (source : String) (db : Database π) :
    SendsFrom db (db.sendings source s) (Session.pool source >>= x) (Session.pool source >>= y) := by
  apply SendsFrom.of_mirrors (mirrors_bind (mirrors_pool source) hmirrors)
  have hpool := (mirrors_pool (π := π) source).run_recording db
  have hopens := sendsNothing_pool (π := π) source db.recording db.isFresh_recording
  unfold Database.sendings
  rw [run_bind, hpool]
  cases hrun : (Session.pool source).run.run db.recording with
  | mk outcome mid =>
    rw [hrun] at hopens
    cases outcome with
    | error f => exact hopens
    | ok i =>
      have hasks := hsends i mid (hopens.isFresh db.isFresh_recording)
      have hlength : mid.forget.opened.length = mid.opened.length := List.length_map ..
      simp only [hlength]
      exact hopens.trans hasks

end Session

namespace Execution
variable {π : Type} [Pool π]
open Session

/-- An execution that is not refused sends what was written, once, where a pool is available. -/
theorem sendsFrom_run {e : Execution} {q : Query} {source : String} {s : Statement}
    (hsource : q.dataSource = some source) (hs : e.statement q = .ok s) (db : Database π) :
    SendsFrom db (db.sendings source s) (e.run q) (e.run q) := by
  obtain ⟨outcome, kept, hkept, hplain, hsent⟩ :=
    sendsFrom_pool (mirrors_ask e q s) (sendsAt_ask e q s) source db
  exact ⟨outcome, kept, (run_accepted hsource hs _).trans hkept,
    (run_accepted hsource hs db).trans hplain, hsent⟩

end Execution

/-- A write that is sent goes out once where a pool is available. -/
theorem Query.sendsFrom_send {π : Type} [Pool π] {q : Query} {source : String}
    (hsource : q.dataSource = some source) (s : Statement) (db : Database π) :
    Session.SendsFrom db (db.sendings source s) (q.send s) (q.send s) := by
  have hpool (ρ : Type) : (q.pool : Session ρ Nat) = Session.pool source := by
    unfold Query.pool boundSource
    rw [hsource]
    rfl
  have hwrite (ρ : Type) [Pool ρ] :
      (q.send s : Session ρ WriteResult) = Session.pool source >>= Session.writeAt s := by
    rw [← hpool]
    rfl
  rw [hwrite, hwrite]
  exact Session.sendsFrom_pool (Session.mirrors_writeAt s) (Session.sendsAt_writeAt s) source db

namespace Query
variable {π : Type} [Pool π]

/-- In place a page does what it does on a copy; if it fails the query is as before. -/
theorem exec_paginateInPlace (q : Query) (perPage page : Nat) (db : Database π) :
    Edit.exec (paginateInPlace perPage page) q db =
      match (q.paginate perPage page).run.run db with
      | (.ok (p, q'), db') => ((.ok p, q'), db')
      | (.error f, db') => ((.error f, q), db') := by
  unfold paginateInPlace
  rw [Edit.exec_get_bind, Edit.exec_bind, Edit.exec_onDatabase, paginate, Session.run_bind]
  cases q.count.run.run db with
  | mk outcome db' => cases outcome <;> rfl

end Query

namespace Execution
variable {π : Type} [Pool π]
open Session

/-- Without a data source, or where the query cannot be written, an execution fails and leaves every
database as it is: no pool is opened and nothing is sent. Else what was written is sent, once where a
pool is available. A page that fails, for any reason, leaves the query as it was. -/
theorem sends_only_what_is_written (e : Execution) (q : Query) (db : Database π) :
    (q.dataSource = none ∨ (∃ x, e.statement q = .error x) →
      ∃ f, e.refusal? q = some f ∧ (e.run q).run.run db = (.error f, db)) ∧
    (∀ source s, q.dataSource = some source → e.statement q = .ok s →
      SendsFrom db (db.sendings source s) (e.run q) (e.run q) ∧
      (∀ i mid, (Session.pool source).Yields db i mid → i < mid.opened.length →
        db.sendings source s = [⟨i, s⟩]) ∧
      ∀ f, ((Session.pool source).run.run db).1 = .error f →
        (e.run q).run.run db = (.error f, db)) ∧
    ∀ perPage page, ∃ outcome q' db',
      Edit.exec (Query.paginateInPlace perPage page) q db = ((outcome, q'), db') ∧
      (q.paginate perPage page).run.run db = (outcome.map fun p => (p, q'), db') ∧
      (∀ f, outcome = .error f → q' = q) ∧
      ∀ p, outcome = .ok p → q' = q.forPage perPage page := by
  refine ⟨fun h => ?_, fun source s hsource hs => ⟨sendsFrom_run hsource hs db, ?_, ?_⟩, ?_⟩
  · cases hrefusal : e.refusal? q with
    | some f => exact ⟨f, rfl, run_refused hrefusal db⟩
    | none =>
      obtain ⟨source, s, hsource, hs⟩ := refusal?_eq_none_iff.mp hrefusal
      rw [hsource, hs] at h
      obtain h | ⟨x, h⟩ := h <;> cases h
  · intro i mid hpool hi
    exact Database.sendings_of_available hpool hi s
  · intro f hf
    rw [run_accepted hsource hs, run_bind]
    cases hrun : (Session.pool source).run.run db with
    | mk outcome mid =>
      rw [hrun] at hf
      cases hf
      rw [pool_error hrun]
  · intro perPage page
    have hexec := q.exec_paginateInPlace perPage page db
    cases hrun : (q.paginate perPage page).run.run db with
    | mk outcome db' =>
      rw [hrun] at hexec
      cases outcome with
      | error f => exact ⟨_, _, _, hexec, rfl, fun _ _ => rfl, fun p hp => by cases hp⟩
      | ok left =>
        obtain ⟨p, q'⟩ := left
        refine ⟨_, _, _, hexec, rfl, fun f hf => (by cases hf), fun _ _ => ?_⟩
        exact Query.query_of_paginate hrun

def ordersDatabase : Database ScriptedPool where
  configs := [("main", .ofParts "main" .postgres "localhost" "app")]
  backends := []
  opened := [⟨"main", .postgres, ScriptedPool.new⟩]
  registry := [("main", 0)]

def lateOrders : Query :=
  ((Query.empty .postgres (some "main")).table "orders").such (Predicate.equals "late" (.bool true))

/-- Reads from a query that has no table. -/
def lateOrdersOfNothing : Query :=
  (Query.empty .postgres (some "main")).from_ (.derived (.empty .postgres none) "orders")

/-- The one is refused because of the query inside it, and the other goes out as it was written. -/
theorem lateOrders_are_sent :
    (∃ x, fetchFirst.statement lateOrdersOfNothing = .error x) ∧
    (fetchFirst.run lateOrdersOfNothing).run.run ordersDatabase =
      (.error (.usage "table() has not been called on this query"), ordersDatabase) ∧
    ∃ s, delete.statement lateOrders = .ok s ∧ s.sql = "DELETE FROM orders WHERE late = $1" ∧
      SendsFrom ordersDatabase [⟨0, s⟩] (delete.run lateOrders) (delete.run lateOrders) := by
  have herror : ∃ x, fetchFirst.statement lateOrdersOfNothing = .error x := ⟨.noTable, rfl⟩
  have htext : (delete.statement lateOrders).toOption.map (·.sql) =
      some "DELETE FROM orders WHERE late = $1" := by decide +kernel
  obtain ⟨f, hf, hrun⟩ :=
    (sends_only_what_is_written fetchFirst lateOrdersOfNothing ordersDatabase).1 (.inr herror)
  have hrefusal : fetchFirst.refusal? lateOrdersOfNothing =
      some (.usage "table() has not been called on this query") := rfl
  rw [hrefusal] at hf
  cases hf
  refine ⟨herror, hrun, ?_⟩
  cases hs : delete.statement lateOrders with
  | error x =>
    rw [hs] at htext
    cases htext
  | ok s =>
    rw [hs] at htext
    obtain ⟨hsends, havailable, -⟩ :=
      (sends_only_what_is_written delete lateOrders ordersDatabase).2.1 "main" s rfl hs
    rw [havailable 0 ordersDatabase rfl Nat.zero_lt_one] at hsends
    exact ⟨s, rfl, Option.some.inj htext, hsends⟩

end Execution
end SqlRecords
