import SqlRecords.Proofs.Session.Batches
import SqlRecords.Proofs.Session.Executions

/-! The statement that a failure names. A failure that the pool raises gets the statement that was
sent; the failure of a cell stays as it was raised. -/
namespace SqlRecords

/-- What goes wrong with what a pool replies: it raises a failure itself, or a cell of a row has no
value. -/
inductive Flaw where
  | raised (f : Failure)
  | undecoded (f : Failure)
  deriving DecidableEq, Repr

namespace Flaw

def failure : Flaw → Failure
  | raised f | undecoded f => f

/-- What is reported of a flaw in the reply to a statement. -/
def reported (sql : String) : Flaw → Failure
  | raised f => f.withSql sql
  | undecoded f => f

/-- Whether a cell failed like a statement, without naming one. -/
def isUnnamed : Flaw → Bool
  | undecoded (.statement _ "") => true
  | _ => false

/-- A flaw is reported with the statement that it belongs to, unless it is that of a cell. -/
theorem reported_eq_withSql_iff (flaw : Flaw) (sql : String) :
    flaw.reported sql = flaw.failure.withSql sql ↔ flaw.isUnnamed = false ∨ sql = "" := by
  cases flaw with
  | raised f => simp [reported, failure, isUnnamed]
  | undecoded f =>
    cases f with
    | statement m named =>
      by_cases hnamed : named = ""
      · subst hnamed
        simp [reported, failure, isUnnamed, Failure.withSql, eq_comm]
      · simp [reported, failure, isUnnamed, Failure.withSql, hnamed]
    | _ => simp [reported, failure, isUnnamed, Failure.withSql]

end Flaw

/-- The first flaw of a reply, read row by row. -/
def Cursor.flaw? : Cursor → Option Flaw
  | [] => none
  | .error f :: _ => some (.raised f)
  | .ok row :: rest =>
    match row.toRecord with
    | .ok _ => flaw? rest
    | .error f => some (.undecoded f)

namespace Cursor

theorem fault?_eq (sql : String) (cursor : Cursor) :
    Streamed.fault? sql cursor = cursor.flaw?.map (·.reported sql) := by
  induction cursor with
  | nil => rfl
  | cons item rest ih =>
    cases item with
    | error f => rfl
    | ok row =>
      unfold Streamed.fault? flaw?
      cases row.toRecord with
      | error f => rfl
      | ok record => exact ih

/-- Rows that are read all at once stop at the first flaw too. -/
theorem mapM_toRecord_of_flaw {rows : List Row} {flaw : Flaw}
    (h : flaw? (rows.map .ok) = some flaw) (sql : String) :
    rows.mapM Row.toRecord = .error (flaw.reported sql) := by
  induction rows with
  | nil => cases h
  | cons row rest ih =>
    rw [List.map_cons, flaw?] at h
    rw [List.mapM_cons]
    cases hrecord : row.toRecord with
    | error f =>
      rw [hrecord] at h
      cases h
      rfl
    | ok record =>
      rw [hrecord] at h
      rw [ih h]
      rfl

end Cursor

def Failure.isStatement : Failure → Bool
  | .statement .. => true
  | _ => false

/-- The failure of an outcome. -/
def failureOf {α : Type} : Except Failure α → Option Failure
  | .ok _ => none
  | .error f => some f

/-- A step that works on the result of another fails where that does. -/
theorem Session.failureOf_bind_pure {π α β : Type} (x : Session π α) (f : α → β)
    (db : Database π) :
    failureOf ((do return f (← x) : Session π β).run.run db).1 = failureOf (x.run.run db).1 := by
  rw [run_bind]
  cases x.run.run db with
  | mk outcome mid => cases outcome <;> rfl

/-- What a query is asked for: an execution of it, or a statement in the caller's own words. -/
inductive QueryCall where
  | execution (e : Execution)
  | fetchText (sql : String) (params : List Value)
  | executeText (sql : String) (params : List Value)

namespace QueryCall

def Outcome : QueryCall → Type
  | execution e => e.Outcome
  | fetchText .. => List Record
  | executeText .. => WriteResult

def statement (q : Query) : QueryCall → Except Incomplete Statement
  | execution e => e.statement q
  | fetchText sql params | executeText sql params => .ok (.ofText q.dialect .raw sql params)

/-- Who is handed the rows in batches. -/
def consumer? (q : Query) : QueryCall → Option (Nat × Consumer (List Record))
  | execution (.stream _ size consumer) => some (size, consumer)
  | execution (.streamModels schema _ size consumer) =>
    some (size, fun batches => consumer (batches.map (q.toModels schema)))
  | _ => none

/-- How a call breaks off that finds no room for a batch. -/
def crash? : QueryCall → Option Crash
  | execution (.stream memory size _) => memory.crash? (max size 1)
  | execution (.streamModels _ memory size _) => memory.crash? (max size 1)
  | _ => none

/-- Why batches ended. A program that breaks off returns no failure. -/
def failureOfBatches : Except Crash Streamed → Option Failure
  | .ok r => failureOf r.outcome
  | .error _ => none

/-- Why a call failed. Rows that are handed over may end in a failure. -/
def failure? : (c : QueryCall) → Except Failure c.Outcome → Option Failure
  | execution (.stream ..), .ok r => failureOfBatches r
  | execution (.streamModels ..), .ok r => failureOfBatches r
  | _, outcome => failureOf outcome

variable {π : Type} [Pool π]

def run (q : Query) : (c : QueryCall) → Session π c.Outcome
  | execution e => e.run q
  | fetchText sql params => q.fetchText sql params
  | executeText sql params => q.executeText sql params

/-- What is done once there is a statement and a pool. -/
def ask (q : Query) (s : Statement) (i : Nat) : (c : QueryCall) → Session π c.Outcome
  | execution e => e.ask q s i
  | fetchText .. => Session.rowsAt s i
  | executeText .. => Session.writeAt s i

/-- What a pool replies to a statement. Of a write it is only whether it failed. -/
def reply (s : Statement) (p : π) : QueryCall → Cursor
  | execution (.stream ..) | execution (.streamModels ..) => (Pool.openCursor s p).1
  | execution .save | execution .delete | executeText .. =>
    match (Pool.execute s p).1 with
    | .ok _ => []
    | .error f => [.error f]
  | _ =>
    match (Pool.fetchAll s p).1 with
    | .ok rows => rows.map .ok
    | .error f => [.error f]

/-- What a call reads where there may be no pool: no rows, or a failure that says nothing. -/
def replyAt (s : Statement) (c : QueryCall) : Option (OpenedPool π) → Cursor
  | some o => c.reply s o.pool
  | none =>
    match c with
    | execution (.stream ..) | execution (.streamModels ..) => []
    | _ => [.error default]

/-- A call that can be written, of a query with a data source, asks for a pool. -/
theorem run_eq (c : QueryCall) {q : Query} {s : Statement} (hs : c.statement q = .ok s)
    {source : String} (hsource : q.dataSource = some source) (db : Database π) :
    (c.run q).run.run db = (Session.pool source >>= fun i => c.ask q s i).run.run db := by
  have hpool : (q.pool : Session π Nat) = Session.pool source := Query.pool_of_source hsource
  cases c with
  | execution e => exact Execution.run_accepted hsource hs db
  | fetchText sql params =>
    cases hs
    rw [← hpool]
    rfl
  | executeText sql params =>
    cases hs
    rw [← hpool]
    rfl

theorem usage_of_refusal {e : Execution} {q : Query} {f : Failure} (h : e.refusal? q = some f) :
    ∃ m, f = .usage m := by
  unfold Execution.refusal? Query.boundSource at h
  cases hsource : q.dataSource <;> cases hs : e.statement q <;> simp only [hsource, hs] at h
  case none.error x =>
    split at h <;> cases h <;> exact ⟨_, rfl⟩
  all_goals cases h
  all_goals exact ⟨_, rfl⟩

/-- Any other call fails without a statement. -/
theorem run_refused (c : QueryCall) {q : Query}
    (h : ∀ source s, q.dataSource = some source → c.statement q ≠ .ok s) (db : Database π) :
    ∃ m, ((c.run q).run.run db).1 = .error (.usage m) := by
  cases c with
  | execution e =>
    cases hrefusal : e.refusal? q with
    | none =>
      obtain ⟨source, s, hsource, hs⟩ := Execution.refusal?_eq_none_iff.mp hrefusal
      exact absurd hs (h source s hsource)
    | some f =>
      have hrun := Execution.run_refused (π := π) hrefusal db
      obtain ⟨m, rfl⟩ := usage_of_refusal hrefusal
      exact ⟨m, congrArg Prod.fst hrun⟩
  | fetchText sql params | executeText sql params =>
    cases hsource : q.dataSource with
    | some source => exact absurd rfl (h source _ hsource)
    | none =>
      refine ⟨"query is not bound to a data source", ?_⟩
      simp only [run, Query.fetchText, Query.executeText, Query.rowsOf, Query.send,
        Query.pool_of_none hsource]
      rfl

section
variable (s : Statement) (i : Nat) (db : Database π)

/-- Rows that are read at once fail at the first flaw of the reply. -/
theorem failureOf_rowsAt : failureOf ((Session.rowsAt s i).run.run db).1 =
    ((fetchText s.sql s.params).replyAt s db.opened[i]?).flaw?.map (·.reported s.sql) := by
  unfold Session.rowsAt
  rw [Session.run_bind, Session.run_onPool]
  cases db.opened[i]? with
  | none => rfl
  | some o =>
    dsimp only [replyAt, reply]
    cases (Pool.fetchAll s o.pool).1 with
    | error f => rfl
    | ok rows =>
      show failureOf (rows.mapM Row.toRecord) = _
      cases hflaw : Cursor.flaw? (rows.map .ok) with
      | none =>
        have hfault := Cursor.fault?_eq s.sql (rows.map .ok)
        rw [hflaw] at hfault
        rw [Streamed.mapM_toRecord hfault]
        rfl
      | some flaw =>
        rw [Cursor.mapM_toRecord_of_flaw hflaw s.sql]
        rfl

theorem failureOf_writeAt : failureOf ((Session.writeAt s i).run.run db).1 =
    ((executeText s.sql s.params).replyAt s db.opened[i]?).flaw?.map (·.reported s.sql) := by
  unfold Session.writeAt
  rw [Session.run_bind, Session.run_onPool]
  cases db.opened[i]? with
  | none => rfl
  | some o =>
    dsimp only [replyAt, reply]
    cases (Pool.execute s o.pool).1 <;> rfl

theorem outcome_streamAt {memory : Memory} {size : Nat} (hroom : memory.crash? (max size 1) = none)
    (consumer : Consumer (List Record)) :
    ((Session.streamAt s i memory size consumer).run.run db).1 =
      .ok (.ok (Streamed.ofCursor s.sql size consumer [] [] 0
        ((execution (.stream memory size consumer)).replyAt s db.opened[i]?))) := by
  unfold Session.streamAt
  rw [hroom]
  dsimp only
  rw [Session.run_bind, Session.run_onPool]
  cases ho : db.opened[i]? with
  | none =>
    dsimp only
    rw [Session.run_bind, Session.run_onPool, ho]
    rfl
  | some o =>
    dsimp only
    rw [Session.run_bind, Session.run_onPool]
    cases (db.modifyPool i fun _ => (Pool.openCursor s o.pool).2).opened[i]? <;> rfl

theorem outcome_streamAt_of_crash {memory : Memory} {size : Nat} {crash : Crash}
    (hcrash : memory.crash? (max size 1) = some crash) (consumer : Consumer (List Record)) :
    ((Session.streamAt s i memory size consumer).run.run db).1 = .ok (.error crash) := by
  unfold Session.streamAt
  rw [hcrash]
  dsimp only
  rw [Session.run_bind, Session.run_onPool]
  cases db.opened[i]? <;> rfl

/-- How a call fails once it has a pool and room for what it reads. -/
theorem failure_ask {c : QueryCall} (hroom : c.crash? = none) (q : Query) :
    c.failure? ((c.ask q s i).run.run db).1 = match c.consumer? q with
    | none => (c.replyAt s db.opened[i]?).flaw?.map (·.reported s.sql)
    | some (size, consumer) => failureOf
        (Streamed.ofCursor s.sql size consumer [] [] 0 (c.replyAt s db.opened[i]?)).outcome := by
  have hrows := failureOf_rowsAt s i db
  have hwrite := failureOf_writeAt s i db
  unfold replyAt at hrows hwrite ⊢
  cases c with
  | execution e =>
    cases e with
    | stream memory size consumer =>
      exact congrArg (failure? (execution (.stream memory size consumer)))
        (outcome_streamAt s i db hroom consumer)
    | streamModels schema memory size consumer =>
      exact congrArg (failure? (execution (.streamModels schema memory size consumer)))
        (outcome_streamAt s i db hroom fun batches => consumer (batches.map (q.toModels schema)))
    | save | delete => exact hwrite
    | fetch => exact hrows
    | fetchFirst | fetchModels | count | paginate =>
      exact (Session.failureOf_bind_pure (Session.rowsAt s i) _ db).trans hrows
  | fetchText => exact hrows
  | executeText => exact hwrite

/-- A call that breaks off does not fail. -/
theorem failure_ask_of_crash {c : QueryCall} {crash : Crash} (hcrash : c.crash? = some crash)
    (q : Query) : c.failure? ((c.ask q s i).run.run db).1 = none := by
  cases c with
  | execution e =>
    cases e with
    | stream memory size consumer =>
      exact congrArg (failure? (execution (.stream memory size consumer)))
        (outcome_streamAt_of_crash s i db hcrash consumer)
    | streamModels schema memory size consumer =>
      exact congrArg (failure? (execution (.streamModels schema memory size consumer)))
        (outcome_streamAt_of_crash s i db hcrash _)
    | _ => cases hcrash
  | fetchText | executeText => cases hcrash

end

theorem failure?_error (c : QueryCall) (f : Failure) : c.failure? (.error f) = some f := by
  cases c with
  | execution e => cases e <;> rfl
  | fetchText | executeText => rfl

/-- Whether the consumer of a call always asks for more. -/
def AlwaysAsks (c : QueryCall) (q : Query) : Prop :=
  ∀ size consumer, c.consumer? q = some (size, consumer) → ∀ given, consumer given = .ok true

/-- Whether the consumer of a call may fail so. -/
def ConsumerFails (c : QueryCall) (q : Query) (f : Failure) : Prop :=
  ∃ size consumer given, c.consumer? q = some (size, consumer) ∧ consumer given = .error f

/-- Batches end with the failure of the consumer or with the first flaw of the cursor. -/
theorem failure_of_ofCursor (sql : String) (size : Nat) (consumer : Consumer (List Record))
    (cursor : Cursor) {f : Failure}
    (h : failureOf (Streamed.ofCursor sql size consumer [] [] 0 cursor).outcome = some f) :
    (∃ given, consumer given = .error f) ∨
      ∃ flaw, cursor.flaw? = some flaw ∧ flaw.reported sql = f := by
  have hdelivers := Streamed.ofCursor_delivers_all sql size consumer cursor
  have hfault := cursor.fault?_eq sql
  obtain ⟨r, hr⟩ : ∃ r, Streamed.ofCursor sql size consumer [] [] 0 cursor = r := ⟨_, rfl⟩
  rw [hr] at hdelivers h
  have hconsumer {answer : Except Failure Bool} {n : Nat}
      (houtcome : r.outcome = answer.map fun _ => n) : answer = .error f := by
    rw [houtcome] at h
    cases answer with
    | ok more => cases h
    | error g =>
      cases h
      rfl
  by_cases hgoes : Streamed.GoesOn (max size 1) consumer r.deliveries
  · cases hflaw : cursor.flaw? with
    | none =>
      rw [hflaw] at hfault
      obtain ⟨-, -, houtcome⟩ := hdelivers.ended hfault hgoes
      split at houtcome
      · rw [houtcome] at h
        cases h
      · exact .inl ⟨_, hconsumer houtcome⟩
    | some flaw =>
      rw [hflaw] at hfault
      obtain ⟨-, houtcome⟩ := hdelivers.broken _ hfault hgoes
      rw [houtcome] at h
      exact .inr ⟨flaw, rfl, Option.some.inj h⟩
  · obtain ⟨front, d, -, -, -, -, houtcome⟩ := hdelivers.declined hgoes
    exact .inl ⟨_, hconsumer houtcome⟩

/-- A consumer that always asks for more gets to the first flaw. -/
theorem failureOf_ofCursor (sql : String) (size : Nat) {consumer : Consumer (List Record)}
    (hmore : ∀ given, consumer given = .ok true) (cursor : Cursor) {flaw : Flaw}
    (h : cursor.flaw? = some flaw) :
    failureOf (Streamed.ofCursor sql size consumer [] [] 0 cursor).outcome =
      some (flaw.reported sql) := by
  have hdelivers := Streamed.ofCursor_delivers_all sql size consumer cursor
  have hfault := cursor.fault?_eq sql
  rw [h] at hfault
  obtain ⟨-, houtcome⟩ := hdelivers.broken _ hfault fun _ _ _ _ _ => hmore _
  exact congrArg failureOf houtcome

end QueryCall

/-- A pool that does not open is no failed statement. -/
theorem Database.isStatement_of_opening {π : Type} {db : Database π} {c : Config} {f : Failure}
    (h : db.opening c = .error f) : f.isStatement = false := by
  unfold opening Session.openPool at h
  rw [Session.run_get_bind] at h
  cases hb : db.backends.lookup c.engine with
  | none =>
    rw [hb] at h
    cases h
    rfl
  | some backend =>
    rw [hb] at h
    cases hp : backend c with
    | ok p =>
      simp only [hp] at h
      cases h
    | error g =>
      simp only [hp] at h
      cases h
      cases g <;> rfl

/-- A pool that cannot be had is none either. -/
theorem Session.isStatement_of_pool {π : Type} {source : String} {db mid : Database π}
    {f : Failure} (h : (pool source).run.run db = (.error f, mid)) : f.isStatement = false := by
  rw [run_pool] at h
  cases hc : db.config? source with
  | none =>
    rw [hc] at h
    cases h
    rfl
  | some c =>
    rw [hc] at h
    simp only [run_poolFor] at h
    cases hi : db.registry.get? c.name with
    | some i =>
      rw [hi] at h
      cases h
    | none =>
      rw [hi] at h
      cases hg : db.opening c with
      | ok p =>
        simp only [hg] at h
        cases h
      | error g =>
        simp only [hg] at h
        cases h
        exact Database.isStatement_of_opening hg

namespace QueryCall
variable {π : Type} [Pool π]

/-- The first flaw in what the pool of a query replies to a call. -/
def MeetsFlaw (c : QueryCall) (q : Query) (db : Database π) (s : Statement) (flaw : Flaw) : Prop :=
  ∃ i mid o, c.statement q = .ok s ∧ q.pool.Yields db i mid ∧ mid.opened[i]? = some o ∧
    (c.reply s o.pool).flaw? = some flaw

theorem isStatement_of_replyAt_none (c : QueryCall) {s : Statement} {flaw : Flaw}
    (h : (c.replyAt s (none : Option (OpenedPool π))).flaw? = some flaw) (sql : String) :
    (flaw.reported sql).isStatement = false := by
  have hdefault {flaw : Flaw} (h : Cursor.flaw? [.error default] = some flaw) :
      (flaw.reported sql).isStatement = false := by
    cases h
    rfl
  cases c with
  | execution e =>
    cases e with
    | stream | streamModels => cases h
    | _ => exact hdefault h
  | fetchText | executeText => exact hdefault h

/-- What a call with a pool fails with comes from its consumer or from the reply of the pool. -/
theorem failure_ask_cases {c : QueryCall} {q : Query} {s : Statement} {i : Nat} {db : Database π}
    {f : Failure} (h : c.failure? ((c.ask q s i).run.run db).1 = some f) :
    c.ConsumerFails q f ∨
      ∃ flaw, (c.replyAt s db.opened[i]?).flaw? = some flaw ∧ flaw.reported s.sql = f := by
  cases hcrash : c.crash? with
  | some crash =>
    rw [failure_ask_of_crash s i db hcrash] at h
    cases h
  | none =>
  rw [failure_ask s i db hcrash] at h
  cases hconsumer : c.consumer? q with
  | none =>
    rw [hconsumer] at h
    exact .inr (Option.map_eq_some_iff.mp h)
  | some handed =>
    obtain ⟨size, consumer⟩ := handed
    rw [hconsumer] at h
    rcases failure_of_ofCursor s.sql size consumer _ h with ⟨given, hgiven⟩ | hflaw
    · exact .inl ⟨size, consumer, given, hconsumer, hgiven⟩
    · exact .inr hflaw

/-- A call fails like a statement because of the consumer of its rows, or at the first flaw of what
its pool replies; and it does fail at that flaw if the consumer lets it come to it, unless the whole
program breaks off for want of room. The failure names the statement that was sent, if it names none
already, unless a cell failed and named none. -/
theorem statement_failure_named_iff (c : QueryCall) (q : Query) (db : Database π) :
    (∀ f, c.failure? ((c.run q).run.run db).1 = some f → f.isStatement = true →
      c.ConsumerFails q f ∨ ∃ s flaw, c.MeetsFlaw q db s flaw ∧ flaw.reported s.sql = f ∧
        (f = flaw.failure.withSql s.sql ↔ flaw.isUnnamed = false ∨ s.sql = "")) ∧
    ∀ s flaw, c.MeetsFlaw q db s flaw → c.AlwaysAsks q →
      c.failure? ((c.run q).run.run db).1 =
        if c.crash?.isSome then none else some (flaw.reported s.sql) := by
  constructor
  · intro f h hf
    by_cases haccepted : ∃ source s, q.dataSource = some source ∧ c.statement q = .ok s
    · obtain ⟨source, s, hsource, hs⟩ := haccepted
      rw [run_eq c hs hsource, Session.run_bind] at h
      cases hpool : (Session.pool source).run.run db with
      | mk outcome mid =>
      rw [hpool] at h
      cases outcome with
      | error g =>
        rw [failure?_error] at h
        cases h
        exact absurd hf (Bool.not_eq_true _ ▸ Session.isStatement_of_pool hpool)
      | ok i =>
        refine (failure_ask_cases h).imp_right ?_
        rintro ⟨flaw, hflaw, rfl⟩
        cases ho : mid.opened[i]? with
        | none =>
          rw [ho] at hflaw
          exact absurd hf (Bool.not_eq_true _ ▸ isStatement_of_replyAt_none c hflaw s.sql)
        | some o =>
          rw [ho] at hflaw
          have hyields : q.pool.Yields db i mid := by
            rw [Query.pool_of_source hsource]
            exact hpool
          exact ⟨s, flaw, ⟨i, mid, o, hs, hyields, ho, hflaw⟩, rfl,
            flaw.reported_eq_withSql_iff s.sql⟩
    · have hrefused : ∀ source s, q.dataSource = some source → c.statement q ≠ .ok s :=
        fun source s hsource hs => haccepted ⟨source, s, hsource, hs⟩
      obtain ⟨m, hm⟩ := c.run_refused hrefused db
      rw [hm, failure?_error] at h
      cases h
      cases hf
  · rintro s flaw ⟨i, mid, o, hs, hyields, ho, hflaw⟩ hasks
    cases hsource : q.dataSource with
    | none =>
      rw [Query.pool_of_none hsource] at hyields
      exact absurd hyields Session.not_yields_throw
    | some source =>
      rw [Query.pool_of_source hsource] at hyields
      have hpool : (Session.pool source).run.run db = (.ok i, mid) := hyields
      rw [run_eq c hs hsource, Session.run_bind, hpool]
      show c.failure? ((c.ask q s i).run.run mid).1 = _
      cases hcrash : c.crash? with
      | some crash => exact failure_ask_of_crash s i mid hcrash q
      | none =>
      rw [failure_ask s i mid hcrash, ho]
      cases hconsumer : c.consumer? q with
      | none => exact congrArg (Option.map _) hflaw
      | some handed => exact failureOf_ofCursor s.sql handed.1 (hasks _ _ hconsumer) _ hflaw

/-- A database on a server that answers one statement. -/
def eventServer (reply : Remote.Reply) : Database RemotePool where
  configs := [("main", .ofParts "main" .mysql "localhost" "app")]
  backends := []
  opened := [⟨"main", .mysql, .new .mysql [reply]⟩]
  registry := [("main", 0)]

def allEvents : Query := (Query.empty .mysql (some "main")).table "events"

/-- A statement that the server refuses is named. -/
theorem refused_events_named :
    (execution .fetch).failure? (((execution .fetch).run allEvents).run.run
      (eventServer (.refused ⟨1146, "42S02", "no such table"⟩))).1 =
      some (.statement "error returned from database: 1146 (42S02): no such table"
        "SELECT * FROM events") := by
  obtain ⟨-, hfails⟩ := statement_failure_named_iff (execution .fetch) allEvents
    (eventServer (.refused ⟨1146, "42S02", "no such table"⟩))
  exact hfails _ (.raised _) ⟨0, _, _, rfl, rfl, rfl, rfl⟩ nofun

/-- A day that no calendar has. -/
def dayZero : Remote.Reply :=
  .ran (.rows [⟨"day", "day", "DATE"⟩] [[.content .date ⟨2024, 0, 0⟩]]) none

/-- One whose row cannot be decoded is not. -/
theorem undecoded_cell_may_be_unnamed : ¬ ∀ (c : QueryCall) (q : Query) (db : Database RemotePool)
    (f : Failure), c.failure? ((c.run q).run.run db).1 = some f → f.isStatement = true →
    c.ConsumerFails q f ∨ ∃ s flaw, c.MeetsFlaw q db s flaw ∧ f = flaw.failure.withSql s.sql := by
  intro h
  have hfails : (execution .fetch).failure? (((execution .fetch).run allEvents).run.run
      (eventServer dayZero)).1 =
      some (.statement "error occurred while decoding column 0" "") := rfl
  rcases h _ _ _ _ hfails rfl with ⟨size, consumer, given, hnone, -⟩ | ⟨s, flaw, hmeets, hnamed⟩
  · cases hnone
  · obtain ⟨i, mid, o, hs, hpool, ho, hflaw⟩ := hmeets
    have hopen : allEvents.pool.Yields (eventServer dayZero) 0 (eventServer dayZero) := rfl
    obtain ⟨rfl, rfl⟩ := hopen.unique hpool
    cases hs
    cases ho
    cases hflaw
    exact absurd hnamed (by decide)

end QueryCall
end SqlRecords
