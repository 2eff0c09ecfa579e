import SqlRecords.Proofs.Session.Steps
import SqlRecords.Session.Run

/-! Pools that keep what they receive. They answer as before, so the records of a database tell
which statements a session sends. -/
namespace SqlRecords

/-- A pool with a record of the statements that it received. -/
structure Recorded (π : Type) where
  pool : π
  received : List Statement

namespace Recorded
variable {π α : Type}

/-- Passes a statement on and takes it down. -/
def pass (s : Statement) (p : Recorded π) (f : π → α × π) : α × Recorded π :=
  ((f p.pool).1, ⟨(f p.pool).2, p.received ++ [s]⟩)

instance [Pool π] : Pool (Recorded π) where
  execute s p := p.pass s (Pool.execute s)
  fetchAll s p := p.pass s (Pool.fetchAll s)
  openCursor s p := p.pass s (Pool.openCursor s)
  dropCursor s p := (p.pass s fun pool => ((), Pool.dropCursor s pool)).2
  notePulled n p := { p with pool := Pool.notePulled n p.pool }
  close p := ((Pool.close p.pool).1, { p with pool := (Pool.close p.pool).2 })
  stats p := Pool.stats p.pool

end Recorded

namespace Database
variable {π : Type}

/-- The same database with empty records, also for the pools that are opened later. -/
def recording (db : Database π) : Database (Recorded π) where
  configs := db.configs
  backends := db.backends.map fun (engine, backend) =>
    (engine, fun c => (backend c).map fun pool => ⟨pool, []⟩)
  opened := db.opened.map fun o => ⟨o.source, o.engine, ⟨o.pool, []⟩⟩
  registry := db.registry

/-- The record of the pool that was opened at a position. -/
def received (db : Database (Recorded π)) (i : Nat) : List Statement :=
  (db.opened[i]?).elim [] (·.pool.received)

/-- A statement with the position of the pool that it is sent to. -/
structure Sending where
  pool : Nat
  statement : Statement

/-- What the pool at a position receives of all that is sent. -/
def receivedOf (sent : List Sending) (i : Nat) : List Statement :=
  (sent.filter (·.pool == i)).map Sending.statement

/-- From one state of a database to the next these statements were sent, in this order, and no
others. Neither are configurations changed, and pools that are opened have empty records. -/
structure Sends (db : Database (Recorded π)) (sent : List Sending) (db' : Database (Recorded π)) :
    Prop where
  received (i : Nat) : db'.received i = db.received i ++ receivedOf sent i
  configs : db'.configs = db.configs
  backends : db'.backends = db.backends

/-- Whether backends open pools with empty records only. -/
def IsFresh (db : Database (Recorded π)) : Prop :=
  ∀ entry ∈ db.backends, ∀ c p, entry.2 c = .ok p → p.received = []

theorem Sends.refl (db : Database (Recorded π)) : db.Sends [] db :=
  ⟨fun _ => (List.append_nil _).symm, rfl, rfl⟩

theorem Sends.trans {db mid db' : Database (Recorded π)} {first second : List Sending}
    (h : db.Sends first mid) (h' : mid.Sends second db') : db.Sends (first ++ second) db' := by
  refine ⟨fun i => ?_, h'.configs.trans h.configs, h'.backends.trans h.backends⟩
  rw [h'.received, h.received, receivedOf, receivedOf, receivedOf, List.filter_append,
    List.map_append, List.append_assoc]

theorem Sends.isFresh {db db' : Database (Recorded π)} {sent : List Sending} (h : db.Sends sent db')
    (hdb : db.IsFresh) : db'.IsFresh := by
  unfold IsFresh
  rw [h.backends]
  exact hdb

theorem isFresh_recording (db : Database π) : db.recording.IsFresh := by
  intro entry hentry c p hp
  obtain ⟨⟨engine, backend⟩, -, rfl⟩ := List.mem_map.mp hentry
  cases hb : backend c with
  | error f =>
    simp only [hb] at hp
    cases hp
  | ok pool =>
    simp only [hb] at hp
    cases Except.ok.inj hp
    rfl

theorem received_recording (db : Database π) (i : Nat) : db.recording.received i = [] := by
  unfold received recording
  rw [List.getElem?_map]
  cases db.opened[i]? <;> rfl

/-- Opening a pool with an empty record sends nothing. -/
theorem sends_register {db : Database (Recorded π)} (source : String) (engine : Engine)
    {p : Recorded π} (hp : p.received = []) : db.Sends [] (db.register source engine p) := by
  refine ⟨fun i => ?_, rfl, rfl⟩
  unfold received receivedOf register
  rw [List.filter_nil, List.map_nil, List.append_nil, List.getElem?_append]
  split
  · rfl
  · next hi =>
    rw [List.getElem?_eq_none (Nat.not_lt.mp hi), List.getElem?_singleton]
    split
    · exact hp
    · rfl

/-- The statement that a pool takes down is sent to it. -/
theorem sends_modifyPool {db : Database (Recorded π)} {i : Nat} {o : OpenedPool (Recorded π)}
    (ho : db.opened[i]? = some o) {p : Recorded π} {s : Statement}
    (hp : p.received = o.pool.received ++ [s]) :
    db.Sends [⟨i, s⟩] (db.modifyPool i fun _ => p) := by
  refine ⟨fun j => ?_, rfl, rfl⟩
  unfold received receivedOf modifyPool
  rw [List.getElem?_modify]
  by_cases hj : i = j
  · subst hj
    simp [ho, hp]
  · simp [hj]

/-- A pool that takes nothing down is sent nothing. -/
theorem sends_modifyPool_nothing {db : Database (Recorded π)} {i : Nat}
    {o : OpenedPool (Recorded π)} (ho : db.opened[i]? = some o) {p : Recorded π}
    (hp : p.received = o.pool.received) : db.Sends [] (db.modifyPool i fun _ => p) := by
  refine ⟨fun j => ?_, rfl, rfl⟩
  unfold received receivedOf modifyPool
  rw [List.getElem?_modify]
  by_cases hj : i = j
  · subst hj
    simp [ho, hp]
  · simp [hj]

end Database

namespace Session
variable {π : Type} {db db' : Database (Recorded π)}

theorem sends_pool {source : String} {i : Nat} (hdb : db.IsFresh)
    (h : (pool source).Yields db i db') : db.Sends [] db' := by
  obtain rfl | ⟨c, backend, p, hb, hp, rfl⟩ := yields_pool h
  · exact .refl db
  · obtain ⟨pre, post, hbackends, -⟩ := List.lookup_eq_some_iff.mp hb
    exact Database.sends_register _ _ (hdb (c.engine, backend) (by simp [hbackends]) c p hp)

end Session

namespace Query
variable {π : Type} [Pool π] {db db' : Database (Recorded π)}

/-- Rows are read by the one statement that is given. -/
theorem sends_rowsOf {q : Query} {s : Statement} {rows : List Record} (hdb : db.IsFresh)
    (h : (q.rowsOf s).Yields db rows db') : ∃ i, db.Sends [⟨i, s⟩] db' := by
  unfold rowsOf at h
  obtain ⟨i, mid, hpool, h⟩ := Session.yields_bind.mp h
  obtain ⟨source, mid', hsource, hpool⟩ := Session.yields_bind.mp hpool
  obtain ⟨-, rfl⟩ := Session.yields_ofExcept.mp hsource
  obtain ⟨result, mid', hresult, h⟩ := Session.yields_bind.mp h
  obtain ⟨read, last, hread, h⟩ := Session.yields_bind.mp h
  obtain ⟨hok, rfl⟩ := Session.yields_ofExcept.mp hread
  obtain ⟨-, rfl⟩ := Session.yields_ofExcept.mp h
  obtain ⟨-, rfl, -⟩ | ⟨o, ho, -, rfl⟩ := Session.yields_onPool hresult
  · -- Without a pool at the position nothing was read.
    cases hok
  · exact ⟨i, (Session.sends_pool hdb hpool).trans (Database.sends_modifyPool ho rfl)⟩

/-- Fetching sends the SELECT and nothing else. -/
theorem sends_fetch {q : Query} {rows : List Record} (hdb : db.IsFresh)
    (h : (q.fetch).Yields db rows db') :
    ∃ i s, q.selectStatement = .ok s ∧ db.Sends [⟨i, s⟩] db' := by
  unfold fetch at h
  obtain ⟨s, mid, hwritten, h⟩ := Session.yields_bind.mp h
  obtain ⟨hs, rfl⟩ := Session.yields_ofExcept.mp hwritten
  obtain ⟨i, hsends⟩ := sends_rowsOf hdb h
  refine ⟨i, s, ?_, hsends⟩
  cases hq : q.selectStatement with
  | error e =>
    rw [hq] at hs
    cases hs
  | ok s' =>
    rw [hq] at hs
    exact congrArg Except.ok (Except.ok.inj hs)

end Query
end SqlRecords
