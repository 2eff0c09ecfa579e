import SqlRecords.Proofs.Session.Mirroring

/-! What a step of a session sends, whatever its outcome. -/
namespace SqlRecords

namespace Session
variable {π α β : Type}

/-- A step sends no statement, even if it fails. -/
def SendsNothing (x : Session (Recorded π) α) : Prop :=
  ∀ db : Database (Recorded π), db.IsFresh → db.Sends [] (x.run.run db).2

/-- A step sends `s` once; if it sends nothing it fails. -/
def SendsOnce (s : Statement) (x : Session (Recorded π) α) : Prop :=
  ∀ db : Database (Recorded π), db.IsFresh →
    (∃ i, db.Sends [⟨i, s⟩] (x.run.run db).2) ∨
      db.Sends [] (x.run.run db).2 ∧ ∃ f, (x.run.run db).1 = .error f

theorem sendsNothing_pure (a : α) : SendsNothing (π := π) (pure a) := fun db _ => .refl db

theorem sendsNothing_ofExcept (e : Except Failure α) : SendsNothing (π := π) (ofExcept e) :=
  fun db _ => .refl db

section
variable {x : Session (Recorded π) α} {f : α → Session (Recorded π) β} {s : Statement}

theorem SendsNothing.bind (hx : SendsNothing x) (hf : ∀ a, SendsNothing (f a)) :
    SendsNothing (x >>= f) := by
  intro db hdb
  have hsends := hx db hdb
  rw [run_bind]
  cases hrun : x.run.run db with
  | mk outcome mid =>
    rw [hrun] at hsends
    cases outcome with
    | error e => exact hsends
    | ok a => exact hsends.trans (hf a mid (hsends.isFresh hdb))

theorem SendsNothing.bind_once (hx : SendsNothing x) (hf : ∀ a, SendsOnce s (f a)) :
    SendsOnce s (x >>= f) := by
  intro db hdb
  have hsends := hx db hdb
  rw [run_bind]
  cases hrun : x.run.run db with
  | mk outcome mid =>
    rw [hrun] at hsends
    cases outcome with
    | error e => exact .inr ⟨hsends, e, rfl⟩
    | ok a =>
      obtain ⟨i, hsent⟩ | ⟨hsent, hfails⟩ := hf a mid (hsends.isFresh hdb)
      · exact .inl ⟨i, hsends.trans hsent⟩
      · exact .inr ⟨hsends.trans hsent, hfails⟩

theorem SendsOnce.bind (hx : SendsOnce s x) (hf : ∀ a, SendsNothing (f a)) :
    SendsOnce s (x >>= f) := by
  intro db hdb
  have hsends := hx db hdb
  rw [run_bind]
  cases hrun : x.run.run db with
  | mk outcome mid =>
    rw [hrun] at hsends
    cases outcome with
    | error e =>
      obtain ⟨i, hsent⟩ | ⟨hsent, -⟩ := hsends
      · exact .inl ⟨i, hsent⟩
      · exact .inr ⟨hsent, e, rfl⟩
    | ok a =>
      obtain ⟨i, hsent⟩ | ⟨-, e, he⟩ := hsends
      · have hrest := hf a mid (hsent.isFresh hdb)
        exact .inl ⟨i, by simpa using hsent.trans hrest⟩
      · cases he

end

theorem run_get_bind (f : Database π → Session π α) (db : Database π) :
    (get >>= f).run.run db = (f db).run.run db := rfl

theorem run_config (source : String) (db : Database π) :
    (config source).run.run db =
      match db.config? source with
      | some c => (.ok c, db)
      | none => (.error (PoolError.unknownSource source).failure, db) := by
  unfold config
  rw [run_get_bind]
  cases db.config? source <;> rfl

theorem run_query (source : String) (db : Database π) :
    (query source).run.run db =
      match db.config? source with
      | some c => (.ok (.empty c.engine.dialect (some source)), db)
      | none => (.error (PoolError.unknownSource source).failure, db) := by
  have hmap : (query source : Session π Query) =
      config source >>= fun c => pure (.empty c.engine.dialect (some source)) := rfl
  rw [hmap, run_bind, run_config]
  cases db.config? source <;> rfl

theorem openPool_same (c : Config) (db : Database π) : ((openPool c).run.run db).2 = db := by
  unfold openPool
  rw [run_get_bind]
  split
  · split <;> rfl
  · rfl

/-- A pool that is not there and cannot be opened leaves the database as it is. -/
theorem poolFor_error {c : Config} {db db' : Database π} {f : Failure}
    (h : (poolFor c).run.run db = (.error f, db')) : db' = db := by
  unfold poolFor at h
  rw [run_get_bind] at h
  cases hi : db.registry.get? c.name with
  | some i =>
    simp only [hi] at h
    cases (Prod.mk.inj h).1
  | none =>
    simp only [hi, run_bind] at h
    have hsame := openPool_same c db
    cases hopen : (openPool c).run.run db with
    | mk outcome mid =>
      rw [hopen] at hsame h
      cases outcome with
      | error e => exact (Prod.mk.inj h).2.symm.trans hsame
      | ok p => cases (Prod.mk.inj h).1

theorem pool_error {source : String} {db db' : Database π} {f : Failure}
    (h : (pool source).run.run db = (.error f, db')) : db' = db := by
  unfold pool at h
  rw [run_bind, run_config] at h
  cases hc : db.config? source with
  | none =>
    simp only [hc] at h
    exact (Prod.mk.inj h).2.symm
  | some c =>
    simp only [hc] at h
    exact poolFor_error h

/-- Opening a pool sends nothing, also if it cannot be opened. -/
theorem sendsNothing_pool (source : String) : SendsNothing (π := π) (pool source) := by
  intro db hdb
  cases hrun : (pool source).run.run db with
  | mk outcome mid =>
    cases outcome with
    | ok i => exact sends_pool hdb hrun
    | error f =>
      rw [pool_error hrun]
      exact .refl db

/-- An operation on a statement sends it, if there is a pool at the position. -/
theorem sendsOnce_onPool [Pool π] {γ : Type} (s : Statement) (i : Nat)
    {f : π → Except Failure β × π} (g : Except Failure β → Except Failure γ)
    (hg : ∃ e, g default = .error e) :
    SendsOnce s (onPool i (fun p : Recorded π => p.pass s f) >>= fun r => ofExcept (g r)) := by
  intro db hdb
  unfold onPool
  rw [run_bind, run_get_bind]
  cases ho : db.opened[i]? with
  | none => exact .inr ⟨.refl db, hg⟩
  | some o => exact .inl ⟨i, Database.sends_modifyPool ho rfl⟩

end Session

namespace Query
variable {π : Type}
open Session

theorem sendsNothing_pool (q : Query) : SendsNothing (π := π) q.pool :=
  (sendsNothing_ofExcept _).bind fun source => Session.sendsNothing_pool source

variable [Pool π]

theorem sendsOnce_rowsOf (q : Query) (s : Statement) : SendsOnce (π := π) s (q.rowsOf s) := by
  have hpass (i : Nat) : SendsOnce (π := π) s (do
      let result ← onPool i (Pool.fetchAll s)
      Session.ofExcept (result.mapError (·.withSql s.sql))) :=
    sendsOnce_onPool s i (fun r => r.mapError (·.withSql s.sql)) ⟨_, rfl⟩
  have hrows (i : Nat) := (hpass i).bind fun rows => sendsNothing_ofExcept (rows.mapM Row.toRecord)
  have hbind := q.sendsNothing_pool.bind_once hrows
  simpa only [rowsOf, bind_assoc] using hbind

/-- A write goes out once. -/
theorem sendsOnce_send (q : Query) (s : Statement) : SendsOnce (π := π) s (q.send s) :=
  q.sendsNothing_pool.bind_once fun i =>
    sendsOnce_onPool s i (fun r => r.mapError (·.withSql s.sql)) ⟨_, rfl⟩

end Query
end SqlRecords
