import Mathlib.Data.Set.List
import SqlRecords.Proofs.Session.Languages
import SqlRecords.Proofs.Session.Turns

/-! What the tasks of a batch come to does not depend on the order of their turns, where the pools
answer by the statement alone. -/
namespace SqlRecords

namespace Pool
variable {π : Type} [Pool π]

/-- What a pool answers now, for each statement. -/
structure Answers where
  rows : Statement → Except Failure (List Row)
  write : Statement → Except Failure WriteResult

def answers (p : π) : Answers := ⟨fun s => (fetchAll s p).1, fun s => (execute s p).1⟩

/-- What becomes of a pool that is asked for rows and for writes. -/
inductive Asked (p : π) : π → Prop
  | refl : Asked p p
  | rows {p' : π} (s : Statement) (h : Asked p p') : Asked p (fetchAll s p').2
  | write {p' : π} (s : Statement) (h : Asked p p') : Asked p (execute s p').2

theorem Asked.trans {p mid p' : π} (h : Asked p mid) (h' : Asked mid p') : Asked p p' := by
  induction h' with
  | refl => exact h
  | rows s _ ih => exact ih.rows s
  | write s _ ih => exact ih.write s

/-- Whatever a pool was asked before, its answers depend on the statement alone. -/
def IsSteady (p : π) : Prop := ∀ p', Asked p p' → answers p' = answers p

theorem IsSteady.asked {p p' : π} (h : IsSteady p) (hp : Asked p p') : IsSteady p' :=
  fun last hlast => (h last (hp.trans hlast)).trans (h p' hp).symm

end Pool

/-- A pool that answers each statement in its own way, whatever it was asked before. -/
structure FixedPool where
  answer : Statement → Response

namespace FixedPool

instance : Pool FixedPool where
  execute s pool := (ScriptedPool.writeResult (some (pool.answer s)), pool)
  fetchAll s pool := (ScriptedPool.fetchResult (some (pool.answer s)), pool)
  openCursor s pool := (ScriptedPool.cursorOf (some (pool.answer s)), pool)
  dropCursor _ pool := pool
  notePulled _ pool := pool
  close pool := (.ok (), pool)
  stats _ := ⟨0, 0, 0⟩

theorem isSteady (pool : FixedPool) : Pool.IsSteady pool := by
  intro pool' hasked
  have hsame : pool' = pool := by
    induction hasked with
    | refl => rfl
    | rows s _ ih | write s _ ih => exact ih
  rw [hsame]

end FixedPool

namespace Database
variable {π : Type} {db db' : Database π}

/-- A configuration that the database holds under its own name. -/
def InForce (db : Database π) (c : Config) : Prop := db.config? c.name = some c

variable [Pool π]

/-- The answers of the pool at a position. -/
def answersAt (db : Database π) (i : Nat) : Pool.Answers :=
  match db.opened[i]? with
  | some o => Pool.answers o.pool
  | none => ⟨fun _ => default, fun _ => default⟩

/-- The answers of the pool that is registered or can be opened now. -/
def answersFor (db : Database π) (c : Config) : Except Failure Pool.Answers :=
  match db.registry.get? c.name with
  | some i => .ok (db.answersAt i)
  | none => (db.opening c).map Pool.answers

/-- All pools that are open, and all that a backend makes now, answer by the statement alone. -/
structure IsSteady (db : Database π) : Prop where
  opened {i : Nat} {o : OpenedPool π} (h : db.opened[i]? = some o) : Pool.IsSteady o.pool
  made {c : Config} {p : π} (hc : db.InForce c) (h : db.opening c = .ok p) : Pool.IsSteady p

/-- What a turn of a task does to a database. -/
inductive Works (db : Database π) : Database π → Prop
  | still : Works db db
  | opened {c : Config} {p : π} (hc : db.InForce c) (hnone : db.registry.get? c.name = none)
    (hp : db.opening c = .ok p) : Works db (db.register c.name c.engine p)
  | asked {i : Nat} {o : OpenedPool π} {p : π} (ho : db.opened[i]? = some o)
    (hp : Pool.Asked o.pool p) : Works db (db.modifyPool i fun _ => p)

/-- Two states of a database that answer alike, the second with more pools maybe. -/
structure AnswersAlike (db db' : Database π) : Prop where
  configs : db'.configs = db.configs
  length : db.opened.length ≤ db'.opened.length
  at_ {i : Nat} (hi : i < db.opened.length) : db'.answersAt i = db.answersAt i
  for_ {c : Config} (hc : db.InForce c) : db'.answersFor c = db.answersFor c

theorem answersAt_register_self (db : Database π) (source : String) (engine : Engine) (p : π) :
    (db.register source engine p).answersAt db.opened.length = Pool.answers p := by
  simp [answersAt]

theorem answersAt_register (db : Database π) (source : String) (engine : Engine) (p : π) {i : Nat}
    (hi : i < db.opened.length) :
    (db.register source engine p).answersAt i = db.answersAt i := by
  simp [answersAt, List.getElem?_append_left hi]

theorem alike_register (hdb : db.IsNamed) {c : Config} {p : π} (hc : db.InForce c)
    (hnone : db.registry.get? c.name = none) (hp : db.opening c = .ok p) :
    db.AnswersAlike (db.register c.name c.engine p) := by
  refine ⟨rfl, by simp, fun hi => db.answersAt_register _ _ p hi, fun {c'} hc' => ?_⟩
  unfold answersFor
  rw [registry_register, Fields.get?_insert]
  by_cases hname : c'.name = c.name
  · have hsame : c' = c := by
      unfold InForce at hc hc'
      rw [hname, hc] at hc'
      exact (Option.some.inj hc').symm
    subst hsame
    rw [if_pos rfl, hnone, hp]
    exact congrArg Except.ok (db.answersAt_register_self _ _ p)
  · rw [if_neg hname]
    cases hi : db.registry.get? c'.name with
    | none => simp
    | some i => exact congrArg Except.ok (db.answersAt_register _ _ p (hdb.registered_lt hi))

theorem alike_modifyPool (hdb : db.IsSteady) {i : Nat} {o : OpenedPool π} {p : π}
    (ho : db.opened[i]? = some o) (hp : Pool.Asked o.pool p) :
    db.AnswersAlike (db.modifyPool i fun _ => p) := by
  have hat (j : Nat) : (db.modifyPool i fun _ => p).answersAt j = db.answersAt j := by
    unfold answersAt
    by_cases hj : i = j
    · subst hj
      rw [getElem?_modifyPool_self, ho]
      exact hdb.opened ho p hp
    · rw [getElem?_modifyPool_ne _ hj]
  refine ⟨rfl, Nat.le_of_eq (db.length_modifyPool ..).symm, fun {j} _ => hat j, fun {c} _ => ?_⟩
  have hregistry : (db.modifyPool i fun _ => p).registry = db.registry := rfl
  unfold answersFor
  rw [hregistry]
  cases db.registry.get? c.name with
  | none => simp
  | some j => exact congrArg Except.ok (hat j)

namespace Works

/-- A turn leaves all answers as they were. -/
theorem alike (h : db.Works db') (hnamed : db.IsNamed) (hsteady : db.IsSteady) :
    db.AnswersAlike db' := by
  cases h with
  | still => exact ⟨rfl, Nat.le_refl _, fun _ => rfl, fun _ => rfl⟩
  | opened hc hnone hp => exact alike_register hnamed hc hnone hp
  | asked ho hp => exact alike_modifyPool hsteady ho hp

theorem isNamed (h : db.Works db') (hnamed : db.IsNamed) : db'.IsNamed := by
  cases h with
  | still => exact hnamed
  | opened hc hnone hp => exact hnamed.register _ _ _
  | asked ho hp => exact (db.keeps_modifyPool _ _).isNamed hnamed

theorem isSteady (h : db.Works db') (hsteady : db.IsSteady) : db'.IsSteady := by
  cases h with
  | still => exact hsteady
  | @opened c p hc hnone hp =>
    refine ⟨fun {i o} ho => ?_, fun hc' hp' => ?_⟩
    · rw [opened_register] at ho
      obtain ho | ho := List.mem_append.mp (List.mem_of_getElem? ho)
      · obtain ⟨j, hj, hjo⟩ := List.getElem_of_mem ho
        exact hsteady.opened (List.getElem?_eq_some_iff.mpr ⟨hj, hjo⟩)
      · cases List.mem_singleton.mp ho
        exact hsteady.made hc hp
    · rw [opening_register] at hp'
      exact hsteady.made hc' hp'
  | @asked i o p ho hp =>
    refine ⟨fun {j o'} ho' => ?_, fun hc' hp' => ?_⟩
    · by_cases hj : i = j
      · subst hj
        rw [getElem?_modifyPool_self, ho] at ho'
        cases ho'
        exact (hsteady.opened ho).asked hp
      · rw [getElem?_modifyPool_ne _ hj] at ho'
        exact hsteady.opened ho'
    · rw [opening_modifyPool] at hp'
      exact hsteady.made hc' hp'

end Works
end Database

namespace TaskPhase
variable {π : Type}

/-- A phase that a task can be in while a database is in this state. -/
def Fits (db : Database π) : TaskPhase → Prop
  | waiting _ c => db.InForce c
  | opening _ c => db.InForce c ∧ db.registry.get? c.name = none
  | connected _ i => i < db.opened.length
  | ready | answered _ | done _ => True

end TaskPhase

namespace Task
variable {π : Type} [Pool π] {t : Task} {db db' : Database π} {phase : TaskPhase}

/-- What a task makes of the answers of its pool. -/
def reply (s : Statement) (a : Pool.Answers) : Task → Except Failure TaskOutcome
  | fetch _ => do
    let rows ← (a.rows s).mapError (·.withSql s.sql)
    .rows <$> rows.mapM Row.toRecord
  | save _ | delete _ => .write <$> (a.write s).mapError (·.withSql s.sql)

theorem outcome_rowsAt (s : Statement) (i : Nat) (db : Database π) :
    ((Session.rowsAt s i).run.run db).1 =
      (((db.answersAt i).rows s).mapError (·.withSql s.sql)).bind (·.mapM Row.toRecord) := by
  unfold Session.rowsAt Database.answersAt
  rw [Session.run_bind, Session.run_onPool]
  cases db.opened[i]? with
  | none => rfl
  | some o =>
    dsimp only [Pool.answers]
    cases (Pool.fetchAll s o.pool).1 <;> rfl

theorem outcome_writeAt (s : Statement) (i : Nat) (db : Database π) :
    ((Session.writeAt s i).run.run db).1 =
      ((db.answersAt i).write s).mapError (·.withSql s.sql) := by
  unfold Session.writeAt Database.answersAt
  rw [Session.run_bind, Session.run_onPool]
  cases db.opened[i]? <;> rfl

theorem outcome_ask (t : Task) (s : Statement) (i : Nat) (db : Database π) :
    ((t.ask s i).run.run db).1 = t.reply s (db.answersAt i) := by
  cases t with
  | fetch q =>
    unfold ask reply
    rw [Session.run_map, outcome_rowsAt]
    cases ((db.answersAt i).rows s).mapError (·.withSql s.sql) <;> rfl
  | save q | delete q =>
    unfold ask reply
    rw [Session.run_map, outcome_writeAt]

theorem outcome_poolFor (t : Task) (s : Statement) (c : Config) (db : Database π) :
    ((Session.poolFor c >>= fun i => t.ask s i).run.run db).1 =
      (db.answersFor c).bind fun a => t.reply s a := by
  unfold Database.answersFor
  rw [Session.run_bind, Session.run_poolFor]
  cases db.registry.get? c.name with
  | some i => exact t.outcome_ask s i db
  | none =>
    dsimp only
    cases db.opening c with
    | error f => rfl
    | ok p =>
      dsimp only
      rw [outcome_ask, Database.answersAt_register_self]
      rfl

theorem outcome_run (t : Task) (db : Database π) : (t.run.run.run db).1 =
    (t.plan.run.run db).1.bind fun m => (db.answersFor m.2).bind fun a => t.reply m.1 a := by
  have hsame := t.plan_same db
  rw [run_eq, Session.run_bind]
  cases hplan : t.plan.run.run db with
  | mk planned mid =>
    rw [hplan] at hsame
    obtain rfl : mid = db := hsame
    cases planned with
    | error f => rfl
    | ok m => exact t.outcome_poolFor m.1 m.2 mid

/-- A task plans for a configuration that the database holds. -/
theorem inForce_of_plan {π : Type} {t : Task} {db : Database π} (hdb : db.IsNamed)
    {s : Statement} {c : Config} (h : (t.plan.run.run db).1 = .ok (s, c)) : db.InForce c := by
  rw [run_plan] at h
  obtain ⟨s', -, h⟩ := bind_eq_ok.mp h
  obtain ⟨source, -, h⟩ := bind_eq_ok.mp h
  cases hc : db.config? source with
  | none =>
    rw [hc] at h
    cases h
  | some c' =>
    rw [hc] at h
    cases h
    unfold Database.InForce
    rw [hdb.config_name hc, hc]

/-- What is left to do comes to the same where all answers are the same. -/
theorem outcome_rest_of_alike (t : Task) (h : db.AnswersAlike db') (hdb : db.IsNamed)
    (hfits : phase.Fits db) :
    ((t.rest phase).run.run db').1 = ((t.rest phase).run.run db).1 := by
  cases phase with
  | ready =>
    have hconfig (source : String) : db'.config? source = db.config? source := by
      unfold Database.config?
      rw [h.configs]
    have hplan : (t.plan.run.run db').1 = (t.plan.run.run db).1 := by
      simp only [run_plan, hconfig]
    simp only [rest, outcome_run, hplan]
    cases hp : (t.plan.run.run db).1 with
    | error f => rfl
    | ok m => exact congrArg (·.bind fun a => t.reply m.1 a) (h.for_ (inForce_of_plan hdb hp))
  | waiting s c => simp only [rest, outcome_poolFor, h.for_ hfits]
  | opening s c => simp only [rest, outcome_poolFor, h.for_ hfits.1]
  | connected s i => simp only [rest, outcome_ask, h.at_ hfits]
  | answered outcome | done outcome => rfl

/-- A task that asks its pool works on that pool at most. -/
theorem ask_leaves (t : Task) (s : Statement) (i : Nat) (db : Database π) :
    ((t.ask s i).run.run db).2 = db ∨ ∃ o p, db.opened[i]? = some o ∧ Pool.Asked o.pool p ∧
      ((t.ask s i).run.run db).2 = db.modifyPool i fun _ => p := by
  have hrows (outcome : Except Failure (List Row)) (mid : Database π) :
      ((do
        let rows ← Session.ofExcept (outcome.mapError (·.withSql s.sql))
        Session.ofExcept (rows.mapM Row.toRecord) : Session π (List Record)).run.run mid).2 =
        mid := by
    cases outcome <;> rfl
  cases t with
  | fetch q =>
    unfold ask Session.rowsAt
    rw [Session.run_map, Session.run_bind, Session.run_onPool]
    cases ho : db.opened[i]? with
    | none => exact .inl (hrows _ db)
    | some o => exact .inr ⟨o, _, rfl, .rows s .refl, hrows _ _⟩
  | save q | delete q =>
    unfold ask Session.writeAt
    rw [Session.run_map, Session.run_bind, Session.run_onPool]
    cases ho : db.opened[i]? with
    | none => exact .inl rfl
    | some o => exact .inr ⟨o, _, rfl, .write s .refl, rfl⟩

theorem works_turn (t : Task) (isFree : Bool) (hfits : phase.Fits db) :
    db.Works (t.turn isFree db phase).2 := by
  cases phase with
  | ready =>
    simp only [turn]
    split <;> exact .still
  | waiting s c =>
    simp only [turn]
    split
    · split <;> exact .still
    · exact .still
  | opening s c =>
    simp only [turn]
    cases hp : db.opening c with
    | ok p => exact .opened hfits.1 hfits.2 hp
    | error f => exact .still
  | connected s i =>
    obtain hsame | ⟨o, p, ho, hp, hleaves⟩ := t.ask_leaves s i db
    · change db.Works ((t.ask s i).run.run db).2
      rw [hsame]
      exact .still
    · change db.Works ((t.ask s i).run.run db).2
      rw [hleaves]
      exact .asked ho hp
  | answered outcome | done outcome => exact .still

/-- Only a task that opens a pool changes what is registered. -/
theorem registry_turn (t : Task) (isFree : Bool) (db : Database π)
    (h : phase.isOpening = false) : (t.turn isFree db phase).2.registry = db.registry := by
  cases phase with
  | ready =>
    simp only [turn]
    split <;> rfl
  | waiting s c =>
    simp only [turn]
    split
    · split <;> rfl
    · rfl
  | opening s c => cases h
  | connected s i =>
    change ((t.ask s i).run.run db).2.registry = db.registry
    obtain hsame | ⟨o, p, -, -, hleaves⟩ := t.ask_leaves s i db
    · rw [hsame]
    · rw [hleaves]
      rfl
  | answered outcome | done outcome => rfl

/-- After its turn a task is in a phase that fits. -/
theorem fits_turn (t : Task) (isFree : Bool) (hdb : db.IsNamed) (hfits : phase.Fits db) :
    (t.turn isFree db phase).1.Fits (t.turn isFree db phase).2 := by
  cases phase with
  | ready =>
    simp only [turn]
    cases hplan : (t.plan.run.run db).1 with
    | error f => trivial
    | ok m => exact inForce_of_plan hdb hplan
  | waiting s c =>
    cases isFree with
    | false => exact hfits
    | true =>
      simp only [turn, if_true]
      cases hi : db.registry.get? c.name with
      | some i => exact hdb.registered_lt hi
      | none => exact ⟨hfits, hi⟩
  | opening s c =>
    simp only [turn]
    cases db.opening c with
    | ok p => simp [TaskPhase.Fits]
    | error f => trivial
  | connected s i | answered outcome | done outcome => trivial

end Task

/-- A phase still fits after a turn of another task, which leaves the registry alone if this one has
locked it. -/
theorem TaskPhase.Fits.of_works {π : Type} [Pool π] {db db' : Database π} {phase : TaskPhase}
    (hfits : phase.Fits db) (h : db.AnswersAlike db')
    (hregistry : phase.isOpening = true → db'.registry = db.registry) : phase.Fits db' := by
  have hforce {c : Config} (hc : db.InForce c) : db'.InForce c := by
    unfold Database.InForce Database.config?
    rw [h.configs]
    exact hc
  cases phase with
  | waiting s c => exact hforce hfits
  | opening s c => exact ⟨hforce hfits.1, (hregistry rfl).symm ▸ hfits.2⟩
  | connected s i => exact Nat.lt_of_lt_of_le hfits h.length
  | ready | answered outcome | done outcome => trivial

namespace BatchRun
variable {π : Type} [Pool π] {r : BatchRun π}

/-- What each member would come to if it went on alone. -/
def verdicts (r : BatchRun π) : List (Except Failure TaskOutcome) :=
  r.members.map fun m => ((m.1.rest m.2).run.run r.db).1

/-- One member at most has locked the registry, and all are where they can be, in a database that
answers by the statement alone. -/
structure IsSound (r : BatchRun π) : Prop where
  named : r.db.IsNamed
  steady : r.db.IsSteady
  fits {k : Nat} {m : Task × TaskPhase} (hk : r.members[k]? = some m) : m.2.Fits r.db
  exclusive {j k : Nat} {m m' : Task × TaskPhase} (hj : r.members[j]? = some m)
    (hk : r.members[k]? = some m') (h : m.2.isOpening = true) (h' : m'.2.isOpening = true) : j = k

theorem isOpening_of_isFree {π : Type} {r : BatchRun π} (hfree : r.isFree = true) {k : Nat}
    {m : Task × TaskPhase} (hk : r.members[k]? = some m) : m.2.isOpening = false := by
  unfold isFree at hfree
  rw [Bool.not_eq_true', List.any_eq_false] at hfree
  exact Bool.eq_false_iff.mpr (hfree m (List.mem_of_getElem? hk))

/-- After a turn a member is the one whose turn it was, or it is where it was before. -/
theorem member_step {k j : Nat} {t : Task} {phase : TaskPhase} {m : Task × TaskPhase}
    (hk : r.members[k]? = some (t, phase)) (hj : (r.step k).members[j]? = some m) :
    k = j ∧ m = (t, (t.turn r.isFree r.db phase).1) ∨ k ≠ j ∧ r.members[j]? = some m := by
  obtain ⟨hlt, -⟩ := List.getElem?_eq_some_iff.mp hk
  rw [step_of_some hk] at hj
  by_cases hne : k = j
  · subst hne
    rw [List.getElem?_set_self hlt] at hj
    exact .inl ⟨rfl, (Option.some.inj hj).symm⟩
  · rw [List.getElem?_set_ne hne] at hj
    exact .inr ⟨hne, hj⟩

/-- A turn of one member keeps all where they can be. -/
theorem IsSound.step (h : r.IsSound) {k : Nat} {t : Task} {phase : TaskPhase}
    (hk : r.members[k]? = some (t, phase)) : (r.step k).IsSound := by
  have hworks := t.works_turn r.isFree (h.fits hk)
  have hdb : (r.step k).db = (t.turn r.isFree r.db phase).2 := by rw [step_of_some hk]
  -- A member locks the registry only where none has.
  have hlocks {j : Nat} {m : Task × TaskPhase} (hj : r.members[j]? = some m)
      (hopening : m.2.isOpening = true) : (t.turn r.isFree r.db phase).1.isOpening ≠ true := by
    cases hturn : (t.turn r.isFree r.db phase).1 with
    | opening s c =>
      obtain ⟨-, hfree, -⟩ := Task.opening_of_turn hturn
      rw [isOpening_of_isFree hfree hj] at hopening
      cases hopening
    | ready | waiting | connected | answered | done => exact Bool.false_ne_true
  refine ⟨hdb ▸ hworks.isNamed h.named, hdb ▸ hworks.isSteady h.steady, fun {j m} hj => ?_,
    fun {i j m m'} hi hj hm hm' => ?_⟩
  · rw [hdb]
    obtain ⟨-, rfl⟩ | ⟨hne, hj⟩ := member_step hk hj
    · exact t.fits_turn r.isFree h.named (h.fits hk)
    · refine (h.fits hj).of_works (hworks.alike h.named h.steady) fun hopening => ?_
      refine t.registry_turn r.isFree r.db (Bool.eq_false_iff.mpr fun hphase => hne ?_)
      exact h.exclusive hk hj hphase hopening
  · obtain ⟨rfl, rfl⟩ | ⟨hki, hi⟩ := member_step hk hi
    · obtain ⟨rfl, -⟩ | ⟨hkj, hj⟩ := member_step hk hj
      · rfl
      · exact absurd hm (hlocks hj hm')
    · obtain ⟨-, rfl⟩ | ⟨hkj, hj⟩ := member_step hk hj
      · exact absurd hm' (hlocks hi hm)
      · exact h.exclusive hi hj hm hm'

/-- A turn of one member changes nothing about what each comes to. -/
theorem IsSound.verdicts_step (h : r.IsSound) {k : Nat} {t : Task} {phase : TaskPhase}
    (hk : r.members[k]? = some (t, phase)) : (r.step k).verdicts = r.verdicts := by
  have halike := (t.works_turn r.isFree (h.fits hk)).alike h.named h.steady
  obtain ⟨hlt, -⟩ := List.getElem?_eq_some_iff.mp hk
  rw [step_of_some hk]
  unfold verdicts
  refine List.ext_getElem? fun j => ?_
  rw [List.getElem?_map, List.getElem?_map]
  by_cases hne : k = j
  · subst hne
    rw [List.getElem?_set_self hlt, hk]
    have hrest := t.rest_turn r.isFree fun s c (heq : phase = .opening s c) =>
      And.right (heq ▸ h.fits hk : TaskPhase.Fits r.db (.opening s c))
    exact congrArg (fun left => some left.1) hrest
  · rw [List.getElem?_set_ne hne]
    cases hj : r.members[j]? with
    | none => rfl
    | some m => exact congrArg some (m.1.outcome_rest_of_alike halike h.named (h.fits hj))

/-- However the members take their turns, what each comes to stays what it was. -/
theorem IsSound.run (h : r.IsSound) (schedule : List Nat) :
    (r.run schedule).IsSound ∧ (r.run schedule).verdicts = r.verdicts := by
  induction schedule generalizing r with
  | nil => exact ⟨h, rfl⟩
  | cons k rest ih =>
    rw [run_cons]
    cases hk : r.members[k]? with
    | none =>
      rw [step_of_none hk]
      exact ih h
    | some m =>
      obtain ⟨hsound, hverdicts⟩ := ih (h.step hk)
      exact ⟨hsound, hverdicts.trans (h.verdicts_step hk)⟩

end BatchRun

namespace Batch
variable {π : Type} [Pool π]
open BatchRun (start)

end Batch
end SqlRecords
