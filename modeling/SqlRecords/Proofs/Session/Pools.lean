import Mathlib.Data.List.Nodup
import SqlRecords.Proofs.Session.Sending

/-! What the operations on the registry of pools leave behind, also where they fail. -/
namespace SqlRecords

namespace Database
variable {π : Type}

/-- What opening a pool for a configuration gives now. -/
def opening (db : Database π) (c : Config) : Except Failure π := ((Session.openPool c).run.run db).1

/-- What opening a pool gives depends on the backends alone. -/
theorem opening_of_backends {db db' : Database π} (h : db'.backends = db.backends) (c : Config) :
    db'.opening c = db.opening c := by
  unfold opening Session.openPool
  rw [Session.run_get_bind, Session.run_get_bind, h]
  cases db.backends.lookup c.engine with
  | none => rfl
  | some backend => cases hp : backend c <;> simp only [hp] <;> rfl

@[simp] theorem opening_register (db : Database π) (source : String) (engine : Engine) (p : π)
    (c : Config) : (db.register source engine p).opening c = db.opening c := by
  apply opening_of_backends
  rfl

@[simp] theorem opening_modifyPool (db : Database π) (i : Nat) (f : π → π) (c : Config) :
    (db.modifyPool i f).opening c = db.opening c := by
  apply opening_of_backends
  rfl

@[simp] theorem registry_register (db : Database π) (source : String) (engine : Engine) (p : π) :
    (db.register source engine p).registry = db.registry.insert source db.opened.length := rfl

@[simp] theorem opened_register (db : Database π) (source : String) (engine : Engine) (p : π) :
    (db.register source engine p).opened = db.opened ++ [⟨source, engine, p⟩] := rfl

@[simp] theorem registry_evict (db : Database π) (source : String) :
    (db.evict source).registry = db.registry.erase source := rfl

theorem length_modifyPool (db : Database π) (i : Nat) (f : π → π) :
    (db.modifyPool i f).opened.length = db.opened.length := List.length_modify ..

theorem getElem?_modifyPool_ne (db : Database π) {i j : Nat} (h : i ≠ j) (f : π → π) :
    (db.modifyPool i f).opened[j]? = db.opened[j]? := List.getElem?_modify_ne _ _ h

theorem getElem?_modifyPool_self (db : Database π) (i : Nat) (f : π → π) :
    (db.modifyPool i f).opened[i]? =
      (db.opened[i]?).map fun o => { o with pool := f o.pool } := List.getElem?_modify_eq ..

/-- Positions of the pools that are registered. -/
def positions (db : Database π) : List Nat := db.registry.map (·.2)

/-- Each pool is registered for one data source, and it was opened before. -/
structure IsTidy (db : Database π) : Prop where
  names : db.registry.keys.Nodup
  unique {a b : String} {i : Nat} (ha : db.registry.get? a = some i)
    (hb : db.registry.get? b = some i) : a = b
  opened {source : String} {i : Nat} (h : db.registry.get? source = some i) :
    i < db.opened.length

theorem mem_positions {db : Database π} (hdb : db.IsTidy) {i : Nat} :
    i ∈ db.positions ↔ ∃ source, db.registry.get? source = some i := by
  constructor
  · intro h
    obtain ⟨⟨source, i⟩, hmem, rfl⟩ := List.mem_map.mp h
    exact ⟨source, Fields.get?_of_mem hdb.names hmem⟩
  · rintro ⟨source, h⟩
    exact List.mem_map.mpr ⟨(source, i), Fields.mem_of_get? h, rfl⟩

theorem IsTidy.nodup_positions {db : Database π} (hdb : db.IsTidy) : db.positions.Nodup := by
  refine List.Nodup.map_on ?_ (List.Nodup.of_map _ hdb.names)
  rintro ⟨a, i⟩ ha ⟨b, j⟩ hb rfl
  rw [hdb.unique (Fields.get?_of_mem hdb.names ha) (Fields.get?_of_mem hdb.names hb)]

theorem isTidy_register {db : Database π} (hdb : db.IsTidy) (source : String) (engine : Engine)
    (p : π) : (db.register source engine p).IsTidy := by
  have hlength : (db.register source engine p).opened.length = db.opened.length + 1 := by
    rw [opened_register, List.length_append, List.length_singleton]
  refine ⟨?_, fun {a b i} ha hb => ?_, fun {source' i} h => ?_⟩
  · exact Fields.nodup_keys_insert hdb.names source _
  · rw [registry_register, Fields.get?_insert] at ha hb
    split at ha <;> split at hb
    · next ha' hb' => exact ha'.trans hb'.symm
    · cases ha
      exact absurd (hdb.opened hb) (Nat.lt_irrefl _)
    · cases hb
      exact absurd (hdb.opened ha) (Nat.lt_irrefl _)
    · exact hdb.unique ha hb
  · rw [hlength]
    rw [registry_register, Fields.get?_insert] at h
    split at h
    · cases h
      exact Nat.lt_succ_self _
    · exact Nat.lt_succ_of_lt (hdb.opened h)

theorem isTidy_evict {db : Database π} (hdb : db.IsTidy) (source : String) :
    (db.evict source).IsTidy := by
  have hget {name : String} {i : Nat} (h : (db.evict source).registry.get? name = some i) :
      db.registry.get? name = some i := by
    rw [registry_evict, Fields.get?_erase] at h
    split at h
    · cases h
    · exact h
  refine ⟨?_, fun ha hb => hdb.unique (hget ha) (hget hb), fun h => hdb.opened (hget h)⟩
  exact hdb.names.sublist (List.filter_sublist.map _)

theorem mem_positions_register {db : Database π} (hdb : db.IsTidy) (source : String)
    (engine : Engine) (p : π) {i : Nat} : i ∈ (db.register source engine p).positions ↔
      i = db.opened.length ∨ ∃ name, name ≠ source ∧ db.registry.get? name = some i := by
  rw [mem_positions (isTidy_register hdb source engine p), registry_register]
  simp only [Fields.get?_insert]
  constructor
  · rintro ⟨name, h⟩
    split at h
    · exact .inl (Option.some.inj h).symm
    · exact .inr ⟨name, ‹_›, h⟩
  · rintro (rfl | ⟨name, hne, h⟩)
    · exact ⟨source, if_pos rfl⟩
    · exact ⟨name, (if_neg hne).trans h⟩

theorem mem_positions_evict {db : Database π} (hdb : db.IsTidy) {source : String} {i : Nat}
    (hi : db.registry.get? source = some i) {j : Nat} :
    j ∈ (db.evict source).positions ↔ j ∈ db.positions ∧ i ≠ j := by
  rw [mem_positions (isTidy_evict hdb source), mem_positions hdb, registry_evict]
  simp only [Fields.get?_erase]
  constructor
  · rintro ⟨name, h⟩
    split at h
    · cases h
    · refine ⟨⟨name, h⟩, ?_⟩
      rintro rfl
      exact absurd (hdb.unique h hi) ‹_›
  · rintro ⟨⟨name, h⟩, hne⟩
    refine ⟨name, (if_neg ?_).trans h⟩
    rintro rfl
    exact hne (Option.some.inj (hi.symm.trans h))

theorem isTidy_of_same {db db' : Database π} (hdb : db.IsTidy)
    (hregistry : db'.registry = db.registry) (hlength : db'.opened.length = db.opened.length) :
    db'.IsTidy := by
  refine ⟨?_, fun {a b i} ha hb => ?_, fun {source i} h => ?_⟩
  · rw [hregistry]
    exact hdb.names
  · rw [hregistry] at ha hb
    exact hdb.unique ha hb
  · rw [hregistry] at h
    rw [hlength]
    exact hdb.opened h

theorem isTidy_of_nil {db : Database π} (h : db.registry = []) : db.IsTidy := by
  refine ⟨h ▸ List.nodup_nil, fun ha => ?_, fun ha => ?_⟩ <;> rw [h] at ha <;> cases ha

end Database

namespace Session
variable {π α β : Type}

theorem run_openPool (c : Config) (db : Database π) :
    (openPool c).run.run db = (db.opening c, db) := Prod.ext rfl (openPool_same c db)

theorem run_poolFor (c : Config) (db : Database π) :
    (poolFor c).run.run db = match db.registry.get? c.name with
      | some i => (.ok i, db)
      | none => match db.opening c with
        | .ok p => (.ok db.opened.length, db.register c.name c.engine p)
        | .error f => (.error f, db) := by
  unfold poolFor
  rw [run_get_bind]
  cases db.registry.get? c.name with
  | some i => rfl
  | none =>
    dsimp only
    rw [run_bind, run_openPool]
    cases db.opening c <;> rfl

theorem run_pool (source : String) (db : Database π) :
    (pool source).run.run db = match db.config? source with
      | some c => (poolFor c).run.run db
      | none => (.error (PoolError.unknownSource source).failure, db) := by
  unfold pool
  rw [run_bind, run_config]
  cases db.config? source <;> rfl

theorem run_configure (c : Config) (db : Database π) :
    (configure c).run.run db = match c.flaw? with
      | some e => (.error e.failure, db)
      | none => (.ok (), { db with configs := db.configs.insert c.name c }) := by
  unfold configure
  cases c.flaw? <;> rfl

theorem run_attach (c : Config) (p : π) (db : Database π) :
    (attach c p).run.run db = match c.flaw? with
      | some e => (.error e.failure, db)
      | none => (.ok (), { db with configs := db.configs.insert c.name c }.register
          c.name c.engine p) := by
  unfold attach
  rw [run_bind, run_configure]
  cases c.flaw? <;> rfl

theorem run_onPool [Inhabited α] (i : Nat) (f : π → α × π) (db : Database π) :
    (onPool i f).run.run db = match db.opened[i]? with
      | none => (.ok default, db)
      | some o => (.ok (f o.pool).1, db.modifyPool i fun _ => (f o.pool).2) := by
  unfold onPool
  rw [run_get_bind]
  cases db.opened[i]? <;> rfl

theorem run_closeAt [Pool π] (i : Nat) (db : Database π) :
    (closeAt i).run.run db = match db.opened[i]? with
      | none => (default, db)
      | some o => ((Pool.close o.pool).1, db.modifyPool i fun _ => (Pool.close o.pool).2) := by
  unfold closeAt
  rw [run_bind, run_onPool]
  cases db.opened[i]? <;> rfl

/-- Closing a pool leaves the registry alone. -/
theorem closeAt_same [Pool π] {i : Nat} {db db' : Database π} {outcome : Except Failure Unit}
    (h : (closeAt i).run.run db = (outcome, db')) :
    db'.registry = db.registry ∧ db'.opened.length = db.opened.length := by
  rw [run_closeAt] at h
  cases ho : db.opened[i]? with
  | none =>
    rw [ho] at h
    cases h
    exact ⟨rfl, rfl⟩
  | some o =>
    rw [ho] at h
    cases h
    exact ⟨rfl, Database.length_modifyPool ..⟩

theorem run_close [Pool π] (source : String) (db : Database π) :
    (close source).run.run db = match db.registry.get? source with
      | none => (.ok false, db)
      | some i => ((do closeAt i; return true : Session π Bool)).run.run (db.evict source) := by
  unfold close
  rw [run_get_bind]
  cases db.registry.get? source with
  | none => rfl
  | some i => rfl

theorem closeEach_cons [Pool π] (i : Nat) (rest : List Nat) :
    (closeEach (i :: rest) : Session π Unit) = closeAt i >>= fun _ => closeEach rest := rfl

end Session
end SqlRecords
