import Mathlib.Data.List.Induction
import SqlRecords.Pool.Scripted
import SqlRecords.Proofs.Session.Pools
import SqlRecords.Session.Stream

/-! Which language a statement speaks, and which one the pool understands that it is sent to. A
query takes its dialect from the configuration of its data source, while the pool keeps the engine of
the configuration that it was opened or attached for. -/
namespace SqlRecords

/-- What is done with a database, and what happens to it from outside. -/
inductive Operation (π : Type) where
  | configure (c : Config)
  | attach (c : Config) (pool : π)
  | openPool (source : String)
  | read (q : Query) (s : Statement)
  | write (q : Query) (s : Statement)
  | stream (q : Query) (memory : Memory) (size : Nat) (consumer : Consumer (List Record))
  | close (source : String)
  | closeAll
  /-- From now on the backends answer like this. -/
  | answer (backends : List (Engine × Backend π))

namespace Operation
variable {π : Type}

/-- What an operation leaves behind, whether it succeeds or not. -/
def apply [Pool π] (db : Database π) : Operation π → Database π
  | configure c => ((Session.configure c).run.run db).2
  | attach c p => ((Session.attach c p).run.run db).2
  | openPool source => ((Session.pool source).run.run db).2
  | read q s => ((q.rowsOf s).run.run db).2
  | write q s => ((q.send s).run.run db).2
  | stream q memory size consumer => ((q.stream memory size consumer).run.run db).2
  | close source => ((Session.close source).run.run db).2
  | closeAll => (Session.closeAll.run.run db).2
  | answer backends => { db with backends := backends }

/-- The configuration that an operation adds. -/
def config? : Operation π → Option Config
  | configure c | attach c _ => if c.flaw?.isNone then some c else none
  | _ => none

/-- The configurations that operations add for a name, one after another. -/
def added (name : String) (ops : List (Operation π)) : List Config :=
  (ops.filterMap config?).filter (·.name = name)

theorem added_append (source : String) (ops more : List (Operation π)) :
    added source (ops ++ more) = added source ops ++ added source more := by
  rw [added, List.filterMap_append, List.filter_append]
  rfl

theorem added_cons (source : String) (op : Operation π) (rest : List (Operation π)) :
    added source (op :: rest) =
      (op.config?.filter (·.name = source)).toList ++ added source rest := by
  unfold added
  rw [List.filterMap_cons]
  cases op.config? with
  | none => rfl
  | some c => by_cases hc : c.name = source <;> simp [Option.filter, hc]

def run [Pool π] (db : Database π) (ops : List (Operation π)) : Database π := ops.foldl apply db

end Operation

namespace Database
variable {π : Type}

/-- The engines of all pools that were opened, by position. -/
def engines (db : Database π) : List Engine := db.opened.map (·.engine)

theorem length_engines (db : Database π) : db.engines.length = db.opened.length :=
  List.length_map ..

/-- Two states of a database with the same configurations, and the same pools registered. What
happened inside the pools is left open. -/
structure Keeps (db db' : Database π) : Prop where
  configs : db'.configs = db.configs
  registry : db'.registry = db.registry
  engines : db'.engines = db.engines

theorem Keeps.refl (db : Database π) : db.Keeps db := ⟨rfl, rfl, rfl⟩

theorem Keeps.trans {db mid db' : Database π} (h : db.Keeps mid) (h' : mid.Keeps db') :
    db.Keeps db' :=
  ⟨h'.configs.trans h.configs, h'.registry.trans h.registry, h'.engines.trans h.engines⟩

theorem Keeps.length_opened {db db' : Database π} (h : db.Keeps db') :
    db'.opened.length = db.opened.length := by
  rw [← length_engines, ← length_engines, h.engines]

theorem keeps_modifyPool (db : Database π) (i : Nat) (f : π → π) :
    db.Keeps (db.modifyPool i f) := by
  refine ⟨rfl, rfl, List.ext_getElem? fun j => ?_⟩
  unfold engines modifyPool
  rw [List.getElem?_map, List.getElem?_modify, List.getElem?_map]
  cases db.opened[j]? with
  | none => rfl
  | some o => by_cases hj : i = j <;> simp [hj]

end Database

namespace Session
variable {π α β : Type}

/-- A step that works on open pools at most. -/
def KeepsPools (x : Session π α) : Prop := ∀ db : Database π, db.Keeps (x.run.run db).2

theorem keepsPools_pure (a : α) : KeepsPools (π := π) (pure a) := fun db => .refl db

theorem keepsPools_ofExcept (e : Except Failure α) : KeepsPools (π := π) (ofExcept e) :=
  fun db => .refl db

theorem keepsPools_onPool [Inhabited α] (i : Nat) (f : π → α × π) : KeepsPools (onPool i f) := by
  intro db
  rw [run_onPool]
  cases db.opened[i]? with
  | none => exact .refl db
  | some o => exact db.keeps_modifyPool i fun _ => (f o.pool).2

theorem KeepsPools.bind {x : Session π α} {f : α → Session π β} (hx : KeepsPools x)
    (hf : ∀ a, KeepsPools (f a)) : KeepsPools (x >>= f) := by
  intro db
  have hkeeps := hx db
  rw [run_bind]
  cases hrun : x.run.run db with
  | mk outcome mid =>
    rw [hrun] at hkeeps
    cases outcome with
    | error e => exact hkeeps
    | ok a => exact hkeeps.trans (hf a mid)

theorem keepsPools_streamAt [Pool π] (s : Statement) (i : Nat) (memory : Memory) (size : Nat)
    (consumer : Consumer (List Record)) :
    KeepsPools (π := π) (streamAt s i memory size consumer) := by
  unfold streamAt
  cases memory.crash? (max size 1) with
  | some crash => exact (keepsPools_onPool i _).bind fun _ => keepsPools_pure _
  | none =>
    refine (keepsPools_onPool i _).bind fun cursor => ?_
    exact (keepsPools_onPool i _).bind fun _ => keepsPools_pure _

theorem keepsPools_closeAt [Pool π] (i : Nat) : KeepsPools (π := π) (closeAt i) :=
  (keepsPools_onPool i Pool.close).bind fun _ => keepsPools_ofExcept _

theorem keepsPools_closeEach [Pool π] (positions : List Nat) :
    KeepsPools (π := π) (closeEach positions) := by
  induction positions with
  | nil => exact keepsPools_pure _
  | cons i rest ih =>
    rw [closeEach_cons]
    exact (keepsPools_closeAt i).bind fun _ => ih

end Session

namespace Database
variable {π : Type}

/-- What an operation does to the configurations and to the registry of pools. -/
inductive Moves (db : Database π) : Option Config → Database π → Prop
  | still : Moves db none db
  | configured {c : Config} (hc : c.flaw? = none) :
    Moves db (some c) { db with configs := db.configs.insert c.name c }
  | attached {c : Config} (p : π) (hc : c.flaw? = none) :
    Moves db (some c) ({ db with configs := db.configs.insert c.name c }.register c.name c.engine p)
  | opened {source : String} {c : Config} (p : π) (hc : db.config? source = some c)
    (hnone : db.registry.get? c.name = none) : Moves db none (db.register c.name c.engine p)
  | evicted (source : String) : Moves db none (db.evict source)
  | drained : Moves db none { db with registry := [] }

theorem moves_pool (db : Database π) (source : String) :
    ∃ mid, db.Moves none mid ∧ ((Session.pool source).run.run db).2 = mid := by
  rw [Session.run_pool]
  cases hc : db.config? source with
  | none => exact ⟨db, .still, rfl⟩
  | some c =>
    dsimp only
    rw [Session.run_poolFor]
    cases hi : db.registry.get? c.name with
    | some i => exact ⟨db, .still, rfl⟩
    | none =>
      dsimp only
      cases db.opening c with
      | ok p => exact ⟨_, .opened p hc hi, rfl⟩
      | error f => exact ⟨db, .still, rfl⟩

/-- An execution opens the pool of its query if need be, and then works on open pools at most. -/
theorem moves_execution {α : Type} (db : Database π) (q : Query) {f : Nat → Session π α}
    (hf : ∀ i, Session.KeepsPools (f i)) :
    ∃ mid, db.Moves none mid ∧ mid.Keeps ((q.pool >>= f).run.run db).2 := by
  have hpool : ∃ mid, db.Moves none mid ∧ (q.pool.run.run db).2 = mid := by
    unfold Query.pool
    rw [Session.run_bind]
    unfold Query.boundSource
    cases q.dataSource with
    | none => exact ⟨db, .still, rfl⟩
    | some source => exact db.moves_pool source
  obtain ⟨mid, hmoves, hmid⟩ := hpool
  refine ⟨mid, hmoves, ?_⟩
  rw [Session.run_bind]
  cases hrun : q.pool.run.run db with
  | mk outcome after =>
    rw [hrun] at hmid
    cases hmid
    cases outcome with
    | error e => exact .refl _
    | ok i => exact hf i _

end Database

namespace Operation
variable {π : Type} [Pool π]
open Session (KeepsPools keepsPools_ofExcept keepsPools_onPool keepsPools_pure)

/-- Every operation is one move, and beyond it works on open pools at most. -/
theorem apply_moves (db : Database π) (op : Operation π) :
    ∃ mid, db.Moves op.config? mid ∧ mid.Keeps (op.apply db) := by
  have hresult (i : Nat) (s : Statement) {α : Type}
      (f : Statement → π → Except Failure α × π) :
      KeepsPools (do
        let result ← Session.onPool i (f s)
        Session.ofExcept (result.mapError (·.withSql s.sql))) :=
    (keepsPools_onPool i _).bind fun _ => keepsPools_ofExcept _
  cases op with
  | configure c =>
    simp only [apply, config?, Session.run_configure]
    cases hc : c.flaw? with
    | some e => exact ⟨db, .still, .refl _⟩
    | none => exact ⟨_, .configured hc, .refl _⟩
  | attach c p =>
    simp only [apply, config?, Session.run_attach]
    cases hc : c.flaw? with
    | some e => exact ⟨db, .still, .refl _⟩
    | none => exact ⟨_, .attached p hc, .refl _⟩
  | openPool source =>
    obtain ⟨mid, hmoves, hmid⟩ := db.moves_pool source
    exact ⟨mid, hmoves, hmid ▸ .refl _⟩
  | read q s =>
    have htail (i : Nat) := (hresult i s Pool.fetchAll).bind fun rows =>
      keepsPools_ofExcept (rows.mapM Row.toRecord)
    have hmoves := db.moves_execution q htail
    simp only [bind_assoc] at hmoves
    exact hmoves
  | write q s => exact db.moves_execution q fun i => hresult i s Pool.execute
  | stream q memory size consumer =>
    simp only [apply, Query.stream, Query.written]
    cases q.selectStatement with
    | error e => exact ⟨db, .still, .refl _⟩
    | ok s => exact db.moves_execution q fun i => Session.keepsPools_streamAt s i memory size consumer
  | close source =>
    simp only [apply, Session.run_close]
    cases db.registry.get? source with
    | none => exact ⟨db, .still, .refl _⟩
    | some i =>
      have hclosed := (Session.keepsPools_closeAt (π := π) i).bind fun _ => keepsPools_pure true
      exact ⟨_, .evicted source, hclosed _⟩
  | closeAll => exact ⟨_, .drained, Session.keepsPools_closeEach _ _⟩
  | answer backends => exact ⟨db, .still, rfl, rfl, rfl⟩

end Operation

namespace Database
variable {π : Type} {db mid db' : Database π}

/-- Configurations stand under their own names, and what is registered was opened. -/
structure IsNamed (db : Database π) : Prop where
  config_name {source : String} {c : Config} (h : db.config? source = some c) : c.name = source
  registered_lt {source : String} {i : Nat} (h : db.registry.get? source = some i) :
    i < db.opened.length

theorem isNamed_empty (backends : List (Engine × Backend π)) : (empty backends).IsNamed :=
  ⟨nofun, nofun⟩

theorem Keeps.isNamed (h : db.Keeps db') (hdb : db.IsNamed) : db'.IsNamed := by
  refine ⟨fun {source c} hc => hdb.config_name ?_, fun {source i} hi => ?_⟩
  · rwa [config?, h.configs] at hc
  · rw [h.length_opened]
    rw [h.registry] at hi
    exact hdb.registered_lt hi

theorem IsNamed.configured (hdb : db.IsNamed) (c : Config) :
    IsNamed { db with configs := db.configs.insert c.name c } := by
  refine ⟨fun {source c'} hc' => ?_, hdb.registered_lt⟩
  rw [config?, Fields.get?_insert] at hc'
  split at hc'
  · cases Option.some.inj hc'
    exact Eq.symm ‹_›
  · exact hdb.config_name hc'

theorem IsNamed.register (hdb : db.IsNamed) (source : String) (engine : Engine) (p : π) :
    (db.register source engine p).IsNamed := by
  refine ⟨hdb.config_name, fun {source' i} hi => ?_⟩
  rw [opened_register, List.length_append, List.length_singleton]
  rw [registry_register, Fields.get?_insert] at hi
  split at hi
  · cases Option.some.inj hi
    exact Nat.lt_succ_self _
  · exact Nat.lt_succ_of_lt (hdb.registered_lt hi)

theorem Moves.isNamed {added : Option Config} (h : db.Moves added mid) (hdb : db.IsNamed) :
    mid.IsNamed := by
  cases h with
  | still => exact hdb
  | configured hc => exact hdb.configured _
  | attached p hc => exact (hdb.configured _).register _ _ p
  | opened p hc hnone => exact hdb.register _ _ p
  | evicted source =>
    refine ⟨hdb.config_name, fun {source' i} hi => ?_⟩
    rw [registry_evict, Fields.get?_erase] at hi
    split at hi
    · cases hi
    · exact hdb.registered_lt hi
  | drained => exact ⟨hdb.config_name, fun hi => by cases hi⟩

/-- The pool that a session gets for a data source is then registered for it. -/
theorem registry_of_pool (hdb : db.IsNamed) {source : String} {i : Nat}
    (h : (Session.pool source).Yields db i db') : db'.registry.get? source = some i := by
  unfold Session.pool at h
  obtain ⟨c, mid, hconfig, h⟩ := Session.yields_bind.mp h
  obtain ⟨hc, rfl⟩ := Session.yields_config.mp hconfig
  have hname := hdb.config_name hc
  obtain ⟨hi, rfl⟩ | ⟨-, rfl, backend, p, -, -, rfl⟩ := Session.yields_poolFor h
  · exact hname ▸ hi
  · rw [registry_register, Fields.get?_insert, if_pos hname.symm]

end Database

/-- What a database holds for a data source: its configuration, and the pool that is registered for
it with its position and engine. -/
structure Holding where
  config : Option Config
  pool : Option (Nat × Engine)

/-- What becomes of the holding of a data source when a configuration is added or not, where the
next pool to be opened is the one at `fresh`. -/
inductive Holding.Step (source : String) (fresh : Nat) : Option Config → Holding → Holding → Prop
  | kept {added : Option Config} (h : Holding) (hother : ∀ c ∈ added, c.name ≠ source) :
    Step source fresh added h h
  | configured {c : Config} (h : Holding) (hc : c.name = source) :
    Step source fresh (some c) h ⟨some c, h.pool⟩
  | attached {c : Config} (h : Holding) (hc : c.name = source) :
    Step source fresh (some c) h ⟨some c, some (fresh, c.engine)⟩
  | opened (c : Config) : Step source fresh none ⟨some c, none⟩ ⟨some c, some (fresh, c.engine)⟩
  | evicted (h : Holding) : Step source fresh none h ⟨h.config, none⟩

namespace Holding.Step
variable {source : String} {fresh : Nat} {added : Option Config} {h h' : Holding}

/-- A configuration stays until another is added for its name. -/
theorem config (hstep : Holding.Step source fresh added h h') :
    h'.config = (added.filter (·.name = source)).or h.config := by
  cases hstep with
  | kept h hother =>
    cases added with
    | none => rfl
    | some c => simp [Option.filter, hother c rfl]
  | configured h hc | attached h hc => simp [Option.filter, hc]
  | opened c => rfl
  | evicted h => rfl

/-- A pool that is registered was so before, or it is a new one for the configuration in force. -/
theorem pool (hstep : Holding.Step source fresh added h h') {i : Nat} {e : Engine}
    (hpool : h'.pool = some (i, e)) :
    h.pool = some (i, e) ∨ ∃ c, h'.config = some c ∧ fresh = i ∧ e = c.engine := by
  cases hstep with
  | kept => exact .inl hpool
  | configured => exact .inl hpool
  | attached | opened =>
    cases hpool
    exact .inr ⟨_, rfl, rfl, rfl⟩
  | evicted => cases hpool

end Holding.Step

namespace Database
variable {π : Type} {db mid db' : Database π}

def holding (db : Database π) (source : String) : Holding where
  config := db.config? source
  pool := (db.registry.get? source).bind fun i => db.engines[i]?.map fun e => (i, e)

theorem Keeps.holding (h : db.Keeps db') (source : String) :
    db'.holding source = db.holding source := by
  unfold Database.holding config?
  rw [h.configs, h.registry, h.engines]

theorem holding_configured (db : Database π) (c : Config) (source : String) :
    holding { db with configs := db.configs.insert c.name c } source =
      if source = c.name then ⟨some c, (db.holding source).pool⟩ else db.holding source := by
  unfold holding config?
  rw [Fields.get?_insert]
  split <;> rfl

/-- Other pools stay where they are when a new one is registered. -/
theorem holding_register (hdb : db.IsNamed) (name : String) (engine : Engine) (p : π)
    (source : String) :
    (db.register name engine p).holding source =
      if source = name then ⟨db.config? source, some (db.opened.length, engine)⟩
      else db.holding source := by
  have hengines : (db.register name engine p).engines = db.engines ++ [engine] :=
    List.map_append
  unfold holding
  rw [registry_register, Fields.get?_insert, hengines]
  split
  · rw [Option.bind_some, ← length_engines, List.getElem?_concat_length]
    rfl
  · cases hi : db.registry.get? source with
    | none => rfl
    | some i =>
      have hlt := hdb.registered_lt hi
      rw [← length_engines] at hlt
      rw [Option.bind_some, Option.bind_some, List.getElem?_append_left hlt]
      rfl

theorem holding_evict (db : Database π) (name source : String) :
    (db.evict name).holding source =
      if source = name then ⟨db.config? source, none⟩ else db.holding source := by
  unfold holding
  rw [registry_evict, Fields.get?_erase]
  split <;> rfl

theorem Moves.holding {added : Option Config} (hdb : db.IsNamed) (h : db.Moves added mid)
    (source : String) :
    Holding.Step source db.opened.length added (db.holding source) (mid.holding source) := by
  have hother {c : Config} (hne : ¬ source = c.name) : ∀ c' ∈ some c, c'.name ≠ source := by
    intro c' hc'
    cases Option.some.inj hc'
    exact Ne.symm hne
  cases h with
  | still => exact .kept _ (fun c hc => by cases hc)
  | configured hc =>
    rw [holding_configured]
    split
    · exact .configured _ (Eq.symm ‹_›)
    · exact .kept _ (hother ‹_›)
  | @attached c p hc =>
    rw [holding_register (hdb.configured c), holding_configured, config?, Fields.get?_insert]
    split
    · exact .attached _ (Eq.symm ‹_›)
    · exact .kept _ (hother ‹_›)
  | @opened name c p hc hnone =>
    rw [holding_register hdb]
    split
    · next heq =>
      have hsource : source = name := heq.trans (hdb.config_name hc)
      have hholding : db.holding source = ⟨some c, none⟩ := by
        rw [Database.holding, heq, hnone, ← heq, hsource, hc]
        rfl
      rw [hholding, hsource, hc]
      exact .opened c
    · exact .kept _ (fun c hc => by cases hc)
  | evicted name =>
    rw [holding_evict]
    split
    · exact .evicted _
    · exact .kept _ (fun c hc => by cases hc)
  | drained => exact .evicted _

end Database

namespace Operation
variable {π : Type} [Pool π] {db : Database π}

theorem isNamed_apply (hdb : db.IsNamed) (op : Operation π) : (op.apply db).IsNamed := by
  obtain ⟨mid, hmoves, hkeeps⟩ := op.apply_moves db
  exact hkeeps.isNamed (hmoves.isNamed hdb)

theorem holding_apply (hdb : db.IsNamed) (op : Operation π) (source : String) :
    Holding.Step source db.opened.length op.config? (db.holding source)
      ((op.apply db).holding source) := by
  obtain ⟨mid, hmoves, hkeeps⟩ := op.apply_moves db
  rw [hkeeps.holding]
  exact hmoves.holding hdb source

theorem run_append (db : Database π) (ops more : List (Operation π)) :
    run db (ops ++ more) = run (run db ops) more := List.foldl_append

theorem isNamed_run (hdb : db.IsNamed) (ops : List (Operation π)) : (run db ops).IsNamed := by
  induction ops generalizing db with
  | nil => exact hdb
  | cons op rest ih => exact ih (isNamed_apply hdb op)

theorem config_run (hdb : db.IsNamed) (source : String) (ops : List (Operation π)) :
    (run db ops).config? source = (added source ops).getLast?.or (db.config? source) := by
  induction ops generalizing db with
  | nil => rfl
  | cons op rest ih =>
    have hstep : (op.apply db).config? source =
        (op.config?.filter (·.name = source)).or (db.config? source) :=
      (holding_apply hdb op source).config
    have hrest := ih (isNamed_apply hdb op)
    rw [added_cons, List.getLast?_append]
    refine hrest.trans ?_
    rw [hstep]
    cases op.config?.filter (·.name = source) <;> cases (added source rest).getLast? <;> rfl

end Operation

/-- The operation of a run by which a pool was registered for a data source, when the configuration
in force was `c`. Since then the pool stayed registered. -/
structure Registered {π : Type} [Pool π] (db : Database π) (ops : List (Operation π))
    (source : String) (i : Nat) (early : List (Operation π)) (op : Operation π)
    (late : List (Operation π)) (c : Config) : Prop where
  split : ops = early ++ op :: late
  fresh : (Operation.run db early).opened.length = i
  config : (Operation.run db (early ++ [op])).config? source = some c
  held {since : List (Operation π)} (h : since <+: late) :
    ((Operation.run db (early ++ op :: since)).holding source).pool = some (i, c.engine)

namespace Operation
variable {π : Type} [Pool π]

/-- What is registered after a run was registered by one of its operations. -/
theorem registered_by (backends : List (Engine × Backend π)) (ops : List (Operation π))
    {source : String} {i : Nat} {e : Engine}
    (h : ((run (.empty backends) ops).holding source).pool = some (i, e)) :
    ∃ early op late c, Registered (.empty backends) ops source i early op late c ∧
      e = c.engine := by
  induction ops using List.reverseRecOn with
  | nil => cases h
  | append_singleton ops op ih =>
    have hstep := holding_apply (isNamed_run (Database.isNamed_empty backends) ops) op source
    have hlast : run (.empty backends) (ops ++ [op]) = op.apply (run (.empty backends) ops) := by
      rw [run_append]
      rfl
    rw [hlast] at h
    obtain hbefore | ⟨c, hc, hfresh, he⟩ := hstep.pool h
    · obtain ⟨early, op', late, c, hreg, he⟩ := ih hbefore
      refine ⟨early, op', late ++ [op], c,
        ⟨?_, hreg.fresh, hreg.config, fun {since} hsince => ?_⟩, he⟩
      · rw [hreg.split, List.append_assoc, List.cons_append]
      · obtain heq | hprefix := List.prefix_concat_iff.mp hsince
        · rw [heq, ← List.cons_append, ← List.append_assoc, ← hreg.split, hlast, h, he]
        · exact hreg.held hprefix
    · refine ⟨ops, op, [], c, ⟨rfl, hfresh, hlast ▸ hc, fun {since} hsince => ?_⟩, he⟩
      rw [List.prefix_nil.mp hsince, hlast, h, he]

/-- The configuration in force after a run is the last that was added since a pool was registered,
or else the one that it was registered under. -/
theorem config_since {db : Database π} (hdb : db.IsNamed) {ops : List (Operation π)}
    {source : String} {i : Nat} {early : List (Operation π)} {op : Operation π}
    {late : List (Operation π)} {c : Config} (h : Registered db ops source i early op late c) :
    (run db ops).config? source = some ((added source late).getLast?.getD c) := by
  have hsplit : run db ops = run (run db (early ++ [op])) late := by
    rw [h.split, ← run_append, List.append_assoc, List.singleton_append]
  rw [hsplit, config_run (isNamed_run hdb _), h.config]
  cases (added source late).getLast? <;> rfl

/-- A query with the dialect and the data source of one that was asked for after `ops`. Until it is
executed no configuration is added for its data source. Every execution asks for the pool of the
query, which is one that an operation registered when `c` was in force, at the latest this one. The
query speaks the language of that pool exactly if the last configuration that was added since then,
if there is one, speaks it too. -/
theorem dialect_eq_iff (backends : List (Engine × Backend π)) {ops later : List (Operation π)}
    {source : String} {q b : Query} {i : Nat} {db : Database π}
    (hq : (Session.query source).Yields (run (.empty backends) ops) q
      (run (.empty backends) ops))
    (hdialect : b.dialect = q.dialect) (hsource : b.dataSource = some source)
    (hlater : added source later = [])
    (hpool : b.pool.Yields (run (.empty backends) (ops ++ later)) i db) :
    let all := ops ++ later ++ [.openPool source]
    db = run (.empty backends) all ∧ db.registry.get? source = some i ∧
    ∃ o early op late c, db.opened[i]? = some o ∧
      Registered (.empty backends) all source i early op late c ∧ o.engine = c.engine ∧
      (b.dialect = o.engine.dialect ↔
        ∀ last, (added source late).getLast? = some last →
          last.engine.dialect = o.engine.dialect) := by
  intro all
  have hempty := Database.isNamed_empty backends
  have hnamed := isNamed_run hempty (ops ++ later)
  have hopen : (Session.pool source).Yields (run (.empty backends) (ops ++ later)) i db := by
    unfold Query.pool Query.boundSource at hpool
    rwa [hsource] at hpool
  have hrun : run (.empty backends) all =
      (openPool source).apply (run (.empty backends) (ops ++ later)) := by
    rw [run_append]
    rfl
  have hdb : db = run (.empty backends) all := by
    rw [hrun]
    exact (congrArg Prod.snd hopen).symm
  have hi := Database.registry_of_pool hnamed hopen
  have hall : db.IsNamed := hdb ▸ isNamed_run hempty all
  obtain ⟨o, ho⟩ : ∃ o, db.opened[i]? = some o :=
    ⟨_, List.getElem?_eq_getElem (hall.registered_lt hi)⟩
  have hholding : (db.holding source).pool = some (i, o.engine) := by
    simp [Database.holding, Database.engines, hi, ho]
  rw [hdb] at hholding
  obtain ⟨early, op, late, c, hreg, he⟩ := registered_by backends all hholding
  -- The configuration of the query is still in force when it is executed.
  obtain ⟨current, hcurrent, rfl, -⟩ := Session.yields_query.mp hq
  have hconfig : (run (.empty backends) all).config? source = some current := by
    have hsame : run (.empty backends) all =
        run (run (.empty backends) ops) (later ++ [openPool source]) := by
      rw [← run_append, ← List.append_assoc]
    have hnone : added source (later ++ [openPool source]) = [] := by
      rw [added_append, hlater]
      rfl
    rw [hsame, config_run (isNamed_run hempty ops), hnone]
    exact hcurrent
  have hsince := config_since hempty hreg
  rw [hconfig] at hsince
  refine ⟨hdb, hi, o, early, op, late, c, ho, hreg, he, ?_⟩
  have hlanguage : b.dialect = ((added source late).getLast?.getD c).engine.dialect := by
    rw [hdialect, ← Option.some.inj hsince]
    rfl
  rw [hlanguage, he]
  cases (added source late).getLast? with
  | none => simp
  | some last => simp

/-- Backends for two engines. -/
def twoEngines : List (Engine × Backend ScriptedPool) :=
  [(.mysql, fun _ => .ok .new), (.postgres, fun _ => .ok .new)]

def mainOn (engine : Engine) : Config := .ofParts "main" engine "localhost" "app"

/-- The pool is opened for MySQL, and then the configuration is replaced by one for PostgreSQL. -/
def replacedMain : List (Operation ScriptedPool) :=
  [.configure (mainOn .mysql), .openPool "main", .configure (mainOn .postgres)]

def mainQuery : Query := .empty .postgres (some "main")

/-- A new query on that data source speaks PostgreSQL to MySQL, for the one configuration that was
added since the pool was opened. -/
theorem mainQuery_misses_language :
    let start := run (.empty twoEngines) replacedMain
    let all := replacedMain ++ [] ++ [.openPool "main"]
    let db := run (.empty twoEngines) all
    (Session.query "main").Yields start mainQuery start ∧ added "main" ([] : List
      (Operation ScriptedPool)) = [] ∧
    mainQuery.pool.Yields (run (.empty twoEngines) (replacedMain ++ [])) 0 db ∧
    ∃ o early op late c, db.opened[0]? = some o ∧
      Registered (.empty twoEngines) all "main" 0 early op late c ∧ o.engine = .mysql ∧
      mainQuery.dialect ≠ o.engine.dialect ∧
      ∃ last, (added "main" late).getLast? = some last ∧
        last.engine.dialect ≠ o.engine.dialect := by
  intro start all db
  have hquery : (Session.query "main").Yields start mainQuery start := rfl
  have hpool : mainQuery.pool.Yields (run (.empty twoEngines) (replacedMain ++ [])) 0 db := rfl
  obtain ⟨-, -, o, early, op, late, c, ho, hreg, -, hiff⟩ :=
    dialect_eq_iff twoEngines hquery rfl rfl rfl hpool
  have hengine : (db.opened[0]?).map (·.engine) = some .mysql := rfl
  rw [ho] at hengine
  have hmysql : o.engine = .mysql := Option.some.inj hengine
  have hmissed : mainQuery.dialect ≠ o.engine.dialect := by
    rw [hmysql]
    decide
  refine ⟨hquery, rfl, hpool, o, early, op, late, c, ho, hreg, hmysql, hmissed, ?_⟩
  obtain ⟨last, hlast⟩ := not_forall.mp (mt hiff.mpr hmissed)
  exact ⟨last, Classical.not_imp.mp hlast⟩

/-- So a new query need not speak the language of the pool that it is executed on. -/
theorem query_may_miss_language : ¬ ∀ (backends : List (Engine × Backend ScriptedPool))
    (ops : List (Operation ScriptedPool)) (source : String) (q : Query) (i : Nat)
    (db : Database ScriptedPool) (o : OpenedPool ScriptedPool),
    (Session.query source).Yields (run (.empty backends) ops) q (run (.empty backends) ops) →
    q.pool.Yields (run (.empty backends) ops) i db → db.opened[i]? = some o →
      q.dialect = o.engine.dialect := by
  intro h
  cases h twoEngines replacedMain "main" mainQuery 0 (run (.empty twoEngines) replacedMain)
    ⟨"main", .mysql, .new⟩ rfl rfl rfl

end Operation
end SqlRecords
