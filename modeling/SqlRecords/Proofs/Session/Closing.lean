import Mathlib.Data.List.Induction
import SqlRecords.Proofs.Session.Pools

/-! Closing pools that leave the registry: which of them are closed, and which are not. -/
namespace SqlRecords

/-- A pool that counts how often it is closed. -/
structure Watched (π : Type) where
  pool : π
  closes : Nat

instance {π : Type} [Pool π] : Pool (Watched π) where
  execute s w := ((Pool.execute s w.pool).1, { w with pool := (Pool.execute s w.pool).2 })
  fetchAll s w := ((Pool.fetchAll s w.pool).1, { w with pool := (Pool.fetchAll s w.pool).2 })
  openCursor s w := ((Pool.openCursor s w.pool).1, { w with pool := (Pool.openCursor s w.pool).2 })
  dropCursor s w := { w with pool := Pool.dropCursor s w.pool }
  notePulled n w := { w with pool := Pool.notePulled n w.pool }
  close w := ((Pool.close w.pool).1, ⟨(Pool.close w.pool).2, w.closes + 1⟩)
  stats w := Pool.stats w.pool

namespace Database
variable {π : Type}

/-- How often the pool at a position was closed. -/
def closes (db : Database (Watched π)) (i : Nat) : Nat := (db.opened[i]?).elim 0 (·.pool.closes)

/-- Whether closing the pool at a position now fails. -/
def FailsToClose [Pool π] (db : Database π) (i : Nat) : Prop :=
  ∃ o f, db.opened[i]? = some o ∧ (Pool.close o.pool).1 = .error f

/-- Whether, when pools are closed in this order, one before this one fails to close. -/
def IsStranded [Pool π] (db : Database π) (order : List Nat) (i : Nat) : Prop :=
  ∃ front j back, order = front ++ j :: back ∧ i ∈ back ∧ db.FailsToClose j

section
variable [Pool π]

theorem IsStranded.mem {db : Database π} {order : List Nat} {i : Nat}
    (h : db.IsStranded order i) : i ∈ order := by
  obtain ⟨front, j, back, rfl, hi, -⟩ := h
  exact List.mem_append_right front (List.mem_cons_of_mem j hi)

theorem isStranded_cons {db : Database π} {j : Nat} {order : List Nat} {i : Nat} :
    db.IsStranded (j :: order) i ↔ i ∈ order ∧ db.FailsToClose j ∨ db.IsStranded order i := by
  constructor
  · rintro ⟨front, k, back, horder, hi, hk⟩
    cases front with
    | nil =>
      cases horder
      exact .inl ⟨hi, hk⟩
    | cons j' front =>
      cases horder
      exact .inr ⟨front, k, back, rfl, hi, hk⟩
  · rintro (⟨hi, hj⟩ | ⟨front, k, back, rfl, hi, hk⟩)
    · exact ⟨[], j, order, rfl, hi, hj⟩
    · exact ⟨j :: front, k, back, rfl, hi, hk⟩

/-- Working on one pool does not make another fail. -/
theorem failsToClose_modifyPool {db : Database π} {i j : Nat} (h : i ≠ j) (f : π → π) :
    (db.modifyPool i f).FailsToClose j ↔ db.FailsToClose j := by
  unfold FailsToClose
  rw [getElem?_modifyPool_ne db h]

theorem isStranded_modifyPool (db : Database π) {order : List Nat} {i : Nat} (h : i ∉ order)
    (f : π → π) (j : Nat) : (db.modifyPool i f).IsStranded order j ↔ db.IsStranded order j := by
  have hne {k : Nat} {front back : List Nat} (horder : order = front ++ k :: back) : i ≠ k := by
    rintro rfl
    exact h (horder ▸ List.mem_append_right front List.mem_cons_self)
  constructor
  · rintro ⟨front, k, back, horder, hj, hk⟩
    exact ⟨front, k, back, horder, hj, (failsToClose_modifyPool (hne horder) f).mp hk⟩
  · rintro ⟨front, k, back, horder, hj, hk⟩
    exact ⟨front, k, back, horder, hj, (failsToClose_modifyPool (hne horder) f).mpr hk⟩

end

theorem closes_modifyPool_ne (db : Database (Watched π)) {i j : Nat} (h : i ≠ j)
    (f : Watched π → Watched π) : (db.modifyPool i f).closes j = db.closes j := by
  unfold closes
  rw [getElem?_modifyPool_ne db h]

theorem closes_modifyPool_self (db : Database (Watched π)) {i : Nat} {o : OpenedPool (Watched π)}
    (ho : db.opened[i]? = some o) (f : Watched π → Watched π) :
    (db.modifyPool i f).closes i = (f o.pool).closes := by
  unfold closes
  rw [getElem?_modifyPool_self, ho]
  rfl

/-- What closing pools in an order leaves behind: each pool up to the first that fails is closed
once more, and the ones behind it are not. -/
structure ClosesIn [Pool π] (db : Database (Watched π)) (order : List Nat)
    (db' : Database (Watched π)) : Prop where
  backends : db'.backends = db.backends
  registry : db'.registry = db.registry
  length : db'.opened.length = db.opened.length
  closed {i : Nat} (h : i ∈ order) (hreached : ¬ db.IsStranded order i) :
    db'.closes i = db.closes i + 1
  stranded {i : Nat} (h : db.IsStranded order i) : db'.closes i = db.closes i
  others {i : Nat} (h : i ∉ order) : db'.closes i = db.closes i

end Database

/-- What is done with a registry, and what happens to it and to its pools from outside. -/
inductive RegistryOperation (π : Type) where
  | getOrCreate (c : Config)
  | insert (source : String) (engine : Engine) (pool : π)
  | close (source : String)
  /-- The pools are closed in the order in which the registry hands them out. -/
  | closeAll (order : List Nat → List Nat) (h : ∀ positions, (order positions).Perm positions)
  /-- A pool works for one who has it. -/
  | work (i : Nat) (f : π → π)
  /-- From now on the backends answer like this. -/
  | answer (backends : List (Engine × Backend π))

namespace RegistryOperation
variable {π : Type}

def apply [Pool π] (db : Database π) : RegistryOperation π → Database π
  | getOrCreate c => ((Session.poolFor c).run.run db).2
  | insert source engine p => db.register source engine p
  | close source => ((Session.close source).run.run db).2
  | closeAll order _ => ((Session.closeAllIn order).run.run db).2
  | work i f => db.modifyPool i f
  | answer backends => { db with backends := backends }

/-- Whether an operation takes the pool at a position out of the registry without closing it. -/
def Drops [Pool π] (db : Database π) (i : Nat) : RegistryOperation π → Prop
  | insert source _ _ => db.registry.get? source = some i
  | closeAll order _ => db.IsStranded (order db.positions) i
  | _ => False

end RegistryOperation

namespace Session
variable {π : Type} [Pool π]
open Database

/-- Pools that are closed one after another: all goes well if none of them fails to close. -/
theorem closeEach_closes {order : List Nat} (hnodup : order.Nodup) (db : Database (Watched π))
    (hopened : ∀ i ∈ order, i < db.opened.length) :
    db.ClosesIn order ((closeEach order).run.run db).2 ∧
      (((closeEach order).run.run db).1 = .ok () ↔ ∀ i ∈ order, ¬ db.FailsToClose i) := by
  induction order generalizing db with
  | nil =>
    have hnone (i : Nat) : ¬ db.IsStranded [] i := fun h => by cases h.mem
    exact ⟨⟨rfl, rfl, rfl, nofun, fun h => absurd h (hnone _), fun _ => rfl⟩, ⟨nofun, fun _ => rfl⟩⟩
  | cons j rest ih =>
    obtain ⟨hj, hrest⟩ := List.nodup_cons.mp hnodup
    obtain ⟨o, ho⟩ : ∃ o, db.opened[j]? = some o :=
      ⟨_, List.getElem?_eq_getElem (hopened j List.mem_cons_self)⟩
    have hself : (db.modifyPool j fun _ => (Pool.close o.pool).2).closes j = db.closes j + 1 := by
      rw [closes_modifyPool_self db ho, closes, ho]
      rfl
    have hreached : ¬ db.IsStranded (j :: rest) j := by
      rw [isStranded_cons]
      rintro (⟨hmem, -⟩ | hmem)
      · exact hj hmem
      · exact hj hmem.mem
    rw [closeEach_cons, run_bind, run_closeAt, ho]
    dsimp only
    cases hclose : (Pool.close o.pool).1 with
    | error f =>
      -- The first pool fails, so all others are behind it.
      have hfails : db.FailsToClose j := ⟨o, f, ho, hclose⟩
      have hstranded {i : Nat} : db.IsStranded (j :: rest) i ↔ i ∈ rest := by
        rw [isStranded_cons]
        exact ⟨fun h => h.elim And.left IsStranded.mem, fun h => .inl ⟨h, hfails⟩⟩
      refine ⟨⟨rfl, rfl, length_modifyPool .., fun {i} hi hr => ?_, fun {i} hs => ?_,
        fun {i} hi => ?_⟩, nofun, fun h => absurd hfails (h j List.mem_cons_self)⟩
      · obtain rfl | hi := List.mem_cons.mp hi
        · exact hself
        · exact absurd (hstranded.mpr hi) hr
      · refine closes_modifyPool_ne db ?_ _
        rintro rfl
        exact hj (hstranded.mp hs)
      · refine closes_modifyPool_ne db ?_ _
        rintro rfl
        exact hi List.mem_cons_self
    | ok u =>
      have hfails : ¬ db.FailsToClose j := by
        rintro ⟨o', f, ho', hclose'⟩
        cases ho.symm.trans ho'
        cases hclose.symm.trans hclose'
      have hmid : ∀ i ∈ rest, i < (db.modifyPool j fun _ =>
          (Pool.close o.pool).2).opened.length := by
        intro i hi
        rw [length_modifyPool]
        exact hopened i (List.mem_cons_of_mem j hi)
      obtain ⟨hcloses, hok⟩ := ih hrest _ hmid
      have hsame {i : Nat} (h : j ≠ i) := closes_modifyPool_ne db h fun _ => (Pool.close o.pool).2
      have hstranded {i : Nat} := isStranded_modifyPool db hj
        (fun _ => (Pool.close o.pool).2) i
      have hbehind {i : Nat} : db.IsStranded (j :: rest) i ↔ db.IsStranded rest i := by
        rw [isStranded_cons]
        exact ⟨fun h => h.resolve_left fun hi => hfails hi.2, .inr⟩
      refine ⟨⟨hcloses.backends, hcloses.registry, hcloses.length.trans (length_modifyPool ..),
        fun {i} hi hr => ?_, fun {i} hs => ?_, fun {i} hi => ?_⟩, ?_⟩
      · obtain rfl | hi := List.mem_cons.mp hi
        · exact (hcloses.others hj).trans hself
        · have hne : j ≠ i := fun heq => hj (heq ▸ hi)
          rw [← hsame hne]
          exact hcloses.closed hi fun h => hr (hbehind.mpr (hstranded.mp h))
      · have hs' := hbehind.mp hs
        have hne : j ≠ i := fun heq => hj (heq ▸ hs'.mem)
        rw [← hsame hne]
        exact hcloses.stranded (hstranded.mpr hs')
      · obtain ⟨hne, hi⟩ := not_or.mp fun h => hi (List.mem_cons.mpr h)
        rw [← hsame (Ne.symm hne)]
        exact hcloses.others hi
      · rw [List.forall_mem_cons]
        refine hok.trans ⟨fun h => ⟨hfails, fun i hi => ?_⟩, fun h i hi => ?_⟩
        · have hne : j ≠ i := fun heq => hj (heq ▸ hi)
          exact fun hf => h i hi ((failsToClose_modifyPool hne _).mpr hf)
        · have hne : j ≠ i := fun heq => hj (heq ▸ hi)
          exact fun hf => h.2 i hi ((failsToClose_modifyPool hne _).mp hf)

end Session

namespace Database
variable {π : Type}

/-- Backends whose pools are watched from the start. -/
def watchedBackends (backends : List (Engine × Backend π)) : List (Engine × Backend (Watched π)) :=
  backends.map fun (engine, backend) => (engine, fun c => (backend c).map fun p => ⟨p, 0⟩)

/-- The database by itself, with nobody watching. -/
def unwatched (db : Database (Watched π)) : Database π where
  configs := db.configs
  backends := db.backends.map fun (engine, backend) => (engine, fun c => (backend c).map (·.pool))
  opened := db.opened.map fun o => ⟨o.source, o.engine, o.pool.pool⟩
  registry := db.registry

/-- Whether backends give pools that were not closed yet. -/
def GivesFresh (db : Database (Watched π)) : Prop :=
  ∀ entry ∈ db.backends, ∀ c w, entry.2 c = .ok w → w.closes = 0

theorem givesFresh_of_watched {backends : List (Engine × Backend π)} {db : Database (Watched π)}
    (h : db.backends = watchedBackends backends) : db.GivesFresh := by
  intro entry hentry c w hw
  rw [h] at hentry
  obtain ⟨⟨engine, backend⟩, -, rfl⟩ := List.mem_map.mp hentry
  cases hp : backend c with
  | error f =>
    simp only [hp] at hw
    cases hw
  | ok p =>
    simp only [hp] at hw
    cases hw
    rfl

theorem opening_fresh {db : Database (Watched π)} (hdb : db.GivesFresh) {c : Config}
    {w : Watched π} (h : db.opening c = .ok w) : w.closes = 0 := by
  have hopen : (Session.openPool c).Yields db w db :=
    (Session.run_openPool c db).trans (by rw [h])
  obtain ⟨backend, hbackend, hw, -⟩ := Session.yields_openPool hopen
  obtain ⟨front, back, hbackends, -⟩ := List.lookup_eq_some_iff.mp hbackend
  exact hdb (c.engine, backend) (by simp [hbackends]) c w hw

theorem closes_of_unopened {db : Database (Watched π)} {i : Nat} (h : db.opened.length ≤ i) :
    db.closes i = 0 := by
  unfold closes
  rw [List.getElem?_eq_none h]
  rfl

/-- A new pool was not closed yet, and no other pool is. -/
theorem closes_register (db : Database (Watched π)) (source : String) (engine : Engine)
    {w : Watched π} (hw : w.closes = 0) (i : Nat) :
    (db.register source engine w).closes i = db.closes i := by
  unfold closes
  rw [opened_register]
  obtain hlt | heq | hgt := Nat.lt_trichotomy i db.opened.length
  · rw [List.getElem?_append_left hlt]
  · rw [heq, List.getElem?_concat_length, List.getElem?_eq_none (Nat.le_refl _)]
    exact hw
  · rw [List.getElem?_eq_none (Nat.le_of_lt hgt), List.getElem?_eq_none]
    rw [List.length_append, List.length_singleton]
    exact hgt

theorem unwatched_register (db : Database (Watched π)) (source : String) (engine : Engine)
    (w : Watched π) :
    (db.register source engine w).unwatched = db.unwatched.register source engine w.pool := by
  simp [unwatched, register]

theorem unwatched_modifyPool (db : Database (Watched π)) (i : Nat) {f : Watched π → Watched π}
    {g : π → π} (h : ∀ w, (f w).pool = g w.pool) :
    (db.modifyPool i f).unwatched = db.unwatched.modifyPool i g := by
  unfold unwatched modifyPool
  congr 1
  refine List.ext_getElem? fun j => ?_
  rw [List.getElem?_map, List.getElem?_modify, List.getElem?_modify, List.getElem?_map]
  cases db.opened[j]? with
  | none => rfl
  | some o => by_cases hj : i = j <;> simp [hj, h]

theorem unwatched_opening (db : Database (Watched π)) (c : Config) :
    db.unwatched.opening c = (db.opening c).map (·.pool) := by
  have hlookup : db.unwatched.backends.lookup c.engine =
      (db.backends.lookup c.engine).map fun backend c => (backend c).map (·.pool) :=
    lookup_map_snd (fun (backend : Backend (Watched π)) c => (backend c).map Watched.pool)
      db.backends c.engine
  unfold opening Session.openPool
  rw [Session.run_get_bind, Session.run_get_bind, hlookup]
  cases db.backends.lookup c.engine with
  | none => rfl
  | some backend =>
    simp only [Option.map_some]
    cases backend c <;> rfl

theorem unwatched_empty (backends : List (Engine × Backend π)) :
    (empty (watchedBackends backends)).unwatched = empty backends := by
  have hbackend (backend : Backend π) : (fun c =>
      ((backend c).map fun p => (⟨p, 0⟩ : Watched π)).map (·.pool)) = backend := by
    funext c
    cases backend c <;> rfl
  simp [unwatched, empty, watchedBackends, Function.comp_def, hbackend]

theorem getElem?_unwatched (db : Database (Watched π)) (i : Nat) : db.unwatched.opened[i]? =
    (db.opened[i]?).map fun o => ⟨o.source, o.engine, o.pool.pool⟩ := List.getElem?_map ..

section
variable [Pool π] (db : Database (Watched π))

theorem failsToClose_unwatched (i : Nat) :
    db.unwatched.FailsToClose i ↔ db.FailsToClose i := by
  unfold FailsToClose
  rw [getElem?_unwatched]
  cases db.opened[i]? with
  | none => exact ⟨nofun, nofun⟩
  | some o =>
    constructor
    · rintro ⟨o', f, ho', hf⟩
      cases Option.some.inj ho'
      exact ⟨o, f, rfl, hf⟩
    · rintro ⟨o', f, ho', hf⟩
      cases Option.some.inj ho'
      exact ⟨_, f, rfl, hf⟩

theorem isStranded_unwatched (order : List Nat) (i : Nat) :
    db.unwatched.IsStranded order i ↔ db.IsStranded order i := by
  unfold IsStranded
  simp only [failsToClose_unwatched]

theorem unwatched_closeAt (i : Nat) :
    (Session.closeAt i).run.run db.unwatched = (((Session.closeAt i).run.run db).1,
      ((Session.closeAt i).run.run db).2.unwatched) := by
  rw [Session.run_closeAt, Session.run_closeAt, getElem?_unwatched]
  cases db.opened[i]? with
  | none => rfl
  | some o =>
    have hmodify := unwatched_modifyPool db i (f := fun _ => (Pool.close o.pool).2)
      (g := fun _ => (Pool.close o.pool.pool).2) fun _ => rfl
    exact Prod.ext rfl hmodify.symm

theorem unwatched_closeEach (order : List Nat) :
    (Session.closeEach order).run.run db.unwatched = (((Session.closeEach order).run.run db).1,
      ((Session.closeEach order).run.run db).2.unwatched) := by
  induction order generalizing db with
  | nil => rfl
  | cons i rest ih =>
    rw [Session.closeEach_cons, Session.closeEach_cons, Session.run_bind, Session.run_bind,
      unwatched_closeAt]
    cases (Session.closeAt i).run.run db with
    | mk outcome mid =>
      cases outcome with
      | error f => rfl
      | ok u => exact ih mid

end

end Database

namespace RegistryOperation
variable {π : Type}
open Database

/-- The same operation where pools are watched. -/
def watch : RegistryOperation π → RegistryOperation (Watched π)
  | getOrCreate c => getOrCreate c
  | insert source engine p => insert source engine ⟨p, 0⟩
  | close source => close source
  | closeAll order h => closeAll order h
  | work i f => work i fun w => { w with pool := f w.pool }
  | answer backends => answer (watchedBackends backends)

/-- What one operation does to the registry and to the number of times that pools were closed. -/
structure Evolves [Pool π] (op : RegistryOperation (Watched π)) (db db' : Database (Watched π)) :
    Prop where
  tidy : db'.IsTidy
  fresh : db'.GivesFresh
  /-- A pool is closed only when it leaves the registry. -/
  kept {i : Nat} (h : i ∈ db.positions → i ∈ db'.positions) : db'.closes i = db.closes i
  closed {i : Nat} (hin : i ∈ db.positions) (hout : i ∉ db'.positions) (h : ¬ op.Drops db i) :
    db'.closes i = db.closes i + 1
  dropped {i : Nat} (hin : i ∈ db.positions) (hout : i ∉ db'.positions) (h : op.Drops db i) :
    db'.closes i = db.closes i
  /-- A pool that left the registry does not come back. -/
  gone {i : Nat} (h : i < db.opened.length) (hout : i ∉ db.positions) : i ∉ db'.positions
  entered {i : Nat} (h : db.opened.length ≤ i) (hopened : i < db'.opened.length) :
    i ∈ db'.positions

section
variable [Pool π] {db db' : Database (Watched π)}

/-- An operation that leaves the registry as it is. -/
theorem evolves_same (op : RegistryOperation (Watched π)) (hdb : db.IsTidy)
    (hfresh : db'.GivesFresh) (hregistry : db'.registry = db.registry)
    (hlength : db'.opened.length = db.opened.length) (hcloses : ∀ i, db'.closes i = db.closes i) :
    op.Evolves db db' := by
  have hpositions : db'.positions = db.positions := by rw [positions, hregistry, positions]
  refine ⟨isTidy_of_same hdb hregistry hlength, hfresh, fun _ => hcloses _,
    fun hin hout => absurd (hpositions ▸ hin) hout, fun hin hout => absurd (hpositions ▸ hin) hout,
    fun _ hout => hpositions ▸ hout, fun h hopened => ?_⟩
  rw [hlength] at hopened
  exact absurd hopened (Nat.not_lt.mpr h)

/-- An operation that registers a pool. The one before it is not closed. -/
theorem evolves_register {op : RegistryOperation (Watched π)} (hdb : db.IsTidy)
    (hfresh : db.GivesFresh) {source : String} (engine : Engine) {w : Watched π}
    (hw : w.closes = 0) (hdrops : ∀ i, db.registry.get? source = some i → op.Drops db i) :
    op.Evolves db (db.register source engine w) := by
  have htidy := isTidy_register hdb source engine w
  have hcloses := closes_register db source engine hw
  have hmem {i : Nat} := mem_positions_register hdb source engine w (i := i)
  refine ⟨htidy, hfresh, fun _ => hcloses _, fun {i} hin hout h => ?_, fun _ _ _ => hcloses _,
    fun {i} hlt hout hin => ?_, fun {i} hle hlt => ?_⟩
  · obtain ⟨name, hname⟩ := (mem_positions hdb).mp hin
    by_cases heq : name = source
    · exact absurd (hdrops i (heq ▸ hname)) h
    · exact absurd (hmem.mpr (.inr ⟨name, heq, hname⟩)) hout
  · obtain rfl | ⟨name, -, hname⟩ := hmem.mp hin
    · exact Nat.lt_irrefl _ hlt
    · exact hout ((mem_positions hdb).mpr ⟨name, hname⟩)
  · rw [opened_register, List.length_append, List.length_singleton] at hlt
    exact hmem.mpr (.inl (Nat.le_antisymm (Nat.le_of_lt_succ hlt) hle))

/-- An operation that takes a pool out of the registry and closes it. -/
theorem evolves_evict {op : RegistryOperation (Watched π)} (hdb : db.IsTidy)
    (hfresh : db.GivesFresh) {source : String} {i : Nat} {o : OpenedPool (Watched π)}
    (hi : db.registry.get? source = some i) (ho : db.opened[i]? = some o)
    (hdrops : ∀ j, ¬ op.Drops db j) :
    op.Evolves db ((db.evict source).modifyPool i fun _ => (Pool.close o.pool).2) := by
  have htidy := isTidy_evict hdb source
  have hclosed : ((db.evict source).modifyPool i fun _ => (Pool.close o.pool).2).closes i =
      db.closes i + 1 := by
    rw [closes_modifyPool_self (db.evict source) ho, closes, ho]
    rfl
  have hother {j : Nat} (h : i ≠ j) :
      ((db.evict source).modifyPool i fun _ => (Pool.close o.pool).2).closes j = db.closes j :=
    closes_modifyPool_ne (db.evict source) h _
  have hmem {j : Nat} := mem_positions_evict hdb hi (j := j)
  refine ⟨⟨htidy.names, htidy.unique, fun h => ?_⟩, hfresh, fun {j} h => ?_,
    fun {j} hin hout _ => ?_, fun _ _ h => absurd h (hdrops _),
    fun {j} _ hout h => hout (hmem.mp h).1, fun {j} hle hlt => ?_⟩
  · rw [length_modifyPool]
    exact htidy.opened h
  · refine hother ?_
    rintro rfl
    exact (hmem.mp (h ((mem_positions hdb).mpr ⟨source, hi⟩))).2 rfl
  · by_cases heq : i = j
    · exact heq ▸ hclosed
    · exact absurd (hmem.mpr ⟨hin, heq⟩) hout
  · rw [length_modifyPool] at hlt
    exact absurd hlt (Nat.not_lt.mpr hle)

/-- Closing all pools in some order. -/
theorem evolves_closeAll (hfresh : db.GivesFresh) {order : List Nat → List Nat}
    (h : ∀ positions, (order positions).Perm positions)
    (hcloses : ClosesIn { db with registry := [] } (order db.positions) db') :
    (closeAll order h : RegistryOperation (Watched π)).Evolves db db' := by
  have hnone : db'.positions = [] := by rw [positions, hcloses.registry, List.map_nil]
  have hout {i : Nat} : i ∉ db'.positions := hnone ▸ List.not_mem_nil
  have hmem {i : Nat} : i ∈ order db.positions ↔ i ∈ db.positions := (h _).mem_iff
  refine ⟨isTidy_of_nil hcloses.registry, ?_, fun hin => hcloses.others fun hi => ?_,
    fun hin _ hreached => hcloses.closed (hmem.mpr hin) hreached,
    fun _ _ hstranded => hcloses.stranded hstranded, fun _ _ => hout, fun hle hlt => ?_⟩
  · unfold GivesFresh
    rw [hcloses.backends]
    exact hfresh
  · exact hout (hin (hmem.mp hi))
  · rw [hcloses.length] at hlt
    exact absurd hlt (Nat.not_lt.mpr hle)

theorem closeAllIn_closes (hdb : db.IsTidy) {order : List Nat → List Nat}
    (h : ∀ positions, (order positions).Perm positions) :
    ClosesIn { db with registry := [] } (order db.positions)
        ((Session.closeAllIn order).run.run db).2 ∧
      (((Session.closeAllIn order).run.run db).1 = .ok () ↔
        ∀ i ∈ db.positions, ¬ db.FailsToClose i) := by
  have hmem {i : Nat} : i ∈ order db.positions ↔ i ∈ db.positions := (h _).mem_iff
  have hopened : ∀ i ∈ order db.positions, i < db.opened.length := by
    intro i hi
    obtain ⟨source, hsource⟩ := (mem_positions hdb).mp (hmem.mp hi)
    exact hdb.opened hsource
  have hnodup := (h _).nodup_iff.mpr hdb.nodup_positions
  obtain ⟨hcloses, hok⟩ :=
    Session.closeEach_closes hnodup { db with registry := [] } hopened
  exact ⟨hcloses, hok.trans ⟨fun hall i hi => hall i (hmem.mpr hi),
    fun hall i hi => hall i (hmem.mp hi)⟩⟩

theorem apply_evolves (hdb : db.IsTidy) (hfresh : db.GivesFresh) (op : RegistryOperation π) :
    op.watch.Evolves db (op.watch.apply db) := by
  cases op with
  | getOrCreate c =>
    simp only [watch, apply, Session.run_poolFor]
    cases hi : db.registry.get? c.name with
    | some i => exact evolves_same _ hdb hfresh rfl rfl fun _ => rfl
    | none =>
      dsimp only
      cases hopening : db.opening c with
      | error f => exact evolves_same _ hdb hfresh rfl rfl fun _ => rfl
      | ok w =>
        refine evolves_register hdb hfresh c.engine (opening_fresh hfresh hopening) fun i h => ?_
        cases hi.symm.trans h
  | insert source engine p => exact evolves_register hdb hfresh engine rfl fun i h => h
  | close source =>
    simp only [watch, apply, Session.run_close]
    cases hi : db.registry.get? source with
    | none => exact evolves_same _ hdb hfresh rfl rfl fun _ => rfl
    | some i =>
      obtain ⟨o, ho⟩ : ∃ o, db.opened[i]? = some o :=
        ⟨_, List.getElem?_eq_getElem (hdb.opened hi)⟩
      have hevict : (db.evict source).opened[i]? = some o := ho
      dsimp only
      rw [Session.run_bind, Session.run_closeAt, hevict]
      have hnever (j : Nat) : ¬ (close source : RegistryOperation (Watched π)).Drops db j := id
      have hevolves := evolves_evict hdb hfresh hi ho hnever
      dsimp only
      cases (Pool.close o.pool).1 <;> exact hevolves
  | closeAll order h => exact evolves_closeAll hfresh h (closeAllIn_closes hdb h).1
  | work i f =>
    simp only [watch, apply]
    refine evolves_same _ hdb hfresh rfl (length_modifyPool ..) fun j => ?_
    by_cases hj : i = j
    · subst hj
      unfold closes
      rw [getElem?_modifyPool_self]
      cases db.opened[i]? <;> rfl
    · exact closes_modifyPool_ne db hj _
  | answer backends =>
    exact evolves_same _ hdb (givesFresh_of_watched rfl) rfl rfl fun _ => rfl

end
section
variable [Pool π]

def run (db : Database π) (ops : List (RegistryOperation π)) : Database π := ops.foldl apply db

theorem run_concat (db : Database π) (ops : List (RegistryOperation π))
    (op : RegistryOperation π) : run db (ops ++ [op]) = op.apply (run db ops) := by
  rw [run, List.foldl_append]
  rfl

/-- A registry whose pools are watched from the start, after some operations. -/
def runWatched (backends : List (Engine × Backend π)) (ops : List (RegistryOperation π)) :
    Database (Watched π) := run (.empty (watchedBackends backends)) (ops.map watch)

theorem runWatched_concat (backends : List (Engine × Backend π)) (ops : List (RegistryOperation π))
    (op : RegistryOperation π) :
    runWatched backends (ops ++ [op]) = op.watch.apply (runWatched backends ops) := by
  rw [runWatched, List.map_append, List.map_singleton, run_concat]
  rfl

theorem tidy_run (backends : List (Engine × Backend π)) (ops : List (RegistryOperation π)) :
    (runWatched backends ops).IsTidy ∧ (runWatched backends ops).GivesFresh := by
  induction ops using List.reverseRecOn with
  | nil => exact ⟨isTidy_of_nil rfl, givesFresh_of_watched rfl⟩
  | append_singleton ops op ih =>
    rw [runWatched_concat]
    have hevolves := apply_evolves ih.1 ih.2 op
    exact ⟨hevolves.tidy, hevolves.fresh⟩

theorem evolves_run (backends : List (Engine × Backend π)) (ops : List (RegistryOperation π))
    (op : RegistryOperation π) :
    op.watch.Evolves (runWatched backends ops) (runWatched backends (ops ++ [op])) := by
  obtain ⟨htidy, hfresh⟩ := tidy_run backends ops
  rw [runWatched_concat]
  exact apply_evolves htidy hfresh op

/-- A registered pool was not closed. -/
theorem closes_registered (backends : List (Engine × Backend π))
    (ops : List (RegistryOperation π)) {i : Nat} (h : i ∈ (runWatched backends ops).positions) :
    (runWatched backends ops).closes i = 0 := by
  induction ops using List.reverseRecOn with
  | nil => cases h
  | append_singleton ops op ih =>
    have hevolves := evolves_run backends ops op
    rw [hevolves.kept fun _ => h]
    by_cases hin : i ∈ (runWatched backends ops).positions
    · exact ih hin
    · exact closes_of_unopened (Nat.not_lt.mp fun hlt => hevolves.gone hlt hin h)

theorem unwatched_apply (db : Database (Watched π)) (op : RegistryOperation π) :
    (op.watch.apply db).unwatched = op.apply db.unwatched := by
  have hregistry : db.unwatched.registry = db.registry := rfl
  cases op with
  | getOrCreate c =>
    simp only [watch, apply, Session.run_poolFor, hregistry, unwatched_opening]
    cases db.registry.get? c.name with
    | some i => rfl
    | none =>
      dsimp only
      cases db.opening c with
      | error f => rfl
      | ok w => exact unwatched_register ..
  | insert source engine p => exact unwatched_register ..
  | close source =>
    simp only [watch, apply, Session.run_close, hregistry]
    cases db.registry.get? source with
    | none => rfl
    | some i =>
      have hclosed := unwatched_closeAt (db.evict source) i
      dsimp only
      rw [Session.run_bind, Session.run_bind, show db.unwatched.evict source =
        (db.evict source).unwatched from rfl, hclosed]
      cases (Session.closeAt i).run.run (db.evict source) with
      | mk outcome mid => cases outcome <;> rfl
  | closeAll order h =>
    exact (congrArg Prod.snd (unwatched_closeEach { db with registry := [] } _)).symm
  | work i f => exact unwatched_modifyPool db i fun _ => rfl
  | answer backends =>
    exact congrArg (fun backends => { db.unwatched with backends := backends })
      (congrArg Database.backends (unwatched_empty backends))

/-- Watching changes nothing. -/
theorem unwatched_run (backends : List (Engine × Backend π)) (ops : List (RegistryOperation π)) :
    (runWatched backends ops).unwatched = run (.empty backends) ops := by
  induction ops using List.reverseRecOn with
  | nil => exact unwatched_empty backends
  | append_singleton ops op ih => rw [runWatched_concat, run_concat, unwatched_apply, ih]

theorem drops_unwatched (db : Database (Watched π)) (op : RegistryOperation π) (i : Nat) :
    op.Drops db.unwatched i ↔ op.watch.Drops db i := by
  cases op with
  | closeAll order h => exact isStranded_unwatched db _ i
  | getOrCreate | insert | close | work | answer => exact Iff.rfl

theorem positions_run (backends : List (Engine × Backend π)) (ops : List (RegistryOperation π)) :
    (runWatched backends ops).positions = (run (.empty backends) ops).positions := by
  rw [← unwatched_run]
  rfl

/-- What has become of a pool that left the registry: one operation took it out, and then it was
closed once unless that operation drops it. -/
theorem left_by (backends : List (Engine × Backend π)) (ops : List (RegistryOperation π)) {i : Nat}
    (hi : i < (runWatched backends ops).opened.length)
    (hout : i ∉ (runWatched backends ops).positions) :
    ∃ early op late, ops = early ++ op :: late ∧
      i ∈ (runWatched backends early).positions ∧
      i ∉ (runWatched backends (early ++ [op])).positions ∧
      (¬ op.watch.Drops (runWatched backends early) i → (runWatched backends ops).closes i = 1) ∧
      (op.watch.Drops (runWatched backends early) i → (runWatched backends ops).closes i = 0) := by
  induction ops using List.reverseRecOn with
  | nil => cases hi
  | append_singleton ops op ih =>
    have hevolves := evolves_run backends ops op
    by_cases hin : i ∈ (runWatched backends ops).positions
    · have hnever := closes_registered backends ops hin
      refine ⟨ops, op, [], rfl, hin, hout, fun h => ?_, fun h => ?_⟩
      · rw [hevolves.closed hin hout h, hnever]
      · rw [hevolves.dropped hin hout h, hnever]
    · have hbefore : i < (runWatched backends ops).opened.length :=
        Nat.lt_of_not_le fun hle => hout (hevolves.entered hle hi)
      obtain ⟨early, op', late, hsplit, hearly, hleft, hclosed, hdropped⟩ := ih hbefore hin
      have hsame := hevolves.kept fun h => absurd h hin
      refine ⟨early, op', late ++ [op], ?_, hearly, hleft, fun h => ?_, fun h => ?_⟩
      · rw [hsplit, List.append_assoc, List.cons_append]
      · rw [hsame, hclosed h]
      · rw [hsame, hdropped h]

/-- A pool that was registered and no longer is was closed, once, unless it was dropped: another
pool was registered in its place, or all pools were closed and one before it failed. So all pools are
closed when closing all goes well, and when it fails those up to the one that fails. -/
theorem closed_unless_dropped (backends : List (Engine × Backend π))
    (ops : List (RegistryOperation π)) :
    (runWatched backends ops).unwatched = run (.empty backends) ops ∧
    (∀ i < (runWatched backends ops).opened.length, i ∉ (runWatched backends ops).positions →
      ∃ early op late, ops = early ++ op :: late ∧
        i ∈ (run (.empty backends) early).positions ∧
        i ∉ (run (.empty backends) (early ++ [op])).positions ∧
        (¬ op.Drops (run (.empty backends) early) i → (runWatched backends ops).closes i = 1) ∧
        (op.Drops (run (.empty backends) early) i → (runWatched backends ops).closes i = 0)) ∧
    ∀ order (h : ∀ positions, (order positions).Perm positions),
      let db := run (.empty backends) ops
      let after := runWatched backends (ops ++ [closeAll order h])
      (((Session.closeAllIn order).run.run db).1 = .ok () →
        ∀ i ∈ db.positions, after.closes i = 1) ∧
      ∀ i ∈ db.positions,
        (¬ db.IsStranded (order db.positions) i → after.closes i = 1) ∧
        (db.IsStranded (order db.positions) i → after.closes i = 0) := by
  refine ⟨unwatched_run backends ops, fun i hi hout => ?_, fun order h => ?_⟩
  · obtain ⟨early, op, late, hsplit, hin, hleft, hclosed, hdropped⟩ := left_by backends ops hi hout
    rw [positions_run] at hin hleft
    refine ⟨early, op, late, hsplit, hin, hleft, ?_⟩
    rw [← unwatched_run, drops_unwatched]
    exact ⟨hclosed, hdropped⟩
  · intro db after
    obtain ⟨hcloses, hok⟩ := closeAllIn_closes (tidy_run backends ops).1 h
    have hafter : after = ((Session.closeAllIn order).run.run (runWatched backends ops)).2 :=
      runWatched_concat backends ops (closeAll order h)
    rw [← hafter] at hcloses
    have hdb : db = (runWatched backends ops).unwatched := (unwatched_run backends ops).symm
    have hpositions : db.positions = (runWatched backends ops).positions := by
      rw [hdb]
      rfl
    have hreached {i : Nat} (hi : i ∈ db.positions)
        (hr : ¬ db.IsStranded (order db.positions) i) : after.closes i = 1 := by
      rw [hpositions, hdb, isStranded_unwatched] at hr
      rw [hpositions] at hi
      refine (hcloses.closed ((h _).mem_iff.mpr hi) hr).trans ?_
      exact congrArg (· + 1) (closes_registered backends ops hi)
    refine ⟨fun hresult i hi => hreached hi ?_, fun i hi => ⟨hreached hi, fun hs => ?_⟩⟩
    · have houtcome : ((Session.closeAllIn order).run.run db).1 =
          ((Session.closeAllIn order).run.run (runWatched backends ops)).1 := by
        rw [hdb]
        exact congrArg Prod.fst (unwatched_closeEach { runWatched backends ops with
          registry := [] } (order (runWatched backends ops).positions))
      have hnone := hok.mp (houtcome.symm.trans hresult)
      rintro ⟨front, j, back, horder, -, hfails⟩
      have hj : j ∈ order db.positions := horder ▸ List.mem_append_right front List.mem_cons_self
      rw [hpositions, (h _).mem_iff] at hj
      rw [hdb, failsToClose_unwatched] at hfails
      exact hnone j hj hfails
    · rw [hpositions, hdb, isStranded_unwatched] at hs
      rw [hpositions] at hi
      exact (hcloses.stranded hs).trans (closes_registered backends ops hi)

end
end RegistryOperation

/-- A pool that may fail to close. -/
structure BalkyPool where
  balks : Bool

instance : Pool BalkyPool where
  execute _ p := (.ok ⟨0, 0, none⟩, p)
  fetchAll _ p := (.ok [], p)
  openCursor _ p := ([], p)
  dropCursor _ p := p
  notePulled _ p := p
  close p := (if p.balks then .error (.connection "connections are in use") else .ok (), p)
  stats _ := ⟨0, 0, 0⟩

namespace RegistryOperation

/-- A pool is replaced by one that fails to close, another is registered, and all are closed. -/
def replacedAndClosed : List (RegistryOperation BalkyPool) :=
  [.insert "main" .mysql ⟨false⟩, .insert "main" .mysql ⟨true⟩, .insert "side" .mysql ⟨false⟩,
    .closeAll id fun _ => .refl _]

/-- The pool that is replaced and the one behind the failing one are dropped. -/
theorem replacedAndClosed_drops : ∀ i ∈ [0, 2],
    i < (runWatched [] replacedAndClosed).opened.length ∧
    i ∉ (runWatched [] replacedAndClosed).positions ∧
    (runWatched [] replacedAndClosed).closes i = 0 ∧
    ∃ early op late, replacedAndClosed = early ++ op :: late ∧
      i ∈ (run (.empty []) early).positions ∧ op.Drops (run (.empty []) early) i := by
  intro i hi
  have hopened : i < (runWatched [] replacedAndClosed).opened.length := by
    revert i
    decide
  have hout : i ∉ (runWatched [] replacedAndClosed).positions := List.not_mem_nil
  have hcloses : (runWatched [] replacedAndClosed).closes i = 0 := by
    revert i
    decide
  obtain ⟨-, hleft, -⟩ := closed_unless_dropped [] replacedAndClosed
  obtain ⟨early, op, late, hsplit, hin, -, hclosed, -⟩ := hleft i hopened hout
  refine ⟨hopened, hout, hcloses, early, op, late, hsplit, hin, ?_⟩
  by_contra hkept
  cases hcloses.symm.trans (hclosed hkept)

/-- So a pool may leave the registry without being closed, and closing all pools may leave one open
that was open before. -/
theorem pools_may_stay_open :
    (¬ ∀ (ops : List (RegistryOperation BalkyPool)) (i : Nat),
      i < (runWatched [] ops).opened.length → i ∉ (runWatched [] ops).positions →
        0 < (runWatched [] ops).closes i) ∧
    ¬ ∀ (ops : List (RegistryOperation BalkyPool)) (i : Nat),
      i ∈ (runWatched [] ops).positions →
        0 < (runWatched [] (ops ++ [.closeAll id fun _ => .refl _])).closes i := by
  constructor
  · intro h
    have hreplaced := h (replacedAndClosed.take 2) 0 (by decide) (by decide)
    revert hreplaced
    decide
  · intro h
    have hbehind := h (replacedAndClosed.take 3) 2 (by decide)
    revert hbehind
    decide

end RegistryOperation
end SqlRecords
