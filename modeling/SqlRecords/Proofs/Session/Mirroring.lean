import SqlRecords.Proofs.Model.EagerLoading
import SqlRecords.Proofs.Session.Recording

/-! Keeping records changes nothing else. A session on pools that keep what they receive does what
it does on the pools by themselves. -/
namespace SqlRecords

namespace Database
variable {π : Type}

/-- The database by itself, without the records. -/
def forget (db : Database (Recorded π)) : Database π where
  configs := db.configs
  backends := db.backends.map fun (engine, backend) =>
    (engine, fun c => (backend c).map Recorded.pool)
  opened := db.opened.map fun o => ⟨o.source, o.engine, o.pool.pool⟩
  registry := db.registry

theorem forget_recording (db : Database π) : db.recording.forget = db := by
  have hbackend (backend : Backend π) :
      (fun c => ((backend c).map fun pool => (⟨pool, []⟩ : Recorded π)).map Recorded.pool) =
        backend := by
    funext c
    cases backend c <;> rfl
  simp [forget, recording, Function.comp_def, hbackend]

theorem forget_register (db : Database (Recorded π)) (source : String) (engine : Engine)
    (p : Recorded π) :
    (db.register source engine p).forget = db.forget.register source engine p.pool := by
  simp [forget, register]

theorem forget_modifyPool (db : Database (Recorded π)) (i : Nat) (p : Recorded π) :
    (db.modifyPool i fun _ => p).forget = db.forget.modifyPool i fun _ => p.pool := by
  unfold forget modifyPool
  congr 1
  refine List.ext_getElem? fun j => ?_
  rw [List.getElem?_map, List.getElem?_modify, List.getElem?_modify, List.getElem?_map]
  cases db.opened[j]? with
  | none => rfl
  | some o => by_cases hj : i = j <;> simp [hj]

theorem lookup_forget (db : Database (Recorded π)) (engine : Engine) :
    db.forget.backends.lookup engine =
      (db.backends.lookup engine).map fun backend c => (backend c).map Recorded.pool :=
  lookup_map_snd (fun (backend : Backend (Recorded π)) c => (backend c).map Recorded.pool)
    db.backends engine

end Database

namespace Session
variable {π α α' β β' : Type}

/-- With records a step has the outcome that it has without, as far as `view` shows it, and leaves
the same behind. -/
def Mirrors (view : α → α') (x : Session (Recorded π) α) (y : Session π α') : Prop :=
  ∀ db, y.run.run db.forget = ((x.run.run db).1.map view, (x.run.run db).2.forget)

theorem mirrors_pure (view : α → α') (a : α) :
    Mirrors (π := π) view (pure a) (pure (view a)) := fun _ => rfl

theorem mirrors_throw (view : α → α') (f : Failure) :
    Mirrors (π := π) view (throw f) (throw f) := fun _ => rfl

theorem mirrors_ofExcept (e : Except Failure α) :
    Mirrors (π := π) id (ofExcept e) (ofExcept e) := by
  intro db
  cases e <;> rfl

theorem mirrors_get : Mirrors (π := π) Database.forget get get := fun _ => rfl

theorem mirrors_set (db : Database (Recorded π)) :
    Mirrors id (set db : Session (Recorded π) PUnit) (set db.forget) := fun _ => rfl

theorem mirrors_bind {view : α → α'} {view' : β → β'} {x : Session (Recorded π) α}
    {y : Session π α'} {f : α → Session (Recorded π) β} {g : α' → Session π β'}
    (hx : Mirrors view x y) (hf : ∀ a, Mirrors view' (f a) (g (view a))) :
    Mirrors view' (x >>= f) (y >>= g) := by
  intro db
  rw [run_bind, run_bind, hx db]
  cases x.run.run db with
  | mk outcome mid =>
    cases outcome with
    | error e => rfl
    | ok a => exact hf a mid

/-- What a step does on a database, from what it does with records. -/
theorem Mirrors.run_recording {x : Session (Recorded π) α} {y : Session π α}
    (h : Mirrors id x y) (db : Database π) :
    y.run.run db =
      ((x.run.run db.recording).1, (x.run.run db.recording).2.forget) := by
  have hrun := h db.recording
  rw [Database.forget_recording] at hrun
  rw [hrun]
  cases (x.run.run db.recording).1 <;> rfl

theorem mirrors_config (source : String) : Mirrors (π := π) id (config source) (config source) := by
  refine mirrors_bind mirrors_get fun db => ?_
  have hconfig : db.forget.config? source = db.config? source := rfl
  rw [hconfig]
  cases db.config? source with
  | none => exact mirrors_throw _ _
  | some c => exact mirrors_pure _ c

theorem mirrors_query (source : String) : Mirrors (π := π) id (query source) (query source) :=
  mirrors_bind (mirrors_config source) fun _ => mirrors_pure _ _

theorem mirrors_openPool (c : Config) :
    Mirrors (π := π) Recorded.pool (openPool c) (openPool c) := by
  refine mirrors_bind mirrors_get fun db => ?_
  rw [Database.lookup_forget]
  cases db.backends.lookup c.engine with
  | none => exact mirrors_throw _ _
  | some backend =>
    simp only [Option.map_some]
    cases backend c with
    | error f => exact mirrors_throw _ _
    | ok p => exact mirrors_pure _ p

theorem mirrors_poolFor (c : Config) : Mirrors (π := π) id (poolFor c) (poolFor c) := by
  refine mirrors_bind mirrors_get fun db => ?_
  have hregistry : db.forget.registry = db.registry := rfl
  simp only [hregistry]
  cases db.registry.get? c.name with
  | some i => exact mirrors_pure _ i
  | none =>
    refine mirrors_bind (mirrors_openPool c) fun p => ?_
    refine mirrors_bind mirrors_get fun now => ?_
    have hopened : now.forget.opened.length = now.opened.length := by simp [Database.forget]
    rw [← Database.forget_register, hopened]
    exact mirrors_bind (mirrors_set _) fun _ => mirrors_pure _ _

theorem mirrors_pool (source : String) : Mirrors (π := π) id (pool source) (pool source) :=
  mirrors_bind (mirrors_config source) fun c => mirrors_poolFor c

/-- A pool with a record answers what it answers by itself. -/
theorem mirrors_onPool [Inhabited α] (i : Nat) {f : Recorded π → α × Recorded π} {g : π → α × π}
    (h : ∀ p, g p.pool = ((f p).1, (f p).2.pool)) : Mirrors id (onPool i f) (onPool i g) := by
  refine mirrors_bind mirrors_get fun db => ?_
  have hopened : db.forget.opened[i]? =
      (db.opened[i]?).map fun o => ⟨o.source, o.engine, o.pool.pool⟩ := by
    simp [Database.forget]
  rw [hopened]
  cases ho : db.opened[i]? with
  | none => exact mirrors_pure _ _
  | some o =>
    simp only [Option.map_some, h, ← Database.forget_modifyPool]
    exact mirrors_bind (mirrors_set _) fun _ => mirrors_pure _ _

end Session

section
variable {π : Type}
open Session

theorem Relation.mirrors_queryFor (r : Relation) (pending : List Json)
    (customizer : Option Customizer) :
    Mirrors (π := π) id (r.queryFor pending customizer) (r.queryFor pending customizer) := by
  have hrelated : Mirrors (π := π) id r.relatedQuery r.relatedQuery :=
    mirrors_bind (mirrors_query _) fun q => mirrors_pure id (q.table r.related.table)
  exact mirrors_bind hrelated fun base =>
    mirrors_pure id (r.scope (customize customizer base) pending)

variable [Pool π]

theorem Query.mirrors_rowsOf (q : Query) (s : Statement) :
    Mirrors (π := π) id (q.rowsOf s) (q.rowsOf s) := by
  refine mirrors_bind (mirrors_bind (mirrors_ofExcept _) fun source => mirrors_pool source) ?_
  intro i
  refine mirrors_bind (mirrors_onPool i fun _ => rfl) fun result => ?_
  exact mirrors_bind (mirrors_ofExcept _) fun rows => mirrors_ofExcept _

theorem Query.mirrors_send (q : Query) (s : Statement) :
    Mirrors (π := π) id (q.send s) (q.send s) := by
  refine mirrors_bind (mirrors_bind (mirrors_ofExcept _) fun source => mirrors_pool source) ?_
  intro i
  exact mirrors_bind (mirrors_onPool i fun _ => rfl) fun result => mirrors_ofExcept _

theorem Query.mirrors_save (q : Query) : Mirrors (π := π) id q.save q.save :=
  mirrors_bind (mirrors_ofExcept _) fun s => q.mirrors_send s

theorem Query.mirrors_fetch (q : Query) : Mirrors (π := π) id q.fetch q.fetch :=
  mirrors_bind (mirrors_ofExcept _) fun s => q.mirrors_rowsOf s

theorem Relation.mirrors_resultsFor (r : Relation) (pending : List Json)
    (customizer : Option Customizer) :
    Mirrors (π := π) id (r.resultsFor pending customizer) (r.resultsFor pending customizer) := by
  unfold resultsFor
  cases pending.isEmpty with
  | true => exact mirrors_pure _ _
  | false =>
    refine mirrors_bind (r.mirrors_queryFor pending customizer) fun q => ?_
    exact mirrors_bind q.mirrors_fetch fun rows => mirrors_ofExcept _

namespace ModelSet

theorem mirrors_loadSegments (schemas : Schemas) (customizer : Option Customizer)
    (segments : List String) (s : ModelSet) (db : Database (Recorded π)) :
    (loadSegments schemas customizer segments s).run db.forget =
      (((loadSegments schemas customizer segments s).run db).1,
        ((loadSegments schemas customizer segments s).run db).2.forget) := by
  induction segments generalizing s db with
  | nil => rfl
  | cons name rest ih =>
    rw [loadSegments_cons, loadSegments_cons]
    cases s.models.head? with
    | none => rfl
    | some first =>
    cases hr : first.relation schemas name with
    | error f => simp only [hr]
    | ok r =>
    simp only [hr]
    rw [r.mirrors_resultsFor (s.pendingKeys name) (if rest.isEmpty then customizer else none) db]
    cases (r.resultsFor (s.pendingKeys name)
      (if rest.isEmpty then customizer else none)).run.run db with
    | mk outcome mid =>
    cases outcome with
    | error f => rfl
    | ok groups =>
      cases hrest : rest.isEmpty with
      | true => rfl
      | false => simp only [Except.map, id_eq, ih, Bool.false_eq_true, if_false]

theorem mirrors_loadPaths (schemas : Schemas) (paths : List RelationPath) (s : ModelSet)
    (db : Database (Recorded π)) :
    (loadPaths schemas paths s).run db.forget =
      (((loadPaths schemas paths s).run db).1, ((loadPaths schemas paths s).run db).2.forget) := by
  induction paths generalizing s db with
  | nil => rfl
  | cons p paths ih =>
    rw [loadPaths_cons, loadPaths_cons, mirrors_loadSegments]
    obtain ⟨⟨outcome, s'⟩, mid⟩ := (loadSegments schemas p.customizer p.segments s).run db
    cases outcome with
    | error f => rfl
    | ok u => exact ih s' mid

/-- What paths do on a database they do on it with records. -/
theorem loadPaths_recording {schemas : Schemas} {paths : List RelationPath} {s s' : ModelSet}
    {db db' : Database π} {outcome : Except Failure Unit}
    (h : (loadPaths schemas paths s).run db = ((outcome, s'), db')) :
    ∃ kept, (loadPaths schemas paths s).run db.recording = ((outcome, s'), kept) ∧
      kept.forget = db' := by
  have hmirrors := mirrors_loadPaths schemas paths s db.recording
  rw [Database.forget_recording, h] at hmirrors
  obtain ⟨hresult, hdb⟩ := Prod.mk.inj hmirrors
  exact ⟨_, Prod.ext hresult.symm rfl, hdb.symm⟩

end ModelSet
end
end SqlRecords
