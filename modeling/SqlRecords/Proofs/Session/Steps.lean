import SqlRecords.Session.Database

/-! Steps of a session that succeed. -/
namespace SqlRecords

theorem lookup_map_snd {κ α β : Type} [BEq κ] (f : α → β) (entries : List (κ × α)) (key : κ) :
    (entries.map fun (k, a) => (k, f a)).lookup key = (entries.lookup key).map f := by
  induction entries with
  | nil => rfl
  | cons entry rest ih =>
    obtain ⟨k, a⟩ := entry
    simp only [List.map_cons, List.lookup_cons]
    cases key == k with
    | true => rfl
    | false => exact ih

namespace Session
variable {π α β : Type}

/-- A step succeeds with a result and leaves a database behind. -/
def Yields (x : Session π α) (db : Database π) (a : α) (db' : Database π) : Prop :=
  x.run.run db = (.ok a, db')

/-- What a step yields is determined. -/
theorem Yields.unique {x : Session π α} {db db' db'' : Database π} {a b : α}
    (h : x.Yields db a db') (h' : x.Yields db b db'') : a = b ∧ db' = db'' := by
  obtain ⟨hab, hdb⟩ := Prod.mk.inj (h.symm.trans h')
  exact ⟨Except.ok.inj hab, hdb⟩

theorem yields_pure {db db' : Database π} {a b : α} :
    Yields (pure a) db b db' ↔ a = b ∧ db = db' := by
  constructor
  · intro h
    obtain ⟨ha, hdb⟩ := Prod.mk.inj h
    exact ⟨Except.ok.inj ha, hdb⟩
  · rintro ⟨rfl, rfl⟩
    rfl

/-- The second of two steps goes on from what the first left, if that succeeds. -/
theorem run_bind (x : Session π α) (f : α → Session π β) (db : Database π) :
    (x >>= f).run.run db = match x.run.run db with
      | (.ok a, mid) => (f a).run.run mid
      | (.error e, mid) => (.error e, mid) := by
  rw [ExceptT.run_bind, StateT.run_bind]
  cases x.run.run db with
  | mk outcome mid => cases outcome <;> rfl

theorem run_map (f : α → β) (x : Session π α) (db : Database π) :
    (f <$> x).run.run db = ((f <$> (x.run.run db).1 : Except Failure β), (x.run.run db).2) := by
  rw [map_eq_pure_bind, run_bind]
  cases x.run.run db with
  | mk outcome mid => cases outcome <;> rfl

/-- Two steps succeed where the first does and the second goes on from what it left. -/
theorem yields_bind {x : Session π α} {f : α → Session π β} {db db' : Database π} {b : β} :
    Yields (x >>= f) db b db' ↔ ∃ a mid, Yields x db a mid ∧ Yields (f a) mid b db' := by
  unfold Yields
  rw [run_bind]
  cases hx : x.run.run db with
  | mk outcome mid =>
    cases outcome with
    | error e =>
      constructor
      · intro h
        cases (Prod.mk.inj h).1
      · rintro ⟨a, mid', ha, -⟩
        cases (Prod.mk.inj ha).1
    | ok a =>
      constructor
      · intro h
        exact ⟨a, mid, rfl, h⟩
      · rintro ⟨a', mid', ha, hb⟩
        obtain ⟨haa, hmid⟩ := Prod.mk.inj ha
        cases Except.ok.inj haa
        cases hmid
        exact hb

theorem yields_ofExcept {e : Except Failure α} {db db' : Database π} {a : α} :
    Yields (ofExcept e) db a db' ↔ e = .ok a ∧ db = db' := by
  constructor
  · intro h
    exact Prod.mk.inj h
  · rintro ⟨rfl, rfl⟩
    rfl

theorem yields_get {db db' : Database π} {a : Database π} :
    Yields (get : Session π (Database π)) db a db' ↔ a = db ∧ db = db' := by
  constructor
  · intro h
    obtain ⟨ha, hdb⟩ := Prod.mk.inj h
    exact ⟨(Except.ok.inj ha).symm, hdb⟩
  · rintro ⟨rfl, rfl⟩
    rfl

theorem not_yields_throw {db db' : Database π} {f : Failure} {a : α} :
    ¬ Yields (throw f) db a db' := by
  intro h
  cases (Prod.mk.inj h).1

theorem yields_config {source : String} {db db' : Database π} {c : Config} :
    Yields (config source) db c db' ↔ db.config? source = some c ∧ db = db' := by
  unfold config
  rw [yields_bind]
  constructor
  · rintro ⟨mid, mid', hget, h⟩
    obtain ⟨rfl, rfl⟩ := yields_get.mp hget
    cases hc : mid.config? source with
    | none =>
      rw [hc] at h
      cases not_yields_throw h
    | some c' =>
      rw [hc] at h
      obtain ⟨rfl, rfl⟩ := yields_pure.mp h
      exact ⟨rfl, rfl⟩
  · rintro ⟨hc, rfl⟩
    refine ⟨db, db, yields_get.mpr ⟨rfl, rfl⟩, ?_⟩
    rw [hc]
    exact yields_pure.mpr ⟨rfl, rfl⟩

theorem yields_query {source : String} {db db' : Database π} {q : Query} :
    Yields (query source) db q db' ↔
      ∃ c, db.config? source = some c ∧ .empty c.engine.dialect (some source) = q ∧ db = db' := by
  have hmap : (query source : Session π Query) =
      config source >>= fun c => pure (.empty c.engine.dialect (some source)) := rfl
  rw [hmap, yields_bind]
  constructor
  · rintro ⟨c, mid, hconfig, h⟩
    obtain ⟨hc, rfl⟩ := yields_config.mp hconfig
    obtain ⟨hq, rfl⟩ := yields_pure.mp h
    exact ⟨c, hc, hq, rfl⟩
  · rintro ⟨c, hc, hq, rfl⟩
    exact ⟨c, db, yields_config.mpr ⟨hc, rfl⟩, yields_pure.mpr ⟨hq, rfl⟩⟩

theorem yields_set {db db' next : Database π} {u : PUnit} :
    Yields (set next : Session π PUnit) db u db' ↔ next = db' := by
  constructor
  · intro h
    exact (Prod.mk.inj h).2
  · rintro rfl
    rfl

/-- An operation of a pool changes that pool only. -/
theorem yields_onPool [Inhabited α] {i : Nat} {f : π → α × π} {db db' : Database π} {a : α}
    (h : Yields (onPool i f) db a db') :
    (db.opened[i]? = none ∧ default = a ∧ db = db') ∨
      ∃ o, db.opened[i]? = some o ∧ (f o.pool).1 = a ∧
        (db.modifyPool i fun _ => (f o.pool).2) = db' := by
  unfold onPool at h
  obtain ⟨db, mid, hget, h⟩ := yields_bind.mp h
  obtain ⟨rfl, rfl⟩ := yields_get.mp hget
  cases ho : db.opened[i]? with
  | none =>
    rw [ho] at h
    obtain ⟨ha, hdb⟩ := yields_pure.mp h
    exact .inl ⟨rfl, ha, hdb⟩
  | some o =>
    rw [ho] at h
    obtain ⟨u, next, hset, h⟩ := yields_bind.mp h
    obtain ⟨ha, rfl⟩ := yields_pure.mp h
    exact .inr ⟨o, rfl, ha, yields_set.mp hset⟩

theorem yields_onPool_of_open [Inhabited α] {i : Nat} (f : π → α × π) {db : Database π}
    {o : OpenedPool π} (ho : db.opened[i]? = some o) :
    Yields (onPool i f) db (f o.pool).1 (db.modifyPool i fun _ => (f o.pool).2) := by
  unfold onPool
  refine yields_bind.mpr ⟨db, db, yields_get.mpr ⟨rfl, rfl⟩, ?_⟩
  rw [ho]
  exact yields_bind.mpr ⟨⟨⟩, _, yields_set.mpr rfl, yields_pure.mpr ⟨rfl, rfl⟩⟩

theorem yields_openPool {c : Config} {db db' : Database π} {p : π}
    (h : Yields (openPool c) db p db') :
    ∃ backend, db.backends.lookup c.engine = some backend ∧ backend c = .ok p ∧ db = db' := by
  unfold openPool at h
  obtain ⟨db, mid, hget, h⟩ := yields_bind.mp h
  obtain ⟨rfl, rfl⟩ := yields_get.mp hget
  cases hb : db.backends.lookup c.engine with
  | none =>
    rw [hb] at h
    cases not_yields_throw h
  | some backend =>
    rw [hb] at h
    cases hp : backend c with
    | error f =>
      simp only [hp] at h
      cases not_yields_throw h
    | ok p' =>
      simp only [hp] at h
      obtain ⟨rfl, rfl⟩ := yields_pure.mp h
      exact ⟨backend, rfl, hp, rfl⟩

/-- The pool for a configuration is the one that is registered for its name, or one that a backend
opens now. -/
theorem yields_poolFor {c : Config} {db db' : Database π} {i : Nat}
    (h : Yields (poolFor c) db i db') :
    db.registry.get? c.name = some i ∧ db = db' ∨
      db.registry.get? c.name = none ∧ i = db.opened.length ∧
        ∃ backend p, db.backends.lookup c.engine = some backend ∧ backend c = .ok p ∧
          db.register c.name c.engine p = db' := by
  unfold poolFor at h
  obtain ⟨now, mid, hget, h⟩ := yields_bind.mp h
  obtain ⟨rfl, rfl⟩ := yields_get.mp hget
  cases hi : now.registry.get? c.name with
  | some i' =>
    rw [hi] at h
    obtain ⟨rfl, hdb⟩ := yields_pure.mp h
    exact .inl ⟨rfl, hdb⟩
  | none =>
    rw [hi] at h
    obtain ⟨p, mid, hopen, h⟩ := yields_bind.mp h
    obtain ⟨backend, hb, hp, rfl⟩ := yields_openPool hopen
    obtain ⟨db, mid, hget, h⟩ := yields_bind.mp h
    obtain ⟨rfl, rfl⟩ := yields_get.mp hget
    obtain ⟨u, next, hset, h⟩ := yields_bind.mp h
    obtain ⟨hi, rfl⟩ := yields_pure.mp h
    exact .inr ⟨rfl, hi.symm, backend, p, hb, hp, yields_set.mp hset⟩

/-- The pool of a data source is one that was opened, or one that a backend opens now. -/
theorem yields_pool {source : String} {db db' : Database π} {i : Nat}
    (h : Yields (pool source) db i db') :
    db = db' ∨ ∃ c backend p, db.backends.lookup c.engine = some backend ∧ backend c = .ok p ∧
      db.register c.name c.engine p = db' := by
  unfold pool at h
  obtain ⟨c, mid, hconfig, h⟩ := yields_bind.mp h
  obtain ⟨-, rfl⟩ := yields_config.mp hconfig
  obtain ⟨-, hsame⟩ | ⟨-, -, backend, p, hopened⟩ := yields_poolFor h
  · exact .inl hsame
  · exact .inr ⟨c, backend, p, hopened⟩

end Session
end SqlRecords
