import SqlRecords.Pool.Scripted
import SqlRecords.Proofs.Model.Answers

/-! Loading relations along paths. Each level of a path asks at most one statement; what it answers
is handed out by keys, and the levels below are handed back by counting. -/
namespace SqlRecords

namespace Model

/-- What a model has under a name when an answer is there for the models without it. -/
def held (name : String) (answer : Option Answer) (m : Model) : Option Loaded :=
  (m.loaded? name).or (answer.map fun a => a.loaded m)

/-- A model without a relation takes what is answered for it. -/
def receive (name : String) (answer : Option Answer) (m : Model) : Model :=
  match m.loaded? name, answer with
  | none, some a => m.attach name (a.loaded m)
  | _, _ => m

@[simp] theorem receive_none (name : String) (m : Model) : m.receive name none = m := by
  unfold receive
  cases m.loaded? name <;> rfl

theorem receive_spec (name : String) (answer : Option Answer) (m : Model) :
    (m.receive name answer).bare = m.bare ∧
      (∀ other, other ≠ name → (m.receive name answer).loaded? other = m.loaded? other) ∧
      (m.receive name answer).loaded? name = m.held name answer := by
  unfold receive held
  cases hl : m.loaded? name with
  | some l => exact ⟨rfl, fun _ _ => rfl, hl⟩
  | none =>
    cases answer with
    | none => exact ⟨rfl, fun _ _ => rfl, hl⟩
    | some a =>
      refine ⟨rfl, fun other hother => ?_, ?_⟩
      · rw [loaded?_attach, if_neg hother]
      · rw [loaded?_attach, if_pos rfl]
        rfl

theorem Gains.refl (name : String) (m : Model) : m.Gains name (m.loaded? name) m := by
  refine ⟨rfl, fun _ _ => rfl, ?_⟩
  cases m.loaded? name with
  | none => exact .none
  | some l => exact .some (.refl l)

/-- What a model gains after it received an answer it gains by both. -/
theorem Gains.of_receive {name : String} {answer : Option Answer} {m m' : Model}
    (h : (m.receive name answer).Gains name ((m.receive name answer).loaded? name) m') :
    m.Gains name (m.held name answer) m' := by
  obtain ⟨hbare, hothers, hname⟩ := m.receive_spec name answer
  exact ⟨h.bare.trans hbare, fun other ho => (h.others other ho).trans (hothers other ho),
    hname ▸ h.related⟩

end Model

namespace ModelSet

/-- Attaching the groups of an answer is handing it to every model. -/
theorem attachGroups_eq {s : ModelSet} {name : String} {r : Relation} {groups : Fields ModelSet}
    {answer : Option Answer} (hsome : answer.isSome = !(s.pendingKeys name).isEmpty)
    (h : ∀ a ∈ answer, ∀ m : Model,
      r.loaded ((groups.get? (keyText m.key)).getD []) = a.loaded m) :
    (if (s.pendingKeys name).isEmpty then s else s.attachGroups name r groups) =
      s.mapModels (·.receive name answer) := by
  cases answer with
  | none =>
    have hempty : (s.pendingKeys name).isEmpty = true := by simpa using hsome
    simp [hempty, mapModels]
  | some a =>
    have hempty : (s.pendingKeys name).isEmpty = false := by simpa using hsome
    simp only [hempty, Bool.false_eq_true, if_false, attachGroups]
    congr 1
    funext m
    unfold Model.isLoaded Model.receive
    cases m.loaded? name with
    | some l => rfl
    | none => exact congrArg (m.attach name) (h a rfl m)

theorem mapModels_eq_zip (s : ModelSet) (f : Model → Model) :
    s.mapModels f = (s.map (·.1)).zip (s.models.map f) := by
  induction s with
  | nil => rfl
  | cons p rest ih => exact congrArg ((p.1, f p.2) :: ·) ih

theorem relatedModels_receive (s : ModelSet) (name : String) (answer : Option Answer) :
    (s.mapModels (·.receive name answer)).relatedModels name =
      s.models.flatMap fun m => (m.held name answer).elim [] Loaded.models := by
  unfold relatedModels
  rw [models_mapModels, List.flatMap_map]
  congr 1
  funext m
  rw [(m.receive_spec name answer).2.2]

variable {π : Type} [Pool π]

/-- How a path is loaded. At each level one relation, that of the first model, serves all models:
those without it wait for an answer, and every model then has what it had or what is answered for
it. The related models, in their order, are the next level. -/
inductive Loads (schemas : Schemas) (customizer : Option Customizer) :
    List String → List Model → List Model → Database π → Database π → Prop
  | done (models : List Model) (db : Database π) : Loads schemas customizer [] models models db db
  | empty (segments : List String) (db : Database π) : Loads schemas customizer segments [] [] db db
  | level {name : String} {rest : List String} {first : Model} {others after : List Model}
      {r : Relation} {answer : Option Answer} {db mid db' : Database π}
      (hrelation : first.relation schemas name = .ok r)
      (hasks : r.Asks (pendingKeys (.ofList (first :: others)) name)
        (if rest.isEmpty then customizer else none) db answer mid)
      (hmodels : List.Forall₂ (fun m m' => m.Gains name (m.held name answer) m')
        (first :: others) after)
      (hbelow : Loads schemas customizer rest
        ((first :: others).flatMap fun m => (m.held name answer).elim [] Loaded.models)
        (after.flatMap fun m => (m.loaded? name).elim [] Loaded.models) mid db') :
      Loads schemas customizer (name :: rest) (first :: others) after db db'

/-- Models keep their number, their order and all that is stored in them. -/
theorem Loads.bare_eq {schemas : Schemas} {customizer : Option Customizer} {segments : List String}
    {before after : List Model} {db db' : Database π}
    (h : Loads schemas customizer segments before after db db') :
    after.map Model.bare = before.map Model.bare := by
  cases h with
  | done => rfl
  | empty => rfl
  | level _ _ hmodels _ =>
    have hbare := hmodels.imp fun _ _ hm => hm.bare.symm
    rw [← List.forall₂_map_right_iff, ← List.forall₂_map_left_iff, List.forall₂_eq_eq_eq] at hbare
    exact hbare.symm

theorem loadSegments_cons (schemas : Schemas) (customizer : Option Customizer) (name : String)
    (rest : List String) (s : ModelSet) (db : Database π) :
    (loadSegments schemas customizer (name :: rest) s).run db =
      match s.models.head? with
      | none => ((.ok (), s), db)
      | some first => match first.relation schemas name with
        | .error f => ((.error f, s), db)
        | .ok r =>
          let pending := s.pendingKeys name
          match (r.resultsFor pending (if rest.isEmpty then customizer else none)).run.run db with
          | (.error f, mid) => ((.error f, s), mid)
          | (.ok groups, mid) =>
            let s := if pending.isEmpty then s else s.attachGroups name r groups
            if rest.isEmpty then ((.ok (), s), mid)
            else
              let below := (loadSegments schemas customizer rest
                (ModelSet.ofList (s.relatedModels name))).run mid
              (s.handBack name below.1, below.2) := by
  rw [loadSegments]
  cases s.models.head? with
  | none => rfl
  | some first =>
  cases hr : first.relation schemas name with
  | error f => simp only [hr]; rfl
  | ok r =>
  simp only [hr]
  rw [StateT.run_bind]
  cases (r.resultsFor (s.pendingKeys name)
    (if rest.isEmpty then customizer else none)).run.run db with
  | mk outcome mid =>
  cases outcome with
  | error f => rfl
  | ok groups =>
    cases hrest : rest.isEmpty with
    | true => cases (s.pendingKeys name).isEmpty <;> rfl
    | false => cases (s.pendingKeys name).isEmpty <;> rfl

/-- A level whose models received an answer, and whose related models were then put back. -/
theorem Loads.of_received {schemas : Schemas} {customizer : Option Customizer} {name : String}
    {rest : List String} {first : Model} {others : List Model} {r : Relation}
    {answer : Option Answer} {s s' : ModelSet} {db mid db' : Database π}
    (hmodels : s.models = first :: others) (hrelation : first.relation schemas name = .ok r)
    (hasks : r.Asks (s.pendingKeys name) (if rest.isEmpty then customizer else none) db answer mid)
    (hgains : List.Forall₂ (fun p p' => p'.1 = p.1 ∧ p.2.Gains name (p.2.loaded? name) p'.2)
      (s.mapModels (·.receive name answer)) s')
    (hbelow : Loads schemas customizer rest
      ((s.mapModels (·.receive name answer)).relatedModels name) (s'.relatedModels name) mid db') :
    Loads schemas customizer (name :: rest) (first :: others) s'.models db db' ∧
      s'.map (·.1) = s.map (·.1) := by
  unfold mapModels at hgains
  rw [List.forall₂_map_left_iff] at hgains
  have hkeys := hgains.imp fun _ _ hp => hp.1.symm
  have hheld := hgains.imp fun _ _ hp => hp.2.of_receive
  rw [← List.forall₂_map_right_iff, ← List.forall₂_map_left_iff, List.forall₂_eq_eq_eq] at hkeys
  refine ⟨?_, hkeys.symm⟩
  have hpending : s.pendingKeys name = pendingKeys (.ofList (first :: others)) name := by
    simp only [pendingKeys, models_ofList, hmodels]
  rw [relatedModels_receive, hmodels] at hbelow
  rw [hpending] at hasks
  refine .level hrelation hasks ?_ hbelow
  rw [← hmodels]
  exact List.forall₂_map_left_iff.mpr (List.forall₂_map_right_iff.mpr hheld)

theorem handBack_ok {s s' : ModelSet} {name : String} {below : Except Failure Unit × ModelSet}
    (h : s.handBack name below = (.ok (), s')) :
    ∃ related, below = (.ok (), related) ∧ s' = s.refill name related.models := by
  obtain ⟨outcome, related⟩ := below
  cases outcome with
  | error f => cases h
  | ok u => exact ⟨related, rfl, (Prod.mk.inj h).2.symm⟩

/-- A path that is loaded is loaded level by level, and the models stay under their keys. -/
theorem loadSegments_loads {schemas : Schemas} {customizer : Option Customizer}
    {segments : List String} {s s' : ModelSet} {db db' : Database π}
    (h : (loadSegments schemas customizer segments s).run db = ((.ok (), s'), db')) :
    Loads schemas customizer segments s.models s'.models db db' ∧ s'.map (·.1) = s.map (·.1) := by
  induction segments generalizing s s' db db' with
  | nil =>
    obtain ⟨hs, rfl⟩ := Prod.mk.inj h
    obtain ⟨-, rfl⟩ := Prod.mk.inj hs
    exact ⟨.done _ _, rfl⟩
  | cons name rest ih =>
    rw [loadSegments_cons] at h
    cases hm : s.models with
    | nil =>
      rw [hm] at h
      obtain ⟨hs, rfl⟩ := Prod.mk.inj h
      obtain ⟨-, rfl⟩ := Prod.mk.inj hs
      rw [hm]
      exact ⟨.empty _ _, rfl⟩
    | cons first others =>
      rw [hm] at h
      simp only [List.head?_cons] at h
      cases hr : first.relation schemas name with
      | error f => simp only [hr] at h; cases h
      | ok r =>
      simp only [hr] at h
      cases hrun : (r.resultsFor (s.pendingKeys name)
        (if rest.isEmpty then customizer else none)).run.run db with
      | mk outcome mid =>
      rw [hrun] at h
      cases outcome with
      | error f => cases h
      | ok groups =>
      obtain ⟨answer, hasks, hsome, hloaded⟩ := Relation.resultsFor_asks hrun
      simp only [attachGroups_eq hsome hloaded] at h
      cases rest with
      | nil =>
        obtain ⟨hs, rfl⟩ := Prod.mk.inj h
        obtain ⟨-, rfl⟩ := Prod.mk.inj hs
        refine Loads.of_received hm hr hasks ?_ (.done _ _)
        exact List.forall₂_same.mpr fun p _ => ⟨rfl, .refl name p.2⟩
      | cons next rest =>
        obtain ⟨hback, rfl⟩ := Prod.mk.inj h
        obtain ⟨related, hbelow, rfl⟩ := handBack_ok hback
        obtain ⟨hloads, -⟩ := ih (Prod.ext hbelow rfl)
        rw [models_ofList] at hloads
        -- The models below kept their number and order, so each parent gets its own back.
        obtain ⟨hrelated, hgains⟩ := refill_spec name _ related.models hloads.bare_eq
        refine Loads.of_received hm hr hasks hgains ?_
        rw [hrelated]
        exact hloads

/-- Paths that are loaded one after another. -/
inductive LoadsAll (schemas : Schemas) :
    List RelationPath → List Model → List Model → Database π → Database π → Prop
  | nil (models : List Model) (db : Database π) : LoadsAll schemas [] models models db db
  | cons {p : RelationPath} {paths : List RelationPath} {before between after : List Model}
      {db mid db' : Database π}
      (hpath : Loads schemas p.customizer p.segments before between db mid)
      (hpaths : LoadsAll schemas paths between after mid db') :
      LoadsAll schemas (p :: paths) before after db db'

theorem loadPaths_cons (schemas : Schemas) (p : RelationPath) (paths : List RelationPath)
    (s : ModelSet) (db : Database π) :
    (loadPaths schemas (p :: paths) s).run db =
      match (loadSegments schemas p.customizer p.segments s).run db with
      | ((.error f, s), mid) => ((.error f, s), mid)
      | ((.ok (), s), mid) => (loadPaths schemas paths s).run mid := by
  rw [loadPaths, StateT.run_bind]
  obtain ⟨⟨outcome, s'⟩, mid⟩ := (loadSegments schemas p.customizer p.segments s).run db
  cases outcome <;> rfl

theorem loadPaths_loads {schemas : Schemas} {paths : List RelationPath} {s s' : ModelSet}
    {db db' : Database π} (h : (loadPaths schemas paths s).run db = ((.ok (), s'), db')) :
    LoadsAll schemas paths s.models s'.models db db' ∧
      s'.mapModels Model.bare = s.mapModels Model.bare := by
  induction paths generalizing s db with
  | nil =>
    obtain ⟨hs, rfl⟩ := Prod.mk.inj h
    obtain ⟨-, rfl⟩ := Prod.mk.inj hs
    exact ⟨.nil _ _, rfl⟩
  | cons p paths ih =>
    rw [loadPaths_cons] at h
    cases hrun : (loadSegments schemas p.customizer p.segments s).run db with
    | mk outcome mid =>
    rw [hrun] at h
    obtain ⟨outcome, between⟩ := outcome
    cases outcome with
    | error f => cases h
    | ok u =>
      obtain ⟨hloads, hkeys⟩ := loadSegments_loads hrun
      obtain ⟨hall, hbare⟩ := ih h
      refine ⟨.cons hloads hall, hbare.trans ?_⟩
      rw [mapModels_eq_zip, mapModels_eq_zip, hkeys, hloads.bare_eq]

/-- Eager loading that succeeds hands every model, at every level of every path, what was answered
for its key or leaves it what it had; the models of the set stay as they are but for what is loaded
below them. -/
theorem eager_load_hands_out_answers (schemas : Schemas) (paths : List RelationPath)
    (s s' : ModelSet) (db db' : Database π)
    (h : (loadPaths schemas paths s).run db = ((.ok (), s'), db')) :
    LoadsAll schemas paths s.models s'.models db db' ∧
      s'.mapModels Model.bare = s.mapModels Model.bare := loadPaths_loads h

/-- Users live in cities. -/
def townSchemas : Schemas :=
  [("users", ((Schema.new "main" "users").declare ["id", "city_id"]).relate "city"
      ⟨.belongsTo "city_id", "cities"⟩),
    ("cities", ((Schema.new "main" "cities").declare ["id", "name"]).relate "users"
      ⟨.hasMany "city_id", "users"⟩)]

/-- Answers with the city of two users, and then with the users of that city. -/
def townDatabase : Database ScriptedPool where
  configs := [("main", .ofParts "main" .postgres "localhost" "town")]
  backends := []
  opened := [⟨"main", .postgres, { ScriptedPool.new with responses :=
    [.rows [[("id", .int 7), ("name", .text "Oslo"), ("__table_users__key", .int 2)],
        [("id", .int 7), ("name", .text "Oslo"), ("__table_users__key", .int 1)]],
      .rows [[("id", .int 1), ("city_id", .int 7), ("__table_cities__key", .int 7)],
        [("id", .int 2), ("city_id", .int 7), ("__table_cities__key", .int 7)]]] }⟩]
  registry := [("main", 0)]

def townUsers : ModelSet := .ofList ([1, 2].map fun id =>
  { Model.blank ((townSchemas.get? "users").getD default) with
    stored := [("id", .int id), ("city_id", .int 7)]
    isNew := false })

/-- The keys of the models under a name, model by model. -/
def relatedKeys (s : ModelSet) (name : String) : List (List String) :=
  s.models.map fun m => ((m.loaded? name).elim [] Loaded.models).map (keyText ·.key)

/-- Both users get the city, and it has both users each time. -/
theorem townUsers_get_answers : ∃ (s' : ModelSet) (db' : Database ScriptedPool),
    LoadsAll townSchemas [⟨"city.users", none⟩] townUsers.models s'.models townDatabase db' ∧
    s'.relatedKeys "city" = [["7"], ["7"]] ∧
    (ofList (s'.relatedModels "city")).relatedKeys "users" =
      [["1", "2"], ["1", "2"]] := by
  have hok : ((loadPaths townSchemas [⟨"city.users", none⟩] townUsers).run
      townDatabase).1.1.isOk = true := by decide +kernel
  have hcities : ((loadPaths townSchemas [⟨"city.users", none⟩] townUsers).run
      townDatabase).1.2.relatedKeys "city" = [["7"], ["7"]] := by decide +kernel
  have husers : (ofList (((loadPaths townSchemas [⟨"city.users", none⟩] townUsers).run
      townDatabase).1.2.relatedModels "city")).relatedKeys "users" =
      [["1", "2"], ["1", "2"]] := by decide +kernel
  cases hrun : (loadPaths townSchemas [⟨"city.users", none⟩] townUsers).run townDatabase with
  | mk outcome db' =>
  rw [hrun] at hok hcities husers
  obtain ⟨outcome, s'⟩ := outcome
  cases outcome with
  | error f => cases hok
  | ok u =>
    exact ⟨s', db', (eager_load_hands_out_answers _ _ _ _ _ _ hrun).1, hcities, husers⟩

end ModelSet
end SqlRecords
