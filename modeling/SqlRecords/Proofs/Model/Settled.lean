import SqlRecords.Proofs.Model.Levels

/-! Models below which a path has nothing left to ask. A path that is loaded leaves its models so,
no other path undoes it, and loading it once more asks nothing. -/
namespace SqlRecords

namespace Model

theorem relation_bare (m : Model) (schemas : Schemas) (name : String) :
    m.bare.relation schemas name = m.relation schemas name := rfl

theorem key_bare (m : Model) : m.bare.key = m.key := rfl

namespace Gains
variable {name : String} {m m' : Model} {l : Option Loaded}

theorem relation_eq (h : m.Gains name l m') (schemas : Schemas) (other : String) :
    m'.relation schemas other = m.relation schemas other := by
  rw [← m'.relation_bare, h.bare, m.relation_bare]

theorem key_eq (h : m.Gains name l m') : m'.key = m.key := by
  rw [← m'.key_bare, h.bare, m.key_bare]

theorem isLoaded_eq (h : m.Gains name l m') : m'.isLoaded name = l.isSome := by
  have hrelated := h.related
  unfold isLoaded
  generalize m'.loaded? name = l' at hrelated
  cases hrelated <;> rfl

theorem waits_of_ne (h : m.Gains name l m') {other : String} (hother : other ≠ name) :
    m'.waits other = m.waits other := by
  unfold waits isLoaded
  rw [h.others other hother, h.key_eq]

/-- A model has the relation if it had it or if there is an answer. -/
theorem isLoaded_of_held {answer : Option Answer} (h : m.Gains name (m.held name answer) m') :
    m'.isLoaded name = (m.isLoaded name || answer.isSome) := by
  rw [h.isLoaded_eq, held, Option.isSome_or, Option.isSome_map]
  rfl

/-- A model waits no longer once there is an answer. -/
theorem waits_eq {answer : Option Answer} (h : m.Gains name (m.held name answer) m') :
    m'.waits name = (m.waits name && answer.isNone) := by
  unfold waits
  rw [h.isLoaded_of_held, h.key_eq]
  cases answer with
  | none => simp
  | some a => simp

end Gains
end Model

namespace ModelSet

/-- Whether a path has nothing left to ask. At every level the first model has the relation, if
there is one, and no model waits for it. -/
def Settled (schemas : Schemas) : List String → List Model → Prop
  | [], _ => True
  | name :: rest, models =>
    (∀ first ∈ models.head?, ∃ r, first.relation schemas name = .ok r) ∧
      models.any (Model.waits name) = false ∧
      Settled schemas rest (models.flatMap fun m => (m.loaded? name).elim [] Loaded.models)

theorem settled_nil (schemas : Schemas) (segments : List String) : Settled schemas segments [] := by
  induction segments with
  | nil => trivial
  | cons name rest ih => exact ⟨fun first hfirst => absurd hfirst (by simp), rfl, ih⟩

/-- What models keep while they gain is the same all along the list. -/
theorem map_eq_of_gains {α : Type} {name : String} {held : Model → Option Loaded}
    {f g : Model → α} {before after : List Model}
    (h : List.Forall₂ (fun m m' => m.Gains name (held m) m') before after)
    (hf : ∀ m m' : Model, m.Gains name (held m) m' → f m' = g m) :
    after.map f = before.map g := by
  induction h with
  | nil => rfl
  | cons hm _ ih => rw [List.map_cons, List.map_cons, hf _ _ hm, ih]

theorem any_eq_of_gains {name : String} {held : Model → Option Loaded} {f g : Model → Bool}
    {before after : List Model}
    (h : List.Forall₂ (fun m m' => m.Gains name (held m) m') before after)
    (hf : ∀ m m' : Model, m.Gains name (held m) m' → f m' = g m) :
    after.any f = before.any g := by
  have hmap := congrArg (List.any · id) (map_eq_of_gains h hf)
  simpa only [List.any_map, Function.id_comp] using hmap

theorem head_relation_of_gains {schemas : Schemas} {name other : String}
    {held : Model → Option Loaded} {before after : List Model}
    (h : List.Forall₂ (fun m m' => m.Gains name (held m) m') before after)
    (hbefore : ∀ first ∈ before.head?, ∃ r, first.relation schemas other = .ok r) :
    ∀ first ∈ after.head?, ∃ r, first.relation schemas other = .ok r := by
  cases h with
  | nil => exact hbefore
  | cons hm _ =>
    intro first hfirst
    cases Option.some.inj hfirst
    obtain ⟨r, hr⟩ := hbefore _ rfl
    exact ⟨r, (hm.relation_eq schemas other).trans hr⟩

/-- A level that is loaded leaves no model waiting. -/
theorem any_waits_of_gains {name : String} {answer : Option Answer} {before after : List Model}
    (h : List.Forall₂ (fun m m' => m.Gains name (m.held name answer) m') before after)
    (hanswer : answer.isSome = before.any (Model.waits name)) :
    after.any (Model.waits name) = false := by
  rw [any_eq_of_gains h fun _ _ hm => hm.waits_eq]
  cases answer with
  | none => simpa using hanswer.symm
  | some a => simp

variable {π : Type} [Pool π]

/-- A path that is loaded has nothing left to ask. -/
theorem Loads.settled {schemas : Schemas} {customizer : Option Customizer} {segments : List String}
    {before after : List Model} {db db' : Database π}
    (h : Loads schemas customizer segments before after db db') :
    Settled schemas segments after := by
  induction h with
  | done => trivial
  | empty segments => exact settled_nil schemas segments
  | level hrelation hasks hmodels _ ih =>
    refine ⟨head_relation_of_gains hmodels ?_, ?_, ih⟩
    · intro first hfirst
      cases Option.some.inj hfirst
      exact ⟨_, hrelation⟩
    · exact any_waits_of_gains hmodels hasks.isSome_eq

/-- No path that is loaded undoes what another has settled. -/
theorem Loads.keeps_settled {schemas : Schemas} {customizer : Option Customizer}
    {segments kept : List String} {before after : List Model} {db db' : Database π}
    (h : Loads schemas customizer segments before after db db')
    (hkept : Settled schemas kept before) : Settled schemas kept after := by
  induction h generalizing kept with
  | done => exact hkept
  | empty => exact hkept
  | @level name rest first others after r answer db mid db' hrelation hasks hmodels hbelow ih =>
    cases kept with
    | nil => trivial
    | cons other kept =>
    obtain ⟨hhead, hwaits, hrest⟩ := hkept
    by_cases hother : other = name
    · subst hother
      have hnone : answer = none := by simpa [hwaits] using hasks.isSome_eq
      subst hnone
      refine ⟨head_relation_of_gains hmodels hhead, ?_, ih ?_⟩
      · exact any_waits_of_gains hmodels hasks.isSome_eq
      · simpa only [Model.held, Option.map_none, Option.or_none] using hrest
    · refine ⟨head_relation_of_gains hmodels hhead, ?_, ?_⟩
      · exact (any_eq_of_gains hmodels fun _ _ hm => hm.waits_of_ne hother).trans hwaits
      · have hrelated := map_eq_of_gains (f := fun m => (m.loaded? other).elim [] Loaded.models)
          (g := fun m => (m.loaded? other).elim [] Loaded.models)
          hmodels fun _ _ hm => congrArg (·.elim [] Loaded.models) (hm.others other hother)
        rw [List.flatMap_def, hrelated, ← List.flatMap_def]
        exact hrest

/-- A path that has nothing left to ask asks nothing. -/
theorem Settled.run {schemas : Schemas} {segments : List String} {s : ModelSet}
    (h : Settled schemas segments s.models) (customizer : Option Customizer) (db : Database π) :
    ∃ s', (loadSegments schemas customizer segments s).run db = ((.ok (), s'), db) := by
  induction segments generalizing s with
  | nil => exact ⟨s, rfl⟩
  | cons name rest ih =>
    obtain ⟨hhead, hwaits, hrest⟩ := h
    rw [loadSegments_cons]
    cases hfirst : s.models.head? with
    | none => exact ⟨s, rfl⟩
    | some first =>
    obtain ⟨r, hr⟩ := hhead first hfirst
    have hpending : s.pendingKeys name = [] := by
      rw [← List.isEmpty_iff, isEmpty_pendingKeys, hwaits]
      rfl
    have hresults (c : Option Customizer) : (r.resultsFor [] c).run.run db = (.ok [], db) := rfl
    simp only [hr, hresults, hpending, List.isEmpty_nil, if_true]
    cases hrest' : rest.isEmpty with
    | true => exact ⟨s, rfl⟩
    | false =>
      obtain ⟨related, hbelow⟩ := ih (s := ofList (s.relatedModels name))
        (by rw [models_ofList]; exact hrest)
      rw [hbelow]
      exact ⟨s.refill name related.models, rfl⟩

/-- Paths that have nothing left to ask ask nothing. -/
theorem settled_loadPaths {schemas : Schemas} {paths : List RelationPath} {s : ModelSet}
    (h : ∀ p ∈ paths, Settled schemas p.segments s.models) (db : Database π) :
    ∃ s', (loadPaths schemas paths s).run db = ((.ok (), s'), db) := by
  induction paths generalizing s with
  | nil => exact ⟨s, rfl⟩
  | cons p paths ih =>
    obtain ⟨between, hrun⟩ := (h p List.mem_cons_self).run p.customizer db
    obtain ⟨hloads, -⟩ := loadSegments_loads hrun
    rw [loadPaths_cons, hrun]
    exact ih fun p' hp' => hloads.keeps_settled (h p' (List.mem_cons_of_mem p hp'))

/-- Paths that are loaded have nothing left to ask. -/
theorem loadPaths_settled {schemas : Schemas} {paths : List RelationPath} {s s' : ModelSet}
    {db db' : Database π} (h : (loadPaths schemas paths s).run db = ((.ok (), s'), db')) :
    (∀ p ∈ paths, Settled schemas p.segments s'.models) ∧
      ∀ kept, Settled schemas kept s.models → Settled schemas kept s'.models := by
  induction paths generalizing s db with
  | nil =>
    obtain ⟨hs, -⟩ := Prod.mk.inj h
    obtain ⟨-, rfl⟩ := Prod.mk.inj hs
    exact ⟨fun p hp => absurd hp List.not_mem_nil, fun _ hkept => hkept⟩
  | cons p paths ih =>
    obtain ⟨between, mid, hpath, hpaths⟩ := loadPaths_cons_ok h
    obtain ⟨hloads, -⟩ := loadSegments_loads hpath
    obtain ⟨hsettled, hkeeps⟩ := ih hpaths
    refine ⟨fun p' hp' => ?_, fun kept hkept => hkeeps kept (hloads.keeps_settled hkept)⟩
    obtain rfl | hp' := List.mem_cons.mp hp'
    · exact hkeeps _ hloads.settled
    · exact hsettled p' hp'

end ModelSet
end SqlRecords
