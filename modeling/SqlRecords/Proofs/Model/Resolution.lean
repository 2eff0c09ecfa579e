import SqlRecords.Proofs.Model.Settled

/-! What loading a path resolves. A level hands something to all its models or to none of them: to
all once one of them has a key to ask for, be the others saved or not. -/
namespace SqlRecords

/-- A model that no row names gets nothing of an answer: no model, or a set without models. -/
theorem Model.held_of_unnamed {name : String} {a : Answer} {m : Model}
    (hmissing : m.isLoaded name = false) (h : ∀ row ∈ a.rows,
      (row.get? a.relation.ownerColumn).map keyText ≠ some (keyText m.key)) :
    m.held name (some a) = some (a.relation.loaded []) := by
  have hlack : m.loaded? name = none := by simpa [isLoaded] using hmissing
  have hnone : a.modelsOf (keyText m.key) = [] := by
    unfold Answer.modelsOf
    rw [List.map_eq_nil_iff, List.filter_eq_nil_iff]
    intro row hrow hnamed
    exact h row hrow (eq_of_beq hnamed)
  rw [held, hlack, Option.none_or, Option.map_some, Answer.loaded, hnone]
  rfl

namespace ModelSet

/-- Whether all models along a path have a property, each for the segment that goes on from it. -/
def Along (P : String → Model → Prop) : List String → List Model → Prop
  | [], _ => True
  | name :: rest, models =>
    (∀ m ∈ models, P name m) ∧
      Along P rest (models.flatMap fun m => (m.loaded? name).elim [] Loaded.models)

instance decidableAlong {P : String → Model → Prop} [∀ name, DecidablePred (P name)] :
    ∀ segments models, Decidable (Along P segments models)
  | [], _ => inferInstanceAs (Decidable True)
  | _ :: rest, _ =>
    have : ∀ models, Decidable (Along P rest models) := decidableAlong rest
    inferInstanceAs (Decidable (_ ∧ _))

/-- Whether every model along a path has the relation that the path goes on with. -/
abbrev Resolved : List String → List Model → Prop := Along fun name m => m.isLoaded name = true

theorem along_nil (P : String → Model → Prop) (segments : List String) : Along P segments [] := by
  induction segments with
  | nil => trivial
  | cons name rest ih => exact ⟨by simp, ih⟩

/-- Models with a key have the relation where a path has nothing left to ask. -/
theorem Settled.keyed {schemas : Schemas} {segments : List String} {models : List Model}
    (h : Settled schemas segments models) :
    Along (fun name m => m.key.isNull = false → m.isLoaded name = true) segments models := by
  induction segments generalizing models with
  | nil => trivial
  | cons name rest ih =>
    obtain ⟨-, hwaits, hrest⟩ := h
    refine ⟨?_, ih hrest⟩
    intro m hm hkey
    have hwait : ¬ m.waits name = true := List.any_eq_false.mp hwaits m hm
    simpa [Model.waits, hkey] using hwait

/-- Whether a level stalls: a model lacks the relation, and no model that lacks it has a key. -/
def StallsAt (name : String) (models : List Model) : Prop :=
  (∃ m ∈ models, m.isLoaded name = false) ∧ models.any (Model.waits name) = false

/-- A level that is loaded has all its models resolved unless it stalled. -/
theorem forall_isLoaded_of_gains {name : String} {answer : Option Answer}
    {before after : List Model}
    (h : List.Forall₂ (fun m m' => m.Gains name (m.held name answer) m') before after)
    (hanswer : answer.isSome = before.any (Model.waits name)) :
    (∀ m ∈ after, m.isLoaded name = true) ↔ ¬ StallsAt name before := by
  have hmap := map_eq_of_gains h fun _ _ hm => hm.isLoaded_of_held
  have hafter : (∀ m ∈ after, m.isLoaded name = true) ↔
      ∀ m ∈ before, (m.isLoaded name || answer.isSome) = true := by
    rw [← List.forall_mem_map (P := (· = true)), hmap, List.forall_mem_map]
  rw [hafter, StallsAt, ← hanswer]
  cases answer with
  | none => simp
  | some a => simp

variable {π : Type} [Pool π]

/-- A path that stalls: at its first segment, or on the related models below it, which are there
once the first segment has its answer. -/
inductive Stalls (schemas : Schemas) (customizer : Option Customizer) :
    List String → List Model → Database π → Prop
  | here {name : String} {rest : List String} {models : List Model} {db : Database π}
      (hstalls : StallsAt name models) : Stalls schemas customizer (name :: rest) models db
  | deeper {name : String} {rest : List String} {first : Model} {others : List Model} {r : Relation}
      {answer : Option Answer} {db mid : Database π}
      (hrelation : first.relation schemas name = .ok r)
      (hasks : r.Asks (pendingKeys (.ofList (first :: others)) name)
        (if rest.isEmpty then customizer else none) db answer mid)
      (hstalls : Stalls schemas customizer rest
        ((first :: others).flatMap fun m => (m.held name answer).elim [] Loaded.models) mid) :
      Stalls schemas customizer (name :: rest) (first :: others) db

theorem not_stalls_nil {schemas : Schemas} {customizer : Option Customizer}
    {segments : List String} {db : Database π} : ¬ Stalls schemas customizer segments [] db := by
  intro h
  cases h with
  | here hstalls =>
    obtain ⟨⟨m, hm, -⟩, -⟩ := hstalls
    exact List.not_mem_nil hm

/-- A path stalls at its first level or below it. What is below is determined, since the level asks
for one answer. -/
theorem stalls_cons {schemas : Schemas} {customizer : Option Customizer} {name : String}
    {rest : List String} {first : Model} {others : List Model} {r : Relation}
    {answer : Option Answer} {db mid : Database π}
    (hrelation : first.relation schemas name = .ok r)
    (hasks : r.Asks (pendingKeys (.ofList (first :: others)) name)
      (if rest.isEmpty then customizer else none) db answer mid) :
    Stalls schemas customizer (name :: rest) (first :: others) db ↔
      StallsAt name (first :: others) ∨ Stalls schemas customizer rest
        ((first :: others).flatMap fun m => (m.held name answer).elim [] Loaded.models) mid := by
  constructor
  · intro h
    cases h with
    | here hstalls => exact .inl hstalls
    | deeper hrelation' hasks' hstalls =>
      cases Except.ok.inj (hrelation.symm.trans hrelation')
      obtain ⟨rfl, rfl⟩ := hasks.unique hasks'
      exact .inr hstalls
  · rintro (hstalls | hstalls)
    · exact .here hstalls
    · exact .deeper hrelation hasks hstalls

/-- A path that is loaded is resolved unless it stalled. -/
theorem Loads.resolved_iff {schemas : Schemas} {customizer : Option Customizer}
    {segments : List String} {before after : List Model} {db db' : Database π}
    (h : Loads schemas customizer segments before after db db') :
    Resolved segments after ↔ ¬ Stalls schemas customizer segments before db := by
  induction h with
  | done models db =>
    constructor
    · rintro - hstalls
      cases hstalls
    · intro _
      trivial
  | empty segments db =>
    constructor
    · intro _
      exact not_stalls_nil
    · intro _
      exact along_nil _ segments
  | level hrelation hasks hmodels hbelow ih =>
    rw [stalls_cons hrelation hasks, not_or, ← ih,
      ← forall_isLoaded_of_gains hmodels hasks.isSome_eq]
    rfl

/-- A path that is loaded has every model along it resolved exactly if it stalls at no level: if at
each level all models have the relation, or one that lacks it has a key. Every model has what it had
or what was answered for it, which is nothing if no row names it, and all models with a key are
resolved in any case. -/
theorem path_resolved_iff {schemas : Schemas} {p : RelationPath} {s s' : ModelSet}
    {db db' : Database π} (h : (loadPaths schemas [p] s).run db = ((.ok (), s'), db')) :
    (Resolved p.segments s'.models ↔ ¬ Stalls schemas p.customizer p.segments s.models db) ∧
    Loads schemas p.customizer p.segments s.models s'.models db db' ∧
    (∀ (name : String) (a : Answer) (m : Model), m.isLoaded name = false →
      (∀ row ∈ a.rows, (row.get? a.relation.ownerColumn).map keyText ≠ some (keyText m.key)) →
      m.held name (some a) = some (a.relation.loaded [])) ∧
    Along (fun name m => m.key.isNull = false → m.isLoaded name = true) p.segments s'.models := by
  obtain ⟨between, mid, hpath, hdone⟩ := loadPaths_cons_ok h
  obtain ⟨hsame, rfl⟩ := Prod.mk.inj hdone
  obtain ⟨-, rfl⟩ := Prod.mk.inj hsame
  obtain ⟨hloads, -⟩ := loadSegments_loads hpath
  refine ⟨hloads.resolved_iff, hloads, ?_, hloads.settled.keyed⟩
  intro name a m hmissing hnone
  exact Model.held_of_unnamed hmissing hnone

/-- A user that is not saved. -/
def unsavedUser : Model := .blank ((townSchemas.get? "users").getD default)

/-- Two users that are saved, and one that is not. -/
def mixedUsers : ModelSet := townUsers.push unsavedUser

/-- Next to saved users the unsaved one is resolved, to no city. -/
theorem mixedUsers_resolved : ∃ (s' : ModelSet) (db' : Database ScriptedPool),
    (loadPaths townSchemas [⟨"city.users", none⟩] mixedUsers).run townDatabase =
      ((.ok (), s'), db') ∧
    s'.relatedKeys "city" = [["7"], ["7"], []] ∧
    Resolved ["city", "users"] s'.models ∧
    ¬ Stalls townSchemas none ["city", "users"] mixedUsers.models townDatabase := by
  have hok : ((loadPaths townSchemas [⟨"city.users", none⟩] mixedUsers).run
      townDatabase).1.1.isOk = true := by decide +kernel
  have hcities : ((loadPaths townSchemas [⟨"city.users", none⟩] mixedUsers).run
      townDatabase).1.2.relatedKeys "city" = [["7"], ["7"], []] := by decide +kernel
  have hresolved : Resolved ["city", "users"] ((loadPaths townSchemas [⟨"city.users", none⟩]
      mixedUsers).run townDatabase).1.2.models := by decide +kernel
  have hsegments : (⟨"city.users", none⟩ : RelationPath).segments = ["city", "users"] := by
    decide +kernel
  cases hrun : (loadPaths townSchemas [⟨"city.users", none⟩] mixedUsers).run townDatabase with
  | mk outcome db' =>
    rw [hrun] at hok hcities hresolved
    obtain ⟨outcome, s'⟩ := outcome
    cases outcome with
    | error f => cases hok
    | ok u =>
      obtain ⟨hiff, -⟩ := path_resolved_iff hrun
      rw [hsegments] at hiff
      exact ⟨s', db', rfl, hcities, hresolved, hiff.mp hresolved⟩

/-- By itself it is left without the relation. -/
theorem unsavedUser_unresolved : ¬ ∀ (schemas : Schemas) (p : RelationPath) (s s' : ModelSet)
    (db db' : Database ScriptedPool), s ≠ [] →
    (loadPaths schemas [p] s).run db = ((.ok (), s'), db') → Resolved p.segments s'.models := by
  intro h
  have hresolved := h townSchemas ⟨"city", none⟩ (.ofList [unsavedUser]) (.ofList [unsavedUser])
    townDatabase townDatabase (by simp [ofList]) rfl
  revert hresolved
  decide +kernel

end ModelSet
end SqlRecords
