import Mathlib.Data.List.Forall2
import SqlRecords.Model.Path

/-! Related models taken off their parents and put back. They are put back by counting, so each
parent gets its own if their number and order stay. -/
namespace SqlRecords

namespace Model

/-- A model without what is loaded for it. -/
def bare (m : Model) : Model := { m with relations := [] }

/-- A relation is bound to the model that it was asked for. -/
theorem bound_of_relation {m : Model} {schemas : Schemas} {name : String} {r : Relation}
    (h : m.relation schemas name = .ok r) : r.parent = m.schema ∧ r.parentKey = m.key := by
  unfold Model.relation at h
  cases hdecl : m.schema.relations.get? name with
  | none =>
    rw [hdecl] at h
    cases h
  | some decl =>
    rw [hdecl] at h
    cases hrelated : schemas.get? decl.related with
    | none =>
      simp [hrelated] at h
    | some related =>
      simp only [hrelated, Option.bind_eq_bind, Option.bind_some, Option.pure_def] at h
      cases h
      exact ⟨rfl, rfl⟩

theorem loaded?_attach (m : Model) (name other : String) (l : Loaded) :
    (m.attach name l).loaded? other = if other = name then some l else m.loaded? other :=
  Fields.get?_insert ..

theorem loaded?_detach_of_ne (m : Model) {name other : String} (h : other ≠ name) :
    (m.detach name).loaded? other = m.loaded? other := by
  unfold loaded? detach
  induction m.relations with
  | nil => rfl
  | cons p rest ih =>
    obtain ⟨n, l⟩ := p
    rw [List.eraseP_cons]
    by_cases hn : n = name
    · subst hn
      have hother : (other == n) = false := by simp [h]
      simp [List.lookup_cons, hother]
    · have hname : (n == name) = false := by simp [hn]
      simp only [hname, cond_false, List.lookup_cons]
      cases other == n with
      | true => rfl
      | false => exact ih

end Model

namespace Loaded

/-- Whether a relation has at most one model. -/
def isOne : Loaded → Bool
  | .one _ => true
  | .many _ => false

/-- One shape with the same records in the same order; what is loaded below them may differ. -/
def SameRecords (l l' : Loaded) : Prop :=
  l'.isOne = l.isOne ∧ l'.models.map Model.bare = l.models.map Model.bare

@[simp] theorem SameRecords.refl (l : Loaded) : l.SameRecords l := ⟨rfl, rfl⟩

/-- A relation takes as many models off the front as it has. -/
theorem refill_append (l : Loaded) (own others : List Model)
    (h : own.map Model.bare = l.models.map Model.bare) :
    ∃ l', l.refill (own ++ others) = (l', others) ∧ l'.models = own ∧ l.SameRecords l' := by
  match l with
  | .one none =>
    have hown : own = [] := List.map_eq_nil_iff.mp h
    subst hown
    exact ⟨.one none, rfl, rfl, .refl _⟩
  | .one (some m) =>
    obtain ⟨m', rest, rfl, hm, hrest⟩ := List.map_eq_cons_iff.mp h
    have hnil : rest = [] := List.map_eq_nil_iff.mp hrest
    subst hnil
    exact ⟨.one (some m'), rfl, rfl, rfl, h⟩
  | .many ms =>
    have hlength : own.length = ms.length := by
      have hl := congrArg List.length h
      simpa [models, ModelSet.models] using hl
    have hmodels : (Loaded.many (ModelSet.ofList own)).models = own := ModelSet.models_ofList own
    refine ⟨.many (ModelSet.ofList own), ?_, hmodels, rfl, ?_⟩
    · simp [refill, ← hlength]
    · rw [hmodels, h]

end Loaded

/-- What loading a relation makes of a model: `l` is then loaded under the name, possibly with more
loaded below it, and all else of the model stays. -/
structure Model.Gains (name : String) (l : Option Loaded) (m m' : Model) : Prop where
  bare : m'.bare = m.bare
  others : ∀ other, other ≠ name → m'.loaded? other = m.loaded? other
  related : Option.Rel Loaded.SameRecords l (m'.loaded? name)

namespace ModelSet

theorem relatedModels_cons (name label : String) (m : Model) (rest : ModelSet) :
    relatedModels ((label, m) :: rest) name =
      (m.loaded? name).elim [] Loaded.models ++ relatedModels rest name := List.flatMap_cons

/-- Models put back are below their parents again, each under its own. -/
theorem refill_spec (name : String) (s : ModelSet) (related : List Model)
    (h : related.map Model.bare = (s.relatedModels name).map Model.bare) :
    (s.refill name related).relatedModels name = related ∧
      List.Forall₂ (fun p p' => p'.1 = p.1 ∧ p.2.Gains name (p.2.loaded? name) p'.2) s
        (s.refill name related) := by
  induction s generalizing related with
  | nil => exact ⟨(List.map_eq_nil_iff.mp h).symm, .nil⟩
  | cons p rest ih =>
    obtain ⟨label, m⟩ := p
    rw [relatedModels_cons, List.map_append] at h
    obtain ⟨own, others, rfl, hown, hothers⟩ := List.map_eq_append_iff.mp h
    obtain ⟨hrest, hgains⟩ := ih others hothers
    cases hl : m.loaded? name with
    | none =>
      rw [hl] at hown
      have hnil : own = [] := List.map_eq_nil_iff.mp hown
      subst hnil
      have hstep : refill name ((label, m) :: rest) ([] ++ others) =
          (label, m) :: refill name rest others := by simp [refill, hl]
      rw [hstep]
      refine ⟨?_, .cons ⟨rfl, rfl, fun _ _ => rfl, ?_⟩ hgains⟩
      · rw [relatedModels_cons, hl, hrest]
        rfl
      · rw [hl]
        exact .none
    | some l =>
      rw [hl] at hown
      obtain ⟨l', hrefill, hmodels, hsame⟩ := l.refill_append own others hown
      have hstep : refill name ((label, m) :: rest) (own ++ others) =
          (label, (m.detach name).attach name l') :: refill name rest others := by
        simp [refill, hl, hrefill]
      have hname : ((m.detach name).attach name l').loaded? name = some l' := by
        rw [Model.loaded?_attach, if_pos rfl]
      rw [hstep]
      refine ⟨?_, .cons ⟨rfl, rfl, ?_, ?_⟩ hgains⟩
      · rw [relatedModels_cons, hname, hrest, Option.elim_some, hmodels]
      · intro other hother
        rw [Model.loaded?_attach, if_neg hother, m.loaded?_detach_of_ne hother]
      · rw [hl, hname]
        exact .some hsame

end ModelSet
end SqlRecords
