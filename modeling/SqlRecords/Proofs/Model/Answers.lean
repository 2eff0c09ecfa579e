import SqlRecords.Proofs.Model.Related
import SqlRecords.Proofs.Session.Steps

/-! What one statement answers for many parents. Every parent is handed the rows that name its key,
in the order of the rows, whichever other parents there are. -/
namespace SqlRecords

/-- Rows that were read for the parents of a relation, with the columns that the query added. -/
structure Answer where
  relation : Relation
  additional : List String
  rows : List Record

namespace Answer

/-- The rows that name a key, as models. -/
def modelsOf (a : Answer) (key : String) : List Model :=
  let named := a.rows.filter fun row => (row.get? a.relation.ownerColumn).map keyText == some key
  named.map fun row =>
    .ofRow a.relation.related (row.erase a.relation.ownerColumn) a.additional

/-- What a parent has under the name of the relation: the first of its models if the relation is
single, else all of them. -/
def loaded (a : Answer) (m : Model) : Loaded :=
  if a.relation.isSingle then .one (a.modelsOf (keyText m.key)).head?
  else .many (ModelSet.ofList (a.modelsOf (keyText m.key)))

end Answer

namespace Relation

/-- A row goes behind the models of the key that it names. -/
theorem groupRow_ok {r : Relation} {additional : List String} {groups groups' : Fields ModelSet}
    {row : Record} (h : r.groupRow additional groups row = .ok groups') :
    row.contains r.ownerColumn = true ∧
      ∀ key, (groups'.get? key).getD [] = (groups.get? key).getD [] ++
        ModelSet.ofList (Answer.modelsOf ⟨r, additional, [row]⟩ key) := by
  unfold groupRow at h
  cases howner : row.get? r.ownerColumn with
  | none =>
    rw [howner] at h
    cases h
  | some owner =>
    rw [howner] at h
    cases Except.ok.inj h
    refine ⟨by rw [Fields.contains, howner]; rfl, fun key => ?_⟩
    rw [Fields.get?_insert]
    by_cases hkey : key = keyText owner
    · subst hkey
      simp [Answer.modelsOf, howner, ModelSet.ofList, ModelSet.push]
    · have hne : ¬ keyText owner = key := fun e => hkey e.symm
      simp [Answer.modelsOf, howner, ModelSet.ofList, hkey, hne]

theorem groupRows_ok {r : Relation} {additional : List String} {rows : List Record}
    {start groups : Fields ModelSet} (h : rows.foldlM (r.groupRow additional) start = .ok groups) :
    (∀ row ∈ rows, row.contains r.ownerColumn = true) ∧
      ∀ key, (groups.get? key).getD [] = (start.get? key).getD [] ++
        ModelSet.ofList (Answer.modelsOf ⟨r, additional, rows⟩ key) := by
  induction rows generalizing start with
  | nil =>
    cases Except.ok.inj h
    exact ⟨fun _ hrow => absurd hrow List.not_mem_nil, fun key => (List.append_nil _).symm⟩
  | cons row rest ih =>
    rw [List.foldlM_cons] at h
    cases hrow : r.groupRow additional start row with
    | error f =>
      rw [hrow] at h
      cases h
    | ok mid =>
      rw [hrow] at h
      obtain ⟨hown, hmid⟩ := groupRow_ok hrow
      obtain ⟨hrest, hgroups⟩ := ih h
      refine ⟨List.forall_mem_cons.mpr ⟨hown, hrest⟩, fun key => ?_⟩
      have hsplit : Answer.modelsOf ⟨r, additional, row :: rest⟩ key =
          Answer.modelsOf ⟨r, additional, [row]⟩ key ++
            Answer.modelsOf ⟨r, additional, rest⟩ key := by
        unfold Answer.modelsOf
        rw [← List.map_append, ← List.filter_append, List.singleton_append]
      rw [hgroups key, hmid key, hsplit, List.append_assoc]
      simp [ModelSet.ofList]

/-- The group of a key holds the rows that name it, in their order. -/
theorem group_ok {r : Relation} {additional : List String} {rows : List Record}
    {groups : Fields ModelSet} (h : r.group additional rows = .ok groups) :
    (∀ row ∈ rows, row.contains r.ownerColumn = true) ∧
      ∀ key, (groups.get? key).getD [] =
        ModelSet.ofList (Answer.modelsOf ⟨r, additional, rows⟩ key) :=
  groupRows_ok h

theorem loaded_group {r : Relation} {additional : List String} {rows : List Record}
    {groups : Fields ModelSet} (h : r.group additional rows = .ok groups) (m : Model) :
    r.loaded ((groups.get? (keyText m.key)).getD []) = Answer.loaded ⟨r, additional, rows⟩ m := by
  rw [(group_ok h).2, loaded, Answer.loaded, ModelSet.models_ofList]

variable {π : Type} [Pool π]

/-- What is asked for parents that wait for a relation: nothing if there are none, else one
statement, and every row of the answer names a parent. -/
inductive Asks (r : Relation) (pending : List Json) (customizer : Option Customizer)
    (db : Database π) : Option Answer → Database π → Prop
  | nothing (hpending : pending = []) : Asks r pending customizer db none db
  | statement {q : Query} {rows : List Record} {mid db' : Database π} (hpending : pending ≠ [])
      (hquery : (r.queryFor pending customizer).Yields db q mid)
      (hrows : q.fetch.Yields mid rows db')
      (howners : ∀ row ∈ rows, row.contains r.ownerColumn = true) :
      Asks r pending customizer db (some ⟨r, q.additional, rows⟩) db'

/-- Nothing is asked for no parents; else what is found is what one query fetches, by its groups. -/
theorem resultsFor_ok {r : Relation} {pending : List Json} {customizer : Option Customizer}
    {db db' : Database π} {groups : Fields ModelSet}
    (h : (r.resultsFor pending customizer).Yields db groups db') :
    (pending = [] ∧ groups = [] ∧ db' = db) ∨ ∃ q rows mid, pending ≠ [] ∧
      (r.queryFor pending customizer).Yields db q mid ∧ q.fetch.Yields mid rows db' ∧
      r.group q.additional rows = .ok groups := by
  unfold resultsFor at h
  cases pending with
  | nil =>
    obtain ⟨hnone, hsame⟩ := Session.yields_pure.mp h
    exact .inl ⟨rfl, hnone.symm, hsame.symm⟩
  | cons key rest =>
    obtain ⟨q, mid, hq, h⟩ := Session.yields_bind.mp h
    obtain ⟨rows, mid', hrows, h⟩ := Session.yields_bind.mp h
    obtain ⟨hgroup, rfl⟩ := Session.yields_ofExcept.mp h
    exact .inr ⟨q, rows, mid, List.cons_ne_nil key rest, hq, hrows, hgroup⟩

theorem resultsFor_asks {r : Relation} {pending : List Json} {customizer : Option Customizer}
    {db db' : Database π} {groups : Fields ModelSet}
    (h : (r.resultsFor pending customizer).Yields db groups db') :
    ∃ answer, r.Asks pending customizer db answer db' ∧ answer.isSome = !pending.isEmpty ∧
      ∀ a ∈ answer, ∀ m : Model, r.loaded ((groups.get? (keyText m.key)).getD []) = a.loaded m := by
  rcases resultsFor_ok h with ⟨rfl, -, rfl⟩ | ⟨q, rows, mid, hpending, hquery, hfetch, hgroup⟩
  · exact ⟨none, .nothing rfl, rfl, fun a ha => nomatch ha⟩
  · refine ⟨some ⟨r, q.additional, rows⟩, ?_, by simp [hpending], ?_⟩
    · exact .statement hpending hquery hfetch (group_ok hgroup).1
    · intro a ha m
      cases Option.some.inj ha
      exact loaded_group hgroup m

end Relation
end SqlRecords
