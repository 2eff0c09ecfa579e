import Mathlib.Data.List.Nodup
import SqlRecords.Query.Projection

/-! The names recorded for the columns that were added to a projection. They are the names of the
added columns that are still projected as long as every change admits it; a change that does not
makes them differ. -/
namespace SqlRecords

/-- A change to the columns of a query. -/
inductive ProjectionStep where
  | project (columns : List String)
  | add (column : String)
  | remove (columns : List String)
  | keep (columns : List String)

namespace ProjectionStep

/-- The columns that a change names. -/
def named : ProjectionStep → List String
  | .project columns | .remove columns | .keep columns => columns
  | .add column => [column]

def isProject : ProjectionStep → Bool
  | .project _ => true
  | _ => false

def isAdd : ProjectionStep → Bool
  | .add _ => true
  | _ => false

end ProjectionStep

/-- A query, and of each of its columns whether it was added. -/
structure Projection where
  query : Query
  columns : List (String × Bool)
  columns_eq : columns.map (·.1) = query.columns

namespace Projection

/-- The projection of a new query. -/
def new (d : Dialect) (source : Option String) : Projection := ⟨.empty d source, [], rfl⟩

theorem columns_ne_nil_iff (p : Projection) : p.columns.isEmpty = p.query.columns.isEmpty := by
  rw [← p.columns_eq, List.isEmpty_map]

theorem map_filter_columns (p : Projection) (f : String → Bool) :
    (p.columns.filter (f ·.1)).map (·.1) = p.query.columns.filter f := by
  rw [← p.columns_eq, List.filter_map]
  rfl

/-- The marks follow the columns by their position. -/
def step (p : Projection) : ProjectionStep → Projection
  | .project columns => ⟨p.query.project columns, columns.map (·, false), by
      simp [Query.project, Function.comp_def]⟩
  | .add column =>
    ⟨p.query.addColumn column,
      (if p.columns.isEmpty then [("*", false)] else p.columns) ++ [(column, true)], by
      rw [p.columns_ne_nil_iff, Query.addColumn]
      cases p.query.columns.isEmpty <;> simp [p.columns_eq]⟩
  | .remove columns =>
    ⟨p.query.removeColumns columns, p.columns.filter (!columns.contains ·.1),
      p.map_filter_columns (!columns.contains ·)⟩
  | .keep columns =>
    ⟨p.query.keepColumns columns, p.columns.filter (columns.contains ·.1),
      p.map_filter_columns columns.contains⟩

def run (p : Projection) (steps : List ProjectionStep) : Projection := steps.foldl step p

/-- Whether a column that was added is still projected. -/
def Adds (p : Projection) (column : String) : Prop := (column, true) ∈ p.columns

/-- Whether the recorded names are those of the added columns that are still projected. -/
def Tracks (p : Projection) : Prop :=
  ∀ key, key ∈ p.query.additional ↔ ∃ column, p.Adds column ∧ resultKey column = key

theorem adds_project (p : Projection) (columns : List String) (column : String) :
    ¬ (p.step (.project columns)).Adds column := by
  simp [Adds, step]

theorem adds_add (p : Projection) (added column : String) :
    (p.step (.add added)).Adds column ↔ p.Adds column ∨ column = added := by
  have hcolumns : (p.step (.add added)).columns =
      (if p.columns.isEmpty then [("*", false)] else p.columns) ++ [(added, true)] := rfl
  unfold Adds
  rw [hcolumns]
  cases p.columns with
  | nil => simp
  | cons first rest => simp [or_assoc]

theorem adds_remove (p : Projection) (columns : List String) (column : String) :
    (p.step (.remove columns)).Adds column ↔ p.Adds column ∧ column ∉ columns := by
  simp [Adds, step]

theorem adds_keep (p : Projection) (columns : List String) (column : String) :
    (p.step (.keep columns)).Adds column ↔ p.Adds column ∧ column ∈ columns := by
  simp [Adds, step]

/-- An added column is one of the columns of the query. -/
theorem Adds.mem {p : Projection} {column : String} (h : p.Adds column) :
    column ∈ p.query.columns := by
  rw [← p.columns_eq]
  exact List.mem_map_of_mem h

theorem mem_additional_add (p : Projection) (added key : String) :
    key ∈ (p.step (.add added)).query.additional ↔
      key ∈ p.query.additional ∨ key = resultKey added := by
  simp only [step, Query.addColumn, List.contains_eq_mem, decide_eq_true_eq]
  split
  · next hmem => exact ⟨.inl, Or.rec id fun heq => heq ▸ hmem⟩
  · simp

theorem mem_additional_remove (p : Projection) (columns : List String) (key : String) :
    key ∈ (p.step (.remove columns)).query.additional ↔
      key ∈ p.query.additional ∧ ∀ column ∈ columns, resultKey column ≠ key := by
  simp [step, Query.removeColumns]

theorem mem_additional_keep (p : Projection) (columns : List String) (key : String) :
    key ∈ (p.step (.keep columns)).query.additional ↔ key ∈ p.query.additional ∧
      ∃ column ∈ p.query.columns, column ∈ columns ∧ resultKey column = key := by
  simp [step, Query.keepColumns, and_assoc]

/-- No name is recorded twice. -/
theorem nodup_step {p : Projection} (h : p.query.additional.Nodup) (s : ProjectionStep) :
    (p.step s).query.additional.Nodup := by
  cases s with
  | project columns => exact h
  | add column =>
    simp only [step, Query.addColumn, List.contains_eq_mem, decide_eq_true_eq]
    split
    · exact h
    · next hmem => exact List.concat_eq_append ▸ h.concat hmem
  | remove columns => exact h.filter _
  | keep columns => exact h.filter _

theorem nodup_run {p : Projection} (h : p.query.additional.Nodup) (steps : List ProjectionStep) :
    (p.run steps).query.additional.Nodup := by
  induction steps generalizing p with
  | nil => exact h
  | cons s steps ih => exact ih (nodup_step h s)

/-- Whether a change leaves the recorded names right. Another projection does if there is no added
column; columns are dropped if no added column that stays has the name of one of them; and of the
columns that are kept each has the name of an added one that is kept, if an added one had it. -/
def Admits (p : Projection) : ProjectionStep → Prop
  | .project _ => ∀ column, ¬ p.Adds column
  | .add _ => True
  | .remove columns => ∀ column, p.Adds column → column ∉ columns →
      ∀ other ∈ columns, resultKey other ≠ resultKey column
  | .keep columns => ∀ column, p.Adds column →
      ∀ other ∈ p.query.columns, other ∈ columns → resultKey other = resultKey column →
        ∃ stays, p.Adds stays ∧ stays ∈ columns ∧ resultKey stays = resultKey column

/-- A change keeps the recorded names right exactly if it is admitted. -/
theorem tracks_step_iff {p : Projection} (h : p.Tracks) (s : ProjectionStep) :
    (p.step s).Tracks ↔ p.Admits s := by
  unfold Tracks at h ⊢
  cases s with
  | project columns =>
    have hsame : (p.step (.project columns)).query.additional = p.query.additional := rfl
    simp only [hsame, h, adds_project, false_and, exists_false, iff_false]
    constructor
    · intro hnone column hadds
      exact hnone (resultKey column) ⟨column, hadds, rfl⟩
    · rintro hnone key ⟨column, hadds, -⟩
      exact hnone column hadds
  | add added =>
    simp only [Admits, iff_true]
    intro key
    rw [mem_additional_add, h]
    constructor
    · rintro (⟨column, hadds, hkey⟩ | rfl)
      · exact ⟨column, (p.adds_add added column).mpr (.inl hadds), hkey⟩
      · exact ⟨added, (p.adds_add added added).mpr (.inr rfl), rfl⟩
    · rintro ⟨column, hadds, rfl⟩
      rcases (p.adds_add added column).mp hadds with hadds | rfl
      · exact .inl ⟨column, hadds, rfl⟩
      · exact .inr rfl
  | remove columns =>
    constructor
    · intro hright column hadds hstays other hother hkey
      have hmem := (hright (resultKey column)).mpr
        ⟨column, (p.adds_remove columns column).mpr ⟨hadds, hstays⟩, rfl⟩
      exact ((p.mem_additional_remove columns _).mp hmem).2 other hother hkey
    · intro hadmits key
      rw [mem_additional_remove, h]
      constructor
      · rintro ⟨⟨column, hadds, rfl⟩, hother⟩
        have hstays : column ∉ columns := fun hmem => hother column hmem rfl
        exact ⟨column, (p.adds_remove columns column).mpr ⟨hadds, hstays⟩, rfl⟩
      · rintro ⟨column, hadds, rfl⟩
        obtain ⟨hadds, hstays⟩ := (p.adds_remove columns column).mp hadds
        exact ⟨⟨column, hadds, rfl⟩, hadmits column hadds hstays⟩
  | keep columns =>
    constructor
    · intro hright column hadds other hother hkept hkey
      have hmem : resultKey column ∈ (p.step (.keep columns)).query.additional := by
        rw [mem_additional_keep, h]
        exact ⟨⟨column, hadds, rfl⟩, other, hother, hkept, hkey⟩
      obtain ⟨stays, hstays, hname⟩ := (hright _).mp hmem
      obtain ⟨hadds, hkept⟩ := (p.adds_keep columns stays).mp hstays
      exact ⟨stays, hadds, hkept, hname⟩
    · intro hadmits key
      rw [mem_additional_keep, h]
      constructor
      · rintro ⟨⟨column, hadds, rfl⟩, other, hother, hkept, hkey⟩
        obtain ⟨stays, hstays, hkept, hname⟩ := hadmits column hadds other hother hkept hkey
        exact ⟨stays, (p.adds_keep columns stays).mpr ⟨hstays, hkept⟩, hname⟩
      · rintro ⟨column, hadds, rfl⟩
        obtain ⟨hadds, hkept⟩ := (p.adds_keep columns column).mp hadds
        exact ⟨⟨column, hadds, rfl⟩, column, hadds.mem, hkept, rfl⟩

/-- Whether each of several changes is admitted by what the ones before it leave. -/
def AdmitsAll (p : Projection) : List ProjectionStep → Prop
  | [] => True
  | s :: steps => p.Admits s ∧ (p.step s).AdmitsAll steps

/-- The recorded names are right after all first changes exactly if all changes are admitted. -/
theorem tracks_throughout_iff {p : Projection} (h : p.Tracks) (steps : List ProjectionStep) :
    (∀ front, front <+: steps → (p.run front).Tracks) ↔ p.AdmitsAll steps := by
  induction steps generalizing p with
  | nil =>
    simp only [List.prefix_nil, AdmitsAll, iff_true]
    rintro front rfl
    exact h
  | cons s steps ih =>
    constructor
    · intro hright
      have hfirst : (p.step s).Tracks := hright [s] (by simp)
      refine ⟨(tracks_step_iff h s).mp hfirst, (ih hfirst).mp fun front hfront => ?_⟩
      exact hright (s :: front) ((List.prefix_cons_inj s).mpr hfront)
    · rintro ⟨hadmits, hrest⟩ front hfront
      rcases List.prefix_cons_iff.mp hfront with rfl | ⟨later, rfl, hlater⟩
      · exact h
      · exact (ih ((tracks_step_iff h s).mpr hadmits)).mpr hrest later hlater

/-- Where columns of one name are one column, and no other projection comes after an added column,
every change is admitted. -/
theorem admitsAll_of_distinct {p : Projection} {names : List String} {steps : List ProjectionStep}
    (hdistinct : ∀ c ∈ names, ∀ c' ∈ names, resultKey c = resultKey c' → c = c')
    (hadded : ∀ column, p.Adds column → column ∈ names)
    (hnamed : ∀ s ∈ steps, ∀ column ∈ s.named, column ∈ names)
    (hlast : (∃ column, p.Adds column) → ∀ s ∈ steps, s.isProject = false)
    (hpairs : steps.Pairwise fun s later => s.isAdd = true → later.isProject = false) :
    p.AdmitsAll steps := by
  induction steps generalizing p with
  | nil => trivial
  | cons s steps ih =>
    obtain ⟨hs, hsteps⟩ := List.forall_mem_cons.mp hnamed
    obtain ⟨hlater, hordered⟩ := List.pairwise_cons.mp hpairs
    have hrest (hex : ∃ column, p.Adds column) : ∀ s ∈ steps, s.isProject = false :=
      (List.forall_mem_cons.mp (hlast hex)).2
    cases s with
    | project columns =>
      have hnone (column : String) : ¬ p.Adds column := by
        intro hadds
        exact Bool.noConfusion (hlast ⟨column, hadds⟩ _ List.mem_cons_self)
      have hnone' := p.adds_project columns
      exact ⟨hnone, ih (fun column hadds => absurd hadds (hnone' column)) hsteps
        (fun ⟨column, hadds⟩ => absurd hadds (hnone' column)) hordered⟩
    | add added =>
      refine ⟨trivial, ih ?_ hsteps (fun _ later hmem => hlater later hmem rfl) hordered⟩
      intro column hadds
      rcases (p.adds_add added column).mp hadds with hadds | rfl
      · exact hadded column hadds
      · exact hs column List.mem_cons_self
    | remove columns =>
      have hadds (column : String) (h : (p.step (.remove columns)).Adds column) : p.Adds column :=
        ((p.adds_remove columns column).mp h).1
      refine ⟨?_, ih (fun column h => hadded column (hadds column h)) hsteps
        (fun ⟨column, h⟩ => hrest ⟨column, hadds column h⟩) hordered⟩
      intro column hcolumn hstays other hother hkey
      exact hstays (hdistinct other (hs other hother) column (hadded column hcolumn) hkey ▸ hother)
    | keep columns =>
      have hadds (column : String) (h : (p.step (.keep columns)).Adds column) : p.Adds column :=
        ((p.adds_keep columns column).mp h).1
      refine ⟨?_, ih (fun column h => hadded column (hadds column h)) hsteps
        (fun ⟨column, h⟩ => hrest ⟨column, hadds column h⟩) hordered⟩
      intro column hcolumn other _ hkept hkey
      obtain rfl := hdistinct other (hs other hkept) column (hadded column hcolumn) hkey
      exact ⟨other, hcolumn, hkept, rfl⟩

theorem tracks_new (d : Dialect) (source : Option String) : (new d source).Tracks := by
  intro key
  simp [new, Query.empty, Adds]

/-- The names recorded for added columns never repeat. They are right after every one of several
changes exactly if all of these are admitted, as they are where columns of one name are one column
and no other projection comes after an added column. -/
theorem added_names_track_iff (d : Dialect) (source : Option String)
    (steps : List ProjectionStep) :
    ((new d source).run steps).query.additional.Nodup ∧
    ((∀ front, front <+: steps → ((new d source).run front).Tracks) ↔
      (new d source).AdmitsAll steps) ∧
    ((∀ c ∈ steps.flatMap (·.named), ∀ c' ∈ steps.flatMap (·.named),
        resultKey c = resultKey c' → c = c') →
      (steps.Pairwise fun s later => s.isAdd = true → later.isProject = false) →
      ((new d source).run steps).Tracks) := by
  have hiff := tracks_throughout_iff (tracks_new d source) steps
  refine ⟨nodup_run List.nodup_nil steps, hiff, fun hdistinct hpairs => ?_⟩
  have hnone (column : String) : ¬ (new d source).Adds column := List.not_mem_nil
  have hnamed (s : ProjectionStep) (hs : s ∈ steps) (column : String) (hcolumn : column ∈ s.named) :
      column ∈ steps.flatMap (·.named) := List.mem_flatMap.mpr ⟨s, hs, hcolumn⟩
  have hadmits := admitsAll_of_distinct hdistinct (fun column h => absurd h (hnone column)) hnamed
    (fun ⟨column, h⟩ => absurd h (hnone column)) hpairs
  exact hiff.mpr hadmits steps List.prefix_rfl

/-- Of two columns that were added one is dropped. -/
def friendColumns : List ProjectionStep :=
  [.project ["id", "name"], .add "friends.accepted", .add "u.id AS user_id",
    .remove ["friends.accepted"]]

/-- Of the added columns the one that stays is recorded. -/
theorem friendColumns_track : ((new .mysql none).run friendColumns).Tracks ∧
    ((new .mysql none).run friendColumns).query.additional = ["user_id"] := by
  refine ⟨(added_names_track_iff .mysql none friendColumns).2.2 ?_ ?_, ?_⟩
  all_goals decide +kernel

/-- A column that stays loses its name with another one that is dropped, be it projected or not. -/
theorem added_name_may_be_lost : ¬ ∀ (d : Dialect) (source : Option String)
    (steps : List ProjectionStep), ((new d source).run steps).Tracks := by
  intro h
  have hnone : "accepted" ∉ ((new .mysql none).run
      [.add "links.accepted", .remove ["friends.accepted"]]).query.additional := by
    decide +kernel
  have hadds : ((new .mysql none).run
      [.add "links.accepted", .remove ["friends.accepted"]]).Adds "links.accepted" :=
    List.mem_cons_of_mem _ List.mem_cons_self
  have hkey : resultKey "links.accepted" = "accepted" := by decide +kernel
  exact hnone ((h .mysql none _ "accepted").mpr ⟨"links.accepted", hadds, hkey⟩)

end Projection
end SqlRecords
