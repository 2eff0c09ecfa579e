import SqlRecords.Proofs.Model.EagerLoading
import SqlRecords.Proofs.Model.Serialization

/-! Rows read as models and given back as JSON. Of a row the declared and the additional columns come
back as they are; the column in which a related row names its parent is gone. -/
namespace SqlRecords

/-- What a mapping that succeeds gives has what each success has. -/
theorem forall_of_mapM_ok {α β : Type} {f : α → Except Failure β} {P : β → Prop}
    (hf : ∀ a b, f a = .ok b → P b) {as : List α} {bs : List β} (h : as.mapM f = .ok bs) :
    ∀ b ∈ bs, P b := by
  induction as generalizing bs with
  | nil =>
    cases h
    exact fun b hb => absurd hb List.not_mem_nil
  | cons a rest ih =>
    rw [List.mapM_cons] at h
    obtain ⟨b, hb, h⟩ := bind_eq_ok.mp h
    obtain ⟨later, hlater, h⟩ := bind_eq_ok.mp h
    cases h
    exact List.forall_mem_cons.mpr ⟨hf a b hb, ih hlater⟩

/-- A record has each name once, however often the row has it. -/
theorem Row.nodup_toRecord {row : Row} {r : Record} (h : row.toRecord = .ok r) :
    r.keys.Nodup := by
  have hfold : ∀ acc : Record, acc.keys.Nodup →
      row.foldlM (fun (acc : Record) p => p.2.map fun v => acc.insert p.1 v.toJson) acc = .ok r →
      r.keys.Nodup := by
    clear h
    intro acc hacc h
    induction row generalizing acc with
    | nil =>
      cases h
      exact hacc
    | cons p rest ih =>
      rw [List.foldlM_cons] at h
      obtain ⟨mid, hmid, h⟩ := bind_eq_ok.mp h
      obtain ⟨v, -, rfl⟩ := map_eq_ok.mp hmid
      exact ih _ (Fields.nodup_keys_insert hacc p.1 v.toJson) h
  exact hfold [] List.nodup_nil h

theorem Query.nodup_of_fetch {π : Type} [Pool π] {q : Query} {rows : List Record}
    {db db' : Database π} (h : q.fetch.Yields db rows db') : ∀ row ∈ rows, row.keys.Nodup := by
  unfold fetch rowsOf at h
  obtain ⟨s, mid, -, h⟩ := Session.yields_bind.mp h
  obtain ⟨i, mid, -, h⟩ := Session.yields_bind.mp h
  obtain ⟨result, mid, -, h⟩ := Session.yields_bind.mp h
  obtain ⟨cells, mid, -, h⟩ := Session.yields_bind.mp h
  obtain ⟨hrows, -⟩ := Session.yields_ofExcept.mp h
  exact forall_of_mapM_ok (fun _ _ hrow => Row.nodup_toRecord hrow) hrows

namespace Model

/-- What a model shows that was just read from a row: the declared and the additional columns of the
row, as they are there, and nothing else. -/
structure GivesBack (schema : Schema) (row : Record) (additional : List String) (m : Model) :
    Prop where
  json : ∃ fields : Record, m.toJson = .object fields ∧ fields.keys.Nodup ∧ ∀ name, fields.get? name =
    if schema.hasColumn name = true ∨ name ∈ additional then row.get? name else none
  isNew : m.isNew = false
  isDirty : m.isDirty = false

theorem givesBack_ofRow (schema : Schema) {row : Record} (additional : List String)
    (h : row.keys.Nodup) : (ofRow schema row additional).GivesBack schema row additional := by
  refine ⟨⟨_, toJson_eq _, nodup_keys_jsonFields _, fun name => ?_⟩, rfl, rfl⟩
  have hschema : (ofRow schema row additional).schema = schema := rfl
  have hshows : (ofRow schema row additional).shows name = row.keys.contains name := rfl
  rw [get?_jsonFields rfl, get?_shown (Fields.nodup_keys_ofList _), get?_additional_ofRow, hschema,
    hshows]
  cases hv : row.get? name with
  | none =>
    have hmissing : name ∉ row.keys := by
      rw [← Fields.isSome_get?_iff, hv]
      exact Bool.false_ne_true
    simp [hmissing]
  | some v =>
    have hmem : name ∈ row.keys := by
      rw [← Fields.isSome_get?_iff, hv]
      rfl
    by_cases hdeclared : schema.hasColumn name = true
    · have hcolumn := column_ofRow schema additional h hdeclared
      rw [hv, Option.getD_some] at hcolumn
      by_cases hadditional : name ∈ additional <;> simp [hmem, hdeclared, hcolumn, hadditional]
    · by_cases hadditional : name ∈ additional <;> simp [hmem, hdeclared, hadditional]

/-- Whether a model has nothing of a column, neither among its own nor beside them nor as JSON. -/
structure Hides (name : String) (m : Model) : Prop where
  column : m.column name = .null
  additional : m.additional.get? name = none
  json : m.toJson.fields.get? name = none

/-- A column that is taken out of a row does not reach the model. -/
theorem hides_ofRow (schema : Schema) {row : Record} (additional : List String)
    (h : row.keys.Nodup) (name : String) :
    (ofRow schema (row.erase name) additional).Hides name := by
  have hrow : (row.erase name).keys.Nodup := h.sublist (List.filter_sublist.map _)
  have hmissing : (row.erase name).get? name = none := by simp
  refine ⟨?_, ?_, ?_⟩
  · by_cases hdeclared : schema.hasColumn name = true
    · rw [column_ofRow schema additional hrow hdeclared, hmissing]
      rfl
    · exact column_ofRow_of_not_declared (Bool.not_eq_true _ ▸ hdeclared) _ additional
  · rw [get?_additional_ofRow, hmissing, ite_self]
  · obtain ⟨fields, hjson, -, hfields⟩ := (givesBack_ofRow schema additional hrow).json
    rw [hjson, Json.fields, hfields, hmissing, ite_self]

end Model

variable {π : Type} [Pool π]

namespace Relation

/-- A related model comes from a row of the answer, without the column that names its parent. -/
theorem mem_group {r : Relation} {additional : List String} {rows : List Record}
    {groups : Fields ModelSet} (h : r.group additional rows = .ok groups) {key : String}
    {s : ModelSet} (hs : groups.get? key = some s) {m : Model} (hm : m ∈ s.models) :
    ∃ row ∈ rows, row.contains r.ownerColumn = true ∧
      m = .ofRow r.related (row.erase r.ownerColumn) additional := by
  obtain ⟨howners, hgroups⟩ := group_ok h
  have hset := hgroups key
  rw [hs, Option.getD_some] at hset
  rw [hset, ModelSet.models_ofList] at hm
  obtain ⟨row, hrow, rfl⟩ := List.mem_map.mp hm
  have hmem := (List.mem_filter.mp hrow).1
  exact ⟨row, hmem, howners row hmem, rfl⟩

end Relation

/-- A row that is read as a model is given back: the JSON has the declared and the additional columns
of the row with their values, and no others, and the model is stored and has nothing to save. For
related models the row is the one that was fetched, without the column that names the parent. -/
theorem Model.row_is_given_back :
    (∀ (schema : Schema) (row : Record) (additional : List String), row.keys.Nodup →
      (ofRow schema row additional).GivesBack schema row additional) ∧
    ∀ (r : Relation) (parentKeys : List Json) (customizer : Option Customizer)
      (db db' : Database π) (groups : Fields ModelSet),
      (r.resultsFor parentKeys customizer).Yields db groups db' →
      ∀ key s, groups.get? key = some s → ∀ m ∈ s.models, m.Hides r.ownerColumn ∧
        ∃ q rows mid, (r.queryFor parentKeys customizer).Yields db q mid ∧
          q.fetch.Yields mid rows db' ∧
          ∃ row ∈ rows, row.contains r.ownerColumn = true ∧
            m.GivesBack r.related (row.erase r.ownerColumn) q.additional := by
  refine ⟨fun schema row additional h => givesBack_ofRow schema additional h, ?_⟩
  intro r parentKeys customizer db db' groups h key s hs m hm
  rcases Relation.resultsFor_ok h with ⟨-, rfl, -⟩ | ⟨q, rows, mid, -, hquery, hfetch, hgroup⟩
  · cases hs
  · obtain ⟨row, hrow, howner, rfl⟩ := Relation.mem_group hgroup hs hm
    have hnodup := Query.nodup_of_fetch hfetch row hrow
    have herased : (row.erase r.ownerColumn).keys.Nodup :=
      hnodup.sublist (List.filter_sublist.map _)
    exact ⟨hides_ofRow r.related q.additional hnodup r.ownerColumn, q, rows, mid, hquery, hfetch,
      row, hrow, howner, givesBack_ofRow r.related q.additional herased⟩

namespace ModelSet

/-- The city that users live in. -/
def townCity : Relation where
  parent := (townSchemas.get? "users").getD default
  related := (townSchemas.get? "cities").getD default
  kind := .belongsTo "city_id"
  parentKey := .int 1

/-- A row with a column too many, and the city of two users, which does not tell whose it is. -/
theorem townCity_is_given_back :
    (Model.ofRow townCity.related [("id", .int 7), ("mayor", .text "Ann"), ("area", .int 480)]
      ["mayor"]).GivesBack townCity.related
        [("id", .int 7), ("mayor", .text "Ann"), ("area", .int 480)] ["mayor"] ∧
    ∃ (groups : Fields ModelSet) (s : ModelSet) (m : Model) (db' : Database ScriptedPool),
      (townCity.resultsFor [.int 1, .int 2] none).Yields townDatabase groups db' ∧
      groups.get? "1" = some s ∧ m ∈ s.models ∧ m.Hides "__table_users__key" := by
  obtain ⟨hrow, hrelated⟩ := Model.row_is_given_back (π := ScriptedPool)
  refine ⟨hrow _ _ _ (by decide), ?_⟩
  have hfound : (((townCity.resultsFor [.int 1, .int 2] none).run.run townDatabase).1.toOption.bind
      fun groups => (groups.get? "1").bind fun s => s.models.head?).isSome = true := by
    decide +kernel
  cases hrun : (townCity.resultsFor [.int 1, .int 2] none).run.run townDatabase with
  | mk outcome db' =>
  rw [hrun] at hfound
  cases outcome with
  | error f => cases hfound
  | ok groups =>
    have hfirst : ((groups.get? "1").bind fun s => s.models.head?).isSome = true := hfound
    obtain ⟨m, hm⟩ := Option.isSome_iff_exists.mp hfirst
    obtain ⟨s, hs, hm⟩ := Option.bind_eq_some_iff.mp hm
    have hmem : m ∈ s.models := List.mem_of_mem_head? hm
    exact ⟨groups, s, m, db', hrun, hs, hmem, (hrelated _ _ _ _ _ _ hrun "1" s hs m hmem).1⟩

end ModelSet
end SqlRecords
