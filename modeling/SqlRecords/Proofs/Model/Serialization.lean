import SqlRecords.Json.Access
import SqlRecords.Proofs.Model.Saving

/-! What the JSON of a model shows. A column that was taken over beside the declared ones is shown as
it was in the row, also if it is declared and was set since. -/
namespace SqlRecords

namespace Fields
variable {α : Type}

theorem get?_insertAll_of_not_mem (fields : Fields α) {more : Fields α} {name : String}
    (h : name ∉ more.keys) : (fields.insertAll more).get? name = fields.get? name := by
  have hreverse : name ∉ keys more.reverse := by simpa [keys] using h
  rw [get?_insertAll_reverse, get?_eq_none hreverse, Option.none_or]

/-- Fields that are restricted by their names. -/
theorem get?_filter (fields : Fields α) (p : String → Bool) (name : String) :
    get? (fields.filter fun f => p f.1) name = if p name then fields.get? name else none := by
  induction fields with
  | nil => simp [get?]
  | cons f rest ih =>
    obtain ⟨n, v⟩ := f
    rw [List.filter_cons, get?_cons]
    by_cases hname : name = n
    · subst hname
      cases hp : p name <;> simp [hp, ih, get?_cons]
    · cases hp : p n <;> simp [hname, ih, get?_cons]

/-- Fields listed with the values of a function, in any order and any number of times. -/
theorem get?_ofList {pairs : Fields α} {f : String → Option α} (h : ∀ p ∈ pairs, f p.1 = some p.2)
    (name : String) :
    (ofList pairs).get? name = if name ∈ pairs.keys then f name else none := by
  have hempty : get? ([] : Fields α) name = none := rfl
  have hmem : name ∈ keys pairs.reverse ↔ name ∈ pairs.keys := by simp [keys]
  rw [ofList, get?_insertAll_reverse, hempty, Option.or_none]
  split
  · next hname =>
    obtain ⟨v, hv⟩ := Option.isSome_iff_exists.mp (isSome_get?_iff.mpr (hmem.mpr hname))
    rw [hv]
    exact (h _ (List.mem_reverse.mp (mem_of_get? hv))).symm
  · next hname => exact get?_eq_none fun hreverse => hname (hmem.mp hreverse)

theorem nodup_keys_ofList (pairs : List (String × α)) : (ofList pairs).keys.Nodup := by
  apply nodup_keys_insertAll
  exact List.nodup_nil

end Fields

theorem keys_toJsons (relations : List (String × Loaded)) :
    Fields.keys (Loaded.toJsons relations) = Fields.keys relations := by
  induction relations with
  | nil => rfl
  | cons p rest ih => exact congrArg (p.1 :: ·) ih

namespace Model

/-- What the JSON of a model holds. -/
def jsonFields (m : Model) : Record := Fields.insertAll m.shown (Loaded.toJsons m.relations)

theorem toJson_eq (m : Model) : m.toJson = .object m.jsonFields := by
  cases m
  rfl

theorem nodup_keys_jsonFields (m : Model) : m.jsonFields.keys.Nodup :=
  Fields.nodup_keys_insertAll (Fields.nodup_keys_insertAll (Fields.nodup_keys_ofList _) _) _

/-- A shown name stands for the additional column if there is one, else for the declared one. -/
theorem get?_shown {m : Model} (h : m.additional.keys.Nodup) (name : String) :
    m.shown.get? name = if m.shows name then
      (m.additional.get? name).or (if m.schema.hasColumn name then some (m.column name) else none)
    else none := by
  have hadditional : (Fields.keys (m.additional.filter fun f => m.shows f.1)).Nodup :=
    h.sublist (List.filter_sublist.map _)
  have hpairs : ∀ p ∈ (m.schema.columns.filter m.shows).map fun column =>
      (column, m.column column), some (m.column p.1) = some p.2 := by
    intro p hp
    obtain ⟨column, -, rfl⟩ := List.mem_map.mp hp
    rfl
  have hdeclared := Fields.get?_ofList (f := fun name => some (m.column name)) hpairs name
  rw [shown, Fields.get?_insertAll _ hadditional, Fields.get?_filter, hdeclared]
  simp only [Fields.keys, List.map_map, Function.comp_def, List.map_id', List.mem_filter,
    Schema.hasColumn, List.contains_iff_mem]
  cases m.shows name <;> simp

/-- A relation takes the place of a column of its name; else the column is shown. -/
theorem get?_jsonFields {m : Model} {name : String} (h : m.isLoaded name = false) :
    m.jsonFields.get? name = m.shown.get? name := by
  refine Fields.get?_insertAll_of_not_mem _ ?_
  rw [keys_toJsons]
  intro hmem
  exact Bool.noConfusion (h.symm.trans (Fields.isSome_get?_iff.mpr hmem))

section
variable (m : Model) {name : String}

theorem column_load_of_not_mem {row : Record} (h : name ∉ row.keys) :
    (m.load row).column name = m.column name := by
  have hfilter : name ∉ Fields.keys (row.filter fun f => m.schema.hasColumn f.1) :=
    fun hmem => h ((List.filter_sublist.map _).subset hmem)
  unfold column load
  rw [Fields.get?_insertAll_of_not_mem _ hfilter]

theorem column_set_of_ne {column : String} (h : name ≠ column) (v : Json) :
    (m.set column v).column name = m.column name := by
  unfold set
  split
  · simp [Model.column, h]
  · rfl

theorem column_setAll_of_not_mem {values : Record} (h : name ∉ values.keys) :
    (m.setAll values).column name = m.column name := by
  unfold setAll
  induction values generalizing m with
  | nil => rfl
  | cons p rest ih =>
    obtain ⟨hname, hrest⟩ := not_or.mp fun hmem => h (List.mem_cons.mpr hmem)
    exact (ih _ hrest).trans (m.column_set_of_ne hname p.2)

end

/-- Models as they come about with what is shown of them. Of the row that a model was read from,
`kept` are the columns taken over beside the declared ones; `since` names the columns that were
loaded or set afterwards. -/
inductive Edited : Record → List String → Model → Prop where
  | blank (schema : Schema) : Edited [] [] (.blank schema)
  | ofRow (schema : Schema) (row : Record) (additional : List String) (hrow : row.keys.Nodup) :
    Edited (row.filter fun f => additional.contains f.1) [] (.ofRow schema row additional)
  | load {kept : Record} {since : List String} {m : Model} (row : Record) :
    Edited kept since m → Edited kept (row.keys ++ since) (m.load row)
  | set {kept : Record} {since : List String} {m : Model} (column : String) (v : Json) :
    Edited kept since m → Edited kept (column :: since) (m.set column v)
  | setAll {kept : Record} {since : List String} {m : Model} (values : Record) :
    Edited kept since m → Edited kept (values.keys ++ since) (m.setAll values)
  | save {kept : Record} {since : List String} {π : Type} [Pool π] {m : Model} (db : Database π) :
    Edited kept since m → Edited kept since (Edit.exec saveInPlace m db).1.2
  | showOnly {kept : Record} {since : List String} {m : Model} (columns : List String) :
    Edited kept since m → Edited kept since (m.showOnly columns)
  | showAll {kept : Record} {since : List String} {m : Model} :
    Edited kept since m → Edited kept since m.showAll
  | attach {kept : Record} {since : List String} {m : Model} (name : String) (l : Loaded) :
    Edited kept since m → Edited kept since (m.attach name l)
  | detach {kept : Record} {since : List String} {m : Model} (name : String) :
    Edited kept since m → Edited kept since (m.detach name)

/-- What a model keeps of the row that it was read from. -/
structure Keeping (kept : Record) (since : List String) (m : Model) : Prop where
  setOnce : m.SetOnce
  names : m.additional.keys.Nodup
  additional : ∀ name, m.additional.get? name = kept.get? name
  isNew : ∀ name v, kept.get? name = some v → m.isNew = false
  column : ∀ name v, kept.get? name = some v → name ∉ since → m.schema.hasColumn name = true →
    m.column name = v

/-- The columns that a row gives beside the declared ones. -/
theorem get?_additional_ofRow (schema : Schema) (row : Record) (additional : List String)
    (name : String) : (ofRow schema row additional).additional.get? name =
      if additional.contains name then row.get? name else none := by
  have hpairs : ∀ p ∈ additional.filterMap fun column =>
      (row.get? column).map fun v => (column, v), row.get? p.1 = some p.2 := by
    intro p hp
    obtain ⟨column, -, hcolumn⟩ := List.mem_filterMap.mp hp
    obtain ⟨v, hv, rfl⟩ := Option.map_eq_some_iff.mp hcolumn
    exact hv
  have hkeys : name ∈ Fields.keys (additional.filterMap fun column =>
      (row.get? column).map fun v => (column, v)) ↔
        name ∈ additional ∧ (row.get? name).isSome = true := by
    simp [Fields.keys, Option.isSome_iff_exists]
  refine (Fields.get?_ofList hpairs name).trans ?_
  simp only [hkeys, List.contains_iff_mem]
  cases hv : row.get? name <;> simp

/-- A declared column reads as in the row that it was read from. -/
theorem column_ofRow (schema : Schema) {row : Record} (additional : List String)
    (hrow : row.keys.Nodup) {name : String} (h : schema.hasColumn name = true) :
    (ofRow schema row additional).column name = (row.get? name).getD .null := by
  have hnodup : (Fields.keys (row.filter fun f => schema.hasColumn f.1)).Nodup :=
    hrow.sublist (List.filter_sublist.map _)
  have hstored : (ofRow schema row additional).stored =
      (blank schema).stored.insertAll (row.filter fun f => schema.hasColumn f.1) := rfl
  have hchanged : (ofRow schema row additional).changed = [] := rfl
  have hempty : Fields.get? ([] : Record) name = none := rfl
  rw [Model.column, hstored, hchanged, Fields.get?_insertAll _ hnodup, Fields.get?_filter, h,
    if_pos rfl, hempty, Option.none_or]
  cases row.get? name with
  | none => exact stored_blank schema name
  | some v => rfl

/-- A column that is not declared is not taken out of a row. -/
theorem column_ofRow_of_not_declared {schema : Schema} {name : String}
    (h : schema.hasColumn name = false) (row : Record) (additional : List String) :
    (ofRow schema row additional).column name = .null := by
  have hkeys : name ∉ Fields.keys (row.filter fun f => schema.hasColumn f.1) := by
    intro hmem
    obtain ⟨f, hf, rfl⟩ := List.mem_map.mp hmem
    exact Bool.false_ne_true (h.symm.trans (List.mem_filter.mp hf).2)
  have hstored : (ofRow schema row additional).column name =
      (((blank schema).stored.insertAll
        (row.filter fun f => schema.hasColumn f.1)).get? name).getD .null := rfl
  rw [hstored, Fields.get?_insertAll_of_not_mem _ hkeys]
  exact stored_blank schema name

theorem keeping_blank (schema : Schema) : Keeping [] [] (blank schema) where
  setOnce := List.nodup_nil
  names := List.nodup_nil
  additional _ := rfl
  isNew _ _ h := nomatch h
  column _ _ h := nomatch h

theorem keeping_ofRow (schema : Schema) {row : Record} (additional : List String)
    (hrow : row.keys.Nodup) :
    Keeping (row.filter fun f => additional.contains f.1) [] (.ofRow schema row additional) where
  setOnce := List.nodup_nil
  names := Fields.nodup_keys_ofList _
  additional name := by rw [get?_additional_ofRow, Fields.get?_filter row additional.contains]
  isNew _ _ _ := rfl
  column := by
    intro name v hv _ hdeclared
    rw [Fields.get?_filter row additional.contains] at hv
    obtain ⟨-, hv⟩ := Option.ite_none_right_eq_some.mp hv
    rw [column_ofRow schema additional hrow hdeclared, hv]
    rfl

namespace Keeping
variable {kept : Record} {since : List String} {m : Model}

theorem load (h : Keeping kept since m) (row : Record) :
    Keeping kept (row.keys ++ since) (m.load row) where
  setOnce := h.setOnce
  names := h.names
  additional := h.additional
  isNew _ _ _ := rfl
  column := by
    intro name v hv hsince hdeclared
    obtain ⟨hrow, hsince⟩ := not_or.mp fun hmem => hsince (List.mem_append.mpr hmem)
    exact (m.column_load_of_not_mem hrow).trans (h.column name v hv hsince hdeclared)

theorem setAll (h : Keeping kept since m) (values : Record) :
    Keeping kept (values.keys ++ since) (m.setAll values) := by
  have honce := h.setOnce.setAll values
  have hcolumn (name : String) (hname : name ∉ values.keys) :=
    m.column_setAll_of_not_mem hname
  obtain ⟨changed, hframe⟩ := m.setAll_frame values
  rw [hframe] at honce hcolumn ⊢
  refine ⟨honce, h.names, h.additional, h.isNew, fun name v hv hsince hdeclared => ?_⟩
  obtain ⟨hvalues, hsince⟩ := not_or.mp fun hmem => hsince (List.mem_append.mpr hmem)
  exact (hcolumn name hvalues).trans (h.column name v hv hsince hdeclared)

theorem save {π : Type} [Pool π] (h : Keeping kept since m) (db : Database π) :
    Keeping kept since (Edit.exec saveInPlace m db).1.2 := by
  have honce := h.setOnce.save db
  rcases exec_save_cases h.setOnce db with hsame | ⟨result, hsaved⟩
  · rw [hsame]
    exact h
  · rw [hsaved] at honce ⊢
    have hcolumn := column_saved h.setOnce result
    rw [saved_eq] at honce hcolumn ⊢
    refine ⟨honce, h.names, h.additional, fun _ _ _ => rfl, fun name v hv hsince hdeclared => ?_⟩
    -- Only a new model takes over a key, and a model that was read from a row is not new.
    have hgiven : m.givenKey? result = none := by simp [givenKey?, h.isNew name v hv]
    rw [hcolumn, hgiven, Option.getD_none, ite_self]
    exact h.column name v hv hsince hdeclared

end Keeping

theorem Edited.keeping {kept : Record} {since : List String} {m : Model}
    (h : Edited kept since m) : Keeping kept since m := by
  induction h with
  | blank schema => exact keeping_blank schema
  | ofRow schema row additional hrow => exact keeping_ofRow schema additional hrow
  | load row _ ih => exact ih.load row
  | set column v _ ih => exact ih.setAll [(column, v)]
  | setAll values _ ih => exact ih.setAll values
  | save db _ ih => exact ih.save db
  | showOnly | showAll | attach | detach =>
    next ih => exact ⟨ih.setOnce, ih.names, ih.additional, ih.isNew, ih.column⟩

/-- The JSON of a model shows a declared column as it reads unless the column was also taken over
beside the declared ones: then it is shown as it was in the row, which is how it reads as long as it
is not loaded or set again. -/
theorem json_shows_kept_column {kept : Record} {since : List String} {m : Model}
    (h : Edited kept since m) (column : String) (hdeclared : m.schema.hasColumn column = true)
    (hshown : m.shows column = true) (hloaded : m.isLoaded column = false) :
    m.toJson.fields.get? column = some ((kept.get? column).getD (m.column column)) ∧
    (m.toJson.fields.get? column = some (m.column column) ↔
      ∀ v, kept.get? column = some v → v = m.column column) ∧
    (column ∉ since → m.toJson.fields.get? column = some (m.column column)) := by
  have hkeeping := h.keeping
  have hjson : m.toJson.fields.get? column =
      some ((kept.get? column).getD (m.column column)) := by
    rw [toJson_eq, Json.fields, get?_jsonFields hloaded, get?_shown hkeeping.names,
      hkeeping.additional, hshown, hdeclared]
    cases kept.get? column <;> rfl
  have hiff : m.toJson.fields.get? column = some (m.column column) ↔
      ∀ v, kept.get? column = some v → v = m.column column := by
    rw [hjson]
    cases kept.get? column with
    | none => simp
    | some v => simp
  refine ⟨hjson, hiff, fun hsince => hiff.mpr fun v hv => ?_⟩
  exact (hkeeping.column column v hv hsince hdeclared).symm

def orderSchema : Schema := (Schema.new "main" "orders").declare ["id", "status"]

/-- An order that was read with the state of its delivery beside its own columns. -/
def readOrder : Model :=
  .ofRow orderSchema [("id", .int 1), ("status", .text "new"), ("delivery", .text "open")]
    ["delivery"]

/-- Its new status is shown, and the state of the delivery with it. -/
theorem readOrder_shows_status :
    (readOrder.set "status" (.text "paid")).toJson.fields.get? "status" =
      some (.text "paid") ∧
    (readOrder.set "status" (.text "paid")).toJson.fields.get? "delivery" =
      some (.text "open") := by
  have hedited := (Edited.ofRow orderSchema [("id", .int 1), ("status", .text "new"),
    ("delivery", .text "open")] ["delivery"] (by decide)).set "status" (.text "paid")
  obtain ⟨hstatus, -⟩ := json_shows_kept_column hedited "status" rfl rfl rfl
  exact ⟨hstatus, rfl⟩

/-- A declared column that was also taken over beside the declared ones is shown as it was read. -/
theorem json_may_show_former_value : ¬ ∀ (kept : Record) (since : List String) (m : Model)
    (column : String), Edited kept since m → m.schema.hasColumn column = true →
    m.shows column = true → m.isLoaded column = false →
    m.toJson.fields.get? column = some (m.column column) := by
  intro h
  have hedited := (Edited.ofRow orderSchema [("id", .int 1), ("status", .text "new")] ["status"]
    (by decide)).set "status" (.text "paid")
  have hjson := h _ _ _ "status" hedited rfl rfl rfl
  have hformer : (set (.ofRow orderSchema [("id", .int 1), ("status", .text "new")] ["status"])
      "status" (.text "paid")).toJson.fields.get? "status" = some (.text "new") := rfl
  have htexts : "new" = "paid" := Json.text.inj (Option.some.inj (hformer.symm.trans hjson))
  exact absurd htexts (by decide)

end Model
end SqlRecords
