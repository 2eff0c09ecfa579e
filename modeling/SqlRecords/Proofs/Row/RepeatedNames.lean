import SqlRecords.Row

/-! Rows in which a name stands for several columns, as in a join. By its name the first of them is
read; a record holds the last, in the place of the first. -/
namespace SqlRecords

namespace Fields
variable {α : Type}

/-- Of several values that are inserted for a name the last one counts. -/
theorem get?_insertAll_reverse (fields more : Fields α) (name : String) :
    (fields.insertAll more).get? name = (get? more.reverse name).or (fields.get? name) := by
  induction more generalizing fields with
  | nil => rfl
  | cons p rest ih =>
    obtain ⟨n, v⟩ := p
    have hstep : insertAll fields ((n, v) :: rest) = insertAll (fields.insert n v) rest := rfl
    have hlast : get? (((n, v) :: rest).reverse) name =
        (get? rest.reverse name).or (if name = n then some v else none) := by
      rw [List.reverse_cons, get?, List.lookup_append]
      exact congrArg _ (get?_cons n name v [])
    rw [hstep, ih, get?_insert, hlast, Option.or_assoc]
    by_cases h : name = n <;> simp [h]

/-- Names that are inserted follow those that are there, in the order in which each first comes. -/
theorem keys_insertAll (fields more : Fields α) :
    (fields.insertAll more).keys = fields.keys ++ (more.keys.removeAll fields.keys).eraseDups := by
  induction more generalizing fields with
  | nil => simp [insertAll, keys, List.removeAll]
  | cons p rest ih =>
    obtain ⟨n, v⟩ := p
    have hstep : insertAll fields ((n, v) :: rest) = insertAll (fields.insert n v) rest := rfl
    have hkeys : keys ((n, v) :: rest) = n :: keys rest := rfl
    rw [hstep, ih, keys_insert, hkeys]
    by_cases h : n ∈ fields.keys
    · simp [h, List.removeAll]
    · have hfilter : (keys rest).removeAll (fields.keys ++ [n]) =
          ((keys rest).removeAll fields.keys).filter fun other => !other == n := by
        rw [List.removeAll, List.removeAll, List.filter_filter]
        refine List.filter_congr fun other _ => ?_
        by_cases hother : other = n <;> simp [hother]
      simp only [h, if_false, hfilter, List.append_assoc, List.singleton_append]
      simp [List.removeAll, h, List.eraseDups_cons]

theorem nodup_keys_insertAll {fields : Fields α} (h : fields.keys.Nodup) (more : Fields α) :
    (fields.insertAll more).keys.Nodup := by
  induction more generalizing fields with
  | nil => exact h
  | cons p rest ih => exact ih (nodup_keys_insert h p.1 p.2)

theorem keys_ofList (pairs : List (String × α)) : (ofList pairs).keys = (keys pairs).eraseDups := by
  have hall : (keys pairs).removeAll [] = keys pairs := by simp [List.removeAll]
  rw [ofList, keys_insertAll]
  exact congrArg List.eraseDups hall

end Fields

namespace Row

/-- A row of values always makes a record. -/
theorem toRecord_ofValues (columns : List (String × Value)) :
    (ofValues columns).toRecord = .ok (.ofList (Fields.mapValues Value.toJson columns)) := by
  have hfold : ∀ acc : Record,
      (ofValues columns).foldlM (fun (acc : Record) p =>
        p.2.map fun v => acc.insert p.1 v.toJson) acc =
      Except.ok (ε := Failure) (acc.insertAll (Fields.mapValues Value.toJson columns)) := by
    induction columns with
    | nil => exact fun acc => rfl
    | cons p rest ih => exact fun acc => ih (acc.insert p.1 p.2.toJson)
  exact hfold []

theorem getByName_ofValues {columns : List (String × Value)} {name : String} {v : Value}
    (h : columns.lookup name = some v) : (ofValues columns).getByName name = .ok v := by
  have hcell : (ofValues columns).lookup name = some (.ok v) := by
    have hmap : ofValues columns = Fields.mapValues Except.ok columns := rfl
    have hget := Fields.get?_mapValues (Except.ok (ε := Failure)) columns name
    rw [hmap]
    exact hget.trans (congrArg _ h)
  rw [getByName, hcell]

/-- What the record of a row holds for a name. -/
theorem get?_record (columns : List (String × Value)) (name : String) :
    Fields.get? (.ofList (Fields.mapValues Value.toJson columns)) name =
      (columns.reverse.lookup name).map Value.toJson := by
  have hreverse : (Fields.mapValues Value.toJson columns).reverse =
      Fields.mapValues Value.toJson columns.reverse := List.map_reverse.symm
  rw [Fields.ofList, Fields.get?_insertAll_reverse, hreverse, Fields.get?_mapValues]
  exact Option.or_none

/-- Whether `v` stands in the first column of a name. -/
def IsFirst (columns : List (String × Value)) (name : String) (v : Value) : Prop :=
  ∃ front back, columns = front ++ (name, v) :: back ∧ name ∉ front.map (·.1)

/-- Whether `v` stands in the last column of a name. -/
def IsLast (columns : List (String × Value)) (name : String) (v : Value) : Prop :=
  ∃ front back, columns = front ++ (name, v) :: back ∧ name ∉ back.map (·.1)

theorem lookup_eq_some_iff {columns : List (String × Value)} {name : String} {v : Value} :
    columns.lookup name = some v ↔ IsFirst columns name v := by
  rw [List.lookup_eq_some_iff, IsFirst]
  refine exists_congr fun front => exists_congr fun back => and_congr_right fun _ => ?_
  simp only [bne_iff_ne, ne_eq, List.mem_map, not_exists, not_and]
  constructor
  · intro h p hp heq
    exact h p hp heq.symm
  · intro h p hp heq
    exact h p hp heq.symm

theorem lookup_reverse_eq_some_iff {columns : List (String × Value)} {name : String} {v : Value} :
    columns.reverse.lookup name = some v ↔ IsLast columns name v := by
  rw [lookup_eq_some_iff]
  constructor
  · rintro ⟨front, back, hcolumns, hfront⟩
    refine ⟨back.reverse, front.reverse, ?_, by simpa using hfront⟩
    rw [← List.reverse_reverse columns, hcolumns]
    simp
  · rintro ⟨front, back, rfl, hback⟩
    exact ⟨back.reverse, front.reverse, by simp, by simpa using hback⟩

/-- A name that stands once has one column. -/
theorem IsFirst.isLast {columns : List (String × Value)} {name : String} {v : Value}
    (h : IsFirst columns name v) (honce : (columns.map (·.1)).count name = 1) :
    IsLast columns name v := by
  obtain ⟨front, back, rfl, hfront⟩ := h
  refine ⟨front, back, rfl, ?_⟩
  rw [List.map_append, List.map_cons, List.count_append, List.count_cons_self] at honce
  exact List.count_eq_zero.mp (by omega)

/-- A row is read by a name in the first of its columns, and the record holds the last one; so the
two agree on every name that stands once, and on others if both columns are the same in JSON. The
record has each name once, in the order in which they first come. -/
theorem record_holds_last_column (columns : List (String × Value)) :
    ∃ record, (ofValues columns).toRecord = .ok record ∧
      record.keys = (columns.map (·.1)).eraseDups ∧
      ∀ name ∈ columns.map (·.1), ∃ first last,
        IsFirst columns name first ∧ (ofValues columns).getByName name = .ok first ∧
        IsLast columns name last ∧ record.get? name = some last.toJson ∧
        (record.get? name = some first.toJson ↔ last.toJson = first.toJson) ∧
        ((columns.map (·.1)).count name = 1 → last = first) := by
  refine ⟨_, toRecord_ofValues columns, ?_, fun name hname => ?_⟩
  · have hnames : Fields.keys (Fields.mapValues Value.toJson columns) = columns.map (·.1) := by
      simp [Fields.keys, Fields.mapValues]
    rw [Fields.keys_ofList, hnames]
  · obtain ⟨p, hp, rfl⟩ := List.mem_map.mp hname
    obtain ⟨first, hfirst⟩ : ∃ v, columns.lookup p.1 = some v :=
      Option.isSome_iff_exists.mp (List.lookup_isSome_iff.mpr ⟨p, hp, beq_self_eq_true p.1⟩)
    obtain ⟨last, hlast⟩ : ∃ v, columns.reverse.lookup p.1 = some v :=
      Option.isSome_iff_exists.mp
        (List.lookup_isSome_iff.mpr ⟨p, List.mem_reverse.mpr hp, beq_self_eq_true p.1⟩)
    have hrecord := get?_record columns p.1
    rw [hlast, Option.map_some] at hrecord
    refine ⟨first, last, lookup_eq_some_iff.mp hfirst, getByName_ofValues hfirst,
      lookup_reverse_eq_some_iff.mp hlast, hrecord, ?_, fun honce => ?_⟩
    · rw [hrecord, Option.some.injEq]
    · have hsame := (lookup_eq_some_iff.mp hfirst).isLast honce
      rw [lookup_reverse_eq_some_iff.mpr hsame] at hlast
      exact (Option.some.inj hlast).symm

/-- A user joined with a city: both tables have a column `id`. -/
def userWithCity : List (String × Value) :=
  [("id", .int64 7), ("name", .text "Ann"), ("id", .int64 3)]

theorem userWithCity_keeps_city_id : "id" ∈ userWithCity.map (·.1) ∧
    (ofValues userWithCity).getByName "id" = .ok (.int64 7) ∧
    ∃ record, (ofValues userWithCity).toRecord = .ok record ∧ record.keys = ["id", "name"] ∧
      record.get? "id" = some (.int 3) := by
  have hname : "id" ∈ userWithCity.map (·.1) := by simp [userWithCity]
  obtain ⟨record, hrecord, hkeys, hread⟩ := record_holds_last_column userWithCity
  obtain ⟨first, last, hfirst, hget, hlast, hheld, -, -⟩ := hread "id" hname
  have huser : userWithCity.lookup "id" = some (.int64 7) := rfl
  have hcity : userWithCity.reverse.lookup "id" = some (.int64 3) := rfl
  rw [lookup_eq_some_iff.mpr hfirst] at huser
  rw [lookup_reverse_eq_some_iff.mpr hlast] at hcity
  cases huser
  cases hcity
  exact ⟨hname, hget, record, hrecord, hkeys.trans (by decide +kernel), hheld⟩

/-- So the two ways of reading a row may differ. -/
theorem record_may_differ_from_column : ¬ ∀ columns name v record,
    (ofValues columns).getByName name = .ok v → (ofValues columns).toRecord = .ok record →
      record.get? name = some v.toJson := by
  intro h
  have hread := h userWithCity "id" (.int64 7) _ rfl (toRecord_ofValues userWithCity)
  rw [get?_record] at hread
  have hkeys := congrArg (fun j => j.map Json.render) hread
  exact absurd hkeys (by decide +kernel)

end Row
end SqlRecords
