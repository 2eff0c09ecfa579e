import SqlRecords.Sql

/-! Text around slots. A written text is its fragments with a mark for each slot between them, so
the values in the slots reach the text through the marks alone. -/
namespace SqlRecords.Sql

/-- What is written for each of a list of values, when `n` slots have been numbered before. -/
def marks (d : Dialect) (n : Nat) : List Value → List String
  | [] => []
  | v :: rest =>
    if v.isNull then "NULL" :: marks d n rest else d.placeholder (n + 1) :: marks d (n + 1) rest

/-- The placeholders of `count` values when `n` slots have been numbered before. -/
def placeholders (d : Dialect) (n count : Nat) : List String :=
  (List.range count).map fun i => d.placeholder (n + i + 1)

/-- Fragments with a mark after each but the last. -/
def fill : List String → List String → String
  | f :: fragments, m :: marks => f ++ m ++ fill fragments marks
  | fragments, _ => String.join fragments

/-- The texts between slots, one more than there are slots. -/
def fragments : Sql → List String
  | [] => [""]
  | .text s :: rest => (fragments rest).modifyHead (s ++ ·)
  | .slot _ :: rest => "" :: fragments rest

/-- Values that are not null take the numbers that follow `n`. -/
theorem marks_eq_placeholders (d : Dialect) (n : Nat) (vs : List Value)
    (h : ∀ v ∈ vs, v.isNull = false) :
    marks d n vs = placeholders d n vs.length := by
  induction vs generalizing n with
  | nil => rfl
  | cons v rest ih =>
    have hv : v.isNull = false := h v List.mem_cons_self
    have hrest := ih (n + 1) fun w hw => h w (List.mem_cons_of_mem v hw)
    unfold placeholders at hrest ⊢
    rw [marks, hv, hrest, List.length_cons, List.range_succ_eq_map, List.map_cons, List.map_map]
    have hshift (i : Nat) : n + 1 + i + 1 = n + (i + 1) + 1 := by omega
    simp only [Bool.false_eq_true, if_false, hshift]
    rfl

theorem fill_modifyHead (s : String) (fragments marks : List String) (h : fragments ≠ []) :
    fill (fragments.modifyHead (s ++ ·)) marks = s ++ fill fragments marks := by
  obtain ⟨f, fs, rfl⟩ := List.exists_cons_of_ne_nil h
  cases marks with
  | nil => simp [fill, String.append_assoc]
  | cons m ms => simp [fill, String.append_assoc]

@[simp] theorem fragments_length (sql : Sql) :
    sql.fragments.length = sql.slots.length + 1 := by
  induction sql with
  | nil => rfl
  | cons p rest ih =>
    cases p with
    | text s => exact (List.length_modifyHead ..).trans ih
    | slot v => exact congrArg (· + 1) ih

theorem fragments_ne_nil (sql : Sql) : sql.fragments ≠ [] := by
  intro h
  have hl := fragments_length sql
  rw [h] at hl
  cases hl

/-- The text is its fragments with the marks of the values in the slots between them. -/
theorem renderAfter_eq_fill (d : Dialect) (n : Nat) (sql : Sql) :
    sql.renderAfter d n = fill sql.fragments (marks d n sql.slots) := by
  induction sql generalizing n with
  | nil => rfl
  | cons p rest ih =>
    cases p with
    | text s =>
      have hs : renderAfter d n (.text s :: rest) = s ++ renderAfter d n rest := String.join_cons
      rw [hs, ih n]
      exact (fill_modifyHead s _ _ (fragments_ne_nil rest)).symm
    | slot v =>
      change String.join (chunks d n (.slot v :: rest)) =
        fill ("" :: fragments rest) (marks d n (v :: slots rest))
      rw [chunks, marks]
      cases v.isNull with
      | true =>
        have h := ih n
        unfold renderAfter at h
        simp [fill, String.join_cons, h]
      | false =>
        have h := ih (n + 1)
        unfold renderAfter at h
        simp [fill, String.join_cons, h]

/-- The same pieces with NULL as text, so that all slots left are numbered. -/
def settled : Sql → Sql
  | [] => []
  | .text s :: rest => .text s :: settled rest
  | .slot v :: rest => (if v.isNull then .text "NULL" else .slot v) :: settled rest

theorem slots_settled (sql : Sql) : sql.settled.slots = sql.params := by
  induction sql with
  | nil => rfl
  | cons p rest ih =>
    cases p with
    | text s => exact ih
    | slot v =>
      rw [settled, params_slot_cons]
      cases v.isNull with
      | true => exact ih
      | false => exact congrArg (v :: ·) ih

theorem chunks_settled (d : Dialect) (n : Nat) (sql : Sql) :
    chunks d n sql.settled = chunks d n sql := by
  induction sql generalizing n with
  | nil => rfl
  | cons p rest ih =>
    cases p with
    | text s => exact congrArg (s :: ·) (ih n)
    | slot v =>
      rw [settled, chunks]
      cases hv : v.isNull with
      | true => exact congrArg ("NULL" :: ·) (ih n)
      | false =>
        simp only [Bool.false_eq_true, if_false, chunks, hv]
        exact congrArg (d.placeholder (n + 1) :: ·) (ih (n + 1))

/-- The text is its fragments with consecutive placeholders between them, wherever the numbers
start. -/
theorem renderAfter_eq_fill_placeholders (d : Dialect) (n : Nat) (sql : Sql) :
    sql.renderAfter d n = fill sql.settled.fragments (placeholders d n sql.params.length) := by
  have hmarks : marks d n sql.params = placeholders d n sql.params.length := by
    refine marks_eq_placeholders d n sql.params fun v hv => ?_
    simpa using (List.mem_filter.mp hv).2
  unfold renderAfter
  rw [← chunks_settled, ← hmarks, ← slots_settled]
  exact renderAfter_eq_fill d n sql.settled

/-- The same text around other values. -/
def mapSlots (f : Value → Value) (sql : Sql) : Sql :=
  sql.map fun
    | .text s => .text s
    | .slot v => .slot (f v)

@[simp] theorem mapSlots_append (f : Value → Value) (a b : Sql) :
    mapSlots f (a ++ b) = mapSlots f a ++ mapSlots f b := List.map_append

@[simp] theorem mapSlots_ofText (f : Value → Value) (s : String) :
    mapSlots f (ofText s) = ofText s := rfl

@[simp] theorem mapSlots_bind (f : Value → Value) (v : Value) :
    mapSlots f (bind v) = bind (f v) := rfl

@[simp] theorem mapSlots_bracketed (f : Value → Value) (sql : Sql) :
    mapSlots f (bracketed sql) = bracketed (mapSlots f sql) := by
  simp [bracketed]

@[simp] theorem join_nil (separator : String) : join separator [] = [] := rfl

theorem join_cons_cons (separator : String) (a b : Sql) (rest : List Sql) :
    join separator (a :: b :: rest) = a ++ (ofText separator ++ join separator (b :: rest)) := by
  simp [join]

theorem join_cons (separator : String) (a : Sql) (rest : List Sql) :
    join separator (a :: rest) = a ++ rest.flatMap (ofText separator ++ ·) := by
  induction rest generalizing a with
  | nil => simp [join]
  | cons b rest ih => rw [join_cons_cons, ih b, List.flatMap_cons, List.append_assoc]

theorem join_append (separator : String) (a b : List Sql) (h : a ≠ []) :
    join separator (a ++ b) = join separator a ++ b.flatMap (ofText separator ++ ·) := by
  obtain ⟨first, rest, rfl⟩ := List.exists_cons_of_ne_nil h
  rw [List.cons_append, join_cons, join_cons, List.flatMap_append, List.append_assoc]

theorem renderAfter_append (d : Dialect) (n : Nat) (a b : Sql) :
    (a ++ b : Sql).renderAfter d n =
      a.renderAfter d n ++ b.renderAfter d (n + a.params.length) := by
  simp [renderAfter, chunks_append]

@[simp] theorem renderAfter_ofText (d : Dialect) (n : Nat) (s : String) :
    (ofText s).renderAfter d n = s := by
  simp [renderAfter, ofText, chunks]

@[simp] theorem params_ofText (s : String) : (ofText s).params = [] := rfl

@[simp] theorem params_append (a b : Sql) : (a ++ b : Sql).params = a.params ++ b.params := by
  simp [params]

@[simp] theorem flatMap_params_ofText (texts : List String) :
    (texts.map ofText).flatMap params = [] := by
  simp [List.flatMap_eq_nil_iff]

/-- The texts of parts whose slots are numbered on from one part to the next. -/
def renderEach (d : Dialect) (n : Nat) : List Sql → List String
  | [] => []
  | part :: rest => part.renderAfter d n :: renderEach d (n + part.params.length) rest

/-- A separator takes no number, so the parts are numbered on across it. -/
theorem renderAfter_join (d : Dialect) (n : Nat) (separator : String) (parts : List Sql) :
    (join separator parts).renderAfter d n = separator.intercalate (renderEach d n parts) := by
  induction parts generalizing n with
  | nil => rfl
  | cons part rest ih =>
    cases rest with
    | nil => simp [join, renderEach]
    | cons next rest =>
      rw [join_cons_cons, renderAfter_append, renderAfter_append, renderAfter_ofText,
        params_ofText, List.length_nil, Nat.add_zero, ih]
      simp only [renderEach, String.intercalate_cons_cons, String.append_assoc]

theorem renderEach_append (d : Dialect) (n : Nat) (a b : List Sql) :
    renderEach d n (a ++ b) =
      renderEach d n a ++ renderEach d (n + (a.flatMap params).length) b := by
  induction a generalizing n with
  | nil => rfl
  | cons part rest ih =>
    simp only [List.cons_append, renderEach, ih, List.flatMap_cons, List.length_append,
      Nat.add_assoc]

theorem renderEach_ofText (d : Dialect) (n : Nat) (texts : List String) :
    renderEach d n (texts.map ofText) = texts := by
  induction texts generalizing n with
  | nil => rfl
  | cons t rest ih => simp [renderEach, ih]

/-- Parts without slots are written with the separator between them. -/
theorem renderAfter_join_ofText (d : Dialect) (n : Nat) (separator : String)
    (texts : List String) :
    (join separator (texts.map ofText)).renderAfter d n = separator.intercalate texts := by
  rw [renderAfter_join, renderEach_ofText]

theorem mapSlots_flatMap {α : Type} (f : Value → Value) (g : α → Sql) (xs : List α) :
    mapSlots f (xs.flatMap g) = xs.flatMap fun x => mapSlots f (g x) := List.map_flatMap

@[simp] theorem mapSlots_join (f : Value → Value) (separator : String) (parts : List Sql) :
    mapSlots f (join separator parts) = join separator (parts.map (mapSlots f)) := by
  cases parts with
  | nil => rfl
  | cons a rest =>
    rw [List.map_cons, join_cons, join_cons, mapSlots_append, mapSlots_flatMap, List.flatMap_map]
    simp only [mapSlots_append, mapSlots_ofText]

@[simp] theorem mapSlots_conditional (f : Value → Value) (d : Dialect) (c o e : Sql) :
    mapSlots f (conditional d c o e) =
      conditional d (mapSlots f c) (mapSlots f o) (mapSlots f e) := by
  cases d <;> simp [conditional]

@[simp] theorem slots_mapSlots (f : Value → Value) (sql : Sql) :
    (mapSlots f sql).slots = sql.slots.map f := by
  induction sql with
  | nil => rfl
  | cons p rest ih =>
    cases p with
    | text s => exact ih
    | slot v => exact congrArg (f v :: ·) ih

@[simp] theorem fragments_mapSlots (f : Value → Value) (sql : Sql) :
    (mapSlots f sql).fragments = sql.fragments := by
  induction sql with
  | nil => rfl
  | cons p rest ih =>
    cases p with
    | text s => exact congrArg (List.modifyHead (s ++ ·)) ih
    | slot v => exact congrArg ("" :: ·) ih

@[simp] theorem slots_bracketed (sql : Sql) : (bracketed sql).slots = sql.slots := by
  simp [bracketed]

theorem slots_join (separator : String) (parts : List Sql) :
    (join separator parts).slots = parts.flatMap slots := by
  cases parts with
  | nil => rfl
  | cons a rest =>
    have hrest : slots (rest.flatMap (ofText separator ++ ·)) = rest.flatMap slots := by
      induction rest with
      | nil => rfl
      | cons b rest ih => simp [ih]
    rw [join_cons, slots_append, hrest, List.flatMap_cons]

theorem flatMap_params (parts : List Sql) :
    parts.flatMap params = (parts.flatMap slots).filter (!·.isNull) :=
  List.filter_flatMap.symm

theorem params_join (separator : String) (parts : List Sql) :
    (join separator parts).params = parts.flatMap params := by
  rw [params, slots_join, flatMap_params]

@[simp] theorem slots_conditional (d : Dialect) (c o e : Sql) :
    (conditional d c o e).slots = c.slots ++ o.slots ++ e.slots := by
  cases d <;> simp [conditional]

end SqlRecords.Sql
