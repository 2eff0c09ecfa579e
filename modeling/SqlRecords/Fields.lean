/-! Named values in order: a later value for a name takes the place of the earlier one. -/
namespace SqlRecords

/-- Pairs of a name and a value, in order of first insertion. -/
abbrev Fields (α : Type) := List (String × α)

namespace Fields
variable {α : Type}

def get? (fields : Fields α) (name : String) : Option α := List.lookup name fields

def contains (fields : Fields α) (name : String) : Bool := (fields.get? name).isSome

def keys (fields : Fields α) : List String := fields.map (·.1)

/-- Puts `value` where `name` stands, at the end if it is missing. -/
def insert (fields : Fields α) (name : String) (value : α) : Fields α :=
  match fields with
  | [] => [(name, value)]
  | (n, v) :: rest => if n = name then (name, value) :: rest else (n, v) :: insert rest name value

theorem get?_cons (name other : String) (v : α) (fields : Fields α) :
    get? ((name, v) :: fields) other = if other = name then some v else fields.get? other := by
  by_cases h : other = name
  · subst h; simp [get?]
  · have hb : (other == name) = false := by simp [h]
    simp [get?, List.lookup_cons, hb, h]

/-- A name holds what was put there last. -/
@[simp] theorem get?_insert (fields : Fields α) (name other : String) (v : α) :
    (fields.insert name v).get? other = if other = name then some v else fields.get? other := by
  induction fields with
  | nil => exact get?_cons name other v []
  | cons p rest ih =>
    obtain ⟨n, w⟩ := p
    by_cases hn : n = name
    · subst hn
      by_cases h : other = n <;> simp [insert, get?_cons, h]
    · have step : insert ((n, w) :: rest) name v = (n, w) :: insert rest name v := by
        simp [insert, hn]
      rw [step, get?_cons, get?_cons, ih]
      by_cases h : other = name
      · have h' : ¬ other = n := fun e => hn (e.symm.trans h)
        rw [if_neg h', if_pos h, if_pos h]
      · rw [if_neg h, if_neg h]

/-- A new name comes last; a known one keeps its place. -/
theorem keys_insert (fields : Fields α) (name : String) (v : α) :
    (fields.insert name v).keys =
      if name ∈ fields.keys then fields.keys else fields.keys ++ [name] := by
  induction fields with
  | nil => rfl
  | cons p rest ih =>
    obtain ⟨n, w⟩ := p
    by_cases h : n = name
    · simp [insert, keys, h]
    · have h' : ¬ name = n := fun e => h e.symm
      have step : keys (insert ((n, w) :: rest) name v) = n :: keys (insert rest name v) := by
        simp [insert, keys, h]
      rw [step, ih]
      by_cases hm : name ∈ keys rest
      · have hk : name ∈ keys ((n, w) :: rest) := List.mem_cons_of_mem n hm
        rw [if_pos hm, if_pos hk]; rfl
      · have hk : ¬ name ∈ keys ((n, w) :: rest) := by
          intro e
          rcases List.mem_cons.1 e with e | e
          · exact h' e
          · exact hm e
        rw [if_neg hm, if_neg hk]; rfl

theorem insert_of_not_mem {fields : Fields α} {name : String} (h : name ∉ fields.keys) (v : α) :
    fields.insert name v = fields ++ [(name, v)] := by
  induction fields with
  | nil => rfl
  | cons p rest ih =>
    obtain ⟨n, w⟩ := p
    obtain ⟨hname, hrest⟩ := not_or.mp fun hmem => h (List.mem_cons.mpr hmem)
    have hne : ¬ n = name := fun heq => hname heq.symm
    simp only [insert, hne, if_false, ih hrest, List.cons_append]

theorem nodup_keys_insert {fields : Fields α} (h : fields.keys.Nodup) (name : String) (v : α) :
    (fields.insert name v).keys.Nodup := by
  rw [keys_insert]
  by_cases hname : name ∈ fields.keys
  · rwa [if_pos hname]
  · rw [if_neg hname]
    refine List.nodup_append.mpr ⟨h, by simp, fun other hother last hlast => ?_⟩
    rw [List.mem_singleton.mp hlast]
    exact fun heq => hname (heq ▸ hother)

theorem get?_eq_none {fields : Fields α} {name : String} (h : name ∉ fields.keys) :
    fields.get? name = none := by
  induction fields with
  | nil => rfl
  | cons p rest ih =>
    obtain ⟨hname, hrest⟩ := not_or.mp fun hmem => h (List.mem_cons.mpr hmem)
    rw [get?_cons, if_neg hname]
    exact ih hrest

theorem forall_ne_of_not_mem {fields : Fields α} {name : String} (h : name ∉ fields.keys) :
    ∀ p ∈ fields, ¬ (p.1 == name) = true := by
  intro p hp hname
  have hmem : p.1 ∈ fields.keys := List.mem_map_of_mem hp
  exact h (eq_of_beq hname ▸ hmem)

theorem isSome_get?_iff {fields : Fields α} {name : String} :
    (fields.get? name).isSome = true ↔ name ∈ fields.keys := by
  induction fields with
  | nil => simp [get?, keys]
  | cons p rest ih =>
    obtain ⟨n, v⟩ := p
    have hkeys : keys ((n, v) :: rest) = n :: keys rest := rfl
    rw [get?_cons, hkeys, List.mem_cons, ← ih]
    by_cases hname : name = n <;> simp [hname]

theorem get?_of_mem {fields : Fields α} (h : fields.keys.Nodup) {name : String} {v : α}
    (hmem : (name, v) ∈ fields) : fields.get? name = some v := by
  induction fields with
  | nil => cases hmem
  | cons p rest ih =>
    obtain ⟨n, w⟩ := p
    obtain ⟨hn, hrest⟩ := List.nodup_cons.mp h
    rw [get?_cons]
    rcases List.mem_cons.mp hmem with heq | hmem
    · cases heq
      simp
    · have hkey : name ∈ keys rest := List.mem_map_of_mem hmem
      have hne : name ≠ n := fun heq => hn (heq ▸ hkey)
      rw [if_neg hne]
      exact ih hrest hmem

theorem mem_of_get? {fields : Fields α} {name : String} {v : α} (h : fields.get? name = some v) :
    (name, v) ∈ fields := by
  obtain ⟨front, back, rfl, -⟩ := List.lookup_eq_some_iff.mp h
  exact List.mem_append_right front List.mem_cons_self

/-- The same names with other values. -/
def mapValues {β : Type} (f : α → β) (fields : Fields α) : Fields β :=
  fields.map fun (n, v) => (n, f v)

@[simp] theorem get?_mapValues {β : Type} (f : α → β) (fields : Fields α) (name : String) :
    (fields.mapValues f).get? name = (fields.get? name).map f := by
  induction fields with
  | nil => rfl
  | cons p rest ih =>
    obtain ⟨n, v⟩ := p
    have step : mapValues f ((n, v) :: rest) = (n, f v) :: mapValues f rest := rfl
    rw [step, get?_cons, get?_cons, ih]
    by_cases h : name = n <;> simp [h]

/-- Removes `name`. -/
def erase (fields : Fields α) (name : String) : Fields α := fields.filter (·.1 != name)

@[simp] theorem get?_erase (fields : Fields α) (name other : String) :
    (fields.erase name).get? other = if other = name then none else fields.get? other := by
  induction fields with
  | nil => split <;> rfl
  | cons p rest ih =>
    obtain ⟨n, v⟩ := p
    by_cases hn : n = name
    · have hstep : erase ((n, v) :: rest) name = erase rest name := by simp [erase, hn]
      rw [hstep, ih, get?_cons]
      subst hn
      split <;> rfl
    · have hstep : erase ((n, v) :: rest) name = (n, v) :: erase rest name := by simp [erase, hn]
      rw [hstep, get?_cons, get?_cons, ih]
      split
      · next heq => rw [if_neg fun hname => hn (heq.symm.trans hname)]
      · rfl

/-- Inserts all of `more`, in their order. -/
def insertAll (fields more : Fields α) : Fields α :=
  more.foldl (fun acc (n, v) => acc.insert n v) fields

/-- A name holds what is inserted for it, if no name is inserted twice. -/
theorem get?_insertAll (fields : Fields α) {more : Fields α} (h : more.keys.Nodup)
    (name : String) :
    (fields.insertAll more).get? name = (more.get? name).or (fields.get? name) := by
  induction more generalizing fields with
  | nil => rfl
  | cons p rest ih =>
    obtain ⟨n, v⟩ := p
    obtain ⟨hn, hrest⟩ := List.nodup_cons.mp h
    have hstep : insertAll fields ((n, v) :: rest) = insertAll (fields.insert n v) rest := rfl
    rw [hstep, ih _ hrest, get?_insert, get?_cons]
    by_cases hname : name = n
    · subst hname
      simp [get?_eq_none hn]
    · simp [hname]

def ofList (pairs : List (String × α)) : Fields α := insertAll [] pairs

end Fields
end SqlRecords
